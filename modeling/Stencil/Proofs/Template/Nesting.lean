import Mathlib.Data.List.Forall2
import Stencil.Proofs.Template.Machine

/-! How the blocks of a template nest: a grammar of the marks that events leave in the tree, the blocks
that are open behind the first events of a source, and the first event that does not fit. -/
namespace Stencil.Machine

/-- What an event leaves in the tree. -/
inductive Mark where
  | leaf (node : Node)
  | opens (block : Block)
  | elif (condition : Code Expr)
  | otherwise
  | closes (construct : Construct)

/-- The mark of an event. An end of a block of code that stands behind no such block has none. -/
inductive Leaves : Event → Mark → Prop
  | leaf {event : Event} {node : Node} (is : role event = .leaf node) : Leaves event (.leaf node)
  | opens {event : Event} {opening : Directive} {block : Block}
      (is : role event = .opens opening block) : Leaves event (.opens block)
  | elif {divider : Directive} {condition : Code Expr} (word : divider.keyword? = some .elif)
      (parsed : divider.condition = .ok condition) : Leaves (.divider divider) (.elif condition)
  | otherwise {divider : Directive} (word : divider.keyword? = some .otherwise)
      (bare : divider.expectBare = .ok ()) : Leaves (.divider divider) .otherwise
  | closes {divider : Directive} {construct : Construct}
      (word : divider.keyword? = some (.closes construct)) (bare : divider.expectBare = .ok ()) :
      Leaves (.divider divider) (.closes construct)

mutual
def nodeMarks : Node → List Mark
  | .conditional branches otherwise =>
    branchMarks (fun condition => .opens (.conditional condition)) branches ++
      (otherwiseMarks otherwise ++ [.closes .conditional])
  | .whileLoop condition body =>
    .opens (.whileLoop condition) :: (marks body ++ [.closes .whileLoop])
  | .forLoop header body => .opens (.forLoop header) :: (marks body ++ [.closes .forLoop])
  | .literal text => [.leaf (.literal text)]
  | .substitute segment => [.leaf (.substitute segment)]
  | .script code => [.leaf (.script code)]
  | .eval code => [.leaf (.eval code)]

def marks : List Node → List Mark
  | [] => []
  | node :: rest => nodeMarks node ++ marks rest

def branchMarks (first : Code Expr → Mark) : List (Code Expr × List Node) → List Mark
  | [] => []
  | (condition, body) :: rest => first condition :: (marks body ++ branchMarks .elif rest)

def otherwiseMarks : Option (List Node) → List Mark
  | none => []
  | some body => .otherwise :: marks body
end

mutual
/-- Marks of a body, in which every block is complete. -/
inductive Nested : List Mark → Prop
  | nil : Nested []
  | leaf (node : Node) {rest : List Mark} (behind : Nested rest) : Nested (.leaf node :: rest)
  | block (block : Block) {divided : Bool} {inner rest : List Mark}
      (inside : Inside block.construct divided inner) (behind : Nested rest) :
      Nested (.opens block :: (inner ++ .closes block.construct :: rest))

/-- Marks behind the opening of a block that is not closed yet. A conditional is divided by any number
of `elif`, and then by one `else` at most. -/
inductive Inside : Construct → Bool → List Mark → Prop
  | body (construct : Construct) {body : List Mark} (nested : Nested body) :
      Inside construct false body
  | elif (condition : Code Expr) {before body : List Mark} (inside : Inside .conditional false before)
      (nested : Nested body) : Inside .conditional false (before ++ .elif condition :: body)
  | otherwise {before body : List Mark} (inside : Inside .conditional false before)
      (nested : Nested body) : Inside .conditional true (before ++ .otherwise :: body)
end

/-- Events that are valid in themselves, with their marks. -/
abbrev Marked (events : List Event) (marks : List Mark) : Prop := List.Forall₂ Leaves events marks

def Complete (events : List Event) : Prop := ∃ marks, Marked events marks ∧ Nested marks

/-- A block that is open, and whether its `else` has been read. -/
structure OpenBlock where
  opening : Directive
  construct : Construct
  divided : Bool

/-- Events behind which the given blocks are open, from the inside out. -/
inductive Within : List Event → List OpenBlock → Prop
  | outside {events : List Event} (complete : Complete events) : Within events []
  | inside {before inner : List Event} {outer : List OpenBlock} {opener : Event} {opening : Directive}
      {block : Block} {divided : Bool} {marks : List Mark} (around : Within before outer)
      (opens : role opener = .opens opening block) (marked : Marked inner marks)
      (inside : Inside block.construct divided marks) :
      Within (before ++ opener :: inner) (⟨opening, block.construct, divided⟩ :: outer)

/-- Whether a divider with such a keyword belongs to an open block. -/
def OpenBlock.takes (block : OpenBlock) : Option Keyword → Prop
  | some .elif | some .otherwise => block.construct = .conditional ∧ block.divided = false
  | some (.closes construct) => construct = block.construct
  | _ => False

/-- An event that does not fit where the given blocks are open, and the error it gives. -/
inductive Offends : List OpenBlock → Event → ParseError → Prop
  | invalid (blocks : List OpenBlock) (e : ParseError) : Offends blocks (.invalid e) e
  | unknown (divider : Directive) : Offends [] (.divider divider) divider.unknown
  | mismatched {block : OpenBlock} (outer : List OpenBlock) {divider : Directive}
      (foreign : ¬ block.takes divider.keyword?) :
      Offends (block :: outer) (.divider divider) (divider.mismatched block.construct.closeWord)
  | condition {block : OpenBlock} (outer : List OpenBlock) {divider : Directive} {e : ParseError}
      (taken : block.takes divider.keyword?) (isElif : divider.keyword? = some .elif)
      (bad : divider.condition = .error e) : Offends (block :: outer) (.divider divider) e
  | argument {block : OpenBlock} (outer : List OpenBlock) {divider : Directive} {e : ParseError}
      (taken : block.takes divider.keyword?) (notElif : divider.keyword? ≠ some .elif)
      (bad : divider.expectBare = .error e) : Offends (block :: outer) (.divider divider) e

/-- The error of the first event that does not fit, or of the innermost block that is open where the
events end. -/
def FirstFault (events : List Event) (e : ParseError) : Prop :=
  ∃ before blocks, Within before blocks ∧
    ((∃ event after, events = before ++ event :: after ∧ Offends blocks event e) ∨
      (events = before ∧ ∃ block outer, blocks = block :: outer ∧ e = block.opening.unterminated))

theorem Nested.append {front back : List Mark} (nested : Nested front) (behind : Nested back) :
    Nested (front ++ back) := by
  match nested with
  | .nil => exact behind
  | .leaf node rest => exact .leaf node (rest.append behind)
  | .block opened inside rest =>
    rw [List.cons_append, List.append_assoc, List.cons_append]
    exact .block opened inside (rest.append behind)

/-- The last body of an open block may go on. -/
theorem Inside.append {construct : Construct} {divided : Bool} {front back : List Mark}
    (inside : Inside construct divided front) (behind : Nested back) :
    Inside construct divided (front ++ back) := by
  cases inside with
  | body _ nested => exact .body construct (nested.append behind)
  | elif condition before nested =>
    rw [List.append_assoc, List.cons_append]
    exact .elif condition before (nested.append behind)
  | otherwise before nested =>
    rw [List.append_assoc, List.cons_append]
    exact .otherwise before (nested.append behind)

theorem Marked.append {front back : List Event} {frontMarks backMarks : List Mark}
    (first : Marked front frontMarks) (second : Marked back backMarks) :
    Marked (front ++ back) (frontMarks ++ backMarks) := List.rel_append first second

theorem Marked.split {events : List Event} {front back : List Mark}
    (marked : Marked events (front ++ back)) :
    ∃ before after, events = before ++ after ∧ Marked before front ∧ Marked after back :=
  ⟨events.take front.length, events.drop front.length, (List.take_append_drop _ _).symm,
    List.forall₂_take_append _ _ _ marked, List.forall₂_drop_append _ _ _ marked⟩

theorem Complete.append {front back : List Event} (first : Complete front) (second : Complete back) :
    Complete (front ++ back) := by
  obtain ⟨frontMarks, firstMarked, firstNested⟩ := first
  obtain ⟨backMarks, secondMarked, secondNested⟩ := second
  exact ⟨_, firstMarked.append secondMarked, firstNested.append secondNested⟩

theorem Within.append {events more : List Event} {blocks : List OpenBlock}
    (within : Within events blocks) (complete : Complete more) : Within (events ++ more) blocks := by
  cases within with
  | outside before => exact .outside (before.append complete)
  | inside around opens marked inside =>
    obtain ⟨marks, moreMarked, nested⟩ := complete
    rw [List.append_assoc, List.cons_append]
    exact .inside around opens (marked.append moreMarked) (inside.append nested)

end Stencil.Machine
