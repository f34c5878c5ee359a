import Stencil.Proofs.Template.Delivery
import Stencil.Proofs.Template.Sound
import Stencil.Proofs.Text.Escape

/-! Templates of one expression. Main statement: whatever text an expression has, a template that holds it with
escapes, in a substitution or in a block, compiles and renders to its value, or ends with the error of its
evaluation. -/
namespace Stencil

section Leaf

variable {c : Char} {rest source : List Char} {event : Event} {node : Node}

theorem parse_of_leaf (first : firstEvent Text.Place.start c rest = .ok (event, source, []))
    (leaf : Machine.role event = .leaf node) : Template.parse (c :: rest) = .ok ⟨c :: rest, [node]⟩ := by
  have alone : events (c :: rest) = [event] := by
    rw [events, eventsFrom_ok first, eventsFrom]
    cases event <;> rfl
  exact Machine.parse_of_single alone leaf

theorem firstEvent_directive (place : Text.Place) {text raw after : List Char}
    (cut : Text.cut? Text.closing text = some (raw, after)) :
    firstEvent place '{' ('{' :: text) = (Directive.mk place raw).event after := by
  simp [firstEvent, Directive.read?, Text.opening, cut]

end Leaf

section Blanks

variable {text : List Char}

/-- No white space stands at the ends of a text. -/
structure Sharp (text : List Char) : Prop where
  head : ∀ c ∈ text.head?, Text.isBlank c = false
  last : ∀ c ∈ text.getLast?, Text.isBlank c = false

theorem Sharp.escaped (sharp : Sharp text) : Sharp (Text.escaped text) where
  head := by
    rw [Text.head?_escaped]
    exact sharp.head
  last := by
    rw [Text.getLast?_escaped]
    exact sharp.last

theorem Sharp.trim_spaced (sharp : Sharp text) : Text.trim ([' '] ++ text ++ [' ']) = text := by
  have stop : Text.trimEnd (text ++ [' ']) = text := by
    have shorter : Text.trimEnd (text ++ [' ']) = Text.trimEnd text := by
      rw [Text.trimEnd, List.reverse_append, Text.trimEnd]
      exact congrArg List.reverse (List.dropWhile_cons_of_pos rfl)
    rw [shorter, Text.trimEnd_eq_self sharp.last]
  have start : Text.trimStart ([' '] ++ text ++ [' ']) = Text.trimStart (text ++ [' ']) := by
    rw [List.append_assoc]
    exact List.dropWhile_cons_of_pos rfl
  rw [Text.trim, start]
  cases text with
  | nil => rfl
  | cons c text =>
    have kept : Text.trimStart (c :: text ++ [' ']) = c :: text ++ [' '] := Text.trimStart_eq_self sharp.head
    rw [kept, stop]

/-- A line with no white space around it is its own dedented text. -/
theorem Sharp.dedent (sharp : Sharp text) (any : text ≠ []) (line : '\n' ∉ text) (origin : Text.Place) :
    Stencil.dedent origin text = .ok text := by
  have lines : blockLines text = [⟨0, 0, text⟩] := by
    rw [blockLines, Text.splitLines_of_not_mem line]
    rfl
  cases text with
  | nil => exact absurd rfl any
  | cons c text =>
    have first : Text.isBlank c = false := sharp.head c rfl
    have visible : Text.isBlankLine (c :: text) = false := by simp [Text.isBlankLine, first]
    have indent : Text.leadingBlank (c :: text) = [] := List.takeWhile_cons_of_neg (by simp [first])
    rw [Stencil.dedent, lines]
    simp [visible, indent, dedentLines, withoutIndent?, Text.join]

end Blanks

section Sources

/-- An expression as a directive holds it. -/
def spaced (text : List Char) : List Char := [' '] ++ Text.escaped text ++ [' ']

def substitutionSource (text : List Char) : List Char := Text.opening ++ spaced text ++ Text.closing

/-- The directive that opens a block for an expression. -/
def evalOpening : Directive := ⟨Text.Place.start, CodeBlock.eval.word.toList⟩

/-- A block that holds an expression on the line of its directives. -/
def evalSource (text : List Char) : List Char :=
  evalOpening.source ++ (Text.escaped text ++ CodeBlock.eval.endTag)

variable {text : List Char}

theorem cut?_spaced (apart : ¬ ['}', '}', '}'] <:+: text) :
    Text.cut? Text.closing (spaced text ++ Text.closing) = some (spaced text, []) := by
  have space : Text.cut? Text.closing ([' '] ++ Text.closing) = some ([' '], []) := rfl
  have behind : ([' '] ++ Text.closing).head? ≠ some '}' := by simp
  have inner := Text.cut?_escaped apart behind
  have other : ' ' ≠ '}' := by decide
  have outer := Text.cut?_closing_ne other (Text.escaped text ++ ([' '] ++ Text.closing))
  rw [inner, space] at outer
  simpa [spaced] using outer

/-- The end tag has the first closing delimiter behind an expression, so that it is found nowhere before. -/
theorem cut?_endTag (apart : ¬ ['}', '}', '}'] <:+: text) :
    Text.cut? CodeBlock.eval.endTag (Text.escaped text ++ CodeBlock.eval.endTag) = some (Text.escaped text, []) := by
  obtain ⟨stem, tag, closed⟩ : ∃ stem, CodeBlock.eval.endTag = stem ++ Text.closing ∧
      Text.cut? Text.closing CodeBlock.eval.endTag = some (stem, []) := ⟨_, rfl, by decide⟩
  have behind : CodeBlock.eval.endTag.head? ≠ some '}' := by decide
  have found := Text.cut?_escaped apart behind
  rw [closed] at found
  have first (front back : List Char)
      (same : Text.escaped text ++ CodeBlock.eval.endTag ++ [] = front ++ CodeBlock.eval.endTag ++ back) :
      (Text.escaped text).length ≤ front.length := by
    have occurs : Text.escaped text ++ CodeBlock.eval.endTag = (front ++ stem) ++ Text.closing ++ back := by
      rw [List.append_nil] at same
      rw [same, tag]
      simp
    have bound := Text.length_le_of_cut? found occurs
    simp only [List.length_append] at bound
    omega
  have cut := Text.cut?_of_first first
  rwa [List.append_nil] at cut

theorem ne_nil_of_parseExpression {e : Expr} (parsed : parseExpression text = .ok e) : text ≠ [] := by
  rintro rfl
  have failed : (parseExpression []).toOption.isNone := by decide
  rw [parsed] at failed
  cases failed

theorem parse_substitution {e : Expr} (sharp : Sharp text) (parsed : parseExpression text = .ok e)
    (word : Keyword.ofWord? (String.ofList (Text.firstWord (withoutColon text))) = none)
    (apart : ¬ ['}', '}', '}'] <:+: text) : Template.parse (substitutionSource text) =
      .ok ⟨substitutionSource text, [.ofParts [.code ⟨text, e, Text.Place.start⟩]]⟩ := by
  have said : Directive.text ⟨Text.Place.start, spaced text⟩ = text := by
    rw [Directive.text, spaced, sharp.escaped.trim_spaced, Text.unescape_escaped]
  have plain : Directive.keyword? ⟨Text.Place.start, spaced text⟩ = none := by
    rw [Directive.keyword?, Directive.word, said, word]
  have made : Directive.event ⟨Text.Place.start, spaced text⟩ [] =
      .ok (.segment [.code ⟨text, e, Text.Place.start⟩], substitutionSource text, []) := by
    simp only [Directive.event, plain, Directive.substitution, Directive.codeOf, said, parsed]
    rfl
  exact parse_of_leaf ((firstEvent_directive _ (cut?_spaced apart)).trans made) rfl

theorem parse_eval {e : Expr} (sharp : Sharp text) (parsed : parseExpression text = .ok e) (line : '\n' ∉ text)
    (apart : ¬ ['}', '}', '}'] <:+: text) : Template.parse (evalSource text) =
      .ok ⟨evalSource text, [.eval ⟨text, e, Text.Place.start⟩]⟩ := by
  have cut : Text.cut? Text.closing
      (evalOpening.raw ++ Text.closing ++ (Text.escaped text ++ CodeBlock.eval.endTag)) =
        some (evalOpening.raw, Text.escaped text ++ CodeBlock.eval.endTag) := rfl
  have keyword : evalOpening.keyword? = some (.opensCode .eval) := by decide
  have bare : evalOpening.expectBare = .ok () := by decide
  have any : Text.escaped text ≠ [] := by
    intro none
    have head := Text.head?_escaped text
    rw [none] at head
    exact ne_nil_of_parseExpression parsed (List.head?_eq_none_iff.mp head.symm)
  have plain : '\n' ∉ Text.escaped text := by
    intro member
    rcases Text.mem_of_mem_escaped member with sign | inside
    · exact absurd sign (by decide)
    · exact line inside
  have dedented := sharp.escaped.dedent any plain evalOpening.next
  have made : evalOpening.event (Text.escaped text ++ CodeBlock.eval.endTag) =
      .ok (.eval ⟨text, e, Text.Place.start⟩, evalSource text, []) := by
    simp only [Directive.event, keyword, CodeBlock.read, bare, cut?_endTag apart, CodeBlock.event, dedented, ok_bind,
      Text.unescape_escaped, Directive.codeOf, parsed]
    rfl
  exact parse_of_leaf ((firstEvent_directive _ cut).trans made) rfl

end Sources

section Rendering

theorem runNode_substitution {rounds : Nat} {text : List Char} {e : Expr} (parsed : parseExpression text = .ok e)
    (place : Text.Place) (machine : Machine) : runNode rounds (.ofParts [.code ⟨text, e, place⟩]) machine =
      machine.continuing ((e.eval machine.scope).map valueChars) machine.write := by
  have own : ∀ part ∈ [Part.code ⟨text, e, place⟩], part.Parsed := by
    intro part member slot inside
    cases List.mem_singleton.mp member
    cases inside
    exact parsed
  rw [runNode_ofParts rounds own, fillParts, fillParts, Part.filled]
  cases e.eval machine.scope with
  | error fault => rfl
  | ok value =>
    simp [Except.map]

theorem runNode_eval {rounds : Nat} (code : Code Expr) (machine : Machine) : runNode rounds (.eval code) machine =
    machine.continuing ((code.parsed.eval machine.scope).map valueChars) machine.write := by
  rw [runNode]
  cases code.parsed.eval machine.scope <;> rfl

/-- A template of one expression, which has no white space around it, starts with no keyword and has no three closing
braces in a row, renders to the value of the expression for all values, or fails as the expression does. So does one
that holds an expression on one line in a block. -/
theorem render_of_expression {text : List Char} {e : Expr} (sharp : Sharp text)
    (parsed : parseExpression text = .ok e)
    (word : Keyword.ofWord? (String.ofList (Text.firstWord (withoutColon text))) = none)
    (apart : ¬ ['}', '}', '}'] <:+: text) :
    (∃ template, Template.compile (substitutionSource text) = .ok template ∧ ∀ rounds values,
      template.render? rounds values = some ((e.eval (bindValues values)).map valueChars)) ∧
    ('\n' ∉ text → ∃ template, Template.compile (evalSource text) = .ok template ∧ ∀ rounds values,
      template.render? rounds values = some ((e.eval (bindValues values)).map valueChars)) := by
  constructor
  · refine ⟨_, compile_of_parse (parse_substitution sharp parsed word apart), fun rounds values => ?_⟩
    exact render?_of_write (fun scope => (e.eval scope).map valueChars) (runNode_substitution parsed _) _ values
  · intro line
    refine ⟨_, compile_of_parse (parse_eval sharp parsed line apart), fun rounds values => ?_⟩
    exact render?_of_write (fun scope => (e.eval scope).map valueChars) (runNode_eval _) _ values

/-- A dictionary in a dictionary, so that a pair of closing braces stands in the expression. -/
theorem render_of_nested_dictionary : ∃ inline block,
    Template.compile "\x7b\x7b \x7b'$$': \x7b'a': '%'\x7d$\x7d['$$'][k] \x7d\x7d".toList = .ok inline ∧
      inline.render? 0 [("k", .str "a")] = some (.ok ['%']) ∧
      Template.compile "{{eval}}\x7b'$$': \x7b'a': '%'\x7d$\x7d['$$'][k]{{endeval}}".toList = .ok block ∧
      block.render? 0 [("k", .str "a")] = some (.ok ['%']) := by
  have evaluated : ((parseExpression "\x7b'$': \x7b'a': '%'\x7d\x7d['$'][k]".toList).toOption.bind
      fun e => (e.eval (bindValues [("k", .str "a")])).toOption.map valueChars) = some ['%'] := by
    decide +kernel
  cases parsed : parseExpression "\x7b'$': \x7b'a': '%'\x7d\x7d['$'][k]".toList with
  | error fault => rw [parsed] at evaluated; cases evaluated
  | ok e =>
    have sharp : Sharp "\x7b'$': \x7b'a': '%'\x7d\x7d['$'][k]".toList :=
      ⟨by simp [Text.isBlank], by simp [Text.isBlank]⟩
    obtain ⟨⟨inline, compiled, renders⟩, lined⟩ :=
      render_of_expression sharp parsed (by decide +kernel) (by decide +kernel)
    obtain ⟨block, compiled', renders'⟩ := lined (by decide +kernel)
    have value : (e.eval (bindValues [("k", .str "a")])).map valueChars = .ok ['%'] := by
      rw [parsed, Except.toOption, Option.bind_some] at evaluated
      cases result : e.eval (bindValues [("k", .str "a")]) with
      | error fault => rw [result] at evaluated; cases evaluated
      | ok found =>
        rw [result] at evaluated
        exact congrArg Except.ok (Option.some.inj evaluated)
    rw [← value]
    exact ⟨inline, block, compiled, renders 0 _, compiled', renders' 0 _⟩

end Rendering

end Stencil
