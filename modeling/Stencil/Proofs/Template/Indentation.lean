import Stencil.Proofs.Expr.Lexing
import Stencil.Proofs.Template.Listing
import Stencil.Proofs.Text.Escape
import Stencil.Template.Compile

/-! How far the lines of a listing are indented. Main statement: every line of a nested node starts with as many tabs
as bodies enclose the node exactly if the code in it that is listed as it stands has them behind its line feeds. -/
namespace Stencil

section Lines

variable {depth : Nat} {c : Char} {text front back : List Char}

/-- The lines of a text that a line feed ends. -/
def Text.finishedLines (text : List Char) : List (List Char) := (splitLines text).dropLast

theorem Text.splitLines_append_feed (front back : List Char) :
    splitLines (front ++ '\n' :: back) = splitLines front ++ splitLines back := by
  induction front with
  | nil => simp [splitLines]
  | cons c front ih =>
    rw [List.cons_append, splitLines, splitLines, ih]
    split
    next => rfl
    next =>
      cases lines : splitLines front with
      | nil => exact absurd lines (splitLines_ne_nil front)
      | cons line others => rfl

theorem Text.finishedLines_append_feed (front back : List Char) :
    finishedLines (front ++ '\n' :: back) = splitLines front ++ finishedLines back := by
  rw [finishedLines, splitLines_append_feed, List.dropLast_append_of_ne_nil (splitLines_ne_nil back)]
  rfl

theorem finishedLines_listed (lines : List ListedLine) :
    Text.finishedLines (lines.flatMap ListedLine.text) =
      lines.flatMap fun line => Text.splitLines (List.replicate line.depth '\t' ++ line.code) := by
  induction lines with
  | nil => rfl
  | cons line lines ih =>
    rw [List.flatMap_cons, List.flatMap_cons, ListedLine.text, List.append_assoc, List.singleton_append,
      Text.finishedLines_append_feed, ih]

theorem notMem_tabs (other : c ≠ '\t') (depth : Nat) : c ∉ List.replicate depth '\t' :=
  fun member => other (List.eq_of_mem_replicate member)

/-- Behind each line feed of a text stand the tabs of a depth. -/
def Hangs (depth : Nat) (text : List Char) : Prop :=
  ∀ front back, text = front ++ '\n' :: back → List.replicate depth '\t' <+: back

theorem hangs_nil (depth : Nat) : Hangs depth [] := by
  intro front back whole
  cases front <;> cases whole

theorem hangs_cons : Hangs depth (c :: text) ↔ (c = '\n' → List.replicate depth '\t' <+: text) ∧ Hangs depth text := by
  constructor
  · intro hangs
    refine ⟨?_, fun front back whole => hangs (c :: front) back (congrArg (c :: ·) whole)⟩
    rintro rfl
    exact hangs [] text rfl
  · rintro ⟨here, later⟩ front back whole
    cases front with
    | nil =>
      obtain ⟨rfl, rfl⟩ := List.cons.inj whole
      exact here rfl
    | cons d front => exact later front back (List.cons.inj whole).2

theorem hangs_of_notMem (plain : '\n' ∉ text) : Hangs depth text := by
  rintro front back rfl
  exact absurd (List.mem_append_right front List.mem_cons_self) plain

theorem hangs_append_of_notMem (plain : '\n' ∉ front) : Hangs depth (front ++ back) ↔ Hangs depth back := by
  induction front with
  | nil => rfl
  | cons c front ih =>
    have other : c ≠ '\n' := fun same => plain (same ▸ List.mem_cons_self)
    rw [List.cons_append, hangs_cons, ih (List.not_mem_of_not_mem_cons plain)]
    exact and_iff_right fun feed => absurd feed other

/-- Before another character than a tab, a text has the tabs that it needs itself. -/
theorem hangs_append_cons (other : c ≠ '\t') :
    Hangs depth (front ++ c :: back) ↔ Hangs depth front ∧ Hangs depth (c :: back) := by
  induction front with
  | nil => exact (and_iff_right (hangs_nil depth)).symm
  | cons d front ih =>
    rw [List.cons_append, hangs_cons, hangs_cons, Text.prefix_append_cons (notMem_tabs other depth), and_assoc]
    exact and_congr_right fun _ => ih

theorem prefix_iff_join {lines : List (List Char)} (plain : ∀ line ∈ lines, '\n' ∉ line) (any : lines ≠ []) :
    (∀ line ∈ lines, List.replicate depth '\t' <+: line) ↔
      List.replicate depth '\t' <+: Text.join ['\n'] lines ∧ Hangs depth (Text.join ['\n'] lines) := by
  induction lines with
  | nil => exact absurd rfl any
  | cons line lines ih =>
    obtain ⟨own, others⟩ := List.forall_mem_cons.mp plain
    rw [List.forall_mem_cons]
    cases lines with
    | nil => exact and_congr_right fun _ => iff_of_true (List.forall_mem_nil _) (hangs_of_notMem own)
    | cons next lines =>
      have feed : '\n' ∉ List.replicate depth '\t' := notMem_tabs (by decide) depth
      rw [Text.join_cons _ _ (List.cons_ne_nil _ _), List.append_assoc, List.singleton_append,
        Text.prefix_append_cons feed, hangs_append_of_notMem own, hangs_cons, ih others (List.cons_ne_nil next lines),
        forall_prop_of_true rfl]

theorem prefix_iff_splitLines (depth : Nat) (text : List Char) :
    (∀ line ∈ Text.splitLines text, List.replicate depth '\t' <+: line) ↔
      List.replicate depth '\t' <+: text ∧ Hangs depth text := by
  have plain : ∀ line ∈ Text.splitLines text, '\n' ∉ line := fun _ => Text.not_mem_of_mem_splitLines
  have joined := @prefix_iff_join depth _ plain (Text.splitLines_ne_nil text)
  rwa [Text.join_splitLines] at joined

/-- The first line of the code of a listed line has its tabs, so that only the others may lack them. -/
theorem prefix_iff_hangs {line : ListedLine} (deep : depth ≤ line.depth) :
    (∀ shown ∈ Text.splitLines (List.replicate line.depth '\t' ++ line.code), List.replicate depth '\t' <+: shown) ↔
      Hangs depth line.code := by
  have tabs : List.replicate depth '\t' <+: List.replicate line.depth '\t' ++ line.code :=
    ⟨List.replicate (line.depth - depth) '\t' ++ line.code, by
      rw [← List.append_assoc, List.replicate_append_replicate, Nat.add_sub_cancel' deep]⟩
  rw [prefix_iff_splitLines, hangs_append_of_notMem (notMem_tabs (by decide) line.depth)]
  exact and_iff_right tabs

end Lines

section Verbatim

def Slot.verbatim : Slot → List (List Char)
  | .percent => []
  | .code inline => [inline.text]

mutual
/-- The code in a node, at every depth, that is listed as it stands, with its line feeds: the expressions of
substitutions, conditions and the headers of loops. -/
def Node.verbatim : Node → List (List Char)
  | .literal _ | .script _ | .eval _ => []
  | .substitute segment => segment.table.flatMap (·.2.verbatim)
  | .conditional branches otherwise => Node.verbatimBranches branches ++ Node.verbatimOtherwise otherwise
  | .whileLoop condition body => condition.text :: Node.verbatimAll body
  | .forLoop header body => header.text :: Node.verbatimAll body

def Node.verbatimAll : List Node → List (List Char)
  | [] => []
  | node :: rest => node.verbatim ++ Node.verbatimAll rest

def Node.verbatimBranches : List (Code Expr × List Node) → List (List Char)
  | [] => []
  | (condition, body) :: rest => condition.text :: Node.verbatimAll body ++ Node.verbatimBranches rest

def Node.verbatimOtherwise : Option (List Node) → List (List Char)
  | none => []
  | some body => Node.verbatimAll body
end

variable {depth : Nat} {text : List Char}

theorem notMem_literal (text : List Char) : '\n' ∉ literal text := by
  have quote := literalQuote_cases text
  unfold literal
  generalize literalQuote text = mark at quote
  have other : '\n' ≠ mark := by rcases quote with rfl | rfl <;> decide
  have plain (c : Char) : '\n' ∉ literalChar mark c := by grind [literalChar]
  simp [other, plain]

theorem notMem_of_mem_shownCode {line : List Char} (member : line ∈ shownCode text) : '\n' ∉ line := by
  have listed := (List.mem_filter.mp member).1
  unfold codeLines at listed
  dsimp only at listed
  split at listed
  next => cases listed
  next last before same =>
    have all : ∀ line ∈ last :: before, '\n' ∉ line := fun line inside =>
      Text.not_mem_of_mem_splitLines (List.mem_reverse.mp (same ▸ inside))
    obtain ⟨own, others⟩ := List.forall_mem_cons.mp all
    rcases List.mem_append.mp listed with ended | unended
    · obtain ⟨whole, inside, rfl⟩ := List.mem_map.mp (List.mem_reverse.mp ended)
      split
      next => exact fun feed => others whole inside ((List.dropLast_sublist whole).subset feed)
      next => exact others whole inside
    · split at unended
      next => cases unended
      next => exact List.mem_singleton.mp unended ▸ own

/-- Each line of some has, behind its line feeds, the tabs of a depth. -/
def AllHang (depth : Nat) (lines : List ListedLine) : Prop := ∀ line ∈ lines, Hangs depth line.code

theorem allHang_append {front back : List ListedLine} :
    AllHang depth (front ++ back) ↔ AllHang depth front ∧ AllHang depth back := List.forall_mem_append

theorem allHang_cons {line : ListedLine} {lines : List ListedLine} :
    AllHang depth (line :: lines) ↔ Hangs depth line.code ∧ AllHang depth lines := List.forall_mem_cons

theorem allHang_of_notMem {lines : List ListedLine} (plain : ∀ line ∈ lines, '\n' ∉ line.code) :
    AllHang depth lines := fun line member => hangs_of_notMem (plain line member)

theorem allHang_here {code : List Char} (plain : '\n' ∉ code) (start : Nat) : AllHang depth [⟨start, code⟩] :=
  allHang_of_notMem (List.forall_mem_singleton.mpr plain)

theorem hangs_headerLine {word : String} (plain : '\n' ∉ word.toList) (start : Nat) (text : List Char) :
    Hangs depth (headerLine start word text).code ↔ Hangs depth text := by
  have front : '\n' ∉ word.toList ++ [' '] := Text.not_mem_append plain (by decide)
  unfold headerLine
  rw [List.append_assoc _ text, hangs_append_of_notMem front, hangs_append_cons (by decide)]
  exact and_iff_left (hangs_of_notMem (by decide))

theorem hangs_entryText (entry : List Char × Slot) :
    Hangs depth (entryText entry) ↔ ∀ code ∈ entry.2.verbatim, Hangs depth code := by
  have start : '\n' ∉ literal entry.1 ++ ": ".toList := Text.not_mem_append (notMem_literal entry.1) (by decide)
  rw [entryText, hangs_append_of_notMem start]
  cases entry.2 with
  | percent => exact iff_of_true (hangs_of_notMem (notMem_literal _)) (List.forall_mem_nil _)
  | code inline => exact (List.forall_mem_singleton).symm

theorem hangs_entries (table : SubstitutionTable) :
    Hangs depth (Text.join ", ".toList (table.map entryText)) ↔
      ∀ code ∈ table.flatMap (·.2.verbatim), Hangs depth code := by
  -- A comma ends the last line of an entry, and what is in front of the code of the next one has no line feed.
  induction table with
  | nil => exact iff_of_true (hangs_nil depth) (List.forall_mem_nil _)
  | cons entry rest ih =>
    rw [List.flatMap_cons, List.forall_mem_append, ← hangs_entryText, ← ih]
    cases rest with
    | nil => exact (and_iff_left (hangs_nil depth)).symm
    | cons next rest =>
      have comma (later : List Char) : ", ".toList ++ later = ',' :: ' ' :: later := rfl
      rw [List.map_cons, List.map_cons, Text.join_cons _ _ (List.cons_ne_nil _ _), List.append_assoc, comma,
        hangs_append_cons (by decide), ← List.map_cons, ← comma, hangs_append_of_notMem (by decide)]

theorem hangs_listed (segment : Segment) :
    Hangs depth segment.listed ↔ ∀ code ∈ segment.table.flatMap (·.2.verbatim), Hangs depth code := by
  have start : '\n' ∉ "write(".toList ++ literal (formatText segment.pieces) ++ " % \x7b".toList :=
    Text.not_mem_append (Text.not_mem_append (by decide) (notMem_literal _)) (by decide)
  have brace : "\x7d)".toList = ['\x7d', ')'] := rfl
  unfold Segment.listed
  rw [List.append_assoc _ _ "\x7d)".toList, hangs_append_of_notMem start, brace, hangs_append_cons (by decide),
    hangs_entries]
  exact and_iff_left (hangs_of_notMem (by decide))

theorem allHang_scriptLines (start : Nat) (text : List Char) : AllHang depth (scriptLines start text) := by
  unfold scriptLines
  split
  next => exact allHang_here (by decide) start
  next => exact allHang_of_notMem (List.forall_mem_map.mpr fun _ => notMem_of_mem_shownCode)

theorem allHang_evalLines (start : Nat) (text : List Char) : AllHang depth (evalLines start text) := by
  have plain : ∀ line ∈ shownCode text, '\n' ∉ line := fun _ => notMem_of_mem_shownCode
  have opened {line : List Char} (own : '\n' ∉ line) : '\n' ∉ "write(str(".toList ++ line :=
    Text.not_mem_append (by decide) own
  unfold evalLines
  split
  next => exact allHang_here (by decide) start
  next line same =>
    rw [same] at plain
    exact allHang_here (Text.not_mem_append (opened (plain line List.mem_cons_self)) (by decide)) start
  next first rest _ same =>
    rw [same] at plain
    obtain ⟨own, others⟩ := List.forall_mem_cons.mp plain
    have behind : AllHang depth (rest.map (⟨start + 1, ·⟩)) := allHang_of_notMem (List.forall_mem_map.mpr others)
    exact allHang_append.mpr
      ⟨allHang_cons.mpr ⟨hangs_of_notMem (opened own), behind⟩, allHang_here (by decide) start⟩

mutual
theorem allHang_nodeLines (start : Nat) (node : Node) :
    AllHang depth (nodeLines start node) ↔ ∀ code ∈ node.verbatim, Hangs depth code := by
  match node with
  | .literal text =>
    have plain : '\n' ∉ "write(".toList ++ literal text ++ ")".toList :=
      Text.not_mem_append (Text.not_mem_append (by decide) (notMem_literal text)) (by decide)
    rw [nodeLines, Node.verbatim]
    exact iff_of_true (allHang_here plain start) (List.forall_mem_nil _)
  | .substitute segment =>
    rw [nodeLines, Node.verbatim, ← hangs_listed]
    exact List.forall_mem_singleton
  | .conditional branches otherwise =>
    rw [nodeLines, Node.verbatim, allHang_append, List.forall_mem_append,
      allHang_branchLines start (by decide) branches, allHang_otherwiseLines start otherwise]
  | .whileLoop condition body =>
    rw [nodeLines, Node.verbatim, allHang_cons, List.forall_mem_cons, hangs_headerLine (by decide),
      allHang_bodyLines (start + 1) body]
  | .forLoop header body =>
    rw [nodeLines, Node.verbatim, allHang_cons, List.forall_mem_cons, hangs_headerLine (by decide),
      allHang_bodyLines (start + 1) body]
  | .script code =>
    rw [nodeLines, Node.verbatim]
    exact iff_of_true (allHang_scriptLines start code.text) (List.forall_mem_nil _)
  | .eval code =>
    rw [nodeLines, Node.verbatim]
    exact iff_of_true (allHang_evalLines start code.text) (List.forall_mem_nil _)

theorem allHang_nodesLines (start : Nat) (nodes : List Node) :
    AllHang depth (nodesLines start nodes) ↔ ∀ code ∈ Node.verbatimAll nodes, Hangs depth code := by
  match nodes with
  | [] =>
    rw [nodesLines, Node.verbatimAll]
    exact iff_of_true (List.forall_mem_nil _) (List.forall_mem_nil _)
  | node :: rest =>
    rw [nodesLines, Node.verbatimAll, allHang_append, List.forall_mem_append, allHang_nodeLines start node,
      allHang_nodesLines start rest]

theorem allHang_bodyLines (start : Nat) (body : List Node) :
    AllHang depth (bodyLines start body) ↔ ∀ code ∈ Node.verbatimAll body, Hangs depth code := by
  match body with
  | [] =>
    rw [bodyLines, Node.verbatimAll]
    exact iff_of_true (allHang_here (by decide) start) (List.forall_mem_nil _)
  | node :: rest =>
    rw [bodyLines, Node.verbatimAll, allHang_append, List.forall_mem_append, allHang_nodeLines start node,
      allHang_nodesLines start rest]

theorem allHang_branchLines (start : Nat) {word : String} (plain : '\n' ∉ word.toList)
    (branches : List (Code Expr × List Node)) :
    AllHang depth (branchLines start word branches) ↔ ∀ code ∈ Node.verbatimBranches branches, Hangs depth code := by
  match branches with
  | [] =>
    rw [branchLines, Node.verbatimBranches]
    exact iff_of_true (List.forall_mem_nil _) (List.forall_mem_nil _)
  | (condition, body) :: rest =>
    rw [branchLines, Node.verbatimBranches, allHang_append, List.forall_mem_append, allHang_cons,
      List.forall_mem_cons, hangs_headerLine plain, allHang_bodyLines (start + 1) body,
      allHang_branchLines start (by decide) rest]

theorem allHang_otherwiseLines (start : Nat) (otherwise : Option (List Node)) :
    AllHang depth (otherwiseLines start otherwise) ↔
      ∀ code ∈ Node.verbatimOtherwise otherwise, Hangs depth code := by
  match otherwise with
  | none =>
    rw [otherwiseLines, Node.verbatimOtherwise]
    exact iff_of_true (List.forall_mem_nil _) (List.forall_mem_nil _)
  | some body =>
    have plain : '\n' ∉ Keyword.otherwise.word.toList ++ [':'] := by decide
    rw [otherwiseLines, Node.verbatimOtherwise, allHang_cons, allHang_bodyLines (start + 1) body]
    exact and_iff_right (hangs_of_notMem plain)
end

end Verbatim

/-- What the indentation of the listing of all nodes tells of a nested one. -/
structure MirrorsNesting (nodes : List Node) (depth : Nat) (node : Node) : Prop where
  together : ∃ front back, nodesLines 0 nodes = front ++ nodeLines depth node ++ back ∧ Outside depth back
  bodies : ∀ body ∈ node.bodies, ∃ front header back, nodesLines 0 nodes = front ++ header :: back ∧
    header.depth = depth ∧ back.takeWhile (depth < ·.depth) = bodyLines (depth + 1) body
  indented : (∀ line ∈ Text.finishedLines ((nodeLines depth node).flatMap ListedLine.text),
    List.replicate depth '\t' <+: line) ↔ ∀ code ∈ node.verbatim, Hangs depth code

/-- The lines of a node stand together at its depth, those of its bodies are the deeper ones behind their headers, and
all of them start with the tabs of the depth, unless code that is listed as it stands lacks them behind a line feed. -/
theorem indentation_mirrors_nesting {nodes : List Node} {depth : Nat} {node : Node}
    (nested : node ∈ nodesAt depth nodes) : MirrorsNesting nodes depth node where
  together := listed_together nested
  bodies := fun _ => body_listed nested
  indented := by
    rw [finishedLines_listed, List.forall_mem_flatMap, ← allHang_nodeLines depth node]
    exact forall₂_congr fun line member => prefix_iff_hangs (deep_nodeLines depth node line member)

/-- A substitution in a branch of a conditional in a loop. -/
theorem indentation_mirrors_nesting_of_branch : ∃ template node,
    Template.compile "{{for x in y}}{{if x}}{{x}}{{else}}{{endif}}{{endfor}}".toList = .ok template ∧
      node ∈ nodesAt 2 template.nodes ∧ MirrorsNesting template.nodes 2 node := by
  have compiled : ((Template.compile "{{for x in y}}{{if x}}{{x}}{{else}}{{endif}}{{endfor}}".toList).toOption.map
      fun template => (nodesAt 2 template.nodes).isEmpty) = some false := by decide +kernel
  cases found : Template.compile "{{for x in y}}{{if x}}{{x}}{{else}}{{endif}}{{endfor}}".toList with
  | error e => rw [found] at compiled; cases compiled
  | ok template =>
    rw [found] at compiled
    have some := List.isEmpty_eq_false_iff.mp (Option.some.inj compiled)
    obtain ⟨node, nested⟩ := List.exists_mem_of_ne_nil _ some
    exact ⟨template, node, rfl, nested, indentation_mirrors_nesting nested⟩

/-- The condition of a loop in a branch goes on at the start of a line, which has no tabs. -/
theorem unindented_of_condition : ∃ template node,
    Template.compile "{{if a:}}\x7b\x7bwhile b +\nc:\x7d\x7d{{endwhile}}{{endif}}".toList = .ok template ∧
      template.listing = "if a:\n\twhile b +\nc:\n\t\tpass\n".toList ∧ node ∈ nodesAt 1 template.nodes ∧
      ∃ line ∈ Text.finishedLines ((nodeLines 1 node).flatMap ListedLine.text),
        ¬ List.replicate 1 '\t' <+: line := by
  have compiled : ((Template.compile
      "{{if a:}}\x7b\x7bwhile b +\nc:\x7d\x7d{{endwhile}}{{endif}}".toList).toOption.map fun template =>
        template.listing == "if a:\n\twhile b +\nc:\n\t\tpass\n".toList &&
          (nodesAt 1 template.nodes).any fun node =>
            (Text.finishedLines ((nodeLines 1 node).flatMap ListedLine.text)).contains "c:".toList) =
      some true := by decide +kernel
  cases found : Template.compile "{{if a:}}\x7b\x7bwhile b +\nc:\x7d\x7d{{endwhile}}{{endif}}".toList with
  | error e => rw [found] at compiled; cases compiled
  | ok template =>
    rw [found] at compiled
    obtain ⟨listed, unindented⟩ := Bool.and_eq_true_iff.mp (Option.some.inj compiled)
    obtain ⟨node, nested, line⟩ := List.any_eq_true.mp unindented
    exact ⟨template, node, rfl, beq_iff_eq.mp listed, nested, "c:".toList, List.contains_iff_mem.mp line, by decide⟩

end Stencil
