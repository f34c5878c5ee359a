import Stencil.Template.Dedent
import Stencil.Proofs.Outcome
import Stencil.Proofs.Text.Parts
import Mathlib.Data.List.Forall2
import Mathlib.Data.List.TakeWhile

/-! The indentation of code blocks. Main statement: `dedent_undoes_indent`, that dedenting gives back the lines that
were indented, fails at the first line that does not have the indentation of the first one that is not blank, and
changes nothing when it is done again. -/
namespace Stencil

def hasIndent (indent line : List Char) : Bool := Text.isBlankLine line || indent.isPrefixOf line

def unindented (indent line : List Char) : List Char :=
  if Text.isBlankLine line then [] else line.drop indent.length

/-- The white space before the first line of the text that is not blank. -/
def blockIndent (text : List Char) : List Char :=
  ((Text.splitLines text).find? (!Text.isBlankLine ·)).elim [] Text.leadingBlank

/-- The lines with the line feeds that end them. -/
def endedLines (lines : List (List Char)) : List Char := lines.flatMap (· ++ ['\n'])

theorem endedLines_cons (line : List Char) (lines : List (List Char)) :
    endedLines (line :: lines) = line ++ ['\n'] ++ endedLines lines := by
  rw [endedLines, List.flatMap_cons]
  rfl

section Lines
variable {origin : Text.Place} {indent line bad : List Char} {number offset : Nat}
  {before after lines : List (List Char)}

theorem hasIndent_eq_false : hasIndent indent line = false ↔ Text.isBlankLine line = false ∧ ¬ indent <+: line := by
  rw [hasIndent, Bool.or_eq_false_iff, ← List.isPrefixOf_iff_prefix, Bool.not_eq_true]

theorem leadingBlank_starts (line : List Char) : Text.leadingBlank line <+: line := List.takeWhile_prefix _

theorem blockLinesFrom_append : blockLinesFrom number offset (before ++ after) =
    blockLinesFrom number offset before ++
      blockLinesFrom (number + before.length) (offset + Text.byteLength (endedLines before)) after := by
  induction before generalizing number offset with
  | nil => rfl
  | cons line before ih =>
    have number' : number + 1 + before.length = number + (line :: before).length := by
      rw [List.length_cons]
      omega
    have offset' : offset + Text.byteLength line + 1 + Text.byteLength (endedLines before) =
        offset + Text.byteLength (endedLines (line :: before)) := by
      have feed : Text.byteLength ['\n'] = 1 := rfl
      rw [endedLines_cons, Text.byteLength_append, Text.byteLength_append, feed]
      omega
    rw [List.cons_append, blockLinesFrom, ih, number', offset', blockLinesFrom, List.cons_append]

theorem text_of_mem_blockLinesFrom {blockLine : BlockLine} (member : blockLine ∈ blockLinesFrom number offset lines) :
    blockLine.text ∈ lines := by
  induction lines generalizing number offset with
  | nil => cases member
  | cons line lines ih =>
    rcases List.mem_cons.mp member with rfl | later
    · exact List.mem_cons_self
    · exact List.mem_cons_of_mem line (ih later)

/-- Lines that have the indentation lose it, and what follows them is read as before. -/
theorem dedentLines_append (all : ∀ line ∈ before, hasIndent indent line = true) :
    dedentLines origin indent (blockLinesFrom number offset (before ++ after)) =
      (dedentLines origin indent (blockLinesFrom (number + before.length)
        (offset + Text.byteLength (endedLines before)) after)).map (before.map (unindented indent) ++ ·) := by
  rw [blockLinesFrom_append]
  generalize blockLinesFrom (number + before.length) _ after = rest
  induction before generalizing number offset with
  | nil =>
    change dedentLines origin indent rest = _
    cases dedentLines origin indent rest <;> rfl
  | cons line before ih =>
    obtain ⟨here, later⟩ := List.forall_mem_cons.mp all
    rw [blockLinesFrom, List.cons_append, dedentLines, ih later, List.map_cons, unindented]
    by_cases blank : Text.isBlankLine line = true
    · rw [if_pos blank, if_pos blank]
      cases dedentLines origin indent rest <;> rfl
    · have starts : indent.isPrefixOf line = true := by simpa [hasIndent, blank] using here
      rw [if_neg blank, if_neg blank, withoutIndent?, if_pos starts]
      cases dedentLines origin indent rest <;> rfl

theorem dedentLines_of_all (all : ∀ line ∈ lines, hasIndent indent line = true) :
    dedentLines origin indent (blockLinesFrom number offset lines) = .ok (lines.map (unindented indent)) := by
  rw [← List.append_nil lines, dedentLines_append all, blockLinesFrom, dedentLines, Except.map, List.append_nil,
    List.append_nil]

theorem dedentLines_of_first (all : ∀ line ∈ before, hasIndent indent line = true)
    (misses : hasIndent indent bad = false) :
    dedentLines origin indent (blockLinesFrom number offset (before ++ bad :: after)) =
      .error (BlockLine.inconsistent ⟨number + before.length, offset + Text.byteLength (endedLines before), bad⟩
        origin indent) := by
  obtain ⟨sharp, apart⟩ := Bool.or_eq_false_iff.mp misses
  rw [dedentLines_append all, blockLinesFrom, dedentLines, if_neg (by simp [sharp]), withoutIndent?,
    if_neg (by simp [apart])]
  rfl

/-- All lines pass a test, or there is a first one that does not. -/
theorem all_or_first (p : List Char → Bool) (lines : List (List Char)) : (∀ line ∈ lines, p line = true) ∨
    ∃ before bad after, lines = before ++ bad :: after ∧ (∀ line ∈ before, p line = true) ∧ p bad = false := by
  cases found : lines.find? (!p ·) with
  | none => exact .inl (by simpa using List.find?_eq_none.mp found)
  | some bad =>
    obtain ⟨misses, before, after, whole, all⟩ := List.find?_eq_some_iff_append.mp found
    exact .inr ⟨before, bad, after, whole, by simpa using all, by simpa using misses⟩

end Lines

section Dedent
variable {origin : Text.Place} {text first bad : List Char} {blanks before after rest : List (List Char)}

theorem blockIndent_of_lines (lines : Text.splitLines text = blanks ++ first :: rest)
    (blank : ∀ line ∈ blanks, Text.isBlankLine line = true) (sharp : Text.isBlankLine first = false) :
    blockIndent text = Text.leadingBlank first := by
  have none : blanks.find? (!Text.isBlankLine ·) = none := List.find?_eq_none.mpr (by simpa using blank)
  rw [blockIndent, lines, List.find?_append, none, Option.none_or, List.find?_cons_of_pos (by simpa using sharp)]
  rfl

theorem dedent_of_lines (lines : Text.splitLines text = blanks ++ first :: rest)
    (blank : ∀ line ∈ blanks, Text.isBlankLine line = true) (sharp : Text.isBlankLine first = false) :
    dedent origin text = (dedentLines origin (blockIndent text)
      (blockLinesFrom blanks.length (Text.byteLength (endedLines blanks)) (first :: rest))).map (Text.join ['\n']) := by
  have above : ∀ line ∈ blockLinesFrom 0 0 blanks, Text.isBlankLine line.text = true :=
    fun line member => blank line.text (text_of_mem_blockLinesFrom member)
  rw [blockIndent_of_lines lines blank sharp, dedent, blockLines, lines, blockLinesFrom_append,
    List.dropWhile_append_of_pos above, Nat.zero_add, Nat.zero_add, blockLinesFrom,
    List.dropWhile_cons_of_neg (by simp [sharp])]
  change (do return Text.join ['\n'] (← dedentLines origin (Text.leadingBlank first) (_ :: _))) = _
  cases dedentLines origin (Text.leadingBlank first) _ <;> rfl

theorem dedent_of_blank (blank : ∀ line ∈ Text.splitLines text, Text.isBlankLine line = true) :
    dedent origin text = .ok [] := by
  have above : ∀ line ∈ blockLines text, Text.isBlankLine line.text = true :=
    fun line member => blank line.text (text_of_mem_blockLinesFrom member)
  rw [dedent, List.dropWhile_eq_nil_iff.mpr above]

theorem dedent_of_all (all : ∀ line ∈ Text.splitLines text, hasIndent (blockIndent text) line = true) :
    dedent origin text = .ok (Text.join ['\n']
      (((Text.splitLines text).dropWhile Text.isBlankLine).map (unindented (blockIndent text)))) := by
  rcases all_or_first Text.isBlankLine (Text.splitLines text) with blank | ⟨blanks, first, rest, lines, blank, sharp⟩
  · rw [dedent_of_blank blank, List.dropWhile_eq_nil_iff.mpr blank]
    rfl
  · have inside : ∀ line ∈ first :: rest, hasIndent (blockIndent text) line = true :=
      fun line member => all line (lines ▸ List.mem_append_right blanks member)
    rw [dedent_of_lines lines blank sharp, dedentLines_of_all inside, lines, List.dropWhile_append_of_pos blank,
      List.dropWhile_cons_of_neg (by simp [sharp])]
    rfl

theorem dedent_of_first (lines : Text.splitLines text = before ++ bad :: after)
    (all : ∀ line ∈ before, hasIndent (blockIndent text) line = true)
    (misses : hasIndent (blockIndent text) bad = false) :
    dedent origin text = .error (BlockLine.inconsistent
      ⟨before.length, Text.byteLength (endedLines before), bad⟩ origin (blockIndent text)) := by
  obtain ⟨sharp, apart⟩ := hasIndent_eq_false.mp misses
  rcases all_or_first Text.isBlankLine before with blank | ⟨blanks, first, middle, rfl, blank, sharp'⟩
  · -- The first line that is not blank sets the indentation, which it has itself.
    rw [blockIndent_of_lines lines blank sharp] at apart
    exact absurd (leadingBlank_starts bad) apart
  · have inside : ∀ line ∈ first :: middle, hasIndent (blockIndent text) line = true :=
      fun line member => all line (List.mem_append_right blanks member)
    have lines' : Text.splitLines text = blanks ++ first :: (middle ++ bad :: after) := by simp [lines]
    have bytes : Text.byteLength (endedLines (blanks ++ first :: middle)) =
        Text.byteLength (endedLines blanks) + Text.byteLength (endedLines (first :: middle)) := by
      rw [endedLines, List.flatMap_append, Text.byteLength_append]
      rfl
    rw [dedent_of_lines lines' blank sharp', ← List.cons_append, dedentLines_of_first inside misses, bytes,
      List.length_append]
    rfl

theorem dedent_eq_ok {result : List Char} : dedent origin text = .ok result ↔
    (∀ line ∈ Text.splitLines text, hasIndent (blockIndent text) line = true) ∧ result = Text.join ['\n']
      (((Text.splitLines text).dropWhile Text.isBlankLine).map (unindented (blockIndent text))) := by
  rcases all_or_first (hasIndent (blockIndent text)) (Text.splitLines text) with
    all | ⟨before, bad, after, lines, all, misses⟩
  · rw [dedent_of_all all, Except.ok.injEq, eq_comm]
    exact (and_iff_right all).symm
  · rw [dedent_of_first lines all misses]
    constructor
    · intro same
      cases same
    · rintro ⟨whole, _⟩
      have here := whole bad (lines ▸ by simp)
      rw [misses] at here
      cases here

theorem dedent_eq_error_iff {e : ParseError} : dedent origin text = .error e ↔ ∃ before bad after,
    Text.splitLines text = before ++ bad :: after ∧ (∀ line ∈ before, hasIndent (blockIndent text) line = true) ∧
      hasIndent (blockIndent text) bad = false ∧ e = BlockLine.inconsistent
        ⟨before.length, Text.byteLength (endedLines before), bad⟩ origin (blockIndent text) := by
  constructor
  · intro failed
    rcases all_or_first (hasIndent (blockIndent text)) (Text.splitLines text) with
      all | ⟨before, bad, after, lines, all, misses⟩
    · rw [dedent_of_all all] at failed
      cases failed
    · rw [dedent_of_first lines all misses] at failed
      exact ⟨before, bad, after, lines, all, misses, (Except.error.inj failed).symm⟩
  · rintro ⟨before, bad, after, lines, all, misses, rfl⟩
    exact dedent_of_first lines all misses

end Dedent

/-- A line and the same line in an indented text, where blank lines have any white space. -/
inductive Indented (indent : List Char) : List Char → List Char → Prop
  | sharp {line : List Char} (sharp : Text.isBlankLine line = false) : Indented indent line (indent ++ line)
  | blank {line written : List Char} (blank : Text.isBlankLine line = true)
      (spaces : Text.isBlankLine written = true) (whole : '\n' ∉ written) : Indented indent line written

/-- Lines of which the first one starts without white space, and the lines of a text that has them behind an
indentation and below blank lines. -/
structure IndentedBlock (indent first : List Char) (rest blanks written : List (List Char)) : Prop where
  start : ∃ c ∈ first.head?, Text.isBlank c = false
  plain : ∀ line ∈ first :: rest, '\n' ∉ line
  margin : ∀ c ∈ indent, Text.isBlank c = true ∧ c ≠ '\n'
  above : ∀ line ∈ blanks, Text.isBlankLine line = true ∧ '\n' ∉ line
  below : List.Forall₂ (Indented indent) (first :: rest) written

def emptied (line : List Char) : List Char := if Text.isBlankLine line then [] else line

section Indented
variable {indent line first written : List Char} {lines rest blanks writtens : List (List Char)}

theorem isBlankLine_append_of_blank (margin : ∀ c ∈ indent, Text.isBlank c = true) (line : List Char) :
    Text.isBlankLine (indent ++ line) = Text.isBlankLine line := by
  have spaces : indent.all Text.isBlank = true := List.all_eq_true.mpr margin
  rw [Text.isBlankLine, List.all_append, spaces, Bool.true_and]
  rfl

theorem isBlankLine_of_start (start : ∃ c ∈ first.head?, Text.isBlank c = false) :
    Text.isBlankLine first = false := by
  obtain ⟨c, head, sharp⟩ := start
  exact List.all_eq_false.mpr ⟨c, List.mem_of_mem_head? head, by simp [sharp]⟩

theorem leadingBlank_append_of_start (margin : ∀ c ∈ indent, Text.isBlank c = true)
    (start : ∃ c ∈ first.head?, Text.isBlank c = false) : Text.leadingBlank (indent ++ first) = indent := by
  obtain ⟨c, head, sharp⟩ := start
  obtain ⟨tail, rfl⟩ := List.head?_eq_some_iff.mp head
  rw [Text.leadingBlank, List.takeWhile_append_of_pos margin, List.takeWhile_cons_of_neg (by simp [sharp]),
    List.append_nil]

theorem Indented.unindented (margin : ∀ c ∈ indent, Text.isBlank c = true ∧ c ≠ '\n') (plain : '\n' ∉ line)
    (indented : Indented indent line written) :
    '\n' ∉ written ∧ hasIndent indent written = true ∧ unindented indent written = emptied line := by
  cases indented with
  | sharp sharp =>
    have visible := (isBlankLine_append_of_blank (fun c member => (margin c member).1) line).trans sharp
    have starts : indent.isPrefixOf (indent ++ line) = true := by simp
    refine ⟨Text.not_mem_append (fun member => (margin _ member).2 rfl) plain, by simp [hasIndent, starts], ?_⟩
    rw [Stencil.unindented, visible, emptied, sharp]
    exact List.drop_left
  | blank blank spaces whole =>
    exact ⟨whole, by simp [hasIndent, spaces], by simp [Stencil.unindented, emptied, spaces, blank]⟩

theorem unindented_of_indented (margin : ∀ c ∈ indent, Text.isBlank c = true ∧ c ≠ '\n')
    (plain : ∀ line ∈ lines, '\n' ∉ line) (indented : List.Forall₂ (Indented indent) lines writtens) :
    (∀ written ∈ writtens, '\n' ∉ written ∧ hasIndent indent written = true) ∧
      writtens.map (Stencil.unindented indent) = lines.map emptied := by
  induction indented with
  | nil => exact ⟨List.forall_mem_nil _, rfl⟩
  | cons here _ ih =>
    obtain ⟨own, others⟩ := List.forall_mem_cons.mp plain
    obtain ⟨whole, has, same⟩ := here.unindented margin own
    obtain ⟨all, rest⟩ := ih others
    exact ⟨List.forall_mem_cons.mpr ⟨⟨whole, has⟩, all⟩, by rw [List.map_cons, List.map_cons, same, rest]⟩

/-- Without an indentation a line may stand as it is. -/
theorem Indented.self (plain : '\n' ∉ line) : Indented [] line line := by
  cases blank : Text.isBlankLine line with
  | true => exact .blank blank blank plain
  | false => exact .sharp blank

theorem emptied_unindented (margin : ∀ c ∈ indent, Text.isBlank c = true) (has : hasIndent indent line = true) :
    emptied (unindented indent line) = unindented indent line := by
  unfold unindented
  split
  next => rfl
  next sharp =>
    have starts : indent <+: line := by simpa [hasIndent, sharp] using has
    obtain ⟨tail, rfl⟩ := starts
    rw [isBlankLine_append_of_blank margin] at sharp
    rw [List.drop_left, emptied, if_neg sharp]

theorem not_mem_unindented (plain : '\n' ∉ line) : '\n' ∉ unindented indent line := by
  unfold unindented
  split
  · exact List.not_mem_nil
  · exact fun member => plain (List.mem_of_mem_drop member)

/-- The line that sets the indentation starts without white space once it has lost it. -/
theorem start_unindented (sharp : Text.isBlankLine first = false) :
    ∃ c ∈ (unindented (Text.leadingBlank first) first).head?, Text.isBlank c = false := by
  have tail : (first.takeWhile Text.isBlank ++ first.dropWhile Text.isBlank).drop (Text.leadingBlank first).length =
      first.dropWhile Text.isBlank := List.drop_left
  rw [List.takeWhile_append_dropWhile] at tail
  have some : first.dropWhile Text.isBlank ≠ [] := by
    intro none
    have blank : Text.isBlankLine first = true := List.all_eq_true.mpr (List.dropWhile_eq_nil_iff.mp none)
    rw [sharp] at blank
    cases blank
  rw [unindented, sharp, if_neg Bool.false_ne_true, tail]
  obtain ⟨c, after, whole⟩ := List.exists_cons_of_ne_nil some
  have head := List.head?_dropWhile_not Text.isBlank first
  rw [whole] at head ⊢
  exact ⟨c, rfl, by simpa using head⟩

theorem dedent_of_indented (origin : Text.Place) (block : IndentedBlock indent first rest blanks writtens) :
    dedent origin (Text.join ['\n'] (blanks ++ writtens)) = .ok (Text.join ['\n'] ((first :: rest).map emptied)) := by
  obtain ⟨start, plain, margin, above, below⟩ := block
  have margin' : ∀ c ∈ indent, Text.isBlank c = true := fun c member => (margin c member).1
  have sharp := isBlankLine_of_start start
  obtain ⟨all, same⟩ := unindented_of_indented margin plain below
  obtain ⟨written, writtens, here, _, rfl⟩ := List.forall₂_cons_left_iff.mp below
  cases here with
  | blank blank =>
    rw [sharp] at blank
    cases blank
  | sharp =>
    have visible := (isBlankLine_append_of_blank margin' first).trans sharp
    have blank : ∀ line ∈ blanks, Text.isBlankLine line = true := fun line member => (above line member).1
    have lines : Text.splitLines (Text.join ['\n'] (blanks ++ (indent ++ first) :: writtens)) =
        blanks ++ (indent ++ first) :: writtens := by
      refine Text.splitLines_join (List.forall_mem_append.mpr ⟨?_, ?_⟩) (by simp)
      · exact fun line member => (above line member).2
      · exact fun line member => (all line member).1
    have setting := (blockIndent_of_lines lines blank visible).trans (leadingBlank_append_of_start margin' start)
    have has : ∀ line ∈ blanks ++ (indent ++ first) :: writtens, hasIndent indent line = true := by
      refine List.forall_mem_append.mpr ⟨fun line member => ?_, fun line member => (all line member).2⟩
      rw [hasIndent, blank line member, Bool.true_or]
    refine dedent_eq_ok.mpr ⟨by rwa [lines, setting], ?_⟩
    rw [lines, setting, List.dropWhile_append_of_pos blank, List.dropWhile_cons_of_neg (by simp [visible]), same]

end Indented

/-- A text that has been dedented has no indentation to lose. -/
theorem dedent_again {origin : Text.Place} {text result : List Char} (ok : dedent origin text = .ok result)
    (origin' : Text.Place) : dedent origin' result = .ok result := by
  obtain ⟨has, rfl⟩ := dedent_eq_ok.mp ok
  rcases all_or_first Text.isBlankLine (Text.splitLines text) with blank | ⟨blanks, first, rest, lines, blank, sharp⟩
  · rw [List.dropWhile_eq_nil_iff.mpr blank]
    rfl
  · have setting := blockIndent_of_lines lines blank sharp
    have margin : ∀ c ∈ blockIndent text, Text.isBlank c = true := by
      rw [setting]
      exact fun c member => List.mem_takeWhile_imp member
    rw [lines] at has ⊢
    rw [List.dropWhile_append_of_pos blank, List.dropWhile_cons_of_neg (by simp [sharp])]
    have inside : ∀ line ∈ first :: rest, hasIndent (blockIndent text) line = true ∧ '\n' ∉ line := fun line member =>
      ⟨has line (List.mem_append_right blanks member),
        Text.not_mem_of_mem_splitLines (lines ▸ List.mem_append_right blanks member)⟩
    have plain : ∀ line ∈ (first :: rest).map (unindented (blockIndent text)), '\n' ∉ line :=
      List.forall_mem_map.mpr fun line member => not_mem_unindented (inside line member).2
    have block : IndentedBlock [] (unindented (blockIndent text) first) (rest.map (unindented (blockIndent text))) []
        ((first :: rest).map (unindented (blockIndent text))) := by
      refine ⟨setting ▸ start_unindented sharp, plain, List.forall_mem_nil _, List.forall_mem_nil _, ?_⟩
      exact List.forall₂_same.mpr fun line member => Indented.self (plain line member)
    have kept : ((first :: rest).map (unindented (blockIndent text))).map emptied =
        (first :: rest).map (unindented (blockIndent text)) := by
      rw [List.map_map]
      exact List.map_congr_left fun line member => emptied_unindented margin (inside line member).1
    have done := dedent_of_indented origin' block
    rwa [← List.map_cons, kept] at done

/-- Dedenting gives back lines that were indented, with blank lines emptied. It fails where a line that is not blank
does not have the whole indentation of the first such line, at the first line of this kind. Done again it changes
nothing. -/
theorem dedent_undoes_indent (origin : Text.Place) (text : List Char) :
    (∀ indent first rest blanks written, IndentedBlock indent first rest blanks written →
      text = Text.join ['\n'] (blanks ++ written) →
        dedent origin text = .ok (Text.join ['\n'] ((first :: rest).map emptied))) ∧
    ((∃ e, dedent origin text = .error e) ↔
      ∃ line ∈ Text.splitLines text, Text.isBlankLine line = false ∧ ¬ blockIndent text <+: line) ∧
    (∀ e, dedent origin text = .error e → ∃ before bad after, Text.splitLines text = before ++ bad :: after ∧
      (∀ line ∈ before, Text.isBlankLine line = true ∨ blockIndent text <+: line) ∧
      Text.isBlankLine bad = false ∧ ¬ blockIndent text <+: bad ∧
      e = ⟨⟨origin.position + Text.byteLength (endedLines before), origin.line + before.length⟩,
        .inconsistentIndent (String.ofList (blockIndent text)) (String.ofList (Text.leadingBlank bad))⟩) ∧
    ∀ result origin', dedent origin text = .ok result → dedent origin' result = .ok result := by
  refine ⟨?_, ⟨?_, ?_⟩, ?_, fun result origin' ok => dedent_again ok origin'⟩
  · rintro indent first rest blanks written block rfl
    exact dedent_of_indented origin block
  · rintro ⟨e, failed⟩
    obtain ⟨before, bad, after, lines, _, misses, _⟩ := dedent_eq_error_iff.mp failed
    exact ⟨bad, lines ▸ by simp, hasIndent_eq_false.mp misses⟩
  · rintro ⟨line, member, misses⟩
    cases outcome : dedent origin text with
    | error e => exact ⟨e, rfl⟩
    | ok result =>
      have has := (dedent_eq_ok.mp outcome).1 line member
      rw [hasIndent_eq_false.mpr misses] at has
      cases has
  · intro e failed
    obtain ⟨before, bad, after, lines, all, misses, rfl⟩ := dedent_eq_error_iff.mp failed
    obtain ⟨sharp, apart⟩ := hasIndent_eq_false.mp misses
    refine ⟨before, bad, after, lines, fun line member => ?_, sharp, apart, rfl⟩
    simpa [hasIndent] using all line member

theorem dedent_undoes_indent_of_tabs : ∃ text : List Char,
    text = Text.join ['\n'] [[' '], ['\t', 'a'], [], ['\t', ' ', 'b']] ∧
    dedent ⟨10, 4⟩ text = .ok ['a', '\n', '\n', ' ', 'b'] ∧
    dedent ⟨0, 1⟩ ['a', '\n', '\n', ' ', 'b'] = .ok ['a', '\n', '\n', ' ', 'b'] ∧
    ∃ e, dedent ⟨10, 4⟩ ['\t', 'a', '\n', ' ', 'b'] = .error e := by
  have block : IndentedBlock ['\t'] ['a'] [[' '], [' ', 'b']] [[' ']] [['\t', 'a'], [], ['\t', ' ', 'b']] := by
    have margin : Text.isBlank '\t' = true ∧ '\t' ≠ '\n' := by decide
    have above : Text.isBlankLine [' '] = true ∧ '\n' ∉ [' '] := by decide
    refine ⟨⟨'a', rfl, by decide⟩, by simp, List.forall_mem_singleton.mpr margin,
      List.forall_mem_singleton.mpr above, ?_⟩
    have first : Indented ['\t'] ['a'] ['\t', 'a'] := .sharp (by decide)
    have last : Indented ['\t'] [' ', 'b'] ['\t', ' ', 'b'] := .sharp (by decide)
    have blank : Indented ['\t'] [' '] [] := .blank (by decide) (by decide) List.not_mem_nil
    exact .cons first (.cons blank (.cons last .nil))
  obtain ⟨undone, _, _, again⟩ := dedent_undoes_indent ⟨10, 4⟩
    (Text.join ['\n'] [[' '], ['\t', 'a'], [], ['\t', ' ', 'b']])
  obtain ⟨_, fails, _⟩ := dedent_undoes_indent ⟨10, 4⟩ ['\t', 'a', '\n', ' ', 'b']
  have given := undone _ _ _ _ _ block rfl
  exact ⟨_, rfl, given, again _ ⟨0, 1⟩ given, fails.mpr ⟨[' ', 'b'], by decide⟩⟩

end Stencil
