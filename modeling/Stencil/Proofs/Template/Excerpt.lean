import Mathlib.Data.List.TakeWhile
import Stencil.Proofs.Template.Places
import Stencil.Proofs.Text.Columns

/-! Excerpts: the line of a source where an error of parsing starts, and its underline. Main statement: the line is
there for every error; the underline starts in the column of the error and stays on the line, except that it can not
be drawn under a line without indentation that starts with a character of several bytes. -/
namespace Stencil

def endsLine (c : Char) : Bool := c = '\n' || c = '\r'

section Lines

theorem utf8Size_of_endsLine {c : Char} (ends : endsLine c = true) : c.utf8Size = 1 := by
  have known : c = '\n' ∨ c = '\r' := by simpa [endsLine] using ends
  rcases known with rfl | rfl <;> rfl

theorem shownLines_of_end {after : List Char} (ends : ∀ c ∈ after.head?, endsLine c = true) :
    ∃ lines, shownLines after = [] :: lines := by
  cases after with
  | nil => exact ⟨[], rfl⟩
  | cons c rest =>
    exact ⟨shownLines rest, if_pos (ends c rfl)⟩

theorem shownLines_append {line rest first : List Char} {lines : List (List Char)}
    (plain : ∀ c ∈ line, endsLine c = false) (shown : shownLines rest = first :: lines) :
    shownLines (line ++ rest) = (line ++ first) :: lines := by
  induction line with
  | nil => exact shown
  | cons c line ih =>
    obtain ⟨own, others⟩ := List.forall_mem_cons.mp plain
    have inside : ¬ endsLine c = true := by simp [own]
    rw [List.cons_append, shownLines, ih others]
    exact if_neg inside

theorem lineHolding?_first (front back : List Char) (lines : List (List Char)) :
    lineHolding? (Text.byteLength front) ((front ++ back) :: lines) =
      some (front ++ back, Text.byteLength front) := by
  have inside : Text.byteLength front ≤ Text.byteLength (front ++ back) := by
    rw [Text.byteLength_append]
    exact Nat.le_add_right _ _
  rw [lineHolding?, if_pos inside]

theorem lineHolding?_later (line : List Char) (position : Nat) (lines : List (List Char)) :
    lineHolding? (Text.byteLength line + (1 + position)) (line :: lines) = lineHolding? position lines := by
  have beyond : ¬ Text.byteLength line + (1 + position) ≤ Text.byteLength line := by omega
  have left : Text.byteLength line + (1 + position) - (Text.byteLength line + 1) = position := by omega
  rw [lineHolding?, if_neg beyond, left]

/-- A text of lines with their ends. -/
inductive WholeLines : List Char → Prop
  | nil : WholeLines []
  | cons {line rest : List Char} {c : Char} (plain : ∀ d ∈ line, endsLine d = false) (ends : endsLine c = true)
      (others : WholeLines rest) : WholeLines (line ++ c :: rest)

/-- Before a place of a source there are whole lines and the front of the line with the place, and behind it there is
the back of that line up to its end. -/
structure LineAround (before rest front back : List Char) : Prop where
  before : ∃ start, WholeLines start ∧ before = start ++ front
  rest : ∃ after, (∀ c ∈ after.head?, endsLine c = true) ∧ rest = back ++ after
  front_plain : ∀ c ∈ front, endsLine c = false
  back_plain : ∀ c ∈ back, endsLine c = false

theorem LineAround.lineHolding {before rest front back : List Char} (around : LineAround before rest front back) :
    lineHolding? (Text.byteLength before) (shownLines (before ++ rest)) =
      some (front ++ back, Text.byteLength front) := by
  obtain ⟨⟨start, whole, rfl⟩, ⟨after, ends, rfl⟩, front_plain, back_plain⟩ := around
  -- Each of the whole lines takes its bytes and the byte of its end off the position.
  induction whole with
  | nil =>
    obtain ⟨later, shown⟩ := shownLines_of_end ends
    have behind := shownLines_append front_plain (shownLines_append back_plain shown)
    rw [List.append_nil] at behind
    rw [List.nil_append, behind]
    exact lineHolding?_first front back later
  | @cons line start c plain ended _ ih =>
    have others : shownLines (c :: (start ++ front ++ (back ++ after))) =
        [] :: shownLines (start ++ front ++ (back ++ after)) := if_pos ended
    have shown := shownLines_append plain others
    rw [List.append_nil] at shown
    have bytes : Text.byteLength (line ++ c :: start ++ front) =
        Text.byteLength line + (1 + Text.byteLength (start ++ front)) := by
      rw [List.append_assoc, Text.byteLength_append, List.cons_append, Text.byteLength, utf8Size_of_endsLine ended]
    have lined : line ++ c :: start ++ front ++ (back ++ after) =
        line ++ c :: (start ++ front ++ (back ++ after)) := by simp
    rw [bytes, lined, shown, lineHolding?_later]
    exact ih

theorem exists_wholeLines (before : List Char) :
    ∃ start front, WholeLines start ∧ (∀ c ∈ front, endsLine c = false) ∧ before = start ++ front := by
  induction before with
  | nil => exact ⟨[], [], .nil, by simp, rfl⟩
  | cons c before ih =>
    obtain ⟨start, front, whole, plain, rfl⟩ := ih
    cases ended : endsLine c with
    | true => exact ⟨[] ++ c :: start, front, .cons (by simp) ended whole, plain, rfl⟩
    | false =>
      cases whole with
      | nil => exact ⟨[], c :: front, .nil, List.forall_mem_cons.mpr ⟨ended, plain⟩, rfl⟩
      | @cons line rest d inside ends others =>
        have longer : ∀ e ∈ c :: line, endsLine e = false := List.forall_mem_cons.mpr ⟨ended, inside⟩
        exact ⟨(c :: line) ++ d :: rest, front, .cons longer ends others, plain, by simp⟩

theorem exists_lineAround (before rest : List Char) : ∃ front back, LineAround before rest front back := by
  obtain ⟨start, front, whole, front_plain, split⟩ := exists_wholeLines before
  have cut : rest.takeWhile (!endsLine ·) ++ rest.dropWhile (!endsLine ·) = rest := List.takeWhile_append_dropWhile
  refine ⟨front, rest.takeWhile (!endsLine ·), ⟨start, whole, split⟩, ⟨_, fun c head => ?_, cut.symm⟩,
    front_plain, ?_⟩
  · have stops := List.head?_dropWhile_not (!endsLine ·) rest
    simp_all
  · intro c member
    simpa using List.mem_takeWhile_imp member

end Lines

section Underlines

/-- An underline from a column on. -/
def drawn (column carets : Nat) : List Char := List.replicate column ' ' ++ List.replicate carets '^'

/-- The carets of an underline stay within a width, unless there is only one. -/
def Fits (column carets limit : Nat) : Prop := 1 ≤ carets ∧ (carets = 1 ∨ column + carets ≤ limit)

theorem underline?_append (front : List Char) {marked tail : List Char} {length : Nat}
    (cut : min length (Text.byteLength (marked ++ tail)) = Text.byteLength marked) :
    underline? (front ++ (marked ++ tail)) (Text.byteLength front) length =
      some (drawn (Text.width front) (max (Text.width marked) 1)) := by
  unfold underline?
  rw [Text.takeBytes?_append, Text.dropBytes?_append, Option.bind_eq_bind, Option.bind_some, Option.bind_some, cut,
    Text.takeBytes?_append]
  rfl

theorem fits_of_le {column marked limit : Nat} (inside : column + marked ≤ limit) :
    Fits column (max marked 1) limit := by
  unfold Fits
  omega

/-- A text whose ends join nothing, so that it has its own width wherever it stands. -/
structure Separate (mark : List Char) : Prop where
  any : mark ≠ []
  head : ∀ c ∈ mark.head?, Text.Apart c
  last : ∀ c ∈ mark.getLast?, Text.Apart c

theorem Separate.append_head {mark : List Char} (separate : Separate mark) {back rest : List Char}
    (starts : back <+: mark ++ rest) : ∀ c ∈ back.head?, Text.Apart c := by
  intro c head
  have first := separate.head c
  cases mark with
  | nil => exact absurd rfl separate.any
  | cons d mark =>
    cases back with
    | nil => cases head
    | cons _ _ =>
      cases head
      exact first (congrArg some (List.cons_prefix_cons.mp starts).1.symm)

/-- The line ends behind what is covered, or cuts it. -/
theorem Separate.underlined {mark back after rest : List Char} (separate : Separate mark)
    (same : back ++ after = mark ++ rest) (front : List Char) :
    ∃ carets, Fits (Text.width front) carets (Text.width (front ++ back)) ∧
      underline? (front ++ back) (Text.byteLength front) (Text.byteLength mark) =
        some (drawn (Text.width front) carets) := by
  have start : back <+: mark ++ rest := ⟨after, same⟩
  have wide := Text.width_append_of_head (separate.append_head start) front
  rcases List.append_eq_append_iff.mp same with ⟨beyond, whole, _⟩ | ⟨tail, whole, _⟩
  · have cut : min (Text.byteLength mark) (Text.byteLength (back ++ [])) = Text.byteLength back := by
      rw [List.append_nil, whole, Text.byteLength_append]
      omega
    have underlined := underline?_append front cut
    rw [List.append_nil] at underlined
    exact ⟨_, fits_of_le (Nat.le_of_eq wide.symm), underlined⟩
  · subst whole
    have cut : min (Text.byteLength mark) (Text.byteLength (mark ++ tail)) = Text.byteLength mark := by
      rw [Text.byteLength_append]
      omega
    have inside := Text.width_append_of_getLast separate.last tail
    exact ⟨_, fits_of_le (by omega), underline?_append front cut⟩

theorem width_of_byte {c : Char} (narrow : c.utf8Size = 1) : Text.width [c] = 1 := by
  have ascii := Char.utf8Size_eq_one_iff.mp narrow
  apply Text.width_basic
  intro d member
  cases List.mem_singleton.mp member
  have bound : c.toNat ≤ 127 := UInt32.le_iff_toNat_le.mp ascii
  omega

theorem underlined_byte (front : List Char) {back : List Char} (narrow : ∀ c ∈ back.head?, c.utf8Size = 1) :
    underline? (front ++ back) (Text.byteLength front) 1 = some (drawn (Text.width front) 1) := by
  cases back with
  | nil =>
    have cut : min 1 (Text.byteLength ([] ++ [])) = Text.byteLength [] := rfl
    exact underline?_append front cut
  | cons c tail =>
    have size := narrow c rfl
    have cut : min 1 (Text.byteLength ([c] ++ tail)) = Text.byteLength [c] := by
      simp only [List.cons_append, List.nil_append, Text.byteLength, size]
      omega
    have underlined := underline?_append front cut
    rwa [width_of_byte size] at underlined

theorem underline?_inside {c : Char} (wide : 1 < c.utf8Size) (front tail : List Char) :
    underline? (front ++ c :: tail) (Text.byteLength front) 1 = none := by
  have byte : min 1 (Text.byteLength (c :: tail)) = 0 + 1 := by
    rw [Text.byteLength]
    omega
  have stuck : Text.takeBytes? (0 + 1) (c :: tail) = none := by rw [Text.takeBytes?, if_neg (by omega)]
  unfold underline?
  rw [Text.takeBytes?_append, Text.dropBytes?_append, Option.bind_eq_bind, Option.bind_some, Option.bind_some, byte,
    stuck]
  rfl

end Underlines

section Excerpts

/-- The line of an error over its underline, both behind two spaces. -/
def excerptText (line mark : List Char) : List Char := [' ', ' '] ++ line ++ ['\n', ' ', ' '] ++ mark ++ ['\n']

variable {e : ParseError} {before rest front back : List Char}

theorem LineAround.sourceLine (around : LineAround before rest front back)
    (position : e.place.position = Text.byteLength before) :
    e.sourceLine? (before ++ rest) = some (front ++ back) := by
  rw [ParseError.sourceLine?, position, around.lineHolding]
  rfl

theorem LineAround.excerpt_wide (around : LineAround before rest front back)
    (position : e.place.position = Text.byteLength before) (wide : excerptWidth < Text.width (front ++ back)) :
    e.excerpt? (before ++ rest) = some [] := by
  rw [ParseError.excerpt?, position, around.lineHolding]
  exact if_pos wide

theorem LineAround.excerpt (around : LineAround before rest front back)
    (position : e.place.position = Text.byteLength before) (narrow : Text.width (front ++ back) ≤ excerptWidth) :
    e.excerpt? (before ++ rest) =
      (underline? (front ++ back) (Text.byteLength front) e.length).map (excerptText (front ++ back)) := by
  rw [ParseError.excerpt?, position, around.lineHolding]
  have shown : ¬ Text.width (front ++ back) > excerptWidth := Nat.not_lt.mpr narrow
  simp only [Option.bind_eq_bind, Option.bind_some, shown, if_false, Option.map_eq_bind]
  rfl

/-- What an error covers from its start on: a separate text, or one byte of a line without any indentation. -/
inductive ParseError.Covering (rest : List Char) : ParseError → Prop
  | piece {e : ParseError} {mark after : List Char} (split : rest = mark ++ after) (separate : Separate mark)
      (length : e.length = Text.byteLength mark) : Covering rest e
  | byte (place : Text.Place) (expected : String) : Covering rest ⟨place, .inconsistentIndent expected ""⟩

theorem separate_of_braces {mark : List Char} (head : mark.head? = some '{') (last : mark.getLast? = some '{' ∨
    mark.getLast? = some '}') : Separate mark := by
  have any : mark ≠ [] := by
    rintro rfl
    cases head
  refine ⟨any, fun c first => ?_, fun c final => Text.apart_of_brace ?_⟩
  · cases head.symm.trans first
    exact Text.apart_of_brace (.inl rfl)
  · exact last.imp (fun same => Option.some.inj (final.symm.trans same))
      (fun same => Option.some.inj (final.symm.trans same))

theorem separate_of_blank {mark : List Char} (any : mark ≠ []) (blank : ∀ c ∈ mark, Text.isBlank c = true) :
    Separate mark :=
  ⟨any, fun c first => Text.apart_of_isBlank (blank c (List.mem_of_mem_head? first)),
    fun c last => Text.apart_of_isBlank (blank c (List.mem_of_getLast? last))⟩

theorem ParseError.Located.covering {source : List Char} (located : e.Located source) :
    ∃ before rest, source = before ++ rest ∧ e.place.position = Text.byteLength before ∧ e.Covering rest := by
  cases located with
  | @directive directive fault stands covers =>
    obtain ⟨start, raw⟩ := directive
    obtain ⟨before, after, split, here, _⟩ := stands
    have separate : Separate (Directive.source ⟨start, raw⟩) := by
      apply separate_of_braces
      · simp [Directive.source, Text.opening]
      · simp [Directive.source, Text.closing]
    have position : start.position = Text.byteLength before :=
      (congrArg Text.Place.position here).trans (Text.Place.position_advance before)
    exact ⟨before, _, split, position, .piece rfl separate (ParseError.length_of_directive covers)⟩
  | @delimiter before after split =>
    have separate : Separate Text.opening := separate_of_braces rfl (.inl rfl)
    exact ⟨before, _, split, Text.Place.position_advance before, .piece rfl separate rfl⟩
  | @line before line after expected split behind plain sharp =>
    refine ⟨before, _, split, Text.Place.position_advance before, ?_⟩
    by_cases bare : Text.leadingBlank line = []
    · rw [bare]
      exact .byte _ expected
    · obtain ⟨tail, whole⟩ := Text.leadingBlank_append line
      have separate : Separate (Text.leadingBlank line) :=
        separate_of_blank bare fun c member => List.mem_takeWhile_imp member
      have lined : line ++ after = Text.leadingBlank line ++ (tail ++ after) := by
        rw [← List.append_assoc, ← whole]
      refine .piece lined separate ?_
      have any := Text.byteLength_pos bare
      simp only [ParseError.length, Text.utf8ByteSize_ofList]
      omega

/-- The error covers one byte of a character of several. -/
def ParseError.SplitsCharacter (e : ParseError) (back : List Char) : Prop :=
  (∃ expected, e.fault = .inconsistentIndent expected "") ∧ ∃ c ∈ back.head?, 1 < c.utf8Size

/-- What is shown of an error that starts behind the text before it: nothing for a wide line, and no excerpt at all
for a character that is split. -/
structure ParseError.Shows (e : ParseError) (source before rest front back : List Char) : Prop where
  split : source = before ++ rest
  start : e.range.1 = Text.byteLength before
  around : LineAround before rest front back
  line : e.sourceLine? source = some (front ++ back)
  wide : excerptWidth < Text.width (front ++ back) → e.excerpt? source = some []
  missing : Text.width (front ++ back) ≤ excerptWidth → e.SplitsCharacter back → e.excerpt? source = none
  underlined : Text.width (front ++ back) ≤ excerptWidth → ¬ e.SplitsCharacter back → ∃ carets,
    Fits (Text.width front) carets (Text.width (front ++ back)) ∧
      e.excerpt? source = some (excerptText (front ++ back) (drawn (Text.width front) carets))

theorem excerpt_of_parse_error (source : List Char) (e : ParseError) (failed : Template.parse source = .error e) :
    ∃ before rest front back, e.Shows source before rest front back := by
  obtain ⟨before, rest, rfl, position, covering⟩ := (located_of_parse failed).covering
  obtain ⟨front, back, around⟩ := exists_lineAround before rest
  refine ⟨before, rest, front, back, rfl, position, around, around.sourceLine position, around.excerpt_wide position,
    fun narrow splits => ?_, fun narrow whole => ?_⟩
  · rw [around.excerpt position narrow]
    obtain ⟨⟨expected, bare⟩, c, head, wide⟩ := splits
    cases back with
    | nil => cases head
    | cons d tail =>
      cases head
      have byte : e.length = 1 := by
        rw [ParseError.length, bare]
        rfl
      rw [byte, underline?_inside wide]
      rfl
  · rw [around.excerpt position narrow]
    cases covering with
    | @piece _ mark after split separate length =>
      obtain ⟨later, _, lined⟩ := around.rest
      obtain ⟨carets, inside, underlined⟩ := separate.underlined (lined.symm.trans split) front
      refine ⟨carets, inside, ?_⟩
      rw [length, underlined]
      rfl
    | byte place expected =>
      have single : ∀ c ∈ back.head?, c.utf8Size = 1 := by
        intro c head
        have positive := c.utf8Size_pos
        have other : ¬ 1 < c.utf8Size := fun wide => whole ⟨⟨expected, rfl⟩, c, head, wide⟩
        omega
      exact ⟨1, ⟨Nat.le_refl 1, .inl rfl⟩, congrArg (Option.map _) (underlined_byte front single)⟩

theorem excerpt_of_stray_close : ∃ e before rest front back,
    Template.parse "né\n ü {{endif}}".toList = .error e ∧
      e.Shows "né\n ü {{endif}}".toList before rest front back := by
  have failed : (Template.parse "né\n ü {{endif}}".toList).toOption.isNone := by decide +kernel
  cases found : Template.parse "né\n ü {{endif}}".toList with
  | ok template => rw [found] at failed; contradiction
  | error e =>
    obtain ⟨before, rest, front, back, shows⟩ := excerpt_of_parse_error _ e found
    exact ⟨e, before, rest, front, back, rfl, shows⟩

/-- The underline of a line without indentation covers one byte, which is not all of its first character. -/
theorem excerpt_missing_of_bare_line : ∃ e,
    Template.parse "{{script}}\n  a = 1\né = 2\n{{endscript}}".toList = .error e ∧
    e.excerpt? "{{script}}\n  a = 1\né = 2\n{{endscript}}".toList = none := by
  have failed : fault? (Template.parse "{{script}}\n  a = 1\né = 2\n{{endscript}}".toList) =
      some ⟨⟨19, 3⟩, .inconsistentIndent "  " ""⟩ := by decide +kernel
  exact ⟨_, fault?_eq_some.mp failed, by decide +kernel⟩

end Excerpts

end Stencil
