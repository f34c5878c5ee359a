import Stencil.Proofs.Template.Excerpt

/-! The line that is shown of an error and the line that has its number. Lines are counted by line feeds, and what is
shown is cut at carriage returns too. Main statement: what is shown is the part of the numbered line between two
carriage returns in which the error starts. It is the line without a carriage return at its end exactly where the line
has no other one. -/
namespace Stencil

/-- The line with a number in a source that is split at line feeds. The first line has the number 1. -/
def numberedLine? (source : List Char) (number : Nat) : Option (List Char) := (Text.splitLines source)[number - 1]?

def withoutReturn (line : List Char) : List Char := if line.getLast? = some '\r' then line.dropLast else line

section Split

variable {lines : List (List Char)} {line below text : List Char}

theorem exists_endedLines (text : List Char) : ∃ lines line, (∀ above ∈ lines, '\n' ∉ above) ∧ '\n' ∉ line ∧
    text = endedLines lines ++ line := by
  obtain ⟨lines, line, split⟩ : ∃ lines line, Text.splitLines text = lines ++ [line] := by
    have last := List.getLast?_eq_some_getLast (Text.splitLines_ne_nil text)
    obtain ⟨lines, split⟩ := List.getLast?_eq_some_iff.mp last
    exact ⟨lines, _, split⟩
  have plain : ∀ part ∈ lines ++ [line], '\n' ∉ part := fun part member =>
    Text.not_mem_of_mem_splitLines (split ▸ member)
  obtain ⟨above, own⟩ := List.forall_mem_append.mp plain
  refine ⟨lines, line, above, own line List.mem_cons_self, ?_⟩
  rw [← Text.join_splitLines text, split, join_append (List.cons_ne_nil line [])]
  rfl

theorem splitLines_endedLines (plain : ∀ above ∈ lines, '\n' ∉ above) (rest : List Char) :
    Text.splitLines (endedLines lines ++ rest) = lines ++ Text.splitLines rest := by
  induction lines with
  | nil => rfl
  | cons line lines ih =>
    obtain ⟨own, others⟩ := List.forall_mem_cons.mp plain
    rw [endedLines_cons, List.append_assoc, List.append_assoc, List.singleton_append,
      Text.splitLines_append_line own, ih others, List.cons_append]

theorem splitLines_append_end (plain : '\n' ∉ line) (ends : ∀ c ∈ below.head?, c = '\n') :
    ∃ later, Text.splitLines (line ++ below) = line :: later := by
  cases below with
  | nil => exact ⟨[], by rw [List.append_nil, Text.splitLines_of_not_mem plain]⟩
  | cons c below =>
    obtain rfl := ends c rfl
    exact ⟨_, Text.splitLines_append_line plain below⟩

theorem withoutReturn_cases (line : List Char) : line = withoutReturn line ∨ line = withoutReturn line ++ ['\r'] := by
  unfold withoutReturn
  split
  next last =>
    obtain ⟨front, rfl⟩ := List.getLast?_eq_some_iff.mp last
    exact .inr (by rw [List.dropLast_concat])
  next => exact .inl rfl

/-- A part of a line between carriage returns is the line without one at its end if the line has no other one. The part
is not the empty one behind the last carriage return. -/
theorem eq_withoutReturn_iff {front shown back : List Char} (plain : '\r' ∉ shown)
    (starts : ∀ c ∈ front.getLast?, c = '\r') (ends : ∀ c ∈ back.head?, c = '\r') (any : front = [] ∨ shown ≠ [])
    (split : line = front ++ shown ++ back) : shown = withoutReturn line ↔ '\r' ∉ withoutReturn line := by
  constructor
  · exact fun same => same ▸ plain
  intro clear
  -- There is one carriage return at most, and then it is the last character of the line.
  have single (before after : List Char) (whole : line = before ++ '\r' :: after) :
      withoutReturn line = before ∧ after = [] := by
    rcases withoutReturn_cases line with same | ended
    · rw [← same, whole] at clear
      exact absurd (List.mem_append_right before List.mem_cons_self) clear
    · have cut := ended.symm.trans whole
      obtain ⟨same, _, nothing⟩ := (List.append_cons_inj_of_notMem clear List.not_mem_nil).mp cut
      exact ⟨same, nothing.symm⟩
  have bare : front = [] := by
    rcases List.eq_nil_or_concat front with none | ⟨before, c, rfl⟩
    · exact none
    obtain rfl := starts c (by simp)
    obtain ⟨_, nothing⟩ := single before (shown ++ back) (by simp [split])
    exact any.resolve_right fun some => some (List.append_eq_nil_iff.mp nothing).1
  subst bare
  cases back with
  | nil =>
    rw [List.nil_append, List.append_nil] at split
    rcases withoutReturn_cases line with same | ended
    · exact split ▸ same
    · have last : '\r' ∈ line := by
        rw [ended]
        exact List.mem_append_right _ (List.mem_singleton_self _)
      exact absurd (split ▸ last) plain
  | cons c back =>
    obtain rfl := ends c rfl
    exact (single shown back split).1.symm

end Split

section Around

variable {before rest front back : List Char}

theorem WholeLines.last {text : List Char} (whole : WholeLines text) : ∀ c ∈ text.getLast?, endsLine c = true := by
  induction whole with
  | nil => simp
  | @cons line rest c _ ends _ ih =>
    intro d last
    rw [List.getLast?_append, List.getLast?_cons] at last
    cases final : rest.getLast? with
    | none => simp_all
    | some e => simp_all

theorem eq_return {c : Char} (ends : endsLine c = true) (other : c ≠ '\n') : c = '\r' := by
  have known : c = '\n' ∨ c = '\r' := by simpa [endsLine] using ends
  exact known.resolve_left other

theorem notMem_of_endsLine {text : List Char} {d : Char} (plain : ∀ c ∈ text, endsLine c = false)
    (ends : endsLine d = true) : d ∉ text :=
  fun member => Bool.noConfusion ((plain d member).symm.trans ends)

/-- The lines above a place, and what is on its line before and behind the part that is shown. -/
structure LineOf (before rest front back : List Char) (lines : List (List Char)) (pre post below : List Char) :
    Prop where
  before : before = endedLines lines ++ (pre ++ front)
  rest : rest = back ++ (post ++ below)
  above : ∀ line ∈ lines, '\n' ∉ line
  plain : '\n' ∉ pre ++ (front ++ back) ++ post
  starts : ∀ c ∈ pre.getLast?, c = '\r'
  ends : ∀ c ∈ post.head?, c = '\r'
  feed : ∀ c ∈ below.head?, c = '\n'

theorem LineAround.exists_lineOf (around : LineAround before rest front back) :
    ∃ lines pre post below, LineOf before rest front back lines pre post below := by
  obtain ⟨⟨start, whole, split⟩, ⟨after, ends, split'⟩, front_plain, back_plain⟩ := around
  obtain ⟨lines, pre, above, own, rfl⟩ := exists_endedLines start
  have cut : after.takeWhile (· ≠ '\n') ++ after.dropWhile (· ≠ '\n') = after := List.takeWhile_append_dropWhile
  have inside : ∀ c ∈ after.takeWhile (· ≠ '\n'), c ≠ '\n' := fun c member => by
    simpa using List.mem_takeWhile_imp member
  have post_plain : '\n' ∉ after.takeWhile (· ≠ '\n') := fun member => inside '\n' member rfl
  refine ⟨lines, pre, _, after.dropWhile (· ≠ '\n'), by simp [split], by rw [cut, split'], above, ?_,
    fun c last => ?_, fun c head => ?_, fun c head => ?_⟩
  · have feed : endsLine '\n' = true := rfl
    have shown := Text.not_mem_append (notMem_of_endsLine front_plain feed) (notMem_of_endsLine back_plain feed)
    exact Text.not_mem_append (Text.not_mem_append own shown) post_plain
  · refine eq_return (whole.last c ?_) fun same => own (same ▸ List.mem_of_getLast? last)
    rw [List.getLast?_append, last]
    rfl
  · refine eq_return (ends c ?_) (inside c (List.mem_of_mem_head? head))
    rw [← cut, List.head?_append, head]
    rfl
  · have stops := List.head?_dropWhile_not (· ≠ '\n') after
    simp_all

variable {lines : List (List Char)} {pre post below : List Char}

theorem LineOf.splitLines (of : LineOf before rest front back lines pre post below) :
    ∃ later, Text.splitLines (before ++ rest) = lines ++ (pre ++ (front ++ back) ++ post) :: later := by
  obtain ⟨later, split⟩ := splitLines_append_end of.plain of.feed
  have whole : before ++ rest = endedLines lines ++ (pre ++ (front ++ back) ++ post ++ below) := by
    simp [of.before, of.rest]
  exact ⟨later, by rw [whole, splitLines_endedLines of.above, split]⟩

theorem LineOf.front_plain (of : LineOf before rest front back lines pre post below) : '\n' ∉ pre ++ front := by
  have plain := of.plain
  simp only [List.mem_append, not_or] at plain ⊢
  exact ⟨plain.1.1, plain.1.2.1⟩

theorem LineOf.lineFeeds (of : LineOf before rest front back lines pre post below) :
    Text.lineFeeds before = lines.length := by
  rw [of.before, Text.lineFeeds_append, lineFeeds_endedLines of.above, Text.lineFeeds_eq_zero of.front_plain,
    Nat.add_zero]

/-- An error starts behind a line feed or at an opening delimiter. -/
theorem ParseError.Covers.starts {e : ParseError} (covers : e.Covers before rest) :
    before.getLast? = some '\n' ∨ rest.head? = some '{' := by
  have opened {text : List Char} (opens : Text.opening <+: text) : text.head? = some '{' := by
    obtain ⟨tail, rfl⟩ := opens
    rfl
  obtain ⟨place, fault⟩ := e
  cases fault with
  | inconsistentIndent expected found => exact .inl covers
  | unterminatedDirective => exact .inr (opened covers.1)
  | _ =>
    obtain ⟨raw, tail, rfl, _⟩ := covers
    exact .inr rfl

theorem LineOf.any (of : LineOf before rest front back lines pre post below)
    (starts : before.getLast? = some '\n' ∨ rest.head? = some '{') : pre = [] ∨ front ++ back ≠ [] := by
  by_contra none
  obtain ⟨some, nothing⟩ := not_or.mp none
  obtain ⟨rfl, rfl⟩ := List.append_eq_nil_iff.mp (not_not.mp nothing)
  rcases starts with feed | brace
  · rw [of.before, List.append_nil, List.getLast?_append, List.getLast?_eq_some_getLast some, Option.some_or] at feed
    exact of.front_plain (by simpa using Option.some.inj feed ▸ List.getLast_mem some)
  · rw [of.rest, List.nil_append, List.head?_append] at brace
    cases head : post.head? with
    | some c =>
      rw [head] at brace
      cases (of.ends c head).symm.trans (Option.some.inj brace)
    | none =>
      rw [head] at brace
      cases of.feed '{' brace

end Around

/-- What is shown of an error, as the part of the line of its number in which the error starts: there is a carriage
return before and behind it, or the line has no more on this side. -/
structure ParseError.Numbered (e : ParseError) (source line front shown back : List Char) : Prop where
  numbered : numberedLine? source e.place.line = some line
  shows : e.sourceLine? source = some shown
  split : line = front ++ shown ++ back
  plain : '\r' ∉ shown
  starts : ∀ c ∈ front.getLast?, c = '\r'
  ends : ∀ c ∈ back.head?, c = '\r'
  start : ∃ inside, inside <+: shown ∧ e.range.1 =
    Text.byteLength (endedLines ((Text.splitLines source).take (e.place.line - 1)) ++ front ++ inside)
  whole : shown = withoutReturn line ↔ '\r' ∉ withoutReturn line

/-- What is shown of an error is a part of the line of its number. In a source that has no carriage returns but at the
ends of lines, it is the line without the one at its end. -/
theorem shown_line_of_number (source : List Char) (e : ParseError) (failed : Template.parse source = .error e) :
    (∃ line front shown back, e.Numbered source line front shown back) ∧
      ((∀ line ∈ Text.splitLines source, '\r' ∉ withoutReturn line) →
        e.sourceLine? source = (numberedLine? source e.place.line).map withoutReturn) := by
  have part : ∃ line front shown back, e.Numbered source line front shown back := by
    obtain ⟨before, rest, points, covers⟩ := (located_of_parse failed).points
    obtain ⟨front, back, around⟩ := exists_lineAround before rest
    obtain ⟨lines, pre, post, below, of⟩ := around.exists_lineOf
    obtain ⟨later, split⟩ := of.splitLines
    have number : e.place.line - 1 = lines.length := by
      rw [points.line, of.lineFeeds, Nat.add_sub_cancel_left]
    rw [← points.split] at split
    have plain : '\r' ∉ front ++ back :=
      Text.not_mem_append (notMem_of_endsLine around.front_plain rfl) (notMem_of_endsLine around.back_plain rfl)
    refine ⟨_, pre, front ++ back, post, ?_, ?_, rfl, plain, of.starts, of.ends, ?_,
      eq_withoutReturn_iff plain of.starts of.ends (of.any covers.starts) rfl⟩
    · rw [numberedLine?, number, split]
      simp
    · rw [points.split]
      exact around.sourceLine points.start
    · refine ⟨front, List.prefix_append front back, ?_⟩
      rw [points.start, number, split, List.take_left, of.before, List.append_assoc]
  refine ⟨part, fun clear => ?_⟩
  obtain ⟨line, front, shown, back, numbered⟩ := part
  have member : line ∈ Text.splitLines source := List.mem_of_getElem? numbered.numbered
  rw [numbered.shows, numbered.numbered, Option.map_some, ← numbered.whole.mpr (clear line member)]

/-- A source with a carriage return inside of a line, and one with carriage returns at the ends of its lines alone. -/
theorem shown_line_of_cut_line :
    (∃ e, Template.parse "a\r\nb\rc{{endif}}\r\n".toList = .error e ∧
      ∃ line front shown back, e.Numbered "a\r\nb\rc{{endif}}\r\n".toList line front shown back) ∧
    ∃ e, Template.parse "a\r\nb{{endif}}\r\n".toList = .error e ∧
      (∀ line ∈ Text.splitLines "a\r\nb{{endif}}\r\n".toList, '\r' ∉ withoutReturn line) ∧
      numberedLine? "a\r\nb{{endif}}\r\n".toList e.place.line = some "b{{endif}}\r".toList ∧
      e.sourceLine? "a\r\nb{{endif}}\r\n".toList = some (withoutReturn "b{{endif}}\r".toList) := by
  constructor
  · have failed : (Template.parse "a\r\nb\rc{{endif}}\r\n".toList).toOption.isNone := by decide +kernel
    cases found : Template.parse "a\r\nb\rc{{endif}}\r\n".toList with
    | ok template => rw [found] at failed; contradiction
    | error e => exact ⟨e, rfl, (shown_line_of_number _ e found).1⟩
  · have failed : fault? (Template.parse "a\r\nb{{endif}}\r\n".toList) =
        some ⟨⟨4, 2⟩, .unknownDirective 9 "endif"⟩ := by decide +kernel
    have clear : ∀ line ∈ Text.splitLines "a\r\nb{{endif}}\r\n".toList, '\r' ∉ withoutReturn line := by decide +kernel
    have line : numberedLine? "a\r\nb{{endif}}\r\n".toList 2 = some "b{{endif}}\r".toList := by decide +kernel
    have shown := (shown_line_of_number _ _ (fault?_eq_some.mp failed)).2 clear
    rw [line] at shown
    exact ⟨_, fault?_eq_some.mp failed, clear, line, shown⟩

/-- A carriage return alone does not end the line that is numbered, and cuts what is shown of it. -/
theorem shown_line_cut_at_return : ∃ e, Template.parse "a\r{{endif}}".toList = .error e ∧
    numberedLine? "a\r{{endif}}".toList e.place.line = some "a\r{{endif}}".toList ∧
      withoutReturn "a\r{{endif}}".toList = "a\r{{endif}}".toList ∧
        e.sourceLine? "a\r{{endif}}".toList = some "{{endif}}".toList := by
  have failed : fault? (Template.parse "a\r{{endif}}".toList) = some ⟨⟨2, 1⟩, .unknownDirective 9 "endif"⟩ := by
    decide +kernel
  exact ⟨_, fault?_eq_some.mp failed, by decide +kernel, by decide +kernel, by decide +kernel⟩

end Stencil
