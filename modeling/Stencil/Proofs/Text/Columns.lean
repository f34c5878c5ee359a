import Stencil.Proofs.Text.Parts
import Stencil.Text.Width

/-! Widths of texts that are put together. Main statements: no text takes a negative number of columns, and widths
add up before and behind a brace or white space, which join nothing. Elsewhere they may not: letters that join and
the parts of an emoji take the room of one. -/
namespace Stencil.Text

theorem measure_cons (c : Char) (text : List Char) : measure (c :: text) =
    ((measure text).1 + ((measure text).2.extend c).1, ((measure text).2.extend c).2) := rfl

section Loan

/-- The columns of a text that the next character before it can take away. -/
def Opening.loan : Opening → Int
  | khmerLetter | tifinaghJoiner | joinedFlagLetter | joinedFlagsLetter => 1
  | _ => 0

theorem Opening.loan_nonneg (opening : Opening) : 0 ≤ opening.loan := by
  cases opening <;> simp [loan]

theorem charWidth_of_khmerLetter {c : Char} (khmer : isKhmerLetter c = true) : charWidth c = 1 := by
  have table : ∀ n ∈ List.range' 0x1780 0x30, n ≠ 0x17A4 →
      inRanges zeroWidthRanges n = false ∧ inRanges wideRanges n = false := by decide +kernel
  unfold isKhmerLetter at khmer
  simp only [inRanges] at khmer
  have bounds : c.toNat ∈ List.range' 0x1780 0x30 ∧ c.toNat ≠ 0x17A4 ∧ c.toNat ≠ 0x17D8 := by grind
  obtain ⟨notZero, notWide⟩ := table c.toNat bounds.1 bounds.2.1
  simp [charWidth, notZero, notWide, bounds.2.2]

theorem loan_openingOf (c : Char) : (openingOf c).loan ≤ charWidth c := by
  by_cases khmer : isKhmerLetter c = true
  · rw [charWidth_of_khmerLetter khmer]
    cases openingOf c <;> simp [Opening.loan]
  · have none : (openingOf c).loan = 0 := by
      unfold openingOf
      simp only [khmer]
      grind [Opening.loan]
    omega

theorem loan_standAlone (c : Char) : (standAlone c).2.opening.loan ≤ (standAlone c).1 := by
  unfold standAlone
  split
  · exact Int.le_refl 0
  · split
    · exact Int.le_refl 0
    · exact loan_openingOf c

theorem Opening.loan_join {next opening : Opening} {c : Char} {change : Int}
    (joins : next.join? c = some (change, opening)) : opening.loan ≤ next.loan + change := by
  cases next <;> grind [Opening.join?, Opening.loan]

theorem Opening.loan_joined (opening : Opening) : opening.joined.loan = opening.loan := by
  cases opening <;> rfl

/-- Asking for a style or refusing one keeps what a text begins with, or makes it plain. -/
theorem Following.loan_restyled {next restyled : Following} (asked : restyled ∈ [next.askEmojiStyle,
    next.askTextStyle, next.refuseEmojiStyle, next.refuseTextStyle]) :
    restyled.opening.loan ≤ next.opening.loan := by
  have kept : restyled.opening = next.opening ∨ restyled.opening = .plain := by
    simp only [List.mem_cons, List.not_mem_nil, or_false] at asked
    grind [askEmojiStyle, askTextStyle, refuseEmojiStyle, refuseTextStyle, plain, Opening.unstyled]
  rcases kept with same | plain
  · exact Int.le_of_eq (congrArg Opening.loan same)
  · rw [plain]
    exact next.opening.loan_nonneg

/-- One character more takes no more from the text behind it than that text lends. -/
theorem Following.loan_extend (next : Following) (c : Char) :
    (next.extend c).2.opening.loan ≤ next.opening.loan + (next.extend c).1 := by
  -- Only a joining takes columns back, and only those that the text behind it has lent.
  have any := next.opening.loan_nonneg
  have alone := loan_standAlone c
  have styled : next.refuseEmojiStyle.opening.loan ≤ next.opening.loan := loan_restyled (by simp)
  have plain : next.refuseEmojiStyle.refuseTextStyle.opening.loan ≤ next.refuseEmojiStyle.opening.loan :=
    loan_restyled (by simp)
  fun_cases extend next c with
  | case1 =>
    have wider : (0 : Int) ≤ if next.opening.isJoinedEmoji then 0 else 2 := by split <;> simp
    exact Int.add_nonneg any wider
  | case2 => exact Int.add_nonneg any Int.one_nonneg
  | case3 => omega
  | case4 =>
    have asked : next.refuseEmojiStyle.askEmojiStyle.opening.loan ≤ next.refuseEmojiStyle.opening.loan :=
      loan_restyled (by simp)
    change next.refuseEmojiStyle.askEmojiStyle.opening.loan ≤ next.opening.loan + 0
    omega
  | case5 =>
    have asked : next.refuseEmojiStyle.askTextStyle.opening.loan ≤ next.refuseEmojiStyle.opening.loan :=
      loan_restyled (by simp)
    change next.refuseEmojiStyle.askTextStyle.opening.loan ≤ next.opening.loan + 0
    omega
  | case6 => exact Int.add_nonneg any Int.one_nonneg
  | case7 =>
    change next.refuseEmojiStyle.refuseTextStyle.opening.joined.loan ≤ next.opening.loan + 0
    rw [Opening.loan_joined]
    omega
  | case8 =>
    change next.refuseEmojiStyle.refuseTextStyle.opening.loan ≤ next.opening.loan + 0
    omega
  | case9 n _ _ _ _ _ _ _ _ _ _ change opening joins =>
    have repaid : opening.loan ≤ next.refuseEmojiStyle.refuseTextStyle.opening.loan + change :=
      Opening.loan_join joins
    dsimp only [Opening.unstyled]
    omega
  | case10 => omega

theorem loan_le_columns (text : List Char) : (measure text).2.opening.loan ≤ (measure text).1 := by
  induction text with
  | nil => exact Int.le_refl 0
  | cons c rest ih =>
    have step := (measure rest).2.loan_extend c
    rw [measure_cons]
    dsimp only
    omega

theorem columns_nonneg (text : List Char) : 0 ≤ (measure text).1 :=
  Int.le_trans (Opening.loan_nonneg _) (loan_le_columns text)

end Loan

section Apart

/-- A character that has a width of its own beside any other, and that nothing before it joins. -/
def Apart (c : Char) : Prop := ∀ next : Following, next.extend c = ((charWidth c : Int), .plain)

theorem measure_append_apart {c : Char} (apart : Apart c) (front back : List Char) :
    measure (front ++ c :: back) = ((measure front).1 + charWidth c + (measure back).1, (measure front).2) := by
  induction front with
  | nil =>
    rw [List.nil_append, measure_cons, apart]
    simp [measure, Int.add_comm]
  | cons d front ih =>
    rw [List.cons_append, measure_cons, ih, measure_cons]
    simp only [Prod.mk.injEq, and_true]
    omega

theorem width_append_apart {c : Char} (apart : Apart c) (front back : List Char) :
    width (front ++ c :: back) = width front + charWidth c + width back := by
  have first := columns_nonneg front
  have second := columns_nonneg back
  simp only [width, measure_append_apart apart]
  omega

/-- Widths add up before a text that begins with a character apart. -/
theorem width_append_of_head {back : List Char} (apart : ∀ c ∈ back.head?, Apart c) (front : List Char) :
    width (front ++ back) = width front + width back := by
  cases back with
  | nil => simp [width, measure]
  | cons c back =>
    have own := apart c rfl
    have alone := width_append_apart own [] back
    rw [width_append_apart own]
    simp only [List.nil_append] at alone
    rw [alone]
    simp [width, measure, Nat.add_assoc]

/-- Widths add up behind a text that ends with a character apart. -/
theorem width_append_of_getLast {front : List Char} (apart : ∀ c ∈ front.getLast?, Apart c) (back : List Char) :
    width (front ++ back) = width front + width back := by
  rcases List.eq_nil_or_concat front with rfl | ⟨front, c, rfl⟩
  · simp [width, measure]
  · have own := apart c (by simp)
    have alone := width_append_apart own front []
    rw [List.concat_eq_append, List.append_assoc, List.singleton_append, width_append_apart own, alone]
    simp [width, measure]

theorem inRanges_of_lt {low high n : Nat} {rest : List (Nat × Nat)} (below : n < low) :
    inRanges ((low, high) :: rest) n = false := by
  rw [inRanges, if_pos below]

theorem charWidth_of_basic {c : Char} (basic : c.toNat ≤ 0xA0) : charWidth c = 1 := by
  have notZero : inRanges zeroWidthRanges c.toNat = false := by
    apply inRanges_of_lt
    omega
  have notWide : inRanges wideRanges c.toNat = false := by
    apply inRanges_of_lt
    omega
  have notSign : c.toNat ≠ 0x17D8 := by omega
  simp [charWidth, notZero, notWide, notSign]

/-- Whether a character has no part in any joining, sequence or style. -/
def isInert (c : Char) : Bool :=
  let joiners := [0x5D0, 0x17D2, 0x1A17, 0x1A15, 0x200D, 0x20E3, 0x2D7F, 0xA4F8, 0xA4F9, 0xA4FA, 0xA4FB, 0xFE0E,
    0xFE0F, 0x10C32, 0xE007F]
  !joiners.contains c.toNat && !isIgnorableMark c && !takesEmojiStyle c && !takesSkinTone c && !isLam c &&
    !isArabicMark c && !isTifinagh c && !isEmoji c && !isFlagLetter c && !isSkinTone c && !isTagLetter c &&
    !isTagDigit c && !isBlackFlag c && openingOf c == .plain

theorem join_of_isInert {c : Char} (inert : isInert c = true) (next : Opening) : next.join? c = none := by
  simp [isInert] at inert
  have tone : ¬ (0xA4F8 ≤ c.toNat ∧ c.toNat ≤ 0xA4FB) := by omega
  cases next <;> simp_all [Opening.join?]

theorem apart_of_isInert {c : Char} (inert : isInert c = true) : Apart c := by
  intro next
  have joins := join_of_isInert inert
  simp [isInert] at inert
  have alone : standAlone c = ((charWidth c : Int), .plain) := by simp_all [standAlone, Following.plain]
  by_cases basic : c.toNat ≤ 0xA0
  · simp [Following.extend, inert, basic, charWidth_of_basic basic]
  · simp [Following.extend, takesTextStyle, inert, basic, joins, alone]

theorem apart_of_brace {c : Char} (brace : c = '{' ∨ c = '}') : Apart c := by
  apply apart_of_isInert
  rcases brace with rfl | rfl <;> decide +kernel

def blanks : List Char :=
  ['\t', '\n', '\x0b', '\x0c', '\r', ' ', '\u0085', '\u00A0', '\u1680', '\u2000', '\u2001', '\u2002', '\u2003',
    '\u2004', '\u2005', '\u2006', '\u2007', '\u2008', '\u2009', '\u200A', '\u2028', '\u2029', '\u202F', '\u205F',
    '\u3000']

theorem mem_blanks_of_isBlank {c : Char} (blank : isBlank c = true) : c ∈ blanks := by
  have known : c.toNat ∈ blanks.map Char.toNat := by
    simp [isBlank, blanks] at blank ⊢
    omega
  obtain ⟨d, member, same⟩ := List.mem_map.mp known
  exact Char.toNat_inj.mp same ▸ member

theorem apart_of_isBlank {c : Char} (blank : isBlank c = true) : Apart c := by
  have inert : blanks.all isInert = true := by decide +kernel
  exact apart_of_isInert (List.all_eq_true.mp inert c (mem_blanks_of_isBlank blank))

end Apart

end Stencil.Text
