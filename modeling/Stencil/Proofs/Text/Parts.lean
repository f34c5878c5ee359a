import Stencil.Decimal.Read
import Stencil.Text.Blank
import Stencil.Text.Place
import Stencil.Text.Search

/-! Reading back the parts of a text: patterns, lines, white space at the ends, bytes and digits. -/
namespace Stencil.Text

theorem starts_cons (c : Char) (pattern rest : List Char) :
    (c :: pattern).isPrefixOf (c :: (pattern ++ rest)) = true :=
  List.isPrefixOf_iff_prefix.mpr (List.prefix_append (c :: pattern) rest)

/-- Cutting finds the first occurrence of a pattern. -/
theorem length_le_of_cut? {pattern text before after : List Char}
    (found : cut? pattern text = some (before, after)) {front back : List Char}
    (occurs : text = front ++ pattern ++ back) : before.length ≤ front.length := by
  induction text generalizing before front with
  | nil =>
    have length := congrArg List.length (cut?_append found)
    simp only [List.length_append, List.length_nil] at length
    omega
  | cons c rest ih =>
    by_cases here : pattern.isPrefixOf (c :: rest) = true
    · simp only [cut?, here, if_true, Option.some.injEq, Prod.mk.injEq] at found
      simp [← found.1]
    · cases front with
      | nil =>
        have starts : pattern <+: c :: rest := ⟨back, occurs.symm⟩
        exact absurd (List.isPrefixOf_iff_prefix.mpr starts) here
      | cons d front =>
        cases later : cut? pattern rest with
        | none => simp [cut?, here, later] at found
        | some parts =>
          obtain ⟨first, last⟩ := parts
          obtain ⟨rfl, rfl⟩ : c :: first = before ∧ last = after := by
            simpa [cut?, here, later] using found
          obtain ⟨_, inRest⟩ := List.cons_eq_cons.mp occurs
          exact Nat.succ_le_succ (ih later inRest)

/-- Between a text and one behind it, a pattern occurs for the first time. -/
def First (pattern before after : List Char) : Prop :=
  ∀ front back, before ++ pattern ++ after = front ++ pattern ++ back → before.length ≤ front.length

section First

variable {pattern before after text : List Char} {c : Char}

theorem First.tail (first : First pattern (c :: before) after) : First pattern before after :=
  fun front back same => Nat.le_of_succ_le_succ (first (c :: front) back (congrArg (c :: ·) same))

theorem First.later (first : First pattern (c :: before) after) :
    ¬ pattern.isPrefixOf (c :: (before ++ pattern ++ after)) = true := by
  rw [List.isPrefixOf_iff_prefix]
  rintro ⟨back, starts⟩
  exact Nat.not_succ_le_zero _ (first [] back starts.symm)

/-- The first occurrence of a pattern is the one that cutting finds. -/
theorem cut?_of_first (first : First pattern before after) :
    cut? pattern (before ++ pattern ++ after) = some (before, after) := by
  induction before with
  | nil =>
    cases pattern with
    | nil => cases after <;> rfl
    | cons c pattern =>
      rw [List.nil_append, List.cons_append, cut?, if_pos (starts_cons c pattern after)]
      simp
  | cons c before ih =>
    rw [List.cons_append, List.cons_append, cut?, if_neg first.later, ih first.tail]
    rfl

theorem not_infix_cons (plain : ¬ pattern <:+: c :: text) :
    ¬ pattern.isPrefixOf (c :: text) = true ∧ ¬ pattern <:+: text :=
  ⟨fun starts => plain (List.isPrefixOf_iff_prefix.mp starts).isInfix,
    fun inside => plain (inside.trans (List.suffix_cons c text).isInfix)⟩

theorem not_infix_of_cut? (none : cut? pattern text = none) : ¬ pattern <:+: text := by
  rintro ⟨front, back, rfl⟩
  induction front with
  | nil =>
    cases pattern with
    | nil => cases back <;> cases none
    | cons d pattern =>
      rw [List.nil_append, List.cons_append, cut?, if_pos (starts_cons d pattern back)] at none
      cases none
  | cons d front ih =>
    rw [List.cons_append, List.cons_append, cut?] at none
    split at none
    · cases none
    · exact ih (Option.map_eq_none_iff.mp none)

end First

theorem join_cons (separator part : List Char) {parts : List (List Char)} (any : parts ≠ []) :
    join separator (part :: parts) = part ++ separator ++ join separator parts := by
  rw [join]
  exact any

theorem splitLines_ne_nil (text : List Char) : splitLines text ≠ [] := by
  induction text with
  | nil => simp [splitLines]
  | cons c rest ih =>
    rw [splitLines]
    split
    · simp
    · split <;> simp

theorem splitLines_append_line {line : List Char} (whole : '\n' ∉ line) (rest : List Char) :
    splitLines (line ++ '\n' :: rest) = line :: splitLines rest := by
  induction line with
  | nil => simp [splitLines]
  | cons c line ih =>
    have differs : c ≠ '\n' := fun same => whole (by simp [same])
    rw [List.cons_append, splitLines, if_neg differs, ih (List.not_mem_of_not_mem_cons whole)]

theorem splitLines_of_not_mem {line : List Char} (plain : '\n' ∉ line) : splitLines line = [line] := by
  induction line with
  | nil => rfl
  | cons c line ih =>
    have differs : c ≠ '\n' := fun same => plain (by simp [same])
    rw [splitLines, if_neg differs, ih (List.not_mem_of_not_mem_cons plain)]

theorem not_mem_of_mem_splitLines {text line : List Char} (member : line ∈ splitLines text) : '\n' ∉ line := by
  induction text generalizing line with
  | nil => simp_all [splitLines]
  | cons c rest ih =>
    rw [splitLines] at member
    split at member
    next feed =>
      rcases List.mem_cons.mp member with rfl | later
      · simp
      · exact ih later
    next other =>
      cases lines : splitLines rest with
      | nil => exact absurd lines (splitLines_ne_nil rest)
      | cons first others =>
        rw [lines] at member ih
        rcases List.mem_cons.mp member with rfl | later
        · have inside := ih List.mem_cons_self
          simp [Ne.symm other, inside]
        · exact ih (List.mem_cons_of_mem first later)

theorem lineFeeds_eq_zero {line : List Char} (plain : '\n' ∉ line) : lineFeeds line = 0 := by
  induction line with
  | nil => rfl
  | cons c rest ih =>
    have other : c ≠ '\n' := fun same => plain (same ▸ List.mem_cons_self)
    rw [lineFeeds, if_neg other, ih (List.not_mem_of_not_mem_cons plain)]

theorem join_splitLines (text : List Char) : join ['\n'] (splitLines text) = text := by
  induction text with
  | nil => rfl
  | cons c rest ih =>
    rw [splitLines]
    cases lines : splitLines rest with
    | nil => exact absurd lines (splitLines_ne_nil rest)
    | cons line lines' =>
      rw [lines] at ih
      split
      next feed => simp [join, ih, feed]
      next =>
        cases lines' with
        | nil => simpa [join] using ih
        | cons next others => simpa [join] using ih

theorem splitLines_join {lines : List (List Char)} (plain : ∀ line ∈ lines, '\n' ∉ line) (any : lines ≠ []) :
    splitLines (join ['\n'] lines) = lines := by
  induction lines with
  | nil => exact absurd rfl any
  | cons line lines ih =>
    obtain ⟨own, others⟩ := List.forall_mem_cons.mp plain
    cases lines with
    | nil => rw [join, splitLines_of_not_mem own]
    | cons next lines =>
      have later := ih others (List.cons_ne_nil next lines)
      rw [join_cons _ line (List.cons_ne_nil next lines), List.append_assoc, List.singleton_append,
        splitLines_append_line own, later]

theorem isBlank_of_isDigit {c : Char} (digit : c.isDigit = true) : isBlank c = false := by
  obtain ⟨low, high⟩ : 48 ≤ c.toNat ∧ c.toNat ≤ 57 := by
    simpa [Char.isDigit, UInt32.le_iff_toNat_le] using digit
  simp [isBlank]
  omega

theorem trimStart_eq_self {text : List Char} (sharp : ∀ c ∈ text.head?, isBlank c = false) :
    trimStart text = text := by
  cases text with
  | nil => rfl
  | cons c rest => exact List.dropWhile_cons_of_neg (by simp [sharp c rfl])

theorem trimEnd_eq_self {text : List Char} (sharp : ∀ c ∈ text.getLast?, isBlank c = false) :
    trimEnd text = text := by
  have reversed : trimStart text.reverse = text.reverse :=
    trimStart_eq_self (by rwa [List.head?_reverse])
  rw [trimEnd]
  exact (congrArg List.reverse reversed).trans text.reverse_reverse

theorem trim_eq_self {text : List Char} (sharp : ∀ c ∈ text, isBlank c = false) : trim text = text := by
  rw [trim, trimStart_eq_self fun c head => sharp c (List.mem_of_mem_head? head)]
  exact trimEnd_eq_self fun c last => sharp c (List.mem_of_getLast? last)

theorem trimEnd_append {front back : List Char} (any : back ≠ [])
    (sharp : ∀ c ∈ back.getLast?, isBlank c = false) : trimEnd (front ++ back) = front ++ back := by
  have last : (front ++ back).getLast? = back.getLast? := by
    rw [List.getLast?_append, List.getLast?_eq_some_getLast any, Option.some_or]
  apply trimEnd_eq_self
  rwa [last]

theorem not_mem_append {α : Type} {c : α} {front back : List α} (first : c ∉ front) (second : c ∉ back) :
    c ∉ front ++ back := fun member => (List.mem_append.mp member).elim first second

theorem utf8ByteSize_ofList (text : List Char) : (String.ofList text).utf8ByteSize = byteLength text := by
  induction text with
  | nil => rfl
  | cons c rest ih =>
    rw [String.ofList_cons, byteLength]
    simp [ih]

theorem byteLength_pos {text : List Char} (any : text ≠ []) : 0 < byteLength text := by
  cases text with
  | nil => contradiction
  | cons c rest =>
    have positive := c.utf8Size_pos
    rw [byteLength]
    omega

theorem Place.position_advance (text : List Char) : (Place.start.advance text).position = byteLength text :=
  Nat.zero_add _

theorem byteLength_cons (c : Char) (text : List Char) : ∃ n, byteLength (c :: text) = n + 1 ∧
    c.utf8Size ≤ n + 1 ∧ n + 1 - c.utf8Size = byteLength text := by
  have positive := c.utf8Size_pos
  refine ⟨byteLength (c :: text) - 1, ?_⟩
  rw [byteLength]
  omega

theorem takeBytes?_append (text rest : List Char) :
    takeBytes? (byteLength text) (text ++ rest) = some text := by
  induction text with
  | nil => cases rest <;> rfl
  | cons c text ih =>
    obtain ⟨n, size, fits, left⟩ := byteLength_cons c text
    rw [size, List.cons_append, takeBytes?, if_pos fits, left, ih]
    rfl

theorem dropBytes?_append (text rest : List Char) :
    dropBytes? (byteLength text) (text ++ rest) = some rest := by
  induction text with
  | nil => cases rest <;> rfl
  | cons c text ih =>
    obtain ⟨n, size, fits, left⟩ := byteLength_cons c text
    rw [size, List.cons_append, dropBytes?, if_pos fits, left, ih]

end Stencil.Text

namespace Stencil.Decimal

theorem digitsValue_eq_ofDigitChars (digits : List Char) :
    digitsValue digits = Nat.ofDigitChars 10 digits 0 := by
  rw [digitsValue, valueIn_eq_foldr, List.foldr_map, List.foldr_reverse, Nat.ofDigitChars]
  congr 1
  funext n c
  exact Nat.add_comm _ _

theorem digitsValue_toDigits (n : Nat) : digitsValue (Nat.toDigits 10 n) = n := by
  rw [digitsValue_eq_ofDigitChars, Nat.ofDigitChars_toDigits (by decide) (by decide)]

end Stencil.Decimal
