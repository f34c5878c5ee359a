import Stencil.Proofs.Outcome
import Stencil.Text.Utf8

/-! Bytes read back. Main statement: the bytes of a text are read as that text. -/
namespace Stencil.Text

section Steps

theorem toNat_ofNat_byte {n : Nat} (byte : n < 0x100) : (UInt8.ofNat n).toNat = n := by
  rw [UInt8.toNat_ofNat']
  exact Nat.mod_eq_of_lt byte

variable (offset : Nat) (rest : List UInt8)

theorem decodeFrom_ascii {n : Nat} (ascii : n < 0x80) : decodeFrom offset none (UInt8.ofNat n :: rest) = do
    return Char.ofNat n :: (← decodeFrom (offset + 1) none rest) := by
  have own : (UInt8.ofNat n).toNat = n := toNat_ofNat_byte (by omega)
  have below : UInt8.ofNat n < 0x80 := by
    rw [UInt8.lt_iff_toNat_lt, own]
    exact ascii
  rw [decodeFrom]
  simp only [below, if_true, own]

theorem decodeFrom_first {n : Nat} (above : 0x80 ≤ n) (byte : n < 0x100) {lower upper : UInt8} {more : Nat}
    (shape : sequenceShape? (UInt8.ofNat n) = some (lower, upper, more)) :
    decodeFrom offset none (UInt8.ofNat n :: rest) =
      decodeFrom (offset + 1) (some ⟨offset, leadBits (UInt8.ofNat n), lower, upper, more⟩) rest := by
  have own : (UInt8.ofNat n).toNat = n := toNat_ofNat_byte byte
  have beyond : ¬ UInt8.ofNat n < 0x80 := by
    rw [UInt8.lt_iff_toNat_lt, own]
    exact Nat.not_lt.mpr above
  rw [decodeFrom]
  simp only [beyond, if_false, shape]

/-- A byte of six more bits, within the bounds that the byte before it sets. -/
theorem decodeFrom_next (start point more : Nat) {n : Nat} (six : n < 64) {lower upper : UInt8}
    (above : lower.toNat ≤ n + 0x80) (below : n + 0x80 ≤ upper.toNat) :
    decodeFrom offset (some ⟨start, point, lower, upper, more⟩) (UInt8.ofNat (n + 0x80) :: rest) =
      match more with
      | 0 => do return Char.ofNat (64 * point + n) :: (← decodeFrom (offset + 1) none rest)
      | more + 1 => decodeFrom (offset + 1) (some ⟨start, 64 * point + n, 0x80, 0xBF, more⟩) rest := by
  have own : (UInt8.ofNat (n + 0x80)).toNat = n + 0x80 := toNat_ofNat_byte (by omega)
  have inside : (lower ≤ UInt8.ofNat (n + 0x80) && UInt8.ofNat (n + 0x80) ≤ upper) = true := by
    simp only [UInt8.le_iff_toNat_le, own, above, below, decide_true, Bool.and_self]
  have bits : (n + 0x80) % 64 = n := by omega
  rw [decodeFrom]
  cases more with
  | zero => simp only [inside, if_true, own, bits]
  | succ more => simp only [inside, if_true, own, bits]

theorem decodeFrom_more (start point more : Nat) {n : Nat} (six : n < 64) {lower upper : UInt8}
    (above : lower.toNat ≤ n + 0x80) (below : n + 0x80 ≤ upper.toNat) :
    decodeFrom offset (some ⟨start, point, lower, upper, more + 1⟩) (UInt8.ofNat (n + 0x80) :: rest) =
      decodeFrom (offset + 1) (some ⟨start, 64 * point + n, 0x80, 0xBF, more⟩) rest :=
  decodeFrom_next offset rest start point (more + 1) six above below

theorem decodeFrom_last (start point : Nat) {n : Nat} (six : n < 64) {lower upper : UInt8}
    (above : lower.toNat ≤ n + 0x80) (below : n + 0x80 ≤ upper.toNat) :
    decodeFrom offset (some ⟨start, point, lower, upper, 0⟩) (UInt8.ofNat (n + 0x80) :: rest) = do
      return Char.ofNat (64 * point + n) :: (← decodeFrom (offset + 1) none rest) :=
  decodeFrom_next offset rest start point 0 six above below

end Steps

theorem shape_of_two : ∀ k < 32, 2 ≤ k → sequenceShape? (UInt8.ofNat (k + 0xC0)) = some (0x80, 0xBF, 0) ∧
    leadBits (UInt8.ofNat (k + 0xC0)) = k := by decide

theorem shape_of_three : ∀ k < 16, sequenceShape? (UInt8.ofNat (k + 0xE0)) =
    some (if k = 0 then 0xA0 else 0x80, if k = 13 then 0x9F else 0xBF, 1) ∧
      leadBits (UInt8.ofNat (k + 0xE0)) = k := by decide

theorem shape_of_four : ∀ k < 5, sequenceShape? (UInt8.ofNat (k + 0xF0)) =
    some (if k = 0 then 0x90 else 0x80, if k = 4 then 0x8F else 0xBF, 2) ∧
      leadBits (UInt8.ofNat (k + 0xF0)) = k := by decide

/-- Reading the bytes of a character. -/
theorem decodeFrom_char (c : Char) (offset : Nat) (rest : List UInt8) : ∃ behind,
    decodeFrom offset none (String.utf8EncodeChar c ++ rest) = do
      return c :: (← decodeFrom behind none rest) := by
  have scalar : c.toNat < 0xD800 ∨ 0xDFFF < c.toNat ∧ c.toNat < 0x110000 := c.valid
  have whole : Char.ofNat c.toNat = c := Char.ofNat_toNat c
  have same : c.val.toNat = c.toNat := rfl
  unfold String.utf8EncodeChar
  simp only [same]
  -- One case for each number of bytes. The first byte bounds the second one, as there are no surrogates and no
  -- longer forms.
  generalize c.toNat = v at scalar whole
  split
  next one =>
    refine ⟨offset + 1, ?_⟩
    rw [List.singleton_append, decodeFrom_ascii offset rest (by omega), whole]
  next =>
  split
  next two =>
    obtain ⟨shape, lead⟩ := shape_of_two (v / 64 % 32) (by omega) (by omega)
    have point : 64 * (v / 64 % 32) + v % 64 = v := by omega
    refine ⟨offset + 1 + 1, ?_⟩
    simp only [List.cons_append, List.nil_append]
    rw [decodeFrom_first offset _ (by omega) (by omega) shape, lead,
      decodeFrom_last _ _ _ _ (by omega) (by simp) (by simp; omega), point, whole]
  next =>
  split
  next three =>
    obtain ⟨shape, lead⟩ := shape_of_three (v / 4096 % 16) (by omega)
    have point : 64 * (64 * (v / 4096 % 16) + v / 64 % 64) + v % 64 = v := by omega
    have above : (if v / 4096 % 16 = 0 then 0xA0 else 0x80 : UInt8).toNat ≤ v / 64 % 64 + 0x80 := by
      split
      next => simp; omega
      next => simp
    have below : v / 64 % 64 + 0x80 ≤ (if v / 4096 % 16 = 13 then 0x9F else 0xBF : UInt8).toNat := by
      split
      next => simp; omega
      next => simp; omega
    refine ⟨offset + 1 + 1 + 1, ?_⟩
    simp only [List.cons_append, List.nil_append]
    rw [decodeFrom_first offset _ (by omega) (by omega) shape, lead,
      decodeFrom_more _ _ _ _ 0 (by omega) above below,
      decodeFrom_last _ _ _ _ (by omega) (by simp) (by simp; omega), point, whole]
  next =>
    obtain ⟨shape, lead⟩ := shape_of_four (v / 262144 % 8) (by omega)
    have point : 64 * (64 * (64 * (v / 262144 % 8) + v / 4096 % 64) + v / 64 % 64) + v % 64 = v := by omega
    have above : (if v / 262144 % 8 = 0 then 0x90 else 0x80 : UInt8).toNat ≤ v / 4096 % 64 + 0x80 := by
      split
      next => simp; omega
      next => simp
    have below : v / 4096 % 64 + 0x80 ≤ (if v / 262144 % 8 = 4 then 0x8F else 0xBF : UInt8).toNat := by
      split
      next => simp; omega
      next => simp; omega
    refine ⟨offset + 1 + 1 + 1 + 1, ?_⟩
    simp only [List.cons_append, List.nil_append]
    rw [decodeFrom_first offset _ (by omega) (by omega) shape, lead,
      decodeFrom_more _ _ _ _ 1 (by omega) above below,
      decodeFrom_more _ _ _ _ 0 (by omega) (by simp) (by simp; omega),
      decodeFrom_last _ _ _ _ (by omega) (by simp) (by simp; omega), point, whole]

theorem decodeFrom_bytes (text : List Char) (offset : Nat) : decodeFrom offset none (bytes text) = .ok text := by
  induction text generalizing offset with
  | nil => rfl
  | cons c rest ih =>
    obtain ⟨behind, first⟩ := decodeFrom_char c offset (bytes rest)
    rw [bytes, List.flatMap_cons, ← bytes, first, ih]
    rfl

theorem decode_bytes (text : List Char) : decode (bytes text) = .ok text := decodeFrom_bytes text 0

end Stencil.Text
