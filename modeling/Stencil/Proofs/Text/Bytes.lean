import Stencil.Proofs.Text.Parts
import Stencil.Text.Utf8

/-! Byte offsets of a text. Main statements: a test that does not tell characters beyond ASCII apart goes as far over
the bytes of a text as over its characters, and a text can be cut wherever characters meet. -/
namespace Stencil.Text

/-- The offset is where a character of the text starts, or its end. -/
def Boundary (text : List Char) (offset : Nat) : Prop :=
  ∃ before after, text = before ++ after ∧ offset = byteLength before

theorem Boundary.le {text : List Char} {offset : Nat} (boundary : Boundary text offset) :
    offset ≤ byteLength text := by
  obtain ⟨before, after, rfl, rfl⟩ := boundary
  rw [byteLength_append]
  exact Nat.le_add_right _ _

theorem boundary_end (text : List Char) : Boundary text (byteLength text) := ⟨text, [], by simp, rfl⟩

/-- The text between two byte offsets, unless one of them is inside a character or past the end, or they are out of
order. -/
def slice? (start stop : Nat) (text : List Char) : Option (List Char) :=
  if start ≤ stop then (dropBytes? start text).bind (takeBytes? (stop - start)) else none

theorem slice?_middle (before middle after : List Char) :
    slice? (byteLength before) (byteLength (before ++ middle)) (before ++ (middle ++ after)) = some middle := by
  rw [slice?, byteLength_append, if_pos (Nat.le_add_right _ _), dropBytes?_append, Option.bind_some,
    Nat.add_sub_cancel_left, takeBytes?_append]

/-- The bytes of a text, each as the character of its number. -/
def byteChars (text : List Char) : List Char := (bytes text).map fun byte => Char.ofNat byte.toNat

theorem length_byteChars (text : List Char) : (byteChars text).length = byteLength text := by
  rw [byteChars, List.length_map, bytes]
  induction text with
  | nil => rfl
  | cons c rest ih => simp [byteLength, ih]

theorem byteChars_append (front back : List Char) : byteChars (front ++ back) = byteChars front ++ byteChars back := by
  simp [byteChars, bytes]

theorem drop_byteChars (front back : List Char) :
    (byteChars (front ++ back)).drop (byteLength front) = byteChars back := by
  rw [byteChars_append, ← length_byteChars front, List.drop_left]

theorem getElem?_byteChars (front back : List Char) (i : Nat) :
    (byteChars (front ++ back))[byteLength front + i]? = (byteChars back)[i]? := by
  rw [← drop_byteChars front back, List.getElem?_drop]

def Ascii (c : Char) : Prop := c.toNat < 128

instance (c : Char) : Decidable (Ascii c) := inferInstanceAs (Decidable (c.toNat < 128))

theorem utf8Size_of_ascii {c : Char} (ascii : Ascii c) : c.utf8Size = 1 := by
  rw [Char.utf8Size_eq_one_iff, UInt32.le_iff_toNat_le]
  exact Nat.le_of_lt_succ ascii

theorem byteLength_of_ascii {text : List Char} (ascii : ∀ c ∈ text, Ascii c) : byteLength text = text.length := by
  induction text with
  | nil => rfl
  | cons c rest ih =>
    obtain ⟨here, later⟩ := List.forall_mem_cons.mp ascii
    rw [byteLength, utf8Size_of_ascii here, ih later, List.length_cons, Nat.add_comm]

theorem byteLength_concat_ascii (front : List Char) {c : Char} (ascii : Ascii c) :
    byteLength (front ++ [c]) = byteLength front + 1 := by
  simp [byteLength_append, byteLength, utf8Size_of_ascii ascii]

theorem byteChars_ascii {c : Char} (ascii : Ascii c) (rest : List Char) :
    byteChars (c :: rest) = c :: byteChars rest := by
  have byte : c.toUInt8.toNat = c.toNat := Nat.mod_eq_of_lt (Nat.lt_trans ascii (by decide))
  simp [byteChars, bytes, String.utf8EncodeChar_eq_singleton (utf8Size_of_ascii ascii), byte]

/-- A character beyond ASCII has bytes beyond ASCII alone. -/
theorem le_of_mem_utf8EncodeChar {c : Char} (wide : ¬ Ascii c) {byte : UInt8}
    (member : byte ∈ String.utf8EncodeChar c) : 128 ≤ byte.toNat := by
  have above : ¬ c.val.toNat ≤ 127 := fun low => wide (Nat.lt_succ_of_le low)
  unfold String.utf8EncodeChar at member
  simp only [above, if_false] at member
  generalize c.val.toNat = v at member
  have size : 2 ^ 8 = 256 := rfl
  split at member
  · simp only [List.mem_cons, List.not_mem_nil, or_false] at member
    rcases member with rfl | rfl <;> rw [UInt8.toNat_ofNat'] <;> omega
  · split at member
    · simp only [List.mem_cons, List.not_mem_nil, or_false] at member
      rcases member with rfl | rfl | rfl <;> rw [UInt8.toNat_ofNat'] <;> omega
    · simp only [List.mem_cons, List.not_mem_nil, or_false] at member
      rcases member with rfl | rfl | rfl | rfl <;> rw [UInt8.toNat_ofNat'] <;> omega

theorem toNat_charOfByte (byte : UInt8) : (Char.ofNat byte.toNat).toNat = byte.toNat := by
  have valid : byte.toNat.isValidChar := .inl (Nat.lt_trans byte.toNat_lt (by decide))
  rw [Char.ofNat, dif_pos valid]
  rfl

theorem byteChars_wide {c : Char} (wide : ¬ Ascii c) (rest : List Char) : ∃ first others,
    byteChars (c :: rest) = first :: others ++ byteChars rest ∧ (∀ byte ∈ first :: others, ¬ Ascii byte) ∧
      (first :: others).length = c.utf8Size := by
  have any : (String.utf8EncodeChar c).map (fun byte => Char.ofNat byte.toNat) ≠ [] := by
    apply List.ne_nil_of_length_pos
    rw [List.length_map, String.length_utf8EncodeChar]
    exact c.utf8Size_pos
  obtain ⟨first, others, own⟩ := List.exists_cons_of_ne_nil any
  refine ⟨first, others, ?_, ?_, ?_⟩
  · simp [← own, byteChars, bytes]
  · rw [← own]
    intro byte member
    obtain ⟨byte, encoded, rfl⟩ := List.mem_map.mp member
    rw [Ascii, toNat_charOfByte]
    exact Nat.not_lt.mpr (le_of_mem_utf8EncodeChar wide encoded)
  · rw [← own, List.length_map, String.length_utf8EncodeChar]

section Tests
variable {p : Char → Bool}

/-- A test that does not tell characters beyond ASCII apart. -/
def Coarse (p : Char → Bool) : Prop := ∃ b, ∀ c, ¬ Ascii c → p c = b

/-- Such a test goes as far over the bytes of a text as over its characters. -/
theorem length_takeWhile_byteChars (coarse : Coarse p) (text : List Char) :
    ((byteChars text).takeWhile p).length = byteLength (text.takeWhile p) := by
  obtain ⟨b, beyond⟩ := coarse
  induction text with
  | nil => rfl
  | cons c rest ih =>
    by_cases ascii : Ascii c
    · rw [byteChars_ascii ascii]
      cases holds : p c with
      | false => simp [holds, byteLength]
      | true => simp [holds, byteLength, ih, utf8Size_of_ascii ascii, Nat.add_comm]
    · obtain ⟨first, others, whole, wide, size⟩ := byteChars_wide ascii rest
      have same : ∀ byte ∈ first :: others, p byte = b := fun byte member => beyond byte (wide byte member)
      have here := beyond c ascii
      rw [whole]
      cases b with
      | true =>
        rw [List.takeWhile_append_of_pos same, List.takeWhile_cons_of_pos here, List.length_append, ih, byteLength,
          size]
      | false =>
        have stops := same first List.mem_cons_self
        simp [stops, here, byteLength]

/-- The first byte of a text is its first character, or both are beyond ASCII. -/
theorem head?_byteChars (text : List Char) : (byteChars text).head? = text.head? ∨ ∃ c byte,
    ¬ Ascii c ∧ ¬ Ascii byte ∧ text.head? = some c ∧ (byteChars text).head? = some byte := by
  cases text with
  | nil => exact .inl rfl
  | cons c rest =>
    by_cases ascii : Ascii c
    · left
      simp [byteChars_ascii ascii]
    · right
      obtain ⟨first, others, whole, wide, _⟩ := byteChars_wide ascii rest
      exact ⟨c, first, ascii, wide first List.mem_cons_self, rfl, by simp [whole]⟩

theorem head?_any_byteChars (none : ∀ c, ¬ Ascii c → p c = false) (text : List Char) :
    (byteChars text).head?.any p = text.head?.any p := by
  rcases head?_byteChars text with same | ⟨c, byte, wide, wide', head, head'⟩
  · rw [same]
  · simp [head, head', none c wide, none byte wide']

theorem head?_bind_byteChars {α : Type} {find : Char → Option α} (nothing : ∀ c, ¬ Ascii c → find c = none)
    (text : List Char) : (byteChars text).head?.bind find = text.head?.bind find := by
  rcases head?_byteChars text with same | ⟨c, byte, wide, wide', head, head'⟩
  · rw [same]
  · simp [head, head', nothing c wide, nothing byte wide']

end Tests

end Stencil.Text
