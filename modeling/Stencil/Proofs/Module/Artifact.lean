import Stencil.Module.Artifact
import Stencil.Module.Fingerprint
import Stencil.Proofs.Text.Parts

/-! Artifacts are read back as they were written: the fingerprint and the source of a module survive the
text of its artifact, whatever its listing is. -/
namespace Stencil

theorem hexWord_sharp (word : UInt32) {c : Char} (member : c ∈ Sha256.hexWord word) :
    Text.isBlank c = false := by
  have digit : ∀ n < 16, Text.isBlank (Nat.digitChar n) = false := by decide
  obtain ⟨places, _, rfl⟩ := List.mem_map.mp member
  exact digit _ (Nat.mod_lt _ (by decide))

theorem fingerprint_sharp (source : List Char) : ∀ c ∈ fingerprint source, Text.isBlank c = false := by
  intro c member
  obtain ⟨word, _, digit⟩ := List.mem_flatMap.mp member
  exact hexWord_sharp word digit

theorem fingerprint_ne_nil (source : List Char) : fingerprint source ≠ [] := by
  simp [fingerprint, Sha256.State.hex, Sha256.hexWord]

namespace Artifact

theorem readCount?_digits {digits : List Char} (any : digits ≠ [])
    (all : ∀ c ∈ digits, c.isDigit = true) : readCount? digits = some (Decimal.digitsValue digits) := by
  have accepted : (digits.isEmpty || !digits.all Char.isDigit) = false := by
    simp [any, List.all_eq_true.mpr all]
  unfold readCount?
  split
  next rest => exact absurd (all '+' List.mem_cons_self) (by decide)
  next => rw [if_neg (by rw [accepted]; decide)]

theorem labelled?_append (label text : List Char) :
    labelled? label (label ++ text) = some (Text.trim text) := by
  have starts : label.isPrefixOf (label ++ text) = true :=
    List.isPrefixOf_iff_prefix.mpr (List.prefix_append _ _)
  rw [labelled?, if_pos starts, List.drop_left]

def heading (path : String) : List Char :=
  "# Generated from ".toList ++ path.toList ++ " by prep. Do not edit.".toList

theorem fromLines_heading (path : String) (found : Option (List Char)) (rest : List (List Char)) :
    fromLines found (heading path :: rest) = fromLines found rest := by
  have trimmed : Text.trimEnd (heading path) = heading path :=
    Text.trimEnd_append (by simp) (by simp; decide)
  have marked : (heading path).head? = some '#' := rfl
  rw [fromLines, if_pos marked, trimmed]
  rfl

theorem fromLines_fingerprint {fingerprint : List Char} (any : fingerprint ≠ [])
    (sharp : ∀ c ∈ fingerprint, Text.isBlank c = false) (found : Option (List Char))
    (rest : List (List Char)) :
    fromLines found ((fingerprintLabel ++ fingerprint) :: rest) = fromLines (some fingerprint) rest := by
  have trimmed : Text.trimEnd (fingerprintLabel ++ fingerprint) = fingerprintLabel ++ fingerprint :=
    Text.trimEnd_append any fun c last => sharp c (List.mem_of_getLast? last)
  have marked : (fingerprintLabel ++ fingerprint).head? = some '#' := rfl
  rw [fromLines, if_pos marked, trimmed]
  simp only [labelled?_append, Text.trim_eq_self sharp]

theorem fromLines_length (fingerprint source : List Char) (rest : List (List Char)) :
    fromLines (some fingerprint)
        ((lengthLabel ++ Nat.toDigits 10 (Text.byteLength source)) :: rest) =
      some ⟨fingerprint, Text.takeBytes? (Text.byteLength source) (Text.join ['\n'] rest)⟩ := by
  have value := Decimal.digitsValue_toDigits (Text.byteLength source)
  have digits (c : Char) (member : c ∈ Nat.toDigits 10 (Text.byteLength source)) : c.isDigit = true :=
    Nat.isDigit_of_mem_toDigits (by decide) (by decide) member
  have any : Nat.toDigits 10 (Text.byteLength source) ≠ [] := Nat.toDigits_ne_nil
  generalize Nat.toDigits 10 (Text.byteLength source) = count at value digits any
  have sharp (c : Char) (member : c ∈ count) : Text.isBlank c = false := Text.isBlank_of_isDigit (digits c member)
  have trimmed : Text.trimEnd (lengthLabel ++ count) = lengthLabel ++ count :=
    Text.trimEnd_append any fun c last => sharp c (List.mem_of_getLast? last)
  have marked : (lengthLabel ++ count).head? = some '#' := rfl
  have other : labelled? fingerprintLabel (lengthLabel ++ count) = none := rfl
  rw [fromLines, if_pos marked, trimmed]
  simp only [other, labelled?_append, Text.trim_eq_self sharp, readCount?_digits any digits, value]
  rfl

theorem text_eq_lines (path : String) (fingerprint source listing : List Char) :
    text path fingerprint source listing =
      heading path ++ '\n' :: (fingerprintLabel ++ fingerprint ++ '\n' ::
        (lengthLabel ++ Nat.toDigits 10 (Text.byteLength source) ++ '\n' ::
          (source ++ '\n' :: listing))) := by
  have ends : " by prep. Do not edit.\n".toList = " by prep. Do not edit.".toList ++ ['\n'] := by simp
  unfold text heading
  -- Literals are kept apart from each other: comparing two of them is slow.
  generalize "# Generated from ".toList = front, " by prep. Do not edit.\n".toList = ending at ends ⊢
  simp only [ends, List.append_assoc, List.cons_append, List.nil_append]

/-- An artifact records what was written to it. -/
theorem parse?_text {path : String} {fingerprint : List Char} (unbroken : '\n' ∉ path.toList)
    (any : fingerprint ≠ []) (sharp : ∀ c ∈ fingerprint, Text.isBlank c = false)
    (source listing : List Char) :
    parse? (text path fingerprint source listing) = some ⟨fingerprint, some source⟩ := by
  have first : '\n' ∉ heading path := by
    unfold heading
    exact Text.not_mem_append (Text.not_mem_append (by simp) unbroken) (by simp)
  have second : '\n' ∉ fingerprintLabel ++ fingerprint := by
    unfold fingerprintLabel
    exact Text.not_mem_append (by simp) fun member => absurd (sharp _ member) (by decide)
  have third : '\n' ∉ lengthLabel ++ Nat.toDigits 10 (Text.byteLength source) := by
    unfold lengthLabel
    refine Text.not_mem_append (by simp) fun member => ?_
    exact absurd (Nat.isDigit_of_mem_toDigits (by decide) (by decide) member) (by decide)
  rw [parse?, text_eq_lines, Text.splitLines_append_line first, Text.splitLines_append_line second,
    Text.splitLines_append_line third, fromLines_heading, fromLines_fingerprint any sharp,
    fromLines_length, Text.join_splitLines, Text.takeBytes?_append]

end Artifact
end Stencil
