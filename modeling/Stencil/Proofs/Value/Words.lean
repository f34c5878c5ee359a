import Stencil.Expr.Access
import Stencil.Expr.Arithmetic

/-! Integers in words of 64 bits. An operation on words is exact or has no result. Main statements: a word is made
of an integer exactly if it fits, and an exact result is the word of the integer or the refusal of one that does not
fit. -/
namespace Stencil

/-- An integer that a word can hold. -/
def FitsWord (n : Int) : Prop := Int64.minValue.toInt ≤ n ∧ n ≤ Int64.maxValue.toInt

instance (n : Int) : Decidable (FitsWord n) :=
  inferInstanceAs (Decidable (Int64.minValue.toInt ≤ n ∧ n ≤ Int64.maxValue.toInt))

theorem fits_iff {n : Int} : FitsWord n ↔ -9223372036854775808 ≤ n ∧ n ≤ 9223372036854775807 := Iff.rfl

theorem fits_toInt (word : Int64) : FitsWord word.toInt := ⟨word.le_toInt, word.toInt_le⟩

theorem toInt_ofInt {n : Int} (fits : FitsWord n) : (Int64.ofInt n).toInt = n := by
  obtain ⟨least, most⟩ := fits_iff.mp fits
  exact Int64.toInt_ofInt_of_le least (by omega)

namespace Word

/-- The word of an integer, missing if the integer does not fit. -/
def ofInt? (n : Int) : Option Int64 := if FitsWord n then some (Int64.ofInt n) else none

theorem ofInt?_eq_some {n : Int} {word : Int64} : ofInt? n = some word ↔ word.toInt = n := by
  unfold ofInt?
  split
  next fits =>
    rw [Option.some.injEq, ← Int64.toInt_inj, toInt_ofInt fits]
    exact eq_comm
  next large =>
    refine ⟨nofun, fun same => absurd ?_ large⟩
    rw [← same]
    exact fits_toInt word

theorem ofInt?_toInt (word : Int64) : ofInt? word.toInt = some word := ofInt?_eq_some.mpr rfl

theorem ofInt?_of_fits {n : Int} (fits : FitsWord n) : ∃ word, ofInt? n = some word ∧ word.toInt = n :=
  ⟨Int64.ofInt n, if_pos fits, toInt_ofInt fits⟩

theorem ofInt?_eq_none {n : Int} : ofInt? n = none ↔ ¬ FitsWord n := by
  unfold ofInt?
  split
  next fits => exact ⟨nofun, fun large => absurd fits large⟩
  next large => exact ⟨fun _ => large, fun _ => rfl⟩

def sum? (a b : Int64) : Option Int64 := ofInt? (a.toInt + b.toInt)

def difference? (a b : Int64) : Option Int64 := ofInt? (a.toInt - b.toInt)

def product? (a b : Int64) : Option Int64 := ofInt? (a.toInt * b.toInt)

/-- Division of words rounds towards zero. -/
def quotient? (a b : Int64) : Option Int64 := ofInt? (a.toInt.tdiv b.toInt)

/-- What is left by the division of words, which has to have a quotient. -/
def rest? (a b : Int64) : Option Int64 := (quotient? a b).map fun _ => a % b

end Word

/-- An integer value as a word: booleans count as zero and one. -/
def Value.word? : Value → Option Int64
  | .int n => some n
  | .bool b => some (if b then 1 else 0)
  | _ => none

theorem integer?_of_word? {value : Value} {word : Int64} (is : value.word? = some word) :
    value.integer? = some word.toInt := by
  cases value with
  | int n =>
    cases is
    rfl
  | bool b =>
    cases is
    cases b <;> rfl
  | _ => cases is

theorem number?_of_word? {value : Value} {word : Int64} (is : value.word? = some word) :
    value.number? = some (.int word.toInt) := by
  cases value with
  | int n =>
    cases is
    rfl
  | bool b =>
    cases is
    cases b <;> rfl
  | _ => cases is

/-- The outcome is the word of an integer, or the refusal of one that does not fit. -/
def ExactOrRefused (n : Int) (outcome : Except RunError Value) : Prop :=
  (∃ word : Int64, word.toInt = n ∧ outcome = .ok (.int word)) ∨
    ¬ FitsWord n ∧ outcome = .error (.value .overflow)

theorem Value.ofInt?_eq (n : Int) : Value.ofInt? n = (Word.ofInt? n).map .int := by
  by_cases fits : Int64.minValue.toInt ≤ n ∧ n ≤ Int64.maxValue.toInt
  · rw [Value.ofInt?, if_pos fits, Word.ofInt?, if_pos (show FitsWord n from fits)]
    rfl
  · rw [Value.ofInt?, if_neg fits, Word.ofInt?, if_neg (show ¬ FitsWord n from fits)]
    rfl

/-- Exact results are those of words, with a refusal where there is none. -/
theorem exactly_eq (n : Int) :
    exactly n = (Word.ofInt? n).elim (.error (.value .overflow)) fun word => .ok (.int word) := by
  rw [exactly, Value.ofInt?_eq]
  cases Word.ofInt? n <;> rfl

theorem exactly_toInt (n : Int64) : exactly n.toInt = .ok (.int n) := by
  rw [exactly_eq, Word.ofInt?_toInt]
  rfl

theorem exactOrRefused_exactly (n : Int) : ExactOrRefused n (exactly n) := by
  rw [exactly_eq]
  cases made : Word.ofInt? n with
  | some word => exact .inl ⟨word, Word.ofInt?_eq_some.mp made, rfl⟩
  | none => exact .inr ⟨Word.ofInt?_eq_none.mp made, rfl⟩

end Stencil
