import Mathlib.Data.Rat.Floor
import Stencil.Expr.Builtin
import Stencil.Proofs.Value.Words

/-! Arithmetic of integers. Main statement: every operator gives the exact integer if a word can hold it and refuses it
otherwise, and so do the steps on words, of which none that is not checked leaves the range. -/
namespace Stencil

/-- The integer that an operator stands for. Division has none. -/
def BinaryOp.onIntegers? (a b : Int) : BinaryOp → Option Int
  | .add => some (a + b)
  | .subtract => some (a - b)
  | .multiply => some (a * b)
  | .floorDivide => if b = 0 then none else some ⌊(a : ℚ) / b⌋
  | .remainder => if b = 0 then none else some (a - b * ⌊(a : ℚ) / b⌋)
  | .divide => none

namespace Word

def refused (result : Option Int64) : Except RunError Int64 := result.elim (.error (.value .overflow)) .ok

/-- A quotient rounded towards minus infinity: one less than that of words where something is left and the signs
differ. Taking one away is not checked. -/
def floorQuotient (a b : Int64) : Option (Except RunError Int64) :=
  if b = 0 then some (.error .zeroDivision)
  else match quotient? a b with
    | none => some (.error (.value .overflow))
    | some quotient => do
      let rest ← rest? a b
      if rest ≠ 0 ∧ (a < 0 ↔ ¬ b < 0) then return .ok (← difference? quotient 1) else return .ok quotient

/-- A remainder with the sign of the divisor, which is added to one with the other sign. Adding is not checked. -/
def floorRest (a b : Int64) : Option (Except RunError Int64) :=
  if b = 0 then some (.error .zeroDivision)
  else
    let rest := (rest? a b).getD 0
    if rest ≠ 0 ∧ (rest < 0 ↔ ¬ b < 0) then do return .ok (← sum? rest b) else some (.ok rest)

/-- An operator in steps on words, missing if a step that is not checked has no result. -/
def arithmetic (op : BinaryOp) (a b : Int64) : Option (Except RunError Int64) :=
  match op with
  | .add => some (refused (sum? a b))
  | .subtract => some (refused (difference? a b))
  | .multiply => some (refused (product? a b))
  | .floorDivide => floorQuotient a b
  | .remainder => floorRest a b
  | .divide => none

end Word

section Rounding

variable {a b : Int}

theorem fdiv_eq_floor (a b : Int) : a.fdiv b = ⌊(a : ℚ) / b⌋ := by
  rcases Int.le_total 0 b with positive | negative
  · obtain ⟨n, rfl⟩ := Int.eq_ofNat_of_zero_le positive
    rw [Int.fdiv_eq_ediv_of_nonneg a positive]
    exact (Rat.floor_intCast_div_natCast a n).symm
  · obtain ⟨n, same⟩ := Int.eq_ofNat_of_zero_le (Int.neg_nonneg_of_nonpos negative)
    have turned : (a : ℚ) / b = ((-a : Int) : ℚ) / (n : ℚ) := by
      have whole : (b : ℚ) = -(n : ℚ) := by
        rw [← Int.neg_neg b, same]
        simp
      rw [whole]
      simp [neg_div, div_neg]
    rw [turned, Rat.floor_intCast_div_natCast, ← Int.neg_fdiv_neg, same]
    exact Int.fdiv_eq_ediv_of_nonneg _ (Int.natCast_nonneg n)

theorem natAbs_tmod_lt (nonzero : b ≠ 0) : (a.tmod b).natAbs < b.natAbs := by
  rw [Int.natAbs_tmod]
  exact Nat.mod_lt _ (Int.natAbs_pos.mpr nonzero)

/-- What is left by a division that rounds towards zero has the sign of the dividend. -/
theorem tmod_neg_iff (left : a.tmod b ≠ 0) : a.tmod b < 0 ↔ a < 0 := by
  rcases Int.lt_or_le a 0 with negative | positive
  · have opposite := Int.tmod_nonneg b (Int.neg_nonneg_of_nonpos (Int.le_of_lt negative))
    rw [Int.neg_tmod] at opposite
    omega
  · have := Int.tmod_nonneg b positive
    omega

theorem fdiv_eq_corrected (nonzero : b ≠ 0) : a.fdiv b =
    if a.tmod b ≠ 0 ∧ (a < 0 ↔ ¬ b < 0) then a.tdiv b - 1 else a.tdiv b := by
  have divides : b ∣ a ↔ a.tmod b = 0 := Int.dvd_iff_tmod_eq_zero
  rw [Int.fdiv_eq_tdiv]
  rcases Int.lt_or_gt_of_ne nonzero with negative | positive
  · have sign := Int.sign_eq_neg_one_of_neg negative
    grind
  · have sign := Int.sign_eq_one_of_pos positive
    grind

theorem fmod_eq_corrected (nonzero : b ≠ 0) : a.fmod b =
    if a.tmod b ≠ 0 ∧ (a.tmod b < 0 ↔ ¬ b < 0) then a.tmod b + b else a.tmod b := by
  have whole := Int.tmod_def a b
  rw [Int.fmod_def, fdiv_eq_corrected nonzero]
  by_cases left : a.tmod b = 0
  · rw [if_neg (fun corrected => corrected.1 left), if_neg (fun corrected => corrected.1 left)]
    exact whole.symm
  · simp only [tmod_neg_iff left]
    split
    · rw [Int.mul_sub, Int.mul_one]
      omega
    · exact whole.symm

/-- A floored remainder is nearer to zero than the divisor, and on the same side. -/
theorem fmod_between (nonzero : b ≠ 0) :
    (a.fmod b).natAbs < b.natAbs ∧ (a.fmod b = 0 ∨ (a.fmod b).sign = b.sign) := by
  have near := natAbs_tmod_lt (a := a) nonzero
  rw [fmod_eq_corrected nonzero]
  split
  next corrected =>
    refine ⟨by omega, .inr ?_⟩
    rcases Int.lt_or_gt_of_ne nonzero with negative | positive
    · rw [Int.sign_eq_neg_one_of_neg negative, Int.sign_eq_neg_one_of_neg (by omega)]
    · rw [Int.sign_eq_one_of_pos positive, Int.sign_eq_one_of_pos (by omega)]
  next kept =>
    refine ⟨near, or_iff_not_imp_left.mpr fun left => ?_⟩
    rcases Int.lt_or_gt_of_ne nonzero with negative | positive
    · rw [Int.sign_eq_neg_one_of_neg negative, Int.sign_eq_neg_one_of_neg (by omega)]
    · rw [Int.sign_eq_one_of_pos positive, Int.sign_eq_one_of_pos (by omega)]

/-- Where something is left, the quotient has no more than half of the dividend. -/
theorem natAbs_tdiv_le (nonzero : b ≠ 0) (left : a.tmod b ≠ 0) : (a.tdiv b).natAbs ≤ a.natAbs / 2 := by
  have some : (a.tmod b).natAbs ≠ 0 := Int.natAbs_ne_zero.mpr left
  have positive := Int.natAbs_pos.mpr nonzero
  have several : 2 ≤ b.natAbs := by
    by_contra few
    have unit : b.natAbs = 1 := by omega
    rw [Int.natAbs_tmod, unit] at some
    exact some (Nat.mod_one _)
  rw [Int.natAbs_tdiv]
  exact Nat.div_le_div_left several (by decide)

end Rounding

section Steps

variable {a b : Int64}

theorem toInt_ne_zero (nonzero : b ≠ 0) : b.toInt ≠ 0 :=
  fun same => nonzero (Int64.toInt_inj.mp same)

theorem natAbs_toInt_le (word : Int64) : word.toInt.natAbs ≤ 9223372036854775808 := by
  obtain ⟨least, most⟩ := fits_iff.mp (fits_toInt word)
  omega

theorem fits_fmod (a : Int) (nonzero : b ≠ 0) : FitsWord (a.fmod b.toInt) := by
  have nearer := (fmod_between (a := a) (toInt_ne_zero nonzero)).1
  obtain ⟨least, most⟩ := fits_iff.mp (fits_toInt b)
  rw [fits_iff]
  omega

/-- A quotient of words that does not fit leaves nothing. -/
theorem tmod_of_large (nonzero : b ≠ 0) (large : ¬ FitsWord (a.toInt.tdiv b.toInt)) : a.toInt.tmod b.toInt = 0 := by
  by_contra left
  have half := natAbs_tdiv_le (toInt_ne_zero nonzero) left
  have bound := natAbs_toInt_le a
  rw [fits_iff] at large
  omega

/-- One can be taken from a quotient of words where something is left. -/
theorem fits_of_left (nonzero : b ≠ 0) (left : a.toInt.tmod b.toInt ≠ 0) : FitsWord (a.toInt.tdiv b.toInt - 1) := by
  have half := natAbs_tdiv_le (toInt_ne_zero nonzero) left
  have bound := natAbs_toInt_le a
  rw [fits_iff]
  omega

namespace Word

theorem lt_zero_iff (word : Int64) : word < 0 ↔ word.toInt < 0 := Int64.lt_iff_toInt_lt

theorem ne_zero_iff (word : Int64) : word ≠ 0 ↔ word.toInt ≠ 0 := Int64.toInt_inj.not.symm

theorem floorQuotient_eq (nonzero : b ≠ 0) : floorQuotient a b = some (refused (ofInt? (a.toInt.fdiv b.toInt))) := by
  rw [floorQuotient, if_neg nonzero, fdiv_eq_corrected (toInt_ne_zero nonzero)]
  cases divided : quotient? a b with
  | none =>
    have large := ofInt?_eq_none.mp divided
    have whole := tmod_of_large nonzero large
    rw [if_neg (fun corrected => corrected.1 whole), ofInt?_eq_none.mpr large]
    rfl
  | some quotient =>
    have same : quotient.toInt = a.toInt.tdiv b.toInt := ofInt?_eq_some.mp divided
    have left : rest? a b = some (a % b) := by
      rw [rest?, divided]
      rfl
    simp only [left, Option.bind_eq_bind, Option.bind_some, ne_zero_iff, Int64.toInt_mod, lt_zero_iff]
    split
    next corrected =>
      obtain ⟨word, made, _⟩ := ofInt?_of_fits (fits_of_left nonzero corrected.1)
      have step : difference? quotient 1 = some word := by
        rw [difference?, same]
        exact made
      rw [step, made]
      rfl
    next kept =>
      rw [← same, ofInt?_toInt]
      rfl

theorem floorRest_eq (nonzero : b ≠ 0) : floorRest a b = some (refused (ofInt? (a.toInt.fmod b.toInt))) := by
  have rest : ((rest? a b).getD 0).toInt = a.toInt.tmod b.toInt := by
    cases divided : quotient? a b with
    | none =>
      rw [rest?, divided, tmod_of_large nonzero (ofInt?_eq_none.mp divided)]
      rfl
    | some quotient =>
      rw [rest?, divided]
      exact Int64.toInt_mod a b
  obtain ⟨word, made, same⟩ := ofInt?_of_fits (fits_fmod a.toInt nonzero)
  rw [floorRest, if_neg nonzero, made]
  rw [fmod_eq_corrected (toInt_ne_zero nonzero), ← rest] at made same
  simp only [ne_zero_iff, lt_zero_iff]
  split
  next corrected =>
    rw [if_pos corrected] at made
    rw [sum?, made]
    rfl
  next kept =>
    rw [if_neg kept] at same
    rw [← Int64.toInt_inj.mp same]
    rfl

end Word

end Steps

section Operators

variable {left right : Value} {a b : Int64} {op : BinaryOp}

theorem BinaryOp.onIntegers?_floorDivide {a b n : Int} :
    BinaryOp.floorDivide.onIntegers? a b = some n ↔ b ≠ 0 ∧ a.fdiv b = n := by
  rw [BinaryOp.onIntegers?, Option.ite_none_left_eq_some, Option.some.injEq, ← fdiv_eq_floor]

theorem BinaryOp.onIntegers?_remainder {a b n : Int} :
    BinaryOp.remainder.onIntegers? a b = some n ↔ b ≠ 0 ∧ a.fmod b = n := by
  rw [BinaryOp.onIntegers?, Option.ite_none_left_eq_some, Option.some.injEq, ← fdiv_eq_floor, Int.fmod_def]

theorem binaryValue_of_words (op : BinaryOp) (first : left.word? = some a) (second : right.word? = some b) :
    binaryValue op left right = Number.arithmetic op (.int a.toInt) (.int b.toInt) := by
  rw [binaryValue, number?_of_word? first, number?_of_word? second]

theorem binaryValue_exact (first : left.word? = some a) (second : right.word? = some b) {n : Int}
    (is : op.onIntegers? a.toInt b.toInt = some n) : binaryValue op left right = exactly n := by
  rw [binaryValue_of_words op first second]
  cases op with
  | add | subtract | multiply =>
    cases is
    rfl
  | divide => cases is
  | floorDivide =>
    obtain ⟨nonzero, rfl⟩ := BinaryOp.onIntegers?_floorDivide.mp is
    rw [Number.arithmetic, integerArithmetic, if_neg nonzero]
    rfl
  | remainder =>
    obtain ⟨nonzero, rfl⟩ := BinaryOp.onIntegers?_remainder.mp is
    rw [Number.arithmetic, integerArithmetic, if_neg nonzero]
    rfl

theorem binaryValue_zero (first : left.word? = some a) (second : right.word? = some 0)
    (divides : op = .floorDivide ∨ op = .remainder) : binaryValue op left right = .error .zeroDivision := by
  rw [binaryValue_of_words op first second]
  rcases divides with rfl | rfl <;> rfl

theorem exactly_ne_zeroDivision (n : Int) : exactly n ≠ .error .zeroDivision := by
  rcases exactOrRefused_exactly n with ⟨word, _, given⟩ | ⟨_, refused⟩
  · rw [given]
    exact nofun
  · rw [refused]
    exact nofun

/-- An operator on integers divides by zero or stands for an integer. -/
theorem BinaryOp.onIntegers?_cases (whole : op ≠ .divide) (a b : Int) :
    (b = 0 ∧ (op = .floorDivide ∨ op = .remainder)) ∨
      ¬ (b = 0 ∧ (op = .floorDivide ∨ op = .remainder)) ∧ ∃ n, op.onIntegers? a b = some n := by
  by_cases zero : b = 0
  · cases op <;> simp_all [BinaryOp.onIntegers?]
  · cases op <;> simp_all [BinaryOp.onIntegers?]

theorem Word.arithmetic_exact {n : Int} (is : op.onIntegers? a.toInt b.toInt = some n) :
    Word.arithmetic op a b = some (Word.refused (Word.ofInt? n)) := by
  cases op with
  | add | subtract | multiply =>
    cases is
    rfl
  | divide => cases is
  | floorDivide =>
    obtain ⟨nonzero, rfl⟩ := BinaryOp.onIntegers?_floorDivide.mp is
    exact Word.floorQuotient_eq fun same => nonzero (congrArg Int64.toInt same)
  | remainder =>
    obtain ⟨nonzero, rfl⟩ := BinaryOp.onIntegers?_remainder.mp is
    exact Word.floorRest_eq fun same => nonzero (congrArg Int64.toInt same)

/-- In steps on words, an operator gives what it gives on values. -/
theorem arithmetic_words (whole : op ≠ .divide) (first : left.word? = some a) (second : right.word? = some b) :
    (Word.arithmetic op a b).map (·.map Value.int) = some (binaryValue op left right) := by
  rcases BinaryOp.onIntegers?_cases whole a.toInt b.toInt with ⟨zero, divides⟩ | ⟨_, n, is⟩
  · obtain rfl : b = 0 := Int64.toInt_inj.mp zero
    rw [binaryValue_zero first second divides]
    rcases divides with rfl | rfl <;> rfl
  · rw [Word.arithmetic_exact is, binaryValue_exact first second is, exactly_eq]
    cases Word.ofInt? n <;> rfl

/-- What holds of all operators where both operands are integers. -/
structure ExactArithmetic (left right : Value) (a b : Int64) : Prop where
  zero : ∀ op, op ≠ .divide →
    (binaryValue op left right = .error .zeroDivision ↔ b = 0 ∧ (op = .floorDivide ∨ op = .remainder))
  exact : ∀ op n, op.onIntegers? a.toInt b.toInt = some n → ExactOrRefused n (binaryValue op left right)
  remainder : b ≠ 0 → ∃ r : Int64, binaryValue .remainder left right = .ok (.int r) ∧
    (r = 0 ∨ r.toInt.sign = b.toInt.sign)
  quotient : ∀ q, binaryValue .floorDivide left right = .ok q → ∃ quotient r : Int64, q = .int quotient ∧
    binaryValue .remainder left right = .ok (.int r) ∧ a.toInt = quotient.toInt * b.toInt + r.toInt
  negation : ExactOrRefused (-a.toInt) (unaryValue .negate left)
  magnitude : ExactOrRefused |a.toInt| (Builtin.abs.call [left])
  words : ∀ op, op ≠ .divide → (Word.arithmetic op a b).map (·.map Value.int) = some (binaryValue op left right)

theorem remainder_fits (first : left.word? = some a) (second : right.word? = some b) (nonzero : b ≠ 0) :
    ∃ r : Int64, binaryValue .remainder left right = .ok (.int r) ∧ r.toInt = a.toInt.fmod b.toInt := by
  obtain ⟨word, made, same⟩ := Word.ofInt?_of_fits (fits_fmod a.toInt nonzero)
  refine ⟨word, ?_, same⟩
  have is : BinaryOp.remainder.onIntegers? a.toInt b.toInt = some (a.toInt.fmod b.toInt) :=
    BinaryOp.onIntegers?_remainder.mpr ⟨toInt_ne_zero nonzero, rfl⟩
  rw [binaryValue_exact first second is, exactly_eq, made]
  rfl

/-- An operator on integers, with booleans for zero and one, divides by zero exactly where it has to, and otherwise
gives the exact integer if 64 bits hold it and refuses it if they do not. A remainder is never refused, and belongs to
the quotient. -/
theorem integer_arithmetic_exact {left right : Value} {a b : Int64} (first : left.word? = some a)
    (second : right.word? = some b) : ExactArithmetic left right a b where
  zero op whole := by
    rcases BinaryOp.onIntegers?_cases whole a.toInt b.toInt with ⟨zero, divides⟩ | ⟨other, n, is⟩
    · obtain rfl : b = 0 := Int64.toInt_inj.mp zero
      exact iff_of_true (binaryValue_zero first second divides) ⟨rfl, divides⟩
    · refine iff_of_false ?_ fun zero => other ⟨congrArg Int64.toInt zero.1, zero.2⟩
      rw [binaryValue_exact first second is]
      exact exactly_ne_zeroDivision n
  exact op n is := by
    rw [binaryValue_exact first second is]
    exact exactOrRefused_exactly n
  remainder nonzero := by
    obtain ⟨r, given, same⟩ := remainder_fits first second nonzero
    refine ⟨r, given, ?_⟩
    rw [← Int64.toInt_inj, same]
    exact (fmod_between (toInt_ne_zero nonzero)).2
  quotient q given := by
    have nonzero : b ≠ 0 := by
      rintro rfl
      cases (binaryValue_zero first second (.inl rfl)).symm.trans given
    obtain ⟨r, rest, left⟩ := remainder_fits first second nonzero
    have is : BinaryOp.floorDivide.onIntegers? a.toInt b.toInt = some (a.toInt.fdiv b.toInt) :=
      BinaryOp.onIntegers?_floorDivide.mpr ⟨toInt_ne_zero nonzero, rfl⟩
    rw [binaryValue_exact first second is] at given
    rcases exactOrRefused_exactly (a.toInt.fdiv b.toInt) with ⟨word, same, fits⟩ | ⟨_, refused⟩
    · refine ⟨word, r, (Except.ok.inj (fits.symm.trans given)).symm, rest, ?_⟩
      rw [same, left, Int.mul_comm]
      exact (Int.mul_fdiv_add_fmod a.toInt b.toInt).symm
    · cases refused.symm.trans given
  negation := by
    have given : unaryValue .negate left = exactly (-a.toInt) := by
      unfold unaryValue
      rw [number?_of_word? first]
    rw [given]
    exact exactOrRefused_exactly (-a.toInt)
  magnitude := by
    change ExactOrRefused |a.toInt| (magnitude left)
    cases left with
    | int n =>
      cases first
      rw [magnitude, ← Int.natCast_natAbs]
      exact exactOrRefused_exactly _
    | bool b =>
      cases first
      cases b <;> exact .inl ⟨_, by decide, rfl⟩
    | _ => cases first
  words op whole := arithmetic_words whole first second

/-- The least integer divided by minus one, which no word can hold. -/
theorem integer_arithmetic_of_least : (Value.int Int64.minValue).word? = some Int64.minValue ∧
    (Value.int (-1)).word? = some (-1) ∧ ExactArithmetic (.int Int64.minValue) (.int (-1)) Int64.minValue (-1) :=
  ⟨rfl, rfl, integer_arithmetic_exact rfl rfl⟩

end Operators

end Stencil
