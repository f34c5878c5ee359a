import Stencil.Decimal.Binary

/-! Reading decimal text: whole numbers and floating point numbers, rounded to nearest. -/
namespace Stencil.Decimal

/-- Neighbours of digits in a base, the last digit first, taken together as digits in its square. -/
def pairDigits (base : Nat) : List Nat → List Nat
  | low :: high :: rest => (low + base * high) :: pairDigits base rest
  | digits => digits

theorem length_pairDigits_le (base : Nat) (digits : List Nat) :
    (pairDigits base digits).length ≤ digits.length := by
  fun_induction pairDigits base digits with
  | case1 low high rest ih => simp only [List.length_cons]; omega
  | case2 => exact Nat.le_refl _

def valueIn (base : Nat) : List Nat → Nat
  | [] => 0
  | [digit] => digit
  | low :: high :: rest =>
    have := length_pairDigits_le base rest
    valueIn (base * base) ((low + base * high) :: pairDigits base rest)
termination_by digits => digits.length
decreasing_by simp only [List.length_cons]; omega

theorem foldr_pairDigits (base : Nat) (digits : List Nat) :
    (pairDigits base digits).foldr (fun d n => d + base * base * n) 0 =
      digits.foldr (fun d n => d + base * n) 0 := by
  fun_induction pairDigits base digits with
  | case1 low high rest ih =>
    rw [List.foldr_cons, ih]
    simp only [List.foldr_cons, Nat.mul_add, Nat.mul_assoc, Nat.add_assoc]
  | case2 digits short =>
    match digits with
    | [] => rfl
    | [_] => rfl
    | low :: high :: rest => exact absurd rfl (short low high rest)

theorem valueIn_eq_foldr (base : Nat) (digits : List Nat) :
    valueIn base digits = digits.foldr (fun d n => d + base * n) 0 := by
  fun_induction valueIn base digits with
  | case1 => rfl
  | case2 => rfl
  | case3 base low high rest _ ih =>
    rw [ih]
    exact foldr_pairDigits base (low :: high :: rest)

def digitsValue (digits : List Char) : Nat :=
  valueIn 10 (digits.reverse.map fun c => c.toNat - '0'.toNat)

def splitDigits (text : List Char) : List Char × List Char :=
  (text.takeWhile Char.isDigit, text.dropWhile Char.isDigit)

/-- The exact number `digits * 10 ^ exponent` rounded to a format. Numbers that are out of reach of
any double are settled without computing the power: a power of two with exponent `n` is at least
the power of ten with exponent `3 * n / 10`, and less than the one with exponent `n / 3 + 1`. -/
def scaled (format : Format) (negative : Bool) (digits : Nat) (exponent : Int) : Float :=
  if digits = 0 then toDouble negative 0 0
  else
    let places : Int := Nat.log2 digits
    if exponent + 3 * places / 10 > 400 then infinity negative
    else if exponent + places / 3 + 1 < -400 then toDouble negative 0 0
    else if 0 ≤ exponent then ofFraction format negative (digits * tenTo exponent.toNat) 1
    else ofFraction format negative digits (tenTo (-exponent).toNat)

def splitSign : List Char → Bool × List Char
  | '+' :: rest => (false, rest)
  | '-' :: rest => (true, rest)
  | text => (false, text)

def readExponent : List Char → Option Int
  | [] => some 0
  | e :: rest =>
    if e = 'e' || e = 'E' then
      let (negative, digits) := splitSign rest
      if digits.isEmpty || !digits.all Char.isDigit then none
      else some (if negative then -(digitsValue digits : Int) else digitsValue digits)
    else none

def readUnsigned (format : Format) (negative : Bool) (text : List Char) : Option Float :=
  let (whole, rest) := splitDigits text
  let (fraction, tail) :=
    match rest with
    | '.' :: behind => splitDigits behind
    | _ => ([], rest)
  if whole.isEmpty && fraction.isEmpty then none
  else (readExponent tail).map fun exponent =>
    scaled format negative (digitsValue (whole ++ fraction)) (exponent - fraction.length)

/-- Reads a number with an optional sign, point and exponent, or one of the words for infinity and
for a value that is not a number, in any case. -/
def readFloat (format : Format) (text : List Char) : Option Float :=
  let (negative, rest) := splitSign text
  let word := rest.map Char.toLower
  if word = "inf".toList || word = "infinity".toList then some (infinity negative)
  else if word = "nan".toList then some notANumber
  else readUnsigned format negative rest

def readInt (text : List Char) : Option Int :=
  let (negative, digits) := splitSign text
  if digits.isEmpty || !digits.all Char.isDigit then none
  else some (if negative then -(digitsValue digits : Int) else digitsValue digits)

end Stencil.Decimal
