/-! Floating point numbers as exact fractions: taking a finite number apart, and rounding a
fraction to the nearest number of a binary format. -/
namespace Stencil.Decimal

def twoTo (power : Nat) : Nat := Nat.pow 2 power

def tenTo (power : Nat) : Nat := Nat.pow 10 power

/-- The finite number `± significand * 2 ^ exponent`. -/
structure Binary where
  negative : Bool
  significand : Nat
  exponent : Int
deriving DecidableEq, Repr

def ofFloat? (x : Float) : Option Binary :=
  let bits : Nat := x.toBits.toNat
  let field : Nat := bits / twoTo 52 % twoTo 11
  let fraction : Nat := bits % twoTo 52
  let negative := decide (twoTo 63 ≤ bits)
  if field = 2047 then none
  else if field = 0 then some ⟨negative, fraction, -1074⟩
  else some ⟨negative, fraction + twoTo 52, Int.ofNat field - 1075⟩

/-- A binary format: the digits of its significands, its least exponent, and the exponent of the
power of two from which on it overflows. -/
structure Format where
  precision : Nat
  least : Int
  overflow : Int

def double : Format := ⟨53, -1074, 1024⟩

def single : Format := ⟨24, -149, 128⟩

/-- A quotient rounded to the nearest whole number, a half going to the even neighbour. -/
def roundedQuotient (numerator denominator : Nat) : Nat :=
  let quotient := numerator / denominator
  let rest := 2 * (numerator % denominator)
  if rest < denominator then quotient
  else if denominator < rest then quotient + 1
  else if quotient % 2 = 0 then quotient else quotient + 1

def scaledRound (numerator denominator : Nat) (exponent : Int) : Nat :=
  if 0 ≤ exponent then roundedQuotient numerator (denominator * twoTo exponent.toNat)
  else roundedQuotient (numerator * twoTo (-exponent).toNat) denominator

/-- The nearest number of the format as significand and exponent, or nothing if it overflows. -/
def Format.nearest (format : Format) (numerator denominator : Nat) : Option (Nat × Int) :=
  if numerator = 0 then some (0, format.least)
  else
    let guess := (Nat.log2 numerator : Int) - (Nat.log2 denominator : Int) - format.precision
    let low := max guess format.least
    let first := scaledRound numerator denominator low
    let (significand, exponent) :=
      if first ≤ twoTo format.precision then (first, low)
      else (scaledRound numerator denominator (low + 1), low + 1)
    if significand = 0 then some (0, format.least)
    else if (Nat.log2 significand : Int) + exponent ≥ format.overflow then none
    else some (significand, exponent)

/-- The double `significand * 2 ^ exponent`, for a pair that the format holds exactly. -/
def toDouble (negative : Bool) (significand : Nat) (exponent : Int) : Float :=
  let sign := if negative then twoTo 63 else 0
  if significand = 0 then Float.ofBits (UInt64.ofNat sign)
  else
    let shift := 52 - (Nat.log2 significand : Int)
    let whole := min shift (exponent + 1074)
    let aligned :=
      if 0 ≤ whole then significand * twoTo whole.toNat else significand / twoTo (-whole).toNat
    let field := if aligned < twoTo 52 then 0 else (exponent - whole + 1075).toNat
    let fraction := if aligned < twoTo 52 then aligned else aligned - twoTo 52
    Float.ofBits (UInt64.ofNat (sign + field * twoTo 52 + fraction))

def infinity (negative : Bool) : Float :=
  Float.ofBits (if negative then 0xFFF0000000000000 else 0x7FF0000000000000)

def notANumber : Float := Float.ofBits 0x7FF8000000000000

def ofFraction (format : Format) (negative : Bool) (numerator denominator : Nat) : Float :=
  match format.nearest numerator denominator with
  | some (significand, exponent) => toDouble negative significand exponent
  | none => infinity negative

def ofInt (n : Int) : Float := ofFraction double (n < 0) n.natAbs 1

def Binary.truncated (b : Binary) : Int :=
  let size := if 0 ≤ b.exponent then b.significand * twoTo b.exponent.toNat
    else b.significand / twoTo (-b.exponent).toNat
  if b.negative then -(size : Int) else size

def Binary.isWhole (b : Binary) : Bool :=
  0 ≤ b.exponent || b.significand % twoTo (-b.exponent).toNat == 0

/-- The remainder of a division whose quotient is cut off. It has the sign of the first operand
and is exact. The second operand is not zero. -/
def remainder (x y : Float) : Float :=
  match ofFloat? x, ofFloat? y with
  | some a, some b =>
    let low := min a.exponent b.exponent
    let left := a.significand * twoTo (a.exponent - low).toNat
    let right := b.significand * twoTo (b.exponent - low).toNat
    toDouble a.negative (left % right) low
  | some _, none => if y.isNaN then notANumber else x
  | none, _ => notANumber

end Stencil.Decimal
