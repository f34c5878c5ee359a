import Stencil.Decimal.Binary

/-! The text of a floating point number: the fewest digits that read back as the number, and of
those the nearest, written without an exponent. -/
namespace Stencil.Decimal

/-- A positive number given by a scaled significand, with the bounds of the interval of numbers
that round to it. All are whole multiples of `1 / scale`. -/
structure Interval where
  low : Nat
  value : Nat
  high : Nat
  scale : Nat
  closed : Bool

def Binary.interval (b : Binary) : Interval :=
  let below := if b.significand = twoTo 52 && b.exponent ≠ -1074 then 1 else 2
  let up := if 2 ≤ b.exponent then twoTo (b.exponent - 2).toNat else 1
  let scale := if 2 ≤ b.exponent then 1 else twoTo (2 - b.exponent).toNat
  ⟨(4 * b.significand - below) * up, 4 * b.significand * up, (4 * b.significand + 2) * up, scale,
    b.significand % 2 == 0⟩

def Interval.holds (i : Interval) (digits unit parts : Nat) : Bool :=
  let point := digits * unit * i.scale
  if i.closed then decide (i.low * parts ≤ point) && decide (point ≤ i.high * parts)
  else decide (i.low * parts < point) && decide (point < i.high * parts)

/-- The number of digits before the decimal point of `value / scale`, for a value of at least one. -/
def wholeDigits (value scale : Nat) : Nat := (Nat.toDigits 10 (value / scale)).length

/-- The number of zeros behind the decimal point, at most `fuel`. -/
def leadingZeros : Nat → Nat → Nat → Nat
  | 0, _, _ => 0
  | fuel + 1, value, scale =>
    if scale ≤ value * 10 then 0 else leadingZeros fuel (value * 10) scale + 1

/-- The place of the first digit: the number lies below ten to this power. -/
def Interval.magnitude (i : Interval) : Int :=
  if i.scale ≤ i.value then wholeDigits i.value i.scale
  else -(leadingZeros 400 i.value i.scale : Int)

/-- The grid point with the given power of ten as unit that lies in the interval and is nearest to
the value, a tie going up. -/
def Interval.onGrid (i : Interval) (power : Int) : Option Nat :=
  let unit := tenTo power.toNat
  let parts := tenTo (-power).toNat
  let step := unit * i.scale
  let target := i.value * parts
  let below := target / step
  let above := below + 1
  match i.holds below unit parts, i.holds above unit parts with
  | true, true => if 2 * (target % step) < step then some below else some above
  | true, false => some below
  | false, true => some above
  | false, false => none

def Interval.shortestFrom (i : Interval) : Nat → Int → Nat × Int
  | 0, power => (i.value / i.scale, power)
  | fuel + 1, power =>
    match i.onGrid power with
    | some digits => (digits, power)
    | none => i.shortestFrom fuel (power - 1)

def Interval.shortest (i : Interval) : Nat × Int := i.shortestFrom 20 (i.magnitude - 1)

def zeros (n : Nat) : List Char := List.replicate n '0'

def positional (digits : Nat) (power : Int) : List Char :=
  let text := Nat.toDigits 10 digits
  if 0 ≤ power then text ++ zeros power.toNat
  else
    let places := (-power).toNat
    if places < text.length then
      text.take (text.length - places) ++ '.' :: text.drop (text.length - places)
    else '0' :: '.' :: zeros (places - text.length) ++ text

def stripZeros : Nat → Nat → Int → Nat × Int
  | 0, digits, power => (digits, power)
  | fuel + 1, digits, power =>
    if digits % 10 = 0 && digits ≠ 0 then stripZeros fuel (digits / 10) (power + 1)
    else (digits, power)

def magnitudeText (b : Binary) : List Char :=
  if b.significand = 0 then ['0']
  else
    let (digits, power) := b.interval.shortest
    let (digits, power) := stripZeros 20 digits power
    positional digits power

def signed (negative : Bool) (text : List Char) : List Char :=
  if negative then '-' :: text else text

def infinityText (negative : Bool) : List Char := signed negative "inf".toList

def plainText (x : Float) : List Char :=
  match ofFloat? x with
  | some b => signed b.negative (magnitudeText b)
  | none => if x.isNaN then "NaN".toList else infinityText (x < 0)

/-- Whole numbers below this are written with one decimal place. -/
def wholeLimit : Nat := 10000000000000000

/-- The text of a floating point value, which shows that it is none of the integers. -/
def valueText (x : Float) : List Char :=
  match ofFloat? x with
  | some b =>
    if b.isWhole && b.truncated.natAbs < wholeLimit then
      signed b.negative (Nat.toDigits 10 b.truncated.natAbs ++ ".0".toList)
    else signed b.negative (magnitudeText b)
  | none => if x.isNaN then "nan".toList else infinityText (x < 0)

end Stencil.Decimal
