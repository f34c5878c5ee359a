import Stencil.Decimal.Read
import Stencil.Document.Reader
import Stencil.Value.Basic

/-! Values from JSON text. Integers that fit in 64 bits are exact. A number with a point, an
exponent or too many digits is a float, computed from its leading digits and a power of ten. -/
namespace Stencil.Document.Json

def isSpace (c : Char) : Bool := c = ' ' || c = '\n' || c = '\t' || c = '\r'

def skipSpace (text : List Char) : List Char := text.dropWhile isSpace

/-! Numbers. -/

def wordLimit : Nat := UInt64.size

/-- Adds digits to a number as long as it stays below the limit. The count is that of the digits
added. -/
def accumulate : Nat → List Char → Nat × Nat
  | value, [] => (value, 0)
  | value, c :: rest =>
    let next := 10 * value + (c.toNat - '0'.toNat)
    if next < wordLimit then
      let (value, count) := accumulate next rest
      (value, count + 1)
    else (value, 0)

/-- The greatest power of ten that is a float. -/
def greatestPower : Nat := 308

def powerOfTen (exponent : Nat) : Float := Decimal.ofInt (Decimal.tenTo exponent)

/-- A float times a power of ten, in steps that are floats. Nothing results if it is too large.
Three steps down reach zero from any 64 bit number. -/
def scale : Nat → Float → Int → Option Float
  | steps, x, exponent =>
    if exponent.natAbs ≤ greatestPower then
      if 0 ≤ exponent then
        let product := x * powerOfTen exponent.natAbs
        if product.isInf then none else some product
      else some (x / powerOfTen exponent.natAbs)
    else if x == 0.0 then some x
    else if 0 ≤ exponent then none
    else match steps with
      | 0 => some 0.0
      | steps + 1 => scale steps (x / powerOfTen greatestPower) (exponent + greatestPower)

/-- The parts of a number as written. The fraction and the exponent may be missing. -/
structure NumberText where
  negative : Bool
  whole : List Char
  fraction : Option (List Char)
  exponent : Option (Bool × List Char)

def digitRun (text : List Char) : List Char × List Char :=
  (text.takeWhile Char.isDigit, text.dropWhile Char.isDigit)

def someDigits : Reader (List Char) := fun text =>
  match digitRun text with
  | ([], _) => none
  | (digits, rest) => some (digits, rest)

def fractionText : Reader (Option (List Char))
  | '.' :: rest => (someDigits rest).map fun (digits, rest) => (some digits, rest)
  | text => some (none, text)

def exponentText : Reader (Option (Bool × List Char))
  | 'e' :: rest => after rest
  | 'E' :: rest => after rest
  | text => some (none, text)
where
  after (rest : List Char) : Option (Option (Bool × List Char) × List Char) :=
    let (negative, rest) := match rest with
      | '+' :: rest => (false, rest)
      | '-' :: rest => (true, rest)
      | _ => (false, rest)
    (someDigits rest).map fun (digits, rest) => (some (negative, digits), rest)

/-- The text of a number behind its sign. A zero may not be followed by another digit. -/
def numberText (negative : Bool) : Reader NumberText := fun text => do
  let (whole, rest) ← someDigits text
  if whole.length > 1 ∧ whole.head? = some '0' then none
  let (fraction, rest) ← fractionText rest
  let (exponent, rest) ← exponentText rest
  return (⟨negative, whole, fraction, exponent⟩, rest)

/-- Exponents from here on are not read: the number is zero or too large. -/
def exponentLimit : Nat := 2147483648

def NumberText.float? (number : NumberText) : Option Float :=
  let (leading, used) := accumulate 0 number.whole
  let (significand, places) := accumulate leading (number.fraction.getD [])
  let shift : Int := (number.whole.length - used : Nat) - (places : Int)
  let magnitude : Option Float := match number.exponent with
    | none => scale 3 (Decimal.ofInt significand) shift
    | some (negative, digits) =>
      let exponent := Decimal.digitsValue digits
      if exponent < exponentLimit then
        scale 3 (Decimal.ofInt significand) (if negative then shift - exponent else shift + exponent)
      else if significand ≠ 0 ∧ !negative then none
      else some 0.0
  magnitude.map fun x => if number.negative then -x else x

/-- The value of a number. Integers from the end of the 64 bit range up to `2 ^ 64` are refused, and
a negative zero is a float. -/
def NumberText.value? (number : NumberText) : Option Value :=
  let whole := Decimal.digitsValue number.whole
  if number.fraction.isNone ∧ number.exponent.isNone ∧ whole < wordLimit then
    if !number.negative then Value.ofInt? whole
    else if whole = 0 then some (.float (-0.0))
    else some ((Value.ofInt? (-(whole : Int))).getD (.float (-(Decimal.ofInt whole))))
  else number.float?.map .float

/-! Strings. -/

def escaped? (c : Char) : Option Char :=
  if c = '\x22' || c = '\x5c' || c = '/' then some c
  else if c = 'b' then some '\x08'
  else if c = 'f' then some '\x0c'
  else if c = 'n' then some '\n'
  else if c = 'r' then some '\r'
  else if c = 't' then some '\t'
  else none

def isHighSurrogate (n : Nat) : Bool := 0xD800 ≤ n && n ≤ 0xDBFF

def isLowSurrogate (n : Nat) : Bool := 0xDC00 ≤ n && n ≤ 0xDFFF

/-- A code point behind its escape letter. A surrogate has to be followed by its other half. -/
def codePoint : Reader Char := fun text => do
  let (first, rest) ← hexNumber 4 text
  if isHighSurrogate first then
    let (second, rest) ← hexNumber 4 (← literally ['\x5c', 'u'] rest)
    if isLowSurrogate second then
      return (← scalar? (0x10000 + 0x400 * (first - 0xD800) + (second - 0xDC00)), rest)
    else none
  else return (← scalar? first, rest)

def stringChar : Reader Char
  | [] => none
  | c :: rest =>
    if c = '\x22' || c.toNat < 0x20 then none
    else if c = '\x5c' then
      match rest with
      | 'u' :: digits => codePoint digits
      | letter :: rest => (escaped? letter).map fun c => (c, rest)
      | [] => none
    else some (c, rest)

def string : Reader String := fun text => do
  let (chars, rest) := many stringChar text text
  return (String.ofList chars, ← literally ['\x22'] rest)

/-! Values. -/

def items (value : Reader Value) : List Char → Reader (List Value)
  | [], _ => none
  | _ :: fuel, text => do
    let (item, rest) ← value text
    match skipSpace rest with
    | ',' :: rest =>
      let (others, rest) ← items value fuel rest
      return (item :: others, rest)
    | ']' :: rest => return ([item], rest)
    | _ => none

def entries (value : Reader Value) : List Char → Reader Entries
  | [], _ => none
  | _ :: fuel, text => do
    let (key, rest) ← string (← literally ['\x22'] (skipSpace text))
    let (item, rest) ← value (← literally [':'] (skipSpace rest))
    match skipSpace rest with
    | ',' :: rest =>
      let (others, rest) ← entries value fuel rest
      return ((key, item) :: others, rest)
    | '}' :: rest => return ([(key, item)], rest)
    | _ => none

def array (value : Reader Value) : Reader Value := fun text =>
  match skipSpace text with
  | ']' :: rest => some (.list [], rest)
  | _ => (items value text text).map fun (items, rest) => (.list items, rest)

def object (value : Reader Value) : Reader Value := fun text =>
  match skipSpace text with
  | '}' :: rest => some (.ofPairs [], rest)
  | _ => (entries value text text).map fun (pairs, rest) => (.ofPairs pairs, rest)

def word (text : List Char) : Option (Value × List Char) :=
  let constant (name : String) (value : Value) : Option (Value × List Char) :=
    (literally name.toList text).map (value, ·)
  (constant "null" .null).orElse fun _ =>
    (constant "true" (.bool true)).orElse fun _ => constant "false" (.bool false)

def valueWithin : Nat → Reader Value
  | depth, text =>
    match skipSpace text with
    | '\x22' :: rest => (string rest).map fun (content, rest) => (.str content, rest)
    | '-' :: rest => do
      let (number, rest) ← numberText true rest
      return (← number.value?, rest)
    | '[' :: rest =>
      match depth with
      | 0 => none
      | depth + 1 => array (valueWithin depth) rest
    | '{' :: rest =>
      match depth with
      | 0 => none
      | depth + 1 => object (valueWithin depth) rest
    | c :: rest =>
      if c.isDigit then do
        let (number, rest) ← numberText false (c :: rest)
        return (← number.value?, rest)
      else word (c :: rest)
    | [] => none

def depthLimit : Nat := 127

def parse? (text : List Char) : Option Value := do
  let (value, rest) ← valueWithin depthLimit text
  if skipSpace rest = [] then some value else none

end Stencil.Document.Json
