/-! Readers of document text: each takes a front part of the text and leaves the rest, or refuses.
The rounds of a loop are bounded by the text it starts from, since each takes a character of it. -/
namespace Stencil.Document

abbrev Reader (α : Type) := List Char → Option (α × List Char)

def literally (expected : List Char) (text : List Char) : Option (List Char) :=
  if expected.isPrefixOf text then some (text.drop expected.length) else none

def hexValue? (c : Char) : Option Nat :=
  let n := c.toNat
  if '0' ≤ c ∧ c ≤ '9' then some (n - '0'.toNat)
  else if 'a' ≤ c ∧ c ≤ 'f' then some (n - 'a'.toNat + 10)
  else if 'A' ≤ c ∧ c ≤ 'F' then some (n - 'A'.toNat + 10)
  else none

/-- The number that digits of a base write, none of which may be missing. -/
def numeral? (base : Nat) (digits : List Char) : Option Nat :=
  let step (value : Nat) (c : Char) : Option Nat := do
    let digit ← hexValue? c
    if digit < base then some (base * value + digit) else none
  if digits.isEmpty then none else digits.foldlM step 0

def hexNumber (count : Nat) : Reader Nat := fun text =>
  if (text.take count).length < count then none
  else (numeral? 16 (text.take count)).map fun n => (n, text.drop count)

/-- The character of a code point, unless it is a surrogate or too large. -/
def scalar? (point : Nat) : Option Char := if point.isValidChar then some (Char.ofNat point) else none

def many {α : Type} (next? : Reader α) : List Char → List Char → List α × List Char
  | [], text => ([], text)
  | _ :: fuel, text =>
    match next? text with
    | none => ([], text)
    | some (item, rest) =>
      let (items, rest) := many next? fuel rest
      (item :: items, rest)

end Stencil.Document
