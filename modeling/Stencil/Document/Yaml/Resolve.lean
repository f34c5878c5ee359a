import Stencil.Decimal.Read
import Stencil.Document.Reader
import Stencil.Value.Basic

/-! What the scalars of YAML stand for. -/
namespace Stencil.Document.Yaml

def nullWords : List String := ["null", "Null", "NULL", "~"]

def boolWords : List (String × Bool) :=
  [("true", true), ("True", true), ("TRUE", true), ("false", false), ("False", false),
    ("FALSE", false)]

def infinityWords : List String := [".inf", ".Inf", ".INF"]

def nanWords : List String := [".nan", ".NaN", ".NAN"]

/-- The marks of numbers in a base other than ten. -/
def baseMarks : List (List Char × Nat) := [(['0', 'x'], 16), (['0', 'o'], 8), (['0', 'b'], 2)]

/-- Whether a text starts with a zero that is not its only digit. Such text is no number. -/
def isPadded (text : List Char) : Bool :=
  let (_, digits) := Decimal.splitSign text
  digits.length > 1 && digits.head? = some '0' && digits.all Char.isDigit

def magnitude? (text : List Char) : Option Nat :=
  let marked := baseMarks.find? fun (mark, _) => mark.isPrefixOf text
  match marked with
  | some (mark, base) => numeral? base (text.drop mark.length)
  | none => numeral? 10 text

/-- A whole number with an optional sign, as long as it fits in 128 bits. -/
def whole? (text : List Char) : Option Int :=
  if isPadded text then none
  else do
    let (negative, digits) := Decimal.splitSign text
    let n ← magnitude? digits
    if negative then (if n ≤ Decimal.twoTo 127 then some (-n) else none)
    else if n < Decimal.twoTo 128 then some n else none

def float? (text : List Char) : Option Float :=
  let (negative, rest) := Decimal.splitSign text
  if infinityWords.contains (String.ofList rest) then some (Decimal.infinity negative)
  else if nanWords.contains (String.ofList text) then some Decimal.notANumber
  else (Decimal.readFloat Decimal.double text).filter (·.isFinite)

/-- The value of a scalar with no quotes and no tag. A whole number has to fit in 64 bits, unless it
does not even fit in 128 bits and is a float. -/
def plainValue? (text : String) : Option Value :=
  if text.isEmpty || nullWords.contains text then some .null
  else match boolWords.lookup text with
    | some b => some (.bool b)
    | none =>
      match whole? text.toList with
      | some n => Value.ofInt? n
      | none =>
        if isPadded text.toList then some (.str text)
        else some (((float? text.toList).map .float).getD (.str text))

/-- The value of a scalar with a tag. Some tags demand text of one kind. -/
def taggedValue? (tag text : String) : Option Value :=
  if tag = "tag:yaml.org,2002:null" then
    (if nullWords.contains text then some .null else none)
  else if tag = "tag:yaml.org,2002:bool" then (boolWords.lookup text).map .bool
  else if tag = "tag:yaml.org,2002:int" then (whole? text.toList).bind Value.ofInt?
  else if tag = "tag:yaml.org,2002:float" then (float? text.toList).map .float
  else some (.str text)

def scalarValue? (tag : Option String) (isPlain : Bool) (text : String) : Option Value :=
  match tag with
  | some tag => taggedValue? tag text
  | none => if isPlain then plainValue? text else some (.str text)

end Stencil.Document.Yaml
