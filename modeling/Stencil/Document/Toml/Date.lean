import Stencil.Decimal.Read
import Stencil.Document.Reader

/-! Dates and times of TOML, and the text that shows them. -/
namespace Stencil.Document.Toml

structure Date where
  year : Nat
  month : Nat
  day : Nat
deriving DecidableEq, Repr

/-- A time of day. The fraction of the second is counted in units of `10 ^ -9`. -/
structure Time where
  hour : Nat
  minute : Nat
  second : Nat
  fraction : Nat
deriving DecidableEq, Repr

inductive Offset where
  | universal
  | minutes (negative : Bool) (hour minute : Nat)
deriving DecidableEq, Repr

structure Moment where
  date : Option Date
  time : Option Time
  offset : Option Offset
deriving DecidableEq, Repr

def boundedDigits (count lower upper : Nat) : Reader Nat := fun text =>
  let digits := text.take count
  let n := Decimal.digitsValue digits
  if digits.length = count ∧ digits.all Char.isDigit ∧ lower ≤ n ∧ n ≤ upper then
    some (n, text.drop count)
  else none

def isLeapYear (year : Nat) : Bool := year % 4 = 0 && (year % 100 ≠ 0 || year % 400 = 0)

def daysIn (year month : Nat) : Nat :=
  if month = 2 then (if isLeapYear year then 29 else 28)
  else if month = 4 ∨ month = 6 ∨ month = 9 ∨ month = 11 then 30
  else 31

def date : Reader Date := fun text => do
  let (year, rest) ← boundedDigits 4 0 9999 text
  let (month, rest) ← boundedDigits 2 1 12 (← literally ['-'] rest)
  let (day, rest) ← boundedDigits 2 1 (daysIn year month) (← literally ['-'] rest)
  return (⟨year, month, day⟩, rest)

def fraction : Reader Nat
  | '.' :: rest =>
    let digits := rest.takeWhile Char.isDigit
    let leading := digits.take 9
    if digits.isEmpty then some (0, '.' :: rest)
    else some (Decimal.digitsValue leading * Decimal.tenTo (9 - leading.length), rest.drop digits.length)
  | text => some (0, text)

def time : Reader Time := fun text => do
  let (hour, rest) ← boundedDigits 2 0 23 text
  let (minute, rest) ← boundedDigits 2 0 59 (← literally [':'] rest)
  let (second, rest) ← boundedDigits 2 0 60 (← literally [':'] rest)
  let (fraction, rest) ← fraction rest
  return (⟨hour, minute, second, fraction⟩, rest)

def offset : Reader Offset
  | 'Z' :: rest => some (.universal, rest)
  | 'z' :: rest => some (.universal, rest)
  | '+' :: rest => minutes false rest
  | '-' :: rest => minutes true rest
  | _ => none
where
  minutes (negative : Bool) (text : List Char) : Option (Offset × List Char) := do
    let (hour, rest) ← boundedDigits 2 0 23 text
    let (minute, rest) ← boundedDigits 2 0 59 (← literally [':'] rest)
    return (.minutes negative hour minute, rest)

/-- The time behind a date, which one of three characters divides from it. -/
def timeBehind? : Reader Time
  | 'T' :: rest => time rest
  | 't' :: rest => time rest
  | ' ' :: rest => time rest
  | _ => none

def moment : Reader Moment := fun text =>
  match date text with
  | some (date, rest) =>
    match timeBehind? rest with
    | none => some (⟨some date, none, none⟩, rest)
    | some (time, rest) =>
      match offset rest with
      | none => some (⟨some date, some time, none⟩, rest)
      | some (offset, rest) => some (⟨some date, some time, some offset⟩, rest)
  | none => (time text).map fun (time, rest) => (⟨none, some time, none⟩, rest)

def padded (width n : Nat) : String :=
  let digits := Nat.toDigits 10 n
  String.ofList (List.replicate (width - digits.length) '0' ++ digits)

def Date.text (date : Date) : String :=
  s!"{padded 4 date.year}-{padded 2 date.month}-{padded 2 date.day}"

def fractionText (fraction : Nat) : String :=
  if fraction = 0 then ""
  else
    let digits := (padded 9 fraction).toList
    String.ofList ('.' :: (digits.reverse.dropWhile (· = '0')).reverse)

def Time.text (time : Time) : String :=
  let clock := s!"{padded 2 time.hour}:{padded 2 time.minute}:{padded 2 time.second}"
  clock ++ fractionText time.fraction

def Offset.text : Offset → String
  | .universal => "Z"
  | .minutes negative hour minute =>
    let sign := if negative ∧ (hour ≠ 0 ∨ minute ≠ 0) then "-" else "+"
    s!"{sign}{padded 2 hour}:{padded 2 minute}"

def Moment.text (moment : Moment) : String :=
  let date := (moment.date.map Date.text).getD ""
  let mark := if moment.date.isSome ∧ moment.time.isSome then "T" else ""
  let time := (moment.time.map Time.text).getD ""
  date ++ mark ++ time ++ (moment.offset.map Offset.text).getD ""

end Stencil.Document.Toml
