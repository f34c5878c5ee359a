import Stencil.Value.Basic

/-! Two equalities of values. Values are `same` if they have the same shape and content; they are
`equals` for the comparison operators, where a number equals a number of another type and `True`
counts as one. In both, the order of the entries of a map does not matter. -/
namespace Stencil

/-- A value as a number: booleans count as integers. -/
inductive Number where
  | int (n : Int)
  | float (x : Float)

namespace Number

def ofBool (b : Bool) : Number := .int (if b then 1 else 0)

def toFloat : Number → Float
  | .int n => Decimal.ofInt n
  | .float x => x

def equals : Number → Number → Bool
  | .int a, .int b => a == b
  | a, b => a.toFloat == b.toFloat

end Number

namespace Value

def number? : Value → Option Number
  | .bool b => some (.ofBool b)
  | .int n => some (.int n.toInt)
  | .float x => some (.float x)
  | _ => none

mutual
def same : Value → Value → Bool
  | .null, .null => true
  | .bool a, .bool b => a == b
  | .int a, .int b => a == b
  | .float a, .float b => a == b
  | .str a, .str b => a == b
  | .list a, .list b => sameItems a b
  | .tuple a, .tuple b => sameItems a b
  | .map a, .map b => a.length == b.length && sameEntries a b
  | _, _ => false

def sameItems : List Value → List Value → Bool
  | [], [] => true
  | a :: as, b :: bs => same a b && sameItems as bs
  | _, _ => false

def sameEntries : List (String × Value) → List (String × Value) → Bool
  | [], _ => true
  | (key, a) :: rest, other =>
    (match other.lookup key with
      | some b => same a b
      | none => false) && sameEntries rest other
end

mutual
def equals : Value → Value → Bool
  | .null, .null => true
  | .str a, .str b => a == b
  | .list a, .list b => equalItems a b
  | .tuple a, .tuple b => equalItems a b
  | .map a, .map b => a.length == b.length && equalEntries a b
  | a, b =>
    match a.number?, b.number? with
    | some m, some n => m.equals n
    | _, _ => false

def equalItems : List Value → List Value → Bool
  | [], [] => true
  | a :: as, b :: bs => equals a b && equalItems as bs
  | _, _ => false

def equalEntries : List (String × Value) → List (String × Value) → Bool
  | [], _ => true
  | (key, a) :: rest, other =>
    (match other.lookup key with
      | some b => equals a b
      | none => false) && equalEntries rest other
end

end Value

end Stencil
