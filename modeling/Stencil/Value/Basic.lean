import Stencil.Assoc
import Stencil.Decimal.Binary

/-! Values that expressions compute and templates write. Maps keep the order in which their keys
first came. -/
namespace Stencil

inductive Value where
  | null
  | bool (b : Bool)
  | int (n : Int64)
  | float (x : Float)
  | str (text : String)
  | list (items : List Value)
  | tuple (items : List Value)
  | map (entries : List (String × Value))
deriving Inhabited

abbrev Entries := List (String × Value)

/-- The type of a value, as named in messages. -/
inductive Kind where
  | null | bool | int | float | str | list | tuple | map
deriving DecidableEq, Repr

def Kind.name : Kind → String
  | .null => "NoneType"
  | .bool => "bool"
  | .int => "int"
  | .float => "float"
  | .str => "str"
  | .list => "list"
  | .tuple => "tuple"
  | .map => "dict"

namespace Value

def kind : Value → Kind
  | .null => .null
  | .bool _ => .bool
  | .int _ => .int
  | .float _ => .float
  | .str _ => .str
  | .list _ => .list
  | .tuple _ => .tuple
  | .map _ => .map

/-- Whether a value counts as true in a condition. Zero, the empty text, empty collections and
the absence of a value do not. -/
def isTruthy : Value → Bool
  | .null => false
  | .bool b => b
  | .int n => n != 0
  | .float x => x != 0.0
  | .str text => !text.isEmpty
  | .list items => !items.isEmpty
  | .tuple items => !items.isEmpty
  | .map entries => !entries.isEmpty

def ofInt? (n : Int) : Option Value :=
  if Int64.minValue.toInt ≤ n ∧ n ≤ Int64.maxValue.toInt then some (.int (Int64.ofInt n)) else none

/-- A count, as an integer as long as it fits and as a floating point number above that. -/
def ofNat (n : Nat) : Value := (ofInt? n).getD (.float (Decimal.ofInt n))

def ofPairs (pairs : Entries) : Value := .map (putAll pairs [])

/-- A map in the order of its keys, from pairs of which later ones with the same key win. -/
def ofSorted (pairs : Entries) : Value :=
  .map ((putAll pairs []).mergeSort fun a b => decide (a.1 ≤ b.1))

end Value

end Stencil
