import Stencil.Value.Equality
import Stencil.RunError
import Stencil.Text.Search

/-! The order of values that the comparison operators, sorting and extremes use. -/
namespace Stencil

def compareFloats (a b : Float) : Option Ordering :=
  if a < b then some .lt else if a == b then some .eq else if b < a then some .gt else none

def Number.compare : Number → Number → Option Ordering
  | .int a, .int b => some (Ord.compare a b)
  | a, b => compareFloats a.toFloat b.toFloat

namespace Value

mutual
/-- Orders two values, or tells that the order is not defined on their types. A number that is not
a number is unordered. Sequences are ordered by their first difference, then by length. -/
def order (symbol : String) : Value → Value → Except RunError (Option Ordering)
  | .str a, .str b => .ok (some (Ord.compare a b))
  | .list a, .list b => orderItems symbol a b
  | .tuple a, .tuple b => orderItems symbol a b
  | a, b =>
    match a.number?, b.number? with
    | some m, some n => .ok (m.compare n)
    | _, _ => .error (.type (.unordered symbol a.kind b.kind))

def orderItems (symbol : String) : List Value → List Value → Except RunError (Option Ordering)
  | [], [] => .ok (some .eq)
  | [], _ :: _ => .ok (some .lt)
  | _ :: _, [] => .ok (some .gt)
  | a :: as, b :: bs => if a.equals b then orderItems symbol as bs else order symbol a b
end

/-- Whether an item is in a container: a part of a string, an item of a sequence, a key of a map. -/
def holds (container item : Value) : Except RunError Bool :=
  match container, item with
  | .str text, .str part => .ok (occursIn part text)
  | .str _, other => .error (.type (.substring other.kind))
  | .list items, item => .ok (items.any (·.equals item))
  | .tuple items, item => .ok (items.any (·.equals item))
  | .map entries, .str key => .ok (entries.lookup key).isSome
  | .map _, _ => .ok false
  | other, _ => .error (.type (.notContainer other.kind))
where
  occursIn (part text : String) : Bool := Text.occurs part.toList text.toList

/-- Identity is told apart only for the absence of a value and for booleans. -/
def identical : Value → Value → Bool
  | .null, .null => true
  | .bool a, .bool b => a == b
  | _, _ => false

def compare (op : CompareOp) (left right : Value) : Except RunError Bool :=
  match op with
  | .equal => .ok (left.equals right)
  | .notEqual => .ok (!left.equals right)
  | .less => do return (← order "<" left right) == some .lt
  | .lessEqual => do
    let found ← order "<=" left right
    return found == some .lt || found == some .eq
  | .greater => do return (← order ">" left right) == some .gt
  | .greaterEqual => do
    let found ← order ">=" left right
    return found == some .gt || found == some .eq
  | .isIn => holds right left
  | .notIn => do return !(← holds right left)
  | .is => .ok (identical left right)
  | .isNot => .ok (!identical left right)

end Value

end Stencil
