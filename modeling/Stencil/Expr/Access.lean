import Stencil.RunError
import Stencil.Value.Equality

/-! Items of values: iteration, indices and slices. Positions in strings count characters, and
negative positions count from the end. -/
namespace Stencil

def charValue (c : Char) : Value := .str (String.singleton c)

def entryValue (entry : String × Value) : Value := .tuple [.str entry.1, entry.2]

/-- The items of a value: of a string its characters, of a map its entries as pairs. -/
def Value.items : Value → Except RunError (List Value)
  | .list items => .ok items
  | .tuple items => .ok items
  | .str text => .ok (text.toList.map charValue)
  | .map entries => .ok (entries.map entryValue)
  | value => .error (.type (.notIterable value.kind))

def Value.integer? : Value → Option Int
  | .int n => some n.toInt
  | .bool b => some (if b then 1 else 0)
  | _ => none

def resolveIndex (index : Int) (length : Nat) : Option Nat :=
  let position := if index < 0 then index + length else index
  if 0 ≤ position ∧ position < length then some position.toNat else none

def itemAt (container : Kind) (items : List Value) (index : Value) : Except RunError Value :=
  match index.integer? with
  | none => .error (.type (.indexType container index.kind))
  | some n =>
    match (resolveIndex n items.length).bind (items[·]?) with
    | some item => .ok item
    | none => .error (.index container)

def Value.item (container index : Value) : Except RunError Value :=
  match container with
  | .list items => itemAt .list items index
  | .tuple items => itemAt .tuple items index
  | .str text => itemAt .str (text.toList.map charValue) index
  | .map entries =>
    match index with
    | .str key =>
      match entries.lookup key with
      | some value => .ok value
      | none => .error (.key key)
    | other => .error (.key (String.ofList other.quoted))
  | other => .error (.type (.notSubscriptable other.kind))

/-- A bound of a slice, resolved from the end if it is negative and moved into the sequence. -/
def sliceBound (bound : Value) (length default : Nat) : Except RunError Nat :=
  match bound with
  | .null => .ok default
  | other =>
    match other.integer? with
    | none => .error (.type (.sliceBound other.kind))
    | some n => .ok (if n < 0 then (n + length).toNat else min n.toNat length)

def sliceItems {α : Type} (items : List α) (lower upper : Value) : Except RunError (List α) := do
  let low ← sliceBound lower items.length 0
  let high ← sliceBound upper items.length items.length
  return (items.drop low).take (high - low)

def Value.slice (container lower upper : Value) : Except RunError Value :=
  match container with
  | .list items => (sliceItems items lower upper).map .list
  | .tuple items => (sliceItems items lower upper).map .tuple
  | .str text => (sliceItems text.toList lower upper).map fun part => .str (String.ofList part)
  | other => .error (.type (.notSubscriptable other.kind))

end Stencil
