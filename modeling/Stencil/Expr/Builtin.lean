import Stencil.Text.Blank
import Stencil.Decimal.Read
import Stencil.Expr.Access
import Stencil.Expr.Arithmetic
import Stencil.Value.Order

/-! The functions that expressions can call by name. -/
namespace Stencil

inductive Builtin where
  | len | str | repr | int | float | bool | range | abs | min | max | sorted | enumerate | list
deriving DecidableEq, Repr

def Builtin.name : Builtin → String
  | .len => "len"
  | .str => "str"
  | .repr => "repr"
  | .int => "int"
  | .float => "float"
  | .bool => "bool"
  | .range => "range"
  | .abs => "abs"
  | .min => "min"
  | .max => "max"
  | .sorted => "sorted"
  | .enumerate => "enumerate"
  | .list => "list"

def Builtin.all : List Builtin :=
  [.len, .str, .repr, .int, .float, .bool, .range, .abs, .min, .max, .sorted, .enumerate, .list]

def Builtin.ofName? (name : String) : Option Builtin := Builtin.all.find? (·.name == name)

abbrev Outcome := Except RunError Value

def wrongArity {α : Type} (function : String) (least most : Nat) (arguments : List Value) :
    Except RunError α :=
  .error (.type (.arity function least most arguments.length))

def oneArgument (function : String) : List Value → Except RunError Value
  | [argument] => .ok argument
  | arguments => wrongArity function 1 1 arguments

def optionalArgument (function : String) : List Value → Except RunError (Option Value)
  | [] => .ok none
  | [argument] => .ok (some argument)
  | arguments => wrongArity function 0 1 arguments

def textArgument (function : String) : Value → Except RunError String
  | .str text => .ok text
  | other => .error (.type (.textArgument function other.kind))

def integerArgument (function : String) (value : Value) : Except RunError Int :=
  match value.integer? with
  | some n => .ok n
  | none => .error (.type (.integerArgument function value.kind))

def lengthOf : Value → Outcome
  | .str text => .ok (.ofNat text.length)
  | .list items => .ok (.ofNat items.length)
  | .tuple items => .ok (.ofNat items.length)
  | .map entries => .ok (.ofNat entries.length)
  | other => .error (.type (.noLength other.kind))

def integerLimit : Nat := 9200000000000000000

def floatToInteger (x : Float) : Outcome :=
  match Decimal.ofFloat? x with
  | some b =>
    if b.truncated.natAbs < integerLimit then exactly b.truncated
    else .error (.value (.unboundedInteger x))
  | none => .error (.value (.unboundedInteger x))

def textToInteger (text : String) : Outcome :=
  let digits := (Text.trim text.toList).filter (· ≠ '_')
  match (Decimal.readInt digits).bind Value.ofInt? with
  | some value => .ok value
  | none => .error (.value (.integerText text))

def toInteger : Value → Outcome
  | .int n => .ok (.int n)
  | .bool b => .ok (.int (if b then 1 else 0))
  | .float x => floatToInteger x
  | .str text => textToInteger text
  | other => .error (.type (.conversion "int" other.kind))

def toFloat : Value → Outcome
  | .int n => .ok (.float (Decimal.ofInt n.toInt))
  | .bool b => .ok (.float (if b then 1.0 else 0.0))
  | .float x => .ok (.float x)
  | .str text =>
    match Decimal.readFloat Decimal.double (Text.trim text.toList) with
    | some x => .ok (.float x)
    | none => .error (.value (.floatText text))
  | other => .error (.type (.conversion "float" other.kind))

def magnitude : Value → Outcome
  | .int n => exactly n.toInt.natAbs
  | .bool b => .ok (.int (if b then 1 else 0))
  | .float x => .ok (.float x.abs)
  | other => .error (.type (.magnitude other.kind))

/-- How many items a range has: what is between its ends in steps, rounded up. -/
def rangeLength (start stop step : Int) : Nat :=
  let span := if 0 < step then stop - start else start - stop
  if span ≤ 0 then 0 else ((span - 1) / step.natAbs + 1).toNat

/-- Whether the end of a range is still ahead, in the direction of its steps. -/
def Ahead (stop step current : Int) : Prop := (0 < step ∧ current < stop) ∨ (step < 0 ∧ stop < current)

instance (stop step current : Int) : Decidable (Ahead stop step current) :=
  inferInstanceAs (Decidable ((0 < step ∧ current < stop) ∨ (step < 0 ∧ stop < current)))

/-- The items of a range from one on, behind those before it, given with the last one first. The last
item is the one before the end, or one from which a step does not fit in 64 bits. -/
def rangeFrom (stop step current : Int) (done : List Value) : List Value :=
  if Ahead stop step current then
    let done := .int (Int64.ofInt current) :: done
    if (Value.ofInt? (current + step)).isSome then rangeFrom stop step (current + step) done
    else done.reverse
  else done.reverse
termination_by (if 0 < step then stop - current else current - stop).toNat
decreasing_by
  unfold Ahead at *
  split <;> omega

def rangeOf (start stop step : Int) : Outcome :=
  if step = 0 then .error (.value .zeroStep)
  else do
    checkLength (rangeLength start stop step)
    return .list (rangeFrom stop step start [])

def range (arguments : List Value) : Outcome :=
  match arguments with
  | [stop] => do rangeOf 0 (← integerArgument "range" stop) 1
  | [start, stop] => do
    let start ← integerArgument "range" start
    rangeOf start (← integerArgument "range" stop) 1
  | [start, stop, step] => do
    let start ← integerArgument "range" start
    let stop ← integerArgument "range" stop
    rangeOf start stop (← integerArgument "range" step)
  | arguments => wrongArity "range" 1 3 arguments

def extremeFrom (symbol : String) (wanted : Ordering) : Value → List Value → Outcome
  | best, [] => .ok best
  | best, item :: rest => do
    let found ← item.order symbol best
    extremeFrom symbol wanted (if found == some wanted then item else best) rest

def extremeOf (function symbol : String) (wanted : Ordering) : List Value → Outcome
  | [] => .error (.value (.emptyExtreme function))
  | first :: rest => extremeFrom symbol wanted first rest

/-- The least or the greatest of the arguments, or of the items of a single one. -/
def extreme (function symbol : String) (wanted : Ordering) (arguments : List Value) : Outcome :=
  match arguments with
  | [] => .error (.type (.noArguments function))
  | [collection] => do extremeOf function symbol wanted (← collection.items)
  | arguments => extremeOf function symbol wanted arguments

/-- Puts an item into a sorted list, given with its last item first, behind the items that it is
not less than. -/
def insertSorted (item : Value) : List Value → Except RunError (List Value)
  | [] => .ok [item]
  | last :: before => do
    if (← item.order "<" last) == some .lt then return last :: (← insertSorted item before)
    else return item :: last :: before

def sortedFrom : List Value → List Value → Except RunError (List Value)
  | done, [] => .ok done.reverse
  | done, item :: rest => do sortedFrom (← insertSorted item done) rest

def sorted (items : List Value) : Except RunError (List Value) := sortedFrom [] items

def numbered (index : Int) : List Value → Except RunError (List Value)
  | [] => .ok []
  | item :: rest => do
    let number ← exactly index
    let others ← numbered (index + 1) rest
    return .tuple [number, item] :: others

def enumerateOf (collection : Value) (start : Int) : Outcome := do
  return .list (← numbered start (← collection.items))

def enumerate (arguments : List Value) : Outcome :=
  match arguments with
  | [collection] => enumerateOf collection 0
  | [collection, start] => do
    let items ← collection.items
    let start ← integerArgument "enumerate" start
    return .list (← numbered start items)
  | arguments => wrongArity "enumerate" 1 2 arguments

def Builtin.call (builtin : Builtin) (arguments : List Value) : Outcome :=
  match builtin with
  | .len => do lengthOf (← oneArgument "len" arguments)
  | .str => do return .str (((← optionalArgument "str" arguments).map Value.text).getD "")
  | .repr => do return .str (String.ofList (← oneArgument "repr" arguments).quoted)
  | .int => do toInteger (← oneArgument "int" arguments)
  | .float => do toFloat (← oneArgument "float" arguments)
  | .bool => do return .bool ((← optionalArgument "bool" arguments).any Value.isTruthy)
  | .range => Stencil.range arguments
  | .abs => do magnitude (← oneArgument "abs" arguments)
  | .min => extreme "min" "<" .lt arguments
  | .max => extreme "max" ">" .gt arguments
  | .sorted => do return .list (← Stencil.sorted (← (← oneArgument "sorted" arguments).items))
  | .enumerate => Stencil.enumerate arguments
  | .list => do
    match ← optionalArgument "list" arguments with
    | some collection => return .list (← collection.items)
    | none => return .list []

end Stencil
