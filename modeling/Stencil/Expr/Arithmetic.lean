import Stencil.RunError
import Stencil.Value.Equality

/-! Arithmetic of values. Integers are exact: a result that does not fit in 64 bits is refused.
Division of integers rounds towards minus infinity, and the remainder has the sign of the divisor.
Sequences can be joined and repeated. -/
namespace Stencil

def exactly (n : Int) : Except RunError Value :=
  match Value.ofInt? n with
  | some value => .ok value
  | none => .error (.value .overflow)

def Number.value : Number → Except RunError Value
  | .int n => exactly n
  | .float x => .ok (.float x)

def unaryValue (op : UnaryOp) (value : Value) : Except RunError Value :=
  match value.number?, op with
  | none, _ => .error (.type (.unaryOperand op value.kind))
  | some (.int n), .negate => exactly (-n)
  | some (.float x), .negate => .ok (.float (-x))
  | some number, .plus => number.value

def integerArithmetic (op : BinaryOp) (a b : Int) : Option (Except RunError Value) :=
  match op with
  | .add => some (exactly (a + b))
  | .subtract => some (exactly (a - b))
  | .multiply => some (exactly (a * b))
  | .floorDivide => some (if b = 0 then .error .zeroDivision else exactly (a.fdiv b))
  | .remainder => some (if b = 0 then .error .zeroDivision else exactly (a.fmod b))
  | .divide => none

def floorRemainder (a b : Float) : Float :=
  let rest := Decimal.remainder a b
  if rest != 0.0 && decide (rest < 0.0) != decide (b < 0.0) then rest + b else rest

def floatArithmetic (op : BinaryOp) (a b : Float) : Except RunError Value :=
  match op with
  | .add => .ok (.float (a + b))
  | .subtract => .ok (.float (a - b))
  | .multiply => .ok (.float (a * b))
  | .divide => if b == 0.0 then .error .zeroDivision else .ok (.float (a / b))
  | .floorDivide => if b == 0.0 then .error .zeroDivision else .ok (.float (a / b).floor)
  | .remainder => if b == 0.0 then .error .zeroDivision else .ok (.float (floorRemainder a b))

def Number.arithmetic (op : BinaryOp) : Number → Number → Except RunError Value
  | .int a, .int b => (integerArithmetic op a b).getD (floatArithmetic op (Decimal.ofInt a) (Decimal.ofInt b))
  | a, b => floatArithmetic op a.toFloat b.toFloat

def checkLength (length : Nat) : Except RunError Unit :=
  if length ≤ maxSequenceLength then .ok () else .error (.value .tooLong)

def repeatText (text : String) : Nat → String → String
  | 0, done => done
  | count + 1, done => repeatText text count (done ++ text)

def repeatItems (items : List Value) : Nat → List Value → List Value
  | 0, done => done
  | count + 1, done => repeatItems items count (items ++ done)

def repeated (count : Nat) : Value → Except RunError Value
  | .str text => do
    checkLength (text.utf8ByteSize * count)
    return .str (if text.isEmpty then "" else repeatText text count "")
  | .list items => do
    checkLength (items.length * count)
    return .list (if items.isEmpty then [] else repeatItems items count [])
  | .tuple items => do
    checkLength (items.length * count)
    return .tuple (if items.isEmpty then [] else repeatItems items count [])
  | value => .error (.type (.notIterable value.kind))

def Value.isSequence : Value → Bool
  | .str _ | .list _ | .tuple _ => true
  | _ => false

/-- How often a sequence is to be repeated: a negative count stands for zero. -/
def Value.repeatCount? : Value → Option Nat
  | .int n => some n.toInt.toNat
  | .bool b => some (if b then 1 else 0)
  | _ => none

def concatenated? : Value → Value → Option Value
  | .str a, .str b => some (.str (a ++ b))
  | .list a, .list b => some (.list (a ++ b))
  | .tuple a, .tuple b => some (.tuple (a ++ b))
  | _, _ => none

def repeated? (left right : Value) : Option (Except RunError Value) :=
  if left.isSequence then right.repeatCount?.map (repeated · left)
  else if right.isSequence then left.repeatCount?.map (repeated · right)
  else none

def sequenceArithmetic? (op : BinaryOp) (left right : Value) : Option (Except RunError Value) :=
  match op with
  | .add => (concatenated? left right).map .ok
  | .multiply => repeated? left right
  | _ => none

def binaryValue (op : BinaryOp) (left right : Value) : Except RunError Value :=
  match left.number?, right.number? with
  | some a, some b => a.arithmetic op b
  | _, _ =>
    (sequenceArithmetic? op left right).getD (.error (.type (.operands op left.kind right.kind)))

end Stencil
