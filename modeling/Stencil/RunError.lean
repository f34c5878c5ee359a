import Stencil.Text.Quoted
import Stencil.Value.Text
import Stencil.Expr.Basic

/-! Errors of a run, by cause, and their messages. -/
namespace Stencil

/-- An operation met a value of the wrong type. -/
inductive TypeFault where
  | dictKey (found : Kind)
  | notCallable (found : Kind)
  | unaryOperand (op : UnaryOp) (found : Kind)
  | operands (op : BinaryOp) (left right : Kind)
  | unordered (symbol : String) (left right : Kind)
  | substring (found : Kind)
  | notContainer (found : Kind)
  | notIterable (found : Kind)
  | indexType (container found : Kind)
  | notSubscriptable (found : Kind)
  | sliceBound (found : Kind)
  | arity (function : String) (least most given : Nat)
  | noArguments (function : String)
  | textArgument (function : String) (found : Kind)
  | integerArgument (function : String) (found : Kind)
  | noLength (found : Kind)
  | conversion (function : String) (found : Kind)
  | magnitude (found : Kind)
  | joinItem (position : Nat) (found : Kind)
deriving DecidableEq, Repr

/-- An operation met a value of the right type that it can not take. -/
inductive ValueFault where
  | overflow
  | tooLong
  | tooFew (expected given : Nat)
  | tooMany (expected : Nat)
  | unboundedInteger (x : Float)
  | integerText (text : String)
  | floatText (text : String)
  | zeroStep
  | emptyExtreme (function : String)
  | notFound (item : Value)
  | emptySeparator

inductive RunError where
  | undefinedName (name : String)
  | type (fault : TypeFault)
  | value (fault : ValueFault)
  | index (container : Kind)
  | key (key : String)
  | attribute (found : Kind) (name : String)
  | zeroDivision
  | outputConflict
  | write (cause : String)
  | io (cause : String)

/-- The greatest length of a sequence built by repetition or by `range`. Strings are measured in
bytes. -/
def maxSequenceLength : Nat := 16777216

def arityText (least most given : Nat) : String :=
  if least = most then s!"exactly {least}"
  else if given < least then s!"at least {least}"
  else s!"at most {most}"

def TypeFault.message : TypeFault → String
  | .dictKey found => s!"dict keys must be str, not {found.name}"
  | .notCallable found => s!"'{found.name}' object is not callable"
  | .unaryOperand op found => s!"bad operand type for unary {op.symbol}: '{found.name}'"
  | .operands op left right =>
    s!"unsupported operand type(s) for {op.symbol}: '{left.name}' and '{right.name}'"
  | .unordered symbol left right =>
    s!"'{symbol}' not supported between instances of '{left.name}' and '{right.name}'"
  | .substring found => s!"'in <string>' requires string as left operand, not {found.name}"
  | .notContainer found => s!"argument of type '{found.name}' is not iterable"
  | .notIterable found => s!"'{found.name}' object is not iterable"
  | .indexType container found =>
    s!"{container.name} indices must be integers, not {found.name}"
  | .notSubscriptable found => s!"'{found.name}' object is not subscriptable"
  | .sliceBound found => s!"slice indices must be integers or None, not {found.name}"
  | .arity function least most given =>
    let noun := if least = 1 ∧ most = 1 then "argument" else "arguments"
    s!"{function}() takes {arityText least most given} {noun} ({given} given)"
  | .noArguments function => s!"{function} expected at least 1 argument, got 0"
  | .textArgument function found => s!"{function}() argument must be str, not {found.name}"
  | .integerArgument function found =>
    s!"{function}() argument must be an integer, not {found.name}"
  | .noLength found => s!"object of type '{found.name}' has no len()"
  | .conversion function found =>
    s!"{function}() argument must be a string or a number, not '{found.name}'"
  | .magnitude found => s!"bad operand type for abs(): '{found.name}'"
  | .joinItem position found =>
    s!"sequence item {position}: expected str instance, {found.name} found"

def ValueFault.message : ValueFault → String
  | .overflow => "integer overflow"
  | .tooLong => s!"sequence would be longer than {maxSequenceLength} items"
  | .tooFew expected given => s!"not enough values to unpack (expected {expected}, got {given})"
  | .tooMany expected => s!"too many values to unpack (expected {expected})"
  | .unboundedInteger x =>
    s!"cannot convert float {String.ofList (Decimal.valueText x)} to integer"
  | .integerText text =>
    s!"invalid literal for int() with base 10: {String.ofList (literal text.toList)}"
  | .floatText text =>
    s!"could not convert string to float: {String.ofList (literal text.toList)}"
  | .zeroStep => "range() arg 3 must not be zero"
  | .emptyExtreme function => s!"{function}() arg is an empty sequence"
  | .notFound item => s!"{String.ofList item.quoted} is not in sequence"
  | .emptySeparator => "empty separator"

def Kind.container : Kind → String
  | .str => "string"
  | kind => kind.name

def RunError.message : RunError → String
  | .undefinedName name => s!"Name is not defined: {name}"
  | .type fault => s!"Type error: {fault.message}"
  | .value fault => s!"Value error: {fault.message}"
  | .index container => s!"Index error: {container.container} index out of range"
  | .key missing => s!"Key error: {Text.quotedText missing}"
  | .attribute found name => s!"Attribute error: '{found.name}' object has no attribute '{name}'"
  | .zeroDivision => "Division by zero"
  | .outputConflict => "Do not supply both a writer and an output sink"
  | .write cause => s!"Failed to write output: {cause}"
  | .io cause => s!"Failed to write output: {cause}"

end Stencil
