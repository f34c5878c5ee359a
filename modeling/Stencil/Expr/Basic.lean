import Stencil.Value.Basic

/-! Expressions and statements of the code inside directives. -/
namespace Stencil

inductive UnaryOp where
  | negate | plus
deriving DecidableEq, Repr

def UnaryOp.symbol : UnaryOp → String
  | .negate => "-"
  | .plus => "+"

inductive BinaryOp where
  | add | subtract | multiply | divide | floorDivide | remainder
deriving DecidableEq, Repr

def BinaryOp.symbol : BinaryOp → String
  | .add => "+"
  | .subtract => "-"
  | .multiply => "*"
  | .divide => "/"
  | .floorDivide => "//"
  | .remainder => "%"

inductive CompareOp where
  | equal | notEqual | less | lessEqual | greater | greaterEqual | isIn | notIn | is | isNot
deriving DecidableEq, Repr

def CompareOp.symbol : CompareOp → String
  | .equal => "=="
  | .notEqual => "!="
  | .less => "<"
  | .lessEqual => "<="
  | .greater => ">"
  | .greaterEqual => ">="
  | .isIn => "in"
  | .notIn => "not in"
  | .is => "is"
  | .isNot => "is not"

inductive Expr where
  | literal (value : Value)
  | name (name : String)
  | list (items : List Expr)
  | tuple (items : List Expr)
  | dict (entries : List (Expr × Expr))
  | attribute (value : Expr) (name : String)
  | index (value index : Expr)
  | slice (value : Expr) (lower upper : Option Expr)
  | call (function : Expr) (arguments : List Expr)
  | unary (op : UnaryOp) (value : Expr)
  | binary (op : BinaryOp) (left right : Expr)
  | not (value : Expr)
  | and (left right : Expr)
  | or (left right : Expr)
  | compare (first : Expr) (rest : List (CompareOp × Expr))
  | conditional (condition then_ otherwise : Expr)
deriving Inhabited

/-- What an assignment or a loop binds: a name, or a tuple that a value is unpacked into. -/
inductive Target where
  | name (name : String)
  | tuple (items : List Target)
deriving Inhabited

inductive Stmt where
  | expr (value : Expr)
  | assign (target : Target) (value : Expr)
  | augment (name : String) (op : BinaryOp) (value : Expr)
  | pass
deriving Inhabited

/-- The header of a loop over the items of a value. -/
structure ForHeader where
  target : Target
  iterable : Expr

end Stencil
