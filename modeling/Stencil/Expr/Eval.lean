import Stencil.Expr.Method

/-! Evaluation of expressions and execution of statements. A run has a single flat scope. -/
namespace Stencil

abbrev Scope := Entries

namespace Scope

def empty : Scope := []

def bind (scope : Scope) (name : String) (value : Value) : Scope := put name value scope

def get? (scope : Scope) (name : String) : Option Value := List.lookup name scope

end Scope

def notCallable (value : Value) : Outcome := .error (.type (.notCallable value.kind))

def attributeOf (value : Value) (name : String) : Outcome :=
  match value with
  | .map entries =>
    match entries.lookup name with
    | some member => .ok member
    | none => attributeError value name
  | other => attributeError other name

def shadowedMethod? (value : Value) (name : String) : Option Value :=
  match value with
  | .map entries => entries.lookup name
  | _ => none

mutual
def Expr.eval (scope : Scope) : Expr → Outcome
  | .literal value => .ok value
  | .name name =>
    match scope.get? name with
    | some value => .ok value
    | none => .error (.undefinedName name)
  | .list items => do return .list (← evalAll scope items)
  | .tuple items => do return .tuple (← evalAll scope items)
  | .dict entries => do return .map (← evalEntries scope [] entries)
  | .attribute value name => do attributeOf (← value.eval scope) name
  | .index value index => do
    let container ← value.eval scope
    container.item (← index.eval scope)
  | .slice value lower upper => do
    let container ← value.eval scope
    let low ← evalBound scope lower
    container.slice low (← evalBound scope upper)
  | .call (.name name) arguments =>
    match scope.get? name with
    | some value => notCallable value
    | none => do
      let values ← evalAll scope arguments
      match Builtin.ofName? name with
      | some builtin => builtin.call values
      | none => .error (.undefinedName name)
  | .call (.attribute value name) arguments => do
    let owner ← value.eval scope
    match shadowedMethod? owner name with
    | some member => notCallable member
    | none => owner.callMethod name (← evalAll scope arguments)
  | .call function _ => do notCallable (← function.eval scope)
  | .unary op value => do unaryValue op (← value.eval scope)
  | .binary op left right => do
    let a ← left.eval scope
    binaryValue op a (← right.eval scope)
  | .not value => do return .bool (!(← value.eval scope).isTruthy)
  | .and left right => do
    let a ← left.eval scope
    if a.isTruthy then right.eval scope else return a
  | .or left right => do
    let a ← left.eval scope
    if a.isTruthy then return a else right.eval scope
  | .compare first rest => do evalChain scope (← first.eval scope) rest
  | .conditional condition then_ otherwise => do
    if (← condition.eval scope).isTruthy then then_.eval scope else otherwise.eval scope

def evalAll (scope : Scope) : List Expr → Except RunError (List Value)
  | [] => .ok []
  | item :: rest => do
    let value ← item.eval scope
    return value :: (← evalAll scope rest)

def evalEntries (scope : Scope) (done : Entries) : List (Expr × Expr) → Except RunError Entries
  | [] => .ok done
  | (key, value) :: rest => do
    match ← key.eval scope with
    | .str name =>
      let item ← value.eval scope
      evalEntries scope (put name item done) rest
    | other => .error (.type (.dictKey other.kind))

def evalBound (scope : Scope) : Option Expr → Outcome
  | none => .ok .null
  | some bound => bound.eval scope

/-- A chain of comparisons behind its left operand: it ends at the first one that is false. -/
def evalChain (scope : Scope) (left : Value) : List (CompareOp × Expr) → Outcome
  | [] => .ok (.bool true)
  | (op, operand) :: rest => do
    let right ← operand.eval scope
    if ← left.compare op right then evalChain scope right rest else return .bool false
end

/-- The scope behind a step, and the error that ended it, if any. What was bound before an error
stays bound. -/
abbrev Effect := Scope × Option RunError

mutual
def Target.assign (scope : Scope) : Target → Value → Effect
  | .name name, value => (scope.bind name value, none)
  | .tuple targets, value =>
    match value.items with
    | .error e => (scope, some e)
    | .ok items =>
      if items.length < targets.length then
        (scope, some (.value (.tooFew targets.length items.length)))
      else if targets.length < items.length then
        (scope, some (.value (.tooMany targets.length)))
      else assignAll scope targets items

def assignAll (scope : Scope) : List Target → List Value → Effect
  | target :: targets, item :: items =>
    match target.assign scope item with
    | (after, none) => assignAll after targets items
    | (after, some e) => (after, some e)
  | _, _ => (scope, none)
end

def Scope.effect {α : Type} (scope : Scope) (outcome : Except RunError α) (then_ : α → Effect) : Effect :=
  match outcome with
  | .ok result => then_ result
  | .error e => (scope, some e)

def Stmt.exec (scope : Scope) : Stmt → Effect
  | .expr value => scope.effect (value.eval scope) fun _ => (scope, none)
  | .assign target value => scope.effect (value.eval scope) (target.assign scope)
  | .augment name op value =>
    match scope.get? name with
    | none => (scope, some (.undefinedName name))
    | some current =>
      scope.effect (do binaryValue op current (← value.eval scope)) fun result =>
        (scope.bind name result, none)
  | .pass => (scope, none)

/-- Statements in order, up to the first error: the scope behind them, and the error with the
number of the statement that failed. -/
def execFrom (number : Nat) (scope : Scope) : List Stmt → Scope × Option (Nat × RunError)
  | [] => (scope, none)
  | statement :: rest =>
    match statement.exec scope with
    | (after, none) => execFrom (number + 1) after rest
    | (after, some e) => (after, some (number, e))

def execAll (scope : Scope) (statements : List Stmt) : Scope × Option (Nat × RunError) :=
  execFrom 0 scope statements

end Stencil
