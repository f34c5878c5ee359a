import Stencil.Expr.Eval
import Stencil.Template.Destination
import Stencil.Template.Node

/-! Running a compiled template. Code runs in one flat scope and writes to one destination; an error
ends the run, and what was written before remains. A run counts the rounds of each loop with a
condition, and is unfinished if a loop has more rounds than it may have. -/
namespace Stencil

structure Machine where
  scope : Scope
  destination : Destination

/-- How a part of a run ends. -/
inductive Ending where
  | done (machine : Machine)
  | failed (machine : Machine) (e : RunError)
  | unfinished

namespace Ending

@[inline] def andThen (ending : Ending) (next : Machine → Ending) : Ending :=
  match ending with
  | .done machine => next machine
  | other => other

end Ending

namespace Machine

@[inline] def continuing {α : Type} (machine : Machine) (outcome : Except RunError α) (next : α → Ending) : Ending :=
  match outcome with
  | .ok result => next result
  | .error e => .failed machine e

def write (machine : Machine) (text : List Char) : Ending :=
  match machine.destination.write text with
  | (destination, none) => .done { machine with destination }
  | (destination, some e) => .failed { machine with destination } e

def withEffect (machine : Machine) (effect : Effect) : Ending :=
  match effect with
  | (scope, none) => .done { machine with scope }
  | (scope, some e) => .failed { machine with scope } e

end Machine

def valueChars (value : Value) : List Char := value.text.toList

def Slot.value (scope : Scope) : Slot → Except RunError (List Char)
  | .percent => .ok ['%']
  | .code inline => do return valueChars (← inline.parsed.eval scope)

def SubstitutionTable.values (scope : Scope) :
    SubstitutionTable → Except RunError (List (List Char × List Char))
  | [] => .ok []
  | (key, slot) :: rest => do
    let value ← slot.value scope
    return (key, value) :: (← SubstitutionTable.values scope rest)

def fillPieces (values : List (List Char × List Char)) (pieces : List Piece) : List Char :=
  pieces.flatMap fun piece =>
    match piece with
    | .text text => text
    | .slot key => (values.lookup key).getD []

/-- The text of a segment. All substitutions are evaluated before any text is written. -/
def Segment.filled (segment : Segment) (scope : Scope) : Except RunError (List Char) := do
  return fillPieces (← segment.table.values scope) segment.pieces

def execStatements (machine : Machine) (statements : List Stmt) : Ending :=
  match execAll machine.scope statements with
  | (scope, none) => machine.withEffect (scope, none)
  | (scope, some (_, e)) => machine.withEffect (scope, some e)

/-- Runs a body as long as a condition holds, but no more than so many rounds. -/
def repeatWhile (condition : Expr) (body : Machine → Ending) : Nat → Machine → Ending
  | 0, _ => .unfinished
  | rounds + 1, machine =>
    machine.continuing (condition.eval machine.scope) fun value =>
      if value.isTruthy then (body machine).andThen (repeatWhile condition body rounds)
      else .done machine

def repeatFor (target : Target) (body : Machine → Ending) : List Value → Machine → Ending
  | [], machine => .done machine
  | item :: rest, machine =>
    (machine.withEffect (target.assign machine.scope item)).andThen fun bound =>
      (body bound).andThen (repeatFor target body rest)

mutual
def runNode (rounds : Nat) : Node → Machine → Ending
  | .literal text, machine => machine.write text
  | .substitute segment, machine => machine.continuing (segment.filled machine.scope) machine.write
  | .conditional branches otherwise, machine =>
    runBranches rounds branches (runOtherwise rounds otherwise) machine
  | .whileLoop condition body, machine =>
    repeatWhile condition.parsed (runNodes rounds body) rounds machine
  | .forLoop header body, machine =>
    machine.continuing (do (← header.parsed.iterable.eval machine.scope).items) fun items =>
      repeatFor header.parsed.target (runNodes rounds body) items machine
  | .script code, machine => execStatements machine code.parsed
  | .eval code, machine =>
    machine.continuing (code.parsed.eval machine.scope) fun value => machine.write (valueChars value)

def runNodes (rounds : Nat) : List Node → Machine → Ending
  | [], machine => .done machine
  | node :: rest, machine => (runNode rounds node machine).andThen (runNodes rounds rest)

def runBranches (rounds : Nat) :
    List (Code Expr × List Node) → (Machine → Ending) → Machine → Ending
  | [], otherwise, machine => otherwise machine
  | (condition, body) :: rest, otherwise, machine =>
    machine.continuing (condition.parsed.eval machine.scope) fun value =>
      if value.isTruthy then runNodes rounds body machine
      else runBranches rounds rest otherwise machine

def runOtherwise (rounds : Nat) : Option (List Node) → Machine → Ending
  | none, machine => .done machine
  | some body, machine => runNodes rounds body machine
end

/-- The scope that a run starts with. Keys that are not identifiers are left out, so that they can
not be taken for code. -/
def bindValues (values : Entries) : Scope :=
  values.foldl
    (fun scope (name, value) => if isIdentifier name then scope.bind name value else scope)
    Scope.empty

abbrev RunResult := Destination × Option RunError

/-- Flushes the destination behind a run, also a failed one. The error of the run comes before the
one of the flush. -/
def Ending.flushed? : Ending → Option RunResult
  | .done machine => some machine.destination.flush
  | .failed machine e => some (machine.destination.flush.1, some e)
  | .unfinished => none

/-- Runs nodes with values, missing if a loop has more than so many rounds. -/
def run? (rounds : Nat) (nodes : List Node) (values : Entries) (destination : Destination) :
    Option RunResult :=
  (runNodes rounds nodes ⟨bindValues values, destination⟩).flushed?

end Stencil
