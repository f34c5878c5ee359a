import Stencil.Template.Event

/-! Compiled templates: trees of nodes built from the events of a source. A body ends at the first
divider that no block inside it has taken. -/
namespace Stencil

inductive Node where
  | literal (text : List Char)
  | substitute (segment : Segment)
  | conditional (branches : List (Code Expr × List Node)) (otherwise : Option (List Node))
  | whileLoop (condition : Code Expr) (body : List Node)
  | forLoop (header : Code ForHeader) (body : List Node)
  | script (code : Code (List Stmt))
  | eval (code : Code Expr)

def Node.ofParts (parts : List Part) : Node :=
  let segment := Segment.ofParts parts
  if segment.hasSlots then .substitute segment else .literal segment.text

abbrev Built (α : Type) := α × List Event

/-- Reads the divider that ends a block, which has to be the given word alone. -/
def expectClose (opening : Directive) (expected : String) : List Event → Except ParseError (List Event)
  | .divider directive :: rest =>
    if String.ofList directive.word = expected then do
      directive.expectBare
      return rest
    else .error (directive.mismatched expected)
  | _ => .error opening.unterminated

/-- The branches of a conditional behind its opening or behind an `elif` with a condition. -/
def buildBranches (build : List Event → Except ParseError (Built (List Node)))
    (opening : Directive) : Nat → Code Expr → List Event →
      Except ParseError (Built (List (Code Expr × List Node) × Option (List Node)))
  | 0, _, _ => .error opening.unterminated
  | fuel + 1, condition, events => do
    let (body, rest) ← build events
    match rest with
    | .divider divider :: after =>
      match divider.keyword? with
      | some .elif =>
        let next ← divider.condition
        let ((branches, otherwise), after) ← buildBranches build opening fuel next after
        return (((condition, body) :: branches, otherwise), after)
      | some .otherwise =>
        divider.expectBare
        let (otherwise, rest) ← build after
        let after ← expectClose opening Construct.conditional.closeWord rest
        return (([(condition, body)], some otherwise), after)
      | _ =>
        let after ← expectClose opening Construct.conditional.closeWord rest
        return (([(condition, body)], none), after)
    | _ => .error opening.unterminated

/-- The nodes up to the first divider of an enclosing block. The fuel exceeds the number of
events. -/
def buildNodes : Nat → List Event → Except ParseError (Built (List Node))
  | 0, events => .ok ([], events)
  | fuel + 1, events =>
    let follow (node : Node) (rest : List Event) : Except ParseError (Built (List Node)) := do
      let (nodes, after) ← buildNodes fuel rest
      return (node :: nodes, after)
    match events with
    | [] => .ok ([], [])
    | .segment parts :: rest => follow (.ofParts parts) rest
    | .script code :: rest => follow (.script code) rest
    | .eval code :: rest => follow (.eval code) rest
    | .conditional opening condition :: rest => do
      let ((branches, otherwise), after) ←
        buildBranches (buildNodes fuel) opening fuel condition rest
      follow (.conditional branches otherwise) after
    | .whileLoop opening condition :: rest => do
      let (body, rest) ← buildNodes fuel rest
      follow (.whileLoop condition body) (← expectClose opening Construct.whileLoop.closeWord rest)
    | .forLoop opening header :: rest => do
      let (body, rest) ← buildNodes fuel rest
      follow (.forLoop header body) (← expectClose opening Construct.forLoop.closeWord rest)
    | .divider directive :: rest => .ok ([], .divider directive :: rest)
    | .invalid e :: _ => .error e

def Node.ofEvents (events : List Event) : Except ParseError (List Node) := do
  match ← buildNodes (events.length + 1) events with
  | (_, .divider directive :: _) => .error directive.unknown
  | (nodes, _) => return nodes

def parseNodes (source : List Char) : Except ParseError (List Node) := Node.ofEvents (events source)

end Stencil
