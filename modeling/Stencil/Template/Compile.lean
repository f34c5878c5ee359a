import Stencil.Template.Listing
import Stencil.Template.Run

/-! Templates: parsing, validation as a whole, and running. -/
namespace Stencil

/-- Compiled nodes that do not hold together. -/
inductive Defect where
  | missingSubstitution (key : List Char)
  | noBranches

def Defect.message : Defect → String
  | .missingSubstitution key =>
    s!"placeholder {Text.quotedText (String.ofList key)} has no substitution"
  | .noBranches => "conditional without branches"

def validatePieces (table : SubstitutionTable) : List Piece → Except Defect Unit
  | [] => .ok ()
  | .text _ :: rest => validatePieces table rest
  | .slot key :: rest =>
    if (table.lookup key).isSome then validatePieces table rest
    else .error (.missingSubstitution key)

mutual
def validateNode : Node → Except Defect Unit
  | .literal _ => .ok ()
  | .substitute segment => validatePieces segment.table segment.pieces
  | .conditional branches otherwise =>
    if branches.isEmpty then .error .noBranches
    else do
      validateBranches branches
      validateOtherwise otherwise
  | .whileLoop _ body => validateNodes body
  | .forLoop _ body => validateNodes body
  | .script _ => .ok ()
  | .eval _ => .ok ()

def validateNodes : List Node → Except Defect Unit
  | [] => .ok ()
  | node :: rest => do
    validateNode node
    validateNodes rest

def validateBranches : List (Code Expr × List Node) → Except Defect Unit
  | [] => .ok ()
  | (_, body) :: rest => do
    validateNodes body
    validateBranches rest

def validateOtherwise : Option (List Node) → Except Defect Unit
  | none => .ok ()
  | some body => validateNodes body
end

/-- Compiled nodes that failed validation, with what is wrong and their listing. -/
structure CompositionError where
  detail : String
  listing : String

def CompositionError.message (e : CompositionError) : String :=
  s!"Internal error: compiled template failed validation: {e.detail}\n{e.listing}"

inductive CompileError where
  | parse (e : ParseError)
  | composition (e : CompositionError)

def CompileError.message : CompileError → String
  | .parse e => e.message
  | .composition e => e.message

/-- A template: its source and the nodes that were compiled from it. -/
structure Template where
  source : List Char
  nodes : List Node

namespace Template

def parse (source : List Char) : Except ParseError Template :=
  (parseNodes source).map (⟨source, ·⟩)

def listing (template : Template) : List Char := Stencil.listing template.nodes

def validate (template : Template) : Except Defect Unit := validateNodes template.nodes

def compile (source : List Char) : Except CompileError Template :=
  match parse source with
  | .error e => .error (.parse e)
  | .ok template =>
    match template.validate with
    | .ok _ => .ok template
    | .error defect =>
      .error (.composition ⟨defect.message, String.ofList template.listing⟩)

def run? (template : Template) (rounds : Nat) (values : Entries) (destination : Destination) :
    Option RunResult :=
  Stencil.run? rounds template.nodes values destination

def render? (template : Template) (rounds : Nat) (values : Entries) :
    Option (Except RunError (List Char)) :=
  (template.run? rounds values (Destination.writer none)).map fun (destination, failure) =>
    match failure with
    | some e => .error e
    | none => .ok destination.text

end Template

end Stencil
