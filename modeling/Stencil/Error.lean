import Stencil.Template.Compile

/-! Errors of finding, compiling and running templates. -/
namespace Stencil

/-- A file that could not be read or written. -/
structure FileError where
  path : String
  cause : String

def FileError.message (e : FileError) : String := s!"Failed to access {e.path}: {e.cause}"

/-- A template that no directory of the search path holds. -/
structure NotFound where
  name : String
  searched : List String

def NotFound.message (e : NotFound) : String :=
  let tried := if e.searched.isEmpty then "" else " (tried " ++ String.intercalate " " e.searched ++ ")"
  s!"No source found for template {Text.quotedText e.name}{tried}"

inductive Error where
  | parse (e : ParseError)
  | composition (e : CompositionError)
  | run (e : RunError)
  | file (e : FileError)
  | notFound (e : NotFound)

namespace Error

def message : Error → String
  | .parse e => e.message
  | .composition e => e.message
  | .run e => e.message
  | .file e => e.message
  | .notFound e => e.message

def cause? : Error → Option String
  | .parse e => some e.message
  | .composition e => some e.message
  | .run e => some e.message
  | .file e => some e.cause
  | .notFound _ => none

def ofCompile : CompileError → Error
  | .parse e => .parse e
  | .composition e => .composition e

end Error

end Stencil
