import Stencil.Text.Place
import Stencil.Text.Quoted
import Stencil.Text.Width

/-! Errors of compiling a template: their messages, the source they point to, and the excerpt that
shows them. Positions and lengths are counted in bytes. -/
namespace Stencil

/-- The place in a template where a piece of code stands. -/
inductive CodeContext where
  | substitution | condition | loop | script | eval
deriving DecidableEq, Repr

def CodeContext.description : CodeContext → String
  | .substitution => "substitution"
  | .condition => "condition"
  | .loop => "loop header"
  | .script => "script"
  | .eval => "eval expression"

inductive ParseFault where
  | unterminatedDirective
  | unterminatedBlock (length : Nat) (keyword : String)
  | mismatchedClose (length : Nat) (expected found : String)
  | badCode (length : Nat) (context : CodeContext) (code detail : String)
  | inconsistentIndent (expected found : String)
  | unknownDirective (length : Nat) (keyword : String)
  | malformedDirective (length : Nat) (detail : String)
deriving DecidableEq, Repr

/-- A fault with the byte offset where it starts and the number of its line. -/
structure ParseError where
  place : Text.Place
  fault : ParseFault
deriving DecidableEq, Repr

namespace ParseError

/-- The number of bytes that an error covers: of a bad indentation at least one. -/
def length (e : ParseError) : Nat :=
  match e.fault with
  | .unterminatedDirective => 2
  | .unterminatedBlock length _ => length
  | .mismatchedClose length _ _ => length
  | .badCode length _ _ _ => length
  | .inconsistentIndent _ found => max found.utf8ByteSize 1
  | .unknownDirective length _ => length
  | .malformedDirective length _ => length

def message (e : ParseError) : String :=
  let line := e.place.line
  match e.fault with
  | .unterminatedDirective => s!"Unterminated directive on line {line}: missing closing '\x7d\x7d'"
  | .unterminatedBlock _ keyword =>
    s!"Unterminated '{keyword}' block opened on line {line}: missing '\x7b\x7bend{keyword}\x7d\x7d'"
  | .mismatchedClose _ expected found =>
    s!"Mismatched close on line {line}: expected '{expected}', found '{found}'"
  | .badCode _ context code detail =>
    s!"Bad {context.description} on line {line}: {Text.quotedText code}: {detail}"
  | .inconsistentIndent expected found =>
    let found := Text.quotedText found
    s!"Inconsistent indentation on line {line}: expected {Text.quotedText expected}, found {found}"
  | .unknownDirective _ keyword =>
    s!"Unknown directive on line {line}: '{keyword}' outside of a matching block"
  | .malformedDirective _ detail => s!"Malformed directive on line {line}: {detail}"

def range (e : ParseError) : Nat × Nat := (e.place.position, e.place.position + e.length)

end ParseError

/-- Lines of a source for showing: they end at every line feed and every carriage return. -/
def shownLines : List Char → List (List Char)
  | [] => [[]]
  | c :: rest =>
    if c = '\n' || c = '\r' then [] :: shownLines rest
    else match shownLines rest with
      | [] => [[c]]
      | line :: lines => (c :: line) :: lines

/-- The line that holds a byte offset, and the offset in it. Lines are one byte apart. -/
def lineHolding? : Nat → List (List Char) → Option (List Char × Nat)
  | _, [] => none
  | position, line :: rest =>
    if position ≤ Text.byteLength line then some (line, position)
    else lineHolding? (position - (Text.byteLength line + 1)) rest

/-- An underline of the given bytes of a line, cut at its end, of one caret at least. It is missing
if the bytes do not start and end between characters. -/
def underline? (line : List Char) (offset length : Nat) : Option (List Char) := do
  let before ← Text.takeBytes? offset line
  let rest ← Text.dropBytes? offset line
  let marked ← Text.takeBytes? (min length (Text.byteLength rest)) rest
  return List.replicate (Text.width before) ' ' ++ List.replicate (max (Text.width marked) 1) '^'

/-- The widest line that is shown with an underline. -/
def excerptWidth : Nat := 60

namespace ParseError

/-- The source line where an error starts, missing if the source ends before. -/
def sourceLine? (e : ParseError) (source : List Char) : Option (List Char) :=
  (lineHolding? e.place.position (shownLines source)).map (·.1)

/-- The source line and an underline of the error, both indented, or nothing for a wide line. It is
missing if the error does not fit the source. -/
def excerpt? (e : ParseError) (source : List Char) : Option (List Char) := do
  let (line, offset) ← lineHolding? e.place.position (shownLines source)
  if Text.width line > excerptWidth then return []
  let mark ← underline? line offset e.length
  return [' ', ' '] ++ line ++ ['\n', ' ', ' '] ++ mark ++ ['\n']

end ParseError

end Stencil
