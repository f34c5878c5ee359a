import Stencil.Template.ParseError
import Stencil.Text.Blank
import Stencil.Text.Search

/-! Removing the common indentation of the lines of a code block. The first line that is not blank
sets the indentation, which every other line that is not blank has to start with, character by
character. -/
namespace Stencil

/-- A line with its number in the block, counted from zero, and its byte offset. -/
structure BlockLine where
  number : Nat
  offset : Nat
  text : List Char

def blockLinesFrom (number offset : Nat) : List (List Char) → List BlockLine
  | [] => []
  | line :: rest =>
    ⟨number, offset, line⟩ :: blockLinesFrom (number + 1) (offset + Text.byteLength line + 1) rest

def blockLines (text : List Char) : List BlockLine := blockLinesFrom 0 0 (Text.splitLines text)

def withoutIndent? (indent line : List Char) : Option (List Char) :=
  if indent.isPrefixOf line then some (line.drop indent.length) else none

def BlockLine.inconsistent (line : BlockLine) (origin : Text.Place) (indent : List Char) : ParseError :=
  ⟨⟨origin.position + line.offset, origin.line + line.number⟩,
    .inconsistentIndent (String.ofList indent) (String.ofList (Text.leadingBlank line.text))⟩

def dedentLines (origin : Text.Place) (indent : List Char) :
    List BlockLine → Except ParseError (List (List Char))
  | [] => .ok []
  | line :: rest =>
    if Text.isBlankLine line.text then do return [] :: (← dedentLines origin indent rest)
    else match withoutIndent? indent line.text with
      | some plain => do return plain :: (← dedentLines origin indent rest)
      | none => .error (line.inconsistent origin indent)

/-- The code of a block that starts at a place of the source, without blank lines before it and
without the common indentation. -/
def dedent (origin : Text.Place) (text : List Char) : Except ParseError (List Char) :=
  match (blockLines text).dropWhile fun line => Text.isBlankLine line.text with
  | [] => .ok []
  | first :: rest => do
    return Text.join ['\n'] (← dedentLines origin (Text.leadingBlank first.text) (first :: rest))

end Stencil
