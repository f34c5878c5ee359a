import Stencil.Expr.Basic
import Stencil.Text.Blank
import Stencil.Text.Place

/-! Segments: the literal text and the placeholders between two blocks. A placeholder is the key of
an entry in a table, so that an expression that occurs again is evaluated once. -/
namespace Stencil

/-- A piece of code with its parsed form and the place of the directive that holds it. -/
structure Code (α : Type) where
  text : List Char
  parsed : α
  place : Text.Place

/-- What occurs in the source of a segment, in order. -/
inductive Part where
  | text (text : List Char)
  | percent
  | code (code : Code Expr)

/-- The value that fills a placeholder. -/
inductive Slot where
  | percent
  | code (code : Code Expr)

inductive Piece where
  | text (text : List Char)
  | slot (key : List Char)
deriving DecidableEq, Repr

/-- Substitutions under their keys, in the order in which they were first registered. -/
abbrev SubstitutionTable := List (List Char × Slot)

def SubstitutionTable.register (key : List Char) (slot : Slot) (table : SubstitutionTable) :
    SubstitutionTable :=
  if (List.lookup key table).isSome then table else table ++ [(key, slot)]

structure Segment where
  pieces : List Piece
  table : SubstitutionTable

/-- The key of a percent sign of the literal text. -/
def percentKey : List Char := "#percent#".toList

def keyChar (c : Char) : List Char :=
  if c = '#' then "#H#".toList
  else if c = '%' then "#P#".toList
  else if c = '(' then "#[#".toList
  else if c = ')' then "#]#".toList
  else if Text.isBlank c then "#w".toList ++ Nat.toDigits 10 c.toNat ++ ['#']
  else [c]

/-- The key of an expression: its text, with the characters replaced that have a meaning in a
format string. -/
def substitutionKey (text : List Char) : List Char := text.flatMap keyChar

namespace Part

def piece : Part → Piece
  | .text literal => .text literal
  | .percent => .slot percentKey
  | .code inline => .slot (substitutionKey inline.text)

def register (part : Part) (table : SubstitutionTable) : SubstitutionTable :=
  match part with
  | .text _ => table
  | .percent => table.register percentKey .percent
  | .code inline => table.register (substitutionKey inline.text) (.code inline)

end Part

namespace Segment

def ofParts (parts : List Part) : Segment :=
  ⟨parts.map Part.piece, parts.foldl (fun table part => part.register table) []⟩

def hasSlots (segment : Segment) : Bool :=
  segment.pieces.any fun piece =>
    match piece with
    | .slot _ => true
    | .text _ => false

def isEmpty (segment : Segment) : Bool := segment.pieces.isEmpty

def text (segment : Segment) : List Char :=
  segment.pieces.flatMap fun piece =>
    match piece with
    | .text literal => literal
    | .slot _ => []

end Segment

end Stencil
