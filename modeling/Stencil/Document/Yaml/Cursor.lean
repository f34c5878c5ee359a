import Stencil.Document.Reader
import Stencil.Text.Place

/-! Positions in YAML text, its line breaks, and the gaps between the words of a scalar. Loops are
bounded by the text that is left where they start, since each round takes a character of it. -/
namespace Stencil.Document.Yaml

def isAllowed (c : Char) : Bool :=
  let n := c.toNat
  n = 9 || n = 0xA || n = 0xD || (0x20 ≤ n && n ≤ 0x7E) || n = 0x85 ||
    (0xA0 ≤ n && n ≤ 0xD7FF) || (0xE000 ≤ n && n ≤ 0xFFFD) || 0x10000 ≤ n

def isSpace (c : Char) : Bool := c = ' ' || c = '\t'

def isBreak (c : Char) : Bool :=
  c = '\n' || c = '\r' || c.toNat = 0x85 || c.toNat = 0x2028 || c.toNat = 0x2029

def isGap (c : Char) : Bool := isSpace c || isBreak c

def startsGap : List Char → Bool
  | [] => true
  | c :: _ => isGap c

def isWordChar (c : Char) : Bool := c.isAlphanum || c = '_' || c = '-'

/-- What is still to be read, with the number of bytes before it and its place. -/
structure Cursor where
  rest : List Char
  index : Nat
  line : Nat
  column : Nat

namespace Cursor

def head? (cursor : Cursor) : Option Char := cursor.rest.head?

def skip (cursor : Cursor) (count : Nat) : Cursor :=
  { cursor with
    rest := cursor.rest.drop count
    index := cursor.index + Text.byteLength (cursor.rest.take count)
    column := cursor.column + count }

def takeWhile (cursor : Cursor) (accepts : Char → Bool) : List Char × Cursor :=
  let run := cursor.rest.takeWhile accepts
  (run, cursor.skip run.length)

def skipWhile (cursor : Cursor) (accepts : Char → Bool) : Cursor := (cursor.takeWhile accepts).2

def takeBreak? (cursor : Cursor) : Option (List Char × Cursor) :=
  let next (count : Nat) : Cursor :=
    ⟨cursor.rest.drop count, cursor.index + Text.byteLength (cursor.rest.take count),
      cursor.line + 1, 0⟩
  match cursor.rest with
  | '\r' :: '\n' :: _ => some (['\n'], next 2)
  | c :: _ =>
    if c = '\r' || c = '\n' || c.toNat = 0x85 then some (['\n'], next 1)
    else if isBreak c then some ([c], next 1)
    else none
  | [] => none

/-- Skips a mark of the byte order at the start of a line, where it takes up a column. -/
def skipByteOrderMark (cursor : Cursor) : Cursor :=
  if cursor.column = 0 && cursor.head?.any (·.toNat = 0xFEFF) then cursor.skip 1 else cursor

def skipLineTail (cursor : Cursor) : Cursor :=
  let cursor := cursor.skipWhile isSpace
  if cursor.head? = some '#' then cursor.skipWhile (!isBreak ·) else cursor

def atMarker (cursor : Cursor) (c : Char) : Bool :=
  cursor.column = 0 && (List.replicate 3 c).isPrefixOf cursor.rest && startsGap (cursor.rest.drop 3)

def atDocumentMarker (cursor : Cursor) : Bool := cursor.atMarker '-' || cursor.atMarker '.'

end Cursor

/-- White space between two words of a scalar: spaces on one line, or line breaks of which the first
is kept apart. -/
structure Gap where
  broken : Bool
  spaces : List Char
  leading : List Char
  trailing : List Char

namespace Gap

def none : Gap := ⟨false, [], [], []⟩

def escaped : Gap := ⟨true, [], [], []⟩

/-- Line breaks folded: a single one is a space, and of several the first is left out. -/
def fold (leading trailing : List Char) : List Char :=
  if leading.head? = some '\n' then (if trailing.isEmpty then [' '] else trailing)
  else leading ++ trailing

def text (gap : Gap) : List Char :=
  if gap.broken then fold gap.leading gap.trailing else gap.spaces

/-- Reads a gap to its end. Tabs may not stand before a column at the start of a line. -/
def read (column : Nat) : List Char → Gap → Cursor → Option (Gap × Cursor)
  | [], gap, cursor => some (gap, cursor)
  | _ :: fuel, gap, cursor =>
    match cursor.takeBreak? with
    | some (found, next) =>
      if gap.broken then read column fuel { gap with trailing := gap.trailing ++ found } next
      else read column fuel ⟨true, [], found, []⟩ next
    | Option.none =>
      match cursor.head? with
      | some c =>
        if !isSpace c then some (gap, cursor)
        else if gap.broken && c = '\t' && cursor.column < column then Option.none
        else if gap.broken then read column fuel gap (cursor.skip 1)
        else read column fuel { gap with spaces := gap.spaces ++ [c] } (cursor.skip 1)
      | Option.none => some (gap, cursor)

end Gap

end Stencil.Document.Yaml
