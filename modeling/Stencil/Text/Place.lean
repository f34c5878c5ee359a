/-! Byte offsets and line numbers of a text that is read from left to right.
Texts are lists of characters; an offset is the UTF-8 length of what lies before it. -/
namespace Stencil.Text

def byteLength : List Char → Nat
  | [] => 0
  | c :: rest => c.utf8Size + byteLength rest

def lineFeeds : List Char → Nat
  | [] => 0
  | c :: rest => (if c = '\n' then 1 else 0) + lineFeeds rest

/-- A byte offset and the number of its line, counted from 1. -/
structure Place where
  position : Nat
  line : Nat
deriving DecidableEq, Repr, Inhabited

def Place.start : Place := ⟨0, 1⟩

def Place.advance (place : Place) (skipped : List Char) : Place :=
  ⟨place.position + byteLength skipped, place.line + lineFeeds skipped⟩

theorem byteLength_append (a b : List Char) :
    byteLength (a ++ b) = byteLength a + byteLength b := by
  induction a with
  | nil => simp [byteLength]
  | cons c a ih => simp [byteLength, ih, Nat.add_assoc]

theorem lineFeeds_append (a b : List Char) :
    lineFeeds (a ++ b) = lineFeeds a + lineFeeds b := by
  induction a with
  | nil => simp [lineFeeds]
  | cons c a ih => simp [lineFeeds, ih, Nat.add_assoc]

theorem Place.advance_append (place : Place) (a b : List Char) :
    place.advance (a ++ b) = (place.advance a).advance b := by
  simp [Place.advance, byteLength_append, lineFeeds_append, Nat.add_assoc]

/-- The text from a byte offset on, unless the offset is inside a character or past the end. -/
def dropBytes? : Nat → List Char → Option (List Char)
  | 0, text => some text
  | _ + 1, [] => none
  | n + 1, c :: rest => if c.utf8Size ≤ n + 1 then dropBytes? (n + 1 - c.utf8Size) rest else none

/-- The first so many bytes of a text, unless the cut falls inside a character or past the end. -/
def takeBytes? : Nat → List Char → Option (List Char)
  | 0, _ => some []
  | _ + 1, [] => none
  | n + 1, c :: rest =>
    if c.utf8Size ≤ n + 1 then (takeBytes? (n + 1 - c.utf8Size) rest).map (c :: ·) else none

end Stencil.Text
