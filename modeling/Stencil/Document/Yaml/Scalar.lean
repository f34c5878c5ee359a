import Stencil.Document.Yaml.Cursor
import Stencil.Text.Utf8

/-! Scalars of YAML: plain ones, quoted ones and blocks of lines; and anchors and tags. -/
namespace Stencil.Document.Yaml

/-! Plain scalars. -/

def isFlowMark (c : Char) : Bool :=
  c = ',' || c = '[' || c = ']' || c = '\x7b' || c = '\x7d'

/-- Whether the text behind a colon makes the colon an error in a flow collection. -/
def startsFlowMark : List Char → Bool
  | [] => false
  | c :: _ => isFlowMark c || c = '?'

def plainWord (inFlow : Bool) : List Char → Option (List Char)
  | [] => some []
  | c :: rest =>
    if isGap c then some []
    else if inFlow && c = ':' && startsFlowMark rest then none
    else if (c = ':' && startsGap rest) || (inFlow && isFlowMark c) then some []
    else (plainWord inFlow rest).map (c :: ·)

/-- A plain scalar, or the rest of one: its text, whether it ends with a line break, and the cursor
behind it. -/
structure Plain where
  text : List Char
  broken : Bool
  cursor : Cursor

/-- Reads a plain scalar on from a word that may start it or follow a gap. Its lines have to be
indented up to a column, but not in a flow collection. -/
def plainFrom (inFlow : Bool) (column : Nat) : List Char → Gap → Cursor → Option Plain
  | [], gap, cursor => some ⟨[], gap.broken, cursor⟩
  | _ :: fuel, gap, cursor =>
    if cursor.atDocumentMarker || cursor.head? = some '#' then some ⟨[], gap.broken, cursor⟩
    else do
      let word ← plainWord inFlow cursor.rest
      let text := if word.isEmpty then [] else gap.text ++ word
      let gap := if word.isEmpty then gap else Gap.none
      let cursor := cursor.skip word.length
      if !(cursor.head?.any isGap) then return ⟨text, gap.broken, cursor⟩
      let (gap, cursor) ← Gap.read column cursor.rest gap cursor
      if !inFlow && cursor.column < column then return ⟨text, gap.broken, cursor⟩
      let rest ← plainFrom inFlow column fuel gap cursor
      return { rest with text := text ++ rest.text }

def plain (inFlow : Bool) (column : Nat) (cursor : Cursor) : Option Plain :=
  plainFrom inFlow column cursor.rest Gap.none cursor


/-! Quoted scalars. -/

def escapes : List (Char × Nat) :=
  [('0', 0), ('a', 7), ('b', 8), ('t', 9), ('\t', 9), ('n', 10), ('v', 11), ('f', 12), ('r', 13),
    ('e', 27), (' ', 32), ('\x22', 34), ('/', 47), ('\x5c', 92), ('N', 0x85), ('_', 0xA0),
    ('L', 0x2028), ('P', 0x2029)]

/-- The number of hexadecimal digits behind an escape letter. -/
def hexEscapes : List (Char × Nat) := [('x', 2), ('u', 4), ('U', 8)]

/-- The character of an escape, from the text behind the backslash, and the length of that text. -/
def escape? : List Char → Option (Char × Nat)
  | [] => none
  | letter :: rest =>
    match escapes.lookup letter with
    | some n => some (Char.ofNat n, 1)
    | none => do
      let count ← hexEscapes.lookup letter
      let (n, _) ← hexNumber count rest
      return (← scalar? n, count + 1)

/-- How a word of a quoted scalar ends. -/
inductive WordEnd where
  | gap
  | escapedBreak
  | quote

/-- A word of a quoted scalar. A doubled quote in single quotes is one, and a backslash in double
quotes starts an escape. -/
def quotedWord (single : Bool) : List Char → Cursor → Option (List Char × WordEnd × Cursor)
  | [], cursor => some ([], .gap, cursor)
  | _ :: fuel, cursor =>
    let add (c : Char) (next : Cursor) : Option (List Char × WordEnd × Cursor) := do
      let (word, ending, cursor) ← quotedWord single fuel next
      return (c :: word, ending, cursor)
    match cursor.rest with
    | [] => some ([], .gap, cursor)
    | c :: rest =>
      if isGap c then some ([], .gap, cursor)
      else if single then
        if c = '\x27' then
          if rest.head? = some '\x27' then add c (cursor.skip 2) else some ([], .quote, cursor)
        else add c (cursor.skip 1)
      else if c = '\x22' then some ([], .quote, cursor)
      else if c = '\x5c' then
        match (cursor.skip 1).takeBreak? with
        | some (_, next) => some ([], .escapedBreak, next)
        | none => do
          let (c, length) ← escape? rest
          add c (cursor.skip (length + 1))
      else add c (cursor.skip 1)

def quotedFrom (single : Bool) : List Char → Cursor → Option (List Char × Cursor)
  | [], _ => none
  | _ :: fuel, cursor =>
    if cursor.atDocumentMarker || cursor.rest.isEmpty then none
    else do
      let (word, ending, cursor) ← quotedWord single cursor.rest cursor
      let followGap (gap : Gap) : Option (List Char × Cursor) :=
        if cursor.head? = some (if single then '\x27' else '\x22') then
          some (word, cursor.skip 1)
        else do
          let (gap, cursor) ← Gap.read 0 cursor.rest gap cursor
          let (text, cursor) ← quotedFrom single fuel cursor
          return (word ++ gap.text ++ text, cursor)
      match ending with
      | .quote => return (word, cursor.skip 1)
      | .gap => followGap Gap.none
      | .escapedBreak => followGap Gap.escaped

def quoted (single : Bool) (cursor : Cursor) : Option (List Char × Cursor) :=
  quotedFrom single cursor.rest cursor

/-! Blocks of lines. -/

/-- What a block keeps of the line breaks at its end. -/
inductive Chomping where
  | strip | clip | keep
deriving DecidableEq

structure BlockHeader where
  chomping : Chomping
  indent : Option Nat

def chompingOf (c : Char) : Option Chomping :=
  if c = '+' then some .keep else if c = '-' then some .strip else none

def indentOf (c : Char) : Option Nat :=
  if c.isDigit && c ≠ '0' then some (c.toNat - '0'.toNat) else none

/-- What the marks of a header say: the indentation of the lines and what is kept at their end, each
at most once and in any order. -/
def blockMarks : List Char → Option BlockHeader
  | [] => some ⟨.clip, none⟩
  | [c] =>
    match chompingOf c with
    | some chomping => some ⟨chomping, none⟩
    | none => (indentOf c).map fun indent => ⟨.clip, some indent⟩
  | [first, second] =>
    match chompingOf first with
    | some chomping => (indentOf second).map fun indent => ⟨chomping, some indent⟩
    | none => (indentOf first).bind fun indent =>
        (chompingOf second).map fun chomping => ⟨chomping, some indent⟩
  | _ => none

/-- The header of a block, which ends with its line. The line may hold a comment. -/
def blockHeader (cursor : Cursor) : Option (BlockHeader × Cursor) := do
  let marks := cursor.rest.takeWhile fun c => (chompingOf c).isSome || c.isDigit
  let header ← blockMarks marks
  let cursor := (cursor.skip marks.length).skipLineTail
  if cursor.rest.isEmpty then return (header, cursor)
  let (_, cursor) ← cursor.takeBreak?
  return (header, cursor)

/-- Reads blank lines of a block and the indentation of the line behind them: the line breaks, the
greatest column that was seen, and the cursor. As long as the indentation is not known, all spaces
belong to it. -/
def blockBreaks (indent : Option Nat) :
    List Char → Nat → Cursor → Option (List Char × Nat × Cursor)
  | [], widest, cursor => some ([], widest, cursor)
  | _ :: fuel, widest, cursor =>
    let spaces := cursor.rest.takeWhile (· = ' ')
    let count := match indent with
      | some indent => min spaces.length (indent - cursor.column)
      | none => spaces.length
    let cursor := cursor.skip count
    let widest := max widest cursor.column
    if cursor.head? = some '\t' && indent.all (cursor.column < ·) then none
    else match cursor.takeBreak? with
      | none => some ([], widest, cursor)
      | some (found, next) => do
        let (others, widest, cursor) ← blockBreaks indent fuel widest next
        return (found ++ others, widest, cursor)

/-- A line break behind a line of a block, with the blank lines behind it, and whether the line
started with a space. -/
structure BlockTail where
  leading : List Char
  trailing : List Char
  spaced : Bool

/-- The text between two lines of a block. In a folded block a line break between lines that do not
start with a space is a space, or is left out before blank lines. -/
def BlockTail.joint (tail : BlockTail) (folds spaced : Bool) : List Char :=
  if folds && tail.leading.head? = some '\n' && !tail.spaced && !spaced then
    (if tail.trailing.isEmpty then [' '] else tail.trailing)
  else tail.leading ++ tail.trailing

def BlockTail.chomped (tail : BlockTail) : Chomping → List Char
  | .strip => []
  | .clip => tail.leading
  | .keep => tail.leading ++ tail.trailing

def blockLines (folds : Bool) (indent : Nat) (chomping : Chomping) :
    List Char → BlockTail → Cursor → Option (List Char × Cursor)
  | [], tail, cursor => some (tail.chomped chomping, cursor)
  | _ :: fuel, tail, cursor =>
    if cursor.column = indent && !cursor.rest.isEmpty then do
      let spaced := cursor.head?.any isSpace
      let (line, cursor) := cursor.takeWhile (!isBreak ·)
      let (leading, cursor) := (cursor.takeBreak?).getD ([], cursor)
      let (trailing, _, cursor) ← blockBreaks (some indent) cursor.rest 0 cursor
      let (text, cursor) ←
        blockLines folds indent chomping fuel ⟨leading, trailing, spaced⟩ cursor
      return (tail.joint folds spaced ++ line ++ text, cursor)
    else some (tail.chomped chomping, cursor)

/-- A block scalar behind its mark. Without a given indentation its first line sets it, but it is at
least one more than the one around it. -/
def block (folds : Bool) (outer : Option Nat) (cursor : Cursor) : Option (List Char × Cursor) := do
  let (header, cursor) ← blockHeader cursor
  let given := header.indent.map (· + outer.getD 0)
  let (breaks, widest, cursor) ← blockBreaks given cursor.rest 0 cursor
  let least := match outer with
    | some outer => outer + 1
    | none => 0
  let indent := given.getD (max (max widest least) 1)
  blockLines folds indent header.chomping cursor.rest ⟨[], breaks, false⟩ cursor

/-! Anchors and tags. -/

def endsName : List Char → Bool
  | [] => true
  | c :: _ => isGap c || c = '?' || c = ':' || c = ',' || c = ']' || c = '\x7d' || c = '%' ||
      c = '@' || c = '\x60'

def name (cursor : Cursor) : Option (String × Cursor) :=
  let (word, cursor) := cursor.takeWhile isWordChar
  if word.isEmpty || !endsName cursor.rest then none else some (String.ofList word, cursor)

def isTagChar (verbatim : Bool) (c : Char) : Bool :=
  isWordChar c || ";/?:@&=+$.%!~*()".toList.contains c || c = '\x27' ||
    (verbatim && (c = ',' || c = '[' || c = ']'))

/-- The bytes that a tag writes: a percent sign and two hexadecimal digits stand for any. -/
def tagBytes : List Char → Option (List UInt8)
  | [] => some []
  | '%' :: a :: b :: rest => do
    let byte := 16 * (← hexValue? a) + (← hexValue? b)
    return byte.toUInt8 :: (← tagBytes rest)
  | '%' :: _ => none
  | c :: rest => (tagBytes rest).map (Text.bytes [c] ++ ·)

def tagText (chars : List Char) : Option String := do
  return String.ofList (← (Text.decode (← tagBytes chars)).toOption)

/-- A tag as written: a handle that a directive explains, and a suffix. -/
structure Tag where
  handle : String
  suffix : String
deriving DecidableEq

/-- The handle of a tag: a word between exclamation marks, of which the second may be missing. -/
def tagHandle (cursor : Cursor) : Option (List Char × Cursor) :=
  if cursor.head? ≠ some '!' then none
  else
    let (word, after) := (cursor.skip 1).takeWhile isWordChar
    if after.head? = some '!' then some ('!' :: word ++ ['!'], after.skip 1)
    else some ('!' :: word, after)

def verbatimTag (cursor : Cursor) : Option (Tag × Cursor) :=
  let (chars, cursor) := cursor.takeWhile (isTagChar true)
  if chars.isEmpty || cursor.head? ≠ some '>' then none
  else (tagText chars).map fun suffix => (⟨"", suffix⟩, cursor.skip 1)

/-- A tag with a handle between exclamation marks, or with the plain one. A single exclamation mark
is a tag by itself. -/
def shortTag (cursor : Cursor) : Option (Tag × Cursor) := do
  let (handle, after) ← tagHandle cursor
  let (chars, cursor) := after.takeWhile (isTagChar false)
  if handle.length > 1 ∧ handle.getLast? = some '!' then
    if chars.isEmpty then none
    else (tagText chars).map fun suffix => (⟨String.ofList handle, suffix⟩, cursor)
  else
    (tagText (handle.drop 1 ++ chars)).map fun suffix =>
      (if suffix.isEmpty then ⟨"", "!"⟩ else ⟨"!", suffix⟩, cursor)

def tag (inFlow : Bool) (cursor : Cursor) : Option (Tag × Cursor) := do
  let (found, cursor) ←
    if ['!', '<'].isPrefixOf cursor.rest then verbatimTag (cursor.skip 2) else shortTag cursor
  if startsGap cursor.rest || (inFlow && cursor.head? = some ',') then return (found, cursor)
  else none

end Stencil.Document.Yaml
