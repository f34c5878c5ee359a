import Stencil.Assoc
import Stencil.Document.Yaml.Scalar

/-! The tokens of YAML text. Indentation gives the tokens that open and close block collections, and
a colon tells that what stands before it on its line is a key. Anchors have numbers, which are those
of the names at that time: a name that comes again takes the number that the next new name takes. -/
namespace Stencil.Document.Yaml

inductive Token where
  | version (major minor : Nat)
  | tagHandle (handle expansion : String)
  | documentStart
  | documentEnd
  | blockSequence
  | blockMapping
  | blockEnd
  | flowSequence
  | flowSequenceEnd
  | flowMapping
  | flowMappingEnd
  | blockEntry
  | flowEntry
  | key
  | value
  | reference (number : Nat)
  | anchor (number : Nat)
  | tag (tag : Tag)
  | scalar (isPlain : Bool) (text : String)
deriving DecidableEq

/-- A place that is a key if a colon follows on its line: the number of tokens before it, where it
is, and whether it has to be a key. -/
structure PossibleKey where
  required : Bool
  number : Nat
  index : Nat
  line : Nat
  column : Nat

/-- How many bytes behind the start of a key its colon may be. -/
def keyReach : Nat := 1024

/-- The state between two tokens. The indentations and the possible keys of the flow collections
around are listed from the inside, and the tokens from the last to the first. -/
structure Scanner where
  cursor : Cursor
  indents : List Nat
  keyAllowed : Bool
  possible : Option PossibleKey
  outer : List (Option PossibleKey)
  tokens : List Token
  count : Nat
  names : List (String × Nat)

namespace Scanner

def start (text : List Char) : Scanner := ⟨⟨text, 0, 0, 0⟩, [], true, none, [], [], 0, []⟩

def inFlow (scanner : Scanner) : Bool := !scanner.outer.isEmpty

def innerColumn (scanner : Scanner) : Nat := (scanner.indents.head?.map (· + 1)).getD 0

def emit (scanner : Scanner) (token : Token) : Scanner :=
  { scanner with tokens := token :: scanner.tokens, count := scanner.count + 1 }

def insert (scanner : Scanner) (number : Nat) (token : Token) : Scanner :=
  { scanner with
    tokens := scanner.tokens.insertIdx (scanner.count - number) token
    count := scanner.count + 1 }

def skip (scanner : Scanner) (count : Nat) : Scanner :=
  { scanner with cursor := scanner.cursor.skip count }

def allowKey (scanner : Scanner) (allowed : Bool) : Scanner :=
  { scanner with keyAllowed := allowed }

/-! Indentation. -/

/-- Opens a block at a column behind the first tokens, unless one is open there. -/
def openBlock (scanner : Scanner) (column number : Nat) (token : Token) : Scanner :=
  if scanner.inFlow || scanner.indents.head?.any (column ≤ ·) then scanner
  else { scanner.insert number token with indents := column :: scanner.indents }

def close (scanner : Scanner) (closed : Nat → Bool) : Scanner :=
  if scanner.inFlow then scanner
  else
    let count := (scanner.indents.takeWhile closed).length
    { scanner with
      indents := scanner.indents.drop count
      tokens := List.replicate count .blockEnd ++ scanner.tokens
      count := scanner.count + count }

/-! Possible keys. -/

def dropKey (scanner : Scanner) : Option Scanner :=
  if scanner.possible.any (·.required) then none else some { scanner with possible := none }

def noteKey (scanner : Scanner) : Option Scanner :=
  if scanner.keyAllowed then do
    let scanner ← scanner.dropKey
    let required := !scanner.inFlow && scanner.indents.head? = some scanner.cursor.column
    return { scanner with
      possible := some ⟨required, scanner.count, scanner.cursor.index, scanner.cursor.line,
        scanner.cursor.column⟩ }
  else some scanner

/-- Gives up a possible key that started on another line or too far back. -/
def expireKey (cursor : Cursor) : Option PossibleKey → Option (Option PossibleKey)
  | none => some none
  | some key =>
    if key.line < cursor.line || key.index + keyReach < cursor.index then
      (if key.required then none else some none)
    else some (some key)

def expireKeys (scanner : Scanner) : Option Scanner := do
  let possible ← expireKey scanner.cursor scanner.possible
  let outer ← scanner.outer.mapM (expireKey scanner.cursor)
  return { scanner with possible, outer }

/-! Between tokens. -/

/-- Skips white space, comments, and marks of the byte order. A tab may not stand where a key may
start in a block, and a line break in a block allows a key. -/
def skipGap : List Char → Scanner → Scanner
  | [], scanner => scanner
  | _ :: fuel, scanner =>
    let isSkipped (c : Char) : Bool :=
      c = ' ' || (c = '\t' && (scanner.inFlow || !scanner.keyAllowed))
    let cursor := scanner.cursor.skipByteOrderMark.skipWhile isSkipped
    let cursor := if cursor.head? = some '#' then cursor.skipWhile (!isBreak ·) else cursor
    match cursor.takeBreak? with
    | some (_, next) =>
      skipGap fuel { scanner with cursor := next, keyAllowed := scanner.keyAllowed || !scanner.inFlow }
    | none => { scanner with cursor }

/-! Directives and marks of documents. -/

def versionPart (cursor : Cursor) : Option (Nat × Cursor) := do
  let (digits, cursor) := cursor.takeWhile Char.isDigit
  if digits.length > 9 then none
  return (← numeral? 10 digits, cursor)

def versionDirective (cursor : Cursor) : Option (Token × Cursor) := do
  let (major, cursor) ← versionPart (cursor.skipWhile isSpace)
  if cursor.head? ≠ some '.' then none
  let (minor, cursor) ← versionPart (cursor.skip 1)
  return (.version major minor, cursor)

def tagDirective (cursor : Cursor) : Option (Token × Cursor) := do
  let (handle, cursor) ← Yaml.tagHandle (cursor.skipWhile isSpace)
  if handle.length > 1 ∧ handle.getLast? ≠ some '!' then none
  if !cursor.head?.any isSpace then none
  let (chars, cursor) := (cursor.skipWhile isSpace).takeWhile (isTagChar true)
  if chars.isEmpty || !startsGap cursor.rest then none
  return (.tagHandle (String.ofList handle) (← tagText chars), cursor)

def directive (cursor : Cursor) : Option (Token × Cursor) := do
  let (name, cursor) := (cursor.skip 1).takeWhile isWordChar
  if !startsGap cursor.rest then none
  let (token, cursor) ←
    if name = "YAML".toList then versionDirective cursor
    else if name = "TAG".toList then tagDirective cursor
    else none
  let cursor := cursor.skipLineTail
  if cursor.rest.isEmpty then return (token, cursor)
  let (_, cursor) ← cursor.takeBreak?
  return (token, cursor)

/-- Ends all that is open before a directive, a mark of a document or the end of the text. -/
def endAll (scanner : Scanner) : Option Scanner := do
  return (← (scanner.close fun _ => true).dropKey).allowKey false

def documentMark (scanner : Scanner) (token : Token) : Option Scanner := do
  return ((← scanner.endAll).emit token).skip 3

/-! Collections. -/

def openFlow (scanner : Scanner) (token : Token) : Option Scanner := do
  let scanner ← scanner.noteKey
  let inner := { scanner with possible := none, outer := scanner.possible :: scanner.outer }
  return ((inner.allowKey true).emit token).skip 1

def closeFlow (scanner : Scanner) (token : Token) : Option Scanner := do
  let scanner ← scanner.dropKey
  let around := match scanner.outer with
    | possible :: outer => { scanner with possible, outer }
    | [] => scanner
  return ((around.allowKey false).emit token).skip 1

def flowEntry (scanner : Scanner) : Option Scanner := do
  return (((← scanner.dropKey).allowKey true).emit .flowEntry).skip 1

def blockEntry (scanner : Scanner) : Option Scanner := do
  if !scanner.inFlow && !scanner.keyAllowed then none
  let opened := scanner.openBlock scanner.cursor.column scanner.count .blockSequence
  return (((← opened.dropKey).allowKey true).emit .blockEntry).skip 1

def keyMark (scanner : Scanner) : Option Scanner := do
  if !scanner.inFlow && !scanner.keyAllowed then none
  let opened := scanner.openBlock scanner.cursor.column scanner.count .blockMapping
  return (((← opened.dropKey).allowKey !scanner.inFlow).emit .key).skip 1

/-- A colon behind a key. What may be a key becomes one, and the first key of a block mapping opens
it. Otherwise the key is one of another form, which may be missing. -/
def valueMark (scanner : Scanner) : Option Scanner :=
  match scanner.possible with
  | some key =>
    let opened := (scanner.insert key.number .key).openBlock key.column key.number .blockMapping
    some ((({ opened with possible := none }.allowKey false).emit .value).skip 1)
  | none =>
    if !scanner.inFlow && !scanner.keyAllowed then none
    else
      let opened := scanner.openBlock scanner.cursor.column scanner.count .blockMapping
      some (((opened.allowKey !scanner.inFlow).emit .value).skip 1)

/-! Scalars, anchors and tags. -/

def leaf (scanner : Scanner) (read : Cursor → Option (Token × Cursor)) : Option Scanner := do
  let scanner ← scanner.noteKey
  let (token, cursor) ← read scanner.cursor
  return { (scanner.allowKey false).emit token with cursor }

def anchor (scanner : Scanner) : Option Scanner := do
  let scanner ← scanner.noteKey
  let (found, cursor) ← name (scanner.cursor.skip 1)
  let number := scanner.names.length
  return { (scanner.allowKey false).emit (.anchor number) with
    cursor, names := put found number scanner.names }

def reference (scanner : Scanner) : Option Scanner :=
  scanner.leaf fun cursor => do
    let (found, cursor) ← name (cursor.skip 1)
    return (.reference (← scanner.names.lookup found), cursor)

def plainScalar (scanner : Scanner) : Option Scanner := do
  let scanner ← scanner.noteKey
  let found ← plain scanner.inFlow scanner.innerColumn scanner.cursor
  return { (scanner.allowKey found.broken).emit (.scalar true (String.ofList found.text)) with
    cursor := found.cursor }

def quotedScalar (scanner : Scanner) (single : Bool) : Option Scanner :=
  scanner.leaf fun cursor => (quoted single (cursor.skip 1)).map fun (text, cursor) =>
    (.scalar false (String.ofList text), cursor)

def blockScalar (scanner : Scanner) (folds : Bool) : Option Scanner := do
  let scanner ← scanner.dropKey
  let (text, cursor) ← block folds scanner.indents.head? (scanner.cursor.skip 1)
  return { (scanner.allowKey true).emit (.scalar false (String.ofList text)) with cursor }

def marks : List Char := "-?:,[]\x7b\x7d#&*!|>\x27\x22%@\x60".toList

/-- Whether a plain scalar starts with a character, from what follows it. Some marks start one if
no gap follows. -/
def startsPlain (inFlow : Bool) (c : Char) (rest : List Char) : Bool :=
  (!isGap c && !marks.contains c) || (c = '-' && !rest.head?.any isSpace) ||
    (!inFlow && (c = '?' || c = ':') && !startsGap rest)

def next (scanner : Scanner) (c : Char) (rest : List Char) : Option Scanner :=
  let marksEntry := scanner.inFlow || startsGap rest
  if scanner.cursor.column = 0 && c = '%' then do
    let scanner ← scanner.endAll
    let (token, cursor) ← directive scanner.cursor
    return { scanner.emit token with cursor }
  else if scanner.cursor.atMarker '-' then scanner.documentMark .documentStart
  else if scanner.cursor.atMarker '.' then scanner.documentMark .documentEnd
  else if c = '[' then scanner.openFlow .flowSequence
  else if c = '\x7b' then scanner.openFlow .flowMapping
  else if c = ']' then scanner.closeFlow .flowSequenceEnd
  else if c = '\x7d' then scanner.closeFlow .flowMappingEnd
  else if c = ',' then scanner.flowEntry
  else if c = '-' && startsGap rest then scanner.blockEntry
  else if c = '?' && marksEntry then scanner.keyMark
  else if c = ':' && marksEntry then scanner.valueMark
  else if c = '*' then scanner.reference
  else if c = '&' then scanner.anchor
  else if c = '!' then
    scanner.leaf fun cursor =>
      (Yaml.tag scanner.inFlow cursor).map fun (found, cursor) => (.tag found, cursor)
  else if c = '|' && !scanner.inFlow then scanner.blockScalar false
  else if c = '>' && !scanner.inFlow then scanner.blockScalar true
  else if c = '\x27' then scanner.quotedScalar true
  else if c = '\x22' then scanner.quotedScalar false
  else if startsPlain scanner.inFlow c rest then scanner.plainScalar
  else none

/-- The tokens from a state to the end of the text. Every token takes a character. -/
def run : Nat → Scanner → Option (List Token)
  | 0, _ => none
  | fuel + 1, scanner => do
    let scanner ← (skipGap scanner.cursor.rest scanner).expireKeys
    let scanner := scanner.close (scanner.cursor.column < ·)
    match scanner.cursor.rest with
    | [] => return (← scanner.endAll).tokens.reverse
    | c :: rest => run fuel (← scanner.next c rest)

end Scanner

def tokens? (text : List Char) : Option (List Token) :=
  if text.all isAllowed then Scanner.run (text.length + 1) (Scanner.start text) else none

end Stencil.Document.Yaml
