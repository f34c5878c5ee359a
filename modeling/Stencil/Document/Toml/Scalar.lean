import Stencil.Document.Toml.Date
import Stencil.Value.Basic

/-! Keys, strings and numbers of TOML, and the white space between them. -/
namespace Stencil.Document.Toml

def isSpace (c : Char) : Bool := c = ' ' || c = '\t'

def skipSpace (text : List Char) : List Char := text.dropWhile isSpace

/-- Characters that may stand in comments and, but for the delimiters, in strings. -/
def isPlain (c : Char) : Bool := c = '\t' || (0x20 ≤ c.toNat && c.toNat ≠ 0x7F)

def newline? : List Char → Option (List Char)
  | '\n' :: rest => some rest
  | '\r' :: '\n' :: rest => some rest
  | _ => none

def lineEnd? : List Char → Option (List Char)
  | [] => some []
  | text => newline? text

def skipComment : List Char → List Char
  | '#' :: rest => rest.dropWhile isPlain
  | text => text

/-- Blanks, comments and line ends. A comment has to be followed by a line end. -/
def skipLines : List Char → List Char → Option (List Char)
  | [], text => some text
  | _ :: fuel, text =>
    let text := skipSpace text
    match text with
    | '#' :: _ => (newline? (skipComment text)).bind (skipLines fuel)
    | _ =>
      match newline? text with
      | some rest => skipLines fuel rest
      | none => some text

/-! Strings. -/

def quote : Char := '\x22'

def apostrophe : Char := '\x27'

def backslash : Char := '\x5c'

def escaped? (c : Char) : Option Char :=
  if c = quote || c = backslash then some c
  else if c = 'b' then some '\x08'
  else if c = 'f' then some '\x0c'
  else if c = 'n' then some '\n'
  else if c = 'r' then some '\r'
  else if c = 't' then some '\t'
  else none

def codePoint (count : Nat) : Reader Char := fun text => do
  let (n, rest) ← hexNumber count text
  return (← scalar? n, rest)

def escape : Reader Char
  | 'u' :: rest => codePoint 4 rest
  | 'U' :: rest => codePoint 8 rest
  | c :: rest => (escaped? c).map fun c => (c, rest)
  | [] => none

def basicChar : Reader Char
  | [] => none
  | c :: rest =>
    if c = backslash then escape rest
    else if c = quote || !isPlain c then none
    else some (c, rest)

def literalChar : Reader Char
  | [] => none
  | c :: rest => if c = apostrophe || !isPlain c then none else some (c, rest)

def lineString (char : Reader Char) (delimiter : Char) : Reader String := fun text =>
  let (chars, rest) := many char text text
  (literally [delimiter] rest).map fun rest => (String.ofList chars, rest)

def skipFold : List Char → List Char → List Char
  | [], text => text
  | _ :: fuel, text =>
    let text := skipSpace text
    match newline? text with
    | some rest => skipFold fuel rest
    | none => text

/-- Delimiters in a row that are not enough to end a string of several lines: one or two that
something else follows. -/
def looseDelimiters (delimiter : Char) : Reader (List Char) := fun text =>
  let run := (text.takeWhile (· = delimiter)).length
  if run = 1 ∨ run = 2 then some (List.replicate run delimiter, text.drop run) else none

def foldedChar : Reader (List Char) := fun text => do
  let rest ← literally [backslash] text
  let rest ← newline? (skipSpace rest)
  return ([], skipFold rest rest)

def blockPart (char : Reader Char) (delimiter : Char) (folds : Bool) : Reader (List Char) := fun text =>
  match newline? text with
  | some rest => some (['\n'], rest)
  | none =>
    match (if folds then foldedChar text else none) with
    | some part => some part
    | none =>
      match char text with
      | some (c, rest) => some ([c], rest)
      | none => looseDelimiters delimiter text

/-- A string of several lines, behind its opening delimiters. A line end right behind them does not
count, and one or two delimiters may stand right before the closing ones. -/
def blockString (char : Reader Char) (delimiter : Char) (folds : Bool) : Reader String := fun text =>
  let text := (newline? text).getD text
  let (parts, rest) := many (blockPart char delimiter folds) text text
  let run := (rest.takeWhile (· = delimiter)).length
  let inside := min (run - 3) 2
  if run < 3 then none
  else some (String.ofList (parts.flatten ++ List.replicate inside delimiter), rest.drop (inside + 3))

def quotedKey : Reader String
  | c :: rest =>
    if c = quote then lineString basicChar quote rest
    else if c = apostrophe then lineString literalChar apostrophe rest
    else none
  | [] => none

def string : Reader String := fun text =>
  match literally (List.replicate 3 quote) text with
  | some rest => blockString basicChar quote true rest
  | none =>
    match literally (List.replicate 3 apostrophe) text with
    | some rest => blockString literalChar apostrophe false rest
    | none => quotedKey text

/-! Keys. -/

def isBareKey (c : Char) : Bool := c.isAlphanum || c = '_' || c = '-'

def simpleKey : Reader String := fun text =>
  match quotedKey text with
  | some key => some key
  | none =>
    let bare := text.takeWhile isBareKey
    if bare.isEmpty then none else some (String.ofList bare, text.drop bare.length)

def dottedKey : List Char → Reader (List String)
  | [], _ => none
  | _ :: fuel, text => do
    let (first, rest) ← simpleKey (skipSpace text)
    match skipSpace rest with
    | '.' :: rest =>
      let (others, rest) ← dottedKey fuel rest
      return (first :: others, rest)
    | rest => return ([first], rest)

def depthLimit : Nat := 80

/-- A key of parts with points between them, and the white space around it. -/
def key : Reader (List String) := fun text => do
  let (path, rest) ← dottedKey text text
  if path.length < depthLimit then some (path, rest) else none

/-! Numbers. -/

def groupedDigits (isDigit : Char → Bool) : List Char → Reader (List Char)
  | [], _ => none
  | _ :: fuel, text =>
    let run := text.takeWhile isDigit
    let rest := text.drop run.length
    if run.isEmpty then none
    else match rest with
      | '_' :: behind => do
        let (more, rest) ← groupedDigits isDigit fuel behind
        return (run ++ more, rest)
      | _ => some (run, rest)

def digitsOf (isDigit : Char → Bool) : Reader (List Char) := fun text =>
  groupedDigits isDigit text text

def sign (text : List Char) : List Char × List Char :=
  match text with
  | '+' :: rest => (['+'], rest)
  | '-' :: rest => (['-'], rest)
  | _ => ([], text)

/-- A whole number in decimal digits, with its sign. A leading zero stands alone. -/
def wholeText : Reader (List Char) := fun text =>
  let (sign, rest) := sign text
  match rest with
  | '0' :: rest => some (sign ++ ['0'], rest)
  | _ => (digitsOf Char.isDigit rest).map fun (digits, rest) => (sign ++ digits, rest)

def exponentText : Reader (List Char)
  | [] => none
  | c :: rest =>
    if c = 'e' || c = 'E' then
      let (sign, rest) := sign rest
      (digitsOf Char.isDigit rest).map fun (digits, rest) => ('e' :: sign ++ digits, rest)
    else none

def floatTail : Reader (List Char)
  | '.' :: rest => do
    let (digits, rest) ← digitsOf Char.isDigit rest
    match rest with
    | c :: _ =>
      if c = 'e' || c = 'E' then
        let (exponent, rest) ← exponentText rest
        return ('.' :: digits ++ exponent, rest)
      else return ('.' :: digits, rest)
    | [] => return ('.' :: digits, [])
  | text => exponentText text

def float : Reader Float := fun text => do
  let (whole, rest) ← wholeText text
  let (tail, rest) ← floatTail rest
  let x ← Decimal.readFloat Decimal.double (whole ++ tail)
  if x == Decimal.infinity false then none else some (x, rest)

def specialFloat : Reader Float := fun text =>
  let (sign, rest) := sign text
  match literally "inf".toList rest with
  | some rest => some (Decimal.infinity (sign = ['-']), rest)
  | none => (literally "nan".toList rest).map (Decimal.notANumber, ·)

def namedBase? : List Char → Option (Nat × List Char)
  | '0' :: 'x' :: rest => some (16, rest)
  | '0' :: 'o' :: rest => some (8, rest)
  | '0' :: 'b' :: rest => some (2, rest)
  | _ => none

def isDigitOf (base : Nat) (c : Char) : Bool := (hexValue? c).any (· < base)

def integer : Reader Value := fun text =>
  match namedBase? text with
  | some (base, rest) => do
    let (digits, rest) ← digitsOf (isDigitOf base) rest
    return (← Value.ofInt? (← numeral? base digits), rest)
  | none => do
    let (digits, rest) ← wholeText text
    return (← Value.ofInt? (← Decimal.readInt digits), rest)

/-- The key of the map that stands for a date or a time. -/
def momentKey : String := "$__toml_private_datetime"

def momentValue (moment : Moment) : Value := .map [(momentKey, .str moment.text)]

/-- The first reading that succeeds: a date or a time, a float or an integer. -/
def number : Reader Value := fun text =>
  match moment text with
  | some (moment, rest) => some (momentValue moment, rest)
  | none =>
    match (float text).orElse fun _ => specialFloat text with
    | some (x, rest) => some (.float x, rest)
    | none => integer text

end Stencil.Document.Toml
