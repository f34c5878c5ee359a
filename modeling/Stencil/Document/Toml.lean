import Stencil.Document.Toml.Scalar
import Stencil.Document.Toml.Table

/-! Values from TOML text. The entries keep the order in which the document gives them. -/
namespace Stencil.Document.Toml

/-- The items of an array behind its opening bracket or a comma. A comma may stand before the
closing bracket. -/
def items (value : Reader Value) : List Char → Reader (List Value)
  | [], _ => none
  | _ :: fuel, text => do
    let text ← skipLines text text
    match text with
    | ']' :: rest => return ([], rest)
    | _ =>
      let (item, rest) ← value text
      match ← skipLines rest rest with
      | ',' :: rest =>
        let (others, rest) ← items value fuel rest
        return (item :: others, rest)
      | ']' :: rest => return ([item], rest)
      | _ => none

def pair (value : Reader Value) : Reader (List String × Value) := fun text => do
  let (path, rest) ← key text
  let (item, rest) ← value (skipSpace (← literally ['='] rest))
  return ((path, item), skipSpace rest)

def pairs (value : Reader Value) : List Char → Reader (List (List String × Value))
  | [], _ => none
  | _ :: fuel, text => do
    let (first, rest) ← pair value text
    match rest with
    | ',' :: rest =>
      let (others, rest) ← pairs value fuel rest
      return (first :: others, rest)
    | '\x7d' :: rest => return ([first], rest)
    | _ => none

def inline (value : Reader Value) : Reader Value := fun text =>
  match skipSpace text with
  | '\x7d' :: rest => some (.map [], rest)
  | _ => do
    let (found, rest) ← pairs value text text
    return (← inlineTable found, rest)

def word (text : List Char) : Option (Value × List Char) :=
  match literally "true".toList text with
  | some rest => some (.bool true, rest)
  | none => (literally "false".toList text).map (.bool false, ·)

def valueWithin : Nat → Reader Value
  | _, [] => none
  | depth, c :: rest =>
    if c = quote || c = apostrophe then
      (string (c :: rest)).map fun (content, rest) => (.str content, rest)
    else if c = '[' then
      match depth with
      | 0 => none
      | depth + 1 => (items (valueWithin depth) rest rest).map fun (items, rest) =>
          (.list items, rest)
    else if c = '\x7b' then
      match depth with
      | 0 => none
      | depth + 1 => inline (valueWithin depth) rest
    else if c = 't' || c = 'f' then word (c :: rest)
    else number (c :: rest)

def value : Reader Value := valueWithin (depthLimit - 1)

def closeLine (text : List Char) : Option (List Char) := lineEnd? (skipComment (skipSpace text))

def headerLine (text : List Char) : Option (Line × List Char) :=
  match literally ['[', '['] text with
  | some rest => do
    let (path, rest) ← key rest
    return (.arrayHeader path, ← closeLine (← literally [']', ']'] rest))
  | none => do
    let (path, rest) ← key (← literally ['['] text)
    return (.header path, ← closeLine (← literally [']'] rest))

def pairLine (text : List Char) : Option (Line × List Char) := do
  let ((path, item), rest) ← pair value text
  return (.pair path item, ← closeLine rest)

def lines : Nat → List Char → Option (List Line)
  | 0, _ => none
  | fuel + 1, text =>
    match skipSpace text with
    | [] => some []
    | '#' :: rest => do lines fuel (← lineEnd? (rest.dropWhile isPlain))
    | '[' :: rest => do
      let (line, rest) ← headerLine ('[' :: rest)
      return line :: (← lines fuel rest)
    | text =>
      match newline? text with
      | some rest => lines fuel rest
      | none => do
        let (line, rest) ← pairLine text
        return line :: (← lines fuel rest)

/-- A mark of the byte order at the start of a text, which is no part of the document. -/
def withoutMark (text : List Char) : List Char :=
  match text with
  | c :: rest => if c.toNat = 0xFEFF then rest else text
  | [] => []

def parse? (text : List Char) : Option Entries := do
  documentEntries (← lines (text.length + 1) (withoutMark text))

end Stencil.Document.Toml
