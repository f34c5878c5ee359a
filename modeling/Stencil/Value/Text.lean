import Stencil.Value.Basic
import Stencil.Decimal.Shortest

/-! The text of a value: as written to the output, and quoted as inside a collection. -/
namespace Stencil

def literalQuote (text : List Char) : Char :=
  if text.contains '\x27' && !text.contains '\x22' then '\x22' else '\x27'

def literalChar (quote c : Char) : List Char :=
  if c = '\\' then ['\\', '\\']
  else if c = '\n' then ['\\', 'n']
  else if c = '\r' then ['\\', 'r']
  else if c = '\t' then ['\\', 't']
  else if c = quote then ['\\', c]
  else [c]

def literal (text : List Char) : List Char :=
  let quote := literalQuote text
  quote :: text.flatMap (literalChar quote) ++ [quote]

def intText (n : Int) : List Char :=
  if n < 0 then '-' :: Nat.toDigits 10 n.natAbs else Nat.toDigits 10 n.natAbs

def separated : List (List Char) → List Char
  | [] => []
  | [part] => part
  | part :: rest => part ++ ',' :: ' ' :: separated rest

mutual
def Value.quoted : Value → List Char
  | .null => "None".toList
  | .bool true => "True".toList
  | .bool false => "False".toList
  | .int n => intText n.toInt
  | .float x => Decimal.valueText x
  | .str text => literal text.toList
  | .list items => '[' :: separated (Value.quotedItems items) ++ [']']
  | .tuple [item] => '(' :: item.quoted ++ [',', ')']
  | .tuple items => '(' :: separated (Value.quotedItems items) ++ [')']
  | .map entries => '{' :: separated (Value.quotedEntries entries) ++ ['}']

def Value.quotedItems : List Value → List (List Char)
  | [] => []
  | item :: rest => item.quoted :: Value.quotedItems rest

def Value.quotedEntries : List (String × Value) → List (List Char)
  | [] => []
  | (key, value) :: rest =>
    (literal key.toList ++ ':' :: ' ' :: value.quoted) :: Value.quotedEntries rest
end

/-- The text of a value as written to the output: a string stands for itself. -/
def Value.text : Value → String
  | .str text => text
  | value => String.ofList value.quoted

end Stencil
