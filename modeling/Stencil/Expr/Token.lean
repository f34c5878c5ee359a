import Stencil.Decimal.Shortest
import Stencil.Text.Quoted
import Stencil.Value.Text

/-! Tokens of expression source, and the errors of reading and parsing it. -/
namespace Stencil

inductive Mark where
  | leftParen | rightParen | leftBracket | rightBracket | leftBrace | rightBrace
  | comma | colon | semicolon | dot
  | plus | minus | star | slash | doubleSlash | percent
  | assign | plusAssign | minusAssign | starAssign
  | equal | notEqual | less | lessEqual | greater | greaterEqual
deriving DecidableEq, Repr

def Mark.name : Mark → String
  | .leftParen => "LeftParen"
  | .rightParen => "RightParen"
  | .leftBracket => "LeftBracket"
  | .rightBracket => "RightBracket"
  | .leftBrace => "LeftBrace"
  | .rightBrace => "RightBrace"
  | .comma => "Comma"
  | .colon => "Colon"
  | .semicolon => "Semicolon"
  | .dot => "Dot"
  | .plus => "Plus"
  | .minus => "Minus"
  | .star => "Star"
  | .slash => "Slash"
  | .doubleSlash => "DoubleSlash"
  | .percent => "Percent"
  | .assign => "Assign"
  | .plusAssign => "PlusAssign"
  | .minusAssign => "MinusAssign"
  | .starAssign => "StarAssign"
  | .equal => "Equal"
  | .notEqual => "NotEqual"
  | .less => "Less"
  | .lessEqual => "LessEqual"
  | .greater => "Greater"
  | .greaterEqual => "GreaterEqual"

inductive Token where
  | name (name : String)
  | int (n : Int64)
  | float (x : Float)
  | str (text : String)
  | mark (mark : Mark)
  | newline

/-- A token with the byte offset where it starts. -/
structure Spanned where
  token : Token
  position : Nat

abbrev Tokens := List Spanned

def keywords : List String :=
  ["and", "as", "assert", "break", "class", "continue", "def", "del", "elif", "else", "for",
    "from", "global", "if", "import", "in", "is", "lambda", "not", "or", "pass", "return", "while",
    "with", "yield", "True", "False", "None"]

def isKeyword (name : String) : Bool := keywords.contains name

def isWordStart (c : Char) : Bool := c.isAlpha || c = '_'

def isWordChar (c : Char) : Bool := c.isAlphanum || c = '_'

/-- Names that can be bound: ASCII words that do not start with a digit and are not keywords. -/
def isIdentifier (name : String) : Bool :=
  match name.toList with
  | [] => false
  | c :: rest => isWordStart c && rest.all isWordChar && !isKeyword name

/-- What a parser asked for. -/
inductive Wanted where
  | expression | endOfExpression | endOfStatement | attributeName | name
  | inWord | elseWord | colon | rightBracket | commaOrParen | commaOrBracket | commaOrBrace
deriving DecidableEq, Repr

def Wanted.text : Wanted → String
  | .expression => "an expression"
  | .endOfExpression => "end of expression"
  | .endOfStatement => "end of statement"
  | .attributeName => "an attribute name"
  | .name => "a name"
  | .inWord => "'in'"
  | .elseWord => "'else'"
  | .colon => "':'"
  | .rightBracket => "']'"
  | .commaOrParen => "',' or ')'"
  | .commaOrBracket => "',' or a closing bracket"
  | .commaOrBrace => "',' or '\x7d'"

inductive SyntaxFault where
  | unexpectedCharacter (c : Char)
  | invalidNumber
  | integerTooLarge (digits : String)
  | unterminatedString
  | expected (wanted : Wanted) (found : Option Token)
  | notAssignable
  | augmentNeedsName

def Token.found : Option Token → String
  | some (.name word) => Text.quotedText word
  | some (.int n) => toString n.toInt
  | some (.float x) => String.ofList (Decimal.plainText x)
  | some (.str _) => "a string"
  | some (.mark found) => found.name
  | some .newline => "end of line"
  | none => "end of input"

def SyntaxFault.detail : SyntaxFault → String
  | .unexpectedCharacter c => s!"unexpected character: {Text.quotedChar c}"
  | .invalidNumber => "invalid numeric literal"
  | .integerTooLarge digits => s!"integer literal too large: {digits}"
  | .unterminatedString => "unterminated string literal"
  | .expected wanted found => s!"expected {wanted.text}, found {Token.found found}"
  | .notAssignable => "cannot assign to expression"
  | .augmentNeedsName => "augmented assignment requires a name"

/-- A fault at a byte offset of expression source. -/
structure SyntaxError where
  position : Nat
  fault : SyntaxFault

def SyntaxError.message (e : SyntaxError) : String := s!"{e.fault.detail} (at offset {e.position})"

end Stencil
