import Stencil.Decimal.Read
import Stencil.Expr.Token
import Stencil.Text.Place

/-! Splitting expression source into tokens. Line breaks outside of brackets are tokens in
statements and layout elsewhere. -/
namespace Stencil

/-- What stands at the head of a text: a token, or layout, and how many characters it takes behind
the first one. -/
structure Lexeme where
  token : Option Token
  extra : Nat

abbrev Scan := Except (SyntaxFault × Nat) Lexeme

def layout (extra : Nat) : Scan := .ok ⟨none, extra⟩

def lexWord (text : List Char) : Scan :=
  let word := text.takeWhile isWordChar
  .ok ⟨some (.name (String.ofList word)), word.length - 1⟩

def fractionPart : List Char → List Char
  | '.' :: rest =>
    let digits := rest.takeWhile Char.isDigit
    if digits.isEmpty then [] else '.' :: digits
  | _ => []

def exponentSign : List Char → List Char
  | '+' :: _ => ['+']
  | '-' :: _ => ['-']
  | _ => []

/-- The letter of an exponent, an optional sign and at least one digit. -/
def exponentPart : List Char → List Char
  | [] => []
  | e :: rest =>
    if e = 'e' || e = 'E' then
      let sign := exponentSign rest
      let digits := (rest.drop sign.length).takeWhile Char.isDigit
      if digits.isEmpty then [] else e :: sign ++ digits
    else []

def intToken (digits : List Char) : Except (SyntaxFault × Nat) Token :=
  let n := Decimal.digitsValue digits
  if n ≤ Int64.maxValue.toInt.toNat then .ok (.int (Int64.ofNat n))
  else .error (.integerTooLarge (String.ofList digits), 0)

def lexNumber (text : List Char) : Scan :=
  let whole := text.takeWhile Char.isDigit
  let behindWhole := text.drop whole.length
  let fraction := fractionPart behindWhole
  let exponent := exponentPart (behindWhole.drop fraction.length)
  let number := whole ++ fraction ++ exponent
  if (text.drop number.length).head?.any (fun c => c.isAlpha || c = '_') then
    .error (.invalidNumber, number.length)
  else if fraction.isEmpty && exponent.isEmpty then do
    return ⟨some (← intToken whole), number.length - 1⟩
  else
    match Decimal.readFloat Decimal.double number with
    | some x => .ok ⟨some (.float x), number.length - 1⟩
    | none => .error (.invalidNumber, 0)

/-- What an escape stands for. An unknown escape stands for itself, and an escaped line break for
nothing. -/
def unescaped (c : Char) : List Char :=
  if c = 'n' then ['\n']
  else if c = 't' then ['\t']
  else if c = 'r' then ['\r']
  else if c = '0' then ['\x00']
  else if c = '\\' || c = '\x27' || c = '\x22' then [c]
  else if c = '\n' then []
  else ['\\', c]

/-- The content of a string literal up to its quote, and how many characters it takes with it. -/
def stringBody (quote : Char) : List Char → Option (List Char × Nat)
  | [] => none
  | c :: rest =>
    if c = quote then some ([], 1)
    else if c = '\n' then none
    else if c = '\\' then
      match rest with
      | [] => none
      | e :: rest => (stringBody quote rest).map fun (body, n) => (unescaped e ++ body, n + 2)
    else (stringBody quote rest).map fun (body, n) => (c :: body, n + 1)

def lexString (quote : Char) (rest : List Char) : Scan :=
  match stringBody quote rest with
  | some (body, n) => .ok ⟨some (.str (String.ofList body)), n⟩
  | none => .error (.unterminatedString, 0)

def singleMark? (c : Char) : Option Mark :=
  [('(', Mark.leftParen), (')', .rightParen), ('[', .leftBracket), (']', .rightBracket),
    ('{', .leftBrace), ('}', .rightBrace), (',', .comma), (':', .colon), (';', .semicolon),
    ('.', .dot), ('+', .plus), ('-', .minus), ('*', .star), ('/', .slash), ('%', .percent),
    ('=', .assign), ('<', .less), ('>', .greater)].lookup c

def doubleMark? (c next : Char) : Option Mark :=
  [(('/', '/'), Mark.doubleSlash), (('+', '='), .plusAssign), (('-', '='), .minusAssign),
    (('*', '='), .starAssign), (('=', '='), .equal), (('!', '='), .notEqual),
    (('<', '='), .lessEqual), (('>', '='), .greaterEqual)].lookup (c, next)

def lexMark (c : Char) (rest : List Char) : Scan :=
  match rest.head?.bind (doubleMark? c) with
  | some mark => .ok ⟨some (.mark mark), 1⟩
  | none =>
    match singleMark? c with
    | some mark => .ok ⟨some (.mark mark), 0⟩
    | none => .error (.unexpectedCharacter c, 0)

def lexeme (c : Char) (rest : List Char) : Scan :=
  if c = ' ' || c = '\t' || c = '\r' || c = '\x0c' then layout 0
  else if c = '\n' then .ok ⟨some .newline, 0⟩
  else if c = '\\' && rest.head? = some '\n' then layout 1
  else if c = '#' then layout (rest.takeWhile (· ≠ '\n')).length
  else if isWordStart c then lexWord (c :: rest)
  else if c.isDigit || (c = '.' && rest.head?.any Char.isDigit) then lexNumber (c :: rest)
  else if c = '\x27' || c = '\x22' then lexString c rest
  else lexMark c rest

def depthBehind (depth : Nat) : Token → Nat
  | .mark .leftParen | .mark .leftBracket | .mark .leftBrace => depth + 1
  | .mark .rightParen | .mark .rightBracket | .mark .rightBrace => depth - 1
  | _ => depth

/-- Whether a token counts: line breaks do in statements, outside of brackets. -/
def isKept (newlines : Bool) (depth : Nat) : Token → Bool
  | .newline => newlines && depth == 0
  | _ => true

/-- The tokens of a text that starts inside `depth` brackets, at the byte offset `position` once
the first `skip` characters, which belong to the token before, are passed over. -/
def tokensFrom (newlines : Bool) : Nat → Nat → Nat → List Char → Except SyntaxError Tokens
  | _, _, _, [] => .ok []
  | depth, position, skip + 1, _ :: rest => tokensFrom newlines depth position skip rest
  | depth, position, 0, c :: rest =>
    match lexeme c rest with
    | .error (fault, behind) => .error ⟨position + behind, fault⟩
    | .ok ⟨token?, extra⟩ =>
      let next := position + Text.byteLength (c :: rest.take extra)
      match token? with
      | none => tokensFrom newlines depth next extra rest
      | some token => do
        let tokens ← tokensFrom newlines (depthBehind depth token) next extra rest
        return if isKept newlines depth token then ⟨token, position⟩ :: tokens else tokens

def tokens (newlines : Bool) (text : List Char) : Except SyntaxError Tokens :=
  tokensFrom newlines 0 0 0 text

end Stencil
