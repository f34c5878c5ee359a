import Stencil.Expr.Basic
import Stencil.Expr.Lexer

/-! Parsing of expressions, statements and loop headers by recursive descent.

Every level of the grammar is a function of the parser for nested expressions, which is the same
grammar with less fuel. The fuel is the list of tokens itself, one token for every level: whatever
is nested stands behind at least one token, so that fuel runs out only where the tokens have run
out too, and there the answer is the right one. Loops over operators and items are bounded in the
same way. -/
namespace Stencil

/-- What was wanted and the tokens from there on. -/
structure Failure where
  fault : SyntaxFault
  rest : Tokens

abbrev Parser (α : Type) := Tokens → Except Failure (α × Tokens)

def headToken? (tokens : Tokens) : Option Token := tokens.head?.map (·.token)

def unexpected {α : Type} (wanted : Wanted) (tokens : Tokens) : Except Failure α :=
  .error ⟨.expected wanted (headToken? tokens), tokens⟩

def Token.isMark (wanted : Mark) : Token → Bool
  | .mark found => found = wanted
  | _ => false

def Token.isWord (wanted : String) : Token → Bool
  | .name found => found = wanted
  | _ => false

def behindMark? (mark : Mark) : Tokens → Option Tokens
  | [] => none
  | t :: rest => if t.token.isMark mark then some rest else none

def behindWord? (word : String) : Tokens → Option Tokens
  | [] => none
  | t :: rest => if t.token.isWord word then some rest else none

def expectMark (mark : Mark) (wanted : Wanted) (tokens : Tokens) : Except Failure Tokens :=
  match behindMark? mark tokens with
  | some rest => .ok rest
  | none => unexpected wanted tokens

/-- Whether an expression can start here, so that a comma before it separates items. -/
def startsExpression (tokens : Tokens) : Bool :=
  match headToken? tokens with
  | some (.int _) | some (.float _) | some (.str _) => true
  | some (.name name) => !isKeyword name || ["True", "False", "None", "not"].contains name
  | some (.mark mark) =>
    [Mark.leftParen, .leftBracket, .leftBrace, .minus, .plus].contains mark
  | _ => false

def leftChain (operand : Parser Expr) (operator? : Tokens → Option ((Expr → Expr → Expr) × Tokens)) :
    Tokens → Expr → Parser Expr
  | [], left, tokens => .ok (left, tokens)
  | _ :: fuel, left, tokens =>
    match operator? tokens with
    | none => .ok (left, tokens)
    | some (combine, rest) => do
      let (right, rest) ← operand rest
      leftChain operand operator? fuel (combine left right) rest

def chained (operand : Parser Expr)
    (operator? : Tokens → Option ((Expr → Expr → Expr) × Tokens)) : Parser Expr := fun tokens => do
  let (left, rest) ← operand tokens
  leftChain operand operator? rest left rest

def wordOperator? (word : String) (combine : Expr → Expr → Expr) (tokens : Tokens) :
    Option ((Expr → Expr → Expr) × Tokens) :=
  (behindWord? word tokens).map fun rest => (combine, rest)

def sumOperator? : Tokens → Option ((Expr → Expr → Expr) × Tokens)
  | ⟨.mark .plus, _⟩ :: rest => some (.binary .add, rest)
  | ⟨.mark .minus, _⟩ :: rest => some (.binary .subtract, rest)
  | _ => none

def productOperator? : Tokens → Option ((Expr → Expr → Expr) × Tokens)
  | ⟨.mark .star, _⟩ :: rest => some (.binary .multiply, rest)
  | ⟨.mark .slash, _⟩ :: rest => some (.binary .divide, rest)
  | ⟨.mark .doubleSlash, _⟩ :: rest => some (.binary .floorDivide, rest)
  | ⟨.mark .percent, _⟩ :: rest => some (.binary .remainder, rest)
  | _ => none

def compareOperator? (tokens : Tokens) : Option (CompareOp × Tokens) :=
  match tokens with
  | ⟨.mark .equal, _⟩ :: rest => some (.equal, rest)
  | ⟨.mark .notEqual, _⟩ :: rest => some (.notEqual, rest)
  | ⟨.mark .less, _⟩ :: rest => some (.less, rest)
  | ⟨.mark .lessEqual, _⟩ :: rest => some (.lessEqual, rest)
  | ⟨.mark .greater, _⟩ :: rest => some (.greater, rest)
  | ⟨.mark .greaterEqual, _⟩ :: rest => some (.greaterEqual, rest)
  | ⟨.name word, _⟩ :: rest =>
    if word = "in" then some (.isIn, rest)
    else if word = "is" then
      match behindWord? "not" rest with
      | some rest => some (.isNot, rest)
      | none => some (.is, rest)
    else if word = "not" then (behindWord? "in" rest).map fun rest => (.notIn, rest)
    else none
  | _ => none

/-- Items up to and with a closing mark. A comma may stand behind the last one. -/
def sequence {α : Type} (item : Parser α) (close : Mark) (wanted : Wanted) :
    Tokens → Parser (List α)
  | [], tokens => unexpected wanted tokens
  | _ :: fuel, tokens =>
    match behindMark? close tokens with
    | some rest => .ok ([], rest)
    | none => do
      let (first, rest) ← item tokens
      match behindMark? .comma rest with
      | none =>
        let rest ← expectMark close .commaOrBracket rest
        return ([first], rest)
      | some rest =>
        let (items, rest) ← sequence item close wanted fuel rest
        return (first :: items, rest)

def dictEntries (nested : Parser Expr) : Tokens → Parser (List (Expr × Expr))
  | [], tokens => unexpected .expression tokens
  | _ :: fuel, tokens =>
    match behindMark? .rightBrace tokens with
    | some rest => .ok ([], rest)
    | none => do
      let (key, rest) ← nested tokens
      let rest ← expectMark .colon .colon rest
      let (value, rest) ← nested rest
      match behindMark? .comma rest with
      | none =>
        let rest ← expectMark .rightBrace .commaOrBrace rest
        return ([(key, value)], rest)
      | some rest =>
        let (entries, rest) ← dictEntries nested fuel rest
        return ((key, value) :: entries, rest)

def listTail (nested : Parser Expr) : Tokens → Parser (List Expr)
  | [], tokens => .ok ([], tokens)
  | _ :: fuel, tokens =>
    match behindMark? .comma tokens with
    | none => .ok ([], tokens)
    | some rest =>
      if startsExpression rest then do
        let (item, rest) ← nested rest
        let (items, rest) ← listTail nested fuel rest
        return (item :: items, rest)
      else .ok ([], rest)

def expressionList (nested : Parser Expr) : Parser Expr := fun tokens => do
  let (first, rest) ← nested tokens
  match behindMark? .comma rest with
  | none => return (first, rest)
  | some _ =>
    let (items, rest) ← listTail nested rest rest
    return (.tuple (first :: items), rest)

def adjacentStrings (text : String) : Tokens → String × Tokens
  | ⟨.str next, _⟩ :: rest => adjacentStrings (text ++ next) rest
  | tokens => (text, tokens)

def parenthesized (nested : Parser Expr) : Parser Expr := fun tokens =>
  match behindMark? .rightParen tokens with
  | some rest => .ok (.tuple [], rest)
  | none => do
    let (first, rest) ← nested tokens
    match behindMark? .rightParen rest with
    | some rest => return (first, rest)
    | none =>
      let rest ← expectMark .comma .commaOrParen rest
      let (items, rest) ← sequence nested .rightParen .expression rest rest
      return (.tuple (first :: items), rest)

def primary (nested : Parser Expr) : Parser Expr := fun tokens =>
  match tokens with
  | ⟨.int n, _⟩ :: rest => .ok (.literal (.int n), rest)
  | ⟨.float x, _⟩ :: rest => .ok (.literal (.float x), rest)
  | ⟨.str text, _⟩ :: rest =>
    let (text, rest) := adjacentStrings text rest
    .ok (.literal (.str text), rest)
  | ⟨.name name, _⟩ :: rest =>
    if name = "True" then .ok (.literal (.bool true), rest)
    else if name = "False" then .ok (.literal (.bool false), rest)
    else if name = "None" then .ok (.literal .null, rest)
    else if isKeyword name then unexpected .expression tokens
    else .ok (.name name, rest)
  | ⟨.mark .leftParen, _⟩ :: rest => parenthesized nested rest
  | ⟨.mark .leftBracket, _⟩ :: rest => do
    let (items, rest) ← sequence nested .rightBracket .expression rest rest
    return (.list items, rest)
  | ⟨.mark .leftBrace, _⟩ :: rest => do
    let (entries, rest) ← dictEntries nested rest rest
    return (.dict entries, rest)
  | _ => unexpected .expression tokens

def sliceUpper (nested : Parser Expr) (value : Expr) (lower : Option Expr) : Parser Expr :=
  fun tokens =>
    match behindMark? .rightBracket tokens with
    | some rest => .ok (.slice value lower none, rest)
    | none => do
      let (upper, rest) ← nested tokens
      let rest ← expectMark .rightBracket .rightBracket rest
      return (.slice value lower (some upper), rest)

def subscript (nested : Parser Expr) (value : Expr) : Parser Expr := fun tokens =>
  match behindMark? .colon tokens with
  | some rest => sliceUpper nested value none rest
  | none => do
    let (lower, rest) ← expressionList nested tokens
    match behindMark? .colon rest with
    | some rest => sliceUpper nested value (some lower) rest
    | none =>
      let rest ← expectMark .rightBracket .rightBracket rest
      return (.index value lower, rest)

def attributeName : Parser String := fun tokens =>
  match tokens with
  | ⟨.name name, _⟩ :: rest => .ok (name, rest)
  | _ => unexpected .attributeName tokens

/-- One attribute, call or subscript behind an operand, if there is any. -/
def trailer? (nested : Parser Expr) (value : Expr) : Tokens → Option (Except Failure (Expr × Tokens))
  | ⟨.mark .dot, _⟩ :: rest => some do
    let (name, rest) ← attributeName rest
    return (.attribute value name, rest)
  | ⟨.mark .leftParen, _⟩ :: rest => some do
    let (arguments, rest) ← sequence nested .rightParen .expression rest rest
    return (.call value arguments, rest)
  | ⟨.mark .leftBracket, _⟩ :: rest => some (subscript nested value rest)
  | _ => none

def trailers (nested : Parser Expr) : Tokens → Expr → Parser Expr
  | [], value, tokens => .ok (value, tokens)
  | _ :: fuel, value, tokens =>
    match trailer? nested value tokens with
    | none => .ok (value, tokens)
    | some step => do
      let (value, rest) ← step
      trailers nested fuel value rest

def operand (nested : Parser Expr) : Parser Expr := fun tokens => do
  let (value, rest) ← primary nested tokens
  trailers nested rest value rest

def unary (nested : Parser Expr) : Parser Expr
  | [] => operand nested []
  | t :: rest =>
    match t.token with
    | .mark .minus => do
      let (value, rest) ← unary nested rest
      return (.unary .negate value, rest)
    | .mark .plus => do
      let (value, rest) ← unary nested rest
      return (.unary .plus value, rest)
    | _ => operand nested (t :: rest)

def product (nested : Parser Expr) : Parser Expr := chained (unary nested) productOperator?

def sum (nested : Parser Expr) : Parser Expr := chained (product nested) sumOperator?

def comparisonTail (nested : Parser Expr) : Tokens → Parser (List (CompareOp × Expr))
  | [], tokens => .ok ([], tokens)
  | _ :: fuel, tokens =>
    match compareOperator? tokens with
    | none => .ok ([], tokens)
    | some (op, rest) => do
      let (right, rest) ← sum nested rest
      let (links, rest) ← comparisonTail nested fuel rest
      return ((op, right) :: links, rest)

def comparison (nested : Parser Expr) : Parser Expr := fun tokens => do
  let (first, rest) ← sum nested tokens
  let (links, rest) ← comparisonTail nested rest rest
  return (if links.isEmpty then first else .compare first links, rest)

def negation (nested : Parser Expr) : Parser Expr
  | [] => comparison nested []
  | t :: rest =>
    if t.token.isWord "not" then do
      let (value, rest) ← negation nested rest
      return (.not value, rest)
    else comparison nested (t :: rest)

def conjunction (nested : Parser Expr) : Parser Expr :=
  chained (negation nested) (wordOperator? "and" .and)

def disjunction (nested : Parser Expr) : Parser Expr :=
  chained (conjunction nested) (wordOperator? "or" .or)

def conditional (nested : Parser Expr) : Parser Expr := fun tokens => do
  let (value, rest) ← disjunction nested tokens
  match behindWord? "if" rest with
  | none => return (value, rest)
  | some rest =>
    let (condition, rest) ← disjunction nested rest
    match behindWord? "else" rest with
    | none => unexpected .elseWord rest
    | some rest =>
      let (otherwise, rest) ← nested rest
      return (.conditional condition value otherwise, rest)

def expression : Tokens → Parser Expr
  | [] => unexpected .expression
  | _ :: fuel => conditional (expression fuel)

def parseList : Parser Expr := fun tokens => expressionList (expression tokens) tokens

def target : Tokens → Parser Target
  | [], tokens => unexpected .name tokens
  | _ :: fuel, tokens =>
    match tokens with
    | ⟨.name name, _⟩ :: rest =>
      if isKeyword name then unexpected .name tokens else .ok (.name name, rest)
    | ⟨.mark .leftParen, _⟩ :: rest => do
      let (items, rest) ← sequence (target fuel) .rightParen .name rest rest
      return (.tuple items, rest)
    | ⟨.mark .leftBracket, _⟩ :: rest => do
      let (items, rest) ← sequence (target fuel) .rightBracket .name rest rest
      return (.tuple items, rest)
    | _ => unexpected .name tokens

def targetTail (item : Parser Target) : Tokens → Parser (List Target)
  | [], tokens => .ok ([], tokens)
  | _ :: fuel, tokens =>
    match behindMark? .comma tokens with
    | none => .ok ([], tokens)
    | some rest =>
      match behindWord? "in" rest with
      | some _ => .ok ([], rest)
      | none => do
        let (first, rest) ← item rest
        let (items, rest) ← targetTail item fuel rest
        return (first :: items, rest)

/-- The binding of a loop: a name, or names and nested bindings between commas. -/
def targetList : Parser Target := fun tokens => do
  let (first, rest) ← target tokens tokens
  match behindMark? .comma rest with
  | none => return (first, rest)
  | some _ =>
    let (items, rest) ← targetTail (target tokens) rest rest
    return (.tuple (first :: items), rest)

mutual
def Expr.toTarget? : Expr → Option Target
  | .name bound => some (.name bound)
  | .tuple items => (Expr.toTargets? items).map .tuple
  | .list items => (Expr.toTargets? items).map .tuple
  | _ => none

def Expr.toTargets? : List Expr → Option (List Target)
  | [] => some []
  | item :: rest => do
    let first ← item.toTarget?
    let others ← Expr.toTargets? rest
    return first :: others
end

def assignOperator? : Tokens → Option (Option BinaryOp × Tokens)
  | ⟨.mark .assign, _⟩ :: rest => some (none, rest)
  | ⟨.mark .plusAssign, _⟩ :: rest => some (some .add, rest)
  | ⟨.mark .minusAssign, _⟩ :: rest => some (some .subtract, rest)
  | ⟨.mark .starAssign, _⟩ :: rest => some (some .multiply, rest)
  | _ => none

def assignment (start : Tokens) (left : Expr) (op : Option BinaryOp) (value : Expr) :
    Except Failure Stmt :=
  match op with
  | none =>
    match left.toTarget? with
    | some target => .ok (.assign target value)
    | none => .error ⟨.notAssignable, start⟩
  | some op =>
    match left with
    | .name name => .ok (.augment name op value)
    | _ => .error ⟨.augmentNeedsName, start⟩

def statement : Parser Stmt := fun tokens =>
  match behindWord? "pass" tokens with
  | some rest => .ok (.pass, rest)
  | none => do
    let (left, rest) ← parseList tokens
    match assignOperator? rest with
    | none => return (.expr left, rest)
    | some (op, rest) =>
      let (value, rest) ← parseList rest
      return (← assignment tokens left op value, rest)

def Token.isSeparator : Token → Bool
  | .newline => true
  | .mark .semicolon => true
  | _ => false

def statements : Tokens → Tokens → Except Failure (List Stmt)
  | [], _ => .ok []
  | _ :: _, [] => .ok []
  | _ :: fuel, t :: rest =>
    if t.token.isSeparator then statements fuel rest
    else do
      let (first, rest) ← statement (t :: rest)
      if (headToken? rest).all Token.isSeparator then
        return first :: (← statements fuel rest)
      else unexpected .endOfStatement rest

def expectEnd (tokens : Tokens) : Except Failure Unit :=
  if tokens.isEmpty then .ok () else unexpected .endOfExpression tokens

/-- The place of a failure is the token where it came up, or the end of the text. -/
def Failure.located (text : List Char) (failure : Failure) : SyntaxError :=
  match failure.rest with
  | [] => ⟨Text.byteLength text, failure.fault⟩
  | t :: _ => ⟨t.position, failure.fault⟩

def parseWith {α : Type} (newlines : Bool) (parser : Tokens → Except Failure α) (text : List Char) :
    Except SyntaxError α := do
  let tokens ← tokens newlines text
  match parser tokens with
  | .ok result => return result
  | .error failure => throw (failure.located text)

def parseExpression (text : List Char) : Except SyntaxError Expr :=
  parseWith false (fun tokens => do
    let (value, rest) ← parseList tokens
    expectEnd rest
    return value) text

def parseStatements (text : List Char) : Except SyntaxError (List Stmt) :=
  parseWith true (fun tokens => statements tokens tokens) text

def parseForHeader (text : List Char) : Except SyntaxError ForHeader :=
  parseWith false (fun tokens => do
    let (target, rest) ← targetList tokens
    match behindWord? "in" rest with
    | none => unexpected .inWord rest
    | some rest =>
      let (iterable, rest) ← parseList rest
      expectEnd rest
      return ⟨target, iterable⟩) text

end Stencil
