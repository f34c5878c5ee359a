import Stencil.Expr.Parser
import Stencil.Text.Search

/-! Expressions written as text, with parentheses only around what binds weaker than its place requires.
Main definitions: `Expr.print`, and `Printable` for the trees that a source can have. -/
namespace Stencil

def Mark.symbol : Mark → List Char
  | .leftParen => ['(']
  | .rightParen => [')']
  | .leftBracket => ['[']
  | .rightBracket => [']']
  | .leftBrace => ['\x7b']
  | .rightBrace => ['\x7d']
  | .comma => [',']
  | .colon => [':']
  | .semicolon => [';']
  | .dot => ['.']
  | .plus => ['+']
  | .minus => ['-']
  | .star => ['*']
  | .slash => ['/']
  | .doubleSlash => ['/', '/']
  | .percent => ['%']
  | .assign => ['=']
  | .plusAssign => ['+', '=']
  | .minusAssign => ['-', '=']
  | .starAssign => ['*', '=']
  | .equal => ['=', '=']
  | .notEqual => ['!', '=']
  | .less => ['<']
  | .lessEqual => ['<', '=']
  | .greater => ['>']
  | .greaterEqual => ['>', '=']

def Token.text : Token → List Char
  | .name word => word.toList
  | .int n => intText n.toInt
  | .float x => Decimal.plainText x
  | .str text => literal text.toList
  | .mark found => found.symbol
  | .newline => ['\n']

def UnaryOp.mark : UnaryOp → Mark
  | .negate => .minus
  | .plus => .plus

def BinaryOp.mark : BinaryOp → Mark
  | .add => .plus
  | .subtract => .minus
  | .multiply => .star
  | .divide => .slash
  | .floorDivide => .doubleSlash
  | .remainder => .percent

def BinaryOp.level : BinaryOp → Nat
  | .add | .subtract => 5
  | .multiply | .divide | .floorDivide | .remainder => 6

def CompareOp.tokens : CompareOp → List Token
  | .equal => [.mark .equal]
  | .notEqual => [.mark .notEqual]
  | .less => [.mark .less]
  | .lessEqual => [.mark .lessEqual]
  | .greater => [.mark .greater]
  | .greaterEqual => [.mark .greaterEqual]
  | .isIn => [.name "in"]
  | .notIn => [.name "not", .name "in"]
  | .is => [.name "is"]
  | .isNot => [.name "is", .name "not"]

/-- How tightly an expression holds together: conditional, or, and, not, comparison, sum, product, sign,
and whatever needs no parentheses. -/
def Expr.level : Expr → Nat
  | .conditional .. => 0
  | .or .. => 1
  | .and .. => 2
  | .not _ => 3
  | .compare .. => 4
  | .binary op .. => op.level
  | .unary .. => 7
  | _ => 8

def bracketed (opening closing : Mark) (inner : List Token) : List Token :=
  .mark opening :: inner ++ [.mark closing]

/-- Parentheses, if the place is for something that holds together more tightly. -/
def enclosed (level place : Nat) (bare : List Token) : List Token :=
  if level < place then bracketed .leftParen .rightParen bare else bare

def commaSeparated (items : List (List Token)) : List Token := [.mark .comma].intercalate items

/-- A comma tells a tuple of one item from an expression in parentheses. -/
def tupleTokens : List (List Token) → List Token
  | [item] => item ++ [.mark .comma]
  | items => commaSeparated items

def literalTokens : Value → List Token
  | .null => [.name "None"]
  | .bool true => [.name "True"]
  | .bool false => [.name "False"]
  | .int n => [.int n]
  | .float x => [.float x]
  | .str text => [.str text]
  | .list _ | .tuple _ | .map _ => []

mutual
/-- The tokens of an expression where no parentheses are needed. -/
def Expr.bare : Expr → List Token
  | .literal value => literalTokens value
  | .name bound => [.name bound]
  | .list items => bracketed .leftBracket .rightBracket (commaSeparated (Expr.bareItems items))
  | .tuple items => bracketed .leftParen .rightParen (tupleTokens (Expr.bareItems items))
  | .dict entries => bracketed .leftBrace .rightBrace (commaSeparated (Expr.bareEntries entries))
  | .attribute value member => enclosed value.level 8 value.bare ++ [.mark .dot, .name member]
  | .index value inner =>
    enclosed value.level 8 value.bare ++ bracketed .leftBracket .rightBracket inner.bare
  | .slice value lower upper =>
    enclosed value.level 8 value.bare ++ bracketed .leftBracket .rightBracket
      (Expr.bareBound lower ++ .mark .colon :: Expr.bareBound upper)
  | .call function arguments =>
    enclosed function.level 8 function.bare ++
      bracketed .leftParen .rightParen (commaSeparated (Expr.bareItems arguments))
  | .unary op value => .mark op.mark :: enclosed value.level 7 value.bare
  | .binary op left right =>
    enclosed left.level op.level left.bare ++
      .mark op.mark :: enclosed right.level (op.level + 1) right.bare
  | .not value => .name "not" :: enclosed value.level 3 value.bare
  | .and left right => enclosed left.level 2 left.bare ++ .name "and" :: enclosed right.level 3 right.bare
  | .or left right => enclosed left.level 1 left.bare ++ .name "or" :: enclosed right.level 2 right.bare
  | .compare first rest => enclosed first.level 5 first.bare ++ Expr.bareLinks rest
  | .conditional condition then_ otherwise =>
    enclosed then_.level 1 then_.bare ++ .name "if" ::
      (enclosed condition.level 1 condition.bare ++ .name "else" :: otherwise.bare)

def Expr.bareItems : List Expr → List (List Token)
  | [] => []
  | item :: rest => item.bare :: Expr.bareItems rest

def Expr.bareEntries : List (Expr × Expr) → List (List Token)
  | [] => []
  | (key, value) :: rest => (key.bare ++ .mark .colon :: value.bare) :: Expr.bareEntries rest

def Expr.bareBound : Option Expr → List Token
  | none => []
  | some bound => bound.bare

def Expr.bareLinks : List (CompareOp × Expr) → List Token
  | [] => []
  | (op, right) :: rest => op.tokens ++ enclosed right.level 5 right.bare ++ Expr.bareLinks rest
end

/-- The tokens of an expression at a place for the given level. -/
def Expr.tokens (place : Nat) (e : Expr) : List Token := enclosed e.level place e.bare

/-- The text of an expression, with a space between any two tokens. -/
def Expr.print (e : Expr) : List Char := Text.join [' '] ((e.tokens 0).map Token.text)

/-- ASCII words that do not start with a digit, keywords among them. -/
def isAsciiWord (name : String) : Bool :=
  match name.toList with
  | [] => false
  | c :: rest => isWordStart c && rest.all isWordChar

/-- The trees that have a source. -/
inductive Printable : Expr → Prop
  | null : Printable (.literal .null)
  | bool (b : Bool) : Printable (.literal (.bool b))
  | int {n : Int64} (natural : 0 ≤ n.toInt) : Printable (.literal (.int n))
  | str (text : String) : Printable (.literal (.str text))
  | name {name : String} (identifier : isIdentifier name = true) : Printable (.name name)
  | list {items : List Expr} (all : ∀ item ∈ items, Printable item) : Printable (.list items)
  | tuple {items : List Expr} (all : ∀ item ∈ items, Printable item) : Printable (.tuple items)
  | dict {entries : List (Expr × Expr)} (keys : ∀ entry ∈ entries, Printable entry.1)
      (values : ∀ entry ∈ entries, Printable entry.2) : Printable (.dict entries)
  | member {value : Expr} {name : String} (base : Printable value) (word : isAsciiWord name = true) :
      Printable (.attribute value name)
  | index {value index : Expr} (base : Printable value) (inner : Printable index) :
      Printable (.index value index)
  | slice {value : Expr} {lower upper : Option Expr} (base : Printable value)
      (low : ∀ bound ∈ lower, Printable bound) (high : ∀ bound ∈ upper, Printable bound) :
      Printable (.slice value lower upper)
  | call {function : Expr} {arguments : List Expr} (base : Printable function)
      (all : ∀ argument ∈ arguments, Printable argument) : Printable (.call function arguments)
  | unary (op : UnaryOp) {value : Expr} (inner : Printable value) : Printable (.unary op value)
  | binary (op : BinaryOp) {left right : Expr} (first : Printable left) (second : Printable right) :
      Printable (.binary op left right)
  | not {value : Expr} (inner : Printable value) : Printable (.not value)
  | and {left right : Expr} (first : Printable left) (second : Printable right) :
      Printable (.and left right)
  | or {left right : Expr} (first : Printable left) (second : Printable right) :
      Printable (.or left right)
  | compare {first : Expr} {rest : List (CompareOp × Expr)} (head : Printable first) (any : rest ≠ [])
      (links : ∀ link ∈ rest, Printable link.2) : Printable (.compare first rest)
  | conditional {condition then_ otherwise : Expr} (test : Printable condition) (first : Printable then_)
      (second : Printable otherwise) : Printable (.conditional condition then_ otherwise)

end Stencil
