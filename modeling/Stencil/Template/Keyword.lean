/-! The words that open, divide and close the blocks of a template. -/
namespace Stencil

/-- A block whose body is a template of its own. -/
inductive Construct where
  | conditional | whileLoop | forLoop
deriving DecidableEq, Repr

/-- A block whose body is code. -/
inductive CodeBlock where
  | script | eval
deriving DecidableEq, Repr

inductive Keyword where
  | opens (construct : Construct)
  | opensCode (block : CodeBlock)
  | elif
  | otherwise
  | closes (construct : Construct)
  | closesCode (block : CodeBlock)
deriving DecidableEq, Repr

def Construct.word : Construct → String
  | .conditional => "if"
  | .whileLoop => "while"
  | .forLoop => "for"

def Construct.closeWord (construct : Construct) : String := "end" ++ construct.word

def CodeBlock.word : CodeBlock → String
  | .script => "script"
  | .eval => "eval"

def CodeBlock.closeWord (block : CodeBlock) : String := "end" ++ block.word

namespace Keyword

def word : Keyword → String
  | .opens construct => construct.word
  | .opensCode block => block.word
  | .elif => "elif"
  | .otherwise => "else"
  | .closes construct => construct.closeWord
  | .closesCode block => block.closeWord

def all : List Keyword :=
  [.opens .conditional, .elif, .otherwise, .closes .conditional, .opens .whileLoop,
    .closes .whileLoop, .opens .forLoop, .closes .forLoop, .opensCode .script,
    .closesCode .script, .opensCode .eval, .closesCode .eval]

def ofWord? (word : String) : Option Keyword := all.find? (·.word == word)

end Keyword

end Stencil
