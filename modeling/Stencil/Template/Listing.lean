import Stencil.Template.Node
import Stencil.Value.Text

/-! Listings: compiled templates shown as indented procedural code. A nested body is indented by
one tab more than its header, and an empty body is written as `pass`. -/
namespace Stencil

/-- A line of a listing: how deep its node is nested, and its code. -/
structure ListedLine where
  depth : Nat
  code : List Char

def ListedLine.text (line : ListedLine) : List Char :=
  List.replicate line.depth '\t' ++ line.code ++ ['\n']

/-- The format string of a segment: text as it is, and each placeholder by its key. -/
def formatText (pieces : List Piece) : List Char :=
  pieces.flatMap fun piece =>
    match piece with
    | .text text => text
    | .slot key => "%(".toList ++ key ++ ")s".toList

def entryText (entry : List Char × Slot) : List Char :=
  let value :=
    match entry.2 with
    | .percent => literal ['%']
    | .code code => code.text
  literal entry.1 ++ ": ".toList ++ value

def Segment.listed (segment : Segment) : List Char :=
  let entries := Text.join ", ".toList (segment.table.map entryText)
  "write(".toList ++ literal (formatText segment.pieces) ++ " % \x7b".toList ++ entries ++ "\x7d)".toList

/-- The lines of code. A line ends at a line feed with or without a carriage return before it, and
what follows the last line feed is a line if it is not empty. -/
def codeLines (text : List Char) : List (List Char) :=
  let withoutReturn (line : List Char) : List Char :=
    if line.getLast? = some '\r' then line.dropLast else line
  match (Text.splitLines text).reverse with
  | [] => []
  | last :: before =>
    (before.map withoutReturn).reverse ++ if last = [] then [] else [last]

def shownCode (text : List Char) : List (List Char) :=
  (codeLines text).filter fun line => !Text.isBlankLine line

def passLine (depth : Nat) : ListedLine := ⟨depth, "pass".toList⟩

def scriptLines (depth : Nat) (text : List Char) : List ListedLine :=
  match shownCode text with
  | [] => [passLine depth]
  | lines => lines.map (⟨depth, ·⟩)

def evalLines (depth : Nat) (text : List Char) : List ListedLine :=
  match shownCode text with
  | [] => [⟨depth, "write(str())".toList⟩]
  | [line] => [⟨depth, "write(str(".toList ++ line ++ "))".toList⟩]
  | first :: rest =>
    ⟨depth, "write(str(".toList ++ first⟩ :: rest.map (⟨depth + 1, ·⟩) ++ [⟨depth, "))".toList⟩]

def headerLine (depth : Nat) (word : String) (text : List Char) : ListedLine :=
  ⟨depth, word.toList ++ [' '] ++ text ++ [':']⟩

mutual
def nodeLines (depth : Nat) : Node → List ListedLine
  | .literal text => [⟨depth, "write(".toList ++ literal text ++ ")".toList⟩]
  | .substitute segment => [⟨depth, segment.listed⟩]
  | .conditional branches otherwise =>
    branchLines depth Construct.conditional.word branches ++ otherwiseLines depth otherwise
  | .whileLoop condition body =>
    headerLine depth Construct.whileLoop.word condition.text :: bodyLines (depth + 1) body
  | .forLoop header body =>
    headerLine depth Construct.forLoop.word header.text :: bodyLines (depth + 1) body
  | .script code => scriptLines depth code.text
  | .eval code => evalLines depth code.text

def nodesLines (depth : Nat) : List Node → List ListedLine
  | [] => []
  | node :: rest => nodeLines depth node ++ nodesLines depth rest

def bodyLines (depth : Nat) : List Node → List ListedLine
  | [] => [passLine depth]
  | node :: rest => nodeLines depth node ++ nodesLines depth rest

def branchLines (depth : Nat) (word : String) : List (Code Expr × List Node) → List ListedLine
  | [] => []
  | (condition, body) :: rest =>
    headerLine depth word condition.text :: bodyLines (depth + 1) body ++
      branchLines depth Keyword.elif.word rest

def otherwiseLines (depth : Nat) : Option (List Node) → List ListedLine
  | none => []
  | some body => ⟨depth, Keyword.otherwise.word.toList ++ [':']⟩ :: bodyLines (depth + 1) body
end

def listing (nodes : List Node) : List Char := (nodesLines 0 nodes).flatMap ListedLine.text

end Stencil
