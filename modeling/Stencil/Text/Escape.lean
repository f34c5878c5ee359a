import Stencil.Text.Search

/-! Delimiters of directives and the escapes that stand for them in literal text. A directive is
written between two opening and two closing braces. A dollar sign between the braces of a pair
takes the delimiter away, and a doubled dollar sign stands for one. -/
namespace Stencil.Text

def opening : List Char := ['{', '{']

def closing : List Char := ['}', '}']

def dollar : Char := '$'

/-- The escapes with the text they stand for, in the order in which they are replaced. -/
def escapes : List (List Char × List Char) :=
  [(['{', dollar, '{'], opening), (['}', dollar, '}'], closing), ([dollar, dollar], [dollar])]

/-- Replaces the escapes one kind after another, each over the result of the one before. -/
def unescape (text : List Char) : List Char :=
  escapes.foldl (fun current (escaped, plain) => replaceAll escaped plain current) text

end Stencil.Text
