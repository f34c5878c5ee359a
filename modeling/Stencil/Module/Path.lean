/-! Paths of files. Two paths are the same if they have the same components; a path is printed as it
was written. -/
namespace Stencil

inductive Component where
  | root | current | parent
  | name (name : String)
deriving DecidableEq, Repr

structure Path where
  text : String
deriving DecidableEq, Repr, Inhabited

namespace Path

def separator : Char := '/'

def isAbsolute (path : Path) : Bool := path.text.toList.head? = some separator

def partsOf : List Char → List (List Char)
  | [] => [[]]
  | c :: rest =>
    if c = separator then [] :: partsOf rest
    else match partsOf rest with
      | [] => [[c]]
      | part :: parts => (c :: part) :: parts

def componentOf (part : List Char) : Component :=
  if part = ['.'] then .current else if part = ['.', '.'] then .parent else .name (String.ofList part)

/-- The components of a path. Repeated separators count once, those at the end not at all, and the
current directory is a component only at the start of a relative path. -/
def components (path : Path) : List Component :=
  let parts := ((partsOf path.text.toList).filter (· ≠ [])).map componentOf
  if path.isAbsolute then .root :: parts.filter (· ≠ .current)
  else match parts with
    | .current :: rest => .current :: rest.filter (· ≠ .current)
    | parts => parts.filter (· ≠ .current)

def join (directory : Path) (name : String) : Path :=
  if isAbsolute ⟨name⟩ then ⟨name⟩
  else match directory.text.toList.getLast? with
    | none => ⟨name⟩
    | some last =>
      if last = separator then ⟨directory.text ++ name⟩ else ⟨directory.text ++ "/" ++ name⟩

end Path

end Stencil
