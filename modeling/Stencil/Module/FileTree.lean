import Stencil.Module.Storage
import Stencil.Text.Search
import Stencil.Text.Utf8

/-! A tree of directories and files as a storage of text files. Relative paths start at the root of
the tree; their components are followed one by one, and each but the last has to be a directory.
Around the tree there are directories, but nothing else. -/
namespace Stencil

inductive FileFault where
  | missing | notDirectory | isDirectory | nameTooLong | zeroInName | notText
deriving DecidableEq, Repr

def FileFault.message : FileFault → String
  | .missing => "No such file or directory (os error 2)"
  | .notDirectory => "Not a directory (os error 20)"
  | .isDirectory => "Is a directory (os error 21)"
  | .nameTooLong => "File name too long (os error 36)"
  | .zeroInName => "file name contained an unexpected NUL byte"
  | .notText => "stream did not contain valid UTF-8"

inductive FileEntry where
  | directory
  | file (bytes : List UInt8)

/-- A place in the tree, as the names from its root, or a directory around the tree. -/
inductive Location where
  | inside (names : List String)
  | around
deriving DecidableEq, Repr

structure FileTree where
  entries : List (List String × FileEntry)

namespace FileTree

def empty : FileTree := ⟨[([], .directory)]⟩

def get? (tree : FileTree) : Location → Option FileEntry
  | .inside names => tree.entries.lookup names
  | .around => some .directory

def put (tree : FileTree) (location : Location) (entry : FileEntry) : FileTree :=
  match location with
  | .inside names => ⟨Stencil.put names entry tree.entries⟩
  | .around => tree

def longestName : Nat := 255

def longestPath : Nat := 4095

def child (location : Location) (name : String) : Except FileFault Location :=
  if longestName < name.utf8ByteSize then .error .nameTooLong
  else match location with
    | .inside names => .ok (.inside (names ++ [name]))
    | .around => .error .missing

def parent : Location → Location
  | .inside [] | .around => .around
  | .inside names => .inside names.dropLast

/-- One component further from a location, which has to be a directory. -/
def step (tree : FileTree) (location : Location) (component : Component) : Except FileFault Location :=
  match tree.get? location with
  | none => .error .missing
  | some (.file _) => .error .notDirectory
  | some .directory =>
    match component with
    | .root => .ok .around
    | .current => .ok location
    | .parent => .ok (parent location)
    | .name name => child location name

/-- Whether a path ends in a way that only a directory can: with a separator or the current
directory. -/
def wantsDirectory (path : Path) : Bool :=
  match (Path.partsOf path.text.toList).getLast? with
  | some part => part = [] || part = ['.']
  | none => true

def locate (tree : FileTree) (path : Path) : Except FileFault Location :=
  if path.text.isEmpty then .error .missing
  else if path.text.toList.contains '\x00' then .error .zeroInName
  else if longestPath < path.text.utf8ByteSize then .error .nameTooLong
  else path.components.foldlM tree.step (.inside [])

def readBytes (tree : FileTree) (path : Path) : Except FileFault (List UInt8) := do
  let location ← tree.locate path
  match tree.get? location with
  | none => .error .missing
  | some .directory => .error .isDirectory
  | some (.file bytes) => if wantsDirectory path then .error .notDirectory else return bytes

def readText (tree : FileTree) (path : Path) : Except FileFault (List Char) := do
  match Text.decode (← tree.readBytes path) with
  | .ok text => return text
  | .error _ => .error .notText

def writeBytes (tree : FileTree) (path : Path) (bytes : List UInt8) : Except FileFault FileTree := do
  let location ← tree.locate path
  if wantsDirectory path then .error .isDirectory
  else match tree.get? location with
    | some .directory => .error .isDirectory
    | _ => return tree.put location (.file bytes)

/-- Makes the directories that are missing on the way along the components of a path, up to one
that can not be made. -/
def makeAlong (tree : FileTree) (location : Location) : List Component → FileTree
  | [] => tree
  | component :: rest =>
    match tree.step location component with
    | .error _ => tree
    | .ok location =>
      match tree.get? location with
      | some _ => makeAlong tree location rest
      | none => makeAlong (tree.put location .directory) location rest

def makeDirectories (tree : FileTree) (path : Path) : FileTree :=
  if longestPath < path.text.utf8ByteSize then tree
  else tree.makeAlong (.inside []) path.components

def insert (tree : FileTree) (path : Path) (bytes : List UInt8) : FileTree :=
  let parent : Path := ⟨String.ofList (Text.join [Path.separator]
    (Path.partsOf path.text.toList).dropLast)⟩
  let tree := tree.makeDirectories parent
  (tree.writeBytes path bytes).toOption.getD tree

end FileTree

instance : Storage FileTree where
  read tree path :=
    match tree.readText path with
    | .ok text => .ok (some text)
    | .error .missing => .ok none
    | .error fault => .error fault.message
  write tree path text :=
    match tree.writeBytes path (Text.bytes text) with
    | .ok after => .ok after
    | .error fault => .error fault.message

end Stencil
