import Stencil.Assoc
import Stencil.Module.Path

/-! Storages of text files: what a builder of modules reads and writes. -/
namespace Stencil

/-- A storage answers a read with the text of the file or with nothing if there is no such file. A
read or write that fails changes nothing and says why. -/
class Storage (σ : Type) where
  read : σ → Path → Except String (Option (List Char))
  write : σ → Path → List Char → Except String σ

/-- Files in memory, each under the components of its path. -/
structure Memory where
  files : List (List Component × List Char)

namespace Memory

def empty : Memory := ⟨[]⟩

def get? (memory : Memory) (path : Path) : Option (List Char) := memory.files.lookup path.components

def insert (memory : Memory) (path : Path) (text : List Char) : Memory :=
  ⟨put path.components text memory.files⟩

end Memory

instance : Storage Memory where
  read memory path := .ok (memory.get? path)
  write memory path text := .ok (memory.insert path text)

/-- A storage in which some paths, as they are written, can not be read or written, and others can
not be seen until they are written again. -/
structure Guarded (σ : Type) where
  inner : σ
  unreadable : List String
  unwritable : List String
  hidden : List String

namespace Guarded

def of {σ : Type} (inner : σ) : Guarded σ := ⟨inner, [], [], []⟩

def hide {σ : Type} (storage : Guarded σ) (path : Path) : Guarded σ :=
  { storage with hidden := path.text :: storage.hidden }

def reveal {σ : Type} (storage : Guarded σ) (path : Path) : Guarded σ :=
  { storage with hidden := storage.hidden.filter (· ≠ path.text) }

def refuseRead {σ : Type} (storage : Guarded σ) (path : Path) : Guarded σ :=
  { storage with unreadable := path.text :: storage.unreadable }

def refuseWrite {σ : Type} (storage : Guarded σ) (path : Path) : Guarded σ :=
  { storage with unwritable := path.text :: storage.unwritable }

def heal {σ : Type} (storage : Guarded σ) : Guarded σ :=
  { storage with unreadable := [], unwritable := [] }

end Guarded

instance {σ : Type} [Storage σ] : Storage (Guarded σ) where
  read storage path :=
    if storage.unreadable.contains path.text then .error "read refused"
    else if storage.hidden.contains path.text then .ok none
    else Storage.read storage.inner path
  write storage path text :=
    if storage.unwritable.contains path.text then .error "write refused"
    else (Storage.write storage.inner path text).map fun inner =>
      { storage.reveal path with inner }

end Stencil
