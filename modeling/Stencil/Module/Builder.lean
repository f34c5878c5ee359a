import Stencil.Error
import Stencil.Module.Artifact
import Stencil.Module.Fingerprint
import Stencil.Module.Storage

/-! Builders of modules. A builder finds template sources in the directories of its search path,
compiles them, and keeps the modules; a module is used again as long as the fingerprint of its
source is the same. With persistence on, compiled modules are written as artifacts, from which a
module is restored if the fingerprint it records is the one of the source, or if there is no
source. -/
namespace Stencil

/-- A compiled template with its name and the fingerprint of its source file. -/
structure Module where
  name : String
  fingerprint : List Char
  template : Template

def Module.ofSource (name : String) (source : List Char) : Except CompileError Module := do
  let template ← Template.compile source
  return ⟨name, Stencil.fingerprint source, template⟩

/-- A module of a builder with its number among all that the builder made. -/
structure Loaded where
  serial : Nat
  module : Module

structure BuilderOptions where
  extension : String
  persist : Bool
  clean : Bool
deriving DecidableEq, Repr

def BuilderOptions.default : BuilderOptions := ⟨".prep", true, true⟩

def artifactExtension : String := ".generated"

structure Builder where
  options : BuilderOptions
  searchPath : List Path
  modules : List (List Component × Loaded)
  compilations : Nat
  restorations : Nat

namespace Builder

def new (options : BuilderOptions) : Builder := ⟨options, [], [], 0, 0⟩

def sourcePath (builder : Builder) (directory : Path) (name : String) : Path :=
  directory.join (name ++ builder.options.extension)

def artifactPath (directory : Path) (name : String) : Path :=
  directory.join (name ++ artifactExtension)

def kept? (builder : Builder) (path : Path) : Option Loaded := builder.modules.lookup path.components

/-- The module kept for a source path, if it has the given fingerprint. -/
def keptFresh? (builder : Builder) (path : Path) (fingerprint : List Char) : Option Loaded :=
  (builder.kept? path).filter fun loaded => loaded.module.fingerprint = fingerprint

def made (builder : Builder) : Nat := builder.compilations + builder.restorations

def keep (builder : Builder) (path : Path) (module : Module) : Loaded × Builder :=
  let loaded : Loaded := ⟨builder.made, module⟩
  (loaded, { builder with modules := put path.components loaded builder.modules })

def addDirectory (builder : Builder) (directory : Path) : Builder :=
  if builder.searchPath.any (·.components = directory.components) then builder
  else { builder with searchPath := builder.searchPath ++ [directory] }

end Builder

def Artifact.module? (artifact : Artifact) (name : String) : Option Module := do
  let source ← artifact.source
  let template ← (Template.compile source).toOption
  return ⟨name, artifact.fingerprint, template⟩

/-- A builder with the storage that it reads and writes. -/
structure Workshop (σ : Type) where
  builder : Builder
  storage : σ

/-- The result of a lookup and the state behind it, also behind a failed one. -/
abbrev Answer (σ α : Type) := Except Error α × Workshop σ

namespace Workshop

variable {σ : Type} [Storage σ]

def read (shop : Workshop σ) (path : Path) : Except Error (Option (List Char)) :=
  (Storage.read shop.storage path).mapError fun cause => .file ⟨path.text, cause⟩

def keepRestored (shop : Workshop σ) (path : Path) (module : Module) : Loaded × Workshop σ :=
  let builder := { shop.builder with restorations := shop.builder.restorations + 1 }
  let (loaded, builder) := builder.keep path module
  (loaded, { shop with builder })

def readFresh (shop : Workshop σ) (directory : Path) (name : String) (fingerprint : List Char) :
    Except Error (Option Module) :=
  if !shop.builder.options.persist then .ok none
  else do
    match ← shop.read (Builder.artifactPath directory name) with
    | none => return none
    | some text =>
      match Artifact.parse? text with
      | none => return none
      | some artifact =>
        return if artifact.fingerprint = fingerprint then artifact.module? name else none

def persist (shop : Workshop σ) (directory path : Path) (module : Module) : Except Error σ :=
  if !shop.builder.options.persist then .ok shop.storage
  else
    let artifact := Builder.artifactPath directory module.name
    let text := Artifact.text path.text module.fingerprint module.template.source
      module.template.listing
    (Storage.write shop.storage artifact text).mapError fun cause => .file ⟨artifact.text, cause⟩

def compile (shop : Workshop σ) (directory : Path) (name : String) (path : Path)
    (source fingerprint : List Char) : Answer σ Loaded :=
  let builder := { shop.builder with compilations := shop.builder.compilations + 1 }
  let shop := { shop with builder }
  match Template.compile (if builder.options.clean then cleanSource source else source) with
  | .error e => (.error (.ofCompile e), shop)
  | .ok template =>
    let module : Module := ⟨name, fingerprint, template⟩
    match shop.persist directory path module with
    | .error e => (.error e, shop)
    | .ok storage =>
      let (loaded, builder) := builder.keep path module
      (.ok loaded, ⟨builder, storage⟩)

/-- The module of a source that was found: the one kept, one restored or one compiled. -/
def load (shop : Workshop σ) (directory : Path) (name : String) (path : Path) (source : List Char) :
    Answer σ Loaded :=
  let fingerprint := Stencil.fingerprint source
  match shop.builder.keptFresh? path fingerprint with
  | some loaded => (.ok loaded, shop)
  | none =>
    match shop.readFresh directory name fingerprint with
    | .error e => (.error e, shop)
    | .ok (some module) =>
      let (loaded, shop) := shop.keepRestored path module
      (.ok loaded, shop)
    | .ok none => shop.compile directory name path source fingerprint

def loadArtifact (shop : Workshop σ) (directory : Path) (name : String) (path : Path) :
    Answer σ (Option Loaded) :=
  match shop.read (Builder.artifactPath directory name) with
  | .error e => (.error e, shop)
  | .ok text =>
    match text.bind Artifact.parse? with
    | none => (.ok none, shop)
    | some artifact =>
      match shop.builder.keptFresh? path artifact.fingerprint with
      | some loaded => (.ok (some loaded), shop)
      | none =>
        match artifact.module? name with
        | none => (.ok none, shop)
        | some module =>
          let (loaded, shop) := shop.keepRestored path module
          (.ok (some loaded), shop)

def lookup (shop : Workshop σ) (directory : Path) (name : String) : Answer σ (Option Loaded) :=
  let path := shop.builder.sourcePath directory name
  match shop.read path with
  | .error e => (.error e, shop)
  | .ok (some source) =>
    match shop.load directory name path source with
    | (.ok loaded, shop) => (.ok (some loaded), shop)
    | (.error e, shop) => (.error e, shop)
  | .ok none =>
    if shop.builder.options.persist then shop.loadArtifact directory name path else (.ok none, shop)

def getIn (shop : Workshop σ) (directory : Path) (name : String) : Answer σ Loaded :=
  let shop := { shop with builder := shop.builder.addDirectory directory }
  match shop.lookup directory name with
  | (.error e, shop) => (.error e, shop)
  | (.ok (some loaded), shop) => (.ok loaded, shop)
  | (.ok none, shop) =>
    (.error (.notFound ⟨name, [(shop.builder.sourcePath directory name).text]⟩), shop)

/-- Searches directories in order, behind those that were searched before. -/
def search (name : String) (searched : List Path) : List Path → Workshop σ → Answer σ Loaded
  | [], shop => (.error (.notFound ⟨name, searched.map Path.text⟩), shop)
  | directory :: rest, shop =>
    match shop.lookup directory name with
    | (.error e, shop) => (.error e, shop)
    | (.ok (some loaded), shop) => (.ok loaded, shop)
    | (.ok none, shop) =>
      search name (searched ++ [shop.builder.sourcePath directory name]) rest shop

/-- Gets a module from the first directory of the search path that has it. -/
def get (shop : Workshop σ) (name : String) : Answer σ Loaded :=
  search name [] shop.builder.searchPath shop

end Workshop

end Stencil
