import Stencil.Proofs.Module.Path
import Stencil.Proofs.Module.Run

/-! What the calls of a builder leave as it was. Main statement: a call that fails changes nothing but the number of
compilations and the search path; one that succeeds changes at most the module kept for its source and, if it compiled
with persistence on, one artifact; and without persistence artifacts are neither written nor looked at. -/
namespace Stencil

variable {σ : Type}

namespace Call

def name : Call → String
  | .get name => name
  | .getIn _ name => name

/-- The directories in which a call looks for a module, in order. -/
def directories (known : List Path) : Call → List Path
  | .get _ => known
  | .getIn directory _ => [directory]

/-- The search path behind a call. The directory that it names is added to it, if it is new. -/
def pathBehind (known : List Path) : Call → List Path
  | .get _ => known
  | .getIn directory _ =>
    if known.any (·.components = directory.components) then known else known ++ [directory]

end Call

namespace Workshop

/-- The state in which the lookups of a call start. -/
def entered (shop : Workshop σ) (call : Call) : Workshop σ :=
  ⟨{ shop.builder with searchPath := call.pathBehind shop.builder.searchPath }, shop.storage⟩

theorem entered_getIn (shop : Workshop σ) (directory : Path) (name : String) :
    { shop with builder := shop.builder.addDirectory directory } = shop.entered (.getIn directory name) := by
  rw [entered, Builder.addDirectory, Call.pathBehind]
  split
  next => rfl
  next => rfl

end Workshop

/-- A path that leads to where an artifact may be. -/
def Path.IsArtifact (path : Path) : Prop :=
  ∃ directory name, path.components = (Builder.artifactPath directory name).components

/-- Paths with a plain extension lead to no artifact, unless the extension ends like that of an artifact. -/
theorem Path.not_isArtifact_join {extension : String} (plain : PlainExtension extension)
    (shorter : ¬ extension.toList <:+ artifactExtension.toList)
    (longer : ¬ artifactExtension.toList <:+ extension.toList) (directory : Path) (name : String) :
    ¬ (directory.join (name ++ extension)).IsArtifact := by
  rintro ⟨other, name', same⟩
  obtain ⟨text, joined⟩ := toList_join directory name
  obtain ⟨text', joined'⟩ := toList_join other name'
  obtain ⟨front, last, split⟩ := components_append text
  obtain ⟨front', last', split'⟩ := components_append text'
  rw [Builder.artifactPath, split plain (joined plain),
    split' plain_artifactExtension (joined' plain_artifactExtension)] at same
  have names := (List.append_inj' same rfl).2
  have lasts : last ++ extension.toList = last' ++ artifactExtension.toList :=
    String.ofList_injective (Component.name.inj (List.cons.inj names).1)
  exact (List.suffix_or_suffix_of_suffix ⟨last, lasts⟩ (List.suffix_append last' _)).elim shorter longer

/-- A result as it is over another storage. -/
def Workshop.on {α : Type} (result : α × Workshop σ) (storage : σ) : α × Workshop σ :=
  (result.1, { result.2 with storage })

variable [Storage σ]

/-- The answers to calls one behind the other, with the state behind them. -/
def Workshop.answers (shop : Workshop σ) : List Call → List (Except Error Loaded) × Workshop σ
  | [] => ([], shop)
  | call :: rest =>
    let (answer, after) := shop.ask call
    let (others, last) := after.answers rest
    (answer :: others, last)

/-- What a lookup answers, with the state behind it. -/
inductive Visit.Leaves (visit : Visit σ) : Except Error (Option Loaded) → Workshop σ → Prop
  | failed (e : Error) {count : Nat} (once : count ≤ 1) : Leaves visit (.error e)
      ⟨{ visit.shop.builder with compilations := visit.shop.builder.compilations + count }, visit.shop.storage⟩
  | nothing : Leaves visit (.ok none) visit.shop
  | kept (loaded : Loaded) : Leaves visit (.ok (some loaded)) visit.shop
  | restored (loaded : Loaded) : Leaves visit (.ok (some loaded))
      ⟨{ visit.shop.builder with
        modules := put visit.source.components loaded visit.shop.builder.modules
        restorations := visit.shop.builder.restorations + 1 }, visit.shop.storage⟩
  | compiled (loaded : Loaded) {storage : σ}
      (written : if visit.shop.builder.options.persist then
          ∃ text, Storage.write visit.shop.storage visit.artifact text = .ok storage
        else storage = visit.shop.storage) : Leaves visit (.ok (some loaded))
      ⟨{ visit.shop.builder with
        modules := put visit.source.components loaded visit.shop.builder.modules
        compilations := visit.shop.builder.compilations + 1 }, storage⟩

namespace Visit

theorem leaves_compile (visit : Visit σ) (source fingerprint : List Char) :
    let answer := visit.shop.compile visit.directory visit.name visit.source source fingerprint
    visit.Leaves (answer.1.map some) answer.2 := by
  dsimp only [Workshop.compile]
  split
  next e _ => exact .failed _ (Nat.le_refl 1)
  next template _ =>
    split
    next e _ => exact .failed _ (Nat.le_refl 1)
    next storage ok =>
      refine .compiled _ ?_
      have written := Workshop.persist_eq_ok ok
      dsimp only at written
      split
      next persist =>
        rw [if_pos persist] at written
        exact ⟨_, written⟩
      next persist =>
        rw [if_neg persist] at written
        exact written

theorem leaves_load (visit : Visit σ) (source : List Char) :
    let answer := visit.shop.load visit.directory visit.name visit.source source
    visit.Leaves (answer.1.map some) answer.2 := by
  dsimp only [Workshop.load]
  split
  next loaded _ => exact .kept loaded
  next =>
    split
    next e _ => exact .failed e (Nat.zero_le 1)
    next module _ => exact .restored _
    next => exact leaves_compile visit source _

theorem leaves_loadArtifact (visit : Visit σ) :
    let answer := visit.shop.loadArtifact visit.directory visit.name visit.source
    visit.Leaves answer.1 answer.2 := by
  dsimp only [Workshop.loadArtifact]
  split
  next e _ => exact .failed e (Nat.zero_le 1)
  next =>
    split
    next => exact .nothing
    next =>
      split
      next loaded _ => exact .kept loaded
      next =>
        split
        next => exact .nothing
        next module _ => exact .restored _

theorem leaves (visit : Visit σ) : visit.Leaves visit.answer.1 visit.after := by
  rw [after, answer_eq]
  split
  next e _ => exact .failed e (Nat.zero_le 1)
  next source _ =>
    have loads := leaves_load visit source
    dsimp only at loads
    split
    next loaded after loaded_eq =>
      rw [loaded_eq] at loads
      exact loads
    next e after failed_eq =>
      rw [failed_eq] at loads
      exact loads
  next =>
    split
    next => exact leaves_loadArtifact visit
    next => exact .nothing

end Visit

namespace Workshop

/-- What a call answers, with the state behind it. -/
inductive Leaves (shop : Workshop σ) (call : Call) : Except Error Loaded → Workshop σ → Prop
  | failed (e : Error) {count : Nat} (once : count ≤ 1) : Leaves shop call (.error e)
      ⟨{ (shop.entered call).builder with compilations := shop.builder.compilations + count }, shop.storage⟩
  | given {loaded : Loaded} {after : Workshop σ} {directory : Path}
      (member : directory ∈ call.directories shop.builder.searchPath)
      (gives : Visit.module? ⟨shop.entered call, directory, call.name⟩ = some loaded)
      (leaves : Visit.Leaves ⟨shop.entered call, directory, call.name⟩ (.ok (some loaded)) after) :
      Leaves shop call (.ok loaded) after

theorem leaves_search {shop : Workshop σ} {name : String} {directories : List Path}
    (within : directories ⊆ shop.builder.searchPath) (searched : List Path) :
    shop.Leaves (.get name) (search name searched directories shop).1 (search name searched directories shop).2 := by
  induction directories generalizing searched with
  | nil => exact .failed _ (Nat.zero_le 1)
  | cons directory rest ih =>
    obtain ⟨here, later⟩ := List.cons_subset.mp within
    have visited := Visit.leaves ⟨shop, directory, name⟩
    dsimp only [Visit.after, Visit.answer] at visited
    rw [search]
    cases looked : shop.lookup directory name with
    | mk result after =>
      have found : Visit.module? ⟨shop, directory, name⟩ = result.toOption.join := by
        rw [Visit.module?, Visit.answer, looked]
      rw [looked] at visited
      cases result with
      | error e => cases visited with | failed _ once => exact .failed e once
      | ok result =>
        cases result with
        | none => cases visited; exact ih later _
        | some loaded => exact .given here found visited

theorem leaves (shop : Workshop σ) (call : Call) : shop.Leaves call (shop.ask call).1 (shop.ask call).2 := by
  cases call with
  | get name => exact leaves_search (List.Subset.refl _) []
  | getIn directory name =>
    have visited := Visit.leaves ⟨shop.entered (.getIn directory name), directory, name⟩
    dsimp only [Visit.after, Visit.answer] at visited
    rw [ask, getIn, entered_getIn shop directory name]
    cases looked : (shop.entered (.getIn directory name)).lookup directory name with
    | mk result after =>
      have found : Visit.module? ⟨shop.entered (.getIn directory name), directory, name⟩ =
          result.toOption.join := by
        rw [Visit.module?, Visit.answer, looked]
      rw [looked] at visited
      cases result with
      | error e => cases visited with | failed _ once => exact .failed e once
      | ok result =>
        cases result with
        | none => cases visited; exact .failed _ (Nat.zero_le 1)
        | some loaded => exact .given (List.mem_singleton_self directory) found visited

section Unpersisted

variable {builder : Builder} (off : builder.options.persist = false) {first second : σ}

include off

theorem compile_on (directory path : Path) (name : String) (source fingerprint : List Char) :
    compile ⟨builder, second⟩ directory name path source fingerprint =
      on (compile ⟨builder, first⟩ directory name path source fingerprint) second := by
  have kept (module : Module) (storage : σ) : persist
      ⟨{ builder with compilations := builder.compilations + 1 }, storage⟩ directory path module = .ok storage := by
    simp [persist, off]
  dsimp only [compile]
  cases Template.compile (if builder.options.clean then cleanSource source else source) with
  | error e => rfl
  | ok template =>
    simp only [kept]
    rfl

theorem load_on (directory path : Path) (name : String) (source : List Char) :
    load ⟨builder, second⟩ directory name path source =
      on (load ⟨builder, first⟩ directory name path source) second := by
  have unread (storage : σ) :
      readFresh ⟨builder, storage⟩ directory name (fingerprint source) = .ok none := by
    simp [readFresh, off]
  dsimp only [load]
  split
  next => rfl
  next =>
    simp only [unread]
    exact compile_on off directory path name source _

theorem lookup_on {directory : Path} {name : String}
    (same : Storage.read second (builder.sourcePath directory name) =
      Storage.read first (builder.sourcePath directory name)) :
    lookup ⟨builder, second⟩ directory name = on (lookup ⟨builder, first⟩ directory name) second := by
  have found : read ⟨builder, second⟩ (builder.sourcePath directory name) =
      read ⟨builder, first⟩ (builder.sourcePath directory name) := by
    rw [read, read, same]
  dsimp only [lookup]
  rw [found]
  split
  next => rfl
  next source _ =>
    rw [@load_on _ _ _ off first]
    cases load ⟨builder, first⟩ directory name (builder.sourcePath directory name) source with
    | mk result after => cases result <;> rfl
  next =>
    simp only [off]
    rfl

theorem search_on {name : String} {directories : List Path}
    (same : ∀ directory ∈ directories, Storage.read second (builder.sourcePath directory name) =
      Storage.read first (builder.sourcePath directory name)) (searched : List Path) :
    search name searched directories ⟨builder, second⟩ =
      on (search name searched directories ⟨builder, first⟩) second := by
  induction directories generalizing searched with
  | nil => rfl
  | cons directory rest ih =>
    obtain ⟨here, later⟩ := List.forall_mem_cons.mp same
    have idle := @Visit.after_of_none _ _ ⟨⟨builder, first⟩, directory, name⟩
    dsimp only [Visit.after, Visit.answer] at idle
    rw [search, search, lookup_on off here]
    cases looked : lookup ⟨builder, first⟩ directory name with
    | mk result after =>
      rw [looked] at idle
      cases result with
      | error e => rfl
      | ok found =>
        cases found with
        | none =>
          obtain rfl : after = ⟨builder, first⟩ := idle rfl
          exact ih later _
        | some loaded => rfl

theorem ask_on {call : Call}
    (same : ∀ directory, Storage.read second (builder.sourcePath directory call.name) =
      Storage.read first (builder.sourcePath directory call.name)) :
    ask ⟨builder, second⟩ call = on (ask ⟨builder, first⟩ call) second := by
  cases call with
  | get name => exact search_on off (fun directory _ => same directory) []
  | getIn directory name =>
    have looked := @lookup_on _ _ (entered ⟨builder, first⟩ (.getIn directory name)).builder off first second
      directory name (same directory)
    rw [ask, ask, getIn, getIn, entered_getIn ⟨builder, second⟩ directory name,
      entered_getIn ⟨builder, first⟩ directory name]
    dsimp only [entered] at looked ⊢
    rw [looked]
    cases lookup ⟨{ builder with searchPath := (Call.getIn directory name).pathBehind builder.searchPath }, first⟩
        directory name with
    | mk result after =>
      cases result with
      | error e => rfl
      | ok found => cases found <;> rfl

theorem storage_ask (call : Call) : (ask ⟨builder, first⟩ call).2.storage = first :=
  congrArg (·.2.storage) (@ask_on _ _ _ off first first call fun _ => rfl)

end Unpersisted

theorem options_ask (shop : Workshop σ) (call : Call) :
    (shop.ask call).2.builder.options = shop.builder.options := by
  have leaves := shop.leaves call
  generalize shop.ask call = answer at leaves ⊢
  obtain ⟨result, after⟩ := answer
  cases leaves with
  | failed => rfl
  | given _ _ leaves => cases leaves <;> rfl

theorem answers_on {shop : Workshop σ} (off : shop.builder.options.persist = false) {other : σ}
    (same : ∀ directory name, Storage.read other (shop.builder.sourcePath directory name) =
      Storage.read shop.storage (shop.builder.sourcePath directory name)) (calls : List Call) :
    answers ⟨shop.builder, other⟩ calls = on (shop.answers calls) other := by
  induction calls generalizing shop with
  | nil => rfl
  | cons call rest ih =>
    have options := shop.options_ask call
    have kept : (shop.ask call).2.storage = shop.storage := storage_ask off call
    have later := @ih (shop.ask call).2 (options ▸ off) fun directory name => by
      rw [kept, Builder.sourcePath, options]
      exact same directory name
    have here : ask ⟨shop.builder, other⟩ call = on (shop.ask call) other :=
      ask_on off fun directory => same directory call.name
    rw [answers, answers, here]
    dsimp only [on] at later ⊢
    rw [later]

/-- What a call that gave a module from a directory did: the modules kept for other sources are as they were, at most
one module was made, and at most one file was written, the artifact of a module that was compiled. -/
structure Touched (shop : Workshop σ) (directory : Path) (name : String) (after : Workshop σ) : Prop where
  options : after.builder.options = shop.builder.options
  searchPath : after.builder.searchPath = shop.builder.searchPath
  modules : ∀ key ≠ (shop.builder.sourcePath directory name).components,
    after.builder.modules.lookup key = shop.builder.modules.lookup key
  made : after.builder.made ≤ shop.builder.made + 1
  storage : after.storage = shop.storage ∨
    shop.builder.options.persist = true ∧ after.builder.compilations = shop.builder.compilations + 1 ∧
      ∃ text, Storage.write shop.storage (Builder.artifactPath directory name) text = .ok after.storage

theorem touched_of_leaves {visit : Visit σ} {loaded : Loaded} {after : Workshop σ}
    (leaves : visit.Leaves (.ok (some loaded)) after) : visit.shop.Touched visit.directory visit.name after := by
  cases leaves with
  | kept => exact ⟨rfl, rfl, fun _ _ => rfl, Nat.le_succ _, .inl rfl⟩
  | restored =>
    exact ⟨rfl, rfl, fun key apart => lookup_put_of_ne apart _ _, Nat.le_refl _, .inl rfl⟩
  | compiled _ written =>
    refine ⟨rfl, rfl, fun key apart => lookup_put_of_ne apart _ _, ?_, ?_⟩
    · dsimp only [Builder.made]
      omega
    · split at written
      next persist => exact .inr ⟨persist, rfl, written⟩
      next => exact .inl written

/-- What calls leave as it was. A call that fails leaves the modules, the stored files and the restorations, and counts
at most one compilation. A call that succeeds touches no more than the module that it gives. Without persistence no call
writes, and what calls answer does not depend on what is stored where artifacts may be. -/
structure CallsLeave (shop : Workshop σ) : Prop where
  failed : ∀ call e, (shop.ask call).1 = .error e → ∃ count ≤ 1, (shop.ask call).2 =
    ⟨{ shop.builder with
      searchPath := call.pathBehind shop.builder.searchPath
      compilations := shop.builder.compilations + count }, shop.storage⟩
  given : ∀ call loaded, (shop.ask call).1 = .ok loaded → ∃ directory ∈ call.directories shop.builder.searchPath,
    Visit.module? ⟨shop.entered call, directory, call.name⟩ = some loaded ∧
    (shop.entered call).Touched directory call.name (shop.ask call).2
  unwritten : shop.builder.options.persist = false → ∀ calls, (shop.answers calls).2.storage = shop.storage
  unread : shop.builder.options.persist = false →
    (∀ directory name, ¬ (shop.builder.sourcePath directory name).IsArtifact) →
      ∀ other, (∀ path : Path, ¬ path.IsArtifact → Storage.read other path = Storage.read shop.storage path) →
        ∀ calls, answers ⟨shop.builder, other⟩ calls = on (shop.answers calls) other

theorem calls_leave (shop : Workshop σ) : shop.CallsLeave where
  failed := by
    intro call e failed
    have leaves := shop.leaves call
    rw [failed] at leaves
    generalize (shop.ask call).2 = after at leaves ⊢
    cases leaves with
    | failed _ once => exact ⟨_, once, rfl⟩
  given := by
    intro call loaded gives
    have leaves := shop.leaves call
    rw [gives] at leaves
    cases leaves with
    | given member gives leaves => exact ⟨_, member, gives, touched_of_leaves leaves⟩
  unwritten := by
    intro off calls
    exact congrArg (·.2.storage) (@answers_on _ _ shop off shop.storage (fun _ _ => rfl) calls)
  unread := by
    intro off apart other same calls
    exact answers_on off (fun directory name => same _ (apart directory name)) calls

/-- A page, and another one that does not compile. -/
def pages (persist : Bool) : Workshop Memory :=
  ⟨.new ⟨".prep", persist, true⟩,
    (Memory.empty.insert ⟨"d/open.prep"⟩ "\x7b\x7b".toList).insert ⟨"d/x.prep"⟩ "one".toList⟩

theorem calls_leave_of_pages :
    (∃ count ≤ 1, ((pages true).ask (.getIn ⟨"d"⟩ "open")).2 =
      ⟨{ (pages true).builder with searchPath := [⟨"d"⟩], compilations := 0 + count }, (pages true).storage⟩) ∧
    ((pages true).entered (.getIn ⟨"d"⟩ "x")).Touched ⟨"d"⟩ "x" ((pages true).ask (.getIn ⟨"d"⟩ "x")).2 ∧
    (∀ text calls, answers ⟨(pages false).builder, (pages false).storage.insert ⟨"d/x.generated"⟩ text⟩ calls =
      on ((pages false).answers calls) ((pages false).storage.insert ⟨"d/x.generated"⟩ text)) := by
  have kept := calls_leave (pages true)
  have unread := (calls_leave (pages false)).unread rfl
  have failed : (fault? ((pages true).ask (.getIn ⟨"d"⟩ "open")).1).isSome := by decide +kernel
  have found : ((pages true).ask (.getIn ⟨"d"⟩ "x")).1.toOption.isSome := by decide +kernel
  obtain ⟨e, failed⟩ := Option.isSome_iff_exists.mp failed
  obtain ⟨loaded, found⟩ := Option.isSome_iff_exists.mp found
  refine ⟨kept.failed _ e (fault?_eq_some.mp failed), ?_, fun text => unread ?_ _ ?_⟩
  · obtain ⟨directory, member, _, touched⟩ := kept.given (.getIn ⟨"d"⟩ "x") loaded (toOption_eq_some.mp found)
    obtain rfl : directory = ⟨"d"⟩ := List.mem_singleton.mp member
    exact touched
  · exact Path.not_isArtifact_join ⟨by decide, by decide⟩ (by decide) (by decide)
  · intro path apart
    have other : path.components ≠ Path.components ⟨"d/x.generated"⟩ := fun same => apart ⟨⟨"d"⟩, "x", same⟩
    exact congrArg Except.ok (lookup_put_of_ne other text _)

end Workshop

end Stencil
