import Stencil.Module.FileTree
import Stencil.Proofs.Module.Freshness
import Stencil.Proofs.Module.Search

/-! Where names are found. Main statement: a name that a builder finds in a directory is found there again, with the
same module, behind all calls of this builder, if no lookup writes what others read, unless they have the same source.
Paths that break this can move a name to another directory. -/
namespace Stencil

variable {σ : Type} [Storage σ]

theorem Artifact.isSome_module? (artifact : Artifact) (name other : String) :
    (artifact.module? name).isSome = (artifact.module? other).isSome := by
  obtain ⟨fingerprint, source⟩ := artifact
  cases source with
  | none => rfl
  | some source =>
    dsimp only [Artifact.module?, Option.bind_eq_bind, Option.bind_some]
    cases (Template.compile source).toOption <;> rfl

namespace Visit

theorem Wants.transfer {visit other : Visit σ} {wanted : List Char} (wants : visit.Wants wanted)
    (options : other.shop.builder.options = visit.shop.builder.options)
    (found : ∀ content, visit.found = .ok content → other.found = .ok content)
    (artifact : visit.found = .ok none → ∀ content, visit.shop.read visit.artifact = .ok content →
      other.shop.read other.artifact = .ok content) : other.Wants wanted := by
  cases wants with
  | source here => exact .source (found _ here)
  | artifact missing persist records =>
    obtain ⟨text, read, parsed⟩ := records
    exact .artifact (found _ missing) (options ▸ persist) ⟨text, artifact missing _ read, parsed⟩

/-- A lookup rests as another one does, if it reads the same and has the same module kept. -/
theorem Rests.transfer {visit other : Visit σ} {given : Option Loaded} (rests : visit.Rests given)
    (options : other.shop.builder.options = visit.shop.builder.options)
    (found : ∀ content, visit.found = .ok content → other.found = .ok content)
    (artifact : visit.found = .ok none → ∀ content, visit.shop.read visit.artifact = .ok content →
      other.shop.read other.artifact = .ok content)
    (kept : other.shop.builder.kept? other.source = visit.shop.builder.kept? visit.source) : other.Rests given := by
  cases given with
  | none =>
    have same : other.usable = visit.usable := by
      funext artifact
      rw [usable, usable, Builder.keptFresh?, Builder.keptFresh?, kept, artifact.isSome_module? other.name visit.name]
    rw [Rests, held] at rests ⊢
    cases missing : visit.found with
    | error e =>
      rw [missing] at rests
      cases rests
    | ok content =>
      rw [missing] at rests
      cases content with
      | some source => cases rests
      | none =>
        rw [found _ missing, options]
        dsimp only at rests ⊢
        split at rests
        next persist =>
          rw [if_pos persist]
          cases read : visit.shop.read visit.artifact with
          | error e =>
            rw [read] at rests
            cases rests
          | ok text =>
            rw [read] at rests
            rw [artifact missing _ read, same]
            exact rests
        next persist => rw [if_neg persist]
  | some loaded =>
    obtain ⟨wants, isKept⟩ := rests
    exact ⟨wants.transfer options found artifact, kept.trans isKept⟩

end Visit

/-- Lookups that do not change what others read as their sources when they write their artifacts, nor what others read
as their artifacts, unless both have the same source, and that read the same if their source paths are the same. -/
structure Independent (log : List (Visit σ)) : Prop where
  sources : ∀ visit ∈ log, ∀ other ∈ log, ∀ {storage after : σ} {text},
    Storage.write storage visit.artifact text = .ok after →
      Storage.read after other.source = Storage.read storage other.source
  artifacts : ∀ visit ∈ log, ∀ other ∈ log,
    (∀ storage : σ, Storage.read storage visit.source = Storage.read storage other.source) ∨
    ∀ {storage after : σ} {text}, Storage.write storage visit.artifact text = .ok after →
      Storage.read after other.artifact = Storage.read storage other.artifact
  shared : ∀ visit ∈ log, ∀ other ∈ log, visit.source.components = other.source.components → ∀ storage : σ,
    Storage.read storage visit.source = Storage.read storage other.source ∧
      Storage.read storage visit.artifact = Storage.read storage other.artifact

/-- A lookup as it is in another state of the builder. -/
def Visit.at (visit : Visit σ) (shop : Workshop σ) : Visit σ := ⟨shop, visit.directory, visit.name⟩

section Lookup

variable {log : List (Visit σ)} {visit other : Visit σ} {given : Option Loaded}

omit [Storage σ] in
theorem Visit.source_at {shop : Workshop σ} (options : shop.builder.options = visit.shop.builder.options) :
    (visit.at shop).source = visit.source := by
  rw [Visit.source, Visit.source, Builder.sourcePath, Builder.sourcePath]
  dsimp only [Visit.at]
  rw [options]

theorem Visit.read_after {path : Path} {content : Option (List Char)}
    (unwritten : ∀ source text, visit.found = .ok (some source) →
      Storage.write visit.shop.storage visit.artifact text = .ok visit.after.storage →
        Storage.read visit.after.storage path = Storage.read visit.shop.storage path)
    (read : visit.shop.read path = .ok content) : visit.after.read path = .ok content := by
  rw [Workshop.read_eq_ok] at read ⊢
  rcases visit.storage_after with same | ⟨_, ⟨source, found⟩, _, _, wrote⟩
  · rw [same, read]
  · rw [unwritten source _ found wrote, read]

section Sites

variable (independent : Independent log) (member : visit ∈ log) (otherMember : other ∈ log)
  (options : visit.shop.builder.options = other.shop.builder.options)

include independent member otherMember options

theorem Independent.found_after (content : Option (List Char)) (found : (other.at visit.shop).found = .ok content) :
    (other.at visit.after).found = .ok content := by
  rw [Visit.found, Visit.source_at options] at found
  rw [Visit.found, Visit.source_at (visit.options_after.trans options)]
  exact Visit.read_after (fun _ _ _ wrote => independent.sources visit member other otherMember wrote) found

theorem Independent.artifact_after (missing : (other.at visit.shop).found = .ok none) (content : Option (List Char))
    (read : visit.shop.read other.artifact = .ok content) : visit.after.read other.artifact = .ok content := by
  refine Visit.read_after (fun source _ found wrote => ?_) read
  rcases independent.artifacts visit member other otherMember with alike | free
  · rw [Visit.found, Workshop.read_eq_ok, alike] at found
    rw [Visit.found, Workshop.read_eq_ok, Visit.source_at options] at missing
    cases found.symm.trans missing
  · exact free wrote

/-- A lookup at rest stays at rest when another one is made. -/
theorem Visit.Rests.visited (rests : (other.at visit.shop).Rests given) : (other.at visit.after).Rests given := by
  have here : (other.at visit.shop).source = other.source := Visit.source_at options
  by_cases same : visit.source.components = other.source.components
  -- With the same source path the lookup that is made rests as well, and so it changes nothing.
  · have read := independent.shared other otherMember visit member same.symm visit.shop.storage
    have idle : visit.Rests given := by
      refine rests.transfer rfl (fun content found => ?_) (fun _ content found => ?_) ?_
      · rw [Visit.found, Workshop.read_eq_ok, here] at found
        rw [Visit.found, Workshop.read_eq_ok, ← read.1]
        exact found
      · rw [Workshop.read_eq_ok] at found ⊢
        rw [← read.2]
        exact found
      · rw [Builder.kept?, Builder.kept?, here, same]
        rfl
    have unchanged : visit.after = visit.shop := congrArg Prod.snd idle.answer
    rw [unchanged]
    exact rests
  -- Else it may keep a module and write an artifact, but not those that the lookup at rest looks at.
  · refine rests.transfer visit.options_after (independent.found_after member otherMember options)
      (independent.artifact_after member otherMember options) ?_
    rw [Visit.source_at (visit.options_after.trans options), here, Builder.kept?, Builder.kept?]
    cases gives : visit.module? with
    | none => exact congrArg _ (Visit.modules_after_none gives)
    | some loaded =>
      dsimp only [Visit.at]
      rw [Visit.lookup_after gives, if_neg (Ne.symm same)]

end Sites

/-- A lookup that gave a module is at rest. -/
theorem Visit.rests_after (independent : Independent log) (member : visit ∈ log) {loaded : Loaded}
    (gives : visit.module? = some loaded) : (visit.at visit.after).Rests (some loaded) := by
  have wants : visit.Wants loaded.module.fingerprint := by
    have outcome := visit.outcome
    rw [gives] at outcome
    cases outcome with
    | kept wants => exact wants
    | restored wants _ _ restored => rwa [(Artifact.module?_eq_some restored).2]
    | compiled found same =>
      rw [same]
      exact .source found
  refine ⟨wants.transfer visit.options_after (independent.found_after member member rfl)
    (independent.artifact_after member member rfl), ?_⟩
  rw [Visit.source_at visit.options_after]
  exact (Visit.lookup_after gives _).trans (if_pos rfl)

end Lookup

/-- A name that is found in a directory, where its module is kept, and not in those before. -/
structure FoundIn (name : String) (before : List Path) (directory : Path) (loaded : Loaded) (shop : Workshop σ) :
    Prop where
  nothing : ∀ earlier ∈ before, Visit.Rests ⟨shop, earlier, name⟩ none
  here : Visit.Rests ⟨shop, directory, name⟩ (some loaded)

section Settling

variable {shop : Workshop σ} {name : String} {before : List Path} {directory : Path} {loaded : Loaded}

theorem FoundIn.get (foundIn : FoundIn name before directory loaded shop) {after : List Path}
    (path : shop.builder.searchPath = before ++ directory :: after) :
    shop.decider? name = some directory ∧ shop.get name = (.ok loaded, shop) := by
  have looked : shop.lookup directory name = (.ok (some loaded), shop) := foundIn.here.answer
  have something : ¬ Visit.Rests ⟨shop, directory, name⟩ none := by
    rw [Visit.rests_none_iff, foundIn.here.answer]
    exact nofun
  refine ⟨Workshop.decider?_eq_some.mpr ⟨something, before, after, path, foundIn.nothing⟩, ?_⟩
  rw [Workshop.get, path, Workshop.search_append foundIn.nothing, Workshop.search, looked]

theorem Visit.Rests.moved {first next : Workshop σ} {given : Option Loaded} (widens : first.Widens next)
    (rests : Visit.Rests ⟨first, directory, name⟩ given) : Visit.Rests ⟨next, directory, name⟩ given := by
  have same : Visit.source ⟨next, directory, name⟩ = Visit.source ⟨first, directory, name⟩ :=
    @Visit.source_at _ ⟨first, directory, name⟩ next widens.options
  have read (path : Path) : next.read path = first.read path := by rw [Workshop.read, Workshop.read, widens.storage]
  refine rests.transfer widens.options (fun content found => ?_) (fun _ content found => ?_) ?_
  · rw [Visit.found] at found ⊢
    rw [same]
    exact (read _).trans found
  · exact (read _).trans found
  · rw [same, Builder.kept?, Builder.kept?, widens.modules]

theorem FoundIn.moved {next : Workshop σ} (widens : shop.Widens next)
    (foundIn : FoundIn name before directory loaded shop) : FoundIn name before directory loaded next :=
  ⟨fun earlier member => (foundIn.nothing earlier member).moved widens, foundIn.here.moved widens⟩

theorem FoundIn.visited {log : List (Visit σ)} {visit : Visit σ} (independent : Independent log)
    (member : visit ∈ log) (listed : ∀ place ∈ before ++ [directory], ⟨shop, place, name⟩ ∈ log)
    (options : visit.shop.builder.options = shop.builder.options)
    (foundIn : FoundIn name before directory loaded visit.shop) :
    FoundIn name before directory loaded visit.after where
  nothing := fun earlier known => by
    have logged := listed earlier (List.mem_append_left _ known)
    exact Visit.Rests.visited independent member logged options (foundIn.nothing earlier known)
  here := Visit.Rests.visited independent member (listed directory (by simp)) options foundIn.here

/-- A name is found again in the directory where it was found, whatever is called in between. -/
theorem Workshop.stays (found : (shop.get name).1 = .ok loaded) (calls : List Call)
    (independent : Independent (shop.log ((.get name :: calls).map .call))) :
    ∃ directory, shop.decider? name = some directory ∧
      (shop.ending ((.get name :: calls).map .call)).decider? name = some directory ∧
      (shop.ending ((.get name :: calls).map .call)).get name =
        (.ok loaded, shop.ending ((.get name :: calls).map .call)) := by
  cases decides : shop.decider? name with
  | none =>
    rw [get_of_decider?_eq_none decides] at found
    cases found
  | some directory =>
    obtain ⟨_, before, after, path, nothing⟩ := decider?_eq_some.mp decides
    have answered := answer_of_decider? decides
    have gives : Visit.module? ⟨shop, directory, name⟩ = some loaded := by
      rw [Visit.module?, answered, found]
      rfl
    have behind : Visit.after ⟨shop, directory, name⟩ = (shop.get name).2 := by rw [Visit.after, answered]
    have listed (place : Path) (member : place ∈ before ++ [directory]) :
        ⟨shop, place, name⟩ ∈ shop.log ((.get name :: calls).map .call) := by
      refine List.mem_append_left _ ?_
      rw [visits, path, searchVisits_append nothing]
      rcases List.mem_append.mp member with earlier | here
      · exact List.mem_append_left _ (List.mem_map_of_mem earlier)
      · rw [List.mem_singleton.mp here]
        exact List.mem_append_right _ (visit_mem_searchVisits after)
    have own := listed directory (by simp)
    have start : FoundIn name before directory loaded (shop.get name).2 := by
      rw [← behind]
      refine ⟨fun earlier known => ?_, Visit.rests_after independent own gives⟩
      have logged := listed earlier (List.mem_append_left _ known)
      exact Visit.Rests.visited independent own logged rfl (nothing earlier known)
    obtain ⟨_, foundIn⟩ := (course_calls (shop.get name).2 calls).preserves
      (FoundIn name before directory loaded) (fun widens foundIn => foundIn.moved widens)
      (fun {visit} member foundIn => by
        have logged : visit ∈ shop.log ((.get name :: calls).map .call) := List.mem_append_right _ member
        exact foundIn.visited independent logged listed (shop.options_of_calls _ visit logged)) start
    have wider := shop.searchPath_ending ((.get name :: calls).map .call)
    rw [behindKnown, path, List.append_assoc] at wider
    exact ⟨directory, rfl, foundIn.get wider⟩

end Settling

/-- Lookups are independent over files that can always be read, if source paths correspond to artifact paths and are
not artifact paths themselves. -/
theorem independent_of_files {files : σ → List Component → Option (List Char)} (faithful : Faithful files)
    (readable : ∀ (storage : σ) path, ∃ found, Storage.read storage path = .ok found) {log : List (Visit σ)}
    (disjoint : ∀ visit ∈ log, ∀ other ∈ log, visit.source.components ≠ other.artifact.components)
    (corresponding : Corresponding log) : Independent log := by
  have read (storage : σ) (path : Path) : Storage.read storage path = .ok (files storage path.components) := by
    obtain ⟨found, read⟩ := readable storage path
    rw [read, faithful.read read]
  have alike {path other : Path} (same : path.components = other.components) (storage : σ) :
      Storage.read storage path = Storage.read storage other := by rw [read, read, same]
  have free {path artifact : Path} (differs : path.components ≠ artifact.components) {storage after : σ}
      {text : List Char} (wrote : Storage.write storage artifact text = .ok after) :
      Storage.read after path = Storage.read storage path := by rw [read, read, (faithful.write wrote).2 _ differs]
  refine ⟨fun visit member other otherMember => ?_, fun visit member other otherMember => ?_,
    fun visit member other otherMember same storage => ?_⟩
  · exact free (disjoint other otherMember visit member)
  · by_cases same : visit.source.components = other.source.components
    · exact .inl (alike same)
    · exact .inr (free fun shared => same ((corresponding visit member other otherMember).mpr shared.symm))
  · exact ⟨alike same storage, alike ((corresponding visit member other otherMember).mp same) storage⟩

/-- How names are resolved over the calls of a builder. The search path is made of the directories that were passed to
the calls, in the order of their first uses, and only grows. A name is looked up in the first of them that has a source
or an artifact that can be used, or can not be read. Where it is found it is found again, with the module that it gave,
behind all calls whose lookups are independent of each other, as they are over files that can always be read, if the
extension is plain and no source path is an artifact path. -/
structure Workshop.Resolves (options : BuilderOptions) (storage : σ) : Prop where
  searchPath : ∀ steps : List (Step σ), (Workshop.ending ⟨.new options, storage⟩ steps).builder.searchPath =
    firstUses (steps.filterMap Step.directory?)
  grows : ∀ steps more : List (Step σ), (Workshop.ending ⟨.new options, storage⟩ steps).builder.searchPath <+:
    (Workshop.ending ⟨.new options, storage⟩ (steps ++ more)).builder.searchPath
  decided : ∀ (shop : Workshop σ) name directory, shop.decider? name = some directory →
    shop.get name = shop.getIn directory name
  unread : ∀ (shop : Workshop σ) name directory, shop.decider? name = some directory →
    ∀ e, Visit.held ⟨shop, directory, name⟩ = .error e → shop.get name = (.error e, shop)
  missing : ∀ (shop : Workshop σ) name, shop.decider? name = none → shop.get name = (.error (.notFound ⟨name,
    shop.builder.searchPath.map fun directory => (shop.builder.sourcePath directory name).text⟩), shop)
  stays : ∀ (shop : Workshop σ) name loaded calls, (shop.get name).1 = .ok loaded →
    Independent (shop.log ((.get name :: calls).map .call)) → ∃ directory, shop.decider? name = some directory ∧
      (shop.ending ((.get name :: calls).map .call)).decider? name = some directory ∧
      (shop.ending ((.get name :: calls).map .call)).get name =
        (.ok loaded, shop.ending ((.get name :: calls).map .call))
  independent : ∀ {files : σ → List Component → Option (List Char)}, Faithful files →
    (∀ (storage : σ) path, ∃ found, Storage.read storage path = .ok found) →
      ∀ (shop : Workshop σ) (calls : List Call), PlainExtension shop.builder.options.extension →
        (∀ visit ∈ shop.log (calls.map .call), ∀ other ∈ shop.log (calls.map .call),
          visit.source.components ≠ other.artifact.components) → Independent (shop.log (calls.map .call))

theorem name_resolution_stable (options : BuilderOptions) (storage : σ) : Workshop.Resolves options storage where
  searchPath := by
    intro steps
    rw [Workshop.searchPath_ending]
    simp [behindKnown, Builder.new]
  grows := by
    intro steps more
    rw [Workshop.ending_append, Workshop.searchPath_ending _ more]
    exact List.prefix_append _ _
  decided := by
    intro shop name directory decides
    exact Workshop.get_of_decider? decides
  unread := by
    intro shop name directory decides e fails
    exact Workshop.get_of_unread decides fails
  missing := by
    intro shop name
    exact Workshop.get_of_decider?_eq_none
  stays := by
    intro shop name loaded calls found
    exact Workshop.stays found calls
  independent := by
    intro files faithful readable shop calls plain disjoint
    exact independent_of_files faithful readable disjoint (corresponding_of_plain (shop.options_of_calls calls) plain)

namespace Memory

/-- A page in the second of two directories. -/
def secondPage : Workshop Memory :=
  Workshop.ending ⟨.new .default, Memory.empty.insert ⟨"b/x.prep"⟩ "one".toList⟩
    [.call (.getIn ⟨"a"⟩ "x"), .call (.getIn ⟨"b"⟩ "y")]

theorem name_resolution_of_secondPage : secondPage.builder.searchPath = [⟨"a"⟩, ⟨"b"⟩] ∧
    secondPage.get "x" = secondPage.getIn ⟨"b"⟩ "x" ∧
    ∃ loaded, ∀ calls, (secondPage.ending ((.get "x" :: calls).map .call)).get "x" =
      (.ok loaded, secondPage.ending ((.get "x" :: calls).map .call)) := by
  have resolves := name_resolution_stable .default (Memory.empty.insert ⟨"b/x.prep"⟩ "one".toList)
  obtain ⟨decides, found⟩ : secondPage.decider? "x" = some ⟨"b"⟩ ∧ (secondPage.get "x").1.toOption.isSome := by
    decide +kernel
  obtain ⟨loaded, found⟩ := Option.isSome_iff_exists.mp found
  have plain : PlainExtension secondPage.builder.options.extension := ⟨by decide, by decide⟩
  refine ⟨?_, resolves.decided secondPage "x" _ decides, loaded, fun calls => ?_⟩
  · exact resolves.searchPath [.call (.getIn ⟨"a"⟩ "x"), .call (.getIn ⟨"b"⟩ "y")]
  · have configured := secondPage.options_of_calls (.get "x" :: calls)
    have apart := resolves.independent faithful (fun _ _ => ⟨_, rfl⟩) secondPage (.get "x" :: calls) plain
      fun visit member other _ same => by
        refine Path.not_isArtifact_join plain (by decide) (by decide) visit.directory visit.name ?_
        rw [← configured visit member]
        exact ⟨other.directory, other.name, same⟩
    obtain ⟨_, _, _, again⟩ := resolves.stays secondPage "x" loaded calls (toOption_eq_some.mp found) apart
    exact again

end Memory

/-- A name that is decided in one directory and then in another one, although all calls succeed and no lookup has its
source where one has its artifact. -/
def Strays (shop : Workshop σ) (name : String) (calls : List Call) (first second : Path) : Prop :=
  (∀ answer ∈ (shop.answers (.get name :: calls)).1, answer.toOption.isSome) ∧
  (∀ visit ∈ shop.log ((.get name :: calls).map .call), ∀ other ∈ shop.log ((.get name :: calls).map .call),
    visit.source.components ≠ other.artifact.components) ∧
  shop.decider? name = some first ∧ (shop.ending ((.get name :: calls).map .call)).decider? name = some second

/-- A workshop with the given files that has looked in two directories. -/
def opened (extension : String) (storage : σ) (name : String) : Workshop σ :=
  Workshop.ending ⟨.new ⟨extension, true, true⟩, storage⟩ [.call (.getIn ⟨"a"⟩ "none"), .call (.getIn ⟨"b"⟩ name)]

/-- Pages whose sources have one name in their directories, where artifacts have others. -/
def mainPages : Workshop Memory :=
  opened "/main.prep" ((Memory.empty.insert ⟨"a/main.prep"⟩ "one".toList).insert ⟨"b/main.prep"⟩ "two".toList) "./"

/-- A page of which two artifacts are left, one of them damaged. -/
def savedPage : Workshop Memory :=
  let saved := Artifact.text "a/x/main.prep" (fingerprint "one".toList) "one".toList []
  let damaged := Artifact.fingerprintLabel ++ fingerprint "one".toList
  opened "/main.prep" (((Memory.empty.insert ⟨"a/x.generated"⟩ saved).insert ⟨"a/x/.generated"⟩ damaged).insert
    ⟨"b/x/main.prep"⟩ "two".toList) "none"

/-- Pages one of which is in a directory with the name that the artifact of the other one has elsewhere. -/
def pageInArtifact : Workshop FileTree :=
  opened ".prep" ((FileTree.empty.insert ⟨"a/x.prep"⟩ (Text.bytes "one".toList)).insert ⟨"b/x.generated/y.prep"⟩
    (Text.bytes "two".toList)) "none"

/-- A lookup can take another name to an earlier directory: by an artifact that is used for this name too, by a module
that makes a damaged artifact usable, and by an artifact on the way to where a source was missing. -/
theorem resolution_strays : Strays mainPages "" [.getIn ⟨"a"⟩ "./"] ⟨"b"⟩ ⟨"a"⟩ ∧
    Strays savedPage "x/" [.getIn ⟨"a"⟩ "x"] ⟨"b"⟩ ⟨"a"⟩ ∧
    Strays pageInArtifact "x.generated/y" [.getIn ⟨"a"⟩ "x"] ⟨"b"⟩ ⟨"a"⟩ := by
  unfold Strays
  decide +kernel

end Stencil
