import Stencil.Module.Builder
import Stencil.Proofs.Outcome

/-! Lookups of a builder in one directory, each with the state that it finds, and the runs of a builder as
sequences of such lookups. Main statement: what a lookup can do, whatever it finds. -/
namespace Stencil

variable {σ : Type}

def BuilderOptions.prepared (options : BuilderOptions) (source : List Char) : List Char :=
  if options.clean then cleanSource source else source

/-- A lookup of a name in one directory, with the state that it finds. -/
structure Visit (σ : Type) where
  shop : Workshop σ
  directory : Path
  name : String

/-- A module that was made anew, with the next number of its builder. -/
structure Workshop.Makes (shop : Workshop σ) (loaded : Loaded) (after : Workshop σ) : Prop where
  serial : loaded.serial = shop.builder.made + 1
  made : after.builder.made = shop.builder.made + 1

namespace Visit

def source (visit : Visit σ) : Path := visit.shop.builder.sourcePath visit.directory visit.name

def artifact (visit : Visit σ) : Path := Builder.artifactPath visit.directory visit.name

variable [Storage σ]

def found (visit : Visit σ) : Except Error (Option (List Char)) := visit.shop.read visit.source

def answer (visit : Visit σ) : Answer σ (Option Loaded) :=
  visit.shop.lookup visit.directory visit.name

def module? (visit : Visit σ) : Option Loaded := visit.answer.1.toOption.join

def after (visit : Visit σ) : Workshop σ := visit.answer.2

def Records (visit : Visit σ) (artifact : Artifact) : Prop :=
  ∃ text, visit.shop.read visit.artifact = .ok (some text) ∧ Artifact.parse? text = some artifact

/-- The fingerprint of the source, or the one its artifact records if the source is missing. -/
inductive Wants (visit : Visit σ) : List Char → Prop
  | source {source : List Char} (found : visit.found = .ok (some source)) :
      Wants visit (fingerprint source)
  | artifact {artifact : Artifact} (missing : visit.found = .ok none)
      (persist : visit.shop.builder.options.persist = true) (records : visit.Records artifact) :
      Wants visit artifact.fingerprint

theorem Wants.of_found {visit : Visit σ} {wanted source : List Char} (wants : visit.Wants wanted)
    (found : visit.found = .ok (some source)) : wanted = fingerprint source := by
  cases wants with
  | source other =>
    rw [found] at other
    cases other
    rfl
  | artifact missing _ _ =>
    rw [found] at missing
    cases missing

/-- What a lookup can do: give nothing, give the module kept, restore one, or compile one. -/
inductive Outcome (visit : Visit σ) : Option Loaded → Workshop σ → Prop
  | nothing {after : Workshop σ} (options : after.builder.options = visit.shop.builder.options)
      (modules : after.builder.modules = visit.shop.builder.modules)
      (storage : after.storage = visit.shop.storage) : Outcome visit none after
  | kept {after : Workshop σ} {loaded : Loaded} (wants : visit.Wants loaded.module.fingerprint)
      (kept : visit.shop.builder.kept? visit.source = some loaded) (unchanged : after = visit.shop) :
      Outcome visit (some loaded) after
  | restored {after : Workshop σ} {loaded : Loaded} {artifact : Artifact}
      (wants : visit.Wants artifact.fingerprint) (records : visit.Records artifact)
      (stale : visit.shop.builder.keptFresh? visit.source artifact.fingerprint = none)
      (module : artifact.module? visit.name = some loaded.module)
      (options : after.builder.options = visit.shop.builder.options)
      (modules : after.builder.modules =
        put visit.source.components loaded visit.shop.builder.modules)
      (storage : after.storage = visit.shop.storage)
      (persist : visit.shop.builder.options.persist = true)
      (makes : visit.shop.Makes loaded after) : Outcome visit (some loaded) after
  | compiled {after : Workshop σ} {loaded : Loaded} {source : List Char}
      (found : visit.found = .ok (some source))
      (fingerprint : loaded.module.fingerprint = fingerprint source)
      (compiled : Template.compile (visit.shop.builder.options.prepared source) =
        .ok loaded.module.template)
      (options : after.builder.options = visit.shop.builder.options)
      (modules : after.builder.modules =
        put visit.source.components loaded visit.shop.builder.modules)
      (written : if visit.shop.builder.options.persist then
          Storage.write visit.shop.storage visit.artifact
            (Artifact.text visit.source.text loaded.module.fingerprint loaded.module.template.source
              loaded.module.template.listing) = .ok after.storage
        else after.storage = visit.shop.storage)
      (stale : visit.shop.builder.keptFresh? visit.source (Stencil.fingerprint source) = none)
      (makes : visit.shop.Makes loaded after) (name : loaded.module.name = visit.name) :
      Outcome visit (some loaded) after

end Visit

theorem Artifact.module?_eq_some {artifact : Artifact} {name : String} {module : Module}
    (restored : artifact.module? name = some module) :
    module.name = name ∧ module.fingerprint = artifact.fingerprint := by
  obtain ⟨_, _, restored⟩ := Option.bind_eq_some_iff.mp restored
  obtain ⟨_, _, restored⟩ := Option.bind_eq_some_iff.mp restored
  rw [← Option.some.inj restored]
  exact ⟨rfl, rfl⟩

theorem Builder.keptFresh?_eq_some {builder : Builder} {path : Path} {fingerprint : List Char}
    {loaded : Loaded} : builder.keptFresh? path fingerprint = some loaded ↔
      builder.kept? path = some loaded ∧ loaded.module.fingerprint = fingerprint := by
  rw [Builder.keptFresh?, Option.filter_eq_some_iff, decide_eq_true_eq]

theorem Builder.keptFresh?_eq_none {builder : Builder} {path : Path} {fingerprint : List Char}
    (stale : builder.keptFresh? path fingerprint = none) {kept : Loaded} (known : builder.kept? path = some kept) :
    kept.module.fingerprint ≠ fingerprint := by
  intro same
  rw [Builder.keptFresh?_eq_some.mpr ⟨known, same⟩] at stale
  cases stale

namespace Workshop

variable [Storage σ]

theorem read_eq_ok {shop : Workshop σ} {path : Path} {content : Option (List Char)} :
    shop.read path = .ok content ↔ Storage.read shop.storage path = .ok content := by
  rw [read]
  cases Storage.read shop.storage path with
  | error cause => exact ⟨nofun, nofun⟩
  | ok found =>
    refine ⟨fun same => ?_, fun same => ?_⟩
    · exact congrArg Except.ok (Except.ok.inj same)
    · exact congrArg Except.ok (Except.ok.inj same)

theorem persist_eq_ok {shop : Workshop σ} {directory path : Path} {module : Module} {storage : σ}
    (ok : shop.persist directory path module = .ok storage) :
    if shop.builder.options.persist then
      Storage.write shop.storage (Builder.artifactPath directory module.name)
        (Artifact.text path.text module.fingerprint module.template.source module.template.listing) =
          .ok storage
    else storage = shop.storage := by
  unfold persist at ok
  cases persist : shop.builder.options.persist with
  | false =>
    rw [persist] at ok
    cases ok
    rfl
  | true =>
    rw [persist] at ok
    dsimp only [Bool.not_true] at ok
    rw [if_neg (by decide)] at ok
    cases written : Storage.write shop.storage (Builder.artifactPath directory module.name)
        (Artifact.text path.text module.fingerprint module.template.source module.template.listing) with
    | error cause => rw [written] at ok; contradiction
    | ok after => rw [written] at ok; cases ok; rfl

theorem readFresh_eq_ok {shop : Workshop σ} {directory : Path} {name : String}
    {fingerprint : List Char} {module : Module}
    (ok : shop.readFresh directory name fingerprint = .ok (some module)) :
    ∃ artifact, Visit.Records ⟨shop, directory, name⟩ artifact ∧
      artifact.fingerprint = fingerprint ∧ artifact.module? name = some module ∧
      shop.builder.options.persist = true := by
  unfold readFresh at ok
  split at ok
  · cases ok
  next persist =>
    obtain ⟨text, read, ok⟩ := bind_eq_ok ok
    cases text with
    | none => cases ok
    | some text =>
      dsimp only at ok
      cases parsed : Artifact.parse? text with
      | none => rw [parsed] at ok; cases ok
      | some artifact =>
        rw [parsed] at ok
        dsimp only at ok
        split at ok
        next same =>
          exact ⟨artifact, ⟨text, read, parsed⟩, same, Except.ok.inj ok, by simpa using persist⟩
        next => cases ok

theorem loadArtifact_none {shop : Workshop σ} {directory path : Path} {name : String}
    (none : (shop.loadArtifact directory name path).1 = .ok none) :
    (shop.loadArtifact directory name path).2 = shop := by
  unfold loadArtifact at none ⊢
  split at none
  next => cases none
  next =>
    split at none
    next => rfl
    next =>
      split at none
      next => cases none
      next =>
        split at none
        next => rfl
        next => cases none

end Workshop

namespace Visit

variable [Storage σ]

theorem outcome_compile {visit : Visit σ} {source : List Char} (found : visit.found = .ok (some source))
    (stale : visit.shop.builder.keptFresh? visit.source (fingerprint source) = none) :
    let answer := visit.shop.compile visit.directory visit.name visit.source source (fingerprint source)
    visit.Outcome answer.1.toOption answer.2 := by
  dsimp only [Workshop.compile]
  cases compiled : Template.compile (visit.shop.builder.options.prepared source) with
  | error e =>
    rw [BuilderOptions.prepared] at compiled
    rw [compiled]
    exact .nothing rfl rfl rfl
  | ok template =>
    have same := compiled
    rw [BuilderOptions.prepared] at same
    rw [same]
    dsimp only
    split
    next e failed => exact .nothing rfl rfl rfl
    next storage written =>
      have wrote := Workshop.persist_eq_ok written
      dsimp only at wrote
      have count : visit.shop.builder.compilations + 1 + visit.shop.builder.restorations =
          visit.shop.builder.made + 1 := Nat.add_right_comm _ _ _
      exact .compiled found rfl compiled rfl rfl wrote stale ⟨count, count⟩ rfl

theorem outcome_load {visit : Visit σ} {source : List Char} (found : visit.found = .ok (some source)) :
    let answer := visit.shop.load visit.directory visit.name visit.source source
    visit.Outcome answer.1.toOption answer.2 := by
  dsimp only [Workshop.load]
  cases fresh : visit.shop.builder.keptFresh? visit.source (fingerprint source) with
  | some loaded =>
    obtain ⟨kept, same⟩ := Builder.keptFresh?_eq_some.mp fresh
    exact .kept (same ▸ .source found) kept rfl
  | none =>
    dsimp only
    cases read : visit.shop.readFresh visit.directory visit.name (fingerprint source) with
    | error e => exact .nothing rfl rfl rfl
    | ok restored =>
      cases restored with
      | none => exact outcome_compile found fresh
      | some module =>
        obtain ⟨artifact, records, same, made, persist⟩ := Workshop.readFresh_eq_ok read
        rw [← same] at fresh
        exact .restored (same ▸ .source found) records fresh made rfl rfl rfl persist ⟨rfl, rfl⟩

theorem outcome_loadArtifact {visit : Visit σ} (missing : visit.found = .ok none)
    (persist : visit.shop.builder.options.persist = true) :
    let answer := visit.shop.loadArtifact visit.directory visit.name visit.source
    visit.Outcome answer.1.toOption.join answer.2 := by
  dsimp only [Workshop.loadArtifact]
  cases read : visit.shop.read (Builder.artifactPath visit.directory visit.name) with
  | error e => exact .nothing rfl rfl rfl
  | ok text =>
    dsimp only
    cases parsed : text.bind Artifact.parse? with
    | none => exact .nothing rfl rfl rfl
    | some artifact =>
      obtain ⟨content, rfl, parsed⟩ := Option.bind_eq_some_iff.mp parsed
      have records : visit.Records artifact := ⟨content, read, parsed⟩
      have wants : visit.Wants artifact.fingerprint := .artifact missing persist records
      dsimp only
      cases fresh : visit.shop.builder.keptFresh? visit.source artifact.fingerprint with
      | some loaded =>
        obtain ⟨kept, same⟩ := Builder.keptFresh?_eq_some.mp fresh
        exact .kept (same ▸ wants) kept rfl
      | none =>
        dsimp only
        cases made : artifact.module? visit.name with
        | none => exact .nothing rfl rfl rfl
        | some module => exact .restored wants records fresh made rfl rfl rfl persist ⟨rfl, rfl⟩

theorem answer_eq (visit : Visit σ) : visit.answer =
    match visit.found with
    | .error e => (.error e, visit.shop)
    | .ok (some source) =>
      match visit.shop.load visit.directory visit.name visit.source source with
      | (.ok loaded, after) => (.ok (some loaded), after)
      | (.error e, after) => (.error e, after)
    | .ok none =>
      if visit.shop.builder.options.persist then
        visit.shop.loadArtifact visit.directory visit.name visit.source
      else (.ok none, visit.shop) := rfl

theorem outcome (visit : Visit σ) : visit.Outcome visit.module? visit.after := by
  rw [module?, after, answer_eq]
  cases found : visit.found with
  | error e => exact .nothing rfl rfl rfl
  | ok text =>
    cases text with
    | some source =>
      have loads := outcome_load found
      dsimp only at loads ⊢
      cases answer : visit.shop.load visit.directory visit.name visit.source source with
      | mk result after =>
        rw [answer] at loads
        cases result with
        | error e => exact loads
        | ok loaded => exact loads
    | none =>
      dsimp only
      split
      next persist => exact outcome_loadArtifact found persist
      next => exact .nothing rfl rfl rfl

/-- A lookup that finds nothing changes nothing. -/
theorem after_of_none {visit : Visit σ} (none : visit.answer.1 = .ok none) : visit.after = visit.shop := by
  rw [after]
  rw [answer_eq] at none ⊢
  cases found : visit.found with
  | error e => rfl
  | ok text =>
    rw [found] at none
    cases text with
    | some source =>
      dsimp only at none
      split at none
      next => cases none
      next => cases none
    | none =>
      dsimp only at none ⊢
      split at none
      next persist =>
        rw [if_pos persist]
        exact Workshop.loadArtifact_none none
      next persist => rw [if_neg persist]

end Visit
end Stencil
