import Stencil.Proofs.Module.Artifact
import Stencil.Proofs.Module.Run

/-! What a builder gives out stays true to the sources, through all changes of source files: an invariant
that links the modules kept, the artifacts written and the sources found. Main statement: a module of a
source that was found is what compiling the source gives, and a module of a missing source is the one that
was given last for its path, if source paths and artifact paths correspond. -/
namespace Stencil

variable {σ : Type} [Storage σ]

/-- A storage whose reads and writes that succeed are those of files with one text each, under the
components of their paths. A write that fails changes nothing. -/
structure Faithful (files : σ → List Component → Option (List Char)) : Prop where
  read : ∀ {storage : σ} {path found}, Storage.read storage path = .ok found →
    found = files storage path.components
  write : ∀ {storage after : σ} {path text}, Storage.write storage path text = .ok after →
    files after path.components = some text ∧
      ∀ other, other ≠ path.components → files after other = files storage other

def sourcesOf (log : List (Visit σ)) : List (List Char) :=
  log.filterMap fun visit => visit.found.toOption.join

/-- The module that was given last for a source path. -/
def latest? (key : List Component) (log : List (Visit σ)) : Option Loaded :=
  (log.filterMap fun visit => if visit.source.components = key then visit.module? else none).getLast?

/-- A module that was compiled from one of the given sources. -/
def Genuine (options : BuilderOptions) (sources : List (List Char)) (module : Module) : Prop :=
  ∃ source ∈ sources, module.fingerprint = fingerprint source ∧
    Template.compile (options.prepared source) = .ok module.template

/-- What holds of every state between the lookups of a log, behind those that are past. -/
structure Coherent (files : σ → List Component → Option (List Char)) (options : BuilderOptions)
    (log past : List (Visit σ)) (shop : Workshop σ) : Prop where
  configured : shop.builder.options = options
  latest : ∀ key, shop.builder.modules.lookup key = latest? key past
  genuine : ∀ key loaded, shop.builder.modules.lookup key = some loaded →
    Genuine options (sourcesOf log) loaded.module
  written : ∀ visit ∈ log, ∀ text, files shop.storage visit.artifact.components = some text →
    ∃ module, Genuine options (sourcesOf log) module ∧
      Artifact.parse? text = some ⟨module.fingerprint, some module.template.source⟩

def Distinct (sources : List (List Char)) : Prop :=
  ∀ source ∈ sources, ∀ other ∈ sources, fingerprint source = fingerprint other → source = other

theorem source_of_compile {source : List Char} {template : Template}
    (compiled : Template.compile source = .ok template) : template.source = source := by
  unfold Template.compile Template.parse at compiled
  cases nodes : parseNodes source with
  | error e => rw [nodes] at compiled; cases compiled
  | ok nodes' =>
    rw [nodes] at compiled
    dsimp only [Except.map] at compiled
    split at compiled
    · cases compiled; rfl
    · cases compiled

theorem Genuine.compiles {options : BuilderOptions} {sources : List (List Char)} {module : Module}
    (genuine : Genuine options sources module) (distinct : Distinct sources) {source : List Char}
    (found : source ∈ sources) (same : module.fingerprint = fingerprint source) :
    Template.compile (options.prepared source) = .ok module.template := by
  obtain ⟨origin, known, made, compiled⟩ := genuine
  rw [distinct source found origin known (same.symm.trans made)]
  exact compiled

/-- Restoring gives a genuine module back, under the name asked for. -/
theorem Genuine.restore {options : BuilderOptions} {sources : List (List Char)} {module restored : Module}
    (genuine : Genuine options sources module) {name : String}
    (made : Artifact.module? ⟨module.fingerprint, some module.template.source⟩ name = some restored) :
    Genuine options sources restored ∧ restored.fingerprint = module.fingerprint := by
  obtain ⟨origin, known, same, compiled⟩ := genuine
  have again : Template.compile module.template.source = .ok module.template := by
    rw [source_of_compile compiled]
    exact compiled
  have whole : restored = ⟨name, module.fingerprint, module.template⟩ := by
    dsimp only [Artifact.module?, Option.bind_eq_bind, Option.bind_some] at made
    rw [again] at made
    exact (Option.some.inj made).symm
  rw [whole]
  exact ⟨⟨origin, known, same, compiled⟩, rfl⟩

theorem mem_sourcesOf {log : List (Visit σ)} {visit : Visit σ} (member : visit ∈ log) {source : List Char}
    (found : visit.found = .ok (some source)) : source ∈ sourcesOf log := by
  refine List.mem_filterMap.mpr ⟨visit, member, ?_⟩
  rw [found]
  rfl

theorem latest?_append_self {log : List (Visit σ)} {visit : Visit σ} {loaded : Loaded}
    (gives : visit.module? = some loaded) :
    latest? visit.source.components (log ++ [visit]) = some loaded := by
  simp [latest?, List.filterMap_append, gives]

theorem latest?_append_of_ne {log : List (Visit σ)} {visit : Visit σ} {key : List Component}
    (other : visit.source.components ≠ key) : latest? key (log ++ [visit]) = latest? key log := by
  simp [latest?, List.filterMap_append, other]

theorem latest?_append_of_none {log : List (Visit σ)} {visit : Visit σ} (gives : visit.module? = none)
    (key : List Component) : latest? key (log ++ [visit]) = latest? key log := by
  simp [latest?, List.filterMap_append, gives]

section Lookup

variable {files : σ → List Component → Option (List Char)} {options : BuilderOptions}
  {log past : List (Visit σ)} {visit : Visit σ}

theorem stored_of_read (faithful : Faithful files) {shop : Workshop σ} {path : Path}
    {content : Option (List Char)} (read : shop.read path = .ok content) :
    files shop.storage path.components = content :=
  (faithful.read (Workshop.read_eq_ok.mp read)).symm

theorem Coherent.recorded (faithful : Faithful files) (coherent : Coherent files options log past visit.shop)
    (member : visit ∈ log) {artifact : Artifact} (records : visit.Records artifact) :
    ∃ module, Genuine options (sourcesOf log) module ∧
      artifact = ⟨module.fingerprint, some module.template.source⟩ := by
  obtain ⟨text, read, parsed⟩ := records
  obtain ⟨module, genuine, recorded⟩ := coherent.written visit member text (stored_of_read faithful read)
  exact ⟨module, genuine, Option.some.inj (parsed.symm.trans recorded)⟩

theorem Coherent.gives (faithful : Faithful files) (coherent : Coherent files options log past visit.shop)
    (member : visit ∈ log) {loaded : Loaded} (gives : visit.module? = some loaded) :
    Genuine options (sourcesOf log) loaded.module ∧ visit.Wants loaded.module.fingerprint := by
  have outcome := visit.outcome
  rw [gives] at outcome
  cases outcome with
  | kept wants kept => exact ⟨coherent.genuine _ _ kept, wants⟩
  | restored wants records _ made =>
    obtain ⟨module, genuine, rfl⟩ := coherent.recorded faithful member records
    obtain ⟨genuine, same⟩ := genuine.restore made
    rw [same]
    exact ⟨genuine, wants⟩
  | compiled found same compiled =>
    rw [coherent.configured] at compiled
    refine ⟨⟨_, mem_sourcesOf member found, same, compiled⟩, ?_⟩
    rw [same]
    exact .source found

/-- The modules behind a lookup are those before it, with the one that it gives. -/
theorem Visit.lookup_after {loaded : Loaded} (gives : visit.module? = some loaded) (key : List Component) :
    visit.after.builder.modules.lookup key =
      if key = visit.source.components then some loaded else visit.shop.builder.modules.lookup key := by
  have outcome := visit.outcome
  rw [gives] at outcome
  have placed (modules : visit.after.builder.modules =
      put visit.source.components loaded visit.shop.builder.modules) :
      visit.after.builder.modules.lookup key =
        if key = visit.source.components then some loaded
        else visit.shop.builder.modules.lookup key := by
    rw [modules]
    split
    next same => rw [same, lookup_put_self]
    next other => rw [lookup_put_of_ne other]
  cases outcome with
  | kept _ kept unchanged =>
    rw [unchanged]
    split
    next same => rw [same]; exact kept
    next => rfl
  | restored _ _ _ _ _ modules _ => exact placed modules
  | compiled _ _ _ _ modules _ => exact placed modules

theorem Visit.modules_after_none (gives : visit.module? = none) :
    visit.after.builder.modules = visit.shop.builder.modules := by
  have outcome := visit.outcome
  rw [gives] at outcome
  cases outcome with
  | nothing _ modules _ => exact modules

theorem Visit.options_after (visit : Visit σ) : visit.after.builder.options = visit.shop.builder.options := by
  have outcome := visit.outcome
  generalize visit.module? = given at outcome
  cases outcome with
  | nothing options _ _ => exact options
  | kept _ _ unchanged => rw [unchanged]
  | restored _ _ _ _ options _ _ => exact options
  | compiled _ _ _ options _ _ => exact options

theorem Workshop.options_of_calls (shop : Workshop σ) (calls : List Call) :
    ∀ visit ∈ shop.log (calls.map .call), visit.shop.builder.options = shop.builder.options :=
  ((shop.course_calls calls).preserves (fun next => next.builder.options = shop.builder.options)
    (fun widens same => widens.options.trans same) (fun {visit} _ same => visit.options_after.trans same) rfl).1

/-- A lookup writes, if anything, the artifact of the module that it gives for the source that it finds. -/
theorem Visit.storage_after (visit : Visit σ) : visit.after.storage = visit.shop.storage ∨
    visit.shop.builder.options.persist = true ∧ (∃ source, visit.found = .ok (some source)) ∧
      ∃ loaded, visit.module? = some loaded ∧ Storage.write visit.shop.storage visit.artifact
        (Artifact.text visit.source.text loaded.module.fingerprint loaded.module.template.source
          loaded.module.template.listing) = .ok visit.after.storage := by
  have outcome := visit.outcome
  generalize gives : visit.module? = given at outcome
  cases outcome with
  | nothing _ _ storage => exact .inl storage
  | kept _ _ unchanged => exact .inl (by rw [unchanged])
  | restored _ _ _ _ _ _ storage => exact .inl storage
  | compiled found _ _ _ _ written =>
    split at written
    next persist => exact .inr ⟨persist, ⟨_, found⟩, _, rfl, written⟩
    next => exact .inl written

/-- One lookup preserves what links the modules kept, the artifacts and the sources. -/
theorem Coherent.visited (faithful : Faithful files) (coherent : Coherent files options log past visit.shop)
    (member : visit ∈ log) (unbroken : '\n' ∉ visit.source.text.toList) :
    Coherent files options log (past ++ [visit]) visit.after where
  configured := visit.options_after.trans coherent.configured
  latest := by
    intro key
    cases gives : visit.module? with
    | none => rw [Visit.modules_after_none gives, latest?_append_of_none gives, coherent.latest]
    | some loaded =>
      rw [Visit.lookup_after gives]
      split
      next same => rw [same, latest?_append_self gives]
      next other => rw [latest?_append_of_ne (Ne.symm other), coherent.latest]
  genuine := by
    intro key loaded kept
    cases gives : visit.module? with
    | none =>
      rw [Visit.modules_after_none gives] at kept
      exact coherent.genuine key loaded kept
    | some given =>
      rw [Visit.lookup_after gives] at kept
      split at kept
      next =>
        cases kept
        exact (coherent.gives faithful member gives).1
      next => exact coherent.genuine key loaded kept
  written := by
    intro other inLog text stored
    rcases visit.storage_after with same | ⟨_, _, loaded, gives, wrote⟩
    · rw [same] at stored
      exact coherent.written other inLog text stored
    · obtain ⟨here, elsewhere⟩ := faithful.write wrote
      by_cases same : other.artifact.components = visit.artifact.components
      · rw [same, here] at stored
        cases stored
        obtain ⟨genuine, _⟩ := coherent.gives faithful member gives
        obtain ⟨source, _, fingerprint, _⟩ := id genuine
        refine ⟨loaded.module, genuine, ?_⟩
        rw [fingerprint]
        exact Artifact.parse?_text unbroken (fingerprint_ne_nil source) (fingerprint_sharp source) _ _
      · rw [elsewhere _ same] at stored
        exact coherent.written other inLog text stored

/-- Lookups of a log share a source path exactly if they share an artifact path. -/
def Corresponding (log : List (Visit σ)) : Prop :=
  ∀ visit ∈ log, ∀ other ∈ log, visit.source.components = other.source.components ↔
    visit.artifact.components = other.artifact.components

/-- Each artifact records the fingerprint of the module that is kept. -/
def Paired (files : σ → List Component → Option (List Char)) (log : List (Visit σ)) (shop : Workshop σ) :
    Prop :=
  ∀ visit ∈ log,
    ((files shop.storage visit.artifact.components).bind Artifact.parse?).map Artifact.fingerprint =
      (shop.builder.modules.lookup visit.source.components).map (·.module.fingerprint)

/-- The artifact behind a lookup that gives a module records the fingerprint of that module. -/
theorem Paired.recorded (faithful : Faithful files) (coherent : Coherent files options log past visit.shop)
    (paired : Paired files log visit.shop) (member : visit ∈ log)
    (unbroken : '\n' ∉ visit.source.text.toList) (persist : options.persist = true) {loaded : Loaded}
    (gives : visit.module? = some loaded) :
    ((files visit.after.storage visit.artifact.components).bind Artifact.parse?).map
      Artifact.fingerprint = some loaded.module.fingerprint := by
  have outcome := visit.outcome
  rw [gives] at outcome
  cases outcome with
  | kept _ kept unchanged =>
    rw [unchanged, paired visit member]
    exact congrArg (Option.map (·.module.fingerprint)) kept
  | restored _ records _ made _ _ storage =>
    obtain ⟨module, genuine, rfl⟩ := coherent.recorded faithful member records
    obtain ⟨text, read, parsed⟩ := records
    rw [storage, stored_of_read faithful read, Option.bind_some, parsed, (genuine.restore made).2]
    rfl
  | @compiled _ _ source _ fingerprint _ _ _ written =>
    rw [coherent.configured, if_pos persist] at written
    have sharp := fingerprint_sharp source
    have any := fingerprint_ne_nil source
    rw [← fingerprint] at sharp any
    rw [(faithful.write written).1, Option.bind_some, Artifact.parse?_text unbroken any sharp]
    rfl

theorem Paired.visited (faithful : Faithful files) (coherent : Coherent files options log past visit.shop)
    (corresponding : Corresponding log) (paired : Paired files log visit.shop) (member : visit ∈ log)
    (unbroken : '\n' ∉ visit.source.text.toList) (persist : options.persist = true) :
    Paired files log visit.after := by
  intro other inLog
  cases gives : visit.module? with
  | none =>
    rcases visit.storage_after with same | ⟨_, _, loaded, given, _⟩
    · rw [same, Visit.modules_after_none gives]
      exact paired other inLog
    · rw [gives] at given
      cases given
  | some loaded =>
    have related := corresponding other inLog visit member
    rw [Visit.lookup_after gives]
    split
    next same =>
      rw [related.mp same]
      exact paired.recorded faithful coherent member unbroken persist gives
    next differs =>
      rw [← paired other inLog]
      rcases visit.storage_after with same | ⟨_, _, _, _, wrote⟩
      · rw [same]
      · rw [(faithful.write wrote).2 _ fun same => differs (related.mpr same)]

/-- A module given for a missing source is the one that was given last for its path. -/
theorem Paired.gives_latest (coherent : Coherent files options log past visit.shop)
    (faithful : Faithful files) (paired : Paired files log visit.shop) (member : visit ∈ log)
    (missing : visit.found = .ok none) {loaded : Loaded} (gives : visit.module? = some loaded) :
    latest? visit.source.components past = some loaded := by
  rw [← coherent.latest]
  have outcome := visit.outcome
  rw [gives] at outcome
  cases outcome with
  | kept _ kept _ => exact kept
  | @restored _ _ artifact _ records stale _ _ _ _ =>
    obtain ⟨text, read, parsed⟩ := records
    have same := paired visit member
    rw [stored_of_read faithful read, Option.bind_some, parsed, Option.map_some] at same
    obtain ⟨kept, isKept, fresh⟩ := Option.map_eq_some_iff.mp same.symm
    rw [Builder.keptFresh?_eq_some.mpr ⟨isKept, fresh⟩] at stale
    cases stale
  | compiled found _ _ _ _ _ =>
    rw [missing] at found
    cases found

end Lookup

end Stencil
