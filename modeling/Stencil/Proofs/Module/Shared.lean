import Stencil.Proofs.Module.Freshness

/-! Builders that share one storage, so that each may restore what another has written. Main statement: the
module of a source that was found is what compiling the source gives, with the options of the builder itself
or, if both write artifacts, of another one. Artifacts do not record options. -/
namespace Stencil

variable {ι σ : Type}

/-- Builders with the storage that they share. -/
structure Commons (ι σ : Type) where
  builders : ι → Builder
  storage : σ

namespace Commons

def new (options : ι → BuilderOptions) (storage : σ) : Commons ι σ :=
  ⟨fun owner => .new (options owner), storage⟩

def shop (commons : Commons ι σ) (owner : ι) : Workshop σ := ⟨commons.builders owner, commons.storage⟩

variable [DecidableEq ι]

/-- The state in which a builder leaves its workshop. -/
def leave (commons : Commons ι σ) (owner : ι) (shop : Workshop σ) : Commons ι σ :=
  ⟨fun other => if other = owner then shop.builder else commons.builders other, shop.storage⟩

def log [Storage σ] (commons : Commons ι σ) : List (ι × Step σ) → List (ι × Visit σ)
  | [] => []
  | (owner, .call call) :: rest =>
    ((commons.shop owner).visits call).map (owner, ·) ++
      log (commons.leave owner ((commons.shop owner).ask call).2) rest
  | (_, .outside change) :: rest => log { commons with storage := change commons.storage } rest

end Commons

/-- Whose modules a builder may come to use: its own, and through artifacts those of others. -/
def Serves (options : ι → BuilderOptions) (maker user : ι) : Prop :=
  maker = user ∨ (options maker).persist = true ∧ (options user).persist = true

def Vetted (options : ι → BuilderOptions) (sources : List (List Char)) (user : ι) (module : Module) : Prop :=
  ∃ maker, Serves options maker user ∧ Genuine (options maker) sources module

/-- A builder that has only modules that it may use. -/
structure Equipped (options : ι → BuilderOptions) (sources : List (List Char)) (user : ι) (builder : Builder) :
    Prop where
  configured : builder.options = options user
  kept : ∀ key loaded, builder.modules.lookup key = some loaded → Vetted options sources user loaded.module

variable [Storage σ]

/-- A storage whose artifacts were all written by one of the builders. -/
structure Stocked (files : σ → List Component → Option (List Char)) (options : ι → BuilderOptions)
    (log : List (Visit σ)) (storage : σ) : Prop where
  written : ∀ visit ∈ log, ∀ text, files storage visit.artifact.components = some text →
    ∃ maker module, (options maker).persist = true ∧ Genuine (options maker) (sourcesOf log) module ∧
      Artifact.parse? text = some ⟨module.fingerprint, some module.template.source⟩

section Lookup

variable {files : σ → List Component → Option (List Char)} {options : ι → BuilderOptions}
  {log : List (Visit σ)} {visit : Visit σ} {user : ι}

theorem Equipped.gives (faithful : Faithful files) (stocked : Stocked files options log visit.shop.storage)
    (equipped : Equipped options (sourcesOf log) user visit.shop.builder) (member : visit ∈ log)
    {loaded : Loaded} (gives : visit.module? = some loaded) :
    Vetted options (sourcesOf log) user loaded.module ∧ visit.Wants loaded.module.fingerprint := by
  have outcome := visit.outcome
  rw [gives] at outcome
  cases outcome with
  | kept wants kept => exact ⟨equipped.kept _ _ kept, wants⟩
  | restored wants records _ made _ _ _ persist =>
    obtain ⟨text, read, parsed⟩ := records
    obtain ⟨maker, module, writes, genuine, recorded⟩ :=
      stocked.written visit member text (stored_of_read faithful read)
    cases parsed.symm.trans recorded
    obtain ⟨genuine, same⟩ := genuine.restore made
    rw [equipped.configured] at persist
    rw [same]
    exact ⟨⟨maker, .inr ⟨writes, persist⟩, genuine⟩, wants⟩
  | compiled found same compiled =>
    rw [equipped.configured] at compiled
    refine ⟨⟨user, .inl rfl, _, mem_sourcesOf member found, same, compiled⟩, ?_⟩
    rw [same]
    exact .source found

theorem Equipped.visited (faithful : Faithful files) (stocked : Stocked files options log visit.shop.storage)
    (equipped : Equipped options (sourcesOf log) user visit.shop.builder) (member : visit ∈ log) :
    Equipped options (sourcesOf log) user visit.after.builder where
  configured := visit.options_after.trans equipped.configured
  kept := by
    intro key loaded kept
    cases gives : visit.module? with
    | none =>
      rw [Visit.modules_after_none gives] at kept
      exact equipped.kept key loaded kept
    | some given =>
      rw [Visit.lookup_after gives] at kept
      split at kept
      next =>
        cases kept
        exact (equipped.gives faithful stocked member gives).1
      next => exact equipped.kept key loaded kept

/-- A lookup writes at most the artifact of a module that it has compiled. -/
theorem Stocked.visited (faithful : Faithful files) (stocked : Stocked files options log visit.shop.storage)
    (equipped : Equipped options (sourcesOf log) user visit.shop.builder) (member : visit ∈ log)
    (unbroken : '\n' ∉ visit.source.text.toList) : Stocked files options log visit.after.storage := by
  have outcome := visit.outcome
  generalize visit.module? = given at outcome
  cases outcome with
  | nothing _ _ storage => rwa [storage]
  | kept _ _ unchanged => rwa [unchanged]
  | restored _ _ _ _ _ _ storage => rwa [storage]
  | @compiled _ loaded source found same compiled _ _ written =>
    rw [equipped.configured] at compiled written
    split at written
    next persist =>
      obtain ⟨here, elsewhere⟩ := faithful.write written
      refine ⟨fun other inLog text stored => ?_⟩
      by_cases there : other.artifact.components = visit.artifact.components
      · rw [there, here] at stored
        cases stored
        refine ⟨user, loaded.module, persist, ⟨source, mem_sourcesOf member found, same, compiled⟩, ?_⟩
        rw [same]
        exact Artifact.parse?_text unbroken (fingerprint_ne_nil source) (fingerprint_sharp source) _ _
      · rw [elsewhere _ there] at stored
        exact stocked.written other inLog text stored
    next => rwa [written]

theorem Stocked.moved {first next : Workshop σ} (quiet : Quiet files log first next)
    (stocked : Stocked files options log first.storage) : Stocked files options log next.storage where
  written := by
    intro visit member text stored
    rw [quiet.artifacts visit member] at stored
    exact stocked.written visit member text stored

omit [Storage σ] in
theorem Equipped.moved {first next : Workshop σ} {sources : List (List Char)}
    (quiet : Quiet files log first next) (equipped : Equipped options sources user first.builder) :
    Equipped options sources user next.builder where
  configured := quiet.options.trans equipped.configured
  kept := by
    rw [quiet.modules]
    exact equipped.kept

end Lookup

section Run

variable {files : σ → List Component → Option (List Char)} {options : ι → BuilderOptions}
  {log : List (Visit σ)}

/-- What holds between the steps of a run: every builder has only modules that it may use, and the storage has
only artifacts of the builders. -/
structure Commons.Sound (files : σ → List Component → Option (List Char)) (options : ι → BuilderOptions)
    (log : List (Visit σ)) (commons : Commons ι σ) : Prop where
  stocked : Stocked files options log commons.storage
  equipped : ∀ owner, Equipped options (sourcesOf log) owner (commons.builders owner)

theorem Commons.Sound.call [DecidableEq ι] (faithful : Faithful files) {commons : Commons ι σ}
    (sound : commons.Sound files options log) (owner : ι) (call : Call)
    (listed : ∀ visit ∈ (commons.shop owner).visits call, visit ∈ log)
    (unbroken : ∀ visit ∈ log, '\n' ∉ visit.source.text.toList) :
    (∀ visit ∈ (commons.shop owner).visits call, Stocked files options log visit.shop.storage ∧
      Equipped options (sourcesOf log) owner visit.shop.builder) ∧
    (commons.leave owner ((commons.shop owner).ask call).2).Sound files options log := by
  have course : Course (Quiet files log) (commons.shop owner) ((commons.shop owner).visits call)
      ((commons.shop owner).ask call).2 := Workshop.course_ask quiet_addDirectory _ call
  obtain ⟨throughout, stocked, equipped⟩ := course.preserves
    (fun shop => Stocked files options log shop.storage ∧ Equipped options (sourcesOf log) owner shop.builder)
    (fun quiet both => ⟨both.1.moved quiet, both.2.moved quiet⟩)
    (fun member both => ⟨both.1.visited faithful both.2 (listed _ member) (unbroken _ (listed _ member)),
      both.2.visited faithful both.1 (listed _ member)⟩)
    ⟨sound.stocked, sound.equipped owner⟩
  refine ⟨throughout, stocked, fun other => ?_⟩
  by_cases same : other = owner
  · subst same
    simpa [Commons.leave] using equipped
  · simpa [Commons.leave, same] using sound.equipped other

theorem Commons.Sound.outside {commons : Commons ι σ} (sound : commons.Sound files options log) {change : σ → σ}
    (untouched : ∀ visit ∈ log, files (change commons.storage) visit.artifact.components =
      files commons.storage visit.artifact.components) :
    Sound files options log { commons with storage := change commons.storage } where
  stocked := by
    refine ⟨fun visit member text stored => ?_⟩
    rw [untouched visit member] at stored
    exact sound.stocked.written visit member text stored
  equipped := sound.equipped

theorem Commons.Sound.run [DecidableEq ι] (faithful : Faithful files) {steps : List (ι × Step σ)}
    {commons : Commons ι σ} (sound : commons.Sound files options log)
    (listed : ∀ entry ∈ commons.log steps, entry.2 ∈ log)
    (untouched : ∀ change, .outside change ∈ steps.map Prod.snd → ∀ (storage : σ), ∀ visit ∈ log,
      files (change storage) visit.artifact.components = files storage visit.artifact.components)
    (unbroken : ∀ visit ∈ log, '\n' ∉ visit.source.text.toList) :
    ∀ entry ∈ commons.log steps, Stocked files options log entry.2.shop.storage ∧
      Equipped options (sourcesOf log) entry.1 entry.2.shop.builder := by
  induction steps generalizing commons with
  | nil => exact List.forall_mem_nil _
  | cons step rest ih =>
    obtain ⟨owner, step⟩ := step
    have later := fun change member => untouched change (List.mem_cons_of_mem _ member)
    cases step with
    | call call =>
      rw [Commons.log] at listed ⊢
      obtain ⟨first, others⟩ := List.forall_mem_append.mp listed
      have own (visit : Visit σ) (member : visit ∈ (commons.shop owner).visits call) : visit ∈ log :=
        first (owner, visit) (List.mem_map_of_mem member)
      obtain ⟨throughout, behind⟩ := sound.call faithful owner call own unbroken
      exact List.forall_mem_append.mpr ⟨List.forall_mem_map.mpr throughout, ih behind others later⟩
    | outside change =>
      rw [Commons.log] at listed ⊢
      exact ih (sound.outside (untouched change List.mem_cons_self commons.storage)) listed later

theorem Commons.sound_new {storage : σ} (absent : ∀ visit ∈ log, files storage visit.artifact.components = none) :
    (Commons.new options storage).Sound files options log where
  stocked := by
    refine ⟨fun visit member text stored => ?_⟩
    have none : files storage visit.artifact.components = some text := stored
    rw [absent visit member] at none
    cases none
  equipped := fun _ => ⟨rfl, fun _ _ kept => by cases kept⟩

end Run

/-- The module of a source that was found has its fingerprint, and its template is what compiling the source
gives with the options of the builder itself or, if both write artifacts, of another one. So it is what the
builder itself would compile if none of those builders prepares the source in another way. -/
theorem Commons.modules_given_in_shared_run [DecidableEq ι]
    {files : σ → List Component → Option (List Char)} (faithful : Faithful files) (options : ι → BuilderOptions)
    (storage : σ) (steps : List (ι × Step σ)) (log : List (ι × Visit σ))
    (run : log = (Commons.new options storage).log steps)
    (undisturbed : Undisturbed files storage (steps.map Prod.snd) (log.map Prod.snd)) :
    (∀ user visit, (user, visit) ∈ log → ∀ source loaded, visit.found = .ok (some source) →
      visit.module? = some loaded → loaded.module.fingerprint = fingerprint source ∧
        (∃ maker, Serves options maker user ∧
          Template.compile ((options maker).prepared source) = .ok loaded.module.template) ∧
        ((∀ maker, Serves options maker user →
            (options maker).prepared source = (options user).prepared source) →
          Template.compile ((options user).prepared source) = .ok loaded.module.template)) ∧
    ∀ (shop : Workshop σ) (call : Call) loaded, (shop.ask call).1 = .ok loaded →
      ∃ before visit, shop.visits call = before ++ [visit] ∧ visit.module? = some loaded ∧
        ∀ earlier ∈ before, earlier.module? = none := by
  refine ⟨?_, fun _ _ _ => Workshop.ask_eq_ok⟩
  intro user visit member source loaded found gives
  have inLog : visit ∈ log.map Prod.snd := List.mem_map_of_mem member
  have start : (Commons.new options storage).Sound files options (log.map Prod.snd) :=
    Commons.sound_new undisturbed.absent
  have listed : ∀ entry ∈ (Commons.new options storage).log steps, entry.2 ∈ log.map Prod.snd := by
    rw [← run]
    exact fun entry member => List.mem_map_of_mem member
  obtain ⟨stocked, equipped⟩ := start.run faithful listed undisturbed.untouched undisturbed.unbroken
    (user, visit) (run ▸ member)
  obtain ⟨⟨maker, serves, genuine⟩, wants⟩ := equipped.gives faithful stocked inLog gives
  have same := wants.of_found found
  have compiled := genuine.compiles undisturbed.distinct (mem_sourcesOf inLog found) same
  refine ⟨same, ⟨maker, serves, compiled⟩, fun alike => ?_⟩
  rw [← alike maker serves]
  exact compiled

namespace Memory

def relay (text : List Char) : List (Bool × Step Memory) :=
  [(false, .outside (·.insert ⟨"d/x.prep"⟩ text)), (false, .call (.getIn ⟨"d"⟩ "x")),
    (true, .call (.getIn ⟨"d"⟩ "x"))]

def relayLog (first second : BuilderOptions) (text : List Char) : List (Bool × Visit Memory) :=
  (Commons.new (fun owner => if owner then second else first) .empty).log (relay text)

theorem undisturbed_relay {text : List Char} {log : List (Bool × Visit Memory)}
    (apart : ∀ entry ∈ log, '\n' ∉ entry.2.source.text.toList ∧
      entry.2.artifact.components ≠ Path.components ⟨"d/x.prep"⟩)
    (distinct : Distinct (sourcesOf (log.map Prod.snd))) :
    Undisturbed stored .empty ((relay text).map Prod.snd) (log.map Prod.snd) where
  absent := fun _ _ => rfl
  untouched := by
    intro change member memory
    have kind : change = (·.insert ⟨"d/x.prep"⟩ text) := by simpa [relay] using member
    rw [kind]
    exact List.forall_mem_map.mpr fun entry inLog => lookup_put_of_ne (apart entry inLog).2 _ _
  unbroken := List.forall_mem_map.mpr fun entry inLog => (apart entry inLog).1
  distinct := distinct

/-- Who looks up, what is found, the source of the module given, and how often the builder has restored one. -/
def answers (log : List (Bool × Visit Memory)) :
    List (Bool × Option (Option (List Char)) × Option (List Char) × Nat) :=
  log.map fun entry => (entry.1, entry.2.found.toOption,
    entry.2.module?.map (·.module.template.source), entry.2.after.builder.restorations)

theorem restored_of_answers {log : List (Bool × Visit Memory)} {user : Bool} {found text : List Char} {count : Nat}
    (answered : (user, some (some found), some text, count) ∈ answers log) :
    ∃ visit loaded, (user, visit) ∈ log ∧ visit.found = .ok (some found) ∧ visit.module? = some loaded ∧
      loaded.module.template.source = text ∧ visit.after.builder.restorations = count := by
  obtain ⟨⟨owner, visit⟩, member, same⟩ := List.mem_map.mp answered
  simp only [Prod.mk.injEq] at same
  obtain ⟨rfl, content, given, restored⟩ := same
  obtain ⟨loaded, gives, origin⟩ := Option.map_eq_some_iff.mp given
  refine ⟨visit, loaded, member, ?_, gives, origin, restored⟩
  cases read : visit.found with
  | error e => rw [read] at content; cases content
  | ok other =>
    rw [read] at content
    exact congrArg Except.ok (Option.some.inj content)

theorem module_restored_by_another : ∃ visit loaded, (true, visit) ∈ relayLog .default .default "a  \nb".toList ∧
    visit.found = .ok (some "a  \nb".toList) ∧ visit.module? = some loaded ∧
    visit.after.builder.restorations = 1 ∧
    Template.compile (BuilderOptions.default.prepared "a  \nb".toList) = .ok loaded.module.template := by
  obtain ⟨apart, distinct, answered⟩ : (∀ entry ∈ relayLog .default .default "a  \nb".toList,
      '\n' ∉ entry.2.source.text.toList ∧ entry.2.artifact.components ≠ Path.components ⟨"d/x.prep"⟩) ∧
      Distinct (sourcesOf ((relayLog .default .default "a  \nb".toList).map Prod.snd)) ∧
      (true, some (some "a  \nb".toList), some "a\nb".toList, 1) ∈
        answers (relayLog .default .default "a  \nb".toList) := by
    unfold Distinct
    decide +kernel
  obtain ⟨visit, loaded, member, found, gives, _, restored⟩ := restored_of_answers answered
  have given := Commons.modules_given_in_shared_run faithful _ .empty (relay "a  \nb".toList) _ rfl
    (undisturbed_relay apart distinct)
  obtain ⟨_, _, own⟩ := given.1 true visit member _ loaded found gives
  refine ⟨visit, loaded, member, found, gives, restored, own fun maker _ => ?_⟩
  cases maker <;> rfl

/-- A builder that cleans sources may restore a module that another one has compiled without cleaning. -/
theorem uncleaned_module_restored : Faithful stored ∧
    Undisturbed stored .empty ((relay "a  \nb".toList).map Prod.snd)
      ((relayLog ⟨".prep", true, false⟩ .default "a  \nb".toList).map Prod.snd) ∧
    ∃ visit loaded, (true, visit) ∈ relayLog ⟨".prep", true, false⟩ .default "a  \nb".toList ∧
      visit.found = .ok (some "a  \nb".toList) ∧ visit.module? = some loaded ∧
      Template.compile (BuilderOptions.default.prepared "a  \nb".toList) ≠ .ok loaded.module.template := by
  obtain ⟨apart, distinct, answered⟩ : (∀ entry ∈ relayLog ⟨".prep", true, false⟩ .default "a  \nb".toList,
      '\n' ∉ entry.2.source.text.toList ∧ entry.2.artifact.components ≠ Path.components ⟨"d/x.prep"⟩) ∧
      Distinct (sourcesOf ((relayLog ⟨".prep", true, false⟩ .default "a  \nb".toList).map Prod.snd)) ∧
      (true, some (some "a  \nb".toList), some "a  \nb".toList, 1) ∈
        answers (relayLog ⟨".prep", true, false⟩ .default "a  \nb".toList) := by
    unfold Distinct
    decide +kernel
  refine ⟨faithful, undisturbed_relay apart distinct, ?_⟩
  obtain ⟨visit, loaded, member, found, gives, text, _⟩ := restored_of_answers answered
  refine ⟨visit, loaded, member, found, gives, fun compiled => ?_⟩
  have prepared := text.symm.trans (source_of_compile compiled)
  exact absurd prepared (by decide)

end Memory

end Stencil
