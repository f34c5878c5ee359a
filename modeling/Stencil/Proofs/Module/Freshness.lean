import Stencil.Proofs.Module.Coherence
import Stencil.Proofs.Module.Path

/-! What the answers of a builder are worth in a run that others take part in. Main statement: a module of
a source that was found is what compiling the source gives, and a module of a missing source is the one
that was given last for its path, if source paths and artifact paths correspond. -/
namespace Stencil

variable {σ : Type}

/-- A change of state in which no lookup takes part. -/
structure Quiet (files : σ → List Component → Option (List Char)) (log : List (Visit σ))
    (first next : Workshop σ) : Prop where
  options : next.builder.options = first.builder.options
  modules : next.builder.modules = first.builder.modules
  artifacts : ∀ visit ∈ log,
    files next.storage visit.artifact.components = files first.storage visit.artifact.components

variable {files : σ → List Component → Option (List Char)} {options : BuilderOptions}
  {log past : List (Visit σ)} {first next : Workshop σ}

theorem quiet_addDirectory (shop : Workshop σ) (directory : Path) :
    Quiet files log shop { shop with builder := shop.builder.addDirectory directory } := by
  unfold Builder.addDirectory
  split
  · exact ⟨rfl, rfl, fun _ _ => rfl⟩
  · exact ⟨rfl, rfl, fun _ _ => rfl⟩

theorem Paired.moved (quiet : Quiet files log first next) (paired : Paired files log first) :
    Paired files log next := by
  intro visit member
  rw [quiet.artifacts visit member, quiet.modules]
  exact paired visit member

theorem corresponding_of_plain (configured : ∀ visit ∈ log, visit.shop.builder.options = options)
    (plain : PlainExtension options.extension) : Corresponding log := by
  intro visit member other otherMember
  rw [Visit.source, Visit.source, Builder.sourcePath, Builder.sourcePath, configured visit member,
    configured other otherMember]
  exact Path.join_components_iff plain plain_artifactExtension _ _ _ _

variable [Storage σ]

theorem Coherent.moved (quiet : Quiet files log first next)
    (coherent : Coherent files options log past first) : Coherent files options log past next where
  configured := quiet.options.trans coherent.configured
  latest := by
    rw [quiet.modules]
    exact coherent.latest
  genuine := by
    rw [quiet.modules]
    exact coherent.genuine
  written := by
    intro visit member text stored
    rw [quiet.artifacts visit member] at stored
    exact coherent.written visit member text stored

/-- A run in which others neither make nor change artifacts, nor use a path that breaks a line, and of
which no two sources have the same fingerprint. -/
structure Undisturbed (files : σ → List Component → Option (List Char)) (storage : σ)
    (steps : List (Step σ)) (log : List (Visit σ)) : Prop where
  absent : ∀ visit ∈ log, files storage visit.artifact.components = none
  untouched : ∀ change, .outside change ∈ steps → ∀ (storage : σ), ∀ visit ∈ log,
    files (change storage) visit.artifact.components = files storage visit.artifact.components
  unbroken : ∀ visit ∈ log, '\n' ∉ visit.source.text.toList
  distinct : Distinct (sourcesOf log)

section Run

variable {storage : σ} {steps : List (Step σ)}

theorem course_of_run (options : BuilderOptions)
    (undisturbed : Undisturbed files storage steps (Workshop.log ⟨.new options, storage⟩ steps)) :
    Course (Quiet files (Workshop.log ⟨.new options, storage⟩ steps)) ⟨.new options, storage⟩
      (Workshop.log ⟨.new options, storage⟩ steps) (Workshop.ending ⟨.new options, storage⟩ steps) := by
  apply Workshop.course_ending quiet_addDirectory
  intro change member shop
  exact ⟨rfl, rfl, undisturbed.untouched change member shop.storage⟩

theorem coherent_start (options : BuilderOptions) (absent : ∀ visit ∈ log,
    files storage visit.artifact.components = none) :
    Coherent files options log [] ⟨.new options, storage⟩ where
  configured := rfl
  latest := fun _ => rfl
  genuine := fun _ _ kept => by cases kept
  written := fun visit member _ stored => by
    rw [absent visit member] at stored
    cases stored

theorem coherent_of_run (faithful : Faithful files)
    (undisturbed : Undisturbed files storage steps (Workshop.log ⟨.new options, storage⟩ steps)) :
    ∀ before visit after, Workshop.log ⟨.new options, storage⟩ steps = before ++ visit :: after →
      Coherent files options (Workshop.log ⟨.new options, storage⟩ steps) before visit.shop := by
  have course := course_of_run options undisturbed
  apply course.holds (Coherent files options (Workshop.log ⟨.new options, storage⟩ steps))
    (fun quiet coherent => coherent.moved quiet) ?_ (coherent_start options undisturbed.absent)
  intro past visit member coherent
  exact coherent.visited faithful member (undisturbed.unbroken visit member)

theorem paired_of_run (faithful : Faithful files)
    (undisturbed : Undisturbed files storage steps (Workshop.log ⟨.new options, storage⟩ steps))
    (corresponding : Corresponding (Workshop.log ⟨.new options, storage⟩ steps))
    (persist : options.persist = true) {before after : List (Visit σ)} {visit : Visit σ}
    (listed : Workshop.log ⟨.new options, storage⟩ steps = before ++ visit :: after) :
    Paired files (Workshop.log ⟨.new options, storage⟩ steps) visit.shop := by
  have course := course_of_run options undisturbed
  have start : Paired files (Workshop.log ⟨.new options, storage⟩ steps) ⟨.new options, storage⟩ := by
    intro visit member
    rw [undisturbed.absent visit member]
    rfl
  have holds := course.holds
    (fun past shop => Coherent files options (Workshop.log ⟨.new options, storage⟩ steps) past shop ∧
      Paired files (Workshop.log ⟨.new options, storage⟩ steps) shop)
    (fun quiet both => ⟨both.1.moved quiet, both.2.moved quiet⟩)
    (fun member both => by
      have unbroken := undisturbed.unbroken _ member
      exact ⟨both.1.visited faithful member unbroken,
        both.2.visited faithful both.1 corresponding member unbroken persist⟩)
    ⟨coherent_start options undisturbed.absent, start⟩
  exact (holds before visit after listed).2

end Run

theorem persist_of_missing {visit : Visit σ} (missing : visit.found = .ok none) {loaded : Loaded}
    (gives : visit.module? = some loaded) : visit.shop.builder.options.persist = true := by
  rw [Visit.module?, Visit.answer_eq, missing] at gives
  dsimp only at gives
  split at gives
  next persist => exact persist
  next => cases gives

/-- What the lookups of a run give. A module of a source that was found is what compiling the source gives. A module of
a missing source is the one given last for its path, if source paths and artifact paths correspond, as they do with a
plain extension. A call gives the module of its last lookup. -/
structure ModulesGiven (options : BuilderOptions) (log : List (Visit σ)) : Prop where
  current : ∀ visit ∈ log, ∀ source loaded, visit.found = .ok (some source) → visit.module? = some loaded →
    loaded.module.fingerprint = fingerprint source ∧
      Template.compile (options.prepared source) = .ok loaded.module.template
  latest : Corresponding log → ∀ before visit after loaded, log = before ++ visit :: after →
    visit.found = .ok none → visit.module? = some loaded →
      latest? visit.source.components before = some loaded
  corresponding : PlainExtension options.extension → Corresponding log
  answered : ∀ (shop : Workshop σ) (call : Call) loaded, (shop.ask call).1 = .ok loaded →
    ∃ before visit, shop.visits call = before ++ [visit] ∧ visit.module? = some loaded ∧
      ∀ earlier ∈ before, earlier.module? = none

/-- Modules are given so in every run that is not disturbed from outside. -/
theorem modules_given_in_run {files : σ → List Component → Option (List Char)} (faithful : Faithful files)
    (options : BuilderOptions) (storage : σ) (steps : List (Step σ)) (log : List (Visit σ))
    (run : log = Workshop.log ⟨.new options, storage⟩ steps)
    (undisturbed : Undisturbed files storage steps log) : ModulesGiven options log := by
  subst run
  have coherent := coherent_of_run faithful undisturbed
  constructor
  case current =>
    intro visit member source loaded found gives
    obtain ⟨before, after, listed⟩ := List.append_of_mem member
    obtain ⟨genuine, wants⟩ := (coherent before visit after listed).gives faithful member gives
    have same := wants.of_found found
    exact ⟨same, genuine.compiles undisturbed.distinct (mem_sourcesOf member found) same⟩
  case latest =>
    intro corresponding before visit after loaded listed missing gives
    have here := coherent before visit after listed
    have persist := persist_of_missing missing gives
    rw [here.configured] at persist
    have paired := paired_of_run faithful undisturbed corresponding persist listed
    exact paired.gives_latest here faithful (by rw [listed]; simp) missing gives
  case corresponding =>
    intro plain
    refine corresponding_of_plain (fun visit member => ?_) plain
    obtain ⟨before, after, listed⟩ := List.append_of_mem member
    exact (coherent before visit after listed).configured
  case answered =>
    intro shop call loaded
    exact Workshop.ask_eq_ok

namespace Memory

def stored (memory : Memory) (key : List Component) : Option (List Char) := memory.files.lookup key

def remove (memory : Memory) (path : Path) : Memory := ⟨memory.files.filter (·.1 ≠ path.components)⟩

theorem faithful : Faithful stored where
  read := by
    intro memory path found read
    cases read
    rfl
  write := by
    intro memory after path text wrote
    cases wrote
    exact ⟨lookup_put_self _ _ _, fun other differs => lookup_put_of_ne differs _ _⟩

theorem stored_remove_of_ne {key : List Component} {path : Path} (other : key ≠ path.components)
    (memory : Memory) : (memory.remove path).stored key = memory.stored key := by
  obtain ⟨files⟩ := memory
  rw [stored, stored, remove]
  induction files with
  | nil => rfl
  | cons entry files ih =>
    obtain ⟨owner, text⟩ := entry
    rw [List.filter_cons, List.lookup_cons]
    split
    next => rw [List.lookup_cons, ih]
    next removed =>
      have same : owner = path.components := by simpa using removed
      have differs : (key == owner) = false := by simpa [same] using other
      rw [differs, ih]

/-- A source that is written, looked up, changed, looked up twice, removed, and looked up again. -/
def edited (path : Path) (first second third last : Call) : List (Step Memory) :=
  [.outside (·.insert path "one".toList), .call first, .outside (·.insert path "two".toList),
    .call second, .call third, .outside (·.remove path), .call last]

theorem undisturbed_edited {path : Path} {first second third last : Call} {log : List (Visit Memory)}
    (apart : ∀ visit ∈ log, '\n' ∉ visit.source.text.toList ∧
      visit.artifact.components ≠ path.components) (distinct : Distinct (sourcesOf log)) :
    Undisturbed stored .empty (edited path first second third last) log where
  absent := fun _ _ => rfl
  untouched := by
    intro change member memory visit inLog
    have other := (apart visit inLog).2
    have kinds : change = (·.insert path "one".toList) ∨ change = (·.insert path "two".toList) ∨
        change = (·.remove path) := by simpa [edited] using member
    rcases kinds with rfl | rfl | rfl
    · exact lookup_put_of_ne other _ _
    · exact lookup_put_of_ne other _ _
    · exact stored_remove_of_ne other memory
  unbroken := fun visit inLog => (apart visit inLog).1
  distinct := distinct

/-- What the lookups behind the first ones find, the sources of the modules they give, and the sources of
those that the first ones gave last for the same paths. -/
def ending (log : List (Visit Memory)) (count : Nat) :
    List (Option (Option (List Char)) × Option (List Char) × Option (List Char)) :=
  (log.drop count).map fun visit => (visit.found.toOption,
    visit.module?.map (·.module.template.source),
    (latest? visit.source.components (log.take count)).map (·.module.template.source))

theorem last_missing {log : List (Visit Memory)} {count : Nat} {text earlier : List Char}
    (ends : ending log count = [(some none, some text, some earlier)]) :
    ∃ visit loaded other, log = log.take count ++ [visit] ∧ visit.found = .ok none ∧
      visit.module? = some loaded ∧ loaded.module.template.source = text ∧
      latest? visit.source.components (log.take count) = some other ∧
      other.module.template.source = earlier := by
  obtain ⟨visit, listed, facts⟩ := List.map_eq_singleton_iff.mp ends
  rw [Prod.mk.injEq, Prod.mk.injEq] at facts
  obtain ⟨missing, given, last⟩ := facts
  obtain ⟨loaded, gives, same⟩ := Option.map_eq_some_iff.mp given
  obtain ⟨other, latest, origin⟩ := Option.map_eq_some_iff.mp last
  refine ⟨visit, loaded, other, ?_, ?_, gives, same, latest, origin⟩
  · rw [← listed, List.take_append_drop]
  · cases found : visit.found with
    | error e => rw [found] at missing; cases missing
    | ok content =>
      rw [found] at missing
      cases missing
      rfl

/-- The lookups of a page that is edited and removed. -/
def pageLog : List (Visit Memory) :=
  Workshop.log ⟨.new .default, .empty⟩
    (edited ⟨"d/x.prep"⟩ (.getIn ⟨"d"⟩ "x") (.get "x") (.get "x") (.get "x"))

theorem modules_given_of_page :
    (∀ visit ∈ pageLog, ∀ source loaded, visit.found = .ok (some source) →
      visit.module? = some loaded → loaded.module.fingerprint = fingerprint source ∧
        Template.compile (BuilderOptions.default.prepared source) = .ok loaded.module.template) ∧
    ∃ before visit loaded, pageLog = before ++ [visit] ∧ visit.found = .ok none ∧
      visit.module? = some loaded ∧ latest? visit.source.components before = some loaded := by
  obtain ⟨apart, distinct, ends⟩ : (∀ visit ∈ pageLog, '\n' ∉ visit.source.text.toList ∧
      visit.artifact.components ≠ Path.components ⟨"d/x.prep"⟩) ∧ Distinct (sourcesOf pageLog) ∧
      ending pageLog 3 = [(some none, some "two".toList, some "two".toList)] := by
    unfold Distinct
    decide +kernel
  have undisturbed : Undisturbed stored .empty
      (edited ⟨"d/x.prep"⟩ (.getIn ⟨"d"⟩ "x") (.get "x") (.get "x") (.get "x")) pageLog :=
    undisturbed_edited apart distinct
  have given := modules_given_in_run faithful .default .empty _ pageLog rfl undisturbed
  have plain : PlainExtension BuilderOptions.default.extension := ⟨by decide, by decide⟩
  obtain ⟨visit, loaded, _, listed, missing, gives, _⟩ := last_missing ends
  refine ⟨given.current, _, visit, loaded, listed, missing, gives, ?_⟩
  exact given.latest (given.corresponding plain) _ visit [] loaded listed missing gives

/-- The lookups of a page with an extension that is a path of its own. -/
def tangledLog : List (Visit Memory) :=
  Workshop.log ⟨.new ⟨"/main.prep", true, true⟩, .empty⟩
    (edited ⟨"d/x/main.prep"⟩ (.getIn ⟨"d"⟩ "x") (.getIn ⟨"d"⟩ "x/") (.getIn ⟨"d"⟩ "x")
      (.getIn ⟨"d"⟩ "x"))

/-- Two names may share a source and not an artifact. Then a missing source gives an older module. -/
theorem older_module_given :
    Faithful stored ∧
    Undisturbed stored .empty (edited ⟨"d/x/main.prep"⟩ (.getIn ⟨"d"⟩ "x") (.getIn ⟨"d"⟩ "x/")
      (.getIn ⟨"d"⟩ "x") (.getIn ⟨"d"⟩ "x")) tangledLog ∧
    (∀ visit ∈ tangledLog, ∀ other ∈ tangledLog,
      visit.source.components ≠ other.artifact.components) ∧
    ∃ before visit loaded other, tangledLog = before ++ [visit] ∧ visit.found = .ok none ∧
      visit.module? = some loaded ∧ latest? visit.source.components before = some other ∧
      loaded ≠ other := by
  obtain ⟨apart, distinct, disjoint, ends⟩ : (∀ visit ∈ tangledLog, '\n' ∉ visit.source.text.toList ∧
      visit.artifact.components ≠ Path.components ⟨"d/x/main.prep"⟩) ∧
      Distinct (sourcesOf tangledLog) ∧
      (∀ visit ∈ tangledLog, ∀ other ∈ tangledLog,
        visit.source.components ≠ other.artifact.components) ∧
      ending tangledLog 3 = [(some none, some "one".toList, some "two".toList)] := by
    unfold Distinct
    decide +kernel
  refine ⟨faithful, undisturbed_edited apart distinct, disjoint, ?_⟩
  obtain ⟨visit, loaded, other, listed, missing, gives, text, latest, earlier⟩ := last_missing ends
  refine ⟨_, visit, loaded, other, listed, missing, gives, latest, ?_⟩
  rintro rfl
  exact absurd (text.symm.trans earlier) (by decide)

end Memory

end Stencil
