import Stencil.Proofs.Module.Frame

/-! How a builder finds modules. Main statements: the search path behind a run is the list of the directories that were
passed to its calls, in the order of their first uses, and a search answers what the lookup in the first directory
answers that has a source or an artifact that can be used, or that can not be read. -/
namespace Stencil

variable {σ : Type}

/-- The directory that a step of a run names. -/
def Step.directory? : Step σ → Option Path
  | .call (.getIn directory _) => some directory
  | _ => none

/-- Directories in the order in which they come first. -/
def firstUses : List Path → List Path
  | [] => []
  | directory :: rest => directory :: (firstUses rest).filter (·.components ≠ directory.components)

/-- Directories behind those that are known already. -/
def behindKnown (known new : List Path) : List Path :=
  known ++ new.filter fun directory => ¬ known.any (·.components = directory.components)

theorem behindKnown_pathBehind (known : List Path) (directory : Path) (name : String) (rest : List Path) :
    behindKnown ((Call.getIn directory name).pathBehind known) (firstUses rest) =
      behindKnown known (firstUses (directory :: rest)) := by
  rw [Call.pathBehind, behindKnown, behindKnown, firstUses]
  split
  next old =>
    rw [List.filter_cons_of_neg (by simpa using old), List.filter_filter]
    congr 1
    refine List.filter_congr fun other _ => ?_
    obtain ⟨first, member, same⟩ := List.any_eq_true.mp old
    simp only [decide_eq_true_eq] at same
    by_cases new : other.components = directory.components
    · simpa [new] using ⟨first, member, same⟩
    · simp [new]
  next new =>
    rw [List.filter_cons_of_pos (by simpa using new), List.filter_filter, List.append_assoc,
      List.singleton_append]
    congr 2
    refine List.filter_congr fun other _ => ?_
    by_cases same : other.components = directory.components
    · simp [same]
    · simp [Ne.symm same, same]

variable [Storage σ]

namespace Workshop

theorem searchPath_ask (shop : Workshop σ) (call : Call) :
    (shop.ask call).2.builder.searchPath = call.pathBehind shop.builder.searchPath := by
  have leaves := shop.leaves call
  generalize shop.ask call = answer at leaves ⊢
  obtain ⟨result, after⟩ := answer
  cases leaves with
  | failed => rfl
  | given _ _ leaves => cases leaves <;> rfl

theorem searchPath_ending (shop : Workshop σ) (steps : List (Step σ)) : (shop.ending steps).builder.searchPath =
    behindKnown shop.builder.searchPath (firstUses (steps.filterMap Step.directory?)) := by
  induction steps generalizing shop with
  | nil => simp [ending, behindKnown, firstUses]
  | cons step rest ih =>
    cases step with
    | outside change => exact ih { shop with storage := change shop.storage }
    | call call =>
      rw [ending, ih, searchPath_ask]
      cases call with
      | get name => rfl
      | getIn directory name => exact behindKnown_pathBehind _ directory name _

end Workshop

namespace Visit

/-- Whether a recorded module is kept, or can be restored. -/
def usable (visit : Visit σ) (artifact : Artifact) : Bool :=
  (visit.shop.builder.keptFresh? visit.source artifact.fingerprint).isSome || (artifact.module? visit.name).isSome

/-- Whether there is a source, or else an artifact that can be used, as far as they can be read. -/
def held (visit : Visit σ) : Except Error Bool :=
  match visit.found with
  | .error e => .error e
  | .ok (some _) => .ok true
  | .ok none =>
    if visit.shop.builder.options.persist then
      (visit.shop.read visit.artifact).map fun text => (text.bind Artifact.parse?).any visit.usable
    else .ok false

theorem answer_of_held (visit : Visit σ) :
    match visit.held with
    | .error e => visit.answer = (.error e, visit.shop)
    | .ok false => visit.answer = (.ok none, visit.shop)
    | .ok true => visit.answer.1 ≠ .ok none := by
  rw [answer_eq, held]
  cases visit.found with
  | error e => rfl
  | ok content =>
    cases content with
    | some source =>
      dsimp only
      split
      next => exact nofun
      next => exact nofun
    | none =>
      dsimp only
      cases visit.shop.builder.options.persist with
      | false => rfl
      | true =>
        rw [if_pos rfl, if_pos rfl, Workshop.loadArtifact, ← artifact]
        cases visit.shop.read visit.artifact with
        | error e => rfl
        | ok text =>
          dsimp only [Except.map]
          cases text.bind Artifact.parse? with
          | none => rfl
          | some artifact =>
            rw [Option.any_some, usable]
            dsimp only
            cases visit.shop.builder.keptFresh? visit.source artifact.fingerprint with
            | some loaded => exact nofun
            | none =>
              cases artifact.module? visit.name with
              | none => rfl
              | some module => exact nofun

/-- A lookup that gives nothing, or a module that is kept. -/
def Rests (visit : Visit σ) : Option Loaded → Prop
  | none => visit.held = .ok false
  | some loaded => visit.Wants loaded.module.fingerprint ∧ visit.shop.builder.kept? visit.source = some loaded

/-- A lookup that rests changes nothing. -/
theorem Rests.answer {visit : Visit σ} {given : Option Loaded} (rests : visit.Rests given) :
    visit.answer = (.ok given, visit.shop) := by
  cases given with
  | none =>
    have answered := visit.answer_of_held
    rw [show visit.held = .ok false from rests] at answered
    exact answered
  | some loaded =>
    obtain ⟨wants, kept⟩ := rests
    have fresh := Builder.keptFresh?_eq_some.mpr ⟨kept, rfl⟩
    generalize same : loaded.module.fingerprint = wanted at wants fresh
    rw [answer_eq]
    cases wants with
    | source found =>
      rw [found]
      dsimp only [Workshop.load]
      rw [fresh]
    | artifact missing persist records =>
      obtain ⟨text, read, parsed⟩ := records
      rw [missing, persist, if_pos rfl, Workshop.loadArtifact, ← artifact, read]
      dsimp only
      rw [Option.bind_some, parsed]
      dsimp only
      rw [fresh]

theorem rests_none_iff {visit : Visit σ} : visit.Rests none ↔ visit.answer.1 = .ok none := by
  refine ⟨fun rests => by rw [rests.answer], fun empty => ?_⟩
  have answered := visit.answer_of_held
  rw [Rests]
  split at answered
  next => rw [answered] at empty; cases empty
  next held => exact held
  next => exact absurd empty answered

end Visit

namespace Workshop

/-- The first directory of the search path in which a name has a source or an artifact that can be used, or in which
this can not be told. -/
def decider? (shop : Workshop σ) (name : String) : Option Path :=
  shop.builder.searchPath.find? fun directory => (Visit.held ⟨shop, directory, name⟩).toOption ≠ some false

variable {shop : Workshop σ} {name : String} {before : List Path} {directory : Path}

theorem rests_none_iff_toOption : Visit.Rests ⟨shop, directory, name⟩ none ↔
    (Visit.held ⟨shop, directory, name⟩).toOption = some false := toOption_eq_some.symm

theorem decider?_eq_some : shop.decider? name = some directory ↔ ¬ Visit.Rests ⟨shop, directory, name⟩ none ∧
    ∃ before after, shop.builder.searchPath = before ++ directory :: after ∧
      ∀ earlier ∈ before, Visit.Rests ⟨shop, earlier, name⟩ none := by
  rw [decider?, List.find?_eq_some_iff_append]
  simp [rests_none_iff_toOption]

theorem search_append (nothing : ∀ earlier ∈ before, Visit.Rests ⟨shop, earlier, name⟩ none)
    (searched rest : List Path) : search name searched (before ++ rest) shop =
      search name (searched ++ before.map fun earlier => shop.builder.sourcePath earlier name) rest shop := by
  induction before generalizing searched with
  | nil => simp
  | cons directory before ih =>
    obtain ⟨here, later⟩ := List.forall_mem_cons.mp nothing
    have looked : shop.lookup directory name = (.ok none, shop) := here.answer
    rw [List.cons_append, search, looked]
    dsimp only
    rw [ih later, List.map_cons, List.append_assoc, List.singleton_append]

/-- A name that has nothing in any directory is not found. -/
theorem get_of_decider?_eq_none (missing : shop.decider? name = none) :
    shop.get name = (.error (.notFound ⟨name,
      shop.builder.searchPath.map fun directory => (shop.builder.sourcePath directory name).text⟩), shop) := by
  have nothing : ∀ earlier ∈ shop.builder.searchPath, Visit.Rests ⟨shop, earlier, name⟩ none := by
    simpa [decider?, rests_none_iff_toOption] using missing
  have searched := search_append nothing [] []
  rw [List.append_nil, search, List.nil_append, List.map_map] at searched
  exact searched

/-- A search answers what the lookup in the directory answers that decides it. -/
theorem answer_of_decider? (decides : shop.decider? name = some directory) :
    Visit.answer ⟨shop, directory, name⟩ = ((shop.get name).1.map some, (shop.get name).2) := by
  obtain ⟨something, before, after, split, nothing⟩ := decider?_eq_some.mp decides
  rw [Visit.rests_none_iff, Visit.answer] at something
  rw [Visit.answer, get, split, search_append nothing, search]
  cases looked : shop.lookup directory name with
  | mk result behind =>
    rw [looked] at something
    cases result with
    | error e => rfl
    | ok found =>
      cases found with
      | some loaded => rfl
      | none => exact absurd rfl something

theorem get_of_decider? (decides : shop.decider? name = some directory) :
    shop.get name = shop.getIn directory name := by
  have answered := answer_of_decider? decides
  obtain ⟨_, before, after, split, _⟩ := decider?_eq_some.mp decides
  have known : shop.entered (.getIn directory name) = shop := by
    rw [entered, Call.pathBehind, if_pos (by simp [split])]
  rw [Visit.answer] at answered
  rw [getIn, entered_getIn shop directory name, known, answered]
  obtain ⟨result, behind⟩ := shop.get name
  cases result <;> rfl

/-- A directory that can not be read ends a search. -/
theorem get_of_unread (decides : shop.decider? name = some directory) {e : Error}
    (unread : Visit.held ⟨shop, directory, name⟩ = .error e) : shop.get name = (.error e, shop) := by
  have answered := Visit.answer_of_held ⟨shop, directory, name⟩
  rw [unread] at answered
  dsimp only at answered
  rw [answer_of_decider? decides] at answered
  generalize shop.get name = answer at answered ⊢
  obtain ⟨result, behind⟩ := answer
  cases result with
  | error e => cases answered; rfl
  | ok loaded => cases answered

theorem searchVisits_append (nothing : ∀ earlier ∈ before, Visit.Rests ⟨shop, earlier, name⟩ none)
    (rest : List Path) : searchVisits name (before ++ rest) shop =
      before.map (fun earlier => ⟨shop, earlier, name⟩) ++ searchVisits name rest shop := by
  induction before with
  | nil => rfl
  | cons directory before ih =>
    obtain ⟨here, later⟩ := List.forall_mem_cons.mp nothing
    rw [List.cons_append, searchVisits, here.answer]
    dsimp only
    rw [ih later, List.map_cons, List.cons_append]

theorem visit_mem_searchVisits (rest : List Path) :
    ⟨shop, directory, name⟩ ∈ searchVisits name (directory :: rest) shop := by
  rw [searchVisits]
  split <;> simp

end Workshop

end Stencil
