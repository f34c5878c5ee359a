import Mathlib.Data.List.Induction
import Stencil.Proofs.Module.Coherence

/-! How much a builder works. Main statement: in a run in which every call ends at a source, a builder makes one
module for each call whose source it has not loaded yet or has changed since, and answers every other call with the
module of the last load, with nothing written. -/
namespace Stencil

variable {σ : Type} [Storage σ]

/-- A call of a run, with the state that it finds. -/
structure Request (σ : Type) where
  shop : Workshop σ
  call : Call

namespace Workshop

def requests (shop : Workshop σ) : List (Step σ) → List (Request σ)
  | [] => []
  | .call call :: rest => ⟨shop, call⟩ :: requests (shop.ask call).2 rest
  | .outside change :: rest => requests { shop with storage := change shop.storage } rest

end Workshop

namespace Request

/-- The lookup that decides a call. -/
def last? (request : Request σ) : Option (Visit σ) := (request.shop.visits request.call).getLast?

def key? (request : Request σ) : Option (List Component) := request.last?.map (·.source.components)

/-- The text of the source that a call ends at. -/
def text? (request : Request σ) : Option (List Char) := request.last?.bind (·.found.toOption.join)

def module? (request : Request σ) : Option Loaded := (request.shop.ask request.call).1.toOption

def after (request : Request σ) : Workshop σ := (request.shop.ask request.call).2

/-- A call that succeeds in a directory that holds the source. -/
def Served (request : Request σ) : Prop := request.text?.isSome ∧ request.module?.isSome

instance (request : Request σ) : Decidable request.Served :=
  inferInstanceAs (Decidable (request.text?.isSome ∧ request.module?.isSome))

/-- What a call does that ends at a source. -/
inductive Effect (request : Request σ) (key : List Component) (text : List Char) (loaded : Loaded) : Prop
  | kept (kept : request.shop.builder.modules.lookup key = some loaded)
      (same : loaded.module.fingerprint = fingerprint text) (idle : request.shop.Idle request.after)
      (storage : request.after.storage = request.shop.storage) : Effect request key text loaded
  | made (stale : ∀ kept, request.shop.builder.modules.lookup key = some kept →
        kept.module.fingerprint ≠ fingerprint text)
      (same : loaded.module.fingerprint = fingerprint text)
      (modules : request.after.builder.modules = put key loaded request.shop.builder.modules)
      (makes : request.shop.Makes loaded request.after) : Effect request key text loaded

end Request

/-- What calls and changes from outside preserve, for the calls so far, holds behind a run and at each of its calls. -/
theorem Workshop.holds_at_requests (invariant : List (Request σ) → Workshop σ → Prop) {steps : List (Step σ)}
    {past : List (Request σ)} {shop : Workshop σ}
    (moved : ∀ {past : List (Request σ)} {shop : Workshop σ} (storage : σ), invariant past shop →
      invariant past { shop with storage })
    (asked : ∀ before request after, shop.requests steps = before ++ request :: after →
      invariant (past ++ before) request.shop → invariant (past ++ before ++ [request]) request.after)
    (start : invariant past shop) : invariant (past ++ shop.requests steps) (shop.ending steps) ∧
      ∀ before request after, shop.requests steps = before ++ request :: after →
        invariant (past ++ before) request.shop := by
  induction steps generalizing past shop with
  | nil =>
    rw [Workshop.requests, List.append_nil]
    refine ⟨start, fun before request after same => ?_⟩
    simp at same
  | cons step rest ih =>
    cases step with
    | outside change => exact ih asked (moved _ start)
    | call call =>
      rw [Workshop.requests] at asked ⊢
      rw [List.append_cons]
      have here := asked [] ⟨shop, call⟩ _ rfl
      rw [List.append_nil] at here
      have later (before : List (Request σ)) (request : Request σ) (after : List (Request σ))
          (same : Workshop.requests (shop.ask call).2 rest = before ++ request :: after) :
          invariant (past ++ [⟨shop, call⟩] ++ before) request.shop →
            invariant (past ++ [⟨shop, call⟩] ++ before ++ [request]) request.after := by
        rw [← List.append_cons]
        exact asked (⟨shop, call⟩ :: before) request after (by rw [same, List.cons_append])
      obtain ⟨ends, each⟩ := ih later (here start)
      refine ⟨ends, fun before request after same => ?_⟩
      cases before with
      | nil =>
        rw [List.nil_append, List.cons.injEq] at same
        rw [List.append_nil, ← same.1]
        exact start
      | cons head before =>
        rw [List.cons_append, List.cons.injEq] at same
        rw [List.append_cons, ← same.1]
        exact each before request after same.2

/-- The last of the loads of a source path. -/
def lastLoad? (key : Option (List Component)) (loads : List (Request σ)) : Option (Request σ) :=
  (loads.filter (·.key? = key)).getLast?

/-- A source has to be loaded if its path has not been loaded yet, or last with another text. -/
def Request.Renews (request : Request σ) (loads : List (Request σ)) : Prop :=
  ∀ load ∈ lastLoad? request.key? loads, load.text? ≠ request.text?

instance (request : Request σ) (loads : List (Request σ)) : Decidable (request.Renews loads) :=
  inferInstanceAs (Decidable (∀ load ∈ lastLoad? request.key? loads, load.text? ≠ request.text?))

/-- The calls that have to load their sources. -/
def loadsOf (requests : List (Request σ)) : List (Request σ) :=
  requests.foldl (fun loads request => if request.Renews loads then loads ++ [request] else loads) []

def textsOf (requests : List (Request σ)) : List (List Char) := requests.filterMap Request.text?

/-- A call that gives a module ends with the lookup that gives it, which finds the state that the call finds. -/
theorem Request.last_of_given {request : Request σ} {loaded : Loaded} (given : request.module? = some loaded) :
    ∃ visit, request.last? = some visit ∧ visit.module? = some loaded ∧ request.shop.Idle visit.shop ∧
      visit.shop.storage = request.shop.storage ∧ request.after = visit.after := by
  obtain ⟨before, visit, listed, gives, _, idle, storage, behind⟩ := Workshop.ask_ends (toOption_eq_some.mp given)
  exact ⟨visit, by rw [last?, listed, List.getLast?_concat], gives, idle, storage, behind⟩

/-- How a call comes by the module that its last lookup gives. -/
inductive Request.Gives (request : Request σ) (visit : Visit σ) (loaded : Loaded) : Prop
  | kept (kept : request.shop.builder.modules.lookup visit.source.components = some loaded)
      (idle : request.shop.Idle request.after) (storage : request.after.storage = request.shop.storage) :
      Gives request visit loaded
  | made (stale : ∀ kept, request.shop.builder.modules.lookup visit.source.components = some kept →
        kept.module.fingerprint ≠ loaded.module.fingerprint) (name : loaded.module.name = visit.name)
      (modules : request.after.builder.modules =
        put visit.source.components loaded request.shop.builder.modules)
      (makes : request.shop.Makes loaded request.after) : Gives request visit loaded

theorem Request.gives_of_module? {request : Request σ} {loaded : Loaded} (given : request.module? = some loaded) :
    ∃ visit, request.last? = some visit ∧ visit.Wants loaded.module.fingerprint ∧ request.Gives visit loaded := by
  obtain ⟨visit, last, gives, idle, storage, behind⟩ := last_of_given given
  refine ⟨visit, last, ?_⟩
  have made (stale : visit.shop.builder.keptFresh? visit.source loaded.module.fingerprint = none)
      (name : loaded.module.name = visit.name)
      (modules : visit.after.builder.modules = put visit.source.components loaded visit.shop.builder.modules)
      (makes : visit.shop.Makes loaded visit.after) : request.Gives visit loaded := by
    refine .made (fun kept known => Builder.keptFresh?_eq_none stale ?_) name ?_ ?_
    · rw [← idle.modules] at known
      exact known
    · rw [behind, modules, idle.modules]
    · rw [behind]
      exact makes.of_idle idle
  have outcome := visit.outcome
  rw [gives] at outcome
  cases outcome with
  | kept wants kept unchanged =>
    refine ⟨wants, .kept ?_ ⟨?_, ?_⟩ ?_⟩
    · rw [← idle.modules]
      exact kept
    · rw [behind, unchanged, idle.modules]
    · rw [behind, unchanged, idle.made]
    · rw [behind, unchanged, storage]
  | restored wants _ stale module _ modules _ _ makes =>
    obtain ⟨name, same⟩ := Artifact.module?_eq_some module
    rw [← same] at wants stale
    exact ⟨wants, made stale name modules makes⟩
  | compiled found same _ _ modules _ stale makes name =>
    rw [← same] at stale
    exact ⟨same ▸ .source found, made stale name modules makes⟩

/-- A call that ends at a source gives the module kept of it, or makes one. -/
theorem Request.effect {request : Request σ} (served : request.Served) : ∃ key text loaded,
    request.key? = some key ∧ request.text? = some text ∧ request.module? = some loaded ∧
      request.Effect key text loaded := by
  obtain ⟨read, given⟩ := served
  obtain ⟨text, read⟩ := Option.isSome_iff_exists.mp read
  obtain ⟨loaded, given⟩ := Option.isSome_iff_exists.mp given
  obtain ⟨visit, last, wants, gives⟩ := gives_of_module? given
  have found : visit.found = .ok (some text) := by
    rw [text?, last] at read
    exact toOption_eq_some.mp (Option.join_eq_some_iff.mp read)
  have same := wants.of_found found
  refine ⟨visit.source.components, text, loaded, ?_, read, given, ?_⟩
  · rw [key?, last]
    rfl
  · cases gives with
    | kept kept idle storage => exact .kept kept same idle storage
    | made stale _ modules makes =>
      rw [same] at stale
      exact .made stale same modules makes

section Loads

variable {past loads : List (Request σ)} {request : Request σ}

theorem loadsOf_append (past : List (Request σ)) (request : Request σ) : loadsOf (past ++ [request]) =
    if request.Renews (loadsOf past) then loadsOf past ++ [request] else loadsOf past := by
  rw [loadsOf, List.foldl_append]
  rfl

theorem loadsOf_subset (past : List (Request σ)) : loadsOf past ⊆ past := by
  induction past using List.reverseRecOn with
  | nil => exact List.Subset.refl []
  | append_singleton past request ih =>
    rw [loadsOf_append]
    split
    next => exact List.append_subset.mpr ⟨List.subset_append_of_subset_left _ ih, List.subset_append_right _ _⟩
    next => exact List.subset_append_of_subset_left _ ih

theorem mem_of_lastLoad? {key : Option (List Component)} {load : Request σ} (last : lastLoad? key loads = some load) :
    load ∈ loads := (List.mem_filter.mp (List.mem_of_getLast? last)).1

theorem lastLoad?_append (key : Option (List Component)) (loads : List (Request σ)) (request : Request σ) :
    lastLoad? key (loads ++ [request]) = if request.key? = key then some request else lastLoad? key loads := by
  rw [lastLoad?, List.filter_append]
  split
  next same => simp [same]
  next other => simp [other, lastLoad?]

/-- What the calls so far have loaded, in the state behind them. -/
structure Tally (past : List (Request σ)) (shop : Workshop σ) : Prop where
  made : shop.builder.made = (loadsOf past).length
  serials : (loadsOf past).filterMap (·.module?.map Loaded.serial) = List.range' 1 (loadsOf past).length
  kept : ∀ key, shop.builder.modules.lookup key = (lastLoad? (some key) (loadsOf past)).bind Request.module?
  read : ∀ load ∈ loadsOf past, ∃ text loaded, load.text? = some text ∧ load.module? = some loaded ∧
    loaded.module.fingerprint = fingerprint text

theorem Tally.moved {first next : Workshop σ} (idle : first.Idle next) (tally : Tally past first) :
    Tally past next where
  made := idle.made.trans tally.made
  serials := tally.serials
  kept := by
    rw [idle.modules]
    exact tally.kept
  read := tally.read

variable {key : List Component} {text : List Char} {loaded : Loaded}

/-- A module kept of a source that has not changed is the one of its last load. -/
theorem Tally.last_of_kept (tally : Tally past request.shop)
    (kept : request.shop.builder.modules.lookup key = some loaded)
    (same : loaded.module.fingerprint = fingerprint text) (distinct : Distinct (textsOf (past ++ [request])))
    (read : request.text? = some text) : ∃ load, lastLoad? (some key) (loadsOf past) = some load ∧
      load.text? = some text ∧ load.module? = some loaded := by
  rw [tally.kept] at kept
  obtain ⟨load, last, gives⟩ := Option.bind_eq_some_iff.mp kept
  obtain ⟨other, given, written, gives', origin⟩ := tally.read load (mem_of_lastLoad? last)
  cases gives.symm.trans gives'
  have known : other ∈ textsOf (past ++ [request]) := by
    have earlier := loadsOf_subset past (mem_of_lastLoad? last)
    exact List.mem_filterMap.mpr ⟨load, List.mem_append_left _ earlier, written⟩
  have own : text ∈ textsOf (past ++ [request]) := List.mem_filterMap.mpr ⟨request, by simp, read⟩
  obtain rfl := distinct other known text own (origin.symm.trans same)
  exact ⟨load, last, written, gives⟩

theorem Tally.kept_of_not_renews (tally : Tally past request.shop) (path : request.key? = some key)
    (read : request.text? = some text) (settled : ¬ request.Renews (loadsOf past)) :
    ∃ kept, request.shop.builder.modules.lookup key = some kept ∧ kept.module.fingerprint = fingerprint text := by
  simp only [Request.Renews, Classical.not_forall, Classical.not_not] at settled
  obtain ⟨load, last, same⟩ := settled
  obtain ⟨other, kept, written, gives, origin⟩ := tally.read load (mem_of_lastLoad? last)
  obtain rfl : other = text := Option.some.inj (written.symm.trans (same.trans read))
  rw [path] at last
  refine ⟨kept, ?_, origin⟩
  rw [tally.kept, last]
  exact gives

theorem Tally.answer_of_not_renews (tally : Tally past request.shop) (served : request.Served)
    (distinct : Distinct (textsOf (past ++ [request]))) (settled : ¬ request.Renews (loadsOf past)) :
    ∃ load loaded, lastLoad? request.key? (loadsOf past) = some load ∧ load.text? = request.text? ∧
      load.module? = some loaded ∧ request.module? = some loaded ∧ request.shop.Idle request.after ∧
      request.after.storage = request.shop.storage := by
  obtain ⟨key, text, loaded, path, read, gives, effect⟩ := request.effect served
  obtain ⟨known, isKept, fresh⟩ := tally.kept_of_not_renews path read settled
  cases effect with
  | made stale _ _ _ => exact absurd fresh (stale known isKept)
  | kept kept same idle storage =>
    obtain ⟨load, last, written, given⟩ := tally.last_of_kept kept same distinct read
    rw [path, read]
    exact ⟨load, loaded, last, written, given, gives, idle, storage⟩

theorem Tally.requested (tally : Tally past request.shop) (served : request.Served)
    (distinct : Distinct (textsOf (past ++ [request]))) : Tally (past ++ [request]) request.after := by
  by_cases renews : request.Renews (loadsOf past)
  · obtain ⟨key, text, loaded, path, read, gives, effect⟩ := request.effect served
    have loads : loadsOf (past ++ [request]) = loadsOf past ++ [request] := by rw [loadsOf_append, if_pos renews]
    cases effect with
    | kept kept same _ _ =>
      obtain ⟨load, last, written, _⟩ := tally.last_of_kept kept same distinct read
      rw [← path] at last
      exact absurd (written.trans read.symm) (renews load last)
    | made _ same modules makes =>
      refine ⟨?_, ?_, fun other => ?_, ?_⟩
      · rw [makes.made, loads, tally.made, List.length_append]
        rfl
      · rw [loads, List.filterMap_append, tally.serials, List.length_append, List.length_singleton,
          List.range'_concat, Nat.one_mul, Nat.add_comm 1, ← tally.made, ← makes.serial]
        simp [gives]
      · rw [loads, lastLoad?_append, path, modules]
        by_cases here : other = key
        · rw [here, lookup_put_self, if_pos rfl]
          exact gives.symm
        · rw [lookup_put_of_ne here, if_neg fun same => here (Option.some.inj same).symm, tally.kept]
      · rw [loads]
        exact List.forall_mem_append.mpr ⟨tally.read, List.forall_mem_singleton.mpr ⟨text, loaded, read, gives, same⟩⟩
  · obtain ⟨_, _, _, _, _, _, idle, _⟩ := tally.answer_of_not_renews served distinct renews
    have loads : loadsOf (past ++ [request]) = loadsOf past := by rw [loadsOf_append, if_neg renews]
    have moved := tally.moved idle
    exact ⟨by rw [loads, moved.made], by rw [loads, moved.serials], by rw [loads]; exact moved.kept,
      by rw [loads]; exact moved.read⟩

theorem Distinct.textsOf_append {front back : List (Request σ)} (distinct : Distinct (textsOf (front ++ back))) :
    Distinct (textsOf front) := by
  rw [textsOf, List.filterMap_append] at distinct
  intro source member other otherMember
  exact distinct source (List.mem_append_left _ member) other (List.mem_append_left _ otherMember)

/-- Each call of a run keeps the tally. -/
theorem tally_of_run {steps : List (Step σ)} {shop : Workshop σ} (tally : Tally past shop)
    (served : ∀ request ∈ shop.requests steps, request.Served)
    (distinct : Distinct (textsOf (past ++ shop.requests steps))) :
    Tally (past ++ shop.requests steps) (shop.ending steps) ∧
      ∀ before request after, shop.requests steps = before ++ request :: after →
        Tally (past ++ before) request.shop := by
  have idle (shop : Workshop σ) (storage : σ) : shop.Idle { shop with storage } := ⟨rfl, rfl⟩
  refine Workshop.holds_at_requests Tally (fun _ tally => tally.moved (idle _ _)) ?_ tally
  intro before request after same tally
  rw [same, List.append_cons, ← List.append_assoc, ← List.append_assoc] at distinct
  exact tally.requested (served request (by rw [same]; simp)) distinct.textsOf_append

end Loads

/-- A builder makes as many modules as there are calls that find a source which has not been loaded yet or not with
this text, each a new one. Every other call gives the module of the last load of its source and writes nothing. -/
theorem work_of_run (options : BuilderOptions) (storage : σ) (steps : List (Step σ)) (requests : List (Request σ))
    (run : requests = Workshop.requests ⟨.new options, storage⟩ steps)
    (served : ∀ request ∈ requests, request.Served) (distinct : Distinct (textsOf requests)) :
    (Workshop.ending ⟨.new options, storage⟩ steps).builder.compilations +
        (Workshop.ending ⟨.new options, storage⟩ steps).builder.restorations = (loadsOf requests).length ∧
      (loadsOf requests).filterMap (·.module?.map Loaded.serial) = List.range' 1 (loadsOf requests).length ∧
      ∀ before request after, requests = before ++ request :: after → ¬ request.Renews (loadsOf before) →
        ∃ load loaded, lastLoad? request.key? (loadsOf before) = some load ∧ load.text? = request.text? ∧
          load.module? = some loaded ∧ request.module? = some loaded ∧
          request.after.storage = request.shop.storage := by
  subst run
  have start : Tally [] (⟨.new options, storage⟩ : Workshop σ) := ⟨rfl, rfl, fun _ => rfl, List.forall_mem_nil _⟩
  obtain ⟨ends, each⟩ := tally_of_run start served distinct
  refine ⟨ends.made, ends.serials, fun before request after listed settled => ?_⟩
  have here := each before request after listed
  have own := served request (by rw [listed]; simp)
  rw [listed, List.append_cons] at distinct
  obtain ⟨load, loaded, last, same, given, gives, _, kept⟩ :=
    here.answer_of_not_renews own distinct.textsOf_append settled
  exact ⟨load, loaded, last, same, given, gives, kept⟩

namespace Memory

/-- A source that is written, looked up twice, changed, and looked up again. -/
def rewritten : List (Step Memory) :=
  [.outside (·.insert ⟨"d/x.prep"⟩ "one".toList), .call (.getIn ⟨"d"⟩ "x"), .call (.get "x"),
    .outside (·.insert ⟨"d/x.prep"⟩ "two".toList), .call (.get "x")]

def rewrittenRequests : List (Request Memory) := Workshop.requests ⟨.new .default, .empty⟩ rewritten

theorem work_of_rewritten :
    (Workshop.ending ⟨.new .default, .empty⟩ rewritten).builder.compilations +
        (Workshop.ending ⟨.new .default, .empty⟩ rewritten).builder.restorations = 2 ∧
      ∃ before request after load loaded, rewrittenRequests = before ++ request :: after ∧
        ¬ request.Renews (loadsOf before) ∧ lastLoad? request.key? (loadsOf before) = some load ∧
        load.module? = some loaded ∧ request.module? = some loaded ∧
        request.after.storage = request.shop.storage := by
  have long : 1 < rewrittenRequests.length := by decide
  obtain ⟨served, distinct, loads, settled⟩ : (∀ request ∈ rewrittenRequests, request.Served) ∧
      Distinct (textsOf rewrittenRequests) ∧ (loadsOf rewrittenRequests).length = 2 ∧
      ∀ request ∈ rewrittenRequests[1]?, ¬ request.Renews (loadsOf (rewrittenRequests.take 1)) := by
    unfold Distinct
    decide +kernel
  obtain ⟨count, _, others⟩ := work_of_run .default .empty rewritten rewrittenRequests rfl served distinct
  have listed : rewrittenRequests = rewrittenRequests.take 1 ++ rewrittenRequests[1] :: rewrittenRequests.drop 2 := by
    rw [List.getElem_cons_drop, List.take_append_drop]
  have second := settled _ (List.getElem?_eq_getElem long)
  obtain ⟨load, loaded, last, _, given, gives, kept⟩ := others _ _ _ listed second
  exact ⟨count.trans loads, _, _, _, load, loaded, listed, second, last, given, gives, kept⟩

end Memory

end Stencil
