import Stencil.Proofs.Module.Frame
import Stencil.Proofs.Module.Workload

/-! The names of modules. Main statement: a module that a call gives has the name that was passed to the call that
made it, which is this call or an earlier one that ended at the same source path. So it has the name that was asked
for, unless two names lead to one source. -/
namespace Stencil

variable {σ : Type} [Storage σ]

namespace Workshop

theorem name_of_searchVisits {name : String} {directories : List Path} {shop : Workshop σ} :
    ∀ visit ∈ searchVisits name directories shop,
      visit.name = name ∧ visit.shop.builder.options = shop.builder.options := by
  induction directories generalizing shop with
  | nil => exact List.forall_mem_nil _
  | cons directory rest ih =>
    rw [searchVisits]
    split
    next behind looked =>
      have options := Visit.options_after ⟨shop, directory, name⟩
      rw [Visit.after, looked] at options
      refine List.forall_mem_cons.mpr ⟨⟨rfl, rfl⟩, fun visit member => ?_⟩
      rw [← options]
      exact ih visit member
    next => exact List.forall_mem_singleton.mpr ⟨rfl, rfl⟩

/-- The lookups of a call are for its name, with the options of its builder. -/
theorem name_of_visits {shop : Workshop σ} {call : Call} :
    ∀ visit ∈ shop.visits call, visit.name = call.name ∧ visit.shop.builder.options = shop.builder.options := by
  cases call with
  | get name => exact name_of_searchVisits
  | getIn directory name =>
    exact List.forall_mem_singleton.mpr ⟨rfl, (shop.widens_addDirectory directory).options⟩

end Workshop

namespace Request

variable {request : Request σ} {key : List Component} {loaded : Loaded}

theorem name_of_last? {visit : Visit σ} (last : request.last? = some visit) :
    visit.name = request.call.name ∧ visit.shop.builder.options = request.shop.builder.options :=
  Workshop.name_of_visits visit (List.mem_of_getLast? last)

/-- A source path is made of the name that was asked for. -/
theorem key?_eq_some (ends : request.key? = some key) : ∃ directory,
    (request.shop.builder.sourcePath directory request.call.name).components = key := by
  obtain ⟨visit, last, same⟩ := Option.map_eq_some_iff.mp ends
  obtain ⟨name, options⟩ := name_of_last? last
  rw [Visit.source, Builder.sourcePath, name, options] at same
  exact ⟨visit.directory, same⟩

/-- A call that makes the module that it gives, under the name that was passed to it. -/
structure Made (request : Request σ) (key : List Component) (loaded : Loaded) : Prop where
  key : request.key? = some key
  gives : request.module? = some loaded
  makes : request.shop.Makes loaded request.after
  name : loaded.module.name = request.call.name

/-- A module that a call gives is kept for its source path, or made by it. -/
theorem kept_or_made (given : request.module? = some loaded) : ∃ key, request.key? = some key ∧
    (request.shop.builder.modules.lookup key = some loaded ∧ request.shop.Idle request.after ∨
      request.Made key loaded ∧ request.after.builder.modules = put key loaded request.shop.builder.modules) := by
  obtain ⟨visit, last, _, gives⟩ := gives_of_module? given
  have ends : request.key? = some visit.source.components := by
    rw [key?, last]
    rfl
  refine ⟨_, ends, ?_⟩
  cases gives with
  | kept kept idle _ => exact .inl ⟨kept, idle⟩
  | made _ name modules makes =>
    exact .inr ⟨⟨ends, given, makes, name.trans (name_of_last? last).1⟩, modules⟩

theorem modules_of_failed (failed : request.module? = none) :
    request.after.builder.modules = request.shop.builder.modules := by
  have leaves := request.shop.leaves request.call
  rw [module?] at failed
  rw [after]
  generalize request.shop.ask request.call = answer at failed leaves ⊢
  obtain ⟨result, behind⟩ := answer
  cases leaves with
  | failed => rfl
  | given => cases failed

end Request

/-- Where the modules of a builder come from, behind the calls so far. -/
structure Signed (options : BuilderOptions) (past : List (Request σ)) (shop : Workshop σ) : Prop where
  configured : shop.builder.options = options
  asked : ∀ request ∈ past, request.shop.builder.options = options
  kept : ∀ key loaded, shop.builder.modules.lookup key = some loaded → ∃ maker ∈ past, maker.Made key loaded

section Run

variable {options : BuilderOptions} {past : List (Request σ)} {request : Request σ} {loaded : Loaded}

/-- A module that a call gives was made by it, or by an earlier one for the same source path. -/
theorem Signed.maker (signed : Signed options past request.shop) (given : request.module? = some loaded) :
    ∃ key, request.key? = some key ∧ ∃ maker ∈ past ++ [request], maker.Made key loaded := by
  obtain ⟨key, ends, ⟨kept, _⟩ | ⟨made, _⟩⟩ := Request.kept_or_made given
  · obtain ⟨maker, member, made⟩ := signed.kept key loaded kept
    exact ⟨key, ends, maker, List.mem_append_left _ member, made⟩
  · exact ⟨key, ends, request, List.mem_append_right _ (List.mem_singleton_self request), made⟩

theorem Signed.requested (signed : Signed options past request.shop) :
    Signed options (past ++ [request]) request.after where
  configured := (request.shop.options_ask request.call).trans signed.configured
  asked := List.forall_mem_append.mpr ⟨signed.asked, List.forall_mem_singleton.mpr signed.configured⟩
  kept := by
    have before (key : List Component) (loaded : Loaded)
        (kept : request.shop.builder.modules.lookup key = some loaded) :
        ∃ maker ∈ past ++ [request], maker.Made key loaded := by
      obtain ⟨maker, member, made⟩ := signed.kept key loaded kept
      exact ⟨maker, List.mem_append_left _ member, made⟩
    intro key loaded kept
    cases given : request.module? with
    | none =>
      rw [Request.modules_of_failed given] at kept
      exact before key loaded kept
    | some new =>
      obtain ⟨source, _, ⟨_, idle⟩ | ⟨made, modules⟩⟩ := Request.kept_or_made given
      · rw [idle.modules] at kept
        exact before key loaded kept
      · rw [modules] at kept
        by_cases here : key = source
        · rw [here, lookup_put_self] at kept
          cases kept
          exact ⟨request, List.mem_append_right _ (List.mem_singleton_self request), here ▸ made⟩
        · rw [lookup_put_of_ne here] at kept
          exact before key loaded kept

theorem signed_of_run {storage : σ} {steps : List (Step σ)} :
    ∀ before request after, Workshop.requests ⟨.new options, storage⟩ steps = before ++ request :: after →
      Signed options before request.shop := by
  have start : Signed options [] (⟨.new options, storage⟩ : Workshop σ) :=
    ⟨rfl, List.forall_mem_nil _, fun _ _ kept => by cases kept⟩
  exact (Workshop.holds_at_requests (Signed options)
    (fun _ signed => ⟨signed.configured, signed.asked, signed.kept⟩)
    (fun _ _ _ _ signed => signed.requested) start).2

/-- Calls that end at one source path with a plain extension have one name, if names are single parts of paths. -/
theorem name_of_key? (plain : PlainExtension options.extension) {first second : Request σ} {key : List Component}
    (configured : first.shop.builder.options = options ∧ second.shop.builder.options = options)
    (inner : Path.separator ∉ first.call.name.toList ∧ Path.separator ∉ second.call.name.toList)
    (ends : first.key? = some key) (also : second.key? = some key) : first.call.name = second.call.name := by
  obtain ⟨directory, same⟩ := Request.key?_eq_some ends
  obtain ⟨directory', same'⟩ := Request.key?_eq_some also
  rw [Builder.sourcePath, configured.1] at same
  rw [Builder.sourcePath, configured.2] at same'
  obtain ⟨front, split⟩ := Path.components_join (plain.behind inner.1) directory
  obtain ⟨front', split'⟩ := Path.components_join (plain.behind inner.2) directory'
  rw [← same', split, split'] at same
  have lasts := List.singleton_inj.mp (List.append_inj' same rfl).2
  have whole := congrArg String.toList (Component.name.inj lasts)
  rw [String.toList_append, String.toList_append] at whole
  exact String.toList_inj.mp (List.append_cancel_right whole)

end Run

/-- A module that a call gives has the name that was passed to the call that made it, this one or an earlier one for
the same source path. It is the name that was asked for, if earlier calls that ended at this source path asked for
it by the same name, as they did with a plain extension and names that are single parts of paths. -/
theorem names_of_modules (options : BuilderOptions) (storage : σ) (steps : List (Step σ))
    {before after : List (Request σ)} {request : Request σ} {loaded : Loaded}
    (run : Workshop.requests ⟨.new options, storage⟩ steps = before ++ request :: after)
    (given : request.module? = some loaded) :
    (∃ key, request.key? = some key ∧ ∃ maker ∈ before ++ [request], maker.Made key loaded) ∧
    ((∀ earlier ∈ before, earlier.key? = request.key? → earlier.call.name = request.call.name) →
      loaded.module.name = request.call.name) ∧
    (PlainExtension options.extension → (∀ asked ∈ before ++ [request], Path.separator ∉ asked.call.name.toList) →
      loaded.module.name = request.call.name) := by
  have signed := signed_of_run before request after run
  obtain ⟨key, ends, maker, member, made⟩ := signed.maker given
  refine ⟨⟨key, ends, maker, member, made⟩, fun agree => ?_, fun plain inner => ?_⟩
  · rw [made.name]
    rcases List.mem_append.mp member with earlier | own
    · exact agree maker earlier (made.key.trans ends.symm)
    · rw [List.mem_singleton.mp own]
  · have asked := signed.requested.asked
    have own : request ∈ before ++ [request] := by simp
    rw [made.name]
    exact name_of_key? plain ⟨asked maker member, asked request own⟩ ⟨inner maker member, inner request own⟩
      made.key ends

namespace Memory

/-- A page in a nested directory. -/
def nested : Workshop Memory := ⟨.new .default, Memory.empty.insert ⟨"a/b/x.prep"⟩ "one".toList⟩

/-- What a second call gives. -/
def nestedSecond (first second : Call) : Request Memory := ⟨(nested.ask first).2, second⟩

theorem names_of_nested : ∃ loaded, (nestedSecond (.getIn ⟨"a/b"⟩ "x") (.get "x")).module? = some loaded ∧
    loaded.module.name = "x" := by
  have given : (nestedSecond (.getIn ⟨"a/b"⟩ "x") (.get "x")).module?.isSome := by decide +kernel
  obtain ⟨loaded, given⟩ := Option.isSome_iff_exists.mp given
  have run : nested.requests [.call (.getIn ⟨"a/b"⟩ "x"), .call (.get "x")] =
      [⟨nested, .getIn ⟨"a/b"⟩ "x"⟩] ++ nestedSecond (.getIn ⟨"a/b"⟩ "x") (.get "x") :: [] := rfl
  have names := names_of_modules .default _ _ run given
  refine ⟨loaded, given, names.2.2 ⟨by decide, by decide⟩ fun asked member => ?_⟩
  have same : asked.call.name = "x" := by
    rcases List.mem_cons.mp member with rfl | member
    · rfl
    · rw [List.mem_singleton.mp member]
      rfl
  rw [same]
  decide

/-- A module that was made for one call is given to another one, which asks for the same source by another name. -/
theorem other_name_given : ∃ loaded, (nestedSecond (.getIn ⟨"a"⟩ "b/x") (.getIn ⟨"a/b"⟩ "x")).module? = some loaded ∧
    loaded.module.name = "b/x" ∧ loaded.module.name ≠ "x" := by
  have name : (nestedSecond (.getIn ⟨"a"⟩ "b/x") (.getIn ⟨"a/b"⟩ "x")).module?.map (·.module.name) = some "b/x" := by
    decide +kernel
  obtain ⟨loaded, given, name⟩ := Option.map_eq_some_iff.mp name
  exact ⟨loaded, given, name, by rw [name]; decide⟩

end Memory

end Stencil
