import Stencil.Proofs.Module.Visit

/-! Runs of a builder: calls, between which others change the storage. A run is seen as the sequence of
its lookups. Main statement: what one lookup and one change from outside preserve holds at every lookup
of a run. -/
namespace Stencil

variable {σ : Type}

inductive Call where
  | get (name : String)
  | getIn (directory : Path) (name : String)

/-- What happens in a run: a call of the builder, or a change of the storage by others. -/
inductive Step (σ : Type) where
  | call (call : Call)
  | outside (change : σ → σ)

/-- Nothing was made between two states of a builder. -/
structure Workshop.Idle (first next : Workshop σ) : Prop where
  modules : next.builder.modules = first.builder.modules
  made : next.builder.made = first.builder.made

theorem Workshop.idle_addDirectory (shop : Workshop σ) (directory : Path) :
    shop.Idle { shop with builder := shop.builder.addDirectory directory } := by
  unfold Builder.addDirectory
  split
  next => exact ⟨rfl, rfl⟩
  next => exact ⟨rfl, rfl⟩

theorem Workshop.Makes.of_idle {first next after : Workshop σ} {loaded : Loaded} (idle : first.Idle next)
    (makes : next.Makes loaded after) : first.Makes loaded after :=
  ⟨by rw [makes.serial, idle.made], by rw [makes.made, idle.made]⟩

/-- Only directories were added to the search path between two states of a builder. -/
structure Workshop.Widens (first next : Workshop σ) : Prop where
  options : next.builder.options = first.builder.options
  modules : next.builder.modules = first.builder.modules
  storage : next.storage = first.storage
  path : first.builder.searchPath <+: next.builder.searchPath

theorem Workshop.widens_addDirectory (shop : Workshop σ) (directory : Path) :
    shop.Widens { shop with builder := shop.builder.addDirectory directory } := by
  unfold Builder.addDirectory
  split
  next => exact ⟨rfl, rfl, rfl, List.prefix_rfl⟩
  next => exact ⟨rfl, rfl, rfl, List.prefix_append _ _⟩

variable [Storage σ]

namespace Workshop

def ask (shop : Workshop σ) : Call → Answer σ Loaded
  | .get name => shop.get name
  | .getIn directory name => shop.getIn directory name

/-- The lookups of a search in the given directories. -/
def searchVisits (name : String) : List Path → Workshop σ → List (Visit σ)
  | [], _ => []
  | directory :: rest, shop =>
    let visit : Visit σ := ⟨shop, directory, name⟩
    match visit.answer with
    | (.ok none, after) => visit :: searchVisits name rest after
    | _ => [visit]

def visits (shop : Workshop σ) : Call → List (Visit σ)
  | .get name => searchVisits name shop.builder.searchPath shop
  | .getIn directory name => [⟨{ shop with builder := shop.builder.addDirectory directory }, directory, name⟩]

def log (shop : Workshop σ) : List (Step σ) → List (Visit σ)
  | [] => []
  | .call call :: rest => shop.visits call ++ log (shop.ask call).2 rest
  | .outside change :: rest => log { shop with storage := change shop.storage } rest

/-- The state behind a run. -/
def ending (shop : Workshop σ) : List (Step σ) → Workshop σ
  | [] => shop
  | .call call :: rest => ending (shop.ask call).2 rest
  | .outside change :: rest => ending { shop with storage := change shop.storage } rest

theorem ending_append (shop : Workshop σ) (steps more : List (Step σ)) :
    shop.ending (steps ++ more) = (shop.ending steps).ending more := by
  induction steps generalizing shop with
  | nil => rfl
  | cons step rest ih => cases step <;> exact ih _

end Workshop

/-- Lookups one behind the other, with changes of the given kind between them. -/
inductive Course (moves : Workshop σ → Workshop σ → Prop) :
    Workshop σ → List (Visit σ) → Workshop σ → Prop
  | done (shop : Workshop σ) : Course moves shop [] shop
  | move {first next last : Workshop σ} {visits : List (Visit σ)} (moved : moves first next)
      (rest : Course moves next visits last) : Course moves first visits last
  | visit (visit : Visit σ) {last : Workshop σ} {visits : List (Visit σ)}
      (rest : Course moves visit.after visits last) : Course moves visit.shop (visit :: visits) last

namespace Course

variable {moves : Workshop σ → Workshop σ → Prop}

theorem append {first between last : Workshop σ} {front back : List (Visit σ)}
    (course : Course moves first front between) (behind : Course moves between back last) :
    Course moves first (front ++ back) last := by
  induction course with
  | done => exact behind
  | move moved _ ih => exact .move moved (ih behind)
  | visit visit _ ih => exact .visit visit (ih behind)

/-- What lookups and changes preserve, for the lookups so far, holds at every lookup of a course. -/
theorem holds (invariant : List (Visit σ) → Workshop σ → Prop) {first last : Workshop σ}
    {visits past : List (Visit σ)} (course : Course moves first visits last)
    (moved : ∀ {past shop next}, moves shop next → invariant past shop → invariant past next)
    (visited : ∀ {past visit}, visit ∈ visits → invariant past visit.shop →
      invariant (past ++ [visit]) visit.after) (start : invariant past first) :
    ∀ before visit after, visits = before ++ visit :: after →
      invariant (past ++ before) visit.shop := by
  induction course generalizing past with
  | done =>
    intro before visit after same
    simp at same
  | move change _ ih => exact ih visited (moved change start)
  | @visit first last rest _ ih =>
    intro before visit after same
    cases before with
    | nil =>
      rw [List.nil_append, List.cons.injEq] at same
      rw [List.append_nil, ← same.1]
      exact start
    | cons head before =>
      rw [List.cons_append, List.cons.injEq] at same
      obtain ⟨rfl, same⟩ := same
      rw [List.append_cons]
      refine ih (fun member => visited (List.mem_cons_of_mem _ member)) ?_ before visit after same
      exact visited List.mem_cons_self start

/-- What lookups and changes preserve holds at every lookup of a course and behind all of them. -/
theorem preserves (invariant : Workshop σ → Prop) {first last : Workshop σ} {visits : List (Visit σ)}
    (course : Course moves first visits last)
    (moved : ∀ {shop next}, moves shop next → invariant shop → invariant next)
    (visited : ∀ {visit}, visit ∈ visits → invariant visit.shop → invariant visit.after)
    (start : invariant first) : (∀ visit ∈ visits, invariant visit.shop) ∧ invariant last := by
  induction course with
  | done => exact ⟨List.forall_mem_nil _, start⟩
  | move change _ ih => exact ih visited (moved change start)
  | visit visit _ ih =>
    have later := fun {other} member => @visited other (List.mem_cons_of_mem _ member)
    obtain ⟨behind, ends⟩ := ih later (visited List.mem_cons_self start)
    exact ⟨List.forall_mem_cons.mpr ⟨start, behind⟩, ends⟩

end Course

namespace Workshop

variable {moves : Workshop σ → Workshop σ → Prop}

theorem course_search (name : String) (searched directories : List Path) (shop : Workshop σ) :
    Course moves shop (searchVisits name directories shop) (search name searched directories shop).2 := by
  induction directories generalizing searched shop with
  | nil => exact .done shop
  | cons directory rest ih =>
    have visited : Course moves shop [⟨shop, directory, name⟩] (shop.lookup directory name).2 :=
      .visit ⟨shop, directory, name⟩ (.done _)
    rw [searchVisits, search]
    dsimp only [Visit.answer]
    cases looked : shop.lookup directory name with
    | mk result after =>
      rw [looked] at visited
      cases result with
      | error e => exact visited
      | ok found =>
        cases found with
        | none => exact visited.append (ih _ after)
        | some loaded => exact visited

theorem course_ask (adds : ∀ (shop : Workshop σ) directory,
    moves shop { shop with builder := shop.builder.addDirectory directory }) (shop : Workshop σ)
    (call : Call) : Course moves shop (shop.visits call) (shop.ask call).2 := by
  cases call with
  | get name => exact course_search name [] shop.builder.searchPath shop
  | getIn directory name =>
    refine .move (adds shop directory) ?_
    have visited : Course moves { shop with builder := shop.builder.addDirectory directory }
        (shop.visits (.getIn directory name))
        (lookup { shop with builder := shop.builder.addDirectory directory } directory name).2 :=
      .visit ⟨{ shop with builder := shop.builder.addDirectory directory }, directory, name⟩ (.done _)
    rw [ask, getIn]
    cases looked : lookup { shop with builder := shop.builder.addDirectory directory } directory name with
    | mk result after =>
      rw [looked] at visited
      cases result with
      | error e => exact visited
      | ok found =>
        cases found with
        | none => exact visited
        | some loaded => exact visited

theorem course_ending (adds : ∀ (shop : Workshop σ) directory,
    moves shop { shop with builder := shop.builder.addDirectory directory }) {steps : List (Step σ)}
    (changes : ∀ change, .outside change ∈ steps →
      ∀ shop : Workshop σ, moves shop { shop with storage := change shop.storage })
    (shop : Workshop σ) : Course moves shop (shop.log steps) (shop.ending steps) := by
  induction steps generalizing shop with
  | nil => exact .done shop
  | cons step rest ih =>
    have later := fun change member => changes change (List.mem_cons_of_mem _ member)
    cases step with
    | call call => exact (course_ask adds shop call).append (ih later (shop.ask call).2)
    | outside change =>
      exact .move (changes change List.mem_cons_self shop) (ih later { shop with storage := change shop.storage })

/-- Calls that nobody else comes between are a course of lookups in which only directories are added. -/
theorem course_calls (shop : Workshop σ) (calls : List Call) :
    Course Widens shop (shop.log (calls.map .call)) (shop.ending (calls.map .call)) := by
  refine course_ending widens_addDirectory (fun change member => ?_) shop
  simp at member

/-- A search that succeeds ends with the lookup that gives the module, which finds the state that the search finds. -/
theorem search_ends {name : String} {searched directories : List Path} {shop : Workshop σ}
    {loaded : Loaded} (ok : (search name searched directories shop).1 = .ok loaded) :
    ∃ before visit, searchVisits name directories shop = before ++ [visit] ∧
      visit.module? = some loaded ∧ (∀ earlier ∈ before, earlier.module? = none) ∧ visit.shop = shop ∧
      (search name searched directories shop).2 = visit.after := by
  induction directories generalizing searched with
  | nil => contradiction
  | cons directory rest ih =>
    rw [search] at ok ⊢
    rw [searchVisits]
    have idle := @Visit.after_of_none _ _ ⟨shop, directory, name⟩
    dsimp only [Visit.after, Visit.answer] at idle ⊢
    cases looked : shop.lookup directory name with
    | mk result after =>
      rw [looked] at ok idle
      cases result with
      | error e => contradiction
      | ok found =>
        have given : Visit.module? ⟨shop, directory, name⟩ = found := by
          rw [Visit.module?, Visit.answer, looked]
          rfl
        cases found with
        | none =>
          obtain rfl : after = shop := idle rfl
          obtain ⟨before, visit, listed, gives, nothing, same, ends⟩ := ih ok
          refine ⟨⟨after, directory, name⟩ :: before, visit, ?_, gives, ?_, same, ends⟩
          · dsimp only
            rw [listed, List.cons_append]
          · intro earlier member
            rcases List.mem_cons.mp member with rfl | member
            · exact given
            · exact nothing earlier member
        | some found =>
          cases ok
          refine ⟨[], ⟨shop, directory, name⟩, rfl, given, by simp, rfl, ?_⟩
          rw [looked]

/-- A call that succeeds makes nothing before its last lookup, which gives the module and ends the call. -/
theorem ask_ends {shop : Workshop σ} {call : Call} {loaded : Loaded} (ok : (shop.ask call).1 = .ok loaded) :
    ∃ before visit, shop.visits call = before ++ [visit] ∧ visit.module? = some loaded ∧
      (∀ earlier ∈ before, earlier.module? = none) ∧ shop.Idle visit.shop ∧
      visit.shop.storage = shop.storage ∧ (shop.ask call).2 = visit.after := by
  cases call with
  | get name =>
    obtain ⟨before, visit, listed, gives, nothing, rfl, ends⟩ := search_ends ok
    exact ⟨before, visit, listed, gives, nothing, ⟨rfl, rfl⟩, rfl, ends⟩
  | getIn directory name =>
    refine ⟨[], ⟨{ shop with builder := shop.builder.addDirectory directory }, directory, name⟩, rfl, ?_⟩
    rw [ask, getIn] at ok ⊢
    dsimp only [Visit.module?, Visit.after, Visit.answer] at ok ⊢
    cases looked : lookup { shop with builder := shop.builder.addDirectory directory } directory name with
    | mk result after =>
      rw [looked] at ok
      cases result with
      | error e => contradiction
      | ok found =>
        cases found with
        | none => contradiction
        | some found =>
          cases ok
          exact ⟨rfl, by simp, shop.idle_addDirectory directory, rfl, rfl⟩

/-- A module that a call gives is the one of its last lookup, and the only one. -/
theorem ask_eq_ok {shop : Workshop σ} {call : Call} {loaded : Loaded}
    (ok : (shop.ask call).1 = .ok loaded) :
    ∃ before visit, shop.visits call = before ++ [visit] ∧ visit.module? = some loaded ∧
      ∀ earlier ∈ before, earlier.module? = none := by
  obtain ⟨before, visit, listed, gives, nothing, _⟩ := ask_ends ok
  exact ⟨before, visit, listed, gives, nothing⟩

end Workshop
end Stencil
