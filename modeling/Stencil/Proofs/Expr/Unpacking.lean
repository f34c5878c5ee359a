import Stencil.Proofs.Value.Access

/-! Unpacking a value into the names of a target. Main statement: bound are the leaves that are met, from left to
right, before the first sub-target that does not fit its value, in this order and nothing else, and there is no error
exactly where every sub-target fits. -/
namespace Stencil

/-- The items of a value that can be iterated: of a map its entries as pairs. -/
inductive Value.Iterates : Value → List Value → Prop
  | sequence {value : Value} {items : List Value} (is : value.Sequence items) : Iterates value items
  | map (entries : Entries) : Iterates (.map entries) (entries.map fun entry => .tuple [.str entry.1, entry.2])

/-- A tuple of targets and a value that can not be iterated or has another number of items. -/
def Target.Misfits (target : Target) (value : Value) : Prop :=
  ∃ targets, target = .tuple targets ∧ ∀ items, value.Iterates items → items.length ≠ targets.length

/-- A sub-target stands where an item is when a target is laid over a value. -/
inductive Target.Reaches (sub : Target) (item : Value) : Target → Value → Prop
  | here : Reaches sub item sub item
  | inside {targets : List Target} {items : List Value} {value own : Value} {target : Target}
      (iterates : value.Iterates items) (fits : items.length = targets.length)
      (pair : (target, own) ∈ targets.zip items) (below : Reaches sub item target own) :
      Reaches sub item (.tuple targets) value

/-- What is met when a target is laid over a value: a name and its value, or a sub-target that does not fit. -/
inductive Meeting where
  | leaf (name : String) (value : Value)
  | misfit (e : RunError)

def Meeting.misfit? : Meeting → Option RunError
  | .leaf _ _ => none
  | .misfit e => some e

/-- The items of a value for so many targets, one for each. -/
def Value.itemsFor (value : Value) (count : Nat) : Except RunError (List Value) := do
  let items ← value.items
  if items.length < count then .error (.value (.tooFew count items.length))
  else if count < items.length then .error (.value (.tooMany count))
  else return items

mutual
/-- All that is met, from left to right, also behind a misfit. -/
def Target.meetings : Target → Value → List Meeting
  | .name name, value => [.leaf name value]
  | .tuple targets, value =>
    match value.itemsFor targets.length with
    | .ok items => meetingsOfAll targets items
    | .error e => [.misfit e]

def meetingsOfAll : List Target → List Value → List Meeting
  | target :: targets, item :: items => target.meetings item ++ meetingsOfAll targets items
  | _, _ => []
end

def leavesOf : List Meeting → Entries
  | .leaf name value :: rest => (name, value) :: leavesOf rest
  | .misfit _ :: _ => []
  | [] => []

/-- The names with their values up to the first misfit. -/
def Target.leaves (target : Target) (value : Value) : Entries := leavesOf (target.meetings value)

section Items

variable {value : Value} {items : List Value} {count : Nat}

theorem items_eq_ok : value.items = .ok items ↔ value.Iterates items := by
  constructor
  · intro ok
    cases value with
    | list own =>
      cases ok
      exact .sequence (.list _)
    | tuple own =>
      cases ok
      exact .sequence (.tuple _)
    | str text =>
      cases ok
      exact .sequence (.str text)
    | map entries =>
      cases ok
      exact .map entries
    | _ => cases ok
  · rintro (⟨⟨⟩⟩ | _) <;> rfl

theorem itemsFor_eq_ok : value.itemsFor count = .ok items ↔ value.Iterates items ∧ items.length = count := by
  rw [← items_eq_ok, Value.itemsFor]
  cases value.items with
  | error e => simp
  | ok own =>
    rw [ok_bind]
    constructor
    · intro ok
      split at ok
      · cases ok
      · split at ok
        · cases ok
        · cases ok
          exact ⟨rfl, by omega⟩
    · rintro ⟨⟨⟩, rfl⟩
      simp [pure, Except.pure]

theorem misfits_tuple {targets : List Target} :
    (Target.tuple targets).Misfits value ↔ ∃ e, value.itemsFor targets.length = .error e := by
  constructor
  · rintro ⟨_, ⟨⟩, misfit⟩
    cases found : value.itemsFor targets.length with
    | error e => exact ⟨e, rfl⟩
    | ok items =>
      obtain ⟨iterates, fits⟩ := itemsFor_eq_ok.mp found
      exact absurd fits (misfit items iterates)
  · rintro ⟨e, failed⟩
    refine ⟨targets, rfl, fun items iterates fits => ?_⟩
    rw [itemsFor_eq_ok.mpr ⟨iterates, fits⟩] at failed
    cases failed

end Items

section Meetings

variable {scope : Scope}

/-- Binding what is met up to the first misfit. -/
def Scope.meet (scope : Scope) : List Meeting → Effect
  | [] => (scope, none)
  | .leaf name value :: rest => (scope.bind name value).meet rest
  | .misfit e :: _ => (scope, some e)

theorem Scope.meet_append (first second : List Meeting) : scope.meet (first ++ second) =
    match scope.meet first with
    | (after, none) => after.meet second
    | (after, some e) => (after, some e) := by
  induction first generalizing scope with
  | nil => rfl
  | cons meeting first ih =>
    cases meeting with
    | leaf name value => exact ih
    | misfit e => rfl

theorem Scope.meet_eq (meetings : List Meeting) : scope.meet meetings =
    ((leavesOf meetings).foldl (fun bound leaf => bound.bind leaf.1 leaf.2) scope,
      meetings.findSome? Meeting.misfit?) := by
  induction meetings generalizing scope with
  | nil => rfl
  | cons meeting rest ih =>
    cases meeting with
    | leaf name value => exact ih
    | misfit e => rfl

theorem assign_tuple (scope : Scope) (targets : List Target) (value : Value) :
    (Target.tuple targets).assign scope value =
      scope.effect (value.itemsFor targets.length) (assignAll scope targets) := by
  rw [Target.assign, Value.itemsFor]
  cases value.items with
  | error e => rfl
  | ok items =>
    rw [ok_bind]
    dsimp only
    split
    · rfl
    · split <;> rfl

mutual
theorem Target.assign_eq (target : Target) (scope : Scope) (value : Value) :
    target.assign scope value = scope.meet (target.meetings value) := by
  match target with
  | .name name =>
    rw [Target.assign, Target.meetings]
    rfl
  | .tuple targets =>
    rw [assign_tuple, Target.meetings]
    cases value.itemsFor targets.length with
    | error e => rfl
    | ok items => exact assignAll_eq targets scope items

theorem assignAll_eq (targets : List Target) (scope : Scope) (items : List Value) :
    assignAll scope targets items = scope.meet (meetingsOfAll targets items) := by
  match targets, items with
  | [], _ => simp [assignAll, meetingsOfAll, Scope.meet]
  | _ :: _, [] => simp [assignAll, meetingsOfAll, Scope.meet]
  | target :: targets, item :: items =>
    rw [assignAll, meetingsOfAll, Scope.meet_append, target.assign_eq]
    generalize scope.meet (target.meetings item) = effect
    obtain ⟨after, fault⟩ := effect
    cases fault with
    | none => exact assignAll_eq targets after items
    | some e => rfl
end

/-- What a target itself is met as, if it is a name or does not fit. -/
def Target.meeting? : Target → Value → Option Meeting
  | .name bound, value => some (.leaf bound value)
  | .tuple targets, value =>
    match value.itemsFor targets.length with
    | .ok _ => none
    | .error e => some (.misfit e)

theorem mem_meetingsOfAll {targets : List Target} {items : List Value} {meeting : Meeting} :
    meeting ∈ meetingsOfAll targets items ↔ ∃ pair ∈ targets.zip items, meeting ∈ pair.1.meetings pair.2 := by
  induction targets generalizing items with
  | nil => simp [meetingsOfAll]
  | cons target targets ih =>
    cases items with
    | nil => simp [meetingsOfAll]
    | cons item items => simp [meetingsOfAll, ih]

theorem Target.Reaches.mem_meetings {sub target : Target} {item value : Value} {meeting : Meeting}
    (reaches : Reaches sub item target value) (met : sub.meeting? item = some meeting) :
    meeting ∈ target.meetings value := by
  induction reaches with
  | here =>
    cases sub with
    | name name =>
      cases met
      simp [Target.meetings]
    | tuple targets =>
      rw [Target.meeting?] at met
      rw [Target.meetings]
      split at met
      · cases met
      · cases met
        exact List.mem_singleton_self _
  | inside iterates fits pair _ ih =>
    rw [Target.meetings, itemsFor_eq_ok.mpr ⟨iterates, fits⟩]
    exact mem_meetingsOfAll.mpr ⟨_, pair, ih⟩

mutual
theorem Target.reaches_of_mem (target : Target) {value : Value} {meeting : Meeting}
    (member : meeting ∈ target.meetings value) :
    ∃ sub item, Target.Reaches sub item target value ∧ sub.meeting? item = some meeting := by
  match target with
  | .name name =>
    rw [Target.meetings] at member
    cases List.mem_singleton.mp member
    exact ⟨_, _, .here, rfl⟩
  | .tuple targets =>
    rw [Target.meetings] at member
    split at member
    next items found =>
      obtain ⟨iterates, fits⟩ := itemsFor_eq_ok.mp found
      obtain ⟨pair, inside, sub, item, reaches, met⟩ := reaches_of_mem_all targets member
      exact ⟨sub, item, .inside iterates fits inside reaches, met⟩
    next e failed =>
      cases List.mem_singleton.mp member
      exact ⟨_, _, .here, by rw [Target.meeting?, failed]⟩

theorem reaches_of_mem_all (targets : List Target) {items : List Value} {meeting : Meeting}
    (member : meeting ∈ meetingsOfAll targets items) : ∃ pair ∈ targets.zip items, ∃ sub item,
      Target.Reaches sub item pair.1 pair.2 ∧ sub.meeting? item = some meeting := by
  match targets, items with
  | [], _ => simp [meetingsOfAll] at member
  | _ :: _, [] => simp [meetingsOfAll] at member
  | target :: targets, own :: items =>
    rw [meetingsOfAll] at member
    rcases List.mem_append.mp member with first | later
    · exact ⟨(target, own), List.mem_cons_self, target.reaches_of_mem first⟩
    · obtain ⟨pair, inside, found⟩ := reaches_of_mem_all targets later
      exact ⟨pair, List.mem_cons_of_mem _ inside, found⟩
end

theorem Target.misfits_iff {target : Target} {value : Value} :
    target.Misfits value ↔ ∃ e, target.meeting? value = some (.misfit e) := by
  cases target with
  | name name =>
    constructor
    · rintro ⟨_, ⟨⟩, _⟩
    · rintro ⟨_, ⟨⟩⟩
  | tuple targets =>
    rw [misfits_tuple, Target.meeting?]
    cases value.itemsFor targets.length with
    | ok items => simp
    | error e => simp

end Meetings

section Bindings

variable {scope : Scope}

theorem get?_bindings_of_ne {bindings : Entries} {name : String} (other : ∀ binding ∈ bindings, binding.1 ≠ name) :
    (bindings.foldl (fun bound binding => bound.bind binding.1 binding.2) scope).get? name = scope.get? name := by
  induction bindings generalizing scope with
  | nil => rfl
  | cons binding bindings ih =>
    obtain ⟨own, others⟩ := List.forall_mem_cons.mp other
    rw [List.foldl_cons, ih others]
    exact lookup_put_of_ne own.symm binding.2 scope

theorem get?_bindings_of_last (before : Entries) (name : String) (value : Value) {after : Entries}
    (last : ∀ binding ∈ after, binding.1 ≠ name) :
    ((before ++ (name, value) :: after).foldl (fun bound binding => bound.bind binding.1 binding.2) scope).get? name =
      some value := by
  rw [List.foldl_append, List.foldl_cons, get?_bindings_of_ne last]
  exact lookup_put_self name value _

end Bindings

/-- What a scope is and what error there is behind the assignment of a value to a target. -/
structure Target.Unpacks (target : Target) (value : Value) (scope : Scope) (effect : Effect) : Prop where
  leaf : ∀ name item, .leaf name item ∈ target.meetings value ↔ Reaches (.name name) item target value
  binds : effect.1 = (target.leaves value).foldl (fun bound leaf => bound.bind leaf.1 leaf.2) scope
  last : ∀ before name item after, target.leaves value = before ++ (name, item) :: after →
    (∀ leaf ∈ after, leaf.1 ≠ name) → effect.1.get? name = some item
  frame : ∀ name, (∀ leaf ∈ target.leaves value, leaf.1 ≠ name) → effect.1.get? name = scope.get? name
  succeeds : effect.2 = none ↔ ∀ sub item, Reaches sub item target value → ¬ sub.Misfits item
  fails : effect.2 = (target.meetings value).findSome? Meeting.misfit?
  outermost : target.Misfits value → effect.1 = scope

theorem assignment_binds_leaves (target : Target) (value : Value) (scope : Scope) :
    target.Unpacks value scope (target.assign scope value) := by
  rw [target.assign_eq, Scope.meet_eq]
  refine ⟨fun name item => ⟨fun member => ?_, fun reaches => reaches.mem_meetings rfl⟩, rfl,
    fun before name item after split latest => ?_, fun name other => get?_bindings_of_ne other, ?_, rfl,
    fun misfits => ?_⟩
  · obtain ⟨sub, own, reaches, met⟩ := target.reaches_of_mem member
    cases sub with
    | name name =>
      cases met
      exact reaches
    | tuple targets =>
      rw [Target.meeting?] at met
      split at met <;> cases met
  · rw [Target.leaves] at split
    rw [split]
    exact get?_bindings_of_last before name item latest
  · rw [List.findSome?_eq_none_iff]
    constructor
    · intro none sub item reaches misfits
      obtain ⟨e, met⟩ := Target.misfits_iff.mp misfits
      cases none _ (reaches.mem_meetings met)
    · intro fits meeting member
      cases meeting with
      | leaf name item => rfl
      | misfit e =>
        obtain ⟨sub, item, reaches, met⟩ := target.reaches_of_mem member
        exact absurd (Target.misfits_iff.mpr ⟨e, met⟩) (fits sub item reaches)
  · obtain ⟨e, met⟩ := Target.misfits_iff.mp misfits
    cases target with
    | name name => cases met
    | tuple targets =>
      rw [Target.meeting?] at met
      rw [Target.meetings]
      split at met
      · cases met
      · rfl

/-- A string of three characters for two names, behind a name that is bound before. -/
theorem assignment_binds_leaves_before_misfit : ∃ target value,
    target = Target.tuple [.name "a", .tuple [.name "b", .name "a"], .name "c"] ∧
      value = Value.list [.int 1, .str "xyz", .null] ∧ target.leaves value = [("a", .int 1)] ∧
        target.Unpacks value [("c", .null)] (target.assign [("c", .null)] value) :=
  ⟨_, _, rfl, rfl, rfl, assignment_binds_leaves _ _ _⟩

end Stencil
