/-! Sequencing of computations that may fail: what the first part of a bind gave decides what follows. -/
namespace Stencil

variable {ε α β : Type}

/-- The error of a computation that has failed. -/
def fault? : Except ε α → Option ε
  | .ok _ => none
  | .error e => some e

theorem fault?_eq_some {outcome : Except ε α} {e : ε} : fault? outcome = some e ↔ outcome = .error e := by
  cases outcome with
  | ok a => simp [fault?]
  | error fault => simp [fault?]

theorem toOption_eq_some {outcome : Except ε α} {a : α} : outcome.toOption = some a ↔ outcome = .ok a := by
  cases outcome with
  | ok b => simp [Except.toOption]
  | error e => simp [Except.toOption]

@[simp] theorem ok_bind (a : α) (next : α → Except ε β) : (Except.ok a >>= next) = next a := rfl

@[simp] theorem error_bind (e : ε) (next : α → Except ε β) : (Except.error e >>= next) = .error e := rfl

theorem bind_eq_ok {first : Except ε α} {next : α → Except ε β} {b : β}
    (ok : (first >>= next) = .ok b) : ∃ a, first = .ok a ∧ next a = .ok b := by
  cases first with
  | error e => rw [error_bind] at ok; contradiction
  | ok a => exact ⟨a, rfl, ok⟩

/-- What fails where a value is given back at the end is the first part. -/
theorem bind_pure_eq_error {first : Except ε α} {change : α → β} {e : ε} :
    (do let a ← first; pure (change a)) = .error e ↔ first = .error e := by
  cases first with
  | error fault => rw [error_bind, Except.error.injEq, Except.error.injEq]
  | ok a =>
    constructor
    · intro fails
      cases fails
    · intro fails
      cases fails

theorem map_eq_ok {first : Except ε α} {change : α → β} {b : β} (ok : first.map change = .ok b) :
    ∃ a, first = .ok a ∧ b = change a := by
  cases first with
  | error e => contradiction
  | ok a => exact ⟨a, rfl, (Except.ok.inj ok).symm⟩

/-- What a computation gives is good, or its error is fair. -/
inductive Upholds (good : α → Prop) (fair : ε → Prop) : Except ε α → Prop
  | ok {a : α} (made : good a) : Upholds good fair (.ok a)
  | error {e : ε} (failed : fair e) : Upholds good fair (.error e)

namespace Upholds
variable {good : α → Prop} {better : β → Prop} {fair : ε → Prop} {outcome : Except ε α}

theorem bind (upholds : Upholds good fair outcome) {next : α → Except ε β}
    (later : ∀ a, good a → Upholds better fair (next a)) : Upholds better fair (outcome >>= next) := by
  cases upholds with
  | ok made => exact later _ made
  | error failed => exact .error failed

theorem map (upholds : Upholds good fair outcome) {change : α → β} (later : ∀ a, good a → better (change a)) :
    Upholds better fair (outcome.map change) := by
  cases upholds with
  | ok made => exact .ok (later _ made)
  | error failed => exact .error failed

theorem imp {weaker : α → Prop} (upholds : Upholds good fair outcome) (later : ∀ a, good a → weaker a) :
    Upholds weaker fair outcome := by
  cases upholds with
  | ok made => exact .ok (later _ made)
  | error failed => exact .error failed

theorem of_ok {a : α} (upholds : Upholds good fair (.ok a)) : good a := by
  cases upholds
  assumption

theorem of_error {e : ε} (upholds : Upholds good fair (.error e : Except ε α)) : fair e := by
  cases upholds
  assumption

end Upholds

theorem foldlM_eq_error {step : β → α → Except ε β} {list : List α} {start : β} {e : ε} :
    list.foldlM step start = .error e ↔ ∃ before a after state, list = before ++ a :: after ∧
      before.foldlM step start = .ok state ∧ step state a = .error e := by
  constructor
  · intro fails
    induction list generalizing start with
    | nil => contradiction
    | cons a list ih =>
      rw [List.foldlM_cons] at fails
      cases stepped : step start a with
      | error fault =>
        rw [stepped] at fails
        cases fails
        exact ⟨[], a, list, start, rfl, rfl, stepped⟩
      | ok next =>
        rw [stepped, ok_bind] at fails
        obtain ⟨before, b, after, state, rfl, passed, stuck⟩ := ih fails
        refine ⟨a :: before, b, after, state, rfl, ?_, stuck⟩
        rw [List.foldlM_cons, stepped, ok_bind, passed]
  · rintro ⟨before, a, after, state, rfl, passed, stuck⟩
    rw [List.foldlM_append, passed, ok_bind, List.foldlM_cons, stuck]
    rfl

end Stencil
