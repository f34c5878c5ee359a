import Stencil.Proofs.Outcome
import Stencil.Expr.Eval

/-! The names that code reads. Main statements: an expression has the same value, or the same error, in
scopes that agree on its names, and statements carry scopes that are alike over to scopes that are alike. -/
namespace Stencil

mutual
def Expr.names : Expr → List String
  | .literal _ => []
  | .name name => [name]
  | .list items => namesOfAll items
  | .tuple items => namesOfAll items
  | .dict entries => namesOfEntries entries
  | .attribute value _ => value.names
  | .index value index => value.names ++ index.names
  | .slice value lower upper => value.names ++ (namesOfBound lower ++ namesOfBound upper)
  | .call function arguments => function.names ++ namesOfAll arguments
  | .unary _ value => value.names
  | .binary _ left right => left.names ++ right.names
  | .not value => value.names
  | .and left right => left.names ++ right.names
  | .or left right => left.names ++ right.names
  | .compare first rest => first.names ++ namesOfChain rest
  | .conditional condition then_ otherwise => condition.names ++ (then_.names ++ otherwise.names)

def namesOfAll : List Expr → List String
  | [] => []
  | item :: rest => item.names ++ namesOfAll rest

def namesOfEntries : List (Expr × Expr) → List String
  | [] => []
  | (key, value) :: rest => key.names ++ (value.names ++ namesOfEntries rest)

def namesOfBound : Option Expr → List String
  | none => []
  | some bound => bound.names

def namesOfChain : List (CompareOp × Expr) → List String
  | [] => []
  | (_, operand) :: rest => operand.names ++ namesOfChain rest
end

/-- What is only assigned to is not read, but an augmented name is. -/
def Stmt.names : Stmt → List String
  | .expr value => value.names
  | .assign _ value => value.names
  | .augment name _ value => name :: value.names
  | .pass => []

namespace Scope

/-- Scopes in which these names are bound to the same values, or unbound in both. -/
def AgreeOn (names : List String) (scope other : Scope) : Prop :=
  ∀ name ∈ names, scope.get? name = other.get? name

variable {scope other : Scope} {names more : List String}

theorem AgreeOn.symm (agree : AgreeOn names scope other) : AgreeOn names other scope :=
  fun name member => (agree name member).symm

theorem AgreeOn.mono (agree : AgreeOn more scope other) (fewer : names ⊆ more) : AgreeOn names scope other :=
  fun name member => agree name (fewer member)

@[simp] theorem agreeOn_append :
    AgreeOn (names ++ more) scope other ↔ AgreeOn names scope other ∧ AgreeOn more scope other := by
  simp only [AgreeOn, List.mem_append, or_imp, forall_and]

theorem AgreeOn.bind (agree : AgreeOn names scope other) (name : String) (value : Value) :
    AgreeOn names (scope.bind name value) (other.bind name value) := by
  intro read member
  by_cases same : read = name
  · subst same
    exact (lookup_put_self read value scope).trans (lookup_put_self read value other).symm
  · exact (lookup_put_of_ne same value scope).trans ((agree read member).trans
      (lookup_put_of_ne same value other).symm)

end Scope

section Evaluation

open Scope (AgreeOn)

mutual
/-- The value of an expression depends on the names that it reads, and on nothing else of the scope. -/
theorem Expr.eval_of_agreeOn {scope other : Scope} (e : Expr) (agree : AgreeOn e.names scope other) :
    e.eval scope = e.eval other := by
  match e with
  | .literal _ => rw [Expr.eval, Expr.eval]
  | .name name => rw [Expr.eval, Expr.eval, agree name List.mem_cons_self]
  | .list items => rw [Expr.eval, Expr.eval, evalAll_of_agreeOn items agree]
  | .tuple items => rw [Expr.eval, Expr.eval, evalAll_of_agreeOn items agree]
  | .dict entries => rw [Expr.eval, Expr.eval, evalEntries_of_agreeOn [] entries agree]
  | .attribute value _ => rw [Expr.eval, Expr.eval, value.eval_of_agreeOn agree]
  | .index value index =>
    obtain ⟨left, right⟩ := Scope.agreeOn_append.mp agree
    simp only [Expr.eval, value.eval_of_agreeOn left, index.eval_of_agreeOn right]
  | .slice value lower upper =>
    obtain ⟨left, bounds⟩ := Scope.agreeOn_append.mp agree
    obtain ⟨low, high⟩ := Scope.agreeOn_append.mp bounds
    simp only [Expr.eval, value.eval_of_agreeOn left, evalBound_of_agreeOn lower low,
      evalBound_of_agreeOn upper high]
  | .call function arguments =>
    obtain ⟨left, right⟩ := Scope.agreeOn_append.mp agree
    have same := evalAll_of_agreeOn arguments right
    have called := function.eval_of_agreeOn left
    -- a name and an attribute are looked up where they are called, anything else is evaluated first
    match function with
    | .name name => simp only [Expr.eval, left name List.mem_cons_self, same]
    | .attribute value name => simp only [Expr.eval, value.eval_of_agreeOn left, same]
    | .literal _ | .list _ | .tuple _ | .dict _ | .index _ _ | .slice _ _ _ | .call _ _ | .unary _ _
    | .binary _ _ _ | .not _ | .and _ _ | .or _ _ | .compare _ _ | .conditional _ _ _ =>
      simp only [Expr.eval] at called ⊢ <;> simp only [called]
  | .unary _ value => rw [Expr.eval, Expr.eval, value.eval_of_agreeOn agree]
  | .binary _ left right =>
    obtain ⟨first, second⟩ := Scope.agreeOn_append.mp agree
    simp only [Expr.eval, left.eval_of_agreeOn first, right.eval_of_agreeOn second]
  | .not value => rw [Expr.eval, Expr.eval, value.eval_of_agreeOn agree]
  | .and left right =>
    obtain ⟨first, second⟩ := Scope.agreeOn_append.mp agree
    simp only [Expr.eval, left.eval_of_agreeOn first, right.eval_of_agreeOn second]
  | .or left right =>
    obtain ⟨first, second⟩ := Scope.agreeOn_append.mp agree
    simp only [Expr.eval, left.eval_of_agreeOn first, right.eval_of_agreeOn second]
  | .compare first rest =>
    obtain ⟨left, right⟩ := Scope.agreeOn_append.mp agree
    simp only [Expr.eval, first.eval_of_agreeOn left]
    exact congrArg _ (funext fun value => evalChain_of_agreeOn value rest right)
  | .conditional condition then_ otherwise =>
    obtain ⟨test, branches⟩ := Scope.agreeOn_append.mp agree
    obtain ⟨yes, no⟩ := Scope.agreeOn_append.mp branches
    simp only [Expr.eval, condition.eval_of_agreeOn test, then_.eval_of_agreeOn yes, otherwise.eval_of_agreeOn no]

theorem evalAll_of_agreeOn {scope other : Scope} (items : List Expr)
    (agree : AgreeOn (namesOfAll items) scope other) : evalAll scope items = evalAll other items := by
  match items with
  | [] => rw [evalAll, evalAll]
  | item :: rest =>
    obtain ⟨first, others⟩ := Scope.agreeOn_append.mp agree
    rw [evalAll, evalAll, item.eval_of_agreeOn first, evalAll_of_agreeOn rest others]

theorem evalEntries_of_agreeOn {scope other : Scope} (done : Entries) (entries : List (Expr × Expr))
    (agree : AgreeOn (namesOfEntries entries) scope other) :
    evalEntries scope done entries = evalEntries other done entries := by
  match entries with
  | [] => rw [evalEntries, evalEntries]
  | (key, value) :: rest =>
    obtain ⟨first, others⟩ := Scope.agreeOn_append.mp agree
    obtain ⟨second, last⟩ := Scope.agreeOn_append.mp others
    simp only [evalEntries, key.eval_of_agreeOn first, value.eval_of_agreeOn second,
      fun done => evalEntries_of_agreeOn done rest last]

theorem evalBound_of_agreeOn {scope other : Scope} (bound : Option Expr)
    (agree : AgreeOn (namesOfBound bound) scope other) : evalBound scope bound = evalBound other bound := by
  match bound with
  | none => rw [evalBound, evalBound]
  | some bound => rw [evalBound, evalBound, bound.eval_of_agreeOn agree]

theorem evalChain_of_agreeOn {scope other : Scope} (left : Value) (rest : List (CompareOp × Expr))
    (agree : AgreeOn (namesOfChain rest) scope other) : evalChain scope left rest = evalChain other left rest := by
  match rest with
  | [] => rw [evalChain, evalChain]
  | (op, operand) :: rest =>
    obtain ⟨first, others⟩ := Scope.agreeOn_append.mp agree
    simp only [evalChain, operand.eval_of_agreeOn first, fun value => evalChain_of_agreeOn value rest others]
end

end Evaluation

def namesOfStatements : List Stmt → List String
  | [] => []
  | statement :: rest => statement.names ++ namesOfStatements rest

namespace Scope

/-- A relation between scopes that agree on the names that are read, which binding a name preserves. -/
structure Link (names : List String) (alike : Scope → Scope → Prop) : Prop where
  agree {scope other : Scope} : alike scope other → AgreeOn names scope other
  bind {scope other : Scope} (name : String) (value : Value) :
    alike scope other → alike (scope.bind name value) (other.bind name value)

theorem link_eq (names : List String) : Link names (· = ·) where
  agree same _ _ := by rw [same]
  bind _ _ same := by rw [same]

theorem link_agreeOn (names : List String) : Link names (AgreeOn names) where
  agree := id
  bind name value agree := agree.bind name value

end Scope

/-- Effects that leave scopes that are alike and end with the same error or without any. -/
def Effect.Alike (alike : Scope → Scope → Prop) (effect other : Effect) : Prop :=
  alike effect.1 other.1 ∧ effect.2 = other.2

section Execution

variable {names : List String} {alike : Scope → Scope → Prop}

theorem Scope.Link.eval (link : Scope.Link names alike) {scope other : Scope} (related : alike scope other)
    {e : Expr} (known : e.names ⊆ names) : e.eval scope = e.eval other :=
  e.eval_of_agreeOn ((link.agree related).mono known)

theorem Scope.effect_alike {α : Type} {scope other : Scope} (related : alike scope other)
    (outcome : Except RunError α) {next last : α → Effect} (then_ : ∀ a, (next a).Alike alike (last a)) :
    (scope.effect outcome next).Alike alike (other.effect outcome last) := by
  cases outcome with
  | ok a => exact then_ a
  | error e => exact ⟨related, rfl⟩

mutual
theorem Target.assign_alike (link : Scope.Link names alike) {scope other : Scope} (related : alike scope other)
    (target : Target) (value : Value) : (target.assign scope value).Alike alike (target.assign other value) := by
  match target with
  | .name name =>
    rw [Target.assign, Target.assign]
    exact ⟨link.bind name value related, rfl⟩
  | .tuple targets =>
    rw [Target.assign, Target.assign]
    cases value.items with
    | error e => exact ⟨related, rfl⟩
    | ok items =>
      dsimp only
      split
      · exact ⟨related, rfl⟩
      · split
        · exact ⟨related, rfl⟩
        · exact assignAll_alike link related targets items

theorem assignAll_alike (link : Scope.Link names alike) {scope other : Scope} (related : alike scope other)
    (targets : List Target) (items : List Value) :
    (assignAll scope targets items).Alike alike (assignAll other targets items) := by
  match targets, items with
  | [], _ => exact ⟨related, rfl⟩
  | _ :: _, [] => exact ⟨related, rfl⟩
  | target :: targets, item :: items =>
    obtain ⟨bound, same⟩ := target.assign_alike link related item
    rw [assignAll, assignAll]
    generalize target.assign scope item = effect at bound same
    generalize target.assign other item = effect' at bound same
    obtain ⟨after, fault⟩ := effect
    obtain ⟨after', fault'⟩ := effect'
    cases same
    cases fault with
    | some e => exact ⟨bound, rfl⟩
    | none => exact assignAll_alike link bound targets items
end

theorem Stmt.exec_alike (link : Scope.Link names alike) {scope other : Scope} (related : alike scope other)
    (statement : Stmt) (known : statement.names ⊆ names) :
    (statement.exec scope).Alike alike (statement.exec other) := by
  cases statement with
  | expr value =>
    rw [Stmt.exec, Stmt.exec, link.eval related known]
    exact Scope.effect_alike related _ fun _ => ⟨related, rfl⟩
  | assign target value =>
    rw [Stmt.exec, Stmt.exec, link.eval related known]
    exact Scope.effect_alike related _ fun result => target.assign_alike link related result
  | augment name op value =>
    have current := link.agree related name (known List.mem_cons_self)
    rw [Stmt.exec, Stmt.exec, current, link.eval related fun _ member => known (List.mem_cons_of_mem _ member)]
    cases other.get? name with
    | none => exact ⟨related, rfl⟩
    | some bound => exact Scope.effect_alike related _ fun result => ⟨link.bind name result related, rfl⟩
  | pass => exact ⟨related, rfl⟩

theorem execFrom_alike (link : Scope.Link names alike) (number : Nat) {scope other : Scope}
    (related : alike scope other) (statements : List Stmt) (known : namesOfStatements statements ⊆ names) :
    alike (execFrom number scope statements).1 (execFrom number other statements).1 ∧
      (execFrom number scope statements).2 = (execFrom number other statements).2 := by
  induction statements generalizing number scope other with
  | nil => exact ⟨related, rfl⟩
  | cons statement rest ih =>
    obtain ⟨first, later⟩ := List.append_subset.mp known
    obtain ⟨stepped, same⟩ := statement.exec_alike link related first
    rw [execFrom, execFrom]
    generalize statement.exec scope = effect at stepped same
    generalize statement.exec other = effect' at stepped same
    obtain ⟨after, fault⟩ := effect
    obtain ⟨after', fault'⟩ := effect'
    cases same
    cases fault with
    | some e => exact ⟨stepped, rfl⟩
    | none => exact ih (number + 1) stepped later

end Execution

end Stencil
