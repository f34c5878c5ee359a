import Stencil.Expr.Eval
import Stencil.Proofs.Outcome

/-! Chains of comparisons. Main statement: a chain gives what the conjunction of its links gives, and the first link
that is not true decides, whatever is compared behind it. -/
namespace Stencil

/-- The comparisons between the neighbours of a chain. -/
def chainLinks (left : Expr) : List (CompareOp × Expr) → List Expr
  | [] => []
  | (op, right) :: rest => .compare left [(op, right)] :: chainLinks right rest

def lastOperand (first : Expr) : List (CompareOp × Expr) → Expr
  | [] => first
  | (_, operand) :: rest => lastOperand operand rest

/-- Operands with `and` between them, grouped from the left as they are parsed. -/
def conjoined (first : Expr) (others : List Expr) : Expr := others.foldl .and first

/-- Conditions in turn, up to the first one that does not hold. -/
def evalWhileTrue (scope : Scope) : List Expr → Outcome
  | [] => .ok (.bool true)
  | condition :: rest => do
    let value ← condition.eval scope
    if value.isTruthy then evalWhileTrue scope rest else return value

/-- An expression that is true or false, if it has a value. -/
def Judges (scope : Scope) (e : Expr) : Prop := ∀ value, e.eval scope = .ok value → ∃ b, value = .bool b

section Links
variable {scope : Scope}

theorem chainLinks_append (left : Expr) (front back : List (CompareOp × Expr)) :
    chainLinks left (front ++ back) = chainLinks left front ++ chainLinks (lastOperand left front) back := by
  induction front generalizing left with
  | nil => simp [chainLinks, lastOperand]
  | cons link front ih => simp [chainLinks, lastOperand, ih]

theorem eval_link {left : Expr} {a : Value} (has : left.eval scope = .ok a) (op : CompareOp) (right : Expr) :
    (Expr.compare left [(op, right)]).eval scope = do
      let b ← right.eval scope
      let holds ← a.compare op b
      return .bool holds := by
  rw [Expr.eval, has, ok_bind, evalChain]
  cases right.eval scope with
  | error e => simp
  | ok b =>
    rw [ok_bind, ok_bind]
    cases a.compare op b with
    | error e => rfl
    | ok holds => cases holds <;> rfl

example : (Expr.compare (.name "n") [(.less, .literal (.int 3))]).eval [("n", .int 7)] = .ok (.bool false) := by cbv

theorem eval_compare_error {left : Expr} {e : RunError} (fails : left.eval scope = .error e)
    (rest : List (CompareOp × Expr)) : (Expr.compare left rest).eval scope = .error e := by
  rw [Expr.eval, fails, error_bind]

theorem judges_link (left : Expr) (link : CompareOp × Expr) : Judges scope (.compare left [link]) := by
  intro value given
  obtain ⟨op, right⟩ := link
  cases has : left.eval scope with
  | error e => simp [eval_compare_error has] at given
  | ok a =>
    rw [eval_link has] at given
    obtain ⟨b, _, given⟩ := bind_eq_ok given
    obtain ⟨holds, _, given⟩ := bind_eq_ok given
    exact ⟨holds, (Except.ok.inj given).symm⟩

theorem judges_of_mem_chainLinks {left part : Expr} {rest : List (CompareOp × Expr)}
    (member : part ∈ chainLinks left rest) : Judges scope part := by
  induction rest generalizing left with
  | nil => simp [chainLinks] at member
  | cons link rest ih =>
    rcases List.mem_cons.mp member with rfl | later
    · exact judges_link left link
    · exact ih later

/-- Behind an operand with a value, the loop over a chain goes on as long as its links are true. -/
theorem evalChain_eq {left : Expr} {a : Value} (has : left.eval scope = .ok a) (rest : List (CompareOp × Expr)) :
    evalChain scope a rest = evalWhileTrue scope (chainLinks left rest) := by
  induction rest generalizing left a with
  | nil => rw [evalChain, chainLinks, evalWhileTrue]
  | cons link rest ih =>
    obtain ⟨op, right⟩ := link
    rw [evalChain, chainLinks, evalWhileTrue, eval_link has]
    cases read : right.eval scope with
    | error e => simp
    | ok b =>
      rw [ok_bind, ok_bind]
      cases a.compare op b with
      | error e => simp
      | ok holds =>
        cases holds with
        | false => simp [Value.isTruthy]
        | true => simp [Value.isTruthy, ih read]

theorem eval_compare (first : Expr) (link : CompareOp × Expr) (rest : List (CompareOp × Expr)) :
    (Expr.compare first (link :: rest)).eval scope = evalWhileTrue scope (chainLinks first (link :: rest)) := by
  cases has : first.eval scope with
  | error e =>
    rw [eval_compare_error has, chainLinks, evalWhileTrue, eval_compare_error has, error_bind]
  | ok a => rw [Expr.eval, has, ok_bind, evalChain_eq has]

end Links

section Conjunction
variable {scope : Scope}

theorem Judges.and {a b : Expr} (first : Judges scope a) (second : Judges scope b) : Judges scope (.and a b) := by
  intro value given
  rw [Expr.eval] at given
  obtain ⟨found, read, given⟩ := bind_eq_ok given
  split at given
  · exact second value given
  · cases given
    exact first value read

theorem evalWhileTrue_and (a b : Expr) (rest : List Expr) :
    evalWhileTrue scope (.and a b :: rest) = evalWhileTrue scope (a :: b :: rest) := by
  rw [evalWhileTrue, evalWhileTrue, Expr.eval, evalWhileTrue]
  cases a.eval scope with
  | error e => simp
  | ok value => cases truth : value.isTruthy <;> simp [truth]

/-- A conjunction of what is true or false holds as long as its operands do. -/
theorem eval_conjoined {first : Expr} {others : List Expr} (judges : ∀ e ∈ first :: others, Judges scope e) :
    (conjoined first others).eval scope = evalWhileTrue scope (first :: others) := by
  induction others generalizing first with
  | nil =>
    rw [conjoined, List.foldl_nil, evalWhileTrue]
    cases read : first.eval scope with
    | error e => simp
    | ok value =>
      obtain ⟨b, rfl⟩ := judges first List.mem_cons_self value read
      cases b <;> rfl
  | cons second others ih =>
    simp only [List.forall_mem_cons] at judges
    obtain ⟨here, next, later⟩ := judges
    rw [← evalWhileTrue_and]
    apply ih
    exact List.forall_mem_cons.mpr ⟨here.and next, later⟩

/-- Behind conditions that hold, one that is not true decides. -/
theorem evalWhileTrue_of_first {front : List Expr} {part : Expr} (held : ∀ e ∈ front, e.eval scope = .ok (.bool true))
    (judges : Judges scope part) (decides : part.eval scope ≠ .ok (.bool true)) (later : List Expr) :
    evalWhileTrue scope (front ++ part :: later) = part.eval scope := by
  induction front with
  | nil =>
    rw [List.nil_append, evalWhileTrue]
    cases read : part.eval scope with
    | error e => simp
    | ok value =>
      obtain ⟨b, rfl⟩ := judges value read
      cases b with
      | false => rfl
      | true => exact absurd read decides
  | cons e front ih =>
    obtain ⟨here, others⟩ := List.forall_mem_cons.mp held
    rw [List.cons_append, evalWhileTrue, here, ok_bind]
    simpa [Value.isTruthy] using ih others

end Conjunction

/-- A chain of comparisons has the value or the error of the conjunction of its links. The first link that is not
true decides it, whatever the operands behind that link are. -/
theorem comparison_chain_conjoins (scope : Scope) (first : Expr) (link : CompareOp × Expr)
    (rest : List (CompareOp × Expr)) :
    (Expr.compare first (link :: rest)).eval scope =
      (conjoined (.compare first [link]) (chainLinks link.2 rest)).eval scope ∧
    ∀ front op operand, (∀ part ∈ chainLinks first front, part.eval scope = .ok (.bool true)) →
      (Expr.compare (lastOperand first front) [(op, operand)]).eval scope ≠ .ok (.bool true) →
      ∀ later, (Expr.compare first (front ++ (op, operand) :: later)).eval scope =
        (Expr.compare (lastOperand first front) [(op, operand)]).eval scope := by
  constructor
  · have judges : ∀ e ∈ Expr.compare first [link] :: chainLinks link.2 rest, Judges scope e := by
      intro e member
      have inChain : e ∈ chainLinks first (link :: rest) := member
      exact judges_of_mem_chainLinks inChain
    rw [eval_compare, eval_conjoined judges]
    rfl
  · intro front op operand held decides later
    obtain ⟨start, tail, whole⟩ := List.exists_cons_of_ne_nil
      (List.append_ne_nil_of_right_ne_nil front (List.cons_ne_nil (op, operand) later))
    rw [whole, eval_compare, ← whole, chainLinks_append]
    apply evalWhileTrue_of_first held (judges_link _ _) decides

theorem comparison_chain_of_false_link :
    (∀ part ∈ chainLinks (.literal (.int 1)) [(.less, .name "n")],
      part.eval [("n", .int 7)] = .ok (.bool true)) ∧
    (Expr.compare (.name "n") [(.less, .literal (.int 3))]).eval [("n", .int 7)] ≠ .ok (.bool true) ∧
    (Expr.compare (.literal (.int 1)) [(.less, .name "n"), (.less, .literal (.int 3)), (.is, .name "missing")]).eval
        [("n", .int 7)] =
      (Expr.compare (.name "n") [(.less, .literal (.int 3))]).eval [("n", .int 7)] := by
  have held : ∀ part ∈ chainLinks (.literal (.int 1)) [(.less, .name "n")],
      part.eval [("n", .int 7)] = .ok (.bool true) := by
    intro part member
    rw [List.mem_singleton.mp member]
    rfl
  have link : (Expr.compare (.name "n") [(.less, .literal (.int 3))]).eval [("n", .int 7)] = .ok (.bool false) := rfl
  have decides : (Expr.compare (.name "n") [(.less, .literal (.int 3))]).eval [("n", .int 7)] ≠ .ok (.bool true) := by
    rw [link]
    simp
  have chain := comparison_chain_conjoins [("n", .int 7)] (.literal (.int 1)) (.less, .name "n") []
  exact ⟨held, decides, chain.2 _ _ _ held decides _⟩

end Stencil
