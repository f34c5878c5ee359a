import Stencil.Proofs.Expr.Pattern

/-! Expressions that can be assigned to. Main statement: `parseList_binds`, that they are written as patterns, in which
parentheses around a single pattern only group it. -/
namespace Stencil

/-- The tokens up to the rest are the given ones. -/
def Writes (spelled : List Token) (tokens rest : Tokens) : Prop := ∃ pre, tokens = pre ++ rest ∧ Spells pre spelled

section Writes
variable {spelled later : List Token} {tokens middle rest : Tokens} {mark : Mark}

theorem Writes.append (first : Writes spelled tokens middle) (second : Writes later middle rest) :
    Writes (spelled ++ later) tokens rest := by
  obtain ⟨front, rfl, spells⟩ := first
  obtain ⟨back, rfl, spells'⟩ := second
  exact ⟨front ++ back, (List.append_assoc front back rest).symm, by rw [Spells, List.map_append, spells, spells']⟩

theorem Writes.token (token : Token) (position : Nat) : Writes [token] (⟨token, position⟩ :: rest) rest :=
  ⟨[⟨token, position⟩], rfl, rfl⟩

theorem writes_of_behindMark (found : behindMark? mark tokens = some rest) : Writes [.mark mark] tokens rest := by
  unfold behindMark? at found
  split at found
  next => cases found
  next t others =>
    split at found
    next isMark =>
      cases found
      obtain ⟨token, position⟩ := t
      unfold Token.isMark at isMark
      split at isMark
      next same =>
        subst same
        rw [of_decide_eq_true isMark]
        exact .token _ position
      next => cases isMark
    next => cases found

theorem writes_of_expectMark {wanted : Wanted} (found : expectMark mark wanted tokens = .ok rest) :
    Writes [.mark mark] tokens rest := by
  unfold expectMark at found
  split at found
  next behind =>
    cases found
    exact writes_of_behindMark behind
  next => cases found

end Writes

theorem toTargets?_cons {item : Expr} {items : List Expr} {bounds : List Target}
    (bound : Expr.toTargets? (item :: items) = some bounds) : ∃ first others, item.toTarget? = some first ∧
      Expr.toTargets? items = some others ∧ bounds = first :: others := by
  rw [Expr.toTargets?] at bound
  obtain ⟨first, here, bound⟩ := Option.bind_eq_some_iff.mp bound
  obtain ⟨others, later, same⟩ := Option.bind_eq_some_iff.mp bound
  exact ⟨first, others, here, later, (Option.some.inj same).symm⟩

/-- What the parser reads as an expression that can be assigned to is a pattern, in which parentheses group. -/
def Binds (p : Parser Expr) : Prop := ∀ tokens e rest bound, p tokens = .ok (e, rest) → e.toTarget? = some bound →
  ∃ pattern : Pattern, pattern.target true = bound ∧ Writes pattern.tokens tokens rest

/-- The result cannot be assigned to, unless it is the operand with nothing read behind it. -/
def Bare (operand : Expr) (tokens : Tokens) (e : Expr) (rest : Tokens) : Prop :=
  (e = operand ∧ rest = tokens) ∨ e.toTarget? = none

section Levels
variable {nested base : Parser Expr} {operator? : Tokens → Option ((Expr → Expr → Expr) × Tokens)}
  {tokens rest : Tokens} {e : Expr}

theorem Binds.of_bare {first : Parser Expr} (binds : Binds first) {operand : Expr} {behind : Tokens}
    (read : first tokens = .ok (operand, behind)) (bare : Bare operand behind e rest) {bound : Target}
    (given : e.toTarget? = some bound) :
    ∃ pattern : Pattern, pattern.target true = bound ∧ Writes pattern.tokens tokens rest := by
  rcases bare with ⟨rfl, rfl⟩ | none
  · exact binds tokens e rest bound read given
  · rw [none] at given
    cases given

def Operates (operator? : Tokens → Option ((Expr → Expr → Expr) × Tokens)) : Prop :=
  ∀ tokens combine rest, operator? tokens = some (combine, rest) → ∀ left right, (combine left right).toTarget? = none

theorem leftChain_bare (operates : Operates operator?) {fuel : Tokens} {left : Expr}
    (ok : leftChain base operator? fuel left tokens = .ok (e, rest)) : Bare left tokens e rest := by
  induction fuel generalizing left tokens with
  | nil =>
    cases ok
    exact .inl ⟨rfl, rfl⟩
  | cons t fuel ih =>
    rw [leftChain] at ok
    split at ok
    next =>
      cases ok
      exact .inl ⟨rfl, rfl⟩
    next combine behind found =>
      obtain ⟨⟨right, last⟩, _, ok⟩ := bind_eq_ok ok
      have combined := operates tokens combine behind found left right
      rcases ih ok with ⟨rfl, _⟩ | none
      · exact .inr combined
      · exact .inr none

theorem chained_binds (operands : Binds base) (operates : Operates operator?) :
    Binds (chained base operator?) := by
  intro tokens e rest bound ok given
  obtain ⟨⟨left, behind⟩, read, ok⟩ := bind_eq_ok ok
  exact operands.of_bare read (leftChain_bare operates ok) given

theorem wordOperator?_operates (word : String) {combine : Expr → Expr → Expr}
    (none : ∀ left right, (combine left right).toTarget? = none) : Operates (wordOperator? word combine) := by
  intro tokens found rest applies
  obtain ⟨behind, _, same⟩ := Option.map_eq_some_iff.mp applies
  cases same
  exact none

theorem sumOperator?_operates : Operates sumOperator? := by
  intro tokens combine rest applies left right
  unfold sumOperator? at applies
  split at applies <;> cases applies <;> rfl

theorem productOperator?_operates : Operates productOperator? := by
  intro tokens combine rest applies left right
  unfold productOperator? at applies
  split at applies <;> cases applies <;> rfl

theorem sequence_binds (nests : Binds nested) {close : Mark} {wanted : Wanted} {fuel : Tokens} {items : List Expr}
    {bounds : List Target} (ok : sequence nested close wanted fuel tokens = .ok (items, rest))
    (given : Expr.toTargets? items = some bounds) :
    ∃ patterns : Patterns, patterns.targets true = bounds ∧ Writes (patterns.tokens ++ [.mark close]) tokens rest := by
  induction fuel generalizing tokens items bounds with
  | nil => cases ok
  | cons t fuel ih =>
    rw [sequence] at ok
    split at ok
    next behind found =>
      cases ok
      cases given
      exact ⟨.none, rfl, writes_of_behindMark found⟩
    next =>
      obtain ⟨⟨first, behind⟩, read, ok⟩ := bind_eq_ok ok
      dsimp only at ok
      split at ok
      next =>
        obtain ⟨last, closes, same⟩ := bind_eq_ok ok
        cases same
        obtain ⟨bound, _, here, nothing, rfl⟩ := toTargets?_cons given
        cases nothing
        obtain ⟨pattern, rfl, writes⟩ := nests tokens first behind bound read here
        exact ⟨.last pattern, rfl, writes.append (writes_of_expectMark closes)⟩
      next after comma =>
        obtain ⟨⟨others, last⟩, later, same⟩ := bind_eq_ok ok
        cases same
        obtain ⟨bound, bounds, here, there, rfl⟩ := toTargets?_cons given
        obtain ⟨pattern, rfl, writes⟩ := nests tokens first behind bound read here
        obtain ⟨patterns, rfl, writes'⟩ := ih later there
        have whole := (writes.append (writes_of_behindMark comma)).append writes'
        exact ⟨.comma pattern patterns, rfl, by simpa [Patterns.tokens] using whole⟩

theorem parenthesized_binds (nests : Binds nested) {bound : Target} (ok : parenthesized nested tokens = .ok (e, rest))
    (given : e.toTarget? = some bound) : ∃ patterns : Patterns, patterns.whole true = bound ∧
      Writes (patterns.tokens ++ [.mark .rightParen]) tokens rest := by
  rw [parenthesized] at ok
  split at ok
  next behind found =>
    cases ok
    cases given
    exact ⟨.none, rfl, writes_of_behindMark found⟩
  next =>
    obtain ⟨⟨first, behind⟩, read, ok⟩ := bind_eq_ok ok
    dsimp only at ok
    split at ok
    next last closes =>
      cases ok
      obtain ⟨pattern, rfl, writes⟩ := nests tokens e behind bound read given
      exact ⟨.last pattern, rfl, writes.append (writes_of_behindMark closes)⟩
    next =>
      obtain ⟨after, comma, ok⟩ := bind_eq_ok ok
      obtain ⟨⟨items, last⟩, later, same⟩ := bind_eq_ok ok
      cases same
      rw [Expr.toTarget?] at given
      obtain ⟨bounds, each, rfl⟩ := Option.map_eq_some_iff.mp given
      obtain ⟨here, others, isFirst, rest, rfl⟩ := toTargets?_cons each
      obtain ⟨pattern, rfl, writes⟩ := nests tokens first behind here read isFirst
      obtain ⟨patterns, rfl, writes'⟩ := sequence_binds nests later rest
      have whole := (writes.append (writes_of_expectMark comma)).append writes'
      exact ⟨.comma pattern patterns, rfl, by simpa [Patterns.tokens] using whole⟩

theorem primary_binds (nests : Binds nested) : Binds (primary nested) := by
  intro tokens e rest bound ok given
  unfold primary at ok
  split at ok
  next => cases ok; cases given
  next => cases ok; cases given
  next => cases ok; cases given
  next name position behind =>
    split at ok
    · cases ok; cases given
    split at ok
    · cases ok; cases given
    split at ok
    · cases ok; cases given
    split at ok
    · cases ok
    next free =>
      cases ok
      cases given
      exact ⟨.name name (by simpa using free), rfl, .token _ position⟩
  next position behind =>
    obtain ⟨patterns, whole, writes⟩ := parenthesized_binds nests ok given
    exact ⟨.round patterns, whole, (Writes.token _ position).append writes⟩
  next position behind =>
    obtain ⟨⟨items, last⟩, read, same⟩ := bind_eq_ok ok
    cases same
    rw [Expr.toTarget?] at given
    obtain ⟨bounds, each, rfl⟩ := Option.map_eq_some_iff.mp given
    obtain ⟨patterns, rfl, writes⟩ := sequence_binds nests read each
    exact ⟨.square patterns, rfl, (Writes.token _ position).append writes⟩
  next =>
    obtain ⟨_, _, same⟩ := bind_eq_ok ok
    cases same
    cases given
  next => cases ok

theorem sliceUpper_unassignable {value : Expr} {lower : Option Expr}
    (ok : sliceUpper nested value lower tokens = .ok (e, rest)) : e.toTarget? = none := by
  rw [sliceUpper] at ok
  split at ok
  next => cases ok; rfl
  next =>
    obtain ⟨_, _, ok⟩ := bind_eq_ok ok
    obtain ⟨_, _, ok⟩ := bind_eq_ok ok
    cases ok
    rfl

theorem subscript_unassignable {value : Expr} (ok : subscript nested value tokens = .ok (e, rest)) :
    e.toTarget? = none := by
  rw [subscript] at ok
  split at ok
  next => exact sliceUpper_unassignable ok
  next =>
    obtain ⟨_, _, ok⟩ := bind_eq_ok ok
    dsimp only at ok
    split at ok
    next => exact sliceUpper_unassignable ok
    next =>
      obtain ⟨_, _, ok⟩ := bind_eq_ok ok
      cases ok
      rfl

theorem trailer?_unassignable {value : Expr} (ok : trailer? nested value tokens = some (.ok (e, rest))) :
    e.toTarget? = none := by
  unfold trailer? at ok
  split at ok
  next =>
    obtain ⟨_, _, ok⟩ := bind_eq_ok (Option.some.inj ok)
    cases ok
    rfl
  next =>
    obtain ⟨_, _, ok⟩ := bind_eq_ok (Option.some.inj ok)
    cases ok
    rfl
  next => exact subscript_unassignable (Option.some.inj ok)
  next => cases ok

theorem trailers_bare {fuel : Tokens} {value : Expr} (ok : trailers nested fuel value tokens = .ok (e, rest)) :
    Bare value tokens e rest := by
  induction fuel generalizing value tokens with
  | nil =>
    cases ok
    exact .inl ⟨rfl, rfl⟩
  | cons t fuel ih =>
    rw [trailers] at ok
    split at ok
    next =>
      cases ok
      exact .inl ⟨rfl, rfl⟩
    next step found =>
      obtain ⟨⟨next, behind⟩, rfl, ok⟩ := bind_eq_ok ok
      have unassignable := trailer?_unassignable found
      rcases ih ok with ⟨rfl, _⟩ | none
      · exact .inr unassignable
      · exact .inr none

theorem operand_binds (nests : Binds nested) : Binds (operand nested) := by
  intro tokens e rest bound ok given
  obtain ⟨⟨value, behind⟩, read, ok⟩ := bind_eq_ok ok
  exact (primary_binds nests).of_bare read (trailers_bare ok) given

theorem unary_binds (nests : Binds nested) : Binds (unary nested) := by
  intro tokens e rest bound ok given
  unfold unary at ok
  split at ok
  next => exact operand_binds nests _ e rest bound ok given
  next =>
    split at ok
    next =>
      obtain ⟨_, _, ok⟩ := bind_eq_ok ok
      cases ok
      cases given
    next =>
      obtain ⟨_, _, ok⟩ := bind_eq_ok ok
      cases ok
      cases given
    next => exact operand_binds nests _ e rest bound ok given

theorem sum_binds (nests : Binds nested) : Binds (sum nested) :=
  chained_binds (chained_binds (unary_binds nests) productOperator?_operates) sumOperator?_operates

theorem comparisonTail_bare {fuel : Tokens} {links : List (CompareOp × Expr)} (first : Expr)
    (ok : comparisonTail nested fuel tokens = .ok (links, rest)) :
    Bare first tokens (if links.isEmpty then first else .compare first links) rest := by
  cases fuel with
  | nil =>
    cases ok
    exact .inl ⟨rfl, rfl⟩
  | cons t fuel =>
    rw [comparisonTail] at ok
    split at ok
    next =>
      cases ok
      exact .inl ⟨rfl, rfl⟩
    next =>
      obtain ⟨_, _, ok⟩ := bind_eq_ok ok
      obtain ⟨_, _, ok⟩ := bind_eq_ok ok
      cases ok
      exact .inr rfl

theorem comparison_binds (nests : Binds nested) : Binds (comparison nested) := by
  intro tokens e rest bound ok given
  obtain ⟨⟨first, behind⟩, read, ok⟩ := bind_eq_ok ok
  obtain ⟨⟨links, last⟩, tail, ok⟩ := bind_eq_ok ok
  cases ok
  exact (sum_binds nests).of_bare read (comparisonTail_bare first tail) given

theorem negation_binds (nests : Binds nested) : Binds (negation nested) := by
  intro tokens e rest bound ok given
  unfold negation at ok
  split at ok
  next => exact comparison_binds nests _ e rest bound ok given
  next =>
    split at ok
    next =>
      obtain ⟨_, _, ok⟩ := bind_eq_ok ok
      cases ok
      cases given
    next => exact comparison_binds nests _ e rest bound ok given

theorem disjunction_binds (nests : Binds nested) : Binds (disjunction nested) :=
  have conjunctions : Binds (conjunction nested) :=
    chained_binds (negation_binds nests) (wordOperator?_operates "and" fun _ _ => rfl)
  chained_binds conjunctions (wordOperator?_operates "or" fun _ _ => rfl)

theorem conditional_binds (nests : Binds nested) : Binds (conditional nested) := by
  intro tokens e rest bound ok given
  obtain ⟨⟨value, behind⟩, read, ok⟩ := bind_eq_ok ok
  dsimp only at ok
  split at ok
  next =>
    cases ok
    exact disjunction_binds nests tokens e rest bound read given
  next =>
    obtain ⟨_, _, ok⟩ := bind_eq_ok ok
    split at ok
    next => cases ok
    next =>
      obtain ⟨_, _, ok⟩ := bind_eq_ok ok
      cases ok
      cases given

end Levels

theorem expression_binds (fuel : Tokens) : Binds (expression fuel) := by
  induction fuel with
  | nil =>
    intro tokens e rest bound ok
    cases ok
  | cons t fuel ih => exact conditional_binds ih

/-- Items behind a first one: none, where no comma is read, or patterns behind a comma. -/
theorem listTail_binds {nested : Parser Expr} (nests : Binds nested) {fuel tokens rest : Tokens} {items : List Expr}
    {bounds : List Target} (ok : listTail nested fuel tokens = .ok (items, rest))
    (given : Expr.toTargets? items = some bounds) :
    ((fuel = [] ∨ behindMark? .comma tokens = none) ∧ bounds = [] ∧ rest = tokens) ∨
      ∃ patterns : Patterns, patterns.targets true = bounds ∧ Writes (.mark .comma :: patterns.tokens) tokens rest := by
  induction fuel generalizing tokens items bounds with
  | nil =>
    cases ok
    cases given
    exact .inl ⟨.inl rfl, rfl, rfl⟩
  | cons t fuel ih =>
    rw [listTail] at ok
    split at ok
    next absent =>
      cases ok
      cases given
      exact .inl ⟨.inr absent, rfl, rfl⟩
    next behind comma =>
      refine .inr ?_
      split at ok
      next =>
        obtain ⟨⟨item, behind⟩, read, ok⟩ := bind_eq_ok ok
        obtain ⟨⟨others, last⟩, tail, same⟩ := bind_eq_ok ok
        cases same
        obtain ⟨bound, bounds, here, later, rfl⟩ := toTargets?_cons given
        obtain ⟨pattern, rfl, writes⟩ := nests _ item behind bound read here
        have first := (writes_of_behindMark comma).append writes
        rcases ih tail later with ⟨_, rfl, rfl⟩ | ⟨patterns, rfl, writes'⟩
        · exact ⟨.last pattern, rfl, first⟩
        · exact ⟨.comma pattern patterns, rfl, first.append writes'⟩
      next =>
        cases ok
        cases given
        exact ⟨.none, rfl, writes_of_behindMark comma⟩

/-- What is read as expressions that can be assigned to is written as patterns, in which parentheses group. -/
theorem parseList_binds {tokens rest : Tokens} {e : Expr} {bound : Target} (ok : parseList tokens = .ok (e, rest))
    (given : e.toTarget? = some bound) :
    ∃ patterns : Patterns, patterns.whole true = bound ∧ Writes patterns.tokens tokens rest := by
  have nests := expression_binds tokens
  obtain ⟨⟨first, behind⟩, read, ok⟩ := bind_eq_ok ok
  dsimp only at ok
  split at ok
  next =>
    cases ok
    obtain ⟨pattern, rfl, writes⟩ := nests tokens e rest bound read given
    exact ⟨.last pattern, rfl, writes⟩
  next after comma =>
    obtain ⟨⟨items, last⟩, tail, same⟩ := bind_eq_ok ok
    cases same
    rw [Expr.toTarget?] at given
    obtain ⟨bounds, each, rfl⟩ := Option.map_eq_some_iff.mp given
    obtain ⟨bound, bounds, here, later, rfl⟩ := toTargets?_cons each
    obtain ⟨pattern, rfl, writes⟩ := nests tokens first behind bound read here
    rcases listTail_binds nests tail later with ⟨rfl | absent, _⟩ | ⟨patterns, rfl, writes'⟩
    · cases comma
    · rw [comma] at absent
      cases absent
    · exact ⟨.comma pattern patterns, rfl, writes.append writes'⟩

end Stencil
