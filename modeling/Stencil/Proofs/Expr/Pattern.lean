import Stencil.Proofs.Expr.Nested

/-! Patterns of names that loops and assignments bind, as they are written. Main statements: the binding of a loop
reads the tokens of a pattern, and takes parentheses around a single pattern for a tuple of one item. -/
namespace Stencil

mutual
/-- A name that can be bound, or patterns between brackets. -/
inductive Pattern where
  | name (name : String) (free : isKeyword name = false)
  | round (items : Patterns)
  | square (items : Patterns)

/-- Patterns between commas. One may stand behind the last of them. -/
inductive Patterns where
  | none
  | last (pattern : Pattern)
  | comma (pattern : Pattern) (rest : Patterns)
end

mutual
def Pattern.tokens : Pattern → List Token
  | .name name _ => [.name name]
  | .round items => bracketed .leftParen .rightParen items.tokens
  | .square items => bracketed .leftBracket .rightBracket items.tokens

def Patterns.tokens : Patterns → List Token
  | .none => []
  | .last pattern => pattern.tokens
  | .comma pattern rest => pattern.tokens ++ .mark .comma :: rest.tokens
end

mutual
/-- What is bound, where parentheses around a single pattern only group it or make it a tuple. -/
def Pattern.target (groups : Bool) : Pattern → Target
  | .name name _ => .name name
  | .round items => if groups then items.whole groups else .tuple (items.targets groups)
  | .square items => .tuple (items.targets groups)

def Patterns.targets (groups : Bool) : Patterns → List Target
  | .none => []
  | .last pattern => [pattern.target groups]
  | .comma pattern rest => pattern.target groups :: rest.targets groups

/-- What is bound by patterns without brackets around them. -/
def Patterns.whole (groups : Bool) : Patterns → Target
  | .none => .tuple []
  | .last pattern => pattern.target groups
  | .comma pattern rest => .tuple (pattern.target groups :: rest.targets groups)
end

def Patterns.singles : Patterns → Nat
  | .last _ => 1
  | .none | .comma _ _ => 0

mutual
/-- The number of parentheses around a single pattern. -/
def Pattern.lones : Pattern → Nat
  | .name _ _ => 0
  | .round items => items.lones + items.singles
  | .square items => items.lones

def Patterns.lones : Patterns → Nat
  | .none => 0
  | .last pattern => pattern.lones
  | .comma pattern rest => pattern.lones + rest.lones
end

mutual
theorem Pattern.sizeOf_target (pattern : Pattern) :
    sizeOf (pattern.target false) = sizeOf (pattern.target true) + 3 * pattern.lones := by
  match pattern with
  | .name name _ => rfl
  | .round .none => rfl
  | .round (.last inner) =>
    have inside := inner.sizeOf_target
    simp only [Pattern.target, Patterns.whole, Patterns.targets, Pattern.lones, Patterns.lones, Patterns.singles,
      Bool.false_eq_true, if_true, if_false, Target.tuple.sizeOf_spec, List.cons.sizeOf_spec, List.nil.sizeOf_spec]
    omega
  | .round (.comma first rest) =>
    have here := first.sizeOf_target
    have later := rest.sizeOf_targets
    simp only [Pattern.target, Patterns.whole, Patterns.targets, Pattern.lones, Patterns.lones, Patterns.singles,
      Bool.false_eq_true, if_true, if_false, Target.tuple.sizeOf_spec, List.cons.sizeOf_spec]
    omega
  | .square items =>
    have inside := items.sizeOf_targets
    simp only [Pattern.target, Pattern.lones, Target.tuple.sizeOf_spec]
    omega

theorem Patterns.sizeOf_targets (items : Patterns) :
    sizeOf (items.targets false) = sizeOf (items.targets true) + 3 * items.lones := by
  match items with
  | .none => rfl
  | .last pattern =>
    have inside := pattern.sizeOf_target
    simp only [Patterns.targets, Patterns.lones, List.cons.sizeOf_spec, List.nil.sizeOf_spec]
    omega
  | .comma pattern rest =>
    have here := pattern.sizeOf_target
    have later := rest.sizeOf_targets
    simp only [Patterns.targets, Patterns.lones, List.cons.sizeOf_spec]
    omega
end

mutual
theorem Pattern.target_eq {pattern : Pattern} (none : pattern.lones = 0) :
    pattern.target false = pattern.target true := by
  match pattern with
  | .name name _ => rfl
  | .round .none => rfl
  | .round (.last inner) => cases none
  | .round (.comma first rest) =>
    simp only [Pattern.lones, Patterns.lones, Nat.add_eq_zero_iff] at none
    simp only [Pattern.target, Patterns.whole, Patterns.targets, first.target_eq none.1.1, rest.targets_eq none.1.2,
      Bool.false_eq_true, if_true, if_false]
  | .square items =>
    simp only [Pattern.target, items.targets_eq none]

theorem Patterns.targets_eq {items : Patterns} (none : items.lones = 0) :
    items.targets false = items.targets true := by
  match items with
  | .none => rfl
  | .last pattern => simp only [Patterns.targets, pattern.target_eq none]
  | .comma pattern rest =>
    obtain ⟨here, later⟩ := Nat.add_eq_zero_iff.mp none
    simp only [Patterns.targets, pattern.target_eq here, rest.targets_eq later]
end

/-- Both readings of a pattern bind the same exactly where no parentheses stand around a single pattern. -/
theorem Patterns.whole_eq_iff (items : Patterns) : items.whole false = items.whole true ↔ items.lones = 0 := by
  constructor
  · intro same
    have size := congrArg sizeOf same
    cases items with
    | none => rfl
    | last pattern =>
      have inside := pattern.sizeOf_target
      simp only [Patterns.whole] at size
      rw [Patterns.lones]
      omega
    | comma pattern rest =>
      have inside := (Patterns.comma pattern rest).sizeOf_targets
      simp only [Patterns.whole, Target.tuple.sizeOf_spec] at size
      simp only [Patterns.targets] at inside
      omega
  · intro none
    cases items with
    | none => rfl
    | last pattern => exact pattern.target_eq none
    | comma pattern rest => exact congrArg Target.tuple (Patterns.targets_eq none)

/-- Tokens that patterns are made of. -/
def Token.binds : Token → Bool
  | .name word => !isKeyword word
  | .mark found => [Mark.leftParen, .rightParen, .leftBracket, .rightBracket, .comma].contains found
  | _ => false

theorem binds_bracketed {opening closing : Mark} {inner : List Token} (opens : (Token.mark opening).binds = true)
    (closes : (Token.mark closing).binds = true) (inside : ∀ t ∈ inner, t.binds = true) :
    ∀ t ∈ bracketed opening closing inner, t.binds = true := by
  have last : ∀ t ∈ [Token.mark closing], t.binds = true := List.forall_mem_singleton.mpr closes
  rw [bracketed]
  exact List.forall_mem_append.mpr ⟨List.forall_mem_cons.mpr ⟨opens, inside⟩, last⟩

mutual
theorem Pattern.binds (pattern : Pattern) : ∀ t ∈ pattern.tokens, t.binds = true := by
  match pattern with
  | .name name free => exact List.forall_mem_singleton.mpr (by rw [Token.binds, free]; rfl)
  | .round items => exact binds_bracketed rfl rfl items.binds
  | .square items => exact binds_bracketed rfl rfl items.binds

theorem Patterns.binds (items : Patterns) : ∀ t ∈ items.tokens, t.binds = true := by
  match items with
  | .none => exact List.forall_mem_nil _
  | .last pattern => exact pattern.binds
  | .comma pattern rest => exact List.forall_mem_append.mpr ⟨pattern.binds, List.forall_mem_cons.mpr ⟨rfl, rest.binds⟩⟩
end

theorem Pattern.leads (pattern : Pattern) : ∃ t others, pattern.tokens = t :: others ∧ Leads 8 t := by
  cases pattern with
  | name name free =>
    refine ⟨_, _, rfl, ?_⟩
    rintro rfl
    cases free
  | round items => exact ⟨_, _, rfl, trivial⟩
  | square items => exact ⟨_, _, rfl, trivial⟩

section Loop

theorem Mark.ends_of_bracket {close : Mark} (closes : close ∈ [Mark.rightParen, .rightBracket]) :
    close ∈ [Mark.rightParen, .rightBracket, .rightBrace, .comma, .colon] := by
  simp only [List.mem_cons, List.not_mem_nil, or_false] at closes
  rcases closes with rfl | rfl <;> simp

theorem Mark.ne_comma_of_bracket {close : Mark} (closes : close ∈ [Mark.rightParen, .rightBracket]) :
    close ≠ .comma := by
  rintro rfl
  simp at closes

mutual
/-- The binding of a loop takes every pattern between parentheses for an item of a tuple. -/
theorem Pattern.read (pattern : Pattern) {pre fuel : Tokens} (spells : Spells pre pattern.tokens)
    (room : pre.length ≤ fuel.length) (rest : Tokens) :
    target fuel (pre ++ rest) = .ok (pattern.target false, rest) := by
  match pattern, fuel with
  | .name name free, [] => simp [spells.length, Pattern.tokens] at room
  | .round items, [] => simp [spells.length, Pattern.tokens, bracketed] at room
  | .square items, [] => simp [spells.length, Pattern.tokens, bracketed] at room
  | .name name free, t :: fuel =>
    obtain ⟨position, none, rfl, empty⟩ := spells.cons
    cases empty.nil
    rw [List.singleton_append, target, if_neg (by simp [free]), Pattern.target]
  | .round items, t :: fuel =>
    obtain ⟨first, middle, last, rfl, inside⟩ := spells.bracketed
    simp only [List.length_cons, List.length_append, List.length_nil] at room
    have inner : sequence (target fuel) .rightParen .name (middle ++ ⟨.mark .rightParen, last⟩ :: rest)
        (middle ++ ⟨.mark .rightParen, last⟩ :: rest) = .ok (items.targets false, rest) :=
      items.read inside (by omega) (by simp) (by decide) last rest
    rw [List.cons_append, List.append_assoc, List.singleton_append, target, inner, ok_bind]
    rfl
  | .square items, t :: fuel =>
    obtain ⟨first, middle, last, rfl, inside⟩ := spells.bracketed
    simp only [List.length_cons, List.length_append, List.length_nil] at room
    have inner : sequence (target fuel) .rightBracket .name (middle ++ ⟨.mark .rightBracket, last⟩ :: rest)
        (middle ++ ⟨.mark .rightBracket, last⟩ :: rest) = .ok (items.targets false, rest) :=
      items.read inside (by omega) (by simp) (by decide) last rest
    rw [List.cons_append, List.append_assoc, List.singleton_append, target, inner, ok_bind]
    rfl

theorem Patterns.read (items : Patterns) {pre fuel bound : Tokens} (spells : Spells pre items.tokens)
    (room : pre.length ≤ fuel.length) (enough : pre.length < bound.length) {close : Mark}
    (closes : close ∈ [Mark.rightParen, .rightBracket]) (position : Nat) (rest : Tokens) :
    sequence (target fuel) close .name bound (pre ++ ⟨.mark close, position⟩ :: rest) =
      .ok (items.targets false, rest) := by
  match items, bound with
  | _, [] => cases enough
  | .none, t :: bound =>
    cases spells.nil
    rw [List.nil_append, sequence, behindMark?_self]
    rfl
  | .last pattern, t :: bound =>
    rw [Patterns.tokens] at spells
    rw [sequence, spells.not_behindMark pattern.leads (Mark.ends_of_bracket closes), pattern.read spells room, ok_bind]
    simp only [behindMark?_of_ne (Mark.ne_comma_of_bracket closes), expectMark_self]
    rfl
  | .comma pattern others, t :: bound =>
    obtain ⟨front, behind, rfl, spellsFirst, spellsRest⟩ := spells.append
    obtain ⟨comma, back, rfl, spellsLater⟩ := spellsRest.cons
    simp only [List.length_append, List.length_cons] at room enough
    have roomFirst : front.length ≤ fuel.length := by omega
    have roomLater : back.length ≤ fuel.length := by omega
    have enoughLater : back.length < bound.length := by omega
    rw [List.append_assoc, List.cons_append, sequence,
      spellsFirst.not_behindMark pattern.leads (Mark.ends_of_bracket closes),
      pattern.read spellsFirst roomFirst, ok_bind]
    simp only [behindMark?_self, others.read spellsLater roomLater enoughLater closes position rest]
    rfl
end

theorem not_isWord_of_binds {t : Token} (binds : t.binds = true) {word : String} (keyword : isKeyword word = true) :
    t.isWord word = false := by
  cases t with
  | name found =>
    refine decide_eq_false ?_
    rintro rfl
    simp [Token.binds, keyword] at binds
  | _ => rfl

theorem Pattern.not_behindWord (pattern : Pattern) {pre : Tokens} (spells : Spells pre pattern.tokens)
    (behind : Tokens) {word : String} (keyword : isKeyword word = true) : behindWord? word (pre ++ behind) = none := by
  obtain ⟨t, others, whole, _⟩ := pattern.leads
  have binds : t.binds = true := pattern.binds t (whole ▸ List.mem_cons_self)
  rw [whole] at spells
  obtain ⟨position, tail, rfl, _⟩ := spells.cons
  rw [List.cons_append, behindWord?, not_isWord_of_binds binds keyword]
  rfl

/-- What stands behind the targets of a loop or an assignment. -/
def Token.EndsTargets (t : Token) : Prop := t = .name "in" ∨ t = .mark .assign

section Ends
variable {next : Spanned} {rest : Tokens} (ends : next.token.EndsTargets)
include ends

theorem target_of_ends (fuel : Tokens) (found : Target × Tokens) : target fuel (next :: rest) ≠ .ok found := by
  obtain ⟨token, position⟩ := next
  intro ok
  cases fuel with
  | nil => cases ok
  | cons t fuel =>
    rcases ends with rfl | rfl
    · rw [target, if_pos (by decide)] at ok
      cases ok
    · cases ok

theorem not_behindComma_of_ends : behindMark? .comma (next :: rest) = none := by
  obtain ⟨token, position⟩ := next
  rcases ends with rfl | rfl <;> rfl

theorem targetTail_of_ends (item : Parser Target) (bound : Tokens) :
    targetTail item bound (next :: rest) = .ok ([], next :: rest) := by
  cases bound with
  | nil => rfl
  | cons t bound => rw [targetTail, not_behindComma_of_ends ends]

theorem Patterns.read_tail (items : Patterns) {pre fuel bound : Tokens} (spells : Spells pre items.tokens)
    (room : pre.length ≤ fuel.length) (enough : pre.length < bound.length) (comma : Nat) {found : List Target × Tokens}
    (ok : targetTail (target fuel) bound (⟨.mark .comma, comma⟩ :: (pre ++ next :: rest)) = .ok found) :
    found = (items.targets false, next :: rest) := by
  have keyword : isKeyword "in" = true := by decide
  match items, bound with
  | _, [] => cases enough
  | .none, t :: bound =>
    cases spells.nil
    rw [targetTail, behindMark?_self, List.nil_append] at ok
    dsimp only at ok
    split at ok
    next =>
      cases ok
      rfl
    next =>
      obtain ⟨first, stuck, _⟩ := bind_eq_ok ok
      exact absurd stuck (target_of_ends ends fuel first)
  | .last pattern, t :: bound =>
    rw [Patterns.tokens] at spells
    rw [targetTail, behindMark?_self] at ok
    simp only [pattern.not_behindWord spells _ keyword, pattern.read spells room, ok_bind,
      targetTail_of_ends ends] at ok
    cases ok
    rfl
  | .comma pattern others, t :: bound =>
    obtain ⟨front, behind, rfl, spellsFirst, spellsRest⟩ := spells.append
    obtain ⟨next', back, rfl, spellsLater⟩ := spellsRest.cons
    simp only [List.length_append, List.length_cons] at room enough
    have roomFirst : front.length ≤ fuel.length := by omega
    have roomLater : back.length ≤ fuel.length := by omega
    have enoughLater : back.length < bound.length := by omega
    rw [targetTail, behindMark?_self, List.append_assoc, List.cons_append] at ok
    simp only [pattern.not_behindWord spellsFirst _ keyword, pattern.read spellsFirst roomFirst, ok_bind] at ok
    obtain ⟨later, read, same⟩ := bind_eq_ok ok
    cases others.read_tail spellsLater roomLater enoughLater next' read
    cases same
    rfl

/-- The binding of a loop reads patterns that stand before an `in` or a `=`, if it reads anything there. -/
theorem Patterns.read_list (items : Patterns) {pre : Tokens} (spells : Spells pre items.tokens)
    {found : Target × Tokens} (ok : targetList (pre ++ next :: rest) = .ok found) :
    found = (items.whole false, next :: rest) := by
  have room : pre.length ≤ (pre ++ next :: rest).length := by simp
  rw [targetList] at ok
  match items with
  | .none =>
    cases spells.nil
    obtain ⟨first, stuck, _⟩ := bind_eq_ok ok
    exact absurd stuck (target_of_ends ends _ first)
  | .last pattern =>
    rw [Patterns.tokens] at spells
    rw [pattern.read spells room, ok_bind] at ok
    simp only [not_behindComma_of_ends ends] at ok
    cases ok
    rfl
  | .comma pattern others =>
    obtain ⟨front, behind, rfl, spellsFirst, spellsRest⟩ := spells.append
    obtain ⟨comma, back, rfl, spellsLater⟩ := spellsRest.cons
    rw [List.append_assoc, List.cons_append] at ok room
    simp only [List.length_append, List.length_cons] at room
    have roomFirst : front.length ≤ (front ++ ⟨.mark .comma, comma⟩ :: (back ++ next :: rest)).length := by simp
    have roomLater : back.length ≤ (front ++ ⟨.mark .comma, comma⟩ :: (back ++ next :: rest)).length := by
      simp only [List.length_append, List.length_cons]
      omega
    have enough : back.length < (⟨.mark .comma, comma⟩ :: (back ++ next :: rest) : Tokens).length := by
      simp only [List.length_append, List.length_cons]
      omega
    rw [pattern.read spellsFirst roomFirst, ok_bind] at ok
    simp only [behindMark?_self] at ok
    obtain ⟨later, read, same⟩ := bind_eq_ok ok
    cases others.read_tail ends spellsLater roomLater enough comma read
    cases same
    rfl

end Ends

end Loop

end Stencil
