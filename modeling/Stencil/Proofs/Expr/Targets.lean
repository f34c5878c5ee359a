import Stencil.Proofs.Expr.Assignable
import Stencil.Proofs.Expr.Fork
import Stencil.Proofs.Expr.Script

/-! What loops and assignments bind. Main statement: `loop_and_assignment_targets`, that a text before an `in` and
before a `=` is read as the same pattern, in which a loop takes parentheses around a single pattern for a tuple. -/
namespace Stencil

theorem parseForHeader_targets {text : List Char} {header : ForHeader} (ok : parseForHeader text = .ok header) :
    ∃ read rest behind, tokens false text = .ok read ∧ targetList read = .ok (header.target, rest) ∧
      behindWord? "in" rest = some behind := by
  unfold parseForHeader parseWith at ok
  obtain ⟨read, lexed, ok⟩ := bind_eq_ok ok
  dsimp only at ok
  split at ok
  next parsed =>
    cases ok
    obtain ⟨⟨target, rest⟩, first, parsed⟩ := bind_eq_ok parsed
    dsimp only at parsed
    split at parsed
    next => cases parsed
    next behind isIn =>
      obtain ⟨_, _, parsed⟩ := bind_eq_ok parsed
      obtain ⟨_, _, parsed⟩ := bind_eq_ok parsed
      cases parsed
      exact ⟨read, rest, behind, lexed, first, isIn⟩
  next => cases ok

theorem assignment_target {start : Tokens} {left value value' : Expr} {op : Option BinaryOp} {target : Target}
    (ok : assignment start left op value = .ok (.assign target value')) : op = none ∧ left.toTarget? = some target := by
  unfold assignment at ok
  split at ok
  next =>
    split at ok
    next given =>
      cases ok
      exact ⟨rfl, given⟩
    next => cases ok
  next => split at ok <;> cases ok

theorem assignOperator?_none {tokens rest : Tokens} (found : assignOperator? tokens = some (none, rest)) :
    ∃ position, tokens = ⟨.mark .assign, position⟩ :: rest := by
  unfold assignOperator? at found
  split at found <;> cases found
  exact ⟨_, rfl⟩

theorem statement_targets {tokens rest : Tokens} {target : Target} {value : Expr}
    (ok : statement tokens = .ok (.assign target value, rest)) : ∃ patterns : Patterns, ∃ position behind,
      patterns.whole true = target ∧ Writes patterns.tokens tokens (⟨.mark .assign, position⟩ :: behind) := by
  unfold statement at ok
  split at ok
  next => cases ok
  next =>
    obtain ⟨⟨left, behind⟩, read, ok⟩ := bind_eq_ok ok
    dsimp only at ok
    split at ok
    next => cases ok
    next op after found =>
      obtain ⟨⟨value', last⟩, _, ok⟩ := bind_eq_ok ok
      obtain ⟨made, assigned, same⟩ := bind_eq_ok ok
      cases same
      obtain ⟨rfl, given⟩ := assignment_target assigned
      obtain ⟨position, rfl⟩ := assignOperator?_none found
      obtain ⟨patterns, whole, writes⟩ := parseList_binds read given
      exact ⟨patterns, position, after, whole, writes⟩

def Target.name? : Target → Option String
  | .name word => some word
  | .tuple _ => none

/-- The target and the value of a script that is one assignment. -/
def singleAssignment? : List Stmt → Option (Target × Expr)
  | [.assign target value] => some (target, value)
  | _ => none

theorem singleAssignment?_eq_some {stmts : List Stmt} {target : Target} {value : Expr} :
    singleAssignment? stmts = some (target, value) ↔ stmts = [.assign target value] := by
  constructor
  · intro found
    unfold singleAssignment? at found
    split at found <;> cases found
    rfl
  · rintro rfl
    rfl

/-- A script of one statement has only separators before it. -/
theorem statements_singleton {fuel tokens : Tokens} {single : Stmt} (ok : statements fuel tokens = .ok [single]) :
    ∃ separators others rest, tokens = separators ++ others ∧ (∀ t ∈ separators, t.token.isSeparator = true) ∧
      statement others = .ok (single, rest) := by
  induction fuel generalizing tokens with
  | nil => cases ok
  | cons _ fuel ih =>
    cases tokens with
    | nil => cases ok
    | cons t tokens =>
      rw [statements] at ok
      split at ok
      next separates =>
        obtain ⟨separators, others, rest, rfl, all, read⟩ := ih ok
        exact ⟨t :: separators, others, rest, rfl, List.forall_mem_cons.mpr ⟨separates, all⟩, read⟩
      next =>
        obtain ⟨⟨first, rest⟩, read, ok⟩ := bind_eq_ok ok
        dsimp only at ok
        split at ok
        next =>
          obtain ⟨others, _, same⟩ := bind_eq_ok ok
          cases same
          exact ⟨[], t :: tokens, rest, rfl, List.forall_mem_nil _, read⟩
        next => cases ok

theorem targetList_of_separator {t : Spanned} (separates : t.token.isSeparator = true) (tokens : Tokens)
    (found : Target × Tokens) : targetList (t :: tokens) ≠ .ok found := by
  obtain ⟨token, position⟩ := t
  intro ok
  obtain ⟨first, stuck, _⟩ := bind_eq_ok ok
  unfold Token.isSeparator at separates
  split at separates
  next same =>
    subst same
    cases stuck
  next same =>
    subst same
    cases stuck
  next => cases separates

/-- Tokens that the binding of a loop starts with are not below separators. -/
theorem no_separators {read tail tail' separators others : Tokens} {found : Target × Tokens}
    (first : targetList (read ++ tail) = .ok found) (split : read ++ tail' = separators ++ others)
    (separate : ∀ t ∈ separators, t.token.isSeparator = true)
    (apart : ∀ t ∈ tail'.head?, t.token.isSeparator = false) : separators = [] := by
  cases separators with
  | nil => rfl
  | cons t separators =>
    have separates := separate t List.mem_cons_self
    cases read with
    | nil =>
      rw [List.nil_append] at split
      subst split
      rw [apart t rfl] at separates
      cases separates
    | cons t' read =>
      obtain ⟨rfl, _⟩ := List.cons_eq_cons.mp split
      exact absurd first (targetList_of_separator separates _ _)

/-- Tokens of patterns with another token behind them, cut in another way where no pattern goes on. -/
theorem cut_behind_patterns {pre behind front back : Tokens} {next : Spanned}
    (inside : ∀ t ∈ pre, t.token.binds = true) (apart : ∀ t ∈ back.head?, t.token.binds = false)
    (same : pre ++ next :: behind = front ++ back) :
    (front = pre ∧ back = next :: behind) ∨ ∃ tail, front = pre ++ next :: tail := by
  rcases List.append_eq_append_iff.mp same with ⟨middle, rfl, split⟩ | ⟨middle, rfl, split⟩
  · cases middle with
    | nil => exact .inl ⟨List.append_nil pre, split.symm⟩
    | cons t tail =>
      obtain ⟨rfl, _⟩ := List.cons_eq_cons.mp split
      exact .inr ⟨tail, rfl⟩
  · cases middle with
    | nil => exact .inl ⟨(List.append_nil front).symm, split⟩
    | cons t middle =>
      have binds := inside t (List.mem_append_right front List.mem_cons_self)
      rw [apart t (split ▸ rfl)] at binds
      cases binds

theorem head_behind_space {newlines : Bool} {depth position extra : Nat} {c : Char} {rest : List Char} {token : Token}
    {all : Tokens} (lexed : lexeme c rest = .ok ⟨some token, extra⟩) (solid : token ≠ .newline)
    (ok : tokensFrom newlines depth position 0 (' ' :: c :: rest) = .ok all) :
    ∃ next others, all = ⟨token, next⟩ :: others := by
  have space : lexeme ' ' (c :: rest) = .ok ⟨none, 0⟩ := rfl
  rw [tokensFrom_layout space, tokensFrom_token lexed] at ok
  obtain ⟨others, _, same⟩ := bind_eq_ok ok
  rw [if_pos (isKept_of_ne solid newlines depth)] at same
  cases same
  exact ⟨_, others, rfl⟩

section Lines
variable {front iterable assigned : List Char}

/-- A loop header and an assignment that start with the same text start with the same tokens. The `in` and the `=` come
next, unless both are in a comment or a string literal. -/
theorem lines_fork {looped scripted : Tokens} (line : '\n' ∉ front ++ iterable ++ assigned)
    (loop : tokens false (front ++ ' ' :: 'i' :: 'n' :: ' ' :: iterable) = .ok looped)
    (script : tokens true (front ++ ' ' :: '=' :: ' ' :: assigned) = .ok scripted) :
    ∃ read tail tail', looped = read ++ tail ∧ scripted = read ++ tail' ∧
      ((tokens false front = .ok read ∧ (∃ position others, tail = ⟨.name "in", position⟩ :: others) ∧
          ∃ position others, tail' = ⟨.mark .assign, position⟩ :: others) ∨
        ∀ t ∈ tail'.head?, ∃ s, t.token = .str s) := by
  simp only [List.mem_append, not_or] at line
  obtain ⟨⟨plain, plainLoop⟩, plainScript⟩ := line
  obtain ⟨read, ⟨next, alone, joined⟩ | closes⟩ := tokensFrom_fork plain 0 0 (Nat.zero_le _)
  · obtain ⟨tail, rfl, follows⟩ := joined false _ looped loop
    obtain ⟨tail', rfl, follows'⟩ := joined true _ scripted script
    have isIn : lexeme 'i' ('n' :: ' ' :: iterable) = .ok ⟨some (.name "in"), 1⟩ := rfl
    have isAssign : lexeme '=' (' ' :: assigned) = .ok ⟨some (.mark .assign), 0⟩ := rfl
    exact ⟨read, tail, tail', rfl, rfl, .inl ⟨alone, head_behind_space isIn (by simp) follows,
      head_behind_space isAssign (by simp) follows'⟩⟩
  · obtain ⟨tail, rfl, _⟩ := closes false _ looped (by simp [plainLoop]) loop
    obtain ⟨tail', rfl, strings⟩ := closes true _ scripted (by simp [plainScript]) script
    exact ⟨read, tail, tail', rfl, rfl, .inr strings⟩

/-- A text before an `in` and before a `=`, where both can be read, is the same pattern. The loop binds what the
assignment does exactly where no parentheses stand around a single pattern. -/
theorem loop_and_assignment_targets {header : ForHeader} {target : Target} {value : Expr}
    (line : '\n' ∉ front ++ iterable ++ assigned)
    (loop : parseForHeader (front ++ [' ', 'i', 'n', ' '] ++ iterable) = .ok header)
    (script : parseStatements (front ++ [' ', '=', ' '] ++ assigned) = .ok [.assign target value]) :
    ∃ patterns : Patterns, (∃ read, tokens false front = .ok read ∧ Spells read patterns.tokens) ∧
      header.target = patterns.whole false ∧ target = patterns.whole true ∧
      (header.target = target ↔ patterns.lones = 0) := by
  rw [List.append_assoc] at loop script
  obtain ⟨looped, rest, behind, lexed, first, isIn⟩ := parseForHeader_targets loop
  obtain ⟨scripted, lexed', parsed⟩ := parseStatements_eq_ok.mp script
  obtain ⟨separators, others, _, split, separate, parsed⟩ := statements_singleton parsed
  obtain ⟨patterns, position, last, rfl, pre, rfl, spells⟩ := statement_targets parsed
  obtain ⟨read, tail, tail', rfl, rfl, heads⟩ := lines_fork line lexed lexed'
  have inside : ∀ t ∈ pre, t.token.binds = true := fun t member =>
    patterns.binds t.token (spells ▸ List.mem_map_of_mem member)
  have apart : ∀ t ∈ tail'.head?, t.token.isSeparator = false ∧ t.token.binds = false := by
    rcases heads with ⟨_, _, _, _, rfl⟩ | strings
    · rintro t ⟨⟩
      exact ⟨rfl, rfl⟩
    · intro t head
      obtain ⟨s, isString⟩ := strings t head
      rw [isString]
      exact ⟨rfl, rfl⟩
  obtain rfl : separators = [] := no_separators first split separate fun t head => (apart t head).1
  rcases cut_behind_patterns inside (fun t head => (apart t head).2) split.symm with ⟨rfl, rfl⟩ | ⟨middle, rfl⟩
  · rcases heads with ⟨alone, ⟨_, _, rfl⟩, _⟩ | strings
    · obtain ⟨target, _⟩ := Prod.mk.inj (patterns.read_list (.inl rfl) spells first)
      exact ⟨patterns, ⟨read, alone, spells⟩, target, rfl, target ▸ patterns.whole_eq_iff⟩
    · obtain ⟨s, isString⟩ := strings _ rfl
      cases isString
  · -- The loop stops at the same token, which is no `in` there.
    rw [List.append_assoc, List.cons_append] at first
    obtain ⟨_, rfl⟩ := Prod.mk.inj (patterns.read_list (.inr rfl) spells first)
    cases isIn

end Lines

theorem targets_differ_in_parentheses : ∃ header target value, parseForHeader "(a) in x".toList = .ok header ∧
    parseStatements "(a) = x".toList = .ok [.assign target value] ∧ header.target ≠ target := by
  have loop : (parseForHeader "(a) in x".toList).toOption.map (·.target.name?) = some none := by decide +kernel
  have script : ((parseStatements "(a) = x".toList).toOption.bind singleAssignment?).map (·.1.name?) =
    some (some "a") := by decide +kernel
  obtain ⟨header, accepted, isTuple⟩ := Option.map_eq_some_iff.mp loop
  obtain ⟨⟨target, value⟩, found, isName⟩ := Option.map_eq_some_iff.mp script
  obtain ⟨stmts, accepted', single⟩ := Option.bind_eq_some_iff.mp found
  cases singleAssignment?_eq_some.mp single
  refine ⟨header, target, value, toOption_eq_some.mp accepted, toOption_eq_some.mp accepted', fun same => ?_⟩
  rw [same, isName] at isTuple
  cases isTuple

theorem loop_and_assignment_targets_of_nested : ∃ header target value, ∃ patterns : Patterns,
    parseForHeader ("[a, (b)],".toList ++ [' ', 'i', 'n', ' '] ++ ['x']) = .ok header ∧
    parseStatements ("[a, (b)],".toList ++ [' ', '=', ' '] ++ ['x']) = .ok [.assign target value] ∧
    header.target = patterns.whole false ∧ target = patterns.whole true := by
  have loop : (parseForHeader ("[a, (b)],".toList ++ [' ', 'i', 'n', ' '] ++ ['x'])).toOption.isSome = true := by
    decide +kernel
  have script : ((parseStatements ("[a, (b)],".toList ++ [' ', '=', ' '] ++ ['x'])).toOption.bind
    singleAssignment?).isSome = true := by decide +kernel
  obtain ⟨header, accepted⟩ := Option.isSome_iff_exists.mp loop
  obtain ⟨⟨target, value⟩, found⟩ := Option.isSome_iff_exists.mp script
  obtain ⟨stmts, accepted', single⟩ := Option.bind_eq_some_iff.mp found
  cases singleAssignment?_eq_some.mp single
  have loop := toOption_eq_some.mp accepted
  have script := toOption_eq_some.mp accepted'
  obtain ⟨patterns, _, first, second, _⟩ := loop_and_assignment_targets (by decide) loop script
  exact ⟨header, target, value, patterns, loop, script, first, second⟩

end Stencil
