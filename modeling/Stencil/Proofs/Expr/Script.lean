import Stencil.Expr.Eval
import Stencil.Proofs.Expr.Extended

/-! Scripts behind each other. Main statement: `scripts_compose`, that two scripts joined by a line break are read and
run like one behind the other. -/
namespace Stencil

variable {tail tokens longer : Tokens}

theorem assignment_anywhere {start : Tokens} {left value : Expr} {op : Option BinaryOp} {statement : Stmt}
    (ok : assignment start left op value = .ok statement) (other : Tokens) :
    assignment other left op value = .ok statement := by
  unfold assignment at ok ⊢
  split at ok
  next =>
    split at ok
    next => exact ok
    next => cases ok
  next =>
    split at ok
    next => exact ok
    next => cases ok

theorem statement_extends : Extends tail statement statement := by
  intro tokens longer extended
  rw [statement, statement]
  rcases extended.behindWord? "pass" with ⟨no, no'⟩ | ⟨_, _, yes, yes', ahead, takes, _⟩
  · rw [no, no']
    refine (parseList_extends extended).bind fun left rest behind ahead _ => ?_
    dsimp only
    rcases assignOperator?_finds ahead with ⟨no, no'⟩ | ⟨op, _, _, yes, yes', ahead, takes, _⟩
    · rw [no, no']
      exact .ok ahead 0
    · rw [yes, yes']
      refine .after_takes takes ((parseList_extends ahead).bind fun value rest behind ahead _ => ?_)
      intro made last ok
      obtain ⟨statement, assigned, same⟩ := bind_eq_ok ok
      cases same
      refine ⟨behind, ?_, ahead, .refl 0 rest⟩
      dsimp only
      rw [assignment_anywhere assigned longer]
      rfl
  · rw [yes, yes']
    exact .after_takes takes (.ok ahead 0)

theorem depthBehind_separator {token : Token} (separates : token.isSeparator = true) (depth : Nat) :
    depthBehind depth token = depth := by
  unfold Token.isSeparator at separates
  split at separates
  next => rfl
  next => rfl
  next => cases separates

theorem Extended.separated (extended : Extended tail tokens longer)
    (separated : (headToken? tokens).all Token.isSeparator = true) :
    (headToken? longer).all Token.isSeparator = true := by
  cases extended with
  | done broken => rcases broken.cases with rfl | ⟨_, _, rfl⟩ <;> rfl
  | token => exact separated

/-- Statements are the same with more behind them, no bracket stays open, and what is behind them is read next. -/
theorem statements_extended {fuel fuel' : Tokens} {list : List Stmt} (enough : tokens.length ≤ fuel.length)
    (enough' : longer.length ≤ fuel'.length) (extended : Extended tail tokens longer)
    (ok : statements fuel tokens = .ok list) :
    Takes 0 0 tokens [] ∧ ∃ left : Tokens, tail.length ≤ left.length ∧
      ∀ others, statements left tail = .ok others → statements fuel' longer = .ok (list ++ others) := by
  induction fuel generalizing fuel' tokens longer list with
  | nil =>
    obtain rfl : tokens = [] := List.eq_nil_of_length_eq_zero (Nat.le_zero.mp enough)
    cases extended
    cases ok
    exact ⟨.refl 0 [], fuel', enough', fun _ later => later⟩
  | cons _ fuel ih =>
    cases extended with
    | done broken =>
      cases ok
      exact ⟨.refl 0 [], fuel', enough', fun _ later => later⟩
    | @token token here there tokens longer ahead =>
      have enough := Nat.le_of_succ_le_succ enough
      cases fuel' with
      | nil => exact absurd enough' (Nat.not_succ_le_zero _)
      | cons t' fuel' =>
        have enough' := Nat.le_of_succ_le_succ enough'
        rw [statements] at ok
        dsimp only at ok
        split at ok
        next separates =>
          obtain ⟨takes, left, more, joined⟩ := ih enough enough' ahead ok
          have first := @Takes.head 0 0 token (depthBehind_separator separates) here tokens
          refine ⟨first.trans takes, left, more, fun others later => ?_⟩
          rw [statements, if_pos separates]
          exact joined others later
        next solid =>
          obtain ⟨⟨first, rest⟩, read, ok⟩ := bind_eq_ok ok
          obtain ⟨behind, read', ahead', takes⟩ := statement_extends (.token token here there ahead) first rest read
          dsimp only at ok
          split at ok
          next separated =>
            obtain ⟨rest', later, same⟩ := bind_eq_ok ok
            cases same
            have shorter : rest.length ≤ tokens.length := by
              obtain ⟨taken, same, _⟩ := takes
              cases taken with
              | nil =>
                cases same
                exact absurd separated solid
              | cons _ taken =>
                cases same
                simp
            have bound : behind.length ≤ fuel'.length := by
              have := ahead.length
              have := ahead'.length
              omega
            obtain ⟨takes', left, more, joined⟩ := ih (Nat.le_trans shorter enough) bound ahead' later
            refine ⟨takes.trans takes', left, more, fun others last => ?_⟩
            rw [statements, if_neg solid, read', ok_bind]
            dsimp only
            rw [if_pos (ahead'.separated separated), joined others last]
            rfl
          next => cases ok

theorem parseStatements_eq_ok {text : List Char} {list : List Stmt} :
    parseStatements text = .ok list ↔
      ∃ read, Stencil.tokens true text = .ok read ∧ statements read read = .ok list := by
  unfold parseStatements parseWith
  constructor
  · intro ok
    obtain ⟨read, lexed, ok⟩ := bind_eq_ok ok
    refine ⟨read, lexed, ?_⟩
    split at ok
    next parsed =>
      cases ok
      exact parsed
    next => cases ok
  · rintro ⟨read, lexed, parsed⟩
    simp only [lexed, ok_bind, parsed]
    rfl

theorem extended_append {tail : Tokens} (broken : Broken tail) (tokens : Tokens) :
    Extended tail tokens (tokens ++ tail) := by
  induction tokens with
  | nil => exact .done broken
  | cons t tokens ih => exact .token t.token t.position t.position ih

theorem extended_of_moved {tokens moved : Tokens} (same : moved.map Spanned.token = tokens.map Spanned.token) :
    Extended [] tokens moved := by
  induction tokens generalizing moved with
  | nil =>
    cases List.map_eq_nil_iff.mp same
    exact .done broken_nil
  | cons t tokens ih =>
    obtain ⟨⟨_, there⟩, moved, rfl, rfl, rest⟩ := List.map_eq_cons_iff.mp same
    exact .token t.token t.position there (ih rest)

/-- Accepted statements close all brackets that they open. -/
theorem balanced_of_statements {read : Tokens} {list : List Stmt} (parsed : statements read read = .ok list) :
    depthAfter 0 read = 0 := by
  have whole := extended_append broken_nil read
  obtain ⟨⟨taken, same, leads⟩, _⟩ := statements_extended (Nat.le_refl _) (Nat.le_refl _) whole parsed
  rw [List.append_nil] at same
  rw [same]
  exact leads 0

/-- A line break behind balanced tokens is a token itself. -/
theorem tokens_joined {front back : List Char} {read behind : Tokens} (lexed : Stencil.tokens true front = .ok read)
    (balanced : depthAfter 0 read = 0) (lexed' : Stencil.tokens true back = .ok behind) :
    ∃ next moved, Stencil.tokens true (front ++ '\n' :: back) = .ok (read ++ ⟨.newline, next⟩ :: moved) ∧
      moved.map Spanned.token = behind.map Spanned.token := by
  obtain ⟨next, joins⟩ := tokensFrom_break lexed (Nat.zero_le _) back
  obtain ⟨moved, lexedMoved, same⟩ := tokensFrom_moved lexed' (next + 1)
  refine ⟨next, moved, joins _ ?_, same⟩
  have head : lexeme '\n' back = .ok ⟨some .newline, 0⟩ := rfl
  rw [balanced, tokensFrom_token head]
  exact congrArg (· >>= _) lexedMoved

theorem statements_joined {read behind moved : Tokens} {first second : List Stmt}
    (parsed : statements read read = .ok first) (parsed' : statements behind behind = .ok second)
    (same : moved.map Spanned.token = behind.map Spanned.token) (next : Nat) :
    statements (read ++ ⟨.newline, next⟩ :: moved) (read ++ ⟨.newline, next⟩ :: moved) = .ok (first ++ second) := by
  have broken : Broken (⟨.newline, next⟩ :: moved) := by
    rintro _ ⟨⟩
    rfl
  obtain ⟨_, left, more, follows⟩ :=
    statements_extended (Nat.le_refl _) (Nat.le_refl _) (extended_append broken read) parsed
  cases left with
  | nil => exact absurd more (Nat.not_succ_le_zero _)
  | cons _ left =>
    obtain ⟨_, last, _, follows'⟩ :=
      statements_extended (Nat.le_refl _) (Nat.le_of_succ_le_succ more) (extended_of_moved same) parsed'
    have ends : statements last [] = .ok [] := by cases last <;> rfl
    have parsedMoved : statements left moved = .ok second := (follows' [] ends).trans (by rw [List.append_nil])
    exact follows second parsedMoved

theorem execFrom_shift (number : Nat) (scope : Scope) (statements : List Stmt) :
    execFrom number scope statements =
      ((execAll scope statements).1, (execAll scope statements).2.map fun (failed, e) => (number + failed, e)) := by
  rw [execAll]
  suffices shift : ∀ start, execFrom (number + start) scope statements =
      ((execFrom start scope statements).1,
        (execFrom start scope statements).2.map fun (failed, e) => (number + failed, e)) from shift 0
  induction statements generalizing scope with
  | nil => exact fun _ => rfl
  | cons statement rest ih =>
    intro start
    rw [execFrom, execFrom]
    split
    next after _ => exact ih after (start + 1)
    next => rfl

/-- Statements behind others are run if those succeed, in the scope behind them. -/
theorem execFrom_append (number : Nat) (scope : Scope) (front back : List Stmt) :
    execFrom number scope (front ++ back) = match execFrom number scope front with
      | (between, none) => execFrom (number + front.length) between back
      | failed => failed := by
  induction front generalizing number scope with
  | nil => rfl
  | cons statement front ih =>
    rw [List.cons_append, execFrom, execFrom]
    split
    next after _ => rw [ih, List.length_cons, Nat.add_assoc, Nat.add_comm 1]
    next => rfl

/-- Scripts joined by a line break are read as the statements of the one and then of the other, and run so: what
fails in the first one ends the run, and what fails in the second one fails by itself in the scope behind the first. -/
theorem scripts_compose {front back : List Char} {first second : List Stmt}
    (accepted : parseStatements front = .ok first) (accepted' : parseStatements back = .ok second) :
    parseStatements (front ++ '\n' :: back) = .ok (first ++ second) ∧
      ∀ scope, execAll scope (first ++ second) = match execAll scope first with
        | (between, none) => ((execAll between second).1,
            (execAll between second).2.map fun (number, e) => (first.length + number, e))
        | failed => failed := by
  constructor
  · obtain ⟨read, lexed, parsed⟩ := parseStatements_eq_ok.mp accepted
    obtain ⟨behind, lexed', parsed'⟩ := parseStatements_eq_ok.mp accepted'
    obtain ⟨next, moved, lexedJoined, same⟩ := tokens_joined lexed (balanced_of_statements parsed) lexed'
    exact parseStatements_eq_ok.mpr ⟨_, lexedJoined, statements_joined parsed parsed' same next⟩
  · intro scope
    rw [execAll, execFrom_append, Nat.zero_add]
    simp only [execFrom_shift first.length]
    rfl

theorem scripts_compose_of_lines :
    ∃ first second, first.length = 2 ∧ second.length = 2 ∧
      parseStatements ("x = [1,\n2] # x; y\n;\ny = x[0 \\\n:]".toList ++ '\n' :: "pass;z = (y,\n)".toList) =
        .ok (first ++ second) := by
  have front : (parseStatements "x = [1,\n2] # x; y\n;\ny = x[0 \\\n:]".toList).toOption.map List.length = some 2 := by
    decide +kernel
  have back : (parseStatements "pass;z = (y,\n)".toList).toOption.map List.length = some 2 := by decide +kernel
  obtain ⟨first, accepted, two⟩ := Option.map_eq_some_iff.mp front
  obtain ⟨second, accepted', two'⟩ := Option.map_eq_some_iff.mp back
  refine ⟨first, second, two, two', ?_⟩
  exact (scripts_compose (toOption_eq_some.mp accepted) (toOption_eq_some.mp accepted')).1

end Stencil
