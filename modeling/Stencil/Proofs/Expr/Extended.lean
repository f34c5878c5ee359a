import Stencil.Proofs.Expr.LineBreak
import Stencil.Proofs.Expr.Reading

/-! Parsing with more tokens behind a line break. No production tells the end of a line from the end of the tokens.
Main statement: `parseList_extends`, that an expression is the same with more behind it, and leaves the depth of
brackets as it was. -/
namespace Stencil

/-- Nothing, or what starts with a line break. -/
def Broken (tokens : Tokens) : Prop := ∀ t ∈ tokens.head?, t.token = .newline

theorem Broken.cases {tokens : Tokens} (broken : Broken tokens) :
    tokens = [] ∨ ∃ position rest, tokens = ⟨.newline, position⟩ :: rest := by
  cases tokens with
  | nil => exact .inl rfl
  | cons t rest =>
    obtain ⟨token, position⟩ := t
    obtain rfl : token = .newline := broken _ rfl
    exact .inr ⟨position, rest, rfl⟩

theorem broken_nil : Broken [] := fun _ head => by cases head

/-- The same tokens, wherever they are, with others behind them. -/
inductive Extended (tail : Tokens) : Tokens → Tokens → Prop
  | done (broken : Broken tail) : Extended tail [] tail
  | token (token : Token) (here there : Nat) {tokens longer : Tokens} (rest : Extended tail tokens longer) :
      Extended tail (⟨token, here⟩ :: tokens) (⟨token, there⟩ :: longer)

variable {tail tokens longer rest : Tokens}

theorem Extended.length (extended : Extended tail tokens longer) :
    longer.length = tokens.length + tail.length := by
  induction extended with
  | done => exact (Nat.zero_add _).symm
  | token _ _ _ _ ih => rw [List.length_cons, List.length_cons, ih, Nat.add_right_comm]

theorem Extended.length_le (extended : Extended tail tokens longer) : tokens.length ≤ longer.length := by
  rw [extended.length]
  exact Nat.le_add_right _ _

/-- What is taken from tokens leads from one number of open brackets to another one. -/
def Takes (before after : Nat) (tokens rest : Tokens) : Prop :=
  ∃ taken, tokens = taken ++ rest ∧ ∀ depth, depthAfter (depth + before) taken = depth + after

namespace Takes
variable {before between after : Nat} {next : Tokens}

theorem refl (depth : Nat) (tokens : Tokens) : Takes depth depth tokens tokens := ⟨[], rfl, fun _ => rfl⟩

theorem trans (first : Takes before between tokens rest) (second : Takes between after rest next) :
    Takes before after tokens next := by
  obtain ⟨front, rfl, here⟩ := first
  obtain ⟨back, rfl, there⟩ := second
  refine ⟨front ++ back, (List.append_assoc ..).symm, fun depth => ?_⟩
  rw [depthAfter_append, here, there]

theorem head {token : Token} (moves : ∀ depth, depthBehind (depth + before) token = depth + after) (position : Nat)
    (rest : Tokens) : Takes before after (⟨token, position⟩ :: rest) rest := ⟨[⟨token, position⟩], rfl, moves⟩

theorem inside (takes : Takes 0 0 tokens rest) (depth : Nat) : Takes depth depth tokens rest := by
  obtain ⟨taken, same, leads⟩ := takes
  exact ⟨taken, same, fun around => leads (around + depth)⟩

theorem length_le (takes : Takes before after tokens rest) : rest.length ≤ tokens.length := by
  obtain ⟨taken, rfl, _⟩ := takes
  rw [List.length_append]
  exact Nat.le_add_left _ _

/-- One round of a loop takes a token at least, so that the fuel is enough for what is left. -/
theorem enough {t : Spanned} {fuel : Tokens} (takes : Takes before after rest next)
    (shorter : rest.length < tokens.length) (enough : tokens.length ≤ (t :: fuel).length) :
    next.length ≤ fuel.length :=
  Nat.le_of_lt_succ (Nat.lt_of_le_of_lt takes.length_le (Nat.lt_of_lt_of_le shorter enough))

end Takes

variable {α β : Type}

theorem depthBehind_word {token : Token} {word : String} (isWord : token.isWord word = true) (depth : Nat) :
    depthBehind depth token = depth := by
  cases token with
  | name name => rfl
  | _ => cases isWord

/-- What one parser gives, another one gives with more tokens behind. -/
def Follows (tail : Tokens) (before after : Nat) (tokens : Tokens) (outcome other : Except Failure (α × Tokens)) :
    Prop :=
  ∀ a rest, outcome = .ok (a, rest) →
    ∃ behind, other = .ok (a, behind) ∧ Extended tail rest behind ∧ Takes before after tokens rest

namespace Follows
variable {before between after : Nat} {outcome other : Except Failure (α × Tokens)}

theorem failed {failure : Failure} : Follows tail before after tokens (.error failure) other := by
  rintro _ _ ⟨⟩

theorem ok {a : α} (extended : Extended tail tokens longer) (depth : Nat) :
    Follows tail depth depth tokens (.ok (a, tokens)) (.ok (a, longer)) := by
  rintro _ _ ⟨⟩
  exact ⟨longer, rfl, extended, .refl depth tokens⟩

theorem after_takes (takes : Takes before between tokens rest)
    (follows : Follows tail between after rest outcome other) : Follows tail before after tokens outcome other := by
  intro a last gives
  obtain ⟨behind, same, extended, later⟩ := follows a last gives
  exact ⟨behind, same, extended, takes.trans later⟩

theorem inside (follows : Follows tail 0 0 tokens outcome other) (depth : Nat) :
    Follows tail depth depth tokens outcome other := by
  intro a last gives
  obtain ⟨behind, same, extended, takes⟩ := follows a last gives
  exact ⟨behind, same, extended, takes.inside depth⟩

theorem bind {next next' : α × Tokens → Except Failure (β × Tokens)}
    (first : Follows tail before between tokens outcome other)
    (later : ∀ a rest behind, Extended tail rest behind → Takes before between tokens rest →
      Follows tail between after rest (next (a, rest)) (next' (a, behind))) :
    Follows tail before after tokens (outcome >>= next) (other >>= next') := by
  intro b last gives
  obtain ⟨⟨a, rest⟩, read, gives⟩ := bind_eq_ok gives
  obtain ⟨behind, same, extended, takes⟩ := first a rest read
  obtain ⟨ends, same', extended', takes'⟩ := later a rest behind extended takes b last gives
  refine ⟨ends, ?_, extended', takes.trans takes'⟩
  rw [same, ok_bind, same']

end Follows

/-- What a parser takes from tokens, another one takes from them with more behind, and no bracket stays open. -/
def Extends (tail : Tokens) (p q : Parser α) : Prop :=
  ∀ ⦃tokens longer⦄, Extended tail tokens longer → Follows tail 0 0 tokens (p tokens) (q longer)

section Marks
variable (extended : Extended tail tokens longer)
include extended

theorem Extended.behindHead {find : Tokens → Option Tokens} {accepts : Token → Bool} {before after : Nat}
    (nothing : find [] = none) (heads : ∀ token position rest,
      find (⟨token, position⟩ :: rest) = if accepts token then some rest else none)
    (breaks : accepts .newline = false)
    (moves : ∀ token, accepts token = true → ∀ depth, depthBehind (depth + before) token = depth + after) :
    (find tokens = none ∧ find longer = none) ∨
      ∃ rest behind, find tokens = some rest ∧ find longer = some behind ∧
        Extended tail rest behind ∧ Takes before after tokens rest ∧ rest.length < tokens.length := by
  cases extended with
  | done broken =>
    rcases broken.cases with rfl | ⟨position, rest, rfl⟩
    · exact .inl ⟨nothing, nothing⟩
    · exact .inl ⟨nothing, by rw [heads, breaks]; rfl⟩
  | token token here there rest =>
    rw [heads, heads]
    cases found : accepts token with
    | false => exact .inl ⟨rfl, rfl⟩
    | true => exact .inr ⟨_, _, rfl, rfl, rest, .head (moves token found) here _, Nat.lt_succ_self _⟩

theorem Extended.behindMark? (mark : Mark) (before after : Nat)
    (moves : ∀ depth, depthBehind (depth + before) (.mark mark) = depth + after) :
    (behindMark? mark tokens = none ∧ behindMark? mark longer = none) ∨
      ∃ rest behind, behindMark? mark tokens = some rest ∧ behindMark? mark longer = some behind ∧
        Extended tail rest behind ∧ Takes before after tokens rest ∧ rest.length < tokens.length := by
  refine extended.behindHead rfl (fun _ _ _ => rfl) rfl fun token found => ?_
  cases token with
  | mark other =>
    rw [of_decide_eq_true found]
    exact moves
  | _ => cases found

theorem Extended.behindWord? (word : String) :
    (behindWord? word tokens = none ∧ behindWord? word longer = none) ∨
      ∃ rest behind, behindWord? word tokens = some rest ∧ behindWord? word longer = some behind ∧
        Extended tail rest behind ∧ Takes 0 0 tokens rest ∧ rest.length < tokens.length := by
  exact extended.behindHead rfl (fun _ _ _ => rfl) rfl fun token found depth => depthBehind_word found depth

theorem Extended.expectMark {mark : Mark} {after : Nat} {wanted : Wanted}
    {next next' : Tokens → Except Failure (α × Tokens)} (before between : Nat)
    (moves : ∀ depth, depthBehind (depth + before) (.mark mark) = depth + between)
    (later : ∀ rest behind, Extended tail rest behind → Follows tail between after rest (next rest) (next' behind)) :
    Follows tail before after tokens (expectMark mark wanted tokens >>= next)
      (expectMark mark wanted longer >>= next') := by
  rw [Stencil.expectMark, Stencil.expectMark]
  rcases extended.behindMark? mark before between moves with
    ⟨no, no'⟩ | ⟨rest, behind, yes, yes', ahead, takes, _⟩
  · rw [no]
    exact .failed
  · rw [yes, yes']
    exact .after_takes takes (later rest behind ahead)

theorem Extended.startsExpression : startsExpression tokens = startsExpression longer := by
  cases extended with
  | done broken => rcases broken.cases with rfl | ⟨_, _, rfl⟩ <;> rfl
  | token => rfl

end Marks

/-- A search at the head of tokens finds the same with more tokens behind. -/
def Finds (tail : Tokens) (find : Tokens → Option (α × Tokens)) : Prop :=
  ∀ ⦃tokens longer⦄, Extended tail tokens longer → (find tokens = none ∧ find longer = none) ∨
    ∃ a rest behind, find tokens = some (a, rest) ∧ find longer = some (a, behind) ∧
      Extended tail rest behind ∧ Takes 0 0 tokens rest ∧ rest.length < tokens.length

theorem Finds.of_head {find : Tokens → Option (α × Tokens)} (nothing : find [] = none)
    (breaks : ∀ position rest, find (⟨.newline, position⟩ :: rest) = none)
    (heads : ∀ token, (∀ position rest, find (⟨token, position⟩ :: rest) = none) ∨
      ∃ a, (∀ depth, depthBehind depth token = depth) ∧
        ∀ position rest, find (⟨token, position⟩ :: rest) = some (a, rest)) : Finds tail find := by
  intro tokens longer extended
  cases extended with
  | done broken =>
    rcases broken.cases with rfl | ⟨position, rest, rfl⟩
    · exact .inl ⟨nothing, nothing⟩
    · exact .inl ⟨nothing, breaks position rest⟩
  | token token here there rest =>
    rcases heads token with none | ⟨a, neutral, some⟩
    · exact .inl ⟨none _ _, none _ _⟩
    · exact .inr ⟨a, _, _, some _ _, some _ _, rest, @Takes.head 0 0 token neutral here _, Nat.lt_succ_self _⟩

theorem sumOperator?_finds : Finds tail sumOperator? := by
  refine Finds.of_head rfl (fun _ _ => rfl) fun token => ?_
  cases token with
  | mark mark => cases mark <;> first
    | exact .inl fun _ _ => rfl
    | exact .inr ⟨_, fun _ => rfl, fun _ _ => rfl⟩
  | _ => exact .inl fun _ _ => rfl

theorem productOperator?_finds : Finds tail productOperator? := by
  refine Finds.of_head rfl (fun _ _ => rfl) fun token => ?_
  cases token with
  | mark mark => cases mark <;> first
    | exact .inl fun _ _ => rfl
    | exact .inr ⟨_, fun _ => rfl, fun _ _ => rfl⟩
  | _ => exact .inl fun _ _ => rfl

theorem assignOperator?_finds : Finds tail assignOperator? := by
  refine Finds.of_head rfl (fun _ _ => rfl) fun token => ?_
  cases token with
  | mark mark => cases mark <;> first
    | exact .inl fun _ _ => rfl
    | exact .inr ⟨_, fun _ => rfl, fun _ _ => rfl⟩
  | _ => exact .inl fun _ _ => rfl

theorem wordOperator?_finds (word : String) (combine : Expr → Expr → Expr) :
    Finds tail (wordOperator? word combine) := by
  intro tokens longer extended
  rw [wordOperator?, wordOperator?]
  rcases extended.behindWord? word with ⟨no, no'⟩ | ⟨rest, behind, yes, yes', found⟩
  · rw [no, no']
    exact .inl ⟨rfl, rfl⟩
  · rw [yes, yes']
    exact .inr ⟨combine, rest, behind, rfl, rfl, found⟩

theorem compareOperator?_finds : Finds tail compareOperator? := by
  intro tokens longer extended
  cases extended with
  | done broken =>
    rcases broken.cases with rfl | ⟨_, _, rfl⟩
    · exact .inl ⟨rfl, rfl⟩
    · exact .inl ⟨rfl, rfl⟩
  | @token token here there tokens longer rest =>
    unfold compareOperator?
    cases token with
    | mark mark => cases mark <;> first
      | exact .inl ⟨rfl, rfl⟩
      | exact .inr ⟨_, _, _, rfl, rfl, rest, .head (fun _ => rfl) here _, Nat.lt_succ_self _⟩
    | name word =>
      have first : Takes 0 0 (⟨.name word, here⟩ :: tokens) tokens := .head (fun _ => rfl) here _
      dsimp only
      split
      next => exact .inr ⟨_, _, _, rfl, rfl, rest, first, Nat.lt_succ_self _⟩
      split
      next =>
        rcases rest.behindWord? "not" with ⟨no, no'⟩ | ⟨_, _, yes, yes', ahead, takes, shorter⟩
        · rw [no, no']
          exact .inr ⟨_, _, _, rfl, rfl, rest, first, Nat.lt_succ_self _⟩
        · rw [yes, yes']
          exact .inr ⟨_, _, _, rfl, rfl, ahead, first.trans takes, Nat.lt_succ_of_lt shorter⟩
      split
      next =>
        rcases rest.behindWord? "in" with ⟨no, no'⟩ | ⟨_, _, yes, yes', ahead, takes, shorter⟩
        · rw [no, no']
          exact .inl ⟨rfl, rfl⟩
        · rw [yes, yes']
          exact .inr ⟨_, _, _, rfl, rfl, ahead, first.trans takes, Nat.lt_succ_of_lt shorter⟩
      next => exact .inl ⟨rfl, rfl⟩
    | _ => exact .inl ⟨rfl, rfl⟩

section Chains
variable {operand operand' : Parser Expr} {operator? : Tokens → Option ((Expr → Expr → Expr) × Tokens)}

theorem leftChain_follows (operands : Extends tail operand operand') (operators : Finds tail operator?)
    {fuel fuel' : Tokens} (enough : tokens.length ≤ fuel.length) (more : fuel.length ≤ fuel'.length) (left : Expr)
    (extended : Extended tail tokens longer) : Follows tail 0 0 tokens
      (leftChain operand operator? fuel left tokens) (leftChain operand' operator? fuel' left longer) := by
  induction fuel generalizing fuel' left tokens longer with
  | nil =>
    rcases operators extended with ⟨no, no'⟩ | ⟨_, _, _, _, _, _, _, shorter⟩
    · rw [leftChain_of_none no, leftChain_of_none no']
      exact .ok extended 0
    · exact absurd (Nat.lt_of_lt_of_le shorter enough) (Nat.not_lt_zero _)
  | cons t fuel ih =>
    rcases operators extended with ⟨no, no'⟩ | ⟨combine, rest, behind, yes, yes', ahead, takes, shorter⟩
    · rw [leftChain_of_none no, leftChain_of_none no']
      exact .ok extended 0
    · cases fuel' with
      | nil => exact absurd more (Nat.not_succ_le_zero _)
      | cons t' fuel' =>
        rw [leftChain, leftChain, yes, yes']
        refine .after_takes takes ((operands ahead).bind fun right rest behind ahead takes => ?_)
        exact ih (takes.enough shorter enough) (Nat.le_of_succ_le_succ more) _ ahead

theorem chained_extends (operands : Extends tail operand operand') (operators : Finds tail operator?) :
    Extends tail (chained operand operator?) (chained operand' operator?) := by
  intro tokens longer extended
  rw [chained, chained]
  refine (operands extended).bind fun left rest behind ahead _ => ?_
  exact leftChain_follows operands operators (Nat.le_refl _) ahead.length_le left ahead

end Chains

section Levels
variable {nested nested' : Parser Expr}

theorem listTail_of_none (absent : behindMark? .comma tokens = none) (fuel : Tokens) :
    listTail nested fuel tokens = .ok ([], tokens) := by
  cases fuel with
  | nil => rfl
  | cons t fuel => rw [listTail, absent]

theorem trailers_of_none {value : Expr} (absent : trailer? nested value tokens = none) (fuel : Tokens) :
    trailers nested fuel value tokens = .ok (value, tokens) := by
  cases fuel with
  | nil => rfl
  | cons t fuel => rw [trailers, absent]

theorem comparisonTail_of_none (absent : compareOperator? tokens = none) (fuel : Tokens) :
    comparisonTail nested fuel tokens = .ok ([], tokens) := by
  cases fuel with
  | nil => rfl
  | cons t fuel => rw [comparisonTail, absent]

theorem sequence_follows {item item' : Parser α} (items : Extends tail item item') (close : Mark)
    (closes : ∀ depth, depthBehind (depth + 1) (.mark close) = depth) (wanted : Wanted) {fuel fuel' : Tokens}
    (more : fuel.length ≤ fuel'.length) (extended : Extended tail tokens longer) :
    Follows tail 1 0 tokens (sequence item close wanted fuel tokens) (sequence item' close wanted fuel' longer) := by
  induction fuel generalizing fuel' tokens longer with
  | nil => exact .failed
  | cons t fuel ih =>
    cases fuel' with
    | nil => exact absurd more (Nat.not_succ_le_zero _)
    | cons t' fuel' =>
      have more := Nat.le_of_succ_le_succ more
      rw [sequence, sequence]
      rcases extended.behindMark? close 1 0 closes with ⟨no, no'⟩ | ⟨_, _, yes, yes', ahead, takes, _⟩
      · rw [no, no']
        refine ((items extended).inside 1).bind fun first rest behind ahead _ => ?_
        dsimp only
        rcases ahead.behindMark? .comma 1 1 (fun _ => rfl) with ⟨no, no'⟩ | ⟨_, _, yes, yes', ahead, takes, _⟩
        · rw [no, no']
          exact ahead.expectMark 1 0 closes fun rest behind ahead => .ok ahead 0
        · rw [yes, yes']
          exact .after_takes takes ((ih more ahead).bind fun others rest behind ahead _ => .ok ahead 0)
      · rw [yes, yes']
        exact .after_takes takes (.ok ahead 0)

theorem adjacentStrings_follows (extended : Extended tail tokens longer) (text : String) :
    (adjacentStrings text longer).1 = (adjacentStrings text tokens).1 ∧
      Extended tail (adjacentStrings text tokens).2 (adjacentStrings text longer).2 ∧
      Takes 0 0 tokens (adjacentStrings text tokens).2 := by
  induction extended generalizing text with
  | done broken =>
    rcases broken.cases with rfl | ⟨_, _, rfl⟩
    · exact ⟨rfl, .done broken, .refl 0 _⟩
    · exact ⟨rfl, .done broken, .refl 0 _⟩
  | token token here there rest ih =>
    cases token with
    | str next =>
      obtain ⟨same, ahead, takes⟩ := ih (text ++ next)
      exact ⟨same, ahead, .trans (.head (fun _ => rfl) here _) takes⟩
    | _ => exact ⟨rfl, .token _ here there rest, .refl 0 _⟩

variable (nests : Extends tail nested nested')
include nests

theorem dictEntries_follows {fuel fuel' : Tokens} (more : fuel.length ≤ fuel'.length)
    (extended : Extended tail tokens longer) :
    Follows tail 1 0 tokens (dictEntries nested fuel tokens) (dictEntries nested' fuel' longer) := by
  induction fuel generalizing fuel' tokens longer with
  | nil => exact .failed
  | cons t fuel ih =>
    cases fuel' with
    | nil => exact absurd more (Nat.not_succ_le_zero _)
    | cons t' fuel' =>
      have more := Nat.le_of_succ_le_succ more
      rw [dictEntries, dictEntries]
      rcases extended.behindMark? .rightBrace 1 0 (fun _ => rfl) with ⟨no, no'⟩ | ⟨_, _, yes, yes', ahead, takes, _⟩
      · rw [no, no']
        refine ((nests extended).inside 1).bind fun key rest behind ahead _ => ?_
        refine ahead.expectMark 1 1 (fun _ => rfl) fun rest behind ahead => ?_
        refine ((nests ahead).inside 1).bind fun value rest behind ahead _ => ?_
        dsimp only
        rcases ahead.behindMark? .comma 1 1 (fun _ => rfl) with ⟨no, no'⟩ | ⟨_, _, yes, yes', ahead, takes, _⟩
        · rw [no, no']
          exact ahead.expectMark 1 0 (fun _ => rfl) fun rest behind ahead => .ok ahead 0
        · rw [yes, yes']
          exact .after_takes takes ((ih more ahead).bind fun others rest behind ahead _ => .ok ahead 0)
      · rw [yes, yes']
        exact .after_takes takes (.ok ahead 0)

theorem listTail_follows {fuel fuel' : Tokens} (enough : tokens.length ≤ fuel.length)
    (more : fuel.length ≤ fuel'.length) (extended : Extended tail tokens longer) :
    Follows tail 0 0 tokens (listTail nested fuel tokens) (listTail nested' fuel' longer) := by
  induction fuel generalizing fuel' tokens longer with
  | nil =>
    rcases extended.behindMark? .comma 0 0 (fun _ => rfl) with ⟨no, no'⟩ | ⟨_, _, _, _, _, _, shorter⟩
    · rw [listTail_of_none no, listTail_of_none no']
      exact .ok extended 0
    · exact absurd (Nat.lt_of_lt_of_le shorter enough) (Nat.not_lt_zero _)
  | cons t fuel ih =>
    rcases extended.behindMark? .comma 0 0 (fun _ => rfl) with ⟨no, no'⟩ | ⟨_, _, yes, yes', ahead, takes, shorter⟩
    · rw [listTail_of_none no, listTail_of_none no']
      exact .ok extended 0
    · cases fuel' with
      | nil => exact absurd more (Nat.not_succ_le_zero _)
      | cons t' fuel' =>
        rw [listTail, listTail, yes, yes']
        dsimp only
        rw [← ahead.startsExpression]
        refine .after_takes takes ?_
        split
        next =>
          refine (nests ahead).bind fun item rest behind ahead takes => ?_
          have others := ih (takes.enough shorter enough) (Nat.le_of_succ_le_succ more) ahead
          exact others.bind fun _ _ _ ahead _ => .ok ahead 0
        next => exact .ok ahead 0

theorem expressionList_extends : Extends tail (expressionList nested) (expressionList nested') := by
  intro tokens longer extended
  refine (nests extended).bind fun first rest behind ahead _ => ?_
  dsimp only
  rcases ahead.behindMark? .comma 0 0 (fun _ => rfl) with ⟨no, no'⟩ | ⟨_, _, yes, yes', _⟩
  · rw [no, no']
    exact .ok ahead 0
  · rw [yes, yes']
    have items := listTail_follows nests (Nat.le_refl _) ahead.length_le ahead
    exact items.bind fun others rest behind ahead _ => .ok ahead 0

theorem parenthesized_follows (extended : Extended tail tokens longer) :
    Follows tail 1 0 tokens (parenthesized nested tokens) (parenthesized nested' longer) := by
  rw [parenthesized, parenthesized]
  rcases extended.behindMark? .rightParen 1 0 (fun _ => rfl) with ⟨no, no'⟩ | ⟨_, _, yes, yes', ahead, takes, _⟩
  · rw [no, no']
    refine ((nests extended).inside 1).bind fun first rest behind ahead _ => ?_
    dsimp only
    rcases ahead.behindMark? .rightParen 1 0 (fun _ => rfl) with ⟨no, no'⟩ | ⟨_, _, yes, yes', ahead, takes, _⟩
    · rw [no, no']
      refine ahead.expectMark 1 1 (fun _ => rfl) fun rest behind ahead => ?_
      have items := sequence_follows nests .rightParen (fun _ => rfl) .expression ahead.length_le ahead
      exact items.bind fun others rest behind ahead _ => .ok ahead 0
    · rw [yes, yes']
      exact .after_takes takes (.ok ahead 0)
  · rw [yes, yes']
    exact .after_takes takes (.ok ahead 0)

theorem primary_extends : Extends tail (primary nested) (primary nested') := by
  intro tokens longer extended
  cases extended with
  | done broken => exact .failed
  | token token here there rest =>
    -- A token that is no opening bracket leaves the depth as it is, and an opening one is closed behind it.
    cases token with
    | int n => exact .after_takes (.head (fun _ => rfl) here _) (.ok rest 0)
    | float x => exact .after_takes (.head (fun _ => rfl) here _) (.ok rest 0)
    | str text =>
      rw [primary, primary]
      obtain ⟨same, ahead, takes⟩ := adjacentStrings_follows rest text
      dsimp only
      rw [same]
      exact .after_takes (.head (fun _ => rfl) here _) (.after_takes takes (.ok ahead 0))
    | name name =>
      rw [primary, primary]
      refine .after_takes (.head (fun _ => rfl) here _) ?_
      split
      next => exact .ok rest 0
      split
      next => exact .ok rest 0
      split
      next => exact .ok rest 0
      split
      next => exact .failed
      next => exact .ok rest 0
    | newline => exact .failed
    | mark mark =>
      cases mark with
      | leftParen => exact .after_takes (.head (fun _ => rfl) here _) (parenthesized_follows nests rest)
      | leftBracket =>
        have items := sequence_follows nests .rightBracket (fun _ => rfl) .expression rest.length_le rest
        exact .after_takes (.head (fun _ => rfl) here _) (items.bind fun _ _ _ ahead _ => .ok ahead 0)
      | leftBrace =>
        have entries := dictEntries_follows nests rest.length_le rest
        exact .after_takes (.head (fun _ => rfl) here _) (entries.bind fun _ _ _ ahead _ => .ok ahead 0)
      | _ => exact .failed

theorem sliceUpper_follows (value : Expr) (lower : Option Expr) (extended : Extended tail tokens longer) :
    Follows tail 1 0 tokens (sliceUpper nested value lower tokens) (sliceUpper nested' value lower longer) := by
  rw [sliceUpper, sliceUpper]
  rcases extended.behindMark? .rightBracket 1 0 (fun _ => rfl) with ⟨no, no'⟩ | ⟨_, _, yes, yes', ahead, takes, _⟩
  · rw [no, no']
    refine ((nests extended).inside 1).bind fun upper rest behind ahead _ => ?_
    exact ahead.expectMark 1 0 (fun _ => rfl) fun rest behind ahead => .ok ahead 0
  · rw [yes, yes']
    exact .after_takes takes (.ok ahead 0)

theorem subscript_follows (value : Expr) (extended : Extended tail tokens longer) :
    Follows tail 1 0 tokens (subscript nested value tokens) (subscript nested' value longer) := by
  rw [subscript, subscript]
  rcases extended.behindMark? .colon 1 1 (fun _ => rfl) with ⟨no, no'⟩ | ⟨_, _, yes, yes', ahead, takes, _⟩
  · rw [no, no']
    refine ((expressionList_extends nests extended).inside 1).bind fun lower rest behind ahead _ => ?_
    dsimp only
    rcases ahead.behindMark? .colon 1 1 (fun _ => rfl) with ⟨no, no'⟩ | ⟨_, _, yes, yes', ahead, takes, _⟩
    · rw [no, no']
      exact ahead.expectMark 1 0 (fun _ => rfl) fun rest behind ahead => .ok ahead 0
    · rw [yes, yes']
      exact .after_takes takes (sliceUpper_follows nests value (some lower) ahead)
  · rw [yes, yes']
    exact .after_takes takes (sliceUpper_follows nests value none ahead)

omit nests in
theorem attributeName_extends : Extends tail attributeName attributeName := by
  intro tokens longer extended
  cases extended with
  | done broken => exact .failed
  | token token here there rest =>
    cases token with
    | name name => exact .after_takes (.head (fun _ => rfl) here _) (.ok rest 0)
    | _ => exact .failed

theorem trailer?_follows (value : Expr) (extended : Extended tail tokens longer) :
    (trailer? nested value tokens = none ∧ trailer? nested' value longer = none) ∨
      ∃ step step' depth rest, trailer? nested value tokens = some step ∧ trailer? nested' value longer = some step' ∧
        Takes 0 depth tokens rest ∧ rest.length < tokens.length ∧ Follows tail depth 0 rest step step' := by
  cases extended with
  | done broken =>
    rcases broken.cases with rfl | ⟨_, _, rfl⟩
    · exact .inl ⟨rfl, rfl⟩
    · exact .inl ⟨rfl, rfl⟩
  | token token here there rest =>
    cases token with
    | mark mark =>
      cases mark with
      | dot =>
        exact .inr ⟨_, _, 0, _, rfl, rfl, .head (fun _ => rfl) here _, Nat.lt_succ_self _,
          (attributeName_extends rest).bind fun _ _ _ ahead _ => .ok ahead 0⟩
      | leftParen =>
        have items := sequence_follows nests .rightParen (fun _ => rfl) .expression rest.length_le rest
        exact .inr ⟨_, _, 1, _, rfl, rfl, .head (fun _ => rfl) here _, Nat.lt_succ_self _,
          items.bind fun _ _ _ ahead _ => .ok ahead 0⟩
      | leftBracket =>
        exact .inr ⟨_, _, 1, _, rfl, rfl, .head (fun _ => rfl) here _, Nat.lt_succ_self _,
          subscript_follows nests value rest⟩
      | _ => exact .inl ⟨rfl, rfl⟩
    | _ => exact .inl ⟨rfl, rfl⟩

theorem trailers_follows {fuel fuel' : Tokens} (enough : tokens.length ≤ fuel.length)
    (more : fuel.length ≤ fuel'.length) (value : Expr) (extended : Extended tail tokens longer) :
    Follows tail 0 0 tokens (trailers nested fuel value tokens) (trailers nested' fuel' value longer) := by
  induction fuel generalizing fuel' value tokens longer with
  | nil =>
    rcases trailer?_follows nests value extended with ⟨no, no'⟩ | ⟨_, _, _, _, _, _, _, shorter, _⟩
    · rw [trailers_of_none no, trailers_of_none no']
      exact .ok extended 0
    · exact absurd (Nat.lt_of_lt_of_le shorter enough) (Nat.not_lt_zero _)
  | cons t fuel ih =>
    rcases trailer?_follows nests value extended with
      ⟨no, no'⟩ | ⟨step, step', depth, rest, yes, yes', takes, shorter, follows⟩
    · rw [trailers_of_none no, trailers_of_none no']
      exact .ok extended 0
    · cases fuel' with
      | nil => exact absurd more (Nat.not_succ_le_zero _)
      | cons t' fuel' =>
        rw [trailers, trailers, yes, yes']
        refine .after_takes takes (follows.bind fun value rest behind ahead takes => ?_)
        exact ih (takes.enough shorter enough) (Nat.le_of_succ_le_succ more) value ahead

theorem operand_extends : Extends tail (operand nested) (operand nested') := by
  intro tokens longer extended
  refine (primary_extends nests extended).bind fun value rest behind ahead _ => ?_
  exact trailers_follows nests (Nat.le_refl _) ahead.length_le value ahead

theorem unary_extends : Extends tail (unary nested) (unary nested') := by
  intro tokens longer extended
  induction extended with
  | done broken =>
    have operands := operand_extends nests (.done broken)
    rcases broken.cases with rfl | ⟨_, _, rfl⟩
    · exact operands
    · exact operands
  | token token here there rest ih =>
    have operands := operand_extends nests (.token token here there rest)
    cases token with
    | mark mark =>
      cases mark with
      | minus => exact .after_takes (.head (fun _ => rfl) here _) (ih.bind fun _ _ _ ahead _ => .ok ahead 0)
      | plus => exact .after_takes (.head (fun _ => rfl) here _) (ih.bind fun _ _ _ ahead _ => .ok ahead 0)
      | _ => exact operands
    | _ => exact operands

theorem sum_extends : Extends tail (sum nested) (sum nested') := by
  have products : Extends tail (product nested) (product nested') :=
    chained_extends (unary_extends nests) productOperator?_finds
  exact chained_extends products sumOperator?_finds

theorem comparisonTail_follows {fuel fuel' : Tokens} (enough : tokens.length ≤ fuel.length)
    (more : fuel.length ≤ fuel'.length) (extended : Extended tail tokens longer) :
    Follows tail 0 0 tokens (comparisonTail nested fuel tokens) (comparisonTail nested' fuel' longer) := by
  induction fuel generalizing fuel' tokens longer with
  | nil =>
    rcases compareOperator?_finds extended with ⟨no, no'⟩ | ⟨_, _, _, _, _, _, _, shorter⟩
    · rw [comparisonTail_of_none no, comparisonTail_of_none no']
      exact .ok extended 0
    · exact absurd (Nat.lt_of_lt_of_le shorter enough) (Nat.not_lt_zero _)
  | cons t fuel ih =>
    rcases compareOperator?_finds extended with ⟨no, no'⟩ | ⟨op, rest, behind, yes, yes', ahead, takes, shorter⟩
    · rw [comparisonTail_of_none no, comparisonTail_of_none no']
      exact .ok extended 0
    · cases fuel' with
      | nil => exact absurd more (Nat.not_succ_le_zero _)
      | cons t' fuel' =>
        rw [comparisonTail, comparisonTail, yes, yes']
        refine .after_takes takes ((sum_extends nests ahead).bind fun right rest behind ahead takes => ?_)
        have links := ih (takes.enough shorter enough) (Nat.le_of_succ_le_succ more) ahead
        exact links.bind fun _ _ _ ahead _ => .ok ahead 0

theorem comparison_extends : Extends tail (comparison nested) (comparison nested') := by
  intro tokens longer extended
  refine (sum_extends nests extended).bind fun first rest behind ahead _ => ?_
  have links := comparisonTail_follows nests (Nat.le_refl _) ahead.length_le ahead
  exact links.bind fun _ _ _ ahead _ => .ok ahead 0

theorem negation_extends : Extends tail (negation nested) (negation nested') := by
  intro tokens longer extended
  induction extended with
  | done broken =>
    have comparisons := comparison_extends nests (.done broken)
    rcases broken.cases with rfl | ⟨_, _, rfl⟩
    · exact comparisons
    · exact comparisons
  | token token here there rest ih =>
    rw [negation, negation]
    dsimp only
    split
    next isNot =>
      have first := @Takes.head 0 0 token (depthBehind_word isNot) here
      exact .after_takes (first _) (ih.bind fun _ _ _ ahead _ => .ok ahead 0)
    next => exact comparison_extends nests (.token token here there rest)

theorem disjunction_extends : Extends tail (disjunction nested) (disjunction nested') := by
  have conjunctions : Extends tail (conjunction nested) (conjunction nested') :=
    chained_extends (negation_extends nests) (wordOperator?_finds "and" .and)
  exact chained_extends conjunctions (wordOperator?_finds "or" .or)

theorem conditional_extends : Extends tail (conditional nested) (conditional nested') := by
  intro tokens longer extended
  refine (disjunction_extends nests extended).bind fun value rest behind ahead _ => ?_
  dsimp only
  rcases ahead.behindWord? "if" with ⟨no, no'⟩ | ⟨_, _, yes, yes', ahead, takes, _⟩
  · rw [no, no']
    exact .ok ahead 0
  · rw [yes, yes']
    refine .after_takes takes ((disjunction_extends nests ahead).bind fun condition rest behind ahead _ => ?_)
    dsimp only
    rcases ahead.behindWord? "else" with ⟨no, no'⟩ | ⟨_, _, yes, yes', ahead, takes, _⟩
    · rw [no]
      exact .failed
    · rw [yes, yes']
      exact .after_takes takes ((nests ahead).bind fun _ _ _ ahead _ => .ok ahead 0)

end Levels

theorem expression_extends {fuel fuel' : Tokens} (more : fuel.length ≤ fuel'.length) :
    Extends tail (expression fuel) (expression fuel') := by
  induction fuel generalizing fuel' with
  | nil => exact fun _ _ _ => .failed
  | cons t fuel ih =>
    cases fuel' with
    | nil => exact absurd more (Nat.not_succ_le_zero _)
    | cons t' fuel' => exact conditional_extends (ih (Nat.le_of_succ_le_succ more))

theorem parseList_extends : Extends tail parseList parseList := by
  intro tokens longer extended
  exact expressionList_extends (expression_extends extended.length_le) extended

end Stencil
