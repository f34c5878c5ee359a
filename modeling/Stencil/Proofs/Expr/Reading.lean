import Stencil.Proofs.Expr.Print
import Stencil.Proofs.Outcome

/-! Every level of the parser reads the tokens of an expression that is written for its place.

A level reads on as long as operators of that level or a tighter one follow, so that what it gives depends
on the token behind the expression. A level of operators to the left reads its first operand and goes on in
a loop; what is proved by induction is how the level gets to the loop with the whole expression read. -/
namespace Stencil

/-- Tokens with their places, of which only the tokens are given. -/
def Spells (pre : Tokens) (spelled : List Token) : Prop := pre.map Spanned.token = spelled

theorem Spells.append {pre : Tokens} {first second : List Token} (spells : Spells pre (first ++ second)) :
    ∃ front back, pre = front ++ back ∧ Spells front first ∧ Spells back second := by
  obtain ⟨front, back, whole, left, right⟩ := List.map_eq_append_iff.mp spells
  exact ⟨front, back, whole, left, right⟩

theorem Spells.cons {pre : Tokens} {token : Token} {spelled : List Token}
    (spells : Spells pre (token :: spelled)) :
    ∃ position rest, pre = ⟨token, position⟩ :: rest ∧ Spells rest spelled := by
  obtain ⟨⟨_, position⟩, rest, whole, rfl, right⟩ := List.map_eq_cons_iff.mp spells
  exact ⟨position, rest, whole, right⟩

theorem Spells.nil {pre : Tokens} (spells : Spells pre []) : pre = [] := List.map_eq_nil_iff.mp spells

theorem Spells.length {pre : Tokens} {spelled : List Token} (spells : Spells pre spelled) :
    pre.length = spelled.length := by
  rw [← spells, List.length_map]

theorem Spells.bracketed {pre : Tokens} {opening closing : Mark} {inner : List Token}
    (spells : Spells pre (bracketed opening closing inner)) : ∃ first middle last,
      pre = ⟨.mark opening, first⟩ :: (middle ++ [⟨.mark closing, last⟩]) ∧ Spells middle inner := by
  unfold Stencil.bracketed at spells
  obtain ⟨first, rest, rfl, behind⟩ := spells.cons
  obtain ⟨middle, back, rfl, inside, behind⟩ := behind.append
  obtain ⟨last, none, rfl, empty⟩ := behind.cons
  cases empty.nil
  exact ⟨first, middle, last, rfl, inside⟩

/-- One more than the tightest level at which a token goes on with the expression before it. -/
def Token.grip : Token → Nat
  | .name word =>
    if word = "if" then 1
    else if word = "or" then 2
    else if word = "and" then 3
    else if word = "in" ∨ word = "is" ∨ word = "not" then 5
    else 0
  | .mark .equal | .mark .notEqual | .mark .less | .mark .lessEqual | .mark .greater
  | .mark .greaterEqual => 5
  | .mark .plus | .mark .minus => 6
  | .mark .star | .mark .slash | .mark .doubleSlash | .mark .percent => 7
  | .mark .dot | .mark .leftParen | .mark .leftBracket => 9
  | .str _ => 10
  | _ => 0

/-- An expression of the level that stands before ends there. -/
def Clear (level : Nat) (rest : Tokens) : Prop := ∀ t ∈ rest.head?, t.token.grip ≤ level

theorem Clear.mono {low high : Nat} {rest : Tokens} (clear : Clear low rest) (le : low ≤ high) :
    Clear high rest := fun t head => Nat.le_trans (clear t head) le

theorem clear_nil (level : Nat) : Clear level [] := by
  intro t head
  cases head

theorem clear_cons {level : Nat} {token : Token} {position : Nat} {rest : Tokens}
    (le : token.grip ≤ level) : Clear level (⟨token, position⟩ :: rest) := by
  rintro _ ⟨⟩
  exact le

theorem not_clear_cons {level : Nat} {token : Token} {position : Nat} {rest : Tokens}
    (tight : level < token.grip) : ¬ Clear level (⟨token, position⟩ :: rest) :=
  fun clear => Nat.not_le.mpr tight (clear _ rfl)

def Leads (level : Nat) : Token → Prop
  | .name word => word = "not" → level ≤ 3
  | .int _ | .str _ | .mark .leftParen | .mark .leftBracket | .mark .leftBrace => True
  | .mark .minus | .mark .plus => level ≤ 7
  | _ => False

theorem Leads.anti {low high : Nat} {token : Token} (leads : Leads high token) (le : low ≤ high) :
    Leads low token := by
  unfold Leads at leads ⊢
  split at leads
  next => exact fun same => Nat.le_trans le (leads same)
  all_goals first | exact Nat.le_trans le leads | exact leads

theorem Leads.not_mark {level : Nat} {token : Token} (leads : Leads level token) {mark : Mark}
    (closes : mark ∈ [Mark.rightParen, .rightBracket, .rightBrace, .comma, .colon]) :
    token.isMark mark = false := by
  cases token with
  | mark found =>
    have apart : found ≠ mark := by
      rintro rfl
      simp only [List.mem_cons, List.not_mem_nil, or_false] at closes
      rcases closes with rfl | rfl | rfl | rfl | rfl <;> exact leads
    exact decide_eq_false apart
  | _ => rfl

theorem enclosed_leads {level place : Nat} {bare : List Token}
    (leads : ∃ t rest, bare = t :: rest ∧ Leads level t) :
    ∃ t rest, enclosed level place bare = t :: rest ∧ Leads place t := by
  obtain ⟨t, rest, rfl, leads⟩ := leads
  by_cases tight : level < place
  · exact ⟨_, _, if_pos tight, trivial⟩
  · exact ⟨t, rest, if_neg tight, leads.anti (Nat.not_lt.mp tight)⟩

theorem leads_append {level place : Nat} {front back : List Token}
    (leads : ∃ t rest, front = t :: rest ∧ Leads place t) (le : level ≤ place) :
    ∃ t rest, front ++ back = t :: rest ∧ Leads level t := by
  obtain ⟨t, rest, rfl, leads⟩ := leads
  exact ⟨t, rest ++ back, rfl, leads.anti le⟩

theorem isIdentifier_not_keyword {name : String} (identifier : isIdentifier name = true) :
    isKeyword name = false := by
  unfold isIdentifier at identifier
  split at identifier
  next => cases identifier
  next => simpa using (Bool.and_eq_true_iff.mp identifier).2

/-- The first token of an expression tells that one starts, and which levels pass over it. -/
theorem Printable.leads {e : Expr} (printable : Printable e) :
    ∃ t rest, e.bare = t :: rest ∧ Leads e.level t := by
  induction printable with
  | null =>
    rw [Expr.bare]
    exact ⟨_, _, rfl, by simp [Leads]⟩
  | bool b =>
    rw [Expr.bare]
    cases b <;> exact ⟨_, _, rfl, by simp [Leads]⟩
  | int _ | str _ | list | tuple | dict =>
    rw [Expr.bare]
    exact ⟨_, _, rfl, trivial⟩
  | name identifier =>
    rw [Expr.bare]
    refine ⟨_, _, rfl, ?_⟩
    rintro rfl
    cases isIdentifier_not_keyword identifier
  | member _ _ ih | index _ _ ih | slice _ _ _ ih | call _ _ ih =>
    rw [Expr.bare]
    exact leads_append (enclosed_leads ih) (Nat.le_refl 8)
  | unary op =>
    rw [Expr.bare]
    cases op <;> exact ⟨_, _, rfl, Nat.le_refl 7⟩
  | binary op _ _ ih =>
    rw [Expr.bare]
    exact leads_append (enclosed_leads ih) (Nat.le_refl op.level)
  | not =>
    rw [Expr.bare]
    exact ⟨_, _, rfl, fun _ => Nat.le_refl 3⟩
  | and _ _ ih | or _ _ ih =>
    rw [Expr.bare]
    exact leads_append (enclosed_leads ih) (Nat.le_refl _)
  | compare _ _ _ ih =>
    rw [Expr.bare]
    exact leads_append (enclosed_leads ih) (Nat.le_succ 4)
  | conditional _ _ _ _ ih =>
    rw [Expr.bare]
    exact leads_append (enclosed_leads ih) (Nat.zero_le 1)

/-- The parser of a level, given the one for nested expressions. -/
def levelParser (nested : Parser Expr) : Nat → Parser Expr
  | 0 => conditional nested
  | 1 => disjunction nested
  | 2 => conjunction nested
  | 3 => negation nested
  | 4 => comparison nested
  | 5 => sum nested
  | 6 => product nested
  | 7 => unary nested
  | _ => operand nested

def levelLoop (nested : Parser Expr) : Nat → Tokens → Expr → Parser Expr
  | 1 => leftChain (conjunction nested) (wordOperator? "or" .or)
  | 2 => leftChain (negation nested) (wordOperator? "and" .and)
  | 5 => leftChain (product nested) sumOperator?
  | 6 => leftChain (unary nested) productOperator?
  | 8 => trailers nested
  | _ => fun _ e tokens => .ok (e, tokens)

/-- What may follow an expression in the loop of its level, where there is one. -/
def reach : Nat → Nat
  | 1 => 2
  | 2 => 3
  | 5 => 6
  | 6 => 7
  | 8 => 9
  | level => level

/-- The parser of the level gets to its loop with the expression read, and with fuel for all that follows. -/
def Reads (nested : Parser Expr) (level : Nat) (e : Expr) (pre : Tokens) : Prop :=
  ∀ rest, Clear (reach level) rest → ∃ fuel, rest.length ≤ fuel.length ∧
    levelParser nested level (pre ++ rest) = levelLoop nested level fuel e rest

theorem not_word_of_grip {token : Token} {word : String} {level : Nat} (le : token.grip ≤ level)
    (tight : level < (Token.name word).grip) : token.isWord word = false := by
  cases token with
  | name found =>
    have apart : found ≠ word := by
      rintro rfl
      omega
    exact decide_eq_false apart
  | _ => rfl

theorem behindWord?_of_clear {level : Nat} {rest : Tokens} (clear : Clear level rest) {word : String}
    (tight : level < (Token.name word).grip) : behindWord? word rest = none := by
  cases rest with
  | nil => rfl
  | cons t rest => rw [behindWord?, not_word_of_grip (clear t rfl) tight]; rfl

theorem sumOperator?_of_clear {rest : Tokens} (clear : Clear 5 rest) : sumOperator? rest = none := by
  unfold sumOperator?
  split
  next => exact absurd clear (not_clear_cons (by decide))
  next => exact absurd clear (not_clear_cons (by decide))
  next => rfl

theorem productOperator?_of_clear {rest : Tokens} (clear : Clear 6 rest) :
    productOperator? rest = none := by
  unfold productOperator?
  split
  next => exact absurd clear (not_clear_cons (by decide))
  next => exact absurd clear (not_clear_cons (by decide))
  next => exact absurd clear (not_clear_cons (by decide))
  next => exact absurd clear (not_clear_cons (by decide))
  next => rfl

theorem trailer?_of_clear {nested : Parser Expr} {value : Expr} {rest : Tokens} (clear : Clear 8 rest) :
    trailer? nested value rest = none := by
  unfold trailer?
  split
  next => exact absurd clear (not_clear_cons (by decide))
  next => exact absurd clear (not_clear_cons (by decide))
  next => exact absurd clear (not_clear_cons (by decide))
  next => rfl

theorem compareOperator?_of_clear {rest : Tokens} (clear : Clear 4 rest) :
    compareOperator? rest = none := by
  unfold compareOperator?
  split
  next => exact absurd clear (not_clear_cons (by decide))
  next => exact absurd clear (not_clear_cons (by decide))
  next => exact absurd clear (not_clear_cons (by decide))
  next => exact absurd clear (not_clear_cons (by decide))
  next => exact absurd clear (not_clear_cons (by decide))
  next => exact absurd clear (not_clear_cons (by decide))
  next word _ rest =>
    have isIn : word ≠ "in" := by
      rintro rfl
      exact absurd clear (not_clear_cons (by decide))
    have isIs : word ≠ "is" := by
      rintro rfl
      exact absurd clear (not_clear_cons (by decide))
    have isNot : word ≠ "not" := by
      rintro rfl
      exact absurd clear (not_clear_cons (by decide))
    rw [if_neg isIn, if_neg isIs, if_neg isNot]
  next => rfl

theorem leftChain_of_none {operand : Parser Expr}
    {operator? : Tokens → Option ((Expr → Expr → Expr) × Tokens)} {rest : Tokens}
    (none : operator? rest = none) (fuel : Tokens) (e : Expr) :
    leftChain operand operator? fuel e rest = .ok (e, rest) := by
  cases fuel with
  | nil => rfl
  | cons t fuel => rw [leftChain, none]

theorem wordOperator?_of_clear {level : Nat} {rest : Tokens} (clear : Clear level rest) {word : String}
    (tight : level < (Token.name word).grip) (combine : Expr → Expr → Expr) :
    wordOperator? word combine rest = none := by
  rw [wordOperator?, behindWord?_of_clear clear tight]
  rfl

theorem levelLoop_of_clear {nested : Parser Expr} {level : Nat} {rest : Tokens} (clear : Clear level rest)
    (fuel : Tokens) (e : Expr) : levelLoop nested level fuel e rest = .ok (e, rest) := by
  unfold levelLoop
  split
  next => exact leftChain_of_none (wordOperator?_of_clear clear (by decide) _) fuel e
  next => exact leftChain_of_none (wordOperator?_of_clear clear (by decide) _) fuel e
  next => exact leftChain_of_none (sumOperator?_of_clear clear) fuel e
  next => exact leftChain_of_none (productOperator?_of_clear clear) fuel e
  next =>
    cases fuel with
    | nil => rfl
    | cons t fuel => rw [trailers, trailer?_of_clear clear]
  next => rfl

theorem le_reach (level : Nat) : level ≤ reach level := by
  unfold reach
  split <;> omega

theorem Reads.whole {nested : Parser Expr} {level : Nat} {e : Expr} {pre : Tokens}
    (reads : Reads nested level e pre) {rest : Tokens} (clear : Clear level rest) :
    levelParser nested level (pre ++ rest) = .ok (e, rest) := by
  obtain ⟨fuel, _, read⟩ := reads rest (clear.mono (le_reach level))
  rw [read, levelLoop_of_clear clear]

section Levels
variable {nested : Parser Expr} {level : Nat}
  {operator? : Tokens → Option ((Expr → Expr → Expr) × Tokens)}

theorem reads_of_operand
    (chain : levelParser nested level = chained (levelParser nested (level + 1)) operator?)
    (loop : levelLoop nested level = leftChain (levelParser nested (level + 1)) operator?)
    (far : reach level = level + 1) {e : Expr} {pre : Tokens} (reads : Reads nested (level + 1) e pre) :
    Reads nested level e pre := by
  intro rest clear
  rw [far] at clear
  refine ⟨rest, Nat.le_refl _, ?_⟩
  rw [chain, chained, reads.whole clear, ok_bind, loop]

theorem reads_conditional_of_operand {e : Expr} {pre : Tokens} (reads : Reads nested 1 e pre) :
    Reads nested 0 e pre := by
  intro rest clear
  refine ⟨rest, Nat.le_refl _, ?_⟩
  have read : disjunction nested (pre ++ rest) = .ok (e, rest) := reads.whole (clear.mono (by decide))
  have noIf : behindWord? "if" rest = none := behindWord?_of_clear clear (by decide)
  rw [levelParser, conditional, read, ok_bind]
  simp only [noIf]
  rfl

theorem reads_negation_of_operand {e : Expr} {t : Spanned} {pre : Tokens} (leads : Leads 4 t.token)
    (reads : Reads nested 4 e (t :: pre)) : Reads nested 3 e (t :: pre) := by
  intro rest clear
  refine ⟨rest, Nat.le_refl _, ?_⟩
  have read : comparison nested (t :: (pre ++ rest)) = .ok (e, rest) := reads.whole (clear.mono (by decide))
  have noNot : t.token.isWord "not" = false := by
    cases same : t.token with
    | name word =>
      rw [same] at leads
      exact decide_eq_false fun isNot => absurd (leads isNot) (by decide)
    | _ => rfl
  rw [levelParser, List.cons_append, negation, noNot, if_neg Bool.false_ne_true, read]
  rfl

theorem reads_comparison_of_operand {e : Expr} {pre : Tokens} (reads : Reads nested 5 e pre) :
    Reads nested 4 e pre := by
  intro rest clear
  refine ⟨rest, Nat.le_refl _, ?_⟩
  have read : sum nested (pre ++ rest) = .ok (e, rest) := reads.whole (clear.mono (by decide))
  have noLink : comparisonTail nested rest rest = .ok ([], rest) := by
    cases rest with
    | nil => rfl
    | cons t rest => rw [comparisonTail, compareOperator?_of_clear clear]
  rw [levelParser, comparison, read, ok_bind]
  simp only [noLink]
  rfl

theorem reads_unary_of_operand {e : Expr} {t : Spanned} {pre : Tokens} (leads : Leads 8 t.token)
    (reads : Reads nested 8 e (t :: pre)) : Reads nested 7 e (t :: pre) := by
  intro rest clear
  refine ⟨rest, Nat.le_refl _, ?_⟩
  have read : operand nested (t :: (pre ++ rest)) = .ok (e, rest) := reads.whole (clear.mono (by decide))
  obtain ⟨token, position⟩ := t
  rw [levelParser, List.cons_append, unary]
  split
  next same =>
    cases same
    exact absurd leads (Nat.not_succ_le_self 7)
  next same =>
    cases same
    exact absurd leads (Nat.not_succ_le_self 7)
  next => exact read

/-- What binds more tightly than a level asks for is read at that level. -/
theorem Reads.down {e : Expr} {t : Spanned} {pre : Tokens} (bound : level < 8)
    (leads : Leads (level + 1) t.token) (reads : Reads nested (level + 1) e (t :: pre)) :
    Reads nested level e (t :: pre) := by
  match level, bound with
  | 0, _ => exact reads_conditional_of_operand reads
  | 1, _ => exact reads_of_operand rfl rfl rfl reads
  | 2, _ => exact reads_of_operand rfl rfl rfl reads
  | 3, _ => exact reads_negation_of_operand leads reads
  | 4, _ => exact reads_comparison_of_operand reads
  | 5, _ => exact reads_of_operand rfl rfl rfl reads
  | 6, _ => exact reads_of_operand rfl rfl rfl reads
  | 7, _ => exact reads_unary_of_operand leads reads

theorem Reads.below {e : Expr} {t : Spanned} {pre : Tokens} {place : Nat} (le : place ≤ level)
    (bound : level ≤ 8) (leads : Leads level t.token) (reads : Reads nested level e (t :: pre)) :
    Reads nested place e (t :: pre) := by
  obtain ⟨steps, rfl⟩ := Nat.exists_eq_add_of_le le
  induction steps with
  | zero => exact reads
  | succ steps ih =>
    have lower : Reads nested (place + steps) e (t :: pre) := reads.down (by omega) leads
    exact ih (Nat.le_add_right _ _) (by omega) (leads.anti (Nat.le_succ _)) lower

/-- An operator to the left takes the expression before it and an operand of the next level. -/
theorem reads_operator (loop : levelLoop nested level = leftChain (levelParser nested (level + 1)) operator?)
    (far : reach level = level + 1) {token : Token} {position : Nat} {combine : Expr → Expr → Expr}
    (applies : ∀ rest, operator? (⟨token, position⟩ :: rest) = some (combine, rest))
    (grip : token.grip ≤ level + 1) {left right : Expr} {front back : Tokens}
    (first : Reads nested level left front) (second : Reads nested (level + 1) right back) :
    Reads nested level (combine left right) (front ++ ⟨token, position⟩ :: back) := by
  intro rest clear
  rw [far] at clear
  obtain ⟨fuel, long, read⟩ := first (⟨token, position⟩ :: (back ++ rest)) (far ▸ clear_cons grip)
  cases fuel with
  | nil => cases long
  | cons t fuel =>
    simp only [List.length_cons, List.length_append] at long
    refine ⟨fuel, by omega, ?_⟩
    rw [List.append_assoc, List.cons_append, read, loop, leftChain, applies]
    simp only [second.whole clear, ok_bind]

/-- What stands behind an operand becomes part of it. -/
theorem Reads.trailer {value e : Expr} {front back : Tokens} (base : Reads nested 8 value front)
    (any : back ≠ []) (opens : ∀ rest, Clear 9 (back ++ rest))
    (step : ∀ rest, trailer? nested value (back ++ rest) = some (.ok (e, rest))) :
    Reads nested 8 e (front ++ back) := by
  intro rest _
  obtain ⟨fuel, long, read⟩ := base (back ++ rest) (opens rest)
  have some : 0 < back.length := List.length_pos_iff.mpr any
  rw [List.length_append] at long
  cases fuel with
  | nil =>
    rw [List.length_nil] at long
    omega
  | cons t fuel =>
    rw [List.length_cons] at long
    refine ⟨fuel, by omega, ?_⟩
    rw [List.append_assoc, read, levelLoop, trailers, step rest]
    rfl

end Levels

end Stencil
