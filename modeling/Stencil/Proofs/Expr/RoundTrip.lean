import Stencil.Proofs.Expr.Lexing
import Stencil.Proofs.Expr.Nested

/-! Printed expressions are read back. Main statement: `parseExpression_print`. -/
namespace Stencil

section Levels
variable {nested : Parser Expr}

theorem reads_of_primary {e : Expr} {pre : Tokens}
    (read : ∀ rest, Clear 9 rest → primary nested (pre ++ rest) = .ok (e, rest)) :
    Reads nested 8 e pre := by
  intro rest clear
  refine ⟨rest, Nat.le_refl _, ?_⟩
  show operand nested (pre ++ rest) = trailers nested rest e rest
  rw [operand, read rest clear, ok_bind]

/-- Brackets hold what the parser reads behind the opening one, with a token of fuel less. -/
theorem reads_of_bracketed {e : Expr} {fuel pre : Tokens} {opening closing : Mark} {inner : List Token}
    (spells : Spells pre (bracketed opening closing inner)) (room : pre.length ≤ fuel.length + 1)
    (read : ∀ first middle last rest, Spells middle inner → middle.length < fuel.length →
      primary (expression fuel) (⟨.mark opening, first⟩ :: (middle ++ ⟨.mark closing, last⟩ :: rest)) =
        .ok (e, rest)) : Reads (expression fuel) 8 e pre := by
  obtain ⟨first, middle, last, rfl, inside⟩ := spells.bracketed
  simp only [List.length_cons, List.length_append, List.length_nil] at room
  refine reads_of_primary fun rest _ => ?_
  rw [List.cons_append, List.append_assoc, List.singleton_append]
  exact read first middle last rest inside (by omega)

theorem Readable.reads {e : Expr} (readable : Readable e) {place : Nat} (le : place ≤ 8)
    {fuel pre : Tokens} (spells : Spells pre (e.tokens place)) (room : pre.length ≤ fuel.length + 1) :
    Reads (expression fuel) place e pre := by
  by_cases tight : e.level < place
  · rw [Expr.tokens, enclosed, if_pos tight] at spells
    have read : Reads (expression fuel) 8 e pre := by
      refine reads_of_bracketed spells room fun first middle last rest inside room => ?_
      rw [primary]
      exact parenthesized_reads readable inside room last
    obtain ⟨first, _, _, rfl, _⟩ := spells.bracketed
    exact read.below le (Nat.le_refl 8) trivial
  · rw [Expr.tokens, enclosed, if_neg tight] at spells
    exact readable.below (Nat.not_lt.mp tight) spells room

theorem reads_of_brackets_behind {value e : Expr} (base : Readable value) {fuel pre : Tokens}
    {opening closing : Mark} {inner : List Token}
    (spells : Spells pre (value.tokens 8 ++ bracketed opening closing inner))
    (room : pre.length ≤ fuel.length + 1) (grip : (Token.mark opening).grip ≤ 9)
    (step : ∀ first middle last rest, Spells middle inner → middle.length < fuel.length →
      trailer? (expression fuel) value
        (⟨.mark opening, first⟩ :: (middle ++ ⟨.mark closing, last⟩ :: rest)) = some (.ok (e, rest))) :
    Reads (expression fuel) 8 e pre := by
  obtain ⟨front, back, rfl, spellsBase, spellsRest⟩ := spells.append
  obtain ⟨first, middle, last, rfl, inside⟩ := spellsRest.bracketed
  simp only [List.length_cons, List.length_append, List.length_nil] at room
  have reads : Reads (expression fuel) 8 value front := base.reads (Nat.le_refl 8) spellsBase (by omega)
  refine reads.trailer (List.cons_ne_nil _ _) (fun _ => clear_cons grip) fun rest => ?_
  rw [List.cons_append, List.append_assoc, List.singleton_append]
  exact step first middle last rest inside (by omega)

theorem reads_infix {level : Nat} {operator? : Tokens → Option ((Expr → Expr → Expr) × Tokens)}
    {combine : Expr → Expr → Expr} {token : Token} {left right : Expr} (first : Readable left)
    (second : Readable right) {fuel pre : Tokens}
    (spells : Spells pre (left.tokens level ++ token :: right.tokens (level + 1)))
    (room : pre.length ≤ fuel.length + 1) (small : level + 1 ≤ 8)
    (loop : levelLoop (expression fuel) level =
      leftChain (levelParser (expression fuel) (level + 1)) operator?)
    (far : reach level = level + 1) (grip : token.grip ≤ level + 1)
    (applies : ∀ position rest, operator? (⟨token, position⟩ :: rest) = some (combine, rest)) :
    Reads (expression fuel) level (combine left right) pre := by
  obtain ⟨front, behind, rfl, spellsLeft, spellsRest⟩ := spells.append
  obtain ⟨position, back, rfl, spellsRight⟩ := spellsRest.cons
  simp only [List.length_append, List.length_cons] at room
  have readsLeft : Reads (expression fuel) level left front :=
    first.reads (Nat.le_of_succ_le small) spellsLeft (by omega)
  have readsRight : Reads (expression fuel) (level + 1) right back :=
    second.reads small spellsRight (by omega)
  exact reads_operator loop far (applies position) grip readsLeft readsRight

theorem reads_unary (op : UnaryOp) {value : Expr} {pre : Tokens} (reads : Reads nested 7 value pre)
    (position : Nat) : Reads nested 7 (.unary op value) (⟨.mark op.mark, position⟩ :: pre) := by
  intro rest clear
  refine ⟨rest, Nat.le_refl _, ?_⟩
  have read : unary nested (pre ++ rest) = .ok (value, rest) := reads.whole clear
  rw [levelParser, List.cons_append, unary]
  cases op with
  | negate =>
    simp only [UnaryOp.mark, read, ok_bind]
    rfl
  | plus =>
    simp only [UnaryOp.mark, read, ok_bind]
    rfl

theorem reads_not {value : Expr} {pre : Tokens} (reads : Reads nested 3 value pre) (position : Nat) :
    Reads nested 3 (.not value) (⟨.name "not", position⟩ :: pre) := by
  intro rest clear
  refine ⟨rest, Nat.le_refl _, ?_⟩
  have read : negation nested (pre ++ rest) = .ok (value, rest) := reads.whole clear
  have isNot : (Token.name "not").isWord "not" = true := by decide
  rw [levelParser, List.cons_append, negation, isNot, if_pos rfl, read, ok_bind]
  rfl

theorem compareOperator?_reads {op : CompareOp} {pre rest : Tokens} (spells : Spells pre op.tokens)
    (noNot : behindWord? "not" rest = none) : compareOperator? (pre ++ rest) = some (op, rest) := by
  cases op with
  | isNot | notIn =>
    obtain ⟨_, behind, rfl, spellsRest⟩ := spells.cons
    obtain ⟨_, last, rfl, empty⟩ := spellsRest.cons
    cases empty.nil
    rfl
  | is =>
    obtain ⟨_, behind, rfl, empty⟩ := spells.cons
    cases empty.nil
    simp [compareOperator?, noNot]
  | _ =>
    obtain ⟨_, behind, rfl, empty⟩ := spells.cons
    cases empty.nil
    rfl

theorem CompareOp.clear {op : CompareOp} {pre : Tokens} (spells : Spells pre op.tokens) (rest : Tokens) :
    Clear 5 (pre ++ rest) := by
  cases op <;> obtain ⟨_, behind, rfl, _⟩ := spells.cons <;> exact clear_cons (by decide)

theorem not_behindNot {level : Nat} (tight : 3 < level) {token : Token} (leads : Leads level token)
    {position : Nat} {rest : Tokens} : behindWord? "not" (⟨token, position⟩ :: rest) = none := by
  rw [behindWord?]
  cases token with
  | name word =>
    have apart : word ≠ "not" := fun same => absurd (leads same) (Nat.not_le.mpr tight)
    rw [Token.isWord, decide_eq_false apart, if_neg Bool.false_ne_true]
  | _ => rfl

theorem comparisonTail_reads {links : List (CompareOp × Expr)} (readable : ∀ link ∈ links, Readable link.2)
    {fuel pre rest : Tokens} (spells : Spells pre (Expr.bareLinks links))
    (room : pre.length ≤ fuel.length + 1) (clear : Clear 4 rest) {bound : Tokens}
    (enough : pre.length ≤ bound.length) :
    comparisonTail (expression fuel) bound (pre ++ rest) = .ok (links, rest) ∧ Clear 5 (pre ++ rest) := by
  induction links generalizing pre bound with
  | nil =>
    rw [Expr.bareLinks] at spells
    cases spells.nil
    refine ⟨?_, clear.mono (Nat.le_succ 4)⟩
    cases bound with
    | nil => rfl
    | cons t bound => rw [comparisonTail, List.nil_append, compareOperator?_of_clear clear]
  | cons link links ih =>
    obtain ⟨op, right⟩ := link
    have first : Readable right := readable (op, right) List.mem_cons_self
    have later := fun other member => readable other (List.mem_cons_of_mem (op, right) member)
    rw [Expr.bareLinks, List.append_assoc] at spells
    obtain ⟨sign, behind, rfl, spellsOp, spellsRest⟩ := spells.append
    obtain ⟨operand, others, rfl, spellsRight, spellsLater⟩ := spellsRest.append
    have signed : 0 < sign.length := by
      rw [spellsOp.length]
      cases op <;> decide
    simp only [List.length_append] at room enough
    refine ⟨?_, List.append_assoc sign _ rest ▸ CompareOp.clear spellsOp _⟩
    cases bound with
    | nil =>
      rw [List.length_nil] at enough
      omega
    | cons t bound =>
      rw [List.length_cons] at enough
      have enoughLater : others.length ≤ bound.length := by omega
      obtain ⟨readLater, clearLater⟩ := ih later spellsLater (by omega) enoughLater
      have reads : Reads (expression fuel) 5 right operand :=
        first.reads (by decide) spellsRight (by omega)
      have read : sum (expression fuel) (operand ++ (others ++ rest)) = .ok (right, others ++ rest) :=
        reads.whole clearLater
      have noNot : behindWord? "not" (operand ++ (others ++ rest)) = none := by
        have leads : ∃ t rest, enclosed right.level 5 right.bare = t :: rest ∧ Leads 5 t :=
          enclosed_leads first.leads
        obtain ⟨token, _, tokens, leads⟩ := leads
        rw [tokens] at spellsRight
        obtain ⟨_, _, rfl, _⟩ := spellsRight.cons
        exact not_behindNot (by decide) leads
      rw [comparisonTail, List.append_assoc, List.append_assoc, compareOperator?_reads spellsOp noNot]
      simp only [read, ok_bind, readLater]
      rfl

end Levels

section Cases
variable {fuel pre : Tokens}

theorem reads_name {name : String} (identifier : isIdentifier name = true)
    (spells : Spells pre (Expr.name name).bare) : Reads (expression fuel) 8 (.name name) pre := by
  rw [Expr.bare] at spells
  obtain ⟨position, behind, rfl, empty⟩ := spells.cons
  cases empty.nil
  have free := isIdentifier_not_keyword identifier
  have other {word : String} (keyword : isKeyword word = true) : name ≠ word := by
    rintro rfl
    rw [free] at keyword
    cases keyword
  refine reads_of_primary fun rest _ => ?_
  rw [List.singleton_append, primary, if_neg (other (by decide)), if_neg (other (by decide)),
    if_neg (other (by decide)), free, if_neg Bool.false_ne_true]

theorem adjacentStrings_of_clear {rest : Tokens} (clear : Clear 9 rest) (text : String) :
    adjacentStrings text rest = (text, rest) := by
  unfold adjacentStrings
  split
  next => exact absurd clear (not_clear_cons (Nat.lt_succ_self 9))
  next => rfl

theorem reads_literal {value : Value} (printable : Printable (.literal value))
    (spells : Spells pre (Expr.literal value).bare) : Reads (expression fuel) 8 (.literal value) pre := by
  rw [Expr.bare] at spells
  cases printable with
  | null =>
    rw [literalTokens] at spells
    obtain ⟨position, behind, rfl, empty⟩ := spells.cons
    cases empty.nil
    exact reads_of_primary fun rest _ => rfl
  | bool b =>
    cases b with
    | true | false =>
      rw [literalTokens] at spells
      obtain ⟨position, behind, rfl, empty⟩ := spells.cons
      cases empty.nil
      exact reads_of_primary fun rest _ => rfl
  | int =>
    rw [literalTokens] at spells
    obtain ⟨position, behind, rfl, empty⟩ := spells.cons
    cases empty.nil
    exact reads_of_primary fun rest _ => rfl
  | str text =>
    rw [literalTokens] at spells
    obtain ⟨position, behind, rfl, empty⟩ := spells.cons
    cases empty.nil
    refine reads_of_primary fun rest clear => ?_
    rw [List.singleton_append, primary, adjacentStrings_of_clear clear]

theorem reads_list {items : List Expr} (readable : ∀ item ∈ items, Readable item)
    (spells : Spells pre (Expr.list items).bare) (room : pre.length ≤ fuel.length + 1) :
    Reads (expression fuel) 8 (.list items) pre := by
  rw [Expr.bare, Expr.bareItems_eq_map] at spells
  refine reads_of_bracketed spells room fun first middle last rest inside room => ?_
  rw [primary, items_read readable inside room (by decide), ok_bind]
  rfl

theorem reads_tuple {items : List Expr} (readable : ∀ item ∈ items, Readable item)
    (spells : Spells pre (Expr.tuple items).bare) (room : pre.length ≤ fuel.length + 1) :
    Reads (expression fuel) 8 (.tuple items) pre := by
  rw [Expr.bare, Expr.bareItems_eq_map] at spells
  refine reads_of_bracketed spells room fun first middle last rest inside room => ?_
  rw [primary]
  exact parenthesized_reads_tuple readable inside room last

theorem reads_dict {entries : List (Expr × Expr)} (keys : ∀ entry ∈ entries, Readable entry.1)
    (values : ∀ entry ∈ entries, Readable entry.2) (spells : Spells pre (Expr.dict entries).bare)
    (room : pre.length ≤ fuel.length + 1) : Reads (expression fuel) 8 (.dict entries) pre := by
  rw [Expr.bare] at spells
  refine reads_of_bracketed spells room fun first middle last rest inside room => ?_
  have enough : middle.length < (middle ++ ⟨.mark .rightBrace, last⟩ :: rest).length := by simp
  rw [primary, dictEntries_reads keys values inside room enough, ok_bind]
  rfl

theorem reads_attribute {value : Expr} {name : String} (base : Readable value)
    (spells : Spells pre (Expr.attribute value name).bare) (room : pre.length ≤ fuel.length + 1) :
    Reads (expression fuel) 8 (.attribute value name) pre := by
  rw [Expr.bare] at spells
  obtain ⟨front, back, rfl, spellsBase, spellsRest⟩ := spells.append
  obtain ⟨dot, behind, rfl, spellsName⟩ := spellsRest.cons
  obtain ⟨position, none, rfl, empty⟩ := spellsName.cons
  cases empty.nil
  rw [List.length_append] at room
  have reads : Reads (expression fuel) 8 value front :=
    base.reads (Nat.le_refl 8) spellsBase (by omega)
  exact reads.trailer (by simp) (fun _ => clear_cons (Nat.le_refl 9)) fun _ => rfl

theorem reads_call {function : Expr} {arguments : List Expr} (base : Readable function)
    (readable : ∀ argument ∈ arguments, Readable argument)
    (spells : Spells pre (Expr.call function arguments).bare) (room : pre.length ≤ fuel.length + 1) :
    Reads (expression fuel) 8 (.call function arguments) pre := by
  rw [Expr.bare, Expr.bareItems_eq_map] at spells
  refine reads_of_brackets_behind base spells room (by decide) fun first middle last rest inside room => ?_
  rw [trailer?, items_read readable inside room (by decide), ok_bind]
  rfl

theorem reads_index {value index : Expr} (base : Readable value) (inner : Readable index)
    (spells : Spells pre (Expr.index value index).bare) (room : pre.length ≤ fuel.length + 1) :
    Reads (expression fuel) 8 (.index value index) pre := by
  rw [Expr.bare] at spells
  refine reads_of_brackets_behind base spells room (by decide) fun first middle last rest inside room => ?_
  rw [trailer?, subscript_reads_index value inner inside room last]

theorem reads_slice {value : Expr} {lower upper : Option Expr} (base : Readable value)
    (low : ∀ bound ∈ lower, Readable bound) (high : ∀ bound ∈ upper, Readable bound)
    (spells : Spells pre (Expr.slice value lower upper).bare) (room : pre.length ≤ fuel.length + 1) :
    Reads (expression fuel) 8 (.slice value lower upper) pre := by
  rw [Expr.bare] at spells
  refine reads_of_brackets_behind base spells room (by decide) fun first middle last rest inside room => ?_
  rw [trailer?, subscript_reads_slice value low high inside room last]

theorem reads_binary {op : BinaryOp} {left right : Expr} (first : Readable left) (second : Readable right)
    (spells : Spells pre (Expr.binary op left right).bare) (room : pre.length ≤ fuel.length + 1) :
    Reads (expression fuel) op.level (.binary op left right) pre := by
  rw [Expr.bare] at spells
  cases op <;> exact reads_infix first second spells room (by decide) rfl rfl (by decide) fun _ _ => rfl

theorem reads_and {left right : Expr} (first : Readable left) (second : Readable right)
    (spells : Spells pre (Expr.and left right).bare) (room : pre.length ≤ fuel.length + 1) :
    Reads (expression fuel) 2 (.and left right) pre := by
  rw [Expr.bare] at spells
  exact reads_infix first second spells room (by decide) rfl rfl (by decide) fun _ _ => rfl

theorem reads_or {left right : Expr} (first : Readable left) (second : Readable right)
    (spells : Spells pre (Expr.or left right).bare) (room : pre.length ≤ fuel.length + 1) :
    Reads (expression fuel) 1 (.or left right) pre := by
  rw [Expr.bare] at spells
  exact reads_infix first second spells room (by decide) rfl rfl (by decide) fun _ _ => rfl

theorem reads_compare {first : Expr} {links : List (CompareOp × Expr)} (head : Readable first)
    (any : links ≠ []) (readable : ∀ link ∈ links, Readable link.2)
    (spells : Spells pre (Expr.compare first links).bare) (room : pre.length ≤ fuel.length + 1) :
    Reads (expression fuel) 4 (.compare first links) pre := by
  rw [Expr.bare] at spells
  obtain ⟨front, back, rfl, spellsFirst, spellsLinks⟩ := spells.append
  rw [List.length_append] at room
  intro rest clear
  refine ⟨rest, Nat.le_refl _, ?_⟩
  have room' : back.length ≤ fuel.length + 1 := by omega
  have enough : back.length ≤ (back ++ rest).length := by simp
  obtain ⟨readLinks, clearLinks⟩ := comparisonTail_reads readable spellsLinks room' clear enough
  have reads : Reads (expression fuel) 5 first front := head.reads (by decide) spellsFirst (by omega)
  have read : sum (expression fuel) (front ++ (back ++ rest)) = .ok (first, back ++ rest) :=
    reads.whole clearLinks
  have some : links.isEmpty = false := by simpa using any
  rw [levelParser, comparison, List.append_assoc, read, ok_bind]
  simp only [readLinks, ok_bind, some]
  rfl

theorem reads_conditional {condition then_ otherwise : Expr} (test : Readable condition)
    (first : Readable then_) (second : Readable otherwise)
    (spells : Spells pre (Expr.conditional condition then_ otherwise).bare)
    (room : pre.length ≤ fuel.length + 1) :
    Reads (expression fuel) 0 (.conditional condition then_ otherwise) pre := by
  rw [Expr.bare] at spells
  obtain ⟨front, behind, rfl, spellsFirst, spellsIf⟩ := spells.append
  obtain ⟨ifPosition, behind, rfl, spellsRest⟩ := spellsIf.cons
  obtain ⟨middle, behind, rfl, spellsTest, spellsElse⟩ := spellsRest.append
  obtain ⟨elsePosition, back, rfl, spellsSecond⟩ := spellsElse.cons
  simp only [List.length_append, List.length_cons] at room
  intro rest clear
  refine ⟨rest, Nat.le_refl _, ?_⟩
  have readsFirst : Reads (expression fuel) 1 then_ front := first.reads (by decide) spellsFirst (by omega)
  have readsTest : Reads (expression fuel) 1 condition middle :=
    test.reads (by decide) spellsTest (by omega)
  have readFirst (rest : Tokens) : disjunction (expression fuel) (front ++ ⟨.name "if", ifPosition⟩ :: rest) =
      .ok (then_, ⟨.name "if", ifPosition⟩ :: rest) := readsFirst.whole (clear_cons (by decide))
  have readTest (rest : Tokens) :
      disjunction (expression fuel) (middle ++ ⟨.name "else", elsePosition⟩ :: rest) =
        .ok (condition, ⟨.name "else", elsePosition⟩ :: rest) := readsTest.whole (clear_cons (by decide))
  have readSecond : expression fuel (back ++ rest) = .ok (otherwise, rest) :=
    second.nested spellsSecond (by omega) clear
  have isIf (rest : Tokens) : behindWord? "if" (⟨.name "if", ifPosition⟩ :: rest) = some rest := rfl
  have isElse (rest : Tokens) : behindWord? "else" (⟨.name "else", elsePosition⟩ :: rest) = some rest := rfl
  simp only [levelParser, conditional, List.append_assoc, List.cons_append, readFirst, ok_bind, isIf,
    readTest, isElse, readSecond]
  rfl

end Cases

theorem Printable.readable {e : Expr} (printable : Printable e) : Readable e := by
  induction printable with
  | null => exact ⟨Printable.leads .null, fun _ _ spells _ => reads_literal .null spells⟩
  | bool b => exact ⟨Printable.leads (.bool b), fun _ _ spells _ => reads_literal (.bool b) spells⟩
  | int natural =>
    exact ⟨Printable.leads (.int natural), fun _ _ spells _ => reads_literal (.int natural) spells⟩
  | str text => exact ⟨Printable.leads (.str text), fun _ _ spells _ => reads_literal (.str text) spells⟩
  | name identifier =>
    exact ⟨Printable.leads (.name identifier), fun _ _ spells _ => reads_name identifier spells⟩
  | list all ih => exact ⟨Printable.leads (.list all), fun _ _ => reads_list ih⟩
  | tuple all ih => exact ⟨Printable.leads (.tuple all), fun _ _ => reads_tuple ih⟩
  | dict keys values ihKeys ihValues =>
    exact ⟨Printable.leads (.dict keys values), fun _ _ => reads_dict ihKeys ihValues⟩
  | member base word ih => exact ⟨Printable.leads (.member base word), fun _ _ => reads_attribute ih⟩
  | index base inner ihBase ihInner =>
    exact ⟨Printable.leads (.index base inner), fun _ _ => reads_index ihBase ihInner⟩
  | slice base low high ihBase ihLow ihHigh =>
    exact ⟨Printable.leads (.slice base low high), fun _ _ => reads_slice ihBase ihLow ihHigh⟩
  | call base all ihBase ihAll =>
    exact ⟨Printable.leads (.call base all), fun _ _ => reads_call ihBase ihAll⟩
  | unary op inner ih =>
    refine ⟨Printable.leads (.unary op inner), fun fuel pre spells room => ?_⟩
    rw [Expr.bare] at spells
    obtain ⟨position, behind, rfl, spellsValue⟩ := spells.cons
    exact reads_unary op (ih.reads (by decide) spellsValue (Nat.le_of_succ_le room)) position
  | binary op first second ihFirst ihSecond =>
    exact ⟨Printable.leads (.binary op first second), fun _ _ => reads_binary ihFirst ihSecond⟩
  | not inner ih =>
    refine ⟨Printable.leads (.not inner), fun fuel pre spells room => ?_⟩
    rw [Expr.bare] at spells
    obtain ⟨position, behind, rfl, spellsValue⟩ := spells.cons
    exact reads_not (ih.reads (by decide) spellsValue (Nat.le_of_succ_le room)) position
  | and first second ihFirst ihSecond =>
    exact ⟨Printable.leads (.and first second), fun _ _ => reads_and ihFirst ihSecond⟩
  | or first second ihFirst ihSecond =>
    exact ⟨Printable.leads (.or first second), fun _ _ => reads_or ihFirst ihSecond⟩
  | compare head any links ihHead ihLinks =>
    exact ⟨Printable.leads (.compare head any links), fun _ _ => reads_compare ihHead any ihLinks⟩
  | conditional test first second ihTest ihFirst ihSecond =>
    exact ⟨Printable.leads (.conditional test first second),
      fun _ _ => reads_conditional ihTest ihFirst ihSecond⟩

def AllPlain (tokens : List Token) : Prop := ∀ token ∈ tokens, token.Plain

theorem AllPlain.append {front back : List Token} (first : AllPlain front) (second : AllPlain back) :
    AllPlain (front ++ back) := List.forall_mem_append.mpr ⟨first, second⟩

theorem AllPlain.cons {token : Token} {rest : List Token} (first : token.Plain) (second : AllPlain rest) :
    AllPlain (token :: rest) := List.forall_mem_cons.mpr ⟨first, second⟩

theorem plain_word {word : String} (ascii : isAsciiWord word = true) : (Token.name word).Plain := ascii

theorem allPlain_nil : AllPlain [] := List.forall_mem_nil _

theorem allPlain_single {token : Token} (plain : token.Plain) : AllPlain [token] :=
  .cons plain allPlain_nil

theorem AllPlain.bracketed {inner : List Token} (plain : AllPlain inner) (opening closing : Mark) :
    AllPlain (bracketed opening closing inner) := .cons trivial (plain.append (allPlain_single trivial))

theorem AllPlain.enclosed {bare : List Token} (plain : AllPlain bare) (level place : Nat) :
    AllPlain (enclosed level place bare) := by
  unfold Stencil.enclosed
  split
  · exact plain.bracketed _ _
  · exact plain

theorem allPlain_commaSeparated {parts : List (List Token)} (plain : ∀ part ∈ parts, AllPlain part) :
    AllPlain (commaSeparated parts) := by
  induction parts with
  | nil => exact allPlain_nil
  | cons part parts ih =>
    have first := plain part List.mem_cons_self
    cases parts with
    | nil =>
      rw [commaSeparated_singleton]
      exact first
    | cons second parts =>
      rw [commaSeparated_cons_cons]
      exact first.append (.cons trivial (ih fun other member => plain other (List.mem_cons_of_mem _ member)))

theorem allPlain_items {items : List Expr} (plain : ∀ item ∈ items, AllPlain item.bare) :
    ∀ part ∈ Expr.bareItems items, AllPlain part := by
  rw [Expr.bareItems_eq_map]
  exact List.forall_mem_map.mpr plain

theorem allPlain_tupleTokens {parts : List (List Token)} (plain : ∀ part ∈ parts, AllPlain part) :
    AllPlain (tupleTokens parts) := by
  unfold tupleTokens
  split
  next item => exact (plain item List.mem_cons_self).append (allPlain_single trivial)
  next => exact allPlain_commaSeparated plain

theorem allPlain_entries {entries : List (Expr × Expr)} (keys : ∀ entry ∈ entries, AllPlain entry.1.bare)
    (values : ∀ entry ∈ entries, AllPlain entry.2.bare) : ∀ part ∈ Expr.bareEntries entries, AllPlain part := by
  rw [Expr.bareEntries_eq_map]
  exact List.forall_mem_map.mpr fun entry member =>
    (keys entry member).append (.cons trivial (values entry member))

theorem allPlain_bound {bound : Option Expr} (plain : ∀ e ∈ bound, AllPlain e.bare) :
    AllPlain (Expr.bareBound bound) := by
  cases bound with
  | none =>
    rw [Expr.bareBound]
    exact allPlain_nil
  | some e =>
    rw [Expr.bareBound]
    exact plain e rfl

theorem allPlain_links {links : List (CompareOp × Expr)} (plain : ∀ link ∈ links, AllPlain link.2.bare) :
    AllPlain (Expr.bareLinks links) := by
  induction links with
  | nil =>
    rw [Expr.bareLinks]
    exact allPlain_nil
  | cons link links ih =>
    obtain ⟨op, right⟩ := link
    rw [Expr.bareLinks]
    have sign : AllPlain op.tokens := by
      cases op with
      | isIn | is => exact allPlain_single (plain_word (by decide))
      | notIn | isNot => exact .cons (plain_word (by decide)) (allPlain_single (plain_word (by decide)))
      | _ => exact allPlain_single trivial
    have operand : AllPlain right.bare := plain (op, right) List.mem_cons_self
    exact (sign.append (operand.enclosed _ _)).append
      (ih fun other member => plain other (List.mem_cons_of_mem _ member))

theorem isAsciiWord_of_isIdentifier {name : String} (identifier : isIdentifier name = true) :
    isAsciiWord name = true := by
  unfold isIdentifier at identifier
  unfold isAsciiWord
  cases letters : name.toList with
  | nil => simp [letters] at identifier
  | cons c rest =>
    rw [letters] at identifier
    exact (Bool.and_eq_true_iff.mp identifier).1

theorem Printable.plain {e : Expr} (printable : Printable e) : AllPlain e.bare := by
  induction printable with
  | null =>
    rw [Expr.bare]
    exact allPlain_single (plain_word (by decide))
  | bool b =>
    rw [Expr.bare]
    cases b <;> exact allPlain_single (plain_word (by decide))
  | int natural =>
    rw [Expr.bare]
    exact allPlain_single natural
  | str =>
    rw [Expr.bare]
    exact allPlain_single trivial
  | name identifier =>
    rw [Expr.bare]
    exact allPlain_single (isAsciiWord_of_isIdentifier identifier)
  | list _ ih =>
    rw [Expr.bare]
    exact (allPlain_commaSeparated (allPlain_items ih)).bracketed _ _
  | tuple _ ih =>
    rw [Expr.bare]
    exact (allPlain_tupleTokens (allPlain_items ih)).bracketed _ _
  | dict _ _ ihKeys ihValues =>
    rw [Expr.bare]
    exact (allPlain_commaSeparated (allPlain_entries ihKeys ihValues)).bracketed _ _
  | member _ word ih =>
    rw [Expr.bare]
    exact (ih.enclosed _ _).append (.cons trivial (allPlain_single word))
  | index _ _ ihBase ihInner =>
    rw [Expr.bare]
    exact (ihBase.enclosed _ _).append (ihInner.bracketed _ _)
  | slice _ _ _ ihBase ihLow ihHigh =>
    rw [Expr.bare]
    refine (ihBase.enclosed _ _).append (AllPlain.bracketed ?_ _ _)
    exact (allPlain_bound ihLow).append (.cons trivial (allPlain_bound ihHigh))
  | call _ _ ihBase ihAll =>
    rw [Expr.bare]
    exact (ihBase.enclosed _ _).append ((allPlain_commaSeparated (allPlain_items ihAll)).bracketed _ _)
  | unary _ _ ih =>
    rw [Expr.bare]
    exact .cons trivial (ih.enclosed _ _)
  | binary _ _ _ ihFirst ihSecond =>
    rw [Expr.bare]
    exact (ihFirst.enclosed _ _).append (.cons trivial (ihSecond.enclosed _ _))
  | not _ ih =>
    rw [Expr.bare]
    exact .cons (plain_word (by decide)) (ih.enclosed _ _)
  | and _ _ ihFirst ihSecond | or _ _ ihFirst ihSecond =>
    rw [Expr.bare]
    exact (ihFirst.enclosed _ _).append (.cons (plain_word (by decide)) (ihSecond.enclosed _ _))
  | compare _ _ _ ihHead ihLinks =>
    rw [Expr.bare]
    exact (ihHead.enclosed _ _).append (allPlain_links ihLinks)
  | conditional _ _ _ ihTest ihFirst ihSecond =>
    rw [Expr.bare]
    refine (ihFirst.enclosed _ _).append (.cons (plain_word (by decide)) ?_)
    exact (ihTest.enclosed _ _).append (.cons (plain_word (by decide)) ihSecond)

/-- A text with the tokens of an expression is parsed as that expression. -/
theorem parseExpression_of_spells {e : Expr} (printable : Printable e) {text : List Char} {read : Tokens}
    (lexed : tokens false text = .ok read) (spells : Spells read e.bare) : parseExpression text = .ok e := by
  obtain ⟨t, others, bare, _⟩ := printable.leads
  cases read with
  | nil =>
    rw [bare] at spells
    cases spells
  | cons first rest =>
    have whole : levelParser (expression rest) 0 (first :: rest ++ []) = .ok (e, []) :=
      (printable.readable.below (Nat.zero_le _) spells (Nat.le_refl _)).whole (clear_nil 0)
    rw [List.append_nil] at whole
    have list : parseList (first :: rest) = .ok (e, []) := expressionList_of_nested whole rfl
    simp only [parseExpression, parseWith, lexed, ok_bind, list]
    rfl

/-- Printing an expression and parsing the text gives the expression back. -/
theorem parseExpression_print {e : Expr} (printable : Printable e) : parseExpression e.print = .ok e := by
  have plain : AllPlain (e.tokens 0) := e.tokens_zero ▸ printable.plain
  obtain ⟨read, lexed, spells⟩ := tokensFrom_spaced plain 0 0
  rw [Expr.tokens_zero] at spells
  exact parseExpression_of_spells printable lexed spells

example : (Expr.binary .subtract (.tuple [.name "a"]) (.binary .subtract (.name "b") (.name "c"))).print =
    "( a , ) - ( b - c )".toList := by decide

end Stencil
