import Stencil.Proofs.Expr.Failure
import Stencil.Proofs.Expr.RoundTrip

/-! Nothing but printable expressions is parsed from tokens without floating point literals. Main statement:
`parseExpression_inverts_print`. -/
namespace Stencil

def PlainTokens (tokens : Tokens) : Prop := ∀ t ∈ tokens, t.token.Plain

theorem PlainTokens.of_suffix {tokens rest : Tokens} (plain : PlainTokens tokens) (ends : rest <:+ tokens) :
    PlainTokens rest := fun t member => plain t (ends.mem member)

theorem PlainTokens.tail {t : Spanned} {rest : Tokens} (plain : PlainTokens (t :: rest)) : PlainTokens rest :=
  plain.of_suffix (List.suffix_cons t rest)

/-- What a parser takes from plain tokens has the property, and leaves plain tokens. -/
def Yields {α : Type} (p : Parser α) (good : α → Prop) : Prop :=
  ∀ tokens a rest, PlainTokens tokens → p tokens = .ok (a, rest) → good a ∧ PlainTokens rest

theorem Yields.bind {α β : Type} {p : Parser α} {good : α → Prop} (yields : Yields p good) {tokens : Tokens}
    (plain : PlainTokens tokens) {next : α × Tokens → Except Failure β} {b : β}
    (ok : (p tokens >>= next) = .ok b) : ∃ a rest, good a ∧ PlainTokens rest ∧ next (a, rest) = .ok b := by
  obtain ⟨⟨a, rest⟩, read, ok⟩ := bind_eq_ok ok
  obtain ⟨holds, plain⟩ := yields tokens a rest plain read
  exact ⟨a, rest, holds, plain, ok⟩

theorem PlainTokens.behindMark {mark : Mark} {tokens rest : Tokens} (plain : PlainTokens tokens)
    (found : behindMark? mark tokens = some rest) : PlainTokens rest :=
  plain.of_suffix (behindMark?_suffix found)

theorem PlainTokens.behindWord {word : String} {tokens rest : Tokens} (plain : PlainTokens tokens)
    (found : behindWord? word tokens = some rest) : PlainTokens rest :=
  plain.of_suffix (behindWord?_suffix found)

theorem PlainTokens.expectMark {β : Type} {mark : Mark} {wanted : Wanted} {tokens : Tokens}
    (plain : PlainTokens tokens) {next : Tokens → Except Failure β} {b : β}
    (ok : (expectMark mark wanted tokens >>= next) = .ok b) :
    ∃ rest, PlainTokens rest ∧ next rest = .ok b := by
  obtain ⟨rest, read, ok⟩ := bind_eq_ok ok
  rw [Stencil.expectMark] at read
  split at read
  next _ found =>
    cases read
    exact ⟨_, plain.behindMark found, ok⟩
  next => cases read

def Combines (operator? : Tokens → Option ((Expr → Expr → Expr) × Tokens)) : Prop :=
  ∀ tokens combine rest, PlainTokens tokens → operator? tokens = some (combine, rest) →
    (∀ left right, Printable left → Printable right → Printable (combine left right)) ∧ PlainTokens rest

section Chains
variable {operand : Parser Expr} {operator? : Tokens → Option ((Expr → Expr → Expr) × Tokens)}

theorem leftChain_yields (operands : Yields operand Printable) (operators : Combines operator?)
    (fuel : Tokens) {left : Expr} (printable : Printable left) :
    Yields (leftChain operand operator? fuel left) Printable := by
  induction fuel generalizing left with
  | nil =>
    intro tokens e rest plain ok
    cases ok
    exact ⟨printable, plain⟩
  | cons t fuel ih =>
    intro tokens e rest plain ok
    rw [leftChain] at ok
    split at ok
    next =>
      cases ok
      exact ⟨printable, plain⟩
    next combine behind found =>
      obtain ⟨combines, plain⟩ := operators tokens combine behind plain found
      obtain ⟨right, behind, printableRight, plain, ok⟩ := operands.bind plain ok
      exact ih (combines left right printable printableRight) behind e rest plain ok

theorem chained_yields (operands : Yields operand Printable) (operators : Combines operator?) :
    Yields (chained operand operator?) Printable := by
  intro tokens e rest plain ok
  obtain ⟨left, behind, printable, plain, ok⟩ := operands.bind plain ok
  exact leftChain_yields operands operators behind printable behind e rest plain ok

end Chains

theorem wordOperator?_combines (word : String) {combine : Expr → Expr → Expr}
    (combines : ∀ left right, Printable left → Printable right → Printable (combine left right)) :
    Combines (wordOperator? word combine) := by
  intro tokens found rest plain applies
  obtain ⟨behind, isWord, same⟩ := Option.map_eq_some_iff.mp applies
  cases same
  exact ⟨combines, plain.behindWord isWord⟩

theorem sumOperator?_combines : Combines sumOperator? := by
  intro tokens combine rest plain applies
  unfold sumOperator? at applies
  split at applies
  next => cases applies; exact ⟨fun _ _ => .binary .add, plain.tail⟩
  next => cases applies; exact ⟨fun _ _ => .binary .subtract, plain.tail⟩
  next => cases applies

theorem productOperator?_combines : Combines productOperator? := by
  intro tokens combine rest plain applies
  unfold productOperator? at applies
  split at applies
  next => cases applies; exact ⟨fun _ _ => .binary .multiply, plain.tail⟩
  next => cases applies; exact ⟨fun _ _ => .binary .divide, plain.tail⟩
  next => cases applies; exact ⟨fun _ _ => .binary .floorDivide, plain.tail⟩
  next => cases applies; exact ⟨fun _ _ => .binary .remainder, plain.tail⟩
  next => cases applies

section Levels
variable {nested : Parser Expr}

theorem sequence_yields {α : Type} {item : Parser α} {good : α → Prop} (items : Yields item good)
    (close : Mark) (wanted : Wanted) (fuel : Tokens) :
    Yields (sequence item close wanted fuel) fun list => ∀ a ∈ list, good a := by
  induction fuel with
  | nil =>
    intro tokens list rest plain ok
    cases ok
  | cons t fuel ih =>
    intro tokens list rest plain ok
    rw [sequence] at ok
    split at ok
    next behind found =>
      cases ok
      exact ⟨List.forall_mem_nil _, plain.behindMark found⟩
    next =>
      obtain ⟨first, behind, holds, plain, ok⟩ := items.bind plain ok
      dsimp only at ok
      split at ok
      next =>
        obtain ⟨last, plain, ok⟩ := plain.expectMark ok
        cases ok
        exact ⟨List.forall_mem_singleton.mpr holds, plain⟩
      next last found =>
        obtain ⟨others, _, later, plain, ok⟩ := Yields.bind ih (plain.behindMark found) ok
        cases ok
        exact ⟨List.forall_mem_cons.mpr ⟨holds, later⟩, plain⟩

theorem dictEntries_yields (nests : Yields nested Printable) (fuel : Tokens) :
    Yields (dictEntries nested fuel) fun entries =>
      (∀ entry ∈ entries, Printable entry.1) ∧ ∀ entry ∈ entries, Printable entry.2 := by
  induction fuel with
  | nil =>
    intro tokens entries rest plain ok
    cases ok
  | cons t fuel ih =>
    intro tokens entries rest plain ok
    rw [dictEntries] at ok
    split at ok
    next behind found =>
      cases ok
      exact ⟨⟨List.forall_mem_nil _, List.forall_mem_nil _⟩, plain.behindMark found⟩
    next =>
      obtain ⟨key, behind, first, plain, ok⟩ := nests.bind plain ok
      obtain ⟨behind, plain, ok⟩ := plain.expectMark ok
      obtain ⟨value, behind, second, plain, ok⟩ := nests.bind plain ok
      dsimp only at ok
      split at ok
      next =>
        obtain ⟨last, plain, ok⟩ := plain.expectMark ok
        cases ok
        exact ⟨⟨List.forall_mem_singleton.mpr first, List.forall_mem_singleton.mpr second⟩, plain⟩
      next last found =>
        obtain ⟨others, _, ⟨keys, values⟩, plain, ok⟩ := Yields.bind ih (plain.behindMark found) ok
        cases ok
        exact ⟨⟨List.forall_mem_cons.mpr ⟨first, keys⟩, List.forall_mem_cons.mpr ⟨second, values⟩⟩, plain⟩

theorem listTail_yields (nests : Yields nested Printable) (fuel : Tokens) :
    Yields (listTail nested fuel) fun items => ∀ item ∈ items, Printable item := by
  induction fuel with
  | nil =>
    intro tokens items rest plain ok
    cases ok
    exact ⟨List.forall_mem_nil _, plain⟩
  | cons t fuel ih =>
    intro tokens items rest plain ok
    rw [listTail] at ok
    split at ok
    next =>
      cases ok
      exact ⟨List.forall_mem_nil _, plain⟩
    next behind found =>
      split at ok
      next =>
        obtain ⟨item, behind, first, plain, ok⟩ := nests.bind (plain.behindMark found) ok
        obtain ⟨others, _, later, plain, ok⟩ := Yields.bind ih plain ok
        cases ok
        exact ⟨List.forall_mem_cons.mpr ⟨first, later⟩, plain⟩
      next =>
        cases ok
        exact ⟨List.forall_mem_nil _, plain.behindMark found⟩

theorem expressionList_yields (nests : Yields nested Printable) :
    Yields (expressionList nested) Printable := by
  intro tokens e rest plain ok
  obtain ⟨first, behind, printable, plain, ok⟩ := nests.bind plain ok
  dsimp only at ok
  split at ok
  next =>
    cases ok
    exact ⟨printable, plain⟩
  next =>
    obtain ⟨others, _, later, plain, ok⟩ := (listTail_yields nests behind).bind plain ok
    cases ok
    exact ⟨.tuple (List.forall_mem_cons.mpr ⟨printable, later⟩), plain⟩

theorem parenthesized_yields (nests : Yields nested Printable) : Yields (parenthesized nested) Printable := by
  intro tokens e rest plain ok
  rw [parenthesized] at ok
  split at ok
  next behind found =>
    cases ok
    exact ⟨.tuple (List.forall_mem_nil _), plain.behindMark found⟩
  next =>
    obtain ⟨first, behind, printable, plain, ok⟩ := nests.bind plain ok
    dsimp only at ok
    split at ok
    next last found =>
      cases ok
      exact ⟨printable, plain.behindMark found⟩
    next =>
      obtain ⟨behind, plain, ok⟩ := plain.expectMark ok
      obtain ⟨others, _, later, plain, ok⟩ := (sequence_yields nests _ _ behind).bind plain ok
      cases ok
      exact ⟨.tuple (List.forall_mem_cons.mpr ⟨printable, later⟩), plain⟩

theorem isIdentifier_of_isAsciiWord {name : String} (word : isAsciiWord name = true)
    (free : isKeyword name = false) : isIdentifier name = true := by
  unfold isAsciiWord at word
  unfold isIdentifier
  cases letters : name.toList with
  | nil => simp [letters] at word
  | cons c rest =>
    rw [letters] at word
    simp only [free, Bool.not_false, Bool.and_true]
    exact word

theorem primary_yields (nests : Yields nested Printable) : Yields (primary nested) Printable := by
  intro tokens e rest plain ok
  unfold primary at ok
  split at ok
  next n _ behind =>
    cases ok
    exact ⟨.int (plain _ List.mem_cons_self), plain.tail⟩
  next x _ behind => exact absurd (plain _ List.mem_cons_self) id
  next text _ behind =>
    cases ok
    exact ⟨.str _, plain.tail.of_suffix (adjacentStrings_suffix text behind)⟩
  next name _ behind =>
    split at ok
    · cases ok
      exact ⟨.bool true, plain.tail⟩
    split at ok
    · cases ok
      exact ⟨.bool false, plain.tail⟩
    split at ok
    · cases ok
      exact ⟨.null, plain.tail⟩
    split at ok
    · cases ok
    next free =>
      cases ok
      have word : isAsciiWord name = true := plain _ List.mem_cons_self
      exact ⟨.name (isIdentifier_of_isAsciiWord word (by simpa using free)), plain.tail⟩
  next => exact parenthesized_yields nests _ e rest plain.tail ok
  next =>
    obtain ⟨items, _, all, plain, ok⟩ := (sequence_yields nests _ _ _).bind plain.tail ok
    cases ok
    exact ⟨.list all, plain⟩
  next =>
    obtain ⟨entries, _, ⟨keys, values⟩, plain, ok⟩ := (dictEntries_yields nests _).bind plain.tail ok
    cases ok
    exact ⟨.dict keys values, plain⟩
  next => cases ok

theorem sliceUpper_yields (nests : Yields nested Printable) {value : Expr} (base : Printable value)
    {lower : Option Expr} (low : ∀ bound ∈ lower, Printable bound) :
    Yields (sliceUpper nested value lower) Printable := by
  intro tokens e rest plain ok
  rw [sliceUpper] at ok
  split at ok
  next behind found =>
    cases ok
    refine ⟨.slice base low ?_, plain.behindMark found⟩
    rintro _ ⟨⟩
  next =>
    obtain ⟨upper, behind, printable, plain, ok⟩ := nests.bind plain ok
    obtain ⟨behind, plain, ok⟩ := plain.expectMark ok
    cases ok
    refine ⟨.slice base low ?_, plain⟩
    rintro _ ⟨⟩
    exact printable

theorem subscript_yields (nests : Yields nested Printable) {value : Expr} (base : Printable value) :
    Yields (subscript nested value) Printable := by
  intro tokens e rest plain ok
  rw [subscript] at ok
  split at ok
  next behind found =>
    refine sliceUpper_yields nests base ?_ behind e rest (plain.behindMark found) ok
    rintro _ ⟨⟩
  next =>
    obtain ⟨lower, behind, printable, plain, ok⟩ := (expressionList_yields nests).bind plain ok
    dsimp only at ok
    split at ok
    next last found =>
      refine sliceUpper_yields nests base ?_ last e rest (plain.behindMark found) ok
      rintro _ ⟨⟩
      exact printable
    next =>
      obtain ⟨behind, plain, ok⟩ := plain.expectMark ok
      cases ok
      exact ⟨.index base printable, plain⟩

theorem attributeName_yields : Yields attributeName fun name => isAsciiWord name = true := by
  intro tokens name rest plain ok
  unfold attributeName at ok
  split at ok
  next =>
    cases ok
    exact ⟨plain _ List.mem_cons_self, plain.tail⟩
  next => cases ok

theorem trailer?_yields (nests : Yields nested Printable) {value : Expr} (base : Printable value)
    {tokens : Tokens} (plain : PlainTokens tokens) {step : Except Failure (Expr × Tokens)}
    (found : trailer? nested value tokens = some step) {e : Expr} {rest : Tokens}
    (ok : step = .ok (e, rest)) : Printable e ∧ PlainTokens rest := by
  unfold trailer? at found
  split at found
  next =>
    cases found
    obtain ⟨name, _, word, plain, ok⟩ := attributeName_yields.bind plain.tail ok
    cases ok
    exact ⟨.member base word, plain⟩
  next =>
    cases found
    obtain ⟨arguments, _, all, plain, ok⟩ := (sequence_yields nests _ _ _).bind plain.tail ok
    cases ok
    exact ⟨.call base all, plain⟩
  next =>
    cases found
    exact subscript_yields nests base _ e rest plain.tail ok
  next => cases found

theorem trailers_yields (nests : Yields nested Printable) (fuel : Tokens) {value : Expr}
    (base : Printable value) : Yields (trailers nested fuel value) Printable := by
  induction fuel generalizing value with
  | nil =>
    intro tokens e rest plain ok
    cases ok
    exact ⟨base, plain⟩
  | cons t fuel ih =>
    intro tokens e rest plain ok
    rw [trailers] at ok
    split at ok
    next =>
      cases ok
      exact ⟨base, plain⟩
    next step found =>
      obtain ⟨⟨next, behind⟩, read, ok⟩ := bind_eq_ok ok
      obtain ⟨printable, plain⟩ := trailer?_yields nests base plain found read
      exact ih printable behind e rest plain ok

theorem operand_yields (nests : Yields nested Printable) : Yields (operand nested) Printable := by
  intro tokens e rest plain ok
  obtain ⟨value, behind, printable, plain, ok⟩ := (primary_yields nests).bind plain ok
  exact trailers_yields nests behind printable behind e rest plain ok

theorem unary_yields (nests : Yields nested Printable) : Yields (unary nested) Printable := by
  intro tokens
  induction tokens with
  | nil => exact operand_yields nests []
  | cons t others ih =>
    intro e rest plain ok
    rw [unary] at ok
    split at ok
    next =>
      obtain ⟨⟨value, behind⟩, read, ok⟩ := bind_eq_ok ok
      obtain ⟨printable, plain⟩ := ih value behind plain.tail read
      cases ok
      exact ⟨.unary .negate printable, plain⟩
    next =>
      obtain ⟨⟨value, behind⟩, read, ok⟩ := bind_eq_ok ok
      obtain ⟨printable, plain⟩ := ih value behind plain.tail read
      cases ok
      exact ⟨.unary .plus printable, plain⟩
    next => exact operand_yields nests (t :: others) e rest plain ok

theorem sum_yields (nests : Yields nested Printable) : Yields (sum nested) Printable := by
  have products : Yields (product nested) Printable :=
    chained_yields (unary_yields nests) productOperator?_combines
  exact chained_yields products sumOperator?_combines

theorem comparisonTail_yields (nests : Yields nested Printable) (fuel : Tokens) :
    Yields (comparisonTail nested fuel) fun links => ∀ link ∈ links, Printable link.2 := by
  induction fuel with
  | nil =>
    intro tokens links rest plain ok
    cases ok
    exact ⟨List.forall_mem_nil _, plain⟩
  | cons t fuel ih =>
    intro tokens links rest plain ok
    rw [comparisonTail] at ok
    split at ok
    next =>
      cases ok
      exact ⟨List.forall_mem_nil _, plain⟩
    next op behind found =>
      obtain ⟨right, behind, printable, plain, ok⟩ :=
        (sum_yields nests).bind (plain.of_suffix (compareOperator?_suffix found)) ok
      obtain ⟨others, _, later, plain, ok⟩ := Yields.bind ih plain ok
      cases ok
      exact ⟨List.forall_mem_cons.mpr ⟨printable, later⟩, plain⟩

theorem comparison_yields (nests : Yields nested Printable) : Yields (comparison nested) Printable := by
  intro tokens e rest plain ok
  obtain ⟨first, behind, printable, plain, ok⟩ := (sum_yields nests).bind plain ok
  obtain ⟨links, _, later, plain, ok⟩ := (comparisonTail_yields nests behind).bind plain ok
  cases links with
  | nil =>
    cases ok
    exact ⟨printable, plain⟩
  | cons link links =>
    cases ok
    exact ⟨.compare printable (List.cons_ne_nil link links) later, plain⟩

theorem negation_yields (nests : Yields nested Printable) : Yields (negation nested) Printable := by
  intro tokens
  induction tokens with
  | nil => exact comparison_yields nests []
  | cons t others ih =>
    intro e rest plain ok
    rw [negation] at ok
    split at ok
    next =>
      obtain ⟨⟨value, behind⟩, read, ok⟩ := bind_eq_ok ok
      obtain ⟨printable, plain⟩ := ih value behind plain.tail read
      cases ok
      exact ⟨.not printable, plain⟩
    next => exact comparison_yields nests (t :: others) e rest plain ok

theorem disjunction_yields (nests : Yields nested Printable) : Yields (disjunction nested) Printable := by
  have conjunctions : Yields (conjunction nested) Printable :=
    chained_yields (negation_yields nests) (wordOperator?_combines "and" fun _ _ => .and)
  exact chained_yields conjunctions (wordOperator?_combines "or" fun _ _ => .or)

theorem conditional_yields (nests : Yields nested Printable) : Yields (conditional nested) Printable := by
  intro tokens e rest plain ok
  obtain ⟨value, behind, first, plain, ok⟩ := (disjunction_yields nests).bind plain ok
  dsimp only at ok
  split at ok
  next =>
    cases ok
    exact ⟨first, plain⟩
  next behind found =>
    obtain ⟨condition, behind, test, plain, ok⟩ := (disjunction_yields nests).bind (plain.behindWord found) ok
    dsimp only at ok
    split at ok
    next => cases ok
    next last found =>
      obtain ⟨otherwise, _, second, plain, ok⟩ := nests.bind (plain.behindWord found) ok
      cases ok
      exact ⟨.conditional test first second, plain⟩

end Levels

theorem expression_yields (fuel : Tokens) : Yields (expression fuel) Printable := by
  induction fuel with
  | nil =>
    intro tokens e rest plain ok
    cases ok
  | cons t fuel ih => exact conditional_yields ih

def Token.isFloat : Token → Bool
  | .float _ => true
  | _ => false

/-- Whether a floating point literal is among the tokens of an expression. -/
def hasFloat (source : List Char) : Bool :=
  match tokens false source with
  | .ok read => read.any (·.token.isFloat)
  | .error _ => false

theorem expectEnd_eq_ok {rest : Tokens} (ended : expectEnd rest = .ok ()) : rest = [] := by
  cases rest with
  | nil => rfl
  | cons t rest => cases ended

/-- An expression is read from all tokens of its source. -/
theorem parseExpression_tokens {source : List Char} {e : Expr} (parsed : parseExpression source = .ok e) :
    ∃ read, tokens false source = .ok read ∧ parseList read = .ok (e, []) := by
  unfold parseExpression parseWith at parsed
  obtain ⟨read, lexed, parsed⟩ := bind_eq_ok parsed
  dsimp only at parsed
  split at parsed
  next ok =>
    cases parsed
    obtain ⟨⟨value, rest⟩, listed, ok⟩ := bind_eq_ok ok
    obtain ⟨_, ended, same⟩ := bind_eq_ok ok
    cases same
    exact ⟨read, lexed, expectEnd_eq_ok ended ▸ listed⟩
  next => cases parsed

theorem parseExpression_printable {source : List Char} {e : Expr} (parsed : parseExpression source = .ok e)
    (noFloat : hasFloat source = false) : Printable e := by
  obtain ⟨read, lexed, listed⟩ := parseExpression_tokens parsed
  have plain : PlainTokens read := by
    refine tokens_plain lexed fun t member x float => ?_
    rw [hasFloat, lexed] at noFloat
    have clear := List.any_eq_false.mp noFloat t member
    rw [float] at clear
    exact clear rfl
  exact (expressionList_yields (expression_yields read) read _ [] plain listed).1

/-- Parsing inverts printing, and whatever is parsed from a source without floating point literals can be
printed, so that printing and parsing it again changes nothing. -/
theorem parseExpression_inverts_print :
    (∀ e, Printable e → parseExpression e.print = .ok e) ∧
      ∀ source e, parseExpression source = .ok e → hasFloat source = false →
        Printable e ∧ parseExpression e.print = .ok e := by
  refine ⟨fun e => parseExpression_print, fun source e parsed noFloat => ?_⟩
  have printable := parseExpression_printable parsed noFloat
  exact ⟨printable, parseExpression_print printable⟩

theorem parseExpression_inverts_print_of_conditional :
    (∃ e, Expr.print e = "( a - ( b - 1 ) if not b is not c else ( \"it's\" , ) ) . if".toList ∧
      Printable e ∧ parseExpression e.print = .ok e) ∧
    ∃ e, parseExpression "(a-(b-1)if not b is not c else('it\\'s',)).if".toList = .ok e ∧
      hasFloat "(a-(b-1)if not b is not c else('it\\'s',)).if".toList = false ∧
      Printable e ∧ parseExpression e.print = .ok e := by
  have a : Printable (.name "a") := .name (by decide)
  have b : Printable (.name "b") := .name (by decide)
  have c : Printable (.name "c") := .name (by decide)
  have one : Printable (.literal (.int 1)) := .int (by decide)
  have difference := Printable.binary .subtract a (.binary .subtract b one)
  have link : ∀ link ∈ [(CompareOp.isNot, Expr.name "c")], Printable link.2 :=
    List.forall_mem_singleton.mpr c
  have test := Printable.not (.compare b (List.cons_ne_nil _ _) link)
  have other := Printable.tuple (List.forall_mem_singleton.mpr (.str "it's"))
  have whole : Printable (.attribute _ "if") := .member (.conditional test difference other) (by decide)
  refine ⟨⟨_, by decide +kernel, whole, parseExpression_inverts_print.1 _ whole⟩, ?_⟩
  obtain ⟨accepted, noFloat⟩ :
      (parseExpression "(a-(b-1)if not b is not c else('it\\'s',)).if".toList).isOk = true ∧
        hasFloat "(a-(b-1)if not b is not c else('it\\'s',)).if".toList = false := by decide +kernel
  cases parsed : parseExpression "(a-(b-1)if not b is not c else('it\\'s',)).if".toList with
  | error fault =>
    rw [parsed] at accepted
    cases accepted
  | ok e => exact ⟨e, rfl, noFloat, parseExpression_inverts_print.2 _ e parsed noFloat⟩

end Stencil
