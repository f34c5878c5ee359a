import Stencil.Expr.Parser
import Stencil.Proofs.Outcome

/-! Where parsers stop. Main statements: what a parser leaves is an end of its tokens, and so is what stands where it
fails. -/
namespace Stencil

theorem behindMark?_suffix {mark : Mark} {tokens rest : Tokens} (found : behindMark? mark tokens = some rest) :
    rest <:+ tokens := by
  cases tokens with
  | nil => cases found
  | cons t others =>
    rw [behindMark?] at found
    split at found
    · cases found
      exact List.suffix_cons t _
    · cases found

theorem behindWord?_suffix {word : String} {tokens rest : Tokens} (found : behindWord? word tokens = some rest) :
    rest <:+ tokens := by
  cases tokens with
  | nil => cases found
  | cons t others =>
    rw [behindWord?] at found
    split at found
    · cases found
      exact List.suffix_cons t _
    · cases found

theorem wordOperator?_suffix {word : String} {combine found : Expr → Expr → Expr} {tokens rest : Tokens}
    (applies : wordOperator? word combine tokens = some (found, rest)) : rest <:+ tokens := by
  obtain ⟨behind, isWord, same⟩ := Option.map_eq_some_iff.mp applies
  cases same
  exact behindWord?_suffix isWord

theorem sumOperator?_suffix {combine : Expr → Expr → Expr} {tokens rest : Tokens}
    (applies : sumOperator? tokens = some (combine, rest)) : rest <:+ tokens := by
  unfold sumOperator? at applies
  split at applies
  case h_3 => cases applies
  all_goals
    cases applies
    exact List.suffix_cons _ _

theorem productOperator?_suffix {combine : Expr → Expr → Expr} {tokens rest : Tokens}
    (applies : productOperator? tokens = some (combine, rest)) : rest <:+ tokens := by
  unfold productOperator? at applies
  split at applies
  case h_5 => cases applies
  all_goals
    cases applies
    exact List.suffix_cons _ _

theorem assignOperator?_suffix {op : Option BinaryOp} {tokens rest : Tokens}
    (applies : assignOperator? tokens = some (op, rest)) : rest <:+ tokens := by
  unfold assignOperator? at applies
  split at applies
  case h_5 => cases applies
  all_goals
    cases applies
    exact List.suffix_cons _ _

theorem compareOperator?_suffix {op : CompareOp} {tokens rest : Tokens}
    (applies : compareOperator? tokens = some (op, rest)) : rest <:+ tokens := by
  unfold compareOperator? at applies
  split at applies
  case h_7 word _ behind =>
    split at applies
    · cases applies
      exact List.suffix_cons _ _
    · split at applies
      · split at applies
        next last isNot =>
          cases applies
          exact (behindWord?_suffix isNot).trans (List.suffix_cons _ _)
        next =>
          cases applies
          exact List.suffix_cons _ _
      · split at applies
        · obtain ⟨last, isIn, same⟩ := Option.map_eq_some_iff.mp applies
          cases same
          exact (behindWord?_suffix isIn).trans (List.suffix_cons _ _)
        · cases applies
  case h_8 => cases applies
  all_goals
    cases applies
    exact List.suffix_cons _ _

theorem adjacentStrings_suffix (text : String) (tokens : Tokens) : (adjacentStrings text tokens).2 <:+ tokens := by
  induction tokens generalizing text with
  | nil => exact List.suffix_rfl
  | cons t rest ih =>
    obtain ⟨token, position⟩ := t
    cases token with
    | str next => exact (ih (text ++ next)).trans (List.suffix_cons _ rest)
    | _ => exact List.suffix_rfl

section Stays
variable {α : Type} {all tokens : Tokens}

/-- The tokens that are left, or those where a failure came up, are an end of all tokens. -/
abbrev EndsIn (all : Tokens) (left : α → Tokens) : Except Failure α → Prop :=
  Upholds (fun found => left found <:+ all) (fun failure => failure.rest <:+ all)

/-- Whatever is given, a failure comes up at an end of all tokens. -/
abbrev FailsIn (all : Tokens) : Except Failure α → Prop := Upholds (fun _ => True) (fun failure => failure.rest <:+ all)

/-- A parser that starts at an end of the tokens stays inside them. The tokens are the same ones for every parser that
it calls, so that what one leaves is where the next one may start. -/
def Stays (all : Tokens) (parser : Parser α) : Prop :=
  ∀ tokens, tokens <:+ all → EndsIn all Prod.snd (parser tokens)

theorem suffix_of_cons {t : Spanned} (ends : t :: tokens <:+ all) : tokens <:+ all :=
  (List.suffix_cons t tokens).trans ends

theorem unexpected_upholds (ends : tokens <:+ all) (wanted : Wanted) {good : α → Prop} :
    Upholds good (fun failure => failure.rest <:+ all) (unexpected wanted tokens) := .error ends

theorem expectMark_endsIn (ends : tokens <:+ all) (mark : Mark) (wanted : Wanted) :
    EndsIn all id (expectMark mark wanted tokens) := by
  rw [expectMark]
  split
  next rest found => exact .ok ((behindMark?_suffix found).trans ends)
  next => exact unexpected_upholds ends wanted

theorem sequence_stays {item : Parser α} (items : Stays all item) (close : Mark) (wanted : Wanted) (fuel : Tokens) :
    Stays all (sequence item close wanted fuel) := by
  induction fuel with
  | nil =>
    intro tokens ends
    exact unexpected_upholds ends wanted
  | cons t fuel ih =>
    intro tokens ends
    rw [sequence]
    split
    next rest found => exact .ok ((behindMark?_suffix found).trans ends)
    next =>
      refine (items tokens ends).bind fun (first, rest) left => ?_
      dsimp only
      split
      next => exact (expectMark_endsIn left close .commaOrBracket).bind fun rest left => .ok left
      next rest found => exact (ih rest ((behindMark?_suffix found).trans left)).bind fun _ left => .ok left

section Levels
variable {nested base : Parser Expr} {operator? : Tokens → Option ((Expr → Expr → Expr) × Tokens)}

theorem leftChain_stays (operands : Stays all base)
    (operators : ∀ {tokens combine rest}, operator? tokens = some (combine, rest) → rest <:+ tokens) (fuel : Tokens)
    (left : Expr) : Stays all (leftChain base operator? fuel left) := by
  induction fuel generalizing left with
  | nil =>
    intro tokens ends
    exact .ok ends
  | cons t fuel ih =>
    intro tokens ends
    rw [leftChain]
    split
    next => exact .ok ends
    next combine rest found =>
      exact (operands rest ((operators found).trans ends)).bind fun (right, rest) left => ih _ rest left

theorem chained_stays (operands : Stays all base)
    (operators : ∀ {tokens combine rest}, operator? tokens = some (combine, rest) → rest <:+ tokens) :
    Stays all (chained base operator?) := by
  intro tokens ends
  exact (operands tokens ends).bind fun (first, rest) left => leftChain_stays operands operators rest first rest left

variable (nests : Stays all nested)
include nests

theorem dictEntries_stays (fuel : Tokens) : Stays all (dictEntries nested fuel) := by
  induction fuel with
  | nil =>
    intro tokens ends
    exact unexpected_upholds ends .expression
  | cons t fuel ih =>
    intro tokens ends
    rw [dictEntries]
    split
    next rest found => exact .ok ((behindMark?_suffix found).trans ends)
    next =>
      refine (nests tokens ends).bind fun (key, rest) left => ?_
      refine (expectMark_endsIn left .colon .colon).bind fun rest left => ?_
      refine (nests rest left).bind fun (value, rest) left => ?_
      dsimp only
      split
      next => exact (expectMark_endsIn left .rightBrace .commaOrBrace).bind fun rest left => .ok left
      next rest found => exact (ih rest ((behindMark?_suffix found).trans left)).bind fun _ left => .ok left

theorem listTail_stays (fuel : Tokens) : Stays all (listTail nested fuel) := by
  induction fuel with
  | nil =>
    intro tokens ends
    exact .ok ends
  | cons t fuel ih =>
    intro tokens ends
    rw [listTail]
    split
    next => exact .ok ends
    next rest found =>
      have behind := (behindMark?_suffix found).trans ends
      split
      next =>
        refine (nests rest behind).bind fun (item, rest) left => ?_
        exact (ih rest left).bind fun _ left => .ok left
      next => exact .ok behind

theorem expressionList_stays : Stays all (expressionList nested) := by
  intro tokens ends
  refine (nests tokens ends).bind fun (first, rest) left => ?_
  dsimp only
  split
  next => exact .ok left
  next => exact (listTail_stays nests rest rest left).bind fun _ left => .ok left

theorem parenthesized_stays : Stays all (parenthesized nested) := by
  intro tokens ends
  rw [parenthesized]
  split
  next rest found => exact .ok ((behindMark?_suffix found).trans ends)
  next =>
    refine (nests tokens ends).bind fun (first, rest) left => ?_
    dsimp only
    split
    next rest found => exact .ok ((behindMark?_suffix found).trans left)
    next =>
      refine (expectMark_endsIn left .comma .commaOrParen).bind fun rest left => ?_
      exact (sequence_stays nests .rightParen .expression rest rest left).bind fun _ left => .ok left

theorem primary_stays : Stays all (primary nested) := by
  intro tokens ends
  unfold primary
  split
  next => exact .ok (suffix_of_cons ends)
  next => exact .ok (suffix_of_cons ends)
  next text _ rest => exact .ok ((adjacentStrings_suffix text rest).trans (suffix_of_cons ends))
  next name _ rest =>
    split
    next => exact .ok (suffix_of_cons ends)
    split
    next => exact .ok (suffix_of_cons ends)
    split
    next => exact .ok (suffix_of_cons ends)
    split
    next => exact unexpected_upholds ends .expression
    next => exact .ok (suffix_of_cons ends)
  next _ rest => exact parenthesized_stays nests rest (suffix_of_cons ends)
  next _ rest =>
    exact (sequence_stays nests .rightBracket .expression rest rest (suffix_of_cons ends)).bind fun _ left => .ok left
  next _ rest => exact (dictEntries_stays nests rest rest (suffix_of_cons ends)).bind fun _ left => .ok left
  next => exact unexpected_upholds ends .expression

theorem sliceUpper_stays (value : Expr) (lower : Option Expr) : Stays all (sliceUpper nested value lower) := by
  intro tokens ends
  rw [sliceUpper]
  split
  next rest found => exact .ok ((behindMark?_suffix found).trans ends)
  next =>
    refine (nests tokens ends).bind fun (upper, rest) left => ?_
    exact (expectMark_endsIn left .rightBracket .rightBracket).bind fun rest left => .ok left

theorem subscript_stays (value : Expr) : Stays all (subscript nested value) := by
  intro tokens ends
  rw [subscript]
  split
  next rest found => exact sliceUpper_stays nests value none rest ((behindMark?_suffix found).trans ends)
  next =>
    refine (expressionList_stays nests tokens ends).bind fun (lower, rest) left => ?_
    dsimp only
    split
    next rest found => exact sliceUpper_stays nests value lower rest ((behindMark?_suffix found).trans left)
    next => exact (expectMark_endsIn left .rightBracket .rightBracket).bind fun rest left => .ok left

omit nests in
theorem attributeName_stays : Stays all attributeName := by
  intro tokens ends
  unfold attributeName
  split
  next => exact .ok (suffix_of_cons ends)
  next => exact unexpected_upholds ends .attributeName

theorem trailer?_stays (value : Expr) (ends : tokens <:+ all) {step : Except Failure (Expr × Tokens)}
    (found : trailer? nested value tokens = some step) : EndsIn all Prod.snd step := by
  unfold trailer? at found
  split at found
  next _ rest =>
    cases found
    exact (attributeName_stays rest (suffix_of_cons ends)).bind fun _ left => .ok left
  next _ rest =>
    cases found
    exact (sequence_stays nests .rightParen .expression rest rest (suffix_of_cons ends)).bind fun _ left => .ok left
  next _ rest =>
    cases found
    exact subscript_stays nests value rest (suffix_of_cons ends)
  next => cases found

theorem trailers_stays (fuel : Tokens) (value : Expr) : Stays all (trailers nested fuel value) := by
  induction fuel generalizing value with
  | nil =>
    intro tokens ends
    exact .ok ends
  | cons t fuel ih =>
    intro tokens ends
    rw [trailers]
    split
    next => exact .ok ends
    next step found => exact (trailer?_stays nests value ends found).bind fun (value, rest) left => ih value rest left

theorem operand_stays : Stays all (operand nested) := by
  intro tokens ends
  exact (primary_stays nests tokens ends).bind fun (value, rest) left => trailers_stays nests rest value rest left

theorem unary_stays : Stays all (unary nested) := by
  intro tokens
  induction tokens with
  | nil => exact operand_stays nests []
  | cons t rest ih =>
    intro ends
    have left := suffix_of_cons ends
    rw [unary]
    split
    next => exact (ih left).bind fun _ left => .ok left
    next => exact (ih left).bind fun _ left => .ok left
    next => exact operand_stays nests (t :: rest) ends

theorem sum_stays : Stays all (sum nested) :=
  chained_stays (chained_stays (unary_stays nests) productOperator?_suffix) sumOperator?_suffix

theorem comparisonTail_stays (fuel : Tokens) : Stays all (comparisonTail nested fuel) := by
  induction fuel with
  | nil =>
    intro tokens ends
    exact .ok ends
  | cons t fuel ih =>
    intro tokens ends
    rw [comparisonTail]
    split
    next => exact .ok ends
    next op rest found =>
      refine (sum_stays nests rest ((compareOperator?_suffix found).trans ends)).bind fun (right, rest) left => ?_
      exact (ih rest left).bind fun _ left => .ok left

theorem comparison_stays : Stays all (comparison nested) := by
  intro tokens ends
  refine (sum_stays nests tokens ends).bind fun (first, rest) left => ?_
  exact (comparisonTail_stays nests rest rest left).bind fun _ left => .ok left

theorem negation_stays : Stays all (negation nested) := by
  intro tokens
  induction tokens with
  | nil => exact comparison_stays nests []
  | cons t rest ih =>
    intro ends
    rw [negation]
    split
    next => exact (ih (suffix_of_cons ends)).bind fun _ left => .ok left
    next => exact comparison_stays nests (t :: rest) ends

theorem disjunction_stays : Stays all (disjunction nested) :=
  chained_stays (chained_stays (negation_stays nests) wordOperator?_suffix) wordOperator?_suffix

theorem conditional_stays : Stays all (conditional nested) := by
  intro tokens ends
  refine (disjunction_stays nests tokens ends).bind fun (value, rest) left => ?_
  dsimp only
  split
  next => exact .ok left
  next rest found =>
    refine (disjunction_stays nests rest ((behindWord?_suffix found).trans left)).bind fun (condition, rest) left => ?_
    dsimp only
    split
    next => exact unexpected_upholds left .elseWord
    next rest found => exact (nests rest ((behindWord?_suffix found).trans left)).bind fun _ left => .ok left

end Levels

theorem expression_stays (fuel : Tokens) : Stays all (expression fuel) := by
  induction fuel with
  | nil =>
    intro tokens ends
    exact unexpected_upholds ends .expression
  | cons t fuel ih => exact conditional_stays ih

theorem parseList_stays : Stays all parseList := fun tokens ends =>
  expressionList_stays (expression_stays tokens) tokens ends

theorem target_stays (fuel : Tokens) : Stays all (target fuel) := by
  induction fuel with
  | nil =>
    intro tokens ends
    exact unexpected_upholds ends .name
  | cons t fuel ih =>
    intro tokens ends
    unfold target
    split
    next =>
      split
      next => exact unexpected_upholds ends .name
      next => exact .ok (suffix_of_cons ends)
    next _ rest =>
      exact (sequence_stays ih .rightParen .name rest rest (suffix_of_cons ends)).bind fun _ left => .ok left
    next _ rest =>
      exact (sequence_stays ih .rightBracket .name rest rest (suffix_of_cons ends)).bind fun _ left => .ok left
    next => exact unexpected_upholds ends .name

theorem targetTail_stays {item : Parser Target} (items : Stays all item) (fuel : Tokens) :
    Stays all (targetTail item fuel) := by
  induction fuel with
  | nil =>
    intro tokens ends
    exact .ok ends
  | cons t fuel ih =>
    intro tokens ends
    rw [targetTail]
    split
    next => exact .ok ends
    next rest found =>
      have behind := (behindMark?_suffix found).trans ends
      split
      next => exact .ok behind
      next =>
        refine (items rest behind).bind fun (first, rest) left => ?_
        exact (ih rest left).bind fun _ left => .ok left

theorem targetList_stays : Stays all targetList := by
  intro tokens ends
  refine (target_stays tokens tokens ends).bind fun (first, rest) left => ?_
  dsimp only
  split
  next => exact .ok left
  next => exact (targetTail_stays (target_stays tokens) rest rest left).bind fun _ left => .ok left

theorem assignment_failsIn (ends : tokens <:+ all) (left : Expr) (op : Option BinaryOp) (value : Expr) :
    FailsIn all (assignment tokens left op value) := by
  unfold assignment
  split
  · split
    · exact .ok trivial
    · exact .error ends
  · split
    · exact .ok trivial
    · exact .error ends

theorem statement_stays : Stays all statement := by
  intro tokens ends
  rw [statement]
  split
  next rest found => exact .ok ((behindWord?_suffix found).trans ends)
  next =>
    refine (parseList_stays tokens ends).bind fun (first, rest) left => ?_
    dsimp only
    split
    next => exact .ok left
    next op rest found =>
      refine (parseList_stays rest ((assignOperator?_suffix found).trans left)).bind fun (value, rest) left => ?_
      exact (assignment_failsIn ends first op value).bind fun _ _ => .ok left

theorem statements_failsIn (fuel : Tokens) (ends : tokens <:+ all) :
    FailsIn all (statements fuel tokens) := by
  induction fuel generalizing tokens with
  | nil => exact .ok trivial
  | cons _ fuel ih =>
    cases tokens with
    | nil => exact .ok trivial
    | cons t rest =>
      rw [statements]
      split
      next => exact ih (suffix_of_cons ends)
      next =>
        refine (statement_stays (t :: rest) ends).bind fun (first, rest) left => ?_
        dsimp only
        split
        next => exact (ih left).bind fun _ _ => .ok trivial
        next => exact .error left

theorem expectEnd_failsIn (ends : tokens <:+ all) : FailsIn all (expectEnd tokens) := by
  unfold expectEnd
  split
  next => exact .ok trivial
  next => exact .error ends

end Stays

end Stencil
