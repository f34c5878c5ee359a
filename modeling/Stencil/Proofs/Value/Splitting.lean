import Stencil.Expr.Eval
import Stencil.Proofs.Outcome
import Stencil.Proofs.Text.Escape

/-! Splitting, joining and replacing. Main statement: the parts of a text are what stands between the occurrences of the
separator, taken from left to right without overlap; joining them gives the text again, no part has the separator in it,
and joining them with another text is replacing. -/
namespace Stencil

namespace Text

/-- A text and its parts at the occurrences of a separator, from left to right: the search goes on behind each. -/
inductive Parts (separator : List Char) : List Char → List (List Char) → Prop
  | last {text : List Char} (plain : ¬ separator <:+: text) : Parts separator text [text]
  | cut {part rest : List Char} {parts : List (List Char)} (first : First separator part rest)
      (behind : Parts separator rest parts) : Parts separator (part ++ separator ++ rest) (part :: parts)

section Split

variable {separator part rest text : List Char} {parts : List (List Char)}

theorem exists_parts (some : separator ≠ []) (text : List Char) : ∃ parts, Parts separator text parts := by
  cases found : cut? separator text with
  | none => exact ⟨[text], .last (not_infix_of_cut? found)⟩
  | some halves =>
    obtain ⟨part, rest⟩ := halves
    have whole := cut?_append found
    have first : First separator part rest := fun _ _ same => length_le_of_cut? found (whole.symm.trans same)
    have shorter : rest.length < text.length := by
      have long := List.length_pos_iff.mpr some
      rw [← whole, List.length_append, List.length_append]
      omega
    obtain ⟨parts, behind⟩ := exists_parts some rest
    exact ⟨part :: parts, whole ▸ .cut first behind⟩
termination_by text.length

theorem splitFrom_skip (skipped read text : List Char) :
    splitFrom separator skipped.length read (skipped ++ text) = splitFrom separator 0 read text := by
  induction skipped with
  | nil => rfl
  | cons c skipped ih => exact ih

theorem splitFrom_plain (plain : ¬ separator <:+: text) (read : List Char) :
    splitFrom separator 0 read text = [read.reverse ++ text] := by
  induction text generalizing read with
  | nil => simp [splitFrom]
  | cons c text ih =>
    obtain ⟨here, behind⟩ := not_infix_cons plain
    rw [splitFrom, if_neg here, ih behind, List.reverse_cons, List.append_assoc, List.singleton_append]

theorem splitFrom_first (some : separator ≠ []) (first : First separator part rest) (read : List Char) :
    splitFrom separator 0 read (part ++ separator ++ rest) = (read.reverse ++ part) :: split separator rest := by
  induction part generalizing read with
  | nil =>
    obtain ⟨c, pattern, rfl⟩ := List.exists_cons_of_ne_nil some
    rw [List.nil_append, List.cons_append, splitFrom, if_pos (starts_cons c pattern rest), List.append_nil]
    exact congrArg _ (splitFrom_skip pattern [] rest)
  | cons c part ih =>
    rw [List.cons_append, List.cons_append, splitFrom, if_neg first.later, ih first.tail, List.reverse_cons,
      List.append_assoc, List.singleton_append]

theorem replaceFrom_first (some : separator ≠ []) (first : First separator part rest) (new : List Char) :
    replaceFrom separator new 0 (part ++ separator ++ rest) = part ++ new ++ replaceFrom separator new 0 rest := by
  induction part with
  | nil =>
    obtain ⟨c, pattern, rfl⟩ := List.exists_cons_of_ne_nil some
    exact replaceFrom_found new c pattern rest
  | cons c part ih =>
    rw [List.cons_append, List.cons_append, replaceFrom, if_neg first.later, ih first.tail]
    rfl

theorem Parts.ne_nil (is : Parts separator text parts) : parts ≠ [] := by
  cases is <;> exact List.cons_ne_nil _ _

theorem Parts.split_eq (some : separator ≠ []) (is : Parts separator text parts) : split separator text = parts := by
  induction is with
  | last plain => exact splitFrom_plain plain []
  | cut first _ ih => rw [split, splitFrom_first some first, ih, List.reverse_nil, List.nil_append]

theorem Parts.join_eq (is : Parts separator text parts) : join separator parts = text := by
  induction is with
  | last plain => rfl
  | cut first behind ih => rw [join_cons separator _ behind.ne_nil, ih]

theorem Parts.replaceAll_eq (some : separator ≠ []) (is : Parts separator text parts) (new : List Char) :
    replaceAll separator new text = join new parts := by
  rw [replaceAll_of_ne_nil new some]
  induction is with
  | last plain => exact replaceFrom_plain new plain
  | cut first behind ih => rw [replaceFrom_first some first, ih, join_cons new _ behind.ne_nil]

/-- A separator in a part would be found before the one that ends the part. -/
theorem Parts.plain (some : separator ≠ []) (is : Parts separator text parts) :
    ∀ part ∈ parts, ¬ separator <:+: part := by
  induction is with
  | last plain => exact List.forall_mem_singleton.mpr plain
  | @cut part rest _ first _ ih =>
    refine List.forall_mem_cons.mpr ⟨?_, ih⟩
    rintro ⟨front, back, rfl⟩
    have early := first front (back ++ separator ++ rest) (by simp only [List.append_assoc])
    have long := List.length_pos_iff.mpr some
    simp only [List.length_append] at early
    omega

end Split

end Text

section Methods

def Expr.method (owner : Expr) (name : String) (arguments : List Expr) : Expr :=
  .call (.attribute owner name) arguments

variable {scope : Scope} {text separator new : Expr} {t p r : String}

theorem eval_method {arguments : List Expr} {values : List Value} (isText : text.eval scope = .ok (.str t))
    (given : evalAll scope arguments = .ok values) (name : String) :
    (text.method name arguments).eval scope = (Value.str t).callMethod name values := by
  simp only [Expr.method, Expr.eval, isText, ok_bind, shadowedMethod?, given]

theorem evalAll_one {argument : Expr} {value : Value} (given : argument.eval scope = .ok value) :
    evalAll scope [argument] = .ok [value] := by
  simp only [evalAll, given, ok_bind]
  rfl

theorem evalAll_two {first second : Expr} {a b : Value} (isFirst : first.eval scope = .ok a)
    (isSecond : second.eval scope = .ok b) : evalAll scope [first, second] = .ok [a, b] := by
  simp only [evalAll, isFirst, isSecond, ok_bind]
  rfl

theorem eval_equal {first second : Expr} (isFirst : first.eval scope = .ok (.str t))
    (isSecond : second.eval scope = .ok (.str t)) :
    (Expr.compare first [(.equal, second)]).eval scope = .ok (.bool true) := by
  have same : (Value.str t).compare .equal (.str t) = .ok true := by simp [Value.compare, Value.equals]
  simp only [Expr.eval, evalChain, isFirst, isSecond, ok_bind, same, if_true]

theorem callMethod_split (t : String) (some : p ≠ "") : (Value.str t).callMethod "split" [.str p] =
    .ok (.list ((Text.split p.toList t.toList).map textValue)) := by
  have method : TextMethod.ofName? "split" = .some .split := by decide
  have sharp : p.isEmpty = false := by simpa using some
  simp only [Value.callMethod, method, TextMethod.call, splitText, optionalArgument, textArgument, ok_bind, sharp,
    Bool.false_eq_true, if_false]
  rfl

theorem joinParts_texts (parts : List (List Char)) (position : Nat) :
    joinParts position (parts.map textValue) = .ok (parts.map String.ofList) := by
  induction parts generalizing position with
  | nil => rfl
  | cons part parts ih =>
    rw [List.map_cons, textValue, joinParts, ih]
    rfl

theorem Text.join_eq_intercalate (separator : List Char) (parts : List (List Char)) :
    join separator parts = separator.intercalate parts := by
  induction parts with
  | nil => rfl
  | cons part parts ih =>
    cases parts with
    | nil => simp [join]
    | cons next parts =>
      rw [join_cons separator part (List.cons_ne_nil next parts), ih, List.intercalate_cons_cons]

theorem callMethod_join (p : String) (parts : List (List Char)) :
    (Value.str p).callMethod "join" [.list (parts.map textValue)] = .ok (textValue (Text.join p.toList parts)) := by
  have method : TextMethod.ofName? "join" = some .join := by decide
  have joined : p.intercalate (parts.map String.ofList) = String.ofList (Text.join p.toList parts) := by
    rw [← String.toList_inj, String.toList_intercalate, String.toList_ofList, Text.join_eq_intercalate, List.map_map]
    simp [Function.comp_def]
  simp only [Value.callMethod, method, TextMethod.call, joinText, oneArgument, Value.items, joinParts_texts, ok_bind,
    joined]
  rfl

theorem callMethod_replace (t old new : String) : (Value.str t).callMethod "replace" [.str old, .str new] =
    .ok (textValue (Text.replaceAll old.toList new.toList t.toList)) := by
  have method : TextMethod.ofName? "replace" = some .replace := by decide
  simp only [Value.callMethod, method, TextMethod.call, replaceText, textArgument, ok_bind]
  rfl

/-- The values of splitting a text at a separator, of joining what that gives, and of replacing the separator. -/
structure Expr.Splits (scope : Scope) (text separator new : Expr) (t p : String) : Prop where
  parts : ∃ parts, (text.method "split" [separator]).eval scope = .ok (.list (parts.map textValue)) ∧
    (∀ others, Text.Parts p.toList t.toList others ↔ others = parts) ∧ ∀ part ∈ parts, ¬ p.toList <:+: part
  joins : (separator.method "join" [text.method "split" [separator]]).eval scope = .ok (.str t)
  restores : (Expr.compare (separator.method "join" [text.method "split" [separator]]) [(.equal, text)]).eval scope =
    .ok (.bool true)
  replaces : ∃ whole, (text.method "replace" [separator, new]).eval scope = .ok (.str whole) ∧
    (new.method "join" [text.method "split" [separator]]).eval scope = .ok (.str whole)
  composes : (Expr.compare (text.method "replace" [separator, new])
    [(.equal, new.method "join" [text.method "split" [separator]])]).eval scope = .ok (.bool true)

/-- Splitting a text gives its parts, and joining them gives the text again or, with another text, what replacing the
separator by it gives. -/
theorem joining_inverts_splitting (some : p ≠ "") (isText : text.eval scope = .ok (.str t))
    (isSeparator : separator.eval scope = .ok (.str p)) (isNew : new.eval scope = .ok (.str r)) :
    Expr.Splits scope text separator new t p := by
  have any : p.toList ≠ [] := by simpa using some
  obtain ⟨parts, is⟩ := Text.exists_parts any t.toList
  have split : (text.method "split" [separator]).eval scope = .ok (.list (parts.map textValue)) := by
    rw [eval_method isText (evalAll_one isSeparator), callMethod_split t some, is.split_eq any]
  have joined : (separator.method "join" [text.method "split" [separator]]).eval scope = .ok (.str t) := by
    rw [eval_method isSeparator (evalAll_one split), callMethod_join, is.join_eq, textValue, String.ofList_toList]
  have replaced : (text.method "replace" [separator, new]).eval scope =
      .ok (.str (String.ofList (Text.join r.toList parts))) := by
    rw [eval_method isText (evalAll_two isSeparator isNew), callMethod_replace, is.replaceAll_eq any, textValue]
  have rejoined : (new.method "join" [text.method "split" [separator]]).eval scope =
      .ok (.str (String.ofList (Text.join r.toList parts))) := by
    rw [eval_method isNew (evalAll_one split), callMethod_join, textValue]
  refine ⟨⟨parts, split, fun others => ⟨fun cut => ?_, fun same => same ▸ is⟩, is.plain any⟩, joined,
    eval_equal joined isText, ⟨_, replaced, rejoined⟩, eval_equal replaced rejoined⟩
  exact (cut.split_eq any).symm.trans (is.split_eq any)

/-- A separator that overlaps itself, at both ends of a text and in characters of two bytes. -/
theorem joining_inverts_splitting_of_overlap : ∃ text separator new : Expr, ∃ t p r : String,
    t = "éééaéé" ∧ p = "éé" ∧ p ≠ "" ∧ text.eval Scope.empty = .ok (.str t) ∧
      separator.eval Scope.empty = .ok (.str p) ∧ new.eval Scope.empty = .ok (.str r) ∧
        Expr.Splits Scope.empty text separator new t p := by
  have evaluated (text : String) : (Expr.literal (.str text)).eval Scope.empty = .ok (.str text) := by rw [Expr.eval]
  have some : "éé" ≠ "" := by decide
  exact ⟨.literal (.str "éééaéé"), .literal (.str "éé"), .literal (.str "é"), _, _, "é", rfl, rfl, some, evaluated _,
    evaluated _, evaluated _, joining_inverts_splitting some (evaluated _) (evaluated _) (evaluated _)⟩

end Methods

end Stencil
