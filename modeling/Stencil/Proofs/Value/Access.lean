import Mathlib.Data.List.Basic
import Stencil.Expr.Eval
import Stencil.Proofs.Outcome
import Stencil.Proofs.Value.Words

/-! Items and parts of sequences. Main statement: an index gives the item at its position or fails outside of the
sequence, a slice gives the items between its bounds, two slices that meet are the sequence, and finding a position
takes no step that leaves a word. -/
namespace Stencil

/-- A list, a tuple or a string with its items, which are characters in a string. -/
inductive Value.Sequence : Value → List Value → Prop
  | list (items : List Value) : Sequence (.list items) items
  | tuple (items : List Value) : Sequence (.tuple items) items
  | str (text : String) : Sequence (.str text) (text.toList.map charValue)

/-- A bound of a slice: a word, or none where the bound is left out. -/
inductive Value.Bounds : Value → Option Int64 → Prop
  | missing : Bounds .null none
  | word {value : Value} {word : Int64} (is : value.word? = some word) : Bounds value (some word)

/-- The position that a number stands for in so many items: a negative one counts from their end. -/
def positionOf (n : Int) (length : Nat) : Int := if n < 0 then n + length else n

/-- The position that a bound stands for, moved to the nearest one from the first item to behind the last. -/
def boundPosition (length : Nat) (default : Int) : Option Int64 → Int
  | none => default
  | some word => max 0 (min (positionOf word.toInt length) length)

/-- The items at the positions from the first bound on and before the second. -/
def itemsBetween {α : Type} (items : List α) (low high : Int) : List α :=
  (items.zipIdx.filter fun entry => decide (low ≤ entry.2 ∧ entry.2 < high)).map Prod.fst

namespace Word

/-- The position of an index, in steps on words. There is no answer if the sum leaves the range. -/
def position? (index length : Int64) : Option (Option Int64) :=
  (if index < 0 then sum? index length else some index).map fun position =>
    if 0 ≤ position ∧ position < length then some position else none

def bound? (bound length : Int64) : Option Int64 :=
  if bound < 0 then (sum? bound length).map (max · 0) else some (min bound length)

/-- The positions of the bounds of a slice, in steps on words. -/
def range? (lower upper : Option Int64) (length : Int64) : Option (Int64 × Int64) := do
  let start ← lower.elim (some 0) (bound? · length)
  let stop ← upper.elim (some length) (bound? · length)
  return (start, max stop start)

end Word

section Between

variable {α : Type}

/-- A filter by position takes what is left behind the items before the first bound. The items stand from some
position on. -/
theorem filter_zipIdx (items : List α) (low high first : Nat) :
    ((items.zipIdx first).filter fun entry => decide (low ≤ entry.2 ∧ entry.2 < high)).map Prod.fst =
      (items.drop (low - first)).take (high - max low first) := by
  induction items generalizing first with
  | nil => simp
  | cons item items ih =>
    rw [List.zipIdx_cons, List.filter_cons]
    have later := ih (first + 1)
    by_cases before : first < low
    · have same : low - first = low - (first + 1) + 1 := by omega
      have most : max low (first + 1) = max low first := by omega
      rw [if_neg (by simp; omega), later, same, most, List.drop_succ_cons]
    · have none : low - first = 0 := by omega
      have none' : low - (first + 1) = 0 := by omega
      have most : max low first = first := by omega
      rw [none, most, List.drop_zero]
      rw [none', List.drop_zero] at later
      by_cases inside : first < high
      · have same : high - first = high - (first + 1) + 1 := by omega
        have most' : max low (first + 1) = first + 1 := by omega
        rw [if_pos (by simp; omega), List.map_cons, later, same, most', List.take_succ_cons]
      · have none : high - first = 0 := by omega
        have none' : high - max low (first + 1) = 0 := by omega
        rw [if_neg (by simp; omega), later, none, none', List.take_zero, List.take_zero]

theorem itemsBetween_eq (items : List α) (low high : Nat) :
    itemsBetween items low high = (items.drop low).take (high - low) := by
  have shifted := filter_zipIdx items low high 0
  rw [Nat.sub_zero, Nat.max_zero] at shifted
  rw [itemsBetween, ← shifted]
  simp

end Between

section Positions

theorem boundPosition_between (length : Nat) {default : Int} (least : 0 ≤ default) (most : default ≤ length)
    (bound : Option Int64) : 0 ≤ boundPosition length default bound ∧ boundPosition length default bound ≤ length := by
  cases bound with
  | none => exact ⟨least, most⟩
  | some word =>
    rw [boundPosition]
    omega

theorem sliceBound_eq {value : Value} {bound : Option Int64} (bounds : value.Bounds bound) (length default : Nat) :
    sliceBound value length default = .ok (boundPosition length default bound).toNat := by
  cases bounds with
  | missing => rfl
  | @word _ word is =>
    have given : sliceBound value length default =
        .ok (if word.toInt < 0 then (word.toInt + length).toNat else min word.toInt.toNat length) := by
      have number := integer?_of_word? is
      cases value with
      | int n =>
        rw [sliceBound, number]
        exact nofun
      | bool b =>
        rw [sliceBound, number]
        exact nofun
      | _ => cases is
    rw [given, boundPosition, positionOf]
    congr 1
    split
    · omega
    · omega

theorem resolveIndex_eq (index : Int) (length : Nat) : resolveIndex index length =
    if 0 ≤ positionOf index length ∧ positionOf index length < length
      then some (positionOf index length).toNat else none := rfl

theorem resolveIndex_eq_some {index : Int} {length position : Nat} : resolveIndex index length = some position ↔
    -length ≤ index ∧ index < length ∧ positionOf index length = position := by
  rw [resolveIndex_eq, Option.ite_none_right_eq_some, Option.some.injEq]
  unfold positionOf
  split
  · omega
  · omega

end Positions

section Sequences

variable {s : Value} {items : List Value}

theorem Value.Sequence.item_eq (sequence : s.Sequence items) (index : Value) :
    s.item index = itemAt s.kind items index := by
  cases sequence <;> rfl

/-- A slice of a sequence is a sequence of its kind, with the items between the bounds. -/
theorem Value.Sequence.slice_eq (sequence : s.Sequence items) {lower upper : Value} {low high : Option Int64}
    (isLow : lower.Bounds low) (isHigh : upper.Bounds high) :
    ∃ part, s.slice lower upper = .ok part ∧ part.kind = s.kind ∧ part.Sequence
      (itemsBetween items (boundPosition items.length 0 low) (boundPosition items.length items.length high)) := by
  obtain ⟨start, startIs⟩ := Int.eq_ofNat_of_zero_le
    (boundPosition_between items.length (Int.le_refl 0) (Int.natCast_nonneg _) low).1
  obtain ⟨stop, stopIs⟩ := Int.eq_ofNat_of_zero_le
    (boundPosition_between items.length (Int.natCast_nonneg _) (Int.le_refl _) high).1
  have sliced {α : Type} (list : List α) (length : list.length = items.length) :
      sliceItems list lower upper = .ok ((list.drop start).take (stop - start)) := by
    rw [sliceItems, length, sliceBound_eq isLow, ok_bind, sliceBound_eq isHigh, ok_bind, stopIs]
    have first : boundPosition items.length (0 : Nat) low = start := startIs
    rw [first]
    rfl
  rw [startIs, stopIs, itemsBetween_eq]
  cases sequence with
  | list =>
    refine ⟨.list ((items.drop start).take (stop - start)), ?_, rfl, .list _⟩
    rw [slice, sliced items rfl]
    rfl
  | tuple =>
    refine ⟨.tuple ((items.drop start).take (stop - start)), ?_, rfl, .tuple _⟩
    rw [slice, sliced items rfl]
    rfl
  | str text =>
    have part := Sequence.str (String.ofList ((text.toList.drop start).take (stop - start)))
    rw [String.toList_ofList, List.map_take, List.map_drop] at part
    refine ⟨.str (String.ofList ((text.toList.drop start).take (stop - start))), ?_, rfl, part⟩
    rw [slice, sliced text.toList (by simp)]
    rfl

theorem charValue_injective : Function.Injective charValue := by
  intro c d same
  have texts := congrArg String.toList (Value.str.inj same)
  rw [String.toList_singleton, String.toList_singleton] at texts
  exact (List.cons.inj texts).1

/-- The kind and the items of a sequence tell the sequence. -/
theorem Value.Sequence.unique {t : Value} (first : s.Sequence items) (second : t.Sequence items)
    (kinds : s.kind = t.kind) : s = t := by
  cases first with
  | list =>
    cases second with
    | list => rfl
    | _ => cases kinds
  | tuple =>
    cases second with
    | tuple => rfl
    | _ => cases kinds
  | str text =>
    generalize same : text.toList.map charValue = items at second
    cases second with
    | str other =>
      have texts := List.map_injective_iff.mpr charValue_injective same
      rw [String.toList_inj.mp texts]
    | _ => cases kinds

theorem Value.Sequence.joined {t : Value} {others : List Value} (first : s.Sequence items) (second : t.Sequence others)
    (kinds : s.kind = t.kind) :
    ∃ whole, binaryValue .add s t = .ok whole ∧ whole.kind = s.kind ∧ whole.Sequence (items ++ others) := by
  cases first with
  | list =>
    cases second with
    | list => exact ⟨_, rfl, rfl, .list _⟩
    | _ => cases kinds
  | tuple =>
    cases second with
    | tuple => exact ⟨_, rfl, rfl, .tuple _⟩
    | _ => cases kinds
  | str text =>
    cases second with
    | str other =>
      have joined := Sequence.str (text ++ other)
      rw [String.toList_append, List.map_append] at joined
      exact ⟨_, rfl, rfl, joined⟩
    | _ => cases kinds

end Sequences

namespace Word

variable {length : Int64} {n : Nat}

theorem toInt_max (a b : Int64) : (max a b).toInt = max a.toInt b.toInt := by
  change (if a ≤ b then b else a).toInt = _
  split
  next le =>
    have := Int64.le_iff_toInt_le.mp le
    omega
  next gt =>
    have := Int64.le_iff_toInt_le.not.mp gt
    omega

theorem toInt_min (a b : Int64) : (min a b).toInt = min a.toInt b.toInt := by
  change (if a ≤ b then a else b).toInt = _
  split
  next le =>
    have := Int64.le_iff_toInt_le.mp le
    omega
  next gt =>
    have := Int64.le_iff_toInt_le.not.mp gt
    omega

/-- Adding a length to a negative word stays in the range. -/
theorem sum?_of_neg (counts : length.toInt = n) {word : Int64} (negative : word.toInt < 0) :
    ∃ position, sum? word length = some position ∧ position.toInt = word.toInt + n := by
  have least := (fits_iff.mp (fits_toInt word)).1
  have most := (fits_iff.mp (fits_toInt length)).2
  have fits : FitsWord (word.toInt + n) := by
    rw [fits_iff]
    omega
  rw [sum?, counts]
  exact ofInt?_of_fits fits

theorem position?_eq (counts : length.toInt = n) (index : Int64) : ∃ position,
    position? index length = some position ∧
      position.map (fun word => word.toInt.toNat) = resolveIndex index.toInt n := by
  have step : ∃ word, (if index < 0 then sum? index length else some index) = some word ∧
      word.toInt = positionOf index.toInt n := by
    by_cases negative : index < 0
    · have below : index.toInt < 0 := Int64.lt_iff_toInt_lt.mp negative
      rw [if_pos negative, positionOf, if_pos below]
      exact sum?_of_neg counts below
    · have above : ¬ index.toInt < 0 := Int64.lt_iff_toInt_lt.not.mp negative
      rw [if_neg negative, positionOf, if_neg above]
      exact ⟨index, rfl, rfl⟩
  obtain ⟨word, made, same⟩ := step
  refine ⟨if 0 ≤ word ∧ word < length then some word else none, by rw [position?, made]; rfl, ?_⟩
  have inside : (0 ≤ word ∧ word < length) ↔ 0 ≤ word.toInt ∧ word.toInt < n := by
    rw [Int64.le_iff_toInt_le, Int64.lt_iff_toInt_lt, counts]
    rfl
  rw [resolveIndex_eq, ← same]
  by_cases within : 0 ≤ word ∧ word < length
  · rw [if_pos (inside.mp within), if_pos within]
    rfl
  · rw [if_neg (inside.not.mp within), if_neg within]
    rfl

theorem bound?_eq (counts : length.toInt = n) (default : Int) (bound : Int64) : ∃ word,
    bound? bound length = some word ∧ word.toInt = boundPosition n default (some bound) := by
  by_cases negative : bound < 0
  · have below : bound.toInt < 0 := Int64.lt_iff_toInt_lt.mp negative
    obtain ⟨word, made, same⟩ := sum?_of_neg counts below
    refine ⟨max word 0, by rw [bound?, if_pos negative, made]; rfl, ?_⟩
    rw [toInt_max, same, boundPosition, positionOf, if_pos below, Int64.toInt_zero]
    omega
  · have above : ¬ bound.toInt < 0 := Int64.lt_iff_toInt_lt.not.mp negative
    refine ⟨min bound length, if_neg negative, ?_⟩
    rw [toInt_min, counts, boundPosition, positionOf, if_neg above]
    omega

/-- The bounds of a slice, in steps on words, are those of the slice, with none before the other. -/
theorem range?_eq (counts : length.toInt = n) (low high : Option Int64) : ∃ start stop,
    range? low high length = some (start, stop) ∧ start.toInt = boundPosition n 0 low ∧
      stop.toInt = max (boundPosition n n high) start.toInt := by
  have starts : ∃ start, low.elim (some 0) (bound? · length) = some start ∧
      start.toInt = boundPosition n 0 low := by
    cases low with
    | none => exact ⟨0, rfl, rfl⟩
    | some word => exact bound?_eq counts 0 word
  have stops : ∃ stop, high.elim (some length) (bound? · length) = some stop ∧
      stop.toInt = boundPosition n n high := by
    cases high with
    | none => exact ⟨length, rfl, counts⟩
    | some word => exact bound?_eq counts n word
  obtain ⟨start, isStart, first⟩ := starts
  obtain ⟨stop, isStop, second⟩ := stops
  refine ⟨start, max stop start, ?_, first, ?_⟩
  · rw [range?, isStart, Option.bind_eq_bind, Option.bind_some, isStop]
    rfl
  · rw [toInt_max, second]

end Word

/-- What holds of the indices and slices of an expression that gives a sequence. -/
structure Subscripts (scope : Scope) (container : Expr) (s : Value) (items : List Value) : Prop where
  inside : ∀ (index : Expr) (value : Value) (i : Int64), index.eval scope = .ok value → value.word? = some i →
    -items.length ≤ i.toInt → i.toInt < items.length → ∃ (position : Nat) (item : Value),
      position = (if i.toInt < 0 then i.toInt + items.length else i.toInt) ∧ items[position]? = some item ∧
        (Expr.index container index).eval scope = .ok item
  outside : ∀ (index : Expr) (value : Value) (i : Int64), index.eval scope = .ok value → value.word? = some i →
    ¬ (-items.length ≤ i.toInt ∧ i.toInt < items.length) →
      (Expr.index container index).eval scope = .error (.index s.kind)
  slice : ∀ (lower upper : Option Expr) (low high : Value) (i j : Option Int64),
    evalBound scope lower = .ok low → evalBound scope upper = .ok high → low.Bounds i → high.Bounds j →
      ∃ part, (Expr.slice container lower upper).eval scope = .ok part ∧ part.kind = s.kind ∧ part.Sequence
        (itemsBetween items (boundPosition items.length 0 i) (boundPosition items.length items.length j))
  halves : ∀ (middle : Expr) (value : Value) (k : Int64), middle.eval scope = .ok value → value.word? = some k →
    (Expr.binary .add (.slice container none (some middle)) (.slice container (some middle) none)).eval scope = .ok s
  words : ∀ length : Int64, length.toInt = items.length →
    (∀ i, ∃ position, Word.position? i length = some position ∧
      position.map (fun word => word.toInt.toNat) = resolveIndex i.toInt items.length) ∧
    ∀ i j, ∃ start stop, Word.range? i j length = some (start, stop) ∧ 0 ≤ start.toInt ∧
      start.toInt ≤ stop.toInt ∧ stop.toInt ≤ length.toInt ∧ start.toInt = boundPosition items.length 0 i ∧
        stop.toInt = max (boundPosition items.length items.length j) start.toInt

section Expressions

variable {scope : Scope} {container : Expr} {s : Value} {items : List Value}

theorem eval_index (evaluated : container.eval scope = .ok s) {index : Expr} {value : Value}
    (given : index.eval scope = .ok value) : (Expr.index container index).eval scope = s.item value := by
  rw [Expr.eval, evaluated, ok_bind, given, ok_bind]

theorem eval_slice (evaluated : container.eval scope = .ok s) {lower upper : Option Expr} {low high : Value}
    (isLow : evalBound scope lower = .ok low) (isHigh : evalBound scope upper = .ok high) :
    (Expr.slice container lower upper).eval scope = s.slice low high := by
  rw [Expr.eval, evaluated, ok_bind, isLow, ok_bind, isHigh, ok_bind]

/-- The items before a position and those from it on are all items. -/
theorem itemsBetween_append (items : List Value) (word : Int64) :
    itemsBetween items (boundPosition items.length 0 none) (boundPosition items.length items.length (some word)) ++
      itemsBetween items (boundPosition items.length 0 (some word)) (boundPosition items.length items.length none) =
        items := by
  obtain ⟨middle, same⟩ := Int.eq_ofNat_of_zero_le
    (boundPosition_between items.length (Int.le_refl 0) (Int.natCast_nonneg _) (some word)).1
  have behind : boundPosition items.length items.length (some word) = middle := same
  have front : itemsBetween items 0 middle = items.take middle := itemsBetween_eq items 0 middle
  have back : itemsBetween items middle items.length = items.drop middle := by
    rw [itemsBetween_eq, ← List.length_drop, List.take_length]
  rw [boundPosition, boundPosition, same, behind, front, back, List.take_append_drop]

/-- An index into a list, a tuple or a string gives the item at its position, counted from the end if it is negative,
and fails where there is none. A slice gives the items between its bounds, which are moved into the sequence. Two
slices that meet are the sequence, and no step in words leaves the range. -/
theorem subscripts_of_sequence (evaluated : container.eval scope = .ok s) (sequence : s.Sequence items) :
    Subscripts scope container s items where
  inside index value i given is least most := by
    have position : ∃ position : Nat, position = positionOf i.toInt items.length ∧ position < items.length := by
      refine ⟨(positionOf i.toInt items.length).toNat, ?_, ?_⟩
      all_goals
        unfold positionOf
        split <;> omega
    obtain ⟨position, same, bound⟩ := position
    refine ⟨position, items[position], same, List.getElem?_eq_getElem bound, ?_⟩
    rw [eval_index evaluated given, sequence.item_eq, itemAt, integer?_of_word? is]
    dsimp only
    rw [resolveIndex_eq_some.mpr ⟨least, most, same.symm⟩, Option.bind_some, List.getElem?_eq_getElem bound]
  outside index value i given is out := by
    have none : resolveIndex i.toInt items.length = none := by
      rw [Option.eq_none_iff_forall_ne_some]
      intro position found
      obtain ⟨least, most, _⟩ := resolveIndex_eq_some.mp found
      exact out ⟨least, most⟩
    rw [eval_index evaluated given, sequence.item_eq, itemAt, integer?_of_word? is]
    dsimp only
    rw [none]
    rfl
  slice lower upper low high i j isLow isHigh first second := by
    rw [eval_slice evaluated isLow isHigh]
    exact sequence.slice_eq first second
  halves middle value k given is := by
    obtain ⟨front, isFront, frontKind, frontItems⟩ := sequence.slice_eq .missing (.word is)
    obtain ⟨back, isBack, backKind, backItems⟩ := sequence.slice_eq (.word is) .missing
    obtain ⟨whole, joined, kind, wholeItems⟩ := frontItems.joined backItems (frontKind.trans backKind.symm)
    rw [itemsBetween_append] at wholeItems
    have absent : evalBound scope none = .ok .null := by rw [evalBound]
    have bound : evalBound scope (some middle) = .ok value := by rw [evalBound, given]
    rw [Expr.eval, eval_slice evaluated absent bound, isFront, ok_bind, eval_slice evaluated bound absent, isBack,
      ok_bind, joined, wholeItems.unique sequence (kind.trans frontKind)]
  words length counts := by
    refine ⟨Word.position?_eq counts, fun i j => ?_⟩
    obtain ⟨start, stop, steps, first, second⟩ := Word.range?_eq counts i j
    have low := boundPosition_between items.length (Int.le_refl 0) (Int.natCast_nonneg _) i
    have high := boundPosition_between items.length (Int.natCast_nonneg _) (Int.le_refl _) j
    exact ⟨start, stop, steps, by omega, by omega, by omega, first, second⟩

/-- A text of two characters and three bytes. -/
theorem subscripts_of_text : (Expr.literal (.str "aé")).eval Scope.empty = .ok (.str "aé") ∧
    (Value.str "aé").Sequence [.str "a", .str "é"] ∧
      Subscripts Scope.empty (.literal (.str "aé")) (.str "aé") [.str "a", .str "é"] := by
  have evaluated : (Expr.literal (.str "aé")).eval Scope.empty = .ok (.str "aé") := by rw [Expr.eval]
  have sequence : (Value.str "aé").Sequence [.str "a", .str "é"] := .str "aé"
  exact ⟨evaluated, sequence, subscripts_of_sequence evaluated sequence⟩

end Expressions

end Stencil
