import Stencil.Expr.Builtin
import Stencil.Proofs.Outcome
import Stencil.Proofs.Value.Words

/-! Ranges and numbered items. Main statement: a range has exactly the terms before its end, as many as were counted
for it, and items are numbered one by one for as long as words hold the numbers. -/
namespace Stencil

/-- The arguments of a range: its end, both ends, or also the step. -/
inductive RangeArguments : List Value → Int64 → Int64 → Int64 → Prop
  | stop {last : Value} {stop : Int64} (is : last.word? = some stop) : RangeArguments [last] 0 stop 1
  | ends {first last : Value} {start stop : Int64} (starts : first.word? = some start)
      (stops : last.word? = some stop) : RangeArguments [first, last] start stop 1
  | steps {first last size : Value} {start stop step : Int64} (starts : first.word? = some start)
      (stops : last.word? = some stop) (is : size.word? = some step) :
      RangeArguments [first, last, size] start stop step

/-- The arguments of a numbering: what is numbered, and the first number if it is not zero. -/
inductive NumberingArguments : List Value → Value → Int64 → Prop
  | collection (collection : Value) : NumberingArguments [collection] collection 0
  | start (collection : Value) {first : Value} {start : Int64} (is : first.word? = some start) :
      NumberingArguments [collection, first] collection start

/-- The words from one on in steps, for as long as the end is ahead. -/
structure Terms (start stop step : Int64) (items : List Value) : Prop where
  within : ∀ k : Nat, k < items.length ↔ Ahead stop.toInt step.toInt (start.toInt + k * step.toInt)
  item : ∀ k < items.length, ∃ word : Int64, items[k]? = some (.int word) ∧
    word.toInt = start.toInt + k * step.toInt

/-- Items in pairs with the numbers from one on. -/
structure Numbered (start : Int) (items pairs : List Value) : Prop where
  length : pairs.length = items.length
  pair : ∀ (k : Nat) (item : Value), items[k]? = some item → ∃ word : Int64,
    pairs[k]? = some (.tuple [.int word, item]) ∧ word.toInt = start + k

theorem Word.isSome_ofInt? {n : Int} : (Word.ofInt? n).isSome ↔ FitsWord n := by
  unfold Word.ofInt?
  split
  next fits => exact iff_of_true rfl fits
  next large => exact iff_of_false nofun large

section Range

variable {start stop step : Int}

/-- The terms that are counted are those before the end. -/
theorem lt_rangeLength (nonzero : step ≠ 0) (k : Nat) :
    k < rangeLength start stop step ↔ Ahead stop step (start + k * step) := by
  have positive : (0 : Int) < step.natAbs := by omega
  have counted (span : Int) :
      k < (if span ≤ 0 then 0 else ((span - 1) / step.natAbs + 1).toNat) ↔ k * (step.natAbs : Int) < span := by
    have far : 0 ≤ k * (step.natAbs : Int) := Int.mul_nonneg (Int.natCast_nonneg k) (Int.natCast_nonneg _)
    split
    · omega
    · rw [Int.lt_toNat, Int.lt_add_one_iff, Int.le_ediv_iff_mul_le positive]
      omega
  have size : k * (step.natAbs : Int) = if 0 < step then k * step else -(k * step) := by
    split
    · rw [Int.natAbs_of_nonneg (by omega)]
    · rw [Int.ofNat_natAbs_of_nonpos (by omega), Int.mul_neg]
  unfold rangeLength Ahead
  dsimp only
  rw [counted, size]
  generalize k * step = far
  split <;> omega

theorem rangeLength_pos (nonzero : step ≠ 0) : 0 < rangeLength start stop step ↔ Ahead stop step start := by
  rw [lt_rangeLength nonzero 0, Int.natCast_zero, Int.zero_mul, Int.add_zero]

theorem term_succ (start step : Int) (k : Nat) : start + (k + 1 : Nat) * step = start + step + k * step := by
  rw [Int.natCast_succ, Int.add_mul, Int.one_mul]
  omega

theorem rangeLength_behind (nonzero : step ≠ 0) :
    rangeLength (start + step) stop step = rangeLength start stop step - 1 := by
  have shifted (k : Nat) : k < rangeLength (start + step) stop step ↔ k + 1 < rangeLength start stop step := by
    rw [lt_rangeLength nonzero, lt_rangeLength nonzero, term_succ]
  have last := shifted (rangeLength (start + step) stop step - 1)
  have next := shifted (rangeLength (start + step) stop step)
  omega

/-- The terms of a range, as many as are counted for it. -/
def rangeTerms (start stop step : Int) : List Value :=
  (List.range (rangeLength start stop step)).map fun k : Nat => .int (Int64.ofInt (start + k * step))

theorem length_rangeTerms (start stop step : Int) :
    (rangeTerms start stop step).length = rangeLength start stop step := by
  rw [rangeTerms, List.length_map, List.length_range]

theorem rangeTerms_of_not_ahead (nonzero : step ≠ 0) (ended : ¬ Ahead stop step start) :
    rangeTerms start stop step = [] := by
  have none : rangeLength start stop step = 0 :=
    Nat.eq_zero_of_not_pos fun some => ended ((rangeLength_pos nonzero).mp some)
  rw [rangeTerms, none]
  rfl

/-- A step to an integer that does not fit goes past the end. -/
theorem not_ahead_of_large (limit : FitsWord stop) (current : FitsWord start) (large : ¬ FitsWord (start + step)) :
    ¬ Ahead stop step (start + step) := by
  rw [fits_iff] at limit current large
  unfold Ahead
  omega

theorem rangeTerms_of_ahead (nonzero : step ≠ 0) (ahead : Ahead stop step start) :
    rangeTerms start stop step = .int (Int64.ofInt start) :: rangeTerms (start + step) stop step := by
  obtain ⟨count, counted⟩ : ∃ count, rangeLength start stop step = count + 1 :=
    Nat.exists_eq_add_one.mpr ((rangeLength_pos nonzero).mpr ahead)
  rw [rangeTerms, rangeTerms, rangeLength_behind nonzero, counted, List.range_succ_eq_map, List.map_cons,
    List.map_map, Int.natCast_zero, Int.zero_mul, Int.add_zero, Nat.add_sub_cancel]
  congr 1
  refine List.map_congr_left fun k _ => ?_
  rw [Function.comp_apply, term_succ]

/-- The loop gives the terms that are counted, behind those before it. -/
theorem rangeFrom_eq (nonzero : step ≠ 0) (limit : FitsWord stop) (current : FitsWord start) (done : List Value) :
    rangeFrom stop step start done = done.reverse ++ rangeTerms start stop step := by
  fun_induction rangeFrom stop step start done with
  | case1 start done ahead done' fits ih =>
    rw [Value.ofInt?_eq, Option.isSome_map, Word.isSome_ofInt?] at fits
    rw [ih fits, rangeTerms_of_ahead nonzero ahead]
    simp [done']
  | case2 start done ahead done' large =>
    rw [Value.ofInt?_eq, Option.isSome_map, Word.isSome_ofInt?] at large
    have ended := not_ahead_of_large limit current large
    rw [rangeTerms_of_ahead nonzero ahead, rangeTerms_of_not_ahead nonzero ended]
    simp [done']
  | case3 start done ended => rw [rangeTerms_of_not_ahead nonzero ended, List.append_nil]

theorem FitsWord.between {start stop n : Int} (first : FitsWord start) (last : FitsWord stop)
    (inside : (start ≤ n ∧ n < stop) ∨ (stop < n ∧ n ≤ start)) : FitsWord n := by
  rw [fits_iff] at first last ⊢
  omega

theorem terms_rangeTerms (start stop : Int64) {step : Int64} (nonzero : step.toInt ≠ 0) :
    Terms start stop step (rangeTerms start.toInt stop.toInt step.toInt) := by
  refine ⟨fun k => by rw [length_rangeTerms, lt_rangeLength nonzero], fun k inside => ?_⟩
  rw [length_rangeTerms] at inside
  have ahead := (lt_rangeLength nonzero k).mp inside
  have fits : FitsWord (start.toInt + k * step.toInt) := by
    refine (fits_toInt start).between (fits_toInt stop) ?_
    have forward : 0 < step.toInt → 0 ≤ k * step.toInt := fun up => Int.mul_nonneg (Int.natCast_nonneg k) (by omega)
    have backward : step.toInt < 0 → k * step.toInt ≤ 0 := fun down =>
      Int.mul_nonpos_of_nonneg_of_nonpos (Int.natCast_nonneg k) (by omega)
    unfold Ahead at ahead
    omega
  refine ⟨Int64.ofInt (start.toInt + k * step.toInt), ?_, toInt_ofInt fits⟩
  rw [rangeTerms, List.getElem?_map, List.getElem?_range inside]
  rfl

end Range

section Numbering

theorem exactly_of_fits {n : Int} (fits : FitsWord n) :
    ∃ word : Int64, exactly n = .ok (.int word) ∧ word.toInt = n := by
  obtain ⟨word, made, same⟩ := Word.ofInt?_of_fits fits
  refine ⟨word, ?_, same⟩
  rw [exactly_eq, made]
  rfl

/-- Items are numbered if a word holds the last number. -/
theorem numbered_of_fits {first : Int} {items : List Value} (least : Int64.minValue.toInt ≤ first)
    (fits : items = [] ∨ FitsWord (first + items.length - 1)) :
    ∃ pairs, numbered first items = .ok pairs ∧ Numbered first items pairs := by
  induction items generalizing first with
  | nil => exact ⟨[], rfl, rfl, fun k item inside => by simp at inside⟩
  | cons item rest ih =>
    have last : FitsWord (first + (rest.length + 1 : Nat) - 1) := fits.resolve_left (List.cons_ne_nil item rest)
    have here : FitsWord first := ⟨least, by have := last.2; omega⟩
    obtain ⟨word, given, same⟩ := exactly_of_fits here
    have later : FitsWord (first + 1 + rest.length - 1) := by
      have shifted : first + 1 + rest.length - 1 = first + (rest.length + 1 : Nat) - 1 := by omega
      rwa [shifted]
    obtain ⟨pairs, others, numbers⟩ := ih (by omega) (.inr later)
    refine ⟨.tuple [.int word, item] :: pairs, ?_, by simp [numbers.length], ?_⟩
    · rw [numbered, given, ok_bind, others, ok_bind]
      rfl
    · intro k other inside
      cases k with
      | zero =>
        cases inside
        exact ⟨word, rfl, by simp [same]⟩
      | succ k =>
        obtain ⟨number, paired, counted⟩ := numbers.pair k other inside
        exact ⟨number, paired, by omega⟩

/-- Items are not numbered if no word holds the last number. -/
theorem numbered_of_large {first : Int} {items : List Value} (least : Int64.minValue.toInt ≤ first)
    (any : items ≠ []) (large : ¬ FitsWord (first + items.length - 1)) :
    numbered first items = .error (.value .overflow) := by
  induction items generalizing first with
  | nil => contradiction
  | cons item rest ih =>
    rw [numbered]
    by_cases here : FitsWord first
    · obtain ⟨word, given, _⟩ := exactly_of_fits here
      have more : rest ≠ [] := by
        rintro rfl
        exact large (by simpa using here)
      have later : ¬ FitsWord (first + 1 + rest.length - 1) := by
        have shifted : first + 1 + rest.length - 1 = first + (rest.length + 1 : Nat) - 1 := by omega
        rwa [shifted]
      rw [given, ok_bind, ih (by omega) more later]
      rfl
    · rw [exactly_eq, Word.ofInt?_eq_none.mpr here]
      rfl

end Numbering

section Calls

variable {arguments items : List Value} {collection : Value} {start stop step : Int64}

theorem integerArgument_of_word {function : String} {value : Value} {word : Int64} (is : value.word? = some word) :
    integerArgument function value = .ok word.toInt := by
  rw [integerArgument, integer?_of_word? is]

theorem call_range (given : RangeArguments arguments start stop step) :
    Builtin.range.call arguments = rangeOf start.toInt stop.toInt step.toInt := by
  cases given with
  | stop is =>
    dsimp only [Builtin.call, range]
    rw [integerArgument_of_word is]
    rfl
  | ends starts stops =>
    dsimp only [Builtin.call, range]
    rw [integerArgument_of_word starts, integerArgument_of_word stops]
    rfl
  | steps starts stops is =>
    dsimp only [Builtin.call, range]
    rw [integerArgument_of_word starts, integerArgument_of_word stops, integerArgument_of_word is]
    rfl

theorem call_enumerate (given : NumberingArguments arguments collection start) (held : collection.items = .ok items) :
    Builtin.enumerate.call arguments = (do return .list (← numbered start.toInt items)) := by
  cases given with
  | collection =>
    dsimp only [Builtin.call, enumerate, enumerateOf]
    rw [held]
    rfl
  | start _ is =>
    dsimp only [Builtin.call, enumerate]
    rw [held, integerArgument_of_word is]
    rfl

/-- What the loop of a range gives. -/
def rangeLoop (start stop step : Int64) : List Value := rangeFrom stop.toInt step.toInt start.toInt []

theorem rangeLoop_eq (start stop : Int64) (nonzero : step.toInt ≠ 0) :
    rangeLoop start stop step = rangeTerms start.toInt stop.toInt step.toInt :=
  rangeFrom_eq nonzero (fits_toInt stop) (fits_toInt start) []

theorem rangeOf_eq (start stop : Int64) (nonzero : step.toInt ≠ 0) :
    rangeOf start.toInt stop.toInt step.toInt =
      if rangeLength start.toInt stop.toInt step.toInt ≤ 16777216 then .ok (.list (rangeLoop start stop step))
      else .error (.value .tooLong) := by
  rw [rangeOf, if_neg nonzero, checkLength, maxSequenceLength]
  split
  next => rfl
  next => rfl

end Calls

/-- A range gives its terms, all that are before its end, if there are no more than a sequence may have, and is refused
otherwise. Its loop gives as many as were counted. Numbering gives all items in pairs with the numbers from the first
one on, if words hold them, and is refused otherwise. -/
theorem ranges_and_numbers_exact :
    (∀ arguments start stop step, RangeArguments arguments start stop step → step ≠ 0 →
      Terms start stop step (rangeLoop start stop step) ∧
      rangeLength start.toInt stop.toInt step.toInt = (rangeLoop start stop step).length ∧
      Builtin.range.call arguments = if (rangeLoop start stop step).length ≤ 16777216
        then .ok (.list (rangeLoop start stop step)) else .error (.value .tooLong)) ∧
    ∀ arguments collection start items, NumberingArguments arguments collection start → collection.items = .ok items →
      if items = [] ∨ FitsWord (start.toInt + items.length - 1) then
        ∃ pairs, Builtin.enumerate.call arguments = .ok (.list pairs) ∧ Numbered start.toInt items pairs
      else Builtin.enumerate.call arguments = .error (.value .overflow) := by
  refine ⟨fun arguments start stop step given nonzero => ?_, fun arguments collection start items given held => ?_⟩
  · have nonzero : step.toInt ≠ 0 := fun same => nonzero (Int64.toInt_inj.mp same)
    have counted : (rangeLoop start stop step).length = rangeLength start.toInt stop.toInt step.toInt := by
      rw [rangeLoop_eq start stop nonzero, length_rangeTerms]
    refine ⟨?_, counted.symm, ?_⟩
    · rw [rangeLoop_eq start stop nonzero]
      exact terms_rangeTerms start stop nonzero
    · rw [call_range given, rangeOf_eq start stop nonzero, counted]
  · have least := (fits_toInt start).1
    rw [call_enumerate given held]
    split
    next fits =>
      obtain ⟨pairs, made, numbers⟩ := numbered_of_fits least fits
      rw [made]
      exact ⟨pairs, rfl, numbers⟩
    next large =>
      obtain ⟨any, large⟩ := not_or.mp large
      rw [numbered_of_large least any large]
      rfl

theorem ranges_and_numbers_near_the_limit :
    (∃ items, Builtin.range.call [.int 9223372036854775800, .int 9223372036854775807, .int 5] = .ok (.list items) ∧
      items.length = 2 ∧ items[1]? = some (.int 9223372036854775805)) ∧
    (∃ pairs, Builtin.enumerate.call [.list [.null], .int 9223372036854775807] = .ok (.list pairs) ∧
      Numbered 9223372036854775807 [.null] pairs) ∧
    Builtin.enumerate.call [.list [.null, .null], .int 9223372036854775807] = .error (.value .overflow) := by
  obtain ⟨ranges, numbers⟩ := ranges_and_numbers_exact
  refine ⟨?_, ?_, ?_⟩
  · obtain ⟨terms, counted, given⟩ := ranges [.int 9223372036854775800, .int 9223372036854775807, .int 5] _ _ _
      (.steps rfl rfl rfl) (by decide)
    have two : (rangeLoop 9223372036854775800 9223372036854775807 5).length = 2 := counted.symm.trans (by decide)
    obtain ⟨word, second, same⟩ := terms.item 1 (by rw [two]; decide)
    obtain rfl : word = 9223372036854775805 := Int64.toInt_inj.mp same
    exact ⟨_, by rw [given, two]; rfl, two, second⟩
  · have fits := numbers [.list [.null], .int 9223372036854775807] _ _ _ (.start _ rfl) rfl
    rw [if_pos (by decide)] at fits
    exact fits
  · have large := numbers [.list [.null, .null], .int 9223372036854775807] _ _ _ (.start _ rfl) rfl
    rw [if_neg (by decide)] at large
    exact large

end Stencil
