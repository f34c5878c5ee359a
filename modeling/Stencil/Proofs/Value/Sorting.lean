import Stencil.Expr.Builtin
import Stencil.Proofs.Value.Order

/-! Sorting and extremes of values without floating point numbers. Main statement: `sorted_stable`, that sorting
succeeds where any two items can be compared, is stable, and agrees with the extremes. -/
namespace Stencil

open Value

namespace Value

def Comparable (a b : Value) : Prop := ∃ o, order "<" a b = .ok (some o)

/-- The first value is not greater than the second one, and not less only if they are equal. -/
def AtMost (a b : Value) : Prop := ∃ o, order "<" a b = .ok (some o) ∧ o.isLE ∧ (o = .eq ↔ a.equals b = true)

variable {a b c : Value}

theorem Comparable.symm (free : a.FloatFree) (free' : b.FloatFree) (comparable : Comparable a b) : Comparable b a := by
  obtain ⟨o, ok⟩ := comparable
  exact ⟨o.swap, order_swap free free' ok⟩

theorem atMost_of_order (free : a.FloatFree) (free' : b.FloatFree) {o : Ordering} (ok : order "<" a b = .ok (some o))
    (le : o.isLE) : AtMost a b := ⟨o, ok, le, order_eq_iff free free' ok⟩

theorem AtMost.trans (free : a.FloatFree) (free' : b.FloatFree) (free'' : c.FloatFree) (first : AtMost a b)
    (second : AtMost b c) : AtMost a c := by
  obtain ⟨o, ok, le, _⟩ := first
  obtain ⟨o', ok', le', _⟩ := second
  exact atMost_of_order free free'' (order_then free free' free'' (alike_of_isLE le le') ok ok') (then_isLE le le')

/-- A rearrangement in which no item is less than one before it, and equal items keep their sequence. -/
structure StableSorting (items result : List Value) : Prop where
  perm : result.Perm items
  ascending : result.Pairwise AtMost
  stable : ∀ v : Value, v.FloatFree → result.filter (·.equals v) = items.filter (·.equals v)

end Value

section Insertion
variable {item : Value} {done result : List Value}

/-- Where an item is inserted into a list that is given with its last item first. -/
theorem insertSorted_eq_ok (free : item.FloatFree) (free' : ∀ v ∈ done, v.FloatFree)
    (ok : insertSorted item done = .ok result) : ∃ above below, done = above ++ below ∧
      result = above ++ item :: below ∧ (∀ v ∈ above, order "<" item v = .ok (some .lt)) ∧
      ∀ v ∈ below.head?, AtMost v item := by
  induction done generalizing result with
  | nil =>
    cases ok
    exact ⟨[], [], rfl, rfl, List.forall_mem_nil _, by simp⟩
  | cons last before ih =>
    obtain ⟨here, later⟩ := List.forall_mem_cons.mp free'
    rw [insertSorted] at ok
    obtain ⟨found, compared, ok⟩ := bind_eq_ok ok
    split at ok
    next less =>
      obtain ⟨rest, inserted, same⟩ := bind_eq_ok ok
      cases same
      obtain ⟨above, below, rfl, rfl, greater, behind⟩ := ih later inserted
      have first : order "<" item last = .ok (some .lt) := by rw [compared, beq_iff_eq.mp less]
      exact ⟨last :: above, below, rfl, rfl, List.forall_mem_cons.mpr ⟨first, greater⟩, behind⟩
    next notLess =>
      cases ok
      obtain ⟨o, rfl, turned⟩ : ∃ o, found = some o ∧ order "<" last item = .ok (some o.swap) :=
        order_turned free here compared
      have apart : o ≠ .lt := by simpa using notLess
      have le : o.swap.isLE := Ordering.isLE_swap.trans (Ordering.isGE_iff_ne_lt.mpr apart)
      refine ⟨[], last :: before, rfl, rfl, List.forall_mem_nil _, ?_⟩
      rintro _ ⟨⟩
      exact atMost_of_order here free turned le

theorem insertSorted_perm (free : item.FloatFree) (free' : ∀ v ∈ done, v.FloatFree)
    (ok : insertSorted item done = .ok result) : result.Perm (item :: done) := by
  obtain ⟨above, below, rfl, rfl, _, _⟩ := insertSorted_eq_ok free free' ok
  exact List.perm_middle

theorem insertSorted_ascending (free : item.FloatFree) (free' : ∀ v ∈ done, v.FloatFree)
    (ascending : done.Pairwise fun later earlier => AtMost earlier later) (ok : insertSorted item done = .ok result) :
    result.Pairwise fun later earlier => AtMost earlier later := by
  obtain ⟨above, below, rfl, rfl, greater, behind⟩ := insertSorted_eq_ok free free' ok
  obtain ⟨upper, lower, across⟩ := List.pairwise_append.mp ascending
  obtain ⟨freeAbove, freeBelow⟩ := List.forall_mem_append.mp free'
  have before : ∀ v ∈ below, AtMost v item := by
    cases below with
    | nil => exact List.forall_mem_nil _
    | cons head below =>
      obtain ⟨here, later⟩ := List.forall_mem_cons.mp freeBelow
      have first : AtMost head item := behind head rfl
      refine List.forall_mem_cons.mpr ⟨first, fun v member => ?_⟩
      exact AtMost.trans (later v member) here free ((List.pairwise_cons.mp lower).1 v member) first
  refine List.pairwise_append.mpr ⟨upper, List.pairwise_cons.mpr ⟨before, lower⟩, fun v member => ?_⟩
  refine List.forall_mem_cons.mpr ⟨?_, across v member⟩
  exact atMost_of_order free (freeAbove v member) (greater v member) rfl

theorem insertSorted_filter (free : item.FloatFree) (free' : ∀ v ∈ done, v.FloatFree)
    (ok : insertSorted item done = .ok result) {v : Value} (freeV : v.FloatFree) :
    result.filter (·.equals v) = (item :: done).filter (·.equals v) := by
  obtain ⟨above, below, rfl, rfl, greater, _⟩ := insertSorted_eq_ok free free' ok
  obtain ⟨freeAbove, _⟩ := List.forall_mem_append.mp free'
  by_cases equal : item.equals v = true
  · -- What the item has passed is greater than it, and so not equal to it.
    have passed : above.filter (·.equals v) = [] := by
      refine List.filter_eq_nil_iff.mpr fun w member same => ?_
      have back := equals_symm (freeAbove w member) freeV same
      exact not_equals_of_lt free (freeAbove w member) (greater w member)
        (equals_trans free freeV (freeAbove w member) equal back)
    simp [List.filter_append, equal, passed]
  · simp [List.filter_append, equal]

theorem insertSorted_succeeds (comparable : ∀ v ∈ done, Comparable item v) :
    ∃ result, insertSorted item done = .ok result := by
  induction done with
  | nil => exact ⟨[item], rfl⟩
  | cons last before ih =>
    obtain ⟨⟨o, ok⟩, later⟩ := List.forall_mem_cons.mp comparable
    obtain ⟨rest, inserted⟩ := ih later
    rw [insertSorted, ok, ok_bind]
    split
    next => exact ⟨last :: rest, by rw [inserted]; rfl⟩
    next => exact ⟨item :: last :: before, rfl⟩

end Insertion

section Sorting
variable {done items result : List Value}

theorem sortedFrom_sorts (free : ∀ v ∈ done, v.FloatFree) (free' : ∀ v ∈ items, v.FloatFree)
    (ascending : done.Pairwise fun later earlier => AtMost earlier later) (ok : sortedFrom done items = .ok result) :
    StableSorting (done.reverse ++ items) result := by
  induction items generalizing done with
  | nil =>
    cases ok
    rw [List.append_nil]
    exact ⟨.refl _, List.pairwise_reverse.mpr ascending, fun _ _ => rfl⟩
  | cons item items ih =>
    obtain ⟨here, later⟩ := List.forall_mem_cons.mp free'
    rw [sortedFrom] at ok
    obtain ⟨next, inserted, ok⟩ := bind_eq_ok ok
    have perm := insertSorted_perm here free inserted
    have freeNext : ∀ v ∈ next, v.FloatFree := fun v member =>
      List.forall_mem_cons.mpr ⟨here, free⟩ v (perm.mem_iff.mp member)
    obtain ⟨whole, sorted, stable⟩ := ih freeNext later (insertSorted_ascending here free ascending inserted) ok
    refine ⟨whole.trans ?_, sorted, fun v freeV => ?_⟩
    · have moved : (next.reverse ++ items).Perm ((item :: done).reverse ++ items) :=
        ((List.reverse_perm next).trans (perm.trans (List.reverse_perm (item :: done)).symm)).append_right items
      simpa using moved
    · rw [stable v freeV, List.filter_append, List.filter_reverse, insertSorted_filter here free inserted freeV,
        ← List.filter_reverse, ← List.filter_append, List.reverse_cons, List.append_assoc, List.singleton_append]

theorem sortedFrom_succeeds (free : ∀ v ∈ done, v.FloatFree) (free' : ∀ v ∈ items, v.FloatFree)
    (across : ∀ item ∈ items, ∀ v ∈ done, Comparable item v) (pairs : items.Pairwise Comparable) :
    ∃ result, sortedFrom done items = .ok result := by
  induction items generalizing done with
  | nil => exact ⟨done.reverse, rfl⟩
  | cons item items ih =>
    obtain ⟨here, later⟩ := List.forall_mem_cons.mp free'
    obtain ⟨first, others⟩ := List.forall_mem_cons.mp across
    obtain ⟨ahead, pairs⟩ := List.pairwise_cons.mp pairs
    obtain ⟨next, inserted⟩ := insertSorted_succeeds first
    have members : ∀ v ∈ next, v = item ∨ v ∈ done := fun v member =>
      List.mem_cons.mp ((insertSorted_perm here free inserted).mem_iff.mp member)
    have freeNext : ∀ v ∈ next, v.FloatFree := by
      intro v member
      rcases members v member with rfl | inside
      · exact here
      · exact free v inside
    rw [sortedFrom, inserted, ok_bind]
    refine ih freeNext later (fun other inside v member => ?_) pairs
    rcases members v member with rfl | before
    · exact (ahead other inside).symm here (later other inside)
    · exact others other inside v before

theorem sorted_sorts (free : ∀ v ∈ items, v.FloatFree) (ok : sorted items = .ok result) :
    StableSorting items result := by
  have none : ∀ v ∈ ([] : List Value), v.FloatFree := List.forall_mem_nil _
  exact sortedFrom_sorts none free .nil ok

/-- Sorting succeeds exactly where any two items can be compared. -/
theorem sorted_succeeds_iff (free : ∀ v ∈ items, v.FloatFree) :
    (∃ result, sorted items = .ok result) ↔ items.Pairwise Comparable := by
  constructor
  · rintro ⟨result, ok⟩
    obtain ⟨perm, ascending, _⟩ := sorted_sorts free ok
    have both : result.Pairwise fun a b => Comparable a b ∧ Comparable b a := by
      refine ascending.imp_of_mem fun {a b} member member' below => ?_
      obtain ⟨o, ok, _⟩ := below
      have comparable : Comparable a b := ⟨o, ok⟩
      exact ⟨comparable, comparable.symm (free a (perm.mem_iff.mp member)) (free b (perm.mem_iff.mp member'))⟩
    exact (perm.pairwise both fun {_ _} => And.symm).imp And.left
  · exact sortedFrom_succeeds (List.forall_mem_nil _) free fun _ _ _ => List.not_mem_nil.elim

end Sorting

section Extremes
variable {items result seen rest : List Value} {wanted : Ordering} {best : Value}

/-- The first one of the least or of the greatest items. -/
def Value.Extreme (wanted : Ordering) (items : List Value) (best : Value) : Prop :=
  ∃ front behind, items = front ++ best :: behind ∧ (∀ v ∈ front, order "<" best v = .ok (some wanted)) ∧
    ∀ v ∈ behind, ∃ o, order "<" best v = .ok (some o) ∧ (o = wanted ∨ o = .eq)

theorem Value.Extreme.mem (extreme : Extreme wanted items best) : best ∈ items := by
  obtain ⟨front, behind, rfl, _, _⟩ := extreme
  exact List.mem_append_right front List.mem_cons_self

theorem extremeFrom_finds {symbol : String} (strict : wanted ≠ .eq) (free : ∀ v ∈ seen, v.FloatFree)
    (free' : ∀ v ∈ rest, v.FloatFree) (pairs : (best :: rest).Pairwise Comparable)
    (extreme : Extreme wanted seen best) :
    ∃ found, extremeFrom symbol wanted best rest = .ok found ∧ Extreme wanted (seen ++ rest) found := by
  induction rest generalizing seen best with
  | nil => exact ⟨best, rfl, by rwa [List.append_nil]⟩
  | cons item rest ih =>
    obtain ⟨front, behind, rfl, ahead, later⟩ := extreme
    obtain ⟨freeFront, freeTail⟩ := List.forall_mem_append.mp free
    obtain ⟨freeBest, freeBehind⟩ := List.forall_mem_cons.mp freeTail
    obtain ⟨freeItem, freeRest⟩ := List.forall_mem_cons.mp free'
    obtain ⟨first, pairsRest⟩ := List.pairwise_cons.mp pairs
    obtain ⟨o, compared⟩ := (first item List.mem_cons_self).symm freeBest freeItem
    have freeSeen : ∀ v ∈ front ++ best :: behind ++ [item], v.FloatFree :=
      List.forall_mem_append.mpr ⟨free, List.forall_mem_singleton.mpr freeItem⟩
    rw [extremeFrom, order_symbol freeItem freeBest compared, ok_bind, List.append_cons]
    by_cases better : o = wanted
    · subst better
      rw [if_pos (beq_self_eq_true _)]
      have beyond : ∀ v ∈ front ++ best :: behind, order "<" item v = .ok (some o) := by
        refine List.forall_mem_append.mpr ⟨fun v member => ?_, List.forall_mem_cons.mpr ⟨compared, fun v member => ?_⟩⟩
        · have chained := order_then freeItem freeBest (freeFront v member) (.inr (.inr rfl)) compared (ahead v member)
          rwa [Ordering.then_self] at chained
        · obtain ⟨o', ok, alike⟩ := later v member
          have kept : o.then o' = o := by
            rcases alike with rfl | rfl
            · exact Ordering.then_self
            · exact Ordering.then_eq
          have chained := order_then freeItem freeBest (freeBehind v member)
            (.inr (alike.symm.imp id Eq.symm)) compared ok
          rwa [kept] at chained
      exact ih freeSeen freeRest pairsRest ⟨front ++ best :: behind, [], rfl, beyond, List.forall_mem_nil _⟩
    · rw [if_neg (by simpa using better)]
      have back : order "<" best item = .ok (some o.swap) := order_swap freeItem freeBest compared
      have within : o.swap = wanted ∨ o.swap = .eq := swap_of_ne strict better
      refine ih freeSeen freeRest (pairs.sublist (List.Sublist.cons_cons best (List.sublist_cons_self item rest)))
        ⟨front, behind ++ [item], by simp, ahead, ?_⟩
      exact List.forall_mem_append.mpr ⟨later, List.forall_mem_singleton.mpr ⟨_, back, within⟩⟩

theorem extremeOf_finds (function symbol : String) (strict : wanted ≠ .eq) (free : ∀ v ∈ items, v.FloatFree)
    (pairs : items.Pairwise Comparable) (any : items ≠ []) :
    ∃ found, extremeOf function symbol wanted items = .ok found ∧ Extreme wanted items found := by
  cases items with
  | nil => exact absurd rfl any
  | cons first rest =>
    obtain ⟨here, later⟩ := List.forall_mem_cons.mp free
    have start : Extreme wanted [first] first := ⟨[], [], rfl, List.forall_mem_nil _, List.forall_mem_nil _⟩
    exact extremeFrom_finds strict (List.forall_mem_singleton.mpr here) later pairs start

/-- Of the items that equal an extreme one, it is the first. -/
theorem Value.Extreme.first (strict : wanted ≠ .eq) (free : ∀ v ∈ items, v.FloatFree)
    (extreme : Extreme wanted items best) {v : Value} (freeV : v.FloatFree) (equal : best.equals v = true) :
    items.find? (·.equals v) = some best := by
  obtain ⟨front, behind, rfl, ahead, _⟩ := extreme
  obtain ⟨freeFront, freeTail⟩ := List.forall_mem_append.mp free
  have freeBest := freeTail best List.mem_cons_self
  refine List.find?_eq_some_iff_append.mpr ⟨equal, front, behind, rfl, fun w member => ?_⟩
  have freeW := freeFront w member
  have apart : ¬ w.equals v = true := fun same =>
    strict ((order_eq_iff freeBest freeW (ahead w member)).mpr
      (equals_trans freeBest freeV freeW equal (equals_symm freeW freeV same)))
  simpa using apart

/-- An extreme item equals each item that it is not beyond. -/
theorem Value.Extreme.equals (free : ∀ v ∈ items, v.FloatFree)
    (extreme : Extreme wanted items best) {v : Value} (member : v ∈ items)
    (bound : best = v ∨ ∃ o, order "<" best v = .ok (some o) ∧ o ≠ wanted) : best.equals v = true := by
  have freeBest := free best extreme.mem
  obtain ⟨front, behind, rfl, ahead, later⟩ := extreme
  rcases bound with rfl | ⟨o, ok, within⟩
  · exact equals_refl freeBest
  refine (order_eq_iff freeBest (free v member) ok).mp ?_
  rcases List.mem_append.mp member with before | inside
  · rw [ahead v before] at ok
    cases ok
    exact absurd rfl within
  rcases List.mem_cons.mp inside with rfl | after
  · exact (order_eq_iff freeBest freeBest ok).mpr (equals_refl freeBest)
  · obtain ⟨_, ok', beyond | equal⟩ := later v after <;> rw [ok] at ok' <;> cases ok'
    · exact absurd beyond within
    · exact equal

end Extremes

section Builtins
variable {collection : Value} {items result : List Value}

theorem call_sorted (holds : collection.items = .ok items) :
    Builtin.sorted.call [collection] = .ok (.list result) ↔ sorted items = .ok result := by
  simp only [Builtin.call, oneArgument, holds, ok_bind]
  cases sorted items with
  | error e => simp
  | ok list => exact ⟨fun same => by cases same; rfl, fun same => by cases same; rfl⟩

theorem call_min (holds : collection.items = .ok items) :
    Builtin.min.call [collection] = extremeOf "min" "<" .lt items := by
  rw [Builtin.call, extreme, holds, ok_bind]

theorem call_max (holds : collection.items = .ok items) :
    Builtin.max.call [collection] = extremeOf "max" ">" .gt items := by
  rw [Builtin.call, extreme, holds, ok_bind]

/-- Sorting a collection succeeds exactly where any two of its items can be compared, and gives a stable sorting.
The least item is then the first one of it, and the greatest item the first one that equals the last one of it. -/
theorem sorted_stable (holds : collection.items = .ok items) (free : ∀ v ∈ items, v.FloatFree) :
    ((∃ result, Builtin.sorted.call [collection] = .ok (.list result)) ↔ items.Pairwise Comparable) ∧
      ∀ result, Builtin.sorted.call [collection] = .ok (.list result) → StableSorting items result ∧
        (∀ least later, result = least :: later → Builtin.min.call [collection] = .ok least) ∧
        ∀ front last, result = front ++ [last] →
          ∃ greatest, Builtin.max.call [collection] = .ok greatest ∧ items.find? (·.equals last) = some greatest := by
  simp only [call_sorted holds, call_min holds, call_max holds]
  refine ⟨sorted_succeeds_iff free, fun result ok => ?_⟩
  have sorting := sorted_sorts free ok
  have pairs := (sorted_succeeds_iff free).mp ⟨result, ok⟩
  have strict : Ordering.lt ≠ .eq := by decide
  have strict' : Ordering.gt ≠ .eq := by decide
  refine ⟨sorting, ?_, ?_⟩
  · rintro least later rfl
    have member : least ∈ items := sorting.perm.mem_iff.mp List.mem_cons_self
    obtain ⟨found, given, extreme⟩ := extremeOf_finds "min" "<" strict free pairs (List.ne_nil_of_mem member)
    have bound : found = least ∨ ∃ o, order "<" found least = .ok (some o) ∧ o ≠ .lt := by
      rcases List.mem_cons.mp (sorting.perm.mem_iff.mpr extreme.mem) with same | after
      · exact .inl same
      · obtain ⟨o, ok, le, _⟩ := (List.pairwise_cons.mp sorting.ascending).1 found after
        have swapped : o.swap ≠ .lt := fun same => Ordering.isLE_iff_ne_gt.mp le (Ordering.swap_eq_lt.mp same)
        exact .inr ⟨o.swap, order_swap (free least member) (free found extreme.mem) ok, swapped⟩
    have first : items.find? (·.equals least) = some found :=
      extreme.first strict free (free least member) (extreme.equals free member bound)
    -- The items that equal the least one stand in the same sequence before and after sorting.
    have head := congrArg List.head? (sorting.stable least (free least member))
    have here : (least :: later).find? (·.equals least) = some least := by simp [equals_refl (free least member)]
    rw [List.head?_filter, List.head?_filter, first, here] at head
    cases head
    exact given
  · rintro front last rfl
    have member : last ∈ items := sorting.perm.mem_iff.mp (by simp)
    obtain ⟨found, given, extreme⟩ := extremeOf_finds "max" ">" strict' free pairs (List.ne_nil_of_mem member)
    have bound : found = last ∨ ∃ o, order "<" found last = .ok (some o) ∧ o ≠ .gt := by
      rcases List.mem_append.mp (sorting.perm.mem_iff.mpr extreme.mem) with before | same
      · obtain ⟨_, _, across⟩ := List.pairwise_append.mp sorting.ascending
        obtain ⟨o, ok, le, _⟩ := across found before last List.mem_cons_self
        exact .inr ⟨o, ok, Ordering.isLE_iff_ne_gt.mp le⟩
      · exact .inl (List.mem_singleton.mp same)
    exact ⟨found, given, extreme.first strict' free (free last member) (extreme.equals free member bound)⟩

theorem sorted_stable_of_equal_numbers : ∃ items : List Value, (∀ v ∈ items, v.FloatFree) ∧
    items = [.int 1, .bool false, .bool true] ∧ StableSorting items [.bool false, .int 1, .bool true] ∧
    items.Pairwise Comparable ∧ Builtin.min.call [.tuple items] = .ok (.bool false) ∧
    Builtin.max.call [.tuple items] = .ok (.int 1) := by
  have free : ∀ v ∈ [Value.int 1, .bool false, .bool true], v.FloatFree := by simp [FloatFree.int, FloatFree.bool]
  have result : Builtin.sorted.call [.tuple [.int 1, .bool false, .bool true]] =
      .ok (.list [.bool false, .int 1, .bool true]) := by rfl
  have holds : (Value.tuple [.int 1, .bool false, .bool true]).items = .ok [.int 1, .bool false, .bool true] := rfl
  obtain ⟨succeeds, gives⟩ := sorted_stable holds free
  obtain ⟨sorting, least, greatest⟩ := gives _ result
  obtain ⟨found, given, first⟩ := greatest [.bool false, .int 1] (.bool true) rfl
  have here : found = .int 1 := by
    have equal : Value.equals (.int 1) (.bool true) = true := by decide +kernel
    rw [List.find?_cons_of_pos (by exact equal)] at first
    exact (Option.some.inj first).symm
  exact ⟨_, free, rfl, sorting, succeeds.mp ⟨_, result⟩, least _ _ rfl, here ▸ given⟩

end Builtins

end Stencil
