import Stencil.Value.Order
import Stencil.Proofs.Outcome
import Stencil.Proofs.Value.Equality
import Mathlib.Data.String.Basic

/-! The order of values without floating point numbers, which is not defined on all of them. Main statement:
`equality_and_order_lawful`. -/
namespace Stencil

namespace Value

variable {symbol symbol' : String} {a b c : Value} {found : Option Ordering}

/-- What the order of two values comes from. -/
inductive Ranked (symbol : String) : Value → Value → Option Ordering → Prop
  | number {a b : Value} {m n : Int} {o : Ordering} (first : a.number? = some (.int m))
      (second : b.number? = some (.int n)) (answer : Ord.compare m n = o) : Ranked symbol a b (some o)
  | str {text other : String} {o : Ordering} (answer : Ord.compare text other = o) :
      Ranked symbol (.str text) (.str other) (some o)
  | list {items others : List Value} {found : Option Ordering} (each : orderItems symbol items others = .ok found) :
      Ranked symbol (.list items) (.list others) found
  | tuple {items others : List Value} {found : Option Ordering} (each : orderItems symbol items others = .ok found) :
      Ranked symbol (.tuple items) (.tuple others) found

theorem order_of_numbers {m n : Int} (first : a.number? = some (.int m)) (second : b.number? = some (.int n)) :
    order symbol a b = .ok (some (Ord.compare m n)) := by
  cases a <;> cases b <;> simp_all [number?, order, Number.ofBool, Number.compare]

example : order "<" (.bool true) (.int 2) = .ok (some .lt) := by cbv

theorem ranked_of_order (free : a.FloatFree) (free' : b.FloatFree) (ok : order symbol a b = .ok found) :
    Ranked symbol a b found := by
  have numbers {m n : Int} (first : a.number? = some (.int m)) (second : b.number? = some (.int n)) :
      Ranked symbol a b found := by
    rw [order_of_numbers first second] at ok
    cases ok
    exact .number first second rfl
  cases free with
  | bool _ | int _ =>
    cases free' with
    | bool _ | int _ => exact numbers rfl rfl
    | _ => simp [order, number?] at ok
  | str text =>
    cases free' with
    | str other =>
      rw [order] at ok
      cases ok
      exact .str rfl
    | _ => simp [order, number?] at ok
  | list =>
    cases free' with
    | list => exact .list (by rwa [order] at ok)
    | _ => simp [order, number?] at ok
  | tuple =>
    cases free' with
    | tuple => exact .tuple (by rwa [order] at ok)
    | _ => simp [order, number?] at ok
  | null | map => cases free' <;> simp [order, number?] at ok

section Items
variable {items others last : List Value}

theorem orderItems_turned (free : ∀ a ∈ items, a.FloatFree) (free' : ∀ b ∈ others, b.FloatFree)
    (turn : ∀ a ∈ items, ∀ b ∈ others, ∀ found, order symbol a b = .ok found →
      ∃ o, found = some o ∧ order symbol' b a = .ok (some o.swap))
    (ok : orderItems symbol items others = .ok found) :
    ∃ o, found = some o ∧ orderItems symbol' others items = .ok (some o.swap) := by
  induction items generalizing others with
  | nil =>
    cases others <;> rw [orderItems] at ok <;> cases ok
    · exact ⟨.eq, rfl, by rw [orderItems]; rfl⟩
    · exact ⟨.lt, rfl, by rw [orderItems]; rfl⟩
  | cons a items ih =>
    cases others with
    | nil =>
      rw [orderItems] at ok
      cases ok
      exact ⟨.gt, rfl, by rw [orderItems]; rfl⟩
    | cons b others =>
      obtain ⟨here, later⟩ := List.forall_mem_cons.mp free
      obtain ⟨here', later'⟩ := List.forall_mem_cons.mp free'
      rw [orderItems] at ok ⊢
      rw [equals_comm here' here]
      split at ok
      next equal =>
        rw [if_pos equal]
        refine ih later later' (fun a member b member' => ?_) ok
        exact turn a (List.mem_cons_of_mem _ member) b (List.mem_cons_of_mem _ member')
      next differs =>
        rw [if_neg differs]
        exact turn a List.mem_cons_self b List.mem_cons_self found ok

theorem orderItems_eq_iff {o : Ordering} (each : ∀ a ∈ items, ∀ b ∈ others, ∀ o, order symbol a b = .ok (some o) →
      (o = .eq ↔ a.equals b = true)) (ok : orderItems symbol items others = .ok (some o)) :
    o = .eq ↔ equalItems items others = true := by
  induction items generalizing others with
  | nil =>
    cases others <;> rw [orderItems] at ok <;> cases ok <;> simp [equalItems]
  | cons a items ih =>
    cases others with
    | nil =>
      rw [orderItems] at ok
      cases ok
      simp [equalItems]
    | cons b others =>
      rw [orderItems] at ok
      rw [equalItems, Bool.and_eq_true]
      split at ok
      next equal =>
        rw [ih (fun a member b member' => ?_) ok]
        · simp [equal]
        · exact each a (List.mem_cons_of_mem _ member) b (List.mem_cons_of_mem _ member')
      next differs =>
        rw [each a List.mem_cons_self b List.mem_cons_self o ok]
        simp [differs]

theorem orderItems_congr (free : ∀ a ∈ items, a.FloatFree) (free' : ∀ b ∈ others, b.FloatFree)
    (free'' : ∀ c ∈ last, c.FloatFree) (equal : List.Forall₂ (fun a b => a.equals b = true) items others)
    (congr : ∀ a ∈ items, ∀ b ∈ others, ∀ c ∈ last, a.equals b = true → ∀ found, order symbol a c = .ok found →
      order symbol' b c = .ok found)
    (ok : orderItems symbol items last = .ok found) : orderItems symbol' others last = .ok found := by
  induction equal generalizing last with
  | nil => cases last <;> rwa [orderItems] at ok ⊢
  | @cons a b items others first _ ih =>
    cases last with
    | nil => rwa [orderItems] at ok ⊢
    | cons c last =>
      obtain ⟨here, later⟩ := List.forall_mem_cons.mp free
      obtain ⟨here', later'⟩ := List.forall_mem_cons.mp free'
      obtain ⟨here'', later''⟩ := List.forall_mem_cons.mp free''
      have same : a.equals c = b.equals c := equals_congr here here' here'' first
      rw [orderItems] at ok ⊢
      rw [← same]
      split at ok
      next equal =>
        rw [if_pos equal]
        refine ih later later' later'' (fun a member b member' c member'' => ?_) ok
        exact congr a (List.mem_cons_of_mem _ member) b (List.mem_cons_of_mem _ member') c
          (List.mem_cons_of_mem _ member'')
      next differs =>
        rw [if_neg differs]
        exact congr a List.mem_cons_self b List.mem_cons_self c List.mem_cons_self first found ok

end Items

/-- Where one value can be compared with another one, it can be the other way round, with the opposite answer. -/
theorem order_turned {a b : Value} {found : Option Ordering} (free : a.FloatFree) (free' : b.FloatFree)
    (ok : order symbol a b = .ok found) : ∃ o, found = some o ∧ order symbol' b a = .ok (some o.swap) := by
  cases ranked_of_order free free' ok with
  | number first second answer =>
    exact ⟨_, rfl, by rw [order_of_numbers second first, ← answer, ← Std.OrientedOrd.eq_swap]⟩
  | str answer => exact ⟨_, rfl, by rw [order, ← answer, ← Std.OrientedOrd.eq_swap]⟩
  | list each =>
    rw [order]
    exact orderItems_turned free.items free'.items (fun a member b member' found =>
      order_turned (free.items a member) (free'.items b member')) each
  | tuple each =>
    rw [order]
    exact orderItems_turned free.members free'.members (fun a member b member' found =>
      order_turned (free.members a member) (free'.members b member')) each
termination_by sizeOf a

theorem order_swap (free : a.FloatFree) (free' : b.FloatFree) {o : Ordering} (ok : order symbol a b = .ok (some o)) :
    order symbol' b a = .ok (some o.swap) := by
  obtain ⟨_, same, turned⟩ := order_turned free free' ok
  cases same
  exact turned

theorem order_eq_iff {a b : Value} {o : Ordering} (free : a.FloatFree) (free' : b.FloatFree)
    (ok : order symbol a b = .ok (some o)) : o = .eq ↔ a.equals b = true := by
  cases ranked_of_order free free' ok with
  | number first second answer =>
    rw [equals_of_numbers first second, ← answer, Std.LawfulEqCmp.compare_eq_iff_eq, beq_iff_eq]
  | str answer => rw [← answer, Std.LawfulEqCmp.compare_eq_iff_eq, equals, beq_iff_eq]
  | list each =>
    rw [equals]
    exact orderItems_eq_iff (fun a member b member' o =>
      order_eq_iff (free.items a member) (free'.items b member')) each
  | tuple each =>
    rw [equals]
    exact orderItems_eq_iff (fun a member b member' o =>
      order_eq_iff (free.members a member) (free'.members b member')) each
termination_by sizeOf a

/-- An equal value can be compared with the same values, with the same answers. -/
theorem order_congr {a b c : Value} {found : Option Ordering} (free : a.FloatFree) (free' : b.FloatFree)
    (free'' : c.FloatFree) (equal : a.equals b = true) (ok : order symbol a c = .ok found) :
    order symbol' b c = .ok found := by
  cases ranked_of_order free free'' ok with
  | number first second answer => rw [order_of_numbers (number_of_equals free free' equal first) second, answer]
  | str answer =>
    cases matched_of_equals free free' equal with
    | number first => cases first
    | str => rw [order, answer]
  | list each =>
    cases matched_of_equals free free' equal with
    | number first => cases first
    | list same =>
      rw [order]
      exact orderItems_congr free.items free'.items free''.items same (fun a member b member' c member'' equal found =>
        order_congr (free.items a member) (free'.items b member') (free''.items c member'') equal) each
  | tuple each =>
    cases matched_of_equals free free' equal with
    | number first => cases first
    | tuple same =>
      rw [order]
      exact orderItems_congr free.members free'.members free''.members same
        (fun a member b member' c member'' equal found =>
          order_congr (free.members a member) (free'.members b member') (free''.members c member'') equal) each
termination_by sizeOf a

theorem order_congr_right (free : a.FloatFree) (free' : b.FloatFree) (free'' : c.FloatFree) (equal : b.equals c = true)
    (ok : order symbol a b = .ok found) : order symbol' a c = .ok found := by
  obtain ⟨o, rfl, turned⟩ : ∃ o, found = some o ∧ order symbol b a = .ok (some o.swap) := order_turned free free' ok
  have moved : order symbol c a = .ok (some o.swap) := order_congr free' free'' free equal turned
  have back : order symbol' a c = .ok (some o.swap.swap) := order_swap free'' free moved
  rwa [Ordering.swap_swap] at back

/-- The operator that asks for an order has no part in the answer. -/
theorem order_symbol (free : a.FloatFree) (free' : b.FloatFree) (ok : order symbol a b = .ok found) :
    order symbol' a b = .ok found := order_congr free free free' (equals_refl free) ok

theorem not_equals_of_lt (free : a.FloatFree) (free' : b.FloatFree) (less : order symbol a b = .ok (some .lt)) :
    ¬ a.equals b = true := by
  intro equal
  have same := (order_eq_iff free free' less).mpr equal
  cases same

theorem orderItems_lt_trans {items others last : List Value} (free : ∀ a ∈ items, a.FloatFree)
    (free' : ∀ b ∈ others, b.FloatFree) (free'' : ∀ c ∈ last, c.FloatFree)
    (each : ∀ a ∈ items, ∀ b ∈ others, ∀ c ∈ last, order symbol a b = .ok (some .lt) →
      order symbol b c = .ok (some .lt) → order symbol a c = .ok (some .lt))
    (less : orderItems symbol items others = .ok (some .lt)) (less' : orderItems symbol others last = .ok (some .lt)) :
    orderItems symbol items last = .ok (some .lt) := by
  induction items generalizing others last with
  | nil =>
    cases others with
    | nil => exact less'
    | cons b others =>
      cases last with
      | nil => cases less'
      | cons c last => rw [orderItems]
  | cons a items ih =>
    cases others with
    | nil => cases less
    | cons b others =>
      cases last with
      | nil => cases less'
      | cons c last =>
        obtain ⟨here, later⟩ := List.forall_mem_cons.mp free
        obtain ⟨here', later'⟩ := List.forall_mem_cons.mp free'
        obtain ⟨here'', later''⟩ := List.forall_mem_cons.mp free''
        rw [orderItems] at less less' ⊢
        -- The first difference of the outer lists is the first place at which one of the two pairs differs.
        split at less
        next equal =>
          have same : a.equals c = b.equals c := equals_congr here here' here'' equal
          rw [same]
          split at less'
          next equal' =>
            rw [if_pos equal']
            refine ih later later' later'' (fun a member b member' c member'' => ?_) less less'
            exact each a (List.mem_cons_of_mem _ member) b (List.mem_cons_of_mem _ member') c
              (List.mem_cons_of_mem _ member'')
          next differs' =>
            rw [if_neg differs']
            exact order_congr here' here here'' (equals_symm here here' equal) less'
        next differs =>
          split at less'
          next equal' =>
            have outer : order symbol a c = .ok (some .lt) := order_congr_right here here' here'' equal' less
            rw [if_neg (not_equals_of_lt here here'' outer)]
            exact outer
          next differs' =>
            have outer : order symbol a c = .ok (some .lt) :=
              each a List.mem_cons_self b List.mem_cons_self c List.mem_cons_self less less'
            rw [if_neg (not_equals_of_lt here here'' outer)]
            exact outer

theorem order_lt_trans {a b c : Value} (free : a.FloatFree) (free' : b.FloatFree) (free'' : c.FloatFree)
    (less : order symbol a b = .ok (some .lt)) (less' : order symbol b c = .ok (some .lt)) :
    order symbol a c = .ok (some .lt) := by
  cases ranked_of_order free free' less with
  | number first second answer =>
    cases ranked_of_order free' free'' less' with
    | number second' third answer' =>
      cases second.symm.trans second'
      rw [order_of_numbers first third, Std.TransCmp.lt_trans answer answer']
    | _ => cases second
  | str answer =>
    cases ranked_of_order free' free'' less' with
    | number first => cases first
    | str answer' => rw [order, Std.TransCmp.lt_trans answer answer']
  | list each =>
    cases ranked_of_order free' free'' less' with
    | number first => cases first
    | list each' =>
      rw [order]
      exact orderItems_lt_trans free.items free'.items free''.items (fun a member b member' c member'' =>
        order_lt_trans (free.items a member) (free'.items b member') (free''.items c member'')) each each'
  | tuple each =>
    cases ranked_of_order free' free'' less' with
    | number first => cases first
    | tuple each' =>
      rw [order]
      exact orderItems_lt_trans free.members free'.members free''.members (fun a member b member' c member'' =>
        order_lt_trans (free.members a member) (free'.members b member') (free''.members c member'')) each each'
termination_by sizeOf a

section Orderings
variable {o o' wanted : Ordering}

theorem then_isLE (le : o.isLE) (le' : o'.isLE) : (o.then o').isLE :=
  Ordering.isLE_then_iff_and.mpr ⟨le, .inr le'⟩

theorem alike_of_isLE (le : o.isLE) (le' : o'.isLE) : o = .eq ∨ o' = .eq ∨ o = o' := by
  rcases Ordering.isLE_iff_eq_lt_or_eq_eq.mp le with rfl | rfl <;>
    rcases Ordering.isLE_iff_eq_lt_or_eq_eq.mp le' with rfl | rfl <;> simp

theorem swap_of_ne (strict : wanted ≠ .eq) (apart : o ≠ wanted) : o.swap = wanted ∨ o.swap = .eq := by
  cases o <;> cases wanted <;> simp at *

end Orderings

/-- Comparisons that do not point in opposite directions can be put together. -/
theorem order_then (free : a.FloatFree) (free' : b.FloatFree) (free'' : c.FloatFree) {o o' : Ordering}
    (alike : o = .eq ∨ o' = .eq ∨ o = o') (ok : order symbol a b = .ok (some o))
    (ok' : order symbol b c = .ok (some o')) : order symbol a c = .ok (some (o.then o')) := by
  by_cases first : o = .eq
  · have equal := (order_eq_iff free free' ok).mp first
    rw [first]
    exact order_congr free' free free'' (equals_symm free free' equal) ok'
  by_cases second : o' = .eq
  · have equal := (order_eq_iff free' free'' ok').mp second
    have kept : o.then o' = o := by rw [second, Ordering.then_eq]
    rw [kept]
    exact order_congr_right free free' free'' equal ok
  obtain rfl : o = o' := by simpa [first, second] using alike
  cases o with
  | eq => exact absurd rfl first
  | lt => exact order_lt_trans free free' free'' ok ok'
  | gt =>
    have less : order symbol c a = .ok (some .lt) :=
      order_lt_trans free'' free' free (order_swap free' free'' ok') (order_swap free free' ok)
    exact order_swap free'' free less

/-- Equality is an equivalence, and an order that is defined goes along with it: it is defined in both directions with
opposite answers, answers that values are equal exactly where they are, gives the same answers for equal values and
can be chained. -/
theorem equality_and_order_lawful {a b c : Value} (free : a.FloatFree) (free' : b.FloatFree) (free'' : c.FloatFree)
    (symbol symbol' : String) :
    (a.equals a = true ∧ a.equals b = b.equals a ∧
      (a.equals b = true → b.equals c = true → a.equals c = true)) ∧
    (∀ found, order symbol a b = .ok found → ∃ o, found = some o ∧ order symbol' b a = .ok (some o.swap) ∧
      (o = .eq ↔ a.equals b = true)) ∧
    (a.equals b = true → ∀ found, (order symbol a c = .ok found ↔ order symbol' b c = .ok found) ∧
      (order symbol c a = .ok found ↔ order symbol' c b = .ok found)) ∧
    ∀ o o', o.isLE → o'.isLE → order symbol a b = .ok (some o) → order symbol b c = .ok (some o') →
      ∃ whole, order symbol' a c = .ok (some whole) ∧ whole.isLE ∧ whole = o.then o' := by
  refine ⟨⟨equals_refl free, equals_comm free free', equals_trans free free' free''⟩, ?_, ?_, ?_⟩
  · intro found ok
    obtain ⟨o, rfl, turned⟩ : ∃ o, found = some o ∧ order symbol' b a = .ok (some o.swap) :=
      order_turned free free' ok
    exact ⟨o, rfl, turned, order_eq_iff free free' ok⟩
  · intro equal found
    have equal' := equals_symm free free' equal
    exact ⟨⟨order_congr free free' free'' equal, order_congr free' free free'' equal'⟩,
      ⟨order_congr_right free'' free free' equal, order_congr_right free'' free' free equal'⟩⟩
  · intro o o' le le' ok ok'
    have whole : order symbol' a c = .ok (some (o.then o')) :=
      order_symbol free free'' (order_then free free' free'' (alike_of_isLE le le') ok ok')
    exact ⟨_, whole, then_isLE le le', rfl⟩

theorem equality_and_order_lawful_of_maps : ∃ a b c : Value, a.FloatFree ∧ b.FloatFree ∧ c.FloatFree ∧
    a = .tuple [.bool true, .map [("k", .int 1), ("j", .null)]] ∧
    b = .tuple [.int 1, .map [("j", .null), ("k", .bool true)]] ∧ c = .tuple [.int 2] ∧
    a.equals b = true ∧ b.equals a = true ∧ order "<" b c = .ok (some .lt) ∧ order ">" c b = .ok (some .gt) ∧
    order ">" a c = .ok (some .lt) := by
  have first : (Value.tuple [.bool true, .map [("k", .int 1), ("j", .null)]]).FloatFree :=
    .tuple (by simp [FloatFree.bool, FloatFree.map, FloatFree.int, FloatFree.null])
  have second : (Value.tuple [.int 1, .map [("j", .null), ("k", .bool true)]]).FloatFree :=
    .tuple (by simp [FloatFree.bool, FloatFree.map, FloatFree.int, FloatFree.null])
  have third : (Value.tuple [.int 2]).FloatFree := .tuple (by simp [FloatFree.int])
  have equal : equals (.tuple [.bool true, .map [("k", .int 1), ("j", .null)]])
      (.tuple [.int 1, .map [("j", .null), ("k", .bool true)]]) = true := by decide +kernel
  have less : order "<" (.tuple [.int 1, .map [("j", .null), ("k", .bool true)]]) (.tuple [.int 2]) =
      .ok (some .lt) := by rfl
  refine ⟨_, _, _, first, second, third, rfl, rfl, rfl, equal, ?_, less, ?_, ?_⟩
  · exact (equality_and_order_lawful first second third "<" ">").1.2.1 ▸ equal
  · obtain ⟨_, same, turned, _⟩ := (equality_and_order_lawful second third first "<" ">").2.1 _ less
    cases same
    exact turned
  · exact (((equality_and_order_lawful first second third ">" "<").2.2.1 equal _).1).mpr less

end Value

end Stencil
