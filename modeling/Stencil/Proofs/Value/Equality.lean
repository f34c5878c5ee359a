import Stencil.Value.Equality
import Mathlib.Data.List.Forall2
import Mathlib.Data.List.Perm.Subperm

/-! The equality of the comparison operators on values without floating point numbers. Main statements: it is
reflexive, symmetric and transitive, although numbers of different types can be equal and the entries of a map are
looked up in one direction only. -/
namespace Stencil

/-- Values without floating point numbers at any depth. The keys of a map are distinct. -/
inductive Value.FloatFree : Value → Prop
  | null : FloatFree .null
  | bool (b : Bool) : FloatFree (.bool b)
  | int (n : Int64) : FloatFree (.int n)
  | str (text : String) : FloatFree (.str text)
  | list {items : List Value} (all : ∀ item ∈ items, FloatFree item) : FloatFree (.list items)
  | tuple {items : List Value} (all : ∀ item ∈ items, FloatFree item) : FloatFree (.tuple items)
  | map {entries : Entries} (distinct : (entries.map Prod.fst).Nodup)
      (all : ∀ entry ∈ entries, FloatFree entry.2) : FloatFree (.map entries)

section Lookup
variable {α : Type} {entries others : List (String × α)} {key : String} {a : α}

theorem mem_of_lookup (found : entries.lookup key = some a) : (key, a) ∈ entries := by
  obtain ⟨before, after, rfl, _⟩ := List.lookup_eq_some_iff.mp found
  simp

theorem lookup_of_mem (distinct : (entries.map Prod.fst).Nodup) (member : (key, a) ∈ entries) :
    entries.lookup key = some a := by
  obtain ⟨before, after, rfl⟩ := List.append_of_mem member
  refine List.lookup_eq_some_iff.mpr ⟨before, after, rfl, fun entry inside => ?_⟩
  have apart : entry.1 ≠ key := by
    rw [List.map_append, List.nodup_append] at distinct
    exact distinct.2.2 entry.1 (List.mem_map_of_mem inside) key (by simp)
  simpa using apart.symm

/-- A map with as many keys as another one, which has all of them, has all keys of that one. -/
theorem keys_subset_of_length (distinct : (entries.map Prod.fst).Nodup)
    (inside : ∀ entry ∈ entries, ∃ b, others.lookup entry.1 = some b) (size : entries.length = others.length) :
    others.map Prod.fst ⊆ entries.map Prod.fst := by
  have subset : entries.map Prod.fst ⊆ others.map Prod.fst := by
    intro key member
    obtain ⟨entry, mem, rfl⟩ := List.mem_map.mp member
    obtain ⟨b, found⟩ := inside entry mem
    exact List.mem_map.mpr ⟨_, mem_of_lookup found, rfl⟩
  have shorter : (others.map Prod.fst).length ≤ (entries.map Prod.fst).length := by simp [size]
  exact ((List.subperm_of_subset distinct subset).perm_of_length_le shorter).symm.subset

end Lookup

namespace Value

theorem FloatFree.items {items : List Value} (free : (Value.list items).FloatFree) :
    ∀ item ∈ items, item.FloatFree := by
  cases free with
  | list all => exact all

theorem FloatFree.members {items : List Value} (free : (Value.tuple items).FloatFree) :
    ∀ item ∈ items, item.FloatFree := by
  cases free with
  | tuple all => exact all

theorem FloatFree.entries {entries : Entries} (free : (Value.map entries).FloatFree) :
    (entries.map Prod.fst).Nodup ∧ ∀ entry ∈ entries, entry.2.FloatFree := by
  cases free with
  | map distinct all => exact ⟨distinct, all⟩

theorem sizeOf_entry_lt {entries : Entries} {entry : String × Value} (member : entry ∈ entries) :
    sizeOf entry.2 < sizeOf (Value.map entries) := by
  have inside := List.sizeOf_lt_of_mem member
  have part : sizeOf entry = 1 + sizeOf entry.1 + sizeOf entry.2 := rfl
  rw [Value.map.sizeOf_spec]
  omega

theorem equalItems_iff {items others : List Value} : equalItems items others = true ↔
    List.Forall₂ (fun a b => a.equals b = true) items others := by
  induction items generalizing others with
  | nil => cases others <;> simp [equalItems]
  | cons item items ih => cases others <;> simp [equalItems, ih]

theorem equalEntries_iff {entries others : Entries} : equalEntries entries others = true ↔
    ∀ entry ∈ entries, ∃ v, others.lookup entry.1 = some v ∧ entry.2.equals v = true := by
  induction entries with
  | nil => simp [equalEntries]
  | cons entry entries ih =>
    obtain ⟨key, value⟩ := entry
    rw [equalEntries, Bool.and_eq_true, ih, List.forall_mem_cons]
    cases others.lookup key <;> simp

/-- What two equal values have in common. -/
inductive Matched : Value → Value → Prop
  | null : Matched .null .null
  | number {a b : Value} {n : Int} (first : a.number? = some (.int n)) (second : b.number? = some (.int n)) :
      Matched a b
  | str (text : String) : Matched (.str text) (.str text)
  | list {items others : List Value} (each : List.Forall₂ (fun a b => a.equals b = true) items others) :
      Matched (.list items) (.list others)
  | tuple {items others : List Value} (each : List.Forall₂ (fun a b => a.equals b = true) items others) :
      Matched (.tuple items) (.tuple others)
  | map {entries others : Entries} (size : entries.length = others.length)
      (each : ∀ entry ∈ entries, ∃ v, others.lookup entry.1 = some v ∧ entry.2.equals v = true) :
      Matched (.map entries) (.map others)

variable {a b c : Value}

theorem equals_of_numbers {m n : Int} (first : a.number? = some (.int m)) (second : b.number? = some (.int n)) :
    a.equals b = (m == n) := by
  cases a <;> cases b <;> simp_all [number?, equals, Number.ofBool, Number.equals]

theorem equals_of_matched (matched : Matched a b) : a.equals b = true := by
  cases matched with
  | null => rw [equals]
  | number first second => simp [equals_of_numbers first second]
  | str text => simp [equals]
  | list each => simpa [equals] using equalItems_iff.mpr each
  | tuple each => simpa [equals] using equalItems_iff.mpr each
  | map size each => simpa [equals, size] using equalEntries_iff.mpr each

theorem matched_of_equals (free : a.FloatFree) (free' : b.FloatFree) (equal : a.equals b = true) : Matched a b := by
  have numbers {m n : Int} (first : a.number? = some (.int m)) (second : b.number? = some (.int n)) : Matched a b := by
    have same : m = n := by simpa [equals_of_numbers first second] using equal
    exact .number first (same ▸ second)
  cases free with
  | null =>
    cases free' with
    | null => exact .null
    | _ => simp [equals, number?] at equal
  | bool _ | int _ =>
    cases free' with
    | bool _ | int _ => exact numbers rfl rfl
    | _ => simp [equals, number?] at equal
  | str text =>
    cases free' with
    | str other =>
      have same : text = other := by simpa [equals] using equal
      exact same ▸ .str text
    | _ => simp [equals, number?] at equal
  | list =>
    cases free' with
    | list => exact .list (equalItems_iff.mp (by simpa [equals] using equal))
    | _ => simp [equals, number?] at equal
  | tuple =>
    cases free' with
    | tuple => exact .tuple (equalItems_iff.mp (by simpa [equals] using equal))
    | _ => simp [equals, number?] at equal
  | map =>
    cases free' with
    | map =>
      obtain ⟨size, each⟩ : _ ∧ _ := by simpa [equals] using equal
      exact .map size (equalEntries_iff.mp each)
    | _ => simp [equals, number?] at equal

theorem equals_refl (free : a.FloatFree) : a.equals a = true := by
  apply equals_of_matched
  induction free with
  | null => exact .null
  | bool _ | int _ => exact .number rfl rfl
  | str text => exact .str text
  | list _ ih => exact .list (List.forall₂_same.mpr fun item member => equals_of_matched (ih item member))
  | tuple _ ih => exact .tuple (List.forall₂_same.mpr fun item member => equals_of_matched (ih item member))
  | map distinct _ ih =>
    refine .map rfl fun entry member => ⟨entry.2, lookup_of_mem distinct member, ?_⟩
    exact equals_of_matched (ih entry member)

/-- Equal members can be turned around where that is possible for each member of the first list. -/
theorem forall₂_turned {items others : List Value} (each : List.Forall₂ (fun a b => a.equals b = true) items others)
    (turn : ∀ a ∈ items, ∀ b ∈ others, a.equals b = true → b.equals a = true) :
    List.Forall₂ (fun a b => a.equals b = true) others items := by
  induction each with
  | nil => exact .nil
  | cons first _ ih =>
    refine .cons (turn _ List.mem_cons_self _ List.mem_cons_self first) (ih fun a member b member' => ?_)
    exact turn a (List.mem_cons_of_mem _ member) b (List.mem_cons_of_mem _ member')

theorem forall₂_joined {items between others : List Value}
    (each : List.Forall₂ (fun a b => a.equals b = true) items between)
    (each' : List.Forall₂ (fun a b => a.equals b = true) between others)
    (join : ∀ a ∈ items, ∀ b ∈ between, ∀ c ∈ others, a.equals b = true → b.equals c = true → a.equals c = true) :
    List.Forall₂ (fun a b => a.equals b = true) items others := by
  induction each generalizing others with
  | nil =>
    cases each'
    exact .nil
  | cons first _ ih =>
    cases each' with
    | cons first' rest =>
      have here := join _ List.mem_cons_self _ List.mem_cons_self _ List.mem_cons_self first first'
      refine .cons here (ih rest fun a member b member' c member'' => ?_)
      exact join a (List.mem_cons_of_mem _ member) b (List.mem_cons_of_mem _ member') c
        (List.mem_cons_of_mem _ member'')

theorem number_of_equals (free : a.FloatFree) (free' : b.FloatFree) (equal : a.equals b = true) {n : Int}
    (number : a.number? = some (.int n)) : b.number? = some (.int n) := by
  cases matched_of_equals free free' equal with
  | number first second =>
    rw [first] at number
    cases number
    exact second
  | _ => cases number

theorem equals_symm {a b : Value} (free : a.FloatFree) (free' : b.FloatFree) (equal : a.equals b = true) :
    b.equals a = true := by
  apply equals_of_matched
  cases matched_of_equals free free' equal with
  | null => exact .null
  | number first second => exact .number second first
  | str text => exact .str text
  | list each =>
    exact .list (forall₂_turned each fun a member b member' =>
      equals_symm (free.items a member) (free'.items b member'))
  | tuple each =>
    exact .tuple (forall₂_turned each fun a member b member' =>
      equals_symm (free.members a member) (free'.members b member'))
  | @map entries others size each =>
    obtain ⟨distinct, all⟩ := free.entries
    obtain ⟨distinct', all'⟩ := free'.entries
    have inside : ∀ entry ∈ entries, ∃ w, others.lookup entry.1 = some w := by
      intro entry member
      obtain ⟨w, found, _⟩ := each entry member
      exact ⟨w, found⟩
    refine .map size.symm fun entry member => ?_
    -- Each key of the second map is one of the first map, which finds this entry with it.
    have covered := keys_subset_of_length distinct inside size (List.mem_map_of_mem member)
    obtain ⟨⟨key, v⟩, member', same⟩ := List.mem_map.mp covered
    obtain rfl : key = entry.1 := same
    obtain ⟨w, found, equal⟩ := each _ member'
    rw [lookup_of_mem distinct' member] at found
    cases found
    have smaller := sizeOf_entry_lt member'
    exact ⟨v, lookup_of_mem distinct member', equals_symm (all _ member') (all' entry member) equal⟩
termination_by sizeOf a

theorem equals_trans {a b c : Value} (free : a.FloatFree) (free' : b.FloatFree) (free'' : c.FloatFree)
    (equal : a.equals b = true) (equal' : b.equals c = true) : a.equals c = true := by
  cases matched_of_equals free free' equal with
  | null | str _ => exact equal'
  | number first second => exact equals_of_matched (.number first (number_of_equals free' free'' equal' second))
  | list each =>
    cases matched_of_equals free' free'' equal' with
    | number first => cases first
    | list each' =>
      exact equals_of_matched (.list (forall₂_joined each each' fun a member b member' c member'' =>
        equals_trans (free.items a member) (free'.items b member') (free''.items c member'')))
  | tuple each =>
    cases matched_of_equals free' free'' equal' with
    | number first => cases first
    | tuple each' =>
      exact equals_of_matched (.tuple (forall₂_joined each each' fun a member b member' c member'' =>
        equals_trans (free.members a member) (free'.members b member') (free''.members c member'')))
  | map size each =>
    cases matched_of_equals free' free'' equal' with
    | number first => cases first
    | map size' each' =>
      refine equals_of_matched (.map (size.trans size') fun entry member => ?_)
      obtain ⟨v, found, same⟩ := each entry member
      have member' := mem_of_lookup found
      obtain ⟨w, found', same'⟩ := each' _ member'
      have member'' := mem_of_lookup found'
      have smaller := sizeOf_entry_lt member
      exact ⟨w, found', equals_trans (free.entries.2 entry member) (free'.entries.2 _ member')
        (free''.entries.2 _ member'') same same'⟩
termination_by sizeOf a

theorem equals_comm (free : a.FloatFree) (free' : b.FloatFree) : a.equals b = b.equals a :=
  Bool.eq_iff_iff.mpr ⟨equals_symm free free', equals_symm free' free⟩

theorem equals_congr (free : a.FloatFree) (free' : b.FloatFree) (free'' : c.FloatFree) (equal : a.equals b = true) :
    a.equals c = b.equals c :=
  have equal' := equals_symm free free' equal
  Bool.eq_iff_iff.mpr ⟨equals_trans free' free free'' equal', equals_trans free free' free'' equal⟩

end Value

end Stencil
