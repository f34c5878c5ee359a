/-! Association lists that keep the order in which keys first came. -/
namespace Stencil

/-- Sets the value of a key. A key that is present keeps its place. -/
def put {κ α : Type} [DecidableEq κ] (key : κ) (value : α) : List (κ × α) → List (κ × α)
  | [] => [(key, value)]
  | (k, v) :: rest => if k = key then (k, value) :: rest else (k, v) :: put key value rest

def putAll {κ α : Type} [DecidableEq κ] (pairs entries : List (κ × α)) : List (κ × α) :=
  pairs.foldl (fun current (key, value) => put key value current) entries

section Lookup

variable {κ α : Type} [DecidableEq κ] [BEq κ] [LawfulBEq κ]

theorem lookup_put_self (key : κ) (value : α) (entries : List (κ × α)) :
    (put key value entries).lookup key = some value := by
  induction entries with
  | nil => simp [put]
  | cons entry rest ih =>
    obtain ⟨k, v⟩ := entry
    by_cases same : k = key
    · simp [put, same]
    · have other : (key == k) = false := by simpa using Ne.symm same
      simp [put, same, List.lookup_cons, other, ih]

theorem lookup_put_of_ne {key other : κ} (distinct : other ≠ key) (value : α) (entries : List (κ × α)) :
    (put key value entries).lookup other = entries.lookup other := by
  induction entries with
  | nil =>
    have differs : (other == key) = false := by simpa using distinct
    simp [put, List.lookup_cons, differs]
  | cons entry rest ih =>
    obtain ⟨k, v⟩ := entry
    by_cases same : k = key
    · subst same
      have differs : (other == k) = false := by simpa using distinct
      simp [put, List.lookup_cons, differs]
    · by_cases here : (other == k) = true
      · simp [put, same, List.lookup_cons, here]
      · have apart : (other == k) = false := by simpa using here
        simp [put, same, List.lookup_cons, apart, ih]

end Lookup

end Stencil
