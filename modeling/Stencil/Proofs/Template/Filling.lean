import Stencil.Proofs.Template.Events
import Stencil.Proofs.Template.Key
import Stencil.Template.Run

/-! What a segment writes. Main statement: the table of a segment is no more than a way to evaluate each
expression once, so that a segment writes the texts of its parts, one behind the other. -/
namespace Stencil

namespace Slot

def key : Slot → List Char
  | .percent => percentKey
  | .code inline => substitutionKey inline.text

/-- A slot whose expression is what its text is parsed as. -/
def Parsed : Slot → Prop
  | .percent => True
  | .code inline => parseExpression inline.text = .ok inline.parsed

theorem value_of_key {slot other : Slot} (same : slot.key = other.key) (parsed : slot.Parsed)
    (parsed' : other.Parsed) (scope : Scope) : slot.value scope = other.value scope := by
  cases slot with
  | percent =>
    cases other with
    | percent => rfl
    | code inline => exact absurd same.symm (substitutionKey_ne_percentKey inline.text)
  | code inline =>
    cases other with
    | percent => exact absurd same (substitutionKey_ne_percentKey inline.text)
    | code inline' =>
      have texts : inline.text = inline'.text := substitutionKey_injective same
      rw [Parsed, texts] at parsed
      rw [value, value, Except.ok.inj (parsed.symm.trans parsed')]

end Slot

namespace Part

def slot? : Part → Option Slot
  | .text _ => none
  | .percent => some .percent
  | .code inline => some (.code inline)

def Parsed (part : Part) : Prop := ∀ slot ∈ part.slot?, slot.Parsed

def filled (scope : Scope) : Part → Except RunError (List Char)
  | .text literal => .ok literal
  | .percent => .ok ['%']
  | .code inline => do return valueChars (← inline.parsed.eval scope)

end Part

/-- What parts write, one behind the other. -/
def fillParts (scope : Scope) : List Part → Except RunError (List Char)
  | [] => .ok []
  | part :: rest => do
    let text ← part.filled scope
    return text ++ (← fillParts scope rest)

theorem fillParts_append (scope : Scope) (front back : List Part) :
    fillParts scope (front ++ back) = do
      let text ← fillParts scope front
      return text ++ (← fillParts scope back) := by
  induction front with
  | nil => simp [fillParts]
  | cons part rest ih =>
    rw [List.cons_append, fillParts, fillParts, ih]
    cases part.filled scope with
    | error e => rfl
    | ok text =>
      cases fillParts scope rest with
      | error e => rfl
      | ok others =>
        cases fillParts scope back with
        | error e => rfl
        | ok behind => simp only [ok_bind, pure_bind, List.append_assoc]

section Table

variable {scope : Scope} {table : SubstitutionTable}

/-- A table of slots under their own keys. -/
def Keyed (table : SubstitutionTable) : Prop := ∀ entry ∈ table, entry.1 = entry.2.key ∧ entry.2.Parsed

theorem values_append (scope : Scope) (table more : SubstitutionTable) :
    SubstitutionTable.values scope (table ++ more) = do
      let values ← table.values scope
      return values ++ (← more.values scope) := by
  induction table with
  | nil => simp [SubstitutionTable.values]
  | cons entry rest ih =>
    obtain ⟨key, slot⟩ := entry
    simp [SubstitutionTable.values, ih]

theorem keys_of_values {values : List (List Char × List Char)} (ok : table.values scope = .ok values) :
    values.map Prod.fst = table.map Prod.fst := by
  induction table generalizing values with
  | nil => cases ok; rfl
  | cons entry rest ih =>
    obtain ⟨key, slot⟩ := entry
    obtain ⟨value, _, ok⟩ := bind_eq_ok ok
    obtain ⟨others, later, ok⟩ := bind_eq_ok ok
    cases ok
    rw [List.map_cons, List.map_cons, ih later]

theorem lookup_values {values : List (List Char × List Char)} (ok : table.values scope = .ok values)
    {key : List Char} {slot : Slot} (known : table.lookup key = some slot) :
    ∃ value, slot.value scope = .ok value ∧ values.lookup key = some value := by
  induction table generalizing values with
  | nil => cases known
  | cons entry rest ih =>
    obtain ⟨k, other⟩ := entry
    obtain ⟨value, evaluated, ok⟩ := bind_eq_ok ok
    obtain ⟨others, later, ok⟩ := bind_eq_ok ok
    cases ok
    rw [List.lookup_cons] at known
    split at known
    next here =>
      cases known
      exact ⟨value, evaluated, by rw [List.lookup_cons, here]⟩
    next there =>
      rw [List.lookup_cons, there]
      exact ih later known

theorem lookup_values_none {values : List (List Char × List Char)} (ok : table.values scope = .ok values)
    {key : List Char} (unknown : table.lookup key = none) : values.lookup key = none := by
  have absent : ¬ key ∈ table.map Prod.fst := by
    rw [← lookup_isSome_iff_mem, unknown]
    exact Bool.false_ne_true
  rw [← keys_of_values ok] at absent
  rw [List.lookup_eq_none_iff]
  intro entry member
  have differs : key ≠ entry.1 := fun same => absent (same ▸ List.mem_map_of_mem member)
  simpa using differs

theorem register_slot? (part : Part) (table : SubstitutionTable) : part.register table =
    match part.slot? with
    | none => table
    | some slot => table.register slot.key slot := by
  cases part <;> rfl

theorem register_cases (key : List Char) (slot : Slot) (table : SubstitutionTable) :
    (∃ known, table.lookup key = some known ∧ table.register key slot = table) ∨
      table.lookup key = none ∧ table.register key slot = table ++ [(key, slot)] := by
  unfold SubstitutionTable.register
  cases found : List.lookup key table with
  | some known => exact .inl ⟨known, rfl, rfl⟩
  | none => exact .inr ⟨rfl, rfl⟩

theorem foldl_register_prefix (parts : List Part) (table : SubstitutionTable) :
    ∃ more, parts.foldl (fun table part => part.register table) table = table ++ more := by
  induction parts generalizing table with
  | nil => exact ⟨[], (List.append_nil table).symm⟩
  | cons part rest ih =>
    rw [List.foldl_cons, register_slot?]
    cases part.slot? with
    | none => exact ih table
    | some slot =>
      obtain ⟨more, whole⟩ := ih (table.register slot.key slot)
      rcases register_cases slot.key slot table with ⟨_, _, same⟩ | ⟨_, added⟩
      · exact ⟨more, by rw [same] at whole; simpa only [same] using whole⟩
      · refine ⟨(slot.key, slot) :: more, ?_⟩
        dsimp only
        rw [whole, added, List.append_assoc]
        rfl

theorem lookup_of_keyed {values : List (List Char × List Char)} (keyed : Keyed table)
    (ok : table.values scope = .ok values) {slot known : Slot} (parsed : slot.Parsed)
    (found : table.lookup slot.key = some known) :
    ∃ value, slot.value scope = .ok value ∧ values.lookup slot.key = some value := by
  obtain ⟨value, evaluated, listed⟩ := lookup_values ok found
  obtain ⟨before, after, whole, _⟩ := List.lookup_eq_some_iff.mp found
  have member : (slot.key, known) ∈ table := by simp [whole]
  obtain ⟨same, knownParsed⟩ := keyed _ member
  exact ⟨value, (Slot.value_of_key same parsed knownParsed scope).trans evaluated, listed⟩

theorem Keyed.add (keyed : Keyed table) {slot : Slot} (parsed : slot.Parsed) :
    Keyed (table ++ [(slot.key, slot)]) := by
  intro entry member
  rcases List.mem_append.mp member with member | member
  · exact keyed entry member
  · rw [List.mem_singleton.mp member]
    exact ⟨rfl, parsed⟩

theorem Keyed.register (keyed : Keyed table) {slot : Slot} (parsed : slot.Parsed) :
    Keyed (table.register slot.key slot) := by
  rcases register_cases slot.key slot table with ⟨_, _, same⟩ | ⟨_, added⟩
  · rw [same]
    exact keyed
  · rw [added]
    exact keyed.add parsed

theorem values_register {values : List (List Char × List Char)} (keyed : Keyed table)
    (ok : table.values scope = .ok values) {slot : Slot} (parsed : slot.Parsed) {value : List Char}
    (evaluated : slot.value scope = .ok value) : ∃ grown,
      (table.register slot.key slot).values scope = .ok grown ∧ grown.lookup slot.key = some value := by
  rcases register_cases slot.key slot table with ⟨known, found, same⟩ | ⟨new, added⟩
  · obtain ⟨_, evaluated', listed⟩ := lookup_of_keyed keyed ok parsed found
    cases evaluated.symm.trans evaluated'
    exact ⟨values, by rw [same, ok], listed⟩
  · refine ⟨values ++ [(slot.key, value)], ?_, ?_⟩
    · rw [added, values_append, ok]
      simp [SubstitutionTable.values, evaluated]
    · rw [List.lookup_append, lookup_values_none ok new]
      simp

theorem values_register_error {values : List (List Char × List Char)} (keyed : Keyed table)
    (ok : table.values scope = .ok values) {slot : Slot} (parsed : slot.Parsed) {e : RunError}
    (failed : slot.value scope = .error e) : (table.register slot.key slot).values scope = .error e := by
  rcases register_cases slot.key slot table with ⟨known, found, _⟩ | ⟨_, added⟩
  · obtain ⟨_, evaluated, _⟩ := lookup_of_keyed keyed ok parsed found
    cases failed.symm.trans evaluated
  · rw [added, values_append, ok]
    simp [SubstitutionTable.values, failed]

/-- A placeholder writes the value that the table has under its key, to which nothing is added later. -/
theorem filled_slot {values : List (List Char × List Char)} (ok : table.values scope = .ok values)
    {key value : List Char} (listed : values.lookup key = some value) (more : SubstitutionTable)
    (pieces : List Piece) : Segment.filled ⟨.slot key :: pieces, table ++ more⟩ scope = do
      return value ++ (← Segment.filled ⟨pieces, table ++ more⟩ scope) := by
  rw [Segment.filled, Segment.filled, values_append, ok]
  cases SubstitutionTable.values scope more with
  | error e => rfl
  | ok others => simp [fillPieces, List.lookup_append, listed]

/-- Registering parts and filling their pieces writes the parts, whatever has been registered before. -/
theorem fill_registered (parts : List Part) (parsed : ∀ part ∈ parts, part.Parsed) (keyed : Keyed table)
    {values : List (List Char × List Char)} (ok : table.values scope = .ok values) :
    Segment.filled ⟨parts.map Part.piece, parts.foldl (fun table part => part.register table) table⟩ scope =
      fillParts scope parts := by
  induction parts generalizing table values with
  | nil =>
    rw [Segment.filled, List.foldl_nil, ok]
    rfl
  | cons part rest ih =>
    have later := fun other member => parsed other (List.mem_cons_of_mem part member)
    -- The value of a placeholder is the one that its key has in the table behind all parts, which only grows.
    have placeholder (slot : Slot) (own : slot.Parsed) :
        Segment.filled ⟨.slot slot.key :: rest.map Part.piece,
          rest.foldl (fun table part => part.register table) (table.register slot.key slot)⟩ scope = do
            let text ← slot.value scope
            return text ++ (← fillParts scope rest) := by
      obtain ⟨more, whole⟩ := foldl_register_prefix rest (table.register slot.key slot)
      cases evaluated : slot.value scope with
      | error e =>
        rw [Segment.filled, whole, values_append, values_register_error keyed ok own evaluated]
        rfl
      | ok value =>
        obtain ⟨_, grown, listed⟩ := values_register keyed ok own evaluated
        rw [whole, filled_slot grown listed, ← whole, ih later (keyed.register own) grown]
        rfl
    rw [List.foldl_cons, List.map_cons, fillParts]
    cases part with
    | text literal =>
      rw [Part.filled, ok_bind, ← ih later keyed ok, Segment.filled, Segment.filled, bind_assoc]
      rfl
    | percent => exact placeholder .percent trivial
    | code inline => exact placeholder (.code inline) (parsed _ List.mem_cons_self _ rfl)

end Table

/-- A segment writes its parts in order, although it evaluates no expression twice. -/
theorem filled_ofParts (parts : List Part) (parsed : ∀ part ∈ parts, part.Parsed) (scope : Scope) :
    (Segment.ofParts parts).filled scope = fillParts scope parts :=
  fill_registered parts parsed (List.forall_mem_nil _) rfl

end Stencil
