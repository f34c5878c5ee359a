import Stencil.Proofs.Expr.Quoted
import Stencil.Proofs.Template.Listing
import Stencil.Proofs.Template.Occurrences
import Stencil.Proofs.Text.Escape
import Stencil.Template.Compile

/-! What a listing says that a segment writes. Main statement: expanding the format string of a listed segment with
the entries beside it gives what a run writes for the segment, and fails where the run does. -/
namespace Stencil

/-- The key that a text starts with between parentheses, and what follows the s behind them. -/
def formatKey? : List Char → Option (List Char × List Char)
  | '(' :: rest =>
    match Text.cut? [')'] rest with
    | some (key, 's' :: after) => some (key, after)
    | _ => none
  | _ => none

theorem length_of_formatKey? {text key after : List Char} (found : formatKey? text = some (key, after)) :
    after.length < text.length := by
  unfold formatKey? at found
  split at found
  next rest =>
    split at found
    next cut =>
      cases found
      rw [← Text.cut?_append cut]
      simp only [List.length_cons, List.length_append]
      omega
    next => cases found
  next => cases found

/-- Expands a format string from left to right. A percent sign stands before a key between parentheses and an s, and
all of them are replaced by the entry of the key. -/
def expand? (value? : List Char → Option (List Char)) : List Char → Option (List Char)
  | [] => some []
  | c :: rest =>
    if c = '%' then
      match found : formatKey? rest with
      | none => none
      | some (key, after) =>
        have := length_of_formatKey? found
        (value? key).bind fun value => (expand? value? after).map (value ++ ·)
    else (expand? value? rest).map (c :: ·)
termination_by format => format.length

/-- The text of an entry in a scope, missing if there is no entry or evaluating it fails. -/
def SubstitutionTable.value? (table : SubstitutionTable) (scope : Scope) (key : List Char) : Option (List Char) :=
  (List.lookup key table).bind fun slot => (slot.value scope).toOption

section Expansion

variable {value? : List Char → Option (List Char)} {key text : List Char}

theorem formatKey?_of_key (plain : ')' ∉ key) (after : List Char) :
    formatKey? ('(' :: (key ++ [')'] ++ 's' :: after)) = some (key, after) := by
  have first (front back : List Char) (same : key ++ [')'] ++ 's' :: after = front ++ [')'] ++ back) :
      key.length ≤ front.length := by
    by_contra! shorter
    have starts : front ++ [')'] <+: key ++ ([')'] ++ 's' :: after) := ⟨back, by rw [← same, List.append_assoc]⟩
    have fits : (front ++ [')']).length ≤ key.length := by
      rw [List.length_append, List.length_singleton]
      exact shorter
    have inside := List.prefix_of_prefix_length_le starts (List.prefix_append key _) fits
    exact plain (inside.subset (by simp))
  simp only [formatKey?, Text.cut?_of_first first]

theorem expand?_text (plain : '%' ∉ text) (format : List Char) :
    expand? value? (text ++ format) = (expand? value? format).map (text ++ ·) := by
  induction text with
  | nil => exact Option.map_id'.symm
  | cons c text ih =>
    have other : c ≠ '%' := fun same => plain (same ▸ List.mem_cons_self)
    rw [List.cons_append, expand?, if_neg other, ih (List.not_mem_of_not_mem_cons plain), Option.map_map]
    rfl

theorem expand?_slot (plain : ')' ∉ key) (format : List Char) :
    expand? value? ('%' :: '(' :: (key ++ [')'] ++ 's' :: format)) =
      (value? key).bind fun value => (expand? value? format).map (value ++ ·) := by
  rw [expand?, if_pos rfl]
  split
  next none => rw [formatKey?_of_key plain] at none; cases none
  next found =>
    rw [formatKey?_of_key plain] at found
    cases found
    rfl

end Expansion

section Registered

variable {scope : Scope} {table : SubstitutionTable} {parts : List Part}

theorem Keyed.foldl (keyed : Keyed table) (parsed : ∀ part ∈ parts, part.Parsed) :
    Keyed (parts.foldl (fun table part => part.register table) table) := by
  induction parts generalizing table with
  | nil => exact keyed
  | cons part rest ih =>
    obtain ⟨own, others⟩ := List.forall_mem_cons.mp parsed
    rw [List.foldl_cons, register_slot?]
    cases is : part.slot? with
    | none => exact ih keyed others
    | some slot => exact ih (keyed.register (own slot is)) others

theorem lookup_register (slot : Slot) (table : SubstitutionTable) :
    ∃ known, (table.register slot.key slot).lookup slot.key = some known := by
  rcases register_cases slot.key slot table with ⟨known, found, same⟩ | ⟨new, added⟩
  · exact ⟨known, by rw [same, found]⟩
  · refine ⟨slot, ?_⟩
    rw [added, List.lookup_append, new]
    simp

/-- A placeholder has an entry, which nothing registered later takes away. -/
theorem lookup_registered (table : SubstitutionTable) {part : Part} (member : part ∈ parts) {slot : Slot}
    (is : part.slot? = some slot) : ∃ known,
      (parts.foldl (fun table part => part.register table) table).lookup slot.key = some known := by
  obtain ⟨front, back, rfl⟩ := List.append_of_mem member
  rw [List.foldl_append, List.foldl_cons, register_slot?, is]
  obtain ⟨known, found⟩ := lookup_register slot (front.foldl (fun table part => part.register table) table)
  obtain ⟨more, whole⟩ := foldl_register_prefix back
    ((front.foldl (fun table part => part.register table) table).register slot.key slot)
  refine ⟨known, ?_⟩
  dsimp only
  rw [whole, List.lookup_append, found]
  rfl

/-- The entry of a placeholder is what the placeholder itself stands for. -/
theorem value?_of_part (parsed : ∀ part ∈ parts, part.Parsed) {part : Part} (member : part ∈ parts) {slot : Slot}
    (is : part.slot? = some slot) :
    (Segment.ofParts parts).table.value? scope slot.key = (slot.value scope).toOption := by
  obtain ⟨known, found⟩ := lookup_registered [] member is
  obtain ⟨before, after, whole, _⟩ := List.lookup_eq_some_iff.mp found
  have keyed : Keyed (Segment.ofParts parts).table := Keyed.foldl (List.forall_mem_nil _) parsed
  obtain ⟨same, knownParsed⟩ := keyed (slot.key, known) (by rw [Segment.ofParts, whole]; simp)
  rw [SubstitutionTable.value?, Segment.ofParts, found, Option.bind_some,
    Slot.value_of_key same (parsed part member slot is) knownParsed]

end Registered

section Parts

variable {value? : List Char → Option (List Char)} {scope : Scope} {parts : List Part}

/-- A part whose text has no percent sign. -/
def Part.Plain (part : Part) : Prop := ∀ text, part = .text text → '%' ∉ text

theorem Slot.notMem_key (slot : Slot) : ')' ∉ slot.key := by
  cases slot with
  | percent => decide
  | code inline =>
    intro member
    obtain ⟨c, _, inside⟩ := List.mem_flatMap.mp member
    exact (neutral_of_mem_keyChar inside).2.2.1 rfl

theorem Occurrences.plain {place : Text.Place} {after own : List Char} (occurs : Occurrences after place own parts) :
    ∀ part ∈ parts, part.Plain := by
  induction occurs with
  | nil => exact List.forall_mem_nil _
  | cons first _ ih =>
    refine List.forall_mem_cons.mpr ⟨?_, ih⟩
    cases first with
    | text _ plain _ _ =>
      rintro _ ⟨⟩ member
      exact (Text.mem_of_mem_unescape member).elim (by decide) plain
    | percent => exact nofun
    | code _ _ _ _ => exact nofun

theorem toOption_fillParts_cons (scope : Scope) (part : Part) (rest : List Part) :
    (fillParts scope (part :: rest)).toOption =
      (part.filled scope).toOption.bind fun text => (fillParts scope rest).toOption.map (text ++ ·) := by
  rw [fillParts]
  cases part.filled scope with
  | error e => rfl
  | ok text => cases fillParts scope rest <;> rfl

/-- Each piece of a format string is found again in it, and stands for what its part is filled with. -/
theorem expand?_parts (plain : ∀ part ∈ parts, part.Plain)
    (entries : ∀ part ∈ parts, ∀ slot, part.slot? = some slot → value? slot.key = (slot.value scope).toOption) :
    expand? value? (formatText (parts.map Part.piece)) = (fillParts scope parts).toOption := by
  induction parts with
  | nil =>
    rw [List.map_nil, formatText, List.flatMap_nil, expand?]
    rfl
  | cons part rest ih =>
    obtain ⟨own, others⟩ := List.forall_mem_cons.mp plain
    obtain ⟨entry, later⟩ := List.forall_mem_cons.mp entries
    -- A percent sign of a format string begins a key, whose parenthesis is the first one that closes.
    have placeholder (slot : Slot) (is : part.slot? = some slot) (filled : part.filled scope = slot.value scope) :
        expand? value? ('%' :: '(' :: (slot.key ++ [')'] ++ 's' :: formatText (rest.map Part.piece))) =
          (fillParts scope (part :: rest)).toOption := by
      rw [expand?_slot slot.notMem_key, entry slot is, ih others later, toOption_fillParts_cons, filled]
    have format (piece : Piece) (pieces : List Piece) :
        formatText (piece :: pieces) = formatText [piece] ++ formatText pieces := by
      simp only [formatText, List.flatMap_cons, List.flatMap_nil, List.append_nil]
    rw [List.map_cons, format]
    cases part with
    | text literal =>
      have here : formatText [(Part.text literal).piece] = literal := by simp [formatText, Part.piece]
      rw [here, expand?_text (own literal rfl), ih others later, toOption_fillParts_cons]
      rfl
    | percent => exact placeholder .percent rfl rfl
    | code inline =>
      have expanded := placeholder (.code inline) rfl rfl
      simpa [formatText, Part.piece, Slot.key] using expanded

theorem expand?_ofParts {place : Text.Place} {after own : List Char} (occurs : Occurrences after place own parts)
    (scope : Scope) :
    expand? ((Segment.ofParts parts).table.value? scope) (formatText (Segment.ofParts parts).pieces) =
      ((Segment.ofParts parts).filled scope).toOption := by
  rw [filled_ofParts parts occurs.parsed]
  exact expand?_parts occurs.plain fun part member slot is => value?_of_part occurs.parsed member is

theorem plain_of_piece {place : Text.Place} {after own text : List Char} (occurs : Occurrences after place own parts)
    (member : .text text ∈ (Segment.ofParts parts).pieces) : '%' ∉ text := by
  obtain ⟨part, inside, is⟩ := List.mem_map.mp member
  cases part with
  | text literal =>
    cases is
    exact occurs.plain _ inside text rfl
  | _ => cases is

end Parts

section Values

variable {scope : Scope} {table : SubstitutionTable}

theorem values_of_all (all : ∀ entry ∈ table, ∃ text, entry.2.value scope = .ok text) :
    ∃ values, table.values scope = .ok values := by
  induction table with
  | nil => exact ⟨[], rfl⟩
  | cons entry rest ih =>
    obtain ⟨⟨text, evaluated⟩, others⟩ := List.forall_mem_cons.mp all
    obtain ⟨values, later⟩ := ih others
    refine ⟨(entry.1, text) :: values, ?_⟩
    rw [SubstitutionTable.values, evaluated, ok_bind, later]
    rfl

theorem entry_of_values_error {e : RunError} (failed : table.values scope = .error e) :
    ∃ entry ∈ table, entry.2.value scope = .error e := by
  induction table with
  | nil => cases failed
  | cons entry rest ih =>
    rw [SubstitutionTable.values] at failed
    cases evaluated : entry.2.value scope with
    | error fault =>
      rw [evaluated] at failed
      cases failed
      exact ⟨entry, List.mem_cons_self, evaluated⟩
    | ok text =>
      rw [evaluated, ok_bind, bind_pure_eq_error] at failed
      obtain ⟨other, member, stuck⟩ := ih failed
      exact ⟨other, List.mem_cons_of_mem entry member, stuck⟩

end Values

/-- The literal of a text reads back as the text. -/
theorem parseExpression_literal (text : List Char) :
    parseExpression (literal text) = .ok (.literal (.str (String.ofList text))) := by
  have spellable : Value.Spellable (.str (String.ofList text)) := .str _
  obtain ⟨inside, next, read, spells, lexed⟩ := spellable.lexes [] (by simp [Detached]) 0 0
  have scanned : tokens false (literal text) = .ok read := by
    simpa [tokens, Value.quoted] using lexed [] rfl
  exact parseExpression_of_spells spellable.printable scanned spells

/-- A listing has a line of a depth that writes a literal, which reads back as a text. -/
def WritesLiteral (lines : List ListedLine) (depth : Nat) (text behind : List Char) : Prop :=
  ∃ quoted, ⟨depth, "write(".toList ++ quoted ++ behind⟩ ∈ lines ∧
    parseExpression quoted = .ok (.literal (.str (String.ofList text)))

/-- The line of a segment says what a run writes: its format string expands to that with the entries of its table. -/
structure SaysWritten (lines : List ListedLine) (depth : Nat) (segment : Segment) : Prop where
  plain : ∀ text, .text text ∈ segment.pieces → '%' ∉ text
  listed : WritesLiteral lines depth (formatText segment.pieces)
    (" % \x7b".toList ++ Text.join ", ".toList (segment.table.map entryText) ++ "\x7d)".toList)
  written : ∀ rounds machine, (∀ entry ∈ segment.table, ∃ text, entry.2.value machine.scope = .ok text) →
    ∃ text, expand? (segment.table.value? machine.scope) (formatText segment.pieces) = some text ∧
      runNode rounds (.substitute segment) machine = machine.write text
  failed : ∀ rounds machine, expand? (segment.table.value? machine.scope) (formatText segment.pieces) = none →
    ∃ entry ∈ segment.table, ∃ e, entry.2.value machine.scope = .error e ∧
      runNode rounds (.substitute segment) machine = .failed machine e

section Listed

variable {nodes : List Node} {depth : Nat}

theorem line_mem_of_nested {node : Node} {line : ListedLine} (nested : node ∈ nodesAt depth nodes)
    (own : nodeLines depth node = [line]) : line ∈ nodesLines 0 nodes := by
  obtain ⟨front, back, whole, _⟩ := listed_together nested
  rw [whole, own]
  simp

theorem writesLiteral_of_line {node : Node} {text behind : List Char} (nested : node ∈ nodesAt depth nodes)
    (own : nodeLines depth node = [⟨depth, "write(".toList ++ literal text ++ behind⟩]) :
    WritesLiteral (nodesLines 0 nodes) depth text behind :=
  ⟨literal text, line_mem_of_nested nested own, parseExpression_literal text⟩

theorem saysWritten_ofParts {place : Text.Place} {after own : List Char} {parts : List Part}
    (occurs : Occurrences after place own parts) (nested : .substitute (.ofParts parts) ∈ nodesAt depth nodes) :
    SaysWritten (nodesLines 0 nodes) depth (.ofParts parts) where
  plain := fun text => plain_of_piece occurs
  listed := by
    apply writesLiteral_of_line nested
    unfold nodeLines Segment.listed
    simp only [List.append_assoc]
  written := by
    intro rounds machine all
    obtain ⟨values, evaluated⟩ := values_of_all all
    have filled : (Segment.ofParts parts).filled machine.scope =
        .ok (fillPieces values (Segment.ofParts parts).pieces) := by
      rw [Segment.filled, evaluated]
      rfl
    refine ⟨fillPieces values (Segment.ofParts parts).pieces, ?_, ?_⟩
    · rw [expand?_ofParts occurs, toOption_eq_some, filled]
    · rw [runNode, filled, Machine.continuing]
  failed := by
    intro rounds machine none
    rw [expand?_ofParts occurs] at none
    cases filled : (Segment.ofParts parts).filled machine.scope with
    | ok text =>
      rw [filled] at none
      cases none
    | error e =>
      obtain ⟨entry, member, stuck⟩ := entry_of_values_error (bind_pure_eq_error.mp filled)
      exact ⟨entry, member, e, stuck, by rw [runNode, filled, Machine.continuing]⟩

end Listed

/-- The listing means what a run does. Every literal in it reads back as its text, and the format string of a segment,
in whose texts no percent sign stands, expands with the entries of the segment to what a run writes for it. -/
theorem listing_says_written {source : List Char} {template : Template}
    (parsed : Template.parse source = .ok template) :
    (∀ depth text, .literal text ∈ nodesAt depth template.nodes →
      WritesLiteral (nodesLines 0 template.nodes) depth text ")".toList) ∧
    ∀ depth segment, .substitute segment ∈ nodesAt depth template.nodes →
      SaysWritten (nodesLines 0 template.nodes) depth segment := by
  refine ⟨fun depth text nested => writesLiteral_of_line nested (by rw [nodeLines]), fun depth segment nested => ?_⟩
  have own : .leaf (.substitute segment) ∈ Machine.nodeMarks (.substitute segment) := by
    rw [Machine.nodeMarks]
    exact List.mem_cons_self
  have mark := Machine.marks_subset_of_nested nested own
  obtain ⟨nodes, found, rfl⟩ := map_eq_ok parsed
  rw [Machine.parseNodes_eq_run] at found
  obtain ⟨parts, member, rfl⟩ := Machine.segment_of_mark (Machine.marked_of_run found) mark
  obtain ⟨_, _, _, _, occurs, _⟩ := (laid_eventsFrom .start source).locate member
  exact saysWritten_ofParts occurs nested

/-- A percent sign and an expression with blanks and parentheses, in a branch. -/
theorem listing_says_written_of_branch : ∃ template segment,
    Template.parse "{{if a}}50% of {{f (b)}}{{endif}}".toList = .ok template ∧
      .substitute segment ∈ nodesAt 1 template.nodes ∧
      formatText segment.pieces = "50%(#percent#)s of %(f#w32##[#b#]#)s".toList ∧
      SaysWritten (nodesLines 0 template.nodes) 1 segment := by
  have parsed : ((Template.parse "{{if a}}50% of {{f (b)}}{{endif}}".toList).toOption.map fun template =>
      (nodesAt 1 template.nodes).any fun node =>
        match node with
        | .substitute segment => formatText segment.pieces == "50%(#percent#)s of %(f#w32##[#b#]#)s".toList
        | _ => false) = some true := by decide +kernel
  cases found : Template.parse "{{if a}}50% of {{f (b)}}{{endif}}".toList with
  | error e => rw [found] at parsed; cases parsed
  | ok template =>
    rw [found] at parsed
    obtain ⟨node, nested, format⟩ := List.any_eq_true.mp (Option.some.inj parsed)
    split at format
    next segment =>
      exact ⟨template, segment, rfl, nested, beq_iff_eq.mp format, (listing_says_written found).2 1 segment nested⟩
    next => cases format

end Stencil
