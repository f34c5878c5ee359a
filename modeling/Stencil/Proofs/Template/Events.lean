import Mathlib.Data.List.Chain
import Stencil.Proofs.Outcome
import Stencil.Proofs.Text.Parts
import Stencil.Template.Event

/-! The events of a source. Main statements: a block of code is one event, up to the first end tag; no
source gives an empty text, two texts side by side, two segments side by side, or a table that differs
from the placeholders of its segment. -/
namespace Stencil

theorem CodeBlock.read_eq_ok {block : CodeBlock} {opening : Directive} {after text rest : List Char}
    {event : Event} (found : block.read opening after = .ok (event, text, rest)) :
    ∃ body, opening.expectBare = .ok () ∧ block.event opening body = .ok event ∧
      text = body ++ block.endTag ∧ after = text ++ rest ∧
      ∀ front back, after = front ++ block.endTag ++ back → body.length ≤ front.length := by
  obtain ⟨_, bare, found⟩ := bind_eq_ok found
  cases cut : Text.cut? block.endTag after with
  | none => rw [cut] at found; cases found
  | some parts =>
    obtain ⟨body, behind⟩ := parts
    rw [cut] at found
    obtain ⟨made, parsed, found⟩ := bind_eq_ok found
    cases found
    exact ⟨body, bare, parsed, rfl, (Text.cut?_append cut).symm, fun _ _ => Text.length_le_of_cut? cut⟩

def Piece.isText : Piece → Bool
  | .text _ => true
  | .slot _ => false

def Part.isText : Part → Bool
  | .text _ => true
  | _ => false

def Event.isSegment : Event → Bool
  | .segment _ => true
  | _ => false

def Apart {α : Type} (property : α → Bool) (list : List α) : Prop :=
  list.IsChain fun a b => ¬ (property a = true ∧ property b = true)

theorem apart_append {α : Type} {property : α → Bool} {front back : List α} :
    Apart property (front ++ back) ↔ Apart property front ∧ Apart property back ∧
      ∀ a ∈ front.getLast?, ∀ b ∈ back.head?, ¬ (property a = true ∧ property b = true) :=
  List.isChain_append

namespace Segment

/-- The keys of the placeholders of a segment, in order. -/
def slotKeys (segment : Segment) : List (List Char) :=
  segment.pieces.filterMap fun piece =>
    match piece with
    | .slot key => some key
    | .text _ => none

/-- A segment that holds text or placeholders, no empty text and no two texts side by side, and whose
table has the keys of its placeholders, each once and in the order of their first occurrence. -/
structure Sound (segment : Segment) : Prop where
  any : segment.pieces ≠ []
  texts : .text [] ∉ segment.pieces
  apart : Apart Piece.isText segment.pieces
  keys : segment.table.map Prod.fst = segment.slotKeys.eraseDups
  once : (segment.table.map Prod.fst).Nodup

end Segment

/-- What the parts of a segment have to be. -/
structure SoundParts (parts : List Part) : Prop where
  any : parts ≠ []
  texts : .text [] ∉ parts
  apart : Apart Part.isText parts

/-- Events of which no two neighbours are segments, and whose segments hold together. -/
structure SoundEvents (events : List Event) : Prop where
  parts : ∀ parts, .segment parts ∈ events → SoundParts parts
  apart : Apart Event.isSegment events

theorem lookup_isSome_iff_mem (key : List Char) (table : SubstitutionTable) :
    (List.lookup key table).isSome = true ↔ key ∈ table.map Prod.fst := by
  rw [List.lookup_isSome_iff, List.mem_map]
  exact exists_congr fun entry => and_congr_right fun _ => by rw [beq_iff_eq, eq_comm]

theorem keys_register (key : List Char) (slot : Slot) (table : SubstitutionTable) :
    (table.register key slot).map Prod.fst =
      if key ∈ table.map Prod.fst then table.map Prod.fst else table.map Prod.fst ++ [key] := by
  have known := lookup_isSome_iff_mem key table
  unfold SubstitutionTable.register
  by_cases member : key ∈ table.map Prod.fst
  · rw [if_pos (known.mpr member), if_pos member]
  · rw [if_neg (fun found => member (known.mp found)), if_neg member, List.map_append]
    rfl

theorem eraseDups_append_singleton (seen : List (List Char)) (key : List Char) :
    (seen ++ [key]).eraseDups =
      if key ∈ seen.eraseDups then seen.eraseDups else seen.eraseDups ++ [key] := by
  rw [List.eraseDups_append]
  by_cases member : key ∈ seen
  · rw [if_pos (List.mem_eraseDups.mpr member)]
    simp [List.removeAll, member]
  · rw [if_neg (fun found => member (List.mem_eraseDups.mp found))]
    simp [List.removeAll, member, List.eraseDups_cons]

theorem keys_register_eraseDups {table : SubstitutionTable} {seen : List (List Char)}
    (keys : table.map Prod.fst = seen.eraseDups) (key : List Char) (slot : Slot) :
    (table.register key slot).map Prod.fst = (seen ++ [key]).eraseDups := by
  rw [keys_register, eraseDups_append_singleton, keys]

theorem keys_foldl_register (parts : List Part) {table : SubstitutionTable} {seen : List (List Char)}
    (keys : table.map Prod.fst = seen.eraseDups) :
    (parts.foldl (fun table part => part.register table) table).map Prod.fst =
      (seen ++ Segment.slotKeys ⟨parts.map Part.piece, []⟩).eraseDups := by
  induction parts generalizing table seen with
  | nil => simpa [Segment.slotKeys] using keys
  | cons part parts ih =>
    rw [List.foldl_cons]
    cases part with
    | text literal => exact ih keys
    | percent =>
      refine (ih (keys_register_eraseDups keys percentKey .percent)).trans ?_
      rw [List.append_assoc]
      rfl
    | code inline =>
      refine (ih (keys_register_eraseDups keys (substitutionKey inline.text) (.code inline))).trans ?_
      rw [List.append_assoc]
      rfl

theorem nodup_register {key : List Char} {slot : Slot} {table : SubstitutionTable}
    (once : (table.map Prod.fst).Nodup) : ((table.register key slot).map Prod.fst).Nodup := by
  rw [keys_register]
  split
  next => exact once
  next fresh => exact List.nodup_append.mpr ⟨once, by simp, by
    rintro found member other single rfl
    rw [List.mem_singleton] at single
    exact fresh (single ▸ member)⟩

theorem nodup_foldl_register (parts : List Part) {table : SubstitutionTable}
    (once : (table.map Prod.fst).Nodup) :
    ((parts.foldl (fun table part => part.register table) table).map Prod.fst).Nodup := by
  induction parts generalizing table with
  | nil => exact once
  | cons part parts ih =>
    rw [List.foldl_cons]
    cases part with
    | text literal => exact ih once
    | percent => exact ih (nodup_register once)
    | code inline => exact ih (nodup_register once)

theorem Part.isText_piece (part : Part) : part.piece.isText = part.isText := by cases part <;> rfl

theorem SoundParts.segment {parts : List Part} (sound : SoundParts parts) :
    (Segment.ofParts parts).Sound where
  any := by simpa [Segment.ofParts] using sound.any
  texts := by
    intro member
    obtain ⟨part, inParts, same⟩ := List.mem_map.mp member
    cases part with
    | text literal => cases same; exact sound.texts inParts
    | percent => cases same
    | code inline => cases same
  apart := by
    rw [Apart, Segment.ofParts, List.isChain_map]
    simp only [Part.isText_piece]
    exact sound.apart
  keys := by
    have start : List.map Prod.fst ([] : SubstitutionTable) = List.eraseDups [] := rfl
    exact keys_foldl_register parts start
  once := nodup_foldl_register parts List.nodup_nil

theorem SoundParts.append {front back : List Part} (first : SoundParts front) (second : SoundParts back)
    (apart : ∀ a ∈ front.getLast?, ∀ b ∈ back.head?, ¬ (a.isText = true ∧ b.isText = true)) :
    SoundParts (front ++ back) where
  any := by simp [first.any]
  texts := Text.not_mem_append first.texts second.texts
  apart := apart_append.mpr ⟨first.apart, second.apart, apart⟩

namespace Text

theorem replaceFrom_ne_nil {old new : List Char} (any : new ≠ []) (c : Char) (rest : List Char) :
    replaceFrom old new 0 (c :: rest) ≠ [] := by
  rw [replaceFrom]
  split
  · exact fun empty => any (List.append_eq_nil_iff.mp empty).1
  · exact List.cons_ne_nil _ _

theorem replaceAll_ne_nil (old : List Char) {new text : List Char} (any : new ≠ []) (some : text ≠ []) :
    replaceAll old new text ≠ [] := by
  cases text with
  | nil => contradiction
  | cons c rest =>
    unfold replaceAll
    split
    · exact fun empty => any (List.append_eq_nil_iff.mp empty).1
    · exact replaceFrom_ne_nil any c rest

theorem unescape_ne_nil {text : List Char} (some : text ≠ []) : unescape text ≠ [] := by
  have first := replaceAll_ne_nil ['{', dollar, '{'] (List.cons_ne_nil '{' ['{']) some
  have second := replaceAll_ne_nil ['}', dollar, '}'] (List.cons_ne_nil '}' ['}']) first
  exact replaceAll_ne_nil [dollar, dollar] (List.cons_ne_nil dollar []) second

end Text

/-- A source at which literal text stops: at its end, at a percent sign, or at a directive. -/
def Stops (source : List Char) : Prop :=
  ∀ c ∈ source.head?, c = '%' ∨ Text.opening.isPrefixOf source = true

theorem stops_literalRun (source : List Char) : Stops (literalRun source).2 := by
  induction source with
  | nil => simp [Stops, literalRun]
  | cons c rest ih =>
    rw [literalRun]
    split
    next stops =>
      rintro _ ⟨⟩
      simpa using stops
    next => exact ih

theorem isSegment_of_opens {directive : Directive} {construct : Construct} {event : Event}
    (opened : directive.opens construct = .ok event) : event.isSegment = false := by
  cases construct with
  | conditional =>
    rw [Directive.opens] at opened
    obtain ⟨_, _, rfl⟩ := map_eq_ok opened
    rfl
  | whileLoop =>
    rw [Directive.opens] at opened
    obtain ⟨_, _, rfl⟩ := map_eq_ok opened
    rfl
  | forLoop =>
    rw [Directive.opens] at opened
    obtain ⟨_, _, rfl⟩ := map_eq_ok opened
    rfl

theorem isSegment_of_block {block : CodeBlock} {opening : Directive} {body : List Char} {event : Event}
    (made : block.event opening body = .ok event) : event.isSegment = false := by
  obtain ⟨_, _, made⟩ := bind_eq_ok made
  cases block with
  | script =>
    obtain ⟨_, _, made⟩ := bind_eq_ok made
    cases made
    rfl
  | eval =>
    obtain ⟨_, _, made⟩ := bind_eq_ok made
    cases made
    rfl

theorem segment_of_directive {directive : Directive} {text source after : List Char} {parts : List Part}
    (found : directive.event text = .ok (.segment parts, source, after)) :
    ∃ code, directive.keyword? = none ∧ directive.substitution = .ok code ∧ parts = [.code code] ∧
      source = directive.source ∧ after = text := by
  unfold Directive.event at found
  split at found
  next plain =>
    obtain ⟨code, parsed, found⟩ := bind_eq_ok found
    cases found
    exact ⟨code, plain, parsed, rfl, rfl, rfl⟩
  next construct _ =>
    obtain ⟨event, opened, found⟩ := bind_eq_ok found
    cases found
    cases isSegment_of_opens opened
  next block _ =>
    obtain ⟨⟨event, inner, behind⟩, read, found⟩ := bind_eq_ok found
    cases found
    obtain ⟨_, _, made, _⟩ := CodeBlock.read_eq_ok read
    cases isSegment_of_block made
  next => cases found

/-- A segment that is one event by itself: a percent sign, an expression, or a whole run of text. -/
theorem segment_of_firstEvent {place : Text.Place} {c : Char} {rest source after : List Char}
    {parts : List Part} (found : firstEvent place c rest = .ok (.segment parts, source, after)) :
    ∃ part, parts = [part] ∧ part ≠ .text [] ∧
      (part.isText = true → ¬ Stops (c :: rest) ∧ Stops after) := by
  unfold firstEvent at found
  split at found
  next =>
    cases found
    exact ⟨.percent, rfl, by simp, by simp [Part.isText]⟩
  next notPercent =>
    split at found
    next opens =>
      split at found
      next => contradiction
      next directive behind _ =>
        obtain ⟨code, _, _, rfl, _⟩ := segment_of_directive found
        exact ⟨.code code, rfl, by simp, by simp [Part.isText]⟩
    next notOpens =>
      cases found
      refine ⟨_, rfl, ?_, fun _ => ⟨?_, stops_literalRun rest⟩⟩
      · intro empty
        exact Text.unescape_ne_nil (List.cons_ne_nil _ _) (Part.text.inj empty)
      · intro stops
        exact (stops c rfl).elim notPercent notOpens

def StartsText (events : List Event) : Prop :=
  ∃ text parts rest, events = .segment (.text text :: parts) :: rest

theorem SoundEvents.cons {event : Event} {events : List Event} (sound : SoundEvents events)
    (other : event.isSegment = false) : SoundEvents (event.cons events) := by
  have plain : event.cons events = event :: events := by
    cases event with
    | segment parts => contradiction
    | _ => rfl
  rw [plain]
  constructor
  · intro parts member
    rcases List.mem_cons.mp member with rfl | member
    · contradiction
    · exact sound.parts parts member
  · exact List.isChain_cons.mpr ⟨fun _ _ both => by simp [other] at both, sound.apart⟩

theorem soundParts_singleton {part : Part} (some : part ≠ .text []) : SoundParts [part] where
  any := List.cons_ne_nil _ _
  texts := fun member => some (List.mem_singleton.mp member).symm
  apart := .singleton part

theorem SoundEvents.cons_segment {part : Part} {events : List Event} (sound : SoundEvents events)
    (some : part ≠ .text []) (apart : part.isText = true → ¬ StartsText events) :
    SoundEvents (Event.cons (.segment [part]) events) := by
  by_cases joined : ∃ others rest, events = .segment others :: rest
  · obtain ⟨others, rest, rfl⟩ := joined
    obtain ⟨first, later⟩ := List.isChain_cons.mp sound.apart
    have whole : SoundParts ([part] ++ others) := by
      refine (soundParts_singleton some).append (sound.parts others List.mem_cons_self) ?_
      rintro _ ⟨⟩ next isNext ⟨text, nextText⟩
      cases others with
      | nil => cases isNext
      | cons head others =>
        cases isNext
        cases next with
        | text literal => exact apart text ⟨literal, others, rest, rfl⟩
        | percent => cases nextText
        | code inline => cases nextText
    refine ⟨fun parts member => ?_, List.isChain_cons.mpr ⟨first, later⟩⟩
    rcases List.mem_cons.mp member with same | member
    · cases same
      exact whole
    · exact sound.parts parts (List.mem_cons_of_mem _ member)
  · have plain : Event.cons (.segment [part]) events = .segment [part] :: events := by
      cases events with
      | nil => rfl
      | cons event rest =>
        cases event with
        | segment others => exact absurd ⟨others, rest, rfl⟩ joined
        | _ => rfl
    rw [plain]
    refine ⟨fun parts member => ?_, List.isChain_cons.mpr ⟨?_, sound.apart⟩⟩
    · rcases List.mem_cons.mp member with same | member
      · cases same
        exact soundParts_singleton some
      · exact sound.parts parts member
    · rintro event isHead ⟨_, isSegment⟩
      cases events with
      | nil => cases isHead
      | cons head rest =>
        cases isHead
        cases event with
        | segment others => exact joined ⟨others, rest, rfl⟩
        | _ => cases isSegment

theorem startsText_cons {event : Event} {events : List Event} (starts : StartsText (event.cons events)) :
    event.isSegment = true := by
  cases event with
  | segment parts => rfl
  | _ =>
    obtain ⟨_, _, _, same⟩ := starts
    cases same

theorem not_startsText_cons {part : Part} {events : List Event} (other : part.isText = false) :
    ¬ StartsText (Event.cons (.segment [part]) events) := by
  rintro ⟨text, parts, rest, same⟩
  have first : part = .text text := by
    cases events with
    | nil => cases same; rfl
    | cons event events =>
      cases event with
      | segment others => cases same; rfl
      | _ => cases same; rfl
  rw [first] at other
  cases other

theorem startsText_eventsFrom {place : Text.Place} {source : List Char} (stops : Stops source) :
    ¬ StartsText (eventsFrom place source) := by
  cases source with
  | nil =>
    rw [eventsFrom]
    rintro ⟨_, _, _, same⟩
    cases same
  | cons c rest =>
    rw [eventsFrom]
    split
    next =>
      rintro ⟨_, _, _, same⟩
      cases same
    next event source after found =>
      intro starts
      cases event with
      | segment parts =>
        obtain ⟨part, rfl, _, running⟩ := segment_of_firstEvent found
        cases isText : part.isText with
        | true => exact (running isText).1 stops
        | false => exact not_startsText_cons isText starts
      | _ => cases startsText_cons starts

theorem eventsFrom_error {place : Text.Place} {c : Char} {rest : List Char} {e : ParseError}
    (failed : firstEvent place c rest = .error e) : eventsFrom place (c :: rest) = [.invalid e] := by
  rw [eventsFrom]
  split
  next found => cases failed.symm.trans found; rfl
  next found => cases failed.symm.trans found

theorem eventsFrom_ok {place : Text.Place} {c : Char} {rest source after : List Char} {event : Event}
    (made : firstEvent place c rest = .ok (event, source, after)) :
    eventsFrom place (c :: rest) = event.cons (eventsFrom (place.advance source) after) := by
  rw [eventsFrom]
  split
  next found => cases made.symm.trans found
  next found => cases made.symm.trans found; rfl

theorem Event.cons_cases (event : Event) (events : List Event) : event.cons events = event :: events ∨
    ∃ parts others rest, event = .segment parts ∧ events = .segment others :: rest ∧
      event.cons events = .segment (parts ++ others) :: rest := by
  cases event with
  | segment parts =>
    cases events with
    | nil => exact .inl rfl
    | cons next rest =>
      cases next with
      | segment others => exact .inr ⟨parts, others, rest, rfl, rfl, rfl⟩
      | _ => exact .inl rfl
  | _ => exact .inl rfl

/-- A property that segments keep when they are joined holds of an event put before others. -/
theorem Event.forall_mem_cons {property : Event → Prop}
    (join : ∀ parts others, property (.segment parts) → property (.segment others) →
      property (.segment (parts ++ others)))
    {event : Event} {events : List Event} (first : property event) (later : ∀ other ∈ events, property other) :
    ∀ found ∈ event.cons events, property found := by
  rcases event.cons_cases events with same | ⟨parts, others, behind, rfl, rfl, same⟩
  · rw [same]
    exact List.forall_mem_cons.mpr ⟨first, later⟩
  · obtain ⟨next, later⟩ := List.forall_mem_cons.mp later
    rw [same]
    exact List.forall_mem_cons.mpr ⟨join parts others first next, later⟩

/-- A property of all events of a source, if the first event behind every part of it has the property. -/
theorem forall_mem_events {source : List Char} {property : Event → Prop}
    (join : ∀ parts others, property (.segment parts) → property (.segment others) →
      property (.segment (parts ++ others)))
    (fails : ∀ before c rest e, source = before ++ c :: rest →
      firstEvent (Text.Place.start.advance before) c rest = .error e → property (.invalid e))
    (gives : ∀ before c rest event own after, source = before ++ c :: rest →
      firstEvent (Text.Place.start.advance before) c rest = .ok (event, own, after) → property event) :
    ∀ event ∈ events source, property event := by
  -- The induction is on the text that is left. The text before it tells the place of the next event.
  have from_behind (place : Text.Place) (text before : List Char) (here : place = Text.Place.start.advance before)
      (whole : source = before ++ text) : ∀ event ∈ eventsFrom place text, property event := by
    induction place, text using eventsFrom.induct generalizing before with
    | case1 place =>
      rw [eventsFrom]
      exact fun _ member => by cases member
    | case2 place c rest e failed =>
      rw [eventsFrom_error failed]
      subst here
      simpa using fails before c rest e whole failed
    | case3 place c rest event own after made shorter ih =>
      subst here
      obtain ⟨_, split⟩ := firstEvent_append made
      have later := ih (before ++ own) (Text.Place.advance_append _ _ _).symm (by simp [whole, ← split])
      rw [eventsFrom_ok made]
      exact Event.forall_mem_cons join (gives before c rest event own after whole made) later
  exact from_behind Text.Place.start source [] rfl rfl

theorem sound_eventsFrom (place : Text.Place) (source : List Char) :
    SoundEvents (eventsFrom place source) := by
  induction place, source using eventsFrom.induct with
  | case1 place =>
    rw [eventsFrom]
    exact ⟨by simp, .nil⟩
  | case2 place c rest e failed =>
    rw [eventsFrom_error failed]
    exact ⟨by simp, .singleton _⟩
  | case3 place c rest event source after made shorter ih =>
    rw [eventsFrom_ok made]
    cases event with
    | segment parts =>
      obtain ⟨part, rfl, some, running⟩ := segment_of_firstEvent made
      exact ih.cons_segment some fun isText => startsText_eventsFrom (running isText).2
    | _ => exact ih.cons rfl

end Stencil
