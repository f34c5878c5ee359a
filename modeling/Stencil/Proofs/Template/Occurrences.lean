import Mathlib.Data.List.Infix
import Stencil.Proofs.Template.Filling
import Stencil.Proofs.Template.OnePass

/-! Where the parts of a segment stand in a source. Main statement: a segment is all of the source from one
block to the next, and writes at once what each of its texts, percent signs and expressions gives, in the order of
the source, or fails as the first of its expressions that fails and writes nothing. -/
namespace Stencil

/-- What a part stands for in a source: the text that it was read from at a place, and what follows it. -/
inductive Part.Occurs (place : Text.Place) (after : List Char) : List Char → Part → Prop
  | text {run : List Char} (some : run ≠ []) (plain : '%' ∉ run)
      (closed : ∀ front back, run = front ++ back → back ≠ [] → ¬ Text.opening <+: back ++ after)
      (stops : Stops after) : Occurs place after run (.text (Text.unescape run))
  | percent : Occurs place after ['%'] .percent
  | code {directive : Directive} {e : Expr} (here : directive.start = place)
      (first : ∀ front back, directive.raw ++ Text.closing ++ after = front ++ Text.closing ++ back →
        directive.raw.length ≤ front.length)
      (plain : directive.keyword? = none) (parsed : parseExpression directive.text = .ok e) :
      Occurs place after directive.source (.code ⟨directive.text, e, place⟩)

/-- Parts that occur one behind the other, from a place on and up to what follows them. -/
inductive Occurrences (after : List Char) : Text.Place → List Char → List Part → Prop
  | nil (place : Text.Place) : Occurrences after place [] []
  | cons {place : Text.Place} {own more : List Char} {part : Part} {parts : List Part}
      (first : part.Occurs place (more ++ after) own) (behind : Occurrences after (place.advance own) more parts) :
      Occurrences after place (own ++ more) (part :: parts)

/-- A source with its events, one behind the other. A segment stands between two events of other kinds, which are
directives. -/
inductive Laid : Text.Place → List Char → List Event → Prop
  | nil (place : Text.Place) : Laid place [] []
  | stuck {place : Text.Place} {source : List Char} (opens : Text.opening <+: source) (e : ParseError) :
      Laid place source [.invalid e]
  | segment {place : Text.Place} {own after : List Char} {parts : List Part} {events : List Event} (some : own ≠ [])
      (occurs : Occurrences after place own parts) (apart : ∀ event ∈ events.head?, event.isSegment = false)
      (behind : Laid (place.advance own) after events) : Laid place (own ++ after) (.segment parts :: events)
  | directive {place : Text.Place} {own after : List Char} {event : Event} {events : List Event}
      (other : event.isSegment = false) (opens : Text.opening <+: own) (closes : Text.closing <:+ own)
      (behind : Laid (place.advance own) after events) : Laid place (own ++ after) (event :: events)

section Events

variable {place : Text.Place} {c : Char} {rest own after : List Char} {event : Event}

theorem literalRun_plain (source : List Char) : '%' ∉ (literalRun source).1 := by
  induction source with
  | nil => exact List.not_mem_nil
  | cons c rest ih =>
    rw [literalRun]
    split
    next => exact List.not_mem_nil
    next runs =>
      have other : '%' ≠ c := by
        rintro rfl
        exact runs rfl
      exact List.not_mem_cons_of_ne_of_not_mem other ih

/-- No directive opens in a run of literal text, also none that goes on behind it. -/
theorem literalRun_closed {source front back : List Char} (whole : (literalRun source).1 = front ++ back)
    (some : back ≠ []) : ¬ Text.opening <+: back ++ (literalRun source).2 := by
  induction source generalizing front with
  | nil =>
    rw [literalRun] at whole
    exact absurd (List.append_eq_nil_iff.mp whole.symm).2 some
  | cons c rest ih =>
    rw [literalRun] at whole ⊢
    split at whole
    next => exact absurd (List.append_eq_nil_iff.mp whole.symm).2 some
    next runs =>
      rw [if_neg runs]
      cases front with
      | nil =>
        have here : back ++ (literalRun rest).2 = c :: rest := by
          rw [← List.nil_append back, ← whole, List.cons_append, literalRun_append]
        rw [here, ← List.isPrefixOf_iff_prefix]
        exact fun opens => runs (by simp [opens])
      | cons d front => exact ih (List.cons_eq_cons.mp whole).2

theorem occurs_literalRun (place : Text.Place) (source : List Char) (some : (literalRun source).1 ≠ []) :
    Part.Occurs place (literalRun source).2 (literalRun source).1 (.text (Text.unescape (literalRun source).1)) :=
  .text some (literalRun_plain source) (fun _ _ => literalRun_closed) (stops_literalRun source)

theorem Directive.occurs_of_substitution {directive : Directive} {code : Code Expr} {text : List Char}
    (first : ∀ front back, directive.raw ++ Text.closing ++ text = front ++ Text.closing ++ back →
      directive.raw.length ≤ front.length) (plain : directive.keyword? = none)
    (made : directive.substitution = .ok code) :
    (Part.code code).Occurs directive.start text directive.source := by
  unfold Directive.substitution Directive.codeOf at made
  split at made
  next parsed =>
    cases made
    exact .code rfl first plain parsed
  next => cases made

theorem occurs_of_firstEvent {parts : List Part}
    (found : firstEvent place c rest = .ok (.segment parts, own, after)) :
    ∃ part, parts = [part] ∧ part.Occurs place after own := by
  unfold firstEvent at found
  split at found
  next isPercent =>
    cases found
    subst isPercent
    exact ⟨_, rfl, .percent⟩
  next notPercent =>
    split at found
    next =>
      cases cut : Text.cut? Text.closing (rest.drop 1) with
      | none =>
        rw [Directive.read?, cut] at found
        cases found
      | some halves =>
        obtain ⟨raw, behind⟩ := halves
        rw [Directive.read?, cut] at found
        obtain ⟨code, plain, made, rfl, rfl, rfl⟩ := segment_of_directive found
        have first (front back : List Char) (same : raw ++ Text.closing ++ after = front ++ Text.closing ++ back) :
            raw.length ≤ front.length := Text.length_le_of_cut? cut ((Text.cut?_append cut).symm.trans same)
        exact ⟨_, rfl, Directive.occurs_of_substitution first plain made⟩
    next closed =>
      cases found
      have runs : literalRun (c :: rest) = (c :: (literalRun rest).1, (literalRun rest).2) := by
        rw [literalRun, if_neg (by simp [notPercent, closed])]
      have occurs := occurs_literalRun place (c :: rest) (by simp [runs])
      rw [runs] at occurs
      exact ⟨_, rfl, occurs⟩

theorem Directive.closes_of_event {directive : Directive} {text : List Char}
    (found : directive.event text = .ok (event, own, after)) : Text.closing <:+ own := by
  unfold Directive.event at found
  split at found
  next =>
    obtain ⟨_, _, found⟩ := bind_eq_ok found
    cases found
    exact List.suffix_append _ _
  next =>
    obtain ⟨_, _, found⟩ := bind_eq_ok found
    cases found
    exact List.suffix_append _ _
  next block _ =>
    obtain ⟨⟨inner, body, behind⟩, read, found⟩ := bind_eq_ok found
    cases found
    obtain ⟨_, _, _, rfl, _⟩ := CodeBlock.read_eq_ok read
    simp only [CodeBlock.endTag, ← List.append_assoc]
    exact List.suffix_append _ _
  next =>
    cases found
    exact List.suffix_append _ _

theorem opens_of_error {e : ParseError} (failed : firstEvent place c rest = .error e) :
    Text.opening <+: c :: rest := by
  unfold firstEvent at failed
  split at failed
  next => cases failed
  next =>
    split at failed
    next opens => exact List.isPrefixOf_iff_prefix.mp opens
    next => cases failed

theorem delimited_of_firstEvent (found : firstEvent place c rest = .ok (event, own, after))
    (other : event.isSegment = false) : Text.opening <+: own ∧ Text.closing <:+ own := by
  unfold firstEvent at found
  split at found
  next =>
    cases found
    cases other
  next =>
    split at found
    next =>
      split at found
      next => cases found
      next directive behind _ =>
        obtain ⟨body, rfl, _⟩ := Directive.event_append found
        refine ⟨?_, Directive.closes_of_event found⟩
        simp only [Directive.source, List.append_assoc]
        exact List.prefix_append _ _
    next =>
      cases found
      cases other

end Events

namespace Laid

variable {place : Text.Place} {source own after : List Char} {events : List Event}

theorem starts (laid : Laid place source events) (other : ∀ event ∈ events.head?, event.isSegment = false) :
    source = [] ∨ Text.opening <+: source := by
  cases laid with
  | nil => exact .inl rfl
  | stuck opens e => exact .inr opens
  | segment _ _ _ _ => cases other _ rfl
  | directive _ opens _ _ => exact .inr (opens.trans (List.prefix_append _ _))

theorem cons_segment {part : Part} (some : own ≠ []) (occurs : part.Occurs place after own)
    (laid : Laid (place.advance own) after events) :
    Laid place (own ++ after) (Event.cons (.segment [part]) events) := by
  rcases Event.cons_cases (.segment [part]) events with same | ⟨_, others, behind, ⟨⟩, rfl, same⟩
  · rw [same]
    have apart : ∀ event ∈ events.head?, event.isSegment = false := by
      intro event isHead
      cases event with
      | segment parts =>
        obtain ⟨tail, rfl⟩ := List.head?_eq_some_iff.mp isHead
        cases same
      | _ => rfl
    have single : Occurrences after place (own ++ []) [part] := .cons occurs (.nil _)
    rw [List.append_nil] at single
    exact .segment some single apart laid
  · rw [same]
    cases laid with
    | segment _ following apart laid =>
      rw [← List.append_assoc]
      refine .segment (List.append_ne_nil_of_left_ne_nil some _) (.cons occurs following) apart ?_
      rwa [Text.Place.advance_append]
    | directive other _ _ _ => cases other

theorem cons_directive {event : Event} (other : event.isSegment = false) (opens : Text.opening <+: own)
    (closes : Text.closing <:+ own) (laid : Laid (place.advance own) after events) :
    Laid place (own ++ after) (event.cons events) := by
  rcases event.cons_cases events with same | ⟨_, _, _, rfl, _, _⟩
  · rw [same]
    exact .directive other opens closes laid
  · cases other

end Laid

theorem laid_eventsFrom (place : Text.Place) (source : List Char) : Laid place source (eventsFrom place source) := by
  induction place, source using eventsFrom.induct with
  | case1 place =>
    rw [eventsFrom]
    exact .nil place
  | case2 place c rest e failed =>
    rw [eventsFrom_error failed]
    exact .stuck (opens_of_error failed) e
  | case3 place c rest event own after made shorter ih =>
    obtain ⟨some, whole⟩ := firstEvent_append made
    rw [eventsFrom_ok made, ← whole]
    cases is : event.isSegment with
    | false =>
      obtain ⟨opens, closes⟩ := delimited_of_firstEvent made is
      exact ih.cons_directive is opens closes
    | true =>
      cases event with
      | segment parts =>
        obtain ⟨part, rfl, occurs⟩ := occurs_of_firstEvent made
        exact ih.cons_segment some occurs
      | _ => cases is

/-- A segment stands behind the start of the source or a directive, and before a directive or the end. -/
theorem Laid.locate {place : Text.Place} {source : List Char} {events : List Event} {parts : List Part}
    (laid : Laid place source events) (member : .segment parts ∈ events) : ∃ before own after,
      source = before ++ own ++ after ∧ Occurrences after (place.advance before) own parts ∧
        (after = [] ∨ Text.opening <+: after) ∧
        (Text.closing <:+ before ∨ before = [] ∧ events.head? = some (.segment parts)) := by
  induction laid with
  | nil place => cases member
  | stuck opens e => cases List.mem_singleton.mp member
  | @segment place own after others events some occurs apart behind ih =>
    rcases List.mem_cons.mp member with same | later
    · cases same
      exact ⟨[], own, after, rfl, occurs, behind.starts apart, .inr ⟨rfl, rfl⟩⟩
    · obtain ⟨before, inner, left, rfl, occurs, ends, closes | ⟨_, first⟩⟩ := ih later
      · refine ⟨own ++ before, inner, left, by simp, ?_, ends, .inl (closes.trans (List.suffix_append _ _))⟩
        rwa [Text.Place.advance_append]
      · cases apart _ first
  | @directive place own after event events other opens closes behind ih =>
    rcases List.mem_cons.mp member with same | later
    · subst same
      cases other
    · obtain ⟨before, inner, left, rfl, occurs, ends, around⟩ := ih later
      refine ⟨own ++ before, inner, left, by simp, ?_, ends, .inl ?_⟩
      · rwa [Text.Place.advance_append]
      · rcases around with closes' | ⟨rfl, _⟩
        · exact closes'.trans (List.suffix_append _ _)
        · rwa [List.append_nil]

theorem Occurrences.parsed {place : Text.Place} {after own : List Char} {parts : List Part}
    (occurrences : Occurrences after place own parts) : ∀ part ∈ parts, part.Parsed := by
  induction occurrences with
  | nil => exact List.forall_mem_nil _
  | cons first _ ih =>
    refine List.forall_mem_cons.mpr ⟨?_, ih⟩
    cases first with
    | text _ _ _ _ => exact nofun
    | percent =>
      rintro _ ⟨⟩
      trivial
    | code _ _ _ parsed =>
      rintro _ ⟨⟩
      exact parsed

/-- Filling parts gives what each gives, or the error of the first that fails. -/
theorem fillParts_cases (scope : Scope) (parts : List Part) :
    (∃ texts, List.Forall₂ (fun part text => part.filled scope = .ok text) parts texts ∧
      fillParts scope parts = .ok texts.flatten) ∨
    ∃ front code back e, parts = front ++ .code code :: back ∧
      (∀ part ∈ front, ∃ text, part.filled scope = .ok text) ∧ code.parsed.eval scope = .error e ∧
      fillParts scope parts = .error e := by
  induction parts with
  | nil => exact .inl ⟨[], .nil, rfl⟩
  | cons part rest ih =>
    rw [fillParts]
    cases filled : part.filled scope with
    | error e =>
      cases part with
      | text literal => cases filled
      | percent => cases filled
      | code inline => exact .inr ⟨[], inline, rest, e, rfl, List.forall_mem_nil _, bind_pure_eq_error.mp filled, rfl⟩
    | ok text =>
      rcases ih with ⟨texts, each, whole⟩ | ⟨front, code, back, e, rfl, earlier, failed, stuck⟩
      · exact .inl ⟨text :: texts, .cons filled each, by rw [whole]; rfl⟩
      · refine .inr ⟨part :: front, code, back, e, rfl, ?_, failed, by rw [stuck]; rfl⟩
        exact List.forall_mem_cons.mpr ⟨⟨text, filled⟩, earlier⟩

theorem Machine.segment_of_mark {events : List Event} {list : List Mark} (marked : Marked events list)
    {segment : Segment} (member : .leaf (.substitute segment) ∈ list) :
    ∃ parts, .segment parts ∈ events ∧ segment = .ofParts parts := by
  obtain ⟨front, back, rfl⟩ := List.append_of_mem member
  obtain ⟨before, after, rfl, _, behind⟩ := Marked.split marked
  obtain ⟨event, others, leaves, _, rfl⟩ := List.forall₂_cons_right_iff.mp behind
  cases leaves with
  | leaf is =>
    cases event with
    | segment parts =>
      have node : Node.ofParts parts = .substitute segment := Role.leaf.inj is
      unfold Node.ofParts at node
      dsimp only at node
      split at node
      next =>
        cases node
        exact ⟨parts, by simp, rfl⟩
      next => cases node
    | _ => cases is

/-- A substitution node, at whatever depth, was read from all of the source between two blocks, and writes at once the
texts of what occurs there, one behind the other. If expressions of it fail, it fails as the first of them, and nothing
is written. -/
theorem substitution_writes_occurrences {source : List Char} {template : Template} {segment : Segment}
    (parsed : Template.parse source = .ok template)
    (node : .leaf (.substitute segment) ∈ Machine.marks template.nodes) :
    ∃ before own after parts, source = before ++ own ++ after ∧
      (before = [] ∨ Text.closing <:+ before) ∧ (after = [] ∨ Text.opening <+: after) ∧
      Occurrences after (Text.Place.start.advance before) own parts ∧ segment = .ofParts parts ∧
      ∀ rounds machine,
        (∃ texts, List.Forall₂ (fun part text => part.filled machine.scope = .ok text) parts texts ∧
          runNode rounds (.substitute segment) machine = machine.write texts.flatten) ∨
        ∃ front code back e, parts = front ++ .code code :: back ∧
          (∀ part ∈ front, ∃ text, part.filled machine.scope = .ok text) ∧
          code.parsed.eval machine.scope = .error e ∧
          runNode rounds (.substitute segment) machine = .failed machine e := by
  obtain ⟨nodes, found, rfl⟩ := map_eq_ok parsed
  rw [Machine.parseNodes_eq_run] at found
  obtain ⟨parts, member, rfl⟩ := Machine.segment_of_mark (Machine.marked_of_run found) node
  obtain ⟨before, own, after, whole, occurs, ends, behind⟩ := (laid_eventsFrom .start source).locate member
  refine ⟨before, own, after, parts, whole, ?_, ends, occurs, rfl, fun rounds machine => ?_⟩
  · exact behind.elim .inr fun ⟨first, _⟩ => .inl first
  · rw [runNode, filled_ofParts parts occurs.parsed]
    rcases fillParts_cases machine.scope parts with
      ⟨texts, each, filled⟩ | ⟨front, code, back, e, split, earlier, failed, stuck⟩
    · exact .inl ⟨texts, each, by rw [filled]; rfl⟩
    · exact .inr ⟨front, code, back, e, split, earlier, failed, by rw [stuck]; rfl⟩

/-- A loop whose body has an expression twice, between percent signs. -/
theorem substitution_writes_occurrences_of_loop : ∃ template segment,
    Template.parse "{{for x in y}}%{{x}}-{{ x }}%{{endfor}}".toList = .ok template ∧
      .leaf (.substitute segment) ∈ Machine.marks template.nodes ∧ ∃ before own after parts,
        "{{for x in y}}%{{x}}-{{ x }}%{{endfor}}".toList = before ++ own ++ after ∧
          Occurrences after (Text.Place.start.advance before) own parts ∧ segment = .ofParts parts ∧
          ∀ rounds machine,
            (∃ texts, List.Forall₂ (fun part text => part.filled machine.scope = .ok text) parts texts ∧
              runNode rounds (.substitute segment) machine = machine.write texts.flatten) ∨
            ∃ code e, .code code ∈ parts ∧ code.parsed.eval machine.scope = .error e ∧
              runNode rounds (.substitute segment) machine = .failed machine e := by
  have parsed : ((Template.parse "{{for x in y}}%{{x}}-{{ x }}%{{endfor}}".toList).toOption.map fun template =>
      (Machine.marks template.nodes).any fun mark =>
        match mark with
        | .leaf (.substitute _) => true
        | _ => false) = some true := by decide +kernel
  cases found : Template.parse "{{for x in y}}%{{x}}-{{ x }}%{{endfor}}".toList with
  | error e => rw [found] at parsed; cases parsed
  | ok template =>
    rw [found] at parsed
    obtain ⟨mark, member, isSubstitution⟩ := List.any_eq_true.mp (Option.some.inj parsed)
    split at isSubstitution
    next segment =>
      obtain ⟨before, own, after, parts, whole, _, _, occurs, same, runs⟩ :=
        substitution_writes_occurrences found member
      refine ⟨template, segment, rfl, member, before, own, after, parts, whole, occurs, same, fun rounds machine => ?_⟩
      rcases runs rounds machine with written | ⟨front, code, back, e, split, _, failed, ran⟩
      · exact .inl written
      · exact .inr ⟨code, e, by simp [split], failed, ran⟩
    next => cases isSubstitution

end Stencil
