import Stencil.Proofs.Template.Behind
import Stencil.Proofs.Template.Delivery
import Stencil.Proofs.Template.Occurrences
import Stencil.Proofs.Text.Lines

/-! Sources one behind the other. Main statement: behind a source that ends a line, another one compiles as it
does by itself, with the places of its errors moved, and the nodes of both write what the nodes of each write. -/
namespace Stencil

section Reading

variable {place : Text.Place} {c : Char} {rest source after : List Char} {event : Event}

theorem CodeBlock.read_append_right {block : CodeBlock} {opening : Directive} {text : List Char}
    (found : block.read opening text = .ok (event, source, after)) (back : List Char) :
    block.read opening (text ++ back) = .ok (event, source, after ++ back) := by
  unfold CodeBlock.read at found ⊢
  obtain ⟨_, bare, found⟩ := bind_eq_ok found
  rw [bare, ok_bind]
  cases cut : Text.cut? block.endTag text with
  | none =>
    rw [cut] at found
    cases found
  | some parts =>
    rw [cut] at found
    obtain ⟨made, parsed, found⟩ := bind_eq_ok found
    cases found
    rw [Text.cut?_append_right cut]
    dsimp only
    rw [parsed]
    rfl

theorem Directive.event_append_right {directive : Directive} {text : List Char}
    (found : directive.event text = .ok (event, source, after)) (back : List Char) :
    directive.event (text ++ back) = .ok (event, source, after ++ back) := by
  unfold Directive.event at found ⊢
  split at found
  next =>
    obtain ⟨code, parsed, found⟩ := bind_eq_ok found
    cases found
    rw [parsed]
    rfl
  next construct _ =>
    obtain ⟨made, opened, found⟩ := bind_eq_ok found
    cases found
    rw [opened]
    rfl
  next block _ =>
    obtain ⟨⟨inner, body, behind⟩, read, found⟩ := bind_eq_ok found
    cases found
    rw [CodeBlock.read_append_right read]
    rfl
  next =>
    cases found
    rfl

/-- Reading on is not changed by what follows a line, unless all of it has been read. -/
theorem firstEvent_append_right (line : (c :: rest).getLast? = some '\n')
    (found : firstEvent place c rest = .ok (event, source, after)) (more : after ≠ []) (back : List Char) :
    firstEvent place c (rest ++ back) = .ok (event, source, after ++ back) := by
  unfold firstEvent at found ⊢
  rw [opens_append_line line]
  split at found
  next isPercent =>
    cases found
    rw [if_pos isPercent]
  next notPercent =>
    rw [if_neg notPercent]
    split at found
    next opens =>
      rw [if_pos opens]
      have longer : 1 ≤ rest.length := by
        simpa [Text.opening] using (List.isPrefixOf_iff_prefix.mp opens).length_le
      rw [Directive.read?, List.drop_append_of_le_length longer]
      cases cut : Text.cut? Text.closing (rest.drop 1) with
      | none =>
        rw [Directive.read?, cut] at found
        cases found
      | some parts =>
        rw [Directive.read?, cut] at found
        rw [Text.cut?_append_right cut]
        exact Directive.event_append_right found back
    next closed =>
      rw [if_neg closed]
      cases found
      rw [literalRun_append_line (ends_line_of_cons line), if_neg more]

/-- An event that is all of a source that ends a line is literal text, which goes on behind the line. -/
theorem firstEvent_line (line : (c :: rest).getLast? = some '\n')
    (found : firstEvent place c rest = .ok (event, source, [])) (back : List Char) :
    firstEvent place c (rest ++ back) =
      .ok (.segment [.text (Text.unescape (c :: rest) ++ Text.unescape (literalRun back).1)],
        c :: rest ++ (literalRun back).1, (literalRun back).2) := by
  obtain ⟨_, whole⟩ := firstEvent_append found
  rw [List.append_nil] at whole
  unfold firstEvent at found ⊢
  rw [opens_append_line line]
  -- Neither a percent sign nor a directive ends with a line feed.
  split at found
  next isPercent =>
    cases found
    subst isPercent
    cases line
  next notPercent =>
    split at found
    next opens =>
      split at found
      next => cases found
      next directive behind _ =>
        obtain ⟨before, rfl⟩ := Directive.closes_of_event found
        simp [← whole, Text.closing] at line
    next closed =>
      rw [if_neg notPercent, if_neg closed]
      have ended : (literalRun rest).2 = [] := congrArg (·.2.2) (Except.ok.inj found)
      rw [literalRun_append_line (ends_line_of_cons line), if_pos ended, ← Text.unescape_append line]
      rfl

end Reading

def glue (text : List Char) : List Part → List Part
  | .text more :: rest => .text (text ++ more) :: rest
  | parts => .text text :: parts

/-- Puts a last segment before events. Its last part is a text. -/
def seam (parts : List Part) (text : List Char) : List Event → List Event
  | .segment others :: rest => .segment (parts ++ glue text others) :: rest
  | events => .segment (parts ++ [.text text]) :: events

theorem cons_seam (first parts : List Part) (text : List Char) (events : List Event) :
    Event.cons (.segment first) (seam parts text events) = seam (first ++ parts) text events := by
  cases events with
  | nil => simp [seam, Event.cons]
  | cons event rest => cases event <;> simp [seam, Event.cons]

theorem seam_text (text more : List Char) (events : List Event) :
    seam [] text (Event.cons (.segment [.text more]) events) =
      Event.cons (.segment [.text (text ++ more)]) events := by
  cases events with
  | nil => rfl
  | cons event rest => cases event <;> rfl

theorem seam_of_not_startsText {events : List Event} (apart : ¬ StartsText events) (text : List Char) :
    seam [] text events = Event.cons (.segment [.text text]) events := by
  cases events with
  | nil => rfl
  | cons event rest =>
    cases event with
    | segment parts =>
      cases parts with
      | nil => rfl
      | cons part parts =>
        cases part with
        | text more => exact absurd ⟨more, parts, rest, rfl⟩ apart
        | percent => rfl
        | code inline => rfl
    | _ => rfl

/-- Literal text goes on in the literal text that follows, with which it is one event. -/
theorem seam_literalRun (text : List Char) (place : Text.Place) (back : List Char) :
    seam [] text (eventsFrom place back) =
      Event.cons (.segment [.text (text ++ Text.unescape (literalRun back).1)])
        (eventsFrom (place.advance (literalRun back).1) (literalRun back).2) := by
  have whole := literalRun_append back
  by_cases none : (literalRun back).1 = []
  · have stops : Stops back := by
      rw [none, List.nil_append] at whole
      exact whole ▸ stops_literalRun back
    have nothing : Text.unescape [] = [] := rfl
    rw [none, List.nil_append] at whole
    rw [none, whole, nothing, List.append_nil]
    exact seam_of_not_startsText (startsText_eventsFrom stops) text
  · cases back with
    | nil => exact absurd rfl none
    | cons c rest =>
      rw [literalRun] at none
      split at none
      next => exact absurd rfl none
      next runs =>
        obtain ⟨notPercent, closed⟩ : c ≠ '%' ∧ ¬ Text.opening.isPrefixOf (c :: rest) = true := by simpa using runs
        have first : firstEvent place c rest =
            .ok (.segment [.text (Text.unescape (c :: (literalRun rest).1))], c :: (literalRun rest).1,
              (literalRun rest).2) := by
          rw [firstEvent, if_neg notPercent, if_neg closed]
        rw [eventsFrom_ok first, seam_text, literalRun, if_neg runs]

theorem cons_before_seam (event : Event) (before : List Event) (parts : List Part) (text : List Char) :
    ∃ earlier first, ∀ events,
      event.cons (before ++ seam parts text events) = earlier ++ seam first text events := by
  cases event with
  | segment first =>
    cases before with
    | nil => exact ⟨[], first ++ parts, cons_seam first parts text⟩
    | cons next before =>
      cases next with
      | segment others => exact ⟨.segment (first ++ others) :: before, parts, fun _ => rfl⟩
      | _ => exact ⟨.segment first :: _ :: before, parts, fun _ => rfl⟩
  | _ => exact ⟨_ :: before, parts, fun _ => rfl⟩

theorem mem_cons_invalid {e : ParseError} {events : List Event} (invalid : .invalid e ∈ events) (event : Event) :
    .invalid e ∈ event.cons events := by
  rcases event.cons_cases events with same | ⟨parts, others, rest, rfl, rfl, same⟩
  · exact same ▸ List.mem_cons_of_mem event invalid
  · rcases List.mem_cons.mp invalid with other | later
    · cases other
    · exact same ▸ List.mem_cons_of_mem _ later

/-- The events of a source that ends a line end with literal text, to which the events of what follows are
joined. They are read as if they stood alone. -/
theorem eventsFrom_append {place : Text.Place} {front : List Char} (line : front.getLast? = some '\n')
    (valid : ∀ e, .invalid e ∉ eventsFrom place front) : ∃ before parts text, ∀ back,
      eventsFrom place (front ++ back) = before ++ seam parts text (eventsFrom (place.advance front) back) := by
  induction place, front using eventsFrom.induct with
  | case1 place => cases line
  | case2 place c rest e failed =>
    rw [eventsFrom_error failed] at valid
    exact absurd List.mem_cons_self (valid e)
  | case3 place c rest event source after made shorter ih =>
    rw [eventsFrom_ok made] at valid
    obtain ⟨_, whole⟩ := firstEvent_append made
    by_cases more : after = []
    · -- All of the source is one text, which what follows may go on with.
      subst more
      refine ⟨[], [], Text.unescape (c :: rest), fun back => ?_⟩
      rw [List.cons_append, eventsFrom_ok (firstEvent_line line made back), Text.Place.advance_append]
      exact (seam_literalRun _ (place.advance (c :: rest)) back).symm
    · have ends : after.getLast? = some '\n' := by
        rwa [← whole, List.getLast?_append_of_ne_nil source more] at line
      obtain ⟨before, parts, text, joined⟩ := ih ends fun e invalid => valid e (mem_cons_invalid invalid event)
      obtain ⟨earlier, first, behind⟩ := cons_before_seam event before parts text
      refine ⟨earlier, first, text, fun back => ?_⟩
      rw [List.cons_append, eventsFrom_ok (firstEvent_append_right line made more back), joined,
        ← Text.Place.advance_append, whole, behind]

/-- Events whose segments hold only expressions that their texts are parsed as. -/
def ParsedEvents (events : List Event) : Prop :=
  ∀ parts, .segment parts ∈ events → ∀ part ∈ parts, part.Parsed

theorem parsed_eventsFrom (place : Text.Place) (source : List Char) : ParsedEvents (eventsFrom place source) := by
  intro parts member
  obtain ⟨_, _, _, _, occurs, _⟩ := (laid_eventsFrom place source).locate member
  exact occurs.parsed

section Joining

/-- Nodes one behind the other, of which the last and the first may have become one text node. -/
inductive Joined : List Node → List Node → List Node → Prop
  | apart (front back : List Node) : Joined front back (front ++ back)
  | glued (before rest : List Node) (parts others : List Part) (text : List Char)
      (first : ∀ part ∈ parts ++ [.text text], part.Parsed) (second : ∀ part ∈ others, part.Parsed) :
      Joined (before ++ [.ofParts (parts ++ [.text text])]) (.ofParts others :: rest)
        (before ++ .ofParts (parts ++ glue text others) :: rest)

theorem fillParts_glue (scope : Scope) (text : List Char) (parts : List Part) :
    fillParts scope (glue text parts) = fillParts scope (.text text :: parts) := by
  cases parts with
  | nil => rfl
  | cons part rest =>
    cases part with
    | text more => simp only [glue, fillParts, Part.filled, ok_bind, bind_assoc, pure_bind, List.append_assoc]
    | percent => rfl
    | code inline => rfl

theorem parsed_glue {parts : List Part} (parsed : ∀ part ∈ parts, part.Parsed) (text : List Char) :
    ∀ part ∈ glue text parts, part.Parsed := by
  have plain (text : List Char) : Part.Parsed (.text text) := nofun
  cases parts with
  | nil => exact List.forall_mem_singleton.mpr (plain text)
  | cons part rest =>
    cases part with
    | text more => exact List.forall_mem_cons.mpr ⟨plain _, (List.forall_mem_cons.mp parsed).2⟩
    | percent => exact List.forall_mem_cons.mpr ⟨plain _, parsed⟩
    | code inline => exact List.forall_mem_cons.mpr ⟨plain _, parsed⟩

theorem Joined.delivers {front back whole : List Node} (joined : Joined front back whole)
    {start between after : Scope} {output more : List UInt8} (first : Delivers front start output between)
    (second : Delivers back between more after) : Delivers whole start (output ++ more) after := by
  cases joined with
  | apart => exact delivers_append.mpr ⟨output, between, more, first, second, rfl⟩
  | glued before rest parts others text parsed parsed' =>
    obtain ⟨_, _, _, earlier, own, rfl⟩ := delivers_append.mp first
    rw [← List.singleton_append] at second
    obtain ⟨_, _, _, head, later, rfl⟩ := delivers_append.mp second
    have whole := List.forall_mem_append.mpr ⟨(List.forall_mem_append.mp parsed).1, parsed_glue parsed' text⟩
    have same (scope : Scope) := calc fillParts scope (parts ++ glue text others)
      _ = fillParts scope (parts ++ .text text :: others) := by
        rw [fillParts_append, fillParts_glue, ← fillParts_append]
      _ = fillParts scope ((parts ++ [.text text]) ++ others) := by rw [List.append_assoc, List.singleton_append]
    have both := delivers_append.mpr ⟨_, _, _, delivers_joined parsed parsed' whole same own head, later, rfl⟩
    exact delivers_append.mpr ⟨_, _, _, earlier, both, by simp only [List.append_assoc]⟩

end Joining

namespace Machine

theorem resume_append (state : State) (before events : List Event) :
    resume state (before ++ events) = before.foldlM step state >>= fun next => resume next events := by
  rw [resume, List.foldlM_append, bind_assoc]
  rfl

theorem resume_before (nodes : List Node) (events : List Event) :
    resume ⟨nodes, []⟩ events = (run events).map (nodes ++ ·) := by
  have enough := Nat.lt_succ_self events.length
  rw [run, follows_buildNodes _ _ enough ⟨nodes, []⟩, follows_buildNodes _ _ enough ⟨[], []⟩]
  cases built : buildNodes (events.length + 1) events with
  | error e => rfl
  | ok parts =>
    obtain ⟨own, rest⟩ := parts
    have ends := atDivider_of_buildNodes enough built
    cases rest with
    | nil => rfl
    | cons event after =>
      obtain ⟨divider, rfl⟩ := ends event rfl
      rfl

theorem valid_of_resume {state : State} {events : List Event} {nodes : List Node}
    (ok : resume state events = .ok nodes) (e : ParseError) : .invalid e ∉ events := by
  induction events generalizing state with
  | nil => exact List.not_mem_nil
  | cons event rest ih =>
    rw [resume_cons] at ok
    obtain ⟨next, stepped, ok⟩ := bind_eq_ok ok
    intro member
    rcases List.mem_cons.mp member with rfl | later
    · cases stepped
    · exact ih ok later

theorem run_before {before : List Event} {parts : List Part} {nodes : List Node}
    (ran : run (before ++ [.segment parts]) = .ok nodes) : ∃ earlier, nodes = earlier ++ [.ofParts parts] ∧
      ∀ events, run (before ++ events) = resume ⟨earlier, []⟩ events := by
  rw [run, resume_append] at ran
  obtain ⟨⟨earlier, frames⟩, first, last⟩ := bind_eq_ok ran
  rw [resume_cons, step_leaf rfl, ok_bind] at last
  cases frames with
  | cons frame outer => cases last
  | nil =>
    cases last
    exact ⟨earlier, rfl, fun events => by rw [run, resume_append, first, ok_bind]⟩

theorem resume_leaf {event : Event} {node : Node} (is : role event = .leaf node) (nodes : List Node)
    (events : List Event) : resume ⟨nodes, []⟩ (event :: events) = (run events).map (nodes ++ [node] ++ ·) := by
  rw [resume_cons, step_leaf is, ok_bind, resume_before]

/-- Behind events that end with a text and leave no block open, events give the nodes that they give by
themselves, joined to the nodes of those before, or the same error. -/
theorem run_seam {before events : List Event} {parts : List Part} {text : List Char} {nodes : List Node}
    (ran : run (before ++ [.segment (parts ++ [.text text])]) = .ok nodes)
    (own : ∀ part ∈ parts ++ [.text text], part.Parsed) (parsed : ParsedEvents events) :
    ∃ join, run (before ++ seam parts text events) = (run events).map join ∧
      ∀ more, run events = .ok more → Joined nodes more (join more) := by
  obtain ⟨earlier, rfl, behind⟩ := run_before ran
  rw [behind]
  have alone (plain : seam parts text events = .segment (parts ++ [.text text]) :: events) :
      ∃ join, resume ⟨earlier, []⟩ (seam parts text events) = (run events).map join ∧ ∀ more,
        run events = .ok more → Joined (earlier ++ [.ofParts (parts ++ [.text text])]) more (join more) :=
    ⟨_, by rw [plain, resume_leaf rfl], fun more _ => .apart _ more⟩
  cases events with
  | nil => exact alone rfl
  | cons event rest =>
    cases event with
    | segment others =>
      have first : run (.segment others :: rest) = (run rest).map (.ofParts others :: ·) := resume_leaf rfl [] rest
      refine ⟨fun nodes => earlier ++ .ofParts (parts ++ glue text others) :: nodes.tail, ?_, fun more ran => ?_⟩
      · rw [seam, resume_leaf rfl, first]
        simp only [List.append_assoc, List.singleton_append]
        cases run rest <;> rfl
      · obtain ⟨later, _, rfl⟩ := map_eq_ok (first.symm.trans ran)
        exact .glued earlier later parts others text own (parsed others List.mem_cons_self)
    | _ => exact alone rfl

end Machine

theorem delivers_behind {front : List Char} {nodes : List Node} {scope after : Scope} {output : List UInt8} :
    Delivers (nodesBehind front nodes) scope output after ↔ Delivers nodes scope output after := by
  simp only [Delivers, runNodes_behind]

theorem parseNodes_line_append {front : List Char} (line : front.getLast? = some '\n') {nodes : List Node}
    (parsed : parseNodes front = .ok nodes) (back : List Char) : ∃ join,
      parseNodes (front ++ back) = moved front join (parseNodes back) ∧
        ∀ more, parseNodes back = .ok more → Joined nodes (nodesBehind front more) (join more) := by
  rw [Machine.parseNodes_eq_run, events] at parsed
  obtain ⟨before, parts, text, joined⟩ := eventsFrom_append line (Machine.valid_of_resume parsed)
  have alone : eventsFrom .start front = before ++ [.segment (parts ++ [.text text])] := by
    have ended := joined []
    rwa [List.append_nil, eventsFrom] at ended
  have own : ∀ part ∈ parts ++ [.text text], part.Parsed :=
    parsed_eventsFrom .start front _ (by simp [alone])
  have moving : Machine.run (eventsFrom (Text.Place.start.advance front) back) =
      moved front (nodesBehind front) (parseNodes back) := by
    rw [eventsFrom_behind, Machine.parseNodes_eq_run]
    exact Machine.resume_behind ⟨[], []⟩ (events back)
  rw [alone] at parsed
  obtain ⟨join, ran, joins⟩ := Machine.run_seam parsed own (parsed_eventsFrom (Text.Place.start.advance front) back)
  rw [moving] at ran joins
  refine ⟨fun more => join (nodesBehind front more), ?_, fun more found => joins _ (by rw [found]; rfl)⟩
  rw [Machine.parseNodes_eq_run, events, joined, ran]
  cases parseNodes back <;> rfl

theorem parseNodes_append {front : List Char} (line : front = [] ∨ front.getLast? = some '\n') {nodes : List Node}
    (parsed : parseNodes front = .ok nodes) (back : List Char) : ∃ join,
      parseNodes (front ++ back) = moved front join (parseNodes back) ∧
        ∀ more, parseNodes back = .ok more → ∀ start output between rest after,
          Delivers nodes start output between → Delivers more between rest after →
            Delivers (join more) start (output ++ rest) after := by
  rcases line with rfl | line
  · rw [Machine.parseNodes_eq_run, events, eventsFrom] at parsed
    cases parsed
    refine ⟨id, ?_, ?_⟩
    · rw [List.nil_append]
      cases parseNodes back <;> rfl
    · intro more _ start output between rest after nothing behind
      obtain ⟨rfl, rfl⟩ := delivers_nil.mp nothing
      exact behind
  · obtain ⟨join, same, joins⟩ := parseNodes_line_append line parsed back
    exact ⟨join, same, fun more found _ _ _ _ _ first second =>
      (joins more found).delivers first (delivers_behind.mpr second)⟩

namespace Template

/-- Sources can be put one behind the other at the end of a line: the second is compiled, fails and runs as it does
by itself. -/
theorem parse_behind_line {front : List Char} (line : front = [] ∨ front.getLast? = some '\n') {first : Template}
    (parsed : parse front = .ok first) (back : List Char) :
    ((∃ whole, parse (front ++ back) = .ok whole) ↔ ∃ second, parse back = .ok second) ∧
      (∀ e, parse back = .error e → parse (front ++ back) =
        .error ⟨⟨e.place.position + Text.byteLength front, e.place.line + Text.lineFeeds front⟩, e.fault⟩) ∧
      ∀ second, parse back = .ok second → ∃ whole, parse (front ++ back) = .ok whole ∧
        ∀ start output between more after, Delivers first.nodes start output between →
          Delivers second.nodes between more after → Delivers whole.nodes start (output ++ more) after := by
  obtain ⟨nodes, found, rfl⟩ := map_eq_ok parsed
  obtain ⟨join, same, delivers⟩ := parseNodes_append line found back
  rw [parse, parse, same]
  cases behind : parseNodes back with
  | error e =>
    refine ⟨by simp [moved, Except.map], fun _ failed => ?_, fun _ ok => by cases ok⟩
    cases failed
    rfl
  | ok more =>
    refine ⟨by simp [moved, Except.map], fun _ failed => ?_, fun second ok => ?_⟩
    · cases failed
    · cases ok
      exact ⟨_, rfl, delivers more behind⟩

theorem parse_behind_line_of_expressions : ∃ first second whole,
    parse "a%{{x}}\n".toList = .ok first ∧ parse "{{x}}%b".toList = .ok second ∧
      parse ("a%{{x}}\n".toList ++ "{{x}}%b".toList) = .ok whole ∧
        ∀ start output between more after, Delivers first.nodes start output between →
          Delivers second.nodes between more after → Delivers whole.nodes start (output ++ more) after := by
  have line : "a%{{x}}\n".toList = [] ∨ "a%{{x}}\n".toList.getLast? = some '\n' := by decide
  have parsed : (parse "a%{{x}}\n".toList).toOption.isSome := by decide +kernel
  have parsed' : (parse "{{x}}%b".toList).toOption.isSome := by decide +kernel
  cases found : parse "a%{{x}}\n".toList with
  | error e => rw [found] at parsed; cases parsed
  | ok first =>
    cases found' : parse "{{x}}%b".toList with
    | error e => rw [found'] at parsed'; cases parsed'
    | ok second =>
      obtain ⟨whole, joined, delivers⟩ := (parse_behind_line line found "{{x}}%b".toList).2.2 second found'
      exact ⟨first, second, whole, rfl, rfl, joined, delivers⟩

end Template

end Stencil
