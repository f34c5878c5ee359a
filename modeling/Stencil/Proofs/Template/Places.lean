import Stencil.Proofs.Template.Dedent
import Stencil.Proofs.Template.Filling
import Stencil.Proofs.Template.OnePass

/-! Places in the source of a template. Main statement: an error covers a directive, an opening delimiter that is
never closed, or the start of a line, and all code of a template has the place of an opening delimiter; the line
number of a place is one more than the line feeds before it. -/
namespace Stencil

/-- An opening delimiter stands at the place. -/
def AtOpening (source : List Char) (place : Text.Place) : Prop :=
  ∃ before after, source = before ++ after ∧ place = Text.Place.start.advance before ∧ Text.opening <+: after

/-- The directive stands in the source up to the first closing delimiter behind its opening one. -/
def Directive.StandsIn (directive : Directive) (source : List Char) : Prop :=
  ∃ before after, source = before ++ (directive.source ++ after) ∧
    directive.start = Text.Place.start.advance before ∧
    ∀ front back, directive.raw ++ Text.closing ++ after = front ++ Text.closing ++ back →
      directive.raw.length ≤ front.length

theorem Directive.StandsIn.atOpening {directive : Directive} {source : List Char}
    (stands : directive.StandsIn source) : AtOpening source directive.start := by
  obtain ⟨before, after, split, start, _⟩ := stands
  refine ⟨before, directive.source ++ after, split, start, ?_⟩
  simp [Directive.source]

/-- The length that a fault gives for the directive that it covers, if it covers one. -/
def ParseFault.directiveLength? : ParseFault → Option Nat
  | .unterminatedDirective | .inconsistentIndent _ _ => none
  | .unterminatedBlock length _ | .mismatchedClose length _ _ | .badCode length _ _ _
  | .unknownDirective length _ | .malformedDirective length _ => some length

theorem ParseError.length_of_directive {e : ParseError} {length : Nat}
    (covers : e.fault.directiveLength? = some length) : e.length = length := by
  obtain ⟨place, fault⟩ := e
  cases fault with
  | unterminatedDirective => cases covers
  | inconsistentIndent expected found => cases covers
  | _ => exact Option.some.inj covers

/-- What an error points to in the source. A line that is not indented well is not blank, and not the first. -/
inductive ParseError.Located (source : List Char) : ParseError → Prop
  | directive {directive : Directive} {fault : ParseFault} (stands : directive.StandsIn source)
      (covers : fault.directiveLength? = some directive.length) : Located source (directive.fails fault)
  | delimiter {before after : List Char} (split : source = before ++ (Text.opening ++ after)) :
      Located source ⟨Text.Place.start.advance before, .unterminatedDirective⟩
  | line {before line after : List Char} {expected : String} (split : source = before ++ (line ++ after))
      (behind : before.getLast? = some '\n') (plain : '\n' ∉ line) (sharp : Text.isBlankLine line = false) :
      Located source ⟨Text.Place.start.advance before,
        .inconsistentIndent expected (String.ofList (Text.leadingBlank line))⟩

/-- A result is good, or an error that points into the source. -/
inductive Placing (source : List Char) {α : Type} (good : α → Prop) : Except ParseError α → Prop
  | ok {a : α} (made : good a) : Placing source good (.ok a)
  | error {e : ParseError} (points : e.Located source) : Placing source good (.error e)

section Placing

variable {source : List Char} {α β : Type} {good : α → Prop} {better : β → Prop} {first : Except ParseError α}

theorem Placing.bind (placed : Placing source good first) {next : α → Except ParseError β}
    (follow : ∀ a, good a → Placing source better (next a)) : Placing source better (first >>= next) := by
  cases placed with
  | ok made => exact follow _ made
  | error points => exact .error points

theorem Placing.map (placed : Placing source good first) {change : α → β} (follow : ∀ a, good a → better (change a)) :
    Placing source better (first.map change) := by
  cases placed with
  | ok made => exact .ok (follow _ made)
  | error points => exact .error points

theorem Placing.located {e : ParseError} (placed : Placing source good first) (failed : first = .error e) :
    e.Located source := by
  subst failed
  cases placed
  assumption

theorem Placing.holds {a : α} (placed : Placing source good first) (made : first = .ok a) : good a := by
  subst made
  cases placed
  assumption

end Placing

namespace Directive

variable {source : List Char} {directive : Directive} (stands : directive.StandsIn source)
include stands

theorem StandsIn.badCode (context : CodeContext) (code : List Char) (e : SyntaxError) :
    (directive.badCode context code e).Located source := by
  unfold Directive.badCode
  exact .directive stands rfl

theorem StandsIn.unterminated : directive.unterminated.Located source := by
  unfold Directive.unterminated
  exact .directive stands rfl

theorem StandsIn.mismatched (expected : String) : (directive.mismatched expected).Located source := by
  unfold Directive.mismatched
  exact .directive stands rfl

theorem StandsIn.unknown : directive.unknown.Located source := by
  unfold Directive.unknown
  exact .directive stands rfl

theorem StandsIn.codeOf {α : Type} (context : CodeContext) (parser : List Char → Except SyntaxError α)
    (text : List Char) : Placing source (·.place = directive.start) (directive.codeOf context parser text) := by
  unfold Directive.codeOf
  split
  · exact .ok rfl
  · exact .error (stands.badCode context text _)

theorem StandsIn.expectBare : Placing source (fun _ => True) directive.expectBare := by
  unfold Directive.expectBare
  split
  · exact .ok trivial
  · exact .error (.directive stands rfl)

end Directive

section Lines

/-- The line stands in the text behind a line feed. -/
def BlockLine.Behind (line : BlockLine) (text : List Char) : Prop :=
  ∃ before after, text = before ++ (line.text ++ after) ∧ before.getLast? = some '\n' ∧
    line.offset = Text.byteLength before ∧ line.number = Text.lineFeeds before ∧ '\n' ∉ line.text

theorem join_append {before after : List (List Char)} (any : after ≠ []) :
    Text.join ['\n'] (before ++ after) = endedLines before ++ Text.join ['\n'] after := by
  induction before with
  | nil => rfl
  | cons line before ih =>
    have more := List.append_ne_nil_of_right_ne_nil before any
    rw [List.cons_append, Text.join_cons _ line more, ih, endedLines_cons, List.append_assoc _ (endedLines before)]

theorem lineFeeds_endedLines {before : List (List Char)} (plain : ∀ line ∈ before, '\n' ∉ line) :
    Text.lineFeeds (endedLines before) = before.length := by
  induction before with
  | nil => rfl
  | cons line before ih =>
    obtain ⟨own, others⟩ := List.forall_mem_cons.mp plain
    have later := ih others
    have feed : Text.lineFeeds ['\n'] = 1 := rfl
    rw [endedLines_cons, Text.lineFeeds_append, Text.lineFeeds_append, Text.lineFeeds_eq_zero own, later, feed,
      List.length_cons]
    omega

theorem behind_of_splitLines {text bad : List Char} {before after : List (List Char)} (any : before ≠ [])
    (lines : Text.splitLines text = before ++ bad :: after) :
    BlockLine.Behind ⟨before.length, Text.byteLength (endedLines before), bad⟩ text := by
  have plain : ∀ line ∈ before ++ bad :: after, '\n' ∉ line := fun line member =>
    Text.not_mem_of_mem_splitLines (lines ▸ member)
  obtain ⟨above, below⟩ := List.forall_mem_append.mp plain
  have whole : text = endedLines before ++ Text.join ['\n'] (bad :: after) := by
    rw [← join_append (List.cons_ne_nil bad after), ← lines, Text.join_splitLines]
  obtain ⟨tail, joined⟩ : ∃ tail, Text.join ['\n'] (bad :: after) = bad ++ tail := by
    cases after with
    | nil => exact ⟨[], by simp [Text.join]⟩
    | cons next after => exact ⟨['\n'] ++ Text.join ['\n'] (next :: after), by simp [Text.join]⟩
  refine ⟨endedLines before, tail, joined ▸ whole, ?_, rfl, (lineFeeds_endedLines above).symm, ?_⟩
  · obtain ⟨front, last, rfl⟩ := List.eq_nil_or_concat before |>.resolve_left any
    simp [endedLines]
  · exact below bad List.mem_cons_self

/-- The line that a dedented text fails at is not its first one, which sets the indentation or is blank. -/
theorem dedent_eq_error {origin : Text.Place} {text : List Char} {e : ParseError}
    (failed : dedent origin text = .error e) : ∃ line indent, BlockLine.Behind line text ∧
      Text.isBlankLine line.text = false ∧ e = line.inconsistent origin indent := by
  obtain ⟨before, bad, after, lines, _, misses, rfl⟩ := dedent_eq_error_iff.mp failed
  obtain ⟨sharp, apart⟩ := hasIndent_eq_false.mp misses
  have any : before ≠ [] := by
    rintro rfl
    rw [blockIndent_of_lines lines (List.forall_mem_nil _) sharp] at apart
    exact apart (leadingBlank_starts bad)
  exact ⟨_, _, behind_of_splitLines any lines, sharp, rfl⟩

theorem placing_dedent {source before body after : List Char} (split : source = before ++ (body ++ after)) :
    Placing source (fun _ => True) (dedent (Text.Place.start.advance before) body) := by
  cases dedented : dedent (Text.Place.start.advance before) body with
  | ok text => exact .ok trivial
  | error e =>
    obtain ⟨line, indent, ⟨front, back, whole, feed, offset, number, plain⟩, sharp, rfl⟩ := dedent_eq_error dedented
    have place : Text.Place.start.advance (before ++ front) =
        ⟨(Text.Place.start.advance before).position + line.offset,
          (Text.Place.start.advance before).line + line.number⟩ := by
      rw [Text.Place.advance_append, offset, number]
      rfl
    rw [BlockLine.inconsistent, ← place]
    have standing : source = before ++ front ++ (line.text ++ (back ++ after)) := by simp [split, whole]
    have behind : (before ++ front).getLast? = some '\n' := by simp [List.getLast?_append, feed]
    exact .error (.line standing behind plain sharp)

end Lines

section Reading

variable {source : List Char}

def Event.Placed (source : List Char) : Event → Prop
  | .segment parts => ∀ code, .code code ∈ parts → AtOpening source code.place
  | .conditional opening condition | .whileLoop opening condition =>
    opening.StandsIn source ∧ AtOpening source condition.place
  | .forLoop opening header => opening.StandsIn source ∧ AtOpening source header.place
  | .script code => AtOpening source code.place
  | .eval code => AtOpening source code.place
  | .divider directive => directive.StandsIn source
  | .invalid e => e.Located source

theorem Directive.StandsIn.opens {directive : Directive} (stands : directive.StandsIn source)
    (construct : Construct) : Placing source (Event.Placed source) (directive.opens construct) := by
  have code {α : Type} {found : Code α} (place : found.place = directive.start) : AtOpening source found.place :=
    place ▸ stands.atOpening
  cases construct with
  | conditional =>
    rw [Directive.opens, Directive.condition]
    exact (stands.codeOf _ _ _).map fun _ place => ⟨stands, code place⟩
  | whileLoop =>
    rw [Directive.opens, Directive.condition]
    exact (stands.codeOf _ _ _).map fun _ place => ⟨stands, code place⟩
  | forLoop =>
    rw [Directive.opens, Directive.header]
    exact (stands.codeOf _ _ _).map fun _ place => ⟨stands, code place⟩

theorem CodeBlock.placing_event (block : CodeBlock) {before raw body after : List Char}
    (split : source = before ++ (Directive.source ⟨Text.Place.start.advance before, raw⟩ ++ (body ++ after)))
    (stands : (Directive.mk (Text.Place.start.advance before) raw).StandsIn source) :
    Placing source (Event.Placed source) (block.event ⟨Text.Place.start.advance before, raw⟩ body) := by
  have dedented : Placing source (fun _ => True)
      (dedent (Directive.next ⟨Text.Place.start.advance before, raw⟩) body) := by
    rw [Directive.next, ← Text.Place.advance_append]
    exact placing_dedent (by rw [split, List.append_assoc])
  refine dedented.bind fun plain _ => ?_
  cases block with
  | script =>
    refine (stands.codeOf .script parseStatements (Text.unescape plain)).bind fun code place => ?_
    exact .ok (place ▸ stands.atOpening : AtOpening source code.place)
  | eval =>
    refine (stands.codeOf .eval parseExpression (Text.unescape plain)).bind fun code place => ?_
    exact .ok (place ▸ stands.atOpening : AtOpening source code.place)

theorem CodeBlock.placing_read (block : CodeBlock) {before raw after : List Char}
    (split : source = before ++ (Directive.source ⟨Text.Place.start.advance before, raw⟩ ++ after))
    (stands : (Directive.mk (Text.Place.start.advance before) raw).StandsIn source) :
    Placing source (fun read => read.1.Placed source) (block.read ⟨Text.Place.start.advance before, raw⟩ after) := by
  refine stands.expectBare.bind fun _ _ => ?_
  cases cut : Text.cut? block.endTag after with
  | none => exact .error stands.unterminated
  | some parts =>
    have whole := Text.cut?_append cut
    have standing : source = before ++
        (Directive.source ⟨Text.Place.start.advance before, raw⟩ ++ (parts.1 ++ (block.endTag ++ parts.2))) := by
      rw [split, ← whole]
      simp
    exact (block.placing_event standing stands).bind fun event placed => .ok placed

theorem Directive.placing_event {before raw after : List Char}
    (split : source = before ++ (Directive.source ⟨Text.Place.start.advance before, raw⟩ ++ after))
    (stands : (Directive.mk (Text.Place.start.advance before) raw).StandsIn source) :
    Placing source (fun read => read.1.Placed source)
      (Directive.event ⟨Text.Place.start.advance before, raw⟩ after) := by
  unfold Directive.event
  split
  next =>
    rw [Directive.substitution]
    refine (stands.codeOf _ _ _).bind fun code place => ?_
    refine .ok fun other member => ?_
    cases List.mem_singleton.mp member
    exact place ▸ stands.atOpening
  next construct _ => exact (stands.opens construct).bind fun event placed => .ok placed
  next block _ => exact (block.placing_read split stands).bind fun read placed => .ok placed
  next => exact .ok stands

theorem placing_firstEvent {before : List Char} {c : Char} {rest : List Char} (split : source = before ++ c :: rest) :
    Placing source (fun read => read.1.Placed source) (firstEvent (Text.Place.start.advance before) c rest) := by
  have text {part : Part} (plain : part.slot? = none ∨ part = .percent) :
      Event.Placed source (.segment [part]) := by
    intro code member
    cases List.mem_singleton.mp member
    rcases plain with none | percent
    · cases none
    · cases percent
  unfold firstEvent
  split
  next => exact .ok (text (.inr rfl))
  next =>
    split
    next opens =>
      have delimiter := opening_append opens
      unfold Directive.read?
      cases cut : Text.cut? Text.closing (rest.drop 1) with
      | none => exact .error (.delimiter (by rw [split, delimiter]))
      | some parts =>
        have whole := Text.cut?_append cut
        have found : source = before ++
            (Directive.source ⟨Text.Place.start.advance before, parts.1⟩ ++ parts.2) := by
          rw [split, ← delimiter, ← whole]
          simp [Directive.source]
        refine Directive.placing_event found ⟨before, parts.2, found, rfl, fun front back same => ?_⟩
        exact Text.length_le_of_cut? cut (whole.symm.trans same)
    next => exact .ok (text (.inl rfl))

theorem placed_events (source : List Char) : ∀ event ∈ events source, event.Placed source := by
  apply forall_mem_events
  · intro parts others first second code member
    rcases List.mem_append.mp member with inFirst | inSecond
    · exact first code inFirst
    · exact second code inSecond
  · intro before c rest e split failed
    exact (placing_firstEvent split).located failed
  · intro before c rest event own after split made
    exact (placing_firstEvent split).holds made

end Reading

section Nodes

def SubstitutionTable.places (table : SubstitutionTable) : List Text.Place :=
  table.filterMap fun entry =>
    match entry.2 with
    | .percent => none
    | .code inline => some inline.place

mutual
/-- The places of all code in a node, at every depth. -/
def Node.places : Node → List Text.Place
  | .literal _ => []
  | .substitute segment => segment.table.places
  | .conditional branches otherwise => placesOfBranches branches ++ placesOfOtherwise otherwise
  | .whileLoop condition body => condition.place :: placesOfNodes body
  | .forLoop header body => header.place :: placesOfNodes body
  | .script code => [code.place]
  | .eval code => [code.place]

def placesOfNodes : List Node → List Text.Place
  | [] => []
  | node :: rest => node.places ++ placesOfNodes rest

def placesOfBranches : List (Code Expr × List Node) → List Text.Place
  | [] => []
  | (condition, body) :: rest => condition.place :: (placesOfNodes body ++ placesOfBranches rest)

def placesOfOtherwise : Option (List Node) → List Text.Place
  | none => []
  | some body => placesOfNodes body
end

theorem slot_of_mem_registered {parts : List Part} {table : SubstitutionTable} {entry : List Char × Slot}
    (member : entry ∈ parts.foldl (fun table part => part.register table) table) :
    entry ∈ table ∨ ∃ part ∈ parts, part.slot? = some entry.2 := by
  induction parts generalizing table with
  | nil => exact .inl member
  | cons part rest ih =>
    rw [List.foldl_cons] at member
    rcases ih member with known | ⟨other, inRest, slot⟩
    · rw [register_slot?] at known
      cases own : part.slot? with
      | none =>
        rw [own] at known
        exact .inl known
      | some slot =>
        rw [own] at known
        dsimp only at known
        rcases register_cases slot.key slot table with ⟨_, _, same⟩ | ⟨_, added⟩
        · exact .inl (same ▸ known)
        · rcases List.mem_append.mp (added ▸ known) with old | new
          · exact .inl old
          · cases List.mem_singleton.mp new
            exact .inr ⟨part, List.mem_cons_self, own⟩
    · exact .inr ⟨other, List.mem_cons_of_mem part inRest, slot⟩

theorem atOpening_of_parts {source : List Char} {parts : List Part}
    (placed : ∀ code, .code code ∈ parts → AtOpening source code.place) :
    ∀ place ∈ (Node.ofParts parts).places, AtOpening source place := by
  intro place member
  unfold Node.ofParts at member
  dsimp only at member
  split at member
  next =>
    obtain ⟨⟨key, slot⟩, inTable, same⟩ := List.mem_filterMap.mp member
    cases slot with
    | percent => cases same
    | code inline =>
      cases same
      rcases slot_of_mem_registered inTable with none | ⟨part, inParts, own⟩
      · cases none
      · cases part with
        | code code =>
          cases own
          exact placed inline inParts
        | _ => cases own
  next => cases member

namespace Machine

def Block.place : Block → Text.Place
  | .conditional condition | .whileLoop condition => condition.place
  | .forLoop header => header.place

def Mark.places : Mark → List Text.Place
  | .leaf node => node.places
  | .opens block => [block.place]
  | .elif condition => [condition.place]
  | .otherwise | .closes _ => []

/-- What an event leaves in the tree has the places that the event has. -/
theorem Leaves.atOpening {source : List Char} {event : Event} {mark : Mark} (leaves : Leaves event mark)
    (placed : event.Placed source) : ∀ place ∈ mark.places, AtOpening source place := by
  have single {here : Text.Place} (opens : AtOpening source here) : ∀ place ∈ [here], AtOpening source place := by
    simpa using opens
  cases leaves with
  | leaf is =>
    cases event with
    | segment parts =>
      cases is
      exact atOpening_of_parts placed
    | script code =>
      cases is
      exact single placed
    | eval code =>
      cases is
      exact single placed
    | _ => cases is
  | opens is =>
    cases event with
    | conditional opening condition =>
      cases is
      exact single placed.2
    | whileLoop opening condition =>
      cases is
      exact single placed.2
    | forLoop opening header =>
      cases is
      exact single placed.2
    | _ => cases is
  | @elif divider condition word parsed =>
    have stands : divider.StandsIn source := placed
    rw [Directive.condition] at parsed
    have place := (stands.codeOf _ _ _).holds parsed
    exact single (place ▸ stands.atOpening)
  | otherwise word bare => simp [Mark.places]
  | closes word bare => simp [Mark.places]

mutual
theorem places_of_nodeMarks (node : Node) : node.places = (nodeMarks node).flatMap Mark.places := by
  match node with
  | .literal _ => simp [Node.places, nodeMarks, Mark.places]
  | .substitute _ => simp [Node.places, nodeMarks, Mark.places]
  | .conditional branches otherwise =>
    have first := places_of_branchMarks (fun condition => .opens (.conditional condition)) (fun _ => rfl) branches
    have last := places_of_otherwiseMarks otherwise
    simp [Node.places, nodeMarks, Mark.places, first, last]
  | .whileLoop condition body =>
    have inside := places_of_marks body
    simp [Node.places, nodeMarks, Mark.places, Block.place, inside]
  | .forLoop header body =>
    have inside := places_of_marks body
    simp [Node.places, nodeMarks, Mark.places, Block.place, inside]
  | .script _ => simp [Node.places, nodeMarks, Mark.places]
  | .eval _ => simp [Node.places, nodeMarks, Mark.places]

theorem places_of_marks (nodes : List Node) : placesOfNodes nodes = (marks nodes).flatMap Mark.places := by
  match nodes with
  | [] => simp [placesOfNodes, marks]
  | node :: rest =>
    have first := places_of_nodeMarks node
    have later := places_of_marks rest
    simp [placesOfNodes, marks, first, later]

theorem places_of_branchMarks (first : Code Expr → Mark)
    (own : ∀ condition, (first condition).places = [condition.place])
    (branches : List (Code Expr × List Node)) :
    placesOfBranches branches = (branchMarks first branches).flatMap Mark.places := by
  match branches with
  | [] => simp [placesOfBranches, branchMarks]
  | (condition, body) :: rest =>
    have inside := places_of_marks body
    have later := places_of_branchMarks .elif (fun _ => rfl) rest
    simp [placesOfBranches, branchMarks, own, inside, later]

theorem places_of_otherwiseMarks (otherwise : Option (List Node)) :
    placesOfOtherwise otherwise = (otherwiseMarks otherwise).flatMap Mark.places := by
  match otherwise with
  | none => simp [placesOfOtherwise, otherwiseMarks]
  | some body =>
    have inside := places_of_marks body
    simp [placesOfOtherwise, otherwiseMarks, Mark.places, inside]
end

theorem Marked.atOpening {source : List Char} {events : List Event} {list : List Mark}
    (marked : Marked events list)
    (placed : ∀ event ∈ events, event.Placed source) : ∀ place ∈ list.flatMap Mark.places, AtOpening source place := by
  induction marked with
  | nil => simp
  | cons leaves _ ih =>
    obtain ⟨first, later⟩ := List.forall_mem_cons.mp placed
    rw [List.flatMap_cons]
    exact List.forall_mem_append.mpr ⟨leaves.atOpening first, ih later⟩

theorem Within.opened {events : List Event} {blocks : List OpenBlock} (within : Within events blocks) :
    ∀ block ∈ blocks, ∃ event ∈ events, ∃ header, role event = .opens block.opening header := by
  induction within with
  | outside complete => simp
  | @inside before inner outer opener opening block _ _ around opens marked inside ih =>
    refine List.forall_mem_cons.mpr ⟨⟨opener, by simp, block, opens⟩, fun other member => ?_⟩
    obtain ⟨event, inBefore, found⟩ := ih other member
    exact ⟨event, List.mem_append_left _ inBefore, found⟩

theorem standsIn_of_opens {source : List Char} {event : Event} {opening : Directive} {block : Block}
    (is : role event = .opens opening block) (placed : event.Placed source) : opening.StandsIn source := by
  cases event with
  | conditional opening condition =>
    cases is
    exact placed.1
  | whileLoop opening condition =>
    cases is
    exact placed.1
  | forLoop opening header =>
    cases is
    exact placed.1
  | _ => cases is

theorem Offends.located {source : List Char} {blocks : List OpenBlock} {event : Event} {e : ParseError}
    (offends : Offends blocks event e) (placed : event.Placed source) : e.Located source := by
  cases offends with
  | invalid => exact placed
  | unknown divider => exact Directive.StandsIn.unknown placed
  | mismatched outer foreign => exact Directive.StandsIn.mismatched placed _
  | @condition block outer divider e taken isElif bad =>
    have stands : divider.StandsIn source := placed
    rw [Directive.condition] at bad
    exact (stands.codeOf _ _ _).located bad
  | @argument block outer divider e taken notElif bad =>
    have stands : divider.StandsIn source := placed
    exact stands.expectBare.located bad

theorem FirstFault.located {source : List Char} {events : List Event} {e : ParseError} (fault : FirstFault events e)
    (placed : ∀ event ∈ events, event.Placed source) : e.Located source := by
  obtain ⟨before, blocks, within, ⟨event, after, rfl, offends⟩ | ⟨rfl, block, outer, rfl, rfl⟩⟩ := fault
  · exact offends.located (placed event (by simp))
  · obtain ⟨opener, member, header, opens⟩ := within.opened block List.mem_cons_self
    exact (standsIn_of_opens opens (placed opener member)).unterminated

end Machine

end Nodes

/-- The range of an error is not empty and starts in the source behind the text before it, on the line of its
number. -/
structure ParseError.PointsInto (e : ParseError) (source before after : List Char) : Prop where
  split : source = before ++ after
  start : e.range.1 = Text.byteLength before
  line : e.place.line = 1 + Text.lineFeeds before
  any : e.range.1 < e.range.2
  inside : e.range.2 ≤ Text.byteLength source

/-- An error covers an opening delimiter or a directive, up to the first closing delimiter behind its opening one. One
of bad indentation starts behind a line feed. -/
def ParseError.Covers (e : ParseError) (before after : List Char) : Prop :=
  match e.fault with
  | .inconsistentIndent _ _ => before.getLast? = some '\n'
  | .unterminatedDirective =>
    Text.opening <+: after ∧ e.range.2 = e.range.1 + Text.byteLength Text.opening
  | _ => ∃ raw rest, after = Text.opening ++ raw ++ Text.closing ++ rest ∧
      e.range.2 = e.range.1 + Text.byteLength (Text.opening ++ raw ++ Text.closing) ∧
      ∀ front back, raw ++ Text.closing ++ rest = front ++ Text.closing ++ back → raw.length ≤ front.length

theorem ParseError.covers_directive {e : ParseError} {length : Nat} (covers : e.fault.directiveLength? = some length)
    {before after raw rest : List Char} (split : after = Text.opening ++ raw ++ Text.closing ++ rest)
    (whole : e.range.2 = e.range.1 + Text.byteLength (Text.opening ++ raw ++ Text.closing))
    (first : ∀ front back, raw ++ Text.closing ++ rest = front ++ Text.closing ++ back → raw.length ≤ front.length) :
    e.Covers before after := by
  obtain ⟨place, fault⟩ := e
  cases fault with
  | unterminatedDirective => cases covers
  | inconsistentIndent expected found => cases covers
  | _ => exact ⟨raw, rest, split, whole, first⟩

theorem ParseError.pointsInto {e : ParseError} {source before after : List Char}
    (place : e.place = Text.Place.start.advance before) (split : source = before ++ after) (any : 0 < e.length)
    (inside : e.length ≤ Text.byteLength after) : e.PointsInto source before after := by
  have position : e.range.1 = Text.byteLength before := by
    rw [ParseError.range, place]
    exact Text.Place.position_advance before
  have stop : e.range.2 = e.range.1 + e.length := rfl
  refine ⟨split, position, ?_, by omega, ?_⟩
  · rw [place]
    rfl
  · rw [stop, position, split, Text.byteLength_append]
    omega

theorem Text.leadingBlank_append (line : List Char) : ∃ rest, line = Text.leadingBlank line ++ rest :=
  ⟨line.dropWhile Text.isBlank, (List.takeWhile_append_dropWhile).symm⟩

theorem ParseError.Located.points {source : List Char} {e : ParseError} (located : e.Located source) :
    ∃ before after, e.PointsInto source before after ∧ e.Covers before after := by
  cases located with
  | @directive directive fault stands covers =>
    obtain ⟨start, raw⟩ := directive
    obtain ⟨before, after, split, here, first⟩ := stands
    have length : ParseError.length ⟨start, fault⟩ = Text.byteLength (Directive.source ⟨start, raw⟩) :=
      ParseError.length_of_directive covers
    have any : 0 < Text.byteLength (Directive.source ⟨start, raw⟩) := by
      apply Text.byteLength_pos
      simp [Directive.source, Text.opening]
    refine ⟨before, _, ParseError.pointsInto here split ?_ ?_, ParseError.covers_directive covers rfl ?_ first⟩
    · exact length ▸ any
    · rw [Text.byteLength_append]
      exact length ▸ Nat.le_add_right _ _
    · exact congrArg (_ + ·) length
  | @delimiter before after split =>
    refine ⟨before, _, ParseError.pointsInto rfl split Nat.two_pos ?_, List.prefix_append _ after, rfl⟩
    rw [Text.byteLength_append]
    exact Nat.le_add_right 2 _
  | @line before line after expected split behind plain sharp =>
    refine ⟨before, _, ParseError.pointsInto rfl split ?_ ?_, behind⟩
    · exact Nat.le_max_right _ 1
    · obtain ⟨rest, whole⟩ := Text.leadingBlank_append line
      have blank : Text.byteLength (Text.leadingBlank line) ≤ Text.byteLength line := by
        conv_rhs => rw [whole, Text.byteLength_append]
        exact Nat.le_add_right _ _
      have any : 0 < Text.byteLength line := by
        apply Text.byteLength_pos
        rintro rfl
        cases sharp
      simp only [ParseError.length, Text.utf8ByteSize_ofList, Text.byteLength_append]
      omega

theorem firstFault_of_parse {source : List Char} {e : ParseError} (failed : Template.parse source = .error e) :
    Machine.FirstFault (events source) e := by
  apply Machine.run_fails.mp
  rw [Template.parse, Machine.parseNodes_eq_run] at failed
  cases ran : Machine.run (events source) with
  | error fault =>
    rw [ran] at failed
    cases failed
    rfl
  | ok nodes =>
    rw [ran] at failed
    cases failed

theorem located_of_parse {source : List Char} {e : ParseError} (failed : Template.parse source = .error e) :
    e.Located source :=
  (firstFault_of_parse failed).located (placed_events source)

/-- Every error of parsing points into the source, and every piece of code in the tree has the place of an opening
delimiter. -/
theorem places_in_source (source : List Char) :
    (∀ e, Template.parse source = .error e →
      ∃ before after, e.PointsInto source before after ∧ e.Covers before after) ∧
    ∀ template, Template.parse source = .ok template →
      ∀ place ∈ placesOfNodes template.nodes, AtOpening source place := by
  refine ⟨fun e failed => (located_of_parse failed).points, fun template parsed => ?_⟩
  obtain ⟨nodes, built, rfl⟩ := map_eq_ok parsed
  rw [Machine.parseNodes_eq_run] at built
  rw [Machine.places_of_marks]
  exact (Machine.marked_of_run built).atOpening (placed_events source)

theorem places_in_source_of_broken_loop :
    (∃ e before after, Template.parse "é\n{{for i in x}}{{endif}}".toList = .error e ∧
      e.PointsInto "é\n{{for i in x}}{{endif}}".toList before after ∧ e.Covers before after) ∧
    ∃ template, Template.parse "é\n{{for i in x}}{{endfor}}".toList = .ok template ∧
      ∀ place ∈ placesOfNodes template.nodes, AtOpening "é\n{{for i in x}}{{endfor}}".toList place := by
  constructor
  · have failed : (Template.parse "é\n{{for i in x}}{{endif}}".toList).toOption.isNone := by decide +kernel
    cases found : Template.parse "é\n{{for i in x}}{{endif}}".toList with
    | ok template => rw [found] at failed; contradiction
    | error e =>
      obtain ⟨before, after, points, covers⟩ := (places_in_source _).1 e found
      exact ⟨e, before, after, rfl, points, covers⟩
  · have parsed : (Template.parse "é\n{{for i in x}}{{endfor}}".toList).toOption.isSome := by decide +kernel
    cases found : Template.parse "é\n{{for i in x}}{{endfor}}".toList with
    | error e => rw [found] at parsed; contradiction
    | ok template => exact ⟨template, rfl, (places_in_source _).2 template found⟩

end Stencil
