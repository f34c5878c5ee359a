import Stencil.Proofs.Template.Events
import Stencil.Proofs.Template.Machine

/-! Sources behind other text. Main statements: behind other text a source gives the events and the nodes that it
gives by itself, or the same error, with every place moved by that text; and moved nodes run as before. -/
namespace Stencil

theorem Text.Place.advance_comm (place : Text.Place) (a b : List Char) :
    (place.advance a).advance b = (place.advance b).advance a := by
  simp only [advance, Text.Place.mk.injEq]
  omega

section Behind

variable (front : List Char)

def ParseError.behind (e : ParseError) : ParseError := ⟨e.place.advance front, e.fault⟩

def Code.behind {α : Type} (code : Code α) : Code α := ⟨code.text, code.parsed, code.place.advance front⟩

def Directive.behind (directive : Directive) : Directive := ⟨directive.start.advance front, directive.raw⟩

def Part.behind : Part → Part
  | .code inline => .code (inline.behind front)
  | part => part

def Slot.behind : Slot → Slot
  | .percent => .percent
  | .code inline => .code (inline.behind front)

def SubstitutionTable.behind (table : SubstitutionTable) : SubstitutionTable :=
  table.map fun entry => (entry.1, entry.2.behind front)

def Segment.behind (segment : Segment) : Segment := ⟨segment.pieces, segment.table.behind front⟩

def Event.behind : Event → Event
  | .segment parts => .segment (parts.map (Part.behind front))
  | .conditional opening condition => .conditional (opening.behind front) (condition.behind front)
  | .whileLoop opening condition => .whileLoop (opening.behind front) (condition.behind front)
  | .forLoop opening header => .forLoop (opening.behind front) (header.behind front)
  | .script code => .script (code.behind front)
  | .eval code => .eval (code.behind front)
  | .divider directive => .divider (directive.behind front)
  | .invalid e => .invalid (e.behind front)

mutual
def Node.behind : Node → Node
  | .literal text => .literal text
  | .substitute segment => .substitute (segment.behind front)
  | .conditional branches otherwise => .conditional (branchesBehind branches) (otherwiseBehind otherwise)
  | .whileLoop condition body => .whileLoop (condition.behind front) (nodesBehind body)
  | .forLoop header body => .forLoop (header.behind front) (nodesBehind body)
  | .script code => .script (code.behind front)
  | .eval code => .eval (code.behind front)

def nodesBehind : List Node → List Node
  | [] => []
  | node :: rest => node.behind :: nodesBehind rest

def branchesBehind : List (Code Expr × List Node) → List (Code Expr × List Node)
  | [] => []
  | (condition, body) :: rest => (condition.behind front, nodesBehind body) :: branchesBehind rest

def otherwiseBehind : Option (List Node) → Option (List Node)
  | none => none
  | some body => some (nodesBehind body)
end

/-- A result with its places moved: those of the error, or those that the change moves. -/
def moved {α β : Type} (change : α → β) : Except ParseError α → Except ParseError β
  | .ok a => .ok (change a)
  | .error e => .error (e.behind front)

variable {front}

theorem moved_bind {α β γ δ : Type} {change : α → β} {last : γ → δ} {first : Except ParseError α}
    {other : Except ParseError β} (same : other = moved front change first) {next : α → Except ParseError γ}
    {after : β → Except ParseError δ} (follow : ∀ a, after (change a) = moved front last (next a)) :
    other >>= after = moved front last (first >>= next) := by
  subst same
  cases first with
  | ok a => exact follow a
  | error e => rfl

theorem moved_map {α β γ δ : Type} {change : α → β} {last : γ → δ} {first : Except ParseError α}
    {other : Except ParseError β} (same : other = moved front change first) {next : α → γ} {after : β → δ}
    (follow : ∀ a, after (change a) = last (next a)) : other.map after = moved front last (first.map next) := by
  subst same
  cases first with
  | ok a => exact congrArg Except.ok (follow a)
  | error e => rfl

theorem moved_guard {condition : Prop} [Decidable condition] (directive : Directive) (fault : ParseFault) :
    (if condition then .ok () else .error ((directive.behind front).fails fault)) =
      moved front id (if condition then .ok () else .error (directive.fails fault)) := by
  split
  · rfl
  · rfl

namespace Directive

theorem next_behind (directive : Directive) : (directive.behind front).next = directive.next.advance front :=
  Text.Place.advance_comm _ _ _

theorem expectBare_behind (directive : Directive) :
    (directive.behind front).expectBare = moved front id directive.expectBare := moved_guard directive _

theorem codeOf_behind {α : Type} (directive : Directive) (context : CodeContext)
    (parser : List Char → Except SyntaxError α) (text : List Char) :
    (directive.behind front).codeOf context parser text =
      moved front (Code.behind front) (directive.codeOf context parser text) := by
  unfold codeOf
  cases parser text with
  | ok parsed => rfl
  | error e => rfl

theorem substitution_behind (directive : Directive) :
    (directive.behind front).substitution = moved front (Code.behind front) directive.substitution :=
  codeOf_behind directive .substitution parseExpression directive.text

theorem condition_behind (directive : Directive) :
    (directive.behind front).condition = moved front (Code.behind front) directive.condition :=
  codeOf_behind directive .condition parseExpression directive.argument

theorem header_behind (directive : Directive) :
    (directive.behind front).header = moved front (Code.behind front) directive.header :=
  codeOf_behind directive .loop parseForHeader directive.argument

theorem opens_behind (directive : Directive) (construct : Construct) :
    (directive.behind front).opens construct = moved front (Event.behind front) (directive.opens construct) := by
  cases construct with
  | conditional =>
    rw [opens, opens]
    exact moved_map (condition_behind directive) fun _ => rfl
  | whileLoop =>
    rw [opens, opens]
    exact moved_map (condition_behind directive) fun _ => rfl
  | forLoop =>
    rw [opens, opens]
    exact moved_map (header_behind directive) fun _ => rfl

end Directive

theorem dedentLines_behind (origin : Text.Place) (indent : List Char) (lines : List BlockLine) :
    dedentLines (origin.advance front) indent lines = moved front id (dedentLines origin indent lines) := by
  induction lines with
  | nil => rfl
  | cons line rest ih =>
    rw [dedentLines, dedentLines]
    split
    · exact moved_bind ih fun _ => rfl
    · split
      · exact moved_bind ih fun _ => rfl
      · simp only [BlockLine.inconsistent, moved, ParseError.behind, Text.Place.advance, Except.error.injEq,
          ParseError.mk.injEq, Text.Place.mk.injEq, and_true]
        omega

theorem dedent_behind (origin : Text.Place) (text : List Char) :
    dedent (origin.advance front) text = moved front id (dedent origin text) := by
  unfold dedent
  split
  · rfl
  · exact moved_bind (dedentLines_behind _ _ _) fun _ => rfl

theorem CodeBlock.event_behind (block : CodeBlock) (opening : Directive) (body : List Char) :
    block.event (opening.behind front) body = moved front (Event.behind front) (block.event opening body) := by
  have origin : dedent (opening.behind front).next body = moved front id (dedent opening.next body) := by
    rw [Directive.next_behind, dedent_behind]
  refine moved_bind origin fun plain => ?_
  cases block with
  | script => exact moved_bind (Directive.codeOf_behind opening _ _ _) fun _ => rfl
  | eval => exact moved_bind (Directive.codeOf_behind opening _ _ _) fun _ => rfl

/-- Moves an event that has been read, but not the source behind it. -/
def readBehind (front : List Char) (read : Event × List Char × List Char) : Event × List Char × List Char :=
  (read.1.behind front, read.2)

theorem CodeBlock.read_behind (block : CodeBlock) (opening : Directive) (after : List Char) :
    block.read (opening.behind front) after = moved front (readBehind front) (block.read opening after) := by
  refine moved_bind (Directive.expectBare_behind opening) fun _ => ?_
  cases Text.cut? block.endTag after with
  | none => rfl
  | some parts => exact moved_bind (block.event_behind opening parts.1) fun _ => rfl

theorem Directive.event_behind (directive : Directive) (after : List Char) :
    (directive.behind front).event after = moved front (readBehind front) (directive.event after) := by
  have keyword : (directive.behind front).keyword? = directive.keyword? := rfl
  unfold Directive.event
  rw [keyword]
  split
  next => exact moved_bind (substitution_behind directive) fun _ => rfl
  next construct _ => exact moved_bind (opens_behind directive construct) fun _ => rfl
  next block _ => exact moved_bind (block.read_behind directive after) fun _ => rfl
  next => rfl

theorem firstEvent_behind (place : Text.Place) (c : Char) (rest : List Char) :
    firstEvent (place.advance front) c rest = moved front (readBehind front) (firstEvent place c rest) := by
  unfold firstEvent
  split
  · rfl
  · split
    · unfold Directive.read?
      cases Text.cut? Text.closing (rest.drop 1) with
      | none => rfl
      | some parts => exact Directive.event_behind ⟨place, parts.1⟩ parts.2
    · rfl

theorem Event.cons_behind (event : Event) (events : List Event) :
    (event.cons events).map (Event.behind front) =
      (event.behind front).cons (events.map (Event.behind front)) := by
  cases event with
  | segment parts =>
    cases events with
    | nil => rfl
    | cons next rest =>
      cases next with
      | segment others => simp [Event.cons, Event.behind]
      | _ => rfl
  | _ => rfl

/-- Behind other text a source gives the same events, moved by that text. -/
theorem eventsFrom_behind (place : Text.Place) (source : List Char) :
    eventsFrom (place.advance front) source = (eventsFrom place source).map (Event.behind front) := by
  induction place, source using eventsFrom.induct with
  | case1 place =>
    rw [eventsFrom, eventsFrom]
    rfl
  | case2 place c rest e failed =>
    have moving : firstEvent (place.advance front) c rest = .error (e.behind front) := by
      rw [firstEvent_behind, failed]
      rfl
    rw [eventsFrom_error failed, eventsFrom_error moving]
    rfl
  | case3 place c rest event source after made shorter ih =>
    have moving : firstEvent (place.advance front) c rest = .ok (event.behind front, source, after) := by
      rw [firstEvent_behind, made]
      rfl
    rw [eventsFrom_ok made, eventsFrom_ok moving, Text.Place.advance_comm, ih, Event.cons_behind]

theorem SubstitutionTable.register_behind (key : List Char) (slot : Slot) (table : SubstitutionTable) :
    (table.behind front).register key (slot.behind front) = (table.register key slot).behind front := by
  have keys : (table.behind front).map Prod.fst = table.map Prod.fst := by simp [behind]
  have known : (List.lookup key (table.behind front)).isSome = (List.lookup key table).isSome := by
    rw [Bool.eq_iff_iff, lookup_isSome_iff_mem, lookup_isSome_iff_mem, keys]
  rw [register, register, known]
  split
  · rfl
  · simp [behind]

theorem Part.register_behind (part : Part) (table : SubstitutionTable) :
    (part.behind front).register (table.behind front) = (part.register table).behind front := by
  cases part with
  | text literal => rfl
  | percent => exact SubstitutionTable.register_behind percentKey .percent table
  | code inline => exact SubstitutionTable.register_behind _ (.code inline) table

theorem Segment.ofParts_behind (parts : List Part) :
    Segment.ofParts (parts.map (Part.behind front)) = (Segment.ofParts parts).behind front := by
  have piece (part : Part) : (part.behind front).piece = part.piece := by cases part <;> rfl
  have registered (table : SubstitutionTable) :
      (parts.map (Part.behind front)).foldl (fun table part => part.register table) (table.behind front) =
        (parts.foldl (fun table part => part.register table) table).behind front := by
    induction parts generalizing table with
    | nil => rfl
    | cons part rest ih =>
      rw [List.map_cons, List.foldl_cons, List.foldl_cons, ← ih, Part.register_behind]
  rw [Segment.ofParts, Segment.ofParts, Segment.behind, ← registered, List.map_map]
  simp only [Function.comp_def, piece]
  rfl

theorem Node.ofParts_behind (parts : List Part) :
    Node.ofParts (parts.map (Part.behind front)) = (Node.ofParts parts).behind front := by
  have slots (segment : Segment) : (segment.behind front).hasSlots = segment.hasSlots := rfl
  rw [Node.ofParts, Node.ofParts, Segment.ofParts_behind, slots]
  split
  · rw [Node.behind]
  · rw [Node.behind]
    rfl

theorem nodesBehind_append (nodes others : List Node) :
    nodesBehind front (nodes ++ others) = nodesBehind front nodes ++ nodesBehind front others := by
  induction nodes with
  | nil => rw [nodesBehind]; rfl
  | cons node rest ih => rw [List.cons_append, nodesBehind, nodesBehind, ih, List.cons_append]

theorem branchesBehind_append (branches others : List (Code Expr × List Node)) :
    branchesBehind front (branches ++ others) = branchesBehind front branches ++ branchesBehind front others := by
  induction branches with
  | nil => rw [branchesBehind]; rfl
  | cons branch rest ih => rw [List.cons_append, branchesBehind, branchesBehind, ih, List.cons_append]

end Behind

namespace Machine

section Behind

variable (front : List Char)

def Gathered.behind : Gathered → Gathered
  | .branches done condition => .branches (branchesBehind front done) (condition.behind front)
  | .otherwise done => .otherwise (branchesBehind front done)
  | .whileLoop condition => .whileLoop (condition.behind front)
  | .forLoop header => .forLoop (header.behind front)

def Frame.behind (frame : Frame) : Frame :=
  ⟨frame.opening.behind front, frame.gathered.behind front, nodesBehind front frame.before⟩

def State.behind (state : State) : State :=
  ⟨nodesBehind front state.nodes, state.frames.map (Frame.behind front)⟩

variable {front}

theorem Gathered.construct_behind (gathered : Gathered) :
    (gathered.behind front).construct = gathered.construct := by cases gathered <;> rfl

theorem Gathered.close_behind (gathered : Gathered) (body : List Node) :
    (gathered.behind front).close (nodesBehind front body) = (gathered.close body).behind front := by
  cases gathered with
  | branches done condition =>
    simp only [Gathered.behind, close, Node.behind, branchesBehind_append, branchesBehind, otherwiseBehind]
  | otherwise done => simp only [Gathered.behind, close, Node.behind, otherwiseBehind]
  | whileLoop condition => simp only [Gathered.behind, close, Node.behind]
  | forLoop header => simp only [Gathered.behind, close, Node.behind]

theorem closing_behind {gathered : Gathered} {divider : Directive} (closing : Closing gathered divider) :
    Closing (gathered.behind front) (divider.behind front) := by
  intro done condition same
  cases gathered with
  | branches done condition => exact closing done condition rfl
  | _ => cases same

theorem divide_closing_behind {gathered : Gathered} {divider : Directive} (closing : Closing gathered divider)
    (opening : Directive) (nodes before : List Node) (outer : List Frame) :
    divide (divider.behind front) (nodesBehind front nodes) (Frame.behind front ⟨opening, gathered, before⟩)
      (outer.map (Frame.behind front)) =
        moved front (State.behind front) (divide divider nodes ⟨opening, gathered, before⟩ outer) := by
  have word : (divider.behind front).word = divider.word := rfl
  rw [Frame.behind, divide_close (closing_behind closing), divide_close closing, gathered.construct_behind, word]
  split
  · refine moved_bind (Directive.expectBare_behind divider) fun _ => congrArg Except.ok ?_
    rw [Gathered.close_behind, State.behind, nodesBehind_append, nodesBehind, nodesBehind]
  · rfl

theorem divide_behind (divider : Directive) (nodes : List Node) (frame : Frame) (outer : List Frame) :
    divide (divider.behind front) (nodesBehind front nodes) (frame.behind front)
      (outer.map (Frame.behind front)) = moved front (State.behind front) (divide divider nodes frame outer) := by
  obtain ⟨opening, gathered, before⟩ := frame
  by_cases closing : Closing gathered divider
  · exact divide_closing_behind closing opening nodes before outer
  · -- What does not close the block is an `elif` or the `else` of a conditional.
    simp only [Closing, not_forall] at closing
    obtain ⟨done, condition, rfl, divides⟩ := closing
    by_cases isElif : divider.keyword? = some .elif
    · have isElif' : (divider.behind front).keyword? = some .elif := isElif
      rw [Frame.behind, Gathered.behind, divide_elif isElif, divide_elif isElif']
      refine moved_bind (Directive.condition_behind divider) fun next => congrArg Except.ok ?_
      simp only [State.behind, List.map_cons, Frame.behind, Gathered.behind, branchesBehind_append, branchesBehind,
        nodesBehind]
    · have isElse : divider.keyword? = some .otherwise := by
        by_contra notElse
        exact divides ⟨isElif, notElse⟩
      have isElse' : (divider.behind front).keyword? = some .otherwise := isElse
      rw [Frame.behind, Gathered.behind, divide_otherwise isElse, divide_otherwise isElse']
      refine moved_bind (Directive.expectBare_behind divider) fun _ => congrArg Except.ok ?_
      simp only [State.behind, List.map_cons, Frame.behind, Gathered.behind, branchesBehind_append, branchesBehind,
        nodesBehind]

theorem step_leaf_behind {event : Event} {node : Node} (is : role event = .leaf node)
    (is' : role (event.behind front) = .leaf (node.behind front)) (state : State) :
    step (state.behind front) (event.behind front) = moved front (State.behind front) (step state event) := by
  rw [step_leaf is, step_leaf is', moved, State.behind, State.behind, nodesBehind_append, nodesBehind, nodesBehind]

theorem step_behind (state : State) (event : Event) :
    step (state.behind front) (event.behind front) = moved front (State.behind front) (step state event) := by
  cases event with
  | segment parts =>
    have is : role (Event.behind front (.segment parts)) = .leaf ((Node.ofParts parts).behind front) :=
      congrArg Role.leaf (Node.ofParts_behind parts)
    exact step_leaf_behind rfl is state
  | script code => exact step_leaf_behind rfl rfl state
  | eval code => exact step_leaf_behind rfl rfl state
  | conditional opening condition => rfl
  | whileLoop opening condition => rfl
  | forLoop opening header => rfl
  | invalid e => rfl
  | divider divider =>
    obtain ⟨nodes, frames⟩ := state
    cases frames with
    | nil => rfl
    | cons frame outer => exact divide_behind divider nodes frame outer

/-- The nodes of moved events are the moved nodes, and the errors the moved errors. -/
theorem resume_behind (state : State) (events : List Event) :
    resume (state.behind front) (events.map (Event.behind front)) =
      moved front (nodesBehind front) (resume state events) := by
  induction events generalizing state with
  | nil =>
    obtain ⟨nodes, frames⟩ := state
    cases frames with
    | nil => rfl
    | cons frame outer => rfl
  | cons event rest ih =>
    rw [List.map_cons, resume_cons, resume_cons]
    exact moved_bind (step_behind state event) ih

end Behind

end Machine

section Runs

variable {front : List Char}

theorem SubstitutionTable.values_behind (table : SubstitutionTable) (scope : Scope) :
    (table.behind front).values scope = table.values scope := by
  induction table with
  | nil => rfl
  | cons entry rest ih =>
    obtain ⟨key, slot⟩ := entry
    have value : (slot.behind front).value scope = slot.value scope := by cases slot <;> rfl
    rw [behind, List.map_cons, values, values, value]
    exact congrArg _ (funext fun value => congrArg (· >>= _) ih)

theorem Segment.filled_behind (segment : Segment) (scope : Scope) :
    (segment.behind front).filled scope = segment.filled scope := by
  rw [filled, filled, behind, SubstitutionTable.values_behind]

mutual
theorem runNode_behind (rounds : Nat) (node : Node) : runNode rounds (node.behind front) = runNode rounds node := by
  funext machine
  match node with
  | .literal text => rw [Node.behind]
  | .substitute segment => rw [Node.behind, runNode, runNode, segment.filled_behind]
  | .conditional branches otherwise =>
    rw [Node.behind, runNode, runNode, runOtherwise_behind rounds otherwise, runBranches_behind rounds branches]
  | .whileLoop condition body =>
    rw [Node.behind, runNode, runNode, runNodes_behind rounds body]
    rfl
  | .forLoop header body =>
    rw [Node.behind, runNode, runNode, runNodes_behind rounds body]
    rfl
  | .script code =>
    rw [Node.behind, runNode, runNode]
    rfl
  | .eval code =>
    rw [Node.behind, runNode, runNode]
    rfl

theorem runNodes_behind (rounds : Nat) (nodes : List Node) :
    runNodes rounds (nodesBehind front nodes) = runNodes rounds nodes := by
  funext machine
  match nodes with
  | [] => rw [nodesBehind]
  | node :: rest => rw [nodesBehind, runNodes, runNodes, runNode_behind rounds node, runNodes_behind rounds rest]

theorem runBranches_behind (rounds : Nat) (branches : List (Code Expr × List Node)) :
    runBranches rounds (branchesBehind front branches) = runBranches rounds branches := by
  funext otherwise machine
  match branches with
  | [] => rw [branchesBehind]
  | (condition, body) :: rest =>
    rw [branchesBehind, runBranches, runBranches, runNodes_behind rounds body, runBranches_behind rounds rest]
    rfl

theorem runOtherwise_behind (rounds : Nat) (otherwise : Option (List Node)) :
    runOtherwise rounds (otherwiseBehind front otherwise) = runOtherwise rounds otherwise := by
  funext machine
  match otherwise with
  | none => rw [otherwiseBehind]
  | some body => rw [otherwiseBehind, runOtherwise, runOtherwise, runNodes_behind rounds body]
end

end Runs

end Stencil
