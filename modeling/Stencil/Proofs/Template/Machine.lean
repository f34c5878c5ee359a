import Stencil.Proofs.Outcome
import Stencil.Template.Compile

/-! A stack machine that builds the nodes of a template in one pass over its events, with no event read
twice or handed back. Main statement: it gives what parsing gives, node by node and error by error. -/
namespace Stencil

theorem Keyword.ofWord?_eq_some {word : String} {keyword : Keyword} :
    Keyword.ofWord? word = some keyword ↔ keyword.word = word := by
  constructor
  · intro found
    simpa using List.find?_some found
  · rintro rfl
    cases keyword with
    | opens construct => cases construct <;> decide
    | opensCode block => cases block <;> decide
    | elif => decide
    | otherwise => decide
    | closes construct => cases construct <;> decide
    | closesCode block => cases block <;> decide

theorem Directive.keyword?_eq_some {directive : Directive} {keyword : Keyword} :
    directive.keyword? = some keyword ↔ String.ofList directive.word = keyword.word := by
  rw [Directive.keyword?, Keyword.ofWord?_eq_some, eq_comm]

namespace Machine

/-- What the opening directive of a block says. -/
inductive Block where
  | conditional (condition : Code Expr)
  | whileLoop (condition : Code Expr)
  | forLoop (header : Code ForHeader)

def Block.construct : Block → Construct
  | .conditional _ => .conditional
  | .whileLoop _ => .whileLoop
  | .forLoop _ => .forLoop

/-- What an open block has gathered before the body that is being read. -/
inductive Gathered where
  | branches (done : List (Code Expr × List Node)) (condition : Code Expr)
  | otherwise (done : List (Code Expr × List Node))
  | whileLoop (condition : Code Expr)
  | forLoop (header : Code ForHeader)

def Block.start : Block → Gathered
  | .conditional condition => .branches [] condition
  | .whileLoop condition => .whileLoop condition
  | .forLoop header => .forLoop header

namespace Gathered

def construct : Gathered → Construct
  | .branches _ _ | .otherwise _ => .conditional
  | .whileLoop _ => .whileLoop
  | .forLoop _ => .forLoop

def close (body : List Node) : Gathered → Node
  | .branches done condition => .conditional (done ++ [(condition, body)]) none
  | .otherwise done => .conditional done (some body)
  | .whileLoop condition => .whileLoop condition body
  | .forLoop header => .forLoop header body

end Gathered

/-- An open block, and the nodes that stand before it in the body around it. -/
structure Frame where
  opening : Directive
  gathered : Gathered
  before : List Node

/-- The nodes read so far of the innermost body, and the blocks around it from the inside out. -/
structure State where
  nodes : List Node
  frames : List Frame

/-- What an event is for the tree that is being built. -/
inductive Role where
  | leaf (node : Node)
  | opens (opening : Directive) (block : Block)
  | divides (divider : Directive)
  | fails (e : ParseError)

def role : Event → Role
  | .segment parts => .leaf (.ofParts parts)
  | .script code => .leaf (.script code)
  | .eval code => .leaf (.eval code)
  | .conditional opening condition => .opens opening (.conditional condition)
  | .whileLoop opening condition => .opens opening (.whileLoop condition)
  | .forLoop opening header => .opens opening (.forLoop header)
  | .divider divider => .divides divider
  | .invalid e => .fails e

/-- A divider behind the nodes of a body, which the innermost open block has to take. -/
def divide (divider : Directive) (nodes : List Node) (frame : Frame) (outer : List Frame) :
    Except ParseError State :=
  match frame.gathered, divider.keyword? with
  | .branches done condition, some .elif => do
    let next ← divider.condition
    return ⟨[], { frame with gathered := .branches (done ++ [(condition, nodes)]) next } :: outer⟩
  | .branches done condition, some .otherwise => do
    divider.expectBare
    return ⟨[], { frame with gathered := .otherwise (done ++ [(condition, nodes)]) } :: outer⟩
  | gathered, keyword =>
    if keyword = some (.closes gathered.construct) then do
      divider.expectBare
      return ⟨frame.before ++ [gathered.close nodes], outer⟩
    else .error (divider.mismatched gathered.construct.closeWord)

def step (state : State) (event : Event) : Except ParseError State :=
  match role event, state.frames with
  | .leaf node, frames => .ok ⟨state.nodes ++ [node], frames⟩
  | .opens opening block, frames => .ok ⟨[], ⟨opening, block.start, state.nodes⟩ :: frames⟩
  | .divides divider, [] => .error divider.unknown
  | .divides divider, frame :: outer => divide divider state.nodes frame outer
  | .fails e, _ => .error e

/-- The nodes of a source that ends, in which no block may be open. -/
def finish (state : State) : Except ParseError (List Node) :=
  match state.frames with
  | [] => .ok state.nodes
  | frame :: _ => .error frame.opening.unterminated

def resume (state : State) (events : List Event) : Except ParseError (List Node) :=
  events.foldlM step state >>= finish

def run (events : List Event) : Except ParseError (List Node) := resume ⟨[], []⟩ events

theorem resume_cons (state : State) (event : Event) (rest : List Event) :
    resume state (event :: rest) = step state event >>= fun next => resume next rest := by
  rw [resume, List.foldlM_cons, bind_assoc]
  rfl

/-- Reads the bodies of a block up to and with the divider that closes it. -/
def buildBlock (build : List Event → Except ParseError (Built (List Node))) (fuel : Nat)
    (opening : Directive) (block : Block) (events : List Event) : Except ParseError (Built Node) :=
  match block with
  | .conditional condition => do
    let ((branches, otherwise), rest) ← buildBranches build opening fuel condition events
    return (.conditional branches otherwise, rest)
  | block => do
    let (body, rest) ← build events
    let after ← expectClose opening block.construct.closeWord rest
    return (block.start.close body, after)

theorem buildNodes_cons (fuel : Nat) (event : Event) (rest : List Event) :
    buildNodes (fuel + 1) (event :: rest) =
      match role event with
      | .leaf node => do
        let (nodes, after) ← buildNodes fuel rest
        return (node :: nodes, after)
      | .opens opening block => do
        let (node, rest) ← buildBlock (buildNodes fuel) fuel opening block rest
        let (nodes, after) ← buildNodes fuel rest
        return (node :: nodes, after)
      | .divides divider => .ok ([], .divider divider :: rest)
      | .fails e => .error e := by
  cases event with
  | segment parts => rfl
  | script code => rfl
  | eval code => rfl
  | divider directive => rfl
  | invalid e => rfl
  | conditional opening condition =>
    simp only [role, buildBlock, bind_assoc, pure_bind]
    rfl
  | whileLoop opening condition =>
    simp only [role, buildBlock, bind_assoc, pure_bind]
    rfl
  | forLoop opening header =>
    simp only [role, buildBlock, bind_assoc, pure_bind]
    rfl

theorem length_of_expectClose {opening : Directive} {expected : String} {events after : List Event}
    (closed : expectClose opening expected events = .ok after) : after.length < events.length := by
  unfold expectClose at closed
  split at closed
  · split at closed
    · obtain ⟨_, _, rest⟩ := bind_eq_ok closed
      cases rest
      simp
    · contradiction
  · contradiction

theorem length_of_buildBranches {build : List Event → Except ParseError (Built (List Node))}
    (shorter : ∀ {events nodes rest}, build events = .ok (nodes, rest) → rest.length ≤ events.length)
    {opening : Directive} {fuel : Nat} {condition : Code Expr} {events rest : List Event}
    {branches : List (Code Expr × List Node) × Option (List Node)}
    (built : buildBranches build opening fuel condition events = .ok (branches, rest)) :
    rest.length ≤ events.length := by
  induction fuel generalizing condition events branches with
  | zero => rw [buildBranches] at built; contradiction
  | succ fuel ih =>
    rw [buildBranches] at built
    obtain ⟨⟨body, behind⟩, made, built⟩ := bind_eq_ok built
    have fewer := shorter made
    dsimp only at built
    split at built
    next divider after =>
      rw [List.length_cons] at fewer
      split at built
      next =>
        obtain ⟨next, _, built⟩ := bind_eq_ok built
        obtain ⟨⟨others, left⟩, more, built⟩ := bind_eq_ok built
        cases built
        have := ih more
        omega
      next =>
        obtain ⟨_, _, built⟩ := bind_eq_ok built
        obtain ⟨⟨otherwise, left⟩, last, built⟩ := bind_eq_ok built
        obtain ⟨closed, close, built⟩ := bind_eq_ok built
        cases built
        have := shorter last
        have : rest.length < left.length := length_of_expectClose close
        omega
      next =>
        obtain ⟨closed, close, built⟩ := bind_eq_ok built
        cases built
        have := length_of_expectClose close
        rw [List.length_cons] at this
        omega
    next => contradiction

theorem length_of_buildBlock {build : List Event → Except ParseError (Built (List Node))}
    (shorter : ∀ {events nodes rest}, build events = .ok (nodes, rest) → rest.length ≤ events.length)
    {fuel : Nat} {opening : Directive} {block : Block} {events rest : List Event} {node : Node}
    (built : buildBlock build fuel opening block events = .ok (node, rest)) :
    rest.length ≤ events.length := by
  unfold buildBlock at built
  split at built
  next =>
    obtain ⟨⟨branches, left⟩, made, built⟩ := bind_eq_ok built
    cases built
    exact length_of_buildBranches shorter made
  next =>
    obtain ⟨⟨body, left⟩, made, built⟩ := bind_eq_ok built
    obtain ⟨after, close, built⟩ := bind_eq_ok built
    cases built
    have := shorter made
    have := length_of_expectClose close
    omega

theorem length_of_buildNodes {fuel : Nat} {events rest : List Event} {nodes : List Node}
    (built : buildNodes fuel events = .ok (nodes, rest)) : rest.length ≤ events.length := by
  induction fuel generalizing events nodes rest with
  | zero => cases built; exact Nat.le_refl _
  | succ fuel ih =>
    cases events with
    | nil => cases built; exact Nat.le_refl _
    | cons event events =>
      rw [buildNodes_cons] at built
      rw [List.length_cons]
      split at built
      next =>
        obtain ⟨⟨others, left⟩, more, built⟩ := bind_eq_ok built
        cases built
        have := ih more
        omega
      next =>
        obtain ⟨⟨node, behind⟩, block, built⟩ := bind_eq_ok built
        obtain ⟨⟨others, left⟩, more, built⟩ := bind_eq_ok built
        cases built
        have := length_of_buildBlock ih block
        have := ih more
        omega
      next =>
        cases built
        exact Nat.le_refl _
      next => contradiction

/-- Events at which a body ends: none, or a divider and what follows it. -/
def AtDivider (events : List Event) : Prop := ∀ event ∈ events.head?, ∃ divider, event = .divider divider

theorem atDivider_of_buildNodes {fuel : Nat} {events rest : List Event} {nodes : List Node}
    (enough : events.length < fuel) (built : buildNodes fuel events = .ok (nodes, rest)) :
    AtDivider rest := by
  induction fuel generalizing events nodes rest with
  | zero => omega
  | succ fuel ih =>
    cases events with
    | nil => cases built; simp [AtDivider]
    | cons event events =>
      rw [buildNodes_cons] at built
      rw [List.length_cons] at enough
      split at built
      next =>
        obtain ⟨⟨others, left⟩, more, built⟩ := bind_eq_ok built
        cases built
        exact ih (by omega) more
      next =>
        obtain ⟨⟨node, behind⟩, block, built⟩ := bind_eq_ok built
        obtain ⟨⟨others, left⟩, more, built⟩ := bind_eq_ok built
        cases built
        have := length_of_buildBlock length_of_buildNodes block
        exact ih (by omega) more
      next =>
        cases built
        simp [AtDivider]
      next => contradiction

theorem divide_elif {divider : Directive} (isElif : divider.keyword? = some .elif)
    (opening : Directive) (done : List (Code Expr × List Node)) (condition : Code Expr)
    (nodes before : List Node) (outer : List Frame) :
    divide divider nodes ⟨opening, .branches done condition, before⟩ outer = do
      let next ← divider.condition
      return ⟨[], ⟨opening, .branches (done ++ [(condition, nodes)]) next, before⟩ :: outer⟩ := by
  rw [divide]
  simp only [isElif]

theorem divide_otherwise {divider : Directive} (isElse : divider.keyword? = some .otherwise)
    (opening : Directive) (done : List (Code Expr × List Node)) (condition : Code Expr)
    (nodes before : List Node) (outer : List Frame) :
    divide divider nodes ⟨opening, .branches done condition, before⟩ outer = do
      divider.expectBare
      return ⟨[], ⟨opening, .otherwise (done ++ [(condition, nodes)]), before⟩ :: outer⟩ := by
  rw [divide]
  simp only [isElse]

/-- Whether a divider has to close the block that takes it: it is no `elif` or `else` of a conditional
that still takes one. -/
def Closing (gathered : Gathered) (divider : Directive) : Prop :=
  ∀ done condition, gathered = .branches done condition →
    divider.keyword? ≠ some .elif ∧ divider.keyword? ≠ some .otherwise

theorem divide_close {gathered : Gathered} {divider : Directive} (closing : Closing gathered divider)
    (opening : Directive) (nodes before : List Node) (outer : List Frame) :
    divide divider nodes ⟨opening, gathered, before⟩ outer =
      if String.ofList divider.word = gathered.construct.closeWord then do
        divider.expectBare
        return ⟨before ++ [gathered.close nodes], outer⟩
      else .error (divider.mismatched gathered.construct.closeWord) := by
  have same : divider.keyword? = some (.closes gathered.construct) ↔
      String.ofList divider.word = gathered.construct.closeWord := Directive.keyword?_eq_some
  unfold divide
  split
  next done condition isBranches isElif => exact absurd isElif (closing done condition isBranches).1
  next done condition isBranches isElse => exact absurd isElse (closing done condition isBranches).2
  next => simp only [same]

theorem step_leaf {event : Event} {node : Node} (is : role event = .leaf node) (state : State) :
    step state event = .ok ⟨state.nodes ++ [node], state.frames⟩ := by simp only [step, is]

theorem step_opens {event : Event} {opening : Directive} {block : Block}
    (is : role event = .opens opening block) (state : State) :
    step state event = .ok ⟨[], ⟨opening, block.start, state.nodes⟩ :: state.frames⟩ := by
  simp only [step, is]

theorem step_fails {event : Event} {e : ParseError} (is : role event = .fails e) (state : State) :
    step state event = .error e := by simp only [step, is]

theorem eq_divider_of_role {event : Event} {divider : Directive} (is : role event = .divides divider) :
    event = .divider divider := by
  cases event <;> cases is
  rfl

theorem step_divider (divider : Directive) (nodes : List Node) (frame : Frame) (outer : List Frame) :
    step ⟨nodes, frame :: outer⟩ (.divider divider) = divide divider nodes frame outer := rfl

theorem resume_expectClose {gathered : Gathered} {rest : List Event} (ends : AtDivider rest)
    (closing : ∀ divider ∈ rest.head?, ∀ directive, divider = .divider directive → Closing gathered directive)
    (opening : Directive) (nodes before : List Node) (outer : List Frame) :
    resume ⟨nodes, ⟨opening, gathered, before⟩ :: outer⟩ rest =
      expectClose opening gathered.construct.closeWord rest >>= fun after =>
        resume ⟨before ++ [gathered.close nodes], outer⟩ after := by
  cases rest with
  | nil => rfl
  | cons event after =>
    obtain ⟨divider, rfl⟩ := ends event rfl
    rw [resume_cons, step_divider, divide_close (closing _ rfl divider rfl), expectClose]
    split
    · simp only [bind_assoc, pure_bind]
    · rfl

/-- The machine builds the nodes that a builder of bodies builds, and stops where it stops. -/
def Follows (build : List Event → Except ParseError (Built (List Node))) (events : List Event) : Prop :=
  ∀ state, resume state events = build events >>= fun built =>
    resume ⟨state.nodes ++ built.1, state.frames⟩ built.2

section Blocks

variable {build : List Event → Except ParseError (Built (List Node))} (bound : Nat)
  (shorter : ∀ {events nodes rest}, build events = .ok (nodes, rest) → rest.length ≤ events.length)
  (ends : ∀ {events nodes rest}, events.length ≤ bound → build events = .ok (nodes, rest) → AtDivider rest)
  (follows : ∀ {events}, events.length ≤ bound → Follows build events)

include shorter ends follows

theorem resume_buildBranches (opening : Directive) (fuel : Nat) (condition : Code Expr)
    (events : List Event) (enough : events.length < fuel) (inside : events.length ≤ bound)
    (done : List (Code Expr × List Node)) (before : List Node) (outer : List Frame) :
    resume ⟨[], ⟨opening, .branches done condition, before⟩ :: outer⟩ events =
      buildBranches build opening fuel condition events >>= fun built =>
        resume ⟨before ++ [.conditional (done ++ built.1.1) built.1.2], outer⟩ built.2 := by
  induction fuel generalizing condition events done with
  | zero => omega
  | succ fuel ih =>
    rw [buildBranches, follows inside, bind_assoc]
    cases made : build events with
    | error e => rfl
    | ok parts =>
      obtain ⟨nodes, rest⟩ := parts
      have fewer := shorter made
      have stops := ends inside made
      simp only [ok_bind, List.nil_append]
      cases rest with
      | nil => rfl
      | cons event after =>
        obtain ⟨divider, rfl⟩ := stops event rfl
        rw [List.length_cons] at fewer
        dsimp only
        split
        next isElif =>
          rw [resume_cons, step_divider, divide_elif isElif]
          simp only [bind_assoc, pure_bind]
          congr 1
          funext next
          rw [ih next after (by omega) (by omega)]
          simp only [List.append_assoc, List.singleton_append]
        next isElse =>
          rw [resume_cons, step_divider, divide_otherwise isElse]
          simp only [bind_assoc, pure_bind]
          congr 1
          funext _
          rw [follows (by omega)]
          cases last : build after with
          | error e => rfl
          | ok parts =>
            obtain ⟨otherwise, left⟩ := parts
            simp only [ok_bind, List.nil_append]
            exact resume_expectClose (ends (by omega) last) (by simp [Closing]) _ _ _ _
        next notElif notElse =>
          simp only [bind_assoc, pure_bind]
          refine resume_expectClose stops ?_ _ _ _ _
          rintro _ ⟨⟩ directive ⟨⟩ _ _ _
          exact ⟨notElif, notElse⟩

theorem resume_buildBlock (opening : Directive) (block : Block) (fuel : Nat) (events : List Event)
    (enough : events.length < fuel) (inside : events.length ≤ bound) (before : List Node)
    (outer : List Frame) :
    resume ⟨[], ⟨opening, block.start, before⟩ :: outer⟩ events =
      buildBlock build fuel opening block events >>= fun built =>
        resume ⟨before ++ [built.1], outer⟩ built.2 := by
  have loop (gathered : Gathered) (closing : ∀ divider, Closing gathered divider) :
      resume ⟨[], ⟨opening, gathered, before⟩ :: outer⟩ events =
        (do
          let (body, rest) ← build events
          let after ← expectClose opening gathered.construct.closeWord rest
          return (gathered.close body, after)) >>= fun built =>
            resume ⟨before ++ [built.1], outer⟩ built.2 := by
    simp only [bind_assoc, pure_bind]
    rw [follows inside]
    cases made : build events with
    | error e => rfl
    | ok parts =>
      obtain ⟨nodes, rest⟩ := parts
      exact resume_expectClose (ends inside made) (fun _ _ divider _ => closing divider) _ _ _ _
  cases block with
  | conditional condition =>
    rw [buildBlock, bind_assoc]
    exact resume_buildBranches bound shorter ends follows opening fuel condition events enough inside
      [] before outer
  | whileLoop condition => exact loop (.whileLoop condition) (by simp [Closing])
  | forLoop header => exact loop (.forLoop header) (by simp [Closing])

end Blocks

theorem follows_buildNodes (fuel : Nat) (events : List Event) (enough : events.length < fuel) :
    Follows (buildNodes fuel) events := by
  induction fuel generalizing events with
  | zero => omega
  | succ fuel ih =>
    intro state
    cases events with
    | nil =>
      rw [buildNodes, ok_bind, List.append_nil]
    | cons event events =>
      rw [List.length_cons] at enough
      rw [resume_cons, buildNodes_cons]
      cases is : role event with
      | leaf node =>
        rw [step_leaf is]
        simp only [ok_bind, bind_assoc, pure_bind]
        rw [ih events (by omega)]
        simp only [List.append_assoc, List.singleton_append]
      | opens opening block =>
        rw [step_opens is]
        simp only [ok_bind, bind_assoc, pure_bind]
        rw [resume_buildBlock events.length length_of_buildNodes
          (fun inside => atDivider_of_buildNodes (by omega)) (fun inside => ih _ (by omega))
          opening block fuel events (by omega) (Nat.le_refl _)]
        cases made : buildBlock (buildNodes fuel) fuel opening block events with
        | error e => rfl
        | ok parts =>
          obtain ⟨node, rest⟩ := parts
          have := length_of_buildBlock length_of_buildNodes made
          simp only [ok_bind]
          rw [ih rest (by omega)]
          simp only [List.append_assoc, List.singleton_append]
      | divides divider =>
        rw [eq_divider_of_role is, ok_bind, List.append_nil, resume_cons]
      | fails e =>
        rw [step_fails is]
        rfl

/-- Parsing is one pass of the machine over the events of a source. -/
theorem parseNodes_eq_run (source : List Char) : parseNodes source = run (events source) := by
  have enough := Nat.lt_succ_self (events source).length
  rw [parseNodes, Node.ofEvents, run, follows_buildNodes _ _ enough]
  cases built : buildNodes ((events source).length + 1) (events source) with
  | error e => rfl
  | ok parts =>
    obtain ⟨nodes, rest⟩ := parts
    have ends := atDivider_of_buildNodes enough built
    cases rest with
    | nil => rfl
    | cons event after =>
      obtain ⟨divider, rfl⟩ := ends event rfl
      rfl

theorem parse_of_single {source : List Char} {event : Event} {node : Node} (alone : events source = [event])
    (leaf : role event = .leaf node) : Template.parse source = .ok ⟨source, [node]⟩ := by
  rw [Template.parse, parseNodes_eq_run, alone, run, resume_cons, step_leaf leaf]
  rfl

end Machine
end Stencil
