import Stencil.Proofs.Template.Events
import Stencil.Proofs.Template.Nesting

/-! The stack machine against the grammar of nesting. Main statement: parsing succeeds exactly on sources
whose events are valid and nest, gives a tree with the same marks in the same order, and otherwise fails
at the first event that does not fit. -/
namespace Stencil.Machine

-- Looking up the keyword of a divider compares texts, which no proof here has to go into.
attribute [local irreducible] Directive.keyword?

theorem nodeMarks_leaf {event : Event} {node : Node} (is : role event = .leaf node) :
    nodeMarks node = [.leaf node] := by
  cases event with
  | segment parts =>
    cases is
    dsimp only [Node.ofParts]
    split <;> rfl
  | script code => cases is; rfl
  | eval code => cases is; rfl
  | _ => cases is

/-- The marks from the opening of a block up to the body that is being read. -/
def Gathered.marks : Gathered → List Mark
  | .branches done condition =>
    branchMarks (fun condition => .opens (.conditional condition)) (done ++ [(condition, [])])
  | .otherwise done =>
    branchMarks (fun condition => .opens (.conditional condition)) done ++ [.otherwise]
  | .whileLoop condition => [.opens (.whileLoop condition)]
  | .forLoop header => [.opens (.forLoop header)]

def Gathered.divided : Gathered → Bool
  | .otherwise _ => true
  | _ => false

theorem branchMarks_append_body (first : Code Expr → Mark) (done : List (Code Expr × List Node))
    (condition : Code Expr) (body : List Node) :
    branchMarks first (done ++ [(condition, body)]) =
      branchMarks first (done ++ [(condition, [])]) ++ marks body := by
  induction done generalizing first with
  | nil => simp [branchMarks, marks]
  | cons branch done ih => simp [branchMarks, ih]

theorem branchMarks_append_branch (first : Code Expr → Mark) {done : List (Code Expr × List Node)}
    (some : done ≠ []) (condition : Code Expr) :
    branchMarks first (done ++ [(condition, [])]) = branchMarks first done ++ [.elif condition] := by
  induction done generalizing first with
  | nil => contradiction
  | cons branch done ih =>
    cases done with
    | nil => simp [branchMarks, marks]
    | cons next done =>
      obtain ⟨earlier, body⟩ := branch
      have rest := ih .elif (by simp)
      rw [List.cons_append, branchMarks, rest]
      simp only [branchMarks, List.cons_append, List.append_assoc]

theorem Gathered.marks_close (gathered : Gathered) (body : List Node) :
    nodeMarks (gathered.close body) =
      gathered.marks ++ Machine.marks body ++ [.closes gathered.construct] := by
  cases gathered with
  | branches done condition =>
    simp only [Gathered.close, nodeMarks, Gathered.marks, Gathered.construct, otherwiseMarks,
      branchMarks_append_body _ _ _ body, List.append_assoc, List.nil_append]
  | otherwise done => simp [Gathered.close, nodeMarks, Gathered.marks, Gathered.construct, otherwiseMarks]
  | whileLoop condition => simp [Gathered.close, nodeMarks, Gathered.marks, Gathered.construct]
  | forLoop header => simp [Gathered.close, nodeMarks, Gathered.marks, Gathered.construct]

theorem Block.marks_start (block : Block) : block.start.marks = [.opens block] := by
  cases block <;> simp [Block.start, Gathered.marks, branchMarks, marks]

theorem Block.construct_start (block : Block) : block.start.construct = block.construct := by
  cases block <;> rfl

theorem Block.divided_start (block : Block) : block.start.divided = false := by cases block <;> rfl

/-- What an open conditional without an `else` has gathered. -/
theorem Gathered.eq_branches {gathered : Gathered} (isConditional : gathered.construct = .conditional)
    (undivided : gathered.divided = false) : ∃ done condition, gathered = .branches done condition := by
  cases gathered with
  | branches done condition => exact ⟨done, condition, rfl⟩
  | otherwise done => contradiction
  | whileLoop condition => contradiction
  | forLoop header => contradiction

theorem step_elif {divider : Directive} {next : Code Expr} (word : divider.keyword? = some .elif)
    (parsed : divider.condition = .ok next) (opening : Directive)
    (done : List (Code Expr × List Node)) (condition : Code Expr) (nodes before : List Node)
    (outer : List Frame) :
    step ⟨nodes, ⟨opening, .branches done condition, before⟩ :: outer⟩ (.divider divider) =
      .ok ⟨[], ⟨opening, .branches (done ++ [(condition, nodes)]) next, before⟩ :: outer⟩ := by
  rw [step_divider, divide_elif word, parsed]
  rfl

theorem step_otherwise {divider : Directive} (word : divider.keyword? = some .otherwise)
    (bare : divider.expectBare = .ok ()) (opening : Directive)
    (done : List (Code Expr × List Node)) (condition : Code Expr) (nodes before : List Node)
    (outer : List Frame) :
    step ⟨nodes, ⟨opening, .branches done condition, before⟩ :: outer⟩ (.divider divider) =
      .ok ⟨[], ⟨opening, .otherwise (done ++ [(condition, nodes)]), before⟩ :: outer⟩ := by
  rw [step_divider, divide_otherwise word, bare]
  rfl

theorem divide_closes {divider : Directive} {gathered : Gathered}
    (closes : divider.keyword? = some (.closes gathered.construct)) (opening : Directive)
    (nodes before : List Node) (outer : List Frame) :
    divide divider nodes ⟨opening, gathered, before⟩ outer = do
      divider.expectBare
      return ⟨before ++ [gathered.close nodes], outer⟩ := by
  have closing : Closing gathered divider := by simp [Closing, closes]
  have same : String.ofList divider.word = gathered.construct.closeWord :=
    Directive.keyword?_eq_some.mp closes
  rw [divide_close closing, if_pos same]

theorem step_closes {divider : Directive} {gathered : Gathered}
    (word : divider.keyword? = some (.closes gathered.construct)) (bare : divider.expectBare = .ok ())
    (opening : Directive) (nodes before : List Node) (outer : List Frame) :
    step ⟨nodes, ⟨opening, gathered, before⟩ :: outer⟩ (.divider divider) =
      .ok ⟨before ++ [gathered.close nodes], outer⟩ := by
  rw [step_divider, divide_closes word, bare]
  rfl

mutual
/-- The machine goes through a complete body, in whatever block it is. -/
theorem Nested.runs {list : List Mark} (nested : Nested list) {events : List Event}
    (marked : Marked events list) :
    ∃ nodes, Machine.marks nodes = list ∧
      ∀ state, events.foldlM step state = .ok ⟨state.nodes ++ nodes, state.frames⟩ := by
  match nested with
  | .nil =>
    cases marked
    exact ⟨[], rfl, fun state => by rw [List.append_nil]; rfl⟩
  | .leaf node behind =>
    obtain ⟨event, after, leaves, rest, rfl⟩ := List.forall₂_cons_right_iff.mp marked
    cases leaves with
    | leaf is =>
      obtain ⟨nodes, same, runs⟩ := behind.runs rest
      refine ⟨node :: nodes, ?_, fun state => ?_⟩
      · rw [Machine.marks, nodeMarks_leaf is, same]
        rfl
      · rw [List.foldlM_cons, step_leaf is, ok_bind, runs, List.append_assoc]
        rfl
  | .block opened inside behind =>
    obtain ⟨opener, after, leaves, others, rfl⟩ := List.forall₂_cons_right_iff.mp marked
    cases leaves with
    | @opens _ opening _ opens =>
      obtain ⟨inner, after, rfl, innerMarked, others⟩ := Marked.split others
      obtain ⟨closer, after, leaves, left, rfl⟩ := List.forall₂_cons_right_iff.mp others
      obtain ⟨gathered, body, construct, _, listed, enters⟩ := inside.runs innerMarked opened rfl opening
      obtain ⟨nodes, same, runs⟩ := behind.runs left
      rw [← construct] at leaves
      cases leaves with
      | closes word bare =>
        refine ⟨gathered.close body :: nodes, ?_, fun state => ?_⟩
        · rw [Machine.marks, gathered.marks_close, listed, construct, same]
          simp only [List.cons_append, List.append_assoc, List.nil_append]
        · rw [List.foldlM_cons, step_opens opens, ok_bind, List.foldlM_append, enters, ok_bind,
            List.foldlM_cons, step_closes word bare, ok_bind, runs, List.append_assoc]
          rfl

theorem Inside.runs {construct : Construct} {divided : Bool} {list : List Mark}
    (inside : Inside construct divided list) {events : List Event} (marked : Marked events list)
    (opened : Block) (same : opened.construct = construct) (opening : Directive) :
    ∃ gathered nodes, gathered.construct = construct ∧ gathered.divided = divided ∧
      gathered.marks ++ Machine.marks nodes = .opens opened :: list ∧
      ∀ before outer, events.foldlM step ⟨[], ⟨opening, opened.start, before⟩ :: outer⟩ =
        .ok ⟨nodes, ⟨opening, gathered, before⟩ :: outer⟩ := by
  match inside with
  | .body _ nested =>
    obtain ⟨nodes, listed, runs⟩ := nested.runs marked
    refine ⟨opened.start, nodes, ?_, opened.divided_start, ?_, fun before outer => runs _⟩
    · rw [opened.construct_start, same]
    · rw [opened.marks_start, listed]
      rfl
  | .elif next inside nested =>
    obtain ⟨earlier, after, rfl, earlierMarked, others⟩ := marked.split
    obtain ⟨event, after, leaves, left, rfl⟩ := List.forall₂_cons_right_iff.mp others
    obtain ⟨gathered, nodes, construct, undivided, listed, runs⟩ :=
      inside.runs earlierMarked opened same opening
    obtain ⟨done, condition, rfl⟩ := Gathered.eq_branches construct undivided
    obtain ⟨body, same, goes⟩ := nested.runs left
    cases leaves with
    | elif word parsed =>
      refine ⟨.branches (done ++ [(condition, nodes)]) next, body, rfl, rfl, ?_, fun before outer => ?_⟩
      · rw [← List.cons_append, ← listed, Gathered.marks, branchMarks_append_branch _ (by simp),
          branchMarks_append_body, same]
        simp only [Gathered.marks, List.append_assoc, List.singleton_append]
      · rw [List.foldlM_append, runs, ok_bind, List.foldlM_cons, step_elif word parsed, ok_bind, goes]
        rfl
  | .otherwise inside nested =>
    obtain ⟨earlier, after, rfl, earlierMarked, others⟩ := marked.split
    obtain ⟨event, after, leaves, left, rfl⟩ := List.forall₂_cons_right_iff.mp others
    obtain ⟨gathered, nodes, construct, undivided, listed, runs⟩ :=
      inside.runs earlierMarked opened same opening
    obtain ⟨done, condition, rfl⟩ := Gathered.eq_branches construct undivided
    obtain ⟨body, same, goes⟩ := nested.runs left
    cases leaves with
    | otherwise word bare =>
      refine ⟨.otherwise (done ++ [(condition, nodes)]), body, rfl, rfl, ?_, fun before outer => ?_⟩
      · rw [← List.cons_append, ← listed, Gathered.marks, Gathered.marks, branchMarks_append_body _ _ _ nodes, same]
        simp only [List.append_assoc, List.singleton_append]
      · rw [List.foldlM_append, runs, ok_bind, List.foldlM_cons, step_otherwise word bare, ok_bind, goes]
        rfl
end

def Frame.block (frame : Frame) : OpenBlock :=
  ⟨frame.opening, frame.gathered.construct, frame.gathered.divided⟩

/-- The blocks that are open in a state of the machine. -/
def State.opened (state : State) : List OpenBlock := state.frames.map Frame.block

theorem Within.runs {events : List Event} {blocks : List OpenBlock} (within : Within events blocks) :
    ∃ state, events.foldlM step ⟨[], []⟩ = .ok state ∧ state.opened = blocks := by
  induction within with
  | outside complete =>
    obtain ⟨_, marked, nested⟩ := complete
    obtain ⟨nodes, _, runs⟩ := nested.runs marked
    exact ⟨_, runs _, rfl⟩
  | @inside before inner outer opener opening block _ _ _ opens marked inside ih =>
    obtain ⟨state, reached, opened⟩ := ih
    obtain ⟨gathered, nodes, construct, divided, _, runs⟩ := inside.runs marked block rfl opening
    refine ⟨⟨nodes, ⟨opening, gathered, state.nodes⟩ :: state.frames⟩, ?_, ?_⟩
    · rw [List.foldlM_append, reached, ok_bind, List.foldlM_cons, step_opens opens, ok_bind, runs]
    · rw [← opened, ← construct, ← divided]
      rfl

/-- What is read behind the marks of an open block belongs to that block. -/
theorem Within.extend {events more : List Event} {moreMarks : List Mark} {block : OpenBlock}
    {outer : List OpenBlock} {divided : Bool} (within : Within events (block :: outer))
    (marked : Marked more moreMarks)
    (inside : ∀ marks, Inside block.construct block.divided marks →
      Inside block.construct divided (marks ++ moreMarks)) :
    Within (events ++ more) (⟨block.opening, block.construct, divided⟩ :: outer) := by
  cases within with
  | inside around opens earlier nested =>
    rw [List.append_assoc, List.cons_append]
    exact .inside around opens (earlier.append marked) (inside _ nested)

theorem Within.close {events : List Event} {block : OpenBlock} {outer : List OpenBlock}
    {divider : Directive} (within : Within events (block :: outer))
    (word : divider.keyword? = some (.closes block.construct)) (bare : divider.expectBare = .ok ()) :
    Within (events ++ [.divider divider]) outer := by
  cases within with
  | @inside before inner _ opener _ opened _ marks around opens marked inside =>
    rw [List.append_assoc, List.cons_append]
    refine around.append ⟨.opens opened :: (marks ++ [.closes opened.construct]), ?_, .block opened inside .nil⟩
    exact .cons (.opens opens) (Marked.append marked (.cons (.closes word bare) .nil))

/-- A divider and the innermost open block: it divides the block, closes it, or does not belong to it. -/
theorem takes_cases (divider : Directive) (frame : Frame) :
    (∃ done condition, frame.gathered = .branches done condition ∧ divider.keyword? = some .elif) ∨
      (∃ done condition, frame.gathered = .branches done condition ∧ divider.keyword? = some .otherwise) ∨
      divider.keyword? = some (.closes frame.gathered.construct) ∨
      ¬ frame.block.takes divider.keyword? := by
  by_cases taken : frame.block.takes divider.keyword?
  · unfold OpenBlock.takes at taken
    split at taken
    next isElif =>
      obtain ⟨done, condition, same⟩ := Gathered.eq_branches taken.1 taken.2
      exact .inl ⟨done, condition, same, isElif⟩
    next isElse =>
      obtain ⟨done, condition, same⟩ := Gathered.eq_branches taken.1 taken.2
      exact .inr (.inl ⟨done, condition, same, isElse⟩)
    next closes =>
      subst taken
      exact .inr (.inr (.inl closes))
    next => contradiction
  · exact .inr (.inr (.inr taken))

/-- A divider that an open block takes, other than an `elif`, may only have an argument too many. -/
theorem offends_argument {divider : Directive} {block : OpenBlock} {outer : List OpenBlock} {e : ParseError}
    (taken : block.takes divider.keyword?) (notElif : divider.keyword? ≠ some .elif) :
    divider.expectBare = .error e ↔ Offends (block :: outer) (.divider divider) e := by
  constructor
  · intro bad
    exact .argument _ taken notElif bad
  · intro offends
    cases offends with
    | mismatched _ foreign => exact absurd taken foreign
    | condition _ _ isElif _ => exact absurd isElif notElif
    | argument _ _ _ bad => exact bad

theorem divide_foreign {divider : Directive} {frame : Frame}
    (foreign : ¬ frame.block.takes divider.keyword?) (nodes : List Node) (outer : List Frame) :
    divide divider nodes frame outer = .error (divider.mismatched frame.gathered.construct.closeWord) := by
  have closing : Closing frame.gathered divider := by
    intro done condition same
    constructor
    · intro isElif
      exact foreign (by rw [Frame.block, same, isElif]; exact ⟨rfl, rfl⟩)
    · intro isElse
      exact foreign (by rw [Frame.block, same, isElse]; exact ⟨rfl, rfl⟩)
  have notClose : String.ofList divider.word ≠ frame.gathered.construct.closeWord := by
    intro word
    have closes : divider.keyword? = some (.closes frame.gathered.construct) :=
      Directive.keyword?_eq_some.mpr word
    exact foreign (by rw [closes]; rfl)
  rw [divide_close closing, if_neg notClose]

theorem Within.step {events : List Event} {state next : State} {event : Event}
    (within : Within events state.opened) (ok : step state event = .ok next) :
    Within (events ++ [event]) next.opened := by
  obtain ⟨nodes, frames⟩ := state
  cases is : role event with
  | leaf node =>
    rw [step_leaf is] at ok
    cases ok
    exact within.append ⟨[.leaf node], .cons (.leaf is) .nil, .leaf node .nil⟩
  | opens opening block =>
    rw [step_opens is] at ok
    cases ok
    have inside := Within.inside within is .nil (.body _ .nil)
    rw [← block.construct_start, ← block.divided_start] at inside
    exact inside
  | fails e =>
    rw [step_fails is] at ok
    contradiction
  | divides divider =>
    cases eq_divider_of_role is
    cases frames with
    | nil => contradiction
    | cons frame outer =>
      rw [step_divider] at ok
      obtain ⟨opening, gathered, before⟩ := frame
      rcases takes_cases divider ⟨opening, gathered, before⟩ with
        ⟨done, condition, rfl, isElif⟩ | ⟨done, condition, rfl, isElse⟩ | closes | foreign
      · rw [divide_elif isElif] at ok
        obtain ⟨code, parsed, ok⟩ := bind_eq_ok ok
        cases ok
        exact within.extend (.cons (.elif isElif parsed) .nil) fun _ inside => .elif code inside .nil
      · rw [divide_otherwise isElse] at ok
        obtain ⟨_, bare, ok⟩ := bind_eq_ok ok
        cases ok
        exact within.extend (.cons (.otherwise isElse bare) .nil) fun _ inside => .otherwise inside .nil
      · rw [divide_closes closes] at ok
        obtain ⟨_, bare, ok⟩ := bind_eq_ok ok
        cases ok
        exact within.close closes bare
      · rw [divide_foreign foreign] at ok
        contradiction

theorem Within.resumes {before events : List Event} {state last : State}
    (within : Within before state.opened) (ok : events.foldlM Machine.step state = .ok last) :
    Within (before ++ events) last.opened := by
  induction events generalizing before state with
  | nil =>
    cases ok
    rw [List.append_nil]
    exact within
  | cons event events ih =>
    rw [List.foldlM_cons] at ok
    obtain ⟨next, stepped, ok⟩ := bind_eq_ok ok
    rw [List.append_cons]
    exact ih (within.step stepped) ok

theorem Within.of_run {events : List Event} {state : State}
    (ok : events.foldlM Machine.step ⟨[], []⟩ = .ok state) : Within events state.opened := by
  have start : Within [] (State.opened ⟨[], []⟩) := .outside ⟨[], .nil, .nil⟩
  exact start.resumes ok

theorem divide_eq_error {divider : Directive} {nodes : List Node} {frame : Frame} {outer : List Frame}
    {e : ParseError} : divide divider nodes frame outer = .error e ↔
      Offends (frame.block :: outer.map Frame.block) (.divider divider) e := by
  obtain ⟨opening, gathered, before⟩ := frame
  rcases takes_cases divider ⟨opening, gathered, before⟩ with
    ⟨done, condition, rfl, isElif⟩ | ⟨done, condition, rfl, isElse⟩ | closes | foreign
  · have taken : (Frame.block ⟨opening, .branches done condition, before⟩).takes divider.keyword? := by
      rw [isElif]
      exact ⟨rfl, rfl⟩
    rw [divide_elif isElif, bind_pure_eq_error]
    constructor
    · intro bad
      exact .condition _ taken isElif bad
    · intro offends
      cases offends with
      | mismatched _ foreign => exact absurd taken foreign
      | condition _ _ _ bad => exact bad
      | argument _ _ notElif _ => exact absurd isElif notElif
  · have taken : (Frame.block ⟨opening, .branches done condition, before⟩).takes divider.keyword? := by
      rw [isElse]
      exact ⟨rfl, rfl⟩
    have notElif : divider.keyword? ≠ some .elif := by simp [isElse]
    rw [divide_otherwise isElse, bind_pure_eq_error]
    exact offends_argument taken notElif
  · have taken : (Frame.block ⟨opening, gathered, before⟩).takes divider.keyword? := by
      rw [closes]
      rfl
    have notElif : divider.keyword? ≠ some .elif := by simp [closes]
    rw [divide_closes closes, bind_pure_eq_error]
    exact offends_argument taken notElif
  · rw [divide_foreign foreign]
    constructor
    · intro fails
      cases fails
      exact .mismatched _ foreign
    · intro offends
      cases offends with
      | mismatched _ _ => rfl
      | condition _ taken _ _ => exact absurd taken foreign
      | argument _ taken _ _ => exact absurd taken foreign

theorem step_eq_error {state : State} {event : Event} {e : ParseError} :
    step state event = .error e ↔ Offends state.opened event e := by
  obtain ⟨nodes, frames⟩ := state
  cases is : role event with
  | leaf node =>
    rw [step_leaf is]
    constructor
    · intro fails
      cases fails
    · intro offends
      generalize State.opened ⟨nodes, frames⟩ = blocks at offends
      cases offends <;> cases is
  | opens opening block =>
    rw [step_opens is]
    constructor
    · intro fails
      cases fails
    · intro offends
      generalize State.opened ⟨nodes, frames⟩ = blocks at offends
      cases offends <;> cases is
  | fails fault =>
    rw [step_fails is]
    constructor
    · intro fails
      cases fails
      cases event <;> cases is
      exact .invalid _ e
    · intro offends
      generalize State.opened ⟨nodes, frames⟩ = blocks at offends
      cases offends <;> cases is
      rfl
  | divides divider =>
    cases eq_divider_of_role is
    cases frames with
    | nil =>
      constructor
      · intro fails
        cases fails
        exact .unknown divider
      · intro offends
        cases offends
        rfl
    | cons frame outer =>
      rw [step_divider]
      exact divide_eq_error

theorem run_eq_ok {events : List Event} {nodes : List Node} :
    run events = .ok nodes ↔ events.foldlM step ⟨[], []⟩ = .ok ⟨nodes, []⟩ := by
  constructor
  · intro ok
    obtain ⟨⟨built, frames⟩, reached, ok⟩ := bind_eq_ok ok
    cases frames with
    | nil => cases ok; exact reached
    | cons frame outer => contradiction
  · intro reached
    rw [run, resume, reached]
    rfl

theorem run_succeeds {events : List Event} : (∃ nodes, run events = .ok nodes) ↔ Complete events := by
  constructor
  · rintro ⟨nodes, ok⟩
    have within : Within events [] := Within.of_run (run_eq_ok.mp ok)
    cases within with
    | outside complete => exact complete
  · rintro ⟨_, marked, nested⟩
    obtain ⟨nodes, _, runs⟩ := nested.runs marked
    exact ⟨nodes, run_eq_ok.mpr (runs ⟨[], []⟩)⟩

theorem marked_of_run {events : List Event} {nodes : List Node} (ok : run events = .ok nodes) :
    Marked events (marks nodes) := by
  obtain ⟨_, marked, nested⟩ := run_succeeds.mp ⟨nodes, ok⟩
  obtain ⟨built, same, runs⟩ := nested.runs marked
  have reached := run_eq_ok.mp ok
  rw [runs, List.nil_append] at reached
  cases reached
  rw [same]
  exact marked

theorem run_fails {events : List Event} {e : ParseError} :
    run events = .error e ↔ FirstFault events e := by
  constructor
  · intro fails
    cases reached : events.foldlM step ⟨[], []⟩ with
    | error fault =>
      rw [run, resume, reached] at fails
      cases fails
      obtain ⟨before, event, after, state, rfl, passed, stuck⟩ := foldlM_eq_error.mp reached
      exact ⟨before, _, .of_run passed, .inl ⟨event, after, rfl, step_eq_error.mp stuck⟩⟩
    | ok state =>
      rw [run, resume, reached, ok_bind] at fails
      have within : Within events state.opened := .of_run reached
      obtain ⟨nodes, frames⟩ := state
      cases frames with
      | nil => contradiction
      | cons frame outer =>
        cases fails
        exact ⟨events, _, within, .inr ⟨rfl, frame.block, _, rfl, rfl⟩⟩
  · rintro ⟨before, blocks, within, fault⟩
    obtain ⟨state, reached, opened⟩ := within.runs
    rcases fault with ⟨event, after, rfl, offends⟩ | ⟨rfl, block, outer, rfl, rfl⟩
    · have stuck := foldlM_eq_error.mpr
        ⟨before, event, after, state, rfl, reached, step_eq_error.mpr (opened ▸ offends)⟩
      rw [run, resume, stuck]
      rfl
    · rw [run, resume, reached, ok_bind]
      obtain ⟨nodes, frames⟩ := state
      cases frames with
      | nil => contradiction
      | cons frame outer => cases opened; rfl

/-- Parsing a template is one pass of the machine, which succeeds exactly if the events are complete. The
tree has their marks in order, and an error is that of the first event that does not fit. A block of code
is one event, up to the first end tag. -/
theorem parse_eq_one_pass (source : List Char) :
    Template.parse source = (run (events source)).map (⟨source, ·⟩) ∧
      ((∃ template, Template.parse source = .ok template) ↔ Complete (events source)) ∧
      (∀ template, Template.parse source = .ok template →
        Marked (events source) (marks template.nodes)) ∧
      (∀ e, Template.parse source = .error e ↔ FirstFault (events source) e) ∧
      ∀ (block : CodeBlock) (opening : Directive) (after text rest : List Char) (event : Event),
        block.read opening after = .ok (event, text, rest) →
          ∃ body, opening.expectBare = .ok () ∧ block.event opening body = .ok event ∧
            text = body ++ block.endTag ∧ after = text ++ rest ∧
            ∀ front back, after = front ++ block.endTag ++ back → body.length ≤ front.length := by
  have parsed : Template.parse source = (run (events source)).map (⟨source, ·⟩) := by
    rw [Template.parse, parseNodes_eq_run]
  refine ⟨parsed, ?_, ?_, ?_, fun _ _ _ _ _ _ => CodeBlock.read_eq_ok⟩
  · rw [← run_succeeds, parsed]
    cases run (events source) with
    | error e => simp [Except.map]
    | ok nodes => simp [Except.map]
  · intro template ok
    rw [parsed] at ok
    cases ran : run (events source) with
    | error e => rw [ran] at ok; contradiction
    | ok nodes =>
      rw [ran] at ok
      cases ok
      exact marked_of_run ran
  · intro e
    rw [← run_fails, parsed]
    cases run (events source) with
    | error fault => simp [Except.map]
    | ok nodes => simp [Except.map]

theorem parse_one_pass_of_loop :
    ∃ template, Template.parse "{{while x}}a{{endwhile}}".toList = .ok template ∧
      Marked (events "{{while x}}a{{endwhile}}".toList) (marks template.nodes) := by
  have parsed : (Template.parse "{{while x}}a{{endwhile}}".toList).toOption.isSome := by decide +kernel
  cases found : Template.parse "{{while x}}a{{endwhile}}".toList with
  | error e => rw [found] at parsed; contradiction
  | ok template => exact ⟨template, rfl, (parse_eq_one_pass _).2.2.1 template found⟩

end Stencil.Machine
