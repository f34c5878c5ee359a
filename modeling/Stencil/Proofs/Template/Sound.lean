import Stencil.Proofs.Template.Events
import Stencil.Proofs.Template.Machine

/-! Compiled nodes that hold together. Main statement: every template that parses is sound at every depth,
so that validation accepts it and compiling never fails for any other reason than parsing. -/
namespace Stencil

def Node.isText : Node → Bool
  | .literal _ | .substitute _ => true
  | _ => false

mutual
/-- A node without empty text, whose segments hold together at every depth and whose conditionals have a
branch. -/
inductive SoundNode : Node → Prop
  | literal {text : List Char} (any : text ≠ []) : SoundNode (.literal text)
  | substitute {segment : Segment} (sound : segment.Sound) : SoundNode (.substitute segment)
  | conditional {branches : List (Code Expr × List Node)} {otherwise : Option (List Node)}
      (any : branches ≠ []) (bodies : ∀ branch ∈ branches, SoundBody branch.2)
      (last : ∀ body ∈ otherwise, SoundBody body) : SoundNode (.conditional branches otherwise)
  | whileLoop (condition : Code Expr) {body : List Node} (sound : SoundBody body) :
      SoundNode (.whileLoop condition body)
  | forLoop (header : Code ForHeader) {body : List Node} (sound : SoundBody body) :
      SoundNode (.forLoop header body)
  | script (code : Code (List Stmt)) : SoundNode (.script code)
  | eval (code : Code Expr) : SoundNode (.eval code)

/-- A body of sound nodes, of which no two neighbours are text. -/
inductive SoundBody : List Node → Prop
  | body {nodes : List Node} (all : ∀ node ∈ nodes, SoundNode node) (apart : Apart Node.isText nodes) :
      SoundBody nodes
end

theorem SoundBody.nodes {body : List Node} (sound : SoundBody body) : ∀ node ∈ body, SoundNode node := by
  cases sound with
  | body all _ => exact all

theorem Segment.Sound.validate {segment : Segment} (sound : segment.Sound) :
    validatePieces segment.table segment.pieces = .ok () := by
  have known (key : List Char) (member : .slot key ∈ segment.pieces) :
      (segment.table.lookup key).isSome = true := by
    have listed : key ∈ segment.table.map Prod.fst := by
      rw [sound.keys, List.mem_eraseDups]
      exact List.mem_filterMap.mpr ⟨.slot key, member, rfl⟩
    exact (lookup_isSome_iff_mem key segment.table).mpr listed
  generalize segment.pieces = pieces at known
  induction pieces with
  | nil => rfl
  | cons piece rest ih =>
    have later := ih fun key member => known key (List.mem_cons_of_mem _ member)
    cases piece with
    | text literal => exact later
    | slot key =>
      rw [validatePieces, if_pos (known key List.mem_cons_self)]
      exact later

mutual
theorem validateNode_of_sound (node : Node) (sound : SoundNode node) : validateNode node = .ok () := by
  match node, sound with
  | .literal _, _ => rw [validateNode]
  | .substitute _, .substitute sound => rw [validateNode, sound.validate]
  | .conditional branches otherwise, .conditional any bodies last =>
    rw [validateNode, if_neg (by simpa using any), validateBranches_of_sound branches bodies, ok_bind,
      validateOtherwise_of_sound otherwise last]
  | .whileLoop _ body, .whileLoop _ sound => rw [validateNode, validateNodes_of_sound body sound.nodes]
  | .forLoop _ body, .forLoop _ sound => rw [validateNode, validateNodes_of_sound body sound.nodes]
  | .script _, _ => rw [validateNode]
  | .eval _, _ => rw [validateNode]

theorem validateNodes_of_sound (body : List Node) (sound : ∀ node ∈ body, SoundNode node) :
    validateNodes body = .ok () := by
  match body with
  | [] => rw [validateNodes]
  | node :: rest =>
    rw [validateNodes, validateNode_of_sound node (sound node List.mem_cons_self), ok_bind]
    exact validateNodes_of_sound rest fun other member => sound other (List.mem_cons_of_mem _ member)

theorem validateBranches_of_sound (branches : List (Code Expr × List Node))
    (sound : ∀ branch ∈ branches, SoundBody branch.2) : validateBranches branches = .ok () := by
  match branches with
  | [] => rw [validateBranches]
  | (condition, body) :: rest =>
    have first : SoundBody body := sound (condition, body) List.mem_cons_self
    rw [validateBranches, validateNodes_of_sound body first.nodes, ok_bind]
    exact validateBranches_of_sound rest fun other member => sound other (List.mem_cons_of_mem _ member)

theorem validateOtherwise_of_sound (otherwise : Option (List Node))
    (sound : ∀ body ∈ otherwise, SoundBody body) : validateOtherwise otherwise = .ok () := by
  match otherwise with
  | none => rw [validateOtherwise]
  | some body => rw [validateOtherwise, validateNodes_of_sound body (sound body rfl).nodes]
end

theorem Segment.Sound.text_ne_nil {segment : Segment} (sound : segment.Sound)
    (plain : segment.hasSlots = false) : segment.text ≠ [] := by
  obtain ⟨pieces, table⟩ := segment
  cases pieces with
  | nil => exact absurd rfl sound.any
  | cons piece rest =>
    cases piece with
    | slot key => simp [Segment.hasSlots] at plain
    | text literal =>
      cases literal with
      | nil => exact absurd List.mem_cons_self sound.texts
      | cons c literal => simp [Segment.text]

theorem sound_ofParts {parts : List Part} (sound : SoundParts parts) : SoundNode (.ofParts parts) := by
  unfold Node.ofParts
  dsimp only
  split
  next => exact .substitute sound.segment
  next plain => exact .literal (sound.segment.text_ne_nil (by simpa using plain))

theorem soundBody_nil : SoundBody [] := .body (by simp) .nil

theorem SoundBody.append {body : List Node} (sound : SoundBody body) {node : Node}
    (soundNode : SoundNode node)
    (fits : node.isText = true → ∀ last ∈ body.getLast?, last.isText = false) :
    SoundBody (body ++ [node]) := by
  cases sound with
  | body all apart =>
    refine .body (fun other member => ?_) (apart_append.mpr ⟨apart, .singleton node, ?_⟩)
    · rcases List.mem_append.mp member with member | member
      · exact all other member
      · rw [List.mem_singleton.mp member]
        exact soundNode
    · rintro last isLast _ ⟨⟩ ⟨lastText, isText⟩
      rw [fits isText last isLast] at lastText
      cases lastText

namespace Machine

/-- Complete bodies of an open block are sound, and an `else` stands behind a branch. -/
def Gathered.Sound : Gathered → Prop
  | .branches done _ => ∀ branch ∈ done, SoundBody branch.2
  | .otherwise done => done ≠ [] ∧ ∀ branch ∈ done, SoundBody branch.2
  | .whileLoop _ | .forLoop _ => True

structure State.Sound (state : State) : Prop where
  nodes : SoundBody state.nodes
  gathered : ∀ frame ∈ state.frames, frame.gathered.Sound
  before : ∀ frame ∈ state.frames, SoundBody frame.before

theorem Block.sound_start (block : Block) : block.start.Sound := by
  cases block with
  | conditional condition => simp [Block.start, Gathered.Sound]
  | whileLoop condition => trivial
  | forLoop header => trivial

theorem sound_append_branch {done : List (Code Expr × List Node)} {body : List Node}
    (sound : ∀ branch ∈ done, SoundBody branch.2) (soundBody : SoundBody body) (condition : Code Expr) :
    ∀ branch ∈ done ++ [(condition, body)], SoundBody branch.2 := by
  intro branch member
  rcases List.mem_append.mp member with member | member
  · exact sound branch member
  · rw [List.mem_singleton.mp member]
    exact soundBody

theorem Gathered.sound_close {gathered : Gathered} (sound : gathered.Sound) {body : List Node}
    (soundBody : SoundBody body) : SoundNode (gathered.close body) := by
  cases gathered with
  | branches done condition =>
    exact .conditional (by simp) (sound_append_branch sound soundBody condition) (by simp)
  | otherwise done =>
    refine .conditional sound.1 sound.2 ?_
    rintro _ ⟨⟩
    exact soundBody
  | whileLoop condition => exact .whileLoop condition soundBody
  | forLoop header => exact .forLoop header soundBody

theorem Gathered.isText_close (gathered : Gathered) (body : List Node) :
    (gathered.close body).isText = false := by cases gathered <;> rfl

/-- The innermost block takes a body and begins the next one. -/
theorem State.Sound.next {nodes : List Node} {frame : Frame} {outer : List Frame}
    (sound : State.Sound ⟨nodes, frame :: outer⟩) {gathered : Gathered} (soundGathered : gathered.Sound) :
    State.Sound ⟨[], { frame with gathered } :: outer⟩ where
  nodes := soundBody_nil
  gathered := by
    intro other member
    rcases List.mem_cons.mp member with rfl | member
    · exact soundGathered
    · exact sound.gathered other (List.mem_cons_of_mem _ member)
  before := by
    intro other member
    rcases List.mem_cons.mp member with rfl | member
    · exact sound.before frame List.mem_cons_self
    · exact sound.before other (List.mem_cons_of_mem _ member)

theorem sound_divide {divider : Directive} {nodes : List Node} {frame : Frame} {outer : List Frame}
    {next : State} (sound : State.Sound ⟨nodes, frame :: outer⟩)
    (ok : divide divider nodes frame outer = .ok next) :
    next.Sound ∧ ∀ last ∈ next.nodes.getLast?, last.isText = false := by
  have gathered := sound.gathered frame List.mem_cons_self
  obtain ⟨opening, taken, before⟩ := frame
  unfold divide at ok
  split at ok
  next done condition isBranches _ =>
    obtain ⟨code, _, ok⟩ := bind_eq_ok ok
    cases ok
    dsimp only at isBranches gathered
    subst isBranches
    exact ⟨sound.next (sound_append_branch gathered sound.nodes condition), by simp⟩
  next done condition isBranches _ =>
    obtain ⟨_, _, ok⟩ := bind_eq_ok ok
    cases ok
    dsimp only at isBranches gathered
    subst isBranches
    exact ⟨sound.next ⟨by simp, sound_append_branch gathered sound.nodes condition⟩, by simp⟩
  next =>
    split at ok
    next =>
      obtain ⟨_, _, ok⟩ := bind_eq_ok ok
      cases ok
      have closed := Gathered.isText_close taken nodes
      refine ⟨⟨?_, ?_, ?_⟩, ?_⟩
      · refine (sound.before _ List.mem_cons_self).append (Gathered.sound_close gathered sound.nodes) ?_
        intro isText
        rw [closed] at isText
        cases isText
      · exact fun frame member => sound.gathered frame (List.mem_cons_of_mem _ member)
      · exact fun frame member => sound.before frame (List.mem_cons_of_mem _ member)
      · intro last isLast
        rw [List.getLast?_concat] at isLast
        cases isLast
        exact closed
    next => cases ok

/-- One event keeps the state sound. Behind it, text is last only if the event is a segment. -/
theorem sound_step {state next : State} {event : Event} (sound : state.Sound)
    (parts : ∀ parts, event = .segment parts → SoundParts parts)
    (fits : event.isSegment = true → ∀ last ∈ state.nodes.getLast?, last.isText = false)
    (ok : step state event = .ok next) :
    next.Sound ∧ (event.isSegment = false → ∀ last ∈ next.nodes.getLast?, last.isText = false) := by
  have leaf {node : Node} (is : role event = .leaf node) (soundNode : SoundNode node)
      (same : node.isText = event.isSegment) : next.Sound ∧
        (event.isSegment = false → ∀ last ∈ next.nodes.getLast?, last.isText = false) := by
    rw [step_leaf is] at ok
    cases ok
    refine ⟨⟨sound.nodes.append soundNode fun isText => ?_, sound.gathered, sound.before⟩, ?_⟩
    · exact fits (same.symm.trans isText)
    · intro other last isLast
      rw [List.getLast?_concat] at isLast
      cases isLast
      exact same.trans other
  have opens {opening : Directive} {block : Block} (is : role event = .opens opening block) :
      next.Sound ∧ (event.isSegment = false → ∀ last ∈ next.nodes.getLast?, last.isText = false) := by
    rw [step_opens is] at ok
    cases ok
    refine ⟨⟨soundBody_nil, fun frame member => ?_, fun frame member => ?_⟩, by simp⟩
    · rcases List.mem_cons.mp member with rfl | member
      · exact block.sound_start
      · exact sound.gathered frame member
    · rcases List.mem_cons.mp member with rfl | member
      · exact sound.nodes
      · exact sound.before frame member
  cases event with
  | segment pieces =>
    refine leaf rfl (sound_ofParts (parts pieces rfl)) ?_
    unfold Node.ofParts
    dsimp only
    split <;> rfl
  | script code => exact leaf rfl (.script code) rfl
  | eval code => exact leaf rfl (.eval code) rfl
  | conditional opening condition => exact opens rfl
  | whileLoop opening condition => exact opens rfl
  | forLoop opening header => exact opens rfl
  | divider directive =>
    obtain ⟨nodes, frames⟩ := state
    cases frames with
    | nil => cases ok
    | cons frame outer =>
      obtain ⟨soundNext, last⟩ := sound_divide sound ok
      exact ⟨soundNext, fun _ => last⟩
  | invalid e => cases ok

theorem sound_run {events : List Event} {state last : State} (soundEvents : SoundEvents events)
    (sound : state.Sound) (fits : ∀ first ∈ events.head?, first.isSegment = true →
      ∀ node ∈ state.nodes.getLast?, node.isText = false)
    (ok : events.foldlM step state = .ok last) : last.Sound := by
  induction events generalizing state with
  | nil => cases ok; exact sound
  | cons event events ih =>
    obtain ⟨next, stepped, ok⟩ := bind_eq_ok ok
    obtain ⟨neighbour, apart⟩ := List.isChain_cons.mp soundEvents.apart
    obtain ⟨soundNext, behind⟩ := sound_step sound
      (fun parts same => soundEvents.parts parts (same ▸ List.mem_cons_self)) (fits event rfl) stepped
    refine ih ⟨fun parts member => soundEvents.parts parts (List.mem_cons_of_mem _ member), apart⟩
      soundNext (fun first isFirst isSegment => behind ?_) ok
    exact Bool.eq_false_iff.mpr fun both => neighbour first isFirst ⟨both, isSegment⟩

end Machine

theorem sound_parse {source : List Char} {template : Template}
    (parsed : Template.parse source = .ok template) : SoundBody template.nodes := by
  obtain ⟨nodes, built, rfl⟩ := map_eq_ok parsed
  rw [Machine.parseNodes_eq_run] at built
  obtain ⟨⟨nodes', frames⟩, reached, finished⟩ := bind_eq_ok built
  have start : Machine.State.Sound ⟨[], []⟩ := ⟨soundBody_nil, by simp, by simp⟩
  have last := Machine.sound_run (sound_eventsFrom _ _) start (by simp) reached
  cases frames with
  | nil =>
    cases finished
    exact last.nodes
  | cons frame outer => cases finished

theorem compile_of_parse {source : List Char} {template : Template} (parsed : Template.parse source = .ok template) :
    Template.compile source = .ok template := by
  have valid : template.validate = .ok () := validateNodes_of_sound _ (sound_parse parsed).nodes
  simp only [Template.compile, parsed, valid]

/-- Whatever parses is sound at every depth and validates, so compiling fails for no other reason than
parsing. -/
theorem compile_never_composition_error (source : List Char) :
    (∀ e, Template.compile source ≠ .error (.composition e)) ∧
      ∀ template, Template.parse source = .ok template →
        template.validate = .ok () ∧ SoundBody template.nodes := by
  have sound (template : Template) (parsed : Template.parse source = .ok template) :
      template.validate = .ok () ∧ SoundBody template.nodes :=
    ⟨validateNodes_of_sound _ (sound_parse parsed).nodes, sound_parse parsed⟩
  refine ⟨fun e compiled => ?_, sound⟩
  unfold Template.compile at compiled
  cases parsed : Template.parse source with
  | error fault => rw [parsed] at compiled; cases compiled
  | ok template =>
    rw [parsed] at compiled
    dsimp only at compiled
    rw [(sound template parsed).1] at compiled
    cases compiled

theorem sound_of_percent_text : ∃ template, Template.parse "a%{{x}}%".toList = .ok template ∧
    template.validate = .ok () ∧ SoundBody template.nodes := by
  have parsed : (Template.parse "a%{{x}}%".toList).toOption.isSome := by decide +kernel
  cases found : Template.parse "a%{{x}}%".toList with
  | error e => rw [found] at parsed; cases parsed
  | ok template => exact ⟨template, rfl, (compile_never_composition_error _).2 template found⟩

end Stencil
