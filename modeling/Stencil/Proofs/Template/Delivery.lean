import Stencil.Proofs.Template.Alike
import Stencil.Proofs.Template.Filling
import Stencil.Proofs.Template.Taking
import Stencil.Proofs.Text.Utf8
import Stencil.Template.Compile

/-! Runs that succeed, whatever number of rounds they need. Main statements: what nodes write does not depend
on what has been written before, so that runs can be put one behind the other; a text node writes its parts, and
a template of one node renders to what the node writes. -/
namespace Stencil

namespace Destination

/-- Two such writers that have taken the same texts since they held these bytes. -/
structure Since (first second : List UInt8) (destination other : Destination) : Prop where
  left : destination.Boundless
  right : other.Boundless
  taken : ∃ bytes, destination.output = first ++ bytes ∧ other.output = second ++ bytes

theorem link_since (first second : List UInt8) : Link (Since first second) where
  write := by
    intro destination other text since
    obtain ⟨bytes, left, right⟩ := since.taken
    obtain ⟨after, wrote, boundless, behind⟩ := since.left.write text
    obtain ⟨after', wrote', boundless', behind'⟩ := since.right.write text
    rw [wrote, wrote']
    refine ⟨⟨boundless, boundless', bytes ++ Text.bytes text, ?_, ?_⟩, rfl⟩
    · rw [behind, left, List.append_assoc]
    · rw [behind', right, List.append_assoc]

end Destination

/-- Runs from one scope to writers that may have taken other texts before. -/
def writing (names : List String) (first second : List UInt8) : RunLink :=
  ⟨names, (· = ·), Destination.Since first second, Scope.link_eq names, Destination.link_since first second⟩

def repeating (names : List String) : RunLink :=
  ⟨names, (· = ·), (· = ·), Scope.link_eq names, Destination.link_eq⟩

theorem run_with_more_rounds {rounds more : Nat} (fewer : rounds ≤ more) {nodes : List Node}
    {machine after : Machine} (ran : runNodes rounds nodes machine = .done after) :
    runNodes more nodes machine = .done after := by
  have start : (repeating (namesOfNodes nodes)).Machines machine machine := ⟨rfl, rfl⟩
  obtain ⟨⟨_, _⟩, again, ⟨rfl, rfl⟩⟩ := RunLink.done_alike fewer (List.Subset.refl _) start ran
  exact again

/-- A run that succeeds writes the same behind what any other writer has taken. -/
theorem run_behind {rounds : Nat} {nodes : List Node} {scope after : Scope}
    {destination last other : Destination} (boundless : destination.Boundless) (boundless' : other.Boundless)
    (ran : runNodes rounds nodes ⟨scope, destination⟩ = .done ⟨after, last⟩) :
    ∃ last' bytes, runNodes rounds nodes ⟨scope, other⟩ = .done ⟨after, last'⟩ ∧ last.Boundless ∧
      last'.Boundless ∧ last.output = destination.output ++ bytes ∧ last'.output = other.output ++ bytes := by
  have start : (writing (namesOfNodes nodes) destination.output other.output).Machines ⟨scope, destination⟩
      ⟨scope, other⟩ := ⟨rfl, boundless, boundless', [], by simp, by simp⟩
  obtain ⟨⟨_, last'⟩, again, ⟨rfl, since⟩⟩ :=
    RunLink.done_alike (Nat.le_refl rounds) (List.Subset.refl _) start ran
  obtain ⟨bytes, left, right⟩ := since.taken
  exact ⟨last', bytes, again, since.left, since.right, left, right⟩

/-- Running the nodes from a scope succeeds with this output and leaves this scope. -/
def Delivers (nodes : List Node) (scope : Scope) (output : List UInt8) (after : Scope) : Prop :=
  ∃ rounds destination, runNodes rounds nodes ⟨scope, .writer none⟩ = .done ⟨after, destination⟩ ∧
    destination.output = output

theorem runNodes_append (rounds : Nat) (front back : List Node) (machine : Machine) :
    runNodes rounds (front ++ back) machine = (runNodes rounds front machine).andThen (runNodes rounds back) := by
  induction front generalizing machine with
  | nil => rw [List.nil_append, runNodes]; rfl
  | cons node rest ih =>
    rw [List.cons_append, runNodes, runNodes]
    cases runNode rounds node machine with
    | done machine => exact ih machine
    | failed machine e => rfl
    | unfinished => rfl

theorem andThen_eq_done {ending : Ending} {next : Machine → Ending} {after : Machine}
    (done : ending.andThen next = .done after) : ∃ between, ending = .done between ∧ next between = .done after := by
  cases ending with
  | done between => exact ⟨between, rfl, done⟩
  | failed machine e => cases done
  | unfinished => cases done

theorem delivers_of_run {rounds : Nat} {nodes : List Node} {scope after : Scope} {destination last : Destination}
    (boundless : destination.Boundless) (ran : runNodes rounds nodes ⟨scope, destination⟩ = .done ⟨after, last⟩) :
    last.Boundless ∧ ∃ output, last.output = destination.output ++ output ∧ Delivers nodes scope output after := by
  obtain ⟨alone, output, again, boundless', _, whole, own⟩ :=
    run_behind boundless Destination.boundless_writer ran
  exact ⟨boundless', output, whole, rounds, alone, again, own⟩

/-- What nodes deliver, they write to every destination that takes it. -/
theorem Delivers.run {nodes : List Node} {scope after : Scope} {output : List UInt8}
    (delivers : Delivers nodes scope output after) {destination : Destination}
    (boundless : destination.Boundless) : ∃ rounds last,
      runNodes rounds nodes ⟨scope, destination⟩ = .done ⟨after, last⟩ ∧ last.Boundless ∧
        last.output = destination.output ++ output := by
  obtain ⟨rounds, alone, ran, rfl⟩ := delivers
  obtain ⟨last, _, again, _, boundless', own, whole⟩ := run_behind Destination.boundless_writer boundless ran
  exact ⟨rounds, last, again, boundless', by rw [whole, own]; rfl⟩

/-- Nodes one behind the other succeed if each do from where the first ones end, and write one output behind the
other. -/
theorem delivers_append {front back : List Node} {scope after : Scope} {output : List UInt8} :
    Delivers (front ++ back) scope output after ↔ ∃ first between second,
      Delivers front scope first between ∧ Delivers back between second after ∧ output = first ++ second := by
  constructor
  · rintro ⟨rounds, last, ran, rfl⟩
    rw [runNodes_append] at ran
    obtain ⟨⟨between, middle⟩, ran, later⟩ := andThen_eq_done ran
    obtain ⟨boundless, output, whole, first⟩ := delivers_of_run Destination.boundless_writer ran
    obtain ⟨_, more, behind, second⟩ := delivers_of_run boundless later
    exact ⟨output, between, more, first, second, by rw [behind, whole]; rfl⟩
  · rintro ⟨_, between, _, first, second, rfl⟩
    obtain ⟨rounds, middle, ran, boundless, whole⟩ := first.run Destination.boundless_writer
    obtain ⟨more, last, later, _, behind⟩ := second.run boundless
    refine ⟨max rounds more, last, ?_, by rw [behind, whole]; rfl⟩
    rw [runNodes_append, run_with_more_rounds (Nat.le_max_left rounds more) ran]
    exact run_with_more_rounds (Nat.le_max_right rounds more) later

theorem delivers_nil {scope after : Scope} {output : List UInt8} :
    Delivers [] scope output after ↔ output = [] ∧ after = scope := by
  constructor
  · rintro ⟨rounds, destination, ran, rfl⟩
    cases ran
    exact ⟨rfl, rfl⟩
  · rintro ⟨rfl, rfl⟩
    exact ⟨0, _, rfl, rfl⟩

theorem fillParts_texts {parts : List Part} (texts : ∀ part ∈ parts, part.slot? = none) (scope : Scope) :
    fillParts scope parts = .ok (Segment.ofParts parts).text := by
  induction parts with
  | nil => rfl
  | cons part rest ih =>
    have later := ih fun other member => texts other (List.mem_cons_of_mem part member)
    cases part with
    | text literal =>
      rw [fillParts, Part.filled, ok_bind, later]
      rfl
    | percent => cases texts _ List.mem_cons_self
    | code inline => cases texts _ List.mem_cons_self

theorem slot?_of_plain {parts : List Part} (plain : ¬ (Segment.ofParts parts).hasSlots = true) :
    ∀ part ∈ parts, part.slot? = none := by
  intro part member
  have piece : part.piece ∈ (Segment.ofParts parts).pieces := List.mem_map_of_mem member
  cases part with
  | text literal => rfl
  | percent => exact absurd (List.any_eq_true.mpr ⟨_, piece, rfl⟩) plain
  | code inline => exact absurd (List.any_eq_true.mpr ⟨_, piece, rfl⟩) plain

theorem runNode_ofParts (rounds : Nat) {parts : List Part} (parsed : ∀ part ∈ parts, part.Parsed)
    (machine : Machine) : runNode rounds (Node.ofParts parts) machine =
      machine.continuing (fillParts machine.scope parts) machine.write := by
  rw [Node.ofParts]
  split
  next => rw [runNode, filled_ofParts parts parsed]
  next plain =>
    rw [runNode, fillParts_texts (slot?_of_plain plain)]
    rfl

/-- A node that writes the text of something that may fail renders to that text. -/
theorem render?_of_write {node : Node} (text : Scope → Except RunError (List Char)) {rounds : Nat}
    (writes : ∀ machine, runNode rounds node machine = machine.continuing (text machine.scope) machine.write)
    (source : List Char) (values : Entries) :
    Template.render? ⟨source, [node]⟩ rounds values = some (text (bindValues values)) := by
  rw [Template.render?, Template.run?, run?, runNodes, writes]
  dsimp only
  cases text (bindValues values) with
  | error e => rfl
  | ok written =>
    have output : Destination.text ⟨.writer, Destination.exceeds none, [Text.bytes written], 0⟩ = written := by
      simp [Destination.text, Destination.output, Text.decode_bytes, Except.toOption]
    exact congrArg (fun shown => some (Except.ok shown)) output

theorem delivers_ofParts {parts : List Part} (parsed : ∀ part ∈ parts, part.Parsed) {scope after : Scope}
    {output : List UInt8} : Delivers [Node.ofParts parts] scope output after ↔
      ∃ text, fillParts scope parts = .ok text ∧ output = Text.bytes text ∧ after = scope := by
  have run (rounds : Nat) : runNodes rounds [Node.ofParts parts] ⟨scope, .writer none⟩ =
      (Machine.continuing ⟨scope, .writer none⟩ (fillParts scope parts)
        (Machine.write ⟨scope, .writer none⟩)).andThen .done := by
    rw [runNodes, runNode_ofParts rounds parsed]
    rfl
  constructor
  · rintro ⟨rounds, destination, ran, rfl⟩
    rw [run] at ran
    cases filled : fillParts scope parts with
    | error e => rw [filled] at ran; cases ran
    | ok text =>
      rw [filled] at ran
      cases ran
      exact ⟨text, rfl, by simp [Destination.output, Destination.writer], rfl⟩
  · rintro ⟨text, filled, rfl, rfl⟩
    refine ⟨0, _, (run 0).trans (by rw [filled]; rfl), by simp [Destination.output, Destination.writer]⟩

theorem delivers_joined {front back : List Part} (first : ∀ part ∈ front, part.Parsed)
    (second : ∀ part ∈ back, part.Parsed) {whole : List Part} (parsed : ∀ part ∈ whole, part.Parsed)
    (same : ∀ scope, fillParts scope whole = fillParts scope (front ++ back)) {scope between after : Scope}
    {output more : List UInt8} (left : Delivers [Node.ofParts front] scope output between)
    (right : Delivers [Node.ofParts back] between more after) :
    Delivers [Node.ofParts whole] scope (output ++ more) after := by
  obtain ⟨text, filled, rfl, rfl⟩ := (delivers_ofParts first).mp left
  obtain ⟨text', filled', rfl, rfl⟩ := (delivers_ofParts second).mp right
  refine (delivers_ofParts parsed).mpr ⟨text ++ text', ?_, ?_, rfl⟩
  · rw [same, fillParts_append, filled, ok_bind, filled', ok_bind]
    rfl
  · simp [Text.bytes]

end Stencil
