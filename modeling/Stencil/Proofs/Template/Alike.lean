import Mathlib.Data.List.Induction
import Stencil.Proofs.Expr.Names
import Stencil.Template.Compile

/-! Two runs side by side. Runs of the same nodes keep step if their scopes agree on the names that the nodes
read, if their destinations take and refuse the same texts, and if the second may have as many rounds of each
loop. Main statement: a run depends only on the last bindings of the names that its template reads. -/
namespace Stencil

def Slot.names : Slot → List String
  | .percent => []
  | .code inline => inline.parsed.names

def SubstitutionTable.names : SubstitutionTable → List String
  | [] => []
  | (_, slot) :: rest => slot.names ++ SubstitutionTable.names rest

mutual
def Node.names : Node → List String
  | .literal _ => []
  | .substitute segment => segment.table.names
  | .conditional branches otherwise => namesOfBranches branches ++ namesOfOtherwise otherwise
  | .whileLoop condition body => condition.parsed.names ++ namesOfNodes body
  | .forLoop header body => header.parsed.iterable.names ++ namesOfNodes body
  | .script code => namesOfStatements code.parsed
  | .eval code => code.parsed.names

def namesOfNodes : List Node → List String
  | [] => []
  | node :: rest => node.names ++ namesOfNodes rest

def namesOfBranches : List (Code Expr × List Node) → List String
  | [] => []
  | (condition, body) :: rest => condition.parsed.names ++ (namesOfNodes body ++ namesOfBranches rest)

def namesOfOtherwise : Option (List Node) → List String
  | none => []
  | some body => namesOfNodes body
end

/-- A relation between destinations that take and refuse the same texts. -/
structure Destination.Link (beside : Destination → Destination → Prop) : Prop where
  write {destination other : Destination} (text : List Char) : beside destination other →
    beside (destination.write text).1 (other.write text).1 ∧
      (destination.write text).2 = (other.write text).2

theorem Destination.link_eq : Destination.Link (· = ·) where
  write _ same := by rw [same]; exact ⟨rfl, rfl⟩

/-- What relates two runs: the names that they read, and how their scopes and their destinations are related. -/
structure RunLink where
  names : List String
  alike : Scope → Scope → Prop
  beside : Destination → Destination → Prop
  scopes : Scope.Link names alike
  destinations : Destination.Link beside

namespace RunLink

variable (link : RunLink)

structure Machines (machine other : Machine) : Prop where
  scope : link.alike machine.scope other.scope
  destination : link.beside machine.destination other.destination

/-- The first of two runs has ended as the second, or has not ended. -/
inductive Endings : Ending → Ending → Prop
  | done {machine other : Machine} : link.Machines machine other → Endings (.done machine) (.done other)
  | failed {machine other : Machine} (e : RunError) :
      link.Machines machine other → Endings (.failed machine e) (.failed other e)
  | unfinished (other : Ending) : Endings .unfinished other

variable {link} {machine other : Machine}

theorem Endings.andThen {ending last : Ending} (ended : link.Endings ending last) {next after : Machine → Ending}
    (follow : ∀ machine other, link.Machines machine other → link.Endings (next machine) (after other)) :
    link.Endings (ending.andThen next) (last.andThen after) := by
  cases ended with
  | done related => exact follow _ _ related
  | failed e related => exact .failed e related
  | unfinished last => exact .unfinished _

namespace Machines

variable (related : link.Machines machine other)
include related

theorem continuing {α : Type} {outcome same : Except RunError α} (agree : outcome = same)
    {next after : α → Ending} (follow : ∀ a, link.Endings (next a) (after a)) :
    link.Endings (machine.continuing outcome next) (other.continuing same after) := by
  subst agree
  cases outcome with
  | ok a => exact follow a
  | error e => exact .failed e related

theorem write (text : List Char) : link.Endings (machine.write text) (other.write text) := by
  obtain ⟨taken, same⟩ := link.destinations.write text related.destination
  rw [Machine.write, Machine.write]
  generalize machine.destination.write text = outcome at taken same
  generalize other.destination.write text = outcome' at taken same
  obtain ⟨destination, fault⟩ := outcome
  obtain ⟨destination', fault'⟩ := outcome'
  cases same
  cases fault with
  | none => exact .done ⟨related.scope, taken⟩
  | some e => exact .failed e ⟨related.scope, taken⟩

theorem withEffect {effect same : Effect} (alike : effect.Alike link.alike same) :
    link.Endings (machine.withEffect effect) (other.withEffect same) := by
  obtain ⟨scope, fault⟩ := effect
  obtain ⟨scope', fault'⟩ := same
  obtain ⟨bound, faults⟩ := alike
  cases faults
  cases fault with
  | none => exact .done ⟨bound, related.destination⟩
  | some e => exact .failed e ⟨bound, related.destination⟩

theorem eval {e : Expr} (known : e.names ⊆ link.names) : e.eval machine.scope = e.eval other.scope :=
  link.scopes.eval related.scope known

theorem values {table : SubstitutionTable} (known : table.names ⊆ link.names) :
    table.values machine.scope = table.values other.scope := by
  induction table with
  | nil => rfl
  | cons entry rest ih =>
    obtain ⟨key, slot⟩ := entry
    obtain ⟨first, later⟩ := List.append_subset.mp known
    have same : slot.value machine.scope = slot.value other.scope := by
      cases slot with
      | percent => rfl
      | code inline => rw [Slot.value, Slot.value, related.eval first]
    rw [SubstitutionTable.values, SubstitutionTable.values, same, ih later]

theorem execStatements {statements : List Stmt} (known : namesOfStatements statements ⊆ link.names) :
    link.Endings (Stencil.execStatements machine statements) (Stencil.execStatements other statements) := by
  obtain ⟨bound, faults⟩ := execFrom_alike link.scopes 0 related.scope statements known
  rw [Stencil.execStatements, Stencil.execStatements, execAll, execAll]
  generalize execFrom 0 machine.scope statements = outcome at bound faults
  generalize execFrom 0 other.scope statements = outcome' at bound faults
  obtain ⟨scope, fault⟩ := outcome
  obtain ⟨scope', fault'⟩ := outcome'
  cases faults
  cases fault with
  | none => exact related.withEffect ⟨bound, rfl⟩
  | some failure => exact related.withEffect ⟨bound, rfl⟩

end Machines

section Loops

variable {body body' : Machine → Ending}
  (same : ∀ machine other, link.Machines machine other → link.Endings (body machine) (body' other))
include same

theorem Machines.repeatWhile {condition : Expr} (known : condition.names ⊆ link.names) {rounds more : Nat}
    (fewer : rounds ≤ more) (related : link.Machines machine other) :
    link.Endings (Stencil.repeatWhile condition body rounds machine)
      (Stencil.repeatWhile condition body' more other) := by
  induction rounds generalizing more machine other with
  | zero => exact .unfinished _
  | succ rounds ih =>
    obtain ⟨more, rfl⟩ : ∃ less, more = less + 1 := ⟨more - 1, by omega⟩
    rw [Stencil.repeatWhile, Stencil.repeatWhile]
    apply related.continuing (related.eval known)
    intro value
    split
    · exact (same _ _ related).andThen fun _ _ next => ih (by omega) next
    · exact .done related

theorem Machines.repeatFor (target : Target) (items : List Value) (related : link.Machines machine other) :
    link.Endings (Stencil.repeatFor target body items machine) (Stencil.repeatFor target body' items other) := by
  induction items generalizing machine other with
  | nil => exact .done related
  | cons item rest ih =>
    rw [Stencil.repeatFor, Stencil.repeatFor]
    apply (related.withEffect (target.assign_alike link.scopes related.scope item)).andThen
    intro bound bound' next
    exact (same _ _ next).andThen fun _ _ last => ih last

end Loops

section Nodes

variable {rounds more : Nat}

mutual
theorem Machines.runNode {machine other : Machine} (related : link.Machines machine other)
    (fewer : rounds ≤ more) (node : Node) (known : node.names ⊆ link.names) :
    link.Endings (Stencil.runNode rounds node machine) (Stencil.runNode more node other) := by
  match node with
  | .literal text => exact related.write text
  | .substitute segment =>
    apply related.continuing (by rw [Segment.filled, Segment.filled, related.values known])
    exact related.write
  | .conditional branches otherwise =>
    obtain ⟨tests, last⟩ := List.append_subset.mp known
    exact related.runBranches fewer branches tests fun _ _ next => next.runOtherwise fewer otherwise last
  | .whileLoop condition body =>
    obtain ⟨test, inside⟩ := List.append_subset.mp known
    exact related.repeatWhile (fun _ _ next => next.runNodes fewer body inside) test fewer
  | .forLoop header body =>
    obtain ⟨head, inside⟩ := List.append_subset.mp known
    apply related.continuing (by rw [related.eval head])
    exact fun items => related.repeatFor (fun _ _ next => next.runNodes fewer body inside) _ items
  | .script code => exact related.execStatements known
  | .eval code =>
    apply related.continuing (related.eval known)
    exact fun value => related.write _

theorem Machines.runNodes {machine other : Machine} (related : link.Machines machine other)
    (fewer : rounds ≤ more) (nodes : List Node) (known : namesOfNodes nodes ⊆ link.names) :
    link.Endings (Stencil.runNodes rounds nodes machine) (Stencil.runNodes more nodes other) := by
  match nodes with
  | [] => exact .done related
  | node :: rest =>
    obtain ⟨first, later⟩ := List.append_subset.mp known
    exact (related.runNode fewer node first).andThen fun _ _ next => next.runNodes fewer rest later

theorem Machines.runBranches {machine other : Machine} (related : link.Machines machine other)
    (fewer : rounds ≤ more) (branches : List (Code Expr × List Node)) (known : namesOfBranches branches ⊆ link.names)
    {otherwise last : Machine → Ending}
    (same : ∀ machine other, link.Machines machine other → link.Endings (otherwise machine) (last other)) :
    link.Endings (Stencil.runBranches rounds branches otherwise machine)
      (Stencil.runBranches more branches last other) := by
  match branches with
  | [] => exact same _ _ related
  | (condition, body) :: rest =>
    obtain ⟨test, bodies⟩ := List.append_subset.mp known
    obtain ⟨inside, later⟩ := List.append_subset.mp bodies
    apply related.continuing (related.eval test)
    intro value
    split
    · exact related.runNodes fewer body inside
    · exact related.runBranches fewer rest later same

theorem Machines.runOtherwise {machine other : Machine} (related : link.Machines machine other)
    (fewer : rounds ≤ more) (otherwise : Option (List Node)) (known : namesOfOtherwise otherwise ⊆ link.names) :
    link.Endings (Stencil.runOtherwise rounds otherwise machine) (Stencil.runOtherwise more otherwise other) := by
  match otherwise with
  | none => exact .done related
  | some body => exact related.runNodes fewer body known
end

end Nodes

variable (link) in
theorem runs_alike {rounds more : Nat} (fewer : rounds ≤ more) (nodes : List Node)
    (known : namesOfNodes nodes ⊆ link.names) (related : link.Machines machine other) :
    link.Endings (runNodes rounds nodes machine) (runNodes more nodes other) :=
  related.runNodes fewer nodes known

theorem done_alike {rounds more : Nat} (fewer : rounds ≤ more) {nodes : List Node}
    (known : namesOfNodes nodes ⊆ link.names) (related : link.Machines machine other) {after : Machine}
    (ran : runNodes rounds nodes machine = .done after) :
    ∃ last, runNodes more nodes other = .done last ∧ link.Machines after last := by
  have ended := link.runs_alike fewer nodes known related
  rw [ran] at ended
  generalize runNodes more nodes other = ending at ended
  cases ended with
  | done behind => exact ⟨_, rfl, behind⟩

end RunLink

section Bindings

/-- The value that is last in the list among those under a name. -/
def lastBinding (values : Entries) (name : String) : Option Value := values.reverse.lookup name

theorem get_bindValues (values : Entries) (name : String) :
    (bindValues values).get? name = if isIdentifier name then lastBinding values name else none := by
  induction values using List.reverseRecOn with
  | nil => simp [bindValues, Scope.get?, Scope.empty, lastBinding]
  | append_singleton before entry ih =>
    obtain ⟨key, value⟩ := entry
    have last : lastBinding (before ++ [(key, value)]) name =
        if name = key then some value else lastBinding before name := by
      simp only [lastBinding, List.reverse_append, List.reverse_singleton, List.singleton_append, List.lookup_cons]
      by_cases same : name = key
      · simp [same]
      · have differs : (name == key) = false := by simpa using same
        simp [same, differs]
    have bound : bindValues (before ++ [(key, value)]) =
        if isIdentifier key then (bindValues before).bind key value else bindValues before := by
      simp only [bindValues, List.foldl_append, List.foldl_cons, List.foldl_nil]
    rw [bound, last]
    by_cases same : name = key
    · subst same
      by_cases valid : isIdentifier name
      · simpa [valid, Scope.get?, Scope.bind] using lookup_put_self name value (bindValues before)
      · simpa [valid] using ih
    · by_cases valid : isIdentifier key
      · simpa [valid, same, Scope.get?, Scope.bind, lookup_put_of_ne same] using ih
      · simpa [valid, same] using ih

theorem bindValues_agreeOn {names : List String} {values others : Entries}
    (same : ∀ name ∈ names, isIdentifier name → lastBinding values name = lastBinding others name) :
    Scope.AgreeOn names (bindValues values) (bindValues others) := by
  intro name member
  rw [get_bindValues, get_bindValues]
  by_cases valid : isIdentifier name
  · rw [same name member valid]
  · rw [if_neg valid, if_neg valid]

end Bindings

/-- The runs of a noninterference statement: scopes that agree on some names, and one destination. -/
def agreeing (names : List String) : RunLink :=
  ⟨names, Scope.AgreeOn names, (· = ·), Scope.link_agreeOn names, Destination.link_eq⟩

theorem flushed_agreeing {names : List String} {ending other : Ending}
    (there : (agreeing names).Endings ending other) (back : (agreeing names).Endings other ending) :
    ending.flushed? = other.flushed? := by
  cases there with
  | done related => rw [Ending.flushed?, Ending.flushed?, related.destination]
  | failed e related => rw [Ending.flushed?, Ending.flushed?, related.destination]
  | unfinished _ =>
    cases back with
    | unfinished _ => rfl

def Template.names (template : Template) : List String := namesOfNodes template.nodes

/-- A run gives the same output and ends in the same way, by whatever error, from any two lists of values in
which the names that the template reads are last bound to the same values or not bound. -/
theorem Template.run_of_same_bindings (template : Template) (values others : Entries)
    (same : ∀ name ∈ template.names, isIdentifier name → lastBinding values name = lastBinding others name)
    (rounds : Nat) (destination : Destination) :
    template.run? rounds values destination = template.run? rounds others destination := by
  have agree := bindValues_agreeOn same
  have alike {machine other : Machine} (related : (agreeing template.names).Machines machine other) :=
    RunLink.runs_alike _ (Nat.le_refl rounds) template.nodes (List.Subset.refl _) related
  exact flushed_agreeing (alike ⟨agree, rfl⟩) (alike ⟨agree.symm, rfl⟩)

/-- The loop variables are bound before they are read, so that a value may be missing for one of them. -/
theorem Template.run_of_same_bindings_of_loop : ∃ template,
    Template.parse "{{for a, b in pairs}}{{len(a) * n}}{{endfor}}".toList = .ok template ∧
      template.names = ["pairs", "len", "a", "n"] ∧
      template.run? 3 [("n", .int 2), ("pairs", .list [.tuple [.str "xy", .null]]), ("b", .null), ("n", .int 3)]
          (Destination.writer none) =
        template.run? 3 [("not a name", .null), ("n", .int 3), ("pairs", .list [.tuple [.str "xy", .null]])]
          (Destination.writer none) := by
  have named : (Template.parse "{{for a, b in pairs}}{{len(a) * n}}{{endfor}}".toList).toOption.map
      Template.names = some ["pairs", "len", "a", "n"] := by decide +kernel
  cases found : Template.parse "{{for a, b in pairs}}{{len(a) * n}}{{endfor}}".toList with
  | error e => rw [found] at named; cases named
  | ok template =>
    have names : template.names = ["pairs", "len", "a", "n"] := by
      rw [found] at named
      exact Option.some.inj named
    refine ⟨template, rfl, names, Template.run_of_same_bindings template _ _ ?_ 3 _⟩
    intro name member _
    rw [names] at member
    simp only [List.mem_cons, List.not_mem_nil, or_false] at member
    rcases member with rfl | rfl | rfl | rfl <;> rfl

end Stencil
