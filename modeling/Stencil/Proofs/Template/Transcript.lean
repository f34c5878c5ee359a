import Mathlib.Tactic.Choose
import Stencil.Proofs.Template.Taking
import Stencil.Template.Compile

/-! Transcripts of runs: the texts that a run offers to its destination, whatever that takes of them. Main
statement: two runs from one scope offer the same texts up to the first refusal, so that output is only ever cut. -/
namespace Stencil

/-- How a run goes on from some point if everything is taken. An offer has the scope in which it is made. -/
inductive Transcript where
  | done (scope : Scope)
  | failed (scope : Scope) (e : RunError)
  | unfinished
  | offer (scope : Scope) (text : List Char) (rest : Transcript)

namespace Transcript

/-- The run with a transcript into a destination. A refusal ends it. -/
def play : Transcript → Destination → Ending
  | done scope, destination => .done ⟨scope, destination⟩
  | failed scope e, destination => .failed ⟨scope, destination⟩ e
  | unfinished, _ => .unfinished
  | offer scope text rest, destination =>
    (Machine.write ⟨scope, destination⟩ text).andThen fun machine => rest.play machine.destination

def andThen : Transcript → (Scope → Transcript) → Transcript
  | done scope, next => next scope
  | failed scope e, _ => failed scope e
  | unfinished, _ => unfinished
  | offer scope text rest, next => offer scope text (rest.andThen next)

def ofEffect : Effect → Transcript
  | (scope, none) => done scope
  | (scope, some e) => failed scope e

/-- The run that goes on with a result, if there is one. -/
def continuing {α : Type} (scope : Scope) (next : α → Transcript) : Except RunError α → Transcript
  | .ok a => next a
  | .error e => failed scope e

def texts : Transcript → List (List Char)
  | offer _ text rest => text :: rest.texts
  | _ => []

/-- The fault that ends the run if everything is taken, missing if the run does not end. -/
def fault? : Transcript → Option (Option RunError)
  | done _ => some none
  | failed _ e => some (some e)
  | unfinished => none
  | offer _ _ rest => rest.fault?

theorem play_andThen (transcript : Transcript) (next : Scope → Transcript) (destination : Destination) :
    (transcript.andThen next).play destination =
      (transcript.play destination).andThen fun machine => (next machine.scope).play machine.destination := by
  induction transcript generalizing destination with
  | done scope => rfl
  | failed scope e => rfl
  | unfinished => rfl
  | offer scope text rest ih =>
    rw [andThen, play, play]
    cases Machine.write ⟨scope, destination⟩ text with
    | done machine => exact ih machine.destination
    | failed machine e => rfl
    | unfinished => rfl

end Transcript

/-- A part of a run that has a transcript from every scope. -/
def Transcribed (run : Machine → Ending) : Prop :=
  ∃ transcript : Scope → Transcript, ∀ machine, run machine = (transcript machine.scope).play machine.destination

namespace Transcribed

variable {run next : Machine → Ending}

theorem done : Transcribed .done := ⟨.done, fun _ => rfl⟩

theorem unfinished : Transcribed fun _ => .unfinished := ⟨fun _ => .unfinished, fun _ => rfl⟩

theorem write (text : List Char) : Transcribed (·.write text) := by
  refine ⟨fun scope => .offer scope text (.done scope), fun machine => ?_⟩
  dsimp only [Transcript.play, Machine.write]
  generalize machine.destination.write text = outcome
  obtain ⟨destination, fault⟩ := outcome
  cases fault <;> rfl

theorem withEffect (effect : Scope → Effect) :
    Transcribed fun machine => machine.withEffect (effect machine.scope) := by
  refine ⟨fun scope => .ofEffect (effect scope), fun machine => ?_⟩
  dsimp only [Machine.withEffect]
  generalize effect machine.scope = outcome
  obtain ⟨scope, fault⟩ := outcome
  cases fault <;> rfl

theorem andThen (first : Transcribed run) (second : Transcribed next) :
    Transcribed fun machine => (run machine).andThen next := by
  obtain ⟨front, plays⟩ := first
  obtain ⟨back, follows⟩ := second
  refine ⟨fun scope => (front scope).andThen back, fun machine => ?_⟩
  dsimp only
  rw [plays, Transcript.play_andThen]
  apply congrArg
  funext between
  exact follows between

theorem continuing {α : Type} (outcome : Scope → Except RunError α) {follow : Machine → α → Ending}
    (transcribed : ∀ a, Transcribed (follow · a)) :
    Transcribed fun machine => machine.continuing (outcome machine.scope) (follow machine) := by
  choose transcript plays using transcribed
  refine ⟨fun scope => .continuing scope (transcript · scope) (outcome scope), fun machine => ?_⟩
  dsimp only [Machine.continuing]
  cases outcome machine.scope with
  | ok a => exact plays a machine
  | error e => rfl

theorem ite (condition : Bool) (first : Transcribed run) (second : Transcribed next) :
    Transcribed fun machine => if condition then run machine else next machine := by
  cases condition with
  | true => exact first
  | false => exact second

theorem execStatements (statements : List Stmt) :
    Transcribed fun machine => Stencil.execStatements machine statements := by
  have same (machine : Machine) : Stencil.execStatements machine statements =
      machine.withEffect
        ((execAll machine.scope statements).1, (execAll machine.scope statements).2.map Prod.snd) := by
    rw [Stencil.execStatements]
    generalize execAll machine.scope statements = outcome
    obtain ⟨scope, fault⟩ := outcome
    cases fault <;> rfl
  simp only [same]
  exact withEffect fun scope => ((execAll scope statements).1, (execAll scope statements).2.map Prod.snd)

theorem repeatWhile (condition : Expr) (body : Transcribed run) (rounds : Nat) :
    Transcribed (Stencil.repeatWhile condition run rounds) := by
  induction rounds with
  | zero => exact unfinished
  | succ rounds ih =>
    apply continuing (condition.eval ·)
    intro value
    exact ite value.isTruthy (body.andThen ih) done

theorem repeatFor (target : Target) (body : Transcribed run) (items : List Value) :
    Transcribed (Stencil.repeatFor target run items) := by
  induction items with
  | nil => exact done
  | cons item rest ih =>
    have bound := withEffect fun scope => target.assign scope item
    exact bound.andThen (body.andThen ih)

mutual
theorem node (rounds : Nat) (node : Node) : Transcribed (runNode rounds node) := by
  match node with
  | .literal text => exact write text
  | .substitute segment => exact continuing segment.filled write
  | .conditional cases otherwise => exact branches rounds cases (last rounds otherwise)
  | .whileLoop condition body => exact repeatWhile condition.parsed (nodes rounds body) rounds
  | .forLoop header body =>
    apply continuing fun scope => do (← header.parsed.iterable.eval scope).items
    exact repeatFor header.parsed.target (nodes rounds body)
  | .script code => exact execStatements code.parsed
  | .eval code => exact continuing (code.parsed.eval ·) fun value => write (valueChars value)

theorem nodes (rounds : Nat) (nodes : List Node) : Transcribed (runNodes rounds nodes) := by
  match nodes with
  | [] => exact done
  | first :: rest => exact (node rounds first).andThen (Transcribed.nodes rounds rest)

theorem branches (rounds : Nat) (branches : List (Code Expr × List Node)) {otherwise : Machine → Ending}
    (final : Transcribed otherwise) : Transcribed (runBranches rounds branches otherwise) := by
  match branches with
  | [] => exact final
  | (condition, body) :: rest =>
    apply continuing (condition.parsed.eval ·)
    intro value
    exact ite value.isTruthy (nodes rounds body) (Transcribed.branches rounds rest final)

theorem last (rounds : Nat) (otherwise : Option (List Node)) : Transcribed (runOtherwise rounds otherwise) := by
  match otherwise with
  | none => exact done
  | some body => exact nodes rounds body
end

end Transcribed

/-- What a run that has ended leaves before its destination is flushed. -/
def Ending.outcome? : Ending → Option RunResult
  | .done machine => some (machine.destination, none)
  | .failed machine e => some (machine.destination, some e)
  | .unfinished => none

theorem Ending.flushed?_eq (ending : Ending) : ending.flushed? =
    ending.outcome?.map fun (destination, fault) => (destination.flush.1, fault.or destination.flush.2) := by
  cases ending with
  | done machine => rfl
  | failed machine e => rfl
  | unfinished => rfl

/-- The texts of a transcript are written up to the first refusal, and only if there is none it ends as it would. -/
theorem Transcript.outcome?_play (transcript : Transcript) {destination after : Destination}
    {fault refusal : Option RunError} (ends : transcript.fault? = some fault)
    (wrote : destination.writeAll transcript.texts = (after, refusal)) :
    (transcript.play destination).outcome? = some (after, refusal.or fault) := by
  induction transcript generalizing destination with
  | done scope =>
    cases wrote
    cases ends
    rfl
  | failed scope e =>
    cases wrote
    cases ends
    rfl
  | unfinished => cases ends
  | offer scope text rest ih =>
    rw [texts, Destination.writeAll] at wrote
    rw [play, Machine.write]
    generalize destination.write text = outcome at wrote
    obtain ⟨next, refused⟩ := outcome
    cases refused with
    | none => exact ih ends wrote
    | some e =>
      cases wrote
      rfl

theorem Transcript.fault?_of_outcome? (transcript : Transcript) {destination : Destination}
    (boundless : destination.Boundless) {last : RunResult}
    (ended : (transcript.play destination).outcome? = some last) : ∃ fault, transcript.fault? = some fault := by
  induction transcript generalizing destination with
  | done scope => exact ⟨none, rfl⟩
  | failed scope e => exact ⟨some e, rfl⟩
  | unfinished => cases ended
  | offer scope text rest ih =>
    obtain ⟨after, wrote, still, _⟩ := boundless.write text
    rw [play, Machine.write, wrote] at ended
    exact ih still ended

namespace Template

/-- A run of a template before its destination is flushed, missing if a loop has more than so many rounds. -/
def outcome? (template : Template) (rounds : Nat) (values : Entries) (destination : Destination) : Option RunResult :=
  (runNodes rounds template.nodes ⟨bindValues values, destination⟩).outcome?

theorem run?_eq (template : Template) (rounds : Nat) (values : Entries) (destination : Destination) :
    template.run? rounds values destination = (template.outcome? rounds values destination).map
      fun (last, fault) => (last.flush.1, fault.or last.flush.2) :=
  Ending.flushed?_eq _

/-- Where a run into a destination that never refuses ends, every other destination is offered the same texts, up
to the first of which it refuses something. It has taken the same bytes, or a first part of them and nothing behind
what it refused. A sink is flushed once in both cases, and the fault of the flush comes last. -/
theorem output_only_cut (template : Template) (values : Entries) {rounds : Nat} {free last : Destination}
    (boundless : free.Boundless) {fault : Option RunError}
    (ended : template.outcome? rounds values free = some (last, fault)) :
    ∃ texts : List (List Char), last.output = free.output ++ texts.flatMap Text.bytes ∧
      ∀ limited : Destination, ∃ after refusal,
        limited.writeAll texts = (after, refusal) ∧
        limited.Writes (texts.flatMap Text.bytes) after refusal ∧
        template.outcome? rounds values limited = some (after, refusal.or fault) ∧
        match limited.channel with
        | .writer => template.run? rounds values limited = some (after, refusal.or fault)
        | .sink sink => template.run? rounds values limited =
            some ({ after with flushes := limited.flushes + 1 },
              (refusal.or fault).or (sink.flushFault.map .io)) := by
  -- All runs play one transcript. The free one tells how it ends, any other only where it is cut.
  obtain ⟨transcript, plays⟩ := Transcribed.nodes rounds template.nodes
  let offered := transcript (bindValues values)
  have played (destination : Destination) : template.outcome? rounds values destination =
      (offered.play destination).outcome? := congrArg Ending.outcome? (plays _)
  rw [played] at ended
  obtain ⟨own, ends⟩ := offered.fault?_of_outcome? boundless ended
  have outcome {destination after : Destination} {refusal : Option RunError}
      (wrote : destination.writeAll offered.texts = (after, refusal)) :
      template.outcome? rounds values destination = some (after, refusal.or own) := by
    rw [played]
    exact offered.outcome?_play ends wrote
  obtain ⟨after, refusal, wrote, writes⟩ := free.writes_writeAll offered.texts
  obtain ⟨rfl, took⟩ := boundless.takes_all writes
  rw [offered.outcome?_play ends wrote] at ended
  cases ended
  refine ⟨offered.texts, took.output, fun limited => ?_⟩
  obtain ⟨after, refusal, wrote, writes⟩ := limited.writes_writeAll offered.texts
  refine ⟨after, refusal, wrote, writes, outcome wrote, ?_⟩
  obtain ⟨front, took⟩ := writes.extends
  have flushed : template.run? rounds values limited =
      some (after.flush.1, (refusal.or own).or after.flush.2) := by
    rw [run?_eq, outcome wrote, Option.map_some]
  rw [flushed]
  cases kind : limited.channel with
  | writer => simp [Destination.flush, took.channel, kind]
  | sink sink => simp [Destination.flush, took.channel, took.flushes, kind]

/-- A sink that takes two bytes in a step, five in all, and fails to flush. -/
theorem output_cut_of_loop : ∃ template last,
    Template.parse "{{for x in range(3)}}a{{x}};{{endfor}}".toList = .ok template ∧
      template.outcome? 0 [] (Destination.writer none) = some (last, none) ∧
      ∃ after refusal, (Destination.toSink ⟨some 2, "full", some "stuck"⟩ (some 5)).Writes last.output after refusal ∧
        template.run? 0 [] (Destination.toSink ⟨some 2, "full", some "stuck"⟩ (some 5)) =
          some ({ after with flushes := 1 }, refusal.or (some (.io "stuck"))) := by
  have ran : ((Template.parse "{{for x in range(3)}}a{{x}};{{endfor}}".toList).toOption.bind
      fun template => template.outcome? 0 [] (Destination.writer none)).map (·.2.isNone) = some true := by
    decide +kernel
  cases found : Template.parse "{{for x in range(3)}}a{{x}};{{endfor}}".toList with
  | error e => rw [found] at ran; cases ran
  | ok template =>
    rw [found] at ran
    obtain ⟨⟨last, fault⟩, ended, succeeds⟩ := Option.map_eq_some_iff.mp ran
    obtain rfl : fault = none := Option.isNone_iff_eq_none.mp succeeds
    obtain ⟨texts, whole, cut⟩ := template.output_only_cut [] Destination.boundless_writer ended
    obtain ⟨after, refusal, _, writes, _, ran⟩ := cut (Destination.toSink ⟨some 2, "full", some "stuck"⟩ (some 5))
    have output : last.output = texts.flatMap Text.bytes := whole
    refine ⟨template, last, rfl, ended, after, refusal, ?_, ?_⟩
    · rw [output]
      exact writes
    · rw [Option.or_none] at ran
      exact ran

end Template

end Stencil
