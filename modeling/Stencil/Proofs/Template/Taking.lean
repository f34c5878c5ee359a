import Stencil.Template.Destination

/-! What destinations take. Main statements: a destination takes a first part of what it is offered and refuses
what follows, or takes all of it; and nothing changes about it but what it has taken. -/
namespace Stencil

namespace Sink

theorem piece_append (sink : Sink) (data : List UInt8) :
    sink.piece data ++ data.drop (sink.piece data).length = data := by
  unfold piece
  split
  next => simp
  next step _ =>
    rcases Nat.le_total step data.length with inside | beyond
    · simp [Nat.min_eq_left inside]
    · simp [List.take_of_length_le beyond]

theorem piece_ne_nil {sink : Sink} (moving : sink.step ≠ some 0) {data : List UInt8} (any : data ≠ []) :
    sink.piece data ≠ [] := by
  unfold piece
  split
  next => exact any
  next step stepped =>
    have positive : step ≠ 0 := fun zero => moving (zero ▸ stepped)
    simp [any, positive]

end Sink

namespace Destination

variable {start middle destination after : Destination} {front data : List UInt8}

/-- The same destination after it has taken these bytes, in whatever pieces. -/
def Extends (start after : Destination) (data : List UInt8) : Prop :=
  ∃ pieces, after = { start with taken := pieces ++ start.taken } ∧ pieces.reverse.flatten = data

theorem extends_self (destination : Destination) : destination.Extends destination [] := ⟨[], rfl, rfl⟩

theorem Extends.trans (first : start.Extends middle front) (second : middle.Extends after data) :
    start.Extends after (front ++ data) := by
  obtain ⟨pieces, rfl, rfl⟩ := first
  obtain ⟨more, rfl, rfl⟩ := second
  refine ⟨more ++ pieces, ?_, ?_⟩
  · simp
  · simp

theorem Extends.output (took : start.Extends after data) : after.output = start.output ++ data := by
  obtain ⟨pieces, rfl, rfl⟩ := took
  simp [Destination.output]

theorem Extends.channel (took : start.Extends after data) : after.channel = start.channel := by
  obtain ⟨pieces, rfl, _⟩ := took
  rfl

theorem Extends.flushes (took : start.Extends after data) : after.flushes = start.flushes := by
  obtain ⟨pieces, rfl, _⟩ := took
  rfl

theorem extends_of_take? (took : destination.take? data = some after) : destination.Extends after data := by
  unfold take? at took
  split at took
  next => contradiction
  next =>
    cases took
    exact ⟨[data], rfl, by simp⟩

/-- The destination takes nothing of what it is offered next, and this is its fault. -/
inductive Refuses (destination : Destination) (data : List UInt8) : RunError → Prop
  | writer (kind : destination.channel = .writer) (declined : destination.take? data = none) :
      Refuses destination data (.write writerFault)
  | sink {sink : Sink} (kind : destination.channel = .sink sink)
      (declined : destination.take? (sink.piece data) = none) : Refuses destination data (.io sink.full)
  | stalled {sink : Sink} (kind : destination.channel = .sink sink) (any : data ≠ [])
      (nothing : sink.piece data = []) : Refuses destination data (.io stalledFault)

/-- Writing has ended: all has been taken, or a first part of it and nothing behind what was refused. -/
inductive Writes (start : Destination) (data : List UInt8) : Destination → Option RunError → Prop
  | whole {after : Destination} (took : start.Extends after data) : Writes start data after none
  | cut {after : Destination} {front refused rest : List UInt8} {e : RunError}
      (split : data = front ++ refused ++ rest) (took : start.Extends after front)
      (refuses : after.Refuses refused e) : Writes start data after (some e)

theorem Writes.behind {fault : Option RunError} (took : start.Extends middle front)
    (wrote : Writes middle data after fault) : Writes start (front ++ data) after fault := by
  cases wrote with
  | whole more => exact .whole (took.trans more)
  | @cut first refused rest _ split more refuses =>
    have whole : front ++ data = front ++ first ++ refused ++ rest := by
      rw [split]
      simp
    exact .cut whole (took.trans more) refuses

theorem Writes.before {e : RunError} (wrote : Writes start data after (some e)) (rest : List UInt8) :
    Writes start (data ++ rest) after (some e) := by
  cases wrote with
  | @cut first refused unsaid _ split took refuses =>
    have longer : data ++ rest = first ++ refused ++ (unsaid ++ rest) := by
      rw [split, List.append_assoc]
    exact .cut longer took refuses

theorem Writes.extends {fault : Option RunError} (wrote : Writes start data after fault) :
    ∃ front, start.Extends after front := by
  cases wrote with
  | whole took => exact ⟨data, took⟩
  | cut split took refuses => exact ⟨_, took⟩

theorem writes_refused {e : RunError} (took : start.Extends after []) (refuses : after.Refuses data e) :
    Writes start data after (some e) := by
  have split : data = [] ++ data ++ [] := by simp
  exact .cut split took refuses

theorem writeSteps_succ (sink : Sink) (fuel : Nat) (destination : Destination) (any : data ≠ []) :
    writeSteps sink (fuel + 1) destination data =
      match destination.take? (sink.piece data) with
      | none => (destination, some (.io sink.full))
      | some after =>
        if (sink.piece data).isEmpty then (after, some (.io stalledFault))
        else writeSteps sink fuel after (data.drop (sink.piece data).length) :=
  writeSteps.eq_3 sink destination data fuel any

theorem writes_steps {sink : Sink} (kind : destination.channel = .sink sink) {fuel : Nat}
    (enough : data.length < fuel) : ∃ after fault,
      writeSteps sink fuel destination data = (after, fault) ∧ Writes destination data after fault := by
  -- Every step takes a piece that is not empty, so that the fuel lasts for what is left of the data.
  induction fuel generalizing destination data with
  | zero => omega
  | succ fuel ih =>
    by_cases any : data = []
    · subst any
      exact ⟨destination, none, by rw [writeSteps], .whole (extends_self destination)⟩
    rw [writeSteps_succ sink fuel destination any]
    cases took : destination.take? (sink.piece data) with
    | none => exact ⟨_, _, rfl, writes_refused (extends_self destination) (.sink kind took)⟩
    | some next =>
      have grown := extends_of_take? took
      have sameKind : next.channel = .sink sink := grown.channel.trans kind
      by_cases nothing : sink.piece data = []
      · rw [nothing] at grown
        refine ⟨next, _, ?_, writes_refused grown (.stalled sameKind any nothing)⟩
        simp [nothing]
      · have shorter : (data.drop (sink.piece data).length).length < fuel := by
          have piece := List.length_pos_iff.mpr nothing
          have whole := List.length_pos_iff.mpr any
          rw [List.length_drop]
          omega
        obtain ⟨after, fault, wrote, writes⟩ := ih sameKind shorter
        have whole := Writes.behind grown writes
        rw [sink.piece_append] at whole
        exact ⟨after, fault, by simpa [nothing] using wrote, whole⟩

theorem writes_write (destination : Destination) (text : List Char) : ∃ after fault,
    destination.write text = (after, fault) ∧ Writes destination (Text.bytes text) after fault := by
  unfold write
  cases kind : destination.channel with
  | writer =>
    dsimp only
    cases took : destination.take? (Text.bytes text) with
    | none => exact ⟨_, _, rfl, writes_refused (extends_self destination) (.writer kind took)⟩
    | some after => exact ⟨after, none, rfl, .whole (extends_of_take? took)⟩
  | sink sink => exact writes_steps kind (Nat.lt_succ_self _)

/-- Writes texts one after another, up to the first of which something is refused. -/
def writeAll : Destination → List (List Char) → Destination × Option RunError
  | destination, [] => (destination, none)
  | destination, text :: rest =>
    match destination.write text with
    | (after, none) => after.writeAll rest
    | (after, some e) => (after, some e)

theorem writes_writeAll (destination : Destination) (texts : List (List Char)) : ∃ after fault,
    destination.writeAll texts = (after, fault) ∧
      Writes destination (texts.flatMap Text.bytes) after fault := by
  induction texts generalizing destination with
  | nil => exact ⟨destination, none, rfl, .whole (extends_self destination)⟩
  | cons text rest ih =>
    obtain ⟨next, fault, wrote, writes⟩ := destination.writes_write text
    rw [writeAll, wrote, List.flatMap_cons]
    cases writes with
    | whole took =>
      obtain ⟨after, fault, behind, more⟩ := ih next
      exact ⟨after, fault, behind, more.behind took⟩
    | cut split took refuses => exact ⟨next, _, rfl, (Writes.cut split took refuses).before _⟩

/-- A destination that takes every text: it declines nothing, and a byte sink never stalls. -/
structure Boundless (destination : Destination) : Prop where
  willing : ∀ taken piece, destination.declines taken piece = false
  moving : ∀ sink, destination.channel = .sink sink → sink.step ≠ some 0

theorem boundless_writer : (Destination.writer none).Boundless := ⟨fun _ _ => rfl, nofun⟩

namespace Boundless

theorem extended (boundless : start.Boundless) (took : start.Extends after data) : after.Boundless := by
  obtain ⟨pieces, rfl, _⟩ := took
  exact ⟨boundless.willing, boundless.moving⟩

theorem not_refuses (boundless : destination.Boundless) {e : RunError} : ¬ destination.Refuses data e := by
  have takes (piece : List UInt8) : destination.take? piece ≠ none := by
    simp [take?, boundless.willing]
  intro refuses
  cases refuses with
  | writer kind declined => exact takes _ declined
  | sink kind declined => exact takes _ declined
  | stalled kind any nothing => exact Sink.piece_ne_nil (boundless.moving _ kind) any nothing

theorem takes_all (boundless : start.Boundless) {fault : Option RunError}
    (writes : Writes start data after fault) : fault = none ∧ start.Extends after data := by
  cases writes with
  | whole took => exact ⟨rfl, took⟩
  | cut split took refuses => exact absurd refuses (boundless.extended took).not_refuses

theorem write (boundless : destination.Boundless) (text : List Char) :
    ∃ after, destination.write text = (after, none) ∧ after.Boundless ∧
      after.output = destination.output ++ Text.bytes text := by
  obtain ⟨after, fault, wrote, writes⟩ := destination.writes_write text
  obtain ⟨rfl, took⟩ := boundless.takes_all writes
  exact ⟨after, wrote, boundless.extended took, took.output⟩

end Boundless

end Destination

end Stencil
