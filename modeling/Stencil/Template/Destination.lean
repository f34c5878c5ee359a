import Stencil.RunError
import Stencil.Text.Utf8

/-! Destinations of the output of a run. A destination may decline what it is offered, as one with a
capacity does. A text writer takes or refuses a text as a whole, a byte sink takes it in steps. -/
namespace Stencil

/-- How a byte sink takes its input: at most so many bytes in a step, if there is a limit. It names
its faults itself. -/
structure Sink where
  step : Option Nat
  full : String
  flushFault : Option String

/-- What a sink is offered in a step of what is left to write. -/
def Sink.piece (sink : Sink) (data : List UInt8) : List UInt8 :=
  match sink.step with
  | none => data
  | some step => data.take step

inductive Channel where
  | writer
  | sink (sink : Sink)

structure Destination where
  channel : Channel
  /-- Whether the destination declines what it is offered, by what it has taken before. -/
  declines : List (List UInt8) → List UInt8 → Bool
  /-- What the destination has taken, last write first. -/
  taken : List (List UInt8)
  /-- How often the destination has been flushed. -/
  flushes : Nat

/-- The fault of a text writer that refuses a text. -/
def writerFault : String := "an error occurred when formatting an argument"

/-- The fault of a byte sink that takes nothing of what is left to write. -/
def stalledFault : String := "failed to write whole buffer"

namespace Destination

/-- Declines what would bring the destination above its capacity, if it has one. -/
def exceeds (capacity : Option Nat) (taken : List (List UInt8)) (piece : List UInt8) : Bool :=
  capacity.any fun bytes => bytes < taken.flatten.length + piece.length

def writer (capacity : Option Nat) : Destination := ⟨.writer, exceeds capacity, [], 0⟩

def toSink (sink : Sink) (capacity : Option Nat) : Destination := ⟨.sink sink, exceeds capacity, [], 0⟩

def output (destination : Destination) : List UInt8 := destination.taken.reverse.flatten

def text (destination : Destination) : List Char := (Text.decode destination.output).toOption.getD []

def take? (destination : Destination) (piece : List UInt8) : Option Destination :=
  if destination.declines destination.taken piece then none
  else some { destination with taken := piece :: destination.taken }

def writeSteps (sink : Sink) : Nat → Destination → List UInt8 → Destination × Option RunError
  | _, destination, [] => (destination, none)
  | 0, destination, _ => (destination, some (.io stalledFault))
  | fuel + 1, destination, data =>
    match destination.take? (sink.piece data) with
    | none => (destination, some (.io sink.full))
    | some after =>
      if (sink.piece data).isEmpty then (after, some (.io stalledFault))
      else writeSteps sink fuel after (data.drop (sink.piece data).length)

def write (destination : Destination) (text : List Char) : Destination × Option RunError :=
  let data := Text.bytes text
  match destination.channel with
  | .writer =>
    match destination.take? data with
    | some after => (after, none)
    | none => (destination, some (.write writerFault))
  | .sink sink => writeSteps sink (data.length + 1) destination data

def flush (destination : Destination) : Destination × Option RunError :=
  match destination.channel with
  | .writer => (destination, none)
  | .sink sink =>
    ({ destination with flushes := destination.flushes + 1 }, sink.flushFault.map .io)

/-- The destination of a run: a writer or a sink, but not both, and the standard one without
either. -/
def select (standard : Destination) :
    Option Destination → Option Destination → Except RunError Destination
  | some _, some _ => .error .outputConflict
  | some writer, none => .ok writer
  | none, some sink => .ok sink
  | none, none => .ok standard

end Destination

end Stencil
