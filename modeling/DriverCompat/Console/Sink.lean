import DriverCompat.IoFault
import DriverCompat.Text.Utf8

/-! # Sinks

A sink takes bytes: when it is offered some it takes as many from the front as it likes, or
fails. A text is written by offering what is left of it until nothing is, and what has been taken
stays taken when a later offer fails.
-/

namespace DriverCompat.Console

/-- A sink with states of type `σ`. -/
structure Sink (σ : Type) where
  /-- How many of the offered bytes are taken. An offer that was interrupted is made again, so that
  is none of the answers. -/
  offer : List UInt8 → σ → Except IoFault Nat × σ
  flush : σ → Except IoFault Unit × σ

namespace Sink

variable {σ : Type}

/-- Offers bytes until all are taken. A sink that takes none at all has failed as well. -/
def write (sink : Sink σ) (bytes : List UInt8) (state : σ) : Except IoFault Unit × σ :=
  match bytes with
  | [] => (.ok (), state)
  | first :: rest =>
    match sink.offer (first :: rest) state with
    | (.error fault, state) => (.error fault, state)
    | (.ok 0, state) => (.error .writeZero, state)
    | (.ok (taken + 1), state) => write sink (rest.drop taken) state
termination_by bytes.length
decreasing_by simp only [List.length_drop, List.length_cons]; omega

/-- Writes the UTF-8 form of a text. -/
def writeText (sink : Sink σ) (text : String) (state : σ) : Except IoFault Unit × σ :=
  sink.write (Text.encode text.toList) state

end Sink

/-- How a sink that is full answers an offer. -/
inductive WhenFull where
  | fails
  | takesNothing
deriving DecidableEq, Repr

/-- A limited sink: how many bytes it takes, how it answers once it is full, and whether flushing
it fails. -/
structure Limits where
  capacity : Option Nat
  whenFull : WhenFull
  flushFails : Bool
deriving DecidableEq, Repr

namespace Limits

/-- Takes everything. -/
def none : Limits := ⟨.none, .fails, false⟩

/-- The sink with these limits; its state is what it has taken. -/
def sink (limits : Limits) : Sink (List UInt8) where
  offer bytes taken :=
    match limits.capacity with
    | .none => (.ok bytes.length, taken ++ bytes)
    | some capacity =>
      let room := min bytes.length (capacity - taken.length)
      if room = 0 then
        match limits.whenFull with
        | .fails => (.error (.brokenPipe "closed"), taken)
        | .takesNothing => (.ok 0, taken)
      else (.ok room, taken ++ bytes.take room)
  flush taken :=
    (if limits.flushFails then .error (.other "flush refused") else .ok (), taken)

end Limits

end DriverCompat.Console
