import DriverCompat.Config.Basic
import DriverCompat.Report.Basic
import DriverCompat.Session.Activity

/-! # Observers

An observer follows a run by its notifications: the start, then either the connection and one
notification for each check or the failure to connect, then the end.
-/

namespace DriverCompat

/-- What an observer is told. -/
inductive Notification where
  | start (driver : String) (config : Config)
  | connected
  | connectFailed (failure : Failure)
  /-- The checks are counted from one. -/
  | check (index : Nat) (entry : Entry)
  | finish (report : Report)
deriving DecidableEq, Repr

/-- An observer with states of type `ω`. It may panic when it is told something. -/
structure Observer (ω : Type) where
  notify : Notification → ω → Ending Unit × ω

namespace Observer

/-- The observer that does nothing. -/
def silent : Observer Unit := ⟨fun _ state => (.returned (), state)⟩

/-- The observer that keeps what it is told, in order. -/
def recorder : Observer (List Notification) :=
  ⟨fun notification seen => (.returned (), seen ++ [notification])⟩

/-- Two observers, the second one told after the first one if that did not panic. -/
def followedBy {ω χ : Type} (first : Observer ω) (second : Observer χ) : Observer (ω × χ) where
  notify notification state :=
    match first.notify notification state.1 with
    | (.returned (), seen) =>
      let (ending, other) := second.notify notification state.2
      (ending, (seen, other))
    | (.panicked payload, seen) => (.panicked payload, (seen, state.2))

/-- Tells an observer that stands beside the state of a driver. -/
def telling {σ ω : Type} (observer : Observer ω) (notification : Notification) :
    Activity (σ × ω) Unit :=
  .act fun state =>
    let (ending, seen) := observer.notify notification state.2
    (ending, (state.1, seen))

end Observer

end DriverCompat
