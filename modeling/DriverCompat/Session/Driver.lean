import DriverCompat.Config.Basic
import DriverCompat.Session.Activity
import DriverCompat.Session.Call

/-! # Drivers

A driver opens sessions and answers the calls on them. Its behaviour is a pure function of a
state of its own: for each request the state while the answer is awaited, and the answer with its
delay, if there is one.
-/

namespace DriverCompat

/-- A driver with states of type `σ`, whose sessions are named by values of type `κ`. -/
structure Driver (σ κ : Type) where
  name : String
  displayName : String
  connect : Config → σ → Reaction σ (Except Failure κ)
  call : κ → (call : Call) → σ → Reaction σ (Except Failure call.Reply)

/-- A request to a driver. -/
inductive Request (κ : Type) where
  | connect (url database : String)
  | call (session : κ) (call : Call)

namespace Reaction

variable {σ τ α β : Type}

/-- The reaction with another value for every value that is returned. -/
def map (f : α → β) (reaction : Reaction σ α) : Reaction σ β where
  pending := reaction.pending
  answer := reaction.answer.map fun answer =>
    let ending := match answer.ending with
      | .returned value => .returned (f value)
      | .panicked payload => .panicked payload
    ⟨answer.delay, ending, answer.state⟩

/-- The reaction with every state embedded into a larger one. -/
def mapState (f : σ → τ) (reaction : Reaction σ α) : Reaction τ α where
  pending := f reaction.pending
  answer := reaction.answer.map fun answer => ⟨answer.delay, answer.ending, f answer.state⟩

end Reaction

namespace Driver

variable {σ κ : Type}

/-- The driver beside another state, which it leaves alone. -/
def beside (driver : Driver σ κ) (ω : Type) : Driver (σ × ω) κ where
  name := driver.name
  displayName := driver.displayName
  connect config state := (driver.connect config state.1).mapState fun s => (s, state.2)
  call session call state := (driver.call session call state.1).mapState fun s => (s, state.2)

/-- The driver with a log of the requests made to it, in order; a request is logged before it is
acted on. -/
def logged (driver : Driver σ κ) : Driver (σ × List (Request κ)) κ where
  name := driver.name
  displayName := driver.displayName
  connect config state :=
    (driver.connect config state.1).mapState fun s =>
      (s, state.2 ++ [.connect config.url config.database])
  call session call state :=
    (driver.call session call state.1).mapState fun s => (s, state.2 ++ [.call session call])

/-- Opens a session. -/
def opening (driver : Driver σ κ) (config : Config) : Activity σ (Except Failure κ) :=
  .await (driver.connect config)

/-- Makes a call and waits for its answer. -/
def calling (driver : Driver σ κ) (session : κ) (call : Call) :
    Activity σ (Except Failure call.Reply) :=
  .await (driver.call session call)

end Driver

end DriverCompat
