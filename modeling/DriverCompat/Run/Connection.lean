import DriverCompat.Session.Driver

/-! # Connections

A session is opened and probed with a ping before anything else is done with it; both together
have to fit into the timeout of the settings. A session whose probe fails is closed again, and a
session that is lent to a body is closed when the body has ended, whether it returned or panicked.
-/

namespace DriverCompat.Connection

variable {σ κ α : Type}

/-- The failure of a target that did not answer in time. -/
def noResponse (ms : Nat) : Failure := .timeout s!"no response from server within {ms} ms"

/-- Closes a session; a failure to close it does not matter. -/
def release (driver : Driver σ κ) (session : κ) : Activity σ Unit := do
  let _ ← driver.calling session .close
  return ()

/-- Probes a fresh session in the time that is left, and closes it if that fails. -/
def probe (driver : Driver σ κ) (config : Config) (session : κ) (elapsed : Nat) :
    Activity σ (Except Failure κ) := do
  let limit := config.timeoutMs.toNat
  match ← (driver.calling session .ping).within (limit - elapsed) with
  | some (.ok ()) => return .ok session
  | some (.error failure) =>
    release driver session
    return .error failure.asConnectionFailure
  | none =>
    release driver session
    return .error (noResponse limit)

/-- Opens a session that answers. -/
def acquire (driver : Driver σ κ) (config : Config) : Activity σ (Except Failure κ) := do
  let limit := config.timeoutMs.toNat
  match ← ((driver.opening config).within limit).timed with
  | (some (.ok session), elapsed) => probe driver config session elapsed
  | (some (.error failure), _) => return .error failure.asConnectionFailure
  | (none, _) => return .error (noResponse limit)

/-- Lends a session to a body. The body is first asked what it will do with the session, and then
does that; the session is closed when it has been done, and a panic goes on after that. -/
def lending (driver : Driver σ κ) (config : Config) (body : κ → Activity σ (Activity σ α)) :
    Activity σ (Except Failure α) := do
  match ← acquire driver config with
  | .error failure => return .error failure
  | .ok session =>
    let doing ← body session
    let ending ← doing.guarded
    release driver session
    return .ok (← Activity.resume ending)

end DriverCompat.Connection
