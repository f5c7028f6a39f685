import DriverCompat.Run.Checks
import DriverCompat.Run.Connection

/-! # A compatibility run

One run connects a driver to one server, runs all checks on the session, and ends with a report.
If no session can be had, the report has a single entry that says so.
-/

namespace DriverCompat

variable {σ κ ω : Type}

/-- What is done with a session once there is one. -/
def runChecks (driver : Driver σ κ) (config : Config) (observer : Observer ω) (session : κ) :
    Activity (σ × ω) Report := do
  observer.telling .connected
  (Checks.mk config.collection config.timeoutMs).run driver observer session .empty

/-- The report of a run that could not connect. -/
def connectFailure (failure : Failure) : Report :=
  Report.empty.record Report.connectEntry (.fail failure.message)

/-- A compatibility run. -/
def compatibilityRun (driver : Driver σ κ) (config : Config) (observer : Observer ω) :
    Activity (σ × ω) Report := do
  observer.telling (.start driver.name config)
  let report ←
    match ← Connection.lending (driver.beside ω) config
        (fun session => return runChecks driver config observer session) with
    | .ok report => pure report
    | .error failure => do
      observer.telling (.connectFailed failure)
      pure (connectFailure failure)
  observer.telling (.finish report)
  return report

end DriverCompat
