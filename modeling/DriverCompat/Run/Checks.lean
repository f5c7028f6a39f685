import DriverCompat.Check.Execute
import DriverCompat.Run.Observer

/-! # The sequence of checks

Every check is run once, in order, with a timeout of its own. One that fails, panics or does not
end in time is entered as failed, and the next one is run all the same.
-/

namespace DriverCompat

/-- What a sequence of checks works on and how long each check may take. -/
structure Checks where
  collection : String
  timeoutMs : UInt64
deriving DecidableEq, Repr

namespace Checks

variable {σ κ ω : Type}

/-- The failure of a check that did not end in time. -/
def notCompleted (check : Check) (ms : Nat) : Failure :=
  .timeout s!"{check.name} did not complete within {ms} ms"

/-- The checks on a collection with the default timeout. -/
def ofCollection (collection : String) : Checks := ⟨collection, Config.defaultTimeoutMs⟩

/-- The outcome of what came of a check: nothing in time, a panic, or something to be judged. -/
def outcome (checks : Checks) (check : Check) :
    Option (Ending (Except Failure Observation)) → Outcome
  | none => .fail (notCompleted check checks.timeoutMs.toNat).message
  | some (.panicked payload) => .fail (Check.panicDetail payload)
  | some (.returned observed) => check.evaluate checks.collection observed

/-- Runs one check. -/
def runCheck (checks : Checks) (driver : Driver σ κ) (session : κ) (check : Check) :
    Activity σ Outcome := do
  let ended ← (check.execute driver session checks.collection).guarded.within checks.timeoutMs.toNat
  return checks.outcome check ended

/-- Runs a list of checks, the first of which has the given number, and enters them into a
report. -/
def runFrom (checks : Checks) (driver : Driver σ κ) (observer : Observer ω) (session : κ) :
    Nat → List Check → Report → Activity (σ × ω) Report
  | _, [], report => return report
  | index, check :: rest, report => do
    let outcome ← checks.runCheck (driver.beside ω) session check
    observer.telling (.check index (.ofOutcome check.name outcome))
    runFrom checks driver observer session (index + 1) rest (report.record check.name outcome)

/-- Runs all checks and enters them into a report. -/
def run (checks : Checks) (driver : Driver σ κ) (observer : Observer ω) (session : κ)
    (report : Report) : Activity (σ × ω) Report :=
  checks.runFrom driver observer session 1 Check.all report

end Checks

end DriverCompat
