import DriverCompat.Check.Evaluate
import DriverCompat.Session.Driver

/-! # Carrying out a check

Each check makes one call on the session, except the creation of the test collection, which first
drops what an aborted run may have left behind; that this drop fails does not matter.
-/

namespace DriverCompat.Check

variable {σ κ : Type}

/-- A person with a name and an age. -/
def person (name : String) (age : Int) (range : -2 ^ 63 ≤ age ∧ age < 2 ^ 64) : Document :=
  [("name", .string name), ("age", Json.int age range)]

def alice : Document := person "Alice" aliceAge (by decide)
def bob : Document := person "Bob" 25 (by decide)
def charlie : Document := person "Charlie" 35 (by decide)

/-- The filter for a name. -/
def named (name : String) : Document := [("name", .string name)]

/-- The update that sets the age. -/
def setAge : Document := [("$set", .object [("age", Json.int updatedAge (by decide))])]

/-- Makes a call and turns its answer into an observation. -/
def observe (driver : Driver σ κ) (session : κ) (call : Call) (f : call.Reply → Observation) :
    Activity σ (Except Failure Observation) := do
  return (← driver.calling session call).map f

/-- Makes the calls of a check. -/
def execute (check : Check) (driver : Driver σ κ) (session : κ) (collection : String) :
    Activity σ (Except Failure Observation) :=
  match check with
  | .ping => observe driver session .ping fun _ => .acknowledged
  | .createCollection => do
    let _ ← driver.calling session (.dropCollection collection)
    observe driver session (.createCollection collection) fun _ => .acknowledged
  | .insertOne => observe driver session (.insertOne collection alice) .insertedOne
  | .findOne => observe driver session (.findOne collection (named "Alice")) .foundOne
  | .insertMany => observe driver session (.insertMany collection [bob, charlie]) .insertedMany
  | .findWithLimit => observe driver session (.find collection [] (some findLimit)) .found
  | .updateOne => observe driver session (.updateOne collection (named "Alice") setAge) .updated
  | .deleteOne => observe driver session (.deleteOne collection (named "Bob")) .deleted
  | .listCollections => observe driver session .listCollections .collectionNames
  | .dropCollection => observe driver session (.dropCollection collection) fun _ => .acknowledged

end DriverCompat.Check
