/-! # The compatibility checks

Ten checks in a fixed order. They share the test collection: later ones rely on the documents
that earlier ones have written.
-/

namespace DriverCompat

/-- A compatibility check. -/
inductive Check where
  | ping
  | createCollection
  | insertOne
  | findOne
  | insertMany
  | findWithLimit
  | updateOne
  | deleteOne
  | listCollections
  | dropCollection
deriving DecidableEq, Repr

namespace Check

/-- The checks in the order in which they are run. -/
def all : List Check :=
  [.ping, .createCollection, .insertOne, .findOne, .insertMany, .findWithLimit, .updateOne,
    .deleteOne, .listCollections, .dropCollection]

/-- The name in transcripts and reports. -/
def name : Check → String
  | .ping => "ping"
  | .createCollection => "create-collection"
  | .insertOne => "insert-one"
  | .findOne => "find-one"
  | .insertMany => "insert-many"
  | .findWithLimit => "find-with-limit"
  | .updateOne => "update-one"
  | .deleteOne => "delete-one"
  | .listCollections => "list-collections"
  | .dropCollection => "drop-collection"

/-- The check with a name. -/
def ofName? (name : String) : Option Check := all.find? fun check => check.name == name

/-- The position in the order, counted from zero. -/
def index (check : Check) : Nat := all.idxOf check

theorem mem_all (check : Check) : check ∈ all := by cases check <;> decide

end Check

end DriverCompat
