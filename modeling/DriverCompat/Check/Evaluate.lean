import DriverCompat.Check.Basic
import DriverCompat.Failure
import DriverCompat.Report.Basic
import DriverCompat.Session.Activity

/-! # Judging a check

What a check observed is judged by a rule of its own: whether an identifier was reported, how
many documents were found or changed, whether the document or the collection is the expected one.
-/

namespace DriverCompat

/-- What a driver answered to a check. -/
inductive Observation where
  | acknowledged
  | insertedOne (id : Option String)
  | foundOne (document : Option Document)
  | insertedMany (ids : List String)
  | found (documents : List Document)
  | updated (count : Nat)
  | deleted (count : Nat)
  | collectionNames (names : List String)

namespace Observation

def kind : Observation → String
  | .acknowledged => "acknowledged"
  | .insertedOne _ => "insert-one result"
  | .foundOne _ => "single document"
  | .insertedMany _ => "insert-many result"
  | .found _ => "document list"
  | .updated _ => "update result"
  | .deleted _ => "delete result"
  | .collectionNames _ => "collection names"

end Observation

/-- Why an observation is not what a check wants. -/
inductive Mismatch where
  | noIdentifier
  | noDocument
  | wrongDocument
  | wrongCount (what : String) (expected actual : Nat)
  | collectionNotListed (collection : String)
  | wrongKind (check : Check) (kind : String)
deriving DecidableEq, Repr

namespace Mismatch

def message : Mismatch → String
  | .noIdentifier => "No inserted_id returned"
  | .noDocument => "Document not found"
  | .wrongDocument => "Document not found or incorrect"
  | .wrongCount what expected actual => s!"Expected {expected} {what}, got {actual}"
  | .collectionNotListed collection => s!"{collection} not found"
  | .wrongKind check kind => s!"{check.name} got an unexpected driver response ({kind})"

end Mismatch

namespace Check

/-- The age with which the first document is written. -/
def aliceAge : Int := 30

/-- The age that the update sets. -/
def updatedAge : Int := 31

/-- The bound of the bounded read. -/
def findLimit : Nat := 3

/-- The document that the first check inserted: its name is the string `Alice` and its age a
number equal to thirty, whatever else it holds. -/
def isAlice (document : Document) : Bool :=
  (match document.get? "name" with
    | some (.string name) => name == "Alice"
    | _ => false) &&
  match document.get? "age" with
    | some (.number age) => age.isEqualTo aliceAge
    | _ => false

/-- A count that has to be a certain one. -/
def expectCount (what : String) (expected actual : Nat) : Except Mismatch Unit :=
  if actual = expected then .ok () else .error (.wrongCount what expected actual)

/-- The rule of a check. -/
def judge (check : Check) (collection : String) (observation : Observation) :
    Except Mismatch Unit :=
  match check, observation with
  | .ping, .acknowledged => .ok ()
  | .createCollection, .acknowledged => .ok ()
  | .dropCollection, .acknowledged => .ok ()
  | .insertOne, .insertedOne id => if id.isSome then .ok () else .error .noIdentifier
  | .findOne, .foundOne none => .error .noDocument
  | .findOne, .foundOne (some document) =>
    if isAlice document then .ok () else .error .wrongDocument
  | .insertMany, .insertedMany ids => expectCount "inserted documents" 2 ids.length
  | .findWithLimit, .found documents => expectCount "documents" findLimit documents.length
  | .updateOne, .updated count => expectCount "modified document" 1 count
  | .deleteOne, .deleted count => expectCount "deleted document" 1 count
  | .listCollections, .collectionNames names =>
    if collection ∈ names then .ok () else .error (.collectionNotListed collection)
  | check, observation => .error (.wrongKind check observation.kind)

/-- The outcome of a check, from what it observed or from the failure of a call. -/
def evaluate (check : Check) (collection : String) (observed : Except Failure Observation) :
    Outcome :=
  match observed with
  | .error failure => .fail failure.message
  | .ok observation =>
    match check.judge collection observation with
    | .ok () => .pass
    | .error mismatch => .fail mismatch.message

/-- The outcome of a check in which a call panicked. -/
def panicDetail (payload : Payload) : String :=
  "check panicked: " ++ payload.message?.getD "unknown panic payload"

end Check

end DriverCompat
