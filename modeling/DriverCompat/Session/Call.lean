import DriverCompat.Json.Value

/-! # Session calls

The calls that a session with a database answers, each with the type of its answer.
-/

namespace DriverCompat

/-- A call on a session. -/
inductive Call where
  | ping
  | createCollection (collection : String)
  | dropCollection (collection : String)
  | listCollections
  | insertOne (collection : String) (document : Document)
  | insertMany (collection : String) (documents : List Document)
  | findOne (collection : String) (filter : Document)
  | find (collection : String) (filter : Document) (limit : Option Int)
  | updateOne (collection : String) (filter update : Document)
  | deleteOne (collection : String) (filter : Document)
  | close

namespace Call

/-- The answer to a call: identifiers of inserted documents, documents that were found, counts of
documents that were changed, or nothing but the fact that it succeeded. -/
abbrev Reply : Call → Type
  | .ping => Unit
  | .createCollection _ => Unit
  | .dropCollection _ => Unit
  | .listCollections => List String
  | .insertOne _ _ => Option String
  | .insertMany _ _ => List String
  | .findOne _ _ => Option Document
  | .find _ _ _ => List Document
  | .updateOne _ _ _ => Nat
  | .deleteOne _ _ => Nat
  | .close => Unit

/-- The kinds of calls. -/
inductive Kind where
  | ping
  | createCollection
  | dropCollection
  | listCollections
  | insertOne
  | insertMany
  | findOne
  | find
  | updateOne
  | deleteOne
  | close
deriving DecidableEq, Repr

def kind : Call → Kind
  | .ping => .ping
  | .createCollection _ => .createCollection
  | .dropCollection _ => .dropCollection
  | .listCollections => .listCollections
  | .insertOne _ _ => .insertOne
  | .insertMany _ _ => .insertMany
  | .findOne _ _ => .findOne
  | .find _ _ _ => .find
  | .updateOne _ _ _ => .updateOne
  | .deleteOne _ _ => .deleteOne
  | .close => .close

end Call

end DriverCompat
