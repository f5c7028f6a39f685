import DriverCompat.Failure
import DriverCompat.Memory.Store
import DriverCompat.Session.Activity
import DriverCompat.Session.Call

/-! # Sessions on a store

A session answers every call from a store of its own, at once. It can be made to misbehave: single
operations can fail, panic or never answer, and inserts can report wrong identifiers. Once it has
been closed, every call but another close fails.
-/

namespace DriverCompat.Memory

/-- The operations that can be made to misbehave: all calls but the close. -/
inductive Operation where
  | ping
  | createCollection
  | dropCollection
  | listCollections
  | insertOne
  | insertMany
  | findOne
  | find
  | updateOne
  | deleteOne
deriving DecidableEq, Repr

namespace Operation

def all : List Operation :=
  [.ping, .createCollection, .dropCollection, .listCollections, .insertOne, .insertMany, .findOne,
    .find, .updateOne, .deleteOne]

def name : Operation → String
  | .ping => "Ping"
  | .createCollection => "CreateCollection"
  | .dropCollection => "DropCollection"
  | .listCollections => "ListCollections"
  | .insertOne => "InsertOne"
  | .insertMany => "InsertMany"
  | .findOne => "FindOne"
  | .find => "Find"
  | .updateOne => "UpdateOne"
  | .deleteOne => "DeleteOne"

def ofName? (name : String) : Option Operation := all.find? fun operation => operation.name == name

end Operation

/-- How a session misbehaves. -/
structure Faults where
  failing : List Operation
  panicking : List Operation
  hanging : List Operation
  /-- How many identifiers an insert of several documents reports. -/
  insertedIds : Option Nat
  /-- Whether an insert of one document reports no identifier. -/
  omitInsertedId : Bool
deriving DecidableEq, Repr

namespace Faults

def none : Faults := ⟨[], [], [], .none, false⟩

end Faults

/-- A session on a store. -/
structure Session where
  database : String
  store : Store
  faults : Faults
  closed : Bool
  closeCalls : Nat

namespace Session

def open_ (database : String) (faults : Faults) : Session := ⟨database, .empty, faults, false, 0⟩

/-- What keeps an operation from being carried out. -/
inductive Obstacle where
  | closed
  | hang
  | panic (payload : Payload)
  | failure (failure : Failure)
deriving DecidableEq, Repr

/-- The first obstacle to an operation, in the order: closed, hanging, panicking, failing. -/
def obstacle? (session : Session) (operation : Operation) : Option Obstacle :=
  if session.closed then some .closed
  else if operation ∈ session.faults.hanging then some .hang
  else if operation ∈ session.faults.panicking then
    some (.panic (.text s!"injected panic in {operation.name}"))
  else if operation ∈ session.faults.failing then
    some (.failure (.driver s!"injected failure in {operation.name}"))
  else none

/-- Carries out an operation if nothing keeps it from that. -/
def guarded {α : Type} (session : Session) (operation : Operation)
    (carryOut : Ending (Except Failure α) × Session) : Reaction Session (Except Failure α) :=
  match session.obstacle? operation with
  | some .closed => .value (.error .closed) session
  | some .hang => .never session
  | some (.panic payload) => .now (.panicked payload) session
  | some (.failure failure) => .value (.error failure) session
  | none => .now carryOut.1 carryOut.2

/-- What an operation comes to that gives an answer. -/
def answering {α : Type} (done : Except Failure α × Session) :
    Ending (Except Failure α) × Session :=
  (.returned done.1, done.2)

/-- The failure to create a collection that exists. -/
def alreadyExists (session : Session) (collection : String) : Failure :=
  .driver s!"Collection {session.database}.{collection} already exists"

/-- The failure of an update that does not say what to set. -/
def nothingToSet : Failure := .driver "update document must contain $set"

def withStore (session : Session) (store : Store) : Session := { session with store }

/-- The most identifiers that a list can have room for: each takes 24 bytes, and no more than
`2 ^ 63 - 8` bytes can be asked for at once. -/
def idsLimit : Nat := (2 ^ 63 - 8) / 24

/-- Identifiers in the number that is to be reported, filled up with zeros. It is a panic to ask for
more room than there can be. -/
def resizeIds (count : Option Nat) (ids : List String) : Ending (List String) :=
  match count with
  | none => .returned ids
  | some n =>
    if ids.length < n ∧ idsLimit < n then .panicked (.text "capacity overflow")
    else .returned (ids.take n ++ List.replicate (n - ids.length) (Store.identifier 0))

def createCollection (session : Session) (collection : String) : Except Failure Unit × Session :=
  match session.store.get? collection with
  | some _ => (.error (session.alreadyExists collection), session)
  | none => (.ok (), session.withStore (session.store.set collection []))

def insertOne (session : Session) (collection : String) (document : Document) :
    Except Failure (Option String) × Session :=
  let (store, ids) := session.store.append collection [document]
  (.ok (if session.faults.omitInsertedId then none else ids.head?), session.withStore store)

def insertMany (session : Session) (collection : String) (documents : List Document) :
    Ending (Except Failure (List String)) × Session :=
  let (store, ids) := session.store.append collection documents
  ((resizeIds session.faults.insertedIds ids).map .ok, session.withStore store)

def updateOne (session : Session) (collection : String) (filter update : Document) :
    Except Failure Nat × Session :=
  match update.get? "$set" with
  | some (.object fields) =>
    let change (document : Document) : Option Document × Nat :=
      let (changed, differs) := Store.setFields document fields
      (some changed, if differs then 1 else 0)
    match session.store.change collection filter change with
    | some (store, count) => (.ok count, session.withStore store)
    | none => (.ok 0, session)
  | _ => (.error nothingToSet, session)

def deleteOne (session : Session) (collection : String) (filter : Document) :
    Except Failure Nat × Session :=
  match session.store.change collection filter fun _ => (none, 1) with
  | some (store, count) => (.ok count, session.withStore store)
  | none => (.ok 0, session)

/-- The reaction of a session to a call. -/
def respond (session : Session) (call : Call) : Reaction Session (Except Failure call.Reply) :=
  match call with
  | .ping => session.guarded .ping (answering (.ok (), session))
  | .createCollection collection =>
    session.guarded .createCollection (answering (session.createCollection collection))
  | .dropCollection collection =>
    session.guarded .dropCollection
      (answering (.ok (), session.withStore (session.store.remove collection)))
  | .listCollections =>
    session.guarded .listCollections (answering (.ok session.store.names, session))
  | .insertOne collection document =>
    session.guarded .insertOne (answering (session.insertOne collection document))
  | .insertMany collection documents =>
    session.guarded .insertMany (session.insertMany collection documents)
  | .findOne collection filter =>
    session.guarded .findOne
      (answering (.ok (session.store.matching collection filter).head?, session))
  | .find collection filter limit =>
    session.guarded .find
      (answering (.ok (Store.limited limit (session.store.matching collection filter)), session))
  | .updateOne collection filter update =>
    session.guarded .updateOne (answering (session.updateOne collection filter update))
  | .deleteOne collection filter =>
    session.guarded .deleteOne (answering (session.deleteOne collection filter))
  | .close => .value (.ok ()) { session with closed := true, closeCalls := session.closeCalls + 1 }

/-- Makes a collection without going through a call; this works on a closed session too. -/
def seed (session : Session) (collection : String) (documents : List Document) : Session :=
  session.withStore (session.store.seed collection documents)

/-- The documents of a collection, if it exists. -/
def documents (session : Session) (collection : String) : Option (List Document) :=
  session.store.get? collection

end Session

end DriverCompat.Memory
