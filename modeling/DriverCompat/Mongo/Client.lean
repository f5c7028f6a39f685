import DriverCompat.Bson.Terminated
import DriverCompat.Failure
import DriverCompat.Session.Driver
import DriverCompat.Text.Quoted

/-! # Clients of a deployment

A client carries commands to the servers of a deployment and brings back what they answer. It is
a pure function of a state, as drivers are, so that every deployment can stand behind it.
-/

namespace DriverCompat.Mongo

open Text

/-! ## Faults -/

/-- A server that could not be reached. -/
structure Unreached where
  address : String
  fault : IoFault
  /-- What is known about the fault. -/
  labels : List String
deriving DecidableEq, Repr

/-- What is known about the servers of a deployment. -/
structure Topology where
  kind : String
  replicaSet : Option String
  servers : List Unreached
deriving DecidableEq, Repr

/-- What kind of fault kept a client from doing what it was asked. There are many; only the two that
mean that the deployment was not reached are told from the others. -/
inductive ClientFault.Kind where
  | io (fault : IoFault)
  /-- No server could be selected in time. -/
  | serverSelection (text : String)
  | other (text : String)
deriving DecidableEq, Repr

/-- Why a client could not do what it was asked. -/
structure ClientFault where
  kind : ClientFault.Kind
  /-- What is known about the fault. -/
  labels : List String
  /-- The fault behind this one, as it is shown. -/
  source : Option String
  /-- The server's own words, as they came. -/
  response : Option String
deriving DecidableEq, Repr

/-- A text that there may be none of. -/
def showOption : Option String → String
  | some text => s!"Some({text})"
  | none => "None"

namespace ClientFault

/-- A fault of which nothing but its kind is known. -/
def ofKind (kind : Kind) : ClientFault := ⟨kind, [], none, none⟩

def io (fault : IoFault) : ClientFault := ofKind (.io fault)

def invalidArgument (text : String) : ClientFault :=
  ofKind (.other s!"An invalid argument was provided: {text}")

/-- A text of a document cannot be stored. -/
def unstorable (text : String) : ClientFault :=
  ofKind (.other s!"cstrings cannot contain null bytes: {quoted text}")

def shutDown : ClientFault := ofKind (.other "Client has been shut down")

def Kind.message : Kind → String
  | .io fault => s!"I/O error: {fault.message}"
  | .serverSelection text => text
  | .other text => text

/-- Everything that is said about a fault. -/
def message (fault : ClientFault) : String :=
  let labels := "\x7b" ++ ", ".intercalate (fault.labels.map quoted) ++ "\x7d"
  s!"Kind: {fault.kind.message}, labels: {labels}, source: {showOption fault.source}, " ++
    s!"server response: {showOption fault.response}"

/-- The failure of an operation. -/
def failure (operation : String) (fault : ClientFault) : Failure :=
  match fault.kind with
  | .io _ => .connection fault.message
  | .serverSelection _ => .connection fault.message
  | .other _ => .driver s!"MongoDB {operation} failed: {fault.message}"

end ClientFault

def Unreached.describe (server : Unreached) : String :=
  let fault : ClientFault := { ClientFault.io server.fault with labels := server.labels }
  "\x7b Address: " ++ server.address ++ ", Type: Unknown, Error: " ++ fault.message ++ " \x7d"

def Topology.describe (topology : Topology) : String :=
  let name := match topology.replicaSet with
    | some name => s!", Set Name: {name}"
    | none => ""
  "\x7b Type: " ++ topology.kind ++ name ++ ", Servers: [ " ++
    ", ".intercalate (topology.servers.map Unreached.describe) ++ " ] \x7d"

/-- No server of a deployment could be reached in time. -/
def ClientFault.noServer (topology : Topology) : ClientFault := ofKind (.serverSelection
  s!"Server selection timeout: No available servers. Topology: {topology.describe}")

/-! ## Commands -/

/-- The documents that a query finds, in the batches in which the server hands them out. A later
batch can fail to come. -/
inductive Cursor where
  | last (batch : List Bson.Document)
  | more (batch : List Bson.Document) (next : Cursor)
  | broken (batch : List Bson.Document) (fault : ClientFault)

namespace Cursor

/-- All documents of a cursor, if every batch comes. -/
def drain : Cursor → Except ClientFault (List Bson.Document)
  | .last batch => .ok batch
  | .more batch next => next.drain.map (batch ++ ·)
  | .broken _ fault => .error fault

end Cursor

/-- A command to a database. -/
inductive Command where
  | ping
  | create (collection : String)
  | drop (collection : String)
  | listCollections
  | insertOne (collection : String) (document : Bson.Document)
  | insertMany (collection : String) (documents : List Bson.Document)
  | findOne (collection : String) (filter : Bson.Document)
  | find (collection : String) (filter : Bson.Document) (limit : Option Int)
  | updateOne (collection : String) (filter update : Bson.Document)
  | deleteOne (collection : String) (filter : Bson.Document)

namespace Command

/-- The answer to a command. The identifiers of several documents come with the positions of the
documents, but in any order. -/
abbrev Reply : Command → Type
  | .ping => Unit
  | .create _ => Unit
  | .drop _ => Unit
  | .listCollections => List String
  | .insertOne _ _ => Bson
  | .insertMany _ _ => List (Nat × Bson)
  | .findOne _ _ => Option Bson.Document
  | .find _ _ _ => Cursor
  | .updateOne _ _ _ => Nat
  | .deleteOne _ _ => Nat

/-- What keeps a command from being sent at all. -/
def objection? : Command → Option ClientFault
  | .insertOne _ document => (Bson.unstorableMember? document).map .unstorable
  | .insertMany _ [] => some (.invalidArgument "No documents provided to insert_many")
  | .insertMany _ documents => (documents.findSome? Bson.unstorableMember?).map .unstorable
  | .updateOne _ _ [] => some (.invalidArgument "update document must not be empty")
  | .updateOne _ _ ((key, _) :: _) =>
    if key.toList.head? = some '$' then none
    else some (.invalidArgument "update document must only contain update modifiers")
  | _ => none

end Command

/-- A client: how a deployment reacts to a command to one of its databases, and how long it takes to
let go of all connections. -/
structure Client (σ : Type) where
  send : (database : String) → (command : Command) → σ →
    Reaction σ (Except ClientFault command.Reply)
  shutDown : σ → Reaction σ Unit

/-- The client with a log of the commands that it is given, each with its database. -/
def Client.logged {σ : Type} (client : Client σ) : Client (σ × List (String × Command)) where
  send database command state :=
    (client.send database command state.1).mapState fun after =>
      (after, state.2 ++ [(database, command)])
  shutDown state := (client.shutDown state.1).mapState fun after => (after, state.2)

end DriverCompat.Mongo
