import DriverCompat.Bson.Display
import DriverCompat.Mongo.Client
import DriverCompat.Mongo.Document

/-! # Sessions with a deployment

A session answers calls by commands to one database. Documents are converted before anything is
sent, and a session that has been closed sends nothing any more.
-/

namespace DriverCompat.Mongo

/-- Whether a collection belongs to the server. -/
def isSystem (collection : String) : Bool := "system.".toList.isPrefixOf collection.toList

/-- The names of the collections that are not the server's own, in order. -/
def listed (names : List String) : List String :=
  (names.filter fun name => !isSystem name).mergeSort fun a b => !(b < a)

/-- The texts of identifiers, in the order of their documents; what says that there is no
identifier is left out. -/
def identifierTexts (ids : List (Nat × Bson)) : List String :=
  (ids.mergeSort fun a b => a.1 ≤ b.1).filterMap fun id => id.2.identifierText?

/-- A command in place of a call, and how its answer is understood. -/
structure Exchange (α : Type) where
  /-- What failures call the operation. -/
  operation : String
  command : Command
  understand : command.Reply → Except Failure α

/-- A session with a database of a deployment. -/
structure Session where
  database : String
  closed : Bool
deriving DecidableEq, Repr

namespace Session

variable {σ α : Type}

/-- A database that commands to the deployment as a whole go to. -/
def adminDatabase : String := "admin"

/-- What a client's answer means. -/
def outcome (exchange : Exchange α) : Except ClientFault exchange.command.Reply → Except Failure α
  | .ok reply => exchange.understand reply
  | .error fault => .error (fault.failure exchange.operation)

/-- The reaction to a call that becomes a command: it is sent if the session is open, all its
documents could be converted, and the client has no objection. -/
def perform (session : Session) (client : Client σ) (database : String) (state : σ)
    (exchange : Except Failure (Exchange α)) : Reaction σ (Except Failure α) :=
  if session.closed then .value (.error .closed) state
  else
    match exchange with
    | .error failure => .value (.error failure) state
    | .ok exchange =>
      match exchange.command.objection? with
      | some fault => .value (.error (fault.failure exchange.operation)) state
      | none => (client.send database exchange.command state).map (outcome exchange)

/-- The reaction to a call. Closing sends nothing, and lets go of the connections the first time. -/
def react (session : Session) (client : Client σ) (call : Call) (state : σ) :
    Reaction σ (Except Failure call.Reply) :=
  let send {α : Type} := session.perform (α := α) client session.database state
  match call with
  | .ping => session.perform client adminDatabase state (.ok ⟨"ping", .ping, .ok⟩)
  | .createCollection collection => send (.ok ⟨"create", .create collection, .ok⟩)
  | .dropCollection collection => send (.ok ⟨"drop", .drop collection, .ok⟩)
  | .listCollections =>
    send (.ok ⟨"listCollections", .listCollections, fun names => .ok (listed names)⟩)
  | .insertOne collection document =>
    send ((encode document).map fun document =>
      ⟨"insert", .insertOne collection document, fun id => .ok id.identifierText?⟩)
  | .insertMany collection documents =>
    send ((encodeAll documents).map fun documents =>
      ⟨"insert", .insertMany collection documents, fun ids => .ok (identifierTexts ids)⟩)
  | .findOne collection filter =>
    send ((encode filter).map fun filter =>
      ⟨"find", .findOne collection filter, fun found => .ok (found.map decode)⟩)
  | .find collection filter limit =>
    send ((encode filter).map fun filter =>
      ⟨"find", .find collection filter limit, fun cursor =>
        match cursor.drain with
        | .ok documents => .ok (documents.map decode)
        | .error fault => .error (fault.failure "cursor")⟩)
  | .updateOne collection filter update =>
    send (do
      let filter ← encode filter
      let update ← encode update
      return ⟨"update", .updateOne collection filter update, .ok⟩)
  | .deleteOne collection filter =>
    send ((encode filter).map fun filter => ⟨"delete", .deleteOne collection filter, .ok⟩)
  | .close =>
    if session.closed then .value (.ok ()) state else (client.shutDown state).map .ok

/-- The session from a call on, also while its answer is awaited. -/
def next (session : Session) : Call → Session
  | .close => { session with closed := true }
  | _ => session

/-- The reaction of a session, with the session that is left. -/
def respond (session : Session) (client : Client σ) (call : Call) (state : σ) :
    Reaction (Session × σ) (Except Failure call.Reply) :=
  (session.react client call state).mapState fun state => (session.next call, state)

end Session

end DriverCompat.Mongo
