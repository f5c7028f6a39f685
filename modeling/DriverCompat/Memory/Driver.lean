import DriverCompat.Memory.Session
import DriverCompat.Session.Driver

/-! # Drivers for sessions on a store

A driver whose sessions each have a store of their own. It can be made to refuse connections or
never to answer them, and its replies can be scripted: for each kind of call a list of replies,
which all sessions of the driver use up together, replaces or delays what the store would answer.
-/

namespace DriverCompat.Memory

/-- The values that a scripted reply can give, by what kinds of calls they answer. -/
inductive Given where
  | nothing
  | identifier (id : Option String)
  | identifiers (ids : List String)
  | document (document : Option Document)
  | documents (documents : List Document)
  | count (count : Nat)
  | names (names : List String)

/-- The value as the answer to a call, if it is one of that call. -/
def Given.reply? (given : Given) (call : Call) : Option call.Reply :=
  match call, given with
  | .ping, .nothing => some ()
  | .createCollection _, .nothing => some ()
  | .dropCollection _, .nothing => some ()
  | .close, .nothing => some ()
  | .listCollections, .names listed => some listed
  | .insertOne _ _, .identifier id => some id
  | .insertMany _ _, .identifiers ids => some ids
  | .findOne _ _, .document found => some found
  | .find _ _ _, .documents found => some found
  | .updateOne _ _ _, .count n => some n
  | .deleteOne _ _, .count n => some n
  | _, _ => none

/-- How a scripted reply ends. -/
inductive Manner where
  | never
  | panic (payload : Payload)
  | failure (failure : Failure)
  | value (given : Given)
  /-- As the store answers. -/
  | unscripted

/-- A scripted reply. -/
structure Reply where
  delay : Nat
  manner : Manner

/-- The replies that are yet to be used up, in order; where there is none, the driver acts as if
it had no script. -/
structure Script where
  connect : List (Option Reply)
  calls : Call.Kind → List (Option Reply)

namespace Script

def none : Script := ⟨[], fun _ => []⟩

/-- Takes the next reply to a call. -/
def takeCall (script : Script) (kind : Call.Kind) : Option Reply × Script :=
  match script.calls kind with
  | [] => (.none, script)
  | reply :: rest =>
    (reply, { script with calls := fun other => if other = kind then rest else script.calls other })

/-- Takes the next reply to a request for a session. -/
def takeConnect (script : Script) : Option Reply × Script :=
  match script.connect with
  | [] => (.none, script)
  | reply :: rest => (reply, { script with connect := rest })

end Script

/-- What a driver is like. -/
structure Profile where
  name : String
  displayName : String
  /-- The text with which connections are refused. -/
  refusal : Option String
  /-- Whether connections are never answered. -/
  hanging : Bool
  faults : Faults
  /-- Collections that every session begins with, made in this order. -/
  seeds : List (String × List Document)

namespace Profile

/-- A driver that behaves. -/
def plain : Profile := ⟨"memory", "In-memory", none, false, .none, []⟩

/-- A new session. -/
def session (profile : Profile) (database : String) : Session :=
  profile.seeds.foldl (fun session (collection, documents) => session.seed collection documents)
    (.open_ database profile.faults)

end Profile

/-- The sessions that a driver has opened, in order, and what is left of its script. -/
structure Stage where
  sessions : List Session
  script : Script

namespace Stage

def ofScript (script : Script) : Stage := ⟨[], script⟩

def withSession (stage : Stage) (index : Nat) (session : Session) : Stage :=
  { stage with sessions := stage.sessions.set index session }

end Stage

/-- A reaction that comes later. -/
def after {σ α : Type} (delay : Nat) (reaction : Reaction σ α) : Reaction σ α where
  pending := reaction.pending
  answer := reaction.answer.map fun answer => { answer with delay := delay + answer.delay }

/-- A reaction that is scripted as far as the reply says; until it comes, the stage is the one
that has used the reply up. -/
def perform {α : Type} (reply : Option Reply) (given? : Given → Option α) (stage : Stage)
    (unscripted : Reaction Stage (Except Failure α)) : Reaction Stage (Except Failure α) :=
  match reply with
  | none => unscripted
  | some reply =>
    match reply.manner with
    | .never => .never stage
    | .panic payload => ⟨stage, some ⟨reply.delay, .panicked payload, stage⟩⟩
    | .failure failure => ⟨stage, some ⟨reply.delay, .returned (.error failure), stage⟩⟩
    | .unscripted => { after reply.delay unscripted with pending := stage }
    | .value given =>
      match given? given with
      | some value => ⟨stage, some ⟨reply.delay, .returned (.ok value), stage⟩⟩
      | none => { after reply.delay unscripted with pending := stage }

namespace Profile

/-- A session, unless connections are made to fail. -/
def opened (profile : Profile) (database : String) (stage : Stage) :
    Reaction Stage (Except Failure Nat) :=
  if profile.hanging then .never stage
  else match profile.refusal with
    | some text => .value (.error (.connection text)) stage
    | none =>
      .value (.ok stage.sessions.length)
        { stage with sessions := stage.sessions ++ [profile.session database] }

/-- The reaction to a request for a session. A scripted value is no session, so that then too the
driver opens one. -/
def connect (profile : Profile) (config : Config) (stage : Stage) :
    Reaction Stage (Except Failure Nat) :=
  let (reply, script) := stage.script.takeConnect
  let stage := { stage with script }
  perform reply (fun _ => none) stage (profile.opened config.database stage)

end Profile

/-- The answer of the store of a session; there is none if there is no such session. -/
def Stage.respond (stage : Stage) (index : Nat) (call : Call) :
    Reaction Stage (Except Failure call.Reply) :=
  match stage.sessions[index]? with
  | some session => (session.respond call).mapState (stage.withSession index)
  | none => .never stage

/-- The reaction to a call. -/
def Stage.call (index : Nat) (call : Call) (stage : Stage) :
    Reaction Stage (Except Failure call.Reply) :=
  let (reply, script) := stage.script.takeCall call.kind
  let stage := { stage with script }
  perform reply (·.reply? call) stage (stage.respond index call)

/-- A driver, whose sessions are named by their position in the order of their opening. -/
def driver (profile : Profile) : Driver Stage Nat where
  name := profile.name
  displayName := profile.displayName
  connect := profile.connect
  call := Stage.call

/-- A driver that has nothing but a name, and cannot connect. -/
def nameOnly (name : String) : Driver Stage Nat where
  name := name
  displayName := name
  connect _ stage := .value (.error (.driver "not connectable")) stage
  call := Stage.call

end DriverCompat.Memory
