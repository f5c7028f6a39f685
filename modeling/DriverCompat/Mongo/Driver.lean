import DriverCompat.Mongo.ConnectionString
import DriverCompat.Mongo.Session
import DriverCompat.Registry

/-! # The driver for deployments

The address in the settings of a run is a connection string, and the timeout of the run replaces
those of the string. Connecting only reads the string: whether a server answers shows with the
first call.
-/

namespace DriverCompat.Mongo

/-- What the servers of a deployment are told about the program. -/
def programName : String := "drivermatrix"

/-- How a deployment is connected to. -/
structure ClientOptions where
  connection : ConnectionString
  timeoutMs : UInt64

namespace ClientOptions

/-- The options for the settings of a run. -/
def ofConfig (config : Config) : Except Failure ClientOptions :=
  match ConnectionString.parse config.url with
  | .ok connection => .ok ⟨connection, config.timeoutMs⟩
  | .error fault =>
    let cause := ClientFault.invalidArgument fault.message
    .error (.configuration s!"Invalid MongoDB URL: {cause.message}")

def hosts (options : ClientOptions) : List String := options.connection.hosts.map Address.show_

/-- The name under which the client makes itself known, unless the string gives another one. -/
def appName (options : ClientOptions) : String :=
  (options.connection.options.text? "appname").getD programName

def replicaSet (options : ClientOptions) : Option String :=
  options.connection.options.text? "replicaset"

def directConnection (options : ClientOptions) : Option Bool :=
  options.connection.options.boolean? "directconnection"

/-- The kind of the deployment, as far as it is known before a server has answered. -/
def topologyKind (options : ClientOptions) : String :=
  if options.directConnection = some true then "Single"
  else if options.connection.options.boolean? "loadbalanced" = some true then "LoadBalanced"
  else if options.replicaSet.isSome then "ReplicaSetNoPrimary"
  else "Unknown"

end ClientOptions

/-- The clients that a network offers, by the options for the deployment. -/
def Network (σ : Type) : Type := ClientOptions → Client σ

namespace Network

/-- What is known about a server to which no packet can be sent. The labels are a set, which is
shown in alphabetical order. -/
def noRoute (address : String) : Unreached :=
  ⟨address, .system 101, ["RetryableError", "SystemOverloadedError"]⟩

/-- The fault of a deployment of which no server can be reached. -/
def unreachable (options : ClientOptions) : ClientFault :=
  .noServer ⟨options.topologyKind, options.replicaSet, options.hosts.map noRoute⟩

/-- The network on which no server can be reached; it takes the whole timeout to find that out. -/
def offline : Network Unit := fun options =>
  { send _ _ state :=
      ⟨state, some ⟨options.timeoutMs.toNat, .returned (.error (unreachable options)), state⟩⟩
    shutDown := .value () }

end Network

/-- A session, and the client that it sends its commands with. -/
structure Link where
  session : Session
  options : ClientOptions

/-- The sessions that have been opened, in order, and the state of the network. -/
structure Stage (σ : Type) where
  links : List Link
  network : σ

namespace Stage

variable {σ : Type}

def start (network : σ) : Stage σ := ⟨[], network⟩

/-- Opens a session, unless the address is no connection string. -/
def connect (config : Config) (stage : Stage σ) : Reaction (Stage σ) (Except Failure Nat) :=
  match ClientOptions.ofConfig config with
  | .error failure => .value (.error failure) stage
  | .ok options =>
    .value (.ok stage.links.length)
      { stage with links := stage.links ++ [⟨⟨config.database, false⟩, options⟩] }

/-- The stage with another session in the place of one. -/
def withSession (stage : Stage σ) (index : Nat) (link : Link) (next : Session × σ) : Stage σ :=
  ⟨stage.links.set index { link with session := next.1 }, next.2⟩

/-- The reaction to a call; there is none if there is no such session. -/
def call (network : Network σ) (index : Nat) (call : Call) (stage : Stage σ) :
    Reaction (Stage σ) (Except Failure call.Reply) :=
  match stage.links[index]? with
  | none => .never stage
  | some link =>
    (link.session.respond (network link.options) call stage.network).mapState
      (stage.withSession index link)

end Stage

variable {σ : Type}

/-- The driver for the deployments that a network offers; its sessions are named by their position
in the order of their opening. -/
def driver (network : Network σ) : Driver (Stage σ) Nat where
  name := "mongodb"
  displayName := "MongoDB"
  connect := Stage.connect
  call := Stage.call network

/-- The drivers that there are without registering any. -/
def defaultDrivers (network : Network σ) (state : σ) : Registry (Stage σ) Nat :=
  Registry.empty.register ⟨driver network, .start state⟩

end DriverCompat.Mongo
