import DriverCompat.CommandLine.Args
import DriverCompat.CommandLine.Host
import DriverCompat.CommandLine.Logging
import DriverCompat.Config.File
import DriverCompat.Console.Transcript
import DriverCompat.Registry
import DriverCompat.Run.Compatibility

/-! # The command

The settings are the defaults, then those of a file, then those of arguments and environment. The
command runs the registered driver that they name, writes the transcript, and ends with the
status of the report, or with a status of its own if there could be no run.
-/

namespace DriverCompat.CommandLine

variable {m : Type → Type} [Monad m] {σ κ τ : Type}

/-- The settings of a file. -/
def fileSettings (host : Host m) (remarks : Toml.Remarks) (path : String) :
    m (Except Failure Config) := do
  match ← host.readText path with
  | .ok text => return Config.ofToml remarks text
  | .error fault => return .error (.io fault)

/-- The settings of a run: a file is read before anything else is looked at, and only the result
is judged. -/
def settings (host : Host m) (remarks : Toml.Remarks) (args : Args) :
    m (Except Failure Config) := do
  let base ← match args.config with
    | none => pure (.ok Config.default)
    | some path => fileSettings host remarks path
  return base.bind fun config => (config.override args.overrides).validate

/-- Why there could be no run, or no report of it. -/
inductive SetupFault where
  | failure (failure : Failure)
  | listing (fault : IoFault)
  | reportFile (path : String) (fault : IoFault)
  | logFile (fault : IoFault)
  | logName (path : String)
deriving DecidableEq, Repr

namespace SetupFault

/-- What is said about a fault. A failure that was made of another fault shows its text once
more. -/
def message : SetupFault → String
  | .failure cause => ": ".intercalate (cause.message :: cause.cause?.toList)
  | .listing fault => fault.message
  | .reportFile path fault => s!"failed to write report to {path}: {fault.message}"
  | .logFile fault => s!"failed to initialize logging: {fault.message}"
  | .logName path => s!"failed to initialize logging: log file path has no file name: {path}"

end SetupFault

/-- How something that a command does comes to its end, if it does. -/
inductive Conclusion (α : Type) where
  | value (value : α)
  | fault (fault : SetupFault)
  | panic (payload : Payload)
  | never

/-- Runs the driver that the settings name, and writes the transcript to a sink. That the sink
fails does not matter. A driver that was asked for anything has reached a state. -/
def conduct (registry : Registry σ κ) (config : Config) (sink : Console.Sink τ) (state : τ) :
    Conclusion Report × Option σ × τ :=
  match registry.resolve config.driver with
  | .error failure => (.fault (.failure failure), none, state)
  | .ok backend =>
    let transcript := Console.Transcript.begin_ state
    let activity := compatibilityRun backend.driver config (Console.Transcript.observer sink)
    match activity.run (backend.start, transcript) with
    | .unfinished (reached, transcript) => (.never, some reached, transcript.sink)
    | .ended _ (.panicked payload) (reached, transcript) =>
      (.panic payload, some reached, transcript.sink)
    | .ended _ (.returned report) (reached, transcript) =>
      (.value report, some reached, (transcript.finish sink).2)

/-- Runs the driver that the settings name, and writes the report to a file if there is to be
one. -/
def execute (host : Host m) (registry : Registry σ κ) (config : Config)
    (reportFile : Option String) (sink : Console.Sink τ) (state : τ) :
    m (Conclusion Report × Option σ × τ) := do
  match conduct registry config sink state, reportFile with
  | (.value report, left), some path =>
    match ← host.writeText path (report.render ++ "\n") with
    | .ok () => return (.value report, left)
    | .error fault => return (.fault (.reportFile path fault), left)
  | concluded, _ => return concluded

/-- Makes the log file; a file that cannot be opened in its directory is a panic. -/
def startLog (host : Host m) (logging : Logging) : m (Conclusion Unit) := do
  match logging.logFile with
  | none => return .value ()
  | some path =>
    match Logging.splitPath? path with
    | none => return .fault (.logName path)
    | some (directory, name) =>
      match ← host.makeDirectories directory with
      | .error fault => return .fault (.logFile fault)
      | .ok () =>
        match ← host.touch (directory ++ "/" ++ name) with
        | .ok () => return .value ()
        | .error _ => return .panic (.text "initializing rolling file appender failed")

/-- How a command has ended. -/
structure Finished where
  output : List UInt8
  /-- What is said about what went wrong. -/
  error : Option String
  status : Nat

namespace Finished

/-- The end of a command that was given wrong arguments, or a question. -/
def ofArgsFault (version : String) (fault : ArgsFault) : Finished where
  output := match fault with
    | .version => Text.encode (version ++ "\n").toList
    | _ => []
  error := fault.message?
  status := fault.exitCode

/-- The status of a command that could not be set up. -/
def setupStatus : Nat := 2

/-- The status of a command that panicked. -/
def panicStatus : Nat := 101

/-- The end of a command with a conclusion; one that never comes to an end has none. -/
def ofConclusion? {α : Type} (status : α → Nat) (output : List UInt8) :
    Conclusion α → Option Finished
  | .value value => some ⟨output, none, status value⟩
  | .fault fault => some ⟨output, some fault.message, setupStatus⟩
  | .panic _ => some ⟨output, none, panicStatus⟩
  | .never => none

end Finished

/-- The name and the version of the command. -/
def versionLine : String := "drivermatrix 0.1.0"

/-- Prints the registered drivers. -/
def listDrivers (registry : Registry σ κ) (sink : Console.Sink τ) (state : τ) :
    Conclusion Unit × τ :=
  match registry.print sink state with
  | (.ok (), state) => (.value (), state)
  | (.error fault, state) => (.fault (.listing fault), state)

/-- What a command does with its arguments once the log has been started. -/
def perform (host : Host m) (remarks : Toml.Remarks) (registry : Registry σ κ) (args : Args) :
    m (Option Finished) := do
  let sink := Console.Limits.none.sink
  if args.listDrivers then
    let (concluded, output) := listDrivers registry sink []
    return Finished.ofConclusion? (fun _ => 0) output concluded
  else
    match ← settings host remarks args with
    | .error failure =>
      return Finished.ofConclusion? (α := Unit) (fun _ => 0) [] (.fault (.failure failure))
    | .ok config =>
      let (concluded, _, output) ← execute host registry config args.reportFile sink []
      return Finished.ofConclusion? Report.exitCode output concluded

/-- Runs the command. -/
def run (host : Host m) (remarks : Toml.Remarks) (registry : Registry σ κ)
    (arguments : List String) (environment : List (String × String)) : m (Option Finished) := do
  match Args.parse arguments environment with
  | .error fault => return some (.ofArgsFault versionLine fault)
  | .ok args =>
    match ← startLog host (.ofFile args.logFile) with
    | .value () => perform host remarks registry args
    | concluded => return Finished.ofConclusion? (fun _ => 0) [] concluded

end DriverCompat.CommandLine
