import DriverCompat.Config.Basic
import DriverCompat.Text.Integer
import DriverCompat.Text.Split

/-! # Command-line arguments

Options take a value, behind an equality sign or as the next argument; switches take none. An
option whose value is yet to come is settled only when the next argument is known to be an option
or switch, or when the arguments end: an argument that cannot be understood is reported before a
wrong value that stands in front of it. Options that were not given take their values from
environment variables.
-/

namespace DriverCompat.CommandLine

/-- The options that take a value, in the order in which the environment is consulted. -/
inductive Flag where
  | url
  | database
  | collection
  | driver
  | timeoutMs
  | config
  | reportFile
  | logFile
deriving DecidableEq, Repr

/-- The options without a value. -/
inductive Switch where
  | listDrivers
  | help
  | version
deriving DecidableEq, Repr

namespace Flag

def all : List Flag :=
  [.url, .database, .collection, .driver, .timeoutMs, .config, .reportFile, .logFile]

def name : Flag → String
  | .url => "url"
  | .database => "database"
  | .collection => "collection"
  | .driver => "driver"
  | .timeoutMs => "timeout-ms"
  | .config => "config"
  | .reportFile => "report-file"
  | .logFile => "log-file"

/-- What stands for the value in a message. -/
def valueName : Flag → String
  | .url => "URL"
  | .database => "DATABASE"
  | .collection => "COLLECTION"
  | .driver => "DRIVER"
  | .timeoutMs => "TIMEOUT_MS"
  | .config => "CONFIG"
  | .reportFile => "REPORT_FILE"
  | .logFile => "LOG_FILE"

/-- The environment variable that stands in for an option. -/
def environmentName? : Flag → Option String
  | .url => some "OXIDEDB_URL"
  | .database => some "DRIVER_MATRIX_DATABASE"
  | .collection => some "DRIVER_MATRIX_COLLECTION"
  | .driver => some "DRIVER_MATRIX_DRIVER"
  | .timeoutMs => some "DRIVER_MATRIX_TIMEOUT_MS"
  | .config => some "DRIVER_MATRIX_CONFIG"
  | .reportFile => none
  | .logFile => none

/-- Whether the value is a path, which cannot be empty. -/
def isPath : Flag → Bool
  | .config => true
  | .reportFile => true
  | .logFile => true
  | _ => false

/-- The option as messages show it. -/
def usage (flag : Flag) : String := s!"--{flag.name} <{flag.valueName}>"

end Flag

namespace Switch

def all : List Switch := [.listDrivers, .help, .version]

def name : Switch → String
  | .listDrivers => "list-drivers"
  | .help => "help"
  | .version => "version"

end Switch

/-- Why arguments are not accepted, or ask for something else than a run. -/
inductive ArgsFault where
  | unknown (argument : String)
  | missingValue (flag : Flag)
  | invalidNumber (flag : Flag) (value : String) (fault : Text.IntegerFault)
  | repeatedFlag (flag : Flag)
  | repeatedSwitch (switch : Switch)
  | unexpectedValue (switch : Switch) (value : String)
  | help
  | version
deriving DecidableEq, Repr

namespace ArgsFault

/-- What is said about arguments that are not accepted; a question is none of them. -/
def message? : ArgsFault → Option String
  | .unknown argument => some s!"unexpected argument '{argument}' found"
  | .missingValue flag => some s!"a value is required for '{flag.usage}' but none was supplied"
  | .invalidNumber flag value fault =>
    some s!"invalid value '{value}' for '{flag.usage}': {fault.message}"
  | .repeatedFlag flag => some s!"the argument '{flag.usage}' cannot be used multiple times"
  | .repeatedSwitch switch => some s!"the argument '--{switch.name}' cannot be used multiple times"
  | .unexpectedValue switch value =>
    some s!"unexpected value '{value}' for '--{switch.name}' found; no more were expected"
  | .help => none
  | .version => none

/-- The status with which a process ends: a question that was answered is no failure. -/
def exitCode : ArgsFault → Nat
  | .help => 0
  | .version => 0
  | _ => 2

end ArgsFault

/-- What the arguments and the environment say. -/
structure Args where
  url : Option String
  database : Option String
  collection : Option String
  driver : Option String
  timeoutMs : Option UInt64
  config : Option String
  reportFile : Option String
  logFile : Option String
  listDrivers : Bool
deriving DecidableEq, Repr

namespace Args

def none : Args := ⟨.none, .none, .none, .none, .none, .none, .none, .none, false⟩

/-- Whether an option has a value. -/
def has (args : Args) : Flag → Bool
  | .url => args.url.isSome
  | .database => args.database.isSome
  | .collection => args.collection.isSome
  | .driver => args.driver.isSome
  | .timeoutMs => args.timeoutMs.isSome
  | .config => args.config.isSome
  | .reportFile => args.reportFile.isSome
  | .logFile => args.logFile.isSome

/-- Gives an option its value. -/
def set (args : Args) (flag : Flag) (value : String) : Except ArgsFault Args :=
  if flag.isPath ∧ value.isEmpty then .error (.missingValue flag)
  else match flag with
    | .url => .ok { args with url := some value }
    | .database => .ok { args with database := some value }
    | .collection => .ok { args with collection := some value }
    | .driver => .ok { args with driver := some value }
    | .timeoutMs =>
      match Text.unsignedInteger 64 value.toList with
      | .ok n => .ok { args with timeoutMs := some (UInt64.ofNat n) }
      | .error fault => .error (.invalidNumber flag value fault)
    | .config => .ok { args with config := some value }
    | .reportFile => .ok { args with reportFile := some value }
    | .logFile => .ok { args with logFile := some value }

/-- Gives an option its value, if that is the first one. -/
def give (args : Args) (flag : Flag) (value : String) : Except ArgsFault Args :=
  if args.has flag then .error (.repeatedFlag flag) else args.set flag value

/-- Turns a switch on. -/
def turn (args : Args) : Switch → Except ArgsFault Args
  | .listDrivers =>
    if args.listDrivers then .error (.repeatedSwitch .listDrivers)
    else .ok { args with listDrivers := true }
  | .help => .error .help
  | .version => .error .version

/-- An option that has been named but not settled: it waits for a value, or has one. -/
structure Pending where
  flag : Flag
  value : Option String

/-- Settles an option that has been named before. -/
def settle (args : Args) : Option Pending → Except ArgsFault Args
  | .none => .ok args
  | some ⟨flag, .none⟩ => .error (.missingValue flag)
  | some ⟨flag, some value⟩ => args.give flag value

/-- What an argument looks like. -/
inductive Shape where
  /-- Two dashes alone: nothing behind them is an option. -/
  | divider
  | flag (flag : Flag) (value : Option String)
  | switch (switch : Switch) (value : Option String)
  /-- One dash with letters. -/
  | letters (letters : List Char)
  | unknown (shown : String)
  | plain (value : String)

/-- What an argument with two dashes and a name looks like. -/
def Shape.ofName (name : String) (value : Option String) : Shape :=
  match Flag.all.find? fun f => f.name == name with
  | some f => .flag f value
  | .none =>
    match Switch.all.find? fun s => s.name == name with
    | some s => .switch s value
    | .none => .unknown s!"--{name}"

/-- What an argument looks like. A dash alone is a plain value. -/
def Shape.of (argument : String) : Shape :=
  match argument.toList with
  | ['-', '-'] => .divider
  | '-' :: '-' :: rest =>
    match Text.splitFirst? '=' rest with
    | some (name, value) => .ofName (String.ofList name) (some (String.ofList value))
    | .none => .ofName (String.ofList rest) .none
  | ['-'] => .plain argument
  | '-' :: rest => .letters rest
  | _ => .plain argument

/-- Letters behind one dash: the first one decides, as both that are known ask a question. -/
def ofLetters (args : Args) (pending : Option Pending) : List Char → Except ArgsFault Args
  | [] => .ok args
  | 'h' :: _ => do
    let args ← args.settle pending
    args.turn .help
  | 'V' :: _ => do
    let args ← args.settle pending
    args.turn .version
  | c :: _ => .error (.unknown (String.ofList ['-', c]))

/-- Reads arguments behind those that have been read. -/
def readFrom (args : Args) (pending : Option Pending) : List String → Except ArgsFault Args
  | [] => args.settle pending
  | argument :: rest =>
    match Shape.of argument with
    | .divider =>
      match rest with
      | [] => args.settle pending
      | first :: _ => .error (.unknown first)
    | .flag flag (some value) => do
      let args ← args.settle pending
      (← args.give flag value).readFrom .none rest
    | .flag flag .none => do
      (← args.settle pending).readFrom (some ⟨flag, .none⟩) rest
    | .switch switch (some value) => .error (.unexpectedValue switch value)
    | .switch switch .none => do
      let args ← args.settle pending
      (← args.turn switch).readFrom .none rest
    | .letters letters => do
      (← args.ofLetters pending letters).readFrom pending rest
    | .unknown shown => .error (.unknown shown)
    | .plain value =>
      match pending with
      | some ⟨flag, .none⟩ => args.readFrom (some ⟨flag, some value⟩) rest
      | _ => .error (.unknown value)

/-- Takes the value of an option from the environment unless it has one. -/
def complete (environment : List (String × String)) (args : Args) (flag : Flag) :
    Except ArgsFault Args :=
  match flag.environmentName?.bind fun name => environment.lookup name with
  | some value => if args.has flag then .ok args else args.set flag value
  | .none => .ok args

/-- Reads arguments and the environment. -/
def parse (arguments : List String) (environment : List (String × String)) :
    Except ArgsFault Args := do
  let args ← none.readFrom .none arguments
  Flag.all.foldlM (complete environment) args

/-- The settings that are given by options or variables. -/
def overrides (args : Args) : Config.Overrides where
  url := args.url
  database := args.database
  collection := args.collection
  driver := args.driver
  timeoutMs := args.timeoutMs

end Args

end DriverCompat.CommandLine
