import DriverCompat.CommandLine.Command
import DriverCompat.Mongo.Driver

/-! # The program

The command on the files and the environment of the machine that it runs on. No deployment can be
reached from here: every attempt ends with the timeout.
-/

namespace DriverCompat.CommandLine

/-- The number of an error, which some calls report with a minus sign. -/
def errorNumber (code : UInt32) : Nat := if code < 0x80000000 then code.toNat else (-code).toNat

/-- The fault that a failed system call reports. -/
def faultOf : IO.Error → IoFault
  | .alreadyExists _ code _ => .system (errorNumber code)
  | .otherError code _ => .system (errorNumber code)
  | .resourceBusy code _ => .system (errorNumber code)
  | .resourceVanished code _ => .system (errorNumber code)
  | .unsupportedOperation code _ => .system (errorNumber code)
  | .hardwareFault code _ => .system (errorNumber code)
  | .unsatisfiedConstraints code _ => .system (errorNumber code)
  | .illegalOperation code _ => .system (errorNumber code)
  | .protocolError code _ => .system (errorNumber code)
  | .timeExpired code _ => .system (errorNumber code)
  | .interrupted _ code _ => .system (errorNumber code)
  | .noFileOrDirectory _ code _ => .system (errorNumber code)
  | .invalidArgument _ code _ => .system (errorNumber code)
  | .permissionDenied _ code _ => .system (errorNumber code)
  | .resourceExhausted _ code _ => .system (errorNumber code)
  | .inappropriateType _ code _ => .system (errorNumber code)
  | .noSuchThing _ code _ => .system (errorNumber code)
  | .unexpectedEof => .other "unexpected end of file"
  | .userError text => .other text

/-- What comes of an action, its failure included. -/
def attempt {α : Type} (action : IO α) : IO (Except IoFault α) := do
  try return .ok (← action)
  catch error => return .error (faultOf error)

/-- The machine that the program runs on. -/
def machine : Host IO where
  readText path := do
    match ← attempt (IO.FS.readBinFile path) with
    | .error fault => return .error fault
    | .ok bytes =>
      match Text.decode? bytes.toList with
      | some text => return .ok text
      | none => return .error .notUtf8
  writeText path text := attempt (IO.FS.writeFile path text)
  makeDirectories path := attempt (IO.FS.createDirAll path)
  touch path := attempt (do let _ ← IO.FS.Handle.mk path .append)

/-- The environment variables that stand in for options. -/
def environment : IO (List (String × String)) := do
  let names := Flag.all.filterMap Flag.environmentName?
  let values ← names.mapM fun name => return (name, ← IO.getEnv name)
  return values.filterMap fun (name, value?) => value?.map fun value => (name, value)

/-- What the program says about a settings file. -/
def remarks : Toml.Remarks := fun _ stop => stop.cause.message?.getD ""

/-- The command on this machine. -/
def runHere (arguments : List String) : IO (Option Finished) := do
  run machine remarks (Mongo.defaultDrivers Mongo.Network.offline ()) arguments (← environment)

end DriverCompat.CommandLine

/-- Runs the command and ends with its status. -/
def main (arguments : List String) : IO UInt32 := do
  match ← DriverCompat.CommandLine.runHere arguments with
  | none => return 1
  | some finished =>
    (← IO.getStdout).write (ByteArray.mk finished.output.toArray)
    if let some text := finished.error then IO.eprintln s!"error: {text}"
    return UInt32.ofNat finished.status
