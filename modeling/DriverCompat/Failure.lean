import DriverCompat.IoFault
import DriverCompat.Toml.Fault

/-! # Failures

Why a run, a driver call or the reading of a setting failed. A failure of kind `connection` or
`timeout` means that the target could not be reached at all.
-/

namespace DriverCompat

/-- A failure, by its kind. -/
inductive Failure where
  | connection (text : String)
  | driver (text : String)
  | configuration (text : String)
  | timeout (text : String)
  | io (fault : IoFault)
  | serialization (rejection : Json.Rejection)
  | settingsFile (fault : Toml.Fault)
deriving DecidableEq, Repr

namespace Failure

/-- The text that is shown for a failure: its kind and its cause. -/
def message : Failure → String
  | .connection text => "Connection error: " ++ text
  | .driver text => "Driver error: " ++ text
  | .configuration text => "Configuration error: " ++ text
  | .timeout text => "Timeout: " ++ text
  | .io fault => "IO error: " ++ fault.message
  | .serialization rejection => "Serialization error: " ++ rejection.message
  | .settingsFile fault => "Invalid config file: " ++ fault.text

/-- The text of the fault that a failure was made of, if it was not made of a text. -/
def cause? : Failure → Option String
  | .io fault => some fault.message
  | .serialization rejection => some rejection.message
  | .settingsFile fault => some fault.text
  | _ => none

/-- Whether the target could not be reached at all. -/
def isConnectionFailure : Failure → Bool
  | .connection _ => true
  | .timeout _ => true
  | _ => false

/-- The failure of every call on a session that has been closed. -/
def closed : Failure := .driver "Connection is closed"

/-- The failure as one of reaching the target: other kinds become the text of a connection
failure. -/
def asConnectionFailure (failure : Failure) : Failure :=
  if failure.isConnectionFailure then failure else .connection failure.message

end Failure

end DriverCompat
