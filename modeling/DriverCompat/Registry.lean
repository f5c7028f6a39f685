import DriverCompat.Console.Sink
import DriverCompat.Named
import DriverCompat.Session.Driver

/-! # Registered drivers

Drivers under their names. A name that is registered again leads to the later driver, and the
names are listed in order.
-/

namespace DriverCompat

variable {σ κ τ : Type}

/-- A driver together with the state in which it starts. -/
structure Backend (σ κ : Type) where
  driver : Driver σ κ
  start : σ

/-- Drivers by name. -/
structure Registry (σ κ : Type) where
  drivers : Named (Backend σ κ)

namespace Registry

def empty : Registry σ κ := ⟨.empty⟩

/-- Registers a driver under its own name. -/
def register (registry : Registry σ κ) (backend : Backend σ κ) : Registry σ κ :=
  ⟨registry.drivers.set backend.driver.name backend⟩

def get? (registry : Registry σ κ) (name : String) : Option (Backend σ κ) :=
  registry.drivers.get? name

def has (registry : Registry σ κ) (name : String) : Bool := (registry.get? name).isSome

/-- All names, in order. -/
def list (registry : Registry σ κ) : List String := registry.drivers.names

/-- The failure to find a driver. -/
def unknown (registry : Registry σ κ) (name : String) : Failure :=
  let known := if registry.list.isEmpty then "none" else ", ".intercalate registry.list
  .configuration s!"unknown driver '{name}' (registered: {known})"

/-- The driver with a name, or the failure that says which names there are. -/
def resolve (registry : Registry σ κ) (name : String) : Except Failure (Backend σ κ) :=
  match registry.get? name with
  | some backend => .ok backend
  | none => .error (registry.unknown name)

/-- The line that lists a driver. -/
def listing (name : String) (backend : Backend σ κ) : String :=
  s!"{name}\t{backend.driver.displayName}\n"

/-- Writes the lines of some drivers up to the first fault. -/
def printEntries (sink : Console.Sink τ) :
    List (String × Backend σ κ) → τ → Except IoFault Unit × τ
  | [], state => (.ok (), state)
  | (name, backend) :: rest, state =>
    match sink.writeText (listing name backend) state with
    | (.ok (), state) => printEntries sink rest state
    | (.error fault, state) => (.error fault, state)

/-- Writes one line for each driver, in order, up to the first fault. -/
def print (registry : Registry σ κ) (sink : Console.Sink τ) (state : τ) :
    Except IoFault Unit × τ :=
  printEntries sink registry.drivers.entries state

end Registry

end DriverCompat
