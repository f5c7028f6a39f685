import DriverCompat.Arithmetic
import DriverCompat.Failure
import DriverCompat.Text.Blank

/-! # Run settings

Where a run connects to, what it works on, and how long it waits. Settings are judged as a whole
once every source has contributed: the first rule that is violated is the one that is reported.
-/

namespace DriverCompat

/-- The settings of a run. -/
structure Config where
  url : String
  database : String
  collection : String
  /-- The name under which the driver is registered. -/
  driver : String
  /-- How long a connection and its first answer may take together, and each check on its own. -/
  timeoutMs : UInt64
deriving DecidableEq, Repr

namespace Config

def defaultUrl : String := "mongodb://localhost:27017"
def defaultDatabase : String := "driver_compat_test_rust"
def defaultCollection : String := "test_collection"
def defaultDriver : String := "mongodb"
def defaultTimeoutMs : UInt64 := 5000

def default : Config :=
  ⟨defaultUrl, defaultDatabase, defaultCollection, defaultDriver, defaultTimeoutMs⟩

/-- The default settings with another address. -/
def ofUrl (url : String) : Config := { default with url := url }

/-- A number of milliseconds, or the largest that fits. -/
def saturate (ms : Nat) : UInt64 := UInt64.ofNat (min ms (2 ^ 64 - 1))

/-- The settings with a timeout of seconds and nanoseconds, fractions of a millisecond dropped. -/
def withTimeout (config : Config) (seconds nanoseconds : Nat) : Config :=
  { config with timeoutMs := saturate (seconds * 1000 + nanoseconds / 1000000) }

/-- A number of milliseconds as seconds and nanoseconds. -/
def durationParts (ms : UInt64) : Nat × Nat := (ms.toNat / 1000, ms.toNat % 1000 * 1000000)

/-- The timeout as seconds and nanoseconds. -/
def timeoutParts (config : Config) : Nat × Nat := durationParts config.timeoutMs

/-- A timeout that is taken apart into seconds and nanoseconds is put together again. -/
theorem withTimeout_parts (config : Config) (ms : UInt64) :
    config.withTimeout (ms.toNat / 1000) (ms.toNat % 1000 * 1000000) =
      { config with timeoutMs := ms } := by
  have sum : ms.toNat / 1000 * 1000 + ms.toNat % 1000 * 1000000 / 1000000 = ms.toNat := by
    rw [Nat.mul_div_cancel _ (by decide)]
    omega
  have fits : min ms.toNat (2 ^ 64 - 1) = ms.toNat := by
    have := ms.toNat_lt
    omega
  rw [withTimeout, sum, saturate, fits, UInt64.ofNat_toNat]

/-- The rules that settings can violate, in the order in which they are checked. -/
inductive Violation where
  | blankUrl
  | blankDatabase
  | blankCollection
  | zeroTimeout
deriving DecidableEq, Repr

namespace Violation

def message : Violation → String
  | .blankUrl => "connection url must not be empty"
  | .blankDatabase => "database name must not be empty"
  | .blankCollection => "collection name must not be empty"
  | .zeroTimeout => "connect timeout must be greater than zero"

def failure (violation : Violation) : Failure := .configuration violation.message

end Violation

/-- The first rule that the settings violate. -/
def violation? (config : Config) : Option Violation :=
  if Text.isBlankText config.url then some .blankUrl
  else if Text.isBlankText config.database then some .blankDatabase
  else if Text.isBlankText config.collection then some .blankCollection
  else if config.timeoutMs = 0 then some .zeroTimeout
  else none

/-- The settings, if they can produce a meaningful run. -/
def validate (config : Config) : Except Failure Config :=
  match config.violation? with
  | none => .ok config
  | some violation => .error violation.failure

/-- Values for some of the settings. -/
structure Overrides where
  url : Option String
  database : Option String
  collection : Option String
  driver : Option String
  timeoutMs : Option UInt64
deriving DecidableEq, Repr

/-- The settings with the given values put in. A number of milliseconds is put in as a duration. -/
def override (config : Config) (overrides : Overrides) : Config :=
  let named := { config with
    url := overrides.url.getD config.url
    database := overrides.database.getD config.database
    collection := overrides.collection.getD config.collection
    driver := overrides.driver.getD config.driver }
  match overrides.timeoutMs.map durationParts with
  | none => named
  | some (seconds, nanoseconds) => named.withTimeout seconds nanoseconds

theorem override_eq (config : Config) (overrides : Overrides) :
    config.override overrides =
      ⟨overrides.url.getD config.url, overrides.database.getD config.database,
        overrides.collection.getD config.collection, overrides.driver.getD config.driver,
        overrides.timeoutMs.getD config.timeoutMs⟩ := by
  obtain ⟨url, database, collection, driver, timeoutMs⟩ := overrides
  cases timeoutMs with
  | none => rfl
  | some ms => exact withTimeout_parts _ ms

end Config

end DriverCompat
