import DriverCompat.Config.Basic
import DriverCompat.Toml.Document

/-! # Settings files

A settings file is a TOML document whose keys are names of settings; those that it does not set
keep their defaults. The first entry that is wrong is the one that is reported.
-/

namespace DriverCompat.Config

open Toml

/-- The names of the settings in a file. -/
def keys : List String := ["url", "database", "collection", "driver", "connect_timeout_ms"]

/-- The text of a setting. -/
def textValue : Value → Except Cause String
  | .string text => .ok text
  | value => .error (.wrongType value.found "a string")

/-- The number of a setting. Integers of a file fit into 64 bits with a sign. -/
def numberValue : Value → Except Cause UInt64
  | .integer value =>
    if value < 0 then .error (.wrongValue (.integer value) "u64")
    else .ok (UInt64.ofNat value.toNat)
  | value => .error (.wrongType value.found "u64")

/-- The settings with one of them from a file. -/
def setting (config : Config) (key : Key) (value : Value) : Except Stop Config :=
  let placed : Except Cause Config → Except Stop Config
    | .ok config => .ok config
    | .error cause => .error ⟨cause, key.valueAt⟩
  match key.name with
  | "url" => placed do return { config with url := ← textValue value }
  | "database" => placed do return { config with database := ← textValue value }
  | "collection" => placed do return { config with collection := ← textValue value }
  | "driver" => placed do return { config with driver := ← textValue value }
  | "connect_timeout_ms" => placed do return { config with timeoutMs := ← numberValue value }
  | name => .error ⟨.unknownField name keys, key.keyAt⟩

/-- The settings of a document. -/
def ofEntries (entries : Entries) : Except Stop Config :=
  entries.foldlM (fun config (key, value) => config.setting key value) default

/-- The settings of a file. -/
def ofToml (remarks : Remarks) (text : String) : Except Failure Config :=
  match document text.toList >>= ofEntries with
  | .ok config => .ok config
  | .error stop => .error (.settingsFile (stop.inText remarks text.toList))

end DriverCompat.Config
