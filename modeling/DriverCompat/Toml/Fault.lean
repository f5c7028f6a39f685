import DriverCompat.Json.Fault

/-! # What can be wrong with a settings file

A file that is no TOML at all has a malformed place; one that is TOML can name a key twice, name
an unknown setting, or give a setting a value of the wrong type.
-/

namespace DriverCompat.Toml

open Text Decimal
open Json (Found)

/-- What is wrong. -/
inductive Cause where
  | malformed
  /-- A key that is set twice, in a table that is named by its path if it has one. -/
  | duplicateKey (key : String) (table : Option (List String))
  | unknownField (name : String) (known : List String)
  | wrongType (found : Found) (wanted : String)
  | wrongValue (found : Found) (wanted : String)
deriving DecidableEq, Repr

namespace Cause

def table (path : List String) : String :=
  if path.isEmpty then "document root" else "table " ++ ticked (".".intercalate path)

/-- The wording of a cause; a malformed text has none that is promised. -/
def message? : Cause → Option String
  | .malformed => none
  | .duplicateKey key none => some ("duplicate key " ++ ticked key)
  | .duplicateKey key (some path) => some ("duplicate key " ++ ticked key ++ " in " ++ table path)
  | .unknownField name known =>
    some ("unknown field " ++ ticked name ++ ", expected one of " ++
      ", ".intercalate (known.map ticked))
  | .wrongType found wanted =>
    some ("invalid type: " ++ found.describe Layout.plainFraction ++ ", expected " ++ wanted)
  | .wrongValue found wanted =>
    some ("invalid value: " ++ found.describe Layout.plainFraction ++ ", expected " ++ wanted)

end Cause

/-- A cause with the text that is shown for it. -/
structure Fault where
  cause : Cause
  text : String
deriving DecidableEq, Repr

/-- The line that introduces a fault, with the line and the column of the character where it lies,
both counted from one. -/
def heading (line column : Nat) : String := s!"TOML parse error at line {line}, column {column}"

end DriverCompat.Toml
