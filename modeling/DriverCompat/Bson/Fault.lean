import DriverCompat.Bson.Value
import DriverCompat.Json.Fault

/-! # What can be wrong with a typed value

A JSON object with a reserved key stands for a value of a certain type, and has to have the
members of that type and no others.
-/

namespace DriverCompat.Bson

open Decimal Text

/-- What a typed value should have been. -/
inductive Expected where
  | string
  | boolean
  | word (bits : Nat)
  | map
  /-- A record of some fields. -/
  | record (name : String)
  /-- A text or number with a meaning of its own. -/
  | meaning (description : String)
deriving DecidableEq, Repr

def Expected.describe : Expected → String
  | .string => "a string"
  | .boolean => "a boolean"
  | .word bits => s!"u{bits}"
  | .map => "a map"
  | .record name => "struct " ++ name
  | .meaning description => description

/-- Why a JSON value does not stand for a value of the type that its key reserves. -/
inductive Fault where
  | wrongType (found : Json.Found) (expected : Expected)
  | wrongValue (found : Json.Found) (expected : Expected)
  /-- The number of a subtype has not exactly one byte. -/
  | wrongSubtype
  | unknownMember (name : String) (known : List String)
  | missingMember (name : String)
  | tooFewItems (count : Nat) (record : String) (fields : Nat)
  | tooManyItems (count : Nat)
  | noDate
  | identifier (fault : ObjectId.Fault)
deriving DecidableEq, Repr

/-- Some names of which one was expected. -/
def alternatives (names : List String) : String :=
  match names.map ticked with
  | [first, second] => first ++ " or " ++ second
  | names => ", ".intercalate names

/-- A number of elements. -/
def elements (count : Nat) : String := if count = 1 then "1 element" else s!"{count} elements"

def identifierMessage : ObjectId.Fault → String
  | .wrongLength digits =>
    "provided hex string representation must be exactly 12 bytes, instead got: \"" ++ digits ++
      s!"\", length {byteCount digits.toList}"
  | .notADigit shown index digits =>
    "invalid character '" ++ String.ofList [shown] ++
      s!"' was found at index {index} in the provided hex string: \"" ++ digits ++ "\""

/-- The wording of a fault. -/
def Fault.message : Fault → String
  | .wrongType found expected =>
    "invalid type: " ++ found.describe Layout.json ++ ", expected " ++ expected.describe
  | .wrongValue found expected =>
    "invalid value: " ++ found.describe Layout.json ++ ", expected " ++ expected.describe
  | .wrongSubtype => "invalid value: byte array, expected one byte subtype"
  | .unknownMember name known =>
    "unknown field " ++ ticked name ++ ", expected " ++ alternatives known
  | .missingMember name => "missing field " ++ ticked name
  | .tooFewItems count record fields =>
    s!"invalid length {count}, expected struct {record} with {elements fields}"
  | .tooManyItems count => s!"invalid length {count}, expected fewer elements in array"
  | .noDate => "data did not match any variant of untagged enum DateTimeBody"
  | .identifier fault => identifierMessage fault

end DriverCompat.Bson
