import DriverCompat.Decimal.Binary64
import DriverCompat.Decimal.Decimal128
import DriverCompat.Text.Hex
import DriverCompat.Text.Utf8

/-! # Values of a document database

The values that a server stores. Beside those of JSON there are integers of two widths, instants,
identifiers, bytes, and some kinds that only occur in old data.
-/

namespace DriverCompat

open Decimal (Binary64 Decimal128)

/-- The identifier that a server or client makes up for a document: twelve bytes. -/
structure ObjectId where
  bytes : List UInt8
  length_bytes : bytes.length = 12
deriving DecidableEq, Repr

namespace ObjectId

/-- The identifier as its twenty-four digits. -/
def hex (id : ObjectId) : String := String.ofList (Text.hexOfBytes id.bytes)

/-- Why a text is no identifier. -/
inductive Fault where
  | wrongLength (digits : String)
  | notADigit (shown : Char) (index : Nat) (digits : String)
deriving DecidableEq, Repr

/-- The identifier with these digits. An odd number of them is noticed first, then a character
that is no digit, and last a wrong number of digits. -/
def ofHex (digits : String) : Except Fault ObjectId :=
  match Text.bytesOfHex (Text.encode digits.toList) with
  | .error .oddLength => .error (.wrongLength digits)
  | .error (.notADigit shown index) => .error (.notADigit shown index digits)
  | .ok bytes => if h : bytes.length = 12 then .ok ⟨bytes, h⟩ else .error (.wrongLength digits)

end ObjectId

/-- Whether an integer fits into a number of bits, one of them for its sign. -/
abbrev Fits (bits : Nat) (i : Int) : Prop := -2 ^ (bits - 1) ≤ i ∧ i < 2 ^ (bits - 1)

/-- A value. -/
inductive Bson where
  | null
  | undefined
  | minKey
  | maxKey
  | bool (value : Bool)
  | int32 (value : Int) (fits : Fits 32 value)
  | int64 (value : Int) (fits : Fits 64 value)
  | double (value : Binary64)
  | decimal (value : Decimal128)
  | string (value : String)
  | symbol (name : String)
  | code (source : String)
  /-- Code with the values of its free variables. -/
  | scopedCode (source : String) (scope : List (String × Bson))
  | regularExpression (pattern options : String)
  | objectId (id : ObjectId)
  /-- An instant, in milliseconds since the start of 1970. -/
  | date (millis : Int) (fits : Fits 64 millis)
  /-- A time in seconds, and a count of what happened in that second. -/
  | timestamp (time increment : UInt32)
  | binary (subtype : UInt8) (bytes : List UInt8)
  /-- The identifier of a document in a collection. -/
  | pointer (collection : String) (id : ObjectId)
  | array (items : List Bson)
  | document (members : List (String × Bson))
deriving Repr

namespace Bson

/-- The members of a document, in order. -/
abbrev Document := List (String × Bson)

/-- The name of the type of a value. -/
def typeName : Bson → String
  | .null => "Null"
  | .undefined => "Undefined"
  | .minKey => "MinKey"
  | .maxKey => "MaxKey"
  | .bool _ => "Boolean"
  | .int32 _ _ => "Int32"
  | .int64 _ _ => "Int64"
  | .double _ => "Double"
  | .decimal _ => "Decimal128"
  | .string _ => "String"
  | .symbol _ => "Symbol"
  | .code _ => "JavaScriptCode"
  | .scopedCode _ _ => "JavaScriptCodeWithScope"
  | .regularExpression _ _ => "RegularExpression"
  | .objectId _ => "ObjectId"
  | .date _ _ => "DateTime"
  | .timestamp _ _ => "Timestamp"
  | .binary _ _ => "Binary"
  | .pointer _ _ => "DbPointer"
  | .array _ => "Array"
  | .document _ => "EmbeddedDocument"

/-- The integer of the smaller width that fits. -/
def integer? (i : Int) : Option Bson :=
  if narrow : Fits 32 i then some (.int32 i narrow)
  else if wide : Fits 64 i then some (.int64 i wide)
  else none

/-- The options of a regular expression, in order. -/
def sortedOptions (options : String) : String :=
  String.ofList (options.toList.mergeSort fun a b => a ≤ b)

/-- A regular expression. -/
def ofPattern (pattern options : String) : Bson :=
  .regularExpression pattern (sortedOptions options)

end Bson

end DriverCompat
