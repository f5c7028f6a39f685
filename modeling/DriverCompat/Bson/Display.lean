import DriverCompat.Bson.Value
import DriverCompat.Calendar.Instant
import DriverCompat.Decimal.Layout
import DriverCompat.Text.Base64

/-! # Database values as they are shown

The text of a value in a message. Strings inside of other values stand in quotes, but nothing in
them is escaped, so that the text cannot always be read back.
-/

namespace DriverCompat.Bson

open Decimal

/-- A text in quotes behind the name of its type. -/
def showQuoted (name text : String) : String := name ++ "(\"" ++ text ++ "\")"

/-- Hexadecimal digits behind a zero and an x. -/
def showHex (n : Nat) : String := "0x" ++ String.ofList (Text.hexDigits n)

mutual

/-- The text of a value. -/
def display : Bson → String
  | .null => "null"
  | .undefined => "undefined"
  | .minKey => "MinKey"
  | .maxKey => "MaxKey"
  | .bool value => if value then "true" else "false"
  | .int32 value _ => toString value
  | .int64 value _ => toString value
  | .double value => Layout.plain.render value
  | .decimal value => value.text
  | .string value => "\"" ++ value ++ "\""
  | .symbol name => showQuoted "Symbol" name
  | .code source => source
  | .scopedCode source _ => source
  | .regularExpression pattern options => s!"/{pattern}/{options}"
  | .objectId id => showQuoted "ObjectId" id.hex
  | .date millis _ => showQuoted "DateTime" (Calendar.describe millis)
  | .timestamp time increment => s!"Timestamp({time.toNat}, {increment.toNat})"
  | .binary subtype bytes =>
    s!"Binary({showHex subtype.toNat}, {String.ofList (Text.Base64.encode bytes)})"
  | .pointer collection id => s!"DbPointer({collection}, {id.hex})"
  | .array items => "[" ++ displayItems items ++ "]"
  | .document [] => "\x7b\x7d"
  | .document members => "\x7b " ++ displayMembers members ++ " \x7d"

def displayItems : List Bson → String
  | [] => ""
  | [item] => display item
  | item :: rest => display item ++ ", " ++ displayItems rest

def displayMembers : Document → String
  | [] => ""
  | [(key, value)] => "\"" ++ key ++ "\": " ++ display value
  | (key, value) :: rest => "\"" ++ key ++ "\": " ++ display value ++ ", " ++ displayMembers rest

end

/-- The text of the identifier of a document: digits, a string as it is, any other value as it
is shown. There is none for a value that says that there is none. -/
def identifierText? : Bson → Option String
  | .null => none
  | .undefined => none
  | .objectId id => some id.hex
  | .string id => some id
  | value => some value.display

end DriverCompat.Bson
