import DriverCompat.Bson.Typed
import DriverCompat.Decimal.Layout

/-! # Database values as JSON

There are two notations: the canonical one keeps the type of every number, and the relaxed one
writes numbers and dates as plainly as it can. Values of other types are objects with a reserved
key in both.
-/

namespace DriverCompat.Bson

open Decimal

/-- An object with one member. -/
def tagged (typed : Typed) (value : Json) : Json := .object [(typed.key, value)]

def taggedText (typed : Typed) (text : String) : Json := tagged typed (.string text)

/-- The number one behind a key. -/
def taggedOne (typed : Typed) : Json := tagged typed (.int 1 (by decide))

theorem range_of_fits_32 {i : Int} (fits : Fits 32 i) : -2 ^ 63 ≤ i ∧ i < 2 ^ 64 := by
  simp only [Fits, Nat.reduceSub] at fits
  omega

theorem range_of_fits_64 {i : Int} (fits : Fits 64 i) : -2 ^ 63 ≤ i ∧ i < 2 ^ 64 := by
  simp only [Fits, Nat.reduceSub] at fits
  omega

/-- A number of thirty-two bits. -/
def wordJson (n : UInt32) : Json :=
  .int n.toNat (by have := n.toNat_lt; omega)

/-- The text of a number that JSON cannot write. -/
def unwritable (x : Binary64) : String :=
  (if x.isNegative then "-" else "") ++ if x.isNaN then "NaN" else "Infinity"

/-- A double, as a number if it is one that JSON can write. -/
def doubleJson (x : Binary64) : Json :=
  if finite : x.isFinite = true then .number (.double x finite)
  else taggedText .double (unwritable x)

/-- The milliseconds of the end of the year 9999, up to which dates are written as such. -/
def lastTimestamp : Int := 253402300799999

/-- The number of an instant as a text. -/
def dateNumber (millis : Int) : Json := tagged .date (taggedText .int64 (toString millis))

/-- An instant, as a timestamp if it is between 1970 and 9999. -/
def dateJson (millis : Int) : Json :=
  if 0 ≤ millis ∧ millis ≤ lastTimestamp then
    taggedText .date (String.ofList (Calendar.timestamp millis))
  else dateNumber millis

def binaryJson (subtype : UInt8) (bytes : List UInt8) : Json :=
  tagged .binary (.object [
    ("base64", .string (String.ofList (Text.Base64.encode bytes))),
    ("subType", .string (String.ofList (Text.hexOfBytes [subtype])))])

def identifierJson (id : ObjectId) : Json := taggedText .objectId id.hex

def patternJson (pattern options : String) : Json :=
  tagged .regularExpression
    (.object [("pattern", .string pattern), ("options", .string (sortedOptions options))])

def timestampJson (time increment : UInt32) : Json :=
  tagged .timestamp (.object [("t", wordJson time), ("i", wordJson increment)])

def pointerJson (collection : String) (id : ObjectId) : Json :=
  tagged .pointer (.object [("$ref", .string collection), ("$id", identifierJson id)])

def scopedJson (source : String) (scope : List (String × Json)) : Json :=
  .object [(Typed.code.key, .string source), (Typed.scopeKey, .object scope)]

mutual

/-- The relaxed notation of a value. -/
def relaxed : Bson → Json
  | .null => .null
  | .undefined => tagged .undefined (.bool true)
  | .minKey => taggedOne .minKey
  | .maxKey => taggedOne .maxKey
  | .bool value => .bool value
  | .int32 value fits => .int value (range_of_fits_32 fits)
  | .int64 value fits => .int value (range_of_fits_64 fits)
  | .double value => doubleJson value
  | .decimal value => taggedText .decimal value.text
  | .string value => .string value
  | .symbol name => taggedText .symbol name
  | .code source => taggedText .code source
  | .scopedCode source scope => scopedJson source (relaxedMembers scope)
  | .regularExpression pattern options => patternJson pattern options
  | .objectId id => identifierJson id
  | .date millis _ => dateJson millis
  | .timestamp time increment => timestampJson time increment
  | .binary subtype bytes => binaryJson subtype bytes
  | .pointer collection id => pointerJson collection id
  | .array items => .array (relaxedItems items)
  | .document members => .object (relaxedMembers members)

def relaxedItems : List Bson → List Json
  | [] => []
  | item :: rest => relaxed item :: relaxedItems rest

def relaxedMembers : Document → List (String × Json)
  | [] => []
  | (key, value) :: rest => (key, relaxed value) :: relaxedMembers rest

end

/-- The canonical notation of a double. A number too small for a full significand is written as
in the relaxed notation. -/
def canonicalDouble (x : Binary64) : Json :=
  if x.isFinite ∧ (x.isZero ∨ 2 ^ 52 ≤ x.magnitudeWord) then
    taggedText .double (Layout.plainFraction.render x)
  else doubleJson x

mutual

/-- The canonical notation of a value. -/
def canonical : Bson → Json
  | .int32 value _ => taggedText .int32 (toString value)
  | .int64 value _ => taggedText .int64 (toString value)
  | .double value => canonicalDouble value
  | .date millis _ => dateNumber millis
  | .scopedCode source scope => scopedJson source (canonicalMembers scope)
  | .array items => .array (canonicalItems items)
  | .document members => .object (canonicalMembers members)
  | value => relaxed value

def canonicalItems : List Bson → List Json
  | [] => []
  | item :: rest => canonical item :: canonicalItems rest

def canonicalMembers : Document → List (String × Json)
  | [] => []
  | (key, value) :: rest => (key, canonical value) :: canonicalMembers rest

end

end DriverCompat.Bson
