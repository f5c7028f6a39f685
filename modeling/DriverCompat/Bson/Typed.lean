import DriverCompat.Bson.Fault
import DriverCompat.Calendar.Instant
import DriverCompat.Decimal.Literal
import DriverCompat.Text.Base64
import DriverCompat.Text.Split

/-! # Typed values in JSON

Values that JSON has no notation for are objects with a reserved key, as `{"$oid": …}`. Each
reserved key has a form: what members the object has, and what their texts and numbers mean.
-/

namespace DriverCompat.Bson

/-- The types that a reserved key stands for, in the order in which the keys are looked for. -/
inductive Typed where
  | objectId
  | symbol
  | regularExpression
  | int32
  | int64
  | double
  | decimal
  | binary
  | uuid
  | code
  | timestamp
  | date
  | minKey
  | maxKey
  | pointer
  | undefined
deriving DecidableEq, Repr

namespace Typed

def all : List Typed :=
  [.objectId, .symbol, .regularExpression, .int32, .int64, .double, .decimal, .binary, .uuid,
    .code, .timestamp, .date, .minKey, .maxKey, .pointer, .undefined]

/-- The reserved key. -/
def key : Typed → String
  | .objectId => "$oid"
  | .symbol => "$symbol"
  | .regularExpression => "$regularExpression"
  | .int32 => "$numberInt"
  | .int64 => "$numberLong"
  | .double => "$numberDouble"
  | .decimal => "$numberDecimal"
  | .binary => "$binary"
  | .uuid => "$uuid"
  | .code => "$code"
  | .timestamp => "$timestamp"
  | .date => "$date"
  | .minKey => "$minKey"
  | .maxKey => "$maxKey"
  | .pointer => "$dbPointer"
  | .undefined => "$undefined"

/-- The key of the free variables of code, which may stand beside its own. -/
def scopeKey : String := "$scope"

/-- The type of an object: the first one whose key it has. -/
def of? (members : List (String × Json)) : Option Typed :=
  all.find? fun typed => members.any fun member => member.1 == typed.key

end Typed

/-! ## Members and items -/

/-- A reader of a JSON value. -/
abbrev Reading (α : Type) := Json → Except Fault α

variable {α β : Type}

/-- How a value is described. -/
def foundOf : Json → Json.Found
  | .null => .null
  | .bool value => .bool value
  | .number (.integer value _) => .integer value
  | .number (.double value _) => .double value
  | .string value => .string value
  | .array _ => .sequence
  | .object _ => .map

def mismatch (expected : Expected) (value : Json) : Fault := .wrongType (foundOf value) expected

def readText : Reading String
  | .string value => .ok value
  | value => .error (mismatch .string value)

def readBoolean : Reading Bool
  | .bool value => .ok value
  | value => .error (mismatch .boolean value)

/-- A number of some bits. -/
def readWord (bits : Nat) : Reading Nat
  | .number (.integer value _) =>
    if 0 ≤ value ∧ value < 2 ^ bits then .ok value.toNat
    else .error (.wrongValue (.integer value) (.word bits))
  | value => .error (mismatch (.word bits) value)

/-- The only member of an object, behind those that were read. -/
def readOnly (key : String) (read : Reading α) (value : Option α) :
    List (String × Json) → Except Fault α
  | [] =>
    match value with
    | some value => .ok value
    | none => .error (.missingMember key)
  | (name, member) :: rest =>
    if name = key then do readOnly key read (some (← read member)) rest
    else .error (.unknownMember name [key])

/-- The two members of an object, behind those that were read. -/
def readBoth (key other : String) (read : Reading α) (readOther : Reading β)
    (value : Option α) (second : Option β) : List (String × Json) → Except Fault (α × β)
  | [] =>
    match value, second with
    | some value, some second => .ok (value, second)
    | none, _ => .error (.missingMember key)
    | _, none => .error (.missingMember other)
  | (name, member) :: rest =>
    if name = key then do readBoth key other read readOther (some (← read member)) second rest
    else if name = other then do
      readBoth key other read readOther value (some (← readOther member)) rest
    else .error (.unknownMember name [key, other])

/-- A record of one field: an object with that member, or an array with that item. -/
def readRecord (name key : String) (read : Reading α) : Reading α
  | .object members => readOnly key read none members
  | .array [] => .error (.tooFewItems 0 name 1)
  | .array (item :: rest) => do
    let value ← read item
    if rest.isEmpty then return value else .error (.tooManyItems (rest.length + 1))
  | value => .error (mismatch (.record name) value)

/-- A record of two fields: an object with these members, or an array with these items. -/
def readPair (name key other : String) (read : Reading α) (readOther : Reading β) :
    Reading (α × β)
  | .object members => readBoth key other read readOther none none members
  | .array [] => .error (.tooFewItems 0 name 2)
  | .array [item] => do
    let _ ← read item
    .error (.tooFewItems 1 name 2)
  | .array (item :: second :: rest) => do
    let value ← read item
    let other ← readOther second
    if rest.isEmpty then return (value, other) else .error (.tooManyItems (rest.length + 2))
  | value => .error (mismatch (.record name) value)

/-! ## What the members mean -/

/-- The fault of a text that does not mean what it should. -/
def meaningless (text description : String) : Fault :=
  .wrongValue (.string text) (.meaning description)

/-- An integer with a sign at most, that fits into some bits. -/
def signedInteger? (bits : Nat) (text : String) : Option { i : Int // Fits bits i } := do
  let (negative, digits) := Text.signed text.toList
  let n ← Text.decimal? digits
  let i : Int := if negative then -n else n
  if fits : Fits bits i then some ⟨i, fits⟩ else none

def readInt32 (text : String) : Except Fault Bson :=
  match signedInteger? 32 text with
  | some i => .ok (.int32 i.1 i.2)
  | none => .error (meaningless text "i32 as a string")

def readInt64 (text : String) : Except Fault { i : Int // Fits 64 i } :=
  match signedInteger? 64 text with
  | some i => .ok i
  | none => .error (meaningless text "i64 as a string")

def readDouble (text : String) : Except Fault Bson :=
  match Decimal.Binary64.ofText? text.toList with
  | some x => .ok (.double x)
  | none => .error (meaningless text "bson double as string")

def readDecimal (text : String) : Except Fault Bson :=
  match Decimal.Decimal128.ofText? text.toList with
  | some x => .ok (.decimal x)
  | none => .error (meaningless text "bson decimal128 as string")

def readIdentifier (digits : String) : Except Fault ObjectId :=
  (ObjectId.ofHex digits).mapError .identifier

/-- Bytes, with the hexadecimal number of their subtype. -/
def readBinary (base64 subtype : String) : Except Fault Bson :=
  match Text.Base64.decode? base64.toList, Text.bytesOfHex (Text.encode subtype.toList) with
  | none, _ => .error (meaningless base64 "base64 encoded bytes")
  | some _, .error _ => .error (meaningless subtype "hexadecimal number as a string")
  | some bytes, .ok [subtype] => .ok (.binary subtype bytes)
  | some _, .ok _ => .error .wrongSubtype

/-- The subtype of bytes that are a universal identifier. -/
def uuidSubtype : UInt8 := 4

/-- The digits of a universal identifier with four dashes at their places. -/
def dashed? (text : List Char) : Option (List Char) :=
  let groups := Text.splitOn '-' text
  if groups.map List.length = [8, 4, 4, 4, 12] then some groups.flatten else none

/-- The digits of a universal identifier: all thirty-two together, or with dashes, and then also
in braces or behind the prefix of its name. -/
def uuidDigits? (text : List Char) : Option (List Char) :=
  let named := "urn:uuid:".toList
  if text.length = 32 then some text
  else if text.length = 36 then dashed? text
  else if text.length = 38 ∧ text.head? = some '{' ∧ text.getLast? = some '}' then
    dashed? (text.drop 1).dropLast
  else if text.length = 45 ∧ named.isPrefixOf text then dashed? (text.drop named.length)
  else none

def readUuid (text : String) : Except Fault Bson :=
  let bytes? := (uuidDigits? text.toList).bind fun digits =>
    (Text.bytesOfHex (Text.encode digits)).toOption
  match bytes? with
  | some bytes => .ok (.binary uuidSubtype bytes)
  | none =>
    .error (meaningless text
      "$uuid value does not follow RFC 4122 format regarding length and hyphens")

/-- The ways to write an instant: a number of milliseconds as a text or as it is, or a
timestamp. -/
def readDate (value : Json) : Except Fault Bson :=
  match value with
  | .string text =>
    match Calendar.ofTimestamp? text.toList with
    | some millis =>
      if fits : Fits 64 millis then .ok (.date millis fits)
      else .error (meaningless text "rfc3339 formatted utc datetime")
    | none => .error (meaningless text "rfc3339 formatted utc datetime")
  | .number (.integer millis _) =>
    if fits : Fits 64 millis then .ok (.date millis fits) else .error .noDate
  | value =>
    match readRecord "Int64" Typed.int64.key readText value with
    | .ok text => (readInt64 text).map fun i => .date i.1 i.2
    | .error _ => .error .noDate

/-- A value that is always the same: the number one. -/
def readOne (typed : Typed) (result : Bson) (n : Nat) : Except Fault Bson :=
  if n = 1 then .ok result
  else .error (.wrongValue (.integer n) (.meaning s!"value of {typed.key} should always be 1"))

def readUndefined (value : Bool) : Except Fault Bson :=
  if value then .ok .undefined
  else .error (.wrongValue (.bool false) (.meaning "$undefined should always be true"))

/-- The members of code: its text, and perhaps its free variables, which are not read yet. -/
def readCode (source : Option String) (bound : Bool) :
    List (String × Json) → Except Fault (String × Bool)
  | [] =>
    match source with
    | some source => .ok (source, bound)
    | none => .error (.missingMember Typed.code.key)
  | (name, member) :: rest =>
    if name = Typed.code.key then do readCode (some (← readText member)) bound rest
    else if name = Typed.scopeKey then
      match member with
      | .null => readCode source bound rest
      | .object _ => readCode source true rest
      | member => .error (mismatch .map member)
    else .error (.unknownMember name [Typed.code.key, Typed.scopeKey])

/-- The value of an object with the key of a type; the scope of code has been read already. -/
def readTyped (typed : Typed) (members : List (String × Json))
    (scope : Except Fault Bson.Document) : Except Fault Bson := do
  let only {α : Type} (read : Reading α) := readOnly typed.key read none members
  match typed with
  | .objectId => return .objectId (← readIdentifier (← only readText))
  | .symbol => return .symbol (← only readText)
  | .regularExpression =>
    let (pattern, options) ← only (readPair "RegexBody" "pattern" "options" readText readText)
    return ofPattern pattern options
  | .int32 => readInt32 (← only readText)
  | .int64 =>
    let i ← readInt64 (← only readText)
    return .int64 i.1 i.2
  | .double => readDouble (← only readText)
  | .decimal => readDecimal (← only readText)
  | .binary =>
    let (base64, subtype) ← only (readPair "BinaryBody" "base64" "subType" readText readText)
    readBinary base64 subtype
  | .uuid => readUuid (← only readText)
  | .code =>
    let (source, bound) ← readCode none false members
    if bound then return .scopedCode source (← scope) else return .code source
  | .timestamp =>
    let (time, increment) ← only (readPair "TimestampBody" "t" "i" (readWord 32) (readWord 32))
    return .timestamp (UInt32.ofNat time) (UInt32.ofNat increment)
  | .date => readDate (← only pure)
  | .minKey => readOne typed .minKey (← only (readWord 8))
  | .maxKey => readOne typed .maxKey (← only (readWord 8))
  | .pointer =>
    let readId := readRecord "ObjectId" Typed.objectId.key readText
    let (collection, digits) ← only (readPair "DbPointerBody" "$ref" "$id" readText readId)
    return .pointer collection (← readIdentifier digits)
  | .undefined => readUndefined (← only readBoolean)

end DriverCompat.Bson
