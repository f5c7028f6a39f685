import DriverCompat.Json.Value
import DriverCompat.Decimal.Layout
import DriverCompat.Text.Utf8
import DriverCompat.Text.Quoted

/-! # What can be wrong with a JSON text

A fault has a cause and a place. The place is kept as the number of bytes that were still unread,
so that readers need not count as they go; `Place.ofUnread` turns it into a line and a column of
the whole text. A fault that concerns an object or array as a whole has no place at first: it
keeps its unread text, and is placed where that object or array ends.
-/

namespace DriverCompat.Json

open Decimal Text

/-- What stood where something else was expected. -/
inductive Found where
  | null
  | bool (value : Bool)
  | integer (value : Int)
  | double (value : Binary64)
  | string (value : String)
  | sequence
  | map
deriving DecidableEq, Repr

def Found.describe (layout : Layout) : Found → String
  | .null => "null"
  | .bool value => "boolean " ++ ticked (toString value)
  | .integer value => "integer " ++ ticked (toString value)
  | .double value => "floating point " ++ ticked (layout.render value)
  | .string value => "string " ++ quoted value
  | .sequence => "sequence"
  | .map => "map"

/-- What a reader wanted to find. -/
inductive Wanted where
  | count
  | string
  | sequence
  | unit
  | variantName
  | record (name : String) (fields : Nat)
deriving DecidableEq, Repr

def Wanted.describe : Wanted → String
  | .count => "usize"
  | .string => "a string"
  | .sequence => "a sequence"
  | .unit => "unit"
  | .variantName => "variant identifier"
  | .record name _ => "struct " ++ name

/-- The causes, first those of the format and then those of the shape that was asked for. -/
inductive Cause where
  | endInList
  | endInObject
  | endInString
  | endInValue
  | missingColon
  | missingListComma
  | missingObjectComma
  | brokenWord
  | noValue
  | brokenEscape
  | brokenNumber
  | numberTooLarge
  | strayTrailingSurrogate
  | keyNotString
  | unpairedSurrogate
  | trailingComma
  | trailingText
  | rawControl
  | tooDeep
  | wrongType (found : Found) (wanted : Wanted)
  | negativeCount (value : Int)
  | wrongLength (length : Nat) (name : String) (fields : Nat)
  | missingField (name : String)
  | repeatedField (name : String)
  | unknownVariant (name : String) (known : List String)
  /-- A cause that no reader here has. -/
  | other (text : String)
deriving DecidableEq, Repr

/-- The wording of a cause. -/
def Cause.message : Cause → String
  | .endInList => "EOF while parsing a list"
  | .endInObject => "EOF while parsing an object"
  | .endInString => "EOF while parsing a string"
  | .endInValue => "EOF while parsing a value"
  | .missingColon => "expected `:`"
  | .missingListComma => "expected `,` or `]`"
  | .missingObjectComma => "expected `,` or `\x7d`"
  | .brokenWord => "expected ident"
  | .noValue => "expected value"
  | .brokenEscape => "invalid escape"
  | .brokenNumber => "invalid number"
  | .numberTooLarge => "number out of range"
  | .strayTrailingSurrogate => "lone leading surrogate in hex escape"
  | .keyNotString => "key must be a string"
  | .unpairedSurrogate => "unexpected end of hex escape"
  | .trailingComma => "trailing comma"
  | .trailingText => "trailing characters"
  | .rawControl => "control character (\\u0000-\\u001F) found while parsing a string"
  | .tooDeep => "recursion limit exceeded"
  | .wrongType found wanted =>
    "invalid type: " ++ found.describe Layout.json ++ ", expected " ++ wanted.describe
  | .negativeCount value =>
    "invalid value: " ++ (Found.integer value).describe Layout.json ++ ", expected usize"
  | .wrongLength length name fields =>
    s!"invalid length {length}, expected struct {name} with {fields} elements"
  | .missingField name => "missing field " ++ ticked name
  | .repeatedField name => "duplicate field " ++ ticked name
  | .unknownVariant name known =>
    "unknown variant " ++ ticked name ++ ", expected " ++ " or ".intercalate (known.map ticked)
  | .other text => text

/-- A fault while a text is being read. -/
inductive Fault where
  /-- A fault with its place: so many bytes were unread. -/
  | placed (cause : Cause) (unread : Nat)
  /-- A fault of an object or array as a whole, with the text from which its end is looked for. -/
  | unplaced (cause : Cause) (rest : List Char)
deriving DecidableEq, Repr

namespace Fault

/-- A fault at the front of a text. -/
def atFront (cause : Cause) (rest : List Char) : Fault := .placed cause (byteCount rest)

/-- A fault that names the first byte of a text: it is placed behind that byte. -/
def atNext (cause : Cause) (rest : List Char) : Fault := .placed cause (byteCount rest - 1)

def cause : Fault → Cause
  | .placed cause _ => cause
  | .unplaced cause _ => cause

/-- How many bytes were unread. -/
def unread : Fault → Nat
  | .placed _ unread => unread
  | .unplaced _ rest => byteCount rest

end Fault

/-- A line, counted from one, and the number of bytes read on it. -/
structure Place where
  line : Nat
  column : Nat
deriving DecidableEq, Repr

namespace Place

/-- The place behind the first `count` bytes of a text, from the place of its front on. -/
def after (place : Place) : Nat → List Char → Place
  | 0, _ => place
  | count, [] => ⟨place.line, place.column + count⟩
  | count, c :: rest =>
    if c = '\n' then after ⟨place.line + 1, 0⟩ (count - 1) rest
    else after ⟨place.line, place.column + min count c.utf8Size⟩ (count - c.utf8Size) rest

/-- The place in a text with `unread` bytes behind it. -/
def ofUnread (text : List Char) (unread : Nat) : Place :=
  after ⟨1, 0⟩ (byteCount text - unread) text

end Place

/-- A fault with its place in the whole text, if it lies in a text. -/
structure Rejection where
  cause : Cause
  place : Option Place
deriving DecidableEq, Repr

namespace Rejection

def ofFault (text : List Char) (fault : Fault) : Rejection :=
  ⟨fault.cause, some (Place.ofUnread text fault.unread)⟩

def message (rejection : Rejection) : String :=
  match rejection.place with
  | some place => s!"{rejection.cause.message} at line {place.line} column {place.column}"
  | none => rejection.cause.message

end Rejection

end DriverCompat.Json
