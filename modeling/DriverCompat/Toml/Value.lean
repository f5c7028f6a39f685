import DriverCompat.Decimal.Binary64
import DriverCompat.Toml.Fault

/-! # TOML values

A table remembers how it came to be, since that decides which later lines may add to it, and
every key remembers where it and its value stand. A place is kept as the number of characters
that were unread there.
-/

namespace DriverCompat.Toml

open Decimal

/-- How a table came to be. -/
inductive Origin where
  /-- By a header of its own. -/
  | header
  /-- By a longer header. -/
  | implied
  /-- By a dotted key. -/
  | dotted
  /-- By braces; nothing can be added to it. -/
  | inline
deriving DecidableEq, Repr

/-- A key, with the places of itself and of its value. -/
structure Key where
  name : String
  keyAt : Nat
  valueAt : Nat
deriving DecidableEq, Repr

/-- A value. Of dates and times nothing is kept. -/
inductive Value where
  | string (value : String)
  | integer (value : Int)
  | double (value : Binary64)
  | boolean (value : Bool)
  | dateTime
  | array (items : List Value)
  | table (origin : Origin) (entries : List (Key × Value))
  /-- Tables under one header in double brackets. -/
  | tables (tables : List (List (Key × Value)))
deriving Inhabited

/-- The entries of a table, in order. -/
abbrev Entries := List (Key × Value)

/-- How a value is described where another was wanted. -/
def Value.found : Value → Json.Found
  | .string value => .string value
  | .integer value => .integer value
  | .double value => .double value
  | .boolean value => .bool value
  | .dateTime => .map
  | .array _ => .sequence
  | .table _ _ => .map
  | .tables _ => .sequence

/-- A cause together with the number of characters that were unread where it lies. -/
structure Stop where
  cause : Cause
  unread : Nat
deriving DecidableEq, Repr

namespace Stop

/-- The line and the column, counted from one, of the place behind `count` characters. The end of
a text counts as one column behind its last character, on that character's line. A character that
takes several bytes is counted by the bytes before it. -/
def lineAndColumn (text : List Char) (count : Nat) : Nat × Nat :=
  let behind := if text.length ≤ count then 1 else 0
  let before := text.take (count - behind)
  let lineOf := (before.reverse.takeWhile (· != '\n')).reverse
  let wide := behind == 0 && text[count]?.any fun c => 1 < c.utf8Size
  let columns := if wide then Text.byteCount lineOf else lineOf.length
  ((before.filter (· == '\n')).length + 1, columns + behind + 1)

end Stop

/-- What is said about a cause in a text below the line that introduces it: the line of the text
where it lies, marks under it, and the wording. -/
abbrev Remarks := List Char → Stop → String

/-- The fault in a whole text. -/
def Stop.inText (remarks : Remarks) (text : List Char) (stop : Stop) : Fault :=
  let (line, column) := lineAndColumn text (text.length - stop.unread)
  ⟨stop.cause, heading line column ++ "\n" ++ remarks text stop⟩

end DriverCompat.Toml
