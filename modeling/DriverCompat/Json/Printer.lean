import DriverCompat.Json.Value
import DriverCompat.Decimal.Layout
import DriverCompat.Text.Hex

/-! # Writing JSON

The compact form has no white space at all. The indented form puts every element and member on
a line of its own, two spaces deeper than its container, and a space after each colon; an empty
container is closed at once.
-/

namespace DriverCompat.Json

open Decimal Text

/-- A character inside a string: quotes, backslashes and control characters are escaped, the
control characters without a short escape by their code, and all others stand for themselves. -/
def escape (c : Char) : List Char :=
  match c with
  | '"' => ['\\', '"']
  | '\\' => ['\\', '\\']
  | '\n' => ['\\', 'n']
  | '\r' => ['\\', 'r']
  | '\t' => ['\\', 't']
  | '\x08' => ['\\', 'b']
  | '\x0c' => ['\\', 'f']
  | c => if c.toNat < 0x20 then '\\' :: 'u' :: paddedHex 4 c.toNat else [c]

/-- A string with its quotes. -/
def quote (text : String) : List Char := '"' :: (text.toList.flatMap escape ++ ['"'])

def Number.render : Number → List Char
  | .integer value _ => (toString value).toList
  | .double value _ => (Layout.json.render value).toList

mutual

/-- The compact form. -/
def compact : Json → List Char
  | .null => "null".toList
  | .bool true => "true".toList
  | .bool false => "false".toList
  | .number n => n.render
  | .string s => quote s
  | .array items => '[' :: (compactItems items ++ [']'])
  | .object members => '{' :: (compactMembers members ++ ['}'])

def compactItems : List Json → List Char
  | [] => []
  | [item] => item.compact
  | item :: rest => item.compact ++ ',' :: compactItems rest

def compactMembers : List (String × Json) → List Char
  | [] => []
  | [(key, value)] => quote key ++ ':' :: value.compact
  | (key, value) :: rest => quote key ++ ':' :: (value.compact ++ ',' :: compactMembers rest)

end

/-- A new line at a depth. -/
def newLine (depth : Nat) : List Char := '\n' :: List.replicate (2 * depth) ' '

mutual

/-- The indented form of a value that stands at a depth. -/
def indentedAt (depth : Nat) : Json → List Char
  | .array (item :: rest) =>
    '[' :: (newLine (depth + 1) ++ indentedAt (depth + 1) item ++ indentedItems (depth + 1) rest ++
      newLine depth ++ [']'])
  | .object ((key, value) :: rest) =>
    '{' :: (newLine (depth + 1) ++ quote key ++ ':' :: ' ' :: indentedAt (depth + 1) value ++
      indentedMembers (depth + 1) rest ++ newLine depth ++ ['}'])
  | value => value.compact

def indentedItems (depth : Nat) : List Json → List Char
  | [] => []
  | item :: rest => ',' :: (newLine depth ++ indentedAt depth item ++ indentedItems depth rest)

def indentedMembers (depth : Nat) : List (String × Json) → List Char
  | [] => []
  | (key, value) :: rest =>
    ',' :: (newLine depth ++ quote key ++ ':' :: ' ' :: indentedAt depth value ++
      indentedMembers depth rest)

end

/-- The indented form. -/
def indented (value : Json) : List Char := indentedAt 0 value

def compactText (value : Json) : String := String.ofList value.compact

def indentedText (value : Json) : String := String.ofList value.indented

end DriverCompat.Json
