import DriverCompat.Bson.Value

/-! # Texts that end with a zero

Keys and regular expressions are stored up to a byte that is zero, so they cannot hold the
character zero themselves. Strings are stored with their length and can.
-/

namespace DriverCompat.Bson

/-- Whether a text holds the character that ends stored texts. -/
def holdsZero (text : String) : Bool := text.toList.any (· == '\x00')

mutual

/-- The first text of a value that cannot be stored. -/
def unstorable? : Bson → Option String
  | .regularExpression pattern options => [pattern, options].find? holdsZero
  | .scopedCode _ scope => unstorableMember? scope
  | .array items => unstorableItem? items
  | .document members => unstorableMember? members
  | _ => none

def unstorableItem? : List Bson → Option String
  | [] => none
  | item :: rest => (unstorable? item).or (unstorableItem? rest)

def unstorableMember? : Document → Option String
  | [] => none
  | (key, value) :: rest =>
    if holdsZero key then some key else (unstorable? value).or (unstorableMember? rest)

end

end DriverCompat.Bson
