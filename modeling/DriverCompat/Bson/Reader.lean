import DriverCompat.Bson.Typed

/-! # Database values from JSON

A JSON value becomes the value that looks like it, and an object with a reserved key the typed
value that it stands for. Integers take the smaller of the two widths if they fit, and become
doubles if they fit neither. The first fault, in the order of the text, is the one that counts.
-/

namespace DriverCompat.Bson

/-- The value of a number. -/
def ofNumber : Json.Number → Bson
  | .integer value _ => (integer? value).getD (.double (.ofInt value))
  | .double value _ => .double value

mutual

/-- The value that a JSON value stands for. -/
def ofJson : Json → Except Fault Bson
  | .null => .ok .null
  | .bool value => .ok (.bool value)
  | .number value => .ok (ofNumber value)
  | .string value => .ok (.string value)
  | .array items => (ofItems items).map .array
  | .object members =>
    match Typed.of? members with
    | some typed => readTyped typed members (ofScope members)
    | none => (ofMembers members).map .document

def ofItems : List Json → Except Fault (List Bson)
  | [] => .ok []
  | item :: rest =>
    match ofJson item with
    | .error fault => .error fault
    | .ok value => (ofItems rest).map (value :: ·)

def ofMembers : List (String × Json) → Except Fault Document
  | [] => .ok []
  | (key, member) :: rest =>
    match ofJson member with
    | .error fault => .error fault
    | .ok value => (ofMembers rest).map ((key, value) :: ·)

/-- The members of the scope that an object has, among which a reserved key stands for nothing. -/
def ofScope : List (String × Json) → Except Fault Document
  | [] => .ok []
  | (key, member) :: rest =>
    if key = Typed.scopeKey then
      match member with
      | .object members => ofMembers members
      | _ => .ok []
    else ofScope rest

end

end DriverCompat.Bson
