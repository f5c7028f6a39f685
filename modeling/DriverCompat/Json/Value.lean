import DriverCompat.Decimal.Binary64

/-! # JSON values

Numbers keep the distinction between integers and doubles, and objects keep the order of their
members. Equality of values sees the first and not the second: `30` and `30.0` differ, the two
zeros of the doubles do not, and two objects are equal when each key leads to equal values.
-/

namespace DriverCompat

open Decimal (Binary64)

namespace Json

/-- A number is an integer that fits into 64 bits, signed or unsigned, or a finite double. -/
inductive Number where
  | integer (value : Int) (range : -2 ^ 63 ≤ value ∧ value < 2 ^ 64)
  | double (value : Binary64) (finite : value.isFinite = true)
deriving DecidableEq, Repr

end Json

/-- A JSON value. -/
inductive Json where
  | null
  | bool (value : Bool)
  | number (value : Json.Number)
  | string (value : String)
  | array (items : List Json)
  | object (members : List (String × Json))
deriving Repr, Inhabited

/-- The members of an object, in order. -/
abbrev Document := List (String × Json)

namespace Document

/-- The value of a key. -/
def get? (document : Document) (key : String) : Option Json := document.lookup key

/-- The document with a value for a key: in the old value's place, or at the end. -/
def insert (document : Document) (key : String) (value : Json) : Document :=
  match document with
  | [] => [(key, value)]
  | (k, v) :: rest => if k = key then (key, value) :: rest else (k, v) :: insert rest key value

/-- The document of a sequence of members, a later member taking the place of an earlier one
with the same key. -/
def ofMembers (members : List (String × Json)) : Document :=
  members.foldl (fun document (key, value) => document.insert key value) []

/-- After a value was inserted, its key leads to it and every other key leads where it led. -/
theorem get?_insert (document : Document) (key other : String) (value : Json) :
    (document.insert key value).get? other =
      if other = key then some value else document.get? other := by
  induction document with
  | nil => simp only [insert, get?, List.lookup_cons, List.lookup_nil]; grind
  | cons member rest ih =>
    obtain ⟨held, old⟩ := member
    simp only [get?] at ih ⊢
    unfold insert
    split <;> simp only [List.lookup_cons, ih] <;> grind

end Document

namespace Json

namespace Number

/-- The integer with a value, if it fits. -/
def ofInt? (i : Int) : Option Number :=
  if h : -2 ^ 63 ≤ i ∧ i < 2 ^ 64 then some (.integer i h) else none

/-- The number with the value of a double, if that is finite. -/
def ofBinary64? (x : Binary64) : Option Number :=
  if h : x.isFinite = true then some (.double x h) else none

/-- An integer and a double are different values, even when they are the same number. -/
def same : Number → Number → Bool
  | .integer a _, .integer b _ => a == b
  | .double a _, .double b _ => a.sameValue b
  | _, _ => false

/-- Whether the number is the integer `i`, as an integer or as a double. -/
def isEqualTo (n : Number) (i : Int) : Bool :=
  match n with
  | .integer value _ => value == i
  | .double value _ => value.toInt? == some i

end Number

/-- The integer value of a number that is one. -/
def int (i : Int) (range : -2 ^ 63 ≤ i ∧ i < 2 ^ 64) : Json := .number (.integer i range)

mutual

/-- Equality of values. -/
def same : Json → Json → Bool
  | .null, .null => true
  | .bool a, .bool b => a == b
  | .number a, .number b => a.same b
  | .string a, .string b => a == b
  | .array a, .array b => sameItems a b
  | .object a, .object b => a.length == b.length && sameMembers a b
  | _, _ => false

def sameItems : List Json → List Json → Bool
  | [], [] => true
  | a :: as, b :: bs => a.same b && sameItems as bs
  | _, _ => false

/-- Whether each of the members has an equal value in the other object. -/
def sameMembers : List (String × Json) → List (String × Json) → Bool
  | [], _ => true
  | (key, value) :: rest, other =>
    (match other.lookup key with
      | some found => value.same found
      | none => false) && sameMembers rest other

end

def asString? : Json → Option String
  | .string s => some s
  | _ => none

def asObject? : Json → Option Document
  | .object members => some members
  | _ => none

end Json

end DriverCompat
