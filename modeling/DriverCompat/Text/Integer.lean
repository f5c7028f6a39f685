import DriverCompat.Text.Digit

/-! # Integers in texts

Integers of some bits, in decimal digits with a sign at most. They are read digit by digit: the
first character that is no digit, or that takes the number out of its range, decides the fault.
-/

namespace DriverCompat.Text

/-- Why a text is no integer of a range. -/
inductive IntegerFault where
  | empty
  | notADigit
  | tooLarge
  | tooSmall
deriving DecidableEq, Repr

namespace IntegerFault

def message : IntegerFault → String
  | .empty => "cannot parse integer from empty string"
  | .notADigit => "invalid digit found in string"
  | .tooLarge => "number too large to fit in target type"
  | .tooSmall => "number too small to fit in target type"

end IntegerFault

/-- The number of some digits behind those that wrote `value`, if it stays below a limit. -/
def digitsFrom (limit : Nat) (beyond : IntegerFault) (value : Nat) :
    List Char → Except IntegerFault Nat
  | [] => .ok value
  | c :: rest =>
    if !isDigit c then .error .notADigit
    else if limit ≤ value * 10 + digitValue c then .error beyond
    else digitsFrom limit beyond (value * 10 + digitValue c) rest

/-- The number of at least one digit, if it stays below a limit. -/
def digitsBelow (limit : Nat) (beyond : IntegerFault) (digits : List Char) :
    Except IntegerFault Nat :=
  if digits.isEmpty then .error .notADigit else digitsFrom limit beyond 0 digits

/-- A number of some bits, with a plus sign at most. -/
def unsignedInteger (bits : Nat) (text : List Char) : Except IntegerFault Nat :=
  match text with
  | [] => .error .empty
  | '+' :: digits => digitsBelow (2 ^ bits) .tooLarge digits
  | digits => digitsBelow (2 ^ bits) .tooLarge digits

/-- A number of some bits, one of them for its sign. -/
def signedInteger (bits : Nat) (text : List Char) : Except IntegerFault Int :=
  match text with
  | [] => .error .empty
  | '-' :: digits => (digitsBelow (2 ^ (bits - 1) + 1) .tooSmall digits).map fun n => -(n : Int)
  | '+' :: digits => (digitsBelow (2 ^ (bits - 1)) .tooLarge digits).map fun n => (n : Int)
  | digits => (digitsBelow (2 ^ (bits - 1)) .tooLarge digits).map fun n => (n : Int)

end DriverCompat.Text
