import DriverCompat.Arithmetic

/-! # Decimal digits -/

namespace DriverCompat.Text

def isDigit (c : Char) : Bool := '0' ≤ c && c ≤ '9'

def digitValue (c : Char) : Nat := c.toNat - 48

/-- The number that digits write in a base, the most significant first. -/
def numberOf (base : Nat) (digits : List Nat) : Nat :=
  digits.foldl (fun value digit => value * base + digit) 0

/-- The number that decimal digits write. -/
def decimalValue (digits : List Char) : Nat := numberOf 10 (digits.map digitValue)

/-- The number of a text that is nothing but decimal digits, at least one. -/
def decimal? (text : List Char) : Option Nat :=
  if !text.isEmpty && text.all isDigit then some (decimalValue text) else none

/-- Whether there is a minus sign in front of a text, and the text behind a sign if it has one. -/
def signed : List Char → Bool × List Char
  | '-' :: rest => (true, rest)
  | '+' :: rest => (false, rest)
  | rest => (false, rest)

/-- The decimal digits of a number, filled with zeros to `width` digits. -/
def paddedDecimal (width n : Nat) : List Char :=
  let digits := Nat.toDigits 10 n
  List.replicate (width - digits.length) '0' ++ digits

/-- The number of the first `count` characters, if they are digits, and the rest of the text. -/
def takeNumber? (count : Nat) (text : List Char) : Option (Nat × List Char) :=
  let digits := text.take count
  if digits.length = count ∧ digits.all isDigit then some (decimalValue digits, text.drop count)
  else none

end DriverCompat.Text
