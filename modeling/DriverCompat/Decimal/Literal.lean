import DriverCompat.Decimal.Binary64
import DriverCompat.Text.Digit

/-! # Numbers from their texts

A number may be written with a sign, a fraction and an exponent; there has to be a digit before or
behind the point. Infinity and what is not a number have names, in any case. As a double, a number
is rounded once, to the nearest one.
-/

namespace DriverCompat.Decimal

open Text

/-- What a text writes behind its sign. -/
inductive Literal where
  | nan
  | infinity
  /-- Digits, so many of them behind the point, and the power of ten that goes with them. -/
  | numeral (digits places : Nat) (exponent : Int)
deriving DecidableEq, Repr

namespace Literal

/-- The exponent with which a text ends; there is none in an empty text. -/
def exponent? : List Char → Option Int
  | [] => some 0
  | c :: rest =>
    if c = 'e' ∨ c = 'E' then
      let (negative, digits) := signed rest
      (decimal? digits).map fun n : Nat => if negative then -(n : Int) else n
    else none

/-- The digits behind a point, if there is one, and the rest. -/
def fractionDigits : List Char → List Char × List Char
  | '.' :: rest => (rest.takeWhile isDigit, rest.dropWhile isDigit)
  | rest => ([], rest)

/-- The digits of a text, with its exponent. -/
def numeral? (text : List Char) : Option Literal :=
  let whole := text.takeWhile isDigit
  let (fraction, rest) := fractionDigits (text.dropWhile isDigit)
  if whole.isEmpty ∧ fraction.isEmpty then none
  else (exponent? rest).map (.numeral (decimalValue (whole ++ fraction)) fraction.length)

/-- What a text without a sign writes. -/
def ofMagnitude? (text : List Char) : Option Literal :=
  let name := String.ofList (text.map Char.toLower)
  if name = "nan" then some .nan
  else if name = "inf" ∨ name = "infinity" then some .infinity
  else numeral? text

/-- What a text writes, with whether there is a minus sign in front of it. -/
def ofText? (text : List Char) : Option (Bool × Literal) :=
  let (negative, rest) := signed text
  (ofMagnitude? rest).map (negative, ·)

end Literal

namespace Binary64

def negated (negative : Bool) (x : Binary64) : Binary64 :=
  if negative then ofSigned true x.magnitudeWord else x

def ofLiteral (negative : Bool) : Literal → Binary64
  | .nan => negated negative nan
  | .infinity => infinity negative
  | .numeral digits places exponent => ofScientific negative digits (exponent - places)

/-- The double that a text writes. -/
def ofText? (text : List Char) : Option Binary64 :=
  (Literal.ofText? text).map fun (negative, literal) => ofLiteral negative literal

end Binary64

end DriverCompat.Decimal
