import DriverCompat.Decimal.Layout
import DriverCompat.Decimal.Literal

/-! # Decimal numbers of 128 bits

A word holds a sign, a coefficient of up to thirty-four digits, and a power of ten. Other words are
infinite or stand for no number. A text has to give a number exactly: its zeros may go to make room
for its other digits, but no other digit may.
-/

namespace DriverCompat.Decimal

/-- A decimal number of 128 bits, by the word that represents it. -/
structure Decimal128 where
  word : BitVec 128
deriving DecidableEq, Repr

namespace Decimal128

/-- How many digits a coefficient can have. -/
def maxDigits : Nat := 34

def minExponent : Int := -6176

def maxExponent : Int := 6111

/-- A coefficient with a power of ten. Magnitudes that are equal as numbers, such as one and ten
tenths, are kept apart. -/
structure Magnitude where
  coefficient : Nat
  exponent : Int
  coefficient_lt : coefficient < 10 ^ maxDigits
  range : minExponent ≤ exponent ∧ exponent ≤ maxExponent
deriving DecidableEq, Repr

/-- What a word stands for. -/
inductive Value where
  /-- Not a number. -/
  | nan (negative : Bool)
  | infinity (negative : Bool)
  | finite (negative : Bool) (magnitude : Magnitude)
deriving DecidableEq, Repr

/-! ## Words -/

/-- The bits of the word from `low` on, `width` of them. -/
def field (x : Decimal128) (low width : Nat) : Nat := x.word.toNat / 2 ^ low % 2 ^ width

def isNegative (x : Decimal128) : Bool := x.field 127 1 = 1

/-- The magnitude with an exponent that is counted from the least one on. A coefficient with too
many digits is taken for zero. -/
def Magnitude.ofFields (exponent coefficient : Nat) (small : exponent < 12288) : Magnitude where
  coefficient := if coefficient < 10 ^ maxDigits then coefficient else 0
  exponent := minExponent + exponent
  coefficient_lt := by
    split
    · assumption
    · decide
  range := by
    simp only [minExponent, maxExponent]
    omega

theorem field_lt_of_small {x : Decimal128} (small : x.field 125 2 ≠ 3) :
    x.field 113 14 < 12288 := by
  simp only [field] at *
  omega

theorem field_lt_of_large {x : Decimal128} (number : x.field 122 5 ≠ 31)
    (finite : x.field 122 5 ≠ 30) (large : x.field 125 2 = 3) : x.field 111 14 < 12288 := by
  simp only [field] at *
  omega

/-- What the word stands for. Its exponent begins with the second bit; if that and the next one are
set it begins two bits later, and the coefficient has too many digits. -/
def value (x : Decimal128) : Value :=
  if nan : x.field 122 5 = 31 then .nan x.isNegative
  else if infinite : x.field 122 5 = 30 then .infinity x.isNegative
  else if large : x.field 125 2 = 3 then
    .finite x.isNegative (.ofFields (x.field 111 14) (10 ^ maxDigits)
      (field_lt_of_large nan infinite large))
  else
    .finite x.isNegative (.ofFields (x.field 113 14) (x.field 0 113) (field_lt_of_small large))

/-- The word with a sign in front of its other bits. -/
def ofSigned (negative : Bool) (magnitude : Nat) : Decimal128 :=
  ⟨.ofNat 128 (if negative then 2 ^ 127 + magnitude else magnitude)⟩

/-- The word that stands for a value. -/
def ofValue : Value → Decimal128
  | .nan negative => ofSigned negative (31 * 2 ^ 122)
  | .infinity negative => ofSigned negative (30 * 2 ^ 122)
  | .finite negative magnitude => ofSigned negative
    ((magnitude.exponent - minExponent).toNat * 2 ^ 113 + magnitude.coefficient)

/-! ## Texts -/

namespace Magnitude

/-- The text of a magnitude, positional unless it ends in zeros that are no digits or begins with
more than five behind the point. -/
def text (magnitude : Magnitude) : String :=
  let digits := Nat.toDigits 10 magnitude.coefficient
  let exponent := magnitude.exponent + digits.length - 1
  if magnitude.exponent ≤ 0 ∧ -6 ≤ exponent then Layout.place false digits (exponent + 1)
  else Layout.withExponent 'E' digits exponent

/-- The magnitude with this coefficient and power of ten, if there is room for them. -/
def of? (coefficient : Nat) (exponent : Int) : Option Magnitude :=
  if room : coefficient < 10 ^ maxDigits ∧ minExponent ≤ exponent ∧ exponent ≤ maxExponent then
    some ⟨coefficient, exponent, room.1, room.2⟩
  else none

/-- The magnitude that is exactly this coefficient times this power of ten. What has too many digits
or too small an exponent loses zeros at its end, and what has too large an exponent gets some. -/
def unrounded? (coefficient : Nat) (exponent : Int) : Option Magnitude :=
  let lost := max ((Nat.toDigits 10 coefficient).length - maxDigits) (minExponent - exponent).toNat
  let gained := (exponent + lost - maxExponent).toNat
  if 10 ^ lost ∣ coefficient then
    of? (coefficient / 10 ^ lost * 10 ^ gained) (exponent + lost - gained)
  else none

end Magnitude

/-- Whether an exponent fits into sixteen bits, as it has to while a text is being read. -/
def isShort (exponent : Int) : Bool := -2 ^ 15 ≤ exponent ∧ exponent < 2 ^ 15

namespace Value

/-- The text of a value. What is not a number does not show its sign. -/
def text : Value → String
  | .nan _ => "NaN"
  | .infinity negative => (if negative then "-" else "") ++ "Infinity"
  | .finite negative magnitude => (if negative then "-" else "") ++ magnitude.text

def ofLiteral? (negative : Bool) : Literal → Option Value
  | .nan => some (.nan negative)
  | .infinity => some (.infinity negative)
  | .numeral digits places exponent =>
    if isShort exponent ∧ isShort (exponent - places) then
      (Magnitude.unrounded? digits (exponent - places)).map (.finite negative)
    else none

end Value

/-- The text of a decimal number. -/
def text (x : Decimal128) : String := x.value.text

/-- The decimal number that a text writes. -/
def ofText? (text : List Char) : Option Decimal128 := do
  let (negative, literal) ← Literal.ofText? text
  return ofValue (← Value.ofLiteral? negative literal)

end Decimal128

end DriverCompat.Decimal
