import DriverCompat.Arithmetic

/-! # Double precision numbers

A double is its 64-bit word. Every operation is exact integer arithmetic on the fields of the
word followed by one rounding to nearest, ties to even, so that the numbers can be computed with
in proofs as well as at run time.
-/

namespace DriverCompat.Decimal

/-- A double precision number, by the word that represents it. -/
structure Binary64 where
  bits : UInt64
deriving DecidableEq, Repr, Inhabited

namespace Binary64

/-- The word of positive infinity; the words above it, up to the sign bit, are not numbers. -/
def infinityWord : Nat := 0x7FF0000000000000

def signWord : Nat := 0x8000000000000000

/-- The word without its sign bit. -/
def magnitudeWord (x : Binary64) : Nat := x.bits.toNat % signWord

def isNegative (x : Binary64) : Bool := signWord ≤ x.bits.toNat

def isFinite (x : Binary64) : Bool := x.magnitudeWord < infinityWord

def isInfinite (x : Binary64) : Bool := x.magnitudeWord == infinityWord

def isNaN (x : Binary64) : Bool := infinityWord < x.magnitudeWord

def isZero (x : Binary64) : Bool := x.magnitudeWord == 0

/-- The integer `m` such that a finite number has the magnitude `m * 2 ^ x.scale`. -/
def significand (x : Binary64) : Nat :=
  if x.magnitudeWord < 2 ^ 52 then x.magnitudeWord else 2 ^ 52 + x.magnitudeWord % 2 ^ 52

/-- The power of two that goes with `significand`. -/
def scale (x : Binary64) : Int :=
  if x.magnitudeWord < 2 ^ 52 then -1074 else (x.magnitudeWord / 2 ^ 52 : Nat) - 1075

def ofSigned (negative : Bool) (magnitude : Nat) : Binary64 :=
  ⟨UInt64.ofNat (if negative then signWord + magnitude else magnitude)⟩

def infinity (negative : Bool) : Binary64 := ofSigned negative infinityWord

def nan : Binary64 := ⟨0x7FF8000000000000⟩

def zero (negative : Bool) : Binary64 := ofSigned negative 0

/-- A quotient rounded to the nearest integer, a half to the even neighbour. -/
def roundQuotient (num den : Nat) : Nat :=
  let floor := num / den
  let twice := 2 * (num % den)
  if twice < den then floor
  else if den < twice then floor + 1
  else if floor % 2 = 0 then floor else floor + 1

/-- `num / den * 2 ^ (-e)` as a quotient of two integers. -/
def scaled (num den : Nat) (e : Int) : Nat × Nat :=
  if e < 0 then (num * 2 ^ (-e).toNat, den) else (num, den * 2 ^ e.toNat)

/-- The power of two for which the quotient has a significand of fifty-three bits, and at least
the one of the subnormal numbers. -/
def quotientScale (num den : Nat) : Int :=
  let guess : Int := (Nat.log2 num : Int) - Nat.log2 den - 53
  let (n, d) := scaled num den guess
  max (if 2 ^ 53 ≤ n / d then guess + 1 else guess) (-1074)

/-- The double nearest to `num / den`, ties to even; a quotient too large becomes infinity. -/
def ofQuotient (negative : Bool) (num den : Nat) : Binary64 :=
  if num = 0 then zero negative
  else
    let e := quotientScale num den
    let (n, d) := scaled num den e
    let word := (e + 1074).toNat * 2 ^ 52 + roundQuotient n d
    if infinityWord ≤ word then infinity negative else ofSigned negative word

def ofNat (n : Nat) : Binary64 := ofQuotient false n 1

def ofInt (i : Int) : Binary64 := ofQuotient (i < 0) i.natAbs 1

/-- The double nearest to `n * 10 ^ e`. -/
def ofDecimal (negative : Bool) (n : Nat) (e : Int) : Binary64 :=
  if e < 0 then ofQuotient negative n (10 ^ (-e).toNat)
  else ofQuotient negative (n * 10 ^ e.toNat) 1

/-- The double nearest to `n * 10 ^ e`. Where the power alone decides the answer it is not
computed: from `10 ^ 310` on everything is infinite, and below `10 ^ (-330)` everything is zero. -/
def ofScientific (negative : Bool) (n : Nat) (e : Int) : Binary64 :=
  if n = 0 then zero negative
  else
    let magnitude := e + (Nat.toDigits 10 n).length
    if 311 ≤ magnitude then infinity negative
    else if magnitude ≤ -330 then zero negative
    else ofDecimal negative n e

/-- The magnitude of a finite number as a quotient of two integers. -/
def quotient (x : Binary64) : Nat × Nat :=
  if x.scale < 0 then (x.significand, 2 ^ (-x.scale).toNat)
  else (x.significand * 2 ^ x.scale.toNat, 1)

/-- The rounded product of two finite numbers. -/
def mul (x y : Binary64) : Binary64 :=
  let (a, b) := x.quotient
  let (c, d) := y.quotient
  ofQuotient (x.isNegative != y.isNegative) (a * c) (b * d)

/-- The rounded quotient of a finite number by a finite number other than zero. -/
def div (x y : Binary64) : Binary64 :=
  let (a, b) := x.quotient
  let (c, d) := y.quotient
  ofQuotient (x.isNegative != y.isNegative) (a * d) (b * c)

/-- Equality of values: the two zeros are equal, and what is not a number equals nothing. -/
def sameValue (x y : Binary64) : Bool :=
  !x.isNaN && !y.isNaN && (x == y || (x.isZero && y.isZero))

/-- The integer that a finite number is, if it is one. -/
def toInt? (x : Binary64) : Option Int :=
  if x.isFinite then
    let (n, d) := x.quotient
    if n % d = 0 then some (if x.isNegative then -(n / d : Nat) else (n / d : Nat)) else none
  else none

end Binary64

end DriverCompat.Decimal
