import DriverCompat.Decimal.Shortest

/-! # Decimal layouts

How the digits of a double are laid out: positionally or with an exponent, with or without a
fraction for a whole number. A `Layout` holds these choices for one format.
-/

namespace DriverCompat.Decimal

/-- The choices of one format. -/
structure Layout where
  /-- The decimal exponents that are written positionally; all of them if there is no bound. -/
  positional : Option (Int × Int)
  /-- Whether a whole number that is written positionally ends in `.0`. -/
  wholeFraction : Bool
  tie : Tie
deriving Repr

namespace Layout

/-- The layout of numbers in JSON texts: `30.0`, `0.00001`, `1e+20`, `1e-7`. -/
def json : Layout := ⟨some (-5, 15), true, .even⟩

/-- The layout that never uses an exponent: `30`, `0.0000001`, `100000000000000000000`. -/
def plain : Layout := ⟨none, false, .up⟩

/-- The plain layout with a fraction on whole numbers: `30.0`. -/
def plainFraction : Layout := ⟨none, true, .up⟩

def zeros (n : Nat) : String := String.ofList (List.replicate n '0')

/-- Digits with the point `point` places after the first digit, `point` possibly negative. -/
def place (wholeFraction : Bool) (digits : List Char) (point : Int) : String :=
  if point ≤ 0 then "0." ++ zeros (-point).toNat ++ String.ofList digits
  else if digits.length ≤ point.toNat then
    String.ofList digits ++ zeros (point.toNat - digits.length) ++
      if wholeFraction then ".0" else ""
  else
    String.ofList (digits.take point.toNat) ++ "." ++ String.ofList (digits.drop point.toNat)

/-- One digit, the fraction if there is more, and the exponent with its sign behind a letter. -/
def withExponent (letter : Char) (digits : List Char) (exponent : Int) : String :=
  let sign := if exponent < 0 then "-" else "+"
  let fraction := digits.drop 1
  String.ofList (digits.take 1) ++
    (if fraction.isEmpty then "" else "." ++ String.ofList fraction) ++
    letter.toString ++ sign ++ toString exponent.natAbs

/-- The text of a magnitude other than zero. -/
def renderFigures (layout : Layout) (f : Figures) : String :=
  let digits := Nat.toDigits 10 f.digits
  let exponent := f.exponent + digits.length - 1
  match layout.positional with
  | none => place layout.wholeFraction digits (exponent + 1)
  | some (low, high) =>
    if low ≤ exponent ∧ exponent ≤ high then place layout.wholeFraction digits (exponent + 1)
    else withExponent 'e' digits exponent

/-- The text of a double. -/
def render (layout : Layout) (x : Binary64) : String :=
  if x.isNaN then "NaN"
  else
    let sign := if x.isNegative then "-" else ""
    if x.isInfinite then sign ++ "inf"
    else if x.isZero then sign ++ if layout.wholeFraction then "0.0" else "0"
    else sign ++ layout.renderFigures (shortest layout.tie x)

end Layout

end DriverCompat.Decimal
