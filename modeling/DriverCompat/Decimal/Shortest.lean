import DriverCompat.Decimal.Binary64

/-! # Shortest decimal digits

The decimal number with the fewest digits that reads back as a given double, and among those with
as many digits the one nearest to it. The double stands for the interval of numbers that round
to it; for one digit, two, and so on up to seventeen, the two neighbours of the double on that
decimal grid are tried until one falls into the interval.
-/

namespace DriverCompat.Decimal

/-- The number `digits * 10 ^ exponent`. -/
structure Figures where
  digits : Nat
  exponent : Int
deriving DecidableEq, Repr

/-- Which of two equally near numbers is taken. -/
inductive Tie where
  | even
  | up
deriving DecidableEq, Repr

namespace Figures

/-- How many digits the significant part has. -/
def length (f : Figures) : Nat := (Nat.toDigits 10 f.digits).length

def stripZeros : Nat → Figures → Figures
  | 0, f => f
  | steps + 1, f =>
    if f.digits % 10 = 0 ∧ f.digits ≠ 0 then stripZeros steps ⟨f.digits / 10, f.exponent + 1⟩
    else f

end Figures

/-- The interval of numbers that round to a double, with all three over the denominator `den`. -/
structure Interval where
  low : Nat
  mid : Nat
  high : Nat
  den : Nat
  closed : Bool
deriving Repr

namespace Interval

/-- The interval reaches halfway to each neighbour, a quarter below a power of two, and its ends
belong to it if the significand is even. -/
def ofBinary64 (x : Binary64) : Interval :=
  let m := x.significand
  let below := if m = 2 ^ 52 ∧ -1074 < x.scale then 1 else 2
  let q := x.scale - 2
  let factor := if q < 0 then 1 else 2 ^ q.toNat
  { low := (4 * m - below) * factor
    mid := 4 * m * factor
    high := (4 * m + 2) * factor
    den := if q < 0 then 2 ^ (-q).toNat else 1
    closed := m % 2 = 0 }

/-- Whether `n / d` belongs to the interval. -/
def contains (i : Interval) (n d : Nat) : Bool :=
  if i.closed then i.low * d ≤ n * i.den && n * i.den ≤ i.high * d
  else i.low * d < n * i.den && n * i.den < i.high * d

/-- The largest `p` with `10 ^ p` at most the middle of the interval. -/
def decimalExponent (i : Interval) : Int :=
  if i.den ≤ i.mid then (Nat.toDigits 10 (i.mid / i.den)).length - 1
  else
    let d := (Nat.toDigits 10 (i.den / i.mid)).length
    if i.den ≤ i.mid * 10 ^ (d - 1) then -((d - 1 : Nat) : Int) else -(d : Int)

/-- Whether `upper`, in the unit `10 ^ k`, is taken rather than the number below it. -/
def prefersUpper (tie : Tie) (lower num den : Nat) : Bool :=
  let twice := 2 * num
  let middle := (2 * lower + 1) * den
  if twice < middle then false
  else if middle < twice then true
  else match tie with
    | .even => lower % 2 = 1
    | .up => true

/-- The neighbour of the middle on the grid of the multiples of `10 ^ k` that is in the interval,
the nearer one if both are. -/
def onGrid? (i : Interval) (tie : Tie) (k : Int) : Option Figures :=
  let num := if k < 0 then i.mid * 10 ^ (-k).toNat else i.mid
  let den := if k < 0 then i.den else i.den * 10 ^ k.toNat
  let lower := num / den
  let holds (n : Nat) : Bool :=
    if k < 0 then i.contains n (10 ^ (-k).toNat) else i.contains (n * 10 ^ k.toNat) 1
  match holds lower, holds (lower + 1) with
  | false, false => none
  | true, false => some ⟨lower, k⟩
  | false, true => some ⟨lower + 1, k⟩
  | true, true => some ⟨if prefersUpper tie lower num den then lower + 1 else lower, k⟩

/-- Tries grids of more and more digits, `steps` of them. -/
def search (i : Interval) (tie : Tie) : Nat → Int → Figures
  | 0, k => (i.onGrid? tie k).getD ⟨0, 0⟩
  | steps + 1, k => (i.onGrid? tie k).getD (search i tie steps (k - 1))

end Interval

/-- The shortest digits of a finite double other than zero. -/
def shortest (tie : Tie) (x : Binary64) : Figures :=
  let i := Interval.ofBinary64 x
  let found := i.search tie 17 i.decimalExponent
  found.stripZeros found.length

end DriverCompat.Decimal
