/-! # Hexadecimal digits -/

namespace DriverCompat.Text

/-- The lower-case hexadecimal digit of a number below sixteen. -/
def hexDigit (n : Nat) : Char :=
  if n < 10 then Char.ofNat (48 + n) else Char.ofNat (87 + n)

/-- The lower-case hexadecimal digits of a number, without leading zeros. -/
def hexDigits (n : Nat) : List Char := Nat.toDigits 16 n

/-- The lower-case hexadecimal digits of a number, filled with zeros to `width` digits. -/
def paddedHex (width n : Nat) : List Char :=
  let digits := hexDigits n
  List.replicate (width - digits.length) '0' ++ digits

/-- The value of a hexadecimal digit of either case. -/
def hexValue? (c : Char) : Option Nat :=
  if '0' ≤ c ∧ c ≤ '9' then some (c.toNat - 48)
  else if 'a' ≤ c ∧ c ≤ 'f' then some (c.toNat - 87)
  else if 'A' ≤ c ∧ c ≤ 'F' then some (c.toNat - 55)
  else none

/-- The two lower-case digits of each byte. -/
def hexOfBytes (bytes : List UInt8) : List Char :=
  bytes.flatMap fun b => [hexDigit (b.toNat / 16), hexDigit (b.toNat % 16)]

/-- Why digits do not write bytes. -/
inductive HexFault where
  | oddLength
  /-- A byte that is no digit, shown as the character of that number, and where it stands. -/
  | notADigit (shown : Char) (index : Nat)
deriving DecidableEq, Repr

/-- The bytes that pairs of digits write, the first of which stands at an index. -/
def bytesOfPairs (index : Nat) : List UInt8 → Except HexFault (List UInt8)
  | [] => .ok []
  | [_] => .error .oddLength
  | a :: b :: rest =>
    match hexValue? (Char.ofNat a.toNat), hexValue? (Char.ofNat b.toNat) with
    | none, _ => .error (.notADigit (Char.ofNat a.toNat) index)
    | some _, none => .error (.notADigit (Char.ofNat b.toNat) (index + 1))
    | some high, some low =>
      (bytesOfPairs (index + 2) rest).map (UInt8.ofNat (high * 16 + low) :: ·)

/-- The bytes that an encoded text of digits writes. -/
def bytesOfHex (digits : List UInt8) : Except HexFault (List UInt8) :=
  if digits.length % 2 = 1 then .error .oddLength else bytesOfPairs 0 digits

end DriverCompat.Text
