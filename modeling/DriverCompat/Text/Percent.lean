import DriverCompat.Text.Hex
import DriverCompat.Text.Utf8

/-! # Percent-encoded texts

A percent sign with two hexadecimal digits stands for a byte; a percent sign without them stands
for itself.
-/

namespace DriverCompat.Text

/-- The bytes that a text stands for, where a text is its UTF-8 form. -/
def percentBytes : List UInt8 → List UInt8
  | 0x25 :: a :: b :: rest =>
    match hexValue? (Char.ofNat a.toNat), hexValue? (Char.ofNat b.toNat) with
    | some high, some low => UInt8.ofNat (high * 16 + low) :: percentBytes rest
    | _, _ => 0x25 :: percentBytes (a :: b :: rest)
  | byte :: rest => byte :: percentBytes rest
  | [] => []

/-- The text that a text stands for, if the bytes make one. -/
def percentDecode? (text : List Char) : Option String := decode? (percentBytes (encode text))

/-- Whether every percent sign has its two digits. -/
def percentsComplete : List Char → Bool
  | [] => true
  | '%' :: a :: b :: rest => (hexValue? a).isSome && (hexValue? b).isSome && percentsComplete rest
  | '%' :: _ => false
  | _ :: rest => percentsComplete rest

end DriverCompat.Text
