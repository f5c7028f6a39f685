/-! # Texts of any bytes

Bytes that are no UTF-8 form of a character are read as replacement characters: one for each byte
that cannot start a character, and one for each start that is not followed by what it needs.
-/

namespace DriverCompat.Text

/-- The character that stands for bytes that are none. -/
def replacement : Char := '\ufffd'

/-- A character of which some bytes are still missing. -/
structure Unfinished where
  /-- The bits of the bytes that were read. -/
  bits : Nat
  missing : Nat
  /-- The range of the next byte. -/
  low : UInt8
  high : UInt8

/-- What a byte starts. -/
inductive Lead where
  | whole (c : Char)
  | start (unfinished : Unfinished)
  | stray

/-- The second byte of a character is restricted where the first alone would allow a form that
is too long, a surrogate, or a number beyond the last character. -/
def Lead.of (byte : UInt8) : Lead :=
  let n := byte.toNat
  if n < 0x80 then .whole (Char.ofNat n)
  else if n < 0xC2 then .stray
  else if n < 0xE0 then .start ⟨n - 0xC0, 1, 0x80, 0xBF⟩
  else if n < 0xF0 then
    .start ⟨n - 0xE0, 2, if n = 0xE0 then 0xA0 else 0x80, if n = 0xED then 0x9F else 0xBF⟩
  else if n < 0xF5 then
    .start ⟨n - 0xF0, 3, if n = 0xF0 then 0x90 else 0x80, if n = 0xF4 then 0x8F else 0xBF⟩
  else .stray

namespace Unfinished

def accepts (u : Unfinished) (byte : UInt8) : Bool := u.low ≤ byte && byte ≤ u.high

/-- The bits with those of another byte. -/
def extended (u : Unfinished) (byte : UInt8) : Nat := u.bits * 64 + (byte.toNat - 0x80)

end Unfinished

/-- Reads bytes behind those of an unfinished character. -/
def decodeLossyFrom : Option Unfinished → List UInt8 → List Char
  | none, [] => []
  | some _, [] => [replacement]
  | none, byte :: rest =>
    match Lead.of byte with
    | .whole c => c :: decodeLossyFrom none rest
    | .start u => decodeLossyFrom (some u) rest
    | .stray => replacement :: decodeLossyFrom none rest
  | some u, byte :: rest =>
    if u.accepts byte then
      if u.missing ≤ 1 then Char.ofNat (u.extended byte) :: decodeLossyFrom none rest
      else decodeLossyFrom (some ⟨u.extended byte, u.missing - 1, 0x80, 0xBF⟩) rest
    else
      match Lead.of byte with
      | .whole c => replacement :: c :: decodeLossyFrom none rest
      | .start u => replacement :: decodeLossyFrom (some u) rest
      | .stray => replacement :: replacement :: decodeLossyFrom none rest

/-- The text of any bytes. -/
def decodeLossy (bytes : List UInt8) : String := String.ofList (decodeLossyFrom none bytes)

end DriverCompat.Text
