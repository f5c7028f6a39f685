import DriverCompat.Text.Base64
import DriverCompat.Text.Hex
import DriverCompat.Text.Utf8

/-! # Bytes and the texts that write them

The two notations of bytes are read back: the pairs of hexadecimal digits by way of the UTF-8 form
of the text, and the groups of Base64 with whatever was filled in at their end.
-/

namespace DriverCompat.Text

theorem utf8EncodeChar_hexDigit : ∀ n < 16,
    String.utf8EncodeChar (hexDigit n) = [UInt8.ofNat (hexDigit n).toNat] := by
  decide

theorem hexValue?_hexDigit : ∀ n < 16,
    hexValue? (Char.ofNat (UInt8.ofNat (hexDigit n).toNat).toNat) = some n := by
  decide

/-- The two bytes that the digits of a byte take. -/
def digitBytes (byte : UInt8) : List UInt8 :=
  [UInt8.ofNat (hexDigit (byte.toNat / 16)).toNat, UInt8.ofNat (hexDigit (byte.toNat % 16)).toNat]

theorem encode_hexOfBytes (bytes : List UInt8) :
    encode (hexOfBytes bytes) = bytes.flatMap digitBytes := by
  have each (byte : UInt8) : [hexDigit (byte.toNat / 16), hexDigit (byte.toNat % 16)].flatMap
      String.utf8EncodeChar = digitBytes byte := by
    have bound := byte.toNat_lt
    have high := utf8EncodeChar_hexDigit (byte.toNat / 16) (by omega)
    have low := utf8EncodeChar_hexDigit (byte.toNat % 16) (by omega)
    rw [List.flatMap_cons, List.flatMap_singleton, high, low]
    rfl
  rw [encode, hexOfBytes, List.flatMap_assoc]
  simp only [each]

theorem bytesOfPairs_digitBytes (index : Nat) (bytes : List UInt8) :
    bytesOfPairs index (bytes.flatMap digitBytes) = .ok bytes := by
  induction bytes generalizing index with
  | nil => rfl
  | cons byte rest ih =>
    have bound := byte.toNat_lt
    have high := hexValue?_hexDigit (byte.toNat / 16) (by omega)
    have low := hexValue?_hexDigit (byte.toNat % 16) (by omega)
    have whole : byte.toNat / 16 * 16 + byte.toNat % 16 = byte.toNat := by omega
    rw [List.flatMap_cons, digitBytes, List.cons_append, List.cons_append, List.nil_append,
      bytesOfPairs, high, low]
    simp only [ih, whole, UInt8.ofNat_toNat]
    rfl

theorem length_digitBytes (bytes : List UInt8) :
    (bytes.flatMap digitBytes).length = 2 * bytes.length := by
  induction bytes with
  | nil => rfl
  | cons byte rest ih =>
    rw [List.flatMap_cons, List.length_append, ih, List.length_cons]
    change 2 + _ = _
    omega

/-- Bytes are read back from their digits. -/
theorem bytesOfHex_hexOfBytes (bytes : List UInt8) :
    bytesOfHex (encode (hexOfBytes bytes)) = .ok bytes := by
  have even : (bytes.flatMap digitBytes).length % 2 ≠ 1 := by
    rw [length_digitBytes]
    omega
  rw [encode_hexOfBytes, bytesOfHex, if_neg even]
  exact bytesOfPairs_digitBytes 0 bytes

namespace Base64

theorem value?_letter : ∀ n < 64, value? (letter n) = some n := by decide

theorem letter_ne_equals : ∀ n < 64, letter n ≠ '=' := by decide

theorem lastOne?_of_byte (a : UInt8) :
    lastOne? (a.toNat / 4) (a.toNat % 4 * 16) = some [a] := by
  have filled : a.toNat % 4 * 16 % 16 = 0 := by omega
  have whole : a.toNat / 4 * 4 + a.toNat % 4 * 16 / 16 = a.toNat := by omega
  rw [lastOne?, if_pos filled, whole, UInt8.ofNat_toNat]

theorem lastTwo?_of_bytes (a b : UInt8) :
    lastTwo? (a.toNat / 4) (a.toNat % 4 * 16 + b.toNat / 16) (b.toNat % 16 * 4) =
      some [a, b] := by
  have bound := b.toNat_lt
  have filled : b.toNat % 16 * 4 % 4 = 0 := by omega
  have first : a.toNat / 4 * 4 + (a.toNat % 4 * 16 + b.toNat / 16) / 16 = a.toNat := by omega
  have second : (a.toNat % 4 * 16 + b.toNat / 16) % 16 * 16 + b.toNat % 16 * 4 / 4 = b.toNat := by
    omega
  rw [lastTwo?, if_pos filled, first, second, UInt8.ofNat_toNat, UInt8.ofNat_toNat]

theorem three_of_bytes (a b c : UInt8) :
    three (a.toNat / 4) (a.toNat % 4 * 16 + b.toNat / 16) (b.toNat % 16 * 4 + c.toNat / 64)
      (c.toNat % 64) = [a, b, c] := by
  have bound := b.toNat_lt
  have bound' := c.toNat_lt
  have first : a.toNat / 4 * 4 + (a.toNat % 4 * 16 + b.toNat / 16) / 16 = a.toNat := by omega
  have second : (a.toNat % 4 * 16 + b.toNat / 16) % 16 * 16 +
      (b.toNat % 16 * 4 + c.toNat / 64) / 4 = b.toNat := by omega
  have third : (b.toNat % 16 * 4 + c.toNat / 64) % 4 * 64 + c.toNat % 64 = c.toNat := by omega
  rw [three, first, second, third, UInt8.ofNat_toNat, UInt8.ofNat_toNat, UInt8.ofNat_toNat]

/-- The bytes of a text are read back; by the groups in which they are written. -/
theorem decode?_encode (bytes : List UInt8) : decode? (encode bytes) = some bytes := by
  fun_induction encode bytes with
  | case1 => rfl
  | case2 a =>
    have bound := a.toNat_lt
    have first := value?_letter (a.toNat / 4) (by omega)
    have second := value?_letter (a.toNat % 4 * 16) (by omega)
    simp only [decode?, first, second, Option.bind_eq_bind, Option.bind_some, and_self, if_true]
    exact lastOne?_of_byte a
  | case3 a b =>
    have bound := a.toNat_lt
    have bound' := b.toNat_lt
    have first := value?_letter (a.toNat / 4) (by omega)
    have second := value?_letter (a.toNat % 4 * 16 + b.toNat / 16) (by omega)
    have third := value?_letter (b.toNat % 16 * 4) (by omega)
    have solid := letter_ne_equals (b.toNat % 16 * 4) (by omega)
    simp only [decode?, first, second, third, solid, Option.bind_eq_bind, Option.bind_some,
      false_and, if_false, and_self, if_true]
    exact lastTwo?_of_bytes a b
  | case4 a b c rest ih =>
    have bound := a.toNat_lt
    have bound' := b.toNat_lt
    have bound'' := c.toNat_lt
    have first := value?_letter (a.toNat / 4) (by omega)
    have second := value?_letter (a.toNat % 4 * 16 + b.toNat / 16) (by omega)
    have third := value?_letter (b.toNat % 16 * 4 + c.toNat / 64) (by omega)
    have fourth := value?_letter (c.toNat % 64) (by omega)
    have solid := letter_ne_equals (b.toNat % 16 * 4 + c.toNat / 64) (by omega)
    have solid' := letter_ne_equals (c.toNat % 64) (by omega)
    simp only [decode?, first, second, third, fourth, solid, solid', Option.bind_eq_bind,
      Option.bind_some, false_and, if_false, ih, three_of_bytes]
    rfl

end Base64

end DriverCompat.Text
