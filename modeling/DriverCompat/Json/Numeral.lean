import DriverCompat.Json.Token
import DriverCompat.Text.Digit

/-! # Numbers in a JSON text

A numeral without fraction and exponent is an integer if it fits into 64 bits. Every other
numeral is a double: its first digits that fit into 64 bits are rounded to a double, which is
then multiplied or divided by a power of ten, with a rounding at each step.
-/

namespace DriverCompat.Json

open Decimal Text

/-- Whether a text goes on with a digit. -/
def startsWithDigit (text : List Char) : Bool :=
  match text with
  | c :: _ => isDigit c
  | [] => false

/-- Digits from the front of a text, for as long as the number they write is below `2 ^ 64`. -/
structure Digits where
  value : Nat
  count : Nat
  rest : List Char

/-- Goes on from a number that was written by earlier digits. -/
def Digits.read (value : Nat) (text : List Char) : Digits :=
  match text with
  | [] => ⟨value, 0, []⟩
  | c :: rest =>
    if isDigit c ∧ value * 10 + digitValue c < 2 ^ 64 then
      let more := Digits.read (value * 10 + digitValue c) rest
      ⟨more.value, more.count + 1, more.rest⟩
    else ⟨value, 0, c :: rest⟩

theorem Digits.read_length_le (value : Nat) (text : List Char) :
    (Digits.read value text).rest.length ≤ text.length := by
  induction text generalizing value with
  | nil => simp [Digits.read]
  | cons c rest ih =>
    rw [Digits.read]
    split
    · have := ih (value * 10 + digitValue c)
      simp only [List.length_cons]; omega
    · simp

/-- A double times a power of ten. The powers that are doubles reach `10 ^ 308`; below the
reciprocal of that the division is done in steps. -/
def timesPowerOfTen (x : Binary64) (exponent : Int) : Binary64 :=
  if exponent < -308 then
    if x.isZero then x
    else timesPowerOfTen (x.div (Binary64.ofDecimal false 1 308)) (exponent + 308)
  else if exponent < 0 then x.div (Binary64.ofDecimal false 1 (-exponent))
  else if exponent ≤ 308 then x.mul (Binary64.ofDecimal false 1 exponent)
  else if x.isZero then x else Binary64.infinity x.isNegative
termination_by (-exponent).toNat

def negate (negative : Bool) (x : Binary64) : Binary64 :=
  if negative then ⟨x.bits ^^^ 0x8000000000000000⟩ else x

/-- The double with a significand and a decimal exponent. -/
def scaled (negative : Bool) (significand : Nat) (exponent : Int) : Binary64 :=
  negate negative (timesPowerOfTen (Binary64.ofNat significand) exponent)

/-- The number with a significand and a decimal exponent, if it is not too large. -/
def double (negative : Bool) (significand : Nat) (exponent : Int) (rest : List Char) :
    Except Fault (Number × List Char) :=
  match Number.ofBinary64? (scaled negative significand exponent) with
  | some n => .ok (n, rest)
  | none => .error (.atFront .numberTooLarge rest)

/-- An exponent beyond 32 bits leaves nothing but zero or a number that is too large. -/
def hugeExponent (negative : Bool) (significand : Nat) (negativeExponent : Bool)
    (rest : List Char) : Except Fault (Number × List Char) :=
  if significand ≠ 0 ∧ !negativeExponent then .error (.atFront .numberTooLarge rest)
  else double negative 0 0 (rest.dropWhile isDigit)

/-- The exponent of a significand that has been shifted, with the one that stands behind it. -/
def scaleShift (shift : Int) (negativeExponent : Bool) (value : Nat) : Int :=
  if negativeExponent then shift - value else shift + value

/-- The digits of an exponent behind its first one. -/
def exponentDigits (negative : Bool) (significand : Nat) (shift : Int) (negativeExponent : Bool)
    (value : Nat) (text : List Char) : Except Fault (Number × List Char) :=
  match text with
  | [] => double negative significand (scaleShift shift negativeExponent value) []
  | c :: rest =>
    if isDigit c then
      if value * 10 + digitValue c < 2 ^ 31 then
        exponentDigits negative significand shift negativeExponent (value * 10 + digitValue c) rest
      else hugeExponent negative significand negativeExponent rest
    else double negative significand (scaleShift shift negativeExponent value) (c :: rest)

/-- The sign of an exponent, if it has one. -/
def exponentSign : List Char → Bool × List Char
  | '+' :: rest => (false, rest)
  | '-' :: rest => (true, rest)
  | rest => (false, rest)

/-- An exponent, read behind its letter. -/
def exponentPart (negative : Bool) (significand : Nat) (shift : Int) (text : List Char) :
    Except Fault (Number × List Char) :=
  let (negativeExponent, text) := exponentSign text
  match text with
  | [] => .error (.placed .endInValue 0)
  | c :: rest =>
    if isDigit c then
      exponentDigits negative significand shift negativeExponent (digitValue c) rest
    else .error (.atNext .brokenNumber (c :: rest))

/-- What follows the last digit of a significand. -/
def afterFraction (negative : Bool) (significand : Nat) (shift : Int) (text : List Char) :
    Except Fault (Number × List Char) :=
  match text with
  | 'e' :: rest => exponentPart negative significand shift rest
  | 'E' :: rest => exponentPart negative significand shift rest
  | rest => double negative significand shift rest

/-- A fraction, read behind its point. Digits that no longer fit into 64 bits are passed over. -/
def fractionPart (negative : Bool) (significand : Nat) (shift : Int) (text : List Char) :
    Except Fault (Number × List Char) :=
  let digits := Digits.read significand text
  let shift := shift - digits.count
  if startsWithDigit digits.rest then
    afterFraction negative digits.value shift (digits.rest.dropWhile isDigit)
  else if digits.count = 0 then
    match text with
    | [] => .error (.placed .endInValue 0)
    | rest => .error (.atNext .brokenNumber rest)
  else afterFraction negative digits.value shift digits.rest

/-- The number of an integer numeral; minus zero, and what does not fit, is a double. -/
def integer (negative : Bool) (value : Nat) (rest : List Char) :
    Except Fault (Number × List Char) :=
  if negative ∧ value = 0 then double true 0 0 rest
  else
    match Number.ofInt? (if negative then -value else value) with
    | some n => .ok (n, rest)
    | none => double negative value 0 rest

/-- What follows the digits of an integer that fits into 64 bits. -/
def afterInteger (negative : Bool) (value : Nat) (text : List Char) :
    Except Fault (Number × List Char) :=
  match text with
  | '.' :: rest => fractionPart negative value 0 rest
  | 'e' :: rest => exponentPart negative value 0 rest
  | 'E' :: rest => exponentPart negative value 0 rest
  | rest => integer negative value rest

/-- What follows the digits of an integer of which `shift` digits did not fit. -/
def afterLongInteger (negative : Bool) (value : Nat) (shift : Nat) (text : List Char) :
    Except Fault (Number × List Char) :=
  match text with
  | '.' :: rest => fractionPart negative value shift rest
  | rest => afterFraction negative value shift rest

/-- A number, read behind its minus sign. -/
def unsignedNumber (negative : Bool) (text : List Char) : Except Fault (Number × List Char) :=
  match text with
  | [] => .error (.placed .endInValue 0)
  | c :: rest =>
    if c = '0' then
      if startsWithDigit rest then .error (.atNext .brokenNumber rest)
      else afterInteger negative 0 rest
    else if isDigit c then
      let digits := Digits.read (digitValue c) rest
      if startsWithDigit digits.rest then
        let tail := digits.rest.dropWhile isDigit
        afterLongInteger negative digits.value (digits.rest.length - tail.length) tail
      else afterInteger negative digits.value digits.rest
    else .error (.atNext .brokenNumber (c :: rest))

/-- A number from the front of a text. -/
def numeral (text : List Char) : Except Fault (Number × List Char) :=
  match text with
  | '-' :: rest => unsignedNumber true rest
  | rest => unsignedNumber false rest

/-! ## Every number takes at least one character -/

theorem double_length {negative : Bool} {significand : Nat} {exponent : Int} {text rest : List Char}
    {n : Number} (read : double negative significand exponent text = .ok (n, rest)) :
    rest.length = text.length := by
  unfold double at read
  split at read
  · cases read; rfl
  · simp at read

theorem hugeExponent_length {negative negativeExponent : Bool} {significand : Nat}
    {text rest : List Char} {n : Number}
    (read : hugeExponent negative significand negativeExponent text = .ok (n, rest)) :
    rest.length ≤ text.length := by
  unfold hugeExponent at read
  split at read
  · simp at read
  · rw [double_length read]
    exact length_dropWhile_le _ _

theorem exponentDigits_length {negative negativeExponent : Bool} {significand value : Nat}
    {shift : Int} {text rest : List Char} {n : Number}
    (read : exponentDigits negative significand shift negativeExponent value text = .ok (n, rest)) :
    rest.length ≤ text.length := by
  induction text generalizing value with
  | nil => rw [exponentDigits] at read; exact Nat.le_of_eq (double_length read)
  | cons c tail ih =>
    rw [exponentDigits] at read
    split at read
    · split at read
      · have := ih read; simp only [List.length_cons]; omega
      · have := hugeExponent_length read; simp only [List.length_cons]; omega
    · exact Nat.le_of_eq (double_length read)

theorem exponentSign_length (text : List Char) : (exponentSign text).2.length ≤ text.length := by
  unfold exponentSign
  split <;> simp

theorem exponentPart_length {negative : Bool} {significand : Nat} {shift : Int}
    {text rest : List Char} {n : Number}
    (read : exponentPart negative significand shift text = .ok (n, rest)) :
    rest.length ≤ text.length := by
  have signed := exponentSign_length text
  unfold exponentPart at read
  revert read signed
  generalize exponentSign text = split_
  obtain ⟨negativeExponent, tail⟩ := split_
  intro read signed
  cases tail with
  | nil => simp at read
  | cons c tail =>
    simp only at read signed
    split at read
    · have := exponentDigits_length read
      simp only [List.length_cons] at signed; omega
    · simp at read

theorem afterFraction_length {negative : Bool} {significand : Nat} {shift : Int}
    {text rest : List Char} {n : Number}
    (read : afterFraction negative significand shift text = .ok (n, rest)) :
    rest.length ≤ text.length := by
  unfold afterFraction at read
  split at read
  · have := exponentPart_length read; simp only [List.length_cons]; omega
  · have := exponentPart_length read; simp only [List.length_cons]; omega
  · exact Nat.le_of_eq (double_length read)

theorem fractionPart_length {negative : Bool} {significand : Nat} {shift : Int}
    {text rest : List Char} {n : Number}
    (read : fractionPart negative significand shift text = .ok (n, rest)) :
    rest.length ≤ text.length := by
  unfold fractionPart at read
  have digits := Digits.read_length_le significand text
  simp only at read
  split at read
  · have := afterFraction_length read
    have := length_dropWhile_le isDigit (Digits.read significand text).rest
    omega
  · split at read
    · split at read <;> simp at read
    · have := afterFraction_length read
      omega

theorem integer_length {negative : Bool} {value : Nat} {text rest : List Char} {n : Number}
    (read : integer negative value text = .ok (n, rest)) : rest.length = text.length := by
  unfold integer at read
  split at read
  · exact double_length read
  · split at read
    · cases read; rfl
    · exact double_length read

theorem afterInteger_length {negative : Bool} {value : Nat} {text rest : List Char} {n : Number}
    (read : afterInteger negative value text = .ok (n, rest)) : rest.length ≤ text.length := by
  unfold afterInteger at read
  split at read
  · have := fractionPart_length read; simp only [List.length_cons]; omega
  · have := exponentPart_length read; simp only [List.length_cons]; omega
  · have := exponentPart_length read; simp only [List.length_cons]; omega
  · exact Nat.le_of_eq (integer_length read)

theorem afterLongInteger_length {negative : Bool} {value shift : Nat} {text rest : List Char}
    {n : Number} (read : afterLongInteger negative value shift text = .ok (n, rest)) :
    rest.length ≤ text.length := by
  unfold afterLongInteger at read
  split at read
  · have := fractionPart_length read; simp only [List.length_cons]; omega
  · exact afterFraction_length read

theorem unsignedNumber_shorter {negative : Bool} {text rest : List Char} {n : Number}
    (read : unsignedNumber negative text = .ok (n, rest)) : rest.length < text.length := by
  unfold unsignedNumber at read
  split at read
  · simp at read
  · rename_i c tail
    simp only [List.length_cons]
    split at read
    · split at read
      · simp at read
      · have := afterInteger_length read; omega
    · split at read
      · have digits := Digits.read_length_le (digitValue c) tail
        simp only at read
        split at read
        · have := afterLongInteger_length read
          have := length_dropWhile_le isDigit (Digits.read (digitValue c) tail).rest
          omega
        · have := afterInteger_length read
          omega
      · simp at read

theorem numeral_shorter {text rest : List Char} {n : Number}
    (read : numeral text = .ok (n, rest)) : rest.length < text.length := by
  unfold numeral at read
  split at read
  · have := unsignedNumber_shorter read; simp only [List.length_cons]; omega
  · exact unsignedNumber_shorter read

end DriverCompat.Json
