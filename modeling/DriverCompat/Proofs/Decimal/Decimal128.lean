import DriverCompat.Decimal.Decimal128
import DriverCompat.Proofs.Text.Digits

/-! # Decimal numbers and their texts

A word that was made for a value stands for it, and the text of a value is read as that value, but
for the sign of what is not a number. So what is read back from the text of a word is a word with
the same text, though not always the same word.
-/

namespace DriverCompat.Decimal

open Text

namespace Decimal128

theorem field_ofSigned (negative : Bool) {magnitude : Nat} (small : magnitude < 2 ^ 127)
    {low width : Nat} (inside : low + width ≤ 127) :
    (ofSigned negative magnitude).field low width = magnitude / 2 ^ low % 2 ^ width := by
  cases negative with
  | false =>
    have whole : magnitude % 2 ^ 128 = magnitude := Nat.mod_eq_of_lt (by omega)
    simp only [field, ofSigned, BitVec.toNat_ofNat, Bool.false_eq_true, if_false, whole]
  | true =>
    have whole : (2 ^ 127 + magnitude) % 2 ^ 128 = 2 ^ 127 + magnitude :=
      Nat.mod_eq_of_lt (by omega)
    have split : 2 ^ 127 = 2 ^ low * (2 ^ width * 2 ^ (127 - low - width)) := by
      rw [← Nat.pow_add, ← Nat.pow_add]
      congr 1
      omega
    simp only [field, ofSigned, BitVec.toNat_ofNat, if_true, whole]
    rw [split, Nat.mul_add_div (Nat.two_pow_pos low), Nat.mul_add_mod]

theorem isNegative_ofSigned (negative : Bool) {magnitude : Nat} (small : magnitude < 2 ^ 127) :
    (ofSigned negative magnitude).isNegative = negative := by
  cases negative with
  | false =>
    simp only [isNegative, field, ofSigned, BitVec.toNat_ofNat, Bool.false_eq_true, if_false,
      decide_eq_false_iff_not]
    omega
  | true =>
    simp only [isNegative, field, ofSigned, BitVec.toNat_ofNat, if_true, decide_eq_true_eq]
    omega

theorem value_ofValue (v : Value) : (ofValue v).value = v := by
  cases v with
  | nan negative =>
    have sign := isNegative_ofSigned negative (show 31 * 2 ^ 122 < 2 ^ 127 by decide)
    have special : (ofSigned negative (31 * 2 ^ 122)).field 122 5 = 31 :=
      field_ofSigned negative (by decide) (by decide)
    rw [ofValue, value, dif_pos special, sign]
  | infinity negative =>
    have sign := isNegative_ofSigned negative (show 30 * 2 ^ 122 < 2 ^ 127 by decide)
    have special : (ofSigned negative (30 * 2 ^ 122)).field 122 5 = 30 :=
      field_ofSigned negative (by decide) (by decide)
    rw [ofValue, value, dif_neg (by rw [special]; decide), dif_pos special, sign]
  | finite negative magnitude =>
    obtain ⟨coefficient, exponent, coefficient_lt, range⟩ := magnitude
    have few : coefficient < 2 ^ 113 := Nat.lt_trans coefficient_lt (by decide)
    obtain ⟨biased, small, rfl⟩ :
        ∃ biased : Nat, biased < 12288 ∧ exponent = minExponent + biased := by
      simp only [minExponent, maxExponent] at range ⊢
      exact ⟨(exponent + 6176).toNat, by omega, by omega⟩
    have word :
        ofValue (.finite negative ⟨coefficient, minExponent + biased, coefficient_lt, range⟩) =
        ofSigned negative (biased * 2 ^ 113 + coefficient) := by
      have bias : minExponent + biased - minExponent = biased := by omega
      rw [ofValue, bias, Int.toNat_natCast]
    have fields (low width : Nat) (inside : low + width ≤ 127) := field_ofSigned negative
      (show biased * 2 ^ 113 + coefficient < 2 ^ 127 by omega) inside
    have sign := isNegative_ofSigned negative
      (show biased * 2 ^ 113 + coefficient < 2 ^ 127 by omega)
    generalize ofSigned negative (biased * 2 ^ 113 + coefficient) = x at word fields sign
    have special : x.field 122 5 < 30 := by
      rw [fields 122 5 (by decide)]
      omega
    have form : x.field 125 2 ≠ 3 := by
      rw [fields 125 2 (by decide)]
      omega
    have power : x.field 113 14 = biased := by
      rw [fields 113 14 (by decide)]
      omega
    have digits : x.field 0 113 = coefficient := by
      rw [fields 0 113 (by decide)]
      omega
    rw [word, value, dif_neg (by omega), dif_neg (by omega), dif_neg form, sign]
    simp only [Magnitude.ofFields, power, digits, if_pos coefficient_lt]

end Decimal128

namespace Literal

/-- Digits in front of a point and behind it, and no point if there are none behind it. -/
def pointed (whole fraction : List Char) : List Char :=
  whole ++ if fraction.isEmpty then [] else '.' :: fraction

/-- What follows the digits of a numeral does not go on with them. -/
def Follows (rest : List Char) : Prop := ∀ c, rest.head? = some c → isDigit c = false ∧ c ≠ '.'

theorem takeWhile_digits {digits rest : List Char} (digital : ∀ c ∈ digits, isDigit c = true)
    (ends : ∀ c, rest.head? = some c → isDigit c = false) :
    (digits ++ rest).takeWhile isDigit = digits ∧ (digits ++ rest).dropWhile isDigit = rest := by
  rw [List.takeWhile_append_of_pos digital, List.dropWhile_append_of_pos digital]
  cases rest with
  | nil => exact ⟨List.append_nil digits, rfl⟩
  | cons c rest =>
    have other := ends c rfl
    rw [List.takeWhile_cons_of_neg (by rw [other]; exact Bool.false_ne_true),
      List.dropWhile_cons_of_neg (by rw [other]; exact Bool.false_ne_true), List.append_nil]
    exact ⟨rfl, rfl⟩

theorem toLower_of_isDigit {c : Char} (digit : isDigit c = true) : c.toLower = c := by
  simp only [isDigit, Bool.and_eq_true, decide_eq_true_eq] at digit
  have small : c.val ≤ 57 := digit.2
  have other : ¬ (c.val ≥ 65 ∧ c.val ≤ 90) := by
    rintro ⟨large, -⟩
    exact absurd (UInt32.le_trans large small) (by decide)
  exact dif_neg other

/-- A text that begins with a digit is no name. -/
theorem ofMagnitude?_of_digit {c : Char} (digit : isDigit c = true) (rest : List Char) :
    ofMagnitude? (c :: rest) = numeral? (c :: rest) := by
  have other {name : String} (letter : name.toList.head?.any isDigit = false) :
      String.ofList ((c :: rest).map Char.toLower) ≠ name := by
    rintro rfl
    rw [String.toList_ofList, List.map_cons, List.head?_cons, Option.any_some,
      toLower_of_isDigit digit, digit] at letter
    cases letter
  have names : ¬ (String.ofList ((c :: rest).map Char.toLower) = "inf" ∨
      String.ofList ((c :: rest).map Char.toLower) = "infinity") :=
    not_or.mpr ⟨other (by decide), other (by decide)⟩
  rw [ofMagnitude?, if_neg (other (by decide)), if_neg names]

theorem numeral?_pointed {whole fraction rest : List Char} {exponent : Int}
    (nonempty : whole ≠ []) (wholeDigits : ∀ c ∈ whole, isDigit c = true)
    (fractionDigits_ : ∀ c ∈ fraction, isDigit c = true) (follows : Follows rest)
    (power : exponent? rest = some exponent) :
    numeral? (pointed whole fraction ++ rest) =
      some (.numeral (decimalValue (whole ++ fraction)) fraction.length exponent) := by
  have filled : whole.isEmpty = false := by simpa using nonempty
  unfold numeral? pointed
  cases fraction with
  | nil =>
    obtain ⟨taken, left⟩ := takeWhile_digits wholeDigits fun c first => (follows c first).1
    have undotted : fractionDigits rest = ([], rest) := by
      unfold fractionDigits
      split
      · exact absurd rfl (follows '.' rfl).2
      · rfl
    simp only [List.isEmpty_nil, if_true, List.append_nil, taken, left, undotted, filled,
      Bool.false_eq_true, false_and, if_false, power, Option.map_some, List.length_nil]
  | cons d fraction =>
    obtain ⟨taken, left⟩ := takeWhile_digits wholeDigits
      (show ∀ c, ('.' :: d :: fraction ++ rest).head? = some c → isDigit c = false by
        rintro c ⟨⟩
        rfl)
    obtain ⟨takenBehind, leftBehind⟩ := takeWhile_digits fractionDigits_
      fun c first => (follows c first).1
    have dotted : fractionDigits ('.' :: d :: fraction ++ rest) = (d :: fraction, rest) := by
      rw [List.cons_append, fractionDigits, takenBehind, leftBehind]
    simp only [List.isEmpty_cons, Bool.false_eq_true, if_false, List.append_assoc, taken, left,
      dotted, filled, false_and, power, Option.map_some]

end Literal

namespace Layout

open Literal (pointed)

theorem decimalValue_zeros_append (count : Nat) (digits : List Char) :
    decimalValue (List.replicate count '0' ++ digits) = decimalValue digits := by
  rw [decimalValue_eq, decimalValue_eq, Nat.ofDigitChars_append, Nat.ofDigitChars_replicate_zero,
    Nat.mul_zero]

/-- Digits with a point among them, or zeros in front of them, write the number that they write. -/
theorem place_eq_pointed {digits : List Char} (nonempty : digits ≠ [])
    (digital : ∀ c ∈ digits, isDigit c = true) {point : Int} (inside : point ≤ digits.length) :
    ∃ whole fraction, (place false digits point).toList = pointed whole fraction ∧ whole ≠ [] ∧
      (∀ c ∈ whole ++ fraction, isDigit c = true) ∧
      decimalValue (whole ++ fraction) = decimalValue digits ∧
      (fraction.length : Int) = digits.length - point := by
  have positive : 0 < digits.length := List.length_pos_iff.mpr nonempty
  unfold place
  split
  · rename_i front
    refine ⟨['0'], List.replicate (-point).toNat '0' ++ digits, ?_, by simp, ?_, ?_, ?_⟩
    · have more : (List.replicate (-point).toNat '0' ++ digits).isEmpty = false := by
        simp [nonempty]
      simp only [String.toList_append, zeros, String.toList_ofList, pointed, more]
      rfl
    · intro c among
      simp only [List.mem_append, List.mem_singleton, List.mem_replicate] at among
      rcases among with rfl | ⟨-, rfl⟩ | among
      · rfl
      · rfl
      · exact digital c among
    · exact (decimalValue_zeros_append 1 _).trans (decimalValue_zeros_append _ digits)
    · rw [List.length_append, List.length_replicate]
      omega
  · split
    · rename_i front behind
      have all : point.toNat = digits.length := by omega
      refine ⟨digits, [], ?_, nonempty, ?_, ?_, ?_⟩
      · rw [all, Nat.sub_self]
        simp [zeros, pointed]
      · simpa using digital
      · rw [List.append_nil]
      · rw [List.length_nil]
        omega
    · rename_i front behind
      refine ⟨digits.take point.toNat, digits.drop point.toNat, ?_, ?_, ?_, ?_, ?_⟩
      · have more : (digits.drop point.toNat).isEmpty = false := by
          rw [List.isEmpty_eq_false_iff, ne_eq, List.drop_eq_nil_iff]
          exact behind
        rw [String.toList_append, String.toList_append, String.toList_ofList, String.toList_ofList,
          pointed, more]
        simp
      · simp only [ne_eq, List.take_eq_nil_iff, not_or]
        exact ⟨by omega, nonempty⟩
      · rwa [List.take_append_drop]
      · rw [List.take_append_drop]
      · rw [List.length_drop]
        omega

/-- The letter of an exponent with its sign and its digits. -/
def power (exponent : Int) : List Char :=
  'E' :: (if exponent < 0 then '-' else '+') :: Nat.toDigits 10 exponent.natAbs

theorem exponent?_power (exponent : Int) : Literal.exponent? (power exponent) = some exponent := by
  by_cases negative : exponent < 0
  · have value : -(exponent.natAbs : Int) = exponent := by omega
    rw [power, if_pos negative, Literal.exponent?, if_pos (.inr rfl)]
    simp only [signed, decimal?_toDigits, Option.map_some, if_true, value]
  · have value : (exponent.natAbs : Int) = exponent := by omega
    rw [power, if_neg negative, Literal.exponent?, if_pos (.inr rfl)]
    simp only [signed, decimal?_toDigits, Option.map_some, Bool.false_eq_true, if_false, value]

theorem withExponent_eq_pointed (digits : List Char) (exponent : Int) :
    (withExponent 'E' digits exponent).toList =
      pointed (digits.take 1) (digits.drop 1) ++ power exponent := by
  have letter : ('E'.toString).toList = ['E'] := rfl
  have digits_ : (toString exponent.natAbs).toList = Nat.toDigits 10 exponent.natAbs :=
    Nat.toList_repr
  simp only [withExponent, String.toList_append, String.toList_ofList, letter, digits_, pointed,
    power, List.append_assoc]
  split <;> split <;> simp

end Layout

namespace Decimal128

namespace Magnitude

/-- The text of a magnitude is digits with perhaps a point among them and an exponent behind
them. -/
structure Spelled (magnitude : Magnitude) (whole fraction rest : List Char) (exponent : Int) :
    Prop where
  text : magnitude.text.toList = Literal.pointed whole fraction ++ rest
  nonempty : whole ≠ []
  digital : ∀ c ∈ whole ++ fraction, isDigit c = true
  value : decimalValue (whole ++ fraction) = magnitude.coefficient
  follows : Literal.Follows rest
  power : Literal.exponent? rest = some exponent
  places : exponent - fraction.length = magnitude.exponent
  short : isShort exponent = true

theorem exists_spelled (magnitude : Magnitude) :
    ∃ whole fraction rest exponent, magnitude.Spelled whole fraction rest exponent := by
  have digital : ∀ c ∈ Nat.toDigits 10 magnitude.coefficient, isDigit c = true :=
    fun c => isDigit_of_mem_toDigits
  have nonempty := @Nat.toDigits_ne_nil magnitude.coefficient 10
  have few : (Nat.toDigits 10 magnitude.coefficient).length ≤ maxDigits :=
    (Nat.length_toDigits_le_iff (by decide) (by decide)).mpr magnitude.coefficient_lt
  have value : decimalValue (Nat.toDigits 10 magnitude.coefficient) = magnitude.coefficient := by
    rw [decimalValue_eq, Nat.ofDigitChars_ten_toDigits]
  have range := magnitude.range
  simp only [minExponent, maxExponent, maxDigits] at range few
  by_cases positional : magnitude.exponent ≤ 0 ∧
      -6 ≤ magnitude.exponent + (Nat.toDigits 10 magnitude.coefficient).length - 1
  · obtain ⟨whole, fraction, placed, filled, digits, same, places⟩ :=
      Layout.place_eq_pointed nonempty digital (show magnitude.exponent +
        (Nat.toDigits 10 magnitude.coefficient).length - 1 + 1 ≤
        (Nat.toDigits 10 magnitude.coefficient).length by omega)
    refine ⟨whole, fraction, [], 0, ?_, filled, digits, same.trans value, nofun, rfl, by omega, rfl⟩
    rw [text, if_pos positional, placed, List.append_nil]
  · generalize shape : Nat.toDigits 10 magnitude.coefficient = digits at *
    refine ⟨digits.take 1, digits.drop 1, Layout.power _, _, ?_, ?_, ?_, ?_, ?_,
      Layout.exponent?_power (magnitude.exponent + digits.length - 1), ?_, ?_⟩
    · rw [text, shape, if_neg positional, Layout.withExponent_eq_pointed]
    · simpa using nonempty
    · rwa [List.take_append_drop]
    · rw [List.take_append_drop, value]
    · rintro c ⟨⟩
      exact ⟨rfl, by decide⟩
    · have positive : 0 < digits.length := List.length_pos_iff.mpr nonempty
      rw [List.length_drop]
      omega
    · rw [isShort, decide_eq_true_eq]
      omega

theorem of?_self (magnitude : Magnitude) :
    of? magnitude.coefficient magnitude.exponent = some magnitude :=
  dif_pos ⟨magnitude.coefficient_lt, magnitude.range⟩

theorem unrounded?_self (magnitude : Magnitude) :
    unrounded? magnitude.coefficient magnitude.exponent = some magnitude := by
  have few : (Nat.toDigits 10 magnitude.coefficient).length ≤ maxDigits :=
    (Nat.length_toDigits_le_iff (by decide) (by decide)).mpr magnitude.coefficient_lt
  obtain ⟨low, high⟩ := magnitude.range
  have lost : max ((Nat.toDigits 10 magnitude.coefficient).length - maxDigits)
      (minExponent - magnitude.exponent).toNat = 0 := by omega
  have gained : (magnitude.exponent + (0 : Nat) - maxExponent).toNat = 0 := by omega
  have kept : magnitude.coefficient / 10 ^ 0 * 10 ^ 0 = magnitude.coefficient := by
    rw [Nat.pow_zero, Nat.div_one, Nat.mul_one]
  have moved : magnitude.exponent + (0 : Nat) - (0 : Nat) = magnitude.exponent := by omega
  rw [unrounded?, lost, gained, if_pos (Nat.one_dvd _), kept, moved, of?_self]

/-- What the text of a magnitude writes, with or without a minus sign in front of it. -/
theorem exists_literal (magnitude : Magnitude) (negative : Bool) : ∃ places exponent,
    Literal.ofText? ((if negative then "-" else "") ++ magnitude.text).toList =
      some (negative, .numeral magnitude.coefficient places exponent) ∧
    exponent - places = magnitude.exponent ∧ isShort exponent = true := by
  obtain ⟨whole, fraction, rest, exponent, spelled⟩ := magnitude.exists_spelled
  obtain ⟨wholeDigits, fractionDigits⟩ := List.forall_mem_append.mp spelled.digital
  obtain ⟨c, further, shape⟩ := List.exists_cons_of_ne_nil spelled.nonempty
  have digit : isDigit c = true := wholeDigits c (shape ▸ List.mem_cons_self)
  have first : ∃ behind, magnitude.text.toList = c :: behind := by
    rw [spelled.text, shape]
    exact ⟨_, rfl⟩
  have read : Literal.ofMagnitude? magnitude.text.toList =
      some (.numeral magnitude.coefficient fraction.length exponent) := by
    obtain ⟨behind, text⟩ := first
    rw [text, Literal.ofMagnitude?_of_digit digit, ← text, spelled.text,
      Literal.numeral?_pointed spelled.nonempty wholeDigits fractionDigits spelled.follows
        spelled.power, spelled.value]
  refine ⟨fraction.length, exponent, ?_, spelled.places, spelled.short⟩
  cases negative with
  | true =>
    rw [Literal.ofText?, if_pos rfl, String.toList_append]
    simp [signed, read]
  | false =>
    obtain ⟨behind, text⟩ := first
    have plain : signed magnitude.text.toList = (false, magnitude.text.toList) := by
      rw [text, signed_of_isDigit digit]
    simp [Literal.ofText?, plain, read]

end Magnitude

/-- The value that the text of a value is read as: it has no sign if it is not a number. -/
def Value.told : Value → Value
  | .nan _ => .nan false
  | value => value

theorem Value.text_told (v : Value) : v.told.text = v.text := by
  cases v <;> rfl

/-- The word that is read back from the text of a word. -/
def settled (x : Decimal128) : Decimal128 := ofValue x.value.told

theorem isShort_of_range {exponent : Int}
    (range : minExponent ≤ exponent ∧ exponent ≤ maxExponent) : isShort exponent = true := by
  simp only [minExponent, maxExponent] at range
  rw [isShort, decide_eq_true_eq]
  omega

theorem ofText?_text (x : Decimal128) : ofText? x.text.toList = some x.settled := by
  rw [text, settled]
  cases x.value with
  | nan negative => cases negative <;> rfl
  | infinity negative => cases negative <;> rfl
  | finite negative magnitude =>
    obtain ⟨places, exponent, read, same, short⟩ := magnitude.exists_literal negative
    have whole : Value.ofLiteral? negative (.numeral magnitude.coefficient places exponent) =
        some (.finite negative magnitude) := by
      rw [Value.ofLiteral?, same, if_pos ⟨short, isShort_of_range magnitude.range⟩,
        magnitude.unrounded?_self]
      rfl
    rw [Value.text, ofText?, read]
    simp only [Option.bind_eq_bind, Option.bind_some, whole]
    rfl

theorem text_settled (x : Decimal128) : x.settled.text = x.text := by
  rw [text, settled, value_ofValue, Value.text_told, text]

end Decimal128

end DriverCompat.Decimal
