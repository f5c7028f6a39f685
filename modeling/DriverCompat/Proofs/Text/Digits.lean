import DriverCompat.Text.Digit

/-! # Numbers and their decimal digits

A number is read back from its digits, whether they stand alone, behind a sign, or in a field of a
fixed width that is filled with zeros. A fraction keeps its value when the zeros at its end go.
-/

namespace DriverCompat.Text

theorem decimalValue_eq (digits : List Char) :
    decimalValue digits = Nat.ofDigitChars 10 digits 0 := by
  have from_ (value : Nat) :
      (digits.map digitValue).foldl (fun value digit => value * 10 + digit) value =
        Nat.ofDigitChars 10 digits value := by
    induction digits generalizing value with
    | nil => rfl
    | cons c digits ih =>
      rw [List.map_cons, List.foldl_cons, ih, Nat.ofDigitChars_cons, Nat.mul_comm]
      rfl
  exact from_ 0

theorem isDigit_of_mem_toDigits {n : Nat} {c : Char} (among : c ∈ Nat.toDigits 10 n) :
    isDigit c = true :=
  Nat.isDigit_of_mem_toDigits (by decide) (by decide) among

theorem decimal?_toDigits (n : Nat) : decimal? (Nat.toDigits 10 n) = some n := by
  have nonempty : (Nat.toDigits 10 n).isEmpty = false := by
    rw [List.isEmpty_eq_false_iff]
    exact Nat.toDigits_ne_nil
  have digital : (Nat.toDigits 10 n).all isDigit = true := by
    rw [List.all_eq_true]
    intro c among
    exact isDigit_of_mem_toDigits among
  rw [decimal?, nonempty, digital, decimalValue_eq, Nat.ofDigitChars_ten_toDigits]
  rfl

theorem signed_of_isDigit {c : Char} (digit : isDigit c = true) (rest : List Char) :
    signed (c :: rest) = (false, c :: rest) := by
  unfold signed
  split
  · rename_i same
    cases same
    exact absurd digit (by decide)
  · rename_i same
    cases same
    exact absurd digit (by decide)
  · rfl

theorem signed_toDigits (n : Nat) : signed (Nat.toDigits 10 n) = (false, Nat.toDigits 10 n) := by
  obtain ⟨c, digits, shape⟩ := List.exists_cons_of_ne_nil (@Nat.toDigits_ne_nil n 10)
  have digit : isDigit c = true := isDigit_of_mem_toDigits (shape ▸ List.mem_cons_self)
  rw [shape, signed_of_isDigit digit]

theorem toList_toString_of_nonneg {i : Int} (nonnegative : 0 ≤ i) :
    (toString i).toList = Nat.toDigits 10 i.toNat := by
  change i.repr.toList = _
  rw [Int.repr_eq_if, if_pos nonnegative, Nat.toList_repr]

theorem toList_toString_of_neg {i : Int} (negative : i < 0) :
    (toString i).toList = '-' :: Nat.toDigits 10 (-i).toNat := by
  change i.repr.toList = _
  rw [Int.repr_eq_if, if_neg (Int.not_le.mpr negative), String.toList_append, Nat.toList_repr]
  rfl

theorem length_paddedDecimal {width n : Nat} (positive : 0 < width) (small : n < 10 ^ width) :
    (paddedDecimal width n).length = width := by
  have short : (Nat.toDigits 10 n).length ≤ width :=
    (Nat.length_toDigits_le_iff (by decide) positive).mpr small
  rw [paddedDecimal, List.length_append, List.length_replicate]
  omega

theorem isDigit_of_mem_paddedDecimal {width n : Nat} {c : Char}
    (among : c ∈ paddedDecimal width n) : isDigit c = true := by
  rw [paddedDecimal, List.mem_append] at among
  rcases among with filled | digit
  · rw [List.eq_of_mem_replicate filled]
    rfl
  · exact isDigit_of_mem_toDigits digit

theorem decimalValue_paddedDecimal (width n : Nat) : decimalValue (paddedDecimal width n) = n := by
  rw [decimalValue_eq, paddedDecimal, Nat.ofDigitChars_append, Nat.ofDigitChars_replicate_zero,
    Nat.mul_zero, Nat.ofDigitChars_ten_toDigits]

/-- A number is read back from its field, whatever stands behind that. -/
theorem takeNumber?_paddedDecimal {width n : Nat} (positive : 0 < width) (small : n < 10 ^ width)
    (rest : List Char) : takeNumber? width (paddedDecimal width n ++ rest) = some (n, rest) := by
  have length := length_paddedDecimal positive small
  have digital : (paddedDecimal width n).all isDigit = true := by
    rw [List.all_eq_true]
    intro c among
    exact isDigit_of_mem_paddedDecimal among
  rw [takeNumber?, List.take_left' length, List.drop_left' length, if_pos ⟨length, digital⟩,
    decimalValue_paddedDecimal]

/-- Digits are those that are kept without the zeros at the end, and these zeros. -/
theorem exists_zeros (digits : List Char) : ∃ count,
    digits = (digits.reverse.dropWhile (· = '0')).reverse ++ List.replicate count '0' := by
  have zeros : ∀ c ∈ digits.reverse.takeWhile (· = '0'), c = '0' := by
    intro c among
    exact of_decide_eq_true (List.all_eq_true.mp List.all_takeWhile c among)
  refine ⟨(digits.reverse.takeWhile (· = '0')).length, ?_⟩
  rw [← List.reverse_replicate, ← List.eq_replicate_of_mem zeros, ← List.reverse_append,
    List.takeWhile_append_dropWhile, List.reverse_reverse]

theorem decimalValue_append_zeros (digits : List Char) (count : Nat) :
    decimalValue (digits ++ List.replicate count '0') = 10 ^ count * decimalValue digits := by
  rw [decimalValue_eq, decimalValue_eq, Nat.ofDigitChars_append, Nat.ofDigitChars_replicate_zero]

end DriverCompat.Text
