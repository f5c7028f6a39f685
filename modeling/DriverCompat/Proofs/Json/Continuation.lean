import DriverCompat.Proofs.Json.Scalars
import DriverCompat.Json.Skip

/-! # Tokens of a text that goes on

A token that was read is read just the same when more text is put behind. Words and strings have an
end of their own. A number may go on in what follows it, so something must be left behind it already
for its end to be certain.
-/

namespace DriverCompat.Json

open Text

variable {text rest : List Char}

theorem dropWhile_append_of_ne_nil {p : Char → Bool} (left : text.dropWhile p ≠ [])
    (more : List Char) : (text ++ more).dropWhile p = text.dropWhile p ++ more := by
  rw [List.dropWhile_append, if_neg (by simpa using left)]

theorem skipSpace_append_of_ne_nil (left : skipSpace text ≠ []) (more : List Char) :
    skipSpace (text ++ more) = skipSpace text ++ more :=
  dropWhile_append_of_ne_nil left more

theorem skipSpace_append_of_cons {c : Char} (eq : skipSpace text = c :: rest) (more : List Char) :
    skipSpace (text ++ more) = c :: (rest ++ more) := by
  rw [skipSpace_append_of_ne_nil (by simp [eq]), eq, List.cons_append]

theorem ne_nil_of_length_le (left : rest ≠ []) (le : rest.length ≤ text.length) : text ≠ [] := by
  rintro rfl
  exact left (List.eq_nil_of_length_eq_zero (Nat.le_zero.mp le))

theorem word_append {letters : List Char} (read : word letters text = .ok rest)
    (more : List Char) : word letters (text ++ more) = .ok (rest ++ more) := by
  induction letters generalizing text with
  | nil => cases read; rfl
  | cons w ws ih =>
    cases text with
    | nil => simp [word] at read
    | cons c text =>
      simp only [List.cons_append, word] at read ⊢
      split at read
      · rename_i same
        rw [if_pos same]
        exact ih read
      · simp at read

/-! ## Strings -/

theorem hexEscape_append {n : Nat} (read : hexEscape text = .ok (n, rest)) (more : List Char) :
    hexEscape (text ++ more) = .ok (n, rest ++ more) := by
  unfold hexEscape at read
  split at read
  · rename_i a b c d tail
    split at read
    · rename_i number
      cases read
      simp only [List.cons_append, hexEscape, number]
    · simp at read
  · simp at read

theorem trailingDigits_append {leading : Nat} {c : Char}
    (read : trailingDigits leading text = .ok (c, rest)) (more : List Char) :
    trailingDigits leading (text ++ more) = .ok (c, rest ++ more) := by
  unfold trailingDigits at read
  split at read
  · simp at read
  · rename_i digits
    split at read
    · rename_i trailing
      simp only [Except.ok.injEq, Prod.mk.injEq] at read
      obtain ⟨rfl, rfl⟩ := read
      simp only [trailingDigits, hexEscape_append digits more, trailing, if_true]
    · simp at read

theorem pairMark_append {mark : Char} (read : pairMark mark text = .ok rest) (more : List Char) :
    pairMark mark (text ++ more) = .ok (rest ++ more) := by
  unfold pairMark at read
  split at read
  · simp at read
  · split at read
    · rename_i same
      cases read
      rw [List.cons_append, pairMark, if_pos same]
    · simp at read

theorem trailingSurrogate_append {leading : Nat} {c : Char}
    (read : trailingSurrogate leading text = .ok (c, rest)) (more : List Char) :
    trailingSurrogate leading (text ++ more) = .ok (c, rest ++ more) := by
  unfold trailingSurrogate at read
  split at read
  · simp at read
  · rename_i backslash
    split at read
    · simp at read
    · rename_i letter
      simp only [trailingSurrogate, pairMark_append backslash, pairMark_append letter]
      exact trailingDigits_append read more

theorem numberEscape_append {c : Char} (read : numberEscape text = .ok (c, rest))
    (more : List Char) : numberEscape (text ++ more) = .ok (c, rest ++ more) := by
  unfold numberEscape at read
  split at read
  · simp at read
  · rename_i digits
    simp only [numberEscape, hexEscape_append digits more]
    split at read
    · simp at read
    · rename_i noTrailing
      rw [if_neg noTrailing]
      split at read
      · rename_i leading
        rw [if_pos leading]
        exact trailingSurrogate_append read more
      · rename_i noLeading
        cases read
        rw [if_neg noLeading]

theorem escaped_append {c : Char} (read : escaped text = .ok (c, rest)) (more : List Char) :
    escaped (text ++ more) = .ok (c, rest ++ more) := by
  unfold escaped at read
  split at read
  · simp at read
  · rename_i letter tail
    rw [List.cons_append, escaped]
    split at read
    · rename_i number
      rw [if_pos number]
      exact numberEscape_append read more
    · rename_i noNumber
      rw [if_neg noNumber]
      split at read
      · cases read
        rfl
      · simp at read

theorem characters_append {cs : List Char} (read : characters text = .ok (cs, rest))
    (more : List Char) : characters (text ++ more) = .ok (cs, rest ++ more) := by
  fun_induction characters text generalizing cs rest with
  | case1 => simp at read
  | case2 => cases read; exact characters_quote _
  | case3 => simp at read
  | case4 => simp_all
  | case5 _ c between escape _ cs' end_ further ih =>
    cases read
    exact characters_backslash (escaped_append escape more) (ih further)
  | case6 => simp at read
  | case7 => simp_all
  | case8 c tail noQuote noBackslash noControl cs' end_ further ih =>
    cases read
    exact characters_plain noQuote noBackslash (Nat.le_of_not_lt noControl) (ih further)

theorem stringBody_append {s : String} (read : stringBody text = .ok (s, rest))
    (more : List Char) : stringBody (text ++ more) = .ok (s, rest ++ more) := by
  unfold stringBody at read
  split at read
  · simp at read
  · rename_i body
    cases read
    rw [stringBody, characters_append body more]

/-! ## Numbers -/

theorem startsWithDigit_append (left : text ≠ []) (more : List Char) :
    startsWithDigit (text ++ more) = startsWithDigit text := by
  obtain ⟨c, tail, rfl⟩ := List.exists_cons_of_ne_nil left
  rfl

/-- The digits that are read are the same unless they reach up to the end of the text. -/
theorem digits_append (value : Nat) (left : (Digits.read value text).rest ≠ [])
    (more : List Char) : Digits.read value (text ++ more) =
      ⟨(Digits.read value text).value, (Digits.read value text).count,
        (Digits.read value text).rest ++ more⟩ := by
  induction text generalizing value with
  | nil => exact absurd rfl left
  | cons c tail ih =>
    rw [List.cons_append]
    simp only [Digits.read] at left ⊢
    split at left
    · rename_i fits
      simp only [if_pos fits, ih _ left]
    · rename_i ends
      simp only [if_neg ends, List.cons_append]

section Numbers

variable {n : Number} (left : rest ≠ [])

theorem double_append {negative : Bool} {significand : Nat} {exponent : Int}
    (read : double negative significand exponent text = .ok (n, rest)) (more : List Char) :
    double negative significand exponent (text ++ more) = .ok (n, rest ++ more) := by
  unfold double at read ⊢
  split at read
  · cases read; rfl
  · simp at read

include left

theorem hugeExponent_append {negative negativeExponent : Bool} {significand : Nat}
    (read : hugeExponent negative significand negativeExponent text = .ok (n, rest))
    (more : List Char) :
    hugeExponent negative significand negativeExponent (text ++ more) = .ok (n, rest ++ more) := by
  unfold hugeExponent at read ⊢
  split at read
  · simp at read
  · rename_i finite
    have behind := ne_nil_of_length_le left (Nat.le_of_eq (double_length read))
    rw [if_neg finite, dropWhile_append_of_ne_nil behind]
    exact double_append read more

theorem exponentDigits_append {negative negativeExponent : Bool} {significand value : Nat}
    {shift : Int}
    (read : exponentDigits negative significand shift negativeExponent value text = .ok (n, rest))
    (more : List Char) :
    exponentDigits negative significand shift negativeExponent value (text ++ more) =
      .ok (n, rest ++ more) := by
  induction text generalizing value with
  | nil =>
    rw [exponentDigits] at read
    exact absurd rfl (ne_nil_of_length_le left (Nat.le_of_eq (double_length read)))
  | cons c tail ih =>
    rw [List.cons_append]
    rw [exponentDigits] at read ⊢
    split at read
    · rename_i digit
      rw [if_pos digit]
      split at read
      · rename_i small
        rw [if_pos small]
        exact ih read
      · rename_i large
        rw [if_neg large]
        exact hugeExponent_append left read more
    · rename_i noDigit
      rw [if_neg noDigit]
      exact double_append read more

omit left in
theorem exponentSign_append (nonempty : text ≠ []) (more : List Char) :
    exponentSign (text ++ more) = ((exponentSign text).1, (exponentSign text).2 ++ more) := by
  obtain ⟨c, tail, rfl⟩ := List.exists_cons_of_ne_nil nonempty
  rw [List.cons_append]
  unfold exponentSign
  split <;> simp_all

theorem exponentPart_append {negative : Bool} {significand : Nat} {shift : Int}
    (read : exponentPart negative significand shift text = .ok (n, rest)) (more : List Char) :
    exponentPart negative significand shift (text ++ more) = .ok (n, rest ++ more) := by
  have nonempty : text ≠ [] := ne_nil_of_length_le left (exponentPart_length read)
  unfold exponentPart at read ⊢
  rw [exponentSign_append nonempty]
  generalize exponentSign text = signed at read
  obtain ⟨negativeExponent, tail⟩ := signed
  cases tail with
  | nil => simp at read
  | cons c tail =>
    simp only [List.cons_append] at read ⊢
    split at read
    · rename_i digit
      rw [if_pos digit]
      exact exponentDigits_append left read more
    · simp at read

omit left in
theorem afterFraction_cons (negative : Bool) (significand : Nat) (shift : Int) (c : Char)
    (tail : List Char) : afterFraction negative significand shift (c :: tail) =
      if c = 'e' ∨ c = 'E' then exponentPart negative significand shift tail
      else double negative significand shift (c :: tail) := by
  unfold afterFraction
  split <;> simp_all

theorem afterFraction_append {negative : Bool} {significand : Nat} {shift : Int}
    (read : afterFraction negative significand shift text = .ok (n, rest)) (more : List Char) :
    afterFraction negative significand shift (text ++ more) = .ok (n, rest ++ more) := by
  obtain ⟨c, tail, rfl⟩ := List.exists_cons_of_ne_nil
    (ne_nil_of_length_le left (afterFraction_length read))
  rw [List.cons_append]
  rw [afterFraction_cons] at read ⊢
  split at read
  · rename_i letter
    rw [if_pos letter]
    exact exponentPart_append left read more
  · rename_i noLetter
    rw [if_neg noLetter]
    exact double_append read more

theorem fractionPart_append {negative : Bool} {significand : Nat} {shift : Int}
    (read : fractionPart negative significand shift text = .ok (n, rest)) (more : List Char) :
    fractionPart negative significand shift (text ++ more) = .ok (n, rest ++ more) := by
  unfold fractionPart at read
  simp only at read
  split at read
  · rename_i long
    have behind := ne_nil_of_length_le left (afterFraction_length read)
    have digits : (Digits.read significand text).rest ≠ [] :=
      ne_nil_of_length_le behind (length_dropWhile_le _ _)
    simp only [fractionPart, digits_append _ digits, startsWithDigit_append digits, if_pos long,
      dropWhile_append_of_ne_nil behind]
    exact afterFraction_append left read more
  · rename_i short
    split at read
    · split at read <;> simp at read
    · rename_i some
      have digits := ne_nil_of_length_le left (afterFraction_length read)
      simp only [fractionPart, digits_append _ digits, startsWithDigit_append digits, if_neg short,
        if_neg some]
      exact afterFraction_append left read more

omit left in
theorem integer_append {negative : Bool} {value : Nat}
    (read : integer negative value text = .ok (n, rest)) (more : List Char) :
    integer negative value (text ++ more) = .ok (n, rest ++ more) := by
  unfold integer at read ⊢
  split at read
  · rename_i zero
    rw [if_pos zero]
    exact double_append read more
  · rename_i nonzero
    rw [if_neg nonzero]
    split at read
    · cases read; rfl
    · exact double_append read more

omit left in
theorem afterInteger_cons (negative : Bool) (value : Nat) (c : Char) (tail : List Char) :
    afterInteger negative value (c :: tail) =
      if c = '.' then fractionPart negative value 0 tail
      else if c = 'e' ∨ c = 'E' then exponentPart negative value 0 tail
      else integer negative value (c :: tail) := by
  unfold afterInteger
  split <;> simp_all

theorem afterInteger_append {negative : Bool} {value : Nat}
    (read : afterInteger negative value text = .ok (n, rest)) (more : List Char) :
    afterInteger negative value (text ++ more) = .ok (n, rest ++ more) := by
  obtain ⟨c, tail, rfl⟩ := List.exists_cons_of_ne_nil
    (ne_nil_of_length_le left (afterInteger_length read))
  rw [List.cons_append]
  rw [afterInteger_cons] at read ⊢
  split at read
  · rename_i point
    rw [if_pos point]
    exact fractionPart_append left read more
  · rename_i noPoint
    rw [if_neg noPoint]
    split at read
    · rename_i letter
      rw [if_pos letter]
      exact exponentPart_append left read more
    · rename_i noLetter
      rw [if_neg noLetter]
      exact integer_append read more

omit left in
theorem afterLongInteger_cons (negative : Bool) (value shift : Nat) (c : Char) (tail : List Char) :
    afterLongInteger negative value shift (c :: tail) =
      if c = '.' then fractionPart negative value shift tail
      else afterFraction negative value shift (c :: tail) := by
  unfold afterLongInteger
  split <;> simp_all

theorem afterLongInteger_append {negative : Bool} {value shift : Nat}
    (read : afterLongInteger negative value shift text = .ok (n, rest)) (more : List Char) :
    afterLongInteger negative value shift (text ++ more) = .ok (n, rest ++ more) := by
  obtain ⟨c, tail, rfl⟩ := List.exists_cons_of_ne_nil
    (ne_nil_of_length_le left (afterLongInteger_length read))
  rw [List.cons_append]
  rw [afterLongInteger_cons] at read ⊢
  split at read
  · rename_i point
    rw [if_pos point]
    exact fractionPart_append left read more
  · rename_i noPoint
    rw [if_neg noPoint]
    exact afterFraction_append left read more

theorem unsignedNumber_append {negative : Bool}
    (read : unsignedNumber negative text = .ok (n, rest)) (more : List Char) :
    unsignedNumber negative (text ++ more) = .ok (n, rest ++ more) := by
  unfold unsignedNumber at read
  split at read
  · simp at read
  · rename_i c tail
    rw [List.cons_append, unsignedNumber]
    split at read
    · rename_i zero
      rw [if_pos zero]
      split at read
      · simp at read
      · rename_i short
        have behind := ne_nil_of_length_le left (afterInteger_length read)
        rw [startsWithDigit_append behind, if_neg short]
        exact afterInteger_append left read more
    · rename_i nonzero
      rw [if_neg nonzero]
      split at read
      · rename_i digit
        rw [if_pos digit]
        simp only at read ⊢
        split at read
        · rename_i long
          have behind := ne_nil_of_length_le left (afterLongInteger_length read)
          have digits : (Digits.read (digitValue c) tail).rest ≠ [] :=
            ne_nil_of_length_le behind (length_dropWhile_le _ _)
          simp only [digits_append _ digits, startsWithDigit_append digits, if_pos long,
            dropWhile_append_of_ne_nil behind, List.length_append, Nat.add_sub_add_right]
          exact afterLongInteger_append left read more
        · rename_i short
          have digits := ne_nil_of_length_le left (afterInteger_length read)
          simp only [digits_append _ digits, startsWithDigit_append digits, if_neg short]
          exact afterInteger_append left read more
      · simp at read

omit left in
theorem numeral_cons (c : Char) (tail : List Char) : numeral (c :: tail) =
    if c = '-' then unsignedNumber true tail else unsignedNumber false (c :: tail) := by
  unfold numeral
  split <;> simp_all

/-- A number that does not reach up to the end of a text is read the same in a longer one. -/
theorem numeral_append (read : numeral text = .ok (n, rest)) (more : List Char) :
    numeral (text ++ more) = .ok (n, rest ++ more) := by
  obtain ⟨c, tail, rfl⟩ := List.exists_cons_of_ne_nil
    (ne_nil_of_length_le left (Nat.le_of_lt (numeral_shorter read)))
  rw [List.cons_append]
  rw [numeral_cons] at read ⊢
  split at read
  · rename_i minus
    rw [if_pos minus]
    exact unsignedNumber_append left read more
  · rename_i noMinus
    rw [if_neg noMinus]
    exact unsignedNumber_append left read more

end Numbers

/-! ## Passing over a scalar -/

theorem skipEscape_append (read : skipEscape text = .ok rest) (more : List Char) :
    skipEscape (text ++ more) = .ok (rest ++ more) := by
  unfold skipEscape at read
  split at read
  · simp at read
  · rename_i c tail
    rw [List.cons_append, skipEscape]
    split at read
    · rename_i number
      rw [if_pos number]
      cases digits : hexEscape tail with
      | error fault => simp [digits, Except.map] at read
      | ok pair =>
        obtain ⟨n, between⟩ := pair
        simp only [digits, Except.map, Except.ok.injEq] at read
        subst read
        rw [hexEscape_append digits more]
        rfl
    · rename_i noNumber
      rw [if_neg noNumber]
      split at read
      · rename_i known
        cases read
        exact if_pos known
      · simp at read

theorem skipString_append (read : skipString text = .ok rest) (more : List Char) :
    skipString (text ++ more) = .ok (rest ++ more) := by
  fun_induction skipString text with
  | case1 => simp at read
  | case2 =>
    cases read
    rw [List.cons_append, skipString]
  | case3 => simp at read
  | case4 tail between escape _ ih =>
    rw [List.cons_append, skipString]
    split
    · rename_i failed
      rw [skipEscape_append escape more] at failed
      cases failed
    · rename_i found
      rw [skipEscape_append escape more] at found
      cases found
      exact ih read
  | case5 => simp at read
  | case6 c tail noQuote noBackslash noControl ih =>
    rw [List.cons_append, skipString]
    · rw [if_neg noControl]
      exact ih read
    · exact noQuote
    · exact noBackslash

section Skipped

variable (left : rest ≠ [])
include left

theorem skipExponent_append (read : skipExponent text = .ok rest) (more : List Char) :
    skipExponent (text ++ more) = .ok (rest ++ more) := by
  have nonempty := ne_nil_of_length_le left (skipExponent_length read)
  unfold skipExponent at read ⊢
  rw [exponentSign_append nonempty]
  simp only at read ⊢
  split at read
  · rename_i digit
    cases read
    have signed := ne_nil_of_length_le left (length_dropWhile_le _ _)
    rw [startsWithDigit_append signed, if_pos digit, dropWhile_append_of_ne_nil left]
  · simp at read

omit left in
theorem skipScale_cons (c : Char) (tail : List Char) : skipScale (c :: tail) =
    if c = 'e' ∨ c = 'E' then skipExponent tail else .ok (c :: tail) := by
  unfold skipScale
  split <;> simp_all

theorem skipScale_append (read : skipScale text = .ok rest) (more : List Char) :
    skipScale (text ++ more) = .ok (rest ++ more) := by
  obtain ⟨c, tail, rfl⟩ :=
    List.exists_cons_of_ne_nil (ne_nil_of_length_le left (skipScale_length read))
  rw [List.cons_append]
  rw [skipScale_cons] at read ⊢
  split at read
  · rename_i letter
    rw [if_pos letter]
    exact skipExponent_append left read more
  · rename_i noLetter
    cases read
    exact if_neg noLetter

omit left in
theorem skipFraction_cons (c : Char) (tail : List Char) : skipFraction (c :: tail) =
    if c = '.' then
      if startsWithDigit tail then skipScale (tail.dropWhile isDigit)
      else .error (.atNext .brokenNumber tail)
    else skipScale (c :: tail) := by
  unfold skipFraction
  split <;> simp_all

theorem skipFraction_append (read : skipFraction text = .ok rest) (more : List Char) :
    skipFraction (text ++ more) = .ok (rest ++ more) := by
  obtain ⟨c, tail, rfl⟩ :=
    List.exists_cons_of_ne_nil (ne_nil_of_length_le left (skipFraction_length read))
  rw [List.cons_append]
  rw [skipFraction_cons] at read ⊢
  split at read
  · rename_i point
    rw [if_pos point]
    split at read
    · rename_i digit
      have behind := ne_nil_of_length_le left (skipScale_length read)
      have nonempty := ne_nil_of_length_le behind (length_dropWhile_le _ _)
      rw [startsWithDigit_append nonempty, if_pos digit, dropWhile_append_of_ne_nil behind]
      exact skipScale_append left read more
    · simp at read
  · rename_i noPoint
    rw [if_neg noPoint]
    exact skipScale_append left read more

theorem skipDigits_append (read : skipDigits text = .ok rest) (more : List Char) :
    skipDigits (text ++ more) = .ok (rest ++ more) := by
  unfold skipDigits at read
  split at read
  · simp at read
  · rename_i c tail
    rw [List.cons_append, skipDigits]
    split at read
    · rename_i zero
      rw [if_pos zero]
      split at read
      · simp at read
      · rename_i short
        have behind := ne_nil_of_length_le left (skipFraction_length read)
        rw [startsWithDigit_append behind, if_neg short]
        exact skipFraction_append left read more
    · rename_i nonzero
      rw [if_neg nonzero]
      split at read
      · rename_i digit
        have behind := ne_nil_of_length_le left (skipFraction_length read)
        rw [if_pos digit, dropWhile_append_of_ne_nil behind]
        exact skipFraction_append left read more
      · simp at read

omit left in
theorem skipScalar_of_isDigit {c : Char} (digit : isDigit c) (text : List Char) :
    skipScalar (c :: text) = skipDigits (c :: text) := by
  unfold skipScalar
  split
  iterate 5
    · rename_i same
      cases same
      exact absurd digit (by decide)
  · exact if_pos digit

theorem skipScalar_append (read : skipScalar text = .ok rest) (more : List Char) :
    skipScalar (text ++ more) = .ok (rest ++ more) := by
  obtain ⟨c, tail, rfl⟩ := List.exists_cons_of_ne_nil
    (ne_nil_of_length_le left (Nat.le_of_lt (skipScalar_shorter read)))
  rw [List.cons_append]
  unfold skipScalar at read ⊢
  split at read
  · rename_i eq
    cases eq
    exact word_append read more
  · rename_i eq
    cases eq
    exact word_append read more
  · rename_i eq
    cases eq
    exact word_append read more
  · rename_i eq
    cases eq
    exact skipDigits_append left read more
  · rename_i eq
    cases eq
    exact skipString_append read more
  · rename_i noNull noTrue noFalse noMinus noQuote
    split at read
    · rename_i digit
      exact (skipScalar_of_isDigit digit _).trans (skipDigits_append left read more)
    · simp at read

end Skipped

end DriverCompat.Json
