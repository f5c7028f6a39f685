import DriverCompat.Json.Printer
import DriverCompat.Json.Reader

/-! # Written strings and counts are read back

Every character of a string, however it is escaped, is read as itself, and the string ends at its
closing quote. A count is read back from its decimal digits if something follows them that ends a
number.
-/

namespace DriverCompat.Json

open Text

theorem skipSpace_append {space : List Char} (blank : ∀ c ∈ space, isSpace c) (text : List Char) :
    skipSpace (space ++ text) = skipSpace text :=
  List.dropWhile_append_of_pos blank

theorem skipSpace_of_not_isSpace {c : Char} (solid : isSpace c = false) (text : List Char) :
    skipSpace (c :: text) = c :: text :=
  List.dropWhile_cons_of_neg (by simp [solid])

theorem characters_quote (rest : List Char) : characters ('"' :: rest) = .ok ([], rest) := by
  rw [characters]

theorem characters_backslash {text between rest : List Char} {c : Char} {cs : List Char}
    (escape : escaped text = .ok (c, between)) (more : characters between = .ok (cs, rest)) :
    characters ('\\' :: text) = .ok (c :: cs, rest) := by
  rw [characters]
  split
  · rename_i failed
    rw [escape] at failed
    cases failed
  · rename_i read
    rw [escape] at read
    cases read
    rw [more]

theorem characters_plain {c : Char} {text rest : List Char} {cs : List Char} (noQuote : c ≠ '"')
    (noBackslash : c ≠ '\\') (noControl : 0x20 ≤ c.toNat)
    (more : characters text = .ok (cs, rest)) :
    characters (c :: text) = .ok (c :: cs, rest) := by
  rw [characters]
  · rw [if_neg (Nat.not_lt_of_le noControl), more]
  · exact noQuote
  · exact noBackslash

theorem paddedHex_control : ∀ n < 0x20,
    paddedHex 4 n = ['0', '0', hexDigit (n / 16), hexDigit (n % 16)] := by
  decide

/-- The number of a control character is read back from its digits. -/
theorem hexNumber?_control : ∀ n < 0x20,
    hexNumber? '0' '0' (hexDigit (n / 16)) (hexDigit (n % 16)) = some n := by
  decide

theorem escaped_control {n : Nat} (control : n < 0x20) (text : List Char) :
    escaped ('u' :: (paddedHex 4 n ++ text)) = .ok (Char.ofNat n, text) := by
  have trailing : isTrailingSurrogate n = false := by
    simp only [isTrailingSurrogate, Bool.and_eq_false_imp, decide_eq_true_eq]
    omega
  have leading : isLeadingSurrogate n = false := by
    simp only [isLeadingSurrogate, Bool.and_eq_false_imp, decide_eq_true_eq]
    omega
  simp only [escaped, numberEscape, hexEscape, paddedHex_control n control, List.cons_append,
    List.nil_append, hexNumber?_control n control, trailing, leading, if_true,
    Bool.false_eq_true, if_false]

/-- An escaped character is read as the character that it stands for. -/
theorem characters_escape {text rest : List Char} {cs : List Char} (c : Char)
    (more : characters text = .ok (cs, rest)) :
    characters (escape c ++ text) = .ok (c :: cs, rest) := by
  unfold escape
  split
  · exact characters_backslash rfl more
  · exact characters_backslash rfl more
  · exact characters_backslash rfl more
  · exact characters_backslash rfl more
  · exact characters_backslash rfl more
  · exact characters_backslash rfl more
  · exact characters_backslash rfl more
  · rename_i noQuote noBackslash _ _ _ _ _
    split
    · rename_i control
      have read := escaped_control control text
      rw [Char.ofNat_toNat] at read
      exact characters_backslash read more
    · rename_i noControl
      exact characters_plain noQuote noBackslash (Nat.le_of_not_lt noControl) more

theorem characters_flatMap_escape (cs rest : List Char) :
    characters (cs.flatMap escape ++ '"' :: rest) = .ok (cs, rest) := by
  induction cs with
  | nil => exact characters_quote rest
  | cons c cs ih =>
    rw [List.flatMap_cons, List.append_assoc]
    exact characters_escape c ih

theorem stringBody_escape (s : String) (rest : List Char) :
    stringBody (s.toList.flatMap escape ++ '"' :: rest) = .ok (s, rest) := by
  rw [stringBody, characters_flatMap_escape]
  simp only [String.ofList_toList]

theorem quote_append (s : String) (rest : List Char) :
    quote s ++ rest = '"' :: (s.toList.flatMap escape ++ '"' :: rest) := by
  simp [quote]

/-- A quoted string is read back, and what follows it is left. -/
theorem readString_quote (s : String) (rest : List Char) :
    readString (quote s ++ rest) = .ok (s, rest) := by
  rw [quote_append]
  exact stringBody_escape s rest

theorem readOptionalString_quote (s : String) (rest : List Char) :
    readOptionalString (quote s ++ rest) = .ok (some s, rest) := by
  have read := readString_quote s rest
  rw [quote_append] at read ⊢
  rw [readOptionalString, skipSpace_of_not_isSpace rfl]
  simp [read]

theorem le_ofDigitChars (digits : List Char) (value : Nat) :
    value ≤ Nat.ofDigitChars 10 digits value := by
  induction digits generalizing value with
  | nil => exact Nat.le_refl _
  | cons c digits ih =>
    rw [Nat.ofDigitChars_cons]
    have := ih (10 * value + (c.toNat - '0'.toNat))
    omega

theorem ofDigitChars_cons (c : Char) (digits : List Char) (value : Nat) :
    Nat.ofDigitChars 10 (c :: digits) value =
      Nat.ofDigitChars 10 digits (value * 10 + digitValue c) := by
  rw [Nat.ofDigitChars_cons, Nat.mul_comm]
  rfl

/-- Digits are read to their end if the number that they write fits. -/
theorem digits_read {digits : List Char} {value : Nat} {rest : List Char}
    (digital : ∀ c ∈ digits, isDigit c) (fits : Nat.ofDigitChars 10 digits value < 2 ^ 64)
    (ends : startsWithDigit rest = false) :
    Digits.read value (digits ++ rest) =
      ⟨Nat.ofDigitChars 10 digits value, digits.length, rest⟩ := by
  induction digits generalizing value with
  | nil =>
    cases rest with
    | nil => rfl
    | cons c rest =>
      have : isDigit c = false := ends
      simp [Digits.read, this]
  | cons c digits ih =>
    have first : isDigit c := digital c List.mem_cons_self
    rw [ofDigitChars_cons] at fits ⊢
    have more := ih (fun d member => digital d (List.mem_cons_of_mem _ member)) fits
    have small := Nat.lt_of_le_of_lt (le_ofDigitChars digits _) fits
    simp only [List.cons_append, Digits.read, first, small, and_self, if_true, more,
      List.length_cons]

/-- The first digit of a number is a zero only if the number is. -/
theorem head?_toDigits_ne_zero {n : Nat} (positive : 0 < n) :
    (Nat.toDigits 10 n).head? ≠ some '0' := by
  induction n using Nat.strongRecOn with
  | ind n ih =>
    rcases Nat.lt_or_ge n 10 with small | large
    · rw [Nat.toDigits_of_lt_base small]
      have digits : ∀ d < 10, 0 < d → [d.digitChar].head? ≠ some '0' := by decide
      exact digits n small positive
    · rw [Nat.toDigits_of_base_le (by omega) large,
        List.head?_append]
      rw [Option.or_of_isSome (List.isSome_head?.mpr Nat.toDigits_ne_nil)]
      exact ih (n / 10) (by omega) (by omega)

/-- What can follow a number without being read as a part of it. -/
def EndsNumber (rest : List Char) : Prop :=
  ∀ c ∈ rest.head?, isDigit c = false ∧ c ≠ '.' ∧ c ≠ 'e' ∧ c ≠ 'E'

theorem EndsNumber.startsWithDigit {rest : List Char} (ends : EndsNumber rest) :
    startsWithDigit rest = false := by
  cases rest with
  | nil => rfl
  | cons c rest => exact (ends c rfl).1

theorem EndsNumber.afterInteger {rest : List Char} (ends : EndsNumber rest) {n : Nat}
    (range : n < 2 ^ 64) :
    afterInteger false n rest = .ok (.integer n (by omega), rest) := by
  have whole : integer false n rest = .ok (.integer n (by omega), rest) := by
    have fits : -2 ^ 63 ≤ (n : Int) ∧ (n : Int) < 2 ^ 64 := by omega
    have number : Number.ofInt? n = some (.integer n fits) := dif_pos fits
    rw [integer, if_neg (fun both => nomatch both.1), if_neg nofun, number]
  unfold Json.afterInteger
  split
  · exact absurd rfl (ends _ rfl).2.1
  · exact absurd rfl (ends _ rfl).2.2.1
  · exact absurd rfl (ends _ rfl).2.2.2
  · exact whole

theorem numeral_of_isDigit {c : Char} (digit : isDigit c) (text : List Char) :
    numeral (c :: text) = unsignedNumber false (c :: text) := by
  unfold numeral
  split
  · rename_i same
    cases same
    exact absurd digit (by decide)
  · rfl

/-- The digits of a number: at least one, and digits all of them. -/
theorem exists_toDigits (n : Nat) : ∃ c digits, Nat.toDigits 10 n = c :: digits ∧ isDigit c ∧
    ∀ d ∈ digits, isDigit d := by
  obtain ⟨c, digits, shape⟩ := List.exists_cons_of_ne_nil (@Nat.toDigits_ne_nil n 10)
  have digital (d : Char) (member : d ∈ c :: digits) : isDigit d :=
    Nat.isDigit_of_mem_toDigits (by decide) (by decide) (shape ▸ member)
  exact ⟨c, digits, shape, digital c List.mem_cons_self,
    fun d member => digital d (List.mem_cons_of_mem _ member)⟩

/-- A number below `2 ^ 64` is read from its digits, of which the first is a zero only if it stands
alone. -/
theorem numeral_digits {c : Char} {digits rest : List Char} (first : isDigit c)
    (digital : ∀ d ∈ digits, isDigit d) (alone : c = '0' → digits = []) {n : Nat}
    (value : Nat.ofDigitChars 10 (c :: digits) 0 = n) (range : n < 2 ^ 64)
    (ends : EndsNumber rest) :
    numeral (c :: (digits ++ rest)) = .ok (.integer n (by omega), rest) := by
  have step : Nat.ofDigitChars 10 digits (digitValue c) = n := by
    rw [← value, ofDigitChars_cons, Nat.zero_mul, Nat.zero_add]
  rw [numeral_of_isDigit first]
  by_cases zero : c = '0'
  · obtain rfl := alone zero
    subst zero
    obtain rfl : 0 = n := step
    rw [List.nil_append]
    simp only [unsignedNumber, if_true, ends.startsWithDigit, Bool.false_eq_true, if_false]
    exact ends.afterInteger range
  · have read := digits_read digital (step ▸ range) ends.startsWithDigit
    simp only [unsignedNumber, zero, if_false, first, if_true, read, step,
      ends.startsWithDigit, Bool.false_eq_true]
    exact ends.afterInteger range

/-- A number below `2 ^ 64` is read back from its decimal digits. -/
theorem numeral_toDigits {n : Nat} (range : n < 2 ^ 64) {rest : List Char}
    (ends : EndsNumber rest) :
    numeral (Nat.toDigits 10 n ++ rest) = .ok (.integer n (by omega), rest) := by
  obtain ⟨c, digits, shape, first, digital⟩ := exists_toDigits n
  have value : Nat.ofDigitChars 10 (c :: digits) 0 = n :=
    shape ▸ Nat.ofDigitChars_ten_toDigits
  have alone (zero : c = '0') : digits = [] := by
    rcases Nat.eq_zero_or_pos n with rfl | positive
    · rw [Nat.toDigits_zero] at shape
      exact (List.cons.inj shape).2.symm
    · have nonzero := head?_toDigits_ne_zero positive
      rw [shape, List.head?_cons, zero] at nonzero
      exact absurd rfl nonzero
  rw [shape]
  exact numeral_digits first digital alone value range ends

theorem render_natCast (n : Nat) (range : -2 ^ 63 ≤ (n : Int) ∧ (n : Int) < 2 ^ 64) :
    (Number.integer n range).render = Nat.toDigits 10 n :=
  Nat.toList_repr

theorem isSpace_of_isDigit {c : Char} (digit : isDigit c) : isSpace c = false := by
  simp only [isSpace, Bool.or_eq_false_iff, beq_eq_false_iff_ne]
  refine ⟨⟨⟨?_, ?_⟩, ?_⟩, ?_⟩ <;> (rintro rfl; exact absurd digit (by decide))

/-- A count is read back from its digits. -/
theorem readCount_toDigits (n : UInt64) {rest : List Char} (ends : EndsNumber rest) :
    readCount (Nat.toDigits 10 n.toNat ++ rest) = .ok (n, rest) := by
  have read := numeral_toDigits n.toNat_lt ends
  obtain ⟨c, digits, shape, first, -⟩ := exists_toDigits n.toNat
  rw [shape, List.cons_append] at read ⊢
  rw [readCount, skipSpace_of_not_isSpace (isSpace_of_isDigit first)]
  simp only [first, or_true, if_true, read]
  rw [if_neg (Int.not_lt.mpr (Int.natCast_nonneg _)), Int.toNat_natCast, UInt64.ofNat_toNat]

end DriverCompat.Json
