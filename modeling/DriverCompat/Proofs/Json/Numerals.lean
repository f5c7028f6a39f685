import DriverCompat.Proofs.Json.Grammar

/-! # Numbers by the grammar

A number is passed over exactly as far as the grammar goes. It is read as a count if it is written
by nothing but digits and fits; with a sign, a fraction or an exponent it is none.
-/

namespace DriverCompat.Json

open Text

variable {text rest digits : List Char}

theorem Digital.startsWithDigit (digital : Digital digits) (rest : List Char) :
    startsWithDigit (digits ++ rest) = true := by
  obtain ⟨nonempty, all⟩ := digital
  obtain ⟨c, tail, rfl⟩ := List.exists_cons_of_ne_nil nonempty
  exact all c List.mem_cons_self

theorem dropWhile_digits (all : ∀ c ∈ digits, isDigit c = true)
    (ends : startsWithDigit rest = false) : (digits ++ rest).dropWhile isDigit = rest := by
  rw [List.dropWhile_append_of_pos all]
  cases rest with
  | nil => rfl
  | cons c rest => exact List.dropWhile_cons_of_neg (by simpa [Json.startsWithDigit] using ends)

/-- A text that starts with a digit starts with all the digits that there are. -/
theorem exists_digital (starts : startsWithDigit text = true) :
    ∃ digits, Digital digits ∧ text = digits ++ text.dropWhile isDigit := by
  refine ⟨text.takeWhile isDigit, ⟨?_, ?_⟩, List.takeWhile_append_dropWhile.symm⟩
  · cases text with
    | nil => cases starts
    | cons c text =>
      have first : isDigit c = true := starts
      rw [List.takeWhile_cons_of_pos first]
      exact nofun
  · exact List.all_eq_true.mp List.all_takeWhile

theorem exponentSign_digits (digital : Digital digits) (rest : List Char) :
    exponentSign (digits ++ rest) = (false, digits ++ rest) := by
  have starts := digital.startsWithDigit rest
  unfold exponentSign
  split
  · rename_i plus
    rw [plus] at starts
    cases starts
  · rename_i minus
    rw [minus] at starts
    cases starts
  · rfl

theorem Exponent.endsDigits {exponent : List Char} (power : Exponent exponent)
    (ends : EndsNumber rest) : startsWithDigit (exponent ++ rest) = false := by
  cases power with
  | none => exact ends.startsWithDigit
  | plain known => rcases known with rfl | rfl <;> rfl
  | signed known => rcases known with rfl | rfl <;> rfl

theorem Exponent.skipScale {exponent : List Char} (power : Exponent exponent)
    (ends : EndsNumber rest) : skipScale (exponent ++ rest) = .ok rest := by
  have skipped {digits text : List Char} (digital : Digital digits)
      (sign : (exponentSign text).2 = digits ++ rest) : skipExponent text = .ok rest := by
    simp only [skipExponent, sign, digital.startsWithDigit, if_true,
      dropWhile_digits digital.2 ends.startsWithDigit]
  cases power with
  | none =>
    cases rest with
    | nil => rfl
    | cons c rest =>
      rw [List.nil_append, skipScale_cons, if_neg]
      rintro (rfl | rfl)
      · exact (ends _ rfl).2.2.1 rfl
      · exact (ends _ rfl).2.2.2 rfl
  | @plain letter digits known digital =>
    rw [List.cons_append, skipScale_cons, if_pos known]
    exact skipped digital (by rw [exponentSign_digits digital])
  | @signed letter sign digits known plusOrMinus digital =>
    rw [List.cons_append, skipScale_cons, if_pos known]
    refine skipped digital ?_
    rcases plusOrMinus with rfl | rfl <;> rfl

theorem Fraction.skipFraction {fraction exponent : List Char} (point : Fraction fraction)
    (power : Exponent exponent) (ends : EndsNumber rest) :
    skipFraction (fraction ++ (exponent ++ rest)) = .ok rest := by
  cases point with
  | none =>
    rw [List.nil_append]
    have scale := power.skipScale ends
    cases shape : exponent ++ rest with
    | nil => rwa [shape] at scale
    | cons c tail =>
      rw [shape] at scale
      rw [skipFraction_cons, if_neg, scale]
      rintro rfl
      cases power with
      | none => exact (ends '.' (by rw [← List.nil_append rest, shape]; rfl)).2.1 rfl
      | plain known => rcases known with rfl | rfl <;> cases shape
      | signed known => rcases known with rfl | rfl <;> cases shape
  | some digital =>
    rw [List.cons_append, skipFraction_cons, if_pos rfl, if_pos (digital.startsWithDigit _),
      dropWhile_digits digital.2 (power.endsDigits ends)]
    exact power.skipScale ends

theorem Fraction.endsDigits {fraction exponent : List Char} (point : Fraction fraction)
    (power : Exponent exponent) (ends : EndsNumber rest) :
    startsWithDigit (fraction ++ (exponent ++ rest)) = false := by
  cases point with
  | none => exact power.endsDigits ends
  | some => rfl

theorem Whole.digital {whole : List Char} (digits : Whole whole) : Digital whole := by
  cases digits with
  | zero => exact ⟨nofun, List.forall_mem_singleton.mpr rfl⟩
  | positive _ digital => exact digital

theorem Whole.skipDigits {whole fraction exponent : List Char} (digits : Whole whole)
    (point : Fraction fraction) (power : Exponent exponent) (ends : EndsNumber rest) :
    skipDigits (whole ++ (fraction ++ (exponent ++ rest))) = .ok rest := by
  have behind := point.endsDigits power ends
  have further := point.skipFraction power ends
  cases digits with
  | zero =>
    rw [List.singleton_append, Json.skipDigits]
    simp only [if_true, behind, Bool.false_eq_true, if_false, further]
  | @positive c digits nonzero digital =>
    have first : isDigit c = true := digital.2 c List.mem_cons_self
    rw [List.cons_append, Json.skipDigits]
    simp only [nonzero, if_false, first, if_true, further,
      dropWhile_digits (fun d member => digital.2 d (List.mem_cons_of_mem _ member)) behind]

theorem skipScalar_minus (text : List Char) : skipScalar ('-' :: text) = skipDigits text := rfl

theorem skipScalar_digit (starts : startsWithDigit text = true) :
    skipScalar text = skipDigits text := by
  unfold skipScalar
  split
  all_goals first
    | cases starts
    | exact if_pos starts

theorem Numeral.skipScalar {numeral : List Char} (correct : Numeral numeral)
    (ends : EndsNumber rest) : skipScalar (numeral ++ rest) = .ok rest := by
  cases correct with
  | positive digits point power =>
    rw [List.append_assoc, List.append_assoc,
      skipScalar_digit (digits.digital.startsWithDigit _)]
    exact digits.skipDigits point power ends
  | negative digits point power =>
    rw [List.cons_append, skipScalar_minus, List.append_assoc, List.append_assoc]
    exact digits.skipDigits point power ends

theorem Whole.numeral {whole : List Char} (digits : Whole whole) : Numeral whole := by
  have correct := Numeral.positive digits .none .none
  rwa [List.append_nil, List.append_nil] at correct

/-- A numeral of nothing but digits has no fraction and no exponent. -/
theorem Numeral.whole {numeral : List Char} (correct : Numeral numeral)
    (all : ∀ c ∈ numeral, isDigit c = true) : Whole numeral := by
  cases correct with
  | negative => exact absurd (all '-' List.mem_cons_self) (by decide)
  | @positive whole fraction exponent digits point power =>
    have noPoint : fraction = [] := by
      cases point with
      | none => rfl
      | some => exact absurd (all '.' (by simp)) (by decide)
    have noPower : exponent = [] := by
      have noLetter {letter : Char} (known : letter = 'e' ∨ letter = 'E') :
          ¬ isDigit letter = true := by
        rcases known with rfl | rfl <;> decide
      cases power with
      | none => rfl
      | plain known => exact absurd (all _ (by simp)) (noLetter known)
      | signed known => exact absurd (all _ (by simp)) (noLetter known)
    rw [noPoint, noPower, List.append_nil, List.append_nil]
    exact digits

/-- Where a numeral ends depends on the text only. -/
theorem Numeral.unique {first second behind : List Char} (one : Numeral first)
    (other : Numeral second) (same : first ++ rest = second ++ behind) (ends : EndsNumber rest)
    (ends' : EndsNumber behind) : first = second ∧ rest = behind := by
  have skipped := one.skipScalar ends
  rw [same, other.skipScalar ends'] at skipped
  obtain rfl : behind = rest := Except.ok.inj skipped
  exact ⟨List.append_cancel_right same, rfl⟩

theorem exists_exponent_of_skipScale (read : skipScale text = .ok rest) :
    ∃ exponent, Exponent exponent ∧ text = exponent ++ rest := by
  cases text with
  | nil => cases read; exact ⟨[], .none, rfl⟩
  | cons c tail =>
    rw [skipScale_cons] at read
    split at read
    · rename_i known
      unfold skipExponent at read
      simp only at read
      split at read
      · rename_i starts
        cases read
        obtain ⟨digits, digital, split⟩ := exists_digital starts
        unfold exponentSign at split starts ⊢
        split at split
        · exact ⟨_, .signed known (.inl rfl) digital, congrArg (c :: '+' :: ·) split⟩
        · exact ⟨_, .signed known (.inr rfl) digital, congrArg (c :: '-' :: ·) split⟩
        · exact ⟨_, .plain known digital, congrArg (c :: ·) split⟩
      · simp at read
    · cases read
      exact ⟨[], .none, rfl⟩

theorem exists_fraction_of_skipFraction (read : skipFraction text = .ok rest) :
    ∃ fraction exponent, Fraction fraction ∧ Exponent exponent ∧
      text = fraction ++ (exponent ++ rest) := by
  have noPoint (scale : skipScale text = .ok rest) : ∃ fraction exponent, Fraction fraction ∧
      Exponent exponent ∧ text = fraction ++ (exponent ++ rest) := by
    obtain ⟨exponent, power, rfl⟩ := exists_exponent_of_skipScale scale
    exact ⟨[], exponent, .none, power, rfl⟩
  cases text with
  | nil => exact noPoint read
  | cons c tail =>
    rw [skipFraction_cons] at read
    split at read
    · rename_i point
      subst point
      split at read
      · rename_i starts
        obtain ⟨digits, digital, split⟩ := exists_digital starts
        obtain ⟨exponent, power, scale⟩ := exists_exponent_of_skipScale read
        exact ⟨_, exponent, .some digital, power, by rw [split, scale]; rfl⟩
      · simp at read
    · exact noPoint read

theorem exists_whole_of_skipDigits (read : skipDigits text = .ok rest) :
    ∃ whole fraction exponent, Whole whole ∧ Fraction fraction ∧ Exponent exponent ∧
      text = whole ++ (fraction ++ (exponent ++ rest)) := by
  unfold skipDigits at read
  split at read
  · simp at read
  · rename_i c tail
    split at read
    · rename_i zero
      subst zero
      split at read
      · simp at read
      · obtain ⟨fraction, exponent, point, power, rfl⟩ := exists_fraction_of_skipFraction read
        exact ⟨_, fraction, exponent, .zero, point, power, rfl⟩
    · rename_i nonzero
      split at read
      · rename_i first
        have starts : startsWithDigit (c :: tail) = true := first
        obtain ⟨digits, digital, split⟩ := exists_digital starts
        rw [List.dropWhile_cons_of_pos first] at split
        obtain ⟨fraction, exponent, point, power, behind⟩ := exists_fraction_of_skipFraction read
        obtain ⟨d, digits, rfl⟩ := List.exists_cons_of_ne_nil digital.1
        obtain ⟨rfl, -⟩ := List.cons.inj split
        exact ⟨_, fraction, exponent, .positive nonzero digital, point, power,
          by rw [← behind, ← split]⟩
      · simp at read

theorem exists_numeral_of_skipScalar (starts : text.head? = some '-' ∨ startsWithDigit text = true)
    (read : skipScalar text = .ok rest) : ∃ numeral, Numeral numeral ∧ text = numeral ++ rest := by
  by_cases digit : startsWithDigit text = true
  · rw [skipScalar_digit digit] at read
    obtain ⟨whole, fraction, exponent, digits, point, power, split⟩ :=
      exists_whole_of_skipDigits read
    exact ⟨_, .positive digits point power, by rw [split, List.append_assoc, List.append_assoc]⟩
  · obtain ⟨tail, rfl⟩ := List.head?_eq_some_iff.mp (starts.resolve_right digit)
    obtain ⟨whole, fraction, exponent, digits, point, power, split⟩ :=
      exists_whole_of_skipDigits read
    refine ⟨_, .negative digits point power, ?_⟩
    rw [split, List.cons_append, List.append_assoc, List.append_assoc]

section Doubles

variable {negative : Bool} {value : Int} {range : -2 ^ 63 ≤ value ∧ value < 2 ^ 64}

theorem double_ne_integer (significand : Nat) (exponent : Int) :
    double negative significand exponent text ≠ .ok (.integer value range, rest) := by
  unfold double Number.ofBinary64?
  split
  · rename_i known
    split at known
    · cases known
      rintro ⟨⟩
    · cases known
  · rintro ⟨⟩

theorem exponentDigits_ne_integer (significand exponent : Nat) (shift : Int) (minus : Bool) :
    exponentDigits negative significand shift minus exponent text ≠
      .ok (.integer value range, rest) := by
  induction text generalizing exponent with
  | nil => exact double_ne_integer _ _
  | cons c tail ih =>
    rw [exponentDigits]
    split
    · split
      · exact ih _
      · unfold hugeExponent
        split
        · rintro ⟨⟩
        · exact double_ne_integer _ _
    · exact double_ne_integer _ _

theorem exponentPart_ne_integer (significand : Nat) (shift : Int) :
    exponentPart negative significand shift text ≠ .ok (.integer value range, rest) := by
  unfold exponentPart
  simp only
  split
  · rintro ⟨⟩
  · split
    · exact exponentDigits_ne_integer _ _ _ _
    · rintro ⟨⟩

theorem afterFraction_ne_integer (significand : Nat) (shift : Int) :
    afterFraction negative significand shift text ≠ .ok (.integer value range, rest) := by
  unfold afterFraction
  split
  · exact exponentPart_ne_integer _ _
  · exact exponentPart_ne_integer _ _
  · exact double_ne_integer _ _

theorem fractionPart_ne_integer (significand : Nat) (shift : Int) :
    fractionPart negative significand shift text ≠ .ok (.integer value range, rest) := by
  unfold fractionPart
  simp only
  split
  · exact afterFraction_ne_integer _ _
  · split
    · split <;> rintro ⟨⟩
    · exact afterFraction_ne_integer _ _

end Doubles

/-- The digits that have been read, of which there may be none. -/
theorem exists_digits_read (value : Nat) (text : List Char) :
    ∃ digits, text = digits ++ (Digits.read value text).rest ∧ (∀ c ∈ digits, isDigit c = true) ∧
      (Digits.read value text).value = Nat.ofDigitChars 10 digits value := by
  induction text generalizing value with
  | nil => exact ⟨[], rfl, nofun, rfl⟩
  | cons c text ih =>
    rw [Digits.read]
    split
    · rename_i fits
      obtain ⟨digits, split, all, known⟩ := ih (value * 10 + digitValue c)
      refine ⟨c :: digits, congrArg (c :: ·) split, List.forall_mem_cons.mpr ⟨fits.1, all⟩, ?_⟩
      rw [ofDigitChars_cons]
      exact known
    · exact ⟨[], rfl, nofun, rfl⟩

/-- An integer behind its digits: nothing of a number follows, and minus zero is none. -/
theorem afterInteger_eq_integer {negative : Bool} {magnitude : Nat} {value : Int}
    {range : -2 ^ 63 ≤ value ∧ value < 2 ^ 64}
    (read : afterInteger negative magnitude text = .ok (.integer value range, rest))
    (ends : startsWithDigit text = false) :
    rest = text ∧ EndsNumber text ∧ (negative = false → value = magnitude) ∧
      (negative = true → value < 0) := by
  have whole (found : integer negative magnitude text = .ok (.integer value range, rest)) :
      rest = text ∧ (negative = false → value = magnitude) ∧ (negative = true → value < 0) := by
    unfold integer at found
    split at found
    · exact absurd found (double_ne_integer _ _)
    · rename_i zero
      split at found
      · rename_i known
        obtain ⟨_, same⟩ := Option.dite_none_right_eq_some.mp known
        obtain ⟨number, behind⟩ := Prod.mk.inj (Except.ok.inj found)
        obtain rfl := Number.integer.inj ((Option.some.inj same).trans number)
        refine ⟨behind.symm, ?_, ?_⟩
        · rintro rfl
          rfl
        · rintro rfl
          have nonzero : magnitude ≠ 0 := fun none => zero ⟨rfl, none⟩
          simp only [if_true]
          omega
      · exact absurd found (double_ne_integer _ _)
  cases text with
  | nil =>
    obtain ⟨same, value⟩ := whole read
    refine ⟨same, ?_, value⟩
    rintro _ ⟨⟩
  | cons c tail =>
    rw [afterInteger_cons] at read
    split at read
    · exact absurd read (fractionPart_ne_integer _ _)
    · rename_i noPoint
      split at read
      · exact absurd read (exponentPart_ne_integer _ _)
      · rename_i noLetter
        obtain ⟨same, value⟩ := whole read
        refine ⟨same, ?_, value⟩
        intro d first
        obtain rfl : c = d := Option.some.inj first
        exact ⟨ends, noPoint, fun e => noLetter (.inl e), fun e => noLetter (.inr e)⟩

theorem afterLongInteger_ne_integer {negative : Bool} {magnitude shift : Nat} {value : Int}
    {range : -2 ^ 63 ≤ value ∧ value < 2 ^ 64} :
    afterLongInteger negative magnitude shift text ≠ .ok (.integer value range, rest) := by
  unfold afterLongInteger
  split
  · exact fractionPart_ne_integer _ _
  · exact afterFraction_ne_integer _ _

/-- An integer is written by digits only. -/
theorem unsignedNumber_eq_integer {negative : Bool} {value : Int}
    {range : -2 ^ 63 ≤ value ∧ value < 2 ^ 64}
    (read : unsignedNumber negative text = .ok (.integer value range, rest)) :
    ∃ whole, Whole whole ∧ text = whole ++ rest ∧ EndsNumber rest ∧
      (negative = false → value = Nat.ofDigitChars 10 whole 0) ∧ (negative = true → value < 0) := by
  unfold unsignedNumber at read
  split at read
  · simp at read
  · rename_i c tail
    split at read
    · rename_i zero
      subst zero
      split at read
      · simp at read
      · rename_i alone
        obtain ⟨rfl, ends, known⟩ := afterInteger_eq_integer read (by simpa using alone)
        exact ⟨['0'], .zero, rfl, ends, known⟩
    · rename_i nonzero
      split at read
      · rename_i first
        simp only at read
        split at read
        · exact absurd read afterLongInteger_ne_integer
        · rename_i short
          obtain ⟨digits, split, all, known⟩ := exists_digits_read (digitValue c) tail
          obtain ⟨rfl, ends, value⟩ := afterInteger_eq_integer read (by simpa using short)
          have digital : ∀ d ∈ c :: digits, isDigit d = true :=
            List.forall_mem_cons.mpr ⟨first, all⟩
          refine ⟨c :: digits, .positive nonzero ⟨List.cons_ne_nil _ _, digital⟩,
            congrArg (c :: ·) split, ends, ?_⟩
          rw [ofDigitChars_cons, Nat.zero_mul, Nat.zero_add, ← known]
          exact value
      · simp at read

theorem isSpace_of_head {c : Char} (starts : c = '-' ∨ isDigit c = true) : isSpace c = false := by
  rcases starts with rfl | digit
  · rfl
  · exact isSpace_of_isDigit digit

/-- What is read as a count are digits that write it. -/
theorem exists_whole_of_readCount {n : UInt64} (read : readCount text = .ok (n, rest)) :
    ∃ whole, Whole whole ∧ skipSpace text = whole ++ rest ∧ EndsNumber rest ∧
      Nat.ofDigitChars 10 whole 0 < 2 ^ 64 ∧ n = UInt64.ofNat (Nat.ofDigitChars 10 whole 0) := by
  unfold readCount at read
  split at read
  · simp at read
  · rename_i c tail eq
    split at read
    · rename_i starts
      split at read
      · simp at read
      · rename_i value range behind number
        split at read
        · simp at read
        · rename_i natural
          cases read
          rw [numeral_cons] at number
          split at number
          · obtain ⟨-, -, -, -, -, negative⟩ := unsignedNumber_eq_integer number
            exact absurd (negative rfl) natural
          · obtain ⟨whole, digits, split, ends, positive, -⟩ := unsignedNumber_eq_integer number
            obtain rfl := positive rfl
            refine ⟨whole, digits, eq.trans split, ends, ?_, ?_⟩
            · have := range.2
              omega
            · rw [Int.toNat_natCast]
      · simp at read
    · simp at read

/-- Digits that write a number below `2 ^ 64` are read as a count. -/
theorem Whole.readCount {whole : List Char} (digits : Whole whole)
    (eq : skipSpace text = whole ++ rest) (range : Nat.ofDigitChars 10 whole 0 < 2 ^ 64)
    (ends : EndsNumber rest) :
    readCount text = .ok (UInt64.ofNat (Nat.ofDigitChars 10 whole 0), rest) := by
  obtain ⟨c, tail, rfl⟩ := List.exists_cons_of_ne_nil digits.digital.1
  obtain ⟨first, all⟩ := List.forall_mem_cons.mp digits.digital.2
  have alone (zero : c = '0') : tail = [] := by
    cases digits with
    | zero => rfl
    | positive nonzero => exact absurd zero nonzero
  have number := numeral_digits first all alone rfl range ends
  rw [List.cons_append] at eq
  simp only [Json.readCount, eq, first, or_true, if_true, number]
  rw [if_neg (Int.not_lt.mpr (Int.natCast_nonneg _)), Int.toNat_natCast]

end DriverCompat.Json
