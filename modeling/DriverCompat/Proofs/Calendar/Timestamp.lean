import DriverCompat.Calendar.Instant
import DriverCompat.Proofs.Calendar.Date
import DriverCompat.Proofs.Text.Digits

/-! # Timestamps

The instants of the years from 1970 to 9999 are read back from their timestamps: the date and the
time of day from their fields, and the fraction from the digits that are left when the zeros at its
end have gone.
-/

namespace DriverCompat.Calendar

open Text

theorem date?_padded {date : Date} (real : date.exists_ = true)
    (years : 0 ≤ date.year ∧ date.year < 10000) (rest : List Char) :
    date? (paddedDecimal 4 date.year.toNat ++ '-' :: (paddedDecimal 2 date.month ++
      '-' :: (paddedDecimal 2 date.day ++ rest))) = some (date, rest) := by
  simp only [Date.exists_, Bool.and_eq_true, decide_eq_true_eq] at real
  have longest := daysInMonth_le date.year date.month
  have four : date.year.toNat < 10 ^ 4 := by omega
  have month : date.month < 10 ^ 2 := by omega
  have day : date.day < 10 ^ 2 := by omega
  have year : ((date.year.toNat : Nat) : Int) = date.year := by omega
  simp only [date?, takeNumber?_paddedDecimal (Nat.succ_pos 3) four,
    takeNumber?_paddedDecimal Nat.two_pos month, takeNumber?_paddedDecimal Nat.two_pos day,
    expect?, Option.bind_eq_bind, Option.bind_some, if_true, year]
  rfl

theorem clock?_padded {clock : Clock} (real : clock.exists_ = true) {fraction : List Char}
    (read : fraction? fraction = some (clock.nanosecond, ['Z'])) :
    clock? (paddedDecimal 2 clock.hour ++ ':' :: (paddedDecimal 2 clock.minute ++
      ':' :: (paddedDecimal 2 clock.second ++ fraction))) = some (clock, ['Z']) := by
  simp only [Clock.exists_, Bool.and_eq_true, decide_eq_true_eq] at real
  have hour : clock.hour < 10 ^ 2 := by omega
  have minute : clock.minute < 10 ^ 2 := by omega
  have second : clock.second < 10 ^ 2 := by omega
  simp only [clock?, takeNumber?_paddedDecimal Nat.two_pos hour,
    takeNumber?_paddedDecimal Nat.two_pos minute, takeNumber?_paddedDecimal Nat.two_pos second,
    expect?, Option.bind_eq_bind, Option.bind_some, if_true, read]
  rfl

/-- The fraction of a second as it stands in a timestamp. -/
def fractionText (thousandths : Nat) : List Char :=
  if (fractionDigits thousandths).isEmpty then [] else '.' :: fractionDigits thousandths

theorem isDigit_of_mem_fractionDigits {thousandths : Nat} {c : Char}
    (among : c ∈ fractionDigits thousandths) : isDigit c = true := by
  rw [fractionDigits, List.mem_reverse] at among
  have kept := (List.dropWhile_sublist _).mem among
  exact isDigit_of_mem_paddedDecimal (List.mem_reverse.mp kept)

/-- The zeros that were left out count when the digits are filled up to nanoseconds. -/
theorem nanoseconds_fractionDigits {thousandths : Nat} (small : thousandths < 1000) :
    nanoseconds (fractionDigits thousandths) = thousandths * 1000000 := by
  obtain ⟨count, shape⟩ := exists_zeros (paddedDecimal 3 thousandths)
  change paddedDecimal 3 thousandths = fractionDigits thousandths ++ _ at shape
  have length : (fractionDigits thousandths).length + count = 3 := by
    have three := length_paddedDecimal (Nat.succ_pos 2) (show thousandths < 10 ^ 3 by omega)
    rw [shape, List.length_append, List.length_replicate] at three
    exact three
  have value : 10 ^ count * decimalValue (fractionDigits thousandths) = thousandths := by
    rw [← decimalValue_append_zeros, ← shape, decimalValue_paddedDecimal]
  have exponent : 9 - (fractionDigits thousandths).length = count + 6 := by omega
  have all : (fractionDigits thousandths).take 9 = fractionDigits thousandths :=
    List.take_of_length_le (by omega)
  rw [nanoseconds, all, exponent, Nat.pow_add, ← Nat.mul_assoc,
    Nat.mul_comm (decimalValue _), value]

/-- Whole milliseconds are read back from the fraction of their second. -/
theorem fraction?_fractionText {thousandths : Nat} (small : thousandths < 1000) :
    fraction? (fractionText thousandths ++ ['Z']) = some (thousandths * 1000000, ['Z']) := by
  have value := nanoseconds_fractionDigits small
  unfold fractionText
  split
  · rename_i none
    rw [List.isEmpty_iff.mp none] at value
    have zero : thousandths * 1000000 = 0 := value.symm
    rw [zero]
    rfl
  · rename_i some
    have digital : ∀ c ∈ fractionDigits thousandths, isDigit c = true := by
      intro c among
      exact isDigit_of_mem_fractionDigits among
    have taken : (fractionDigits thousandths ++ ['Z']).takeWhile isDigit =
        fractionDigits thousandths := by
      rw [List.takeWhile_append_of_pos digital]
      exact List.append_nil _
    have left : (fractionDigits thousandths ++ ['Z']).dropWhile isDigit = ['Z'] := by
      rw [List.dropWhile_append_of_pos digital]
      rfl
    simp only [List.cons_append, fraction?, taken, left, value, if_neg some]

/-- The instant of a date and a time of day at no offset. -/
theorem ofTimestamp?_of_parts {text rest : List Char} {date : Date} {clock : Clock}
    (day : date? text = some (date, 'T' :: rest)) (time : clock? rest = some (clock, ['Z']))
    (real : date.exists_ = true) (timely : clock.exists_ = true) :
    ofTimestamp? text = some (millisOf (secondsOf date clock 0) clock.nanosecond) := by
  have separated : separated? ('T' :: rest) = some rest := rfl
  have offset : offset? ['Z'] = some 0 := rfl
  have noLeap : (clock.second == 60) = false := by
    simp only [Clock.exists_, Bool.and_eq_true, decide_eq_true_eq] at timely
    exact beq_eq_false_iff_ne.mpr (by omega)
  unfold ofTimestamp?
  simp only [day, separated, time, offset, noLeap, Option.bind_eq_bind, Option.bind_some,
    Bool.false_eq_true, if_false, false_implies, real, timely, and_self, if_true]
  rfl

theorem exists_dateOf (millis : Int) : (dateOf millis).exists_ = true := exists_ofDays _

theorem exists_clockOf (millis : Int) : (clockOf millis).exists_ = true := by
  have range : (millis % dayMillis).toNat < 86400000 := by
    simp only [dayMillis]
    omega
  simp only [Clock.exists_, Bool.and_eq_true, decide_eq_true_eq]
  simp only [clockOf]
  omega

/-- The date and the time of day make up the seconds of an instant. -/
theorem secondsOf_parts (millis : Int) :
    secondsOf (dateOf millis) (clockOf millis) 0 = millis / secondMillis := by
  simp only [secondsOf, dateOf, toDays_ofDays, Clock.seconds, clockOf, dayMillis, daySeconds,
    secondMillis]
  omega

/-- The fraction of a second is what the instant has beyond its whole seconds. -/
theorem nanosecond_clockOf (millis : Int) :
    (clockOf millis).nanosecond = thousandthsOf millis * 1000000 := by
  simp only [clockOf, thousandthsOf, dayMillis, secondMillis]
  omega

theorem millisOf_parts {millis : Int} (nonnegative : 0 ≤ millis) :
    millisOf (millis / secondMillis) (clockOf millis).nanosecond = millis := by
  rw [nanosecond_clockOf]
  simp only [millisOf, thousandthsOf, secondMillis]
  rw [Int.tdiv_eq_ediv_of_nonneg (by omega)]
  omega

theorem timestamp_eq (millis : Int) :
    timestamp millis = paddedDecimal 4 (dateOf millis).year.toNat ++ '-' ::
      (paddedDecimal 2 (dateOf millis).month ++ '-' :: (paddedDecimal 2 (dateOf millis).day ++
        'T' :: (paddedDecimal 2 (clockOf millis).hour ++ ':' ::
          (paddedDecimal 2 (clockOf millis).minute ++ ':' ::
            (paddedDecimal 2 (clockOf millis).second ++
              (fractionText (thousandthsOf millis) ++ ['Z'])))))) := by
  simp only [timestamp, fractionText, List.append_assoc, List.cons_append, List.nil_append]

/-- An instant whose year has four digits is read back from its timestamp. -/
theorem ofTimestamp?_timestamp {millis : Int} (nonnegative : 0 ≤ millis)
    (early : millis / dayMillis ≤ lastDay) : ofTimestamp? (timestamp millis) = some millis := by
  have days : 0 ≤ millis / dayMillis := by
    simp only [dayMillis]
    omega
  have years : 0 ≤ (dateOf millis).year ∧ (dateOf millis).year < 10000 :=
    year_ofDays ⟨days, early⟩
  have small : thousandthsOf millis < 1000 := by
    simp only [thousandthsOf, secondMillis]
    omega
  have fraction := fraction?_fractionText small
  rw [← nanosecond_clockOf] at fraction
  have clock := clock?_padded (exists_clockOf millis) fraction
  have date := date?_padded (exists_dateOf millis) years
  rw [timestamp_eq, ofTimestamp?_of_parts (date _) clock (exists_dateOf millis)
    (exists_clockOf millis), secondsOf_parts, millisOf_parts nonnegative]

end DriverCompat.Calendar
