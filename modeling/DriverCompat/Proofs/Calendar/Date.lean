import DriverCompat.Calendar.Date
import Mathlib.Tactic.IntervalCases

/-! # Numbers of days and dates

The date with a number has that number, and there is such a date: a day is placed in its century of
the era, in its four years of the century, in its year of these, and only then in its month. Years
begin in March here, so the day that a year has too many is the last one of February.
-/

namespace DriverCompat.Calendar

/-- The place of a day in its era of four hundred years. Only the last of four years has a day more
than the others, unless it is the last one of a century; but the last century of the era has it. -/
structure Placed (dayOfEra century fourYears year day : Int) : Prop where
  century_range : 0 ≤ century ∧ century ≤ 3
  fourYears_range : 0 ≤ fourYears ∧ fourYears ≤ 24
  year_range : 0 ≤ year ∧ year ≤ 3
  day_range : 0 ≤ day ∧ day ≤ 365
  leap : day = 365 → year = 3 ∧ (fourYears = 24 → century = 3)
  sum : dayOfEra = 36524 * century + 1461 * fourYears + 365 * year + day

theorem exists_placed {dayOfEra : Int} (range : 0 ≤ dayOfEra ∧ dayOfEra < eraDays) :
    ∃ century fourYears year day, Placed dayOfEra century fourYears year day := by
  simp only [eraDays] at range
  have century : ∃ century rest, 0 ≤ century ∧ century ≤ 3 ∧ 0 ≤ rest ∧ rest ≤ 36524 ∧
      (rest = 36524 → century = 3) ∧ dayOfEra = 36524 * century + rest := by
    by_cases last : dayOfEra = 146096
    · exact ⟨3, 36524, by omega⟩
    · exact ⟨dayOfEra / 36524, dayOfEra % 36524, by omega⟩
  obtain ⟨century, rest, lower, upper, nonnegative, small, whole, shape⟩ := century
  have year : ∃ year day, 0 ≤ year ∧ year ≤ 3 ∧ 0 ≤ day ∧ day ≤ 365 ∧ (day = 365 → year = 3) ∧
      rest % 1461 = 365 * year + day := by
    by_cases last : rest % 1461 = 1460
    · exact ⟨3, 365, by omega⟩
    · exact ⟨rest % 1461 / 365, rest % 1461 % 365, by omega⟩
  obtain ⟨year, day, yearLower, yearUpper, dayLower, dayUpper, longest, place⟩ := year
  exact ⟨century, rest / 1461, year, day, ⟨lower, upper⟩, by omega, ⟨yearLower, yearUpper⟩,
    ⟨dayLower, dayUpper⟩, by omega, by omega⟩

variable {dayOfEra century fourYears year day : Int}

/-- The leap days before a day are taken off, and what is left is divided among the years. -/
theorem Placed.yearOfEra_eq (placed : Placed dayOfEra century fourYears year day) :
    (dayOfEra - dayOfEra / 1460 + dayOfEra / 36524 - dayOfEra / 146096) / 365 =
      100 * century + 4 * fourYears + year := by
  obtain ⟨centuries, groups, years, days, leap, sum⟩ := placed
  have rest : 0 ≤ 1461 * fourYears + 365 * year + day ∧
      1461 * fourYears + 365 * year + day ≤ 36524 := by omega
  have whole : dayOfEra / 36524 - dayOfEra / 146096 = century := by
    by_cases last : 1461 * fourYears + 365 * year + day = 36524
    · obtain rfl : century = 3 := leap (by omega) |>.2 (by omega)
      omega
    · omega
  have groupsBefore : dayOfEra / 1460 = 25 * century + fourYears ∨
      dayOfEra / 1460 = 25 * century + fourYears + 1 ∧ 0 < day := by omega
  rcases groupsBefore with none | ⟨one, later⟩
  · have short : day ≤ 364 := by omega
    omega
  · omega

/-- What the years before leave is the day of the year. -/
theorem Placed.dayOfYear_eq (placed : Placed dayOfEra century fourYears year day) :
    dayOfEra - (365 * (100 * century + 4 * fourYears + year) +
      (100 * century + 4 * fourYears + year) / 4 - (100 * century + 4 * fourYears + year) / 100) =
        day := by
  obtain ⟨centuries, groups, years, days, leap, sum⟩ := placed
  have fours : (100 * century + 4 * fourYears + year) / 4 = 25 * century + fourYears := by omega
  have hundreds : (100 * century + 4 * fourYears + year) / 100 = century := by omega
  omega

/-- The date of a day of a year that begins in March. -/
def dateOfYear (year dayOfYear : Int) : Date :=
  let month := (5 * dayOfYear + 2) / 153
  { year := if month < 10 then year else year + 1
    month := (if month < 10 then month + 3 else month - 9).toNat
    day := (dayOfYear - (153 * month + 2) / 5 + 1).toNat }

theorem Placed.ofDays_eq {days : Int}
    (placed : Placed ((days + epochShift) % eraDays) century fourYears year day) :
    Date.ofDays days =
      dateOfYear (100 * century + 4 * fourYears + year + (days + epochShift) / eraDays * 400)
        day := by
  simp only [Date.ofDays, placed.yearOfEra_eq, placed.dayOfYear_eq, dateOfYear]

/-- A month counted from March, and a day of it, by their natural numbers. -/
theorem exists_month {dayOfYear : Int} (range : 0 ≤ dayOfYear ∧ dayOfYear ≤ 365) :
    ∃ month day : Nat, month ≤ 11 ∧ (5 * dayOfYear + 2) / 153 = month ∧ 1 ≤ day ∧
      dayOfYear = (153 * month + 2) / 5 + day - 1 ∧
      dayOfYear ≤ (153 * (month + 1) + 2) / 5 - 1 := by
  refine ⟨((5 * dayOfYear + 2) / 153).toNat,
    (dayOfYear - (153 * ((5 * dayOfYear + 2) / 153) + 2) / 5 + 1).toNat, ?_⟩
  have lower : 0 ≤ (5 * dayOfYear + 2) / 153 := by omega
  have first : (153 * ((5 * dayOfYear + 2) / 153) + 2) / 5 ≤ dayOfYear := by omega
  have last : dayOfYear ≤ (153 * ((5 * dayOfYear + 2) / 153 + 1) + 2) / 5 - 1 := by omega
  omega

/-- The date of a day, with the month counted from January. -/
theorem exists_dateOfYear (year : Int) {dayOfYear : Int}
    (range : 0 ≤ dayOfYear ∧ dayOfYear ≤ 365) :
    ∃ month day : Nat, month ≤ 11 ∧ 1 ≤ day ∧
      dayOfYear = (153 * month + 2) / 5 + day - 1 ∧
      dayOfYear ≤ (153 * (month + 1) + 2) / 5 - 1 ∧
      dateOfYear year dayOfYear =
        if month < 10 then ⟨year, month + 3, day⟩ else ⟨year + 1, month - 9, day⟩ := by
  obtain ⟨month, day, late, same, positive, shape, last⟩ := exists_month range
  refine ⟨month, day, late, positive, shape, last, ?_⟩
  have days : (dayOfYear - (153 * month + 2) / 5 + 1).toNat = day := by omega
  simp only [dateOfYear, same, days]
  by_cases early : month < 10
  · have months : ((month : Int) + 3).toNat = month + 3 := by omega
    have early' : (month : Int) < 10 := by omega
    simp only [early, early', if_true, months]
  · have months : ((month : Int) - 9).toNat = month - 9 := by omega
    have early' : ¬ (month : Int) < 10 := by omega
    simp only [early, early', if_false, months]

theorem toDays_dateOfYear (year : Int) {dayOfYear : Int}
    (range : 0 ≤ dayOfYear ∧ dayOfYear ≤ 365) :
    (dateOfYear year dayOfYear).toDays =
      year / 400 * eraDays + (year % 400 * 365 + year % 400 / 4 - year % 400 / 100 + dayOfYear) -
        epochShift := by
  obtain ⟨month, day, late, positive, shape, -, date⟩ := exists_dateOfYear year range
  rw [date]
  by_cases early : month < 10
  · have behind : ¬ month + 3 ≤ 2 := by omega
    have counted : ((month + 3 : Nat) + 9 : Int) % 12 = month := by omega
    simp only [early, if_true, Date.toDays, behind, if_false, counted, shape]
  · have before : month - 9 ≤ 2 := by omega
    have counted : ((month - 9 : Nat) + 9 : Int) % 12 = month := by omega
    simp only [early, if_false, Date.toDays, before, if_true, counted, shape,
      Int.add_sub_cancel]

/-- The day of the era of a number of days. -/
theorem exists_placed_of_days (days : Int) : ∃ century fourYears year day,
    Placed ((days + epochShift) % eraDays) century fourYears year day := by
  apply exists_placed
  simp only [eraDays]
  omega

/-- The number of the date with a number is that number. -/
theorem toDays_ofDays (days : Int) : (Date.ofDays days).toDays = days := by
  obtain ⟨century, fourYears, year, day, placed⟩ := exists_placed_of_days days
  rw [placed.ofDays_eq, toDays_dateOfYear _ placed.day_range]
  obtain ⟨centuries, groups, years, -, -, sum⟩ := placed
  have era : (100 * century + 4 * fourYears + year + (days + epochShift) / eraDays * 400) / 400 =
      (days + epochShift) / eraDays := by omega
  have yearOfEra : (100 * century + 4 * fourYears + year +
      (days + epochShift) / eraDays * 400) % 400 = 100 * century + 4 * fourYears + year := by omega
  have fours : (100 * century + 4 * fourYears + year) / 4 = 25 * century + fourYears := by omega
  have hundreds : (100 * century + 4 * fourYears + year) / 100 = century := by omega
  have whole : (days + epochShift) / eraDays * eraDays + (days + epochShift) % eraDays =
      days + epochShift := Int.ediv_mul_add_emod _ _
  rw [era, yearOfEra, fours, hundreds]
  omega

theorem daysInMonth_le (year : Int) (month : Nat) : daysInMonth year month ≤ 31 := by
  unfold daysInMonth
  split
  · split <;> decide
  all_goals decide

/-- A day is one of its month if no later one begins on it; in February that depends on the year. -/
theorem exists_of_month (year : Int) {month day : Nat} (late : month ≤ 11) (positive : 1 ≤ day)
    (short : (day : Int) ≤ (153 * (month + 1) + 2) / 5 - (153 * month + 2) / 5)
    (leap : month = 11 → day ≤ 28 ∨ day = 29 ∧ isLeap (year + 1) = true) :
    Date.exists_ (if month < 10 then ⟨year, month + 3, day⟩ else ⟨year + 1, month - 9, day⟩) := by
  by_cases february : month = 11
  · subst february
    rcases leap rfl with ordinary | ⟨rfl, extra⟩
    · have least : 28 ≤ daysInMonth (year + 1) 2 := by
        simp only [daysInMonth]
        split <;> omega
      simp [Date.exists_]
      omega
    · simp [Date.exists_, daysInMonth, extra]
  · interval_cases month
    all_goals simp [Date.exists_, daysInMonth] at short february ⊢
    all_goals omega

/-- There is a date with each number. -/
theorem exists_ofDays (days : Int) : (Date.ofDays days).exists_ = true := by
  obtain ⟨century, fourYears, year, day, placed⟩ := exists_placed_of_days days
  have range := placed.day_range
  rw [placed.ofDays_eq]
  obtain ⟨month, dayOfMonth, late, positive, shape, last, date⟩ := exists_dateOfYear
    (100 * century + 4 * fourYears + year + (days + epochShift) / eraDays * 400) range
  rw [date]
  apply exists_of_month _ late positive (by omega)
  intro february
  subst february
  by_cases longest : day = 365
  · obtain ⟨rfl, rule⟩ := placed.leap longest
    obtain ⟨centuries, groups, -, -, -, -⟩ := placed
    refine .inr ⟨by omega, ?_⟩
    simp only [isLeap, Bool.and_eq_true, Bool.or_eq_true, beq_iff_eq, bne_iff_ne]
    omega
  · exact .inl (by omega)

/-- The number of the last day of the year 9999. -/
def lastDay : Int := 2932896

/-- The years from 1970 to 9999 have four digits. -/
theorem year_ofDays {days : Int} (range : 0 ≤ days ∧ days ≤ lastDay) :
    0 ≤ (Date.ofDays days).year ∧ (Date.ofDays days).year < 10000 := by
  obtain ⟨century, fourYears, year, day, placed⟩ := exists_placed_of_days days
  rw [placed.ofDays_eq]
  obtain ⟨month, dayOfMonth, late, positive, shape, last, date⟩ := exists_dateOfYear
    (100 * century + 4 * fourYears + year + (days + epochShift) / eraDays * 400) placed.day_range
  obtain ⟨centuries, groups, years, -, -, sum⟩ := placed
  rw [date]
  simp only [lastDay, eraDays, epochShift] at range sum ⊢
  by_cases early : month < 10
  · simp only [early, if_true]
    omega
  · have winter : 306 ≤ day := by omega
    simp only [early, if_false]
    omega

end DriverCompat.Calendar
