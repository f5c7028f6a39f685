import DriverCompat.Calendar.Date
import DriverCompat.Text.Digit
import DriverCompat.Text.Split

/-! # Instants

An instant is a number of milliseconds since the start of 1970. It is written as a timestamp of
the Internet, as `2024-01-02T03:04:05.67Z`, with as many digits of its fraction as it needs; such
a timestamp may also be given with any offset and any number of digits.
-/

namespace DriverCompat.Calendar

open Text

/-- The time that has passed on a day. -/
structure Clock where
  hour : Nat
  minute : Nat
  second : Nat
  nanosecond : Nat
deriving DecidableEq, Repr

namespace Clock

def seconds (clock : Clock) : Int := clock.hour * 3600 + clock.minute * 60 + clock.second

/-- Whether there is such a time on a day without a leap second. -/
def exists_ (clock : Clock) : Bool := clock.hour < 24 && clock.minute < 60 && clock.second < 60

end Clock

def secondMillis : Int := 1000

def dayMillis : Int := 86400000

def daySeconds : Int := 86400

/-- The date of an instant. -/
def dateOf (millis : Int) : Date := Date.ofDays (millis / dayMillis)

/-- The time of day of an instant. -/
def clockOf (millis : Int) : Clock :=
  let rest := (millis % dayMillis).toNat
  ⟨rest / 3600000, rest / 60000 % 60, rest / 1000 % 60, rest % 1000 * 1000000⟩

/-- The digits of a fraction in thousandths, without zeros at the end. -/
def fractionDigits (thousandths : Nat) : List Char :=
  ((paddedDecimal 3 thousandths).reverse.dropWhile (· = '0')).reverse

/-- The milliseconds of an instant within its second. -/
def thousandthsOf (millis : Int) : Nat := (millis % secondMillis).toNat

/-- The timestamp of an instant in the years that have four digits. -/
def timestamp (millis : Int) : List Char :=
  let date := dateOf millis
  let clock := clockOf millis
  let fraction := fractionDigits (thousandthsOf millis)
  paddedDecimal 4 date.year.toNat ++ ['-'] ++ paddedDecimal 2 date.month ++ ['-'] ++
    paddedDecimal 2 date.day ++ ['T'] ++ paddedDecimal 2 clock.hour ++ [':'] ++
    paddedDecimal 2 clock.minute ++ [':'] ++ paddedDecimal 2 clock.second ++
    (if fraction.isEmpty then [] else '.' :: fraction) ++ ['Z']

/-- The nanoseconds of the digits of a fraction; those behind the ninth do not count. -/
def nanoseconds (digits : List Char) : Nat :=
  let kept := digits.take 9
  decimalValue kept * 10 ^ (9 - kept.length)

/-- A fraction behind its point, if there is one. -/
def fraction? : List Char → Option (Nat × List Char)
  | '.' :: rest =>
    let digits := rest.takeWhile isDigit
    if digits.isEmpty then none else some (nanoseconds digits, rest.dropWhile isDigit)
  | rest => some (0, rest)

/-- The hours that an offset may have at most. -/
def offsetHours : Nat := 25

/-- The seconds of an offset, with which a text ends. -/
def offset? : List Char → Option Int
  | ['Z'] => some 0
  | ['z'] => some 0
  | sign :: rest => do
    if sign ≠ '+' ∧ sign ≠ '-' then none
    let (hour, rest) ← takeNumber? 2 rest
    let (minute, rest) ← takeNumber? 2 (← expect? ':' rest)
    if !rest.isEmpty ∨ offsetHours < hour ∨ 59 < minute then none
    let seconds : Int := hour * 3600 + minute * 60
    return if sign = '-' then -seconds else seconds
  | [] => none

/-- A date and the text behind it. -/
def date? (text : List Char) : Option (Date × List Char) := do
  let (year, rest) ← takeNumber? 4 text
  let (month, rest) ← takeNumber? 2 (← expect? '-' rest)
  let (day, rest) ← takeNumber? 2 (← expect? '-' rest)
  return (⟨year, month, day⟩, rest)

/-- A time of day and the text behind it. -/
def clock? (text : List Char) : Option (Clock × List Char) := do
  let (hour, rest) ← takeNumber? 2 text
  let (minute, rest) ← takeNumber? 2 (← expect? ':' rest)
  let (second, rest) ← takeNumber? 2 (← expect? ':' rest)
  let (nanosecond, rest) ← fraction? rest
  return (⟨hour, minute, second, nanosecond⟩, rest)

/-- The text behind the one character between date and time of day. -/
def separated? : List Char → Option (List Char)
  | [] => none
  | c :: rest => if c.toNat < 0x80 then some rest else none

/-- The seconds since the start of 1970. -/
def secondsOf (date : Date) (clock : Clock) (offset : Int) : Int :=
  date.toDays * daySeconds + clock.seconds - offset

/-- Whether a leap second can follow: the last second of a month. -/
def endsMonth (seconds : Int) : Bool :=
  let date := Date.ofDays (seconds / daySeconds)
  seconds % daySeconds == daySeconds - 1 && date.day == daysInMonth date.year date.month

/-- Milliseconds, the part below them cut off towards 1970. -/
def millisOf (seconds : Int) (nanosecond : Nat) : Int :=
  (seconds * 1000000000 + nanosecond).tdiv 1000000

/-- The instant of a timestamp. A leap second counts as the end of the second before it. -/
def ofTimestamp? (text : List Char) : Option Int := do
  let (date, rest) ← date? text
  let (clock, rest) ← clock? (← separated? rest)
  let offset ← offset? rest
  let leap := clock.second == 60
  let clock := if leap then { clock with second := 59, nanosecond := 999999999 } else clock
  let seconds := secondsOf date clock offset
  if date.exists_ ∧ clock.exists_ ∧ (leap → endsMonth seconds) then
    return millisOf seconds clock.nanosecond
  else none

/-- The largest number of a year that can be shown, before or after the year 0. -/
def shownYears : Nat := 999999

/-- A year with at least four digits, and a sign if they do not suffice. -/
def yearText (year : Int) : List Char :=
  let digits := paddedDecimal 4 year.natAbs
  if year < 0 then '-' :: digits else if 9999 < year then '+' :: digits else digits

/-- How an instant is shown: `2024-01-02 3:04:05.67 +00:00:00`, or its number if its year is
out of range. -/
def describe (millis : Int) : String :=
  let date := dateOf millis
  if shownYears < date.year.natAbs then toString millis
  else
    let clock := clockOf millis
    let fraction := fractionDigits (thousandthsOf millis)
    String.ofList (yearText date.year ++ ['-'] ++ paddedDecimal 2 date.month ++ ['-'] ++
      paddedDecimal 2 date.day ++ [' '] ++ Nat.toDigits 10 clock.hour ++ [':'] ++
      paddedDecimal 2 clock.minute ++ [':'] ++ paddedDecimal 2 clock.second ++ ['.'] ++
      (if fraction.isEmpty then ['0'] else fraction)) ++ " +00:00:00"

end DriverCompat.Calendar
