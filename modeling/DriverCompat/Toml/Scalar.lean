import DriverCompat.Calendar.Date
import DriverCompat.Text.Digit
import DriverCompat.Text.Hex
import DriverCompat.Text.Split
import DriverCompat.Toml.Value

/-! # Strings, numbers and times in a TOML text

Readers of single values from the front of a text. Each hands on what it has left.
-/

namespace DriverCompat.Toml

open Decimal Text

/-- What a reader has found, and what it has left. -/
abbrev Read (α : Type) := Except Stop (α × List Char)

/-- A malformed text, from here on. -/
def Read.here {α : Type} (rest : List Char) : Read α := .error ⟨.malformed, rest.length⟩

def isBlank (c : Char) : Bool := c == ' ' || c == '\t'

def skipBlanks (text : List Char) : List Char := text.dropWhile isBlank

/-- The text behind a line break. -/
def lineBreak? : List Char → Option (List Char)
  | '\n' :: rest => some rest
  | '\r' :: '\n' :: rest => some rest
  | _ => none

/-- The characters that a comment or a string on one line may hold: all but the control
characters, of which the tab is allowed. -/
def isPlain (c : Char) : Bool := c == '\t' || (0x20 ≤ c.toNat && c.toNat != 0x7F)

/-! ## Strings -/

/-- The character with a code of so many hexadecimal digits, and their number. -/
def codedChar? (digits : Nat) (text : List Char) : Option (Char × Nat) := do
  let values ← (text.take digits).mapM hexValue?
  if values.length < digits then none
  else
    let code := numberOf 16 values
    if code.isValidChar then some (Char.ofNat code, digits + 1) else none

/-- The character of an escape behind its backslash, and the number of characters it takes. -/
def escape? : List Char → Option (Char × Nat)
  | 'b' :: _ => some ('\x08', 1)
  | 'f' :: _ => some ('\x0c', 1)
  | 'n' :: _ => some ('\n', 1)
  | 'r' :: _ => some ('\r', 1)
  | 't' :: _ => some ('\t', 1)
  | '"' :: _ => some ('"', 1)
  | '\\' :: _ => some ('\\', 1)
  | 'u' :: rest => codedChar? 4 rest
  | 'U' :: rest => codedChar? 8 rest
  | _ => none

/-- The text with some characters before it. -/
def prepend (before : List Char) : Read (List Char) → Read (List Char)
  | .ok (text, rest) => .ok (before ++ text, rest)
  | .error stop => .error stop

/-- A string with escapes, behind its quote. -/
def basicBody (text : List Char) : Read (List Char) :=
  match text with
  | [] => .here []
  | '"' :: rest => .ok ([], rest)
  | '\\' :: rest =>
    match escape? rest with
    | some (c, taken) => prepend [c] (basicBody (rest.drop taken))
    | none => .here rest
  | c :: rest => if isPlain c then prepend [c] (basicBody rest) else .here (c :: rest)
termination_by text.length
decreasing_by all_goals simp only [List.length_drop, List.length_cons]; omega

/-- A string without escapes, behind its quote. -/
def literalBody : List Char → Read (List Char)
  | [] => .here []
  | '\'' :: rest => .ok ([], rest)
  | c :: rest => if isPlain c then prepend [c] (literalBody rest) else .here (c :: rest)

/-- The number of blanks and line breaks at the front of a text. -/
def breakLength : List Char → Nat
  | ' ' :: rest => breakLength rest + 1
  | '\t' :: rest => breakLength rest + 1
  | '\n' :: rest => breakLength rest + 1
  | '\r' :: '\n' :: rest => breakLength rest + 2
  | _ => 0

/-- The number of characters that a backslash at the end of a line takes away: blanks, the line
break, and all blanks and line breaks that follow. -/
def continuation? (text : List Char) : Option Nat :=
  match lineBreak? (skipBlanks text) with
  | some _ => some (breakLength text)
  | none => none

/-- The end of a string on several lines, behind three quotes: up to two more quotes in front of
the closing ones belong to the string. -/
def closing (quote : Char) (rest : List Char) : Read (List Char) :=
  let extra := min 2 (rest.takeWhile (· == quote)).length
  .ok (List.replicate extra quote, rest.drop extra)

/-- A string with escapes on several lines. -/
def longBasicBody (text : List Char) : Read (List Char) :=
  match text with
  | [] => .here []
  | '"' :: '"' :: '"' :: rest => closing '"' rest
  | '\n' :: rest => prepend ['\n'] (longBasicBody rest)
  | '\r' :: '\n' :: rest => prepend ['\n'] (longBasicBody rest)
  | '\\' :: rest =>
    match continuation? rest with
    | some taken => longBasicBody (rest.drop taken)
    | none =>
      match escape? rest with
      | some (c, taken) => prepend [c] (longBasicBody (rest.drop taken))
      | none => .here rest
  | c :: rest => if isPlain c then prepend [c] (longBasicBody rest) else .here (c :: rest)
termination_by text.length
decreasing_by all_goals simp only [List.length_drop, List.length_cons]; omega

/-- A string without escapes on several lines. -/
def longLiteralBody : List Char → Read (List Char)
  | [] => .here []
  | '\'' :: '\'' :: '\'' :: rest => closing '\'' rest
  | '\n' :: rest => prepend ['\n'] (longLiteralBody rest)
  | '\r' :: '\n' :: rest => prepend ['\n'] (longLiteralBody rest)
  | c :: rest => if isPlain c then prepend [c] (longLiteralBody rest) else .here (c :: rest)

/-- The text behind a line break that follows opening quotes directly. -/
def skipLineBreak (text : List Char) : List Char := (lineBreak? text).getD text

/-- The characters of a string, if the text starts with a quote. -/
def stringChars? : List Char → Option (Read (List Char))
  | '"' :: '"' :: '"' :: rest => some (longBasicBody (skipLineBreak rest))
  | '"' :: rest => some (basicBody rest)
  | '\'' :: '\'' :: '\'' :: rest => some (longLiteralBody (skipLineBreak rest))
  | '\'' :: rest => some (literalBody rest)
  | _ => none

/-! ## Dates and times -/

/-- The text behind a number of exactly so many digits that is in a range. -/
def field? (digits low high : Nat) (text : List Char) : Option (List Char) := do
  let n ← decimal? (text.take digits)
  if (text.take digits).length = digits ∧ low ≤ n ∧ n ≤ high then some (text.drop digits) else none

/-- The text behind a date. -/
def date? (text : List Char) : Option (List Char) := do
  let afterYear ← expect? '-' (← field? 4 0 9999 text)
  let afterMonth ← expect? '-' (← field? 2 1 12 afterYear)
  let year := decimalValue (text.take 4)
  let days := Calendar.daysInMonth year (decimalValue (afterYear.take 2))
  field? 2 1 days afterMonth

/-- The text behind a fraction of a second, if there is one. -/
def fraction (text : List Char) : List Char :=
  match text with
  | '.' :: c :: rest => if isDigit c then rest.dropWhile isDigit else text
  | _ => text

/-- The text behind a time. -/
def time? (text : List Char) : Option (List Char) := do
  let minutes ← expect? ':' (← field? 2 0 23 text)
  let seconds ← expect? ':' (← field? 2 0 59 minutes)
  return fraction (← field? 2 0 60 seconds)

/-- The text behind the offset of a time. -/
def offset? : List Char → Option (List Char)
  | 'Z' :: rest => some rest
  | 'z' :: rest => some rest
  | '+' :: rest => minutesFrom rest
  | '-' :: rest => minutesFrom rest
  | _ => none
where
  /-- The text behind hours and minutes. -/
  minutesFrom (text : List Char) : Option (List Char) := do
    field? 2 0 59 (← expect? ':' (← field? 2 0 23 text))

/-- The text behind the time of a date, if there is one. -/
def timeOfDate? (text : List Char) : Option (List Char) :=
  match text with
  | c :: rest =>
    if c = 'T' ∨ c = 't' ∨ c = ' ' then
      (time? rest).map fun rest => (offset? rest).getD rest
    else none
  | [] => none

/-- The text behind a date, a time, or both. -/
def dateTime? (text : List Char) : Option (List Char) :=
  match date? text with
  | some rest => some ((timeOfDate? rest).getD rest)
  | none => time? text

/-! ## Numbers -/

/-- Whether digits are grouped properly: single underscores stand between them only. -/
def wellGrouped (group : List Char) : Bool :=
  match group with
  | [] => false
  | '_' :: _ => false
  | [_] => true
  | _ :: '_' :: rest => wellGrouped rest
  | _ :: c :: rest => wellGrouped (c :: rest)

/-- Digits without the underscores between them, and the text behind. -/
def group (digit : Char → Bool) (text : List Char) : Read (List Char) :=
  let taken := text.takeWhile fun c => digit c || c == '_'
  if wellGrouped taken then
    .ok (taken.filter (· != '_'), text.dropWhile fun c => digit c || c == '_')
  else .here text

/-- An integer that fits into 64 bits. -/
def integerOf (negative : Bool) (magnitude : Nat) (rest : List Char) : Read Value :=
  let value : Int := if negative then -magnitude else magnitude
  if -2 ^ 63 ≤ value ∧ value < 2 ^ 63 then .ok (.integer value, rest) else .here rest

/-- An integer in a base other than ten. -/
def based (base : Nat) (text : List Char) : Read Value :=
  match group (fun c => (hexValue? c).any (· < base)) text with
  | .error stop => .error stop
  | .ok (digits, rest) => integerOf false (numberOf base (digits.filterMap hexValue?)) rest

/-- The digits of the fraction of a number, if it has one. -/
def fractionDigits (text : List Char) : Read (Option (List Char)) :=
  match text with
  | '.' :: rest =>
    match group isDigit rest with
    | .error stop => .error stop
    | .ok (digits, rest) => .ok (some digits, rest)
  | _ => .ok (none, text)

/-- The exponent of a number, if it has one. -/
def exponent (text : List Char) : Read (Option Int) :=
  match text with
  | c :: rest =>
    if c = 'e' ∨ c = 'E' then
      let (negative, rest) := signed rest
      match group isDigit rest with
      | .error stop => .error stop
      | .ok (digits, rest) =>
        let magnitude : Int := decimalValue digits
        .ok (some (if negative then -magnitude else magnitude), rest)
    else .ok (none, text)
  | [] => .ok (none, [])

/-- A double that is written by its digits. Positive numbers too large for a double are refused,
negative ones become infinite. -/
def doubleOf (negative : Bool) (digits fraction : List Char) (exponent : Int) (rest : List Char) :
    Read Value :=
  let value := Binary64.ofScientific negative (decimalValue (digits ++ fraction))
    (exponent - fraction.length)
  if value.isInfinite ∧ !negative then .here rest else .ok (.double value, rest)

/-- The whole part of a number: it has no zero in front. -/
def wholeDigits (text : List Char) : Read (List Char) :=
  match text with
  | '0' :: rest => .ok (['0'], rest)
  | _ => group isDigit text

/-- A decimal number behind its sign. -/
def decimalNumber (negative : Bool) (text : List Char) : Read Value :=
  match wholeDigits text with
  | .error stop => .error stop
  | .ok (digits, rest) =>
    match fractionDigits rest with
    | .error stop => .error stop
    | .ok (fraction, rest) =>
      match exponent rest with
      | .error stop => .error stop
      | .ok (power, rest) =>
        if fraction.isNone ∧ power.isNone then integerOf negative (decimalValue digits) rest
        else doubleOf negative digits (fraction.getD []) (power.getD 0) rest

/-- A number, or one of the words for what is no finite number. -/
def number (text : List Char) : Read Value :=
  match text with
  | '0' :: 'x' :: rest => based 16 rest
  | '0' :: 'o' :: rest => based 8 rest
  | '0' :: 'b' :: rest => based 2 rest
  | _ =>
    match signed text with
    | (negative, 'i' :: 'n' :: 'f' :: rest) => .ok (.double (.infinity negative), rest)
    | (_, 'n' :: 'a' :: 'n' :: rest) => .ok (.double .nan, rest)
    | (negative, rest) => decimalNumber negative rest

/-- A value that is neither an array nor a table in braces. -/
def scalar (text : List Char) : Read Value :=
  match stringChars? text with
  | some (.ok (chars, rest)) => .ok (.string (String.ofList chars), rest)
  | some (.error stop) => .error stop
  | none =>
    match text with
    | 't' :: 'r' :: 'u' :: 'e' :: rest => .ok (.boolean true, rest)
    | 'f' :: 'a' :: 'l' :: 's' :: 'e' :: rest => .ok (.boolean false, rest)
    | _ =>
      match dateTime? text with
      | some rest => .ok (.dateTime, rest)
      | none => number text

end DriverCompat.Toml
