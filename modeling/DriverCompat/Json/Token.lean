import DriverCompat.Json.Fault

/-! # Tokens of a JSON text

Words, strings and numbers, read from the front of a text. A reader that succeeds hands on a
shorter text, which is what lets the readers of arrays and objects loop.
-/

namespace DriverCompat.Json

open Decimal Text

/-- The white space between tokens. -/
def isSpace (c : Char) : Bool := c == ' ' || c == '\n' || c == '\t' || c == '\r'

def skipSpace (text : List Char) : List Char := text.dropWhile isSpace

theorem length_dropWhile_le {α : Type} (p : α → Bool) (l : List α) :
    (l.dropWhile p).length ≤ l.length :=
  (l.dropWhile_sublist p).length_le

theorem length_skipSpace_le (text : List Char) : (skipSpace text).length ≤ text.length :=
  length_dropWhile_le _ _

/-- What is left after the letters of a word. -/
def word : List Char → List Char → Except Fault (List Char)
  | [], rest => .ok rest
  | _ :: _, [] => .error (.atFront .endInValue [])
  | w :: ws, c :: rest => if c = w then word ws rest else .error (.atFront .brokenWord rest)

theorem word_length {letters text rest : List Char} (read : word letters text = .ok rest) :
    rest.length + letters.length = text.length := by
  induction letters generalizing text with
  | nil => cases read; simp
  | cons w ws ih =>
    cases text with
    | nil => simp [word] at read
    | cons c text =>
      simp only [word] at read
      split at read
      · have := ih read; simp only [List.length_cons]; omega
      · simp at read

/-! ## Strings -/

/-- The number that four hexadecimal digits write. -/
def hexNumber? (a b c d : Char) : Option Nat := do
  let a ← hexValue? a
  let b ← hexValue? b
  let c ← hexValue? c
  let d ← hexValue? d
  return ((a * 16 + b) * 16 + c) * 16 + d

/-- Four digits are taken as four bytes: a text that has fewer of them ends inside the string, and
a byte that is no digit spoils the escape behind all four. -/
def brokenHex (text : List Char) : Fault :=
  if byteCount text < 4 then .placed .endInString 0
  else .placed .brokenEscape (byteCount text - 4)

/-- The four digits after `\\u`. -/
def hexEscape (text : List Char) : Except Fault (Nat × List Char) :=
  match text with
  | a :: b :: c :: d :: rest =>
    match hexNumber? a b c d with
    | some n => .ok (n, rest)
    | none => .error (brokenHex text)
  | _ => .error (brokenHex text)

def isLeadingSurrogate (n : Nat) : Bool := 0xD800 ≤ n && n ≤ 0xDBFF

def isTrailingSurrogate (n : Nat) : Bool := 0xDC00 ≤ n && n ≤ 0xDFFF

/-- The digits of the second half of a character beyond the basic plane. -/
def trailingDigits (leading : Nat) (text : List Char) : Except Fault (Char × List Char) :=
  match hexEscape text with
  | .error fault => .error fault
  | .ok (n, rest) =>
    if isTrailingSurrogate n then
      .ok (Char.ofNat ((leading - 0xD800) * 0x400 + (n - 0xDC00) + 0x10000), rest)
    else .error (.atFront .strayTrailingSurrogate rest)

/-- One character that has to stand between the two halves. -/
def pairMark (mark : Char) (text : List Char) : Except Fault (List Char) :=
  match text with
  | [] => .error (.placed .endInString 0)
  | c :: rest => if c = mark then .ok rest else .error (.atNext .unpairedSurrogate (c :: rest))

/-- The second half of a character beyond the basic plane. -/
def trailingSurrogate (leading : Nat) (text : List Char) : Except Fault (Char × List Char) :=
  match pairMark '\\' text with
  | .error fault => .error fault
  | .ok rest =>
    match pairMark 'u' rest with
    | .error fault => .error fault
    | .ok rest => trailingDigits leading rest

/-- The character that a letter behind a backslash stands for. -/
def letterEscape? : Char → Option Char
  | '"' => some '"'
  | '\\' => some '\\'
  | '/' => some '/'
  | 'b' => some '\x08'
  | 'f' => some '\x0c'
  | 'n' => some '\n'
  | 'r' => some '\r'
  | 't' => some '\t'
  | _ => none

/-- The character of a number behind a backslash and its letter. -/
def numberEscape (text : List Char) : Except Fault (Char × List Char) :=
  match hexEscape text with
  | .error fault => .error fault
  | .ok (n, rest) =>
    if isTrailingSurrogate n then .error (.atFront .strayTrailingSurrogate rest)
    else if isLeadingSurrogate n then trailingSurrogate n rest
    else .ok (Char.ofNat n, rest)

/-- The character of an escape, read behind its backslash. -/
def escaped : List Char → Except Fault (Char × List Char)
  | [] => .error (.placed .endInString 0)
  | letter :: rest =>
    if letter = 'u' then numberEscape rest
    else
      match letterEscape? letter with
      | some c => .ok (c, rest)
      | none => .error (.atNext .brokenEscape (letter :: rest))

theorem hexEscape_shorter {text rest : List Char} {n : Nat}
    (read : hexEscape text = .ok (n, rest)) : rest.length < text.length := by
  unfold hexEscape at read
  split at read
  · split at read
    · cases read; simp only [List.length_cons]; omega
    · simp at read
  · simp at read

theorem trailingDigits_shorter {leading : Nat} {text rest : List Char} {c : Char}
    (read : trailingDigits leading text = .ok (c, rest)) : rest.length < text.length := by
  unfold trailingDigits at read
  split at read
  · simp at read
  · rename_i digits
    split at read
    · simp only [Except.ok.injEq, Prod.mk.injEq] at read
      exact read.2 ▸ hexEscape_shorter digits
    · simp at read

theorem pairMark_shorter {mark : Char} {text rest : List Char}
    (read : pairMark mark text = .ok rest) : rest.length < text.length := by
  unfold pairMark at read
  split at read
  · simp at read
  · split at read
    · cases read; simp
    · simp at read

theorem trailingSurrogate_shorter {leading : Nat} {text rest : List Char} {c : Char}
    (read : trailingSurrogate leading text = .ok (c, rest)) : rest.length < text.length := by
  unfold trailingSurrogate at read
  split at read
  · simp at read
  · rename_i backslash
    split at read
    · simp at read
    · rename_i letter
      have := pairMark_shorter backslash
      have := pairMark_shorter letter
      have := trailingDigits_shorter read
      omega

theorem numberEscape_shorter {text rest : List Char} {c : Char}
    (read : numberEscape text = .ok (c, rest)) : rest.length < text.length := by
  unfold numberEscape at read
  split at read
  · simp at read
  · rename_i digits
    have := hexEscape_shorter digits
    split at read
    · simp at read
    · split at read
      · have := trailingSurrogate_shorter read
        omega
      · cases read
        exact this

theorem escaped_shorter {text rest : List Char} {c : Char} (read : escaped text = .ok (c, rest)) :
    rest.length < text.length := by
  unfold escaped at read
  split at read
  · simp at read
  · split at read
    · have := numberEscape_shorter read
      simp only [List.length_cons]; omega
    · split at read
      · cases read; simp
      · simp at read

/-- The characters of a string, read behind its opening quote up to and with its closing one. -/
def characters (text : List Char) : Except Fault (List Char × List Char) :=
  match text with
  | [] => .error (.placed .endInString 0)
  | '"' :: rest => .ok ([], rest)
  | '\\' :: rest =>
    match h : escaped rest with
    | .error fault => .error fault
    | .ok (c, rest') =>
      have := escaped_shorter h
      match characters rest' with
      | .error fault => .error fault
      | .ok (cs, end_) => .ok (c :: cs, end_)
  | c :: rest =>
    if c.toNat < 0x20 then .error (.atFront .rawControl rest)
    else
      match characters rest with
      | .error fault => .error fault
      | .ok (cs, end_) => .ok (c :: cs, end_)
termination_by text.length
decreasing_by all_goals (simp only [List.length_cons]; omega)

theorem characters_shorter {text rest : List Char} {cs : List Char}
    (read : characters text = .ok (cs, rest)) : rest.length < text.length := by
  fun_induction characters text generalizing cs rest with
  | case1 => simp at read
  | case2 => cases read; simp
  | case3 => simp at read
  | case4 => simp_all
  | case5 _ c rest' h shorter cs' end_ eq ih =>
    cases read
    have := ih eq
    simp only [List.length_cons]; omega
  | case6 => simp at read
  | case7 => simp_all
  | case8 c rest _ _ _ cs' end_ eq ih =>
    cases read
    have := ih eq
    simp only [List.length_cons]; omega

/-- A string, read behind its opening quote. -/
def stringBody (text : List Char) : Except Fault (String × List Char) :=
  match characters text with
  | .error fault => .error fault
  | .ok (cs, rest) => .ok (String.ofList cs, rest)

theorem stringBody_shorter {text rest : List Char} {s : String}
    (read : stringBody text = .ok (s, rest)) : rest.length < text.length := by
  unfold stringBody at read
  split at read
  · simp at read
  · rename_i eq
    cases read
    exact characters_shorter eq

end DriverCompat.Json
