import DriverCompat.Json.Reader

/-! # Passing over a value

The value of a member that nobody asked for is checked for its form and forgotten. Nesting is
followed with an explicit list of the open containers, so its depth has no bound, and numbers and
escapes are not computed, so no number is too large and no surrogate needs a partner.
-/

namespace DriverCompat.Json

open Text

/-- A container that has been opened. -/
inductive Container where
  | list
  | object
deriving DecidableEq, Repr

namespace Container

def missingComma : Container → Cause
  | .list => .missingListComma
  | .object => .missingObjectComma

def cutOff : Container → Cause
  | .list => .endInList
  | .object => .endInObject

/-- The character that closes the container. -/
def closing : Container → Char
  | .list => ']'
  | .object => '}'

end Container

/-- Passes over an escape behind its backslash. -/
def skipEscape (text : List Char) : Except Fault (List Char) :=
  match text with
  | [] => .error (.placed .endInString 0)
  | c :: rest =>
    if c = 'u' then (hexEscape rest).map Prod.snd
    else if c ∈ ['"', '\\', '/', 'b', 'f', 'n', 'r', 't'] then .ok rest
    else .error (.atNext .brokenEscape (c :: rest))

theorem skipEscape_shorter {text rest : List Char} (read : skipEscape text = .ok rest) :
    rest.length < text.length := by
  unfold skipEscape at read
  split at read
  · simp at read
  · rename_i c tail
    simp only [List.length_cons]
    split at read
    · cases digits : hexEscape tail with
      | error fault => simp [digits, Except.map] at read
      | ok pair =>
        obtain ⟨n, rest'⟩ := pair
        simp only [digits, Except.map, Except.ok.injEq] at read
        have := hexEscape_shorter digits
        subst read
        omega
    · split at read
      · cases read; omega
      · simp at read

/-- Passes over a string behind its opening quote. -/
def skipString (text : List Char) : Except Fault (List Char) :=
  match text with
  | [] => .error (.placed .endInString 0)
  | '"' :: rest => .ok rest
  | '\\' :: rest =>
    match h : skipEscape rest with
    | .error fault => .error fault
    | .ok rest' =>
      have := skipEscape_shorter h
      skipString rest'
  | c :: rest =>
    if c.toNat < 0x20 then .error (.atFront .rawControl (c :: rest)) else skipString rest
termination_by text.length
decreasing_by all_goals (simp only [List.length_cons]; omega)

theorem skipString_shorter {text rest : List Char} (read : skipString text = .ok rest) :
    rest.length < text.length := by
  fun_induction skipString text with
  | case1 => simp at read
  | case2 => cases read; simp
  | case3 => simp at read
  | case4 tail rest' h shorter ih =>
    have := ih read
    simp only [List.length_cons]; omega
  | case5 => simp at read
  | case6 c tail _ _ _ ih =>
    have := ih read
    simp only [List.length_cons]; omega

/-- Passes over an exponent behind its letter. -/
def skipExponent (text : List Char) : Except Fault (List Char) :=
  let text := (exponentSign text).2
  if startsWithDigit text then .ok (text.dropWhile isDigit)
  else .error (.atNext .brokenNumber text)

/-- Passes over what follows the digits of a number or of its fraction. -/
def skipScale (text : List Char) : Except Fault (List Char) :=
  match text with
  | 'e' :: rest => skipExponent rest
  | 'E' :: rest => skipExponent rest
  | rest => .ok rest

/-- Passes over what follows the integer digits of a number. -/
def skipFraction (text : List Char) : Except Fault (List Char) :=
  match text with
  | '.' :: rest =>
    if startsWithDigit rest then skipScale (rest.dropWhile isDigit)
    else .error (.atNext .brokenNumber rest)
  | rest => skipScale rest

/-- Passes over a number behind its sign. -/
def skipDigits (text : List Char) : Except Fault (List Char) :=
  match text with
  | [] => .error (.placed .brokenNumber 0)
  | c :: rest =>
    if c = '0' then
      if startsWithDigit rest then .error (.atNext .brokenNumber rest) else skipFraction rest
    else if isDigit c then skipFraction (rest.dropWhile isDigit)
    else .error (.atNext .brokenNumber (c :: rest))

theorem skipExponent_length {text rest : List Char} (read : skipExponent text = .ok rest) :
    rest.length ≤ text.length := by
  unfold skipExponent at read
  have signed := exponentSign_length text
  simp only at read
  split at read
  · cases read
    exact Nat.le_trans (length_dropWhile_le _ _) signed
  · simp at read

theorem skipScale_length {text rest : List Char} (read : skipScale text = .ok rest) :
    rest.length ≤ text.length := by
  unfold skipScale at read
  split at read
  · have := skipExponent_length read; simp only [List.length_cons]; omega
  · have := skipExponent_length read; simp only [List.length_cons]; omega
  · cases read; exact Nat.le_refl _

theorem skipFraction_length {text rest : List Char} (read : skipFraction text = .ok rest) :
    rest.length ≤ text.length := by
  unfold skipFraction at read
  split at read
  · rename_i tail
    split at read
    · have := skipScale_length read
      have := length_dropWhile_le isDigit tail
      simp only [List.length_cons]; omega
    · simp at read
  · exact skipScale_length read

theorem skipDigits_shorter {text rest : List Char} (read : skipDigits text = .ok rest) :
    rest.length < text.length := by
  unfold skipDigits at read
  split at read
  · simp at read
  · rename_i c tail
    simp only [List.length_cons]
    split at read
    · split at read
      · simp at read
      · have := skipFraction_length read; omega
    · split at read
      · have := skipFraction_length read
        have := length_dropWhile_le isDigit tail
        omega
      · simp at read

/-- Passes over a word, a number or a string. -/
def skipScalar (text : List Char) : Except Fault (List Char) :=
  match text with
  | 'n' :: rest => word ['u', 'l', 'l'] rest
  | 't' :: rest => word ['r', 'u', 'e'] rest
  | 'f' :: rest => word ['a', 'l', 's', 'e'] rest
  | '-' :: rest => skipDigits rest
  | '"' :: rest => skipString rest
  | rest => if startsWithDigit rest then skipDigits rest else .error (.atNext .noValue rest)

theorem skipScalar_shorter {text rest : List Char} (read : skipScalar text = .ok rest) :
    rest.length < text.length := by
  unfold skipScalar at read
  split at read
  · have := word_length read; simp only [List.length_cons]; omega
  · have := word_length read; simp only [List.length_cons]; omega
  · have := word_length read; simp only [List.length_cons]; omega
  · have := skipDigits_shorter read; simp only [List.length_cons]; omega
  · have := skipString_shorter read; simp only [List.length_cons]; omega
  · split at read
    · exact skipDigits_shorter read
    · simp at read

/-- Passes over a key and its colon. -/
def skipKey (text : List Char) : Except Fault (List Char) :=
  match skipSpace text with
  | [] => .error (.atNext .endInObject [])
  | '"' :: rest =>
    match skipString rest with
    | .error fault => .error fault
    | .ok rest => colon rest
  | rest => .error (.atNext .keyNotString rest)

theorem skipKey_shorter {text rest : List Char} (read : skipKey text = .ok rest) :
    rest.length < text.length := by
  have space := length_skipSpace_le text
  unfold skipKey at read
  split at read
  · simp at read
  · rename_i eq
    rw [eq] at space
    simp only [List.length_cons] at space
    split at read
    · simp at read
    · rename_i body
      have := skipString_shorter body
      have := colon_shorter read
      omega
  · simp at read

/-- Goes to where the next value starts. -/
def skipToValue (container : Container) (text : List Char) : Except Fault (List Char) :=
  match container with
  | .list => .ok text
  | .object => skipKey text

theorem skipToValue_length {container : Container} {text rest : List Char}
    (read : skipToValue container text = .ok rest) : rest.length ≤ text.length := by
  cases container with
  | list => cases read; exact Nat.le_refl _
  | object => exact Nat.le_of_lt (skipKey_shorter read)

/-- Where a walk over a value stands. -/
inductive Stand where
  /-- A value comes next. -/
  | beforeValue
  /-- The innermost container goes on or ends; `filled` if it already holds something. -/
  | inContainer (filled : Bool)

/-- Walks over a value, or over what is left of one: `inner` are the open containers, the
innermost first. Each step takes a character or turns from a container to the value in it. -/
def skipFrom (stand : Stand) (inner : List Container) (text : List Char) :
    Except Fault (List Char) :=
  match stand with
  | .beforeValue =>
    match hs : skipSpace text with
    | [] => .error (.atNext .endInValue [])
    | c :: rest =>
      have : rest.length + 1 ≤ text.length := by
        have := length_skipSpace_le text
        rw [hs] at this
        simpa using this
      if c = '[' then skipFrom (.inContainer false) (.list :: inner) rest
      else if c = '{' then skipFrom (.inContainer false) (.object :: inner) rest
      else
        match h : skipScalar (c :: rest) with
        | .error fault => .error fault
        | .ok rest' =>
          have : rest'.length < text.length := by
            have := skipScalar_shorter h
            simp only [List.length_cons] at this
            omega
          skipFrom (.inContainer true) inner rest'
  | .inContainer filled =>
    match inner with
    | [] => .ok text
    | container :: outer =>
      match hs : skipSpace text with
      | [] => .error (.atNext container.cutOff [])
      | c :: rest =>
        have : rest.length + 1 ≤ text.length := by
          have := length_skipSpace_le text
          rw [hs] at this
          simpa using this
        if c = ',' ∧ filled then
          match h : skipToValue container rest with
          | .error fault => .error fault
          | .ok rest' =>
            have : rest'.length < text.length := by
              have := skipToValue_length h
              omega
            skipFrom .beforeValue (container :: outer) rest'
        else if c = container.closing then skipFrom (.inContainer true) outer rest
        else if filled then .error (.atNext container.missingComma (c :: rest))
        else
          match h : skipToValue container (c :: rest) with
          | .error fault => .error fault
          | .ok rest' =>
            have : rest'.length ≤ text.length := by
              have := skipToValue_length h
              simp only [List.length_cons] at this
              omega
            skipFrom .beforeValue (container :: outer) rest'
termination_by (text.length, match stand with | .beforeValue => 0 | .inContainer _ => 1)
decreasing_by
  all_goals first
    | (apply Prod.Lex.left; omega)
    | exact Prod.Lex.right' _ this Nat.zero_lt_one

theorem skipFrom_length {stand : Stand} {inner : List Container} {text rest : List Char}
    (read : skipFrom stand inner text = .ok rest) : rest.length ≤ text.length := by
  fun_induction skipFrom stand inner text with
  | case1 => simp at read
  | case2 => rename_i ih; have := ih read; omega
  | case3 => rename_i ih; have := ih read; omega
  | case4 => simp at read
  | case5 => rename_i ih; have := ih read; omega
  | case6 => cases read; exact Nat.le_refl _
  | case7 => simp at read
  | case8 => simp at read
  | case9 => rename_i ih; have := ih read; omega
  | case10 => rename_i ih; have := ih read; omega
  | case11 => simp at read
  | case12 => simp at read
  | case13 => rename_i ih; have := ih read; omega

/-- Passes over one value. -/
def skipValue (text : List Char) : Except Fault (Unit × List Char) :=
  match skipFrom .beforeValue [] text with
  | .error fault => .error fault
  | .ok rest => .ok ((), rest)

theorem skipFrom_beforeValue_shorter {inner : List Container} {text rest : List Char}
    (read : skipFrom .beforeValue inner text = .ok rest) : rest.length < text.length := by
  have space := length_skipSpace_le text
  rw [skipFrom] at read
  split at read
  · simp at read
  · rename_i c tail eq
    rw [eq] at space
    simp only [List.length_cons] at space
    split at read
    · have := skipFrom_length read; omega
    · split at read
      · have := skipFrom_length read; omega
      · split at read
        · simp at read
        · rename_i scalar
          have := skipFrom_length read
          have := skipScalar_shorter scalar
          simp only [List.length_cons] at this
          omega

theorem skipValue_shorter {text rest : List Char} {value : Unit}
    (read : skipValue text = .ok (value, rest)) : rest.length < text.length := by
  unfold skipValue at read
  split at read
  · simp at read
  · rename_i eq
    cases read
    exact skipFrom_beforeValue_shorter eq

/-- A reader that forgets what it has read. -/
def Reader.skip : Reader Unit := ⟨skipValue, skipValue_shorter⟩

end DriverCompat.Json
