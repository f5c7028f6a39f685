import DriverCompat.Json.Reader

/-! # Reading any JSON value

The reader that asks for no shape at all. Arrays and objects nest at most 127 deep.
-/

namespace DriverCompat.Json

open Text

/-- A word, a number or a string. -/
def readScalar (text : List Char) : Except Fault (Json × List Char) :=
  let ofWord (letters : List Char) (value : Json) (rest : List Char) :=
    match word letters rest with
    | .error fault => .error fault
    | .ok rest => .ok (value, rest)
  match text with
  | 'n' :: rest => ofWord ['u', 'l', 'l'] .null rest
  | 't' :: rest => ofWord ['r', 'u', 'e'] (.bool true) rest
  | 'f' :: rest => ofWord ['a', 'l', 's', 'e'] (.bool false) rest
  | '"' :: rest =>
    match stringBody rest with
    | .error fault => .error fault
    | .ok (s, rest) => .ok (.string s, rest)
  | rest =>
    if startsWithDigit rest ∨ rest.head? = some '-' then
      match numeral rest with
      | .error fault => .error fault
      | .ok (n, rest) => .ok (.number n, rest)
    else .error (.atNext .noValue rest)

theorem readScalar_shorter {text rest : List Char} {value : Json}
    (read : readScalar text = .ok (value, rest)) : rest.length < text.length := by
  have ofWord {letters tail : List Char} {v : Json} (read : (match word letters tail with
      | .error fault => .error fault
      | .ok rest => .ok (v, rest) : Except Fault (Json × List Char)) = .ok (value, rest)) :
      rest.length ≤ tail.length := by
    split at read
    · simp at read
    · rename_i letters
      cases read
      have := word_length letters
      omega
  unfold readScalar at read
  simp only at read
  split at read
  · have := ofWord read; simp only [List.length_cons]; omega
  · have := ofWord read; simp only [List.length_cons]; omega
  · have := ofWord read; simp only [List.length_cons]; omega
  · split at read
    · simp at read
    · rename_i body
      cases read
      have := stringBody_shorter body
      simp only [List.length_cons]; omega
  · split at read
    · split at read
      · simp at read
      · rename_i n
        cases read
        exact numeral_shorter n
    · simp at read

/-- An array of values that are read by `inner`. -/
def readArray (inner : Reader Json) (text : List Char) : Except Fault (Json × List Char) :=
  match elements inner true text with
  | .error fault => .error (fault.settle listEnd)
  | .ok (values, rest) =>
    match closeList rest with
    | .error fault => .error fault
    | .ok rest => .ok (.array values, rest)

/-- An object whose values are read by `inner`. -/
def readObject (inner : Reader Json) (text : List Char) : Except Fault (Json × List Char) :=
  let table (document : Document) (key : String) : Except Cause (Reader Document) :=
    .ok (inner.map (document.insert key))
  match members table true ([] : Document) text with
  | .error fault => .error (fault.settle objectEnd)
  | .ok (document, rest) =>
    match closeObject rest with
    | .error fault => .error fault
    | .ok rest => .ok (.object document, rest)

/-- A value behind white space, with a reader for what is inside of it if it may nest. -/
def readValue (inner : Option (Reader Json)) (text : List Char) : Except Fault (Json × List Char) :=
  match skipSpace text with
  | [] => .error (.atNext .endInValue [])
  | c :: rest =>
    if c = '[' ∨ c = '{' then
      match inner with
      | none => .error (.atNext .tooDeep (c :: rest))
      | some inner => if c = '[' then readArray inner rest else readObject inner rest
    else readScalar (c :: rest)

theorem readArray_shorter {inner : Reader Json} {text rest : List Char} {value : Json}
    (read : readArray inner text = .ok (value, rest)) : rest.length < text.length := by
  unfold readArray at read
  split at read
  · simp at read
  · rename_i body
    have := elements_length body
    split at read
    · simp at read
    · rename_i closed
      cases read
      have := closeList_shorter closed
      omega

theorem readObject_shorter {inner : Reader Json} {text rest : List Char} {value : Json}
    (read : readObject inner text = .ok (value, rest)) : rest.length < text.length := by
  unfold readObject at read
  simp only at read
  split at read
  · simp at read
  · rename_i body
    have := members_length body
    split at read
    · simp at read
    · rename_i closed
      cases read
      have := closeObject_shorter closed
      omega

theorem readValue_shorter {inner : Option (Reader Json)} {text rest : List Char} {value : Json}
    (read : readValue inner text = .ok (value, rest)) : rest.length < text.length := by
  have space := length_skipSpace_le text
  unfold readValue at read
  split at read
  · simp at read
  · rename_i eq
    rw [eq] at space
    simp only [List.length_cons] at space
    split at read
    · split at read
      · simp at read
      · split at read
        · have := readArray_shorter read; omega
        · have := readObject_shorter read; omega
    · have := readScalar_shorter read
      simp only [List.length_cons] at this
      omega

/-- The reader of a value that nests at most so deep. -/
def Reader.value : Nat → Reader Json
  | 0 => ⟨readValue none, readValue_shorter⟩
  | depth + 1 => ⟨readValue (some (Reader.value depth)), readValue_shorter⟩

/-- How deep arrays and objects may nest. -/
def depthLimit : Nat := 127

/-- The value of a text. -/
def parse (text : String) : Except Rejection Json := readWhole (Reader.value depthLimit) text

end DriverCompat.Json
