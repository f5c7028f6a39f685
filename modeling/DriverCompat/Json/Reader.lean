import DriverCompat.Json.Numeral

/-! # Readers of JSON values

A `Reader` reads one value of an expected shape from the front of a text, and takes at least one
character whenever it succeeds. Readers of records accept an object, whose members may come in
any order, or an array, whose elements come in the order of the fields.
-/

namespace DriverCompat.Json

open Decimal Text

/-- A reader of one value. -/
structure Reader (α : Type) where
  read : List Char → Except Fault (α × List Char)
  shorter : ∀ {text rest : List Char} {value : α},
    read text = .ok (value, rest) → rest.length < text.length

namespace Reader

variable {α β σ : Type}

/-- Reads as before and changes the value. -/
def map (f : α → β) (reader : Reader α) : Reader β where
  read text :=
    match reader.read text with
    | .error fault => .error fault
    | .ok (value, rest) => .ok (f value, rest)
  shorter {text rest value} read := by
    split at read
    · simp at read
    · rename_i inner
      cases read
      exact reader.shorter inner

end Reader

/-! ## Scalars -/

/-- How a number is described. -/
def Number.found : Number → Found
  | .integer value _ => .integer value
  | .double value _ => .double value

/-- The fault of a value of another type. A scalar is read to its end first; an array or an
object is not entered. -/
def mismatch (wanted : Wanted) (text : List Char) : Fault :=
  let scalar (found : Found) (rest : List Char) := Fault.atFront (.wrongType found wanted) rest
  let ofWord (letters : List Char) (found : Found) (rest : List Char) :=
    match word letters rest with
    | .error fault => fault
    | .ok rest => scalar found rest
  match text with
  | [] => .atNext .endInValue []
  | 'n' :: rest => ofWord ['u', 'l', 'l'] .null rest
  | 't' :: rest => ofWord ['r', 'u', 'e'] (.bool true) rest
  | 'f' :: rest => ofWord ['a', 'l', 's', 'e'] (.bool false) rest
  | '"' :: rest =>
    match stringBody rest with
    | .error fault => fault
    | .ok (s, rest) => scalar (.string s) rest
  | '[' :: rest => scalar .sequence ('[' :: rest)
  | '{' :: rest => scalar .map ('{' :: rest)
  | c :: rest =>
    if c = '-' ∨ isDigit c then
      match numeral (c :: rest) with
      | .error fault => fault
      | .ok (n, rest) => scalar n.found rest
    else .atNext .noValue (c :: rest)

/-- A number that counts something. -/
def readCount (text : List Char) : Except Fault (UInt64 × List Char) :=
  match skipSpace text with
  | [] => .error (.atNext .endInValue [])
  | c :: rest =>
    if c = '-' ∨ isDigit c then
      match numeral (c :: rest) with
      | .error fault => .error fault
      | .ok (.integer value _, rest) =>
        if value < 0 then .error (.atFront (.negativeCount value) rest)
        else .ok (UInt64.ofNat value.toNat, rest)
      | .ok (.double value _, rest) => .error (.atFront (.wrongType (.double value) .count) rest)
    else .error (mismatch .count (c :: rest))

def readString (text : List Char) : Except Fault (String × List Char) :=
  match skipSpace text with
  | '"' :: rest => stringBody rest
  | rest => .error (mismatch .string rest)

/-- A string, or the word `null` for none. -/
def readOptionalString (text : List Char) : Except Fault (Option String × List Char) :=
  match skipSpace text with
  | 'n' :: rest =>
    match word ['u', 'l', 'l'] rest with
    | .error fault => .error fault
    | .ok rest => .ok (none, rest)
  | rest =>
    match readString rest with
    | .error fault => .error fault
    | .ok (s, rest) => .ok (some s, rest)

/-- The word `null`. -/
def readUnit (text : List Char) : Except Fault (Unit × List Char) :=
  match skipSpace text with
  | 'n' :: rest =>
    match word ['u', 'l', 'l'] rest with
    | .error fault => .error fault
    | .ok rest => .ok ((), rest)
  | rest => .error (mismatch .unit rest)

theorem readCount_shorter {text rest : List Char} {value : UInt64}
    (read : readCount text = .ok (value, rest)) : rest.length < text.length := by
  unfold readCount at read
  have space := length_skipSpace_le text
  split at read
  · simp at read
  · rename_i eq
    rw [eq] at space
    split at read
    · split at read
      · simp at read
      · rename_i read'
        split at read
        · simp at read
        · cases read
          exact Nat.lt_of_lt_of_le (numeral_shorter read') space
      · simp at read
    · simp at read

theorem readString_shorter {text rest : List Char} {value : String}
    (read : readString text = .ok (value, rest)) : rest.length < text.length := by
  unfold readString at read
  have space := length_skipSpace_le text
  split at read
  · rename_i eq
    rw [eq] at space
    have := stringBody_shorter read
    simp only [List.length_cons] at space
    omega
  · simp at read

theorem readOptionalString_shorter {text rest : List Char} {value : Option String}
    (read : readOptionalString text = .ok (value, rest)) : rest.length < text.length := by
  unfold readOptionalString at read
  have space := length_skipSpace_le text
  split at read
  · rename_i eq
    rw [eq] at space
    split at read
    · simp at read
    · rename_i null
      cases read
      have := word_length null
      simp only [List.length_cons] at space
      omega
  · split at read
    · simp at read
    · rename_i inner
      cases read
      exact Nat.lt_of_lt_of_le (readString_shorter inner) space

theorem readUnit_shorter {text rest : List Char} {value : Unit}
    (read : readUnit text = .ok (value, rest)) : rest.length < text.length := by
  unfold readUnit at read
  have space := length_skipSpace_le text
  split at read
  · rename_i eq
    rw [eq] at space
    split at read
    · simp at read
    · rename_i null
      cases read
      have := word_length null
      simp only [List.length_cons] at space
      omega
  · simp at read

namespace Reader

def count : Reader UInt64 := ⟨readCount, readCount_shorter⟩

def string : Reader String := ⟨readString, readString_shorter⟩

def optionalString : Reader (Option String) := ⟨readOptionalString, readOptionalString_shorter⟩

def unit : Reader Unit := ⟨readUnit, readUnit_shorter⟩

end Reader

/-! ## The ends of arrays and objects -/

/-- What follows the end of an array. -/
def closeList (text : List Char) : Except Fault (List Char) :=
  match skipSpace text with
  | [] => .error (.atNext .endInList [])
  | ']' :: rest => .ok rest
  | ',' :: rest =>
    match skipSpace rest with
    | ']' :: rest => .error (.atNext .trailingComma (']' :: rest))
    | rest => .error (.atNext .trailingText rest)
  | rest => .error (.atNext .trailingText rest)

/-- The text that is unread once the end of an array has been looked for. -/
def listEnd (text : List Char) : List Char :=
  match skipSpace text with
  | ']' :: rest => rest
  | ',' :: rest => skipSpace rest
  | rest => rest

/-- What follows the end of an object. -/
def closeObject (text : List Char) : Except Fault (List Char) :=
  match skipSpace text with
  | [] => .error (.atNext .endInObject [])
  | '}' :: rest => .ok rest
  | ',' :: rest => .error (.atNext .trailingComma (',' :: rest))
  | rest => .error (.atNext .trailingText rest)

/-- The text that is unread once the end of an object has been looked for. -/
def objectEnd (text : List Char) : List Char :=
  match skipSpace text with
  | '}' :: rest => rest
  | rest => rest

/-- Places a fault where the search for an end stopped. -/
def Fault.settle (stop : List Char → List Char) : Fault → Fault
  | .unplaced cause rest => .atFront cause (stop rest)
  | fault => fault

theorem closeList_shorter {text rest : List Char} (closed : closeList text = .ok rest) :
    rest.length < text.length := by
  have space := length_skipSpace_le text
  unfold closeList at closed
  split at closed
  · simp at closed
  · rename_i eq
    rw [eq] at space
    cases closed
    simp only [List.length_cons] at space
    omega
  · split at closed <;> simp at closed
  · simp at closed

theorem closeObject_shorter {text rest : List Char} (closed : closeObject text = .ok rest) :
    rest.length < text.length := by
  have space := length_skipSpace_le text
  unfold closeObject at closed
  split at closed
  · simp at closed
  · rename_i eq
    rw [eq] at space
    cases closed
    simp only [List.length_cons] at space
    omega
  · simp at closed
  · simp at closed

/-! ## Elements -/

/-- Looks for a further element: the text it starts in, or nothing at the end of the array. -/
def nextElement? (first : Bool) (text : List Char) : Except Fault (Option (List Char)) :=
  match skipSpace text with
  | [] => .error (.atNext .endInList [])
  | ']' :: _ => .ok none
  | c :: rest =>
    if first then .ok (some (c :: rest))
    else if c = ',' then
      match skipSpace rest with
      | [] => .error (.atNext .endInValue [])
      | ']' :: rest => .error (.atNext .trailingComma (']' :: rest))
      | rest => .ok (some rest)
    else .error (.atNext .missingListComma (c :: rest))

theorem nextElement?_length {first : Bool} {text rest : List Char}
    (found : nextElement? first text = .ok (some rest)) : rest.length ≤ text.length := by
  have space := length_skipSpace_le text
  unfold nextElement? at found
  split at found
  · simp at found
  · simp at found
  · rename_i c tail _ eq
    rw [eq] at space
    split at found
    · cases found; exact space
    · split at found
      · have inner := length_skipSpace_le tail
        simp only [List.length_cons] at space
        split at found
        · simp at found
        · simp at found
        · cases found; omega
      · simp at found

/-- The next element of an array, if there is one. -/
def element? {α : Type} (first : Bool) (reader : Reader α) (text : List Char) :
    Except Fault (Option (α × List Char)) :=
  match nextElement? first text with
  | .error fault => .error fault
  | .ok none => .ok none
  | .ok (some rest) =>
    match reader.read rest with
    | .error fault => .error fault
    | .ok (value, rest) => .ok (some (value, rest))

theorem element?_shorter {α : Type} {first : Bool} {reader : Reader α} {text rest : List Char}
    {value : α} (found : element? first reader text = .ok (some (value, rest))) :
    rest.length < text.length := by
  unfold element? at found
  split at found
  · simp at found
  · simp at found
  · rename_i next
    split at found
    · simp at found
    · rename_i read
      cases found
      exact Nat.lt_of_lt_of_le (reader.shorter read) (nextElement?_length next)

/-- All elements up to the end of the array, which is left unread. -/
def elements {α : Type} (reader : Reader α) (first : Bool) (text : List Char) :
    Except Fault (List α × List Char) :=
  match h : element? first reader text with
  | .error fault => .error fault
  | .ok none => .ok ([], skipSpace text)
  | .ok (some (value, rest)) =>
    have := element?_shorter h
    match elements reader false rest with
    | .error fault => .error fault
    | .ok (values, end_) => .ok (value :: values, end_)
termination_by text.length

theorem elements_length {α : Type} {reader : Reader α} {first : Bool} {text rest : List Char}
    {values : List α} (read : elements reader first text = .ok (values, rest)) :
    rest.length ≤ text.length := by
  fun_induction elements reader first text generalizing values rest with
  | case1 => simp at read
  | case2 => cases read; exact length_skipSpace_le _
  | case3 => simp_all
  | case4 _ _ value rest' h shorter values' end_ eq ih =>
    cases read
    have := ih eq
    omega

/-! ## Members -/

/-- Looks for a further member: its key and what follows the key, or nothing at the end of the
object. -/
def nextKey? (first : Bool) (text : List Char) : Except Fault (Option (String × List Char)) :=
  let key (text : List Char) : Except Fault (Option (String × List Char)) :=
    match stringBody text with
    | .error fault => .error fault
    | .ok (key, rest) => .ok (some (key, rest))
  match skipSpace text with
  | [] => .error (.atNext .endInObject [])
  | '}' :: _ => .ok none
  | c :: rest =>
    if first then
      if c = '"' then key rest else .error (.atNext .keyNotString (c :: rest))
    else if c = ',' then
      match skipSpace rest with
      | [] => .error (.atNext .endInValue [])
      | '}' :: rest => .error (.atNext .trailingComma ('}' :: rest))
      | '"' :: rest => key rest
      | rest => .error (.atNext .keyNotString rest)
    else .error (.atNext .missingObjectComma (c :: rest))

theorem nextKey?_shorter {first : Bool} {text rest : List Char} {key : String}
    (found : nextKey? first text = .ok (some (key, rest))) : rest.length < text.length := by
  have space := length_skipSpace_le text
  have body {tail : List Char} (read : (match stringBody tail with
      | .error fault => .error fault
      | .ok (key, rest) => .ok (some (key, rest)) : Except Fault (Option (String × List Char))) =
      .ok (some (key, rest))) : rest.length < tail.length := by
    split at read
    · simp at read
    · rename_i inner
      cases read
      exact stringBody_shorter inner
  unfold nextKey? at found
  simp only at found
  split at found
  · simp at found
  · simp at found
  · rename_i c tail _ eq
    rw [eq] at space
    simp only [List.length_cons] at space
    split at found
    · split at found
      · have := body found; omega
      · simp at found
    · split at found
      · have inner := length_skipSpace_le tail
        split at found
        · simp at found
        · simp at found
        · rename_i eq'
          rw [eq'] at inner
          simp only [List.length_cons] at inner
          have := body found; omega
        · simp at found
      · simp at found

/-- What follows the colon between a key and its value. -/
def colon (text : List Char) : Except Fault (List Char) :=
  match skipSpace text with
  | [] => .error (.atNext .endInObject [])
  | ':' :: rest => .ok rest
  | rest => .error (.atNext .missingColon rest)

theorem colon_shorter {text rest : List Char} (read : colon text = .ok rest) :
    rest.length < text.length := by
  have space := length_skipSpace_le text
  unfold colon at read
  split at read
  · simp at read
  · rename_i eq
    rw [eq] at space
    cases read
    simp only [List.length_cons] at space
    omega
  · simp at read

/-- All members up to the end of the object, which is left unread. The table says for each key,
given what earlier members have led to, how its value is read, or what is wrong with it. -/
def members {σ : Type} (table : σ → String → Except Cause (Reader σ)) (first : Bool) (state : σ)
    (text : List Char) : Except Fault (σ × List Char) :=
  match hk : nextKey? first text with
  | .error fault => .error fault
  | .ok none => .ok (state, skipSpace text)
  | .ok (some (key, rest)) =>
    match table state key with
    | .error cause => .error (.unplaced cause rest)
    | .ok reader =>
      match hc : colon rest with
      | .error fault => .error fault
      | .ok valueText =>
        match hv : reader.read valueText with
        | .error fault => .error fault
        | .ok (state, rest) =>
          have := nextKey?_shorter hk
          have := colon_shorter hc
          have := reader.shorter hv
          members table false state rest
termination_by text.length

theorem members_length {σ : Type} {table : σ → String → Except Cause (Reader σ)} {first : Bool}
    {state state' : σ} {text rest : List Char}
    (read : members table first state text = .ok (state', rest)) : rest.length ≤ text.length := by
  fun_induction members table first state text with
  | case1 => simp at read
  | case2 => cases read; exact length_skipSpace_le _
  | case3 => simp at read
  | case4 => simp at read
  | case5 => simp at read
  | case6 =>
    rename_i ih
    have := ih read
    omega

/-! ## Records and lists -/

/-- A record, from an object or from an array. -/
def readRecord {α : Type} (wanted : Wanted)
    (ofMembers ofElements : List Char → Except Fault (α × List Char)) (text : List Char) :
    Except Fault (α × List Char) :=
  match skipSpace text with
  | '[' :: rest =>
    match ofElements rest with
    | .error fault => .error (fault.settle listEnd)
    | .ok (value, rest) =>
      match closeList rest with
      | .error fault => .error fault
      | .ok rest => .ok (value, rest)
  | '{' :: rest =>
    match ofMembers rest with
    | .error fault => .error (fault.settle objectEnd)
    | .ok (value, rest) =>
      match closeObject rest with
      | .error fault => .error fault
      | .ok rest => .ok (value, rest)
  | rest => .error (mismatch wanted rest)

theorem readRecord_shorter {α : Type} {wanted : Wanted}
    {ofMembers ofElements : List Char → Except Fault (α × List Char)}
    (members_le : ∀ {text rest value},
      ofMembers text = .ok (value, rest) → rest.length ≤ text.length)
    (elements_le : ∀ {text rest value}, ofElements text = .ok (value, rest) →
      rest.length ≤ text.length)
    {text rest : List Char} {value : α}
    (read : readRecord wanted ofMembers ofElements text = .ok (value, rest)) :
    rest.length < text.length := by
  have space := length_skipSpace_le text
  unfold readRecord at read
  split at read
  · rename_i eq
    rw [eq] at space
    simp only [List.length_cons] at space
    split at read
    · simp at read
    · rename_i body
      have := elements_le body
      split at read
      · simp at read
      · rename_i closed
        cases read
        have := closeList_shorter closed
        omega
  · rename_i eq
    rw [eq] at space
    simp only [List.length_cons] at space
    split at read
    · simp at read
    · rename_i body
      have := members_le body
      split at read
      · simp at read
      · rename_i closed
        cases read
        have := closeObject_shorter closed
        omega
  · simp at read

/-- An array of values of one shape. -/
def readList {α : Type} (reader : Reader α) (text : List Char) :
    Except Fault (List α × List Char) :=
  match skipSpace text with
  | '[' :: rest =>
    match elements reader true rest with
    | .error fault => .error (fault.settle listEnd)
    | .ok (values, rest) =>
      match closeList rest with
      | .error fault => .error fault
      | .ok rest => .ok (values, rest)
  | rest => .error (mismatch .sequence rest)

theorem readList_shorter {α : Type} {reader : Reader α} {text rest : List Char} {values : List α}
    (read : readList reader text = .ok (values, rest)) : rest.length < text.length := by
  have space := length_skipSpace_le text
  unfold readList at read
  split at read
  · rename_i eq
    rw [eq] at space
    simp only [List.length_cons] at space
    split at read
    · simp at read
    · rename_i body
      have := elements_length body
      split at read
      · simp at read
      · rename_i closed
        cases read
        have := closeList_shorter closed
        omega
  · simp at read

def Reader.list {α : Type} (reader : Reader α) : Reader (List α) :=
  ⟨readList reader, readList_shorter⟩

/-! ## Whole texts -/

/-- The value of a text that holds nothing else. -/
def readWhole {α : Type} (reader : Reader α) (text : String) : Except Rejection α :=
  let chars := text.toList
  match reader.read chars with
  | .error fault => .error (.ofFault chars fault)
  | .ok (value, rest) =>
    match skipSpace rest with
    | [] => .ok value
    | rest => .error (.ofFault chars (.atNext .trailingText rest))

end DriverCompat.Json
