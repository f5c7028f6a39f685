import DriverCompat.Report.Basic
import DriverCompat.Json.Printer
import DriverCompat.Json.Skip

/-! # Reports as JSON

A report is written as an indented object with the members `passed`, `failed` and `tests`, an
entry as one with `name`, `status` and, if there is one, `error`. Reading also accepts each of
them as an array of these values in this order, members in any order, and members with other
names, which are passed over; a known member that comes twice is refused.
-/

namespace DriverCompat

open Json

namespace Entry

/-- The members of an entry; an absent error has none. -/
def toJson (entry : Entry) : Json :=
  .object <| [("name", .string entry.name), ("status", .string entry.status.text)] ++
    match entry.error with
    | none => []
    | some error => [("error", .string error)]

end Entry

namespace Report

/-- The JSON value of a count. -/
def countJson (n : UInt64) : Json :=
  Json.int n.toNat ⟨by omega, by have := n.toNat_lt; omega⟩

def toJson (report : Report) : Json :=
  .object [("passed", countJson report.passed), ("failed", countJson report.failed),
    ("tests", .array (report.entries.map Entry.toJson))]

/-- The text of a report. -/
def render (report : Report) : String := report.toJson.indentedText

end Report

/-! ## Reading a status -/

namespace Status

def ofText? : String → Option Status
  | "PASS" => some .pass
  | "FAIL" => some .fail
  | _ => none

/-- The status that was named by a string that ended where the rest starts. -/
def ofName (name : String) (rest : List Char) : Except Fault (Status × List Char) :=
  match ofText? name with
  | some status => .ok (status, rest)
  | none => .error (.atFront (.unknownVariant name ["PASS", "FAIL"]) rest)

/-- The name of a status, as the value or as the key of an object. -/
def readName (text : List Char) : Except Fault (Status × List Char) :=
  match skipSpace text with
  | '"' :: rest =>
    match stringBody rest with
    | .error fault => .error fault
    | .ok (name, rest) => ofName name rest
  | rest => .error (mismatch .variantName rest)

/-- The object form of a status, behind its brace: the name, and a null. -/
def readObject (text : List Char) : Except Fault (Status × List Char) :=
  match readName text with
  | .error fault => .error fault
  | .ok (status, rest) =>
    match colon rest with
    | .error fault => .error fault
    | .ok rest =>
      match readUnit rest with
      | .error fault => .error fault
      | .ok ((), rest) =>
        match skipSpace rest with
        | [] => .error (.placed .endInObject 0)
        | '}' :: rest => .ok (status, rest)
        | rest => .error (.atFront .noValue rest)

/-- A status is a string, or an object with one member whose value is null. -/
def read (text : List Char) : Except Fault (Status × List Char) :=
  match skipSpace text with
  | [] => .error (.atNext .endInValue [])
  | '{' :: rest => readObject rest
  | '"' :: rest => readName ('"' :: rest)
  | rest => .error (.atNext .noValue rest)

theorem readName_shorter {text rest : List Char} {status : Status}
    (read : readName text = .ok (status, rest)) : rest.length < text.length := by
  have space := length_skipSpace_le text
  unfold readName at read
  split at read
  · rename_i eq
    rw [eq] at space
    simp only [List.length_cons] at space
    split at read
    · simp at read
    · rename_i body
      have := stringBody_shorter body
      unfold ofName at read
      split at read
      · cases read; omega
      · simp at read
  · simp at read

theorem readObject_shorter {text rest : List Char} {status : Status}
    (read : readObject text = .ok (status, rest)) : rest.length < text.length := by
  unfold readObject at read
  split at read
  · simp at read
  · rename_i name
    have := readName_shorter name
    split at read
    · simp at read
    · rename_i colon
      have := colon_shorter colon
      split at read
      · simp at read
      · rename_i tail unit
        have := readUnit_shorter unit
        have := length_skipSpace_le tail
        split at read
        · simp at read
        · rename_i eq
          rw [eq] at this
          simp only [List.length_cons] at this
          cases read
          omega
        · simp at read

theorem read_shorter {text rest : List Char} {status : Status}
    (read : Status.read text = .ok (status, rest)) : rest.length < text.length := by
  have space := length_skipSpace_le text
  unfold Status.read at read
  split at read
  · simp at read
  · rename_i eq
    rw [eq] at space
    have := readObject_shorter read
    simp only [List.length_cons] at space
    omega
  · rename_i eq
    rw [eq] at space
    exact Nat.lt_of_lt_of_le (readName_shorter read) space
  · simp at read

def reader : Reader Status := ⟨Status.read, read_shorter⟩

end Status

/-! ## Reading an entry -/

/-- The members of an entry that have been read so far. -/
structure Entry.Fields where
  name : Option String
  status : Option Status
  error : Option (Option String)

namespace Entry.Fields

def empty : Entry.Fields := ⟨none, none, none⟩

/-- How the value of a member of an entry is read. -/
def table (fields : Entry.Fields) (key : String) : Except Cause (Reader Entry.Fields) :=
  match key with
  | "name" =>
    if fields.name.isSome then .error (.repeatedField "name")
    else .ok (Reader.string.map fun name => { fields with name := some name })
  | "status" =>
    if fields.status.isSome then .error (.repeatedField "status")
    else .ok (Status.reader.map fun status => { fields with status := some status })
  | "error" =>
    if fields.error.isSome then .error (.repeatedField "error")
    else .ok (Reader.optionalString.map fun error => { fields with error := some error })
  | _ => .ok (Reader.skip.map fun _ => fields)

/-- The entry with these members; an entry without `error` has none. -/
def finish (fields : Entry.Fields) : Except Cause Entry :=
  match fields.name, fields.status with
  | none, _ => .error (.missingField "name")
  | some _, none => .error (.missingField "status")
  | some name, some status => .ok ⟨name, status, fields.error.getD none⟩

end Entry.Fields

namespace Entry

def shape : Wanted := .record "TestEntry" 3

def ofMembers (text : List Char) : Except Fault (Entry × List Char) :=
  match members Fields.table true Fields.empty text with
  | .error fault => .error fault
  | .ok (fields, rest) =>
    match fields.finish with
    | .error cause => .error (.unplaced cause rest)
    | .ok entry => .ok (entry, rest)

def ofElements (text : List Char) : Except Fault (Entry × List Char) :=
  match element? true Reader.string text with
  | .error fault => .error fault
  | .ok none => .error (.unplaced (.wrongLength 0 "TestEntry" 3) (skipSpace text))
  | .ok (some (name, rest)) =>
    match element? false Status.reader rest with
    | .error fault => .error fault
    | .ok none => .error (.unplaced (.wrongLength 1 "TestEntry" 3) (skipSpace rest))
    | .ok (some (status, rest)) =>
      match element? false Reader.optionalString rest with
      | .error fault => .error fault
      | .ok none => .ok (⟨name, status, none⟩, skipSpace rest)
      | .ok (some (error, rest)) => .ok (⟨name, status, error⟩, rest)

theorem ofMembers_length {text rest : List Char} {entry : Entry}
    (read : ofMembers text = .ok (entry, rest)) : rest.length ≤ text.length := by
  unfold ofMembers at read
  split at read
  · simp at read
  · rename_i body
    split at read
    · simp at read
    · cases read; exact members_length body

theorem ofElements_length {text rest : List Char} {entry : Entry}
    (read : ofElements text = .ok (entry, rest)) : rest.length ≤ text.length := by
  unfold ofElements at read
  split at read
  · simp at read
  · simp at read
  · rename_i name
    have := element?_shorter name
    split at read
    · simp at read
    · simp at read
    · rename_i tail status
      have := element?_shorter status
      split at read
      · simp at read
      · cases read
        have := length_skipSpace_le tail
        omega
      · rename_i error
        have := element?_shorter error
        cases read
        omega

def reader : Reader Entry :=
  ⟨readRecord shape ofMembers ofElements, readRecord_shorter ofMembers_length ofElements_length⟩

end Entry

/-! ## Reading a report -/

/-- The members of a report that have been read so far. -/
structure Report.Fields where
  passed : Option UInt64
  failed : Option UInt64
  entries : Option (List Entry)

namespace Report.Fields

def empty : Report.Fields := ⟨none, none, none⟩

/-- How the value of a member of a report is read. -/
def table (fields : Report.Fields) (key : String) : Except Cause (Reader Report.Fields) :=
  match key with
  | "passed" =>
    if fields.passed.isSome then .error (.repeatedField "passed")
    else .ok (Reader.count.map fun passed => { fields with passed := some passed })
  | "failed" =>
    if fields.failed.isSome then .error (.repeatedField "failed")
    else .ok (Reader.count.map fun failed => { fields with failed := some failed })
  | "tests" =>
    if fields.entries.isSome then .error (.repeatedField "tests")
    else .ok (Entry.reader.list.map fun entries => { fields with entries := some entries })
  | _ => .ok (Reader.skip.map fun _ => fields)

def finish (fields : Report.Fields) : Except Cause Report :=
  match fields.passed, fields.failed, fields.entries with
  | none, _, _ => .error (.missingField "passed")
  | some _, none, _ => .error (.missingField "failed")
  | some _, some _, none => .error (.missingField "tests")
  | some passed, some failed, some entries => .ok ⟨passed, failed, entries⟩

end Report.Fields

namespace Report

def shape : Wanted := .record "Report" 3

def ofMembers (text : List Char) : Except Fault (Report × List Char) :=
  match members Fields.table true Fields.empty text with
  | .error fault => .error fault
  | .ok (fields, rest) =>
    match fields.finish with
    | .error cause => .error (.unplaced cause rest)
    | .ok report => .ok (report, rest)

def ofElements (text : List Char) : Except Fault (Report × List Char) :=
  match element? true Reader.count text with
  | .error fault => .error fault
  | .ok none => .error (.unplaced (.wrongLength 0 "Report" 3) (skipSpace text))
  | .ok (some (passed, rest)) =>
    match element? false Reader.count rest with
    | .error fault => .error fault
    | .ok none => .error (.unplaced (.wrongLength 1 "Report" 3) (skipSpace rest))
    | .ok (some (failed, rest)) =>
      match element? false Entry.reader.list rest with
      | .error fault => .error fault
      | .ok none => .error (.unplaced (.wrongLength 2 "Report" 3) (skipSpace rest))
      | .ok (some (entries, rest)) => .ok (⟨passed, failed, entries⟩, rest)

theorem ofMembers_length {text rest : List Char} {report : Report}
    (read : ofMembers text = .ok (report, rest)) : rest.length ≤ text.length := by
  unfold ofMembers at read
  split at read
  · simp at read
  · rename_i body
    split at read
    · simp at read
    · cases read; exact members_length body

theorem ofElements_length {text rest : List Char} {report : Report}
    (read : ofElements text = .ok (report, rest)) : rest.length ≤ text.length := by
  unfold ofElements at read
  split at read
  · simp at read
  · simp at read
  · rename_i passed
    have := element?_shorter passed
    split at read
    · simp at read
    · simp at read
    · rename_i failed
      have := element?_shorter failed
      split at read
      · simp at read
      · simp at read
      · rename_i entries
        have := element?_shorter entries
        cases read
        omega

def reader : Reader Report :=
  ⟨readRecord shape ofMembers ofElements, readRecord_shorter ofMembers_length ofElements_length⟩

/-- The report that a text holds. -/
def parse (text : String) : Except Rejection Report := readWhole reader text

end Report

end DriverCompat
