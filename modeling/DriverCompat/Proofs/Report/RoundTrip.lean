import DriverCompat.Proofs.Json.Containers
import DriverCompat.Report.Marker

/-! # Written reports are read back

The text of a report is read as that report, whatever its numbers and the texts in it are.
-/

namespace DriverCompat

open Json

theorem Json.Reader.map_read {α β : Type} {reader : Reader α} {text rest : List Char} {value : α}
    (f : α → β) (read : reader.read text = .ok (value, rest)) :
    (reader.map f).read text = .ok (f value, rest) := by
  simp only [Reader.map, read]

theorem Status.read_quote (status : Status) (rest : List Char) :
    Status.read (' ' :: (quote status.text ++ rest)) = .ok (status, rest) := by
  have named : ofName status.text rest = .ok (status, rest) := by cases status <;> rfl
  rw [quote_append]
  change readName ('"' :: _) = _
  rw [readName, skipSpace_of_not_isSpace rfl]
  simp [stringBody_escape, named]

namespace Entry

/-- What follows the status of an entry. -/
def afterStatus (depth : Nat) (error : Option String) (rest : List Char) : List Char :=
  match error with
  | none => newLine depth ++ '}' :: rest
  | some error =>
    ',' :: (newLine (depth + 1) ++ (quote "error" ++ ':' :: ' ' :: (quote error ++
      (newLine depth ++ '}' :: rest))))

theorem indentedAt_toJson (depth : Nat) (entry : Entry) (rest : List Char) :
    indentedAt depth entry.toJson ++ rest =
      '{' :: (newLine (depth + 1) ++ (quote "name" ++ ':' :: ' ' :: (quote entry.name ++
        ',' :: (newLine (depth + 1) ++ (quote "status" ++ ':' :: ' ' :: (quote entry.status.text ++
          afterStatus depth entry.error rest)))))) := by
  obtain ⟨name, status, _ | error⟩ := entry <;>
    simp [toJson, indentedAt, indentedMembers, compact, afterStatus]

theorem members_afterStatus (depth : Nat) (fields : Fields) (fresh : fields.error = none)
    (error : Option String) (rest : List Char) :
    ∃ read, members Fields.table false fields (afterStatus depth error rest) =
        .ok ({ fields with error := read }, '}' :: rest) ∧ read.getD none = error := by
  cases error with
  | none =>
    refine ⟨none, ?_, rfl⟩
    rw [afterStatus, members_end (nextKey?_end false depth rest), skipSpace_newLine, ← fresh]
    rfl
  | some error =>
    refine ⟨some (some error), ?_, rfl⟩
    have known : Fields.table fields "error" =
        .ok (Reader.optionalString.map fun error => { fields with error := some error }) := by
      change (if fields.error.isSome then _ else _) = _
      rw [fresh]
      rfl
    have value :
        Reader.optionalString.read (' ' :: (quote error ++ (newLine depth ++ '}' :: rest))) =
        .ok (some error, newLine depth ++ '}' :: rest) := readOptionalString_quote error _
    rw [afterStatus, members_step (nextKey?_further (depth + 1) "error" _) known
      (Reader.map_read _ value), members_end (nextKey?_end false depth rest), skipSpace_newLine]
    rfl

/-- An entry is read back, and what follows it is left. -/
theorem read_indentedAt (depth : Nat) (entry : Entry) (rest : List Char) :
    reader.read (indentedAt depth entry.toJson ++ rest) = .ok (entry, rest) := by
  obtain ⟨name, status, error⟩ := entry
  rw [indentedAt_toJson]
  obtain ⟨read, body, same⟩ :=
    members_afterStatus depth ⟨some name, some status, none⟩ rfl error rest
  let behindStatus := afterStatus depth error rest
  let behindName := ',' :: (newLine (depth + 1) ++ (quote "status" ++ ':' :: ' ' ::
    (quote status.text ++ behindStatus)))
  have nameRead : Reader.string.read (' ' :: (quote name ++ behindName)) = .ok (name, behindName) :=
    readString_quote name _
  have statusRead : Status.reader.read (' ' :: (quote status.text ++ behindStatus)) =
      .ok (status, behindStatus) := status.read_quote _
  have atStatus : members Fields.table false ⟨some name, none, none⟩ behindName =
      members Fields.table false ⟨some name, some status, none⟩ behindStatus :=
    members_step (nextKey?_further (depth + 1) "status" _) rfl (Reader.map_read _ statusRead)
  have atName : members Fields.table true Fields.empty
        (newLine (depth + 1) ++ (quote "name" ++ ':' :: ' ' :: (quote name ++ behindName))) =
      members Fields.table false ⟨some name, none, none⟩ behindName :=
    members_step (nextKey?_first (depth + 1) "name" _) rfl (Reader.map_read _ nameRead)
  have whole : ofMembers
        (newLine (depth + 1) ++ (quote "name" ++ ':' :: ' ' :: (quote name ++ behindName))) =
      .ok (⟨name, status, error⟩, '}' :: rest) := by
    rw [ofMembers, atName, atStatus, body]
    simp only [Fields.finish, same]
  exact (readRecord_of_members whole rfl : readRecord shape ofMembers ofElements _ = _)

theorem indentedAt_braced (depth : Nat) (entry : Entry) :
    ∃ tail, indentedAt depth entry.toJson = '{' :: tail := by
  have shape := indentedAt_toJson depth entry []
  rw [List.append_nil] at shape
  exact ⟨_, shape⟩

end Entry

namespace Report

theorem indentedAt_countJson (depth : Nat) (n : UInt64) :
    indentedAt depth (countJson n) = Nat.toDigits 10 n.toNat :=
  render_natCast n.toNat ⟨by omega, by have := n.toNat_lt; omega⟩

theorem indented_toJson (report : Report) :
    report.toJson.indented =
      '{' :: (newLine 1 ++ (quote "passed" ++ ':' :: ' ' :: (Nat.toDigits 10 report.passed.toNat ++
        ',' :: (newLine 1 ++ (quote "failed" ++ ':' :: ' ' ::
          (Nat.toDigits 10 report.failed.toNat ++
          ',' :: (newLine 1 ++ (quote "tests" ++ ':' :: ' ' ::
            (indentedAt 1 (.array (report.entries.map Entry.toJson)) ++
              (newLine 0 ++ ['}'])))))))))) := by
  simp [indented, toJson, indentedAt.eq_def 0, indentedMembers, indentedAt_countJson]

theorem endsNumber_comma (rest : List Char) : EndsNumber (',' :: rest) := by
  rintro c ⟨⟩
  decide

/-- A report is read back. -/
theorem read_indented (report : Report) :
    reader.read report.toJson.indented = .ok (report, []) := by
  obtain ⟨passed, failed, entries⟩ := report
  rw [indented_toJson]
  let behindTests := newLine 0 ++ ['}']
  let behindFailed := ',' :: (newLine 1 ++ (quote "tests" ++ ':' :: ' ' ::
    (indentedAt 1 (.array (entries.map Entry.toJson)) ++ behindTests)))
  let behindPassed := ',' :: (newLine 1 ++ (quote "failed" ++ ':' :: ' ' ::
    (Nat.toDigits 10 failed.toNat ++ behindFailed)))
  have passedRead : Reader.count.read (' ' :: (Nat.toDigits 10 passed.toNat ++ behindPassed)) =
      .ok (passed, behindPassed) := readCount_toDigits passed (endsNumber_comma _)
  have failedRead : Reader.count.read (' ' :: (Nat.toDigits 10 failed.toNat ++ behindFailed)) =
      .ok (failed, behindFailed) := readCount_toDigits failed (endsNumber_comma _)
  have testsRead : Entry.reader.list.read
      (' ' :: (indentedAt 1 (.array (entries.map Entry.toJson)) ++ behindTests)) =
      .ok (entries, behindTests) :=
    readList_indentedAt (Entry.indentedAt_braced 2) (Entry.read_indentedAt 2) entries _
  have atTests : members Fields.table false ⟨some passed, some failed, none⟩ behindFailed =
      members Fields.table false ⟨some passed, some failed, some entries⟩ behindTests :=
    members_step (nextKey?_further 1 "tests" _) rfl (Reader.map_read _ testsRead)
  have atFailed : members Fields.table false ⟨some passed, none, none⟩ behindPassed =
      members Fields.table false ⟨some passed, some failed, none⟩ behindFailed :=
    members_step (nextKey?_further 1 "failed" _) rfl (Reader.map_read _ failedRead)
  have atPassed : members Fields.table true Fields.empty (newLine 1 ++ (quote "passed" ++
        ':' :: ' ' :: (Nat.toDigits 10 passed.toNat ++ behindPassed))) =
      members Fields.table false ⟨some passed, none, none⟩ behindPassed :=
    members_step (nextKey?_first 1 "passed" _) rfl (Reader.map_read _ passedRead)
  have whole : ofMembers (newLine 1 ++ (quote "passed" ++
        ':' :: ' ' :: (Nat.toDigits 10 passed.toNat ++ behindPassed))) =
      .ok (⟨passed, failed, entries⟩, ['}']) := by
    rw [ofMembers, atPassed, atFailed, atTests, members_end (nextKey?_end false 0 [])]
    rfl
  exact (readRecord_of_members whole rfl : readRecord shape ofMembers ofElements _ = _)

/-- The text of a report holds that report. -/
theorem parse_render (report : Report) : parse report.render = .ok report := by
  unfold parse readWhole render indentedText
  simp only [String.toList_ofList, read_indented]
  rfl

/-- Every report is recovered from its own text: its numbers, and its entries in order with their
names, marks and errors, whatever characters these texts have. -/
theorem ofText_render (report : Report) : ofText report.render = .ok report := by
  unfold ofText
  rw [parse_render]

end Report

end DriverCompat
