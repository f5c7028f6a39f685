import DriverCompat.Proofs.Json.Steady
import DriverCompat.Proofs.Report.RoundTrip

/-! # Reports that were cut off

A report that was read from the front of a text is read the same when more text is put behind. So
the text of a report holds no report before it is complete.
-/

namespace DriverCompat

open Json

namespace Status

theorem readName_append {text rest : List Char} {status : Status}
    (read : readName text = .ok (status, rest)) (more : List Char) :
    readName (text ++ more) = .ok (status, rest ++ more) := by
  unfold readName at read ⊢
  split at read
  · rename_i eq
    rw [skipSpace_append_of_cons eq]
    split at read
    · simp at read
    · rename_i body
      simp only [stringBody_append body more]
      unfold ofName at read ⊢
      split at read
      · cases read; rfl
      · simp at read
  · simp at read

theorem readObject_append {text rest : List Char} {status : Status}
    (read : readObject text = .ok (status, rest)) (more : List Char) :
    readObject (text ++ more) = .ok (status, rest ++ more) := by
  unfold readObject at read ⊢
  split at read
  · simp at read
  · rename_i name
    rw [readName_append name more]
    simp only
    split at read
    · simp at read
    · rename_i behind
      rw [colon_append behind more]
      simp only
      split at read
      · simp at read
      · rename_i unit
        rw [readUnit_append unit more]
        simp only
        split at read
        · simp at read
        · rename_i eq
          cases read
          rw [skipSpace_append_of_cons eq]
          rfl
        · simp at read

theorem steady_reader : reader.Steady := by
  intro text rest status read _ more
  change Status.read text = _ at read
  change Status.read (text ++ more) = _
  unfold Status.read at read ⊢
  split at read
  · simp at read
  · rename_i eq
    rw [skipSpace_append_of_cons eq]
    exact readObject_append read more
  · rename_i eq
    rw [skipSpace_append_of_cons eq]
    exact readName_append read more
  · simp at read

end Status

namespace Entry

theorem steady_table {fields : Fields} {key : String} {reader : Reader Fields}
    (known : Fields.table fields key = .ok reader) : reader.Steady := by
  unfold Fields.table at known
  split at known
  · split at known
    · simp at known
    · cases known
      exact steady_string.map _
  · split at known
    · simp at known
    · cases known
      exact Status.steady_reader.map _
  · split at known
    · simp at known
    · cases known
      exact steady_optionalString.map _
  · cases known
    exact steady_skip.map _

theorem steady_ofMembers : Steady ofMembers := by
  intro text rest entry read _ more
  unfold ofMembers at read ⊢
  split at read
  · simp at read
  · rename_i body
    rw [members_append steady_table body more]
    simp only
    split at read
    · simp at read
    · cases read; rfl

theorem steady_ofElements : Steady ofElements := by
  intro text rest entry read left more
  unfold ofElements at read ⊢
  split at read
  · simp at read
  · simp at read
  · rename_i name behindName nameRead
    split at read
    · simp at read
    · simp at read
    · rename_i status behindStatus statusRead
      rw [steady_string.element? nameRead (element?_ne_nil statusRead) more]
      simp only
      split at read
      · simp at read
      · rename_i none
        cases read
        obtain ⟨tail, eq⟩ := skipSpace_of_nextElement?_none (nextElement?_of_element?_none none)
        simp only [Status.steady_reader.element? statusRead (element?_ne_nil none) more,
          element?_none_append none more, skipSpace_append_of_cons eq, eq, List.cons_append]
      · rename_i errorRead
        cases read
        simp only [Status.steady_reader.element? statusRead (element?_ne_nil errorRead) more,
          steady_optionalString.element? errorRead left more]

theorem steady_reader : reader.Steady := fun read _ more =>
  readRecord_append steady_ofMembers steady_ofElements read more

end Entry

namespace Report

theorem steady_table {fields : Fields} {key : String} {reader : Reader Fields}
    (known : Fields.table fields key = .ok reader) : reader.Steady := by
  unfold Fields.table at known
  split at known
  · split at known
    · simp at known
    · cases known
      exact steady_count.map _
  · split at known
    · simp at known
    · cases known
      exact steady_count.map _
  · split at known
    · simp at known
    · cases known
      exact Reader.Steady.map (Reader.Steady.list Entry.steady_reader) _
  · cases known
    exact steady_skip.map _

theorem steady_ofMembers : Steady ofMembers := by
  intro text rest report read _ more
  unfold ofMembers at read ⊢
  split at read
  · simp at read
  · rename_i body
    rw [members_append steady_table body more]
    simp only
    split at read
    · simp at read
    · cases read; rfl

theorem steady_ofElements : Steady ofElements := by
  intro text rest report read left more
  unfold ofElements at read ⊢
  split at read
  · simp at read
  · simp at read
  · rename_i passed behindPassed passedRead
    split at read
    · simp at read
    · simp at read
    · rename_i failed behindFailed failedRead
      split at read
      · simp at read
      · simp at read
      · rename_i entries behindEntries entriesRead
        cases read
        simp only [steady_count.element? passedRead (element?_ne_nil failedRead) more,
          steady_count.element? failedRead (element?_ne_nil entriesRead) more,
          Reader.Steady.element? (Reader.Steady.list Entry.steady_reader) entriesRead left more]

/-- A report is read the same with more text behind it. -/
theorem read_append {text rest : List Char} {report : Report}
    (read : reader.read text = .ok (report, rest)) (more : List Char) :
    reader.read (text ++ more) = .ok (report, rest ++ more) :=
  readRecord_append steady_ofMembers steady_ofElements read more

/-- The text of a report holds no report before its end. -/
theorem ofText_ne_ok_of_isPrefix {report : Report} {start : List Char}
    (cut : start <+: report.render.toList) (incomplete : start ≠ report.render.toList)
    (found : Report) : ofText (String.ofList start) ≠ .ok found := by
  intro accepted
  unfold ofText parse readWhole at accepted
  rw [String.toList_ofList] at accepted
  obtain ⟨more, whole⟩ := cut
  split at accepted
  · rename_i same
    simp only at same
    split at same
    · simp at same
    · rename_i rest read
      have further := read_append read more
      rw [whole, Report.render, indentedText, String.toList_ofList, read_indented] at further
      have nothing : rest ++ more = [] := (congrArg Prod.snd (Except.ok.inj further)).symm
      rw [(List.append_eq_nil_iff.mp nothing).2, List.append_nil] at whole
      exact incomplete whole
  · simp at accepted

end Report

end DriverCompat
