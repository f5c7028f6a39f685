import DriverCompat.Proofs.Json.Passing
import DriverCompat.Report.Marker

/-! # The lines of a report

No line of a text that is read as a report, other than its first one, begins with an equality sign.
-/

namespace DriverCompat

open Json

namespace Status

theorem passes_readName {text rest : List Char} {status : Status}
    (read : readName text = .ok (status, rest)) : Passes text rest := by
  unfold readName at read
  refine (Passes.skipSpace text).trans ?_
  split at read
  · rename_i eq
    rw [eq]
    split at read
    · simp at read
    · rename_i body
      unfold ofName at read
      split at read
      · cases read
        exact (oneLine_stringBody body).quoted
      · simp at read
  · simp at read

theorem passes_readObject {text rest : List Char} {status : Status}
    (read : readObject text = .ok (status, rest)) : Passes text rest := by
  unfold readObject at read
  split at read
  · simp at read
  · rename_i name
    split at read
    · simp at read
    · rename_i behind
      split at read
      · simp at read
      · rename_i tail unit
        refine (passes_readName name).trans ((passes_colon behind).trans
          ((passes_readUnit unit).trans ?_))
        split at read
        · simp at read
        · rename_i eq
          cases read
          exact .of_skipSpace eq (by decide) (.refl _)
        · simp at read

theorem tidy_reader : reader.Tidy := by
  intro text rest status read
  change Status.read text = _ at read
  unfold Status.read at read
  refine (Passes.skipSpace text).trans ?_
  split at read
  · simp at read
  · rename_i eq
    rw [eq]
    exact .cons (by decide) (passes_readObject read)
  · rename_i eq
    rw [eq]
    exact passes_readName read
  · simp at read

end Status

namespace Entry

theorem tidy_table {fields : Fields} {key : String} {reader : Reader Fields}
    (known : Fields.table fields key = .ok reader) : reader.Tidy := by
  unfold Fields.table at known
  split at known
  · split at known
    · simp at known
    · cases known
      exact tidy_string.map _
  · split at known
    · simp at known
    · cases known
      exact Status.tidy_reader.map _
  · split at known
    · simp at known
    · cases known
      exact tidy_optionalString.map _
  · cases known
    exact tidy_skip.map _

theorem passes_ofMembers {text rest : List Char} {entry : Entry}
    (read : ofMembers text = .ok (entry, rest)) : Passes text rest := by
  unfold ofMembers at read
  split at read
  · simp at read
  · rename_i body
    split at read
    · simp at read
    · cases read
      exact passes_members tidy_table body

theorem passes_ofElements {text rest : List Char} {entry : Entry}
    (read : ofElements text = .ok (entry, rest)) : Passes text rest := by
  unfold ofElements at read
  split at read
  · simp at read
  · simp at read
  · rename_i name
    refine (tidy_string.element? name).trans ?_
    split at read
    · simp at read
    · simp at read
    · rename_i status
      refine (Status.tidy_reader.element? status).trans ?_
      split at read
      · simp at read
      · cases read
        exact .skipSpace _
      · rename_i error
        cases read
        exact tidy_optionalString.element? error

theorem tidy_reader : reader.Tidy := fun read =>
  passes_readRecord passes_ofMembers passes_ofElements read

end Entry

namespace Report

theorem tidy_table {fields : Fields} {key : String} {reader : Reader Fields}
    (known : Fields.table fields key = .ok reader) : reader.Tidy := by
  unfold Fields.table at known
  split at known
  · split at known
    · simp at known
    · cases known
      exact tidy_count.map _
  · split at known
    · simp at known
    · cases known
      exact tidy_count.map _
  · split at known
    · simp at known
    · cases known
      exact Reader.Tidy.map (Reader.Tidy.list Entry.tidy_reader) _
  · cases known
    exact tidy_skip.map _

theorem passes_ofMembers {text rest : List Char} {report : Report}
    (read : ofMembers text = .ok (report, rest)) : Passes text rest := by
  unfold ofMembers at read
  split at read
  · simp at read
  · rename_i body
    split at read
    · simp at read
    · cases read
      exact passes_members tidy_table body

theorem passes_ofElements {text rest : List Char} {report : Report}
    (read : ofElements text = .ok (report, rest)) : Passes text rest := by
  unfold ofElements at read
  split at read
  · simp at read
  · simp at read
  · rename_i passed
    refine (tidy_count.element? passed).trans ?_
    split at read
    · simp at read
    · simp at read
    · rename_i failed
      refine (tidy_count.element? failed).trans ?_
      split at read
      · simp at read
      · simp at read
      · rename_i entries
        cases read
        exact Reader.Tidy.element? (Reader.Tidy.list Entry.tidy_reader) entries

theorem tidy_reader : reader.Tidy := fun read =>
  passes_readRecord passes_ofMembers passes_ofElements read

/-- A text in which a line begins with an equality sign holds no report. -/
theorem parse_ne_ok_of_infix {text : String} (broken : ['\n', '='] <:+: text.toList)
    (report : Report) : parse text ≠ .ok report := by
  intro accepted
  unfold parse readWhole at accepted
  simp only at accepted
  split at accepted
  · simp at accepted
  · rename_i rest read
    split at accepted
    · rename_i blank
      obtain ⟨piece, same, clean⟩ := (tidy_reader read).trans (blank ▸ Passes.skipSpace rest)
      rw [List.append_nil] at same
      rw [same] at broken
      exact clean.not_infix broken
    · simp at accepted

end Report

end DriverCompat
