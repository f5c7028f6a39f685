import DriverCompat.Arithmetic
import DriverCompat.Report.Basic

/-! # Counting the entries of a report

Recording keeps the numbers of a report in step with its list. Starting from an empty report they
are the numbers of entries that passed and failed, as long as these fit into a word, and every
entry has an error exactly if it failed.
-/

namespace DriverCompat

theorem count_pass_add_count_fail (statuses : List Status) :
    statuses.count .pass + statuses.count .fail = statuses.length := by
  induction statuses with
  | nil => rfl
  | cons status rest ih =>
    cases status <;> simp only [List.count_cons, List.length_cons] <;> simp <;> omega

namespace Entry

@[simp] theorem name_ofOutcome (name : String) (outcome : Outcome) :
    (ofOutcome name outcome).name = name := by
  cases outcome <;> rfl

theorem error_isSome_ofOutcome (name : String) (outcome : Outcome) :
    (ofOutcome name outcome).error.isSome ↔ (ofOutcome name outcome).status = .fail := by
  cases outcome <;> simp [ofOutcome]

theorem status_ofOutcome_eq_pass_iff (name : String) (outcome : Outcome) :
    (ofOutcome name outcome).status = .pass ↔ outcome = .pass := by
  cases outcome <;> simp [ofOutcome]

end Entry

namespace Report

/-- How the entries of a report are marked, in order. -/
def statuses (report : Report) : List Status := report.entries.map Entry.status

/-- The report with some results entered one after another. -/
def recordAll (report : Report) (results : List (String × Outcome)) : Report :=
  results.foldl (fun report result => report.record result.1 result.2) report

/-- The entries of some results. -/
def entriesOf (results : List (String × Outcome)) : List Entry :=
  results.map fun result => .ofOutcome result.1 result.2

theorem recordAll_cons (report : Report) (name : String) (outcome : Outcome)
    (results : List (String × Outcome)) :
    report.recordAll ((name, outcome) :: results) =
      (report.record name outcome).recordAll results :=
  rfl

theorem entriesOf_cons (name : String) (outcome : Outcome) (results : List (String × Outcome)) :
    entriesOf ((name, outcome) :: results) = .ofOutcome name outcome :: entriesOf results := rfl

/-- Recording puts the entries of the results behind those that are there, and adds to each number
those of them that it counts. -/
theorem recordAll_eq (report : Report) (results : List (String × Outcome)) :
    report.recordAll results =
      ⟨report.passed + UInt64.ofNat (((entriesOf results).map Entry.status).count .pass),
        report.failed + UInt64.ofNat (((entriesOf results).map Entry.status).count .fail),
        report.entries ++ entriesOf results⟩ := by
  induction results generalizing report with
  | nil => simp [recordAll, entriesOf]
  | cons result results ih =>
    obtain ⟨name, outcome⟩ := result
    have counted (count : UInt64) (n : Nat) :
        count + 1 + UInt64.ofNat n = count + UInt64.ofNat (n + 1) := by
      rw [UInt64.ofNat_add, UInt64.add_assoc, UInt64.add_comm 1]
      rfl
    rw [recordAll_cons, ih, entriesOf_cons]
    cases outcome with
    | pass =>
      simp only [record, Outcome.isPass, Entry.ofOutcome, if_true, List.map_cons,
        List.count_cons_self, counted, List.append_assoc, List.singleton_append]
      rfl
    | fail detail =>
      simp only [record, Outcome.isPass, Entry.ofOutcome, Bool.false_eq_true, if_false,
        List.map_cons, List.count_cons_self, counted, List.append_assoc, List.singleton_append]
      rfl

theorem entries_recordAll (report : Report) (results : List (String × Outcome)) :
    (report.recordAll results).entries = report.entries ++ entriesOf results := by
  rw [recordAll_eq]

/-- A report whose numbers count its entries and whose entries have an error exactly if they
failed. -/
structure Balanced (report : Report) : Prop where
  passed : report.passed.toNat = report.statuses.count .pass
  failed : report.failed.toNat = report.statuses.count .fail
  marked : ∀ entry ∈ report.entries, entry.error.isSome ↔ entry.status = .fail

theorem balanced_empty : empty.Balanced := ⟨rfl, rfl, by simp [empty]⟩

/-- Recording keeps a report balanced as long as its numbers fit into a word. -/
theorem Balanced.record {report : Report} (balanced : report.Balanced)
    (room : report.total + 1 < 2 ^ 64) (name : String) (outcome : Outcome) :
    (report.record name outcome).Balanced := by
  obtain ⟨passed, failed, marked⟩ := balanced
  have total := count_pass_add_count_fail report.statuses
  simp only [statuses, List.length_map] at total passed failed
  simp only [Report.total] at room
  refine ⟨?_, ?_, ?_⟩
  · cases outcome with
    | pass =>
      simp only [Report.record, Outcome.isPass, statuses, Entry.ofOutcome, List.map_append,
        List.map_cons, List.map_nil, List.count_append, if_true, UInt64.toNat_add, passed]
      simp
      omega
    | fail detail => simpa [Report.record, Outcome.isPass, statuses, Entry.ofOutcome] using passed
  · cases outcome with
    | pass => simpa [Report.record, Outcome.isPass, statuses, Entry.ofOutcome] using failed
    | fail detail =>
      simp only [Report.record, Outcome.isPass, statuses, Entry.ofOutcome, List.map_append,
        List.map_cons, List.map_nil, List.count_append, Bool.false_eq_true, if_false,
        UInt64.toNat_add, failed]
      simp
      omega
  · intro entry member
    simp only [entries_record, List.mem_append, List.mem_singleton] at member
    rcases member with member | rfl
    · exact marked entry member
    · exact Entry.error_isSome_ofOutcome name outcome

theorem Balanced.recordAll {report : Report} (balanced : report.Balanced)
    (results : List (String × Outcome)) (room : report.total + results.length < 2 ^ 64) :
    (report.recordAll results).Balanced := by
  induction results generalizing report with
  | nil => exact balanced
  | cons result results ih =>
    simp only [List.length_cons] at room
    rw [recordAll_cons]
    apply ih (balanced.record (by omega) _ _)
    simp only [total, entries_record, List.length_append, List.length_singleton] at room ⊢
    omega

theorem Balanced.total {report : Report} (balanced : report.Balanced) :
    report.passed.toNat + report.failed.toNat = report.total := by
  rw [balanced.passed, balanced.failed, count_pass_add_count_fail]
  exact List.length_map _

/-- A balanced report counts no failure exactly if all its entries passed. -/
theorem Balanced.failed_eq_zero_iff {report : Report} (balanced : report.Balanced) :
    report.failed = 0 ↔ ∀ entry ∈ report.entries, entry.status = .pass := by
  have counted : report.failed = 0 ↔ report.statuses.count .fail = 0 := by
    rw [← balanced.failed]
    simp [← UInt64.toNat_inj]
  rw [counted, List.count_eq_zero]
  simp only [Report.statuses, List.mem_map, not_exists, not_and]
  refine forall₂_congr fun entry _ => ?_
  cases entry.status <;> simp

/-- A balanced report ends a process well exactly if all its entries passed. -/
theorem Balanced.exitCode_eq_zero_iff {report : Report} (balanced : report.Balanced) :
    report.exitCode = 0 ↔ ∀ entry ∈ report.entries, entry.status = .pass := by
  rw [← balanced.failed_eq_zero_iff]
  simp [exitCode, allPassed]

end Report

end DriverCompat
