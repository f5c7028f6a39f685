import DriverCompat.Proofs.Report.Counts
import DriverCompat.Proofs.Report.RoundTrip
import DriverCompat.Report.Marker

/-! # Where reports come from

A report is begun anew or found in a text, and has results recorded into it. Recording neither
unbalances a report nor balances it, so whether the numbers of a report are those of its entries is
settled where it comes from. A new report is balanced. A text may hold any report at all, since
reading takes the numbers as they stand there.
-/

namespace DriverCompat.Report

/-- The reports that can be come by, each with the one that its results were recorded into. -/
inductive Obtained : Report → Report → Prop
  | new : Obtained empty empty
  | read {text : String} {report : Report} (found : ofText text = .ok report) :
      Obtained report report
  | recovered {transcript : String} {report : Report}
      (found : ofTranscript transcript = .ok report) : Obtained report report
  | recorded {origin report : Report} (obtained : Obtained origin report) (name : String)
      (outcome : Outcome) : Obtained origin (report.record name outcome)

theorem toNat_add_one_eq_iff {word : UInt64} {count : Nat} (room : count + 1 < 2 ^ 64) :
    (word + 1).toNat = count + 1 ↔ word.toNat = count := by
  have small := word.toNat_lt
  rw [UInt64.toNat_add, UInt64.toNat_one]
  omega

theorem statuses_record (report : Report) (name : String) (outcome : Outcome) :
    (report.record name outcome).statuses =
      report.statuses ++ [(Entry.ofOutcome name outcome).status] := by
  rw [statuses, entries_record, List.map_append, List.map_singleton]
  rfl

theorem total_record (report : Report) (name : String) (outcome : Outcome) :
    (report.record name outcome).total = report.total + 1 := by
  rw [total, entries_record, List.length_append, List.length_singleton]
  rfl

/-- A report that is balanced after a result was recorded was so before. -/
theorem Balanced.of_record {report : Report} {name : String} {outcome : Outcome}
    (room : report.total + 1 < 2 ^ 64) (balanced : (report.record name outcome).Balanced) :
    report.Balanced := by
  obtain ⟨passed, failed, marked⟩ := balanced
  rw [statuses_record, List.count_append] at passed failed
  have total : report.statuses.count .pass + report.statuses.count .fail = report.total := by
    rw [count_pass_add_count_fail]
    exact List.length_map _
  constructor
  · cases outcome with
    | pass => exact (toNat_add_one_eq_iff (by omega)).mp passed
    | fail detail => exact passed
  · cases outcome with
    | pass => exact failed
    | fail detail => exact (toNat_add_one_eq_iff (by omega)).mp failed
  · intro entry member
    apply marked
    rw [entries_record]
    exact List.mem_append_left _ member

/-- A report is balanced exactly if the one was that its results were recorded into. -/
theorem Obtained.balanced_iff {origin report : Report} (obtained : Obtained origin report)
    (room : report.total < 2 ^ 64) : report.Balanced ↔ origin.Balanced := by
  induction obtained with
  | new => rfl
  | read found => rfl
  | recovered found => rfl
  | recorded obtained name outcome ih =>
    rw [total_record] at room
    have same := ih (by omega)
    constructor
    · intro balanced
      exact same.mp (balanced.of_record room)
    · intro balanced
      exact (same.mpr balanced).record room name outcome

theorem Obtained.origin {origin report : Report} (obtained : Obtained origin report) :
    origin = empty ∨ (∃ text, ofText text = .ok origin) ∨
      ∃ transcript, ofTranscript transcript = .ok origin := by
  induction obtained with
  | new => exact .inl rfl
  | read found => exact .inr (.inl ⟨_, found⟩)
  | recovered found => exact .inr (.inr ⟨_, found⟩)
  | recorded _ _ _ ih => exact ih

theorem exists_ofText (report : Report) : ∃ text, ofText text = .ok report := by
  refine ⟨report.render, ?_⟩
  rw [ofText, parse_render]

/-- A report that fits into memory was begun anew or found in a text, and is balanced exactly if it
was so then, before results were recorded into it. A balanced report has as many entries as its
numbers say, and ends a process well exactly if all of them passed. A new report is balanced, but
every report, balanced or not, can be found in some text. -/
theorem obtained_balanced_iff {origin report : Report} (obtained : Obtained origin report)
    (room : report.total < 2 ^ 64) :
    (origin = empty ∨ (∃ text, ofText text = .ok origin) ∨
      ∃ transcript, ofTranscript transcript = .ok origin) ∧
    (report.Balanced ↔ origin.Balanced) ∧
    (report.Balanced → report.passed.toNat + report.failed.toNat = report.total ∧
      (report.exitCode = 0 ↔ ∀ entry ∈ report.entries, entry.status = .pass)) ∧
    empty.Balanced ∧ ∃ text, ofText text = .ok report := by
  refine ⟨obtained.origin, obtained.balanced_iff room, ?_, balanced_empty, exists_ofText report⟩
  intro balanced
  constructor
  · exact balanced.total
  · exact balanced.exitCode_eq_zero_iff

theorem ofText_of_toOption {text : String} {report : Report}
    (found : (ofText text).toOption = some report) : ofText text = .ok report := by
  cases read : ofText text with
  | error failure =>
    rw [read] at found
    cases found
  | ok other =>
    rw [read] at found
    cases found
    rfl

/-- A report that was read, with one check that passed and one that failed, and goes on. -/
theorem obtained_balanced_iff_resumed :
    ∃ origin,
      ofText "[1, 1, [[\"ping\", \"PASS\"], [\"find-one\", \"FAIL\", \"late\"]]]" = .ok origin ∧
      (origin.record "drop-collection" .pass).Balanced ∧
      (origin.record "drop-collection" .pass).exitCode ≠ 0 := by
  let origin : Report := ⟨1, 1, [⟨"ping", .pass, none⟩, ⟨"find-one", .fail, some "late"⟩]⟩
  have found : ofText "[1, 1, [[\"ping\", \"PASS\"], [\"find-one\", \"FAIL\", \"late\"]]]" =
      .ok origin := ofText_of_toOption (by decide +kernel)
  obtain ⟨-, same, exits, -⟩ :=
    obtained_balanced_iff ((Obtained.read found).recorded "drop-collection" .pass) (by decide)
  have balanced : (origin.record "drop-collection" .pass).Balanced :=
    same.mpr ⟨by decide, by decide, by decide⟩
  refine ⟨origin, found, balanced, ?_⟩
  intro passed
  have all := (exits balanced).2.mp passed
  exact absurd (all ⟨"find-one", .fail, some "late"⟩ (by decide)) (by decide)

/-- A text whose numbers hide the failure that it tells of. -/
def misleadingText : String :=
  "\x7b\"passed\":1,\"failed\":0,\"tests\":[\x7b\"name\":\"ping\",\"status\":\"FAIL\"" ++
    ",\"error\":\"boom\"\x7d]\x7d"

/-- Its report would end a process well. -/
theorem obtained_not_balanced :
    ∃ report, Obtained report report ∧ ofText misleadingText = .ok report ∧ ¬ report.Balanced ∧
      report.exitCode = 0 ∧ ∃ entry ∈ report.entries, entry.status = .fail := by
  let report : Report := ⟨1, 0, [⟨"ping", .fail, some "boom"⟩]⟩
  have found : ofText misleadingText = .ok report := ofText_of_toOption (by decide +kernel)
  refine ⟨report, .read found, found, ?_, rfl, ?_⟩
  · intro balanced
    exact absurd balanced.passed (by decide)
  · exact ⟨_, List.mem_singleton_self _, rfl⟩

end DriverCompat.Report
