import DriverCompat.Proofs.Run.Trace

/-! # The reports of runs

A run whose connection, probe and closing come to an end returns a report. Either its session could
not be had, and the report has one entry that says why; or all checks were made, and the report has
one entry for each. The numbers and the exit status agree with the entries in both.
-/

namespace DriverCompat

open Connection

variable {σ κ ω : Type}

/-- The connection, the probe and the closing of a session work without a panic, and the closing
ends. The checks may do what they want. -/
structure Settled (journal : List (Exchange κ)) : Prop where
  connect : ∀ exchange ∈ journal[0]?, ¬ exchange.Panics
  probe : ∀ exchange ∈ journal[1]?, ¬ exchange.Panics
  close : ∀ exchange ∈ journal, exchange.IsClose → exchange.Returns

/-- The shape of a report, by how the acquisition of the session has ended. -/
def ShapedBy (journal : List (Exchange κ)) (report : Report) : Except Failure κ → Prop
  | .error failure =>
    report.entries = [⟨Report.connectEntry, .fail, some failure.message⟩] ∧
      ∀ exchange ∈ journal.drop 2, exchange.IsClose
  | .ok _ =>
    report.entries.map Entry.name = Check.all.map Check.name ∧
      ∀ entry ∈ report.entries, entry.name ≠ Report.connectEntry

theorem Check.name_ne_connectEntry (check : Check) : check.name ≠ Report.connectEntry := by
  cases check <;> decide

theorem balanced_connectFailure (failure : Failure) : (connectFailure failure).Balanced :=
  Report.balanced_empty.record (by decide) _ _

theorem exitCode_connectFailure (failure : Failure) : (connectFailure failure).exitCode ≠ 0 := by
  rw [Ne, (balanced_connectFailure failure).exitCode_eq_zero_iff]
  intro passed
  have failed := passed ⟨Report.connectEntry, .fail, some failure.message⟩ List.mem_cons_self
  cases failed

section Checked

variable {config : Config} {session : κ} {segments : List (List (Exchange κ))}
  (made : List.Forall₂ (config.checks.Made session) Check.all segments)
include made

theorem names_reportOf :
    (reportOf config segments).entries.map Entry.name = Check.all.map Check.name := by
  rw [reportOf, Report.entries_recordAll]
  exact config.checks.names_entriesOf_results made.length_eq

theorem name_ne_connectEntry_of_mem_reportOf {entry : Entry}
    (member : entry ∈ (reportOf config segments).entries) : entry.name ≠ Report.connectEntry := by
  have named : entry.name ∈ Check.all.map Check.name := by
    rw [← names_reportOf made]
    exact List.mem_map_of_mem member
  obtain ⟨check, -, same⟩ := List.mem_map.mp named
  rw [← same]
  exact check.name_ne_connectEntry

theorem balanced_reportOf : (reportOf config segments).Balanced := by
  apply Report.balanced_empty.recordAll
  rw [Checks.results, List.length_zipWith, ← made.length_eq]
  decide

end Checked

/-- A run that is settled returns a report in the shape that its acquisition calls for. -/
theorem Exits.report {name : String} {config : Config} {observer : Observer ω} {seen : ω}
    {acquired : Option (Ending (Except Failure κ))}
    {course : Course ((σ × List (Exchange κ)) × ω) Report}
    (exits : Exits name config observer seen acquired course)
    (settled : Settled course.state.1.2) :
    ∃ result report elapsed, acquired = some (.returned result) ∧
      course = .ended elapsed (.returned report) course.state ∧
      ShapedBy course.state.1.2 report result ∧ report.Balanced ∧
      (report.exitCode = 0 ↔
        (∃ session, result = .ok session) ∧ ∀ entry ∈ report.entries, entry.status = .pass) := by
  obtain ⟨connect, probe, close⟩ := settled
  cases exits with
  | @refused exchanges elapsed failure after approach =>
    refine ⟨_, _, _, rfl, rfl, ⟨rfl, ?_⟩, balanced_connectFailure failure, ?_⟩
    · cases approach <;> exact fun _ member => nomatch member
    · simp [exitCode_connectFailure]
  | @rejected exchanges elapsed session failure closed after approach =>
    rw [state_concluding] at close ⊢
    obtain ⟨delay, answer, rfl⟩ : closed.Returns :=
      close (.call session .close closed) List.mem_concat_self trivial
    refine ⟨_, _, _, rfl, rfl, ⟨rfl, ?_⟩, balanced_connectFailure failure, ?_⟩
    · cases approach <;> exact fun exchange member => by
        obtain rfl := List.mem_singleton.mp member
        exact trivial
    · simp [exitCode_connectFailure]
  | @served exchanges elapsed session segments closed after approach made =>
    rw [state_concluding] at close ⊢
    obtain ⟨delay, answer, rfl⟩ : closed.Returns :=
      close (.call session .close closed) List.mem_concat_self trivial
    have balanced := balanced_reportOf made
    refine ⟨_, _, _, rfl, rfl, ⟨names_reportOf made, fun entry =>
      name_ne_connectEntry_of_mem_reportOf made⟩, balanced, ?_⟩
    simp [balanced.exitCode_eq_zero_iff]
  | panicked approach =>
    cases approach with
    | connectPanicked _ _ => exact absurd ⟨_, _, rfl⟩ (connect _ rfl)
    | probePanicked _ _ => exact absurd ⟨_, _, rfl⟩ (probe _ rfl)

/-- What an observer is told between the start and the end of a run, by the report it is about. -/
inductive Told : Report → List Notification → Prop
  | unconnected (failure : Failure) : Told (connectFailure failure) [.connectFailed failure]
  | checked {report : Report} (names : report.entries.map Entry.name = Check.all.map Check.name) :
      Told report (.connected :: announcements 1 report.entries)

/-- A failure that is told is the only entry of the report. -/
theorem Told.report_of_connectFailed {report : Report} {middle : List Notification}
    {failure : Failure} (told : Told report middle) (member : .connectFailed failure ∈ middle) :
    report = ⟨0, 1, [⟨"connect", .fail, some failure.message⟩]⟩ := by
  cases told with
  | unconnected other =>
    obtain rfl : failure = other := Notification.connectFailed.inj (List.mem_singleton.mp member)
    rfl
  | checked names => simp [announcements] at member

/-- An entry that is told is the one of the report which its number names. -/
theorem Told.entry_of_check {report : Report} {middle : List Notification} {index : Nat}
    {entry : Entry} (told : Told report middle) (member : .check index entry ∈ middle) :
    1 ≤ index ∧ report.entries[index - 1]? = some entry := by
  cases told with
  | unconnected failure => simp at member
  | checked names =>
    simp only [announcements, List.mem_cons, reduceCtorEq, false_or, List.mem_map,
      Notification.check.injEq, Prod.exists] at member
    obtain ⟨_, _, numbered, rfl, rfl⟩ := member
    exact List.mk_mem_zipIdx_iff_le_and_getElem?_sub.mp numbered

theorem concluding_returned {τ : Type} {observer : Observer ω} {elapsed total : Nat}
    {closed : Response Observation} {report report' : Report} {rest : List Notification}
    {state : τ} {seen : ω} {last : τ × ω}
    (returned : concluding observer elapsed closed report rest state seen =
      .ended total (.returned report') last) :
    report' = report ∧ last.2 = observer.follow rest seen := by
  rcases closed with ⟨delay, answer | payload⟩ | _ <;> cases returned
  exact ⟨rfl, rfl⟩

theorem Exits.told {name : String} {config : Config} {observer : Observer ω} {seen : ω}
    {acquired : Option (Ending (Except Failure κ))}
    {course : Course ((σ × List (Exchange κ)) × ω) Report}
    (exits : Exits name config observer seen acquired course) {elapsed : Nat} {report : Report}
    {last : (σ × List (Exchange κ)) × ω}
    (returned : course = .ended elapsed (.returned report) last) :
    ∃ middle, Told report middle ∧
      last.2 = observer.follow (.start name config :: middle ++ [.finish report]) seen := by
  cases exits with
  | refused approach =>
    cases returned
    exact ⟨_, .unconnected _, rfl⟩
  | rejected approach =>
    obtain ⟨rfl, seen'⟩ := concluding_returned returned
    rw [← Observer.follow_append] at seen'
    exact ⟨_, .unconnected _, seen'⟩
  | served approach made =>
    obtain ⟨rfl, seen'⟩ := concluding_returned returned
    rw [← Observer.follow_append] at seen'
    exact ⟨_, .checked (names_reportOf made), seen'⟩
  | panicked approach => cases returned

/-- A calm observer is told the start, what fits the report, and the end of a run that returns. -/
theorem compatibilityRun_told {driver : Driver σ κ} {config : Config} {observer : Observer ω}
    (calm : observer.NeverPanics) {state after : σ} {seen last : ω} {elapsed : Nat}
    {report : Report}
    (run : (compatibilityRun driver config observer).run (state, seen) =
      .ended elapsed (.returned report) (after, last)) :
    ∃ middle, Told report middle ∧
      last = observer.follow (.start driver.name config :: middle ++ [.finish report]) seen := by
  have alike := compatibilityRun_simulates driver.journaled_simulates config observer none
    ((state, []), seen) (state, seen) ⟨rfl, rfl⟩
  change Course.Alike _ _ ((compatibilityRun driver config observer).run _) at alike
  rw [run] at alike
  obtain ⟨⟨_, _⟩, course, -, rfl⟩ := alike.of_ended
  exact (compatibilityRun_exits calm driver config state seen).told course

/-- Every settled run returns a report. It has one entry, for the failure of the acquisition, and
then nothing but a close follows the connection and the probe; or it has one entry for each check.
Its numbers are those of its entries, and its exit status is zero exactly if the session was had and
all checks passed. -/
theorem compatibilityRun_report (driver : Driver σ κ) (config : Config) {observer : Observer ω}
    (calm : observer.NeverPanics) (state : σ) (seen : ω) {journal : List (Exchange κ)}
    (run : runTrace driver config observer state seen = journal) (settled : Settled journal) :
    ∃ acquired report elapsed last,
      ((acquire driver config).run state).ending? = some (.returned acquired) ∧
      (compatibilityRun driver config observer).run (state, seen) =
        .ended elapsed (.returned report) last ∧
      ShapedBy journal report acquired ∧
      report.passed.toNat = report.statuses.count .pass ∧
      report.failed.toNat = report.statuses.count .fail ∧
      report.passed.toNat + report.failed.toNat = report.total ∧
      (∀ entry ∈ report.entries, entry.error.isSome ↔ entry.status = .fail) ∧
      (report.exitCode = 0 ↔
        (∃ session, acquired = .ok session) ∧ ∀ entry ∈ report.entries, entry.status = .pass) := by
  subst run
  obtain ⟨acquired, report, elapsed, ending, course, shaped, balanced, exit⟩ :=
    (compatibilityRun_exits calm driver config state seen).report settled
  have alike := compatibilityRun_simulates driver.journaled_simulates config observer none
    ((state, []), seen) (state, seen) ⟨rfl, rfl⟩
  change Course.Alike _ ((compatibilityRun driver.journaled config observer).run _) _ at alike
  rw [course] at alike
  obtain ⟨last, plain, -⟩ := alike.ended_of
  exact ⟨acquired, report, elapsed, last, ending, plain, shaped, balanced.passed, balanced.failed,
    balanced.total, balanced.marked, exit⟩

/-- The report of a run on a healthy driver. -/
theorem compatibilityRun_report_memory :
    ∃ report elapsed last,
      (compatibilityRun (Memory.driver .plain) .default .recorder).run (.ofScript .none, []) =
        .ended elapsed (.returned report) last ∧
      report.entries.map Entry.name = Check.all.map Check.name := by
  have settled :
      Settled (runTrace (Memory.driver .plain) .default .recorder (.ofScript .none) []) :=
    ⟨by decide +kernel, by decide +kernel, by decide +kernel⟩
  obtain ⟨acquired, report, elapsed, last, ending, course, shaped, -⟩ :=
    compatibilityRun_report (Memory.driver .plain) .default Observer.recorder_neverPanics
      (.ofScript .none) [] rfl settled
  have served : ((acquire (Memory.driver .plain) .default).run (.ofScript .none)).ending? =
      some (.returned (.ok 0)) := rfl
  rw [served] at ending
  cases ending
  exact ⟨report, elapsed, last, course, shaped.1⟩

end DriverCompat
