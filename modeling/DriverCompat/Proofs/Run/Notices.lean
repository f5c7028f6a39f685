import DriverCompat.Proofs.Run.Reports

/-! # What an observer is told of a run

The notifications of a run are the front of one word that fits a report: the start; then the
connection with one notification for each entry, or the failure to connect; then the end. Only an
observer that panics keeps a run from telling the whole word. Nothing more is told after the panic,
which goes on when the session has been closed, and no further check is made before that.
-/

namespace DriverCompat

open Connection

variable {σ κ ω χ α : Type}

namespace Observer

/-- The observer takes each of the notifications without a panic. -/
def Takes (observer : Observer ω) (notifications : List Notification) (seen : ω) : Prop :=
  ∀ before notification after, notifications = before ++ notification :: after →
    (observer.notify notification (observer.follow before seen)).1 = .returned ()

theorem takes_cons_iff {observer : Observer ω} {notification : Notification}
    {rest : List Notification} {seen : ω} :
    observer.Takes (notification :: rest) seen ↔
      (observer.notify notification seen).1 = .returned () ∧
        observer.Takes rest (observer.follow [notification] seen) := by
  constructor
  · intro takes
    refine ⟨takes [] notification rest rfl, ?_⟩
    rintro before next after rfl
    exact takes (notification :: before) next after rfl
  · rintro ⟨took, takes⟩ before next after split
    cases before with
    | nil =>
      obtain ⟨rfl, -⟩ := List.cons.inj split
      exact took
    | cons first before =>
      obtain ⟨rfl, later⟩ := List.cons.inj split
      exact takes before next after later

theorem takes_iff {observer : Observer ω} {notifications : List Notification} {seen : ω} :
    observer.Takes notifications seen ↔ observer.panic? notifications seen = none := by
  induction notifications generalizing seen with
  | nil => exact iff_of_true (fun before _ _ split => by simp at split) rfl
  | cons notification rest ih =>
    rw [takes_cons_iff, ih]
    rcases observer.returned_or_panicked notification seen with took | ⟨payload, panicked⟩
    · rw [panic?_cons_returned took]
      exact and_iff_right took
    · rw [panic?_cons_panicked panicked, panicked]
      simp

section Alike

variable {Seen : ω → χ → Prop} {observer : Observer ω} {other : Observer χ}

theorem Simulates.step (alike : observer.Simulates Seen other) (notification : Notification)
    {seen : ω} {seen' : χ} (same : Seen seen seen') :
    (observer.notify notification seen).1 = (other.notify notification seen').1 ∧
      Seen (observer.follow [notification] seen) (other.follow [notification] seen') :=
  alike notification seen seen' same

theorem Simulates.heard_eq (alike : observer.Simulates Seen other)
    (notifications : List Notification) {seen : ω} {seen' : χ} (same : Seen seen seen') :
    observer.heard notifications seen = other.heard notifications seen' := by
  induction notifications generalizing seen seen' with
  | nil => rfl
  | cons notification rest ih =>
    obtain ⟨ending, after⟩ := alike.step notification same
    rcases observer.returned_or_panicked notification seen with took | ⟨payload, panicked⟩
    · rw [heard_cons_returned took, heard_cons_returned (ending ▸ took), ih after]
    · rw [heard_cons_panicked panicked, heard_cons_panicked (ending ▸ panicked)]

theorem Simulates.panic?_eq (alike : observer.Simulates Seen other)
    (notifications : List Notification) {seen : ω} {seen' : χ} (same : Seen seen seen') :
    observer.panic? notifications seen = other.panic? notifications seen' := by
  induction notifications generalizing seen seen' with
  | nil => rfl
  | cons notification rest ih =>
    obtain ⟨ending, after⟩ := alike.step notification same
    rcases observer.returned_or_panicked notification seen with took | ⟨payload, panicked⟩
    · rw [panic?_cons_returned took, panic?_cons_returned (ending ▸ took), ih after]
    · rw [panic?_cons_panicked panicked, panic?_cons_panicked (ending ▸ panicked)]

theorem Simulates.ending_eq (alike : observer.Simulates Seen other)
    (notifications : List Notification) {seen : ω} {seen' : χ} (same : Seen seen seen')
    (value : α) :
    observer.ending notifications seen value = other.ending notifications seen' value := by
  rw [ending, alike.panic?_eq notifications same, ending]

end Alike

/-- A recorder that is told everything first makes no difference to an observer. -/
theorem recorder_followedBy_simulates (observer : Observer ω) :
    (recorder.followedBy observer).Simulates (fun both seen => both.2 = seen) observer := by
  rintro notification ⟨told, seen⟩ _ rfl
  exact ⟨rfl, rfl⟩

section Recorder

variable (observer : Observer ω) (notifications told : List Notification) (seen : ω)

theorem follow_recorder_followedBy :
    (recorder.followedBy observer).follow notifications (told, seen) =
      (told ++ notifications, observer.follow notifications seen) := by
  induction notifications generalizing told seen with
  | nil => rw [List.append_nil]; rfl
  | cons notification rest ih =>
    change (recorder.followedBy observer).follow rest (told ++ [notification], _) = _
    rw [ih, List.append_assoc, List.singleton_append]
    rfl

theorem heard_recorder_followedBy :
    (recorder.followedBy observer).heard notifications (told, seen) =
      observer.heard notifications seen :=
  observer.recorder_followedBy_simulates.heard_eq notifications rfl

theorem ending_recorder_followedBy (value : α) :
    (recorder.followedBy observer).ending notifications (told, seen) value =
      observer.ending notifications seen value :=
  observer.recorder_followedBy_simulates.ending_eq notifications rfl value

/-- The recorder has what the observer has heard. -/
theorem hear_recorder_followedBy :
    (recorder.followedBy observer).hear notifications (told, seen) =
      (told ++ observer.heard notifications seen, observer.hear notifications seen) := by
  rw [hear, heard_recorder_followedBy, follow_recorder_followedBy, hear]

end Recorder

end Observer

/-- The notifications of a run in order, including one at which the observer panics. -/
def runNotices (driver : Driver σ κ) (config : Config) (observer : Observer ω) (state : σ)
    (seen : ω) : List Notification :=
  ((compatibilityRun driver config (Observer.recorder.followedBy observer)).run
    (state, ([], seen))).state.2.1

@[simp] theorem state_parting {τ : Type} (observer : Observer ω) (seen : ω)
    (told rest : List Notification) (report : Report) (elapsed : Nat)
    (closed : Response Observation) (state : τ) :
    (parting observer seen told rest report elapsed closed state).state.1 = state := by
  rcases closed with ⟨delay, _ | _⟩ | _ <;> rfl

/-- The end of a run is not about a check. -/
theorem checksIn_heard_finish (observer : Observer ω) (notifications : List Notification)
    (report : Report) (seen : ω) :
    checksIn (observer.heard (notifications ++ [.finish report]) seen) =
      checksIn (observer.heard notifications seen) := by
  cases taken : observer.panic? notifications seen with
  | none =>
    have last :
        checksIn (observer.heard [.finish report] (observer.follow notifications seen)) = 0 := by
      rcases observer.returned_or_panicked (.finish report)
        (observer.follow notifications seen) with
        took | ⟨payload, panicked⟩
      · rw [Observer.heard_cons_returned took]
        rfl
      · rw [Observer.heard_cons_panicked panicked]
        rfl
    rw [Observer.heard_append_of_taken taken, Observer.heard_of_taken taken, checksIn,
      List.countP_append]
    exact congrArg (_ + ·) last
  | some payload => rw [Observer.heard_append_of_panicked taken]

/-- What there is to tell fits a report, which the run returns unless the observer panics; and the
checks that are made are those that the observer hears of. -/
theorem Watched.told {config : Config} {observer : Observer ω} {seen : ω}
    {acquired : Option (Ending (Except Failure κ))}
    {course : Course ((σ × List (Exchange κ)) × ω) Report}
    (watched : Watched config observer seen acquired course) (settled : Settled course.state.1.2) :
    ∃ report middle elapsed attempt segments closing,
      Told report middle ∧
      course = .ended elapsed (observer.ending (middle ++ [.finish report]) seen report)
        (course.state.1, observer.hear (middle ++ [.finish report]) seen) ∧
      course.state.1.2 = attempt ++ segments.flatten ++ closing ∧
      Phases config
        (Check.all.take (checksIn (observer.heard (middle ++ [.finish report]) seen)))
        attempt segments closing := by
  obtain ⟨connect, probe, close⟩ := settled
  cases watched with
  | @refused exchanges elapsed failure after approach =>
    refine ⟨_, _, elapsed, exchanges, [], [], .unconnected failure, rfl, ?_, .of_refused approach⟩
    rw [List.flatten_nil, List.append_nil, List.append_nil]
    rfl
  | @rejected exchanges elapsed session failure closed after approach =>
    rw [state_parting] at close ⊢
    obtain ⟨delay, answer, rfl⟩ : closed.Returns :=
      close (.call session .close closed) List.mem_concat_self trivial
    refine ⟨_, _, elapsed + delay, exchanges, [],
      [.call session .close (.after delay (.returned answer))], .unconnected failure, rfl, ?_,
      .of_rejected approach _⟩
    rw [List.flatten_nil, List.append_nil]
  | @served exchanges elapsed session segments made told closed after approach possible announced
      heard =>
    rw [state_parting] at close ⊢
    obtain ⟨delay, answer, rfl⟩ : closed.Returns :=
      close (.call session .close closed) List.mem_concat_self trivial
    refine ⟨reportOf config segments, told, _, exchanges, made, _,
      announced ▸ .checked (names_reportOf possible), rfl, rfl, .of_served approach ?_ _⟩
    rw [checksIn_heard_finish, heard]
    exact List.forall₂_take _ possible
  | panicked approach =>
    cases approach with
    | connectPanicked _ _ => exact absurd ⟨_, _, rfl⟩ (connect _ rfl)
    | probePanicked _ _ => exact absurd ⟨_, _, rfl⟩ (probe _ rfl)

section Recorded

variable (driver : Driver σ κ) (config : Config) (observer : Observer ω) (state : σ) (seen : ω)

/-- The course of a run with a journal whose notifications are recorded. -/
def recordedCourse : Course ((σ × List (Exchange κ)) × (List Notification × ω)) Report :=
  (compatibilityRun driver.journaled config (Observer.recorder.followedBy observer)).run
    ((state, []), ([], seen))

theorem recordedCourse_alike :
    (recordedCourse driver config observer state seen).Alike
      (Paired (fun state plain => state.1 = plain) fun both seen => both.2 = seen)
      ((compatibilityRun driver config observer).run (state, seen)) :=
  compatibilityRun_paired driver.journaled_simulates config observer.recorder_followedBy_simulates
    none ((state, []), ([], seen)) (state, seen) ⟨rfl, rfl⟩

theorem journal_recordedCourse :
    (recordedCourse driver config observer state seen).state.1.2 =
      runTrace driver config observer state seen := by
  have alike := compatibilityRun_paired driver.journaled.simulates_self config
    observer.recorder_followedBy_simulates none ((state, []), ([], seen)) ((state, []), seen)
    ⟨rfl, rfl⟩
  exact congrArg Prod.snd alike.state.1

theorem notices_recordedCourse :
    (recordedCourse driver config observer state seen).state.2.1 =
      runNotices driver config observer state seen := by
  have alike := compatibilityRun_simulates driver.journaled_simulates config
    (Observer.recorder.followedBy observer) none ((state, []), ([], seen)) (state, ([], seen))
    ⟨rfl, rfl⟩
  exact congrArg Prod.fst alike.state.2

/-- The word that a run tells, of which the observer hears some and which determines its end. -/
theorem compatibilityRun_heard
    (settled : Settled (runTrace driver config observer state seen)) :
    ∃ report middle elapsed last, Told report middle ∧
      (compatibilityRun driver config observer).run (state, seen) =
        .ended elapsed
          (observer.ending (.start driver.name config :: middle ++ [.finish report]) seen report)
          last ∧
      runNotices driver config observer state seen =
        observer.heard (.start driver.name config :: middle ++ [.finish report]) seen ∧
      ((runTrace driver config observer state seen = [] ∧
          runNotices driver config observer state seen = [.start driver.name config]) ∨
        ∃ attempt segments closing,
          runTrace driver config observer state seen = attempt ++ segments.flatten ++ closing ∧
          Phases config
            (Check.all.take (checksIn (runNotices driver config observer state seen)))
            attempt segments closing) := by
  have plain := recordedCourse_alike driver config observer state seen
  rw [← journal_recordedCourse] at settled ⊢
  rw [← notices_recordedCourse]
  rcases observer.returned_or_panicked (.start driver.name config) seen with
    took | ⟨payload, panicked⟩
  · have recorded : ((Observer.recorder.followedBy observer).notify (.start driver.name config)
      ([], seen)).1 = .returned () := took
    have watched := compatibilityRun_watched (Observer.recorder.followedBy observer) driver config
      state recorded
    change Watched config _ ([.start driver.name config],
      observer.follow [.start driver.name config] seen) _
      (recordedCourse driver config observer state seen) at watched
    obtain ⟨report, middle, elapsed, attempt, segments, closing, fits, course, parts, phases⟩ :=
      watched.told settled
    rw [Observer.ending_recorder_followedBy, Observer.hear_recorder_followedBy] at course
    rw [Observer.heard_recorder_followedBy] at phases
    have notices : (recordedCourse driver config observer state seen).state.2.1 =
        observer.heard (.start driver.name config :: middle ++ [.finish report]) seen := by
      rw [course]
      exact (Observer.heard_cons_returned took _).symm
    rw [course] at plain
    obtain ⟨last, ended, -⟩ := plain.ended_of
    rw [← Observer.ending_cons_returned took] at ended
    refine ⟨report, middle, elapsed, last, fits, ended, notices,
      .inr ⟨attempt, segments, closing, parts, ?_⟩⟩
    rw [notices, List.cons_append, Observer.heard_cons_returned took,
      checksIn_of_not_check (.start driver.name config) Bool.false_ne_true]
    exact phases
  · have recorded : ((Observer.recorder.followedBy observer).notify (.start driver.name config)
      ([], seen)).1 = .panicked payload := panicked
    have course : recordedCourse driver config observer state seen = _ :=
      compatibilityRun_unstarted _ driver.journaled config (state, []) recorded
    rw [course]
    -- Nothing but the start is heard, whatever there would have been to tell.
    have ended := compatibilityRun_unstarted observer driver config state panicked
    rw [← Observer.ending_cons_panicked panicked] at ended
    exact ⟨_, _, 0, _, .unconnected (.driver ""), ended,
      (Observer.heard_cons_panicked panicked _).symm, .inl ⟨rfl, rfl⟩⟩

end Recorded

/-- The notifications of a run that is settled but for its observer are the front of one word, which
fits a report: a failure to connect is the text of its only entry, and what is told of a check is
the entry under its number. The run returns that report exactly if the whole word is delivered, that
is, if the observer has taken each notification of it. A panic of the observer comes with the last
notification and is how the run ends, and it ends in no other panic; the checks whose calls were
made are those that the observer was told of, and a session that was opened has been closed once. -/
theorem compatibilityRun_notices (driver : Driver σ κ) (config : Config) (observer : Observer ω)
    (state : σ) (seen : ω) {journal : List (Exchange κ)} {notices : List Notification}
    (run : runTrace driver config observer state seen = journal)
    (told : runNotices driver config observer state seen = notices) (settled : Settled journal) :
    ∃ report middle word elapsed ending last,
      Told report middle ∧ word = .start driver.name config :: middle ++ [.finish report] ∧
      (∀ failure, .connectFailed failure ∈ middle →
        report = ⟨0, 1, [⟨"connect", .fail, some failure.message⟩]⟩) ∧
      (∀ index entry, .check index entry ∈ middle →
        1 ≤ index ∧ report.entries[index - 1]? = some entry) ∧
      (compatibilityRun driver config observer).run (state, seen) = .ended elapsed ending last ∧
      notices <+: word ∧
      ((∃ returned, ending = .returned returned) ↔ notices = word ∧ observer.Takes word seen) ∧
      (∀ returned, ending = .returned returned → returned = report) ∧
      (∀ before notification after payload, notices = before ++ notification :: after →
        (observer.notify notification (observer.follow before seen)).1 = .panicked payload →
        after = [] ∧ ending = .panicked payload) ∧
      (∀ payload, ending = .panicked payload →
        ∃ before notification, notices = before ++ [notification] ∧
          (observer.notify notification (observer.follow before seen)).1 = .panicked payload) ∧
      ((journal = [] ∧ notices = [.start driver.name config]) ∨
        ∃ attempt segments closing, journal = attempt ++ segments.flatten ++ closing ∧
          Phases config (Check.all.take (checksIn notices)) attempt segments closing) ∧
      ∀ delay session, .connect config (.after delay (.returned (.ok session))) ∈ journal →
        delay ≤ config.timeoutMs.toNat →
        ∃ before closed, journal = before ++ [.call session .close closed] ∧
          ∀ session closed, .call session .close closed ∉ before := by
  subst run told
  obtain ⟨report, middle, elapsed, last, fits, course, notices, phases⟩ :=
    compatibilityRun_heard driver config observer state seen settled
  generalize same : Notification.start driver.name config :: middle ++ [.finish report] = word
    at course notices
  refine ⟨report, middle, word, elapsed, _, last, fits, same.symm,
    fun _ member => fits.report_of_connectFailed member,
    fun _ _ member => fits.entry_of_check member, course, ?_, ?_, ?_, ?_, ?_, phases, ?_⟩
  · rw [notices]
    exact observer.heard_prefix word seen
  · rw [notices, Observer.takes_iff]
    constructor
    · rintro ⟨returned, ended⟩
      have taken := (Observer.ending_eq_returned_iff.mp ended).1
      exact ⟨Observer.heard_of_taken taken, taken⟩
    · rintro ⟨-, taken⟩
      exact ⟨report, Observer.ending_of_taken taken report⟩
  · intro returned ended
    exact (Observer.ending_eq_returned_iff.mp ended).2.symm
  · intro before notification after payload split panicked
    rw [notices] at split
    obtain ⟨none, panics⟩ := Observer.heard_ends_in_panic split panicked
    exact ⟨none, Observer.ending_of_panicked panics report⟩
  · intro payload ended
    rw [notices]
    exact Observer.exists_of_panic? (Observer.ending_eq_panicked_iff.mp ended)
  · intro delay session opened inTime
    rcases phases with ⟨empty, -⟩ | ⟨attempt, segments, closing, parts, phases⟩
    · rw [empty] at opened
      cases opened
    · rw [parts] at opened ⊢
      exact phases.closes opened inTime

/-- An observer that panics over the third check. -/
def impatient : Observer Unit where
  notify notification seen :=
    match notification with
    | .check 3 _ => (.panicked (.text "enough"), seen)
    | _ => (.returned (), seen)

/-- Of the three checks that the observer is told of, the second one makes two calls. They stand
between the probe and the one close that comes before the panic goes on. -/
theorem compatibilityRun_notices_impatient :
    ∃ elapsed last,
      (compatibilityRun (Memory.driver .plain) .default impatient).run (.ofScript .none, ()) =
        .ended elapsed (.panicked (.text "enough")) last ∧
      checksIn (runNotices (Memory.driver .plain) .default impatient (.ofScript .none) ()) = 3 ∧
      ∃ before closed, before.length = 6 ∧
        runTrace (Memory.driver .plain) .default impatient (.ofScript .none) () =
          before ++ [.call 0 .close closed] := by
  have settled :
      Settled (runTrace (Memory.driver .plain) .default impatient (.ofScript .none) ()) :=
    ⟨by decide +kernel, by decide +kernel, by decide +kernel⟩
  obtain ⟨report, middle, word, elapsed, ending, last, -, -, -, -, course, -, -, -, panics, -, -,
      closes⟩ :=
    compatibilityRun_notices (Memory.driver .plain) .default impatient (.ofScript .none) () rfl rfl
      settled
  have notices : runNotices (Memory.driver .plain) .default impatient (.ofScript .none) () =
      [.start "memory" .default, .connected, .check 1 (.ofOutcome "ping" .pass),
        .check 2 (.ofOutcome "create-collection" .pass),
        .check 3 (.ofOutcome "insert-one" .pass)] := by
    decide +kernel
  obtain ⟨-, ended⟩ := panics [_, _, _, _] _ [] (.text "enough") notices rfl
  have opened : .connect .default (.after 0 (.returned (.ok 0))) ∈
      runTrace (Memory.driver .plain) .default impatient (.ofScript .none) () :=
    List.mem_of_mem_head? rfl
  obtain ⟨before, closed, split, -⟩ := closes 0 0 opened (Nat.zero_le _)
  have length :
      (runTrace (Memory.driver .plain) .default impatient (.ofScript .none) ()).length = 7 := by
    decide +kernel
  rw [split, List.length_append] at length
  rw [ended] at course
  refine ⟨elapsed, last, course, ?_, before, closed, Nat.succ.inj length, split⟩
  rw [notices]
  rfl

end DriverCompat
