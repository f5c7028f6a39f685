import DriverCompat.Proofs.Run.Acquisition
import DriverCompat.Proofs.Run.CheckSequence

/-! # The ends of a run

A run ends in one of a few ways, which its journal tells apart: no session was opened in time, the
session was rejected and closed, the checks were made and the session closed, or a request outside
the checks panicked. A session that never answers its closing keeps the run waiting. An observer
that panics has a run end in its panic instead, once the session has been closed; one that is calm
is told all there is to tell.
-/

namespace DriverCompat

open Connection

variable {σ τ κ ω : Type}

/-- The checks of a run with these settings. -/
def Config.checks (config : Config) : Checks := ⟨config.collection, config.timeoutMs⟩

/-- What the observer of a run is told that could not connect. -/
def withoutSession (failure : Failure) : List Notification :=
  [.connectFailed failure, .finish (connectFailure failure)]

/-- The report of checks that have left some stretches of exchanges. -/
def reportOf (config : Config) (segments : List (List (Exchange κ))) : Report :=
  Report.empty.recordAll (config.checks.results Check.all segments)

theorem announced_eq_announcements (config : Config) (segments : List (List (Exchange κ))) :
    config.checks.announced 1 Check.all segments =
      announcements 1 (reportOf config segments).entries := by
  rw [reportOf, Report.entries_recordAll]
  rfl

/-- The course of a run whose session is being closed when an observer has been told something: when
that has been answered, the observer is told the rest, unless it panicked before. -/
def parting (observer : Observer ω) (seen : ω) (told rest : List Notification) (report : Report)
    (elapsed : Nat) (closed : Response Observation) (state : τ) : Course (τ × ω) Report :=
  match closed with
  | .after delay (.returned _) =>
    .ended (elapsed + delay) (observer.ending (told ++ rest) seen report)
      (state, observer.hear (told ++ rest) seen)
  | .after delay (.panicked payload) =>
    .ended (elapsed + delay) (.panicked payload) (state, observer.hear told seen)
  | .never => .unfinished (state, observer.hear told seen)

/-- The courses of a run with a journal from its start on, which the observer has taken. The checks
that are made are those that the observer hears of. -/
inductive Watched (config : Config) (observer : Observer ω) (seen : ω) :
    Option (Ending (Except Failure κ)) → Course ((σ × List (Exchange κ)) × ω) Report → Prop
  | refused {exchanges : List (Exchange κ)} {elapsed : Nat} {failure : Failure} {after : σ}
      (approach : Approach config exchanges elapsed (.refused failure)) :
      Watched config observer seen (some (.returned (.error failure)))
        (.ended elapsed (observer.ending (withoutSession failure) seen (connectFailure failure))
          ((after, exchanges), observer.hear (withoutSession failure) seen))
  | rejected {exchanges : List (Exchange κ)} {elapsed : Nat} {session : κ} {failure : Failure}
      {closed : Response Observation} {after : σ}
      (approach : Approach config exchanges elapsed (.rejected session failure)) :
      Watched config observer seen (closing closed (.returned (.error failure)) ()).ending?
        (parting observer seen [] (withoutSession failure) (connectFailure failure) elapsed closed
          (after, exchanges ++ [.call session .close closed]))
  | served {exchanges : List (Exchange κ)} {elapsed : Nat} {session : κ}
      {segments made : List (List (Exchange κ))} {told : List Notification}
      {closed : Response Observation} {after : σ}
      (approach : Approach config exchanges elapsed (.served session))
      (possible : List.Forall₂ (config.checks.Made session) Check.all segments)
      (announced : told = .connected :: announcements 1 (reportOf config segments).entries)
      (heard : made = segments.take (checksIn (observer.heard told seen))) :
      Watched config observer seen (some (.returned (.ok session)))
        (parting observer seen told [.finish (reportOf config segments)] (reportOf config segments)
          (elapsed + config.checks.time made) closed
          (after, exchanges ++ made.flatten ++ [.call session .close closed]))
  | panicked {exchanges : List (Exchange κ)} {elapsed : Nat} {payload : Payload} {after : σ}
      (approach : Approach config exchanges elapsed (.panicked payload)) :
      Watched config observer seen (some (.panicked payload))
        (.ended elapsed (.panicked payload) ((after, exchanges), seen))

/-- What follows the closing of a session is done unless the observer, or the closing, panicked. -/
theorem bind_of_delayed_closing {α : Type} {observer : Observer ω} {first : Activity (τ × ω) α}
    {second : α → Activity (τ × ω) Report} {elapsed : Nat} {closed : Response Observation}
    {value : α} {report : Report} {told rest : List Notification} {source : τ × ω} {state : τ}
    {seen : ω}
    (course : first none source = Activity.delayed elapsed
      (closing closed (observer.ending told seen value) (state, observer.hear told seen)))
    (concluded : ∀ seen, second value none (state, seen) =
      .ended 0 (observer.ending rest seen report) (state, observer.hear rest seen)) :
    (first >>= second) none source =
      parting observer seen told rest report elapsed closed state := by
  rcases closed with ⟨delay, answer | payload⟩ | _
  · cases taken : observer.panic? told seen with
    | none =>
      rw [Observer.ending_of_taken taken, Observer.hear_of_taken taken] at course
      rw [Activity.bind_returned course, Activity.remaining_none, concluded, parting,
        Observer.ending_append_of_taken taken, Observer.hear_append_of_taken taken]
      rfl
    | some payload =>
      rw [Observer.ending_of_panicked taken] at course
      rw [Activity.bind_panicked course, parting, Observer.ending_append_of_panicked taken,
        Observer.hear_append_of_panicked taken]
  · exact Activity.bind_panicked course
  · exact Activity.bind_unfinished course

section Parts

variable (observer : Observer ω)

theorem finish_heard (report : Report) (state : τ) (seen : ω) :
    (pure report >>= fun report => observer.telling (.finish report) >>= fun _ => pure report :
        Activity (τ × ω) Report) none (state, seen) =
      .ended 0 (observer.ending [.finish report] seen report)
        (state, observer.hear [.finish report] seen) := by
  rw [Activity.pure_bind]
  exact Observer.bind_telling rfl

/-- What follows when no session could be had. -/
theorem withoutSession_heard (failure : Failure) (state : τ) (seen : ω) :
    (observer.telling (.connectFailed failure) >>= fun _ =>
        pure (connectFailure failure) >>= fun report =>
          observer.telling (.finish report) >>= fun _ => pure report :
        Activity (τ × ω) Report) none (state, seen) =
      .ended 0 (observer.ending (withoutSession failure) seen (connectFailure failure))
        (state, observer.hear (withoutSession failure) seen) :=
  Observer.bind_telling (finish_heard observer _ _ _)

theorem runChecks_heard (driver : Driver σ κ) (config : Config) (session : κ) (state : σ)
    (journal : List (Exchange κ)) (seen : ω) :
    ∃ segments made told after, List.Forall₂ (config.checks.Made session) Check.all segments ∧
      told = .connected :: announcements 1 (reportOf config segments).entries ∧
      made = segments.take (checksIn (observer.heard told seen)) ∧
      runChecks driver.journaled config observer session none ((state, journal), seen) =
        .ended (config.checks.time made) (observer.ending told seen (reportOf config segments))
          ((after, journal ++ made.flatten), observer.hear told seen) := by
  obtain ⟨segments, made, after, possible, heard, course⟩ := config.checks.runFrom_heard driver
    observer session 1 Check.all Report.empty state journal (observer.follow [.connected] seen)
  rw [announced_eq_announcements] at heard course
  have telling := observer.telling_apply .connected none (state, journal) seen
  rcases observer.returned_or_panicked .connected seen with took | ⟨payload, panicked⟩
  · refine ⟨segments, made, _, after, possible, rfl, ?_, ?_⟩
    · rw [Observer.heard_cons_returned took, checksIn_of_not_check .connected Bool.false_ne_true,
        heard]
    · rw [took] at telling
      unfold runChecks
      rw [Activity.bind_returned telling, Activity.remaining_none, Activity.delayed_zero,
        Observer.ending_cons_returned took, Observer.hear_cons_returned took]
      exact course
  · refine ⟨segments, [], _, state, possible, rfl, ?_, ?_⟩
    · rw [Observer.heard_cons_panicked panicked]
      rfl
    · rw [panicked] at telling
      unfold runChecks
      rw [Activity.bind_panicked telling, Observer.ending_cons_panicked panicked,
        Observer.hear_cons_panicked panicked, List.flatten_nil, List.append_nil]
      rfl

/-- A run whose observer panics at its start asks nothing of the driver. -/
theorem compatibilityRun_unstarted (driver : Driver σ κ) (config : Config) (state : σ) {seen : ω}
    {payload : Payload}
    (panicked : (observer.notify (.start driver.name config) seen).1 = .panicked payload) :
    (compatibilityRun driver config observer).run (state, seen) =
      .ended 0 (.panicked payload) (state, observer.follow [.start driver.name config] seen) := by
  have telling := observer.telling_apply (.start driver.name config) none state seen
  rw [panicked] at telling
  exact Activity.bind_panicked telling

/-- Every run whose start is taken by its observer has one of these courses. -/
theorem compatibilityRun_watched (driver : Driver σ κ) (config : Config) (state : σ) {seen : ω}
    (took : (observer.notify (.start driver.name config) seen).1 = .returned ()) :
    Watched config observer (observer.follow [.start driver.name config] seen)
      ((acquire driver config).run state).ending?
      ((compatibilityRun driver.journaled config observer).run ((state, []), seen)) := by
  have started := observer.telling_apply (.start driver.name config) none
    (state, ([] : List (Exchange κ))) seen
  rw [took] at started
  generalize observer.follow [.start driver.name config] seen = seen at started ⊢
  obtain ⟨exchanges, elapsed, approached, closed, after, approach, acquired⟩ :=
    acquire_journaled_beside driver config state [] seen
  rw [← ending?_acquire driver config state [] seen, acquired]
  have lent := lending_of_acquired
    (fun session => pure (runChecks driver.journaled config observer session)) acquired
  unfold compatibilityRun Activity.run
  rw [show driver.journaled.name = driver.name from rfl, Activity.bind_returned started,
    Activity.remaining_none, Activity.delayed_zero]
  rw [List.nil_append] at lent
  rcases approached with failure | ⟨session, failure⟩ | session | payload
  · simp only [Approached.course, List.append_nil] at lent
    have concluded := withoutSession_heard observer failure (after, exchanges) seen
    rw [Activity.bind_done lent concluded]
    exact .refused approach
  · have rejected : lending (driver.journaled.beside ω) config
        (fun session => pure (runChecks driver.journaled config observer session)) none
          ((state, []), seen) =
        Activity.delayed elapsed (closing closed (observer.ending [] seen (.error failure))
          ((after, exchanges ++ [.call session .close closed]), observer.hear [] seen)) := lent
    have concluded := withoutSession_heard observer failure
      (after, exchanges ++ [.call session .close closed])
    rw [bind_of_delayed_closing rejected concluded, Approached.ending?_rejected]
    exact .rejected approach
  · obtain ⟨segments, made, told, later, possible, announced, heard, checked⟩ :=
      runChecks_heard observer driver config session after exchanges seen
    obtain ⟨closed, last, released⟩ := release_journaled_beside driver session later
      (exchanges ++ made.flatten) (observer.hear told seen)
    simp only [Approached.course, List.append_nil, Activity.pure_bind] at lent
    rw [serving_of_ended checked released, Activity.delayed_delayed, Observer.map_ending] at lent
    have concluded := finish_heard observer (reportOf config segments)
      (last, exchanges ++ made.flatten ++ [.call session .close closed])
    rw [bind_of_delayed_closing lent concluded]
    exact .served approach possible announced heard
  · simp only [Approached.course, List.append_nil] at lent
    rw [Activity.bind_panicked lent]
    exact .panicked approach

end Parts

/-- The course of a run whose session is being closed: when that has been answered, the observer is
told what there still is to tell. -/
def concluding (observer : Observer ω) (elapsed : Nat) (closed : Response Observation)
    (report : Report) (rest : List Notification) (state : τ) (seen : ω) : Course (τ × ω) Report :=
  match closed with
  | .after delay (.returned _) =>
    .ended (elapsed + delay) (.returned report) (state, observer.follow rest seen)
  | .after delay (.panicked payload) => .ended (elapsed + delay) (.panicked payload) (state, seen)
  | .never => .unfinished (state, seen)

@[simp] theorem state_concluding (observer : Observer ω) (elapsed : Nat)
    (closed : Response Observation) (report : Report) (rest : List Notification) (state : τ)
    (seen : ω) : (concluding observer elapsed closed report rest state seen).state.1 = state := by
  rcases closed with ⟨delay, _ | _⟩ | _ <;> rfl

/-- The courses of a run with a journal, by how the acquisition of its session ends. -/
inductive Exits (name : String) (config : Config) (observer : Observer ω) (seen : ω) :
    Option (Ending (Except Failure κ)) → Course ((σ × List (Exchange κ)) × ω) Report → Prop
  | refused {exchanges : List (Exchange κ)} {elapsed : Nat} {failure : Failure} {after : σ}
      (approach : Approach config exchanges elapsed (.refused failure)) :
      Exits name config observer seen (some (.returned (.error failure)))
        (.ended elapsed (.returned (connectFailure failure)) ((after, exchanges),
          observer.follow (.start name config :: withoutSession failure) seen))
  | rejected {exchanges : List (Exchange κ)} {elapsed : Nat} {session : κ} {failure : Failure}
      {closed : Response Observation} {after : σ}
      (approach : Approach config exchanges elapsed (.rejected session failure)) :
      Exits name config observer seen (closing closed (.returned (.error failure)) ()).ending?
        (concluding observer elapsed closed (connectFailure failure) (withoutSession failure)
          (after, exchanges ++ [.call session .close closed])
          (observer.follow [.start name config] seen))
  | served {exchanges : List (Exchange κ)} {elapsed : Nat} {session : κ}
      {segments : List (List (Exchange κ))} {closed : Response Observation} {after : σ}
      (approach : Approach config exchanges elapsed (.served session))
      (made : List.Forall₂ (config.checks.Made session) Check.all segments) :
      Exits name config observer seen (some (.returned (.ok session)))
        (concluding observer (elapsed + config.checks.time segments) closed
          (reportOf config segments) [.finish (reportOf config segments)]
          (after, exchanges ++ segments.flatten ++ [.call session .close closed])
          (observer.follow
            ([.start name config, .connected] ++ announcements 1 (reportOf config segments).entries)
            seen))
  | panicked {exchanges : List (Exchange κ)} {elapsed : Nat} {payload : Payload} {after : σ}
      (approach : Approach config exchanges elapsed (.panicked payload)) :
      Exits name config observer seen (some (.panicked payload)) (.ended elapsed (.panicked payload)
        ((after, exchanges), observer.follow [.start name config] seen))

section Calm

variable {observer : Observer ω} (calm : observer.NeverPanics)
include calm

theorem parting_calm (seen : ω) (told rest : List Notification) (report : Report) (elapsed : Nat)
    (closed : Response Observation) (state : τ) :
    parting observer seen told rest report elapsed closed state =
      concluding observer elapsed closed report rest state (observer.follow told seen) := by
  have first := calm.panic?_eq_none told seen
  have all := calm.panic?_eq_none (told ++ rest) seen
  rcases closed with ⟨delay, _ | _⟩ | _
  · rw [parting, concluding, Observer.ending_of_taken all, Observer.hear_of_taken all,
      Observer.follow_append]
  · rw [parting, concluding, Observer.hear_of_taken first]
  · rw [parting, concluding, Observer.hear_of_taken first]

/-- A calm observer hears of all checks, so all of them are made. -/
theorem Watched.exits {name : String} {config : Config} {seen : ω}
    {acquired : Option (Ending (Except Failure κ))}
    {course : Course ((σ × List (Exchange κ)) × ω) Report}
    (watched :
      Watched config observer (observer.follow [.start name config] seen) acquired course) :
    Exits name config observer seen acquired course := by
  cases watched with
  | @refused exchanges elapsed failure after approach =>
    have taken := calm.panic?_eq_none (withoutSession failure)
      (observer.follow [.start name config] seen)
    rw [Observer.ending_of_taken taken, Observer.hear_of_taken taken, ← Observer.follow_append]
    exact .refused approach
  | rejected approach =>
    rw [parting_calm calm]
    exact .rejected approach
  | @served exchanges elapsed session segments made told closed after approach possible announced
      heard =>
    rw [Observer.heard_of_taken (calm.panic?_eq_none _ _), announced] at heard
    have all : made = segments := by
      rw [heard, checksIn_of_not_check .connected Bool.false_ne_true, ← announced_eq_announcements,
        config.checks.checksIn_announced 1 possible.length_eq, List.take_length]
    rw [parting_calm calm, ← Observer.follow_append, announced, all]
    exact .served approach possible
  | panicked approach => exact .panicked approach

/-- Every run has one of these courses. -/
theorem compatibilityRun_exits (driver : Driver σ κ) (config : Config) (state : σ) (seen : ω) :
    Exits driver.name config observer seen ((acquire driver config).run state).ending?
      ((compatibilityRun driver.journaled config observer).run ((state, []), seen)) :=
  (compatibilityRun_watched observer driver config state (calm _ _)).exits calm

end Calm

end DriverCompat
