import DriverCompat.Memory.Driver
import DriverCompat.Proofs.Run.Reports

/-! # What an acquisition answers

An acquisition answers with a session exactly if the driver hands that out and the session answers a
ping, both within one limit. Otherwise it answers with a failure to reach the target, which is told
by the connection if that came to nothing, and else by the probe. In the first case no session is
probed, and in the second one the session is closed once, whatever it answers to that.
-/

namespace DriverCompat

variable {σ κ α β : Type}

/-- The failure that is made of a request which came to nothing within a limit, some time of which
had passed: a late response is a timeout, a failure to reach the target is told as it is, and any
other failure becomes the text of one. -/
inductive Response.FailsWith (limit elapsed : Nat) : Response α → Failure → Prop
  | late {response : Response α} (late : response.Late (limit - elapsed)) :
      FailsWith limit elapsed response (.timeout s!"no response from server within {limit} ms")
  | unreachable {delay : Nat} {failure : Failure} (inTime : elapsed + delay ≤ limit)
      (unreachable : failure.isConnectionFailure = true) :
      FailsWith limit elapsed (.after delay (.returned (.error failure))) failure
  | wrapped {delay : Nat} {failure : Failure} (inTime : elapsed + delay ≤ limit)
      (other : failure.isConnectionFailure = false) :
      FailsWith limit elapsed (.after delay (.returned (.error failure)))
        (.connection failure.message)

namespace Response

variable {limit elapsed delay : Nat} {response : Response α} {failure : Failure}

theorem failsWith_asConnectionFailure (inTime : elapsed + delay ≤ limit) (failure : Failure) :
    (after delay (.returned (.error failure)) : Response α).FailsWith limit elapsed
      failure.asConnectionFailure := by
  unfold Failure.asConnectionFailure
  split
  · rename_i unreachable
    exact .unreachable inTime unreachable
  · rename_i other
    exact .wrapped inTime (Bool.not_eq_true _ ▸ other)

theorem FailsWith.isConnectionFailure (fails : response.FailsWith limit elapsed failure) :
    failure.isConnectionFailure = true := by
  cases fails with
  | late late => rfl
  | unreachable inTime unreachable => exact unreachable
  | wrapped inTime other => rfl

/-- No failure is made of a response in time that is none. -/
theorem FailsWith.late_of_ok {value : α}
    (fails : (after delay (.returned (.ok value))).FailsWith limit elapsed failure) :
    limit < elapsed + delay := by
  cases fails with
  | late late =>
    change limit - elapsed < delay at late
    omega

theorem FailsWith.unique {other : Failure} (fails : response.FailsWith limit elapsed failure)
    (again : response.FailsWith limit elapsed other) : failure = other := by
  have overdue {delay : Nat} {ending : Ending (Except Failure α)}
      (late : (after delay ending).Late (limit - elapsed)) : ¬ elapsed + delay ≤ limit := by
    change limit - elapsed < delay at late
    omega
  cases fails with
  | late late =>
    cases again with
    | late _ => rfl
    | unreachable inTime _ => exact absurd inTime (overdue late)
    | wrapped inTime _ => exact absurd inTime (overdue late)
  | unreachable inTime unreachable =>
    cases again with
    | late late => exact absurd inTime (overdue late)
    | unreachable _ _ => rfl
    | wrapped _ reached => exact absurd (unreachable.symm.trans reached) (by decide)
  | wrapped inTime reached =>
    cases again with
    | late late => exact absurd inTime (overdue late)
    | unreachable _ unreachable => exact absurd (unreachable.symm.trans reached) (by decide)
    | wrapped _ _ => rfl

theorem map_eq_failed_iff {f : α → β} :
    response.map f = after delay (.returned (.error failure)) ↔
      response = after delay (.returned (.error failure)) := by
  rcases response with ⟨_, (_ | _) | _⟩ | _ <;> simp [map, Ending.map, Except.map]

theorem exists_of_map_eq_ok {f : α → β} {value : β}
    (same : response.map f = after delay (.returned (.ok value))) :
    ∃ reply, response = after delay (.returned (.ok reply)) ∧ f reply = value := by
  rcases response with ⟨more, (_ | reply) | _⟩ | _ <;> cases same
  exact ⟨reply, rfl, rfl⟩

end Response

namespace Connection

variable {driver : Driver σ κ} {config : Config} {state : σ} {exchanges : List (Exchange κ)}
  {elapsed : Nat}

theorem Attempted.of_connection {response : Response κ}
    (attempted : Attempted driver config state [.connect config response]) :
    response = (driver.connect config state).response := by
  cases attempted with
  | connection => rfl

theorem Attempted.of_probe {response : Response κ} {session : κ} {probe : Response Observation}
    (attempted : Attempted driver config state
      [.connect config response, .call session .ping probe]) :
    ∃ delay opened, response = .after delay (.returned (.ok session)) ∧
      (driver.connect config state).answer = some ⟨delay, .returned (.ok session), opened⟩ ∧
      probe = (driver.call session .ping opened).response.map (Call.observation .ping) := by
  cases attempted with
  | probe answered => exact ⟨_, _, rfl, answered, rfl⟩

/-- The driver hands out a session that answers a ping, and the two delays are together within the
limit. -/
def Serves (driver : Driver σ κ) (config : Config) (state : σ) (session : κ) : Prop :=
  ∃ delay opened more after,
    (driver.connect config state).answer = some ⟨delay, .returned (.ok session), opened⟩ ∧
    (driver.call session .ping opened).answer = some ⟨more, .returned (.ok ()), after⟩ ∧
    delay + more ≤ config.timeoutMs.toNat

/-- The answer of an acquisition with all requests that were made for it. -/
inductive Answered (driver : Driver σ κ) (config : Config) (state : σ) :
    Except Failure κ → List (Exchange κ) → Prop
  | served {delay more : Nat} {session : κ} {opened after : σ}
      (answered :
        (driver.connect config state).answer = some ⟨delay, .returned (.ok session), opened⟩)
      (probed : (driver.call session .ping opened).answer = some ⟨more, .returned (.ok ()), after⟩)
      (inTime : delay + more ≤ config.timeoutMs.toNat) :
      Answered driver config state (.ok session)
        [.connect config (.after delay (.returned (.ok session))),
          .call session .ping (.after more (.returned (.ok .acknowledged)))]
  | unopened {failure : Failure}
      (fails : (driver.connect config state).response.FailsWith config.timeoutMs.toNat 0 failure) :
      Answered driver config state (.error failure)
        [.connect config (driver.connect config state).response]
  | unprobed {delay : Nat} {session : κ} {opened : σ} {failure : Failure}
      (closed : Response Observation) (inTime : delay ≤ config.timeoutMs.toNat)
      (answered :
        (driver.connect config state).answer = some ⟨delay, .returned (.ok session), opened⟩)
      (fails :
        (driver.call session .ping opened).response.FailsWith config.timeoutMs.toNat delay
          failure) :
      Answered driver config state (.error failure)
        [.connect config (.after delay (.returned (.ok session))),
          .call session .ping
            ((driver.call session .ping opened).response.map (Call.observation .ping)),
          .call session .close closed]

namespace Answered

variable {answer other : Except Failure κ} {journal again : List (Exchange κ)}

theorem isConnectionFailure {failure : Failure}
    (answered : Answered driver config state (.error failure) journal) :
    failure.isConnectionFailure = true := by
  cases answered with
  | unopened fails => exact fails.isConnectionFailure
  | unprobed _ _ _ fails => exact fails.isConnectionFailure

/-- A session that is handed out in time leaves no failure to its connection. -/
theorem not_unopened {delay : Nat} {session : κ} {opened : σ} {failure : Failure}
    (inTime : delay ≤ config.timeoutMs.toNat)
    (answered :
      (driver.connect config state).answer = some ⟨delay, .returned (.ok session), opened⟩) :
    ¬ (driver.connect config state).response.FailsWith config.timeoutMs.toNat 0 failure := by
  rw [Reaction.response_eq_after_iff.mpr ⟨opened, answered⟩]
  intro fails
  have late := fails.late_of_ok
  omega

theorem not_unprobed {delay : Nat} {session other : κ} {opened : σ} {failure : Failure}
    (serves : Serves driver config state other)
    (answered :
      (driver.connect config state).answer = some ⟨delay, .returned (.ok session), opened⟩) :
    ¬ (driver.call session .ping opened).response.FailsWith config.timeoutMs.toNat delay
      failure := by
  obtain ⟨_, _, more, after, first, second, inTime⟩ := serves
  cases answered.symm.trans first
  rw [Reaction.response_eq_after_iff.mpr ⟨after, second⟩]
  intro fails
  have late := fails.late_of_ok
  omega

/-- The connection and the probe determine the answer, whatever becomes of the closing. -/
theorem unique (answered : Answered driver config state answer journal)
    (also : Answered driver config state other again) : answer = other := by
  cases answered with
  | served first second inTime =>
    cases also with
    | served same _ _ =>
      cases first.symm.trans same
      rfl
    | unopened fails => exact absurd fails (not_unopened (by omega) first)
    | unprobed _ _ same fails =>
      exact absurd fails (not_unprobed ⟨_, _, _, _, first, second, inTime⟩ same)
  | unopened fails =>
    cases also with
    | served first _ inTime => exact absurd fails (not_unopened (by omega) first)
    | unopened others => rw [fails.unique others]
    | unprobed _ inTime first _ => exact absurd fails (not_unopened inTime first)
  | unprobed _ inTime first fails =>
    cases also with
    | served same second inTime =>
      exact absurd fails (not_unprobed ⟨_, _, _, _, same, second, inTime⟩ first)
    | unopened others => exact absurd others (not_unopened inTime first)
    | unprobed _ _ same others =>
      cases first.symm.trans same
      rw [fails.unique others]

theorem ok_iff_serves {session : κ} (answered : Answered driver config state answer journal) :
    answer = .ok session ↔ Serves driver config state session := by
  constructor
  · rintro rfl
    cases answered with
    | served first second inTime => exact ⟨_, _, _, _, first, second, inTime⟩
  · rintro ⟨_, _, _, _, first, second, inTime⟩
    exact answered.unique (.served first second inTime)

end Answered

theorem Approach.served_answered {session : κ}
    (approach : Approach config exchanges elapsed (.served session))
    (attempted : Attempted driver config state exchanges) :
    Answered driver config state (.ok session) exchanges := by
  cases approach with
  | probed inTime =>
    obtain ⟨delay, opened, same, answered, probe⟩ := attempted.of_probe
    cases same
    obtain ⟨⟨⟩, replied, rfl⟩ := Response.exists_of_map_eq_ok probe.symm
    obtain ⟨after, second⟩ := Reaction.response_eq_after_iff.mp replied
    exact .served answered second inTime

theorem Approach.refused_answered {failure : Failure}
    (approach : Approach config exchanges elapsed (.refused failure))
    (attempted : Attempted driver config state exchanges) :
    Answered driver config state (.error failure) exchanges := by
  cases approach with
  | connectLate late =>
    obtain rfl := attempted.of_connection
    exact .unopened (.late late)
  | connectFailed failure inTime =>
    rw [attempted.of_connection]
    apply Answered.unopened
    rw [← attempted.of_connection]
    exact Response.failsWith_asConnectionFailure (by omega) failure

theorem Approach.rejected_answered {session : κ} {failure : Failure}
    (approach : Approach config exchanges elapsed (.rejected session failure))
    (attempted : Attempted driver config state exchanges) (closed : Response Observation) :
    Answered driver config state (.error failure)
      (exchanges ++ [.call session .close closed]) := by
  cases approach with
  | probeLate inTime late =>
    obtain ⟨delay, opened, same, answered, rfl⟩ := attempted.of_probe
    cases same
    rw [Response.late_map] at late
    exact .unprobed closed inTime answered (.late late)
  | probeFailed failure inTime =>
    obtain ⟨delay, opened, same, answered, probe⟩ := attempted.of_probe
    cases same
    rw [probe]
    apply Answered.unprobed closed (by omega) answered
    rw [Response.map_eq_failed_iff.mp probe.symm]
    exact Response.failsWith_asConnectionFailure inTime failure

/-- The course of an acquisition that is settled: it ends with an answer. -/
theorem Approach.acquired_answered {approached : Approached κ} {spent : Nat} {last : σ}
    {closed : Response Observation} {course : Course (σ × List (Exchange κ)) (Except Failure κ)}
    (approach : Approach config exchanges spent approached)
    (attempted : Attempted driver config state exchanges)
    (acquired : course = approached.acquired spent closed fun further =>
      (last, exchanges ++ further))
    (settled : Settled course.state.2) :
    ∃ answer elapsed, course = .ended elapsed (.returned answer) course.state ∧
      Answered driver config state answer course.state.2 := by
  obtain ⟨connect, probe, close⟩ := settled
  subst acquired
  rcases approached with failure | ⟨session, failure⟩ | session | payload
  · refine ⟨_, _, rfl, ?_⟩
    have answered := approach.refused_answered attempted
    rw [← List.append_nil exchanges] at answered
    exact answered
  · have journal : (((Approached.rejected session failure).acquired spent closed fun further =>
        (last, exchanges ++ further)).state).2 = exchanges ++ [.call session .close closed] := by
      rcases closed with ⟨_, _ | _⟩ | _ <;> rfl
    rw [journal] at close ⊢
    obtain ⟨delay, answer, rfl⟩ : closed.Returns :=
      close (.call session .close closed) List.mem_concat_self trivial
    exact ⟨_, _, rfl, approach.rejected_answered attempted _⟩
  · refine ⟨_, _, rfl, ?_⟩
    have answered := approach.served_answered attempted
    rw [← List.append_nil exchanges] at answered
    exact answered
  · cases approach with
    | connectPanicked _ _ => exact absurd ⟨_, _, rfl⟩ (connect _ rfl)
    | probePanicked _ _ => exact absurd ⟨_, _, rfl⟩ (probe _ rfl)

/-- An acquisition whose connection and probe do not panic, and whose closing ends, answers with a
session exactly if the driver serves that. The session has been probed once then and not been
closed. Otherwise it answers with a failure to reach the target. That is made of the connection, and
no more has been asked; or of the probe, and the session has been closed once. What was answered to
the closing does not count, as the connection and the probe determine the answer. -/
theorem acquire_answered (driver : Driver σ κ) (config : Config) (state : σ)
    {journal : List (Exchange κ)}
    (run : ((acquire driver.journaled config).run (state, [])).state.2 = journal)
    (settled : Settled journal) :
    ∃ answer elapsed after,
      (acquire driver config).run state = .ended elapsed (.returned answer) after ∧
      (∀ session, answer = .ok session ↔ Serves driver config state session) ∧
      (∀ failure, answer = .error failure → failure.isConnectionFailure = true) ∧
      Answered driver config state answer journal ∧
      ∀ other again, Answered driver config state other again → other = answer := by
  subst run
  obtain ⟨exchanges, spent, approached, closed, last, attempted, approach, course⟩ :=
    acquire_attempted driver config state []
  obtain ⟨answer, elapsed, ended, answered⟩ :=
    approach.acquired_answered attempted course settled
  have alike := acquire_simulates driver.journaled_simulates config none (state, []) state rfl
  rw [ended] at alike
  obtain ⟨after, plain, -⟩ := alike.ended_of
  refine ⟨answer, elapsed, after, plain, ?_, ?_, answered, ?_⟩
  · intro session
    exact answered.ok_iff_serves
  · rintro failure rfl
    exact answered.isConnectionFailure
  · intro other again also
    exact also.unique answered

/-- A target that fails the probe at the last moment that the default settings allow, and the
closing too. -/
def failingProbe : Memory.Script where
  connect := [some ⟨2, .unscripted⟩]
  calls
    | .ping => [some ⟨4998, .failure (.driver "not primary")⟩]
    | .close => [some ⟨1, .failure .closed⟩]
    | _ => []

theorem acquire_answered_failingProbe :
    ∃ elapsed after,
      (acquire (Memory.driver .plain) .default).run (.ofScript failingProbe) =
        .ended elapsed (.returned (.error (.connection "Driver error: not primary"))) after := by
  obtain ⟨answer, elapsed, after, course, -, -, -, unique⟩ :=
    acquire_answered (Memory.driver .plain) .default (.ofScript failingProbe) rfl
      ⟨by decide +kernel, by decide +kernel, by decide +kernel⟩
  have inTime : 2 + 4998 ≤ Config.default.timeoutMs.toNat := by decide
  obtain ⟨again, probed⟩ : ∃ again, Answered (Memory.driver .plain) .default
      (.ofScript failingProbe) (.error (.connection "Driver error: not primary")) again := by
    refine ⟨_, .unprobed .never (Nat.le_of_add_right_le inTime) rfl ?_⟩
    exact .wrapped inTime rfl
  rw [← unique _ _ probed] at course
  exact ⟨elapsed, after, course⟩

end Connection

end DriverCompat
