import DriverCompat.Proofs.Run.Simulation

/-! # What comes of an acquisition

An acquisition connects once, and probes a session that it was given in time. Both share one limit.
Their responses decide between a session that is served, one that is rejected and has to be closed
again, and none at all; a panic of either goes on.
-/

namespace DriverCompat.Connection

variable {σ τ κ ω α : Type}

/-- What the connection and the probe come to. -/
inductive Approached (κ : Type) where
  | refused (failure : Failure)
  | rejected (session : κ) (failure : Failure)
  | served (session : κ)
  | panicked (payload : Payload)

/-- The exchanges of the connection and the probe, with the time that they take and what they come
to. -/
inductive Approach (config : Config) : List (Exchange κ) → Nat → Approached κ → Prop
  | connectLate {response : Response κ} (late : response.Late config.timeoutMs.toNat) :
      Approach config [.connect config response] config.timeoutMs.toNat
        (.refused (noResponse config.timeoutMs.toNat))
  | connectFailed {delay : Nat} (failure : Failure) (inTime : delay ≤ config.timeoutMs.toNat) :
      Approach config [.connect config (.after delay (.returned (.error failure)))] delay
        (.refused failure.asConnectionFailure)
  | connectPanicked {delay : Nat} (payload : Payload) (inTime : delay ≤ config.timeoutMs.toNat) :
      Approach config [.connect config (.after delay (.panicked payload))] delay (.panicked payload)
  | probeLate {delay : Nat} {session : κ} {response : Response Observation}
      (inTime : delay ≤ config.timeoutMs.toNat)
      (late : response.Late (config.timeoutMs.toNat - delay)) :
      Approach config
        [.connect config (.after delay (.returned (.ok session))), .call session .ping response]
        config.timeoutMs.toNat (.rejected session (noResponse config.timeoutMs.toNat))
  | probeFailed {delay more : Nat} {session : κ} (failure : Failure)
      (inTime : delay + more ≤ config.timeoutMs.toNat) :
      Approach config
        [.connect config (.after delay (.returned (.ok session))),
          .call session .ping (.after more (.returned (.error failure)))]
        (delay + more) (.rejected session failure.asConnectionFailure)
  | probePanicked {delay more : Nat} {session : κ} (payload : Payload)
      (inTime : delay + more ≤ config.timeoutMs.toNat) :
      Approach config
        [.connect config (.after delay (.returned (.ok session))),
          .call session .ping (.after more (.panicked payload))]
        (delay + more) (.panicked payload)
  | probed {delay more : Nat} {session : κ} {observation : Observation}
      (inTime : delay + more ≤ config.timeoutMs.toNat) :
      Approach config
        [.connect config (.after delay (.returned (.ok session))),
          .call session .ping (.after more (.returned (.ok observation)))]
        (delay + more) (.served session)

/-- The exchanges of a connection and a probe as a driver makes them from a state on. -/
inductive Attempted (driver : Driver σ κ) (config : Config) (state : σ) : List (Exchange κ) → Prop
  | connection : Attempted driver config state
      [.connect config (driver.connect config state).response]
  | probe {delay : Nat} {session : κ} {opened : σ} (answered :
      (driver.connect config state).answer = some ⟨delay, .returned (.ok session), opened⟩) :
      Attempted driver config state
        [.connect config (.after delay (.returned (.ok session))),
          .call session .ping
            ((driver.call session .ping opened).response.map (Call.observation .ping))]

/-- The course of closing a session before something else is made known: how the session answers
does not matter, but it has to. -/
def closing (response : Response Observation) (ending : Ending α) (state : σ) : Course σ α :=
  match response with
  | .after delay (.returned _) => .ended delay ending state
  | .after delay (.panicked payload) => .ended delay (.panicked payload) state
  | .never => .unfinished state

theorem mapState_closing (embed : σ → τ) (response : Response Observation) (ending : Ending α)
    (state : σ) :
    (closing response ending state).mapState embed = closing response ending (embed state) := by
  rcases response with ⟨delay, _ | _⟩ | _ <;> rfl

theorem release_journaled (driver : Driver σ κ) (session : κ) (state : σ)
    (journal : List (Exchange κ)) :
    ∃ (response : Response Observation) (after : σ),
      release driver.journaled session none (state, journal) =
        closing response (.returned ()) (after, journal ++ [.call session .close response]) := by
  obtain ⟨response, after, course⟩ := driver.calling_journaled session .close none state journal
  refine ⟨response.map (Call.observation .close), after, ?_⟩
  unfold release
  cases response with
  | never => rw [Activity.bind_unfinished course]; rfl
  | after delay ending =>
    rw [Response.course_after_none] at course
    cases ending with
    | panicked payload => rw [Activity.bind_panicked course]; rfl
    | returned answer => rw [Activity.bind_returned course]; rfl

theorem release_journaled_beside (driver : Driver σ κ) (session : κ) (state : σ)
    (journal : List (Exchange κ)) (seen : ω) :
    ∃ (response : Response Observation) (after : σ),
      release (driver.journaled.beside ω) session none ((state, journal), seen) =
        closing response (.returned ())
          ((after, journal ++ [.call session .close response]), seen) := by
  obtain ⟨response, after, course⟩ := release_journaled driver session state journal
  have alike := release_simulates (driver.journaled.beside_simulates seen) session none
    ((state, journal), seen) (state, journal) rfl
  exact ⟨response, after, by rw [alike.eq_mapState, course, mapState_closing]⟩

/-- What is made known at once after a session has been closed. -/
theorem bind_of_closing {first : Activity σ Unit} {second : Unit → Activity σ α}
    {response : Response Observation} {ending : Ending α} {state after : σ}
    (course : first none state = closing response (.returned ()) after)
    (atOnce : second () none after = .ended 0 ending after) :
    (first >>= second) none state = closing response ending after := by
  cases response with
  | never => exact Activity.bind_unfinished course
  | after delay ended =>
    cases ended with
    | panicked payload => exact Activity.bind_panicked course
    | returned answer =>
      rw [Activity.bind_returned course, Activity.remaining_none, atOnce]
      rfl

/-- The course of an attempt to do something with a session, by what comes of the session that is
served, in states by the exchanges that are made after the probe. -/
def Approached.course (approached : Approached κ) (elapsed : Nat) (closed : Response Observation)
    (state : List (Exchange κ) → τ) (serve : κ → Course τ (Except Failure α)) :
    Course τ (Except Failure α) :=
  match approached with
  | .refused failure => .ended elapsed (.returned (.error failure)) (state [])
  | .rejected session failure =>
    Activity.delayed elapsed
      (closing closed (.returned (.error failure)) (state [.call session .close closed]))
  | .served session => Activity.delayed elapsed (serve session)
  | .panicked payload => .ended elapsed (.panicked payload) (state [])

/-- The course of an attempt to get a session and nothing else. -/
def Approached.acquired (approached : Approached κ) (elapsed : Nat) (closed : Response Observation)
    (state : List (Exchange κ) → τ) : Course τ (Except Failure κ) :=
  approached.course elapsed closed state fun session =>
    .ended 0 (.returned (.ok session)) (state [])

theorem Approached.ending?_rejected (session : κ) (failure : Failure) (elapsed : Nat)
    (closed : Response Observation) (state : List (Exchange κ) → τ) :
    ((rejected session failure).acquired elapsed closed state).ending? =
      (closing closed (.returned (.error failure : Except Failure κ)) ()).ending? := by
  rcases closed with ⟨delay, _ | _⟩ | _ <;> rfl

theorem Approached.delayed_acquired (approached : Approached κ) (elapsed more : Nat)
    (closed : Response Observation) (state : List (Exchange κ) → τ) :
    Activity.delayed elapsed (approached.acquired more closed state) =
      approached.acquired (elapsed + more) closed state := by
  cases approached with
  | rejected session failure =>
    rcases closed with ⟨delay, _ | _⟩ | _ <;> simp [acquired, course, closing, Nat.add_assoc]
  | _ => rfl

/-- A session that is closed before the failure of its probe is returned. -/
theorem rejected_journaled (driver : Driver σ κ) (session : κ) (failure : Failure) (state : σ)
    (journal : List (Exchange κ)) :
    ∃ (closed : Response Observation) (after : σ),
      (release driver.journaled session >>= fun _ => pure (Except.error failure) :
          Activity (σ × List (Exchange κ)) (Except Failure κ)) none (state, journal) =
        closing closed (.returned (.error failure))
          (after, journal ++ [.call session .close closed]) := by
  obtain ⟨closed, after, course⟩ := release_journaled driver session state journal
  exact ⟨closed, after, bind_of_closing course (Activity.pure_apply _ _ _)⟩

theorem probe_journaled (driver : Driver σ κ) (config : Config) (session : κ) {delay : Nat}
    (inTime : delay ≤ config.timeoutMs.toNat) (state : σ) (journal : List (Exchange κ)) :
    ∃ more approached closed after,
      Approach config
        [.connect config (.after delay (.returned (.ok session))),
          .call session .ping
            ((driver.call session .ping state).response.map (Call.observation .ping))]
        (delay + more) approached ∧
      probe driver.journaled config session delay none (state, journal) =
        approached.acquired more closed fun further => (after, journal ++
          .call session .ping
            ((driver.call session .ping state).response.map
              (Call.observation .ping)) :: further) := by
  have course := driver.calling_journaled_eq session .ping
    (some (config.timeoutMs.toNat - delay)) state journal
  generalize (driver.call session .ping state).reached _ = asked at course
  generalize (driver.call session .ping state).response = response at course ⊢
  simp only [probe]
  rcases response.late_or_after (config.timeoutMs.toNat - delay) with
    late | ⟨more, ending, rfl, answered⟩
  · rw [Response.course_of_late late] at course
    let pinged := response.map (Call.observation .ping)
    obtain ⟨closed, after, rejected⟩ := rejected_journaled driver session
      (noResponse config.timeoutMs.toNat) asked (journal ++ [.call session .ping pinged])
    refine ⟨config.timeoutMs.toNat - delay,
      .rejected session (noResponse config.timeoutMs.toNat), closed, after, ?_, ?_⟩
    · rw [Nat.add_sub_cancel' inTime]
      exact .probeLate inTime ((response.late_map _).mpr late)
    · rw [Activity.bind_returned (Activity.within_none_unfinished course)]
      refine (congrArg (Activity.delayed _) rejected).trans ?_
      simp only [Approached.acquired, Approached.course, List.append_assoc, List.singleton_append]
      rfl
  · rw [Response.course_after answered] at course
    have spent : delay + more ≤ config.timeoutMs.toNat := by omega
    rcases ending with (failure | ⟨⟩) | payload
    · obtain ⟨closed, after, rejected⟩ := rejected_journaled driver session
        failure.asConnectionFailure asked
        (journal ++ [.call session .ping (.after more (.returned (.error failure)))])
      refine ⟨more, .rejected session failure.asConnectionFailure, closed, after,
        .probeFailed failure spent, ?_⟩
      rw [Activity.bind_returned (Activity.within_none_returned course)]
      refine (congrArg (Activity.delayed _) rejected).trans ?_
      simp only [Approached.acquired, Approached.course, List.append_assoc, List.singleton_append]
      rfl
    · refine ⟨more, .served session, .never, asked, .probed spent, ?_⟩
      rw [Activity.bind_returned (Activity.within_none_returned course)]
      rfl
    · refine ⟨more, .panicked payload, .never, asked, .probePanicked payload spent, ?_⟩
      rw [Activity.bind_panicked (Activity.within_none_panicked course)]
      rfl

/-- An acquisition enters the exchanges that its driver makes into the journal, and these decide
what comes of it. -/
theorem acquire_attempted (driver : Driver σ κ) (config : Config) (state : σ)
    (journal : List (Exchange κ)) :
    ∃ exchanges elapsed approached closed after, Attempted driver config state exchanges ∧
      Approach config exchanges elapsed approached ∧
      acquire driver.journaled config none (state, journal) =
        approached.acquired elapsed closed fun further =>
          (after, journal ++ exchanges ++ further) := by
  have course := driver.opening_journaled config (some config.timeoutMs.toNat) state journal
  have first : Attempted driver config state _ := .connection
  generalize reached : (driver.connect config state).reached _ = opened at course
  simp only [acquire]
  rcases (driver.connect config state).response.late_or_after config.timeoutMs.toNat with
    late | ⟨delay, ending, same, inTime⟩
  · rw [Response.course_of_late late] at course
    refine ⟨_, _, _, .never, opened, first, .connectLate late, ?_⟩
    rw [Activity.bind_returned (Activity.timed_returned (Activity.within_none_unfinished course))]
    simp [Approached.acquired, Approached.course]
  · rw [same, Response.course_after inTime] at course
    rw [same] at first
    rcases ending with (failure | session) | payload
    · refine ⟨_, _, _, .never, opened, first, .connectFailed failure inTime, ?_⟩
      rw [Activity.bind_returned (Activity.timed_returned (Activity.within_none_returned course))]
      simp [Approached.acquired, Approached.course]
    · obtain ⟨after, answered⟩ := Reaction.response_eq_after_iff.mp same
      obtain rfl : opened = after :=
        reached.symm.trans (Reaction.reached_of_answer answered inTime)
      obtain ⟨more, approached, closed, after, approach, probed⟩ :=
        probe_journaled driver config session inTime opened
          (journal ++ [.connect config (.after delay (.returned (.ok session)))])
      refine ⟨_, _, approached, closed, after, .probe answered, approach, ?_⟩
      rw [Activity.bind_returned (Activity.timed_returned (Activity.within_none_returned course))]
      refine (congrArg (Activity.delayed delay) probed).trans ?_
      rw [Approached.delayed_acquired]
      simp only [List.append_assoc, List.cons_append, List.nil_append]
    · refine ⟨_, _, _, .never, opened, first, .connectPanicked payload inTime, ?_⟩
      rw [Activity.bind_panicked (Activity.timed_panicked (Activity.within_none_panicked course))]
      simp [Approached.acquired, Approached.course]

theorem acquire_journaled (driver : Driver σ κ) (config : Config) (state : σ)
    (journal : List (Exchange κ)) :
    ∃ exchanges elapsed approached closed after, Approach config exchanges elapsed approached ∧
      acquire driver.journaled config none (state, journal) =
        approached.acquired elapsed closed fun further =>
          (after, journal ++ exchanges ++ further) := by
  obtain ⟨exchanges, elapsed, approached, closed, after, -, approach, course⟩ :=
    acquire_attempted driver config state journal
  exact ⟨exchanges, elapsed, approached, closed, after, approach, course⟩

theorem Approached.mapState_acquired (embed : σ → τ) (approached : Approached κ) (elapsed : Nat)
    (closed : Response Observation) (state : List (Exchange κ) → σ) :
    (approached.acquired elapsed closed state).mapState embed =
      approached.acquired elapsed closed (embed ∘ state) := by
  cases approached with
  | rejected session failure => rcases closed with ⟨delay, _ | _⟩ | _ <;> rfl
  | _ => rfl

/-- An acquisition beside an observer, which it leaves alone. -/
theorem acquire_journaled_beside (driver : Driver σ κ) (config : Config) (state : σ)
    (journal : List (Exchange κ)) (seen : ω) :
    ∃ exchanges elapsed approached closed after, Approach config exchanges elapsed approached ∧
      acquire (driver.journaled.beside ω) config none ((state, journal), seen) =
        approached.acquired elapsed closed
          fun further => ((after, journal ++ exchanges ++ further), seen) := by
  obtain ⟨exchanges, elapsed, approached, closed, after, approach, course⟩ :=
    acquire_journaled driver config state journal
  have alike := acquire_simulates (driver.journaled.beside_simulates seen) config none
    ((state, journal), seen) (state, journal) rfl
  refine ⟨exchanges, elapsed, approached, closed, after, approach, ?_⟩
  rw [alike.eq_mapState, course, Approached.mapState_acquired]
  rfl

/-- A journal and an observer make no difference to how an acquisition ends. -/
theorem ending?_acquire (driver : Driver σ κ) (config : Config) (state : σ)
    (journal : List (Exchange κ)) (seen : ω) :
    (acquire (driver.journaled.beside ω) config none ((state, journal), seen)).ending? =
      ((acquire driver config).run state).ending? := by
  have beside := acquire_simulates (driver.journaled.beside_simulates seen) config none
    ((state, journal), seen) (state, journal) rfl
  have plain := acquire_simulates driver.journaled_simulates config none (state, journal) state rfl
  exact beside.ending?_eq.trans plain.ending?_eq

/-- What is done with a session that is served: the body, and then the release. -/
def serving (driver : Driver σ κ) (body : Activity σ α) (session : κ) :
    Activity σ (Except Failure α) := do
  let ending ← body.guarded
  release driver session
  return .ok (← Activity.resume ending)

/-- A session is lent exactly if the acquisition serves one: the body is called, and what it says is
done before the session is closed. -/
theorem lending_of_acquired {driver : Driver σ κ} {config : Config}
    (body : κ → Activity σ (Activity σ α)) {approached : Approached κ} {elapsed : Nat}
    {closed : Response Observation} {source : σ} {state : List (Exchange κ) → σ}
    (course : acquire driver config none source = approached.acquired elapsed closed state) :
    lending driver config body none source =
      approached.course elapsed closed state
        fun session =>
          (body session >>= fun doing => serving driver doing session) none (state []) := by
  unfold lending
  rcases approached with failure | ⟨session, failure⟩ | session | payload
  · rw [Activity.bind_returned course]
    rfl
  · rcases closed with ⟨delay, _ | _⟩ | _
    · rw [Activity.bind_returned course]
      rfl
    · rw [Activity.bind_panicked course]
      rfl
    · rw [Activity.bind_unfinished course]
      rfl
  · rw [Activity.bind_returned course]
    rfl
  · rw [Activity.bind_panicked course]
    rfl

/-- A session is closed after a body that ended, and the body's end is made known then. -/
theorem serving_of_ended {driver : Driver σ κ} {body : Activity σ α} {session : κ} {elapsed : Nat}
    {ending : Ending α} {response : Response Observation} {state after last : σ}
    (done : body none state = .ended elapsed ending after)
    (released : release driver session none after = closing response (.returned ()) last) :
    serving driver body session none state =
      Activity.delayed elapsed (closing response (ending.map .ok) last) := by
  unfold serving
  rw [Activity.bind_returned (Activity.guarded_ended done), Activity.remaining_none]
  refine congrArg (Activity.delayed elapsed) (bind_of_closing released ?_)
  cases ending <;> rfl

end DriverCompat.Connection
