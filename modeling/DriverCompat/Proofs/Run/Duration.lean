import DriverCompat.Proofs.Run.Trace
import Mathlib.Algebra.Order.BigOperators.Group.List
import Mathlib.Data.ENat.Lattice

/-! # The time that a run takes

The clock moves only while a request is awaited, and the connection together with its probe, and
each check by itself, are given up at the same limit. So the phases of a run, as its journal shows
them, determine its time: the delays of a phase add up, but to no more than the limit. Only the
closing of the session is awaited without one, so that nothing but a close that is never answered
keeps a run from its end.
-/

namespace DriverCompat

open Connection

variable {σ κ ω α : Type}

/-- The time until a response comes, if it ever does. -/
def Response.delay : Response α → ℕ∞
  | .after delay _ => delay
  | .never => ⊤

/-- The time until the response to a request. -/
def Exchange.delay : Exchange κ → ℕ∞
  | .connect _ response => response.delay
  | .call _ _ response => response.delay

/-- The time that requests take which are made one after another. -/
def delays (exchanges : List (Exchange κ)) : ℕ∞ := (exchanges.map Exchange.delay).sum

/-- The time that is spent on requests which are given up at a limit. -/
noncomputable def spent (limit : Nat) (exchanges : List (Exchange κ)) : ℕ∞ :=
  min limit (delays exchanges)

/-- The time that something takes on the virtual clock. -/
def Course.time : Course σ α → ℕ∞
  | .ended elapsed _ _ => elapsed
  | .unfinished _ => ⊤

@[simp] theorem delays_nil : delays ([] : List (Exchange κ)) = 0 := rfl

@[simp] theorem delays_cons (exchange : Exchange κ) (rest : List (Exchange κ)) :
    delays (exchange :: rest) = exchange.delay + delays rest := rfl

@[simp] theorem Exchange.delay_connect (config : Config) (response : Response κ) :
    (Exchange.connect config response).delay = response.delay := rfl

@[simp] theorem Exchange.delay_call (session : κ) (call : Call) (response : Response Observation) :
    (Exchange.call session call response).delay = response.delay := rfl

@[simp] theorem Response.delay_after (delay : Nat) (ending : Ending (Except Failure α)) :
    (Response.after delay ending).delay = delay := rfl

theorem spent_le (limit : Nat) (exchanges : List (Exchange κ)) : spent limit exchanges ≤ limit :=
  min_le_left _ _

theorem spent_of_le {limit elapsed : Nat} {exchanges : List (Exchange κ)}
    (same : delays exchanges = elapsed) (inTime : elapsed ≤ limit) :
    spent limit exchanges = elapsed := by
  rw [spent, same, min_eq_right (by exact_mod_cast inTime)]

theorem spent_of_late {limit : Nat} {exchanges : List (Exchange κ)}
    (late : (limit : ℕ∞) ≤ delays exchanges) : spent limit exchanges = limit :=
  min_eq_left late

theorem sum_spent_le (limit : Nat) (segments : List (List (Exchange κ))) :
    (segments.map (spent limit)).sum ≤ segments.length * limit := by
  have each : ∀ time ∈ segments.map (spent limit), time ≤ limit := by
    intro time member
    obtain ⟨segment, -, rfl⟩ := List.mem_map.mp member
    exact spent_le limit segment
  simpa using List.sum_le_card_nsmul _ _ each

theorem Response.Late.le_delay {limit : Nat} {response : Response α} (late : response.Late limit) :
    (limit : ℕ∞) ≤ response.delay := by
  cases response with
  | never => exact le_top
  | after delay ending => exact Nat.cast_le.mpr (Nat.le_of_lt late)

theorem Response.Late.le_add_delay {limit elapsed : Nat} {response : Response α}
    (late : response.Late (limit - elapsed)) : (limit : ℕ∞) ≤ elapsed + response.delay := by
  rw [← tsub_le_iff_left, ← ENat.natCast_sub]
  exact late.le_delay

/-- A single call is settled at its delay, or not at all. -/
theorem min_delay_settle_singleton {limit elapsed : Nat} (bound : elapsed ≤ limit)
    (response : Response Observation) :
    min (limit : ℕ∞) (settle limit elapsed [response]).delay =
      min (limit : ℕ∞) (elapsed + response.delay) := by
  rcases response.late_or_after (limit - elapsed) with late | ⟨delay, ending, rfl, inTime⟩
  · rw [settle_late bound late, min_eq_left late.le_add_delay]
    exact min_eq_left le_top
  · have reached : elapsed + delay ≤ limit := by omega
    cases ending with
    | returned answer =>
      rw [settle_last reached]
      simp only [Response.delay_after, Nat.cast_add]
    | panicked payload =>
      rw [settle_panicked reached]
      simp only [Response.delay_after, Nat.cast_add]

/-- Calls made in turn are settled when their delays have passed, unless that is too late. -/
theorem InTurn.min_delay_settle {limit elapsed : Nat} {session : κ} {calls : List Call}
    {segment : List (Exchange κ)} (inTurn : InTurn limit session elapsed calls segment)
    (bound : elapsed ≤ limit) :
    min (limit : ℕ∞) (settle limit elapsed (segment.map Exchange.response)).delay =
      min (limit : ℕ∞) (elapsed + delays segment) := by
  induction inTurn with
  | last =>
    rw [delays_cons, delays_nil, add_zero]
    exact min_delay_settle_singleton bound _
  | stopped _ =>
    rw [delays_cons, delays_nil, add_zero]
    exact min_delay_settle_singleton bound _
  | answered inTime further ih =>
    -- What is left to settle began later by the delay of this answer, which the bound allows for.
    obtain ⟨_, _, _, rfl⟩ := further.exists_cons
    have later := ih inTime
    simp only [List.map_cons, Exchange.response] at later ⊢
    rw [settle_answered inTime, later, delays_cons (.call session _ (.after _ _)),
      Exchange.delay_call, Response.delay_after, Nat.cast_add, add_assoc]

namespace Checks

variable {checks : Checks} {session : κ}

theorem duration_eq_min_delay (checks : Checks) (responses : List (Response Observation)) :
    (checks.duration responses : ℕ∞) =
      min (checks.timeoutMs.toNat : ℕ∞) (settle checks.timeoutMs.toNat 0 responses).delay := by
  unfold duration
  cases settled : settle checks.timeoutMs.toNat 0 responses with
  | never => exact (min_eq_left le_top).symm
  | after total ending =>
    have inTime := (settle_bounds (Nat.zero_le _) settled).2
    rw [Response.delay_after, min_eq_right (by exact_mod_cast inTime)]

/-- A check takes the time that its calls take, up to its limit. -/
theorem Made.duration_eq {check : Check} {segment : List (Exchange κ)}
    (made : checks.Made session check segment) :
    (checks.duration (segment.map Exchange.response) : ℕ∞) =
      spent checks.timeoutMs.toNat segment := by
  rw [duration_eq_min_delay, InTurn.min_delay_settle made (Nat.zero_le _), Nat.cast_zero, zero_add]
  rfl

theorem Made.time_eq {list : List Check} {segments : List (List (Exchange κ))}
    (made : List.Forall₂ (checks.Made session) list segments) :
    (checks.time segments : ℕ∞) = (segments.map (spent checks.timeoutMs.toNat)).sum := by
  induction made with
  | nil => rfl
  | cons first _ ih =>
    rw [time, Nat.cast_add, first.duration_eq, ih, List.map_cons, List.sum_cons]

end Checks

/-- The connection and the probe take the time of their delays, up to their common limit. -/
theorem Connection.Approach.elapsed_eq {config : Config} {exchanges : List (Exchange κ)}
    {elapsed : Nat} {approached : Approached κ}
    (approach : Approach config exchanges elapsed approached) :
    (elapsed : ℕ∞) = spent config.timeoutMs.toNat exchanges := by
  symm
  cases approach with
  | connectLate late =>
    apply spent_of_late
    simpa using late.le_delay
  | probeLate inTime late =>
    apply spent_of_late
    simpa using late.le_add_delay
  | connectFailed failure inTime => exact spent_of_le (by simp) inTime
  | connectPanicked payload inTime => exact spent_of_le (by simp) inTime
  | probeFailed failure inTime => exact spent_of_le (by simp) inTime
  | probePanicked payload inTime => exact spent_of_le (by simp) inTime
  | probed inTime => exact spent_of_le (by simp) inTime

/-- The connection, the probe and the closing of a session do not panic. The checks may do what they
want, and no request has to be answered. -/
structure Quiet (journal : List (Exchange κ)) : Prop where
  connect : ∀ exchange ∈ journal[0]?, ¬ exchange.Panics
  probe : ∀ exchange ∈ journal[1]?, ¬ exchange.Panics
  close : ∀ exchange ∈ journal, exchange.IsClose → ¬ exchange.Panics

/-- A close that is asked for in a run is the closing of its session. -/
theorem Phases.close_mem_iff {config : Config} {list : List Check}
    {attempt closing : List (Exchange κ)}
    {segments : List (List (Exchange κ))} (phases : Phases config list attempt segments closing)
    {session : κ} {closed : Response Observation} :
    .call session .close closed ∈ attempt ++ segments.flatten ++ closing ↔
      .call session .close closed ∈ closing := by
  rw [List.mem_append, or_iff_right (phases.unclosed session closed)]

section Concluding

variable {τ : Type} (observer : Observer ω) (elapsed : Nat) (closed : Response Observation)
  (report : Report) (rest : List Notification) (state : τ) (seen : ω)

/-- A run that comes to the closing of its session waits for that as long as it takes. -/
theorem time_concluding :
    (concluding observer elapsed closed report rest state seen).time = elapsed + closed.delay := by
  rcases closed with ⟨delay, _ | _⟩ | _
  · exact Nat.cast_add _ _
  · exact Nat.cast_add _ _
  · exact (add_top _).symm

theorem concluding_returns_iff (quiet : ¬ closed.Panics) :
    (∃ total returned last, concluding observer elapsed closed report rest state seen =
      .ended total (.returned returned) last) ↔ closed ≠ .never := by
  rcases closed with ⟨delay, answer | payload⟩ | _
  · exact iff_of_true ⟨_, _, _, rfl⟩ nofun
  · exact absurd ⟨_, _, rfl⟩ quiet
  · refine iff_of_false ?_ (· rfl)
    rintro ⟨_, _, _, impossible⟩
    cases impossible

end Concluding

/-- A run that is quiet goes through its phases, which determine its time; it ends as soon as its
closing does. -/
theorem Exits.phases {name : String} {config : Config} {observer : Observer ω} {seen : ω}
    {acquired : Option (Ending (Except Failure κ))}
    {course : Course ((σ × List (Exchange κ)) × ω) Report}
    (exits : Exits name config observer seen acquired course) (quiet : Quiet course.state.1.2) :
    ∃ attempt segments closing,
      course.state.1.2 = attempt ++ segments.flatten ++ closing ∧
      Phases config Check.all attempt segments closing ∧
      course.time = spent config.timeoutMs.toNat attempt +
        (segments.map (spent config.timeoutMs.toNat)).sum + delays closing ∧
      ((∃ elapsed report last, course = .ended elapsed (.returned report) last) ↔
        ∀ session, .call session .close .never ∉ closing) ∧
      ((∀ session, acquired ≠ some (.returned (.ok session))) → segments = []) := by
  obtain ⟨connect, probe, close⟩ := quiet
  cases exits with
  | @refused exchanges elapsed failure after approach =>
    refine ⟨exchanges, [], [], ?_, .of_refused approach, ?_, iff_of_true ⟨_, _, _, rfl⟩ (by simp),
      fun _ => rfl⟩
    · rw [List.flatten_nil, List.append_nil, List.append_nil]
      rfl
    · rw [List.map_nil, List.sum_nil, delays_nil, add_zero, add_zero]
      exact approach.elapsed_eq
  | @rejected exchanges elapsed session failure closed after approach =>
    rw [state_concluding] at close ⊢
    have quiet : ¬ closed.Panics :=
      close (.call session .close closed) List.mem_concat_self trivial
    refine ⟨exchanges, [], [.call session .close closed], ?_, .of_rejected approach closed, ?_, ?_,
      fun _ => rfl⟩
    · rw [List.flatten_nil, List.append_nil]
    · rw [time_concluding, approach.elapsed_eq]
      simp
    · rw [concluding_returns_iff _ _ _ _ _ _ _ quiet]
      simp [eq_comm]
  | @served exchanges elapsed session segments closed after approach made =>
    rw [state_concluding] at close ⊢
    have quiet : ¬ closed.Panics :=
      close (.call session .close closed) List.mem_concat_self trivial
    refine ⟨exchanges, segments, [.call session .close closed], rfl,
      .of_served approach made closed,
      ?_, ?_, fun unserved => absurd rfl (unserved session)⟩
    · rw [time_concluding, Nat.cast_add, approach.elapsed_eq, Checks.Made.time_eq made]
      simp [Config.checks]
    · rw [concluding_returns_iff _ _ _ _ _ _ _ quiet]
      simp [eq_comm]
  | panicked approach =>
    cases approach with
    | connectPanicked _ _ => exact absurd ⟨_, _, rfl⟩ (connect _ rfl)
    | probePanicked _ _ => exact absurd ⟨_, _, rfl⟩ (probe _ rfl)

theorem Course.Alike.time_eq {τ : Type} {Rel : σ → τ → Prop} {course : Course σ α}
    {other : Course τ α} (alike : course.Alike Rel other) : course.time = other.time := by
  cases alike <;> rfl

theorem Course.Alike.returns_iff {τ : Type} {Rel : σ → τ → Prop} {course : Course σ α}
    {other : Course τ α} (alike : course.Alike Rel other) :
    (∃ elapsed value last, course = .ended elapsed (.returned value) last) ↔
      ∃ elapsed value last, other = .ended elapsed (.returned value) last := by
  cases alike <;> simp

theorem Phases.length_le {config : Config} {list : List Check} {attempt closing : List (Exchange κ)}
    {segments : List (List (Exchange κ))} (phases : Phases config list attempt segments closing) :
    segments.length ≤ list.length := by
  cases phases with
  | unopened _ => exact Nat.zero_le _
  | unprobed _ _ => exact Nat.zero_le _
  | served _ _ made => exact made.length_eq.ge

/-- A quiet run, watched by a calm observer, takes the time of its phases: of the connection and the
probe, up to the limit; of each check, up to the same limit; and of the closing. It returns unless
its closing is never answered. -/
theorem compatibilityRun_time (driver : Driver σ κ) (config : Config) {observer : Observer ω}
    (calm : observer.NeverPanics) (state : σ) (seen : ω) {journal : List (Exchange κ)}
    (run : runTrace driver config observer state seen = journal) (quiet : Quiet journal) :
    ∃ attempt segments closing,
      journal = attempt ++ segments.flatten ++ closing ∧
      Phases config Check.all attempt segments closing ∧
      ((∃ elapsed report last, (compatibilityRun driver config observer).run (state, seen) =
          .ended elapsed (.returned report) last) ↔
        ∀ session, .call session .close .never ∉ journal) ∧
      ((compatibilityRun driver config observer).run (state, seen)).time =
        spent config.timeoutMs.toNat attempt +
          (segments.map (spent config.timeoutMs.toNat)).sum + delays closing ∧
      ((compatibilityRun driver config observer).run (state, seen)).time ≤
        11 * config.timeoutMs.toNat + delays closing ∧
      ((∀ session, ((acquire driver config).run state).ending? ≠ some (.returned (.ok session))) →
        ((compatibilityRun driver config observer).run (state, seen)).time ≤
          config.timeoutMs.toNat + delays closing) := by
  subst run
  obtain ⟨attempt, segments, closing, parts, phases, time, returns, unserved⟩ :=
    (compatibilityRun_exits calm driver config state seen).phases quiet
  have alike := compatibilityRun_simulates driver.journaled_simulates config observer none
    ((state, []), seen) (state, seen) ⟨rfl, rfl⟩
  change Course.Alike _ ((compatibilityRun driver.journaled config observer).run _)
    ((compatibilityRun driver config observer).run _) at alike
  rw [alike.time_eq] at time
  rw [alike.returns_iff] at returns
  refine ⟨attempt, segments, closing, parts, phases, ?_, time, ?_, ?_⟩
  · rw [returns, runTrace, parts]
    exact forall_congr' fun session => not_congr phases.close_mem_iff.symm
  · have checks : (segments.map (spent config.timeoutMs.toNat)).sum ≤
        10 * config.timeoutMs.toNat := by
      refine (sum_spent_le _ segments).trans ?_
      exact_mod_cast Nat.mul_le_mul_right config.timeoutMs.toNat phases.length_le
    rw [time]
    gcongr
    calc spent config.timeoutMs.toNat attempt + (segments.map (spent config.timeoutMs.toNat)).sum
        ≤ config.timeoutMs.toNat + 10 * config.timeoutMs.toNat := add_le_add (spent_le _ _) checks
      _ = 11 * config.timeoutMs.toNat := by
        exact_mod_cast (by omega : config.timeoutMs.toNat + 10 * config.timeoutMs.toNat =
          11 * config.timeoutMs.toNat)
  · intro failed
    rw [time, unserved failed, List.map_nil, List.sum_nil, add_zero]
    gcongr
    exact spent_le _ _

/-- Settings with a limit of a tenth of a second. -/
def hurried : Config := { Config.default with timeoutMs := 100 }

/-- A server that takes its time: the two calls that create the collection take too long together,
and a search for documents is never answered. -/
def slowServer : Memory.Script where
  connect := [some ⟨30, .unscripted⟩]
  calls
    | .ping => [some ⟨20, .unscripted⟩]
    | .dropCollection => [some ⟨60, .unscripted⟩]
    | .createCollection => [some ⟨50, .unscripted⟩]
    | .find => [some ⟨0, .never⟩]
    | .close => [some ⟨7, .unscripted⟩]
    | _ => []

/-- Fifty units until the session can be used, the limit twice, and seven for the closing. -/
theorem compatibilityRun_time_slowServer :
    ∃ (attempt : List (Exchange Nat)) (segments : List (List (Exchange Nat)))
      (closing : List (Exchange Nat)) (report : Report) (last : Memory.Stage × Unit),
      Phases hurried Check.all attempt segments closing ∧
      (compatibilityRun (Memory.driver .plain) hurried .silent).run (.ofScript slowServer, ()) =
        .ended 257 (.returned report) last ∧
      (257 : ℕ∞) = spent 100 attempt + (segments.map (spent 100)).sum + delays closing := by
  have quiet : Quiet (runTrace (Memory.driver .plain) hurried .silent (.ofScript slowServer) ()) :=
    ⟨by decide +kernel, by decide +kernel, by decide +kernel⟩
  have answered : ∀ exchange ∈
      runTrace (Memory.driver .plain) hurried .silent (.ofScript slowServer) (),
      exchange.IsClose → exchange.Returns := by decide +kernel
  have total : ((compatibilityRun (Memory.driver .plain) hurried .silent).run
      (.ofScript slowServer, ())).elapsed = 257 := by decide +kernel
  obtain ⟨attempt, segments, closing, -, phases, returns, time, -⟩ := compatibilityRun_time
    (Memory.driver .plain) hurried Observer.silent_neverPanics (.ofScript slowServer) () rfl quiet
  obtain ⟨elapsed, report, last, course⟩ := returns.mpr fun session member =>
    nomatch answered _ member trivial
  rw [course] at total time
  cases total
  exact ⟨attempt, segments, closing, report, last, phases, course, time⟩

end DriverCompat
