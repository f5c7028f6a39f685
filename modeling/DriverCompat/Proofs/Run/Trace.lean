import DriverCompat.Proofs.Run.Exits

/-! # The requests of a run

One run makes one connection. A session that it was given in time is probed once, used by the checks
if the probe succeeded in time, and closed once, after which nothing is asked of the driver.
-/

namespace DriverCompat

open Connection

variable {σ κ ω : Type}

/-- The exchanges of a whole run, in order. -/
def runTrace (driver : Driver σ κ) (config : Config) (observer : Observer ω) (state : σ)
    (seen : ω) :
    List (Exchange κ) :=
  ((compatibilityRun driver.journaled config observer).run ((state, []), seen)).state.1.2

/-- The response is a success within a limit. -/
def Response.Succeeds {α : Type} (response : Response α) (limit : Nat) : Prop :=
  ∃ delay value, response = .after delay (.returned (.ok value)) ∧ delay ≤ limit

theorem Response.Late.not_succeeds {α : Type} {response : Response α} {limit : Nat}
    (late : response.Late limit) : ¬ response.Succeeds limit := by
  rintro ⟨delay, value, rfl, inTime⟩
  exact Nat.not_le_of_lt late inTime

/-- The traces of a run, by how far it came. -/
inductive Shape (config : Config) : List (Exchange κ) → Prop
  | unopened {response : Response κ} (unopened : ¬ response.Succeeds config.timeoutMs.toNat) :
      Shape config [.connect config response]
  | unprobed {delay : Nat} {session : κ} {probe closed : Response Observation}
      (opened : delay ≤ config.timeoutMs.toNat)
      (unprobed : ¬ probe.Succeeds (config.timeoutMs.toNat - delay)) :
      Shape config
        [.connect config (.after delay (.returned (.ok session))), .call session .ping probe,
          .call session .close closed]
  | served {delay : Nat} {session : κ} {probe closed : Response Observation}
      {segments : List (List (Exchange κ))} (opened : delay ≤ config.timeoutMs.toNat)
      (probed : probe.Succeeds (config.timeoutMs.toNat - delay))
      (made : List.Forall₂ (config.checks.Made session) Check.all segments) :
      Shape config
        ([.connect config (.after delay (.returned (.ok session))), .call session .ping probe] ++
          segments.flatten ++ [.call session .close closed])

/-- The phases of a run in which these checks were made: an attempt to get a session, what each
check asked of it, and its closing. -/
inductive Phases (config : Config) (list : List Check) :
    List (Exchange κ) → List (List (Exchange κ)) → List (Exchange κ) → Prop
  | unopened {response : Response κ} (unopened : ¬ response.Succeeds config.timeoutMs.toNat) :
      Phases config list [.connect config response] [] []
  | unprobed {delay : Nat} {session : κ} {probe closed : Response Observation}
      (opened : delay ≤ config.timeoutMs.toNat)
      (unprobed : ¬ probe.Succeeds (config.timeoutMs.toNat - delay)) :
      Phases config list
        [.connect config (.after delay (.returned (.ok session))), .call session .ping probe] []
        [.call session .close closed]
  | served {delay : Nat} {session : κ} {probe closed : Response Observation}
      {segments : List (List (Exchange κ))} (opened : delay ≤ config.timeoutMs.toNat)
      (probed : probe.Succeeds (config.timeoutMs.toNat - delay))
      (made : List.Forall₂ (config.checks.Made session) list segments) :
      Phases config list
        [.connect config (.after delay (.returned (.ok session))), .call session .ping probe]
        segments
        [.call session .close closed]

namespace Phases

variable {config : Config} {list : List Check} {attempt closing : List (Exchange κ)} {elapsed : Nat}
  {session : κ} {failure : Failure} {segments : List (List (Exchange κ))}

/-! An acquisition determines which phases follow it. -/

theorem of_refused (approach : Approach config attempt elapsed (.refused failure)) :
    Phases config list attempt [] [] := by
  cases approach with
  | connectLate late => exact .unopened late.not_succeeds
  | connectFailed failure inTime =>
    refine .unopened ?_
    rintro ⟨_, _, same, -⟩
    cases same

theorem of_rejected (approach : Approach config attempt elapsed (.rejected session failure))
    (closed : Response Observation) :
    Phases config list attempt [] [.call session .close closed] := by
  cases approach with
  | probeLate inTime late => exact .unprobed inTime late.not_succeeds
  | probeFailed failure inTime =>
    refine .unprobed (by omega) ?_
    rintro ⟨_, _, same, -⟩
    cases same

theorem of_served (approach : Approach config attempt elapsed (.served session))
    (made : List.Forall₂ (config.checks.Made session) list segments)
    (closed : Response Observation) :
    Phases config list attempt segments [.call session .close closed] := by
  cases approach with
  | probed inTime => exact .served (by omega) ⟨_, _, rfl, by omega⟩ made

end Phases

theorem InTurn.mem {limit elapsed : Nat} {session : κ} {calls : List Call}
    {segment : List (Exchange κ)} (inTurn : InTurn limit session elapsed calls segment)
    {exchange : Exchange κ} (member : exchange ∈ segment) :
    ∃ call ∈ calls, ∃ response, exchange = .call session call response := by
  induction inTurn with
  | last =>
    obtain rfl := List.mem_singleton.mp member
    exact ⟨_, List.mem_cons_self, _, rfl⟩
  | stopped stop =>
    obtain rfl := List.mem_singleton.mp member
    exact ⟨_, List.mem_cons_self, _, rfl⟩
  | answered inTime further ih =>
    rcases List.mem_cons.mp member with rfl | member
    · exact ⟨_, List.mem_cons_self, _, rfl⟩
    · obtain ⟨call, among, response, rfl⟩ := ih member
      exact ⟨call, List.mem_cons_of_mem _ among, response, rfl⟩

theorem Check.close_not_mem_calls (check : Check) (collection : String) :
    Call.close ∉ check.calls collection := by
  cases check <;> simp [calls]

/-- Checks make calls on their session, but never close it. -/
theorem Checks.Made.mem_flatten {checks : Checks} {session : κ} {list : List Check}
    {segments : List (List (Exchange κ))}
    (made : List.Forall₂ (checks.Made session) list segments) {exchange : Exchange κ}
    (member : exchange ∈ segments.flatten) :
    ∃ call response, exchange = .call session call response ∧ call ≠ .close := by
  induction made with
  | nil => simp at member
  | @cons check segment _ _ inTurn _ ih =>
    rw [List.flatten_cons] at member
    rcases List.mem_append.mp member with member | member
    · obtain ⟨call, among, response, rfl⟩ := inTurn.mem member
      refine ⟨call, response, rfl, ?_⟩
      rintro rfl
      exact check.close_not_mem_calls _ among
    · exact ih member

namespace Phases

variable {config : Config} {list : List Check} {attempt closing : List (Exchange κ)}
  {segments : List (List (Exchange κ))}

/-- One connection comes first, and all else are calls on the session that it opened. -/
theorem connects_once (phases : Phases config list attempt segments closing) :
    ∃ response calls, attempt ++ segments.flatten ++ closing = .connect config response :: calls ∧
      ∀ exchange ∈ calls, ∃ delay session call answer, delay ≤ config.timeoutMs.toNat ∧
        response = .after delay (.returned (.ok session)) ∧
        exchange = .call session call answer := by
  cases phases with
  | unopened _ => exact ⟨_, [], rfl, by simp⟩
  | unprobed opened _ =>
    refine ⟨_, [_, _], rfl, fun exchange member => ?_⟩
    simp only [List.mem_cons, List.not_mem_nil, or_false] at member
    rcases member with rfl | rfl <;> exact ⟨_, _, _, _, opened, rfl, rfl⟩
  | served opened _ made =>
    refine ⟨_, _, rfl, fun exchange member => ?_⟩
    change exchange ∈ .call _ .ping _ :: (_ ++ [.call _ .close _]) at member
    simp only [List.mem_cons, List.mem_append, List.not_mem_nil, or_false] at member
    rcases member with rfl | member | rfl
    · exact ⟨_, _, _, _, opened, rfl, rfl⟩
    · obtain ⟨call, response, rfl, -⟩ := Checks.Made.mem_flatten made member
      exact ⟨_, _, _, _, opened, rfl, rfl⟩
    · exact ⟨_, _, _, _, opened, rfl, rfl⟩

/-- Nothing closes a session before the last phase. -/
theorem unclosed (phases : Phases config list attempt segments closing) (session : κ)
    (closed : Response Observation) :
    .call session .close closed ∉ attempt ++ segments.flatten := by
  intro member
  cases phases with
  | unopened _ => simp at member
  | unprobed _ _ => simp at member
  | served _ _ made =>
    rcases List.mem_append.mp member with member | member
    · simp at member
    · obtain ⟨call, response, same, other⟩ := Checks.Made.mem_flatten made member
      cases same
      exact other rfl

/-- Unless the connection is all there is, the last request is a close and no earlier one is. -/
theorem ends_in_close (phases : Phases config list attempt segments closing) :
    (∃ response, attempt ++ segments.flatten ++ closing = [.connect config response] ∧
      ¬ response.Succeeds config.timeoutMs.toNat) ∨
    ∃ before session closed,
      attempt ++ segments.flatten ++ closing = before ++ [.call session .close closed] ∧
      ∀ session closed, .call session .close closed ∉ before := by
  have unclosed := phases.unclosed
  cases phases with
  | unopened unopened => exact .inl ⟨_, rfl, unopened⟩
  | unprobed _ _ => exact .inr ⟨_, _, _, rfl, unclosed⟩
  | served _ _ _ => exact .inr ⟨_, _, _, rfl, unclosed⟩

/-- A session that was opened in time is closed in the end, and only then. -/
theorem closes (phases : Phases config list attempt segments closing) {delay : Nat} {session : κ}
    (opened : .connect config (.after delay (.returned (.ok session))) ∈
      attempt ++ segments.flatten ++ closing)
    (inTime : delay ≤ config.timeoutMs.toNat) :
    ∃ before closed,
      attempt ++ segments.flatten ++ closing = before ++ [.call session .close closed] ∧
      ∀ session closed, .call session .close closed ∉ before := by
  obtain ⟨response, calls, first, onSession⟩ := phases.connects_once
  have same : response = .after delay (.returned (.ok session)) := by
    rw [first] at opened
    rcases List.mem_cons.mp opened with same | member
    · cases same
      rfl
    · obtain ⟨_, _, _, _, -, -, impossible⟩ := onSession _ member
      cases impossible
  subst same
  rcases phases.ends_in_close with ⟨_, only, unopened⟩ | ⟨before, last, closed, split, unclosed⟩
  · cases first.symm.trans only
    exact absurd ⟨delay, session, rfl, inTime⟩ unopened
  · have member : .call last .close closed ∈ calls := by
      have parts := first.symm.trans split
      cases before with
      | nil => cases parts
      | cons _ before =>
        rw [(List.cons.inj parts).2]
        exact List.mem_concat_self
    obtain ⟨_, _, _, _, -, sameSession, sameCall⟩ := onSession _ member
    cases sameSession
    cases sameCall
    exact ⟨before, closed, split, unclosed⟩

/-- The phases of a run that has made all checks come to one of the shapes. -/
theorem shape (phases : Phases config Check.all attempt segments closing) :
    Shape config (attempt ++ segments.flatten ++ closing) := by
  cases phases with
  | unopened unopened => exact .unopened unopened
  | unprobed opened unprobed => exact .unprobed opened unprobed
  | served opened probed made => exact .served opened probed made

end Phases

namespace Shape

variable {config : Config} {trace : List (Exchange κ)}

theorem exists_phases (shape : Shape config trace) :
    ∃ attempt segments closing, trace = attempt ++ segments.flatten ++ closing ∧
      Phases config Check.all attempt segments closing := by
  cases shape with
  | unopened unopened => exact ⟨_, _, _, rfl, .unopened unopened⟩
  | unprobed opened unprobed => exact ⟨_, _, _, rfl, .unprobed opened unprobed⟩
  | served opened probed made => exact ⟨_, _, _, rfl, .served opened probed made⟩

theorem connects_once (shape : Shape config trace) :
    ∃ response calls, trace = .connect config response :: calls ∧
      ∀ exchange ∈ calls, ∃ delay session call answer, delay ≤ config.timeoutMs.toNat ∧
        response = .after delay (.returned (.ok session)) ∧
        exchange = .call session call answer := by
  obtain ⟨_, _, _, rfl, phases⟩ := shape.exists_phases
  exact phases.connects_once

/-- Nothing follows a close. -/
theorem close_last (shape : Shape config trace) {before after : List (Exchange κ)} {session : κ}
    {closed : Response Observation}
    (split : trace = before ++ .call session .close closed :: after) : after = [] := by
  obtain ⟨_, _, _, rfl, phases⟩ := shape.exists_phases
  rcases phases.ends_in_close with ⟨response, only, -⟩ | ⟨earlier, _, _, parts, unclosed⟩
  · have alone := only.symm.trans split
    rcases before with _ | ⟨first, before⟩ <;> simp at alone
  · by_contra nonempty
    have earlierSplit := congrArg List.dropLast (parts.symm.trans split)
    rw [List.dropLast_concat, List.dropLast_append_of_ne_nil (List.cons_ne_nil _ _),
      List.dropLast_cons_of_ne_nil nonempty] at earlierSplit
    refine unclosed session closed ?_
    rw [earlierSplit]
    exact List.mem_append_right _ List.mem_cons_self

/-- A session that was opened in time is closed in the end. -/
theorem closes (shape : Shape config trace) {delay : Nat} {session : κ}
    (opened : .connect config (.after delay (.returned (.ok session))) ∈ trace)
    (inTime : delay ≤ config.timeoutMs.toNat) :
    ∃ before closed, trace = before ++ [.call session .close closed] := by
  obtain ⟨_, _, _, rfl, phases⟩ := shape.exists_phases
  obtain ⟨before, closed, split, -⟩ := phases.closes opened inTime
  exact ⟨before, closed, split⟩

end Shape

/-- The trace of a run with one of these courses, whose probe did not panic. -/
theorem Exits.shape {name : String} {config : Config} {observer : Observer ω} {seen : ω}
    {acquired : Option (Ending (Except Failure κ))}
    {course : Course ((σ × List (Exchange κ)) × ω) Report}
    (exits : Exits name config observer seen acquired course)
    (probe : ∀ exchange ∈ course.state.1.2[1]?, ¬ exchange.Panics) :
    Shape config course.state.1.2 := by
  cases exits with
  | @refused exchanges elapsed failure after approach =>
    have shape := (Phases.of_refused approach).shape
    rwa [List.flatten_nil, List.append_nil, List.append_nil] at shape
  | @rejected exchanges elapsed session failure closed after approach =>
    rw [state_concluding]
    have shape := (Phases.of_rejected approach closed).shape
    rwa [List.flatten_nil, List.append_nil] at shape
  | @served exchanges elapsed session segments closed after approach made =>
    rw [state_concluding]
    exact (Phases.of_served approach made closed).shape
  | panicked approach =>
    cases approach with
    | connectPanicked payload inTime =>
      refine .unopened ?_
      rintro ⟨_, _, same, -⟩
      cases same
    | probePanicked _ _ => exact absurd ⟨_, _, rfl⟩ (probe _ rfl)

theorem runTrace_logged (driver : Driver σ κ) (config : Config) (observer : Observer ω) (state : σ)
    (seen : ω) :
    ((compatibilityRun driver.logged config observer).run ((state, []), seen)).state.1.2 =
      (runTrace driver config observer state seen).map Exchange.request := by
  have alike := compatibilityRun_simulates driver.journaled_simulates_logged config observer none
    ((state, []), seen) ((state, []), seen) ⟨⟨rfl, rfl⟩, rfl⟩
  exact alike.state.1.2.symm

/-- The requests of a run whose second one, its probe, does not panic: they are those that a log of
them has, and come to one connection, alone or followed by calls on the session that it opened in
time, the last of which, and no other, closes that session. -/
theorem runTrace_shape (driver : Driver σ κ) (config : Config) {observer : Observer ω}
    (calm : observer.NeverPanics) (state : σ) (seen : ω) {journal : List (Exchange κ)}
    (run : runTrace driver config observer state seen = journal)
    (probe : ∀ exchange ∈ journal[1]?, ¬ exchange.Panics) :
    ((compatibilityRun driver.logged config observer).run ((state, []), seen)).state.1.2 =
      journal.map Exchange.request ∧
    Shape config journal ∧
    (∃ response calls, journal = .connect config response :: calls ∧
      ∀ exchange ∈ calls, ∃ delay session call answer, delay ≤ config.timeoutMs.toNat ∧
        response = .after delay (.returned (.ok session)) ∧
        exchange = .call session call answer) ∧
    (∀ before session closed after,
      journal = before ++ .call session .close closed :: after → after = []) ∧
    ∀ delay session, .connect config (.after delay (.returned (.ok session))) ∈ journal →
      delay ≤ config.timeoutMs.toNat →
      ∃ before closed, journal = before ++ [.call session .close closed] := by
  subst run
  have shape := (compatibilityRun_exits calm driver config state seen).shape probe
  exact ⟨runTrace_logged driver config observer state seen, shape, shape.connects_once,
    fun _ _ _ _ split => shape.close_last split, fun _ _ opened => shape.closes opened⟩

/-- A healthy driver is asked for a connection and then thirteen times on its session. -/
theorem runTrace_shape_memory :
    Shape .default (runTrace (Memory.driver .plain) .default .silent (.ofScript .none) ()) ∧
      (runTrace (Memory.driver .plain) .default .silent (.ofScript .none) ()).length = 14 := by
  have probe : ∀ exchange ∈
      (runTrace (Memory.driver .plain) .default .silent (.ofScript .none) ())[1]?,
      ¬ exchange.Panics := by decide +kernel
  obtain ⟨-, shape, -⟩ :=
    runTrace_shape (Memory.driver .plain) .default (fun _ _ => rfl) (.ofScript .none) () rfl probe
  exact ⟨shape, by decide +kernel⟩

end DriverCompat
