import DriverCompat.Memory.Driver
import DriverCompat.Proofs.Memory.Session
import DriverCompat.Proofs.Run.CheckSequence

/-! # Checks on a session with a store

A session answers at once or never, so that the checks on it are a function of the session alone:
each makes its calls one after another, and the next check goes on with the session that it leaves.
All of them together change nothing but the test collection.
-/

namespace DriverCompat

namespace Memory

variable {α : Type} {stage : Stage} {index : Nat} {session : Session}

namespace Stage

/-- A stage has a certain session, and nothing more to be answered by script. -/
structure Holds (stage : Stage) (index : Nat) (session : Session) : Prop where
  found : stage.sessions[index]? = some session
  unscripted : stage.script = .none

theorem Holds.withSession (holds : stage.Holds index session) (after : Session) :
    (stage.withSession index after).Holds index after := by
  refine ⟨?_, holds.unscripted⟩
  obtain ⟨inside, -⟩ := List.getElem?_eq_some_iff.mp holds.found
  exact List.getElem?_set_self inside

theorem withSession_withSession (stage : Stage) (index : Nat) (first second : Session) :
    (stage.withSession index first).withSession index second = stage.withSession index second := by
  simp only [Stage.withSession, List.set_set]

theorem Holds.withSession_self (holds : stage.Holds index session) :
    stage.withSession index session = stage := by
  obtain ⟨sessions, script⟩ := stage
  obtain ⟨inside, rfl⟩ := List.getElem?_eq_some_iff.mp holds.found
  simp only [Stage.withSession, List.set_getElem_self]

/-- The course of something that a session answers at once or never. -/
def course (stage : Stage) (index : Nat) : Option (Ending α) × Session → Course Stage α
  | (some ending, after) => .ended 0 ending (stage.withSession index after)
  | (none, after) => .unfinished (stage.withSession index after)

theorem course_withSession (stage : Stage) (index : Nat) (between : Session)
    (attempted : Option (Ending α) × Session) :
    (stage.withSession index between).course index attempted = stage.course index attempted := by
  obtain ⟨_ | ending, after⟩ := attempted <;> simp only [course, withSession_withSession]

theorem calling_of_holds (profile : Profile) (holds : stage.Holds index session) (call : Call)
    (allowed : Option Nat) :
    (driver profile).calling index call allowed stage =
      stage.course index (session.attempt call) := by
  obtain ⟨sessions, script⟩ := stage
  obtain ⟨found, rfl⟩ := holds
  have reaction : (driver profile).call index call ⟨sessions, .none⟩ =
      (session.respond call).mapState (Stage.withSession ⟨sessions, .none⟩ index) := by
    change Stage.respond ⟨sessions, .none⟩ index call = _
    simp only [respond]
    rw [show sessions[index]? = some session from found]
  unfold Driver.calling Activity.await
  simp only [reaction, Reaction.mapState]
  rw [session.respond_eq_attempt call]
  obtain ⟨_ | ending, after⟩ := session.attempt call
  · rfl
  · cases allowed <;> rfl

end Stage

namespace Session

/-- What comes of calls that are made in turn, and the session that they leave: the answer to the
last one is observed, unless an earlier one panics or is never answered. -/
def attemptInTurn (session : Session) (call : Call) :
    List Call → Option (Ending (Except Failure Observation)) × Session
  | [] =>
    ((session.attempt call).1.map (Ending.map (Except.map call.observation)),
      (session.attempt call).2)
  | next :: rest =>
    match session.attempt call with
    | (some (.returned _), after) => after.attemptInTurn next rest
    | (some (.panicked payload), after) => (some (.panicked payload), after)
    | (none, after) => (none, after)

theorem makeInTurn_of_holds (profile : Profile) (holds : stage.Holds index session) (call : Call)
    (rest : List Call) (allowed : Option Nat) :
    Check.makeInTurn (driver profile) index call rest allowed stage =
      stage.course index (session.attemptInTurn call rest) := by
  induction rest generalizing stage session call allowed with
  | nil =>
    have called := Stage.calling_of_holds profile holds call allowed
    unfold Check.makeInTurn Check.observe attemptInTurn
    generalize session.attempt call = attempted at called ⊢
    obtain ⟨_ | ⟨answer | payload⟩, after⟩ := attempted
    · exact Activity.bind_unfinished called
    · rw [Activity.bind_returned called]
      rfl
    · exact Activity.bind_panicked called
  | cons next rest ih =>
    have called := Stage.calling_of_holds profile holds call allowed
    unfold Check.makeInTurn attemptInTurn
    generalize session.attempt call = attempted at called ⊢
    obtain ⟨_ | ⟨answer | payload⟩, after⟩ := attempted
    · exact Activity.bind_unfinished called
    · rw [Activity.bind_returned called, ih (holds.withSession after), Activity.delayed_zero,
        Stage.course_withSession]
    · exact Activity.bind_panicked called

/-- Operations on one collection, made in turn, change nothing else. -/
theorem changedAt_attemptInTurn {collection : String} {call : Call} {rest : List Call}
    (operations : ∀ made ∈ call :: rest, made ≠ .close ∧
      ∀ target ∈ made.target?, target = collection) :
    ChangedAt collection session (session.attemptInTurn call rest).2 := by
  induction rest generalizing session call with
  | nil =>
    obtain ⟨isOperation, only⟩ := operations call List.mem_cons_self
    exact changedAt_attempt isOperation only
  | cons next rest ih =>
    obtain ⟨isOperation, only⟩ := operations call List.mem_cons_self
    have first : ChangedAt collection session (session.attempt call).2 :=
      changedAt_attempt isOperation only
    unfold attemptInTurn
    generalize session.attempt call = attempted at first ⊢
    obtain ⟨_ | ⟨answer | payload⟩, after⟩ := attempted
    · exact first
    · exact first.trans (ih fun made member => operations made (List.mem_cons_of_mem _ member))
    · exact first

/-- What comes of a check, and the session that it leaves. -/
def attemptCheck (session : Session) (collection : String) (check : Check) :
    Option (Ending (Except Failure Observation)) × Session :=
  match check.calls collection with
  | [] => (none, session)
  | call :: rest => session.attemptInTurn call rest

/-- The calls of a check are operations on the test collection. -/
theorem operations_calls (collection : String) (check : Check) :
    ∀ made ∈ check.calls collection, made ≠ .close ∧
      ∀ target ∈ made.target?, target = collection := by
  cases check <;> simp [Check.calls, Call.target?]

/-- A check changes nothing but the test collection. -/
theorem changedAt_attemptCheck (collection : String) (check : Check) :
    ChangedAt collection session (session.attemptCheck collection check).2 := by
  have operations := operations_calls collection check
  unfold attemptCheck
  split
  · exact .refl session
  · rename_i calls
    rw [calls] at operations
    exact changedAt_attemptInTurn operations

end Session

end Memory

namespace Checks

open Memory

variable {ω : Type} {stage : Stage} {index : Nat} {session : Session} (checks : Checks)

theorem runCheck_of_holds (profile : Profile) (holds : stage.Holds index session) (check : Check) :
    ∃ elapsed, checks.runCheck (driver profile) index check none stage =
      .ended elapsed
        (.returned (checks.outcome check (session.attemptCheck checks.collection check).1))
        (stage.withSession index (session.attemptCheck checks.collection check).2) := by
  obtain ⟨call, rest, calls, program⟩ :=
    check.execute_eq_makeInTurn (driver profile) index checks.collection
  have course := Session.makeInTurn_of_holds profile holds call rest (some checks.timeoutMs.toNat)
  rw [← program] at course
  unfold runCheck Session.attemptCheck
  rw [calls]
  simp only
  generalize session.attemptInTurn call rest = attempted at course ⊢
  obtain ⟨_ | ending, after⟩ := attempted
  · have ended := Activity.within_none_unfinished (Activity.guarded_unfinished course)
    exact ⟨_, Activity.bind_done ended (Activity.pure_apply _ _ _)⟩
  · have ended := Activity.within_none_returned (Activity.guarded_ended course)
    exact ⟨_, Activity.bind_done ended (Activity.pure_apply _ _ _)⟩

/-- The results of checks on a session, and the session that they leave. -/
def onSession : List Check → Session → List (String × Outcome) × Session
  | [], session => ([], session)
  | check :: rest, session =>
    let (ended, after) := session.attemptCheck checks.collection check
    let (results, last) := onSession rest after
    ((check.name, checks.outcome check ended) :: results, last)

/-- All checks together change nothing but the test collection. -/
theorem changedAt_onSession (list : List Check) :
    Session.ChangedAt checks.collection session (checks.onSession list session).2 := by
  induction list generalizing session with
  | nil => exact .refl session
  | cons check rest ih => exact (Session.changedAt_attemptCheck _ check).trans ih

theorem names_onSession (list : List Check) :
    (checks.onSession list session).1.map Prod.fst = list.map Check.name := by
  induction list generalizing session with
  | nil => rfl
  | cons check rest ih => exact congrArg (check.name :: ·) ih

/-- Every result is that of a check on a session on which checks have been made before. -/
theorem exists_of_mem_onSession {list : List Check} {result : String × Outcome}
    (member : result ∈ (checks.onSession list session).1) :
    ∃ check ∈ list, ∃ between, Session.ChangedAt checks.collection session between ∧
      result = (check.name,
        checks.outcome check (between.attemptCheck checks.collection check).1) := by
  induction list generalizing session with
  | nil => cases member
  | cons check rest ih =>
    rcases List.mem_cons.mp member with rfl | later
    · exact ⟨check, List.mem_cons_self, session, .refl session, rfl⟩
    · obtain ⟨other, listed, between, changed, same⟩ := ih later
      exact ⟨other, List.mem_cons_of_mem _ listed, between,
        (Session.changedAt_attemptCheck _ check).trans changed, same⟩

/-- By induction on the checks: each is run on the session that those before it have left. -/
theorem runFrom_of_holds (profile : Profile) {observer : Observer ω} (calm : observer.NeverPanics)
    (holds : stage.Holds index session) (number : Nat) (rest : List Check) (report : Report)
    (seen : ω) :
    ∃ elapsed,
      checks.runFrom (driver profile) observer index number rest report none (stage, seen) =
      .ended elapsed (.returned (report.recordAll (checks.onSession rest session).1))
        (stage.withSession index (checks.onSession rest session).2,
          observer.follow
            (announcements number (Report.entriesOf (checks.onSession rest session).1)) seen) := by
  induction rest generalizing stage session number report seen with
  | nil => exact ⟨0, by rw [onSession, holds.withSession_self]; rfl⟩
  | cons check rest ih =>
    obtain ⟨spent, course⟩ := checks.runCheck_of_holds profile holds check
    have alike := checks.runCheck_simulates ((driver profile).beside_simulates seen) index check
      none (stage, seen) stage rfl
    rw [course] at alike
    obtain ⟨_, beside, rfl⟩ := alike.of_ended
    let outcome := checks.outcome check (session.attemptCheck checks.collection check).1
    let announced : Notification := .check number (.ofOutcome check.name outcome)
    let after := (session.attemptCheck checks.collection check).2
    obtain ⟨later, further⟩ := ih (holds.withSession after) (number + 1)
      (report.record check.name outcome) (observer.follow [announced] seen)
    have told := Observer.telling_returned calm announced none (stage.withSession index after) seen
    refine ⟨spent + (0 + later), ?_⟩
    rw [runFrom, Activity.bind_returned beside, Activity.remaining_none,
      Activity.bind_returned told, Activity.remaining_none, further, Stage.withSession_withSession,
      ← Observer.follow_append]
    rfl

end Checks

end DriverCompat
