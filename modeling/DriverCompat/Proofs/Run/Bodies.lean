import DriverCompat.Proofs.Run.Release

/-! # Bodies that sessions are lent to

A body is a program: it calls its session any number of times, each call depending on the answers to
those before it, and then returns or panics. Lending a session to it ends as the body ended alone,
once the session has been closed. How the session answers to the close does not matter, nor whether
the body has closed it itself.
-/

namespace DriverCompat.Connection

variable {σ κ α : Type}

/-- What a body does with its session: it waits and makes calls, until it returns or panics. -/
inductive Work (α : Type) where
  | returns (value : α)
  | panics (payload : Payload)
  | waits (ms : Nat) (next : Work α)
  | calls (call : Call) (next : Except Failure call.Reply → Work α)

namespace Work

def perform (driver : Driver σ κ) (session : κ) : Work α → Activity σ α
  | returns value => pure value
  | panics payload => .raise payload
  | waits ms next => do
    Activity.await fun state => ⟨state, some ⟨ms, .returned (), state⟩⟩
    next.perform driver session
  | calls call next => do
    let answer ← driver.calling session call
    (next answer).perform driver session

/-- The exchanges that a body makes with its session, in the order of its calls, and how it ends
with the answers that they get. A call that panics is its last. -/
inductive Does (session : κ) : Work α → List (Exchange κ) → Ending α → Prop
  | returned (value : α) : Does session (.returns value) [] (.returned value)
  | panicked (payload : Payload) : Does session (.panics payload) [] (.panicked payload)
  | waited {ms : Nat} {next : Work α} {exchanges : List (Exchange κ)} {ending : Ending α}
      (further : Does session next exchanges ending) :
      Does session (.waits ms next) exchanges ending
  | answered {call : Call} {next : Except Failure call.Reply → Work α}
      {exchanges : List (Exchange κ)} {ending : Ending α} (delay : Nat)
      (answer : Except Failure call.Reply) (further : Does session (next answer) exchanges ending) :
      Does session (.calls call next)
        (.call session call (.after delay (.returned (answer.map call.observation))) :: exchanges)
        ending
  | callPanicked {call : Call} {next : Except Failure call.Reply → Work α} (delay : Nat)
      (payload : Payload) :
      Does session (.calls call next) [.call session call (.after delay (.panicked payload))]
        (.panicked payload)

/-- A body that has ended has entered its own exchanges behind those of the journal, whatever these
are. -/
theorem perform_journaled {driver : Driver σ κ} {session : κ} {work : Work α} {state last : σ}
    {spent : Nat} {ending : Ending α}
    (course : work.perform driver session none state = .ended spent ending last) :
    ∃ own, work.Does session own ending ∧ ∀ journal,
      work.perform driver.journaled session none (state, journal) =
        .ended spent ending (last, journal ++ own) := by
  induction work generalizing state spent with
  | returns value =>
    cases course
    exact ⟨[], .returned value, fun journal => by rw [List.append_nil]; rfl⟩
  | panics payload =>
    cases course
    exact ⟨[], .panicked payload, fun journal => by rw [List.append_nil]; rfl⟩
  | waits ms next ih =>
    rcases Activity.ended_of_bind course with
      ⟨_, _, between, more, waited, further, rfl⟩ | ⟨_, waited, -⟩
    · cases waited
      obtain ⟨own, does, entered⟩ := ih further
      refine ⟨own, .waited does, fun journal => ?_⟩
      rw [perform, Activity.bind_returned rfl, Activity.remaining_none, entered]
      rfl
    · cases waited
  | calls call next ih =>
    rcases Activity.ended_of_bind course with
      ⟨delay, answer, between, more, called, further, rfl⟩ | ⟨payload, called, rfl⟩
    · obtain ⟨own, does, entered⟩ := ih answer further
      refine ⟨_, .answered delay answer does, fun journal => ?_⟩
      rw [perform, Activity.bind_returned (Driver.calling_journaled_of_ended called journal),
        Activity.remaining_none, entered, List.append_assoc]
      rfl
    · exact ⟨_, .callPanicked spent payload, fun journal =>
        Activity.bind_panicked (Driver.calling_journaled_of_ended called journal)⟩

end Work

section Lending

variable {driver : Driver σ κ} {config : Config} {session : κ} {state served last after : σ}
  {elapsed spent delay : Nat}

/-- No body is asked for anything if no session is acquired. -/
theorem lending_of_failed {failure : Failure}
    (acquired : acquire driver config none state =
      .ended elapsed (.returned (.error failure)) after) (body : κ → Activity σ (Activity σ α)) :
    lending driver config body none state = .ended elapsed (.returned (.error failure)) after :=
  Activity.bind_returned acquired

theorem release_of_returned {answer : Except Failure Unit}
    (closed : driver.calling session .close none last = .ended delay (.returned answer) after) :
    release driver session none last = .ended delay (.returned ()) after :=
  Activity.bind_done closed rfl

/-- The time that lending takes and what it comes to, by its three parts. -/
theorem lending_of_served {doing : κ → Activity σ α} {ending : Ending α}
    {answer : Except Failure Unit}
    (acquired : acquire driver config none state = .ended elapsed (.returned (.ok session)) served)
    (done : doing session none served = .ended spent ending last)
    (closed : driver.calling session .close none last = .ended delay (.returned answer) after) :
    lending driver config (fun session => pure (doing session)) none state =
      .ended (elapsed + spent + delay) (ending.map .ok) after := by
  have released : release driver session none last =
      closing (.after delay (.returned (.ok .acknowledged))) (.returned ()) after :=
    release_of_returned closed
  have serves : (pure (doing session) >>= fun doing => serving driver doing session) none served =
      .ended (spent + delay) (ending.map .ok) after := by
    rw [Activity.pure_bind, serving_of_ended done released]
    rfl
  refine (Activity.bind_returned acquired).trans
    ((congrArg (Activity.delayed elapsed) serves).trans ?_)
  rw [Activity.delayed_ended, Nat.add_assoc]

/-- A session that is served has been opened and probed. -/
theorem acquire_journaled_of_served
    (acquired : acquire driver config none state =
      .ended elapsed (.returned (.ok session)) served) :
    ∃ opened probe, acquire driver.journaled config none (state, []) =
      .ended elapsed (.returned (.ok session)) (served, [opened, .call session .ping probe]) := by
  obtain ⟨exchanges, spent, approached, closed, final, approach, course⟩ :=
    acquire_journaled driver config state []
  have alike := acquire_simulates driver.journaled_simulates config none (state, []) state rfl
  rw [acquired] at alike
  obtain ⟨⟨_, journal⟩, journaled, rfl⟩ := alike.of_ended
  rw [journaled] at course ⊢
  cases approached with
  | refused => cases course
  | rejected => rcases closed with ⟨_, _ | _⟩ | _ <;> cases course
  | panicked => cases course
  | served =>
    cases course
    cases approach
    exact ⟨_, _, rfl⟩

end Lending

/-- A session that cannot be acquired is not lent: whatever the body is, the failure is all that
comes of it. Otherwise the calls of the body follow the probe in their order, one close follows all
of them, and what comes of it is the value or the panic of the body; the close has to be answered
for that, but may fail. -/
theorem lending_work (driver : Driver σ κ) (config : Config) (state : σ) (work : κ → Work α) :
    (∀ failure elapsed after,
      (acquire driver config).run state = .ended elapsed (.returned (.error failure)) after →
      ∀ body : κ → Activity σ (Activity σ α), (lending driver config body).run state =
        .ended elapsed (.returned (.error failure)) after) ∧
    ∀ session elapsed served spent ending last delay answer after,
      (acquire driver config).run state = .ended elapsed (.returned (.ok session)) served →
      ((work session).perform driver session).run served = .ended spent ending last →
      (driver.calling session .close).run last = .ended delay (.returned answer) after →
      (lending driver config fun session =>
        pure ((work session).perform driver session)).run state =
        .ended (elapsed + spent + delay) (ending.map .ok) after ∧
      ∃ opened probe own, (work session).Does session own ending ∧
        ((work session).perform driver.journaled session).run (served, []) =
          .ended spent ending (last, own) ∧
        (lending driver.journaled config fun session =>
            pure ((work session).perform driver.journaled session)).run (state, []) =
          .ended (elapsed + spent + delay) (ending.map .ok) (after,
            [opened, .call session .ping probe] ++ own ++ [.call session .close
              (.after delay (.returned (answer.map (Call.observation .close))))]) := by
  constructor
  · intro failure elapsed after acquired body
    exact lending_of_failed acquired body
  · intro session elapsed served spent ending last delay answer after acquired done closed
    refine ⟨lending_of_served acquired done closed, ?_⟩
    obtain ⟨opened, probe, journaled⟩ := acquire_journaled_of_served acquired
    obtain ⟨own, does, entered⟩ := Work.perform_journaled done
    exact ⟨opened, probe, own, does, entered [],
      lending_of_served journaled (entered _) (Driver.calling_journaled_of_ended closed _)⟩

/-- A body that closes its session itself and then panics. -/
def closeThenPanic : Work Unit :=
  .calls .ping fun _ => .calls .close fun _ => .panics (.text "boom")

/-- The second close that is made fails, after five milliseconds. -/
def secondCloseFails : Memory.Script where
  connect := []
  calls kind := if kind = .close then [none, some ⟨5, .failure (.driver "reset")⟩] else []

/-- A session is closed again behind a body that has closed it, and the panic of the body goes on
although that fails. -/
theorem lending_work_closeThenPanic :
    ∃ after opened probe pinged acknowledged,
      (lending (Memory.driver .plain).journaled .default fun session =>
          pure (closeThenPanic.perform (Memory.driver .plain).journaled session)).run
        (.ofScript secondCloseFails, []) =
      .ended 5 (.panicked (.text "boom")) (after, [opened, .call 0 .ping probe,
        .call 0 .ping pinged, .call 0 .close acknowledged,
        .call 0 .close (.after 5 (.returned (.error (.driver "reset"))))]) := by
  obtain ⟨-, lent⟩ := lending_work (Memory.driver .plain) .default (.ofScript secondCloseFails)
    fun _ => closeThenPanic
  obtain ⟨-, opened, probe, own, -, alone, journaled⟩ :=
    lent 0 0 _ 0 (.panicked (.text "boom")) _ 5 (.error (.driver "reset")) _ rfl rfl rfl
  cases alone
  exact ⟨_, opened, probe, _, _, journaled⟩

end DriverCompat.Connection
