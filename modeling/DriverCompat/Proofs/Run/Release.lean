import DriverCompat.Memory.Driver
import DriverCompat.Proofs.Run.Acquisition

/-! # The release of sessions

A session that was opened is closed by the manager exactly once, whether its probe fails or a body
has been at work with it, and is not closed if the acquisition hands it on. There are two panics
that leave it open: that of the probe, and that of a body which panics when it is called, before it
has said what it will do.
-/

namespace DriverCompat.Connection

variable {σ τ κ α : Type}

/-- The session that a connection has handed out, by a journal that begins with the connection. -/
def HandedOut (config : Config) (session : κ) (journal : List (Exchange κ)) : Prop :=
  ∃ delay ≤ config.timeoutMs.toNat,
    journal.head? = some (.connect config (.after delay (.returned (.ok session))))

/-- All that a body does: it is called, and then does what it has said. -/
def performing (body : κ → Activity τ (Activity τ α)) (session : κ) : Activity τ α :=
  body session >>= id

section Own

variable (driver : Driver σ κ) (config : Config)
  (body : κ → Activity (σ × List (Exchange κ)) (Activity (σ × List (Exchange κ)) α)) (state : σ)

/-- The exchanges that a body has made itself: there are none unless a session is served to it. -/
def ownExchanges : List (Exchange κ) :=
  match (acquire driver.journaled config).run (state, []) with
  | .ended _ (.returned (.ok session)) served =>
    ((performing body session).run served).state.2.drop served.2.length
  | _ => []

/-- A panic leaves the lending of a session where nothing catches it: the acquisition panics, or the
body does when it is called. -/
def Escapes : Prop :=
  match (acquire driver.journaled config).run (state, []) with
  | .ended _ (.returned (.ok session)) served =>
    ∃ payload, ((body session).run served).ending? = some (.panicked payload)
  | .ended _ (.panicked _) _ => True
  | _ => False

end Own

/-- What can come of a session that has been handed out, by the answer to its probe. -/
inductive Approached.Of (session : κ) (probe : Response Observation) : Approached κ → Prop where
  | rejected (failure : Failure) : Of session probe (.rejected session failure)
  | served : Of session probe (.served session)
  | panicked (payload : Payload) (panics : probe.Panics) : Of session probe (.panicked payload)

/-- What comes of an acquisition whose connection has handed out a session. -/
theorem Approach.of_handedOut {config : Config} {exchanges journal : List (Exchange κ)}
    {elapsed : Nat} {approached : Approached κ} {session : κ}
    (approach : Approach config exchanges elapsed approached) (begins : exchanges <+: journal)
    (handed : HandedOut config session journal) :
    ∃ opened probe, exchanges = [opened, .call session .ping probe] ∧
      approached.Of session probe := by
  obtain ⟨further, rfl⟩ := begins
  obtain ⟨delay, inTime, first⟩ := handed
  cases approach with
  | connectLate late =>
    cases first
    exact absurd inTime (Nat.not_le.mpr late)
  | connectFailed failure _ => cases first
  | connectPanicked payload _ => cases first
  | probeLate _ late =>
    cases first
    exact ⟨_, _, rfl, .rejected _⟩
  | probeFailed failure _ =>
    cases first
    exact ⟨_, _, rfl, .rejected _⟩
  | probePanicked payload _ =>
    cases first
    exact ⟨_, _, rfl, .panicked payload ⟨_, payload, rfl⟩⟩
  | probed _ =>
    cases first
    exact ⟨_, _, rfl, .served⟩

/-- A course that ends with a close ends as was to be made known, if the close returns. -/
theorem of_closing_ended {closed : Response Observation} {ending known : Ending α} {state after : τ}
    {spent elapsed : Nat}
    (course : Activity.delayed spent (closing closed ending state) = .ended elapsed known after) :
    after = state ∧ (closed.Returns → known = ending) := by
  rcases closed with ⟨delay, answer | payload⟩ | _
  · cases course
    exact ⟨rfl, fun _ => rfl⟩
  · cases course
    refine ⟨rfl, ?_⟩
    rintro ⟨_, _, same⟩
    cases same
  · cases course

/-- The journal begins with the exchanges of the connection and the probe, if it does so after what
is done with a session that is served. -/
theorem Approached.isPrefix_of_ended {approached : Approached κ} {spent elapsed : Nat}
    {closed : Response Observation} {between after : σ} {exchanges journal : List (Exchange κ)}
    {serve : κ → Course (σ × List (Exchange κ)) (Except Failure α)}
    {ending : Ending (Except Failure α)}
    (course :
      approached.course spent closed (fun further => (between, exchanges ++ further)) serve =
      .ended elapsed ending (after, journal))
    (serves : ∀ session delay answer last, serve session = .ended delay answer last →
      exchanges <+: last.2) : exchanges <+: journal := by
  cases approached with
  | refused failure =>
    cases course
    exact List.prefix_append _ _
  | rejected session failure =>
    obtain ⟨same, -⟩ := of_closing_ended course
    cases same
    exact List.prefix_append _ _
  | served session =>
    obtain ⟨delay, served, -⟩ := Activity.exists_of_delayed course
    exact serves session delay ending _ served
  | panicked payload =>
    cases course
    exact List.prefix_append _ _

section Serving

variable {driver : Driver σ κ} {session : κ}
  {body : κ → Activity (σ × List (Exchange κ)) (Activity (σ × List (Exchange κ)) α)}
  {served : σ × List (Exchange κ)} {elapsed : Nat} {ending : Ending (Except Failure α)}
  {after : σ} {journal : List (Exchange κ)}

/-- A session that is served is closed after all that the body does, unless the body panics when it
is called. -/
theorem serving_journal
    (course : (body session >>= fun doing => serving driver.journaled doing session) none served =
      .ended elapsed ending (after, journal)) :
    ((∃ payload, ((body session).run served).ending? = some (.panicked payload)) ∧
        (∃ payload, ending = .panicked payload) ∧
        journal = ((performing body session).run served).state.2) ∨
      (¬ ∃ payload, ((body session).run served).ending? = some (.panicked payload)) ∧
        ∃ closed, journal =
          ((performing body session).run served).state.2 ++ [.call session .close closed] := by
  unfold performing Activity.run
  rcases Activity.ended_of_bind course with
    ⟨delay, doing, between, more, called, further, -⟩ | ⟨payload, called, rfl⟩
  · rw [called, Activity.bind_returned called, Activity.remaining_none, id]
    cases done : doing none between with
    | unfinished waiting =>
      rw [serving, Activity.bind_unfinished (Activity.guarded_unfinished done)] at further
      cases further
    | ended spent answer last =>
      obtain ⟨closed, final, released⟩ := release_journaled driver session last.1 last.2
      rw [serving_of_ended done released] at further
      obtain ⟨same, -⟩ := of_closing_ended further
      refine .inr ⟨?_, closed, congrArg Prod.snd same⟩
      rintro ⟨_, panicked⟩
      cases panicked
  · rw [called, Activity.bind_panicked called]
    exact .inl ⟨⟨payload, rfl⟩, ⟨payload, rfl⟩, rfl⟩

end Serving

/-- An acquisition that has been handed a session hands it on, or closes it exactly once, or panics
as its probe does. -/
theorem acquire_journal (driver : Driver σ κ) (config : Config) (state : σ) {elapsed : Nat}
    {ending : Ending (Except Failure κ)} {after : σ} {journal : List (Exchange κ)} {session : κ}
    (run : (acquire driver.journaled config).run (state, []) =
      .ended elapsed ending (after, journal))
    (closes : ∀ exchange ∈ journal, exchange.IsClose → exchange.Returns)
    (handed : HandedOut config session journal) :
    ∃ opened probe,
      ending = .returned (.ok session) ∧ journal = [opened, .call session .ping probe] ∨
      (∃ failure closed, ending = .returned (.error failure) ∧
        journal = [opened, .call session .ping probe, .call session .close closed]) ∨
      (∃ payload, ending = .panicked payload) ∧ probe.Panics ∧
        journal = [opened, .call session .ping probe] := by
  obtain ⟨exchanges, spent, approached, closed, final, approach, course⟩ :=
    acquire_journaled driver config state []
  rw [Activity.run, course] at run
  have begins : exchanges <+: journal := by
    refine Approached.isPrefix_of_ended run fun lent delay answer last served => ?_
    cases served
    exact List.prefix_append _ _
  obtain ⟨opened, probe, rfl, outcome⟩ := approach.of_handedOut begins handed
  cases outcome with
  | rejected failure =>
    obtain ⟨same, known⟩ := of_closing_ended run
    cases same
    have returns := closes (.call session .close closed) (by simp) trivial
    exact ⟨opened, probe, .inr (.inl ⟨failure, closed, known returns, rfl⟩)⟩
  | served =>
    cases run
    exact ⟨opened, probe, .inl ⟨rfl, rfl⟩⟩
  | panicked payload panics =>
    cases run
    exact ⟨opened, probe, .inr (.inr ⟨⟨payload, rfl⟩, panics, rfl⟩)⟩

/-- Lending a session that has been handed out ends with exactly one close beside those that the
body makes itself, whatever the body does, unless a panic escapes. -/
theorem lending_journal (driver : Driver σ κ) (config : Config) (state : σ)
    {body : κ → Activity (σ × List (Exchange κ)) (Activity (σ × List (Exchange κ)) α)}
    (adds : ∀ session served, served.2 <+: ((performing body session).run served).state.2)
    {elapsed : Nat} {ending : Ending (Except Failure α)} {after : σ} {journal : List (Exchange κ)}
    {session : κ} (run : (lending driver.journaled config body).run (state, []) =
      .ended elapsed ending (after, journal))
    (closes : ∀ exchange ∈ journal, exchange.IsClose → exchange.Returns)
    (handed : HandedOut config session journal) :
    ∃ opened probe,
      (Escapes driver config body state ∧ (∃ payload, ending = .panicked payload) ∧
        journal = [opened, .call session .ping probe] ++ ownExchanges driver config body state) ∨
      (¬ Escapes driver config body state ∧ ∃ closed,
        journal = [opened, .call session .ping probe] ++ ownExchanges driver config body state ++
          [.call session .close closed]) := by
  obtain ⟨exchanges, spent, approached, closed, final, approach, course⟩ :=
    acquire_journaled driver config state []
  rw [Activity.run, lending_of_acquired body course] at run
  unfold Escapes ownExchanges
  rw [Activity.run, course]
  have begins : exchanges <+: journal := by
    refine Approached.isPrefix_of_ended run fun lent delay answer last served => ?_
    have kept : exchanges <+: ((performing body lent).run (final, exchanges)).state.2 :=
      adds lent (final, exchanges)
    simp only [List.nil_append, List.append_nil] at served
    rcases serving_journal served with ⟨-, -, whole⟩ | ⟨-, _, whole⟩
    · exact whole ▸ kept
    · exact whole ▸ kept.trans (List.prefix_append _ _)
  obtain ⟨opened, probe, rfl, outcome⟩ := approach.of_handedOut begins handed
  refine ⟨opened, probe, ?_⟩
  cases outcome with
  | rejected failure =>
    obtain ⟨same, known⟩ := of_closing_ended run
    cases same
    obtain ⟨delay, answer, rfl⟩ := closes (.call session .close closed) (by simp) trivial
    exact .inr ⟨id, _, rfl⟩
  | served =>
    obtain ⟨_, served, -⟩ := Activity.exists_of_delayed run
    simp only [List.nil_append, List.append_nil] at served
    obtain ⟨own, whole⟩ := adds session (final, [opened, .call session .ping probe])
    have behind : ((performing body session).run
        (final, [opened, .call session .ping probe])).state.2.drop 2 = own := by
      rw [← whole]
      rfl
    rcases serving_journal served with ⟨panicked, known, rfl⟩ | ⟨calm, closed, rfl⟩
    · refine .inl ⟨panicked, known, ?_⟩
      rw [← whole]
      exact congrArg _ behind.symm
    · refine .inr ⟨calm, closed, ?_⟩
      rw [← whole]
      exact congrArg (_ ++ · ++ _) behind.symm
  | panicked payload panics =>
    cases run
    exact .inl ⟨trivial, ⟨payload, rfl⟩, rfl⟩

/-- A session that the connection has handed out is closed exactly once before an acquisition or the
lending of a session is over, beside what a body that only adds to the journal closes itself. Only
an acquisition that hands the session on does not close it, and these two panics leave it open: that
of the probe, and that of a body which panics when it is called. -/
theorem closed_once (driver : Driver σ κ) (config : Config) (state : σ)
    (body : κ → Activity (σ × List (Exchange κ)) (Activity (σ × List (Exchange κ)) α))
    (adds : ∀ session served, served.2 <+: ((performing body session).run served).state.2)
    {session : κ} {elapsed : Nat} {after : σ} {journal : List (Exchange κ)}
    (closes : ∀ exchange ∈ journal, exchange.IsClose → exchange.Returns)
    (handed : HandedOut config session journal) :
    (∀ ending, (acquire driver.journaled config).run (state, []) =
        .ended elapsed ending (after, journal) →
      ∃ opened probe,
        ending = .returned (.ok session) ∧ journal = [opened, .call session .ping probe] ∨
        (∃ failure closed, ending = .returned (.error failure) ∧
          journal = [opened, .call session .ping probe, .call session .close closed]) ∨
        (∃ payload, ending = .panicked payload) ∧ probe.Panics ∧
          journal = [opened, .call session .ping probe]) ∧
    ∀ ending, (lending driver.journaled config body).run (state, []) =
        .ended elapsed ending (after, journal) →
      ∃ opened probe,
        (Escapes driver config body state ∧ (∃ payload, ending = .panicked payload) ∧
          journal = [opened, .call session .ping probe] ++ ownExchanges driver config body state) ∨
        (¬ Escapes driver config body state ∧ ∃ closed,
          journal = [opened, .call session .ping probe] ++ ownExchanges driver config body state ++
            [.call session .close closed]) :=
  ⟨fun _ run => acquire_journal driver config state run closes handed,
    fun _ run => lending_journal driver config state adds run closes handed⟩

/-- A driver on whose sessions an operation misbehaves. -/
def faulty (faults : Memory.Faults) : Driver Memory.Stage Nat :=
  Memory.driver { Memory.Profile.plain with faults }

/-- A body that says that it will ping its session and then panic. -/
def pingThenPanic (driver : Driver τ κ) (session : κ) : Activity τ (Activity τ Unit) :=
  return do
    let _ ← driver.calling session .ping
    Activity.raise (.text "boom")

theorem pingThenPanic_adds (driver : Driver σ κ) (session : κ) (served : σ × List (Exchange κ)) :
    served.2 <+: ((performing (pingThenPanic driver.journaled) session).run served).state.2 := by
  obtain ⟨response, after, course⟩ := driver.calling_journaled session .ping none served.1 served.2
  rw [performing, pingThenPanic, Activity.pure_bind, id, Activity.run]
  rcases response with ⟨delay, _ | payload⟩ | _
  · rw [Response.course_after_none] at course
    rw [Activity.bind_returned course]
    exact List.prefix_append _ _
  · rw [Response.course_after_none] at course
    rw [Activity.bind_panicked course]
    exact List.prefix_append _ _
  · rw [Activity.bind_unfinished course]
    exact List.prefix_append _ _

/-- A session is closed behind the ping of a body that panics after it. -/
theorem closed_once_memory :
    ∃ elapsed payload after journal,
      (lending (Memory.driver .plain).journaled .default
          (pingThenPanic (Memory.driver .plain).journaled)).run (.ofScript .none, []) =
        .ended elapsed (.panicked payload) (after, journal) ∧
      ∃ opened probe own closed,
        journal = [opened, .call 0 .ping probe, .call 0 .ping own, .call 0 .close closed] := by
  let answered : Response Observation := .after 0 (.returned (.ok .acknowledged))
  let journal : List (Exchange Nat) := [.connect .default (.after 0 (.returned (.ok 0))),
    .call 0 .ping answered, .call 0 .ping answered, .call 0 .close answered]
  have closes : ∀ exchange ∈ journal, exchange.IsClose → exchange.Returns := by decide
  obtain ⟨-, lent⟩ := closed_once (Memory.driver .plain) .default (.ofScript .none) _
    (pingThenPanic_adds (Memory.driver .plain)) closes ⟨0, by decide, rfl⟩
  refine ⟨_, _, _, journal, rfl, ?_⟩
  obtain ⟨opened, probe, ⟨escapes, -⟩ | ⟨-, closed, whole⟩⟩ := lent _ rfl
  · obtain ⟨_, same⟩ := escapes
    cases same
  · exact ⟨opened, probe, _, closed, whole⟩

/-- The panic of a probe, and that of a body when it is called, leave the session open. -/
theorem handedOut_not_closed :
    (∃ elapsed payload after journal,
      (acquire (faulty { Memory.Faults.none with panicking := [.ping] }).journaled .default).run
        (.ofScript .none, []) = .ended elapsed (.panicked payload) (after, journal) ∧
      HandedOut .default 0 journal ∧ ∀ exchange ∈ journal, ¬ exchange.IsClose) ∧
    ∃ elapsed payload after journal,
      (lending (Memory.driver .plain).journaled .default
          (fun _ => (Activity.raise (.text "boom") : Activity _ (Activity _ Unit)))).run
        (.ofScript .none, []) = .ended elapsed (.panicked payload) (after, journal) ∧
      HandedOut .default 0 journal ∧ ∀ exchange ∈ journal, ¬ exchange.IsClose :=
  ⟨⟨_, _, _, _, rfl, ⟨0, by decide, rfl⟩, by decide⟩,
    ⟨_, _, _, _, rfl, ⟨0, by decide, rfl⟩, by decide⟩⟩

end DriverCompat.Connection
