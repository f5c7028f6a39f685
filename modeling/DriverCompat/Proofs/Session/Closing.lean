import DriverCompat.Memory.Session
import DriverCompat.Mongo.Session

/-! # Calls after a close

A session is left in one state after another by the calls on it, be they answered or given up by
their caller. Once it has been closed, every operation is refused at once and leaves the session and
all behind it as they are, and another close succeeds. This holds of sessions on a store and of
sessions with a deployment, for whatever calls are made before and after the close.
-/

namespace DriverCompat

variable {σ : Type}

/-- A state that a reaction leaves: that of its answer, or that in which it is given up while its
answer is waited for. -/
def Reaction.Leaves {α : Type} (reaction : Reaction σ α) (after : σ) : Prop :=
  after = reaction.pending ∨ ∃ answer, reaction.answer = some answer ∧ after = answer.state

theorem Reaction.leaves_value_iff {α : Type} {value : α} {state after : σ} :
    (Reaction.value value state).Leaves after ↔ after = state := by
  constructor
  · rintro (waiting | ⟨answer, answered, last⟩)
    · exact waiting
    · cases answered
      exact last
  · intro same
    exact .inl same

/-- What calls do to a state. -/
abbrev Reacting (σ : Type) : Type := σ → (call : Call) → Reaction σ (Except Failure call.Reply)

/-- Calls made one after another, from the state that a session is in to one that they leave. -/
inductive Calls (react : Reacting σ) : σ → List Call → σ → Prop
  | nil (state : σ) : Calls react state [] state
  | cons {source middle last : σ} {call : Call} {rest : List Call}
      (left : (react source call).Leaves middle) (further : Calls react middle rest last) :
      Calls react source (call :: rest) last

namespace Calls

variable {react : Reacting σ} {source last : σ} {before after : List Call}

/-- Calls can be cut anywhere. -/
theorem of_append (calls : Calls react source (before ++ after) last) :
    ∃ middle, Calls react source before middle ∧ Calls react middle after last := by
  induction before generalizing source with
  | nil => exact ⟨source, .nil source, calls⟩
  | cons call rest ih =>
    cases calls with
    | cons left further =>
      obtain ⟨middle, early, late⟩ := ih further
      exact ⟨middle, .cons left early, late⟩

/-- What every single call keeps is kept by calls one after another. -/
theorem invariant {Kept : σ → Prop}
    (step : ∀ state, Kept state → ∀ call next, (react state call).Leaves next → Kept next)
    (calls : Calls react source after last) (kept : Kept source) : Kept last := by
  induction calls with
  | nil => exact kept
  | cons left _ ih =>
    apply ih
    exact step _ kept _ _ left

end Calls

namespace Memory.Session

/-- A closed session on a store, which holds what it held when it was closed. -/
def ClosedWith (store : Store) (session : Session) : Prop :=
  session.closed = true ∧ session.store = store

variable {store : Store} {session : Session}

/-- A closed session refuses every operation before it looks at anything else. -/
theorem respond_of_closed (closed : session.closed = true) {call : Call}
    (isOperation : call ≠ .close) : session.respond call = .value (.error .closed) session := by
  have kept (operation : Operation) : session.obstacle? operation = some .closed := by
    rw [obstacle?, if_pos closed]
  cases call with
  | close => exact absurd rfl isOperation
  | _ => simp only [respond, guarded, kept]

theorem closedWith_of_leaves_close {next : Session} (left : (session.respond .close).Leaves next) :
    next.ClosedWith session.store := by
  obtain rfl := Reaction.leaves_value_iff.mp left
  exact ⟨rfl, rfl⟩

theorem ClosedWith.step (still : session.ClosedWith store) (call : Call) (next : Session)
    (left : (session.respond call).Leaves next) : next.ClosedWith store := by
  obtain ⟨closed, rfl⟩ := still
  by_cases closing : call = .close
  · subst closing
    exact closedWith_of_leaves_close left
  · rw [respond_of_closed closed closing] at left
    obtain rfl := Reaction.leaves_value_iff.mp left
    exact ⟨closed, rfl⟩

end Memory.Session

namespace Mongo

namespace Session

/-- The reaction of a session that stands beside the state of its client. -/
def reacting (client : Client σ) : Reacting (Session × σ) :=
  fun state call => state.1.respond client call state.2

/-- A closed session whose client is in a certain state. -/
def ClosedBeside (network : σ) (state : Session × σ) : Prop :=
  state.1.closed = true ∧ state.2 = network

variable {client : Client σ} {network : σ} {state : Session × σ}

/-- A closed session refuses every operation without making use of its client. -/
theorem reacting_of_closed (closed : state.1.closed = true) {call : Call}
    (isOperation : call ≠ .close) : reacting client state call = .value (.error .closed) state := by
  have refused {α : Type} (database : String) (exchange : Except Failure (Exchange α)) :
      state.1.perform client database state.2 exchange = .value (.error .closed) state.2 := by
    unfold perform
    rw [if_pos closed]
  cases call with
  | close => exact absurd rfl isOperation
  | _ =>
    simp only [reacting, respond, react, refused]
    rfl

theorem reacting_close_of_closed (closed : state.1.closed = true) :
    reacting client state .close = .value (.ok ()) state := by
  obtain ⟨⟨database, isClosed⟩, network⟩ := state
  dsimp only at closed
  subst closed
  rfl

/-- A session that has been asked to close is closed, even if its client never lets go. -/
theorem fst_of_leaves {call : Call} {next : Session × σ}
    (left : (reacting client state call).Leaves next) : next.1 = state.1.next call := by
  rcases left with rfl | ⟨answer, answered, rfl⟩
  · rfl
  · obtain ⟨source, -, rfl⟩ := Option.map_eq_some_iff.mp answered
    rfl

theorem sent_of_leaves_close {state next : Session × σ × List (String × Command)}
    (left : (reacting client.logged state .close).Leaves next) : next.2.2 = state.2.2 := by
  cases closed : state.1.closed with
  | true =>
    rw [reacting_close_of_closed closed] at left
    rw [Reaction.leaves_value_iff.mp left]
  | false =>
    have shutting : reacting client.logged state .close =
        ((client.logged.shutDown state.2).map .ok).mapState
          fun after => (state.1.next .close, after) := by
      rw [reacting, respond, react, closed]
      rfl
    rw [shutting] at left
    rcases left with rfl | ⟨answer, answered, rfl⟩
    · rfl
    · simp only [Reaction.mapState, Reaction.map, Client.logged, Option.map_map,
        Option.map_eq_some_iff] at answered
      obtain ⟨source, -, rfl⟩ := answered
      rfl

theorem ClosedBeside.step (still : ClosedBeside network state) (call : Call) (next : Session × σ)
    (left : (reacting client state call).Leaves next) : ClosedBeside network next := by
  obtain ⟨closed, rfl⟩ := still
  by_cases closing : call = .close
  · subst closing
    rw [reacting_close_of_closed closed] at left
    obtain rfl := Reaction.leaves_value_iff.mp left
    exact ⟨closed, rfl⟩
  · rw [reacting_of_closed closed closing] at left
    obtain rfl := Reaction.leaves_value_iff.mp left
    exact ⟨closed, rfl⟩

end Session

end Mongo

/-- After calls that contain a close, a session is closed, every further operation is refused at
once, with the same failure whatever its arguments, and a further close succeeds. A session on a
store has kept its store since the close, whatever faults it has. A session with a deployment is
closed even if its client never lets go of its connections, and since the close it has given its
client no command and has not made use of it at all. -/
theorem refused_after_close :
    (∀ (source last : Memory.Session) (before after : List Call),
      Calls Memory.Session.respond source (before ++ .close :: after) last →
      ∃ opened, Calls Memory.Session.respond source before opened ∧
        Calls Memory.Session.respond opened (.close :: after) last ∧
        last.closed = true ∧ last.store = opened.store ∧
        last.respond .close = .value (.ok ()) { last with closeCalls := last.closeCalls + 1 } ∧
        ∀ call, call ≠ .close →
          last.respond call = .value (.error (.driver "Connection is closed")) last) ∧
    ∀ {σ : Type} (client : Mongo.Client σ)
      (source last : Mongo.Session × σ × List (String × Mongo.Command)) (before after : List Call),
      Calls (Mongo.Session.reacting client.logged) source (before ++ .close :: after) last →
      ∃ opened closing, Calls (Mongo.Session.reacting client.logged) source before opened ∧
        (Mongo.Session.reacting client.logged opened .close).Leaves closing ∧
        Calls (Mongo.Session.reacting client.logged) closing after last ∧
        closing.2.2 = opened.2.2 ∧ last.1.closed = true ∧ last.2 = closing.2 ∧
        Mongo.Session.reacting client.logged last .close = .value (.ok ()) last ∧
        ∀ call, call ≠ .close → Mongo.Session.reacting client.logged last call =
          .value (.error (.driver "Connection is closed")) last := by
  constructor
  · intro source last before after calls
    obtain ⟨opened, early, late⟩ := calls.of_append
    refine ⟨opened, early, late, ?_⟩
    cases late with
    | cons left further =>
      have still : last.ClosedWith opened.store :=
        further.invariant (fun _ kept => kept.step) (Memory.Session.closedWith_of_leaves_close left)
      obtain ⟨closed, same⟩ := still
      refine ⟨closed, same, ?_, fun call isOperation => ?_⟩
      · rw [Memory.Session.respond, ← closed]
      · exact Memory.Session.respond_of_closed closed isOperation
  · intro σ client source last before after calls
    obtain ⟨opened, early, late⟩ := calls.of_append
    cases late with
    | @cons _ closing _ _ _ left further =>
      have shut : closing.1.closed = true := by rw [Mongo.Session.fst_of_leaves left]; rfl
      obtain ⟨closed, same⟩ : Mongo.Session.ClosedBeside closing.2 last :=
        further.invariant (fun _ kept => kept.step) ⟨shut, rfl⟩
      exact ⟨opened, closing, early, left, further, Mongo.Session.sent_of_leaves_close left, closed,
        same, Mongo.Session.reacting_close_of_closed closed,
        fun call isOperation => Mongo.Session.reacting_of_closed closed isOperation⟩

/-- A session none of whose operations is ever answered. -/
def stalledSession : Memory.Session :=
  (Memory.Session.open_ "shop"
    { Memory.Faults.none with hanging := Memory.Operation.all }).seed "people"
    [[("name", .string "Alice")]]

/-- A client of a deployment that answers no command. It never lets go of its connections. -/
def silentClient : Mongo.Client Unit where
  send _ _ := .never
  shutDown := .never

/-- A call is given up that is never answered, and the session closed. An update that sets nothing,
and the insertion of a document with a malformed identifier, are then refused like any other
call. -/
theorem refused_after_close_stalled :
    (∃ last : Memory.Session, last.store = stalledSession.store ∧
      last.respond (.updateOne "people" [] []) =
        .value (.error (.driver "Connection is closed")) last) ∧
    ∃ last : Mongo.Session × Unit × List (String × Mongo.Command),
      last.2.2 = [("admin", .ping)] ∧
      Mongo.Session.reacting silentClient.logged last
          (.insertOne "people" [("_id", .object [("$oid", .string "zz")])]) =
        .value (.error (.driver "Connection is closed")) last := by
  constructor
  · let last : Memory.Session := { stalledSession with closed := true, closeCalls := 1 }
    have calls : Calls Memory.Session.respond stalledSession
        ([.ping] ++ [.close, .listCollections]) last :=
      .cons (.inl rfl) (.cons (.inl rfl) (.cons (.inl rfl) (.nil _)))
    obtain ⟨-, -, -, -, -, -, refuses⟩ := refused_after_close.1 _ _ _ _ calls
    exact ⟨last, rfl, refuses _ nofun⟩
  · have calls : Calls (Mongo.Session.reacting silentClient.logged) (⟨"shop", false⟩, (), [])
        ([.ping] ++ [.close, .listCollections]) (⟨"shop", true⟩, (), [("admin", .ping)]) :=
      .cons (.inl rfl) (.cons (.inl rfl) (.cons (.inl rfl) (.nil _)))
    obtain ⟨-, -, -, -, -, -, -, -, -, refuses⟩ := refused_after_close.2 silentClient _ _ _ _ calls
    exact ⟨_, rfl, refuses _ nofun⟩

end DriverCompat
