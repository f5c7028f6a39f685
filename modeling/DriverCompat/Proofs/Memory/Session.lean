import DriverCompat.Memory.Session
import DriverCompat.Proofs.Memory.Store
import DriverCompat.Proofs.Session.Journal

/-! # What comes of a call on a session with a store

Every call but the close is an operation, which is carried out unless something keeps it from that.
An operation that is kept from it leaves the session as it was and does not succeed. One that is
carried out changes at most the collection that it names.
-/

namespace DriverCompat

/-- The operation that a call asks for; the close is none. -/
def Call.operation? : Call → Option Memory.Operation
  | .ping => some .ping
  | .createCollection _ => some .createCollection
  | .dropCollection _ => some .dropCollection
  | .listCollections => some .listCollections
  | .insertOne _ _ => some .insertOne
  | .insertMany _ _ => some .insertMany
  | .findOne _ _ => some .findOne
  | .find _ _ _ => some .find
  | .updateOne _ _ _ => some .updateOne
  | .deleteOne _ _ => some .deleteOne
  | .close => none

/-- The collection that a call may change. -/
def Call.target? : Call → Option String
  | .createCollection collection => some collection
  | .dropCollection collection => some collection
  | .insertOne collection _ => some collection
  | .insertMany collection _ => some collection
  | .updateOne collection _ _ => some collection
  | .deleteOne collection _ => some collection
  | _ => none

namespace Memory

namespace Faults

/-- An operation is made to fail, to panic or never to answer. -/
def Hits (faults : Faults) (operation : Operation) : Prop :=
  operation ∈ faults.failing ∨ operation ∈ faults.panicking ∨ operation ∈ faults.hanging

/-- No operation misbehaves, and the inserts report as many identifiers as they should. -/
structure Harmless (faults : Faults) : Prop where
  operations : ∀ operation, ¬ faults.Hits operation
  insertedId : faults.omitInsertedId = false
  insertedIds : faults.insertedIds = Option.none ∨ faults.insertedIds = some 2

theorem harmless_none : none.Harmless where
  operations _ hit := by rcases hit with listed | listed | listed <;> cases listed
  insertedId := rfl
  insertedIds := .inl rfl

end Faults

namespace Session

variable (session : Session)

/-- What a call comes to and leaves behind when nothing keeps it from being carried out. -/
def carryOut : (call : Call) → Ending (Except Failure call.Reply) × Session
  | .ping => answering (.ok (), session)
  | .createCollection collection => answering (session.createCollection collection)
  | .dropCollection collection =>
    answering (.ok (), session.withStore (session.store.remove collection))
  | .listCollections => answering (.ok session.store.names, session)
  | .insertOne collection document => answering (session.insertOne collection document)
  | .insertMany collection documents => session.insertMany collection documents
  | .findOne collection filter =>
    answering (.ok (session.store.matching collection filter).head?, session)
  | .find collection filter limit =>
    answering (.ok (Store.limited limit (session.store.matching collection filter)), session)
  | .updateOne collection filter update => answering (session.updateOne collection filter update)
  | .deleteOne collection filter => answering (session.deleteOne collection filter)
  | .close =>
    answering (.ok (), { session with closed := true, closeCalls := session.closeCalls + 1 })

theorem respond_eq_guarded {call : Call} {operation : Operation}
    (asks : call.operation? = some operation) :
    session.respond call = session.guarded operation (session.carryOut call) := by
  cases call <;> cases asks <;> rfl

/-- What comes of a call, if it is ever answered, and the session that it leaves. -/
def attempt (call : Call) : Option (Ending (Except Failure call.Reply)) × Session :=
  match (session.respond call).answer with
  | some answer => (some answer.ending, answer.state)
  | none => (none, (session.respond call).pending)

/-- A session answers at once or never. -/
theorem respond_eq_attempt (call : Call) :
    session.respond call = match session.attempt call with
      | (some ending, after) => .now ending after
      | (none, after) => .never after := by
  cases asks : call.operation? with
  | none => cases call <;> cases asks; rfl
  | some operation =>
    rw [attempt, session.respond_eq_guarded asks, guarded]
    split <;> rfl

variable {session}

theorem obstacle?_eq_none_iff (opened : session.closed = false) (operation : Operation) :
    session.obstacle? operation = none ↔ ¬ session.faults.Hits operation := by
  unfold obstacle? Faults.Hits
  simp only [opened, Bool.false_eq_true, if_false]
  by_cases hangs : operation ∈ session.faults.hanging
  · simp [hangs]
  by_cases panics : operation ∈ session.faults.panicking
  · simp [hangs, panics]
  by_cases fails : operation ∈ session.faults.failing <;> simp [hangs, panics, fails]

/-- What comes of a call, by what keeps it from being carried out. -/
theorem attempt_eq_of_asks {call : Call} {operation : Operation}
    (asks : call.operation? = some operation) :
    session.attempt call = match session.obstacle? operation with
      | some .closed => (some (.returned (.error .closed)), session)
      | some .hang => (none, session)
      | some (.panic payload) => (some (.panicked payload), session)
      | some (.failure failure) => (some (.returned (.error failure)), session)
      | none => (some (session.carryOut call).1, (session.carryOut call).2) := by
  rw [attempt, session.respond_eq_guarded asks, guarded]
  rcases session.obstacle? operation with _ | obstacle
  · rfl
  · cases obstacle <;> rfl

theorem attempt_of_free {call : Call} {operation : Operation}
    (asks : call.operation? = some operation) (free : session.obstacle? operation = none) :
    session.attempt call =
      (some (session.carryOut call).1, (session.carryOut call).2) := by
  rw [attempt_eq_of_asks asks, free]

/-- A call that something keeps from being carried out does not succeed and leaves no trace. -/
theorem attempt_of_obstacle {call : Call} {operation : Operation}
    (asks : call.operation? = some operation) {obstacle : Obstacle}
    (kept : session.obstacle? operation = some obstacle) :
    (session.attempt call).2 = session ∧
      ∀ reply, (session.attempt call).1 ≠ some (.returned (.ok reply)) := by
  rw [attempt_eq_of_asks asks, kept]
  cases obstacle <;> exact ⟨rfl, fun _ => nofun⟩

/-- A call leaves the session as it was, or is carried out. -/
theorem attempt_cases (session : Session) (call : Call) :
    (session.attempt call).2 = session ∨
      session.attempt call = (some (session.carryOut call).1, (session.carryOut call).2) := by
  cases asks : call.operation? with
  | none =>
    -- Nothing keeps a session from being closed.
    cases call <;> cases asks
    exact .inr rfl
  | some operation =>
    cases kept : session.obstacle? operation with
    | none => exact .inr (attempt_of_free asks kept)
    | some obstacle => exact .inl (attempt_of_obstacle asks kept).1

/-- The session is open, and none of its operations misbehaves. -/
structure Unimpeded (session : Session) : Prop where
  opened : session.closed = false
  operations : ∀ operation, ¬ session.faults.Hits operation

theorem Unimpeded.obstacle? (unimpeded : session.Unimpeded) (operation : Operation) :
    session.obstacle? operation = none :=
  (obstacle?_eq_none_iff unimpeded.opened operation).mpr (unimpeded.operations operation)

/-- An operation that nothing hinders is carried out at once. -/
theorem respond_of_free {call : Call} {operation : Operation}
    (asks : call.operation? = some operation) (free : session.obstacle? operation = none) :
    session.respond call = .now (session.carryOut call).1 (session.carryOut call).2 := by
  rw [session.respond_eq_guarded asks, guarded, free]

theorem Unimpeded.respond (unimpeded : session.Unimpeded) {call : Call} {operation : Operation}
    (asks : call.operation? = some operation) :
    session.respond call = .now (session.carryOut call).1 (session.carryOut call).2 :=
  respond_of_free asks (unimpeded.obstacle? operation)

/-- What may become of a session by calls on one collection: all other collections keep their
documents, and the session stays as faulty and as open as it was. -/
structure ChangedAt (collection : String) (before after : Session) : Prop where
  others : ∀ name ≠ collection, after.documents name = before.documents name
  faults : after.faults = before.faults
  closed : after.closed = before.closed

namespace ChangedAt

variable {collection : String}

theorem refl (session : Session) : ChangedAt collection session session :=
  ⟨fun _ _ => rfl, rfl, rfl⟩

theorem trans {first second third : Session} (early : ChangedAt collection first second)
    (late : ChangedAt collection second third) : ChangedAt collection first third :=
  ⟨fun name other => (late.others name other).trans (early.others name other),
    late.faults.trans early.faults, late.closed.trans early.closed⟩

/-- A store that differs in one collection only. -/
theorem withStore {store : Store}
    (others : ∀ name ≠ collection, store.get? name = session.store.get? name) :
    ChangedAt collection session (session.withStore store) :=
  ⟨others, rfl, rfl⟩

end ChangedAt

theorem changedAt_set (collection : String) (documents : List Document) :
    ChangedAt collection session (session.withStore (session.store.set collection documents)) :=
  .withStore fun name other => by rw [Store.get?_set, if_neg other]

theorem changedAt_append (collection : String) (documents : List Document) :
    ChangedAt collection session
      (session.withStore (session.store.append collection documents).1) :=
  .withStore fun name other => by rw [Store.get?_append, if_neg other]

/-- A session is left as it was, but for the documents that a collection has been given. -/
def SetsAt (collection : String) (before after : Session) : Prop :=
  after = before ∨ ∃ documents, after = before.withStore (before.store.set collection documents)

theorem SetsAt.changedAt {collection : String} {after : Session}
    (sets : SetsAt collection session after) : ChangedAt collection session after := by
  rcases sets with rfl | ⟨documents, rfl⟩
  · exact .refl after
  · exact changedAt_set collection documents

theorem setsAt_createCollection (session : Session) (collection : String) :
    SetsAt collection session (session.createCollection collection).2 := by
  unfold createCollection
  split
  · exact .inl rfl
  · exact .inr ⟨[], rfl⟩

theorem setsAt_updateOne (session : Session) (collection : String) (filter update : Document) :
    SetsAt collection session (session.updateOne collection filter update).2 := by
  unfold updateOne
  split
  · dsimp only
    split
    · rename_i change
      obtain ⟨documents, rfl⟩ := Store.eq_set_of_change _ _ change
      exact .inr ⟨documents, rfl⟩
    · exact .inl rfl
  · exact .inl rfl

theorem setsAt_deleteOne (session : Session) (collection : String) (filter : Document) :
    SetsAt collection session (session.deleteOne collection filter).2 := by
  unfold deleteOne
  split
  · rename_i change
    obtain ⟨documents, rfl⟩ := Store.eq_set_of_change _ _ change
    exact .inr ⟨documents, rfl⟩
  · exact .inl rfl

/-- A call that is carried out changes at most the collection that it names. -/
theorem changedAt_carryOut {call : Call} {collection : String} (isOperation : call ≠ .close)
    (only : ∀ target ∈ call.target?, target = collection) :
    ChangedAt collection session (session.carryOut call).2 := by
  cases call with
  | ping | listCollections | findOne | find => exact .refl session
  | close => exact absurd rfl isOperation
  | createCollection name =>
    obtain rfl := only name rfl
    exact (session.setsAt_createCollection name).changedAt
  | dropCollection name =>
    obtain rfl := only name rfl
    exact .withStore fun other differs => by rw [Store.get?_remove, if_neg differs]
  | insertOne name document =>
    obtain rfl := only name rfl
    exact changedAt_append name [document]
  | insertMany name documents =>
    obtain rfl := only name rfl
    exact changedAt_append name documents
  | updateOne name filter update =>
    obtain rfl := only name rfl
    exact (session.setsAt_updateOne name filter update).changedAt
  | deleteOne name filter =>
    obtain rfl := only name rfl
    exact (session.setsAt_deleteOne name filter).changedAt

theorem changedAt_attempt {call : Call} {collection : String} (isOperation : call ≠ .close)
    (only : ∀ target ∈ call.target?, target = collection) :
    ChangedAt collection session (session.attempt call).2 := by
  rcases session.attempt_cases call with unchanged | carried
  · rw [unchanged]
    exact .refl session
  · rw [carried]
    exact changedAt_carryOut isOperation only

end Session

end Memory

end DriverCompat
