import DriverCompat.Proofs.Memory.Checks

/-! # Checks on a session that behaves

On an open session without faults every check passes, and what it does to the test collection can be
said exactly. Whatever the collection held before, it is gone when all checks have been made.
-/

namespace DriverCompat

open Memory

namespace Memory.Session

variable {session : Session}

/-- A session that is open, and whose operations work. -/
structure Healthy (session : Session) : Prop where
  opened : session.closed = false
  harmless : session.faults.Harmless

theorem Healthy.of_changedAt {collection : String} {after : Session} (healthy : session.Healthy)
    (changed : ChangedAt collection session after) : after.Healthy :=
  ⟨changed.closed.trans healthy.opened, changed.faults ▸ healthy.harmless⟩

theorem Healthy.unimpeded (healthy : session.Healthy) : session.Unimpeded :=
  ⟨healthy.opened, healthy.harmless.operations⟩

theorem Healthy.attempt {call : Call} {operation : Operation} (healthy : session.Healthy)
    (asks : call.operation? = some operation) :
    session.attempt call =
      (some (session.carryOut call).1, (session.carryOut call).2) :=
  attempt_of_free asks (healthy.unimpeded.obstacle? operation)

/-- A check of one call observes what that call answers when it is carried out. -/
theorem Healthy.attemptCheck {collection : String} {check : Check} {call : Call}
    {operation : Operation} (healthy : session.Healthy) (calls : check.calls collection = [call])
    (asks : call.operation? = some operation) :
    session.attemptCheck collection check =
      (some ((session.carryOut call).1.map (Except.map call.observation)),
        (session.carryOut call).2) := by
  rw [Session.attemptCheck, calls]
  simp only [attemptInTurn, healthy.attempt asks]
  rfl

end Memory.Session

namespace Check

/-- A document as it is stored, with an identifier at its end. -/
def stored (document : Document) (id : String) : Document := document ++ [("_id", .string id)]

theorem updatedAge_range : -2 ^ 63 ≤ updatedAge ∧ updatedAge < 2 ^ 64 := by decide

/-- The first document after its update. -/
def olderAlice : Document := person "Alice" updatedAge updatedAge_range

end Check

namespace Checks

open Check

variable (checks : Checks)

/-- On a healthy session, a check passes if the test collection holds something of a kind, and it
holds something of another kind afterwards. -/
def Turns (check : Check) (before after : Option (List Document) → Prop) : Prop :=
  ∀ session : Session, session.Healthy → before (session.documents checks.collection) →
    checks.outcome check (session.attemptCheck checks.collection check).1 = .pass ∧
      after ((session.attemptCheck checks.collection check).2.documents checks.collection)

variable {checks}

theorem turns_ping (kind : Option (List Document) → Prop) : checks.Turns .ping kind kind := by
  intro session healthy held
  rw [healthy.attemptCheck rfl rfl]
  exact ⟨rfl, held⟩

/-- The collection is created anew, whatever it held. -/
theorem turns_createCollection :
    checks.Turns .createCollection (fun _ => True) (· = some []) := by
  intro session healthy _
  let dropped := (session.carryOut (.dropCollection checks.collection)).2
  have left : dropped.store.get? checks.collection = none :=
    (Store.get?_remove _ _ _).trans (if_pos rfl)
  have still : dropped.Healthy := ⟨healthy.opened, healthy.harmless⟩
  have created : dropped.createCollection checks.collection =
      (.ok (), dropped.withStore (dropped.store.set checks.collection [])) := by
    rw [Session.createCollection, left]
  have course : session.attemptCheck checks.collection .createCollection =
      (some (.returned (.ok .acknowledged)),
        dropped.withStore (dropped.store.set checks.collection [])) := by
    unfold Session.attemptCheck Check.calls
    simp only [Session.attemptInTurn]
    rw [healthy.attempt rfl]
    change ((dropped.attempt _).1.map _, (dropped.attempt _).2) = _
    rw [still.attempt rfl]
    simp only [Session.carryOut, created]
    rfl
  rw [course]
  exact ⟨rfl, (Store.get?_set _ _ _ _).trans (if_pos rfl)⟩

theorem turns_insertOne :
    checks.Turns .insertOne (· = some []) (fun held => ∃ id, held = some [stored alice id]) := by
  intro session healthy held
  rw [healthy.attemptCheck rfl rfl]
  have reported := healthy.harmless.insertedId
  constructor
  · simp only [Session.carryOut, Session.insertOne, reported]
    rfl
  · exact ⟨_, Store.get?_append_self _ _ held [alice]⟩

theorem turns_findOne :
    checks.Turns .findOne (fun held => ∃ id, held = some [stored alice id])
      (fun held => ∃ id, held = some [stored alice id]) := by
  rintro session healthy ⟨id, held⟩
  rw [healthy.attemptCheck rfl rfl]
  refine ⟨?_, id, held⟩
  simp only [Session.carryOut, Store.matching]
  rw [show session.store.get? checks.collection = some [stored alice id] from held]
  rfl

theorem turns_insertMany :
    checks.Turns .insertMany (fun held => ∃ id, held = some [stored alice id])
      (fun held => ∃ a b c, held = some [stored alice a, stored bob b, stored charlie c]) := by
  rintro session healthy ⟨id, held⟩
  rw [healthy.attemptCheck rfl rfl]
  constructor
  · simp only [Session.carryOut, Session.insertMany]
    rcases healthy.harmless.insertedIds with reported | reported
    · rw [reported]
      rfl
    · rw [reported]
      rfl
  · exact ⟨id, _, _, Store.get?_append_self _ _ held [bob, charlie]⟩

theorem turns_findWithLimit :
    checks.Turns .findWithLimit
      (fun held => ∃ a b c, held = some [stored alice a, stored bob b, stored charlie c])
      (fun held => ∃ a b c, held = some [stored alice a, stored bob b, stored charlie c]) := by
  rintro session healthy ⟨a, b, c, held⟩
  rw [healthy.attemptCheck rfl rfl]
  refine ⟨?_, a, b, c, held⟩
  simp only [Session.carryOut, Store.matching]
  rw [show session.store.get? checks.collection = some _ from held]
  rfl

theorem turns_updateOne :
    checks.Turns .updateOne
      (fun held => ∃ a b c, held = some [stored alice a, stored bob b, stored charlie c])
      (fun held => ∃ a b c, held = some [stored olderAlice a, stored bob b, stored charlie c]) := by
  rintro session healthy ⟨a, b, c, held⟩
  rw [healthy.attemptCheck rfl rfl]
  have changed : session.updateOne checks.collection (named "Alice") setAge =
      (.ok 1, session.withStore (session.store.set checks.collection
        [stored olderAlice a, stored bob b, stored charlie c])) := by
    unfold Session.updateOne Store.change
    rw [show session.store.get? checks.collection = some _ from held]
    rfl
  simp only [Session.carryOut, changed]
  exact ⟨rfl, a, b, c, (Store.get?_set _ _ _ _).trans (if_pos rfl)⟩

theorem turns_deleteOne :
    checks.Turns .deleteOne
      (fun held => ∃ a b c, held = some [stored olderAlice a, stored bob b, stored charlie c])
      (fun held => ∃ a c, held = some [stored olderAlice a, stored charlie c]) := by
  rintro session healthy ⟨a, b, c, held⟩
  rw [healthy.attemptCheck rfl rfl]
  have changed : session.deleteOne checks.collection (named "Bob") =
      (.ok 1, session.withStore (session.store.set checks.collection
        [stored olderAlice a, stored charlie c])) := by
    unfold Session.deleteOne Store.change
    rw [show session.store.get? checks.collection = some _ from held]
    rfl
  simp only [Session.carryOut, changed]
  exact ⟨rfl, a, c, (Store.get?_set _ _ _ _).trans (if_pos rfl)⟩

theorem turns_listCollections :
    checks.Turns .listCollections
      (fun held => ∃ a c, held = some [stored olderAlice a, stored charlie c]) (·.isSome) := by
  rintro session healthy ⟨a, c, held⟩
  rw [healthy.attemptCheck rfl rfl]
  have present : (session.documents checks.collection).isSome := by rw [held]; rfl
  have listed : checks.collection ∈ session.store.names := (Store.mem_names _ _).mpr present
  refine ⟨?_, present⟩
  change Check.evaluate .listCollections checks.collection (.ok (.collectionNames _)) = _
  simp only [Check.evaluate, Check.judge, listed, if_true]

theorem turns_dropCollection :
    checks.Turns .dropCollection (·.isSome) (· = none) := by
  intro session healthy _
  rw [healthy.attemptCheck rfl rfl]
  exact ⟨rfl, (Store.get?_remove _ _ _).trans (if_pos rfl)⟩

variable (checks) in
/-- On a healthy session all of some checks pass if the test collection holds something of a kind,
and it holds something of another kind afterwards. -/
def TurnAll (list : List Check) (before after : Option (List Document) → Prop) : Prop :=
  ∀ session : Session, session.Healthy → before (session.documents checks.collection) →
    (∀ result ∈ (checks.onSession list session).1, result.2 = .pass) ∧
      after ((checks.onSession list session).2.documents checks.collection)

theorem turnAll_nil (kind : Option (List Document) → Prop) : checks.TurnAll [] kind kind :=
  fun _ _ held => ⟨nofun, held⟩

theorem Turns.cons {check : Check} {rest : List Check}
    {before between after : Option (List Document) → Prop}
    (first : checks.Turns check before between)
    (others : checks.TurnAll rest between after) : checks.TurnAll (check :: rest) before after := by
  intro session healthy held
  obtain ⟨passes, turned⟩ := first session healthy held
  obtain ⟨pass, last⟩ := others _
    (healthy.of_changedAt (Session.changedAt_attemptCheck checks.collection check)) turned
  exact ⟨List.forall_mem_cons.mpr ⟨passes, pass⟩, last⟩

/-- On a healthy session all checks pass, and the test collection is gone in the end. -/
theorem turnAll_all : checks.TurnAll Check.all (fun _ => True) (· = none) :=
  (turns_ping _).cons <| turns_createCollection.cons <| turns_insertOne.cons <|
    turns_findOne.cons <| turns_insertMany.cons <| turns_findWithLimit.cons <|
    turns_updateOne.cons <| turns_deleteOne.cons <| turns_listCollections.cons <|
    turns_dropCollection.cons <| turnAll_nil _

end Checks

end DriverCompat
