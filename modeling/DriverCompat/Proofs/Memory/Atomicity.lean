import DriverCompat.Proofs.Memory.Likeness

/-! # Calls that do not succeed

A call on a session with a store succeeds, is answered with a failure, panics, or is never answered.
Unless it succeeds, the session stays as it was, so that it makes no difference whether the call was
made at all. One call is an exception: if an insert of several documents is to report more
identifiers than there can be room for, it panics after the documents were stored.
-/

namespace DriverCompat.Memory.Session

variable {session : Session} {call : Call}

/-- The reasons for what keeps an operation from being carried out. -/
inductive Hinders (session : Session) (operation : Operation) : Obstacle → Prop
  | closed (closed : session.closed = true) : Hinders session operation .closed
  | hang (hangs : operation ∈ session.faults.hanging) : Hinders session operation .hang
  | panic (panics : operation ∈ session.faults.panicking) :
      Hinders session operation (.panic (.text s!"injected panic in {operation.name}"))
  | failure (fails : operation ∈ session.faults.failing) :
      Hinders session operation (.failure (.driver s!"injected failure in {operation.name}"))

theorem hinders_of_obstacle? {operation : Operation} {obstacle : Obstacle}
    (kept : session.obstacle? operation = some obstacle) : session.Hinders operation obstacle := by
  unfold obstacle? at kept
  split at kept
  · cases kept
    exact .closed ‹_›
  split at kept
  · cases kept
    exact .hang ‹_›
  split at kept
  · cases kept
    exact .panic ‹_›
  split at kept
  · cases kept
    exact .failure ‹_›
  · cases kept

/-- The reasons for a failure that a call is answered with. -/
inductive Fails (session : Session) : Call → Failure → Prop
  | closed {call : Call} (isOperation : call ≠ .close) (closed : session.closed = true) :
      Fails session call .closed
  | injected {call : Call} {operation : Operation} (asks : call.operation? = some operation)
      (fails : operation ∈ session.faults.failing) :
      Fails session call (.driver s!"injected failure in {operation.name}")
  | present {collection : String} {held : List Document}
      (present : session.documents collection = some held) :
      Fails session (.createCollection collection) (session.alreadyExists collection)
  | unset {collection : String} {filter update : Document}
      (unset : ∀ fields, update.get? "$set" ≠ some (.object fields)) :
      Fails session (.updateOne collection filter update) nothingToSet

/-- The call is to report more identifiers than there can be room for. -/
def Overflows (session : Session) : Call → Prop
  | .insertMany _ documents =>
    ∃ count ∈ session.faults.insertedIds, documents.length < count ∧ idsLimit < count
  | _ => False

theorem fails_of_carryOut {failure : Failure} {after : Session}
    (carried : session.carryOut call = (.returned (.error failure), after)) :
    session.Fails call failure ∧ after = session := by
  cases call with
  | createCollection collection =>
    simp only [carryOut, createCollection] at carried
    split at carried
    · rename_i present
      cases carried
      exact ⟨.present present, rfl⟩
    · cases carried
  | updateOne collection filter update =>
    simp only [carryOut, updateOne] at carried
    split at carried
    · split at carried <;> cases carried
    · rename_i unset
      cases carried
      exact ⟨.unset unset, rfl⟩
  | deleteOne collection filter =>
    simp only [carryOut, deleteOne] at carried
    split at carried <;> cases carried
  | insertMany collection documents =>
    obtain ⟨ids, -, same⟩ := Ending.map_eq_returned_iff.mp (congrArg Prod.fst carried)
    cases same
  | _ => cases carried

theorem resizeIds_eq_panicked_iff {count : Option Nat} {ids : List String} {payload : Payload} :
    resizeIds count ids = .panicked payload ↔
      payload = .text "capacity overflow" ∧
        ∃ number ∈ count, ids.length < number ∧ idsLimit < number := by
  cases count with
  | none => simp [resizeIds]
  | some number =>
    simp only [resizeIds, Option.mem_def, Option.some.injEq, exists_eq_left']
    split
    · rename_i tooMany
      simp [tooMany, eq_comm]
    · rename_i few
      simp [few]

theorem length_append_ids (store : Store) (collection : String) (documents : List Document) :
    (store.append collection documents).2.length = documents.length :=
  (Store.identifyAll_alike store store documents).2

theorem overflows_of_carryOut {payload : Payload} {after : Session}
    (carried : session.carryOut call = (.panicked payload, after)) : session.Overflows call := by
  cases call with
  | insertMany collection documents =>
    have panicked := Ending.map_eq_panicked_iff.mp (congrArg Prod.fst carried)
    obtain ⟨-, number, reported, longer, tooMany⟩ := resizeIds_eq_panicked_iff.mp panicked
    have length := length_append_ids session.store collection documents
    exact ⟨number, reported, lt_of_eq_of_lt length.symm longer, tooMany⟩
  | _ => cases carried

/-- The documents are stored although the insert panics. -/
theorem attempt_of_overflows {collection : String} {documents : List Document}
    (free : session.obstacle? .insertMany = none)
    (overflows : session.Overflows (.insertMany collection documents)) :
    session.attempt (.insertMany collection documents) =
      (some (.panicked (.text "capacity overflow")),
        session.withStore (session.store.append collection documents).1) := by
  obtain ⟨number, reported, longer, tooMany⟩ := overflows
  rw [← length_append_ids session.store collection documents] at longer
  have panicked := resizeIds_eq_panicked_iff.mpr ⟨rfl, number, reported, longer, tooMany⟩
  rw [attempt_of_free rfl free]
  simp only [carryOut, insertMany, panicked]
  rfl

/-- The ways in which a call ends, with the session that it leaves. -/
inductive Exits (session : Session) (call : Call) :
    Option (Ending (Except Failure call.Reply)) → Session → Prop
  | unanswered : Exits session call none session
  | panicked (payload : Payload) : Exits session call (some (.panicked payload)) session
  | overflowed {payload : Payload} {after : Session} (overflows : session.Overflows call) :
      Exits session call (some (.panicked payload)) after
  | failed {failure : Failure} (fails : session.Fails call failure) :
      Exits session call (some (.returned (.error failure))) session
  | succeeded (reply : call.Reply) (after : Session) :
      Exits session call (some (.returned (.ok reply))) after

theorem exits_of_carryOut {ending : Ending (Except Failure call.Reply)} {after : Session}
    (carried : session.carryOut call = (ending, after)) :
    session.Exits call (some ending) after := by
  rcases ending with (failure | reply) | payload
  · obtain ⟨fails, rfl⟩ := fails_of_carryOut carried
    exact .failed fails
  · exact .succeeded reply after
  · exact .overflowed (overflows_of_carryOut carried)

theorem exits_attempt (session : Session) (call : Call) :
    session.Exits call (session.attempt call).1 (session.attempt call).2 := by
  cases asks : call.operation? with
  | none =>
    cases call <;> cases asks
    exact .succeeded _ _
  | some operation =>
    have isOperation : call ≠ .close := by
      rintro rfl
      cases asks
    cases kept : session.obstacle? operation with
    | none =>
      rw [attempt_of_free asks kept]
      exact exits_of_carryOut rfl
    | some obstacle =>
      have hinders := hinders_of_obstacle? kept
      rw [attempt_eq_of_asks asks, kept]
      cases hinders with
      | closed closed => exact .failed (.closed isOperation closed)
      | hang hangs => exact .unanswered
      | panic panics => exact .panicked _
      | failure fails => exact .failed (.injected asks fails)

theorem store_attempt_of_untargeted (untargeted : call.target? = none) :
    (session.attempt call).2.store = session.store := by
  rcases session.attempt_cases call with unchanged | carried
  · rw [unchanged]
  · rw [carried]
    cases call <;> cases untargeted <;> rfl

theorem changedAt_attempt_of_targeted {collection : String}
    (targeted : call.target? = some collection) :
    ChangedAt collection session (session.attempt call).2 := by
  apply changedAt_attempt
  · rintro rfl
    cases targeted
  · intro target same
    exact Option.some.inj (same.symm.trans targeted)

/-- A call that is answered with a failure, for one of four reasons, that panics or that is never
answered leaves the session as it was, unless it has stored its documents and panics since it is to
report more identifiers than there can be room for. A call that names no collection to be changed
leaves all collections and identifiers as they were, and one that does name one leaves the
others. -/
theorem attempt_atomic (session : Session) (call : Call) :
    (session.respond call = match session.attempt call with
      | (some ending, after) => .now ending after
      | (none, after) => .never after) ∧
    (∀ failure, (session.attempt call).1 = some (.returned (.error failure)) →
      session.Fails call failure ∧ (session.attempt call).2 = session) ∧
    (∀ payload, (session.attempt call).1 = some (.panicked payload) → ¬ session.Overflows call →
      (session.attempt call).2 = session) ∧
    ((session.attempt call).1 = none → (session.attempt call).2 = session) ∧
    (call.target? = none → (session.attempt call).2.store = session.store) ∧
    ∀ collection, call.target? = some collection → ∀ name ≠ collection,
      (session.attempt call).2.documents name = session.documents name := by
  have exits := session.exits_attempt call
  refine ⟨session.respond_eq_attempt call, ?_, ?_, ?_, store_attempt_of_untargeted, ?_⟩
  · intro failure failed
    rw [failed] at exits
    generalize (session.attempt call).2 = after at exits ⊢
    cases exits with
    | failed fails => exact ⟨fails, rfl⟩
  · intro payload panicked few
    rw [panicked] at exits
    generalize (session.attempt call).2 = after at exits ⊢
    cases exits with
    | panicked => rfl
    | overflowed overflows => exact absurd overflows few
  · intro unanswered
    rw [unanswered] at exits
    generalize (session.attempt call).2 = after at exits ⊢
    cases exits with
    | unanswered => rfl
  · intro collection targeted
    exact (changedAt_attempt_of_targeted targeted).others

/-- A session with documents on which inserts fail, finds panic and deletions are never answered. -/
def flaky : Session :=
  (Session.open_ "shop" { Faults.none with
    failing := [.insertOne], panicking := [.find], hanging := [.deleteOne] }).seed "people"
      [Check.alice, Check.bob]

/-- The calls on it that do not succeed leave it as it is. -/
theorem attempt_atomic_flaky :
    (flaky.attempt (.insertOne "people" Check.charlie)).2 = flaky ∧
    (flaky.attempt (.createCollection "people")).2 = flaky ∧
    (flaky.attempt (.updateOne "people" [] [])).2 = flaky ∧
    (flaky.attempt (.find "people" [] none)).2 = flaky ∧
    (flaky.attempt (.deleteOne "people" [])).2 = flaky := by
  refine ⟨?_, ?_, ?_, ?_, ?_⟩
  · exact ((flaky.attempt_atomic _).2.1 _ rfl).2
  · exact ((flaky.attempt_atomic _).2.1 _ rfl).2
  · exact ((flaky.attempt_atomic _).2.1 _ rfl).2
  · exact (flaky.attempt_atomic _).2.2.1 _ rfl id
  · exact (flaky.attempt_atomic _).2.2.2.1 rfl

/-- A session on which an insert is to report more identifiers than there can be room for. -/
def boastful : Session := .open_ "shop" { Faults.none with insertedIds := some (10 ^ 18) }

/-- The insert panics, and its document has been stored. -/
theorem attempt_not_atomic :
    ∃ payload id, (boastful.attempt (.insertMany "people" [Check.bob])).1 =
        some (.panicked payload) ∧
      boastful.documents "people" = none ∧
      (boastful.attempt (.insertMany "people" [Check.bob])).2.documents "people" =
        some [Check.bob ++ [("_id", .string id)]] := by
  have overflows : boastful.Overflows (.insertMany "people" [Check.bob]) :=
    ⟨10 ^ 18, rfl, by decide, by decide⟩
  rw [attempt_of_overflows rfl overflows]
  exact ⟨_, Store.identifier 1, rfl, rfl, rfl⟩

end DriverCompat.Memory.Session
