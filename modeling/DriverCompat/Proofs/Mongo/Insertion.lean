import DriverCompat.Mongo.Session
import Mathlib.Data.List.Basic
import Mathlib.Data.List.Forall2
import Mathlib.Data.List.Nodup

/-! # Several documents at once

Documents that are to be stored together are converted first, in order. If one of them is none, the
call fails with what is wrong with the first of these, and no command is sent at all. Otherwise one
command carries them all, and the texts of their identifiers come in the order of the documents, in
whatever order the client reports the identifiers.
-/

namespace DriverCompat.Mongo

variable {σ : Type}

theorem identifierText?_eq_none_iff (id : Bson) :
    id.identifierText? = none ↔ id = .null ∨ id = .undefined := by
  cases id <;> simp [Bson.identifierText?]

/-- What was reported in any order, under the positions of a list, is put back in order. -/
theorem identifierTexts_of_perm {ids : List Bson} {reported : List (Nat × Bson)}
    (perm : reported.Perm (ids.zipIdx.map Prod.swap)) :
    identifierTexts reported = ids.filterMap Bson.identifierText? := by
  have positions : (ids.zipIdx.map Prod.swap).map Prod.fst = List.range' 0 ids.length := by
    rw [List.map_map]
    exact List.zipIdx_map_snd 0 ids
  have inOrder : (ids.zipIdx.map Prod.swap).Pairwise fun a b => decide (a.1 ≤ b.1) = true := by
    have increasing : ((ids.zipIdx.map Prod.swap).map Prod.fst).Pairwise (· < ·) := by
      rw [positions]
      exact List.pairwise_lt_range' 1
    apply (List.pairwise_map.mp increasing).imp
    intro a b less
    exact decide_eq_true (Nat.le_of_lt less)
  have distinct : ((ids.zipIdx.map Prod.swap).map Prod.fst).Nodup := by
    rw [positions]
    exact List.nodup_range'
  have sorted : reported.mergeSort (fun a b => a.1 ≤ b.1) = ids.zipIdx.map Prod.swap := by
    have same := (List.mergeSort_perm reported fun a b => decide (a.1 ≤ b.1)).trans perm
    apply same.eq_of_pairwise _ (List.pairwise_mergeSort _ _ _) inOrder
    · intro a b among other upward downward
      have equal : a.1 = b.1 :=
        Nat.le_antisymm (of_decide_eq_true upward) (of_decide_eq_true downward)
      exact List.inj_on_of_nodup_map distinct (same.subset among) other equal
    · intro a b c first second
      have := of_decide_eq_true first
      have := of_decide_eq_true second
      exact decide_eq_true (by omega)
    · intro a b
      rw [Bool.or_eq_true, decide_eq_true_eq, decide_eq_true_eq]
      exact Nat.le_total a.1 b.1
  calc identifierTexts reported
    _ = (ids.zipIdx.map Prod.swap).filterMap fun id => id.2.identifierText? := by
      rw [identifierTexts, sorted]
    _ = (ids.zipIdx.map Prod.fst).filterMap Bson.identifierText? := by
      rw [List.filterMap_map, List.filterMap_map]
      rfl
    _ = ids.filterMap Bson.identifierText? := by
      rw [List.zipIdx_map_fst]

/-- The identifier with which a document is sent: the one that it has, or one that the client has
made up for its position. -/
def sentIdentifier (made : Nat → ObjectId) (position : Nat) (members : Bson.Document) : Bson :=
  (members.lookup "_id").getD (.objectId (made position))

/-- The identifiers of documents, in order. -/
def sentIdentifiers (made : Nat → ObjectId) (documents : List Bson.Document) : List Bson :=
  documents.mapIdx (sentIdentifier made)

/-- The document can be sent. -/
def Converts (document : DriverCompat.Document) : Prop := ∃ members, encode document = .ok members

theorem converts_or_fails (document : DriverCompat.Document) :
    Converts document ∨ ∃ text, encode document = .error (.driver text) := by
  unfold Converts encode
  split
  · exact .inl ⟨_, rfl⟩
  · exact .inr ⟨_, rfl⟩
  · exact .inr ⟨_, rfl⟩

/-- An object that stands for a number is no document. -/
example : encode [("$numberDecimal", .string "1.50")] =
    .error (.driver "expected a BSON document, got Decimal128") := by rfl

/-- Thirty-five digits are too many for a decimal number. -/
example : ¬ Converts [("n", .object [("$numberDecimal",
    .string "12345678901234567890123456789012345")])] := by
  rintro ⟨members, sent⟩
  cases sent

theorem encodeAll_of_converted {documents : List DriverCompat.Document}
    {converted : List Bson.Document}
    (all : List.Forall₂ (fun document members => encode document = .ok members) documents
      converted) : encodeAll documents = .ok converted := by
  induction all with
  | nil => rfl
  | cons known _ ih =>
    rw [encodeAll, known, ih]
    rfl

/-- The first document that cannot be sent decides how the conversion of all fails. -/
theorem encodeAll_of_first {before behind : List DriverCompat.Document}
    {document : DriverCompat.Document} {failure : Failure}
    (converts : ∀ earlier ∈ before, Converts earlier)
    (fails : encode document = .error failure) :
    encodeAll (before ++ document :: behind) = .error failure := by
  induction before with
  | nil => rw [List.nil_append, encodeAll, fails]
  | cons earlier before ih =>
    obtain ⟨⟨members, known⟩, others⟩ := List.forall_mem_cons.mp converts
    rw [List.cons_append, encodeAll, known, ih others]
    rfl

/-- Either there is a first document that cannot be sent, or all can. -/
theorem exists_first_or_converted (documents : List DriverCompat.Document) :
    (∃ before first behind text, documents = before ++ first :: behind ∧
      (∀ earlier ∈ before, Converts earlier) ∧ encode first = .error (.driver text)) ∨
    ∃ converted,
      List.Forall₂ (fun document members => encode document = .ok members) documents converted := by
  induction documents with
  | nil => exact .inr ⟨[], .nil⟩
  | cons document rest ih =>
    rcases converts_or_fails document with ⟨members, known⟩ | ⟨text, fails⟩
    · rcases ih with ⟨before, first, behind, text, rfl, earlier, fails⟩ | ⟨converted, all⟩
      · refine .inl ⟨document :: before, first, behind, text, rfl, ?_, fails⟩
        exact List.forall_mem_cons.mpr ⟨⟨members, known⟩, earlier⟩
      · exact .inr ⟨members :: converted, .cons known all⟩
    · exact .inl ⟨[], document, rest, text, rfl, nofun, fails⟩

namespace Session

section Perform

variable {α : Type} {session : Session} (opened : session.closed = false) (client : Client σ)
  (database : String) (state : σ)
include opened

theorem perform_error (failure : Failure) :
    session.perform (α := α) client database state (.error failure) =
      .value (.error failure) state := by
  simp only [perform, opened, Bool.false_eq_true, if_false]

theorem perform_of_objection {exchange : Exchange α} {fault : ClientFault}
    (objected : exchange.command.objection? = some fault) :
    session.perform client database state (.ok exchange) =
      .value (.error (fault.failure exchange.operation)) state := by
  simp only [perform, opened, Bool.false_eq_true, if_false, objected]

theorem perform_of_sent {exchange : Exchange α} (accepted : exchange.command.objection? = none) :
    session.perform client database state (.ok exchange) =
      (client.send database exchange.command state).map (outcome exchange) := by
  simp only [perform, opened, Bool.false_eq_true, if_false, accepted]

end Perform

/-- Documents that are stored together by an open session. If one of them cannot be sent, the call
fails at once with the fault of the first of these, and nothing is sent. Otherwise nothing but a
single command with all of them is sent, if the client does not object; and when the server has
accepted it, and the client reports the identifiers that it has sent, the answer is their texts in
the order of the documents. -/
theorem react_insertMany {session : Session} (opened : session.closed = false) (client : Client σ)
    (collection : String) (documents : List DriverCompat.Document) (state : σ)
    (sent : List (String × Command)) :
    let reaction := session.react client.logged (.insertMany collection documents) (state, sent)
    (∃ before first behind text, documents = before ++ first :: behind ∧
      (∀ earlier ∈ before, Converts earlier) ∧ encode first = .error (.driver text) ∧
      reaction = .value (.error (.driver text)) (state, sent)) ∨
    ∃ converted,
      List.Forall₂ (fun document members => encode document = .ok members) documents converted ∧
      (∀ fault, (Command.insertMany collection converted).objection? = some fault →
        reaction = .value (.error (fault.failure "insert")) (state, sent)) ∧
      ((Command.insertMany collection converted).objection? = none →
        ∀ delay reported after made,
          (client.send session.database (.insertMany collection converted) state).answer =
            some ⟨delay, .returned (.ok reported), after⟩ →
          reported.Perm ((sentIdentifiers made converted).zipIdx.map Prod.swap) →
          reaction.answer = some ⟨delay,
            .returned (.ok ((sentIdentifiers made converted).filterMap Bson.identifierText?)),
            (after, sent ++ [(session.database, .insertMany collection converted)])⟩ ∧
          ∀ id ∈ sentIdentifiers made converted,
            id.identifierText? = none ↔ id = .null ∨ id = .undefined) := by
  intro reaction
  have performed : reaction = session.perform client.logged session.database (state, sent)
      ((encodeAll documents).map fun documents =>
        ⟨"insert", .insertMany collection documents, fun ids => .ok (identifierTexts ids)⟩) := rfl
  rcases exists_first_or_converted documents with
    ⟨before, first, behind, text, rfl, earlier, fails⟩ | ⟨converted, all⟩
  · refine .inl ⟨before, first, behind, text, rfl, earlier, fails, ?_⟩
    rw [performed, encodeAll_of_first earlier fails]
    exact perform_error opened _ _ _ _
  rw [encodeAll_of_converted all] at performed
  refine .inr ⟨converted, all, ?_, ?_⟩
  · intro fault objected
    exact performed.trans (perform_of_objection opened _ _ _ objected)
  · intro accepted delay reported after made answered perm
    refine ⟨?_, fun id _ => identifierText?_eq_none_iff id⟩
    rw [performed.trans (perform_of_sent opened _ _ _ accepted), ← identifierTexts_of_perm perm]
    simp only [Reaction.map, Client.logged, Reaction.mapState, answered]
    rfl

/-- A client of a server that accepts every batch after three milliseconds. It makes up identifiers
of one repeated byte, and reports all identifiers from the last to the first. -/
def reversingClient : Client Unit where
  send _ command state :=
    match command with
    | .insertMany _ documents =>
      ⟨state, some ⟨3, .returned (.ok
        ((sentIdentifiers madeUp documents).zipIdx.map Prod.swap).reverse), state⟩⟩
    | _ => .value (.error .shutDown) state
  shutDown := .value ()
where
  /-- The identifier for a position. -/
  madeUp (position : Nat) : ObjectId := ⟨List.replicate 12 (UInt8.ofNat position), rfl⟩

/-- Four documents, of which one has no identifier and one has the identifier null. -/
theorem react_insertMany_reversed :
    let documents : List DriverCompat.Document :=
      [[("_id", .string "b")], [("_id", .null)], [("n", .null)],
        [("_id", .number (.integer 7 (by decide)))]]
    (react ⟨"compat", false⟩ reversingClient.logged (.insertMany "people" documents)
      ((), [])).answer.map (fun answer => (answer.delay, answer.ending, answer.state.2.length)) =
      some (3, .returned (.ok ["b", "020202020202020202020202", "7"]), 1) := by
  intro documents
  have whole : encodeAll documents = .ok [[("_id", .string "b")], [("_id", .null)], [("n", .null)],
      [("_id", .int32 7 (by decide))]] := by rfl
  have opened : (Session.mk "compat" false).closed = false := rfl
  rcases react_insertMany opened reversingClient "people" documents () [] with
    ⟨before, first, behind, text, split, earlier, fails, -⟩ | ⟨converted, all, -, accepted⟩
  · rw [split, encodeAll_of_first earlier fails] at whole
    cases whole
  obtain rfl := Except.ok.inj ((encodeAll_of_converted all).symm.trans whole)
  obtain ⟨answered, -⟩ := accepted (by decide) 3 _ () reversingClient.madeUp rfl
    (List.reverse_perm _)
  rw [answered]
  decide +kernel

end Session

end DriverCompat.Mongo
