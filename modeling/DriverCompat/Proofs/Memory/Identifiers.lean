import DriverCompat.Proofs.Memory.Updates
import DriverCompat.Proofs.Text.Hex

/-! # Identifiers

A document that is handed in without an identifier is stored with one that the session generates.
The session numbers them, whatever else is done with it, and writes the number with a fixed width.
So the identifiers are in the order in which they were generated, and none is generated twice.
Inserts report the identifiers that the documents are stored with.
-/

namespace DriverCompat

open Memory

namespace Document

/-- The identifier that a document was given when it was stored, if it had none. -/
def givenId? (given stored : Document) : Option String :=
  match given.get? "_id" with
  | some _ => none
  | none => (stored.get? "_id").bind Json.asString?

/-- The identifier of a document as inserts report it. -/
def reportedId? (document : Document) : Option String := (document.get? "_id").map Store.reported

/-- How many of the documents have no identifier. -/
def unidentified (documents : List Document) : Nat :=
  documents.countP fun document => (document.get? "_id").isNone

end Document

namespace Memory

namespace Store

/-- Twenty-four lower-case hexadecimal digits. -/
def IsIdentifier (id : String) : Prop := id.length = 24 ∧ ∀ c ∈ id.toList, Text.IsHexDigit c

theorem identifier_bound {n : Nat} (few : n < 2 ^ 64) : n < 16 ^ (23 + 1) :=
  Nat.lt_of_lt_of_le few (by decide)

theorem isIdentifier_identifier {n : Nat} (few : n < 2 ^ 64) : IsIdentifier (identifier n) := by
  refine ⟨?_, fun c among => ?_⟩
  · rw [identifier, String.length_ofList]
    exact Text.length_paddedHex (identifier_bound few)
  · rw [identifier, String.toList_ofList] at among
    exact Text.isHexDigit_of_mem (identifier_bound few) among

theorem identifier_lt {m n : Nat} (less : m < n) (few : n < 2 ^ 64) :
    identifier m < identifier n := by
  rw [String.lt_iff, identifier, identifier, String.toList_ofList, String.toList_ofList]
  exact Text.paddedHex_lt less (identifier_bound few)

section Stored

variable {store : Store} {document : Document}

theorem identify_of_some {id : Json} (known : document.get? "_id" = some id) :
    store.identify document = (store, document, reported id) := by
  rw [identify, known]

theorem identify_of_none (unknown : document.get? "_id" = none) :
    store.identify document = ({ store with generated := store.generated + 1 },
      document.insert "_id" (.string (identifier (store.generated + 1))),
      identifier (store.generated + 1)) := by
  rw [identify, unknown]

end Stored

/-- The identifiers that documents were given when they were stored. -/
def issued (given stored : List Document) : List String :=
  (given.zip stored).filterMap fun (given, stored) => given.givenId? stored

theorem issued_cons (given stored : Document) (rest others : List Document) :
    issued (given :: rest) (stored :: others) =
      (given.givenId? stored).toList ++ issued rest others := by
  cases new : given.givenId? stored with
  | none => exact List.filterMap_cons_none new
  | some id => exact List.filterMap_cons_some new

/-- Documents without an identifier are given the next ones in order, and no others are used up. -/
theorem identifyAll_issued (store : Store) (documents : List Document) :
    (store.identifyAll documents).1.generated =
        store.generated + Document.unidentified documents ∧
      issued documents (store.identifyAll documents).2.1 =
        (List.range' (store.generated + 1) (Document.unidentified documents)).map identifier := by
  induction documents generalizing store with
  | nil => exact ⟨rfl, rfl⟩
  | cons document rest ih =>
    rw [identifyAll, issued_cons]
    cases known : document.get? "_id" with
    | some id =>
      obtain ⟨generated, others⟩ := ih store
      have none : document.givenId? document = none := by rw [Document.givenId?, known]
      have count : Document.unidentified (document :: rest) = Document.unidentified rest :=
        List.countP_cons_of_neg (by simp [known])
      rw [identify_of_some known, none, count]
      exact ⟨generated, others⟩
    | none =>
      obtain ⟨generated, others⟩ := ih { store with generated := store.generated + 1 }
      have next : document.givenId?
          (document.insert "_id" (.string (identifier (store.generated + 1)))) =
            some (identifier (store.generated + 1)) := by
        rw [Document.givenId?, known, Document.get?_insert, if_pos rfl]
        rfl
      have count : Document.unidentified (document :: rest) = Document.unidentified rest + 1 :=
        List.countP_cons_of_pos (by simp [known])
      rw [identify_of_none known, next, count, List.range'_succ, List.map_cons]
      refine ⟨?_, congrArg (List.cons _) others⟩
      rw [generated, Nat.add_right_comm, Nat.add_assoc]

/-- The identifier that is reported is the one that the document is stored with. -/
theorem identify_reported (store : Store) (document : Document) :
    (store.identify document).2.1.reportedId? = some (store.identify document).2.2 := by
  cases known : document.get? "_id" with
  | some id => rw [identify_of_some known, Document.reportedId?, known, Option.map_some]
  | none =>
    rw [identify_of_none known, Document.reportedId?, Document.get?_insert, if_pos rfl]
    rfl

theorem identifyAll_reported (store : Store) (documents : List Document) :
    (store.identifyAll documents).2.1.map Document.reportedId? =
      (store.identifyAll documents).2.2.map some := by
  induction documents generalizing store with
  | nil => rfl
  | cons document rest ih =>
    rw [identifyAll]
    exact congrArg₂ List.cons (store.identify_reported document) (ih _)

end Store

namespace Session

/-- The documents that an action puts into a collection: all that there are after it was seeded, and
those that stand behind the ones which were there before a call. -/
def storedBy (session : Session) (action : Action) : List Document :=
  let after := session.act action
  match action with
  | .seed collection _ => (after.documents collection).getD []
  | .call made =>
    match made.target? with
    | some collection =>
      ((after.documents collection).getD []).drop ((session.documents collection).getD []).length
    | none => []

/-- The identifiers that are given to documents by an action. -/
def issuedBy (session : Session) (action : Action) : List String :=
  Store.issued action.handedIn (session.storedBy action)

/-- The identifiers that are given to documents in the course of a history, in order. -/
def issued (session : Session) : List Action → List String
  | [] => []
  | action :: rest => session.issuedBy action ++ (session.act action).issued rest

variable {session : Session}

theorem SetsAt.generated {collection : String} {after : Session}
    (sets : SetsAt collection session after) : after.store.generated = session.store.generated := by
  rcases sets with rfl | ⟨documents, rfl⟩ <;> rfl

/-- A call that hands in no documents generates no identifiers. -/
theorem generated_attempt {call : Call} (nothing : call.handedIn = []) :
    (session.attempt call).2.store.generated = session.store.generated := by
  rcases session.attempt_cases call with unchanged | carried
  · rw [unchanged]
  · rw [carried]
    cases call with
    | ping | listCollections | findOne | find | close | dropCollection => rfl
    | insertOne => cases nothing
    | insertMany collection documents =>
      obtain rfl : documents = [] := nothing
      rfl
    | createCollection collection => exact (session.setsAt_createCollection collection).generated
    | updateOne collection filter update =>
      exact (session.setsAt_updateOne collection filter update).generated
    | deleteOne collection filter => exact (session.setsAt_deleteOne collection filter).generated

/-- An action generates so many identifiers: the next ones in order, which are those that the
documents are given. -/
structure Generates (session : Session) (action : Action) (count : Nat) : Prop where
  generated : (session.act action).store.generated = session.store.generated + count
  issued : session.issuedBy action =
    (List.range' (session.store.generated + 1) count).map Store.identifier

theorem generates_seed (session : Session) (collection : String) (documents : List Document) :
    session.Generates (.seed collection documents) (Document.unidentified documents) := by
  obtain ⟨generated, issued⟩ := session.store.identifyAll_issued documents
  refine ⟨generated, ?_⟩
  have stored : session.storedBy (.seed collection documents) =
      (session.store.identifyAll documents).2.1 := by
    have found := session.store.get?_seed collection collection documents
    rw [if_pos rfl] at found
    exact congrArg (Option.getD · []) found
  rw [issuedBy, stored]
  exact issued

/-- The identifiers of a call that appends the documents which it hands in, if it is carried out. -/
theorem generates_of_append {call : Call} {collection : String}
    (target : call.target? = some collection)
    (appends : (session.carryOut call).2 =
      session.withStore (session.store.append collection call.handedIn).1) :
    ∃ count, session.Generates (.call call) count := by
  rcases session.attempt_cases call with kept | carried
  · have unchanged : session.act (.call call) = session := kept
    refine ⟨0, congrArg (·.store.generated) unchanged, ?_⟩
    simp only [issuedBy, storedBy, unchanged, target, List.drop_length]
    exact congrArg (List.filterMap _) List.zip_nil_right
  · have after : session.act (.call call) =
        session.withStore (session.store.append collection call.handedIn).1 :=
      (congrArg Prod.snd carried).trans appends
    obtain ⟨generated, issued⟩ := session.store.identifyAll_issued call.handedIn
    refine ⟨_, (congrArg (·.store.generated) after).trans generated, ?_⟩
    have stored : session.storedBy (.call call) =
        (session.store.identifyAll call.handedIn).2.1 := by
      have found := session.store.get?_append collection collection call.handedIn
      rw [if_pos rfl] at found
      simp only [storedBy, after, target, documents, withStore, found, Option.getD_some,
        List.drop_left]
    rw [issuedBy, stored]
    exact issued

/-- Every action generates the next identifiers in order, none if it hands in no documents. -/
theorem exists_generates (session : Session) (action : Action) :
    ∃ count, session.Generates action count := by
  cases action with
  | seed collection documents => exact ⟨_, session.generates_seed collection documents⟩
  | call call =>
    cases call with
    | insertOne | insertMany => exact generates_of_append rfl rfl
    | ping | createCollection | dropCollection | listCollections | findOne | find | updateOne
      | deleteOne | close => exact ⟨0, generated_attempt rfl, rfl⟩

/-- In the course of a history, identifiers are generated in order and without a gap. -/
theorem issued_eq_map_range' (session : Session) (history : List Action) :
    (session.follow history).store.generated =
        session.store.generated + (session.issued history).length ∧
      session.issued history =
        (List.range' (session.store.generated + 1) (session.issued history).length).map
          Store.identifier := by
  induction history generalizing session with
  | nil => exact ⟨rfl, rfl⟩
  | cons action rest ih =>
    obtain ⟨count, generated, now⟩ := session.exists_generates action
    obtain ⟨total, later⟩ := ih (session.act action)
    have length : (session.issuedBy action).length = count := by
      rw [now, List.length_map, List.length_range']
    rw [generated] at total later
    rw [issued, List.length_append, length, ← Nat.add_assoc]
    refine ⟨total, ?_⟩
    rw [← List.range'_append_1, List.map_append, ← now, ← Nat.add_right_comm, ← later]

/-- What a call leaves behind that puts documents into a collection: they stand at its end, each as
it was handed in if it has an identifier, and an identifier is generated for each of the others. -/
structure Stores (before after : Session) (collection : String) (given stored : List Document) :
    Prop where
  held : after.documents collection = some ((before.documents collection).getD [] ++ stored)
  storedAs : List.Forall₂ Document.StoredAs given stored
  generated : after.store.generated = before.store.generated + Document.unidentified given

theorem stores_append (session : Session) (collection : String) (given : List Document) :
    session.Stores (session.withStore (session.store.append collection given).1) collection given
      (session.store.identifyAll given).2.1 where
  held := (session.store.get?_append collection collection given).trans (if_pos rfl)
  storedAs := session.store.identifyAll_storedAs given
  generated := (session.store.identifyAll_issued given).1

/-- An insert of one document reports the identifier that the document is stored with. -/
theorem insertOne_reports (reports : session.faults.omitInsertedId = false)
    (free : session.obstacle? .insertOne = none) (collection : String) (document : Document) :
    ∃ stored after, session.respond (.insertOne collection document) =
        .value (.ok stored.reportedId?) after ∧
      session.Stores after collection [document] [stored] := by
  refine ⟨(session.store.identify document).2.1, _, ?_,
    session.stores_append collection [document]⟩
  rw [session.store.identify_reported, respond_of_free rfl free, carryOut, insertOne, reports]
  rfl

/-- An insert of several documents reports the identifiers that they are stored with. -/
theorem insertMany_reports (reports : session.faults.insertedIds = none)
    (free : session.obstacle? .insertMany = none) (collection : String)
    (documents : List Document) :
    ∃ stored ids after, session.respond (.insertMany collection documents) =
        .value (.ok ids) after ∧
      stored.map Document.reportedId? = ids.map some ∧
      session.Stores after collection documents stored := by
  refine ⟨_, _, _, ?_, session.store.identifyAll_reported documents,
    session.stores_append collection documents⟩
  rw [respond_of_free rfl free, carryOut, insertMany, reports]
  rfl

theorem faults_act (session : Session) (action : Action) :
    (session.act action).faults = session.faults := by
  cases action with
  | seed => rfl
  | call call =>
    by_cases close : call = .close
    · subst close
      rfl
    · have only : ∀ target ∈ call.target?, target = call.target?.getD "" := by
        intro target names
        rw [names, Option.getD_some]
      exact (changedAt_attempt close only).faults

theorem faults_follow (session : Session) (history : List Action) :
    (session.follow history).faults = session.faults := by
  induction history generalizing session with
  | nil => rfl
  | cons action rest ih => exact (ih (session.act action)).trans (session.faults_act action)

/-- After any history, all documents have an identifier. -/
theorem identified_follow (database : String) (faults : Faults) (history : List Action) :
    ((open_ database faults).follow history).store.Each
      fun document => (document.get? "_id").isSome := by
  refine each_follow Store.each_empty ?_ ?_
  · intro _ _ given _ stored storedAs
    cases storedAs with
    | kept present => rw [present, Option.isSome_some]
    | identified absent number => rw [Document.get?_insert, if_pos rfl, Option.isSome_some]
  · intro _ _ fields _ document has
    rcases Store.get?_setFields document fields "_id" with kept | ⟨value, -, placed⟩
    · rwa [kept]
    · rw [placed, Option.isSome_some]

/-- In the course of a history, a call is made on the session that is left by what comes before
it. -/
def Makes (session : Session) (history : List Action) (before : Session) (call : Call) : Prop :=
  ∃ earlier later, history = earlier ++ .call call :: later ∧ before = session.follow earlier

/-- Whatever is done with a session that generates fewer than `2 ^ 64` identifiers, all documents
have one. Those that are generated are twenty-four lower-case hexadecimal digits each, they are in
order, and none is generated twice. An insert that is carried out reports the identifiers that its
documents are stored with at the end of the collection; those that had one are stored as they are,
and use up none. -/
theorem identifiers_of_history (database : String) (faults : Faults) (history : List Action)
    (few : ((open_ database faults).issued history).length < 2 ^ 64) :
    (((open_ database faults).follow history).store.Each
      fun document => (document.get? "_id").isSome) ∧
    (∀ id ∈ (open_ database faults).issued history, Store.IsIdentifier id) ∧
    ((open_ database faults).issued history).Pairwise (· < ·) ∧
    ((open_ database faults).issued history).Nodup ∧
    ((open_ database faults).follow history).store.generated =
      ((open_ database faults).issued history).length ∧
    (∀ before collection document,
      (open_ database faults).Makes history before (.insertOne collection document) →
      before.obstacle? .insertOne = none → faults.omitInsertedId = false →
      ∃ stored after,
        before.respond (.insertOne collection document) = .value (.ok stored.reportedId?) after ∧
        before.Stores after collection [document] [stored]) ∧
    ∀ before collection documents,
      (open_ database faults).Makes history before (.insertMany collection documents) →
      before.obstacle? .insertMany = none → faults.insertedIds = none →
      ∃ stored ids after,
        before.respond (.insertMany collection documents) = .value (.ok ids) after ∧
        stored.map Document.reportedId? = ids.map some ∧
        before.Stores after collection documents stored := by
  obtain ⟨generated, issued⟩ := (open_ database faults).issued_eq_map_range' history
  have fresh : (open_ database faults).store.generated = 0 := rfl
  rw [fresh, Nat.zero_add] at generated issued
  have bound : ∀ number ∈ List.range' 1 ((open_ database faults).issued history).length,
      number < 2 ^ 64 := by
    intro number among
    have := (List.mem_range'_1.mp among).2
    omega
  have increasing : ((open_ database faults).issued history).Pairwise (· < ·) := by
    rw [issued, List.pairwise_map]
    refine List.Pairwise.imp_of_mem ?_ List.pairwise_lt_range'
    exact fun _ later less => Store.identifier_lt less (bound _ later)
  refine ⟨identified_follow database faults history, ?_, increasing,
    increasing.imp fun less => String.ne_of_lt less, generated, ?_, ?_⟩
  · intro id among
    rw [issued] at among
    obtain ⟨number, numbered, rfl⟩ := List.mem_map.mp among
    exact Store.isIdentifier_identifier (bound number numbered)
  · rintro before collection document ⟨earlier, later, -, rfl⟩ free reports
    exact insertOne_reports ((congrArg _ (faults_follow _ earlier)).trans reports) free collection
      document
  · rintro before collection documents ⟨earlier, later, -, rfl⟩ free reports
    exact insertMany_reports ((congrArg _ (faults_follow _ earlier)).trans reports) free collection
      documents

/-- A batch that is inserted after two documents, with their identifiers, were dropped. -/
def dropped : List Action :=
  [.seed "people" [Check.alice, Check.bob], .call (.dropCollection "people"),
    .call (.insertMany "people" [Check.alice.insert "_id" .null, Check.alice])]

/-- The identifiers of documents that are dropped are not generated again. -/
theorem identifiers_of_history_dropped :
    ((open_ "shop" .none).issued dropped).Nodup ∧
      ((open_ "shop" .none).follow dropped).store.generated = 3 ∧
      ∃ after, ((open_ "shop" .none).follow (dropped.take 2)).respond
          (.insertMany "people" [Check.alice.insert "_id" .null, Check.alice]) =
        .value (.ok ["null", Store.identifier 3]) after := by
  have issued : ((open_ "shop" .none).issued dropped).length = 3 := by decide
  obtain ⟨-, -, -, distinct, generated, -, reports⟩ :=
    identifiers_of_history "shop" .none dropped (by rw [issued]; decide)
  refine ⟨distinct, generated.trans issued, ?_⟩
  obtain ⟨stored, ids, after, made, same, stores⟩ :=
    reports _ "people" _ ⟨dropped.take 2, [], rfl, rfl⟩ (by decide) rfl
  have attempted : (((open_ "shop" .none).follow (dropped.take 2)).attempt
      (.insertMany "people" [Check.alice.insert "_id" .null, Check.alice])).1 =
        some (.returned (.ok ids)) := by
    rw [attempt, made]
    rfl
  cases attempted
  exact ⟨after, made⟩

end Session

end Memory

end DriverCompat
