import DriverCompat.Proofs.Mongo.Insertion

/-! # Queries with several answers

A server hands out what a query has found in batches of its own choice, of which any may be empty.
A session returns all documents of all batches in the order in which they came, so the choice does
not show. When a batch fails to come, what came before it is dropped and the call fails.
-/

namespace DriverCompat.Mongo

variable {σ : Type}

namespace Cursor

/-- The cursor of a server that hands out batches, and then says that these were all or fails. -/
def handOut (first : List Bson.Document) :
    List (List Bson.Document) → Option ClientFault → Cursor
  | [], none => .last first
  | [], some fault => .broken first fault
  | next :: further, fault? => .more first (handOut next further fault?)

/-- A cursor hands out at least one batch, and may fail after the last one. -/
theorem exists_handOut (cursor : Cursor) :
    ∃ first further fault?, cursor = handOut first further fault? := by
  induction cursor with
  | last batch => exact ⟨batch, [], none, rfl⟩
  | broken batch fault => exact ⟨batch, [], some fault, rfl⟩
  | more batch next ih =>
    obtain ⟨second, further, fault?, rfl⟩ := ih
    exact ⟨batch, second :: further, fault?, rfl⟩

/-- All batches are put together if all of them came. -/
theorem drain_handOut (first : List Bson.Document) (further : List (List Bson.Document)) :
    (handOut first further none).drain = .ok (first :: further).flatten := by
  induction further generalizing first with
  | nil => rw [handOut, drain, List.flatten_singleton]
  | cons next further ih =>
    rw [handOut, drain, ih, List.flatten_cons]
    rfl

/-- No batch is kept when a later one fails. -/
theorem drain_handOut_fault (first : List Bson.Document) (further : List (List Bson.Document))
    (fault : ClientFault) : (handOut first further (some fault)).drain = .error fault := by
  induction further generalizing first with
  | nil => rfl
  | cons next further ih =>
    rw [handOut, drain, ih]
    rfl

end Cursor

/-- How a fault of the client shows: as a failed connection if the deployment was not reached, and
otherwise as a failure of the driver that names the operation. -/
inductive ClientFault.ShowsAs (operation : String) (fault : ClientFault) : Failure → Prop
  | io {cause : IoFault} (kind : fault.kind = .io cause) :
    ShowsAs operation fault (.connection fault.message)
  | serverSelection {text : String} (kind : fault.kind = .serverSelection text) :
    ShowsAs operation fault (.connection fault.message)
  | other {text : String} (kind : fault.kind = .other text) :
    ShowsAs operation fault (.driver s!"MongoDB {operation} failed: {fault.message}")

theorem ClientFault.showsAs_failure (operation : String) (fault : ClientFault) :
    fault.ShowsAs operation (fault.failure operation) := by
  unfold failure
  split
  · exact .io ‹_›
  · exact .serverSelection ‹_›
  · exact .other ‹_›

namespace Session

/-- What a query returns for the answer of the client. -/
def found (answer : Except ClientFault Cursor) : Except Failure (List DriverCompat.Document) :=
  match answer with
  | .error fault => .error (fault.failure "find")
  | .ok cursor =>
    match cursor.drain with
    | .ok documents => .ok (documents.map decode)
    | .error fault => .error (fault.failure "cursor")

/-- A query whose filter can be sent is one command, and its answer decides what is returned. -/
theorem react_find_answer {session : Session} (opened : session.closed = false) (client : Client σ)
    (collection : String) {filter : DriverCompat.Document} {members : Bson.Document}
    (converted : encode filter = .ok members) (limit : Option Int) (state : σ)
    (sent : List (String × Command)) :
    (session.react client.logged (.find collection filter limit) (state, sent)).answer =
      (client.send session.database (.find collection members limit) state).answer.map fun answer =>
        ⟨answer.delay, answer.ending.map found,
          (answer.state, sent ++ [(session.database, .find collection members limit)])⟩ := by
  have performed : session.react client.logged (.find collection filter limit) (state, sent) =
      session.perform client.logged session.database (state, sent)
        (.ok ⟨"find", .find collection members limit, fun cursor => found (.ok cursor)⟩) := by
    rw [react, converted]
    rfl
  rw [performed, perform_of_sent opened _ _ _ rfl]
  simp only [Reaction.map, Client.logged, Reaction.mapState, Option.map_map]
  refine congrArg (Option.map · _) (funext fun answer => ?_)
  rcases answer with ⟨delay, (_ | _) | payload, after⟩ <;> rfl

/-- A query of an open session, with a filter that can be sent. One command is sent, with the filter
and the limit. Whatever batches its documents come in, all of them are returned, once each and in
order. A batch that fails to come makes the whole query fail, and so does a query that the server
does not accept; and documents are returned only if the batches with all of them came. -/
theorem react_find {session : Session} (opened : session.closed = false) (client : Client σ)
    (collection : String) {filter : DriverCompat.Document} {members : Bson.Document}
    (converted : encode filter = .ok members) (limit : Option Int) (state : σ)
    (sent : List (String × Command)) :
    let command := Command.find collection members limit
    let answer := (client.send session.database command state).answer
    let reply :=
      (session.react client.logged (.find collection filter limit) (state, sent)).answer
    let log := sent ++ [(session.database, command)]
    (∀ delay after first further,
      answer = some ⟨delay, .returned (.ok (.handOut first further none)), after⟩ →
      reply = some ⟨delay, .returned (.ok ((first :: further).flatten.map decode)), (after, log)⟩) ∧
    (∀ delay after first further fault,
      answer = some ⟨delay, .returned (.ok (.handOut first further (some fault))), after⟩ →
      ∃ failure, fault.ShowsAs "cursor" failure ∧
        reply = some ⟨delay, .returned (.error failure), (after, log)⟩) ∧
    (∀ delay after fault, answer = some ⟨delay, .returned (.error fault), after⟩ →
      ∃ failure, fault.ShowsAs "find" failure ∧
        reply = some ⟨delay, .returned (.error failure), (after, log)⟩) ∧
    (∀ delay documents last, reply = some ⟨delay, .returned (.ok documents), last⟩ →
      ∃ first further after,
        answer = some ⟨delay, .returned (.ok (.handOut first further none)), after⟩ ∧
        documents = (first :: further).flatten.map decode ∧ last = (after, log)) := by
  intro command answer reply log
  have replied : reply = answer.map fun answer =>
      ⟨answer.delay, answer.ending.map found, (answer.state, log)⟩ :=
    react_find_answer opened client collection converted limit state sent
  rw [replied]
  refine ⟨?_, ?_, ?_, ?_⟩
  · intro delay after first further answered
    rw [answered, Option.map_some, Ending.map, found, Cursor.drain_handOut]
  · intro delay after first further fault answered
    refine ⟨_, fault.showsAs_failure "cursor", ?_⟩
    rw [answered, Option.map_some, Ending.map, found, Cursor.drain_handOut_fault]
  · intro delay after fault answered
    exact ⟨_, fault.showsAs_failure "find", by rw [answered, Option.map_some, Ending.map, found]⟩
  · intro delay documents last same
    obtain ⟨⟨delay, ending, after⟩, answered, equal⟩ := Option.map_eq_some_iff.mp same
    obtain ⟨rfl, returned, rfl⟩ := Answer.mk.inj equal
    rcases ending with (fault | cursor) | payload
    · cases returned
    · obtain ⟨first, further, fault?, rfl⟩ := cursor.exists_handOut
      cases fault? with
      | none =>
        rw [Ending.map, found, Cursor.drain_handOut] at returned
        obtain rfl := Except.ok.inj (Ending.returned.inj returned)
        exact ⟨first, further, after, answered, rfl, rfl⟩
      | some fault =>
        rw [Ending.map, found, Cursor.drain_handOut_fault] at returned
        cases returned
    · cases returned

/-- A client of a server that takes four milliseconds to hand out three documents. The first batch
is empty, and so is one in the middle. -/
def scatteringClient (fault? : Option ClientFault) : Client Unit where
  send _ command state :=
    match command with
    | .find _ _ _ => ⟨state, some ⟨4, .returned (.ok (.handOut []
        [[[("n", .int32 1 (by decide))]], [], [[("n", .null)], [("n", .bool true)]]] fault?)),
        state⟩⟩
    | _ => .value (.error .shutDown) state
  shutDown := .value ()

/-- The server hands out all three documents, or is shut down after them. -/
theorem react_find_scattered :
    let query fault? := react ⟨"compat", false⟩ (scatteringClient fault?).logged
      (.find "people" [] (some 3)) ((), [])
    (query none).answer.map Answer.ending = some (.returned (.ok
      [[("n", .number (.integer 1 (by decide)))], [("n", .null)], [("n", .bool true)]])) ∧
    ∃ failure, (query (some .shutDown)).answer.map Answer.ending =
      some (.returned (.error failure)) ∧
      ClientFault.shutDown.ShowsAs "cursor" failure := by
  intro query
  have converted : encode [] = .ok [] := by rfl
  have opened : Session.closed ⟨"compat", false⟩ = false := rfl
  have both (fault? : Option ClientFault) := react_find opened (scatteringClient fault?) "people"
    converted (some 3) () []
  constructor
  · obtain ⟨whole, -⟩ := both none
    rw [whole 4 () _ _ rfl]
    rfl
  · obtain ⟨-, broken, -⟩ := both (some .shutDown)
    obtain ⟨failure, shows, failed⟩ := broken 4 () _ _ _ rfl
    exact ⟨failure, by rw [failed]; rfl, shows⟩

end Session

end DriverCompat.Mongo
