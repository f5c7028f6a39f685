import DriverCompat.Proofs.Memory.Healthy
import DriverCompat.Proofs.Report.Counts

/-! # Faults are found

The checks on an open session find every fault that it has: the check that exercises an operation
fails if the operation misbehaves, and those of the inserts fail if a wrong number of identifiers is
reported. A session without faults passes. In any case only the test collection is touched.
-/

namespace DriverCompat

open Memory

/-- The check that exercises an operation. -/
def Memory.Operation.check : Operation → Check
  | .ping => .ping
  | .createCollection => .createCollection
  | .dropCollection => .dropCollection
  | .listCollections => .listCollections
  | .insertOne => .insertOne
  | .insertMany => .insertMany
  | .findOne => .findOne
  | .find => .findWithLimit
  | .updateOne => .updateOne
  | .deleteOne => .deleteOne

theorem Check.name_injective {first second : Check} (same : first.name = second.name) :
    first = second := by
  cases first <;> cases second <;> first | rfl | exact absurd same (by decide)

namespace Memory.Session

variable {session : Session}

/-- A call whose operation misbehaves does not succeed. -/
theorem attempt_ne_ok_of_hits {call : Call} {operation : Operation}
    (asks : call.operation? = some operation) (opened : session.closed = false)
    (hit : session.faults.Hits operation) (reply : call.Reply) :
    (session.attempt call).1 ≠ some (.returned (.ok reply)) := by
  obtain ⟨obstacle, kept⟩ := Option.ne_none_iff_exists'.mp
    (mt (obstacle?_eq_none_iff opened operation).mp (not_not_intro hit))
  exact (attempt_of_obstacle asks kept).2 reply

/-- What a call answers with success is what it answers when it is carried out. -/
theorem carryOut_of_attempt {call : Call} {operation : Operation}
    (asks : call.operation? = some operation) {reply : call.Reply}
    (answered : (session.attempt call).1 = some (.returned (.ok reply))) :
    (session.carryOut call).1 = .returned (.ok reply) := by
  cases kept : session.obstacle? operation with
  | none =>
    rw [attempt_of_free asks kept] at answered
    exact Option.some.inj answered
  | some obstacle => exact absurd answered ((attempt_of_obstacle asks kept).2 reply)

/-- What is observed when one call was made and succeeded. -/
theorem exists_reply_of_attemptInTurn {call : Call} {observation : Observation}
    (observed : (session.attemptInTurn call []).1 = some (.returned (.ok observation))) :
    ∃ reply, (session.attempt call).1 = some (.returned (.ok reply)) ∧
      observation = call.observation reply := by
  simp only [attemptInTurn] at observed
  generalize (session.attempt call).1 = attempted at observed ⊢
  rcases attempted with _ | ⟨_ | reply⟩ | _ <;> cases observed
  exact ⟨reply, rfl, rfl⟩

/-- Nothing is observed in calls whose last one misbehaves, since those before it change no
fault. -/
theorem attemptInTurn_ne_ok_of_hits {collection : String} {call last : Call} {rest : List Call}
    {operation : Operation}
    (operations : ∀ made ∈ call :: rest, made ≠ .close ∧
      ∀ target ∈ made.target?, target = collection)
    (isLast : (call :: rest).getLast? = some last) (asks : last.operation? = some operation)
    (opened : session.closed = false) (hit : session.faults.Hits operation)
    (observation : Observation) :
    (session.attemptInTurn call rest).1 ≠ some (.returned (.ok observation)) := by
  induction rest generalizing session call with
  | nil =>
    obtain rfl : call = last := Option.some.inj isLast
    intro observed
    obtain ⟨reply, answered, -⟩ := exists_reply_of_attemptInTurn observed
    exact attempt_ne_ok_of_hits asks opened hit reply answered
  | cons next rest ih =>
    obtain ⟨isOperation, only⟩ := operations call List.mem_cons_self
    have changed : ChangedAt collection session (session.attempt call).2 :=
      changedAt_attempt isOperation only
    unfold attemptInTurn
    generalize session.attempt call = attempted at changed ⊢
    obtain ⟨_ | ⟨answer | payload⟩, after⟩ := attempted
    · simp
    · rw [List.getLast?_cons_cons] at isLast
      exact ih (fun made member => operations made (List.mem_cons_of_mem _ member)) isLast
        (changed.closed.trans opened) (changed.faults ▸ hit)
    · simp

/-- Nothing is observed in the check of an operation that misbehaves. -/
theorem attemptCheck_ne_ok_of_hits {operation : Operation} (opened : session.closed = false)
    (hit : session.faults.Hits operation) (collection : String) (observation : Observation) :
    (session.attemptCheck collection operation.check).1 ≠ some (.returned (.ok observation)) := by
  obtain ⟨call, rest, last, calls, isLast, asks⟩ : ∃ call rest last,
      operation.check.calls collection = call :: rest ∧ (call :: rest).getLast? = some last ∧
        last.operation? = some operation := by
    cases operation <;> exact ⟨_, _, _, rfl, rfl, rfl⟩
  have operations := operations_calls collection operation.check
  rw [calls] at operations
  rw [attemptCheck, calls]
  exact attemptInTurn_ne_ok_of_hits operations isLast asks opened hit observation

end Memory.Session

namespace Checks

variable {checks : Checks} {session : Session}

/-- A check passes only on what has been observed. -/
theorem exists_observed_of_pass {check : Check}
    {ended : Option (Ending (Except Failure Observation))}
    (passes : checks.outcome check ended = .pass) :
    ∃ observation, ended = some (.returned (.ok observation)) ∧
      check.judge checks.collection observation = .ok () := by
  rcases ended with _ | ⟨failure | observation⟩ | payload
  · cases passes
  · cases passes
  · refine ⟨observation, rfl, ?_⟩
    change check.evaluate checks.collection (.ok observation) = .pass at passes
    unfold Check.evaluate at passes
    simp only at passes
    split at passes
    · assumption
    · cases passes
  · cases passes

/-- An operation that misbehaves makes its check fail. -/
theorem outcome_ne_pass_of_hits {operation : Operation} (opened : session.closed = false)
    (hit : session.faults.Hits operation) :
    checks.outcome operation.check
      (session.attemptCheck checks.collection operation.check).1 ≠ .pass := by
  intro passes
  obtain ⟨observation, observed, -⟩ := exists_observed_of_pass passes
  exact Session.attemptCheck_ne_ok_of_hits opened hit checks.collection observation observed

/-- An insert that does not report its identifier makes its check fail. -/
theorem insertedId_of_pass
    (passes : checks.outcome .insertOne
      (session.attemptCheck checks.collection .insertOne).1 = .pass) :
    session.faults.omitInsertedId = false := by
  obtain ⟨observation, observed, judged⟩ := exists_observed_of_pass passes
  obtain ⟨reply, answered, rfl⟩ := Session.exists_reply_of_attemptInTurn observed
  have carried := Session.carryOut_of_attempt rfl answered
  cases omitted : session.faults.omitInsertedId with
  | false => rfl
  | true =>
    simp only [Session.carryOut, Session.insertOne, omitted, if_true] at carried
    cases carried
    cases judged

theorem length_of_resizeIds {count : Nat} {ids resized : List String}
    (returned : Session.resizeIds (some count) ids = .returned resized) :
    resized.length = count := by
  unfold Session.resizeIds at returned
  split at returned
  · rename_i none
    cases none
  · rename_i same
    cases same
    split at returned
    · cases returned
    · cases returned
      simp only [List.length_append, List.length_take, List.length_replicate]
      omega

/-- An insert that reports a wrong number of identifiers makes its check fail. -/
theorem insertedIds_of_pass
    (passes : checks.outcome .insertMany
      (session.attemptCheck checks.collection .insertMany).1 = .pass) :
    session.faults.insertedIds = none ∨ session.faults.insertedIds = some 2 := by
  obtain ⟨observation, observed, judged⟩ := exists_observed_of_pass passes
  obtain ⟨reply, answered, rfl⟩ := Session.exists_reply_of_attemptInTurn observed
  have carried := Session.carryOut_of_attempt rfl answered
  cases reported : session.faults.insertedIds with
  | none => exact .inl rfl
  | some count =>
    simp only [Session.carryOut, Session.insertMany, reported] at carried
    obtain ⟨resized, returned, ⟨⟩⟩ := Ending.map_eq_returned_iff.mp carried
    have length := length_of_resizeIds returned
    simp only [Call.observation, Check.judge, Check.expectCount, length] at judged
    split at judged
    · rename_i two
      exact .inr (congrArg some two)
    · cases judged

/-- The result under the name of a check is one of that check. -/
theorem exists_of_named_onSession {list : List Check} {check : Check} {result : String × Outcome}
    (member : result ∈ (checks.onSession list session).1) (named : result.1 = check.name) :
    ∃ between, Session.ChangedAt checks.collection session between ∧
      result.2 = checks.outcome check (between.attemptCheck checks.collection check).1 := by
  obtain ⟨other, -, between, changed, rfl⟩ := exists_of_mem_onSession checks member
  obtain rfl := Check.name_injective named
  exact ⟨between, changed, rfl⟩

/-- Every check has a result under its name. -/
theorem exists_named_onSession (checks : Checks) (session : Session) (check : Check) :
    ∃ result ∈ (checks.onSession Check.all session).1, result.1 = check.name := by
  have named : check.name ∈ (checks.onSession Check.all session).1.map Prod.fst := by
    rw [names_onSession]
    exact List.mem_map_of_mem check.mem_all
  exact List.mem_map.mp named

/-- The check that exercises an operation which misbehaves does not pass. -/
theorem result_ne_pass_of_hits {list : List Check} {operation : Operation}
    {result : String × Outcome} (opened : session.closed = false)
    (hit : session.faults.Hits operation) (member : result ∈ (checks.onSession list session).1)
    (named : result.1 = operation.check.name) : result.2 ≠ .pass := by
  obtain ⟨between, changed, outcome⟩ := exists_of_named_onSession member named
  rw [outcome]
  exact outcome_ne_pass_of_hits (changed.closed.trans opened) (changed.faults ▸ hit)

/-- All checks on an open session pass exactly if it has no faults. -/
theorem onSession_pass_iff (checks : Checks) (opened : session.closed = false) :
    (∀ result ∈ (checks.onSession Check.all session).1, result.2 = .pass) ↔
      session.faults.Harmless := by
  constructor
  · intro pass
    have passed (check : Check) : ∃ between, Session.ChangedAt checks.collection session between ∧
        checks.outcome check (between.attemptCheck checks.collection check).1 = .pass := by
      obtain ⟨result, member, named⟩ := exists_named_onSession checks session check
      obtain ⟨between, changed, outcome⟩ := exists_of_named_onSession member named
      exact ⟨between, changed, outcome ▸ pass result member⟩
    constructor
    · intro operation hit
      obtain ⟨result, member, named⟩ := exists_named_onSession checks session operation.check
      exact result_ne_pass_of_hits opened hit member named (pass result member)
    · obtain ⟨between, changed, passes⟩ := passed .insertOne
      exact changed.faults ▸ insertedId_of_pass passes
    · obtain ⟨between, changed, passes⟩ := passed .insertMany
      exact changed.faults ▸ insertedIds_of_pass passes
  · intro harmless
    exact (turnAll_all session ⟨opened, harmless⟩ trivial).1

/-- There is no failure in the report of some results exactly if every one of them is a success. -/
theorem failed_recordAll_eq_zero_iff {results : List (String × Outcome)}
    (few : results.length < 2 ^ 64) :
    (Report.empty.recordAll results).failed = 0 ↔ ∀ result ∈ results, result.2 = .pass := by
  have room : Report.empty.total + results.length < 2 ^ 64 := by
    rw [show Report.empty.total = 0 from rfl, Nat.zero_add]
    exact few
  rw [(Report.balanced_empty.recordAll results room).failed_eq_zero_iff, Report.entries_recordAll]
  simp only [Report.empty, List.nil_append, Report.entriesOf, List.forall_mem_map,
    Entry.status_ofOutcome_eq_pass_iff]

/-- All checks on an open session of the driver come to an end with one entry for each. There is no
failure exactly if the session has no faults; every operation that misbehaves makes the check fail
that exercises it; no collection but the test collection is touched; and that one is gone in the end
if the session has no faults, whatever it held. -/
theorem run_finds_faults (checks : Checks) (profile : Profile) {ω : Type} {observer : Observer ω}
    (calm : observer.NeverPanics) {stage : Stage} {index : Nat} {session : Session}
    (holds : stage.Holds index session) (opened : session.closed = false) (seen : ω) :
    ∃ elapsed finished last, (checks.run (driver profile) observer index .empty).run (stage, seen) =
        .ended elapsed (.returned finished) (stage.withSession index last,
          observer.follow (announcements 1 finished.entries) seen) ∧
      finished.names = Check.all.map Check.name ∧
      (finished.failed = 0 ↔ session.faults.Harmless) ∧
      (∀ operation, session.faults.Hits operation →
        ∀ entry ∈ finished.entries, entry.name = operation.check.name → entry.status = .fail) ∧
      (∀ name ≠ checks.collection, last.documents name = session.documents name) ∧
      (session.faults.Harmless → last.documents checks.collection = none) := by
  obtain ⟨elapsed, course⟩ := checks.runFrom_of_holds profile calm holds 1 Check.all .empty seen
  have named : (checks.onSession Check.all session).1.map Prod.fst = Check.all.map Check.name :=
    checks.names_onSession Check.all
  have passing := onSession_pass_iff checks opened
  have failing {operation : Operation} (hit : session.faults.Hits operation)
      {result : String × Outcome} (member : result ∈ (checks.onSession Check.all session).1)
      (same : result.1 = operation.check.name) : result.2 ≠ .pass :=
    result_ne_pass_of_hits opened hit member same
  have others : ∀ name ≠ checks.collection,
      (checks.onSession Check.all session).2.documents name = session.documents name :=
    (changedAt_onSession checks Check.all).others
  have gone : session.faults.Harmless →
      (checks.onSession Check.all session).2.documents checks.collection = none :=
    fun harmless => (turnAll_all session ⟨opened, harmless⟩ trivial).2
  generalize checks.onSession Check.all session = made at *
  have entries : (Report.empty.recordAll made.1).entries = Report.entriesOf made.1 := by
    rw [Report.entries_recordAll]
    rfl
  have few : made.1.length < 2 ^ 64 := by
    rw [← List.length_map, named]
    decide
  refine ⟨elapsed, Report.empty.recordAll made.1, made.2, ?_, ?_, ?_, ?_, others, gone⟩
  · rw [entries]
    exact course
  · rw [Report.names, entries, Report.entriesOf, List.map_map, ← named]
    exact List.map_congr_left fun result _ => Entry.name_ofOutcome _ _
  · exact (failed_recordAll_eq_zero_iff few).trans passing
  · intro operation hit entry member same
    rw [entries, Report.entriesOf] at member
    obtain ⟨⟨name, outcome⟩, listed, rfl⟩ := List.mem_map.mp member
    rw [Entry.name_ofOutcome] at same
    cases outcome with
    | pass => exact absurd rfl (failing hit listed same)
    | fail detail => rfl

/-- A session with documents in two collections. -/
def usedSession (faults : Faults) : Session :=
  ((Session.open_ "shop" faults).seed "people" [Check.alice]).seed "orders" [Check.bob]

/-- Leftovers in the test collection do not matter to a session without faults, and a find that
never answers is found on the same session. -/
theorem run_finds_faults_usedSession :
    (∃ elapsed finished last, ((Checks.mk "people" 0).run (driver .plain) .recorder 0 .empty).run
        (⟨[usedSession .none], .none⟩, []) =
          .ended elapsed (.returned finished)
            (⟨[last], .none⟩, announcements 1 finished.entries) ∧
      finished.failed = 0 ∧ last.documents "people" = none ∧
      last.documents "orders" = (usedSession .none).documents "orders") ∧
    ∃ elapsed finished last, ((Checks.mk "people" 0).run (driver .plain) .recorder 0 .empty).run
        (⟨[usedSession { Faults.none with hanging := [.find] }], .none⟩, []) =
          .ended elapsed (.returned finished)
            (⟨[last], .none⟩, announcements 1 finished.entries) ∧
      ∀ entry ∈ finished.entries, entry.name = "find-with-limit" → entry.status = .fail := by
  constructor
  · have holds : Stage.Holds ⟨[usedSession .none], .none⟩ 0 (usedSession .none) := ⟨rfl, rfl⟩
    have harmless : (usedSession .none).faults.Harmless := Faults.harmless_none
    obtain ⟨elapsed, finished, last, course, -, found, -, others, gone⟩ :=
      (Checks.mk "people" 0).run_finds_faults .plain Observer.recorder_neverPanics holds rfl []
    rw [Observer.follow_recorder] at course
    exact ⟨elapsed, finished, last, course, found.mpr harmless, gone harmless,
      others "orders" (by decide)⟩
  · let session := usedSession { Faults.none with hanging := [.find] }
    have holds : Stage.Holds ⟨[session], .none⟩ 0 session := ⟨rfl, rfl⟩
    obtain ⟨elapsed, finished, last, course, -, -, failing, -, -⟩ :=
      (Checks.mk "people" 0).run_finds_faults .plain Observer.recorder_neverPanics holds rfl []
    rw [Observer.follow_recorder] at course
    exact ⟨elapsed, finished, last, course, failing .find (.inr (.inr List.mem_cons_self))⟩

end Checks

end DriverCompat
