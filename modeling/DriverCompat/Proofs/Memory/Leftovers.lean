import DriverCompat.Proofs.Memory.Checks
import DriverCompat.Proofs.Memory.Likeness

/-! # Leftovers do not matter

The second check drops the test collection before it creates it. If that drop works, two sessions
with the same faults agree from then on in all that the checks can see, whatever they held before:
the test collection holds documents that differ in identifiers alone. So the checks record the same
entries on both, and the same entries again when they are run once more on the session that they
have left.
-/

namespace DriverCompat

open Memory

namespace Memory.Session

variable {first second session : Session} {collection : String}

/-- Blind calls end alike on sessions that are alike, and leave them alike. -/
theorem attempt_alike (alike : AlikeAt collection first second) {call : Call}
    (blind : call.Blind collection) :
    Option.Rel (EndingsAlike collection)
        ((first.attempt call).1.map (Ending.map (Except.map call.observation)))
        ((second.attempt call).1.map (Ending.map (Except.map call.observation))) ∧
      AlikeAt collection (first.attempt call).2 (second.attempt call).2 := by
  obtain ⟨operation, asks⟩ := blind.exists_operation
  rw [attempt_eq_of_asks asks, attempt_eq_of_asks asks, alike.toKindred.obstacle? operation]
  have carried := carryOut_alike alike blind
  split
  · exact ⟨.some (.returned (.failed _)), alike⟩
  · exact ⟨.none, alike⟩
  · exact ⟨.some (.panicked _), alike⟩
  · exact ⟨.some (.returned (.failed _)), alike⟩
  · exact ⟨.some carried.1, carried.2⟩

end Memory.Session

namespace Check

/-- The rule of a check does not tell alike observations apart. -/
theorem judge_eq_of_alike (check : Check) {collection : String}
    {observation observation' : Observation}
    (alike : observation.Alike collection observation') :
    check.judge collection observation = check.judge collection observation' := by
  cases alike with
  | acknowledged => rfl
  | updated count => rfl
  | deleted count => rfl
  | insertedOne same => cases check <;> simp only [judge, same, Observation.kind]
  | insertedMany same => cases check <;> simp only [judge, same, Observation.kind]
  | found alike => cases check <;> simp only [judge, alike.length_eq, Observation.kind]
  | collectionNames same => cases check <;> simp only [judge, same, Observation.kind]
  | foundOne alike =>
    cases alike with
    | none => rfl
    | @some document document' same =>
      have found : isAlice document = isAlice document' := by
        unfold isAlice
        rw [same "name" (by decide), same "age" (by decide)]
      cases check <;> simp only [judge, found, Observation.kind]

/-- All checks but the creation of the test collection make one call, which is blind. -/
theorem exists_blind (collection : String) {check : Check} (other : check ≠ .createCollection) :
    ∃ call, check.calls collection = [call] ∧ call.Blind collection := by
  have byName (name : String) : (named name).Unidentified := by
    intro member among
    obtain rfl := List.mem_singleton.mp among
    change "name" ≠ "_id"
    decide
  have age (fields : Document) (asked : setAge.get? "$set" = some (.object fields)) :
      Document.Unidentified fields := by
    have set : setAge.get? "$set" = some (.object [("age", Json.int updatedAge (by decide))]) := rfl
    rw [set] at asked
    cases asked
    intro member among
    obtain rfl := List.mem_singleton.mp among
    decide
  cases check with
  | createCollection => exact absurd rfl other
  | ping => exact ⟨_, rfl, trivial⟩
  | listCollections => exact ⟨_, rfl, trivial⟩
  | insertOne => exact ⟨_, rfl, rfl⟩
  | insertMany => exact ⟨_, rfl, rfl⟩
  | dropCollection => exact ⟨_, rfl, rfl⟩
  | findOne => exact ⟨_, rfl, rfl, byName "Alice"⟩
  | findWithLimit => exact ⟨_, rfl, rfl, nofun⟩
  | updateOne => exact ⟨_, rfl, rfl, byName "Alice", age⟩
  | deleteOne => exact ⟨_, rfl, rfl, byName "Bob"⟩

end Check

namespace Checks

variable {checks : Checks} {first second session : Session}

theorem outcome_eq_of_alike (check : Check)
    {ended ended' : Option (Ending (Except Failure Observation))}
    (alike : Option.Rel (EndingsAlike checks.collection) ended ended') :
    checks.outcome check ended = checks.outcome check ended' := by
  rcases alike with ⟨⟨payload⟩ | ⟨⟨failure⟩ | ⟨alike⟩⟩⟩ | _
  · rfl
  · rfl
  · simp only [outcome, Check.evaluate, check.judge_eq_of_alike alike]
  · rfl

/-- A check other than the creation has the same outcome on sessions that are alike. -/
theorem attemptCheck_alike (alike : Session.AlikeAt checks.collection first second) {check : Check}
    (other : check ≠ .createCollection) :
    checks.outcome check (first.attemptCheck checks.collection check).1 =
        checks.outcome check (second.attemptCheck checks.collection check).1 ∧
      Session.AlikeAt checks.collection (first.attemptCheck checks.collection check).2
        (second.attemptCheck checks.collection check).2 := by
  obtain ⟨call, calls, blind⟩ := check.exists_blind checks.collection other
  obtain ⟨ended, left⟩ := Session.attempt_alike alike blind
  simp only [Session.attemptCheck, calls, Session.attemptInTurn]
  exact ⟨outcome_eq_of_alike check ended, left⟩

/-- A drop that works makes kindred sessions alike. -/
theorem dropped_alike (kindred : Session.Kindred first second)
    (free : first.obstacle? .dropCollection = none) (collection : String) :
    ∃ dropped dropped' : Session,
      first.attempt (.dropCollection collection) = (some (.returned (.ok ())), dropped) ∧
      second.attempt (.dropCollection collection) = (some (.returned (.ok ())), dropped') ∧
      dropped.documents collection = none ∧ dropped'.documents collection = none ∧
      Session.AlikeAt collection dropped dropped' := by
  have free' : second.obstacle? .dropCollection = none := by
    rw [← kindred.obstacle? .dropCollection]
    exact free
  refine ⟨_, _, Session.attempt_of_free rfl free, Session.attempt_of_free rfl free', ?_, ?_, ?_⟩
  · exact (Store.get?_remove _ _ _).trans (if_pos rfl)
  · exact (Store.get?_remove _ _ _).trans (if_pos rfl)
  · exact ⟨⟨kindred.faults, kindred.closed⟩, Store.alikeAt_remove _ _ _⟩

/-- The creation of a collection that does not exist comes to the same on sessions that are
alike. -/
theorem created_alike {collection : String} (alike : Session.AlikeAt collection first second)
    (gone : first.documents collection = none) (gone' : second.documents collection = none) :
    (first.attempt (.createCollection collection)).1 =
        (second.attempt (.createCollection collection)).1 ∧
      Session.AlikeAt collection (first.attempt (.createCollection collection)).2
        (second.attempt (.createCollection collection)).2 := by
  have created {session : Session} (gone : session.documents collection = none) :
      session.createCollection collection =
        (.ok (), session.withStore (session.store.set collection [])) := by
    unfold Session.createCollection
    rw [show session.store.get? collection = none from gone]
  rw [Session.attempt_eq_of_asks rfl, Session.attempt_eq_of_asks rfl,
    alike.toKindred.obstacle? .createCollection]
  split
  · exact ⟨rfl, alike⟩
  · exact ⟨rfl, alike⟩
  · exact ⟨rfl, alike⟩
  · exact ⟨rfl, alike⟩
  · simp only [Session.carryOut, created gone, created gone']
    exact ⟨rfl, alike.withStore (Store.alikeAt_set collection _ _ .nil)⟩

/-- The check that creates the test collection has the same outcome on kindred sessions whose drop
works, whatever they hold, and leaves them alike. -/
theorem attemptCreation_alike (kindred : Session.Kindred first second)
    (free : first.obstacle? .dropCollection = none) (collection : String) :
    (first.attemptCheck collection .createCollection).1 =
        (second.attemptCheck collection .createCollection).1 ∧
      Session.AlikeAt collection (first.attemptCheck collection .createCollection).2
        (second.attemptCheck collection .createCollection).2 := by
  obtain ⟨dropped, dropped', drops, drops', gone, gone', alike⟩ :=
    dropped_alike kindred free collection
  obtain ⟨same, left⟩ := created_alike alike gone gone'
  simp only [Session.attemptCheck, Check.calls, Session.attemptInTurn, drops, drops']
  exact ⟨congrArg _ same, left⟩

theorem onSession_cons (check : Check) (rest : List Check) (session : Session) :
    (checks.onSession (check :: rest) session).1 =
      (check.name, checks.outcome check (session.attemptCheck checks.collection check).1) ::
        (checks.onSession rest (session.attemptCheck checks.collection check).2).1 := rfl

/-- By induction on the checks: each has the same outcome and leaves the sessions alike. -/
theorem onSession_eq_of_alike {list : List Check}
    (others : ∀ check ∈ list, check ≠ .createCollection)
    (alike : Session.AlikeAt checks.collection first second) :
    (checks.onSession list first).1 = (checks.onSession list second).1 := by
  induction list generalizing first second with
  | nil => rfl
  | cons check rest ih =>
    obtain ⟨same, left⟩ := attemptCheck_alike alike (others check List.mem_cons_self)
    have further := ih (fun other member => others other (List.mem_cons_of_mem _ member)) left
    rw [onSession_cons, onSession_cons, same, further]

/-- The ping, which comes before the creation, keeps kindred sessions kindred. -/
theorem attemptPing_kindred (kindred : Session.Kindred first second) (collection : String) :
    (first.attemptCheck collection .ping).1 = (second.attemptCheck collection .ping).1 ∧
      Session.Kindred (first.attemptCheck collection .ping).2
        (second.attemptCheck collection .ping).2 := by
  simp only [Session.attemptCheck, Check.calls, Session.attemptInTurn]
  rw [Session.attempt_eq_of_asks rfl, Session.attempt_eq_of_asks rfl, kindred.obstacle? .ping]
  split <;> exact ⟨rfl, kindred⟩

/-- All checks have the same results on kindred sessions whose drop works. -/
theorem onSession_eq_of_kindred (checks : Checks) (kindred : Session.Kindred first second)
    (free : first.obstacle? .dropCollection = none) :
    (checks.onSession Check.all first).1 = (checks.onSession Check.all second).1 := by
  obtain ⟨pinged, still⟩ := attemptPing_kindred kindred checks.collection
  have pings : Session.Kindred first (first.attemptCheck checks.collection .ping).2 :=
    (Session.changedAt_attemptCheck checks.collection .ping).kindred
  obtain ⟨created, alike⟩ := attemptCreation_alike still
    ((pings.obstacle? .dropCollection).symm.trans free) checks.collection
  have others : ∀ check ∈ Check.all.drop 2, check ≠ .createCollection := by decide
  have further := onSession_eq_of_alike others alike
  rw [show Check.all = .ping :: .createCollection :: Check.all.drop 2 from rfl]
  simp only [onSession_cons]
  rw [pinged, created, further]

variable {σ κ ω : Type}

/-- Runs all checks again and again on one session, and enters each time into another report. -/
def runEach (checks : Checks) (driver : Driver σ κ) (observer : Observer ω) (session : κ) :
    List Report → Activity (σ × ω) (List Report)
  | [] => return []
  | report :: rest => do
    let finished ← checks.run driver observer session report
    let others ← runEach checks driver observer session rest
    return finished :: others

/-- By induction on the runs: each leaves a session that is kindred to the first one, so that the
next has the same results. -/
theorem runEach_of_holds (checks : Checks) (profile : Profile) {observer : Observer ω}
    (calm : observer.NeverPanics)
    {stage : Stage} {index : Nat} (kindred : Session.Kindred first session)
    (free : first.obstacle? .dropCollection = none) (holds : stage.Holds index session)
    (reports : List Report) (seen : ω) :
    ∃ elapsed last, checks.runEach (driver profile) observer index reports none (stage, seen) =
      .ended elapsed
        (.returned (reports.map (·.recordAll (checks.onSession Check.all first).1))) last := by
  induction reports generalizing session stage seen with
  | nil => exact ⟨0, _, rfl⟩
  | cons report rest ih =>
    obtain ⟨spent, course⟩ :=
      checks.runFrom_of_holds profile calm holds 1 Check.all report seen
    have results := checks.onSession_eq_of_kindred kindred free
    have changed : Session.Kindred session (checks.onSession Check.all session).2 :=
      (checks.changedAt_onSession Check.all).kindred
    obtain ⟨more, last, further⟩ := ih (kindred.trans changed) (holds.withSession _)
      (observer.follow (announcements 1
        (Report.entriesOf (checks.onSession Check.all session).1)) seen)
    refine ⟨spent + more, last, ?_⟩
    rw [results] at further ⊢
    unfold runEach run
    rw [Activity.bind_returned course, Activity.remaining_none]
    refine congrArg (Activity.delayed spent) (Activity.bind_done further ?_)
    exact Activity.pure_apply _ _ _

/-- On open sessions with the same faults, whose drop works, all checks record the same entries,
whatever the sessions hold and whatever is in the reports before; and they record them again in
every further run on a session. -/
theorem run_ignores_leftovers (checks : Checks) (profile : Profile) {observer : Observer ω}
    (calm : observer.NeverPanics) {stage stage' : Stage} {index index' : Nat}
    {session session' : Session} (holds : stage.Holds index session)
    (holds' : stage'.Holds index' session') (opened : session.closed = false)
    (opened' : session'.closed = false) (same : session.faults = session'.faults)
    (drops : ¬ session.faults.Hits .dropCollection) :
    ∃ entries : List Entry, entries.map Entry.name = Check.all.map Check.name ∧
      (∀ report seen, ∃ elapsed finished last,
        (checks.run (driver profile) observer index report).run (stage, seen) =
          .ended elapsed (.returned finished) last ∧
        finished.entries = report.entries ++ entries) ∧
      (∀ report seen, ∃ elapsed finished last,
        (checks.run (driver profile) observer index' report).run (stage', seen) =
          .ended elapsed (.returned finished) last ∧
        finished.entries = report.entries ++ entries) ∧
      ∀ reports seen, ∃ elapsed finished last,
        (checks.runEach (driver profile) observer index reports).run (stage, seen) =
          .ended elapsed (.returned finished) last ∧
        finished.map Report.entries = reports.map (·.entries ++ entries) := by
  have kindred : Session.Kindred session session' := ⟨same, opened.trans opened'.symm⟩
  have free : session.obstacle? .dropCollection = none :=
    (Session.obstacle?_eq_none_iff opened .dropCollection).mpr drops
  have results := checks.onSession_eq_of_kindred kindred free
  refine ⟨Report.entriesOf (checks.onSession Check.all session).1, ?_, ?_, ?_, ?_⟩
  · have named : (checks.onSession Check.all session).1.map Prod.fst = Check.all.map Check.name :=
      checks.names_onSession Check.all
    rw [← named, Report.entriesOf, List.map_map]
    exact List.map_congr_left fun result _ => Entry.name_ofOutcome _ _
  · intro report seen
    obtain ⟨elapsed, course⟩ := checks.runFrom_of_holds profile calm holds 1 Check.all report seen
    exact ⟨elapsed, _, _, course, Report.entries_recordAll _ _⟩
  · intro report seen
    obtain ⟨elapsed, course⟩ := checks.runFrom_of_holds profile calm holds' 1 Check.all report seen
    rw [results]
    exact ⟨elapsed, _, _, course, Report.entries_recordAll _ _⟩
  · intro reports seen
    obtain ⟨elapsed, last, course⟩ := checks.runEach_of_holds profile calm
      (Session.Kindred.refl session) free holds reports seen
    refine ⟨elapsed, _, last, course, ?_⟩
    rw [List.map_map]
    exact List.map_congr_left fun report _ => Report.entries_recordAll _ _

/-- A session on which collections cannot be created and a find is never answered. -/
def halfBroken (database : String) : Session :=
  Session.open_ database { Faults.none with failing := [.createCollection], hanging := [.find] }

/-- A session that holds documents in the test collection, and one that holds nothing, in databases
with different names: the checks record the same on both, and the same again twice more. -/
theorem run_ignores_leftovers_halfBroken :
    ∃ entries : List Entry, entries.map Entry.name = Check.all.map Check.name ∧
      (∃ elapsed finished last,
        ((Checks.mk "people" 0).run (driver .plain) .silent 0 .empty).run
            (⟨[(halfBroken "shop").seed "people" [Check.alice, Check.bob]], .none⟩, ()) =
          .ended elapsed (.returned finished) last ∧ finished.entries = entries) ∧
      (∃ elapsed finished last,
        ((Checks.mk "people" 0).run (driver .plain) .silent 0 .empty).run
            (⟨[halfBroken "store"], .none⟩, ()) =
          .ended elapsed (.returned finished) last ∧ finished.entries = entries) ∧
      ∃ elapsed finished last,
        ((Checks.mk "people" 0).runEach (driver .plain) .silent 0 [.empty, .empty, .empty]).run
            (⟨[(halfBroken "shop").seed "people" [Check.alice, Check.bob]], .none⟩, ()) =
          .ended elapsed (.returned finished) last ∧
        finished.map Report.entries = [entries, entries, entries] := by
  let used := (halfBroken "shop").seed "people" [Check.alice, Check.bob]
  have holds : Stage.Holds ⟨[used], .none⟩ 0 used := ⟨rfl, rfl⟩
  have holds' : Stage.Holds ⟨[halfBroken "store"], .none⟩ 0 (halfBroken "store") := ⟨rfl, rfl⟩
  have drops : ¬ used.faults.Hits .dropCollection := by
    rintro (listed | listed | listed) <;> revert listed <;> decide
  obtain ⟨entries, names, early, late, again⟩ := (Checks.mk "people" 0).run_ignores_leftovers .plain
    Observer.silent_neverPanics holds holds' rfl rfl rfl drops
  exact ⟨entries, names, early .empty (), late .empty (), again [.empty, .empty, .empty] ()⟩

end Checks

end DriverCompat
