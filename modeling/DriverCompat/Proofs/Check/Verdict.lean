import DriverCompat.Check.Evaluate
import DriverCompat.Proofs.Json.Equality
import DriverCompat.Proofs.Json.Numbers

/-! # Verdicts

A check passes exactly on observations of its own kind that show what it is about. Every other
observation, and every failure, is a verdict with a text of its own: the failure itself, the count
that there was in place of the one that was wanted, or the kind that was observed in place of the
one that the check can judge.
-/

namespace DriverCompat

namespace Observation

/-- How many things were observed, where that is what is judged. -/
def count? : Observation → Option Nat
  | .insertedMany ids => some ids.length
  | .found documents => some documents.length
  | .updated count => some count
  | .deleted count => some count
  | _ => none

end Observation

namespace Check

/-- The document shows what was inserted first: its name is the string, and its age a number that
is thirty. -/
structure ShowsAlice (document : Document) : Prop where
  name : document.get? "name" = some (.string "Alice")
  age : ∃ age : Json.Number, document.get? "age" = some (.number age) ∧ age.value = 30

theorem isAlice_iff (document : Document) : isAlice document = true ↔ ShowsAlice document := by
  have thirty : ((aliceAge : Int) : ℚ) = 30 := by norm_num [aliceAge]
  rw [isAlice, Bool.and_eq_true]
  constructor
  · rintro ⟨named, aged⟩
    constructor
    · split at named
      · rename_i name found
        rw [found, beq_iff_eq.mp named]
      · cases named
    · split at aged
      · rename_i age found
        exact ⟨age, found, ((age.isEqualTo_iff _).mp aged).trans thirty⟩
      · cases aged
  · rintro ⟨named, age, found, known⟩
    rw [named, found]
    exact ⟨beq_self_eq_true _, (age.isEqualTo_iff _).mpr (known.trans thirty.symm)⟩

/-- In a document that has each key once, it does not matter where the two members stand, and what
else there is. -/
theorem showsAlice_iff_mem {document : Document} (distinct : (document.map Prod.fst).Nodup) :
    ShowsAlice document ↔ ("name", .string "Alice") ∈ document ∧
      ∃ age : Json.Number, ("age", .number age) ∈ document ∧ age.value = 30 := by
  have found (key : String) (value : Json) :
      document.get? key = some value ↔ (key, value) ∈ document :=
    ⟨Document.mem_of_get?, Document.get?_of_mem distinct⟩
  constructor
  · rintro ⟨name, age, number, thirty⟩
    exact ⟨(found _ _).mp name, age, (found _ _).mp number, thirty⟩
  · rintro ⟨name, age, number, thirty⟩
    exact ⟨(found _ _).mpr name, age, (found _ _).mpr number, thirty⟩

/-- What each check is about, for the test collection. -/
inductive Meets (collection : String) : Check → Observation → Prop
  | ping : Meets collection .ping .acknowledged
  | createCollection : Meets collection .createCollection .acknowledged
  | insertOne (id : String) : Meets collection .insertOne (.insertedOne (some id))
  | findOne {document : Document} (shows : ShowsAlice document) :
      Meets collection .findOne (.foundOne (some document))
  | insertMany (first second : String) :
      Meets collection .insertMany (.insertedMany [first, second])
  | findWithLimit (first second third : Document) :
      Meets collection .findWithLimit (.found [first, second, third])
  | updateOne : Meets collection .updateOne (.updated 1)
  | deleteOne : Meets collection .deleteOne (.deleted 1)
  | listCollections {names : List String} (listed : collection ∈ names) :
      Meets collection .listCollections (.collectionNames names)
  | dropCollection : Meets collection .dropCollection .acknowledged

/-- The kind of observation that a check can judge. -/
def judgedKind : Check → String
  | .ping => "acknowledged"
  | .createCollection => "acknowledged"
  | .insertOne => "insert-one result"
  | .findOne => "single document"
  | .insertMany => "insert-many result"
  | .findWithLimit => "document list"
  | .updateOne => "update result"
  | .deleteOne => "delete result"
  | .listCollections => "collection names"
  | .dropCollection => "acknowledged"

/-- What a check counts, and how many of it there have to be. -/
def counted? : Check → Option (String × Nat)
  | .insertMany => some ("inserted documents", 2)
  | .findWithLimit => some ("documents", 3)
  | .updateOne => some ("modified document", 1)
  | .deleteOne => some ("deleted document", 1)
  | _ => none

/-- The verdicts of a check. -/
inductive Verdict (collection : String) (check : Check) :
    Except Failure Observation → Outcome → Prop
  | passed {observation : Observation} (meets : Meets collection check observation) :
      Verdict collection check (.ok observation) .pass
  | failed (failure : Failure) : Verdict collection check (.error failure) (.fail failure.message)
  | wrongKind {observation : Observation} (differs : observation.kind ≠ check.judgedKind) :
      Verdict collection check (.ok observation)
        (.fail s!"{check.name} got an unexpected driver response ({observation.kind})")
  | wrongCount {observation : Observation} {what : String} {expected actual : Nat}
      (judged : observation.kind = check.judgedKind)
      (wanted : check.counted? = some (what, expected))
      (counted : observation.count? = some actual) (differs : actual ≠ expected) :
      Verdict collection check (.ok observation)
        (.fail s!"Expected {expected} {what}, got {actual}")
  | noIdentifier (inserting : check = .insertOne) :
      Verdict collection check (.ok (.insertedOne none)) (.fail "No inserted_id returned")
  | noDocument (finding : check = .findOne) :
      Verdict collection check (.ok (.foundOne none)) (.fail "Document not found")
  | otherDocument {document : Document} (finding : check = .findOne)
      (differs : ¬ ShowsAlice document) :
      Verdict collection check (.ok (.foundOne (some document)))
        (.fail "Document not found or incorrect")
  | notListed {names : List String} (listing : check = .listCollections)
      (absent : collection ∉ names) :
      Verdict collection check (.ok (.collectionNames names)) (.fail s!"{collection} not found")

section Judged

variable {collection : String} {check : Check} {observation : Observation}

theorem judge_of_kind_ne (differs : observation.kind ≠ check.judgedKind) :
    check.judge collection observation = .error (.wrongKind check observation.kind) := by
  cases check <;> cases observation <;> first | rfl | exact absurd rfl differs

/-- A count is judged by whether it is the wanted one. -/
theorem judge_of_counted {what : String} {expected actual : Nat}
    (judged : observation.kind = check.judgedKind) (wanted : check.counted? = some (what, expected))
    (counted : observation.count? = some actual) :
    check.judge collection observation = expectCount what expected actual := by
  cases check <;> cases wanted <;> cases observation <;> cases counted <;>
    first | rfl | simp [Observation.kind, judgedKind] at judged

theorem verdict_of_counted {what : String} {expected actual : Nat}
    (judged : observation.kind = check.judgedKind) (wanted : check.counted? = some (what, expected))
    (counted : observation.count? = some actual)
    (meets : actual = expected → Meets collection check observation) :
    Verdict collection check (.ok observation) (check.evaluate collection (.ok observation)) := by
  rw [evaluate, judge_of_counted judged wanted counted, expectCount]
  by_cases same : actual = expected
  · rw [if_pos same]
    exact .passed (meets same)
  · rw [if_neg same]
    exact .wrongCount judged wanted counted same

/-- The verdicts on an observation of the kind that the check can judge: each check has such
observations of one form. -/
theorem verdict_of_judged (judged : observation.kind = check.judgedKind) :
    Verdict collection check (.ok observation) (check.evaluate collection (.ok observation)) := by
  cases check <;> cases observation <;>
    simp only [Observation.kind, judgedKind, String.reduceEq] at judged
  case ping.acknowledged => exact .passed .ping
  case createCollection.acknowledged => exact .passed .createCollection
  case dropCollection.acknowledged => exact .passed .dropCollection
  case insertOne.insertedOne id =>
    cases id with
    | none => exact .noIdentifier rfl
    | some id => exact .passed (.insertOne id)
  case findOne.foundOne found =>
    cases found with
    | none => exact .noDocument rfl
    | some document =>
      by_cases shows : ShowsAlice document
      · rw [evaluate, judge, if_pos ((isAlice_iff document).mpr shows)]
        exact .passed (.findOne shows)
      · rw [evaluate, judge, if_neg (mt (isAlice_iff document).mp shows)]
        exact .otherDocument rfl shows
  case insertMany.insertedMany ids =>
    refine verdict_of_counted rfl rfl rfl fun two => ?_
    obtain ⟨first, second, rfl⟩ := List.length_eq_two.mp two
    exact .insertMany first second
  case findWithLimit.found documents =>
    refine verdict_of_counted rfl rfl rfl fun three => ?_
    obtain ⟨first, second, third, rfl⟩ := List.length_eq_three.mp three
    exact .findWithLimit first second third
  case updateOne.updated count =>
    refine verdict_of_counted rfl rfl rfl ?_
    rintro rfl
    exact .updateOne
  case deleteOne.deleted count =>
    refine verdict_of_counted rfl rfl rfl ?_
    rintro rfl
    exact .deleteOne
  case listCollections.collectionNames names =>
    by_cases listed : collection ∈ names
    · rw [evaluate, judge, if_pos listed]
      exact .passed (.listCollections listed)
    · rw [evaluate, judge, if_neg listed]
      exact .notListed rfl listed

end Judged

/-- Every check gives one of its verdicts. -/
theorem verdict_evaluate (check : Check) (collection : String)
    (observed : Except Failure Observation) :
    Verdict collection check observed (check.evaluate collection observed) := by
  cases observed with
  | error failure => exact .failed failure
  | ok observation =>
    by_cases judged : observation.kind = check.judgedKind
    · exact verdict_of_judged judged
    · rw [evaluate, judge_of_kind_ne judged]
      exact .wrongKind judged

theorem evaluate_of_meets {collection : String} {check : Check} {observation : Observation}
    (meets : Meets collection check observation) :
    check.evaluate collection (.ok observation) = .pass := by
  cases meets with
  | findOne shows => rw [evaluate, judge, if_pos ((isAlice_iff _).mpr shows)]
  | listCollections listed => rw [evaluate, judge, if_pos listed]
  | _ => rfl

/-- A verdict is what the check gives, so there is no more than one. -/
theorem Verdict.evaluate_eq {collection : String} {check : Check}
    {observed : Except Failure Observation} {outcome : Outcome}
    (verdict : Verdict collection check observed outcome) :
    check.evaluate collection observed = outcome := by
  cases verdict with
  | passed meets => exact evaluate_of_meets meets
  | failed failure => rfl
  | wrongKind differs =>
    rw [evaluate, judge_of_kind_ne differs]
    rfl
  | wrongCount judged wanted counted differs =>
    rw [evaluate, judge_of_counted judged wanted counted, expectCount, if_neg differs]
    rfl
  | noIdentifier inserting =>
    subst inserting
    rfl
  | noDocument finding =>
    subst finding
    rfl
  | otherDocument finding differs =>
    subst finding
    rw [evaluate, judge, if_neg (mt (isAlice_iff _).mp differs)]
    rfl
  | notListed listing absent =>
    subst listing
    rw [evaluate, judge, if_neg absent]
    rfl

/-- The verdict of a check on what was observed is decided exactly: it passes what it is about, and
nothing else, and everything else has the text that is due to it. A document is looked at for two of
its members only, wherever they stand. -/
theorem evaluate_exact (check : Check) (collection : String)
    (observed : Except Failure Observation) :
    (∀ outcome, check.evaluate collection observed = outcome ↔
      Verdict collection check observed outcome) ∧
    (check.evaluate collection observed = .pass ↔
      ∃ observation, observed = .ok observation ∧ Meets collection check observation) ∧
    ∀ document, (document.map Prod.fst).Nodup →
      (Meets collection check (.foundOne (some document)) ↔ check = .findOne ∧
        ("name", .string "Alice") ∈ document ∧
        ∃ age : Json.Number, ("age", .number age) ∈ document ∧ age.value = 30) := by
  have given := verdict_evaluate check collection observed
  refine ⟨fun outcome => ⟨?_, Verdict.evaluate_eq⟩, ⟨?_, ?_⟩, fun document distinct => ⟨?_, ?_⟩⟩
  · rintro rfl
    exact given
  · intro passes
    rw [passes] at given
    cases given with
    | passed meets => exact ⟨_, rfl, meets⟩
  · rintro ⟨observation, rfl, meets⟩
    exact evaluate_of_meets meets
  · rintro ⟨⟩
    rename_i shows
    exact ⟨rfl, (showsAlice_iff_mem distinct).mp shows⟩
  · rintro ⟨rfl, members⟩
    exact .findOne ((showsAlice_iff_mem distinct).mpr members)

/-- The document comes with its members in another order, with one more between them, and with the
age as a double. -/
theorem evaluate_exact_wholeDouble :
    let document : Document := [("age", .number (.double ⟨0x403E000000000000⟩ rfl)),
      ("tags", .array [.null]), ("name", .string "Alice")]
    (document.map Prod.fst).Nodup ∧
      Check.findOne.evaluate "people" (.ok (.foundOne (some document))) = .pass := by
  intro document
  have distinct : (document.map Prod.fst).Nodup := by decide
  have thirty : (Json.Number.double ⟨0x403E000000000000⟩ rfl).value = 30 := by
    exact_mod_cast (Json.Number.isEqualTo_iff _ 30).mp (by decide +kernel)
  obtain ⟨-, passes, members⟩ := evaluate_exact .findOne "people" (.ok (.foundOne (some document)))
  have meets := (members document distinct).mpr ⟨rfl, by simp [document], _, .head _, thirty⟩
  exact ⟨distinct, passes.mpr ⟨_, rfl, meets⟩⟩

end Check

end DriverCompat
