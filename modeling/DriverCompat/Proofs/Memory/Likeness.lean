import DriverCompat.Proofs.Memory.Session
import Mathlib.Data.List.Forall2

/-! # Collections that differ in identifiers alone

Identifiers are handed out in one sequence for a whole store, so that equal calls on two stores
leave documents that differ in them. Documents are alike if they differ in nothing else. Whatever
does not ask for identifiers cannot tell alike documents apart, and leaves alike documents behind:
filters, updates, and the calls that are made of them.
-/

namespace DriverCompat

namespace Document

/-- The documents have equal values under every key but that of their identifiers. -/
def Alike (first second : Document) : Prop := ∀ key ≠ "_id", first.get? key = second.get? key

/-- No member of the document is an identifier. -/
def Unidentified (document : Document) : Prop := ∀ member ∈ document, member.1 ≠ "_id"

theorem Alike.refl (document : Document) : document.Alike document := fun _ _ => rfl

variable {first second : Document}

theorem Alike.insert (alike : first.Alike second) (key : String) (value : Json) :
    (first.insert key value).Alike (second.insert key value) := by
  intro other named
  rw [get?_insert, get?_insert, alike other named]

/-- An identifier makes no difference, nor does the lack of one. -/
theorem Alike.insert_id (alike : first.Alike second) (id : Json) :
    (first.insert "_id" id).Alike second := by
  intro other named
  rw [get?_insert, if_neg named, alike other named]

theorem Alike.symm (alike : first.Alike second) : second.Alike first :=
  fun key named => (alike key named).symm

end Document

namespace Memory

namespace Store

variable {first second : Document}

/-- A filter that does not ask for the identifier. -/
theorem matchesFilter_of_alike {filter : Document} (blind : filter.Unidentified)
    (alike : first.Alike second) : matchesFilter filter first = matchesFilter filter second := by
  induction filter with
  | nil => rfl
  | cons member rest ih =>
    have named : member.1 ≠ "_id" := blind member List.mem_cons_self
    have others := ih fun other among => blind other (List.mem_cons_of_mem _ among)
    simp only [matchesFilter] at others ⊢
    rw [List.all_cons, List.all_cons, others, alike member.1 named]

/-- Fields that are set alike, none of which is the identifier. -/
theorem setFields_of_alike {fields : Document} (blind : fields.Unidentified)
    (alike : first.Alike second) :
    (setFields first fields).1.Alike (setFields second fields).1 ∧
      (setFields first fields).2 = (setFields second fields).2 := by
  induction fields generalizing first second with
  | nil => exact ⟨alike, rfl⟩
  | cons member rest ih =>
    obtain ⟨key, value⟩ := member
    have named : key ≠ "_id" := blind (key, value) List.mem_cons_self
    have others : Document.Unidentified rest := fun other among =>
      blind other (List.mem_cons_of_mem _ among)
    unfold setFields
    rw [alike key named]
    have inserted := (ih others (alike.insert key value)).1
    cases second.get? key with
    | none => exact ⟨inserted, rfl⟩
    | some old =>
      dsimp only
      split
      · exact ih others alike
      · exact ⟨inserted, rfl⟩

/-- A document is stored alike in any two stores. -/
theorem identify_alike (store store' : Store) (document : Document) :
    (store.identify document).2.1.Alike (store'.identify document).2.1 := by
  unfold identify
  split
  · exact .refl document
  · have stored (id : Json) : (document.insert "_id" id).Alike document :=
      (Document.Alike.refl document).insert_id id
    exact ((stored _).symm.insert_id _).symm

theorem identifyAll_alike (store store' : Store) (documents : List Document) :
    List.Forall₂ Document.Alike (store.identifyAll documents).2.1
        (store'.identifyAll documents).2.1 ∧
      (store.identifyAll documents).2.2.length = documents.length := by
  induction documents generalizing store store' with
  | nil => exact ⟨.nil, rfl⟩
  | cons document rest ih =>
    obtain ⟨alike, length⟩ := ih (store.identify document).1 (store'.identify document).1
    exact ⟨.cons (identify_alike store store' document) alike, congrArg Nat.succ length⟩

variable {documents documents' : List Document}

theorem filter_of_alike {filter : Document} (blind : filter.Unidentified)
    (alike : List.Forall₂ Document.Alike documents documents') :
    List.Forall₂ Document.Alike (documents.filter (matchesFilter filter))
      (documents'.filter (matchesFilter filter)) := by
  apply List.rel_filter _ alike
  intro first second same
  simp only [matchesFilter_of_alike blind same]

/-- What becomes of alike documents by a change that cannot tell them apart, and what it says. -/
theorem changeFirst_of_alike {filter : Document} (blind : filter.Unidentified) {α : Type}
    {change : Document → Option Document × α}
    (uniform : ∀ {first second : Document}, first.Alike second →
      Option.Rel Document.Alike (change first).1 (change second).1 ∧
        (change first).2 = (change second).2)
    (alike : List.Forall₂ Document.Alike documents documents') :
    Option.Rel (fun done done' => List.Forall₂ Document.Alike done.1 done'.1 ∧ done.2 = done'.2)
      (changeFirst filter change documents) (changeFirst filter change documents') := by
  induction alike with
  | nil => exact .none
  | @cons first second rest rest' same others ih =>
    unfold changeFirst
    rw [matchesFilter_of_alike blind same]
    split
    · obtain ⟨changed, said⟩ := uniform same
      refine .some ⟨?_, said⟩
      generalize (change first).1 = kept, (change second).1 = kept' at changed
      cases changed with
      | none => exact others
      | some stored => exact .cons stored others
    · generalize changeFirst filter change rest = done,
        changeFirst filter change rest' = done' at ih
      cases ih with
      | none => exact .none
      | some both => exact .some ⟨.cons same both.1, both.2⟩

/-- The stores hold alike documents under a name, or none. -/
def AlikeAt (name : String) (store store' : Store) : Prop :=
  Option.Rel (List.Forall₂ Document.Alike) (store.get? name) (store'.get? name)

section AlikeAt

variable {name : String} {store store' : Store}

theorem alikeAt_set (name : String) (store store' : Store)
    (alike : List.Forall₂ Document.Alike documents documents') :
    AlikeAt name (store.set name documents) (store'.set name documents') := by
  unfold AlikeAt
  rw [get?_set, get?_set, if_pos rfl, if_pos rfl]
  exact .some alike

theorem alikeAt_remove (name : String) (store store' : Store) :
    AlikeAt name (store.remove name) (store'.remove name) := by
  unfold AlikeAt
  rw [get?_remove, get?_remove, if_pos rfl, if_pos rfl]
  exact .none

variable (alike : AlikeAt name store store')
include alike

theorem AlikeAt.held :
    List.Forall₂ Document.Alike ((store.get? name).getD []) ((store'.get? name).getD []) := by
  unfold AlikeAt at alike
  generalize store.get? name = held, store'.get? name = held' at alike
  cases alike with
  | none => exact .nil
  | some same => exact same

theorem AlikeAt.mem_names_iff : name ∈ store.names ↔ name ∈ store'.names := by
  unfold AlikeAt at alike
  rw [mem_names, mem_names]
  generalize store.get? name = held, store'.get? name = held' at alike
  cases alike <;> rfl

theorem AlikeAt.append (documents : List Document) :
    AlikeAt name (store.append name documents).1 (store'.append name documents).1 := by
  have added := (identifyAll_alike store store' documents).1
  unfold AlikeAt
  rw [get?_append, get?_append, if_pos rfl, if_pos rfl]
  exact .some (List.rel_append alike.held added)

theorem AlikeAt.matching {filter : Document} (blind : filter.Unidentified) :
    List.Forall₂ Document.Alike (store.matching name filter) (store'.matching name filter) :=
  filter_of_alike blind alike.held

theorem AlikeAt.change {filter : Document} (blind : filter.Unidentified) {α : Type}
    {f : Document → Option Document × α}
    (uniform : ∀ {first second : Document}, first.Alike second →
      Option.Rel Document.Alike (f first).1 (f second).1 ∧ (f first).2 = (f second).2) :
    Option.Rel (fun done done' => AlikeAt name done.1 done'.1 ∧ done.2 = done'.2)
      (store.change name filter f) (store'.change name filter f) := by
  unfold AlikeAt at alike
  unfold Store.change
  generalize store.get? name = held, store'.get? name = held' at alike
  cases alike with
  | none => exact .none
  | @some documents documents' same =>
    have changed := changeFirst_of_alike blind uniform same
    simp only [Option.bind_eq_bind, Option.bind_some]
    generalize changeFirst filter f documents = done, changeFirst filter f documents' = done'
      at changed ⊢
    cases changed with
    | none => exact .none
    | some both => exact .some ⟨alikeAt_set name store store' both.1, both.2⟩

end AlikeAt

theorem limited_of_alike (limit : Option Int)
    (alike : List.Forall₂ Document.Alike documents documents') :
    List.Forall₂ Document.Alike (limited limit documents) (limited limit documents') := by
  unfold limited
  cases limit with
  | none => exact alike
  | some n =>
    dsimp only
    split
    · exact List.forall₂_take _ alike
    · exact alike

theorem head?_of_alike (alike : List.Forall₂ Document.Alike documents documents') :
    Option.Rel Document.Alike documents.head? documents'.head? := by
  cases alike with
  | nil => exact .none
  | cons same _ => exact .some same

end Store

end Memory

/-- What is observed does not differ in anything that tells of a collection, identifiers apart. -/
inductive Observation.Alike (collection : String) : Observation → Observation → Prop
  | acknowledged : Observation.Alike collection .acknowledged .acknowledged
  | insertedOne {id id' : Option String} (same : id.isSome = id'.isSome) :
      Observation.Alike collection (.insertedOne id) (.insertedOne id')
  | foundOne {document document' : Option Document}
      (alike : Option.Rel Document.Alike document document') :
      Observation.Alike collection (.foundOne document) (.foundOne document')
  | insertedMany {ids ids' : List String} (same : ids.length = ids'.length) :
      Observation.Alike collection (.insertedMany ids) (.insertedMany ids')
  | found {documents documents' : List Document}
      (alike : List.Forall₂ Document.Alike documents documents') :
      Observation.Alike collection (.found documents) (.found documents')
  | updated (count : Nat) : Observation.Alike collection (.updated count) (.updated count)
  | deleted (count : Nat) : Observation.Alike collection (.deleted count) (.deleted count)
  | collectionNames {names names' : List String} (same : collection ∈ names ↔ collection ∈ names') :
      Observation.Alike collection (.collectionNames names) (.collectionNames names')

/-- Answers that are the same failure or alike observations. -/
inductive AnswersAlike (collection : String) :
    Except Failure Observation → Except Failure Observation → Prop
  | failed (failure : Failure) : AnswersAlike collection (.error failure) (.error failure)
  | observed {observation observation' : Observation}
      (alike : observation.Alike collection observation') :
      AnswersAlike collection (.ok observation) (.ok observation')

/-- Ends that are the same panic or alike answers. -/
inductive EndingsAlike (collection : String) :
    Ending (Except Failure Observation) → Ending (Except Failure Observation) → Prop
  | panicked (payload : Payload) : EndingsAlike collection (.panicked payload) (.panicked payload)
  | returned {answer answer' : Except Failure Observation}
      (alike : AnswersAlike collection answer answer') :
      EndingsAlike collection (.returned answer) (.returned answer')

theorem EndingsAlike.of_observed {collection : String} {observation observation' : Observation}
    (alike : observation.Alike collection observation') :
    EndingsAlike collection (.returned (.ok observation)) (.returned (.ok observation')) :=
  .returned (.observed alike)

/-- A call on one collection that does not ask for identifiers. The creation of a collection is
none, since it fails with a text that names the database. -/
def Call.Blind (collection : String) : Call → Prop
  | .ping => True
  | .createCollection _ => False
  | .dropCollection name => name = collection
  | .listCollections => True
  | .insertOne name _ => name = collection
  | .insertMany name _ => name = collection
  | .findOne name filter => name = collection ∧ filter.Unidentified
  | .find name filter _ => name = collection ∧ filter.Unidentified
  | .updateOne name filter update => name = collection ∧ filter.Unidentified ∧
      ∀ fields, update.get? "$set" = some (.object fields) → Document.Unidentified fields
  | .deleteOne name filter => name = collection ∧ filter.Unidentified
  | .close => False

theorem Call.Blind.exists_operation {call : Call} {collection : String}
    (blind : call.Blind collection) : ∃ operation, call.operation? = some operation := by
  cases call with
  | close => exact blind.elim
  | _ => exact ⟨_, rfl⟩

namespace Memory.Session

/-- Sessions that misbehave alike and are both open or both closed. -/
structure Kindred (first second : Session) : Prop where
  faults : first.faults = second.faults
  closed : first.closed = second.closed

/-- Kindred sessions that cannot be told apart by what is in one collection. -/
structure AlikeAt (collection : String) (first second : Session) : Prop
    extends Kindred first second where
  store : first.store.AlikeAt collection second.store

variable {first second : Session} {collection : String}

theorem Kindred.refl (session : Session) : Kindred session session := ⟨rfl, rfl⟩

theorem Kindred.trans {third : Session} (early : Kindred first second)
    (late : Kindred second third) : Kindred first third :=
  ⟨early.faults.trans late.faults, early.closed.trans late.closed⟩

theorem ChangedAt.kindred (changed : ChangedAt collection first second) : Kindred first second :=
  ⟨changed.faults.symm, changed.closed.symm⟩

theorem Kindred.obstacle? (kindred : Kindred first second) (operation : Operation) :
    first.obstacle? operation = second.obstacle? operation := by
  simp only [Session.obstacle?, kindred.faults, kindred.closed]

theorem AlikeAt.withStore (alike : AlikeAt collection first second) {store store' : Store}
    (changed : store.AlikeAt collection store') :
    AlikeAt collection (first.withStore store) (second.withStore store') :=
  ⟨⟨alike.faults, alike.closed⟩, changed⟩

/-- Reporting as many identifiers out of as many comes to the same, up to what they are. -/
theorem resizeIds_alike (collection : String) (count : Option Nat) {ids ids' : List String}
    (same : ids.length = ids'.length) :
    EndingsAlike collection ((resizeIds count ids).map fun ids => .ok (.insertedMany ids))
      ((resizeIds count ids').map fun ids => .ok (.insertedMany ids)) := by
  cases count with
  | none => exact .of_observed (.insertedMany same)
  | some n =>
    simp only [resizeIds, same]
    split
    · exact .panicked _
    · apply EndingsAlike.of_observed
      apply Observation.Alike.insertedMany
      simp only [List.length_append, List.length_take, List.length_replicate, same]

/-- Blind calls are carried out alike by sessions that are alike. -/
theorem carryOut_alike (alike : AlikeAt collection first second) {call : Call}
    (blind : call.Blind collection) :
    EndingsAlike collection ((first.carryOut call).1.map (Except.map call.observation))
        ((second.carryOut call).1.map (Except.map call.observation)) ∧
      AlikeAt collection (first.carryOut call).2 (second.carryOut call).2 := by
  cases call with
  | ping => exact ⟨.of_observed .acknowledged, alike⟩
  | createCollection name => exact blind.elim
  | close => exact blind.elim
  | dropCollection name =>
    obtain rfl := blind
    exact ⟨.of_observed .acknowledged, alike.withStore (Store.alikeAt_remove name _ _)⟩
  | listCollections =>
    exact ⟨.of_observed (.collectionNames alike.store.mem_names_iff), alike⟩
  | insertOne name document =>
    obtain rfl := blind
    refine ⟨.of_observed (.insertedOne ?_), alike.withStore (alike.store.append [document])⟩
    rw [alike.faults]
    split <;> rfl
  | insertMany name documents =>
    obtain rfl := blind
    refine ⟨?_, alike.withStore (alike.store.append documents)⟩
    have length := (Store.identifyAll_alike first.store second.store documents).2
    have length' := (Store.identifyAll_alike second.store first.store documents).2
    have resized := resizeIds_alike name second.faults.insertedIds (length.trans length'.symm)
    simp only [carryOut, insertMany, Ending.map_map, alike.faults]
    exact resized
  | findOne name filter =>
    obtain ⟨rfl, unidentified⟩ := blind
    have found := alike.store.matching unidentified
    exact ⟨.of_observed (.foundOne (Store.head?_of_alike found)), alike⟩
  | find name filter limit =>
    obtain ⟨rfl, unidentified⟩ := blind
    have found := alike.store.matching unidentified
    exact ⟨.of_observed (.found (Store.limited_of_alike limit found)), alike⟩
  | updateOne name filter update =>
    obtain ⟨rfl, unidentified, fieldsUnidentified⟩ := blind
    simp only [carryOut, updateOne]
    split
    · rename_i fields asked
      have changed := alike.store.change unidentified
        (f := fun document => (some (Store.setFields document fields).1,
          if (Store.setFields document fields).2 then 1 else 0))
        fun same => by
          obtain ⟨set, differs⟩ := Store.setFields_of_alike (fieldsUnidentified fields asked) same
          exact ⟨.some set, by rw [differs]⟩
      generalize first.store.change name filter _ = done, second.store.change name filter _ = done'
        at changed ⊢
      cases changed with
      | none => exact ⟨.of_observed (.updated 0), alike⟩
      | @some done done' both =>
        obtain ⟨store, count⟩ := done
        obtain ⟨store', _⟩ := done'
        obtain ⟨same, rfl⟩ := both
        exact ⟨.of_observed (.updated _), alike.withStore same⟩
    · exact ⟨.returned (.failed _), alike⟩
  | deleteOne name filter =>
    obtain ⟨rfl, unidentified⟩ := blind
    simp only [carryOut, deleteOne]
    have changed := alike.store.change unidentified
      (f := fun _ => (none, 1)) fun _ => ⟨.none, rfl⟩
    generalize first.store.change name filter _ = done, second.store.change name filter _ = done'
      at changed ⊢
    cases changed with
    | none => exact ⟨.of_observed (.deleted 0), alike⟩
    | @some done done' both =>
      obtain ⟨store, count⟩ := done
      obtain ⟨store', _⟩ := done'
      obtain ⟨same, rfl⟩ := both
      exact ⟨.of_observed (.deleted _), alike.withStore same⟩

end Memory.Session

end DriverCompat
