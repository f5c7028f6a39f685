import DriverCompat.Proofs.Memory.Queries
import Mathlib.Data.List.Forall2

/-! # What holds of all documents

Documents come into a store by inserts and seeds, which may give them an identifier, and are changed
by updates, which set fields. So what holds of every document that is handed in, with an identifier
if it lacks one, and is not lost by setting the fields of an update, holds of all documents that a
session ever has.
-/

namespace DriverCompat

open Memory

/-- What becomes of a document that is handed in: it is stored as it is if it has an identifier, and
otherwise with one that is generated. -/
inductive Document.StoredAs (given : Document) : Document → Prop
  | kept {id : Json} (present : given.get? "_id" = some id) : StoredAs given given
  | identified (absent : given.get? "_id" = none) (number : Nat) :
      StoredAs given (given.insert "_id" (.string (Store.identifier number)))

/-- The documents that a call hands in. -/
def Call.handedIn : Call → List Document
  | .insertOne _ document => [document]
  | .insertMany _ documents => documents
  | _ => []

/-- The fields that a call sets, if it is an update that says which. -/
def Call.fields? : Call → Option Document
  | .updateOne _ _ update => (update.get? "$set").bind Json.asObject?
  | _ => none

namespace Memory

namespace Store

theorem identify_storedAs (store : Store) (document : Document) :
    document.StoredAs (store.identify document).2.1 := by
  unfold identify
  split
  · rename_i id present
    exact .kept present
  · rename_i absent
    exact .identified absent _

theorem identifyAll_storedAs (store : Store) (documents : List Document) :
    List.Forall₂ Document.StoredAs documents (store.identifyAll documents).2.1 := by
  induction documents generalizing store with
  | nil => exact .nil
  | cons document rest ih => exact .cons (store.identify_storedAs document) (ih _)

/-- All documents of a store have a property. -/
def Each (P : Document → Prop) (store : Store) : Prop :=
  ∀ name documents, store.get? name = some documents → ∀ document ∈ documents, P document

variable {P : Document → Prop} {store : Store} {name : String} {documents : List Document}

theorem each_empty : empty.Each P := nofun

theorem Each.set (each : store.Each P) (stored : ∀ document ∈ documents, P document) :
    (store.set name documents).Each P := by
  intro other held found
  rw [get?_set] at found
  split at found
  · cases found
    exact stored
  · exact each other held found

theorem Each.remove (each : store.Each P) : (store.remove name).Each P := by
  intro other held found
  rw [get?_remove] at found
  split at found
  · cases found
  · exact each other held found

/-- The documents that are stored for others that are handed in. -/
theorem forall_identifyAll
    (handedIn : ∀ given ∈ documents, ∀ stored, given.StoredAs stored → P stored) :
    ∀ document ∈ (store.identifyAll documents).2.1, P document := by
  have stored := store.identifyAll_storedAs documents
  generalize (store.identifyAll documents).2.1 = results at stored
  induction stored with
  | nil => nofun
  | cons first _ ih =>
    obtain ⟨given, others⟩ := List.forall_mem_cons.mp handedIn
    exact List.forall_mem_cons.mpr ⟨given _ first, ih others⟩

theorem Each.seed (each : store.Each P)
    (handedIn : ∀ given ∈ documents, ∀ stored, given.StoredAs stored → P stored) :
    (store.seed name documents).Each P := by
  intro other held found
  rw [get?_seed] at found
  split at found
  · cases found
    exact forall_identifyAll handedIn
  · exact each other held found

theorem Each.append (each : store.Each P)
    (handedIn : ∀ given ∈ documents, ∀ stored, given.StoredAs stored → P stored) :
    (store.append name documents).1.Each P := by
  intro other held found
  rw [get?_append] at found
  split at found
  · cases found
    refine List.forall_mem_append.mpr ⟨?_, forall_identifyAll handedIn⟩
    cases known : store.get? name with
    | none => nofun
    | some before => exact each name before known
  · exact each other held found

/-- A change of one document that keeps the property, or takes the document out. -/
theorem Each.change (each : store.Each P) {filter : Document} {α : Type}
    {f : Document → Option Document × α}
    (keeps : ∀ document, P document → ∀ changed ∈ (f document).1, P changed) {after : Store}
    {said : α} (change : store.change name filter f = some (after, said)) : after.Each P := by
  rcases store.nothing_or_firstFit name filter with nothing | ⟨before, document, behind, first⟩
  · cases (change_eq_none f nothing).symm.trans change
  · cases (first.change f).symm.trans change
    have held := each name _ first.held
    simp only [List.forall_mem_append, List.forall_mem_cons] at held
    obtain ⟨others, this, further⟩ := held
    refine each.set (List.forall_mem_append.mpr ⟨others, List.forall_mem_append.mpr ⟨?_, further⟩⟩)
    intro changed member
    exact keeps document this changed (Option.mem_toList.mp member)

end Store

namespace Session

variable {P : Document → Prop} {session : Session} {call : Call}

/-- A call keeps what holds of all documents of a session, if it holds of the documents that are
handed in and is not lost by setting fields. -/
theorem each_carryOut (each : session.store.Each P)
    (handedIn : ∀ given ∈ call.handedIn, ∀ stored, given.StoredAs stored → P stored)
    (sets : ∀ fields ∈ call.fields?, ∀ document, P document →
      P (Store.setFields document fields).1) :
    (session.carryOut call).2.store.Each P := by
  cases call with
  | ping | listCollections | findOne | find | close => exact each
  | createCollection collection =>
    simp only [carryOut, createCollection]
    split
    · exact each
    · exact each.set (List.forall_mem_nil _)
  | dropCollection collection => exact each.remove
  | insertOne collection document =>
    change (session.store.append collection [document]).1.Each P
    exact each.append handedIn
  | insertMany collection documents =>
    change (session.store.append collection documents).1.Each P
    exact each.append handedIn
  | updateOne collection filter update =>
    simp only [carryOut, updateOne]
    split
    · rename_i fields asked
      have keeps : ∀ document, P document → P (Store.setFields document fields).1 :=
        sets fields (by simp [Call.fields?, asked, Json.asObject?])
      split
      · rename_i change
        refine each.change (fun document holds changed member => ?_) change
        cases member
        exact keeps document holds
      · exact each
    · exact each
  | deleteOne collection filter =>
    simp only [carryOut, deleteOne]
    split
    · rename_i change
      refine each.change (fun _ _ changed member => ?_) change
      cases member
    · exact each

theorem each_attempt (each : session.store.Each P)
    (handedIn : ∀ given ∈ call.handedIn, ∀ stored, given.StoredAs stored → P stored)
    (sets : ∀ fields ∈ call.fields?, ∀ document, P document →
      P (Store.setFields document fields).1) :
    (session.attempt call).2.store.Each P := by
  rcases session.attempt_cases call with unchanged | carried
  · rwa [unchanged]
  · rw [carried]
    exact each_carryOut each handedIn sets

end Session

/-- What can be done with a session: it is seeded, or called. -/
inductive Action where
  | seed (collection : String) (documents : List Document)
  | call (call : Call)

namespace Action

/-- The documents that an action hands in. -/
def handedIn : Action → List Document
  | .seed _ documents => documents
  | .call made => made.handedIn

/-- The fields that an action sets. -/
def fields? : Action → Option Document
  | .seed _ _ => none
  | .call made => made.fields?

end Action

namespace Session

/-- The session after an action. -/
def act (session : Session) : Action → Session
  | .seed collection documents => session.seed collection documents
  | .call made => (session.attempt made).2

/-- The session after actions that follow one another. -/
def follow (session : Session) (history : List Action) : Session := history.foldl act session

variable {P : Document → Prop} {session : Session}

theorem each_act (each : session.store.Each P) {action : Action}
    (handedIn : ∀ given ∈ action.handedIn, ∀ stored, given.StoredAs stored → P stored)
    (sets : ∀ fields ∈ action.fields?, ∀ document, P document →
      P (Store.setFields document fields).1) : (session.act action).store.Each P := by
  cases action with
  | seed collection documents => exact each.seed handedIn
  | call call => exact each_attempt each handedIn sets

/-- What holds of all documents that are handed in, and is kept by all fields that are set, holds of
all documents after any history. -/
theorem each_follow (each : session.store.Each P) {history : List Action}
    (handedIn : ∀ action ∈ history, ∀ given ∈ action.handedIn, ∀ stored, given.StoredAs stored →
      P stored)
    (sets : ∀ action ∈ history, ∀ fields ∈ action.fields?, ∀ document, P document →
      P (Store.setFields document fields).1) : (session.follow history).store.Each P := by
  induction history generalizing session with
  | nil => exact each
  | cons action rest ih =>
    obtain ⟨first, others⟩ := List.forall_mem_cons.mp handedIn
    obtain ⟨setsFirst, setsOthers⟩ := List.forall_mem_cons.mp sets
    exact ih (each_act each first setsFirst) others setsOthers

end Session

end Memory

end DriverCompat
