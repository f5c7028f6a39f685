import DriverCompat.Check.Execute
import DriverCompat.Proofs.Memory.Session

/-! # Documents that a filter selects

A filter selects the documents that have an equal value under every key of it. Every operation of a
session that takes a filter goes by this: the queries show the selected documents in the order in
which they are stored, and the changes are made to the first of them.
-/

namespace DriverCompat

open Memory

namespace Document

/-- The document has an equal value under the key of a member. -/
def Holds (document : Document) (member : String × Json) : Prop :=
  ∃ value, document.get? member.1 = some value ∧ value.same member.2 = true

/-- The document has an equal value under every key of a filter. -/
def Fits (document filter : Document) : Prop := ∀ member ∈ filter, document.Holds member

theorem matchesFilter_iff (filter document : Document) :
    Store.matchesFilter filter document = true ↔ document.Fits filter := by
  unfold Store.matchesFilter Fits Holds
  rw [List.all_eq_true]
  refine forall₂_congr fun (key, expected) _ => ?_
  dsimp only
  cases document.get? key <;> simp

instance (document filter : Document) : Decidable (document.Fits filter) :=
  decidable_of_iff _ (matchesFilter_iff filter document)

theorem matchesFilter_eq_decide (filter document : Document) :
    Store.matchesFilter filter document = decide (document.Fits filter) := by
  rw [Bool.eq_iff_iff, decide_eq_true_iff, matchesFilter_iff]

/-- A document fits a filter with the members of two others if it fits both of these. -/
theorem fits_iff_of_union {filter other union : Document}
    (members : ∀ member, member ∈ union ↔ member ∈ filter ∨ member ∈ other) (document : Document) :
    document.Fits union ↔ document.Fits filter ∧ document.Fits other := by
  unfold Fits
  simp only [members, or_imp, forall_and]

end Document

namespace Memory

namespace Store

variable {store : Store} {name : String} {filter document : Document}
  {before behind documents : List Document}

theorem matching_eq_filter (store : Store) (name : String) (filter : Document) :
    store.matching name filter =
      ((store.get? name).getD []).filter fun document => document.Fits filter := by
  unfold matching
  congr 1
  funext document
  exact Document.matchesFilter_eq_decide filter document

/-- A document of a collection is the first one that fits, between those before and behind it. -/
structure FirstFit (store : Store) (name : String) (filter : Document) (before : List Document)
    (document : Document) (behind : List Document) : Prop where
  held : store.get? name = some (before ++ document :: behind)
  misfits : ∀ other ∈ before, ¬ other.Fits filter
  fits : document.Fits filter

theorem exists_firstFit (first : (store.matching name filter).head? = some document) :
    ∃ before behind, store.FirstFit name filter before document behind := by
  rw [matching_eq_filter, List.head?_filter, List.find?_eq_some_iff_append] at first
  obtain ⟨fits, before, behind, held, misfits⟩ := first
  refine ⟨before, behind, ?_, ?_, of_decide_eq_true fits⟩
  · cases known : store.get? name with
    | none =>
      rw [known] at held
      simp at held
    | some documents =>
      rw [known] at held
      exact congrArg some held
  · intro other among
    simpa using misfits other among

theorem nothing_or_firstFit (store : Store) (name : String) (filter : Document) :
    store.matching name filter = [] ∨
      ∃ before document behind, store.FirstFit name filter before document behind := by
  cases selected : store.matching name filter with
  | nil => exact .inl rfl
  | cons document rest =>
    obtain ⟨before, behind, first⟩ := exists_firstFit (congrArg List.head? selected)
    exact .inr ⟨before, document, behind, first⟩

section Change

variable {α : Type} (f : Document → Option Document × α)

theorem changeFirst_eq_none (misfits : ∀ document ∈ documents, ¬ document.Fits filter) :
    changeFirst filter f documents = none := by
  induction documents with
  | nil => rfl
  | cons document rest ih =>
    obtain ⟨misfit, others⟩ := List.forall_mem_cons.mp misfits
    rw [changeFirst, Document.matchesFilter_eq_decide, decide_eq_false misfit, ih others]
    rfl

theorem changeFirst_append (misfits : ∀ other ∈ before, ¬ other.Fits filter)
    (fits : document.Fits filter) :
    changeFirst filter f (before ++ document :: behind) =
      some (before ++ ((f document).1.toList ++ behind), (f document).2) := by
  induction before with
  | nil =>
    rw [List.nil_append, changeFirst, Document.matchesFilter_eq_decide, decide_eq_true fits]
    rfl
  | cons first rest ih =>
    obtain ⟨misfit, others⟩ := List.forall_mem_cons.mp misfits
    rw [List.cons_append, changeFirst, Document.matchesFilter_eq_decide, decide_eq_false misfit,
      ih others]
    rfl

/-- Nothing is changed in a collection without a document that fits. -/
theorem change_eq_none (nothing : store.matching name filter = []) :
    store.change name filter f = none := by
  rw [matching_eq_filter, List.filter_eq_nil_iff] at nothing
  unfold change
  cases known : store.get? name with
  | none => rfl
  | some documents =>
    rw [known] at nothing
    have misfits : ∀ document ∈ documents, ¬ document.Fits filter := by simpa using nothing
    simp only [Option.bind_eq_bind, Option.bind_some, changeFirst_eq_none f misfits,
      Option.bind_none]

/-- The first document that fits is changed in its place. -/
theorem FirstFit.change (first : store.FirstFit name filter before document behind) :
    store.change name filter f =
      some (store.set name (before ++ ((f document).1.toList ++ behind)), (f document).2) := by
  unfold Store.change
  rw [first.held]
  simp only [Option.bind_eq_bind, Option.bind_some, changeFirst_append f first.misfits first.fits]
  rfl

end Change

end Store

namespace Session

variable {session : Session} {collection : String} {filter : Document}

theorem deleteOne_of_nothing (nothing : session.store.matching collection filter = []) :
    session.deleteOne collection filter = (.ok 0, session) := by
  rw [deleteOne, Store.change_eq_none _ nothing]

theorem deleteOne_of_firstFit {before behind : List Document} {document : Document}
    (first : session.store.FirstFit collection filter before document behind) :
    session.deleteOne collection filter =
      (.ok 1, session.withStore (session.store.set collection (before ++ behind))) := by
  rw [deleteOne, first.change]
  rfl

/-- On a session that nothing impedes, a query without a limit finds the documents of the collection
that fit the filter, in their order. A positive limit cuts off all but the first of them, and any
other limit none. The query for one document finds the first, and the deletion takes that very one
out and leaves the others in their places; without one it leaves everything as it is. A filter with
the members of two others finds what of the finds of the one fits the other. A collection that does
not exist holds nothing to be found. -/
theorem queries_agree (unimpeded : session.Unimpeded) (collection : String) (filter : Document) :
    ∃ found, session.respond (.find collection filter none) = .value (.ok found) session ∧
      found = ((session.documents collection).getD []).filter
        (fun document => document.Fits filter) ∧
      (∀ limit > 0, session.respond (.find collection filter (some limit)) =
        .value (.ok (found.take limit.toNat)) session) ∧
      (∀ limit ≤ 0, session.respond (.find collection filter (some limit)) =
        .value (.ok found) session) ∧
      session.respond (.findOne collection filter) = .value (.ok found.head?) session ∧
      (found = [] → session.respond (.deleteOne collection filter) = .value (.ok 0) session) ∧
      (∀ document, found.head? = some document → ∃ before behind,
        session.documents collection = some (before ++ document :: behind) ∧
        (∀ other ∈ before, ¬ other.Fits filter) ∧ document.Fits filter ∧
        session.respond (.deleteOne collection filter) = .value (.ok 1)
          (session.withStore (session.store.set collection (before ++ behind)))) ∧
      (session.documents collection = none → found = []) ∧
      ∀ other union : Document,
        (∀ member, member ∈ union ↔ member ∈ filter ∨ member ∈ other) →
        session.respond (.find collection union none) =
          .value (.ok (found.filter fun document => document.Fits other)) session := by
  refine ⟨session.store.matching collection filter, unimpeded.respond rfl,
    Store.matching_eq_filter _ _ _, ?_, ?_, unimpeded.respond rfl, ?_, ?_, ?_, ?_⟩
  · intro limit positive
    have limited : Store.limited (some limit) (session.store.matching collection filter) =
        (session.store.matching collection filter).take limit.toNat := if_pos positive
    rw [← limited]
    exact unimpeded.respond rfl
  · intro limit negative
    have unlimited : Store.limited (some limit) (session.store.matching collection filter) =
        session.store.matching collection filter := if_neg (Int.not_lt.mpr negative)
    rw [unimpeded.respond rfl, carryOut, unlimited]
    rfl
  · intro nothing
    rw [unimpeded.respond rfl, carryOut, deleteOne_of_nothing nothing]
    rfl
  · intro document found
    obtain ⟨before, behind, first⟩ := Store.exists_firstFit found
    refine ⟨before, behind, first.held, first.misfits, first.fits, ?_⟩
    rw [unimpeded.respond rfl, carryOut, deleteOne_of_firstFit first]
    rfl
  · intro missing
    rw [Store.matching_eq_filter, show session.store.get? collection = none from missing]
    rfl
  · intro other union members
    have both : session.store.matching collection union =
        (session.store.matching collection filter).filter fun document => document.Fits other := by
      simp only [Store.matching_eq_filter, List.filter_filter]
      refine List.filter_congr fun document _ => ?_
      rw [Bool.eq_iff_iff]
      simp [Document.fits_iff_of_union members document, and_comm]
    rw [← both]
    exact unimpeded.respond rfl

/-- A session without faults on which two documents have the same name. -/
def twins : Session :=
  (Session.open_ "shop" .none).seed "people" [Check.bob, Check.alice, Check.alice]

/-- Both of them are found, the first is found alone, and the first is deleted. -/
theorem queries_agree_twins :
    ∃ first second before behind,
      twins.respond (.find "people" (Check.named "Alice") none) =
        .value (.ok [first, second]) twins ∧
      twins.respond (.find "people" (Check.named "Alice") (some 1)) =
        .value (.ok [first]) twins ∧
      twins.respond (.findOne "people" (Check.named "Alice")) = .value (.ok (some first)) twins ∧
      twins.documents "people" = some (before ++ first :: behind) ∧
      twins.respond (.deleteOne "people" (Check.named "Alice")) = .value (.ok 1)
        (twins.withStore (twins.store.set "people" (before ++ behind))) := by
  have unimpeded : twins.Unimpeded := ⟨rfl, Faults.harmless_none.operations⟩
  obtain ⟨found, all, selected, limited, -, one, -, deleted, -, -⟩ :=
    queries_agree unimpeded "people" (Check.named "Alice")
  subst selected
  obtain ⟨before, behind, held, -, -, removed⟩ := deleted _ rfl
  exact ⟨_, _, before, behind, all, limited 1 (by decide), one, held, removed⟩

end Session

end Memory

end DriverCompat
