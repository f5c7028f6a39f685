import DriverCompat.Memory.Store

/-! # What the operations of a store do to its collections

Each operation is described by the documents that its result has under each name. None but the
collection that it names is changed.
-/

namespace DriverCompat

namespace Named

variable {α : Type}

theorem place_place (name : String) (first second : α) (entries : List (String × α)) :
    place name second (place name first entries) = place name second entries := by
  induction entries with
  | nil => simp [place]
  | cons entry rest ih =>
    simp only [place]
    split
    · simp [place]
    · split
      · simp [place]
      · simp [place, *]

theorem set_set (named : Named α) (name : String) (first second : α) :
    (named.set name first).set name second = named.set name second := by
  simp only [set, place_place]

end Named

end DriverCompat

namespace DriverCompat.Memory.Store

variable (store : Store) (name other : String)

theorem get?_set (documents : List Document) :
    (store.set name documents).get? other =
      if other = name then some documents else store.get? other :=
  store.collections.get?_set name other documents

@[simp] theorem set_set (first second : List Document) :
    (store.set name first).set name second = store.set name second := by
  simp only [set, Named.set_set]

theorem get?_remove :
    (store.remove name).get? other = if other = name then none else store.get? other :=
  store.collections.get?_erase name other

theorem mem_names : name ∈ store.names ↔ (store.get? name).isSome :=
  store.collections.mem_names name

/-- Giving identifiers changes no collection, and each document gets one. -/
theorem identifyAll_collections (documents : List Document) :
    (store.identifyAll documents).1.collections = store.collections := by
  induction documents generalizing store with
  | nil => rfl
  | cons document rest ih =>
    rw [identifyAll]
    simp only [ih]
    rw [identify]
    split <;> rfl

/-- After documents were appended to a collection, they stand behind those it had. -/
theorem get?_append (documents : List Document) :
    (store.append name documents).1.get? other = if other = name then
        some ((store.get? name).getD [] ++ (store.identifyAll documents).2.1)
      else store.get? other := by
  have same := store.identifyAll_collections documents
  simp only [append, get?_set]
  simp only [get?, same]

/-- A seeded collection holds nothing but the documents that it was seeded with. -/
theorem get?_seed (documents : List Document) :
    (store.seed name documents).get? other =
      if other = name then some (store.identifyAll documents).2.1 else store.get? other := by
  have same := store.identifyAll_collections documents
  simp only [seed, get?_set]
  simp only [get?, same]

/-- Documents that are appended stand behind those that the collection has. -/
theorem get?_append_self {held : List Document} (has : store.get? name = some held)
    (documents : List Document) :
    (store.append name documents).1.get? name =
      some (held ++ (store.identifyAll documents).2.1) := by
  rw [get?_append, if_pos rfl, has]
  rfl

/-- A change is one of the first document that matches. -/
theorem eq_set_of_change {α : Type} {filter : Document} {f : Document → Option Document × α}
    {changed : Store} {said : α} (change : store.change name filter f = some (changed, said)) :
    ∃ documents, changed = store.set name documents := by
  simp only [Store.change, Option.bind_eq_bind, Option.bind_eq_some_iff] at change
  obtain ⟨_, -, ⟨documents, _⟩, -, same⟩ := change
  cases same
  exact ⟨documents, rfl⟩

end DriverCompat.Memory.Store
