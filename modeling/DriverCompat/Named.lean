/-! # Entries under names

Values under names that are all different, kept in the order of the names. Names are compared by
code points, which is the order of their UTF-8 forms.
-/

namespace DriverCompat

universe u

/-- Entries in the order of their names. -/
structure Named (α : Type u) where
  entries : List (String × α)
  ordered : entries.Pairwise fun a b => a.1 < b.1

namespace Named

variable {α : Type u}

def empty : Named α := ⟨[], .nil⟩

/-- The value under a name. -/
def get? (named : Named α) (name : String) : Option α := named.entries.lookup name

/-- All names, in order. -/
def names (named : Named α) : List String := named.entries.map Prod.fst

/-- Puts a value where its name belongs, instead of the one that was there. -/
def place (name : String) (value : α) : List (String × α) → List (String × α)
  | [] => [(name, value)]
  | entry :: rest =>
    if name = entry.1 then (name, value) :: rest
    else if name < entry.1 then (name, value) :: entry :: rest
    else entry :: place name value rest

theorem mem_place {name : String} {value : α} {entries : List (String × α)}
    {entry : String × α} (member : entry ∈ place name value entries) :
    entry = (name, value) ∨ entry ∈ entries := by
  induction entries with
  | nil => simpa [place] using member
  | cons first rest ih =>
    simp only [place] at member
    split at member
    · simp only [List.mem_cons] at member ⊢
      exact member.imp id .inr
    · split at member
      · simpa using member
      · simp only [List.mem_cons] at member ⊢
        rcases member with rfl | inner
        · exact .inr (.inl rfl)
        · exact (ih inner).imp id .inr

theorem place_ordered {name : String} {value : α} {entries : List (String × α)}
    (ordered : entries.Pairwise fun a b => a.1 < b.1) :
    (place name value entries).Pairwise fun a b => a.1 < b.1 := by
  induction entries with
  | nil => simp [place]
  | cons first rest ih =>
    obtain ⟨below, ordered⟩ := List.pairwise_cons.mp ordered
    simp only [place]
    split
    · rename_i equal
      exact List.pairwise_cons.mpr ⟨equal ▸ below, ordered⟩
    · rename_i differ
      split
      · rename_i less
        refine List.pairwise_cons.mpr ⟨?_, List.pairwise_cons.mpr ⟨below, ordered⟩⟩
        intro entry member
        rcases List.mem_cons.mp member with rfl | member
        · exact less
        · exact String.lt_trans less (below entry member)
      · rename_i notLess
        refine List.pairwise_cons.mpr ⟨?_, ih ordered⟩
        intro entry member
        rcases mem_place member with rfl | member
        · have := String.not_lt.mp notLess
          grind
        · exact below entry member

/-- The entries with this value under a name. -/
def set (named : Named α) (name : String) (value : α) : Named α :=
  ⟨place name value named.entries, place_ordered named.ordered⟩

/-- The entries without a name. -/
def erase (named : Named α) (name : String) : Named α :=
  ⟨named.entries.filter fun entry => entry.1 != name, named.ordered.filter _⟩

@[simp] theorem get?_empty (name : String) : (empty : Named α).get? name = none := rfl

theorem lookup_cons (name : String) (entry : String × α) (rest : List (String × α)) :
    (entry :: rest).lookup name = if name = entry.1 then some entry.2 else rest.lookup name := by
  obtain ⟨key, value⟩ := entry
  rw [List.lookup_cons]
  split <;> simp_all

theorem lookup_place (name other : String) (value : α) (entries : List (String × α)) :
    (place name value entries).lookup other =
      if other = name then some value else entries.lookup other := by
  induction entries with
  | nil => simp only [place, lookup_cons]
  | cons first rest ih =>
    simp only [place]
    split
    · simp only [lookup_cons]; grind
    · split
      · simp only [lookup_cons]
      · simp only [lookup_cons, ih]; grind

/-- After a value was set, its name leads to it and every other name leads where it led. -/
theorem get?_set (named : Named α) (name other : String) (value : α) :
    (named.set name value).get? other = if other = name then some value else named.get? other :=
  lookup_place name other value named.entries

theorem lookup_filter (name other : String) (entries : List (String × α)) :
    (entries.filter fun entry => entry.1 != name).lookup other =
      if other = name then none else entries.lookup other := by
  induction entries with
  | nil => simp
  | cons first rest ih =>
    simp only [List.filter_cons]
    split
    · simp only [lookup_cons, ih]; grind
    · rw [ih, lookup_cons]; grind

theorem get?_erase (named : Named α) (name other : String) :
    (named.erase name).get? other = if other = name then none else named.get? other :=
  lookup_filter name other named.entries

theorem lookup_isSome (name : String) (entries : List (String × α)) :
    (entries.lookup name).isSome ↔ name ∈ entries.map Prod.fst := by
  induction entries with
  | nil => simp
  | cons first rest ih =>
    simp only [lookup_cons, List.map_cons, List.mem_cons]
    split <;> simp_all

/-- A name is listed exactly if it leads to a value. -/
theorem mem_names (named : Named α) (name : String) :
    name ∈ named.names ↔ (named.get? name).isSome :=
  (lookup_isSome name named.entries).symm

/-- What stands under a name that no other entry has is what the name leads to. -/
theorem lookup_of_mem {entries : List (String × α)} (distinct : (entries.map Prod.fst).Nodup)
    {name : String} {value : α} (member : (name, value) ∈ entries) :
    entries.lookup name = some value := by
  obtain ⟨before, behind, rfl⟩ := List.append_of_mem member
  refine List.lookup_eq_some_iff.mpr ⟨before, behind, rfl, fun other among => ?_⟩
  rw [List.map_append, List.nodup_append] at distinct
  have differs : other.1 ≠ name :=
    distinct.2.2 other.1 (List.mem_map_of_mem among) name List.mem_cons_self
  simpa using differs.symm

theorem names_ordered (named : Named α) : named.names.Pairwise (· < ·) :=
  List.pairwise_map.mpr named.ordered

theorem names_nodup (named : Named α) : named.names.Nodup := by
  refine named.names_ordered.imp ?_
  rintro name _ less rfl
  exact String.lt_irrefl name less

theorem get?_of_mem (named : Named α) {name : String} {value : α}
    (member : (name, value) ∈ named.entries) : named.get? name = some value :=
  lookup_of_mem named.names_nodup member

end Named

end DriverCompat
