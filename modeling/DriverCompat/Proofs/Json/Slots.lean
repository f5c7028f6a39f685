import Mathlib.Data.List.Pairwise
import DriverCompat.Named
import DriverCompat.Proofs.Json.Brackets

/-! # Records that have a slot for each name

The members of such a record may come in any order, with others among them that nobody knows: every
name has a slot of its own, which is written at most once.
-/

namespace DriverCompat.Json

variable {σ : Type}

/-- A part of a state that is written once, with what a value denotes. -/
structure Slot (σ : Type) where
  Value : Type
  denoted : Written → Option Value
  get : σ → Option Value
  put : σ → Value → σ
  get_put : ∀ state value, get (put state value) = some value

namespace Slot

def write (slot : Slot σ) (state : σ) (value : Written) : Option σ :=
  if (slot.get state).isSome then none else (slot.denoted value).map (slot.put state)

/-- Two slots that do not meet. -/
structure Independent (slot other : Slot σ) : Prop where
  get_put : ∀ state value, other.get (slot.put state value) = other.get state
  get_put' : ∀ state value, slot.get (other.put state value) = slot.get state
  put_put : ∀ state value value',
    other.put (slot.put state value) value' = slot.put (other.put state value') value

theorem Independent.symm {slot other : Slot σ} (apart : slot.Independent other) :
    other.Independent slot :=
  ⟨apart.get_put', apart.get_put, fun state value value' => (apart.put_put state value' value).symm⟩

theorem Independent.write_comm {slot other : Slot σ} (apart : slot.Independent other) (state : σ)
    (value value' : Written) :
    ((slot.write state value).bind fun state => other.write state value') =
      (other.write state value').bind fun state => slot.write state value := by
  unfold write
  cases slot.denoted value with
  | none => cases other.denoted value' <;> simp
  | some found =>
    cases other.denoted value' with
    | none => simp
    | some found' =>
      cases filled : slot.get state <;> cases filled' : other.get state <;>
        simp [apart.get_put, apart.get_put', apart.put_put, filled, filled']

/-- A slot is not written a second time. -/
theorem write_twice (slot : Slot σ) (state : σ) (value value' : Written) :
    ((slot.write state value).bind fun state => slot.write state value') = none := by
  unfold write
  split
  · rfl
  · cases slot.denoted value with
    | none => rfl
    | some found => simp [slot.get_put]

/-- A table that keeps a name for a slot. -/
theorem explained (slot : Slot σ) {reader : Reader slot.Value} (means : reader.Means slot.denoted)
    (state : σ) (name : String) :
    Explained (if (slot.get state).isSome then .error (.repeatedField name)
      else .ok (reader.map (slot.put state))) (slot.write state) := by
  split
  · rename_i filled
    exact fun value => if_pos filled
  · rename_i empty
    have writes : slot.write state = fun value => (slot.denoted value).map (slot.put state) :=
      funext fun value => if_neg empty
    rw [writes]
    exact means.map _

end Slot

/-- The slots of a record, by their names. -/
structure Slots (σ : Type) where
  named : List (String × Slot σ)
  apart : named.Pairwise fun entry other => entry.2.Independent other.2

namespace Slots

/-- A record with three slots. -/
def three (first second third : String × Slot σ) (apart : first.2.Independent second.2)
    (apart' : first.2.Independent third.2) (apart'' : second.2.Independent third.2) : Slots σ where
  named := [first, second, third]
  apart := by simp [apart, apart', apart'']

variable (slots : Slots σ)

def names : List String := slots.named.map Prod.fst

/-- What a member does: it writes its slot, or nothing if it has none. -/
def step (state : σ) (key : String) : Written → Option σ :=
  match slots.named.lookup key with
  | some slot => slot.write state
  | none => fun _ => some state

variable {slots}

theorem mem_of_lookup {key : String} {slot : Slot σ} (found : slots.named.lookup key = some slot) :
    (key, slot) ∈ slots.named := by
  obtain ⟨before, behind, eq, -⟩ := List.lookup_eq_some_iff.mp found
  rw [eq]
  exact List.mem_append_right _ List.mem_cons_self

theorem step_of_not_mem {key : String} (unknown : key ∉ slots.names) (state : σ) (value : Written) :
    slots.step state key value = some state := by
  have none : slots.named.lookup key = none := by
    rw [List.lookup_eq_none_iff]
    intro entry member
    exact bne_iff_ne.mpr fun same => unknown (same ▸ List.mem_map_of_mem member)
  rw [step, none]

/-- A table that passes over a name without a slot. -/
theorem explained_skip {key : String} (unknown : key ∉ slots.names) (state : σ) :
    Explained (.ok (Reader.skip.map fun _ => state)) (slots.step state key) := by
  have ignores : slots.step state key = fun _ => some state :=
    funext fun value => step_of_not_mem unknown state value
  rw [ignores]
  exact means_skip.map _

theorem exists_lookup {key : String} (known : key ∈ slots.names) :
    ∃ slot, slots.named.lookup key = some slot :=
  Option.isSome_iff_exists.mp ((Named.lookup_isSome key slots.named).mpr known)

theorem step_twice {key : String} (known : key ∈ slots.names) (state : σ) (value value' : Written) :
    ((slots.step state key value).bind fun state => slots.step state key value') = none := by
  obtain ⟨slot, found⟩ := exists_lookup known
  simp only [step, found]
  exact slot.write_twice state value value'

/-- What two members do does not depend on which of them comes first. -/
theorem step_comm (state : σ) (key key' : String) (value value' : Written) :
    ((slots.step state key value).bind fun state => slots.step state key' value') =
      (slots.step state key' value').bind fun state => slots.step state key value := by
  by_cases known : key ∈ slots.names
  · by_cases known' : key' ∈ slots.names
    · by_cases same : key = key'
      · rw [same] at known ⊢
        rw [step_twice known, step_twice known]
      · obtain ⟨slot, found⟩ := exists_lookup known
        obtain ⟨slot', found'⟩ := exists_lookup known'
        have symmetric :
            Std.Symm fun entry other : String × Slot σ => entry.2.Independent other.2 :=
          ⟨fun _ _ => Slot.Independent.symm⟩
        have apart : slot.Independent slot' := slots.apart.forall (mem_of_lookup found)
          (mem_of_lookup found') fun eq => same (congrArg Prod.fst eq)
        simp only [step, found, found']
        exact apart.write_comm state value value'
    · simp only [step_of_not_mem known', Option.bind_some, Option.bind_fun_some]
  · simp only [step_of_not_mem known, Option.bind_some, Option.bind_fun_some]

theorem receive_comm (state : σ) (member member' : Member) :
    ((receive slots.step state member).bind fun state => receive slots.step state member') =
      (receive slots.step state member').bind fun state => receive slots.step state member := by
  unfold receive
  cases text? member.1 with
  | none => cases text? member'.1 <;> simp
  | some key =>
    cases text? member'.1 with
    | none => simp
    | some key' => exact step_comm state key key' member.2 member'.2

/-- The order of the members does not matter. -/
theorem gather_perm {list list' : List Member} (perm : list.Perm list')
    (state : σ) : gather slots.step state list = gather slots.step state list' := by
  induction perm generalizing state with
  | nil => rfl
  | cons member _ ih => simp only [gather_cons, ih]
  | swap member member' list =>
    simp only [gather_cons, ← Option.bind_assoc]
    rw [receive_comm]
  | trans _ _ ih ih' => exact (ih state).trans (ih' state)

/-- A member with a name that has no slot may stand anywhere. -/
theorem gather_insert {name : List Symbol} {key : String} (text : text? name = some key)
    (unknown : key ∉ slots.names) (value : Written) (before behind : List Member)
    (state : σ) :
    gather slots.step state (before ++ (name, value) :: behind) =
      gather slots.step state (before ++ behind) := by
  rw [gather_perm List.perm_middle, gather_cons, receive, text]
  change (slots.step state key value).bind _ = _
  rw [step_of_not_mem unknown]
  rfl

/-- No slot is written by two members. -/
theorem gather_twice {name name' : List Symbol} {key : String} (text : text? name = some key)
    (text' : text? name' = some key) (known : key ∈ slots.names) {value value' : Written}
    {list : List Member} (among : [(name, value), (name', value')].Sublist list)
    (state : σ) : gather slots.step state list = none := by
  obtain ⟨others, perm⟩ := among.exists_perm_append
  rw [gather_perm perm]
  simp only [List.cons_append, gather_cons, ← Option.bind_assoc, receive, text, text',
    Option.bind_some]
  rw [step_twice known]
  rfl

end Slots

end DriverCompat.Json
