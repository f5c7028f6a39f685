import DriverCompat.Json.Value
import DriverCompat.Named
import Mathlib.Data.List.Basic

/-! # Equality of values

A value with two members of one key in an object does not equal itself, as only the first of them is
looked up. Values without such objects do. An object equals another one if they have as many members
and each of the first has an equal value under its key in the second.
-/

namespace DriverCompat

namespace Json

mutual

/-- No object of the value has two members with the same key. -/
def Unambiguous : Json → Prop
  | .array items => UnambiguousItems items
  | .object members => (members.map Prod.fst).Nodup ∧ UnambiguousMembers members
  | _ => True

def UnambiguousItems : List Json → Prop
  | [] => True
  | item :: rest => item.Unambiguous ∧ UnambiguousItems rest

def UnambiguousMembers : List (String × Json) → Prop
  | [] => True
  | (_, value) :: rest => value.Unambiguous ∧ UnambiguousMembers rest

end

theorem unambiguousMembers_iff {members : List (String × Json)} :
    UnambiguousMembers members ↔ ∀ member ∈ members, member.2.Unambiguous := by
  induction members with
  | nil => simp [UnambiguousMembers]
  | cons member rest ih => rw [UnambiguousMembers, List.forall_mem_cons, ih]

end Json

namespace Document

/-- No key leads to two members, neither of the document nor of an object within. -/
def Unambiguous (document : Document) : Prop := (Json.object document).Unambiguous

theorem unambiguous_iff {document : Document} :
    document.Unambiguous ↔
      (document.map Prod.fst).Nodup ∧ ∀ member ∈ document, member.2.Unambiguous :=
  and_congr_right fun _ => Json.unambiguousMembers_iff

variable {document : Document} {key : String} {value : Json}

theorem mem_of_get? (found : document.get? key = some value) : (key, value) ∈ document := by
  obtain ⟨before, behind, rfl, -⟩ := List.lookup_eq_some_iff.mp found
  exact List.mem_append_right before List.mem_cons_self

theorem get?_of_mem (distinct : (document.map Prod.fst).Nodup) (member : (key, value) ∈ document) :
    document.get? key = some value :=
  Named.lookup_of_mem distinct member

theorem get?_eq_none_iff : document.get? key = none ↔ key ∉ document.map Prod.fst := by
  rw [← Option.not_isSome_iff_eq_none, not_iff_not]
  exact Named.lookup_isSome key document

end Document

namespace Json

theorem sameMembers_iff {first second : List (String × Json)} :
    sameMembers first second = true ↔ ∀ member ∈ first,
      ∃ value, Document.get? second member.1 = some value ∧ member.2.same value = true := by
  induction first with
  | nil => simp [sameMembers]
  | cons member rest ih =>
    obtain ⟨key, value⟩ := member
    rw [sameMembers, Bool.and_eq_true, ih, List.forall_mem_cons]
    refine and_congr_left fun _ => ?_
    change _ ↔ ∃ found, second.lookup key = some found ∧ _
    cases second.lookup key <;> simp

theorem Number.same_self (number : Number) : number.same number = true := by
  cases number with
  | integer value range => exact beq_self_eq_true value
  | double value finite =>
    have notNaN : value.isNaN = false := by
      simp only [Decimal.Binary64.isFinite, Decimal.Binary64.isNaN, decide_eq_true_eq,
        decide_eq_false_iff_not] at finite ⊢
      omega
    simp [same, Decimal.Binary64.sameValue, notNaN]

mutual

theorem same_self : (value : Json) → value.Unambiguous → value.same value = true
  | .null, _ => rfl
  | .bool value, _ => beq_self_eq_true value
  | .number value, _ => value.same_self
  | .string value, _ => beq_self_eq_true value
  | .array items, unambiguous => sameItems_self items unambiguous
  | .object members, ⟨distinct, unambiguous⟩ => by
    rw [same, beq_self_eq_true, Bool.true_and, sameMembers_iff]
    intro member among
    exact ⟨member.2, Document.get?_of_mem distinct among,
      same_self_of_mem members unambiguous member among⟩

theorem sameItems_self : (items : List Json) → UnambiguousItems items →
    sameItems items items = true
  | [], _ => rfl
  | item :: rest, ⟨first, others⟩ => by
    rw [sameItems, same_self item first, sameItems_self rest others, Bool.true_and]

theorem same_self_of_mem : (members : List (String × Json)) → UnambiguousMembers members →
    ∀ member ∈ members, member.2.same member.2 = true
  | [], _ => nofun
  | (_, value) :: rest, ⟨first, others⟩ =>
    List.forall_mem_cons.mpr ⟨same_self value first, same_self_of_mem rest others⟩

end

end Json

end DriverCompat
