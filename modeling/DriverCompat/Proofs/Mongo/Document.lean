import DriverCompat.Mongo.Document
import DriverCompat.Proofs.Bson.Notation
import Mathlib.Data.Nat.Log

/-! # Documents there and back

A document whose keys stand for no types can always be sent, and it comes back in the notation that
it had, but for integers that need all sixty-four bits for their magnitude: a database has no type
for these, and they come back as the doubles that are nearest to them.
-/

namespace DriverCompat

namespace Decimal.Binary64

theorem roundQuotient_le (num den : Nat) : roundQuotient num den ≤ num / den + 1 := by
  unfold roundQuotient
  simp only
  split_ifs <;> omega

/-- A whole number of `k + 1` bits has at most fifty-four bits left at every scale that is tried. -/
theorem roundQuotient_scaled_le {num k : Nat} {e : Int} (below : num < 2 ^ (k + 1))
    (least : (k : Int) - 53 ≤ e) :
    roundQuotient (scaled num 1 e).1 (scaled num 1 e).2 ≤ 2 ^ 54 := by
  unfold scaled
  split
  · rename_i negative
    have small : (-e).toNat ≤ 53 - k := by omega
    have bound : num * 2 ^ (-e).toNat < 2 ^ 54 := by
      calc num * 2 ^ (-e).toNat
        _ < 2 ^ (k + 1) * 2 ^ (-e).toNat := Nat.mul_lt_mul_of_pos_right below (Nat.two_pow_pos _)
        _ = 2 ^ (k + 1 + (-e).toNat) := (Nat.pow_add ..).symm
        _ ≤ 2 ^ 54 := Nat.pow_le_pow_right (by decide) (by omega)
    have whole := roundQuotient_le (num * 2 ^ (-e).toNat) 1
    rw [Nat.div_one] at whole
    exact whole.trans bound
  · have bound : num / (1 * 2 ^ e.toNat) < 2 ^ 54 := by
      rw [Nat.one_mul]
      apply Nat.div_lt_of_lt_mul
      calc num
        _ < 2 ^ (k + 1) := below
        _ ≤ 2 ^ (e.toNat + 54) := Nat.pow_le_pow_right (by decide) (by omega)
        _ = 2 ^ e.toNat * 2 ^ 54 := Nat.pow_add ..
    exact (roundQuotient_le _ _).trans bound

theorem isFinite_ofSigned (negative : Bool) {magnitude : Nat} (small : magnitude < infinityWord) :
    (ofSigned negative magnitude).isFinite = true := by
  have size : infinityWord < signWord := by decide
  have room : signWord + signWord = 2 ^ 64 := by decide
  have same : (ofSigned negative magnitude).magnitudeWord = magnitude := by
    cases negative with
    | false =>
      simp only [ofSigned, magnitudeWord, UInt64.toNat_ofNat', Bool.false_eq_true, if_false]
      rw [Nat.mod_eq_of_lt (a := magnitude) (by omega), Nat.mod_eq_of_lt (by omega)]
    | true =>
      simp only [ofSigned, magnitudeWord, UInt64.toNat_ofNat', if_true]
      rw [Nat.mod_eq_of_lt (a := signWord + magnitude) (by omega), Nat.add_mod_left,
        Nat.mod_eq_of_lt (by omega)]
  simpa only [isFinite, same, decide_eq_true_eq] using small

/-- The double that is nearest to an integer of sixty-four bits is a finite number. -/
theorem isFinite_ofInt {i : Int} (small : i.natAbs < 2 ^ 64) : (ofInt i).isFinite = true := by
  unfold ofInt ofQuotient
  split
  · exact isFinite_ofSigned _ (by decide)
  rename_i positive
  have bits : Nat.log2 i.natAbs < 64 := (Nat.log2_lt positive).mpr small
  have below : i.natAbs < 2 ^ (Nat.log2 i.natAbs + 1) := Nat.lt_log2_self
  have scale : (Nat.log2 i.natAbs : Int) - 53 ≤ quotientScale i.natAbs 1 ∧
      quotientScale i.natAbs 1 ≤ 11 := by
    unfold quotientScale
    simp only [show Nat.log2 1 = 0 from rfl]
    split_ifs <;> omega
  have rounded := roundQuotient_scaled_le below scale.1
  have word : (quotientScale i.natAbs 1 + 1074).toNat * 2 ^ 52 +
      roundQuotient (scaled i.natAbs 1 (quotientScale i.natAbs 1)).1
        (scaled i.natAbs 1 (quotientScale i.natAbs 1)).2 < infinityWord := by
    have := scale.2
    simp only [infinityWord]
    omega
  simp only
  rw [if_neg (Nat.not_le.mpr word)]
  exact isFinite_ofSigned _ word

end Decimal.Binary64

namespace Json

/-- The keys by which the notation tells typed values from documents. -/
def reservedKeys : List String := Bson.Typed.all.map Bson.Typed.key

mutual

/-- No object of the value has a key that is reserved. -/
def Plain : Json → Prop
  | .array items => PlainItems items
  | .object members => PlainMembers members
  | _ => True

def PlainItems : List Json → Prop
  | [] => True
  | item :: rest => item.Plain ∧ PlainItems rest

def PlainMembers : List (String × Json) → Prop
  | [] => True
  | (key, value) :: rest => key ∉ reservedKeys ∧ value.Plain ∧ PlainMembers rest

end

mutual

/-- Every integer of the value fits into sixty-four bits, one of them for its sign. -/
def Signed : Json → Prop
  | .number (.integer value _) => Fits 64 value
  | .array items => SignedItems items
  | .object members => SignedMembers members
  | _ => True

def SignedItems : List Json → Prop
  | [] => True
  | item :: rest => item.Signed ∧ SignedItems rest

def SignedMembers : List (String × Json) → Prop
  | [] => True
  | (_, value) :: rest => value.Signed ∧ SignedMembers rest

end

theorem isFinite_ofInt_of_range {value : Int} (range : -2 ^ 63 ≤ value ∧ value < 2 ^ 64) :
    (Decimal.Binary64.ofInt value).isFinite = true :=
  Decimal.Binary64.isFinite_ofInt (by omega)

/-- A number as a database keeps it: an integer with too many bits becomes a double. -/
def Number.stored : Number → Number
  | .integer value range =>
    if Fits 64 value then .integer value range
    else .double (.ofInt value) (isFinite_ofInt_of_range range)
  | .double value finite => .double value finite

mutual

/-- The value with every number as a database keeps it. -/
def stored : Json → Json
  | .number value => .number value.stored
  | .array items => .array (storedItems items)
  | .object members => .object (storedMembers members)
  | .null => .null
  | .bool value => .bool value
  | .string value => .string value

def storedItems : List Json → List Json
  | [] => []
  | item :: rest => item.stored :: storedItems rest

def storedMembers : List (String × Json) → List (String × Json)
  | [] => []
  | (key, value) :: rest => (key, value.stored) :: storedMembers rest

end

mutual

/-- What a database keeps is the value itself exactly if no integer has too many bits. -/
theorem stored_eq_iff : (value : Json) → (value.stored = value ↔ value.Signed)
  | .null => by simp [stored, Signed]
  | .bool value => by simp [stored, Signed]
  | .string value => by simp [stored, Signed]
  | .number (.double value finite) => by simp [stored, Number.stored, Signed]
  | .number (.integer value range) => by
    rw [stored, Number.stored, Signed]
    by_cases fits : Fits 64 value
    · rw [if_pos fits]
      exact iff_of_true rfl fits
    · rw [if_neg fits]
      exact iff_of_false nofun fits
  | .array items => by
    rw [stored, Signed, Json.array.injEq]
    exact storedItems_eq_iff items
  | .object members => by
    rw [stored, Signed, Json.object.injEq]
    exact storedMembers_eq_iff members

theorem storedItems_eq_iff : (items : List Json) → (storedItems items = items ↔ SignedItems items)
  | [] => by simp [storedItems, SignedItems]
  | item :: rest => by
    rw [storedItems, SignedItems, List.cons.injEq]
    exact and_congr (stored_eq_iff item) (storedItems_eq_iff rest)

theorem storedMembers_eq_iff :
    (members : List (String × Json)) → (storedMembers members = members ↔ SignedMembers members)
  | [] => by simp [storedMembers, SignedMembers]
  | (key, value) :: rest => by
    rw [storedMembers, SignedMembers, List.cons.injEq, Prod.mk.injEq]
    exact and_congr ((and_iff_right rfl).trans (stored_eq_iff value)) (storedMembers_eq_iff rest)

end

end Json

namespace Bson

open Json (Plain PlainItems PlainMembers)

/-- An object without reserved keys is no typed value. -/
theorem of?_eq_none {members : List (String × Json)} (plain : PlainMembers members) :
    Typed.of? members = none := by
  rw [of?_eq_none_iff]
  intro typed
  have reserved : typed.key ∈ Json.reservedKeys := List.mem_map_of_mem typed.mem_all
  induction members with
  | nil => exact List.not_mem_nil
  | cons member rest ih =>
    obtain ⟨key, value⟩ := member
    obtain ⟨free, -, others⟩ := plain
    rw [List.map_cons, List.mem_cons, not_or]
    refine ⟨?_, ih others⟩
    rintro rfl
    exact free reserved

theorem relaxed_ofNumber (number : Json.Number) :
    relaxed (ofNumber number) = .number number.stored := by
  cases number with
  | double value finite =>
    rw [ofNumber, relaxed, doubleJson, dif_pos finite, Json.Number.stored]
  | integer value range =>
    rw [ofNumber, integer?, Json.Number.stored]
    by_cases wide : Fits 64 value
    · rw [if_pos wide]
      by_cases narrow : Fits 32 value
      · rw [dif_pos narrow]
        rfl
      · rw [dif_neg narrow, dif_pos wide]
        rfl
    · have narrow : ¬ Fits 32 value := by
        simp only [Fits, Nat.reduceSub] at wide ⊢
        omega
      rw [dif_neg narrow, dif_neg wide, if_neg wide, Option.getD_none, relaxed, doubleJson,
        dif_pos (Json.isFinite_ofInt_of_range range)]

mutual

/-- By induction on the value, with a case for each kind. -/
theorem relaxed_ofJson : (value : Json) → value.Plain →
    ∃ kept, ofJson value = .ok kept ∧ relaxed kept = value.stored
  | .null, _ => ⟨.null, rfl, rfl⟩
  | .bool value, _ => ⟨.bool value, rfl, rfl⟩
  | .string value, _ => ⟨.string value, rfl, rfl⟩
  | .number value, _ => by
    refine ⟨ofNumber value, by rw [ofJson], ?_⟩
    rw [relaxed_ofNumber, Json.stored]
  | .array items, plain => by
    obtain ⟨kept, converted, shown⟩ := relaxedItems_ofItems items plain
    refine ⟨.array kept, ?_, ?_⟩
    · rw [ofJson, converted]
      rfl
    · rw [relaxed, shown, Json.stored]
  | .object members, plain => by
    obtain ⟨kept, converted, shown⟩ := relaxedMembers_ofMembers members plain
    refine ⟨.document kept, ?_, ?_⟩
    · rw [ofJson, of?_eq_none plain]
      simp only [converted]
      rfl
    · rw [relaxed, shown, Json.stored]

theorem relaxedItems_ofItems : (items : List Json) → PlainItems items →
    ∃ kept, ofItems items = .ok kept ∧ relaxedItems kept = Json.storedItems items
  | [], _ => ⟨[], rfl, rfl⟩
  | item :: rest, ⟨plain, others⟩ => by
    obtain ⟨first, converted, shown⟩ := relaxed_ofJson item plain
    obtain ⟨further, behind, same⟩ := relaxedItems_ofItems rest others
    refine ⟨first :: further, ?_, ?_⟩
    · rw [ofItems, converted, behind]
      rfl
    · rw [relaxedItems, shown, same, Json.storedItems]

theorem relaxedMembers_ofMembers : (members : List (String × Json)) → PlainMembers members →
    ∃ kept, ofMembers members = .ok kept ∧ relaxedMembers kept = Json.storedMembers members
  | [], _ => ⟨[], rfl, rfl⟩
  | (key, value) :: rest, ⟨_, plain, others⟩ => by
    obtain ⟨first, converted, shown⟩ := relaxed_ofJson value plain
    obtain ⟨further, behind, same⟩ := relaxedMembers_ofMembers rest others
    refine ⟨(key, first) :: further, ?_, ?_⟩
    · rw [ofMembers, converted, behind]
      rfl
    · rw [relaxedMembers, shown, same, Json.storedMembers]

end

end Bson

namespace Mongo

/-- A document without reserved keys can be sent, and what comes back is the document as a database
keeps it. That is the document itself exactly if no integer in it has too many bits. -/
theorem decode_encode (document : DriverCompat.Document) (plain : Json.PlainMembers document) :
    ∃ members, encode document = .ok members ∧ decode members = Json.storedMembers document ∧
      (decode members = document ↔ Json.SignedMembers document) := by
  obtain ⟨members, converted, shown⟩ := Bson.relaxedMembers_ofMembers document plain
  refine ⟨members, ?_, shown, ?_⟩
  · have whole : Bson.ofJson (.object document) = .ok (.document members) := by
      rw [Bson.ofJson, Bson.of?_eq_none plain]
      simp only [converted]
      rfl
    rw [encode, whole]
  · rw [decode, shown]
    exact Json.storedMembers_eq_iff document

/-- The integers at the ends of the widest range come back, and the first one above it becomes a
double. -/
theorem decode_encode_bounds :
    ∃ members, encode [("kept", .array [.int (2 ^ 63 - 1) (by decide), .int (-2 ^ 63) (by decide)]),
        ("above", .int (2 ^ 63) (by decide))] = .ok members ∧
      decode members =
        [("kept", .array [.int (2 ^ 63 - 1) (by decide), .int (-2 ^ 63) (by decide)]),
          ("above", .number (.double ⟨0x43E0000000000000⟩ (by decide)))] := by
  obtain ⟨members, sent, shown, -⟩ := decode_encode
    [("kept", .array [.int (2 ^ 63 - 1) (by decide), .int (-2 ^ 63) (by decide)]),
      ("above", .int (2 ^ 63) (by decide))]
    ⟨by decide, ⟨trivial, trivial, trivial⟩, by decide, trivial, trivial⟩
  exact ⟨members, sent, shown.trans rfl⟩

/-- The largest integer that a document can hold does not come back. -/
theorem decode_encode_ne :
    Json.PlainMembers [("n", .int (2 ^ 64 - 1) (by decide))] ∧
      ∃ members, encode [("n", .int (2 ^ 64 - 1) (by decide))] = .ok members ∧
        decode members ≠ [("n", .int (2 ^ 64 - 1) (by decide))] := by
  refine ⟨⟨by decide, trivial, trivial⟩, [("n", .double ⟨0x43F0000000000000⟩)], rfl, ?_⟩
  intro same
  cases same

end Mongo

end DriverCompat
