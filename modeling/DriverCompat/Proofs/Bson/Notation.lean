import DriverCompat.Bson.Reader
import DriverCompat.Bson.Writer
import DriverCompat.Proofs.Calendar.Timestamp
import DriverCompat.Proofs.Decimal.Decimal128
import DriverCompat.Proofs.Text.Bytes

/-! # Typed values and their notations

Every notation of a typed value is read back. What comes back is the value itself, with some
exceptions: the options of a regular expression come back in order, what is not a number comes back
as the one double that its name stands for, and a decimal number as the one word for its value.
-/

namespace DriverCompat

namespace Decimal.Binary64

/-- The double that is read back from the notation of `x`: names do not tell apart the doubles that
are not numbers, but for their signs. -/
def settled (x : Binary64) : Binary64 := if x.isNaN then negated x.isNegative nan else x

theorem settled_of_isNaN {x : Binary64} (noNumber : x.isNaN = true) :
    x.settled = negated x.isNegative nan := if_pos noNumber

theorem settled_of_not_isNaN {x : Binary64} (number : x.isNaN = false) : x.settled = x := by
  rw [settled, number]
  rfl

/-- A double is made of its sign and its magnitude. -/
theorem ofSigned_isNegative (x : Binary64) : ofSigned x.isNegative x.magnitudeWord = x := by
  obtain ⟨bits⟩ := x
  have bound := bits.toNat_lt
  rw [ofSigned, Binary64.mk.injEq, ← UInt64.toNat_inj, UInt64.toNat_ofNat']
  by_cases high : signWord ≤ bits.toNat
  · simp only [isNegative, high, decide_true, if_true, magnitudeWord]
    simp only [signWord] at high ⊢
    omega
  · simp only [isNegative, high, decide_false, Bool.false_eq_true, if_false, magnitudeWord]
    simp only [signWord] at high ⊢
    omega

/-- A double that is neither finite nor without a number is the infinity of its sign. -/
theorem eq_infinity {x : Binary64} (large : x.isFinite = false) (number : x.isNaN = false) :
    x = infinity x.isNegative := by
  have word : x.magnitudeWord = infinityWord := by
    simp only [isFinite, isNaN, decide_eq_false_iff_not] at large number
    omega
  rw [infinity, ← word, ofSigned_isNegative]

end Decimal.Binary64

namespace Bson

open Decimal (Binary64 Decimal128)

/-- A double that JSON cannot write is read back from its name. -/
theorem readDouble_unwritable {x : Binary64} (large : x.isFinite = false) :
    readDouble (unwritable x) = .ok (.double x.settled) := by
  cases number : x.isNaN with
  | true =>
    rw [Binary64.settled_of_isNaN number, unwritable, number]
    cases x.isNegative <;> rfl
  | false =>
    rw [Binary64.settled_of_not_isNaN number, unwritable, number]
    -- Only on the right: the name on the left reads nothing of the double but its sign.
    conv => rhs; rw [Binary64.eq_infinity large number]
    cases x.isNegative <;> rfl

theorem isFinite_of_isNaN {x : Binary64} (noNumber : x.isNaN = true) : x.isFinite = false := by
  simp only [Binary64.isFinite, Binary64.isNaN, decide_eq_true_eq] at noNumber ⊢
  exact decide_eq_false (by omega)

theorem doubleJson_of_large {x : Binary64} (large : x.isFinite = false) :
    doubleJson x = taggedText .double (unwritable x) :=
  dif_neg (Bool.eq_false_iff.mp large)

/-- The notation does not change when a double has been read back. -/
theorem doubleJson_settled (x : Binary64) : doubleJson x.settled = doubleJson x := by
  cases number : x.isNaN with
  | false => rw [Binary64.settled_of_not_isNaN number]
  | true =>
    have large : (Binary64.negated x.isNegative .nan).isFinite = false := by
      cases x.isNegative <;> rfl
    have name : unwritable (Binary64.negated x.isNegative .nan) = unwritable x := by
      rw [unwritable, unwritable, number]
      cases x.isNegative <;> rfl
    rw [Binary64.settled_of_isNaN number, doubleJson_of_large large,
      doubleJson_of_large (isFinite_of_isNaN number), name]

/-- An integer that fits into some bits is read back from its digits. -/
theorem signedInteger?_toString {bits : Nat} {i : Int} (fits : Fits bits i) :
    signedInteger? bits (toString i) = some ⟨i, fits⟩ := by
  rcases Int.lt_or_le i 0 with negative | nonnegative
  · have value : -((-i).toNat : Int) = i := by omega
    simp only [signedInteger?, Text.toList_toString_of_neg negative, Text.signed,
      Text.decimal?_toDigits, Option.bind_eq_bind, Option.bind_some, if_true, value, dif_pos fits]
  · have value : (i.toNat : Int) = i := by omega
    simp only [signedInteger?, Text.toList_toString_of_nonneg nonnegative, Text.signed_toDigits,
      Text.decimal?_toDigits, Option.bind_eq_bind, Option.bind_some, Bool.false_eq_true, if_false,
      value, dif_pos fits]

theorem readInt64_toString {i : Int} (fits : Fits 64 i) :
    readInt64 (toString i) = .ok ⟨i, fits⟩ := by
  rw [readInt64, signedInteger?_toString fits]

theorem readIdentifier_hex (id : ObjectId) : readIdentifier id.hex = .ok id := by
  rw [readIdentifier, ObjectId.ofHex, ObjectId.hex, String.toList_ofList,
    Text.bytesOfHex_hexOfBytes]
  simp only [id.length_bytes, dite_true]
  rfl

theorem readBinary_encode (subtype : UInt8) (bytes : List UInt8) :
    readBinary (String.ofList (Text.Base64.encode bytes))
      (String.ofList (Text.hexOfBytes [subtype])) = .ok (.binary subtype bytes) := by
  rw [readBinary, String.toList_ofList, String.toList_ofList, Text.Base64.decode?_encode,
    Text.bytesOfHex_hexOfBytes]

/-- Options that are in order stay as they are. -/
theorem sortedOptions_sortedOptions (options : String) :
    sortedOptions (sortedOptions options) = sortedOptions options := by
  have ordered : (options.toList.mergeSort fun a b => a ≤ b).Pairwise
      fun a b => decide (a ≤ b) = true := by
    apply List.pairwise_mergeSort
    · intro a b c first second
      exact decide_eq_true (Char.le_trans (of_decide_eq_true first) (of_decide_eq_true second))
    · intro a b
      rw [Bool.or_eq_true, decide_eq_true_eq, decide_eq_true_eq]
      exact Char.le_total a b
  unfold sortedOptions
  rw [String.toList_ofList, List.mergeSort_of_pairwise ordered]

section Members

variable {α β : Type}

theorem ok_bind (value : α) (next : α → Except Fault β) : (Except.ok value >>= next) = next value :=
  rfl

theorem readOnly_member (key : String) (read : Reading α) (member : Json) :
    readOnly key read none [(key, member)] = read member := by
  rw [readOnly, if_pos rfl]
  cases read member <;> rfl

theorem readPair_members (name : String) {key other : String} (distinct : other ≠ key)
    {read : Reading α} {readOther : Reading β} {member second : Json} {value : α} {value' : β}
    (first : read member = .ok value) (next : readOther second = .ok value') :
    readPair name key other read readOther (.object [(key, member), (other, second)]) =
      .ok (value, value') := by
  rw [readPair, readBoth, if_pos rfl, first, ok_bind, readBoth, if_neg distinct, if_pos rfl, next,
    ok_bind, readBoth]

end Members

theorem Typed.mem_all (typed : Typed) : typed ∈ Typed.all := by
  cases typed <;> decide

/-- An object is a document exactly if it has no reserved key. -/
theorem of?_eq_none_iff {members : List (String × Json)} :
    Typed.of? members = none ↔ ∀ typed : Typed, typed.key ∉ members.map Prod.fst := by
  simp only [Typed.of?, List.find?_eq_none, List.any_eq_true, beq_iff_eq, List.mem_map]
  exact ⟨fun free typed => free typed typed.mem_all, fun free typed _ => free typed⟩

theorem of?_tagged (typed : Typed) (value : Json) :
    Typed.of? [(typed.key, value)] = some typed := by
  cases typed <;> rfl

theorem ofJson_tagged (typed : Typed) (value : Json) :
    ofJson (tagged typed value) =
      readTyped typed [(typed.key, value)] (ofScope [(typed.key, value)]) := by
  rw [tagged, ofJson, of?_tagged]

theorem ofJson_taggedOne_minKey : ofJson (taggedOne .minKey) = .ok .minKey := rfl

theorem ofJson_taggedOne_maxKey : ofJson (taggedOne .maxKey) = .ok .maxKey := rfl

theorem ofJson_tagged_undefined : ofJson (tagged .undefined (.bool true)) = .ok .undefined := rfl

theorem ofJson_symbol (name : String) : ofJson (taggedText .symbol name) = .ok (.symbol name) := by
  rw [taggedText, ofJson_tagged]
  rfl

theorem ofJson_code (source : String) : ofJson (taggedText .code source) = .ok (.code source) := by
  rw [taggedText, ofJson_tagged]
  rfl

theorem ofJson_identifierJson (id : ObjectId) :
    ofJson (identifierJson id) = .ok (.objectId id) := by
  rw [identifierJson, taggedText, ofJson_tagged]
  simp only [readTyped, readOnly_member, readText, ok_bind, readIdentifier_hex]
  rfl

theorem ofJson_patternJson (pattern options : String) :
    ofJson (patternJson pattern options) = .ok (ofPattern pattern options) := by
  have body : readPair "RegexBody" "pattern" "options" readText readText
      (.object [("pattern", .string pattern), ("options", .string (sortedOptions options))]) =
        .ok (pattern, sortedOptions options) := readPair_members _ (by decide) rfl rfl
  have ordered : ofPattern pattern (sortedOptions options) = ofPattern pattern options := by
    rw [ofPattern, sortedOptions_sortedOptions, ofPattern]
  rw [patternJson, ofJson_tagged]
  simp only [readTyped, readOnly_member, body, ok_bind, ordered]
  rfl

theorem ofJson_binaryJson (subtype : UInt8) (bytes : List UInt8) :
    ofJson (binaryJson subtype bytes) = .ok (.binary subtype bytes) := by
  have body : readPair "BinaryBody" "base64" "subType" readText readText
      (.object [("base64", .string (String.ofList (Text.Base64.encode bytes))),
        ("subType", .string (String.ofList (Text.hexOfBytes [subtype])))]) =
        .ok (String.ofList (Text.Base64.encode bytes), String.ofList (Text.hexOfBytes [subtype])) :=
    readPair_members _ (by decide) rfl rfl
  rw [binaryJson, ofJson_tagged]
  simp only [readTyped, readOnly_member, body, ok_bind, readBinary_encode]

theorem readWord_wordJson (n : UInt32) : readWord 32 (wordJson n) = .ok n.toNat := by
  have fits : 0 ≤ (n.toNat : Int) ∧ (n.toNat : Int) < 2 ^ 32 := by
    have := n.toNat_lt
    omega
  rw [wordJson, Json.int, readWord, if_pos fits, Int.toNat_natCast]

theorem ofJson_timestampJson (time increment : UInt32) :
    ofJson (timestampJson time increment) = .ok (.timestamp time increment) := by
  have body : readPair "TimestampBody" "t" "i" (readWord 32) (readWord 32)
      (.object [("t", wordJson time), ("i", wordJson increment)]) =
        .ok (time.toNat, increment.toNat) :=
    readPair_members _ (by decide) (readWord_wordJson time) (readWord_wordJson increment)
  rw [timestampJson, ofJson_tagged]
  simp only [readTyped, readOnly_member, body, ok_bind, UInt32.ofNat_toNat]
  rfl

theorem ofJson_pointerJson (collection : String) (id : ObjectId) :
    ofJson (pointerJson collection id) = .ok (.pointer collection id) := by
  have inner : readRecord "ObjectId" Typed.objectId.key readText (identifierJson id) =
      .ok id.hex := readOnly_member _ readText (.string id.hex)
  have body : readPair "DbPointerBody" "$ref" "$id" readText
      (readRecord "ObjectId" Typed.objectId.key readText)
      (.object [("$ref", .string collection), ("$id", identifierJson id)]) =
        .ok (collection, id.hex) := readPair_members _ (by decide) rfl inner
  rw [pointerJson, ofJson_tagged]
  simp only [readTyped, readOnly_member, body, ok_bind, readIdentifier_hex]
  rfl

theorem ofJson_doubleJson (x : Binary64) : ofJson (doubleJson x) = .ok (.double x.settled) := by
  unfold doubleJson
  split
  · rename_i finite
    have number : x.isNaN = false := by
      rw [Bool.eq_false_iff]
      intro noNumber
      exact absurd finite (Bool.eq_false_iff.mp (isFinite_of_isNaN noNumber))
    rw [ofJson, ofNumber, Binary64.settled_of_not_isNaN number]
  · rename_i large
    have read := readDouble_unwritable (Bool.eq_false_iff.mpr large)
    rw [taggedText, ofJson_tagged]
    simp only [readTyped, readOnly_member, readText, ok_bind, read]

theorem ofJson_decimal (x : Decimal128) :
    ofJson (taggedText .decimal x.text) = .ok (.decimal x.settled) := by
  rw [taggedText, ofJson_tagged]
  simp only [readTyped, readOnly_member, readText, ok_bind, readDecimal, x.ofText?_text]

/-- The last instant that is written as a timestamp is in the year 9999. -/
theorem day_le_lastDay {millis : Int} (early : millis ≤ lastTimestamp) :
    millis / Calendar.dayMillis ≤ Calendar.lastDay := by
  simp only [lastTimestamp, Calendar.dayMillis, Calendar.lastDay] at early ⊢
  omega

theorem ofJson_date (value : Json) : ofJson (tagged .date value) = readDate value := by
  rw [ofJson_tagged]
  simp only [readTyped, readOnly_member]
  rfl

theorem ofJson_dateJson {millis : Int} (fits : Fits 64 millis) :
    ofJson (dateJson millis) = .ok (.date millis fits) := by
  unfold dateJson
  split
  · rename_i range
    have read := Calendar.ofTimestamp?_timestamp range.1 (day_le_lastDay range.2)
    rw [taggedText, ofJson_date, readDate, String.toList_ofList, read]
    exact dif_pos fits
  · rw [dateNumber, ofJson_date, taggedText, tagged]
    simp only [readDate, readRecord, readOnly_member, readText, readInt64_toString fits]
    rfl

end Bson

end DriverCompat
