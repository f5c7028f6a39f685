import DriverCompat.Mongo.Document
import DriverCompat.Proofs.Bson.Settled

/-! # Documents that are sent again

A document that a server sends is shown in the relaxed notation. When it is sent again in this
notation, as a whole or as a filter made of some of its members, it is shown in the same way from
then on.
-/

namespace DriverCompat

namespace Bson

theorem relaxedMembers_eq_map (members : Document) :
    relaxedMembers members = members.map fun member => (member.1, relaxed member.2) := by
  induction members with
  | nil => rfl
  | cons member rest ih => rw [relaxedMembers, List.map_cons, ih]

theorem unreservedMembers_iff {members : Document} :
    UnreservedMembers members ↔ ∀ member ∈ members, member.2.Unreserved := by
  induction members with
  | nil => exact iff_of_true trivial nofun
  | cons member rest ih => rw [UnreservedMembers, ih, List.forall_mem_cons]

/-- Some members of a document without reserved keys make up such a document. -/
theorem unreserved_of_subset {chosen members : Document} (among : chosen ⊆ members)
    (unreserved : (document members).Unreserved) : (document chosen).Unreserved := by
  obtain ⟨free, inner⟩ := unreserved
  refine ⟨?_, ?_⟩
  · intro typed present
    exact free typed (List.map_subset Prod.fst among present)
  · rw [unreservedMembers_iff] at inner ⊢
    intro member present
    exact inner member (among present)

/-- What is selected from the notation of a document is the notation of what it was written from. -/
theorem exists_of_subset_relaxedMembers {members : Document} {filter : List (String × Json)}
    (among : filter ⊆ relaxedMembers members) :
    ∃ chosen, chosen ⊆ members ∧ filter = relaxedMembers chosen := by
  induction filter with
  | nil => exact ⟨[], List.nil_subset _, rfl⟩
  | cons member rest ih =>
    obtain ⟨first, others⟩ := List.cons_subset.mp among
    obtain ⟨chosen, within, rfl⟩ := ih others
    rw [relaxedMembers_eq_map] at first
    obtain ⟨source, present, rfl⟩ := List.mem_map.mp first
    exact ⟨source :: chosen, List.cons_subset.mpr ⟨present, within⟩, rfl⟩

end Bson

namespace Mongo

theorem unreserved_of_encode {document : DriverCompat.Document} {members : Bson.Document}
    (sent : encode document = .ok members) : (Bson.document members).Unreserved := by
  unfold encode at sent
  split at sent
  · rename_i converted
    cases sent
    exact Bson.unreserved_of_ofJson _ converted
  · cases sent
  · cases sent

/-- A document without reserved keys can be sent in its own notation, which does not change. -/
theorem encode_decode_of_unreserved {members : Bson.Document}
    (unreserved : (Bson.document members).Unreserved) :
    encode (decode members) = .ok (Bson.settledMembers members) ∧
      decode (Bson.settledMembers members) = decode members := by
  have read := Bson.ofJson_relaxed (.document members) unreserved
  rw [Bson.relaxed, Bson.settled] at read
  refine ⟨?_, Bson.relaxedMembers_settledMembers members⟩
  rw [encode, decode, read]

/-- The notation of a document that was sent can be sent again. What is sent then differs from what
was sent before only in what the notation does not tell, and has the same notation. A filter that is
made of members of the notation, such as the one for its identifier, is sent and shown as it is. -/
theorem encode_decode {document : DriverCompat.Document} {members : Bson.Document}
    (sent : encode document = .ok members) :
    encode (decode members) = .ok (Bson.settledMembers members) ∧
      decode (Bson.settledMembers members) = decode members ∧
      ∀ filter : DriverCompat.Document, filter ⊆ decode members →
        ∃ kept, encode filter = .ok kept ∧ decode kept = filter := by
  have unreserved := unreserved_of_encode sent
  obtain ⟨again, same⟩ := encode_decode_of_unreserved unreserved
  refine ⟨again, same, ?_⟩
  intro filter among
  obtain ⟨chosen, within, rfl⟩ := Bson.exists_of_subset_relaxedMembers among
  have selected := encode_decode_of_unreserved (Bson.unreserved_of_subset within unreserved)
  exact ⟨Bson.settledMembers chosen, selected⟩

/-- An identifier in upper case, a leap second, code whose scope has a reserved key, bytes with a
type of their own, and numbers that the notation does not keep apart from others: all of them settle
when they are first shown. -/
theorem encode_decode_unsettled :
    ∃ members, encode [
        ("_id", .object [("$oid", .string "65F0C0FFEE00000000000001")]),
        ("at", .object [("$date", .string "2024-02-29T23:59:60Z")]),
        ("run", .object [("$code", .string "f()"), ("$scope", .object [("$oid", .string "x")])]),
        ("values", .array [
          .object [("$uuid", .string "C8EDABC3-F738-4CA3-B68D-AB92A91478A3")],
          .object [("$numberLong", .string "+7")],
          .object [("$numberDecimal", .string "150e1")],
          .object [("$numberDouble", .string "-nan")]])] = .ok members ∧
      decode members = [
        ("_id", .object [("$oid", .string "65f0c0ffee00000000000001")]),
        ("at", .object [("$date", .string "2024-02-29T23:59:59.999Z")]),
        ("run", .object [("$code", .string "f()"), ("$scope", .object [("$oid", .string "x")])]),
        ("values", .array [
          .object [("$binary", .object [
            ("base64", .string "yO2rw/c4TKO2jauSqRR4ow=="), ("subType", .string "04")])],
          .int 7 (by decide),
          .object [("$numberDecimal", .string "1.50E+3")],
          .object [("$numberDouble", .string "-NaN")]])] ∧
      encode (decode members) = .ok [
        ("_id", .objectId ⟨[0x65, 0xF0, 0xC0, 0xFF, 0xEE, 0, 0, 0, 0, 0, 0, 1], rfl⟩),
        ("at", .date 1709251199999 (by decide)),
        ("run", .scopedCode "f()" [("$oid", .string "x")]),
        ("values", .array [
          .binary 4 [0xC8, 0xED, 0xAB, 0xC3, 0xF7, 0x38, 0x4C, 0xA3, 0xB6, 0x8D, 0xAB, 0x92, 0xA9,
            0x14, 0x78, 0xA3],
          .int32 7 (by decide), .decimal (.ofValue (.finite false ⟨150, 1, by decide, by decide⟩)),
          .double ⟨0xFFF8000000000000⟩])] ∧
      ∃ kept, encode [("_id", .object [("$oid", .string "65f0c0ffee00000000000001")])] = .ok kept ∧
        decode kept = [("_id", .object [("$oid", .string "65f0c0ffee00000000000001")])] := by
  have sent : encode [
      ("_id", .object [("$oid", .string "65F0C0FFEE00000000000001")]),
      ("at", .object [("$date", .string "2024-02-29T23:59:60Z")]),
      ("run", .object [("$code", .string "f()"), ("$scope", .object [("$oid", .string "x")])]),
      ("values", .array [
        .object [("$uuid", .string "C8EDABC3-F738-4CA3-B68D-AB92A91478A3")],
        .object [("$numberLong", .string "+7")],
        .object [("$numberDecimal", .string "150e1")],
        .object [("$numberDouble", .string "-nan")]])] =
      .ok [
        ("_id", .objectId ⟨[0x65, 0xF0, 0xC0, 0xFF, 0xEE, 0, 0, 0, 0, 0, 0, 1], rfl⟩),
        ("at", .date 1709251199999 (by decide)),
        ("run", .scopedCode "f()" [("$oid", .string "x")]),
        ("values", .array [
          .binary 4 [0xC8, 0xED, 0xAB, 0xC3, 0xF7, 0x38, 0x4C, 0xA3, 0xB6, 0x8D, 0xAB, 0x92, 0xA9,
            0x14, 0x78, 0xA3],
          .int64 7 (by decide), .decimal (.ofValue (.finite false ⟨150, 1, by decide, by decide⟩)),
          .double ⟨0xFFF8000000000000⟩])] := rfl
  obtain ⟨again, -, filters⟩ := encode_decode sent
  refine ⟨_, sent, rfl, again.trans rfl, ?_⟩
  apply filters
  intro member among
  obtain rfl := List.mem_singleton.mp among
  exact List.mem_cons_self

end Mongo

end DriverCompat
