import DriverCompat.Proofs.Bson.Notation

/-! # Values behind their notation

The relaxed notation forgets how wide an integer is, in which order the options of a regular
expression stood, which double without a number there was and which word a decimal number had. What
is read back has settled these, and has the same notation. A document can be read back only if it
has no reserved keys, and a reader never makes one that has any: it would have taken it for a typed
value.
-/

namespace DriverCompat.Bson

mutual

/-- The value that is read back from the relaxed notation of a value. -/
def settled : Bson → Bson
  | .int64 value fits => if narrow : Fits 32 value then .int32 value narrow else .int64 value fits
  | .double value => .double value.settled
  | .decimal value => .decimal value.settled
  | .regularExpression pattern options => ofPattern pattern options
  | .scopedCode source scope => .scopedCode source (settledMembers scope)
  | .array items => .array (settledItems items)
  | .document members => .document (settledMembers members)
  | value => value

def settledItems : List Bson → List Bson
  | [] => []
  | item :: rest => item.settled :: settledItems rest

def settledMembers : Document → Document
  | [] => []
  | (key, value) :: rest => (key, value.settled) :: settledMembers rest

end

mutual

/-- What is read back has the notation that it was read from. -/
theorem relaxed_settled : (value : Bson) → relaxed value.settled = relaxed value
  | .int64 value fits => by
    rw [settled]
    split <;> rfl
  | .double value => by rw [settled, relaxed, relaxed, doubleJson_settled]
  | .decimal value => by rw [settled, relaxed, relaxed, value.text_settled]
  | .regularExpression pattern options => by
    rw [settled, ofPattern, relaxed, relaxed, patternJson, patternJson, sortedOptions_sortedOptions]
  | .scopedCode source scope => by
    rw [settled, relaxed, relaxed, relaxedMembers_settledMembers scope]
  | .array items => by rw [settled, relaxed, relaxed, relaxedItems_settledItems items]
  | .document members => by rw [settled, relaxed, relaxed, relaxedMembers_settledMembers members]
  | .null | .undefined | .minKey | .maxKey | .bool _ | .int32 _ _ | .string _ | .symbol _
  | .code _ | .objectId _ | .date _ _ | .timestamp _ _ | .binary _ _ | .pointer _ _ => rfl

theorem relaxedItems_settledItems :
    (items : List Bson) → relaxedItems (settledItems items) = relaxedItems items
  | [] => rfl
  | item :: rest => by
    rw [settledItems, relaxedItems, relaxedItems, relaxed_settled item,
      relaxedItems_settledItems rest]

theorem relaxedMembers_settledMembers :
    (members : Document) → relaxedMembers (settledMembers members) = relaxedMembers members
  | [] => rfl
  | (key, value) :: rest => by
    rw [settledMembers, relaxedMembers, relaxedMembers, relaxed_settled value,
      relaxedMembers_settledMembers rest]

end

mutual

/-- No document of a value has a reserved key, but for the scope of code, which is known to be a
document where it stands. -/
def Unreserved : Bson → Prop
  | .scopedCode _ scope => UnreservedMembers scope
  | .array items => UnreservedItems items
  | .document members =>
    (∀ typed : Typed, typed.key ∉ members.map Prod.fst) ∧ UnreservedMembers members
  | _ => True

def UnreservedItems : List Bson → Prop
  | [] => True
  | item :: rest => item.Unreserved ∧ UnreservedItems rest

def UnreservedMembers : Document → Prop
  | [] => True
  | (_, value) :: rest => value.Unreserved ∧ UnreservedMembers rest

end

theorem map_fst_relaxedMembers (members : Document) :
    (relaxedMembers members).map Prod.fst = members.map Prod.fst := by
  induction members with
  | nil => rfl
  | cons member rest ih => rw [relaxedMembers, List.map_cons, List.map_cons, ih]

/-- Code with a scope is read back if the members of its scope are. -/
theorem ofJson_scopedJson {source : String} {scope : List (String × Json)} {bound : Document}
    (read : ofMembers scope = .ok bound) :
    ofJson (scopedJson source scope) = .ok (.scopedCode source bound) := by
  have within : ofScope [(Typed.code.key, .string source), (Typed.scopeKey, .object scope)] =
      .ok bound := by
    rw [ofScope]
    · rw [if_neg (by decide), ofScope, if_pos rfl, read]
    · exact nofun
  have found : Typed.of? [(Typed.code.key, .string source), (Typed.scopeKey, .object scope)] =
      some .code := rfl
  rw [scopedJson, ofJson, found]
  simp only [within]
  rfl

mutual

/-- A value without reserved keys is read back from its notation, and has settled by then. -/
theorem ofJson_relaxed : (value : Bson) → value.Unreserved →
    ofJson (relaxed value) = .ok value.settled
  | .null, _ => rfl
  | .undefined, _ => ofJson_tagged_undefined
  | .minKey, _ => ofJson_taggedOne_minKey
  | .maxKey, _ => ofJson_taggedOne_maxKey
  | .bool _, _ => rfl
  | .int32 value fits, _ => by
    rw [relaxed, Json.int, ofJson, ofNumber, integer?, dif_pos fits]
    rfl
  | .int64 value fits, _ => by
    rw [relaxed, Json.int, ofJson, ofNumber, integer?, settled]
    split <;> rfl
  | .double value, _ => by
    rw [relaxed, ofJson_doubleJson, settled]
  | .decimal value, _ => by
    rw [relaxed, ofJson_decimal, settled]
  | .string _, _ => rfl
  | .symbol name, _ => ofJson_symbol name
  | .code source, _ => ofJson_code source
  | .scopedCode source scope, inner => by
    rw [relaxed, ofJson_scopedJson (ofMembers_relaxedMembers scope inner), settled]
  | .regularExpression pattern options, _ => ofJson_patternJson pattern options
  | .objectId id, _ => ofJson_identifierJson id
  | .date _ fits, _ => ofJson_dateJson fits
  | .timestamp time increment, _ => ofJson_timestampJson time increment
  | .binary subtype bytes, _ => ofJson_binaryJson subtype bytes
  | .pointer collection id, _ => ofJson_pointerJson collection id
  | .array items, inner => by
    rw [relaxed, ofJson, ofItems_relaxedItems items inner, settled]
    rfl
  | .document members, ⟨free, inner⟩ => by
    -- The writer keeps the keys, so the object has no reserved key either and is a document again.
    have document : Typed.of? (relaxedMembers members) = none := by
      rw [of?_eq_none_iff, map_fst_relaxedMembers]
      exact free
    rw [relaxed, ofJson, document]
    simp only [ofMembers_relaxedMembers members inner, settled]
    rfl

theorem ofItems_relaxedItems : (items : List Bson) → UnreservedItems items →
    ofItems (relaxedItems items) = .ok (settledItems items)
  | [], _ => rfl
  | item :: rest, ⟨first, others⟩ => by
    rw [relaxedItems, ofItems, ofJson_relaxed item first, ofItems_relaxedItems rest others]
    rfl

theorem ofMembers_relaxedMembers : (members : Document) → UnreservedMembers members →
    ofMembers (relaxedMembers members) = .ok (settledMembers members)
  | [], _ => rfl
  | (key, value) :: rest, ⟨first, others⟩ => by
    rw [relaxedMembers, ofMembers, ofJson_relaxed value first,
      ofMembers_relaxedMembers rest others]
    rfl

end

/-- A reader of a typed value makes no document with a reserved key. -/
def MakesUnreserved (reading : Except Fault Bson) : Prop :=
  ∀ value, reading = .ok value → value.Unreserved

namespace MakesUnreserved

variable {α : Type}

theorem error (fault : Fault) : MakesUnreserved (.error fault) := nofun

theorem ok {value : Bson} (unreserved : value.Unreserved) : MakesUnreserved (.ok value) := by
  rintro _ ⟨⟩
  exact unreserved

/-- What was read stays known to the next step, which needs it for the scope of code. -/
theorem bind {reading : Except Fault α} {next : α → Except Fault Bson}
    (all : ∀ value, reading = .ok value → MakesUnreserved (next value)) :
    MakesUnreserved (reading >>= next) := by
  cases reading with
  | error fault => exact error fault
  | ok value => exact all value rfl

theorem readInt32 (text : String) : MakesUnreserved (readInt32 text) := by
  unfold Bson.readInt32
  split
  · exact ok trivial
  · exact error _

theorem readDouble (text : String) : MakesUnreserved (readDouble text) := by
  unfold Bson.readDouble
  split
  · exact ok trivial
  · exact error _

theorem readDecimal (text : String) : MakesUnreserved (readDecimal text) := by
  unfold Bson.readDecimal
  split
  · exact ok trivial
  · exact error _

theorem readBinary (base64 subtype : String) : MakesUnreserved (readBinary base64 subtype) := by
  unfold Bson.readBinary
  split
  · exact error _
  · exact error _
  · exact ok trivial
  · exact error _

theorem readUuid (text : String) : MakesUnreserved (readUuid text) := by
  unfold Bson.readUuid
  simp only
  split
  · exact ok trivial
  · exact error _

theorem readDate (value : Json) : MakesUnreserved (readDate value) := by
  unfold Bson.readDate
  split
  · split
    · split
      · exact ok trivial
      · exact error _
    · exact error _
  · split
    · exact ok trivial
    · exact error _
  · split
    · rename_i text _
      cases readInt64 text with
      | error fault => exact error fault
      | ok i => exact ok trivial
    · exact error _

theorem readOne {typed : Typed} {result : Bson} (unreserved : result.Unreserved) (n : Nat) :
    MakesUnreserved (readOne typed result n) := by
  unfold Bson.readOne
  split
  · exact ok unreserved
  · exact error _

theorem readUndefined (value : Bool) : MakesUnreserved (readUndefined value) := by
  cases value with
  | false => exact error _
  | true => exact ok trivial

end MakesUnreserved

theorem makesUnreserved_readTyped (typed : Typed) (members : List (String × Json))
    {scope : Except Fault Document} (inner : ∀ bound, scope = .ok bound → UnreservedMembers bound) :
    MakesUnreserved (readTyped typed members scope) := by
  cases typed with
  | objectId => exact .bind fun _ _ => .bind fun _ _ => .ok trivial
  | symbol => exact .bind fun _ _ => .ok trivial
  | regularExpression => exact .bind fun _ _ => .ok trivial
  | int32 => exact .bind fun text _ => .readInt32 text
  | int64 => exact .bind fun _ _ => .bind fun _ _ => .ok trivial
  | double => exact .bind fun text _ => .readDouble text
  | decimal => exact .bind fun text _ => .readDecimal text
  | binary => exact .bind fun texts _ => .readBinary texts.1 texts.2
  | uuid => exact .bind fun text _ => .readUuid text
  | code =>
    apply MakesUnreserved.bind
    rintro ⟨source, isScoped⟩ _
    cases isScoped with
    | false => exact .ok trivial
    | true => exact .bind fun bound read => .ok (inner bound read)
  | timestamp => exact .bind fun _ _ => .ok trivial
  | date => exact .bind fun value _ => .readDate value
  | minKey => exact .bind fun n _ => .readOne (show Unreserved .minKey from trivial) n
  | maxKey => exact .bind fun n _ => .readOne (show Unreserved .maxKey from trivial) n
  | pointer => exact .bind fun _ _ => .bind fun _ _ => .ok trivial
  | undefined => exact .bind fun value _ => .readUndefined value

/-- What is made of a value that was read was made of one. -/
theorem exists_of_map_ok {α β : Type} {reading : Except Fault α} {make : α → β} {made : β}
    (read : reading.map make = .ok made) : ∃ value, reading = .ok value ∧ made = make value := by
  cases reading with
  | error fault => cases read
  | ok value =>
    cases read
    exact ⟨value, rfl, rfl⟩

theorem exists_of_ofItems_cons {item : Json} {rest : List Json} {kept : List Bson}
    (read : ofItems (item :: rest) = .ok kept) : ∃ first further,
      ofJson item = .ok first ∧ ofItems rest = .ok further ∧ kept = first :: further := by
  rw [ofItems] at read
  split at read
  · cases read
  · rename_i first converted
    obtain ⟨further, others, rfl⟩ := exists_of_map_ok read
    exact ⟨first, further, converted, others, rfl⟩

theorem exists_of_ofMembers_cons {key : String} {member : Json} {rest : List (String × Json)}
    {kept : Document} (read : ofMembers ((key, member) :: rest) = .ok kept) : ∃ first further,
      ofJson member = .ok first ∧ ofMembers rest = .ok further ∧
        kept = (key, first) :: further := by
  rw [ofMembers] at read
  split at read
  · cases read
  · rename_i first converted
    obtain ⟨further, others, rfl⟩ := exists_of_map_ok read
    exact ⟨first, further, converted, others, rfl⟩

theorem map_fst_ofMembers {members : List (String × Json)} {kept : Document}
    (read : ofMembers members = .ok kept) : kept.map Prod.fst = members.map Prod.fst := by
  induction members generalizing kept with
  | nil =>
    cases read
    rfl
  | cons member rest ih =>
    obtain ⟨first, further, -, others, rfl⟩ := exists_of_ofMembers_cons read
    rw [List.map_cons, List.map_cons, ih others]

theorem unreserved_ofNumber (number : Json.Number) : (ofNumber number).Unreserved := by
  cases number with
  | double value finite => trivial
  | integer value range =>
    rw [ofNumber, integer?]
    split
    · trivial
    · split <;> trivial

mutual

/-- A value that was read has no reserved keys in its documents. -/
theorem unreserved_of_ofJson :
    (json : Json) → {value : Bson} → ofJson json = .ok value → value.Unreserved
  | .null, _, read | .bool _, _, read | .string _, _, read => by
    cases read
    trivial
  | .number number, _, read => by
    cases read
    exact unreserved_ofNumber number
  | .array items, _, read => by
    obtain ⟨kept, inner, rfl⟩ := exists_of_map_ok read
    exact unreserved_of_ofItems items inner
  | .object members, value, read => by
    rw [ofJson] at read
    split at read
    · exact makesUnreserved_readTyped _ members (fun _ => unreserved_of_ofScope members) value read
    · rename_i document
      obtain ⟨kept, inner, rfl⟩ := exists_of_map_ok read
      refine ⟨?_, unreserved_of_ofMembers members inner⟩
      rw [map_fst_ofMembers inner]
      exact of?_eq_none_iff.mp document

theorem unreserved_of_ofItems :
    (items : List Json) → {kept : List Bson} → ofItems items = .ok kept → UnreservedItems kept
  | [], _, read => by
    cases read
    trivial
  | item :: rest, _, read => by
    obtain ⟨first, further, converted, others, rfl⟩ := exists_of_ofItems_cons read
    exact ⟨unreserved_of_ofJson item converted, unreserved_of_ofItems rest others⟩

theorem unreserved_of_ofMembers : (members : List (String × Json)) → {kept : Document} →
    ofMembers members = .ok kept → UnreservedMembers kept
  | [], _, read => by
    cases read
    trivial
  | (_, member) :: rest, _, read => by
    obtain ⟨first, further, converted, others, rfl⟩ := exists_of_ofMembers_cons read
    exact ⟨unreserved_of_ofJson member converted, unreserved_of_ofMembers rest others⟩

theorem unreserved_of_ofScope : (members : List (String × Json)) → {kept : Document} →
    ofScope members = .ok kept → UnreservedMembers kept
  | [], _, read => by
    cases read
    trivial
  | (key, .object inner) :: rest, _, read => by
    rw [ofScope] at read
    split at read
    · exact unreserved_of_ofMembers inner read
    · exact unreserved_of_ofScope rest read
  | (key, .null) :: rest, _, read | (key, .bool _) :: rest, _, read
  | (key, .number _) :: rest, _, read | (key, .string _) :: rest, _, read
  | (key, .array _) :: rest, _, read => by
    by_cases same : key = Typed.scopeKey
    · simp only [ofScope, same, if_true] at read
      cases read
      trivial
    · simp only [ofScope, same, if_false] at read
      exact unreserved_of_ofScope rest read

end

end DriverCompat.Bson
