import DriverCompat.Report.Marker
import DriverCompat.Proofs.Json.Slots

/-! # What a written value means as a report

A status, an entry and a report are each read from a written value as what it means: a string or an
object with one member, an object by its slots, or an array of the values in their order.
-/

namespace DriverCompat

open Json

variable {text rest : List Char}

namespace Status

/-- The status with this name. -/
def ofName? (name : List Symbol) : Option Status := (Json.text? name).bind ofText?

def ofMembers? : List Member → Option Status
  | [(name, .null)] => ofName? name
  | _ => none

def ofWritten? : Written → Option Status
  | .string symbols => ofName? symbols
  | .object members => ofMembers? members
  | _ => none

theorem toOption_readName {name : List Symbol} {inner : List Char}
    (quoted : Spaced text ('"' :: inner)) (spells : Spells name inner rest) :
    (readName text).toOption = (ofName? name).map (·, rest) := by
  have read := spells.toOption_stringBody
  simp only [readName, quoted.skipSpace rfl, ofName?]
  cases known : Json.text? name with
  | none =>
    rw [known] at read
    obtain ⟨fault, failed⟩ := toOption_eq_none_iff.mp read
    rw [failed]
    rfl
  | some key =>
    rw [known] at read
    rw [toOption_eq_some_iff.mp read]
    simp only [ofName, Option.bind_some]
    cases ofText? key <;> rfl

/-- The key of an object, and then nothing but a null. -/
theorem toOption_readObject {members : List Member}
    (held : Writes (.members true members) text rest) :
    (readObject text).toOption = (ofMembers? members).map (·, rest) := by
  cases held with
  | endMembers spaced =>
    simp only [readObject, readName, spaced.skipSpace rfl]
    rfl
  | @member _ name value list _ start inner atColon atValue behind _ separated quoted spells spaced
      written further =>
    have front : Spaced text ('"' :: inner) := by
      cases separated with
      | front before => exact before.trans quoted
    have named := toOption_readName front spells
    have atColon : colon atColon = .ok atValue := by simp only [colon, spaced.skipSpace rfl]
    cases known : ofName? name with
    | none =>
      rw [known] at named
      obtain ⟨fault, failed⟩ := toOption_eq_none_iff.mp named
      have nothing : ofMembers? ((name, value) :: list) = none := by
        unfold ofMembers?
        split
        · rename_i same
          cases same
          exact known
        · rfl
      simp only [readObject, failed, nothing]
      rfl
    | some status =>
      rw [known] at named
      simp only [readObject, toOption_eq_some_iff.mp named, atColon]
      rcases means_unit.cases written further.members_endsNumber with
        ⟨fault, failed, noNull⟩ | ⟨_, read, null⟩
      · change readUnit atValue = _ at failed
        rw [failed]
        cases value with
        | null => cases noNull
        | _ => rfl
      · change readUnit atValue = _ at read
        rw [read]
        cases value with
        | null =>
          cases further with
          | endMembers spaced =>
            simp only [spaced.skipSpace rfl, ofMembers?, known]
            rfl
          | member separated =>
            cases separated with
            | comma spaced =>
              simp only [spaced.skipSpace rfl]
              rfl
        | _ => cases null

theorem exists_spells_of_readName {status : Status} (read : readName text = .ok (status, rest)) :
    ∃ inner name, Spaced text ('"' :: inner) ∧ Spells name inner rest := by
  unfold readName at read
  split at read
  · rename_i eq
    split at read
    · simp at read
    · rename_i body
      unfold ofName at read
      split at read
      · cases read
        obtain ⟨name, spells⟩ := exists_spells_of_stringBody body
        exact ⟨_, name, spaced_of_skipSpace eq, spells⟩
      · simp at read
  · simp at read

theorem exists_writes_of_readObject {status : Status}
    (read : readObject text = .ok (status, rest)) :
    ∃ members, Writes (.members true members) text rest := by
  unfold readObject at read
  split at read
  · simp at read
  · rename_i named
    obtain ⟨inner, name, quoted, spells⟩ := exists_spells_of_readName named
    split at read
    · simp at read
    · rename_i atColon
      split at read
      · simp at read
      · rename_i null
        obtain ⟨value, written⟩ := means_unit.written null
        split at read
        · simp at read
        · rename_i eq
          cases read
          exact ⟨_, .member (.front (.none _)) quoted spells (colon_eq_ok atColon) written
            (.endMembers (spaced_of_skipSpace eq))⟩
        · simp at read

theorem means : reader.Means ofWritten? where
  reads {value text rest} writes _ := by
    change (Status.read text).toOption = _
    unfold Status.read
    split
    · rename_i eq
      obtain ⟨c, tail, eq', -⟩ := writes.start
      rw [eq] at eq'
      cases eq'
    · rename_i eq
      obtain ⟨members, rfl, held⟩ := writes.eq_object eq
      exact toOption_readObject held
    · rename_i eq
      obtain ⟨symbols, rfl, spells⟩ := writes.eq_string eq
      exact toOption_readName (.none _) spells
    · rename_i noObject noString
      cases writes with
      | object spaced => exact absurd (spaced.skipSpace rfl) (noObject _)
      | string spaced => exact absurd (spaced.skipSpace rfl) (noString _)
      | _ => rfl
  written {text rest status} read := by
    change Status.read text = _ at read
    unfold Status.read at read
    split at read
    · simp at read
    · rename_i eq
      obtain ⟨members, held⟩ := exists_writes_of_readObject read
      exact ⟨_, .object (spaced_of_skipSpace eq) held⟩
    · rename_i eq
      obtain ⟨inner, name, quoted, spells⟩ := exists_spells_of_readName read
      exact ⟨_, .string ((spaced_of_skipSpace eq).trans quoted) spells⟩
    · simp at read

end Status

namespace Entry

namespace Fields

def nameSlot : Slot Fields where
  Value := String
  denoted := Written.text?
  get := Fields.name
  put fields name := { fields with name := some name }
  get_put _ _ := rfl

def statusSlot : Slot Fields where
  Value := Status
  denoted := Status.ofWritten?
  get := Fields.status
  put fields status := { fields with status := some status }
  get_put _ _ := rfl

def errorSlot : Slot Fields where
  Value := Option String
  denoted := Written.optionalText?
  get := Fields.error
  put fields error := { fields with error := some error }
  get_put _ _ := rfl

def slots : Slots Fields :=
  .three ("name", nameSlot) ("status", statusSlot) ("error", errorSlot)
    ⟨fun _ _ => rfl, fun _ _ => rfl, fun _ _ _ => rfl⟩
    ⟨fun _ _ => rfl, fun _ _ => rfl, fun _ _ _ => rfl⟩
    ⟨fun _ _ => rfl, fun _ _ => rfl, fun _ _ _ => rfl⟩

theorem explained (fields : Fields) (key : String) :
    Explained (fields.table key) (slots.step fields key) := by
  unfold table
  split
  · exact nameSlot.explained means_string fields "name"
  · exact statusSlot.explained Status.means fields "status"
  · exact errorSlot.explained means_optionalString fields "error"
  · rename_i noName noStatus noError
    have unknown : key ∉ slots.names := by
      simp only [Slots.names, slots, Slots.three, List.map_cons, List.map_nil, List.mem_cons,
        List.not_mem_nil, or_false, not_or]
      exact ⟨noName, noStatus, noError⟩
    exact Slots.explained_skip unknown fields

end Fields

/-- The error behind the name and the status of an entry, if there is one. -/
def lastItem? : List Written → Option (Option String)
  | [] => some none
  | [error] => error.optionalText?
  | _ => none

def ofItems? : List Written → Option Entry :=
  required? Written.text? fun name => required? Status.ofWritten? fun status items =>
    (lastItem? items).map fun error => ⟨name, status, error⟩

def ofMembers? (members : List Member) : Option Entry :=
  (gather Fields.slots.step Fields.empty members).bind fun fields => fields.finish.toOption

def ofWritten? : Written → Option Entry := Written.record? ofMembers? ofItems?

theorem toOption_ofMembers (text : List Char) : (ofMembers text).toOption =
    (members Fields.table true Fields.empty text).toOption.bind fun read =>
      read.1.finish.toOption.map (·, read.2) := by
  unfold ofMembers
  cases members Fields.table true Fields.empty text with
  | error => rfl
  | ok read =>
    simp only [Except.toOption, Option.bind_some]
    cases read.1.finish <;> rfl

theorem enclosed_ofElements (text : List Char) : enclosed closeList ofElements text =
    onNext (element? true Reader.string text) none fun name behind =>
      onNext (element? false Status.reader behind) none fun status behind =>
        onNext (element? false Reader.optionalString behind)
          ((closeList (skipSpace behind)).toOption.map (⟨name, status, none⟩, ·))
          fun error behind => (closeList behind).toOption.map (⟨name, status, error⟩, ·) := by
  unfold enclosed ofElements
  rcases element? true Reader.string text with _ | _ | ⟨name, behind⟩
  · rfl
  · rfl
  · simp only [onNext]
    rcases element? false Status.reader behind with _ | _ | ⟨status, behind⟩
    · rfl
    · rfl
    · dsimp only
      rcases element? false Reader.optionalString behind with _ | _ | ⟨error, behind⟩ <;> rfl

/-- What follows the status of an entry is an error, or the end. -/
theorem onNext_lastItem (name : String) (status : Status) {items : List Written}
    (writes : Writes (.items false items) text rest) :
    (onNext (element? false Reader.optionalString text)
        ((closeList (skipSpace text)).toOption.map (Entry.mk name status none, ·))
        fun error behind => (closeList behind).toOption.map (Entry.mk name status error, ·)) =
      ((lastItem? items).map (Entry.mk name status)).map (·, rest) := by
  cases items with
  | nil =>
    obtain ⟨-, eq⟩ := writes.nextElement?_nil
    have closed : closeList (skipSpace text) = .ok rest := by
      rw [closeList_eq_ok_iff, (spaced_skipSpace text).skipSpace_eq.symm, eq]
    rw [writes.onNext_nil, closed]
    rfl
  | cons error items =>
    obtain ⟨behind, next, further⟩ := means_optionalString.onNext_cons writes _ _
    rw [next, further.toOption_closeList]
    cases items with
    | nil => cases known : error.optionalText? <;> simp [lastItem?, known]
    | cons => cases error.optionalText? <;> rfl

theorem fills_elements : Fills (.items true) closeList ofElements ofItems? where
  reads writes := by
    rw [enclosed_ofElements]
    exact means_string.onNext_required writes fun name _ _ further =>
      Status.means.onNext_required further fun status _ _ further =>
        onNext_lastItem name status further
  written {text rest entry} read := by
    obtain ⟨between, read, closed⟩ := enclosed_eq_some_iff.mp read
    unfold ofElements at read
    split at read
    · simp at read
    · simp at read
    · rename_i readName
      split at read
      · simp at read
      · simp at read
      · rename_i status behind readStatus
        have more : ∃ items, Writes (.items false items) behind rest := by
          split at read
          · simp at read
          · cases read
            exact ⟨[], writes_nil_of_closeList closed⟩
          · rename_i readError
            cases read
            have ended : Writes (.items false []) between rest :=
              .endItems (spaced_of_skipSpace (closeList_eq_ok_iff.mp closed))
            obtain ⟨value, written⟩ :=
              means_optionalString.exists_writes_of_element? readError ended
            exact ⟨_, written⟩
        obtain ⟨items, further⟩ := more
        obtain ⟨status, further⟩ := Status.means.exists_writes_of_element? readStatus further
        obtain ⟨name, written⟩ := means_string.exists_writes_of_element? readName further
        exact ⟨_, written⟩

theorem fills_members : Fills (.members true) closeObject ofMembers ofMembers? :=
  Json.fills_members Fields.explained toOption_ofMembers

theorem means : reader.Means ofWritten? := means_record rfl fills_members fills_elements

end Entry

namespace Report

namespace Fields

def passedSlot : Slot Fields where
  Value := UInt64
  denoted := Written.count?
  get := Fields.passed
  put fields passed := { fields with passed := some passed }
  get_put _ _ := rfl

def failedSlot : Slot Fields where
  Value := UInt64
  denoted := Written.count?
  get := Fields.failed
  put fields failed := { fields with failed := some failed }
  get_put _ _ := rfl

def entriesSlot : Slot Fields where
  Value := List Entry
  denoted := Written.items? (List.mapM Entry.ofWritten?)
  get := Fields.entries
  put fields entries := { fields with entries := some entries }
  get_put _ _ := rfl

def slots : Slots Fields :=
  .three ("passed", passedSlot) ("failed", failedSlot) ("tests", entriesSlot)
    ⟨fun _ _ => rfl, fun _ _ => rfl, fun _ _ _ => rfl⟩
    ⟨fun _ _ => rfl, fun _ _ => rfl, fun _ _ _ => rfl⟩
    ⟨fun _ _ => rfl, fun _ _ => rfl, fun _ _ _ => rfl⟩

theorem explained (fields : Fields) (key : String) :
    Explained (fields.table key) (slots.step fields key) := by
  unfold table
  split
  · exact passedSlot.explained means_count fields "passed"
  · exact failedSlot.explained means_count fields "failed"
  · exact entriesSlot.explained Entry.means.list fields "tests"
  · rename_i noPassed noFailed noTests
    have unknown : key ∉ slots.names := by
      simp only [Slots.names, slots, Slots.three, List.map_cons, List.map_nil, List.mem_cons,
        List.not_mem_nil, or_false, not_or]
      exact ⟨noPassed, noFailed, noTests⟩
    exact Slots.explained_skip unknown fields

end Fields

def ofItems? : List Written → Option Report :=
  required? Written.count? fun passed => required? Written.count? fun failed =>
    required? (Written.items? (List.mapM Entry.ofWritten?)) fun entries items =>
      if items.isEmpty then some ⟨passed, failed, entries⟩ else none

def ofMembers? (members : List Member) : Option Report :=
  (gather Fields.slots.step Fields.empty members).bind fun fields => fields.finish.toOption

def ofWritten? : Written → Option Report := Written.record? ofMembers? ofItems?

theorem toOption_ofMembers (text : List Char) : (ofMembers text).toOption =
    (members Fields.table true Fields.empty text).toOption.bind fun read =>
      read.1.finish.toOption.map (·, read.2) := by
  unfold ofMembers
  cases members Fields.table true Fields.empty text with
  | error => rfl
  | ok read =>
    simp only [Except.toOption, Option.bind_some]
    cases read.1.finish <;> rfl

theorem enclosed_ofElements (text : List Char) : enclosed closeList ofElements text =
    onNext (element? true Reader.count text) none fun passed behind =>
      onNext (element? false Reader.count behind) none fun failed behind =>
        onNext (element? false Entry.reader.list behind) none fun entries behind =>
          (closeList behind).toOption.map (⟨passed, failed, entries⟩, ·) := by
  unfold enclosed ofElements
  rcases element? true Reader.count text with _ | _ | ⟨passed, behind⟩
  · rfl
  · rfl
  · simp only [onNext]
    rcases element? false Reader.count behind with _ | _ | ⟨failed, behind⟩
    · rfl
    · rfl
    · dsimp only
      rcases element? false Entry.reader.list behind with _ | _ | ⟨entries, behind⟩ <;> rfl

theorem fills_elements : Fills (.items true) closeList ofElements ofItems? where
  reads writes := by
    rw [enclosed_ofElements]
    refine means_count.onNext_required writes fun passed _ _ further =>
      means_count.onNext_required further fun failed _ _ further =>
        Entry.means.list.onNext_required further fun entries _ items further => ?_
    rw [further.toOption_closeList]
    cases items <;> rfl
  written {text rest report} read := by
    obtain ⟨between, read, closed⟩ := enclosed_eq_some_iff.mp read
    unfold ofElements at read
    split at read
    · simp at read
    · simp at read
    · rename_i readPassed
      split at read
      · simp at read
      · simp at read
      · rename_i readFailed
        split at read
        · simp at read
        · simp at read
        · rename_i readEntries
          cases read
          have ended : Writes (.items false []) between rest :=
            .endItems (spaced_of_skipSpace (closeList_eq_ok_iff.mp closed))
          obtain ⟨tests, further⟩ := Entry.means.list.exists_writes_of_element? readEntries ended
          obtain ⟨failed, further⟩ := means_count.exists_writes_of_element? readFailed further
          obtain ⟨passed, written⟩ := means_count.exists_writes_of_element? readPassed further
          exact ⟨_, written⟩

theorem fills_members : Fills (.members true) closeObject ofMembers ofMembers? :=
  Json.fills_members Fields.explained toOption_ofMembers

theorem means : reader.Means ofWritten? := means_record rfl fills_members fills_elements

/-- A text is read as the report that the value in it means. -/
theorem toOption_ofText {document : String} {value : Written} (holds : Holds document value) :
    (ofText document).toOption = ofWritten? value := by
  have read := means.toOption_readWhole holds
  rw [← read]
  unfold ofText parse
  cases readWhole reader document <;> rfl

theorem exists_holds_of_ofText {document : String} {report : Report}
    (read : ofText document = .ok report) : ∃ value, Holds document value := by
  unfold ofText parse at read
  split at read
  · rename_i whole
    exact means.exists_holds whole
  · simp at read

end Report

end DriverCompat
