import Mathlib.Logic.Relation
import DriverCompat.Proofs.Report.Meaning

/-! # How a report is presented does not matter

A report is read the same in whatever order the members of the report and of its entries come, and
with whatever other members among them; white space and escapes are no part of a written value in
the first place. A member of a report or an entry that comes twice makes the text no report at all.
-/

namespace DriverCompat

open Json

/-- Another way to give the members of a record with the known names: in another order, or with a
further one anywhere that has another name and any value. -/
inductive Rearranged (known : List String) : List Member → List Member → Prop
  | reorder {list other : List Member} (perm : list.Perm other) : Rearranged known list other
  | insert {name : List Symbol} {key : String} (text : Json.text? name = some key)
    (unknown : key ∉ known) (value : Written) (before behind : List Member) :
    Rearranged known (before ++ behind) (before ++ (name, value) :: behind)

theorem Rearranged.gather_eq {σ : Type} {slots : Slots σ} {list other : List Member}
    (change : Rearranged slots.names list other) (state : σ) :
    gather slots.step state other = gather slots.step state list := by
  cases change with
  | reorder perm => exact Slots.gather_perm perm.symm state
  | insert text unknown value before behind =>
    exact Slots.gather_insert text unknown value before behind state

/-- A name that is known comes twice. -/
def Repeated (known : List String) (list : List Member) : Prop :=
  ∃ key ∈ known, ∃ name name' value value', [(name, value), (name', value')].Sublist list ∧
    Json.text? name = some key ∧ Json.text? name' = some key

theorem Repeated.gather_eq {σ : Type} {slots : Slots σ} {list : List Member}
    (twice : Repeated slots.names list) (state : σ) : gather slots.step state list = none := by
  obtain ⟨key, known, name, name', value, value', among, text, text'⟩ := twice
  exact Slots.gather_twice text text' known among state

namespace Report

/-- A report around one of the items of its list of tests. -/
inductive AroundEntry : (Written → Written) → Prop
  | object {name : List Symbol} (text : Json.text? name = some "tests")
    (before behind : List Member) (items items' : List Written) :
    AroundEntry fun item => .object (before ++ (name, .array (items ++ item :: items')) :: behind)
  | array (passed failed : Written) (items items' more : List Written) :
    AroundEntry fun item => .array (passed :: failed :: .array (items ++ item :: items') :: more)

/-- Where the members of a report, or of one of its entries, stand, and which names they may have
only once. -/
inductive Place : List String → (List Member → Written) → Prop
  | report : Place ["passed", "failed", "tests"] .object
  | entry {around : Written → Written} (stands : AroundEntry around) :
    Place ["name", "status", "error"] fun list => around (.object list)

/-- Another way to give the members of one record. -/
inductive Varied : Written → Written → Prop
  | record {known : List String} {place : List Member → Written} {list other : List Member}
    (stands : Place known place) (change : Rearranged known list other) :
    Varied (place list) (place other)

/-- A value in which a record has a known member twice. -/
inductive Doubled : Written → Prop
  | record {known : List String} {place : List Member → Written} {list : List Member}
    (stands : Place known place) (twice : Repeated known list) : Doubled (place list)

theorem receive_tests {name : List Symbol} (text : Json.text? name = some "tests")
    (fields : Fields) (value : Written) :
    receive Fields.slots.step fields (name, value) = Fields.entriesSlot.write fields value := by
  rw [receive, text]
  rfl

theorem items?_congr {item item' : Written} (same : Entry.ofWritten? item = Entry.ofWritten? item')
    (items items' : List Written) :
    (Written.array (items ++ item :: items')).items? (List.mapM Entry.ofWritten?) =
      (Written.array (items ++ item' :: items')).items? (List.mapM Entry.ofWritten?) := by
  simp only [Written.items?, List.mapM_append, List.mapM_cons, same]

theorem items?_eq_none {item : Written} (nothing : Entry.ofWritten? item = none)
    (items items' : List Written) :
    (Written.array (items ++ item :: items')).items? (List.mapM Entry.ofWritten?) = none := by
  simp only [Written.items?, List.mapM_append, List.mapM_cons, nothing]
  cases items.mapM Entry.ofWritten? <;> rfl

/-- What a report is depends on what each of its items is as an entry. -/
theorem AroundEntry.congr {around : Written → Written} (stands : AroundEntry around)
    {item item' : Written} (same : Entry.ofWritten? item = Entry.ofWritten? item') :
    ofWritten? (around item) = ofWritten? (around item') := by
  cases stands with
  | @object name text before behind items items' =>
    have receives (fields : Fields) :
        receive Fields.slots.step fields (name, .array (items ++ item :: items')) =
          receive Fields.slots.step fields (name, .array (items ++ item' :: items')) := by
      rw [receive_tests text, receive_tests text]
      exact congrArg (fun found => if fields.entries.isSome then none else Option.map _ found)
        (items?_congr same items items')
    simp only [ofWritten?, Written.record?, ofMembers?, gather_congr receives]
  | array passed failed items items' more =>
    simp only [ofWritten?, Written.record?, ofItems?, required?, items?_congr same]

theorem AroundEntry.eq_none {around : Written → Written} (stands : AroundEntry around)
    {item : Written} (nothing : Entry.ofWritten? item = none) :
    ofWritten? (around item) = none := by
  cases stands with
  | @object name text before behind items items' =>
    have receives (fields : Fields) :
        receive Fields.slots.step fields (name, .array (items ++ item :: items')) = none := by
      rw [receive_tests text]
      have denoted : Fields.entriesSlot.denoted (.array (items ++ item :: items')) = none :=
        items?_eq_none nothing items items'
      rw [Slot.write, denoted, Option.map_none, ite_self]
    simp only [ofWritten?, Written.record?, ofMembers?, gather_eq_none receives, Option.bind_none]
  | array passed failed items items' more =>
    simp only [ofWritten?, Written.record?, ofItems?, required?,
      items?_eq_none nothing, Option.bind_none, Option.bind_fun_none]

theorem Varied.ofWritten?_eq {value other : Written} (varied : Varied value other) :
    ofWritten? other = ofWritten? value := by
  cases varied with
  | @record known place list other stands change =>
    cases stands with
    | report =>
      have change : Rearranged Fields.slots.names list other := change
      simp only [ofWritten?, Written.record?, ofMembers?, change.gather_eq]
    | entry stands =>
      have change : Rearranged Entry.Fields.slots.names list other := change
      apply stands.congr
      simp only [Entry.ofWritten?, Written.record?, Entry.ofMembers?, change.gather_eq]

theorem Doubled.ofWritten?_eq_none {value : Written} (doubled : Doubled value) :
    ofWritten? value = none := by
  cases doubled with
  | @record known place list stands twice =>
    cases stands with
    | report =>
      have twice : Repeated Fields.slots.names list := twice
      simp only [ofWritten?, Written.record?, ofMembers?, twice.gather_eq, Option.bind_none]
    | entry stands =>
      have twice : Repeated Entry.Fields.slots.names list := twice
      apply stands.eq_none
      simp only [Entry.ofWritten?, Written.record?, Entry.ofMembers?, twice.gather_eq,
        Option.bind_none]

theorem ofWritten?_eq_of_varied {value other : Written}
    (changes : Relation.ReflTransGen Varied value other) : ofWritten? other = ofWritten? value := by
  induction changes with
  | refl => rfl
  | tail _ change ih => exact change.ofWritten?_eq.trans ih

/-- Every text that holds the value of a report, up to any number of changes to the members of the
report and of its entries, is read as that report; one in which a known member comes twice is
not. -/
theorem ofText_presentation {text : String} {report : Report} (read : ofText text = .ok report) :
    (∃ value, Holds text value) ∧
    (∀ value, Holds text value → ∀ other, Relation.ReflTransGen Varied value other →
      ∀ variant, Holds variant other → ofText variant = .ok report) ∧
    ∀ other, Doubled other → ∀ variant, Holds variant other →
      ∃ failure, ofText variant = .error failure := by
  refine ⟨exists_holds_of_ofText read, ?_, ?_⟩
  · intro value holds other changes variant presents
    rw [← toOption_eq_some_iff, toOption_ofText presents, ofWritten?_eq_of_varied changes,
      ← toOption_ofText holds, toOption_eq_some_iff]
    exact read
  · intro other doubled variant presents
    rw [← toOption_eq_none_iff, toOption_ofText presents]
    exact doubled.ofWritten?_eq_none

/-! ### A report of one check -/

section Single

/-- The name of the check. -/
def nameMember : Member := (symbolsOf "name", .string (symbolsOf "ping"))

/-- That it passed. -/
def statusMember : Member := (symbolsOf "status", .string (symbolsOf "PASS"))

/-- A member that no entry has. -/
def strayMember : Member := (symbolsOf "id", .array [.object []])

/-- The members of the report, around those of its entry. -/
def single (entry : List Member) : List Member :=
  [(symbolsOf "passed", .number ['1']), (symbolsOf "failed", .number ['0']),
    (symbolsOf "tests", .array [.object entry])]

theorem place_single : Place ["name", "status", "error"] fun entry => .object (single entry) :=
  .entry (.object (text?_symbolsOf "tests") [_, _] [] [] [])

theorem varied_single : Relation.ReflTransGen Varied (.object (single [nameMember, statusMember]))
    (.object (single [statusMember, strayMember, nameMember]).reverse) := by
  have swapped := Varied.record place_single (.reorder (.swap statusMember nameMember []))
  have inserted := Varied.record place_single
    (.insert (text?_symbolsOf "id") (by decide) strayMember.2 [statusMember] [nameMember])
  exact ((Relation.ReflTransGen.single swapped).tail inserted).tail
    (.record .report (.reorder (List.reverse_perm _).symm))

theorem doubled_single : Doubled (.object (single [nameMember, statusMember, nameMember])) := by
  have among : [nameMember, nameMember].Sublist [nameMember, statusMember, nameMember] :=
    .cons_cons nameMember (.cons statusMember (.refl _))
  have twice : Repeated ["name", "status", "error"] [nameMember, statusMember, nameMember] :=
    ⟨"name", List.mem_cons_self, _, _, _, _, among, text?_symbolsOf "name", text?_symbolsOf "name"⟩
  have doubled := Doubled.record place_single twice
  exact doubled

variable (rest : List Char)

theorem writes_one : Writes (.value (.number ['1'])) ('1' :: rest) rest :=
  have digital : Digital ['1'] := ⟨List.cons_ne_nil _ _, List.forall_mem_singleton.mpr rfl⟩
  .number (.positive (.positive (by decide) digital) .none .none) (.none _)

theorem writes_zero : Writes (.value (.number ['0'])) ('0' :: rest) rest :=
  .number (.positive .zero .none .none) (.none _)

theorem writes_ping : Writes (.value nameMember.2) ("\"ping\"".toList ++ rest) rest :=
  .string (.none _) (spells_plain "ping".toList rfl rest)

theorem writes_pass : Writes (.value statusMember.2) ("\"PASS\"".toList ++ rest) rest :=
  .string (.none _) (spells_plain "PASS".toList rfl rest)

variable {rest}

/-- The text of the report up to the status of its entry. -/
def singleFront : String :=
  "\x7b\"passed\":1,\"failed\":0,\"tests\":[\x7b\"name\":\"ping\",\"status\":\"PASS\""

theorem writes_single {more : List Member} {text : List Char}
    (further : Writes (.members false more) text [']', '}']) :
    Writes (.value (.object (single (nameMember :: statusMember :: more))))
      (singleFront.toList ++ text) [] :=
  .object (.none _) <|
    .member (.front (.none _)) (.none _) (spells_plain "passed".toList rfl _) (.none _)
      (writes_one _) <|
    .member (.comma (.none _)) (.none _) (spells_plain "failed".toList rfl _) (.none _)
      (writes_zero _) <|
    .member (.comma (.none _)) (.none _) (spells_plain "tests".toList rfl _) (.none _)
      (.array (.none _) <| .item (.front (.none _))
        (.object (.none _) <|
          .member (.front (.none _)) (.none _) (spells_plain "name".toList rfl _) (.none _)
            (writes_ping _) <|
          .member (.comma (.none _)) (.none _) (spells_plain "status".toList rfl _) (.none _)
            (writes_pass _) further) <|
        .endItems (.none _)) <|
    .endMembers (.none _)

theorem holds_single :
    Holds (singleFront ++ "\x7d]\x7d") (.object (single [nameMember, statusMember])) :=
  (writes_single (.endMembers (.none _))).holds String.toList_append

theorem holds_doubled :
    Holds (singleFront ++ ",\"name\":\"ping\"\x7d]\x7d")
      (.object (single [nameMember, statusMember, nameMember])) :=
  (writes_single <|
    .member (.comma (.none _)) (.none _) (spells_plain "name".toList rfl _) (.none _)
      (writes_ping _) <|
    .endMembers (.none _)).holds String.toList_append

/-- The report with its members in another order, a name in other letters, white space and a stray
member. -/
def variedText : String :=
  "\x7b\"tests\" : [\x7b\"status\":\"PASS\",\"id\":[\x7b\x7d],\"n\\u0061me\":\"ping\"\x7d]," ++
    "\"failed\":0,\"passed\":1\x7d"

theorem holds_varied :
    Holds variedText
      (.object (single [statusMember, strayMember, nameMember]).reverse) := by
  have escaped (rest : List Char) : Spells nameMember.1 ("n\\u0061me\"".toList ++ rest) rest :=
    .plain (by decide) (by decide) (by decide) <|
      .code (a := '0') (b := '0') (c := '6') (d := '1') rfl rfl rfl <|
        spells_plain "me".toList rfl rest
  have nested (rest : List Char) :
      Writes (.value strayMember.2) ("[\x7b\x7d]".toList ++ rest) rest :=
    .array (.none _) <| .item (.front (.none _)) (.object (.none _) (.endMembers (.none _))) <|
      .endItems (.none _)
  exact (Writes.object (.none _) <|
    .member (.front (.none _)) (.none _) (spells_plain "tests".toList rfl _)
      (.more rfl (.none _))
      (.array (.more rfl (.none _)) <| .item (.front (.none _))
        (.object (.none _) <|
          .member (.front (.none _)) (.none _) (spells_plain "status".toList rfl _) (.none _)
            (writes_pass _) <|
          .member (.comma (.none _)) (.none _) (spells_plain "id".toList rfl _) (.none _)
            (nested _) <|
          .member (.comma (.none _)) (.none _) (escaped _) (.none _) (writes_ping _) <|
          .endMembers (.none _)) <|
        .endItems (.none _)) <|
    .member (.comma (.none _)) (.none _) (spells_plain "failed".toList rfl _) (.none _)
      (writes_zero _) <|
    .member (.comma (.none _)) (.none _) (spells_plain "passed".toList rfl _) (.none _)
      (writes_one _) <|
    .endMembers (.none _)).holds (String.toList_append.trans rfl)

/-- With its members in another order, a name in other letters, white space and a stray member, a
report stays what it is; with a second name for its entry it is none. -/
theorem ofText_presentation_single :
    ofText (singleFront ++ "\x7d]\x7d") = .ok ⟨1, 0, [⟨"ping", .pass, none⟩]⟩ ∧
      ofText variedText = .ok ⟨1, 0, [⟨"ping", .pass, none⟩]⟩ ∧
      ∃ failure, ofText (singleFront ++ ",\"name\":\"ping\"\x7d]\x7d") = .error failure := by
  have read : ofText _ = .ok ⟨1, 0, [⟨"ping", .pass, none⟩]⟩ :=
    toOption_eq_some_iff.mp ((toOption_ofText holds_single).trans rfl)
  obtain ⟨-, same, refused⟩ := ofText_presentation read
  exact ⟨read, same _ holds_single _ varied_single _ holds_varied,
    refused _ doubled_single _ holds_doubled⟩

end Single

end Report

end DriverCompat
