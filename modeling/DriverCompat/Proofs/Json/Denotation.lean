import DriverCompat.Proofs.Json.Walk

/-! # What readers make of written values

A reader denotes a partial function on written values: it reads a value as what that denotes, takes
exactly the value, and fails if the value denotes nothing. So neither white space nor escapes matter
to it. What it reads is always a written value.
-/

namespace DriverCompat.Json

open Text

variable {α β σ : Type} {text rest : List Char}

/-- A reader makes of written values what they denote, and reads nothing else. -/
structure Reader.Means (reader : Reader α) (denoted : Written → Option α) : Prop where
  reads : ∀ {value : Written} {text rest : List Char}, Writes (.value value) text rest →
    EndsNumber rest → (reader.read text).toOption = (denoted value).map (·, rest)
  written : ∀ {text rest : List Char} {found : α}, reader.read text = .ok (found, rest) →
    ∃ value, Writes (.value value) text rest

theorem toOption_eq_some_iff {ε : Type} {result : Except ε α} {value : α} :
    result.toOption = some value ↔ result = .ok value := by
  cases result <;> simp [Except.toOption]

theorem toOption_eq_none_iff {ε : Type} {result : Except ε α} :
    result.toOption = none ↔ ∃ fault, result = .error fault := by
  cases result <;> simp [Except.toOption]

/-- Either the value denotes something, which is read, or it denotes nothing and is refused. -/
theorem Reader.Means.cases {reader : Reader α} {denoted : Written → Option α}
    (means : reader.Means denoted) {value : Written} (writes : Writes (.value value) text rest)
    (ends : EndsNumber rest) :
    (∃ fault, reader.read text = .error fault ∧ denoted value = none) ∨
      ∃ found, reader.read text = .ok (found, rest) ∧ denoted value = some found := by
  have read := means.reads writes ends
  cases known : denoted value with
  | none =>
    rw [known] at read
    obtain ⟨fault, failed⟩ := toOption_eq_none_iff.mp read
    exact .inl ⟨fault, failed, rfl⟩
  | some found =>
    rw [known] at read
    exact .inr ⟨found, toOption_eq_some_iff.mp read, rfl⟩

theorem Reader.Means.map {reader : Reader α} {denoted : Written → Option α}
    (means : reader.Means denoted) (f : α → β) :
    (reader.map f).Means fun value => (denoted value).map f where
  reads writes ends := by
    rcases means.cases writes ends with ⟨fault, failed, nothing⟩ | ⟨found, read, known⟩
    · simp only [Reader.map, failed, nothing, Except.toOption, Option.map_none]
    · simp only [Reader.map, read, known, Except.toOption, Option.map_some]
  written {text rest found} read := by
    simp only [Reader.map] at read
    split at read
    · simp at read
    · rename_i inner
      cases read
      exact means.written inner

section Front

variable {value : Written} {tail : List Char} (writes : Writes (.value value) text rest)
include writes

theorem Writes.eq_null (eq : Json.skipSpace text = 'n' :: tail) :
    value = .null ∧ tail = 'u' :: 'l' :: 'l' :: rest := by
  have starts := writes.startsWith eq
  cases writes with
  | null spaced =>
    rw [spaced.skipSpace rfl] at eq
    cases eq
    exact ⟨rfl, rfl⟩
  | _ => cases starts

theorem Writes.eq_string (eq : Json.skipSpace text = '"' :: tail) :
    ∃ symbols, value = .string symbols ∧ Spells symbols tail rest := by
  have starts := writes.startsWith eq
  cases writes with
  | string spaced spells =>
    rw [spaced.skipSpace rfl] at eq
    cases eq
    exact ⟨_, rfl, spells⟩
  | _ => cases starts

theorem Writes.eq_array (eq : Json.skipSpace text = '[' :: tail) :
    ∃ items, value = .array items ∧ Writes (.items true items) tail rest := by
  have starts := writes.startsWith eq
  cases writes with
  | array spaced held =>
    rw [spaced.skipSpace rfl] at eq
    cases eq
    exact ⟨_, rfl, held⟩
  | _ => cases starts

theorem Writes.eq_object (eq : Json.skipSpace text = '{' :: tail) :
    ∃ members, value = .object members ∧ Writes (.members true members) tail rest := by
  have starts := writes.startsWith eq
  cases writes with
  | object spaced held =>
    rw [spaced.skipSpace rfl] at eq
    cases eq
    exact ⟨_, rfl, held⟩
  | _ => cases starts

theorem Writes.eq_number {c : Char} (eq : Json.skipSpace text = c :: tail)
    (digit : isDigit c = true) :
    ∃ numeral, value = .number numeral ∧ Numeral numeral ∧ c :: tail = numeral ++ rest := by
  have starts := writes.startsWith eq
  cases writes with
  | number correct spaced => exact ⟨_, rfl, correct, eq.symm.trans (spaced.numeral correct)⟩
  | _ =>
    rw [beq_iff_eq.mp starts] at digit
    cases digit

end Front

namespace Written

/-- The text that a string is. -/
def text? : Written → Option String
  | .string symbols => Json.text? symbols
  | _ => none

/-- A text, or none for null. -/
def optionalText? : Written → Option (Option String)
  | .null => some none
  | value => value.text?.map some

/-- Nothing but null. -/
def unit? : Written → Option Unit
  | .null => some ()
  | _ => none

/-- A number that is written by digits only and fits into 64 bits. -/
def count? : Written → Option UInt64
  | .number numeral =>
    if numeral.all isDigit ∧ Nat.ofDigitChars 10 numeral 0 < 2 ^ 64 then
      some (UInt64.ofNat (Nat.ofDigitChars 10 numeral 0))
    else none
  | _ => none

end Written

theorem means_string : Reader.string.Means Written.text? where
  reads {value text rest} writes _ := by
    change (readString text).toOption = _
    unfold readString
    split
    · rename_i eq
      obtain ⟨symbols, rfl, spells⟩ := writes.eq_string eq
      exact spells.toOption_stringBody
    · rename_i other
      cases writes with
      | string spaced => exact absurd (spaced.skipSpace rfl) (other _)
      | _ => rfl
  written {text rest found} read := by
    change readString text = _ at read
    unfold readString at read
    split at read
    · rename_i eq
      obtain ⟨symbols, spells⟩ := exists_spells_of_stringBody read
      exact ⟨_, .string (spaced_of_skipSpace eq) spells⟩
    · simp at read

theorem means_optionalString : Reader.optionalString.Means Written.optionalText? where
  reads {value text rest} writes ends := by
    change (readOptionalString text).toOption = _
    unfold readOptionalString
    split
    · rename_i eq
      obtain ⟨rfl, rfl⟩ := writes.eq_null eq
      rfl
    · rename_i other
      have denoted : value.optionalText? = value.text?.map some := by
        cases writes with
        | null spaced => exact absurd (spaced.skipSpace rfl) (other _)
        | _ => rfl
      rcases means_string.cases writes.behindSpace ends with
        ⟨fault, failed, nothing⟩ | ⟨found, read, known⟩
      · change readString _ = _ at failed
        simp only [failed, denoted, nothing, Except.toOption, Option.map_none]
      · change readString _ = _ at read
        simp only [read, denoted, known, Except.toOption, Option.map_some]
  written {text rest found} read := by
    change readOptionalString text = _ at read
    unfold readOptionalString at read
    split at read
    · rename_i eq
      split at read
      · simp at read
      · rename_i null
        cases read
        rw [eq_append_of_word null] at eq
        exact ⟨_, .null (spaced_of_skipSpace eq)⟩
    · split at read
      · simp at read
      · rename_i string
        cases read
        obtain ⟨value, writes⟩ := means_string.written string
        exact ⟨value, writes.spaced (spaced_skipSpace text)⟩

theorem means_unit : Reader.unit.Means Written.unit? where
  reads {value text rest} writes _ := by
    change (readUnit text).toOption = _
    unfold readUnit
    split
    · rename_i eq
      obtain ⟨rfl, rfl⟩ := writes.eq_null eq
      rfl
    · rename_i other
      cases writes with
      | null spaced => exact absurd (spaced.skipSpace rfl) (other _)
      | _ => rfl
  written {text rest found} read := by
    change readUnit text = _ at read
    unfold readUnit at read
    split at read
    · rename_i eq
      split at read
      · simp at read
      · rename_i null
        cases read
        rw [eq_append_of_word null] at eq
        exact ⟨_, .null (spaced_of_skipSpace eq)⟩
    · simp at read

theorem means_count : Reader.count.Means Written.count? where
  reads {value text rest} writes ends := by
    change (readCount text).toOption = _
    cases read : readCount text with
    | ok found =>
      obtain ⟨n, behind⟩ := found
      obtain ⟨whole, digits, eq, ends', range, rfl⟩ := exists_whole_of_readCount read
      obtain ⟨c, tail, shape⟩ := List.exists_cons_of_ne_nil digits.digital.1
      have first : isDigit c = true := digits.digital.2 c (by rw [shape]; exact List.mem_cons_self)
      have front : skipSpace text = c :: (tail ++ behind) := by rw [eq, shape, List.cons_append]
      obtain ⟨numeral, rfl, correct, split⟩ := writes.eq_number front first
      rw [← front, eq] at split
      obtain ⟨rfl, rfl⟩ := digits.numeral.unique correct split ends' ends
      rw [Written.count?, if_pos ⟨List.all_eq_true.mpr digits.digital.2, range⟩]
      rfl
    | error fault =>
      have nothing : value.count? = none := by
        cases writes with
        | @number numeral _ _ correct spaced =>
          refine if_neg fun ⟨all, range⟩ => ?_
          have whole := correct.whole (List.all_eq_true.mp all)
          rw [whole.readCount (spaced.numeral correct) range ends] at read
          cases read
        | _ => rfl
      rw [nothing]
      rfl
  written {text rest found} read := by
    obtain ⟨whole, digits, eq, -⟩ := exists_whole_of_readCount read
    exact ⟨_, .number digits.numeral (spaced_of_skipSpace eq)⟩

/-- Every written value is passed over. -/
theorem means_skip : Reader.skip.Means fun _ => some () where
  reads writes ends := toOption_eq_some_iff.mpr (writes.skipValue ends)
  written read := exists_writes_of_skipValue read

section Whole

variable {reader : Reader α} {denoted : Written → Option α} {document : String}

/-- A text is read as what the value in it denotes. -/
theorem Reader.Means.toOption_readWhole (means : reader.Means denoted) {value : Written}
    (holds : Holds document value) : (readWhole reader document).toOption = denoted value := by
  obtain ⟨rest, writes, ended⟩ := holds
  have ends : EndsNumber rest := ended.endsNumber fun _ first => nomatch first
  rcases means.cases writes ends with ⟨fault, failed, nothing⟩ | ⟨found, read, known⟩
  · simp only [readWhole, failed, nothing, Except.toOption]
  · have empty : skipSpace rest = [] := ended.skipSpace_eq
    simp only [readWhole, read, empty, known, Except.toOption]

theorem Reader.Means.exists_holds (means : reader.Means denoted) {found : α}
    (read : readWhole reader document = .ok found) : ∃ value, Holds document value := by
  simp only [readWhole] at read
  split at read
  · simp at read
  · rename_i inner
    split at read
    · rename_i empty
      obtain ⟨value, writes⟩ := means.written inner
      exact ⟨value, _, writes, spaced_of_skipSpace empty⟩
    · simp at read

end Whole

end DriverCompat.Json
