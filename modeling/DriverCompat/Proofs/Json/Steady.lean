import DriverCompat.Proofs.Json.Containers
import DriverCompat.Proofs.Json.Continuation

/-! # Readers of a text that goes on

A steady reader that has left something of a text reads the same value when more text is put behind.
The readers of scalars are steady, and so are those of arrays and objects whose parts are read by
steady readers, and the one that passes over a value. Arrays and objects end with a character of
their own, so nothing has to be left behind them.
-/

namespace DriverCompat.Json

open Text

variable {α β σ : Type} {text rest : List Char}

/-- What is read stays the same with more text behind, if something of the text was left. -/
def Steady (read : List Char → Except Fault (α × List Char)) : Prop :=
  ∀ {text rest : List Char} {value : α}, read text = .ok (value, rest) → rest ≠ [] →
    ∀ more, read (text ++ more) = .ok (value, rest ++ more)

def Reader.Steady (reader : Reader α) : Prop := Json.Steady reader.read

theorem Reader.Steady.map {reader : Reader α} (steady : reader.Steady) (f : α → β) :
    (reader.map f).Steady := by
  intro text rest value read left more
  simp only [Reader.map] at read ⊢
  split at read
  · simp at read
  · rename_i inner
    cases read
    rw [steady inner left more]

/-! ## Scalars -/

theorem steady_count : Reader.count.Steady := by
  intro text rest value read left more
  change readCount text = _ at read
  change readCount (text ++ more) = _
  unfold readCount at read ⊢
  split at read
  · simp at read
  · rename_i c tail eq
    rw [skipSpace_append_of_cons eq]
    simp only
    split at read
    · rename_i numeric
      rw [if_pos numeric]
      split at read
      · simp at read
      · rename_i number
        split at read
        · simp at read
        · rename_i nonnegative
          cases read
          have further := numeral_append left number more
          rw [List.cons_append] at further
          rw [further]
          exact if_neg nonnegative
      · simp at read
    · simp at read

theorem readString_append {value : String} (read : readString text = .ok (value, rest))
    (more : List Char) : readString (text ++ more) = .ok (value, rest ++ more) := by
  unfold readString at read ⊢
  split at read
  · rename_i eq
    rw [skipSpace_append_of_cons eq]
    exact stringBody_append read more
  · simp at read

theorem steady_string : Reader.string.Steady := fun read _ more => readString_append read more

theorem steady_optionalString : Reader.optionalString.Steady := by
  intro text rest value read _ more
  change readOptionalString text = _ at read
  change readOptionalString (text ++ more) = _
  unfold readOptionalString at read ⊢
  split at read
  · rename_i eq
    rw [skipSpace_append_of_cons eq]
    split at read
    · simp at read
    · rename_i null
      cases read
      simp only [word_append null more]
  · rename_i noNull
    split at read
    · simp at read
    · rename_i inner
      cases read
      have some : skipSpace text ≠ [] :=
        List.ne_nil_of_length_pos (Nat.zero_lt_of_lt (readString_shorter inner))
      obtain ⟨c, tail, eq⟩ := List.exists_cons_of_ne_nil some
      have further := readString_append inner more
      rw [eq, List.cons_append] at further
      rw [skipSpace_append_of_cons eq]
      split
      · rename_i same
        cases same
        exact absurd eq (noNull tail)
      · rw [further]

theorem readUnit_append {value : Unit} (read : readUnit text = .ok (value, rest))
    (more : List Char) : readUnit (text ++ more) = .ok (value, rest ++ more) := by
  unfold readUnit at read ⊢
  split at read
  · rename_i eq
    rw [skipSpace_append_of_cons eq]
    split at read
    · simp at read
    · rename_i null
      cases read
      simp only [word_append null more]
  · simp at read

/-! ## Arrays and objects -/

theorem closeList_append (closed : closeList text = .ok rest) (more : List Char) :
    closeList (text ++ more) = .ok (rest ++ more) := by
  unfold closeList at closed ⊢
  split at closed
  · simp at closed
  · rename_i eq
    cases closed
    rw [skipSpace_append_of_cons eq]
    rfl
  · split at closed <;> simp at closed
  · simp at closed

theorem closeObject_append (closed : closeObject text = .ok rest) (more : List Char) :
    closeObject (text ++ more) = .ok (rest ++ more) := by
  unfold closeObject at closed ⊢
  split at closed
  · simp at closed
  · rename_i eq
    cases closed
    rw [skipSpace_append_of_cons eq]
    rfl
  · simp at closed
  · simp at closed

theorem colon_append (read : colon text = .ok rest) (more : List Char) :
    colon (text ++ more) = .ok (rest ++ more) := by
  unfold colon at read ⊢
  split at read
  · simp at read
  · rename_i eq
    cases read
    rw [skipSpace_append_of_cons eq]
    rfl
  · simp at read

/-- There is no next element at the bracket of an array. The first one stands at the front, and any
other behind a comma. -/
theorem nextElement?_eq_ok_iff {first : Bool} {found : Option (List Char)} :
    nextElement? first text = .ok found ↔
      (∃ tail, skipSpace text = ']' :: tail ∧ found = none) ∨
      (∃ c tail, skipSpace text = c :: tail ∧ c ≠ ']' ∧ first = true ∧ found = some (c :: tail)) ∨
      ∃ between c tail, skipSpace text = ',' :: between ∧ skipSpace between = c :: tail ∧ c ≠ ']' ∧
        first = false ∧ found = some (c :: tail) := by
  constructor
  · intro next
    unfold nextElement? at next
    split at next
    · simp at next
    · rename_i eq
      cases next
      exact .inl ⟨_, eq, rfl⟩
    · rename_i c tail noBracket eq
      split at next
      · rename_i atFirst
        cases next
        exact .inr (.inl ⟨c, tail, eq, fun same => noBracket same, atFirst, rfl⟩)
      · rename_i later
        split at next
        · rename_i comma
          subst comma
          split at next
          · simp at next
          · simp at next
          · rename_i nonempty noBracket
            cases next
            obtain ⟨d, behind, shape⟩ := List.exists_cons_of_ne_nil nonempty
            refine .inr (.inr ⟨tail, d, behind, eq, shape, ?_, by simpa using later, by rw [shape]⟩)
            rintro rfl
            exact noBracket behind shape
        · simp at next
  · unfold nextElement?
    rintro (⟨tail, eq, rfl⟩ | ⟨c, tail, eq, noBracket, rfl, rfl⟩ |
      ⟨between, c, tail, eq, shape, noBracket, rfl, rfl⟩)
    · simp [eq]
    · simp [eq]
    · simp [eq, shape, noBracket]

theorem nextElement?_append {first : Bool} {found : Option (List Char)}
    (next : nextElement? first text = .ok found) (more : List Char) :
    nextElement? first (text ++ more) = .ok (found.map (· ++ more)) := by
  rcases nextElement?_eq_ok_iff.mp next with
    ⟨tail, eq, rfl⟩ | ⟨c, tail, eq, noBracket, atFirst, rfl⟩ |
    ⟨between, c, tail, eq, shape, noBracket, later, rfl⟩
  · exact nextElement?_eq_ok_iff.mpr (.inl ⟨_, skipSpace_append_of_cons eq more, rfl⟩)
  · exact nextElement?_eq_ok_iff.mpr
      (.inr (.inl ⟨_, _, skipSpace_append_of_cons eq more, noBracket, atFirst, rfl⟩))
  · exact nextElement?_eq_ok_iff.mpr (.inr (.inr ⟨_, _, _, skipSpace_append_of_cons eq more,
      skipSpace_append_of_cons shape more, noBracket, later, rfl⟩))

/-- An array ends at its bracket. -/
theorem skipSpace_of_nextElement?_none {first : Bool} (next : nextElement? first text = .ok none) :
    ∃ tail, skipSpace text = ']' :: tail := by
  rcases nextElement?_eq_ok_iff.mp next with ⟨tail, eq, -⟩ | ⟨_, _, -, -, -, same⟩ |
    ⟨_, _, _, -, -, -, -, same⟩
  · exact ⟨tail, eq⟩
  · cases same
  · cases same

theorem nextElement?_of_element?_none {reader : Reader α} {first : Bool}
    (found : element? first reader text = .ok none) : nextElement? first text = .ok none := by
  unfold element? at found
  split at found
  · simp at found
  · assumption
  · split at found <;> simp at found

theorem element?_none_append {reader : Reader α} {first : Bool}
    (found : element? first reader text = .ok none) (more : List Char) :
    element? first reader (text ++ more) = .ok none := by
  have next := nextElement?_append (nextElement?_of_element?_none found) more
  simp only [element?, next, Option.map_none]

theorem Reader.Steady.element? {reader : Reader α} (steady : reader.Steady) {first : Bool}
    {value : α} (found : Json.element? first reader text = .ok (some (value, rest)))
    (left : rest ≠ []) (more : List Char) :
    Json.element? first reader (text ++ more) = .ok (some (value, rest ++ more)) := by
  unfold Json.element? at found
  split at found
  · simp at found
  · simp at found
  · rename_i next
    split at found
    · simp at found
    · rename_i read
      cases found
      exact element?_of_next (nextElement?_append next more) (steady read left more)

theorem element?_ne_nil {reader : Reader α} {first : Bool} {found : Option (α × List Char)}
    (next : Json.element? first reader text = .ok found) : text ≠ [] := by
  rintro rfl
  simp [Json.element?, nextElement?, skipSpace] at next

theorem elements_ne_nil {reader : Reader α} {first : Bool} {values : List α}
    (read : elements reader first text = .ok (values, rest)) : text ≠ [] := by
  rw [elements] at read
  split at read
  · simp at read
  · rename_i none
    exact element?_ne_nil none
  · rename_i found
    exact element?_ne_nil found

/-- The elements of an array are read the same, by induction on the reading of them. -/
theorem Reader.Steady.elements {reader : Reader α} (steady : reader.Steady) {first : Bool}
    {values : List α} (read : Json.elements reader first text = .ok (values, rest))
    (more : List Char) :
    Json.elements reader first (text ++ more) = .ok (values, rest ++ more) := by
  fun_induction Json.elements reader first text generalizing values rest with
  | case1 => simp at read
  | case2 first text none =>
    cases read
    have next := nextElement?_of_element?_none none
    obtain ⟨tail, eq⟩ := skipSpace_of_nextElement?_none next
    rw [elements_end (nextElement?_append next more), skipSpace_append_of_cons eq, eq,
      List.cons_append]
  | case3 => simp_all
  | case4 first text value between found _ values' end_ further ih =>
    cases read
    exact elements_step (steady.element? found (elements_ne_nil further) more) (ih further)

/-- Where the characters of the next key of an object begin: the first key stands at the front, and
any other behind a comma. -/
def Opens (first : Bool) (text tail : List Char) : Prop :=
  first = true ∧ skipSpace text = '"' :: tail ∨
    first = false ∧ ∃ between, skipSpace text = ',' :: between ∧ skipSpace between = '"' :: tail

theorem Opens.append {first : Bool} {tail : List Char} (opens : Opens first text tail)
    (more : List Char) : Opens first (text ++ more) (tail ++ more) := by
  rcases opens with ⟨atFirst, eq⟩ | ⟨later, between, eq, quoted⟩
  · exact .inl ⟨atFirst, skipSpace_append_of_cons eq more⟩
  · exact .inr ⟨later, _, skipSpace_append_of_cons eq more, skipSpace_append_of_cons quoted more⟩

/-- There is no next key at the brace of an object. -/
theorem nextKey?_eq_ok_iff {first : Bool} {found : Option (String × List Char)} :
    nextKey? first text = .ok found ↔
      (∃ tail, skipSpace text = '}' :: tail ∧ found = none) ∨
      ∃ tail key, Opens first text tail ∧ stringBody tail = .ok key ∧ found = some key := by
  constructor
  · intro next
    unfold nextKey? at next
    simp only at next
    split at next
    · simp at next
    · rename_i eq
      cases next
      exact .inl ⟨_, eq, rfl⟩
    · rename_i c tail noBrace eq
      right
      split at next
      · rename_i atFirst
        split at next
        · rename_i quoted
          subst quoted
          split at next
          · simp at next
          · rename_i body
            cases next
            exact ⟨tail, _, .inl ⟨atFirst, eq⟩, body, rfl⟩
        · simp at next
      · rename_i later
        split at next
        · rename_i comma
          subst comma
          split at next
          · simp at next
          · simp at next
          · rename_i quoted
            split at next
            · simp at next
            · rename_i body
              cases next
              exact ⟨_, _, .inr ⟨by simpa using later, tail, eq, quoted⟩, body, rfl⟩
          · simp at next
        · simp at next
  · unfold nextKey?
    rintro (⟨tail, eq, rfl⟩ | ⟨tail, key, ⟨rfl, eq⟩ | ⟨rfl, between, eq, quoted⟩, body, rfl⟩)
    · simp [eq]
    · simp [eq, body]
    · simp [eq, quoted, body]

theorem nextKey?_append {first : Bool} {found : Option (String × List Char)}
    (next : nextKey? first text = .ok found) (more : List Char) :
    nextKey? first (text ++ more) = .ok (found.map fun key => (key.1, key.2 ++ more)) := by
  rcases nextKey?_eq_ok_iff.mp next with ⟨tail, eq, rfl⟩ | ⟨tail, key, opens, body, rfl⟩
  · exact nextKey?_eq_ok_iff.mpr (.inl ⟨_, skipSpace_append_of_cons eq more, rfl⟩)
  · exact nextKey?_eq_ok_iff.mpr
      (.inr ⟨_, _, opens.append more, stringBody_append body more, rfl⟩)

/-- An object ends at its brace. -/
theorem skipSpace_of_nextKey?_none {first : Bool} (next : nextKey? first text = .ok none) :
    ∃ tail, skipSpace text = '}' :: tail := by
  rcases nextKey?_eq_ok_iff.mp next with ⟨tail, eq, -⟩ | ⟨_, _, -, -, same⟩
  · exact ⟨tail, eq⟩
  · cases same

section Members

variable {table : σ → String → Except Cause (Reader σ)} {first : Bool} {state state' : σ}

theorem members_ne_nil (read : members table first state text = .ok (state', rest)) :
    text ≠ [] := by
  rintro rfl
  rw [members] at read
  split at read
  · simp at read
  · rename_i none
    simp [nextKey?, skipSpace] at none
  · rename_i found
    simp [nextKey?, skipSpace] at found

/-- The members of an object are read the same if all their values are. -/
theorem members_append
    (steady : ∀ {state key reader}, table state key = .ok reader → reader.Steady)
    (read : members table first state text = .ok (state', rest)) (more : List Char) :
    members table first state (text ++ more) = .ok (state', rest ++ more) := by
  fun_induction members table first state text with
  | case1 => simp at read
  | case2 first state text none =>
    cases read
    obtain ⟨tail, eq⟩ := skipSpace_of_nextKey?_none none
    rw [members_end (nextKey?_append none more), skipSpace_append_of_cons eq, eq, List.cons_append]
  | case3 => simp at read
  | case4 => simp at read
  | case5 => simp at read
  | case6 first state text key behindKey next reader known valueText behind between rest value
      _ _ _ ih =>
    have further := (steady known) value (members_ne_nil read) more
    rw [members_next (nextKey?_append next more) known (colon_append behind more) further]
    exact ih read

end Members

/-! ## Records and lists -/

theorem readRecord_append {wanted : Wanted}
    {ofMembers ofElements : List Char → Except Fault (α × List Char)}
    (steadyMembers : Steady ofMembers) (steadyElements : Steady ofElements) {value : α}
    (read : readRecord wanted ofMembers ofElements text = .ok (value, rest)) (more : List Char) :
    readRecord wanted ofMembers ofElements (text ++ more) = .ok (value, rest ++ more) := by
  unfold readRecord at read ⊢
  split at read
  · rename_i eq
    rw [skipSpace_append_of_cons eq]
    split at read
    · simp at read
    · rename_i body
      split at read
      · simp at read
      · rename_i closed
        cases read
        have left := List.ne_nil_of_length_pos (Nat.zero_lt_of_lt (closeList_shorter closed))
        simp only [steadyElements body left more, closeList_append closed more]
  · rename_i eq
    rw [skipSpace_append_of_cons eq]
    split at read
    · simp at read
    · rename_i body
      split at read
      · simp at read
      · rename_i closed
        cases read
        have left := List.ne_nil_of_length_pos (Nat.zero_lt_of_lt (closeObject_shorter closed))
        simp only [steadyMembers body left more, closeObject_append closed more]
  · simp at read

theorem Reader.Steady.list {reader : Reader α} (steady : reader.Steady) : reader.list.Steady := by
  intro text rest values read _ more
  change readList reader text = _ at read
  change readList reader (text ++ more) = _
  unfold readList at read ⊢
  split at read
  · rename_i eq
    rw [skipSpace_append_of_cons eq]
    split at read
    · simp at read
    · rename_i body
      split at read
      · simp at read
      · rename_i closed
        cases read
        simp only [steady.elements body more, closeList_append closed more]
  · simp at read

/-! ## Passing over a value -/

/-- The walk at a value, by its first character. -/
theorem skipFrom_beforeValue {inner : List Container} {c : Char} (eq : skipSpace text = c :: rest) :
    skipFrom .beforeValue inner text =
      if c = '[' then skipFrom (.inContainer false) (.list :: inner) rest
      else if c = '{' then skipFrom (.inContainer false) (.object :: inner) rest
      else
        match skipScalar (c :: rest) with
        | .error fault => .error fault
        | .ok behind => skipFrom (.inContainer true) inner behind := by
  rw [skipFrom]
  split
  · rename_i empty
    rw [eq] at empty
    cases empty
  · rename_i shape
    rw [eq] at shape
    cases shape
    split
    · rfl
    · split
      · rfl
      · split <;> simp_all

/-- The walk behind a value in a container or at the front of it, by the next character. -/
theorem skipFrom_inContainer {filled : Bool} {container : Container} {outer : List Container}
    {c : Char} (eq : skipSpace text = c :: rest) :
    skipFrom (.inContainer filled) (container :: outer) text =
      if c = ',' ∧ filled then
        match skipToValue container rest with
        | .error fault => .error fault
        | .ok value => skipFrom .beforeValue (container :: outer) value
      else if c = container.closing then skipFrom (.inContainer true) outer rest
      else if filled then .error (.atNext container.missingComma (c :: rest))
      else
        match skipToValue container (c :: rest) with
        | .error fault => .error fault
        | .ok value => skipFrom .beforeValue (container :: outer) value := by
  rw [skipFrom]
  split
  · rename_i empty
    rw [eq] at empty
    cases empty
  · rename_i shape
    rw [eq] at shape
    cases shape
    split
    · split <;> simp_all
    · split
      · rfl
      · split
        · rfl
        · split <;> simp_all

theorem skipKey_append (read : skipKey text = .ok rest) (more : List Char) :
    skipKey (text ++ more) = .ok (rest ++ more) := by
  unfold skipKey at read ⊢
  split at read
  · simp at read
  · rename_i eq
    rw [skipSpace_append_of_cons eq]
    split at read
    · simp at read
    · rename_i key
      simp only [skipString_append key more, colon_append read more]
  · simp at read

theorem skipToValue_append {container : Container} (read : skipToValue container text = .ok rest)
    (more : List Char) : skipToValue container (text ++ more) = .ok (rest ++ more) := by
  cases container with
  | list => cases read; rfl
  | object => exact skipKey_append read more

/-- The walk over a value goes the same way in a longer text, step by step. -/
theorem skipFrom_append {stand : Stand} {inner : List Container} (left : rest ≠ [])
    (read : skipFrom stand inner text = .ok rest) (more : List Char) :
    skipFrom stand inner (text ++ more) = .ok (rest ++ more) := by
  fun_induction skipFrom stand inner text with
  | case1 => simp at read
  | case2 inner text tail eq _ ih =>
    rw [skipFrom_beforeValue (skipSpace_append_of_cons eq more), if_pos rfl]
    exact ih read
  | case3 inner text tail eq _ noList ih =>
    rw [skipFrom_beforeValue (skipSpace_append_of_cons eq more), if_neg noList, if_pos rfl]
    exact ih read
  | case4 => simp at read
  | case5 inner text c tail eq _ noList noObject between scalar _ ih =>
    have behind := ne_nil_of_length_le left (skipFrom_length read)
    have further := skipScalar_append behind scalar more
    rw [skipFrom_beforeValue (skipSpace_append_of_cons eq more), if_neg noList, if_neg noObject,
      ← List.cons_append, further]
    exact ih read
  | case6 => cases read; rw [skipFrom]
  | case7 => simp at read
  | case8 => simp at read
  | case9 text filled container outer c tail eq _ comma between value _ ih =>
    rw [skipFrom_inContainer (skipSpace_append_of_cons eq more), if_pos comma,
      skipToValue_append value more]
    exact ih read
  | case10 text filled container outer tail eq _ noComma ih =>
    rw [skipFrom_inContainer (skipSpace_append_of_cons eq more), if_neg noComma, if_pos rfl]
    exact ih read
  | case11 => simp at read
  | case12 => simp at read
  | case13 text filled container outer c tail eq _ noComma noEnd unfilled between value _ ih =>
    rw [skipFrom_inContainer (skipSpace_append_of_cons eq more), if_neg noComma, if_neg noEnd,
      if_neg unfilled, ← List.cons_append, skipToValue_append value more]
    exact ih read

theorem steady_skip : Reader.skip.Steady := by
  intro text rest value read left more
  change skipValue text = _ at read
  change skipValue (text ++ more) = _
  unfold skipValue at read ⊢
  split at read
  · simp at read
  · rename_i skipped
    cases read
    rw [skipFrom_append left skipped more]

end DriverCompat.Json
