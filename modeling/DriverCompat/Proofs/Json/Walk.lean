import DriverCompat.Proofs.Json.Numerals
import DriverCompat.Proofs.Json.Steady
import DriverCompat.Proofs.Json.Strings

/-! # Values that are passed over

Nobody reads the value of a member with another name, but its form is checked. The walk over it ends
exactly where the grammar says that a value ends, however deep that goes, and it fails where the
grammar has no value.
-/

namespace DriverCompat.Json

open Text

variable {text between behind rest : List Char} {part : Part}

/-- Whether a value can start with a character. -/
def Written.startsWith : Written → Char → Bool
  | .null, c => c == 'n'
  | .bool value, c => c == if value then 't' else 'f'
  | .number _, c => c == '-' || isDigit c
  | .string _, c => c == '"'
  | .array _, c => c == '['
  | .object _, c => c == '{'

/-- No value starts with a character that separates items or ends them. -/
theorem Written.ne_of_startsWith {value : Written} {c : Char} (starts : value.startsWith c = true) :
    c ≠ ',' ∧ c ≠ ']' := by
  constructor
  all_goals
    rintro rfl
    cases value with
    | bool value => cases value <;> cases starts
    | _ => cases starts

theorem Numeral.head {numeral : List Char} (correct : Numeral numeral) :
    ∃ c tail, numeral = c :: tail ∧ (c = '-' ∨ isDigit c = true) := by
  cases correct with
  | negative => exact ⟨_, _, rfl, .inl rfl⟩
  | positive digits =>
    obtain ⟨nonempty, all⟩ := digits.digital
    obtain ⟨c, tail, rfl⟩ := List.exists_cons_of_ne_nil nonempty
    exact ⟨c, _, rfl, .inr (all c List.mem_cons_self)⟩

theorem Spaced.numeral {numeral : List Char} (spaced : Spaced text (numeral ++ rest))
    (correct : Numeral numeral) : Json.skipSpace text = numeral ++ rest := by
  obtain ⟨c, tail, rfl, starts⟩ := correct.head
  exact spaced.skipSpace (isSpace_of_head starts)

theorem Writes.start {value : Written} (writes : Writes (.value value) text rest) :
    ∃ c tail, skipSpace text = c :: tail ∧ isSpace c = false ∧
      value.startsWith c = true := by
  cases writes with
  | null spaced => exact ⟨_, _, spaced.skipSpace rfl, rfl, rfl⟩
  | yes spaced => exact ⟨_, _, spaced.skipSpace rfl, rfl, rfl⟩
  | no spaced => exact ⟨_, _, spaced.skipSpace rfl, rfl, rfl⟩
  | number correct spaced =>
    obtain ⟨c, tail, rfl, starts⟩ := correct.head
    refine ⟨c, _, spaced.skipSpace (isSpace_of_head starts), isSpace_of_head starts, ?_⟩
    rwa [Written.startsWith, Bool.or_eq_true, beq_iff_eq]
  | string spaced => exact ⟨_, _, spaced.skipSpace rfl, rfl, rfl⟩
  | array spaced => exact ⟨_, _, spaced.skipSpace rfl, rfl, rfl⟩
  | object spaced => exact ⟨_, _, spaced.skipSpace rfl, rfl, rfl⟩

theorem Writes.startsWith {value : Written} (writes : Writes (.value value) text rest) {c : Char}
    {tail : List Char} (eq : skipSpace text = c :: tail) : value.startsWith c = true := by
  obtain ⟨d, behind, eq', -, starts⟩ := writes.start
  rw [eq] at eq'
  cases eq'
  exact starts

/-- White space in front of a value is a part of it. -/
theorem Writes.spaced {value : Written} (spaced : Spaced text between)
    (writes : Writes (.value value) between rest) : Writes (.value value) text rest := by
  cases writes with
  | null inner => exact .null (spaced.trans inner)
  | yes inner => exact .yes (spaced.trans inner)
  | no inner => exact .no (spaced.trans inner)
  | number correct inner => exact .number correct (spaced.trans inner)
  | string inner spells => exact .string (spaced.trans inner) spells
  | array inner held => exact .array (spaced.trans inner) held
  | object inner held => exact .object (spaced.trans inner) held

/-- A value may also be taken up behind the white space in front of it. -/
theorem Writes.behindSpace {value : Written} (writes : Writes (.value value) text rest) :
    Writes (.value value) (Json.skipSpace text) rest := by
  cases writes with
  | null inner => exact .null (inner.skipSpace rfl ▸ .none _)
  | yes inner => exact .yes (inner.skipSpace rfl ▸ .none _)
  | no inner => exact .no (inner.skipSpace rfl ▸ .none _)
  | number correct inner => exact .number correct (inner.numeral correct ▸ .none _)
  | string inner spells => exact .string (inner.skipSpace rfl ▸ .none _) spells
  | array inner held => exact .array (inner.skipSpace rfl ▸ .none _) held
  | object inner held => exact .object (inner.skipSpace rfl ▸ .none _) held

theorem endsNumber_cons {c : Char} (other : isDigit c = false ∧ c ≠ '.' ∧ c ≠ 'e' ∧ c ≠ 'E')
    (rest : List Char) : EndsNumber (c :: rest) := by
  intro d first
  obtain rfl : c = d := Option.some.inj first
  exact other

/-- What is left of an array ends a number. -/
theorem Writes.items_endsNumber {items : List Written}
    (writes : Writes (.items false items) text rest) : EndsNumber text := by
  cases writes with
  | endItems spaced => exact spaced.endsNumber (endsNumber_cons (by decide) _)
  | item separated =>
    cases separated with
    | comma spaced => exact spaced.endsNumber (endsNumber_cons (by decide) _)

/-- What is left of an object ends a number. -/
theorem Writes.members_endsNumber {list : List Member}
    (writes : Writes (.members false list) text rest) : EndsNumber text := by
  cases writes with
  | endMembers spaced => exact spaced.endsNumber (endsNumber_cons (by decide) _)
  | member separated =>
    cases separated with
    | comma spaced => exact spaced.endsNumber (endsNumber_cons (by decide) _)

theorem skipKey_of_spells {name : List Symbol} {key colon inner : List Char}
    (quoted : Spaced text ('"' :: key)) (spells : Spells name key colon)
    (spaced : Spaced colon (':' :: inner)) : skipKey text = .ok inner := by
  simp only [skipKey, quoted.skipSpace rfl, spells.skipString, Json.colon, spaced.skipSpace rfl]

/-- The walk at a value that is a scalar. -/
theorem skipFrom_scalar {inner : List Container} {c : Char} {tail : List Char}
    (eq : skipSpace text = c :: tail) (noList : c ≠ '[') (noObject : c ≠ '{')
    (scalar : skipScalar (c :: tail) = .ok rest) :
    skipFrom .beforeValue inner text = skipFrom (.inContainer true) inner rest := by
  rw [skipFrom_beforeValue eq, if_neg noList, if_neg noObject, scalar]

/-- The walk at a value does not depend on the white space in front of it. -/
theorem skipFrom_beforeValue_congr {inner : List Container} {c : Char} {tail : List Char}
    (eq : skipSpace text = c :: tail) (same : skipSpace between = c :: tail) :
    skipFrom .beforeValue inner text = skipFrom .beforeValue inner between := by
  rw [skipFrom_beforeValue eq, skipFrom_beforeValue same]

/-- The walk in front of the next value of a container. A first one is taken up behind its white
space, and any other one behind its comma. -/
theorem skipFrom_separated {container : Container} {outer : List Container} {first : Bool}
    {start valueText : List Char} {c : Char} {tail : List Char}
    (separated : Separated first text start) (eq : skipSpace start = c :: tail) (noComma : c ≠ ',')
    (noEnd : c ≠ container.closing)
    (value : skipToValue container (if first then c :: tail else start) = .ok valueText) :
    skipFrom (.inContainer !first) (container :: outer) text =
      skipFrom .beforeValue (container :: outer) valueText := by
  cases separated with
  | front spaced =>
    rw [skipFrom_inContainer (spaced.skipSpace_eq.trans eq), if_neg (fun both => noComma both.1),
      if_neg noEnd, if_neg (by decide)]
    rw [if_pos rfl] at value
    rw [value]
  | comma spaced =>
    rw [skipFrom_inContainer (spaced.skipSpace rfl), if_pos ⟨rfl, rfl⟩]
    rw [if_neg (by decide)] at value
    rw [value]

/-- What the walk does with a part: it goes on behind a value, and leaves a container at its end. -/
def Walks : Part → List Char → List Char → Prop
  | .value _, text, rest => EndsNumber rest → ∀ inner,
    skipFrom .beforeValue inner text = skipFrom (.inContainer true) inner rest
  | .items first _, text, rest => ∀ outer,
    skipFrom (.inContainer !first) (.list :: outer) text = skipFrom (.inContainer true) outer rest
  | .members first _, text, rest => ∀ outer,
    skipFrom (.inContainer !first) (.object :: outer) text = skipFrom (.inContainer true) outer rest

/-- By induction on the grammar. -/
theorem Writes.walks (writes : Writes part text rest) : Walks part text rest := by
  induction writes with
  | null spaced =>
    intro _ inner
    exact skipFrom_scalar (spaced.skipSpace rfl) (by decide) (by decide) rfl
  | yes spaced =>
    intro _ inner
    exact skipFrom_scalar (spaced.skipSpace rfl) (by decide) (by decide) rfl
  | no spaced =>
    intro _ inner
    exact skipFrom_scalar (spaced.skipSpace rfl) (by decide) (by decide) rfl
  | number correct spaced =>
    intro ends inner
    obtain ⟨c, tail, rfl, starts⟩ := correct.head
    refine skipFrom_scalar (spaced.skipSpace (isSpace_of_head starts)) ?_ ?_
      (correct.skipScalar ends)
    all_goals
      rintro rfl
      exact absurd starts (by decide)
  | string spaced spells =>
    intro _ inner
    exact skipFrom_scalar (spaced.skipSpace rfl) (by decide) (by decide) spells.skipString
  | array spaced _ held =>
    intro _ inner
    rw [skipFrom_beforeValue (spaced.skipSpace rfl), if_pos rfl]
    exact held inner
  | object spaced _ held =>
    intro _ inner
    rw [skipFrom_beforeValue (spaced.skipSpace rfl), if_neg (by decide), if_pos rfl]
    exact held inner
  | endItems spaced =>
    intro outer
    rw [skipFrom_inContainer (spaced.skipSpace rfl), if_neg (fun both => nomatch both.1)]
    exact if_pos rfl
  | endMembers spaced =>
    intro outer
    rw [skipFrom_inContainer (spaced.skipSpace rfl), if_neg (fun both => nomatch both.1)]
    exact if_pos rfl
  | @item first value items text start behind rest separated written further value_ih further_ih =>
    intro outer
    obtain ⟨c, tail, eq, solid, starts⟩ := written.start
    have again : skipFrom .beforeValue (.list :: outer) (if first then c :: tail else start) =
        skipFrom .beforeValue (.list :: outer) start := by
      cases first
      · rfl
      · exact skipFrom_beforeValue_congr (skipSpace_of_not_isSpace solid tail) eq
    obtain ⟨noComma, noEnd⟩ := Written.ne_of_startsWith starts
    have noEnd : c ≠ Container.list.closing := noEnd
    rw [skipFrom_separated separated eq noComma noEnd rfl, again,
      value_ih further.items_endsNumber]
    exact further_ih outer
  | @member first name value list text start key colon inner behind rest separated quoted spells
      spaced written
      further value_ih further_ih =>
    intro outer
    have eq : Json.skipSpace start = '"' :: key := quoted.skipSpace rfl
    have value : skipToValue .object (if first then '"' :: key else start) = .ok inner := by
      cases first
      · exact skipKey_of_spells quoted spells spaced
      · exact skipKey_of_spells (.none _) spells spaced
    rw [skipFrom_separated separated eq (by decide) (by decide) value,
      value_ih further.members_endsNumber]
    exact further_ih outer

theorem Writes.skipValue {value : Written} (writes : Writes (.value value) text rest)
    (ends : EndsNumber rest) : skipValue text = .ok ((), rest) := by
  have walk := writes.walks ends []
  rw [skipFrom.eq_def (.inContainer true)] at walk
  rw [Json.skipValue, walk]

theorem eq_append_of_word {letters : List Char} (read : word letters text = .ok rest) :
    text = letters ++ rest := by
  induction letters generalizing text with
  | nil => cases read; rfl
  | cons w letters ih =>
    cases text with
    | nil => simp [word] at read
    | cons c text =>
      rw [word] at read
      split at read
      · rename_i same
        rw [same, ih read]
        rfl
      · simp at read

theorem exists_writes_of_skipScalar {c : Char} {tail : List Char} (eq : skipSpace text = c :: tail)
    (read : skipScalar (c :: tail) = .ok rest) : ∃ value, Writes (.value value) text rest := by
  have spaced := spaced_of_skipSpace eq
  have number (starts : (c :: tail).head? = some '-' ∨ startsWithDigit (c :: tail) = true) :
      ∃ value, Writes (.value value) text rest := by
    obtain ⟨numeral, correct, split⟩ := exists_numeral_of_skipScalar starts read
    exact ⟨_, .number correct (split ▸ spaced)⟩
  revert read
  unfold skipScalar
  split
  all_goals
    intro read
    rename_i shape
  · obtain ⟨rfl, rfl⟩ := List.cons.inj shape
    rw [eq_append_of_word read] at spaced
    exact ⟨_, .null spaced⟩
  · obtain ⟨rfl, rfl⟩ := List.cons.inj shape
    rw [eq_append_of_word read] at spaced
    exact ⟨_, .yes spaced⟩
  · obtain ⟨rfl, rfl⟩ := List.cons.inj shape
    rw [eq_append_of_word read] at spaced
    exact ⟨_, .no spaced⟩
  · exact number (.inl (by rw [shape]; rfl))
  · obtain ⟨rfl, rfl⟩ := List.cons.inj shape
    obtain ⟨symbols, spells⟩ := exists_spells_of_skipString read
    exact ⟨_, .string spaced spells⟩
  · split at read
    · rename_i digit
      exact number (.inr digit)
    · simp at read

theorem colon_eq_ok (read : colon text = .ok rest) : Spaced text (':' :: rest) := by
  unfold colon at read
  split at read
  · simp at read
  · rename_i eq
    cases read
    exact spaced_of_skipSpace eq
  · simp at read

theorem exists_spells_of_skipKey (read : skipKey text = .ok rest) :
    ∃ name key colon, Spaced text ('"' :: key) ∧ Spells name key colon ∧
      Spaced colon (':' :: rest) := by
  unfold skipKey at read
  split at read
  · simp at read
  · rename_i eq
    split at read
    · simp at read
    · rename_i string
      obtain ⟨name, spells⟩ := exists_spells_of_skipString string
      exact ⟨name, _, _, spaced_of_skipSpace eq, spells, colon_eq_ok read⟩
  · simp at read

/-- What is left of the open containers, the innermost first. -/
def Closes : Bool → List Container → List Char → List Char → Prop
  | _, [], text, rest => text = rest
  | filled, .list :: outer, text, rest => ∃ items behind,
    Writes (.items (!filled) items) text behind ∧ Closes true outer behind rest
  | filled, .object :: outer, text, rest => ∃ members behind,
    Writes (.members (!filled) members) text behind ∧ Closes true outer behind rest

/-- The end of a container, and then what is left of the ones around it. -/
theorem closes_end {filled : Bool} {container : Container} {outer : List Container}
    (spaced : Spaced text (container.closing :: between))
    (closes : Closes true outer between rest) :
    Closes filled (container :: outer) text rest := by
  cases container with
  | list => exact ⟨[], between, .endItems spaced, closes⟩
  | object => exact ⟨[], between, .endMembers spaced, closes⟩

/-- A further value of a container, and then what is left of it. -/
theorem closes_value {first : Bool} {container : Container} {outer : List Container}
    {start valueText : List Char} {value : Written} (separated : Separated first text start)
    (into : skipToValue container start = .ok valueText)
    (writes : Writes (.value value) valueText between)
    (closes : Closes true (container :: outer) between rest) :
    Closes (!first) (container :: outer) text rest := by
  cases container with
  | list =>
    cases into
    obtain ⟨items, behind, further, outer⟩ := closes
    refine ⟨value :: items, behind, ?_, outer⟩
    rw [Bool.not_not]
    exact .item separated writes further
  | object =>
    obtain ⟨list, behind, further, outer⟩ := closes
    obtain ⟨name, key, colon, quoted, spells, spaced⟩ := exists_spells_of_skipKey into
    refine ⟨(name, value) :: list, behind, ?_, outer⟩
    rw [Bool.not_not]
    exact .member separated quoted spells spaced writes further

/-- What a walk has passed at its end: a value, if it began in front of one, and then what was left
of every container. -/
def Passed : Stand → List Container → List Char → List Char → Prop
  | .beforeValue, inner, text, rest => ∃ value behind, Writes (.value value) text behind ∧
    Closes true inner behind rest
  | .inContainer filled, inner, text, rest => Closes filled inner text rest

/-- By induction on the steps of the walk. -/
theorem passed_of_skipFrom {stand : Stand} {inner : List Container}
    (read : skipFrom stand inner text = .ok rest) : Passed stand inner text rest := by
  fun_induction skipFrom stand inner text with
  | case1 => simp at read
  | case2 inner text tail eq _ ih =>
    obtain ⟨items, behind, held, outer⟩ := ih read
    exact ⟨.array items, behind, .array (spaced_of_skipSpace eq) held, outer⟩
  | case3 inner text tail eq _ _ ih =>
    obtain ⟨list, behind, held, outer⟩ := ih read
    exact ⟨.object list, behind, .object (spaced_of_skipSpace eq) held, outer⟩
  | case4 => simp at read
  | case5 inner text c tail eq _ _ _ between scalar _ ih =>
    obtain ⟨value, writes⟩ := exists_writes_of_skipScalar eq scalar
    exact ⟨value, between, writes, ih read⟩
  | case6 => cases read; rfl
  | case7 => simp at read
  | case8 => simp at read
  | case9 text filled container outer c tail eq _ comma between into _ ih =>
    obtain ⟨value, behind, writes, closes⟩ := ih read
    obtain ⟨rfl, rfl⟩ := comma
    exact closes_value (.comma (spaced_of_skipSpace eq)) into writes closes
  | case10 text filled container outer tail eq _ _ ih =>
    exact closes_end (spaced_of_skipSpace eq) (ih read)
  | case11 => simp at read
  | case12 => simp at read
  | case13 text filled container outer c tail eq _ _ _ empty between into _ ih =>
    obtain ⟨value, behind, writes, closes⟩ := ih read
    obtain rfl : filled = false := by simpa using empty
    exact closes_value (.front (spaced_of_skipSpace eq)) into writes closes

theorem exists_writes_of_skipValue {value : Unit} (read : skipValue text = .ok (value, rest)) :
    ∃ value, Writes (.value value) text rest := by
  unfold skipValue at read
  split at read
  · simp at read
  · rename_i walk
    cases read
    obtain ⟨value, behind, writes, closed⟩ := passed_of_skipFrom walk
    obtain rfl : behind = rest := closed
    exact ⟨value, writes⟩

end DriverCompat.Json
