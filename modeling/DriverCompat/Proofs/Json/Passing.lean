import DriverCompat.Proofs.Json.Lines

/-! # What readers pass

A tidy reader passes no line that begins with an equality sign. The readers of scalars are tidy, and
so are those of arrays and objects whose parts are read by tidy readers, and the one that passes
over a value.
-/

namespace DriverCompat.Json

open Text

variable {α β σ : Type}

/-- The reader passes no line that begins with an equality sign. -/
def Reader.Tidy (reader : Reader α) : Prop :=
  ∀ {text rest : List Char} {value : α}, reader.read text = .ok (value, rest) → Passes text rest

theorem Reader.Tidy.map {reader : Reader α} (tidy : reader.Tidy) (f : α → β) :
    (reader.map f).Tidy := by
  intro text rest value read
  simp only [Reader.map] at read
  split at read
  · simp at read
  · rename_i inner
    cases read
    exact tidy inner

theorem tidy_count : Reader.count.Tidy := by
  intro text rest value read
  change readCount text = _ at read
  unfold readCount at read
  refine (Passes.skipSpace text).trans ?_
  split at read
  · simp at read
  · rename_i eq
    rw [eq]
    split at read
    · split at read
      · simp at read
      · rename_i number
        split at read
        · simp at read
        · cases read
          exact passes_numeral number
      · simp at read
    · simp at read

theorem passes_readString {text rest : List Char} {value : String}
    (read : readString text = .ok (value, rest)) : Passes text rest := by
  unfold readString at read
  refine (Passes.skipSpace text).trans ?_
  split at read
  · rename_i eq
    rw [eq]
    exact (oneLine_stringBody read).quoted
  · simp at read

theorem tidy_string : Reader.string.Tidy := passes_readString

theorem tidy_optionalString : Reader.optionalString.Tidy := by
  intro text rest value read
  change readOptionalString text = _ at read
  unfold readOptionalString at read
  split at read
  · rename_i eq
    split at read
    · simp at read
    · rename_i null
      cases read
      exact .of_skipSpace eq (by decide) (passes_word (by decide) null)
  · split at read
    · simp at read
    · rename_i inner
      cases read
      exact (Passes.skipSpace text).trans (passes_readString inner)

theorem passes_readUnit {text rest : List Char} {value : Unit}
    (read : readUnit text = .ok (value, rest)) : Passes text rest := by
  unfold readUnit at read
  split at read
  · rename_i eq
    split at read
    · simp at read
    · rename_i null
      cases read
      exact .of_skipSpace eq (by decide) (passes_word (by decide) null)
  · simp at read

theorem passes_closeList {text rest : List Char} (closed : closeList text = .ok rest) :
    Passes text rest := by
  unfold closeList at closed
  split at closed
  · simp at closed
  · rename_i eq
    cases closed
    exact .of_skipSpace eq (by decide) (.refl _)
  · split at closed <;> simp at closed
  · simp at closed

theorem passes_closeObject {text rest : List Char} (closed : closeObject text = .ok rest) :
    Passes text rest := by
  unfold closeObject at closed
  split at closed
  · simp at closed
  · rename_i eq
    cases closed
    exact .of_skipSpace eq (by decide) (.refl _)
  · simp at closed
  · simp at closed

theorem passes_nextElement? {first : Bool} {text rest : List Char}
    (found : nextElement? first text = .ok (some rest)) : Passes text rest := by
  unfold nextElement? at found
  split at found
  · simp at found
  · simp at found
  · rename_i c tail _ eq
    split at found
    · cases found
      exact eq ▸ Passes.skipSpace text
    · split at found
      · rename_i comma
        split at found
        · simp at found
        · simp at found
        · cases found
          exact .of_skipSpace eq (comma ▸ by decide) (.skipSpace tail)
      · simp at found

theorem Reader.Tidy.element? {reader : Reader α} (tidy : reader.Tidy) {first : Bool}
    {text rest : List Char} {value : α}
    (found : Json.element? first reader text = .ok (some (value, rest))) : Passes text rest := by
  unfold Json.element? at found
  split at found
  · simp at found
  · simp at found
  · rename_i next
    split at found
    · simp at found
    · rename_i read
      cases found
      exact (passes_nextElement? next).trans (tidy read)

theorem Reader.Tidy.elements {reader : Reader α} (tidy : reader.Tidy) {first : Bool}
    {text rest : List Char} {values : List α}
    (read : Json.elements reader first text = .ok (values, rest)) : Passes text rest := by
  fun_induction Json.elements reader first text generalizing values rest with
  | case1 => simp at read
  | case2 => cases read; exact .skipSpace _
  | case3 => simp_all
  | case4 _ _ value between found _ values' end_ more ih =>
    cases read
    exact (tidy.element? found).trans (ih more)

theorem passes_nextKey? {first : Bool} {text rest : List Char} {key : String}
    (found : nextKey? first text = .ok (some (key, rest))) : Passes text rest := by
  unfold nextKey? at found
  simp only at found
  split at found
  · simp at found
  · simp at found
  · rename_i c tail _ eq
    split at found
    · split at found
      · rename_i opening
        split at found
        · simp at found
        · rename_i inner
          cases found
          refine (Passes.skipSpace text).trans ?_
          rw [eq, opening]
          exact (oneLine_stringBody inner).quoted
      · simp at found
    · split at found
      · rename_i comma
        refine .of_skipSpace eq (comma ▸ by decide) ((Passes.skipSpace tail).trans ?_)
        split at found
        · simp at found
        · simp at found
        · rename_i opening
          split at found
          · simp at found
          · rename_i inner
            cases found
            rw [opening]
            exact (oneLine_stringBody inner).quoted
        · simp at found
      · simp at found

theorem passes_colon {text rest : List Char} (read : colon text = .ok rest) : Passes text rest := by
  unfold colon at read
  split at read
  · simp at read
  · rename_i eq
    cases read
    exact .of_skipSpace eq (by decide) (.refl _)
  · simp at read

/-- Members are passed tidily if all their values are. -/
theorem passes_members {table : σ → String → Except Cause (Reader σ)}
    (tidy : ∀ {state key reader}, table state key = .ok reader → reader.Tidy) {first : Bool}
    {state state' : σ} {text rest : List Char}
    (read : members table first state text = .ok (state', rest)) : Passes text rest := by
  fun_induction members table first state text with
  | case1 => simp at read
  | case2 => cases read; exact .skipSpace _
  | case3 => simp at read
  | case4 => simp at read
  | case5 => simp at read
  | case6 first state text key behindKey next reader known valueText behind between rest value
      _ _ _ ih =>
    exact (passes_nextKey? next).trans ((passes_colon behind).trans
      ((tidy known value).trans (ih read)))

theorem passes_readRecord {wanted : Wanted}
    {ofMembers ofElements : List Char → Except Fault (α × List Char)}
    (membersPass : ∀ {text rest value}, ofMembers text = .ok (value, rest) → Passes text rest)
    (elementsPass : ∀ {text rest value}, ofElements text = .ok (value, rest) → Passes text rest)
    {text rest : List Char} {value : α}
    (read : readRecord wanted ofMembers ofElements text = .ok (value, rest)) :
    Passes text rest := by
  unfold readRecord at read
  split at read
  · rename_i eq
    split at read
    · simp at read
    · rename_i body
      split at read
      · simp at read
      · rename_i closed
        cases read
        exact .of_skipSpace eq (by decide) ((elementsPass body).trans (passes_closeList closed))
  · rename_i eq
    split at read
    · simp at read
    · rename_i body
      split at read
      · simp at read
      · rename_i closed
        cases read
        exact .of_skipSpace eq (by decide) ((membersPass body).trans (passes_closeObject closed))
  · simp at read

theorem Reader.Tidy.list {reader : Reader α} (tidy : reader.Tidy) : reader.list.Tidy := by
  intro text rest values read
  change readList reader text = _ at read
  unfold readList at read
  split at read
  · rename_i eq
    split at read
    · simp at read
    · rename_i body
      split at read
      · simp at read
      · rename_i closed
        cases read
        exact .of_skipSpace eq (by decide) ((tidy.elements body).trans (passes_closeList closed))
  · simp at read

theorem oneLine_skipEscape {text rest : List Char} (read : skipEscape text = .ok rest) :
    OneLine text rest := by
  unfold skipEscape at read
  split at read
  · simp at read
  · rename_i c tail
    split at read
    · rename_i letter
      refine .cons (letter ▸ by decide) ?_
      cases digits : hexEscape tail with
      | error fault => simp [digits, Except.map] at read
      | ok pair =>
        obtain ⟨n, rest'⟩ := pair
        simp only [digits, Except.map, Except.ok.injEq] at read
        subst read
        exact oneLine_hexEscape digits
    · split at read
      · rename_i known
        cases read
        refine .cons ?_ (.refl _)
        rintro rfl
        exact absurd known (by decide)
      · simp at read

theorem oneLine_skipString {text rest : List Char} (read : skipString text = .ok rest) :
    OneLine text rest := by
  fun_induction skipString text with
  | case1 => simp at read
  | case2 => cases read; exact .cons (by decide) (.refl _)
  | case3 => simp at read
  | case4 tail between escape _ ih =>
    exact .cons (by decide) ((oneLine_skipEscape escape).trans (ih read))
  | case5 => simp at read
  | case6 c tail _ _ noControl ih =>
    refine .cons ?_ (ih read)
    rintro rfl
    exact noControl (by decide)

theorem passes_skipExponent {text rest : List Char} (read : skipExponent text = .ok rest) :
    Passes text rest := by
  unfold skipExponent at read
  refine (passes_exponentSign text).trans ?_
  simp only at read
  split at read
  · cases read
    exact .dropWhile (by decide) _
  · simp at read

theorem passes_skipScale {text rest : List Char} (read : skipScale text = .ok rest) :
    Passes text rest := by
  unfold skipScale at read
  split at read
  · exact .cons (by decide) (passes_skipExponent read)
  · exact .cons (by decide) (passes_skipExponent read)
  · cases read; exact .refl _

theorem passes_skipFraction {text rest : List Char} (read : skipFraction text = .ok rest) :
    Passes text rest := by
  unfold skipFraction at read
  split at read
  · split at read
    · exact .cons (by decide) ((Passes.dropWhile (by decide) _).trans (passes_skipScale read))
    · simp at read
  · exact passes_skipScale read

theorem passes_skipDigits {text rest : List Char} (read : skipDigits text = .ok rest) :
    Passes text rest := by
  unfold skipDigits at read
  split at read
  · simp at read
  · split at read
    · rename_i zero
      split at read
      · simp at read
      · exact .cons (zero ▸ by decide) (passes_skipFraction read)
    · split at read
      · rename_i digit
        exact .cons (ne_equals_of_isDigit digit)
          ((Passes.dropWhile (by decide) _).trans (passes_skipFraction read))
      · simp at read

theorem passes_skipScalar {text rest : List Char} (read : skipScalar text = .ok rest) :
    Passes text rest := by
  unfold skipScalar at read
  split at read
  · exact .cons (by decide) (passes_word (by decide) read)
  · exact .cons (by decide) (passes_word (by decide) read)
  · exact .cons (by decide) (passes_word (by decide) read)
  · exact .cons (by decide) (passes_skipDigits read)
  · exact (oneLine_skipString read).quoted
  · split at read
    · exact passes_skipDigits read
    · simp at read

theorem passes_skipKey {text rest : List Char} (read : skipKey text = .ok rest) :
    Passes text rest := by
  unfold skipKey at read
  refine (Passes.skipSpace text).trans ?_
  split at read
  · simp at read
  · rename_i eq
    rw [eq]
    split at read
    · simp at read
    · rename_i key
      exact (oneLine_skipString key).quoted.trans (passes_colon read)
  · simp at read

theorem passes_skipToValue {container : Container} {text rest : List Char}
    (read : skipToValue container text = .ok rest) : Passes text rest := by
  cases container with
  | list => cases read; exact .refl _
  | object => exact passes_skipKey read

theorem passes_skipFrom {stand : Stand} {inner : List Container} {text rest : List Char}
    (read : skipFrom stand inner text = .ok rest) : Passes text rest := by
  fun_induction skipFrom stand inner text with
  | case1 => simp at read
  | case2 inner text tail eq _ ih => exact .of_skipSpace eq (by decide) (ih read)
  | case3 inner text tail eq _ _ ih => exact .of_skipSpace eq (by decide) (ih read)
  | case4 => simp at read
  | case5 inner text c tail eq _ _ _ between scalar _ ih =>
    exact (Passes.skipSpace text).trans (eq ▸ (passes_skipScalar scalar).trans (ih read))
  | case6 => cases read; exact .refl _
  | case7 => simp at read
  | case8 => simp at read
  | case9 text filled container outer c tail eq _ comma between value _ ih =>
    exact .of_skipSpace eq (comma.1 ▸ by decide) ((passes_skipToValue value).trans (ih read))
  | case10 text filled container outer tail eq _ _ ih =>
    refine .of_skipSpace eq ?_ (ih read)
    cases container <;> decide
  | case11 => simp at read
  | case12 => simp at read
  | case13 text filled container outer c tail eq _ _ _ _ between value _ ih =>
    exact (Passes.skipSpace text).trans (eq ▸ (passes_skipToValue value).trans (ih read))

theorem tidy_skip : Reader.skip.Tidy := by
  intro text rest value read
  change skipValue text = _ at read
  unfold skipValue at read
  split at read
  · simp at read
  · rename_i skipped
    cases read
    exact passes_skipFrom skipped

end DriverCompat.Json
