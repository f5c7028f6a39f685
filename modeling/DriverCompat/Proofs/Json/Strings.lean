import DriverCompat.Proofs.Json.Grammar

/-! # Strings by the grammar

A string whose symbols are all characters is read as their text, whatever escapes it is written
with, and one with half of a character is refused. Where a string is passed over, half a character
does no harm. In both ways nothing is accepted that the grammar does not allow.
-/

namespace DriverCompat.Json

open Text

variable {text between behind rest : List Char} {symbols : List Symbol}

theorem hexEscape_eq_ok {n : Nat} (read : hexEscape text = .ok (n, rest)) :
    ∃ a b c d, text = a :: b :: c :: d :: rest ∧ hexNumber? a b c d = some n := by
  unfold hexEscape at read
  split at read
  · split at read
    · rename_i number
      cases read
      exact ⟨_, _, _, _, rfl, number⟩
    · simp at read
  · simp at read

theorem hexEscape_digits {a b c d : Char} {n : Nat} (digits : hexNumber? a b c d = some n)
    (rest : List Char) : hexEscape (a :: b :: c :: d :: rest) = .ok (n, rest) := by
  simp only [hexEscape, digits]

theorem pairMark_eq_ok {mark : Char} (read : pairMark mark text = .ok rest) :
    text = mark :: rest := by
  unfold pairMark at read
  split at read
  · simp at read
  · split at read
    · rename_i same
      cases read
      rw [same]
    · simp at read

/-- The second half of a character is an escape of its own. -/
theorem trailingSurrogate_eq_ok {n : Nat} {c : Char}
    (read : trailingSurrogate n text = .ok (c, rest)) :
    ∃ a' b' c' d' m, text = '\\' :: 'u' :: a' :: b' :: c' :: d' :: rest ∧
      hexNumber? a' b' c' d' = some m ∧ isTrailingSurrogate m = true ∧
      c = Char.ofNat ((n - 0xD800) * 0x400 + (m - 0xDC00) + 0x10000) := by
  unfold trailingSurrogate at read
  split at read
  · simp at read
  · rename_i backslash
    split at read
    · simp at read
    · rename_i letter
      unfold trailingDigits at read
      split at read
      · simp at read
      · rename_i digits
        split at read
        · rename_i trailing
          obtain ⟨rfl, rfl⟩ := Prod.mk.inj (Except.ok.inj read)
          obtain ⟨a', b', c', d', rfl, number⟩ := hexEscape_eq_ok digits
          rw [pairMark_eq_ok backslash, pairMark_eq_ok letter]
          exact ⟨a', b', c', d', _, rfl, number, trailing, rfl⟩
        · simp at read

theorem not_isTrailing_of_isLeading {n : Nat} (leading : isLeadingSurrogate n = true) :
    isTrailingSurrogate n = false := by
  simp only [isLeadingSurrogate, isTrailingSurrogate, Bool.and_eq_true, decide_eq_true_eq,
    Bool.and_eq_false_imp, decide_eq_false_iff_not] at leading ⊢
  omega

/-- The letters that may stand behind a backslash, `u` apart. -/
theorem letterEscape?_isSome_iff (l : Char) :
    (letterEscape? l).isSome ↔ l ∈ ['"', '\\', '/', 'b', 'f', 'n', 'r', 't'] := by
  unfold letterEscape?
  split
  all_goals first
    | decide
    | simp_all

theorem ne_u_of_letterEscape? {l c : Char} (known : letterEscape? l = some c) : l ≠ 'u' := by
  rintro rfl
  cases known

/-- The character that a symbol is, if it is one. -/
def Symbol.char? : Symbol → Option Char
  | .char c => some c
  | .half _ => none

/-- The text of symbols that are all characters. -/
def text? (symbols : List Symbol) : Option String :=
  (symbols.mapM Symbol.char?).map String.ofList

/-- A text as symbols. -/
def symbolsOf (text : String) : List Symbol := text.toList.map .char

theorem mapM_char? (cs : List Char) : (cs.map Symbol.char).mapM Symbol.char? = some cs := by
  induction cs with
  | nil => rfl
  | cons c cs ih => simp [ih, Symbol.char?]

@[simp] theorem text?_symbolsOf (text : String) : text? (symbolsOf text) = some text := by
  rw [text?, symbolsOf, mapM_char?, Option.map_some, String.ofList_toList]

/-- Behind a backslash an escape is read, and then the rest of the string. -/
theorem toOption_characters_backslash (text : List Char) :
    (characters ('\\' :: text)).toOption = (escaped text).toOption.bind fun read =>
      (characters read.2).toOption.map fun further => (read.1 :: further.1, further.2) := by
  cases escape : escaped text with
  | error fault =>
    rw [characters]
    split
    · rfl
    · rename_i found
      rw [escape] at found
      cases found
  | ok read =>
    obtain ⟨c, between⟩ := read
    cases further : characters between with
    | ok more =>
      rw [characters_backslash escape further]
      simp only [Except.toOption, Option.bind_some, further, Option.map_some]
    | error fault =>
      rw [characters]
      split
      · rename_i failed
        rw [escape] at failed
        cases failed
      · rename_i found
        rw [escape] at found
        cases found
        simp only [further, Except.toOption, Option.bind_some, Option.map_none]

theorem toOption_characters_plain {c : Char} (noQuote : c ≠ '"') (noBackslash : c ≠ '\\')
    (noControl : 0x20 ≤ c.toNat) (text : List Char) :
    (characters (c :: text)).toOption =
      (characters text).toOption.map fun further => (c :: further.1, further.2) := by
  rw [characters]
  · rw [if_neg (Nat.not_lt_of_le noControl)]
    split <;> (rename_i further; rw [further]; rfl)
  · exact noQuote
  · exact noBackslash

theorem escaped_letter {l c : Char} (known : letterEscape? l = some c) (text : List Char) :
    escaped (l :: text) = .ok (c, text) := by
  simp only [escaped, ne_u_of_letterEscape? known, if_false, known]

theorem escaped_code {a b c d : Char} {n : Nat} (digits : hexNumber? a b c d = some n)
    (noLeading : isLeadingSurrogate n = false) (noTrailing : isTrailingSurrogate n = false)
    (text : List Char) :
    escaped ('u' :: a :: b :: c :: d :: text) = .ok (Char.ofNat n, text) := by
  simp only [escaped, if_true, numberEscape, hexEscape_digits digits, noTrailing, noLeading,
    Bool.false_eq_true, if_false]

theorem escaped_pair {a b c d a' b' c' d' : Char} {n m : Nat}
    (digits : hexNumber? a b c d = some n) (leading : isLeadingSurrogate n = true)
    (digits' : hexNumber? a' b' c' d' = some m) (trailing : isTrailingSurrogate m = true)
    (text : List Char) :
    escaped ('u' :: a :: b :: c :: d :: '\\' :: 'u' :: a' :: b' :: c' :: d' :: text) =
      .ok (Char.ofNat ((n - 0xD800) * 0x400 + (m - 0xDC00) + 0x10000), text) := by
  simp only [escaped, if_true, numberEscape, hexEscape_digits digits, leading,
    not_isTrailing_of_isLeading leading, Bool.false_eq_true, if_false, trailingSurrogate, pairMark,
    trailingDigits, hexEscape_digits digits', trailing]

/-- Half of a character is no escape. -/
theorem toOption_escaped_half {a b c d : Char} {n : Nat} (digits : hexNumber? a b c d = some n)
    (alone : isTrailingSurrogate n = true ∨ isLeadingSurrogate n = true ∧ ¬ StartsTrailing text) :
    (escaped ('u' :: a :: b :: c :: d :: text)).toOption = none := by
  simp only [escaped, if_true, numberEscape, hexEscape_digits digits]
  rcases alone with trailing | ⟨leading, alone⟩
  · rw [if_pos trailing]
    rfl
  · rw [if_neg (by simp [not_isTrailing_of_isLeading leading]), if_pos leading]
    cases read : trailingSurrogate n text with
    | error => rfl
    | ok found =>
      obtain ⟨a', b', c', d', m, rfl, number, trailing, -⟩ := trailingSurrogate_eq_ok read
      exact absurd ⟨a', b', c', d', m, _, rfl, number, trailing⟩ alone

/-- By induction on the symbols: a string is read if they are all characters. -/
theorem Spells.toOption_characters (spells : Spells symbols text rest) :
    (characters text).toOption = (symbols.mapM Symbol.char?).map (·, rest) := by
  induction spells with
  | close rest =>
    rw [characters_quote]
    rfl
  | @plain c symbols text rest noQuote noBackslash noControl _ ih =>
    rw [toOption_characters_plain noQuote noBackslash noControl, ih]
    cases further : symbols.mapM Symbol.char? <;> simp [Symbol.char?, further]
  | @letter l c symbols text rest known _ ih =>
    rw [toOption_characters_backslash, escaped_letter known, Except.toOption, Option.bind_some, ih]
    cases further : symbols.mapM Symbol.char? <;> simp [Symbol.char?, further]
  | @code a b c d n symbols text rest digits noLeading noTrailing _ ih =>
    rw [toOption_characters_backslash, escaped_code digits noLeading noTrailing, Except.toOption,
      Option.bind_some, ih]
    cases further : symbols.mapM Symbol.char? <;> simp [Symbol.char?, further]
  | @pair a b c d a' b' c' d' n m symbols text rest digits leading digits' trailing _ ih =>
    rw [toOption_characters_backslash, escaped_pair digits leading digits' trailing,
      Except.toOption, Option.bind_some, ih]
    cases further : symbols.mapM Symbol.char? <;> simp [Symbol.char?, further]
  | half digits alone _ ih =>
    rw [toOption_characters_backslash, toOption_escaped_half digits alone]
    simp [Symbol.char?]

theorem Spells.toOption_stringBody (spells : Spells symbols text rest) :
    (stringBody text).toOption = (text? symbols).map (·, rest) := by
  have read := spells.toOption_characters
  rw [text?, stringBody]
  cases found : characters text with
  | error fault =>
    rw [found] at read
    rw [Option.map_eq_none_iff.mp read.symm]
    rfl
  | ok pair =>
    rw [found] at read
    obtain ⟨cs, known, rfl⟩ := Option.map_eq_some_iff.mp read.symm
    rw [known]
    rfl

/-- Whether a character may stand in a string without an escape. -/
def isPlain (c : Char) : Bool := c != '"' && c != '\\' && 0x20 ≤ c.toNat

/-- Characters that need no escape stand for themselves. -/
theorem spells_plain (cs : List Char) (plain : cs.all isPlain = true) (rest : List Char) :
    Spells (cs.map .char) (cs ++ '"' :: rest) rest := by
  induction cs with
  | nil => exact .close rest
  | cons c cs ih =>
    simp only [List.all_cons, isPlain, Bool.and_eq_true, bne_iff_ne, decide_eq_true_eq] at plain
    obtain ⟨⟨⟨noQuote, noBackslash⟩, noControl⟩, others⟩ := plain
    exact .plain noQuote noBackslash noControl (ih others)

theorem spells_of_escaped {c : Char} (read : escaped text = .ok (c, between))
    (further : Spells symbols between rest) : Spells (.char c :: symbols) ('\\' :: text) rest := by
  unfold escaped at read
  split at read
  · simp at read
  · split at read
    · rename_i letter
      subst letter
      unfold numberEscape at read
      split at read
      · simp at read
      · rename_i digits
        obtain ⟨a, b, c, d, rfl, number⟩ := hexEscape_eq_ok digits
        split at read
        · simp at read
        · rename_i noTrailing
          split at read
          · rename_i leading
            obtain ⟨a', b', c', d', m, rfl, number', trailing, same⟩ := trailingSurrogate_eq_ok read
            rw [same]
            exact .pair number leading number' trailing further
          · rename_i noLeading
            cases read
            exact .code number (by simpa using noLeading) (by simpa using noTrailing) further
    · split at read
      · rename_i known
        cases read
        exact .letter known further
      · simp at read

theorem spells_of_characters {cs : List Char} (read : characters text = .ok (cs, rest)) :
    Spells (cs.map .char) text rest := by
  fun_induction characters text generalizing cs rest with
  | case1 => simp at read
  | case2 => cases read; exact .close _
  | case3 => simp at read
  | case4 => simp_all
  | case5 _ c between escape _ cs' end_ further ih =>
    cases read
    exact spells_of_escaped escape (ih further)
  | case6 => simp at read
  | case7 => simp_all
  | case8 c tail noQuote noBackslash noControl cs' end_ further ih =>
    cases read
    exact .plain noQuote noBackslash (Nat.le_of_not_lt noControl) (ih further)

theorem exists_spells_of_stringBody {s : String} (read : stringBody text = .ok (s, rest)) :
    ∃ symbols, Spells symbols text rest := by
  unfold stringBody at read
  split at read
  · simp at read
  · rename_i body
    cases read
    exact ⟨_, spells_of_characters body⟩

theorem skipString_escape (escape : skipEscape text = .ok between) :
    skipString ('\\' :: text) = skipString between := by
  rw [skipString]
  split
  · rename_i failed
    rw [escape] at failed
    cases failed
  · rename_i found
    rw [escape] at found
    cases found
    rfl

theorem skipEscape_digits {a b c d : Char} {n : Nat} (digits : hexNumber? a b c d = some n)
    (text : List Char) : skipEscape ('u' :: a :: b :: c :: d :: text) = .ok text := by
  rw [skipEscape, if_pos rfl, hexEscape_digits digits]
  rfl

theorem Spells.skipString (spells : Spells symbols text rest) : skipString text = .ok rest := by
  induction spells with
  | close => rw [Json.skipString]
  | plain noQuote noBackslash noControl _ ih =>
    rw [Json.skipString]
    · rw [if_neg (Nat.not_lt_of_le noControl), ih]
    · exact noQuote
    · exact noBackslash
  | @letter l c symbols text rest known _ ih =>
    have escape : skipEscape (l :: text) = .ok text := by
      rw [skipEscape, if_neg (ne_u_of_letterEscape? known),
        if_pos ((letterEscape?_isSome_iff l).mp (by rw [known]; rfl))]
    rw [skipString_escape escape, ih]
  | code digits _ _ _ ih => rw [skipString_escape (skipEscape_digits digits _), ih]
  | pair digits _ digits' _ _ ih =>
    rw [skipString_escape (skipEscape_digits digits _),
      skipString_escape (skipEscape_digits digits' _), ih]
  | half digits _ _ ih => rw [skipString_escape (skipEscape_digits digits _), ih]

/-- A first half goes together with the symbol behind it if that is a second half. -/
theorem exists_spells_of_isLeading {a b c d : Char} {n : Nat}
    (digits : hexNumber? a b c d = some n) (leading : isLeadingSurrogate n = true)
    (further : Spells symbols text rest) :
    ∃ whole, Spells whole ('\\' :: 'u' :: a :: b :: c :: d :: text) rest := by
  by_cases starts : StartsTrailing text
  · obtain ⟨a', b', c', d', m, tail, rfl, digits', trailing⟩ := starts
    cases further with
    | plain _ noBackslash => exact absurd rfl noBackslash
    | letter known => exact absurd rfl (ne_u_of_letterEscape? known)
    | code number _ noTrailing =>
      rw [digits'] at number
      cases number
      rw [trailing] at noTrailing
      cases noTrailing
    | pair number leading' =>
      rw [digits'] at number
      cases number
      rw [not_isTrailing_of_isLeading leading'] at trailing
      cases trailing
    | half _ _ further => exact ⟨_, .pair digits leading digits' trailing further⟩
  · exact ⟨_, .half digits (.inr ⟨leading, starts⟩) further⟩

theorem exists_spells_of_skipEscape (read : skipEscape text = .ok between)
    (further : Spells symbols between rest) : ∃ whole, Spells whole ('\\' :: text) rest := by
  unfold skipEscape at read
  split at read
  · simp at read
  · rename_i l tail
    split at read
    · rename_i letter
      subst letter
      cases found : hexEscape tail with
      | error fault => simp [found, Except.map] at read
      | ok pair =>
        obtain ⟨n, after⟩ := pair
        simp only [found, Except.map, Except.ok.injEq] at read
        subst read
        obtain ⟨a, b, c, d, rfl, digits⟩ := hexEscape_eq_ok found
        by_cases trailing : isTrailingSurrogate n
        · exact ⟨_, .half digits (.inl trailing) further⟩
        · by_cases leading : isLeadingSurrogate n
          · exact exists_spells_of_isLeading digits leading further
          · exact ⟨_, .code digits (by simpa using leading) (by simpa using trailing) further⟩
    · split at read
      · rename_i known
        cases read
        obtain ⟨c, escape⟩ := Option.isSome_iff_exists.mp ((letterEscape?_isSome_iff l).mpr known)
        exact ⟨_, .letter escape further⟩
      · simp at read

theorem exists_spells_of_skipString (read : skipString text = .ok rest) :
    ∃ symbols, Spells symbols text rest := by
  fun_induction Json.skipString text with
  | case1 => simp at read
  | case2 => cases read; exact ⟨[], .close _⟩
  | case3 => simp at read
  | case4 tail between escape _ ih =>
    obtain ⟨symbols, further⟩ := ih read
    exact exists_spells_of_skipEscape escape further
  | case5 => simp at read
  | case6 c tail noQuote noBackslash noControl ih =>
    obtain ⟨symbols, further⟩ := ih read
    exact ⟨_, .plain noQuote noBackslash (Nat.le_of_not_lt noControl) further⟩

end DriverCompat.Json
