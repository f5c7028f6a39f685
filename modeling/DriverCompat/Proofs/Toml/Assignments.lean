import DriverCompat.Proofs.Toml.Document
import DriverCompat.Proofs.Toml.Spelling

/-! # Texts of assignments

A text of lines that give values to keys, with blanks, comments and empty lines wherever they are
allowed, is read as what its lines say, in their order.
-/

namespace DriverCompat.Toml

/-- A line break, or the end of the text, with what follows. -/
inductive Breaks : List Char → List Char → Prop
  | stop : Breaks [] []
  | newLine (rest : List Char) : Breaks ('\n' :: rest) rest
  | carriageReturn (rest : List Char) : Breaks ('\r' :: '\n' :: rest) rest

/-- What can stand behind a value up to the end of its line, with what follows. -/
inductive Ends : List Char → List Char → Prop
  | break_ {text rest : List Char} (breaks : Breaks text rest) : Ends text rest
  | blank {c : Char} {text rest : List Char} (blank : isBlank c) (ends : Ends text rest) :
    Ends (c :: text) rest
  | comment {comment text rest : List Char} (plain : ∀ c ∈ comment, isPlain c)
    (breaks : Breaks text rest) : Ends ('#' :: (comment ++ text)) rest

/-- A text of lines each of which gives a value to a key, or nothing. -/
inductive Assigns : List Char → List (String × Value) → Prop
  | nothing {blanks : List Char} (blank : ∀ c ∈ blanks, isBlank c) : Assigns blanks []
  | skip {text rest : List Char} {said : List (String × Value)} (ends : Ends text rest)
    (others : Assigns rest said) : Assigns text said
  | pair {before key between behind spelling text rest : List Char} {name : String} {value : Value}
    {said : List (String × Value)} (blankBefore : ∀ c ∈ before, isBlank c)
    (spellsKey : SpellsKey key name) (blankBetween : ∀ c ∈ between, isBlank c)
    (blankBehind : ∀ c ∈ behind, isBlank c) (spells : Spells spelling value)
    (ends : Ends text rest) (others : Assigns rest said) :
    Assigns (before ++ (key ++ (between ++ '=' :: (behind ++ (spelling ++ text)))))
      ((name, value) :: said)

/-- Assignments of values that can be spelled can be written in any order. -/
theorem exists_assigns {said : List (String × Value)}
    (spelled : ∀ assigned ∈ said, ∃ spelling, Spells spelling assigned.2) :
    ∃ text, text.head? ≠ some byteOrderMark ∧ Assigns text said := by
  induction said with
  | nil => exact ⟨[], nofun, .nothing nofun⟩
  | cons assigned said ih =>
    obtain ⟨name, value⟩ := assigned
    obtain ⟨⟨spelling, spells⟩, others⟩ := List.forall_mem_cons.mp spelled
    obtain ⟨rest, -, behind⟩ := ih others
    obtain ⟨key, spellsKey⟩ := exists_spellsKey name
    have blank : ∀ c ∈ ([] : List Char), isBlank c := nofun
    have assigns := Assigns.pair blank spellsKey blank blank spells (.break_ (.newLine rest)) behind
    refine ⟨_, ?_, assigns⟩
    rintro ⟨⟩

theorem skipBlanks_append {blanks : List Char} (blank : ∀ c ∈ blanks, isBlank c)
    (text : List Char) : skipBlanks (blanks ++ text) = skipBlanks text :=
  List.dropWhile_append_of_pos blank

theorem skipBlanks_of_not_isBlank {c : Char} (solid : isBlank c = false) (text : List Char) :
    skipBlanks (c :: text) = c :: text :=
  List.dropWhile_cons_of_neg (by simp [solid])

theorem Breaks.lineEnd {text rest : List Char} (breaks : Breaks text rest) :
    lineEnd text = .ok ((), rest) := by
  cases breaks with
  | stop => rfl
  | newLine => rfl
  | carriageReturn => rfl

/-- A comment goes as far as its line. -/
theorem Breaks.dropWhile_isPlain {text rest : List Char} (breaks : Breaks text rest)
    {comment : List Char} (plain : ∀ c ∈ comment, isPlain c) :
    (comment ++ text).dropWhile isPlain = text := by
  rw [List.dropWhile_append_of_pos plain]
  cases breaks with
  | stop => rfl
  | newLine => rfl
  | carriageReturn => rfl

theorem Ends.lineEnd {text rest : List Char} (ends : Ends text rest) :
    lineEnd text = .ok ((), rest) := by
  induction ends with
  | break_ breaks => exact breaks.lineEnd
  | @blank c text rest blank ends ih =>
    have same : skipBlanks (c :: text) = skipBlanks text := List.dropWhile_cons_of_pos blank
    unfold Toml.lineEnd at ih ⊢
    rw [same]
    exact ih
  | @comment comment text rest plain breaks =>
    have behind := breaks.dropWhile_isPlain plain
    unfold Toml.lineEnd
    simp only [skipBlanks_of_not_isBlank (c := '#') rfl, behind]
    cases breaks with
    | stop => rfl
    | newLine => rfl
    | carriageReturn => rfl

theorem Ends.ended {α : Type} {text rest : List Char} (ends : Ends text rest) (said : α) :
    ended said text = .ok (said, rest) := by
  rw [Toml.ended, ends.lineEnd]

theorem Ends.endsValue {text rest : List Char} (ends : Ends text rest) : EndsValue text := by
  cases ends with
  | break_ breaks =>
    cases breaks with
    | stop => exact nofun
    | newLine => rintro _ ⟨⟩; rfl
    | carriageReturn => rintro _ ⟨⟩; rfl
  | blank blank =>
    rintro _ ⟨⟩
    simp [Toml.endsValue, blank]
  | comment => rintro _ ⟨⟩; rfl

theorem Ends.length_le {text rest : List Char} (ends : Ends text rest) :
    rest.length ≤ text.length := by
  have broken {text rest : List Char} (breaks : Breaks text rest) : rest.length ≤ text.length := by
    cases breaks with
    | stop => exact Nat.le_refl _
    | newLine => exact Nat.le_succ _
    | carriageReturn => exact Nat.le_add_right _ 2
  induction ends with
  | break_ breaks => exact broken breaks
  | blank blank ends ih => exact Nat.le_succ_of_le ih
  | comment plain breaks =>
    have := broken breaks
    rw [List.length_cons, List.length_append]
    omega

/-- A line that says nothing is blank to the end of the text, or ends behind its blanks. -/
theorem Ends.skipBlanks {text rest : List Char} (ends : Ends text rest) :
    skipBlanks text = [] ∧ rest = [] ∨ skipBlanks text ≠ [] ∧ rest.length < text.length ∧
      line (skipBlanks text) = .ok (none, rest) := by
  induction ends with
  | break_ breaks =>
    have ended := (Ends.break_ breaks).ended (none : Option Line)
    cases breaks with
    | stop => exact .inl ⟨rfl, rfl⟩
    | newLine =>
      rw [skipBlanks_of_not_isBlank rfl]
      exact .inr ⟨List.cons_ne_nil _ _, Nat.lt_succ_self _, ended⟩
    | carriageReturn =>
      rw [skipBlanks_of_not_isBlank rfl]
      exact .inr ⟨List.cons_ne_nil _ _, Nat.lt_succ_of_lt (Nat.lt_succ_self _), ended⟩
  | @blank c text rest blank ends ih =>
    have same : Toml.skipBlanks (c :: text) = Toml.skipBlanks text :=
      List.dropWhile_cons_of_pos blank
    rw [same]
    rcases ih with ⟨empty, rfl⟩ | ⟨nonempty, shorter, read⟩
    · exact .inl ⟨empty, rfl⟩
    · exact .inr ⟨nonempty, Nat.lt_succ_of_lt shorter, read⟩
  | comment plain breaks =>
    have ends := Ends.comment plain breaks
    have length := (Ends.break_ breaks).length_le
    rw [skipBlanks_of_not_isBlank rfl]
    refine .inr ⟨List.cons_ne_nil _ _, ?_, ends.ended none⟩
    rw [List.length_cons, List.length_append]
    omega

/-- The first line of a text that has one, and the lines behind it. -/
theorem lines_eq_of_line {text rest : List Char} {said : Option Line}
    (nonempty : skipBlanks text ≠ []) (read : line (skipBlanks text) = .ok (said, rest))
    (shorter : rest.length < text.length) :
    lines text =
      (said.toList.map (·, (skipBlanks text).length) ++ (lines rest).1, (lines rest).2) := by
  rw [lines]
  split
  · rename_i empty
    exact absurd empty nonempty
  · simp only [read, shorter, dif_pos]

theorem not_isBlank_of_startsKey {c : Char} (starts : startsKey c) : isBlank c = false := by
  rw [Bool.eq_false_iff]
  intro blank
  simp only [isBlank, Bool.or_eq_true, beq_iff_eq] at blank
  rcases blank with rfl | rfl
  · cases starts
  · cases starts

theorem endsKey_of_blanks {between : List Char} (blank : ∀ c ∈ between, isBlank c)
    (rest : List Char) : EndsKey (between ++ '=' :: rest) := by
  cases between with
  | nil => rintro _ ⟨⟩; rfl
  | cons c between =>
    have first := blank c List.mem_cons_self
    rintro _ ⟨⟩
    simp only [isBlank, Bool.or_eq_true, beq_iff_eq] at first
    rcases first with rfl | rfl
    · rfl
    · rfl

theorem dottedKey_of_spells {key : List Char} {name : String} (spells : SpellsKey key name)
    {between : List Char} (blank : ∀ c ∈ between, isBlank c) (rest : List Char) :
    dottedKey (key ++ (between ++ '=' :: rest)) =
      .ok ([(name, (key ++ (between ++ '=' :: rest)).length)], '=' :: rest) := by
  have read := spells.simpleKey (endsKey_of_blanks blank rest)
  have behind : skipBlanks (between ++ '=' :: rest) = '=' :: rest := by
    rw [skipBlanks_append blank, skipBlanks_of_not_isBlank rfl]
  have start : skipBlanks (key ++ (between ++ '=' :: rest)) = key ++ (between ++ '=' :: rest) := by
    obtain ⟨c, more, rfl, starts⟩ := spells.head
    exact skipBlanks_of_not_isBlank (not_isBlank_of_startsKey starts) _
  rw [dottedKey]
  simp only [start, read, behind]
  split
  · rename_i same
    cases same
  · rfl

theorem pair_of_spells {key between behind spelling text : List Char} {name : String}
    {found : Value} (spellsKey : SpellsKey key name) (blankBetween : ∀ c ∈ between, isBlank c)
    (blankBehind : ∀ c ∈ behind, isBlank c) (spells : Spells spelling found) (ends : EndsValue text)
    (depth : Nat) : ∃ keyAt valueAt,
      pair (value depth) (key ++ (between ++ '=' :: (behind ++ (spelling ++ text)))) =
        .ok (([], ⟨name, keyAt, valueAt⟩, found), text) := by
  have start : skipBlanks (behind ++ (spelling ++ text)) = spelling ++ text := by
    rw [skipBlanks_append blankBehind]
    obtain ⟨c, more, rfl, starts⟩ := spells.head
    apply skipBlanks_of_not_isBlank
    rw [Bool.eq_false_iff]
    intro blank
    simp only [isBlank, Bool.or_eq_true, beq_iff_eq] at blank
    rcases blank with rfl | rfl
    · cases starts
    · cases starts
  unfold pair
  rw [dottedKey_of_spells spellsKey blankBetween]
  simp only [start, spells.value ends depth]
  exact ⟨_, _, rfl⟩

/-- A line that starts with a key gives a value. -/
theorem line_of_startsKey {c : Char} (starts : startsKey c) (text : List Char) :
    line (c :: text) = (match pair (value (depthLimit - 1)) (c :: text) with
      | .error stop => .error stop
      | .ok ((path, key, value), rest) => ended (some (.pair path key value)) rest) := by
  have no (other : Char) (noKey : startsKey other = false) : c ≠ other := by
    rintro rfl
    rw [noKey] at starts
    cases starts
  unfold line
  split
  · rename_i same
    exact absurd (List.cons.inj same).1 (no '[' rfl)
  · rename_i same
    exact absurd (List.cons.inj same).1 (no '[' rfl)
  · rename_i same
    exact absurd (List.cons.inj same).1 (no '#' rfl)
  · rename_i same
    exact absurd (List.cons.inj same).1 (no '\n' rfl)
  · rename_i same
    exact absurd (List.cons.inj same).1 (no '\r' rfl)
  · rfl

/-- By induction along the text. -/
theorem Assigns.lines {text : List Char} {said : List (String × Value)}
    (assigns : Assigns text said) : ∃ pairs : List ((Key × Value) × Nat),
      lines text = (pairs.map fun pair => (.pair [] pair.1.1 pair.1.2, pair.2), none) ∧
      pairs.map (fun pair => (pair.1.1.name, pair.1.2)) = said := by
  induction assigns with
  | @nothing blanks blank =>
    refine ⟨[], ?_, rfl⟩
    have empty : skipBlanks blanks = [] := by
      rw [← List.append_nil blanks, skipBlanks_append blank]
      rfl
    rw [Toml.lines]
    simp only [empty]
    rfl
  | skip ends others ih =>
    obtain ⟨pairs, read, said⟩ := ih
    refine ⟨pairs, ?_, said⟩
    rcases ends.skipBlanks with ⟨empty, rfl⟩ | ⟨nonempty, shorter, one⟩
    · rw [← read, Toml.lines, Toml.lines]
      simp only [empty]
      rfl
    · rw [lines_eq_of_line nonempty one shorter, read]
      rfl
  | @pair before key between behind spelling text rest name value said blankBefore spellsKey
      blankBetween blankBehind spells ends others ih =>
    obtain ⟨pairs, read, said⟩ := ih
    obtain ⟨keyAt, valueAt, one⟩ := pair_of_spells spellsKey blankBetween blankBehind spells
      ends.endsValue (depthLimit - 1)
    obtain ⟨c, more, rfl, starts⟩ := spellsKey.head
    have start : skipBlanks (before ++ (c :: more ++
        (between ++ '=' :: (behind ++ (spelling ++ text))))) =
        c :: more ++ (between ++ '=' :: (behind ++ (spelling ++ text))) := by
      rw [skipBlanks_append blankBefore]
      exact skipBlanks_of_not_isBlank (not_isBlank_of_startsKey starts) _
    have first : line (c :: more ++ (between ++ '=' :: (behind ++ (spelling ++ text)))) =
        .ok (some (.pair [] ⟨name, keyAt, valueAt⟩ value), rest) := by
      rw [List.cons_append] at one ⊢
      rw [line_of_startsKey starts, one]
      exact ends.ended _
    rw [← start] at first
    have behindFirst := ends.length_le
    have all := lines_eq_of_line (by rw [start]; exact List.cons_ne_nil _ _) first (by simp; omega)
    rw [start, read] at all
    exact ⟨((⟨name, keyAt, valueAt⟩, value),
      (c :: more ++ (between ++ '=' :: (behind ++ (spelling ++ text)))).length) :: pairs, all,
      by rw [List.map_cons, said]⟩

theorem body_of_head?_ne {text : List Char} (unmarked : text.head? ≠ some byteOrderMark) :
    body text = text :=
  if_neg unmarked

/-- The document of a text of assignments to different keys has them as its entries. -/
theorem Assigns.document {text : List Char} {said : List (String × Value)}
    (assigns : Assigns (body text) said) (distinct : (said.map Prod.fst).Nodup) :
    ∃ entries : Entries, document text = .ok entries ∧
      entries.map (fun entry => (entry.1.name, entry.2)) = said := by
  obtain ⟨pairs, read, rfl⟩ := assigns.lines
  refine ⟨pairs.map Prod.fst, document_eq_ok_iff.mpr ?_, ?_⟩
  · rw [read]
    have fresh : (names (Draft.empty.open_ ++ pairs.map Prod.fst)).Nodup := by
      rw [List.map_map] at distinct
      change (names (pairs.map Prod.fst)).Nodup
      unfold names
      rw [List.map_map]
      exact distinct
    exact ⟨rfl, _, Draft.addAll_pairs pairs fresh, rfl⟩
  · rw [List.map_map]
    rfl

/-- A text of assignments two of which are to one key is no document. -/
theorem Assigns.document_eq_error {text : List Char} {said : List (String × Value)}
    (assigns : Assigns (body text) said) (twice : ¬ (said.map Prod.fst).Nodup) :
    ∃ stop, Toml.document text = .error stop := by
  obtain ⟨pairs, read, rfl⟩ := assigns.lines
  apply document_eq_error_of_twice
  rw [read, Draft.rootNames_pairs]
  rw [List.map_map] at twice
  exact twice

end DriverCompat.Toml
