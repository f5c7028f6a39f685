import DriverCompat.Proofs.Json.Scalars
import DriverCompat.Proofs.Text.Digits
import DriverCompat.Toml.Line
import Mathlib.Data.List.Basic

/-! # Spellings of keys, strings and integers

How a text can spell a string, between double quotes with escapes or between single quotes as it
stands, a key, and an integer that is not negative. A reader that finds such a spelling finds what
it spells, whatever stands behind it, as long as that cannot prolong the spelling.
-/

namespace DriverCompat.Toml

open Text

/-! ## Strings -/

/-- The escapes of a letter, and the characters that they stand for. -/
def letterEscapes : List (Char × Char) :=
  [('b', '\x08'), ('f', '\x0c'), ('n', '\n'), ('r', '\r'), ('t', '\t'), ('"', '"'), ('\\', '\\')]

/-- Hexadecimal digits, so many of them, write the code of a character. -/
structure Codes (digits : List Char) (count : Nat) (c : Char) : Prop where
  length : digits.length = count
  code : ∃ values : List Nat, digits.map hexValue? = values.map some ∧ numberOf 16 values = c.toNat

/-- How one character is spelled between double quotes. -/
inductive SpellsChar : List Char → Char → Prop
  | plain {c : Char} (plain : isPlain c) (noQuote : c ≠ '"') (noBackslash : c ≠ '\\') :
    SpellsChar [c] c
  | letter {letter c : Char} (stands : (letter, c) ∈ letterEscapes) : SpellsChar ['\\', letter] c
  | short {digits : List Char} {c : Char} (codes : Codes digits 4 c) :
    SpellsChar ('\\' :: 'u' :: digits) c
  | long {digits : List Char} {c : Char} (codes : Codes digits 8 c) :
    SpellsChar ('\\' :: 'U' :: digits) c

/-- How a text is spelled between double quotes. -/
inductive SpellsBasic : List Char → List Char → Prop
  | nil : SpellsBasic [] []
  | cons {spelling more : List Char} {c : Char} {chars : List Char} (first : SpellsChar spelling c)
    (others : SpellsBasic more chars) : SpellsBasic (spelling ++ more) (c :: chars)

theorem mapM_eq_some_of_map {α β : Type} {f : α → Option β} {items : List α} {values : List β}
    (each : items.map f = values.map some) : items.mapM f = some values := by
  induction items generalizing values with
  | nil =>
    obtain rfl := List.map_eq_nil_iff.mp each.symm
    rfl
  | cons item items ih =>
    cases values with
    | nil => cases each
    | cons value values =>
      obtain ⟨first, others⟩ := List.cons.inj each
      rw [List.mapM_cons, first, ih others]
      rfl

theorem Codes.codedChar?_append {digits : List Char} {count : Nat} {c : Char}
    (codes : Codes digits count c) (rest : List Char) :
    codedChar? count (digits ++ rest) = some (c, count + 1) := by
  obtain ⟨values, each, code⟩ := codes.code
  have long : ¬ values.length < count := by
    have same := congrArg List.length each
    rw [List.length_map, List.length_map, codes.length] at same
    omega
  have valid : c.toNat.isValidChar := c.valid
  have front : (digits ++ rest).take count = digits := List.take_left' codes.length
  unfold codedChar?
  rw [front, mapM_eq_some_of_map each]
  simp [long, code, valid, Char.ofNat_toNat]

/-- The escape behind a backslash stands for a character, whatever follows it. -/
theorem basicBody_escape {spelling : List Char} {c : Char} {rest : List Char}
    (stands : escape? (spelling ++ rest) = some (c, spelling.length)) :
    basicBody ('\\' :: (spelling ++ rest)) = prepend [c] (basicBody rest) := by
  rw [basicBody, stands]
  dsimp only
  rw [List.drop_left]

theorem SpellsChar.basicBody {spelling : List Char} {c : Char} (spells : SpellsChar spelling c)
    (rest : List Char) : basicBody (spelling ++ rest) = prepend [c] (basicBody rest) := by
  cases spells with
  | plain plain noQuote noBackslash =>
    rw [List.singleton_append, Toml.basicBody, if_pos plain]
    · exact noQuote
    · exact noBackslash
  | @letter letter _ stands =>
    have escape : escape? ([letter] ++ rest) = some (c, 1) := by
      simp only [letterEscapes, List.mem_cons, Prod.mk.injEq, List.not_mem_nil, or_false] at stands
      rcases stands with ⟨rfl, rfl⟩ | ⟨rfl, rfl⟩ | ⟨rfl, rfl⟩ | ⟨rfl, rfl⟩ | ⟨rfl, rfl⟩ |
        ⟨rfl, rfl⟩ | ⟨rfl, rfl⟩ <;> rfl
    exact basicBody_escape escape
  | @short digits _ codes =>
    have escape : escape? ('u' :: digits ++ rest) = some (c, ('u' :: digits).length) := by
      rw [List.length_cons, codes.length]
      exact codes.codedChar?_append rest
    exact basicBody_escape escape
  | @long digits _ codes =>
    have escape : escape? ('U' :: digits ++ rest) = some (c, ('U' :: digits).length) := by
      rw [List.length_cons, codes.length]
      exact codes.codedChar?_append rest
    exact basicBody_escape escape

theorem SpellsBasic.basicBody {spelling chars : List Char} (spells : SpellsBasic spelling chars)
    (rest : List Char) : basicBody (spelling ++ '"' :: rest) = .ok (chars, rest) := by
  induction spells with
  | nil => rw [List.nil_append, Toml.basicBody]
  | cons first others ih =>
    rw [List.append_assoc, first.basicBody, ih]
    rfl

theorem codes_control : ∀ n < 128,
    ['0', '0', hexDigit (n / 16), hexDigit (n % 16)].map hexValue? =
      [0, 0, n / 16, n % 16].map some := by
  decide

/-- Every character can be spelled: as it is, by a letter, or by its code. -/
theorem exists_spellsChar (c : Char) : ∃ spelling, SpellsChar spelling c := by
  by_cases quote : c = '"'
  · subst quote
    exact ⟨['\\', '"'], .letter (by simp [letterEscapes])⟩
  by_cases backslash : c = '\\'
  · subst backslash
    exact ⟨['\\', '\\'], .letter (by simp [letterEscapes])⟩
  by_cases plain : isPlain c
  · exact ⟨_, .plain plain quote backslash⟩
  · have small : c.toNat < 128 := by
      simp only [isPlain, Bool.or_eq_true, Bool.and_eq_true, decide_eq_true_eq, bne_iff_ne] at plain
      omega
    have code : numberOf 16 [0, 0, c.toNat / 16, c.toNat % 16] = c.toNat := by
      simp only [numberOf, List.foldl_cons, List.foldl_nil]
      omega
    exact ⟨_, .short ⟨rfl, _, codes_control c.toNat small, code⟩⟩

theorem exists_spellsBasic (chars : List Char) : ∃ spelling, SpellsBasic spelling chars := by
  induction chars with
  | nil => exact ⟨[], .nil⟩
  | cons c chars ih =>
    obtain ⟨first, spells⟩ := exists_spellsChar c
    obtain ⟨others, behind⟩ := ih
    exact ⟨first ++ others, .cons spells behind⟩

/-- A text that single quotes can hold: it is on one line and has none of them. -/
def Literal (chars : List Char) : Prop := ∀ c ∈ chars, isPlain c ∧ c ≠ '\''

theorem Literal.literalBody {chars : List Char} (literal : Literal chars) (rest : List Char) :
    literalBody (chars ++ '\'' :: rest) = .ok (chars, rest) := by
  induction chars with
  | nil => rfl
  | cons c chars ih =>
    obtain ⟨⟨plain, noQuote⟩, others⟩ := List.forall_mem_cons.mp literal
    rw [List.cons_append, Toml.literalBody, if_pos plain, ih others]
    · rfl
    · exact noQuote

/-! ## Characters of one kind at the front of a text -/

theorem takeWhile_append_of_ends {kind : Char → Bool} {front rest : List Char}
    (all : ∀ c ∈ front, kind c) (ends : ∀ c ∈ rest.head?, kind c = false) :
    (front ++ rest).takeWhile kind = front := by
  rw [List.takeWhile_append_of_pos all]
  cases rest with
  | nil => simp
  | cons c rest => rw [List.takeWhile_cons_of_neg (by simp [ends c rfl]), List.append_nil]

theorem dropWhile_append_of_ends {kind : Char → Bool} {front rest : List Char}
    (all : ∀ c ∈ front, kind c) (ends : ∀ c ∈ rest.head?, kind c = false) :
    (front ++ rest).dropWhile kind = rest := by
  rw [List.dropWhile_append_of_pos all]
  cases rest with
  | nil => rfl
  | cons c rest => rw [List.dropWhile_cons_of_neg (by simp [ends c rfl])]

/-! ## Keys -/

/-- How a key is spelled. -/
inductive SpellsKey : List Char → String → Prop
  | bare {name : List Char} (nonempty : name ≠ []) (bare : ∀ c ∈ name, isBareKeyChar c) :
    SpellsKey name (String.ofList name)
  | basic {spelling name : List Char} (spells : SpellsBasic spelling name) :
    SpellsKey ('"' :: (spelling ++ ['"'])) (String.ofList name)
  | literal {name : List Char} (literal : Literal name) :
    SpellsKey ('\'' :: (name ++ ['\''])) (String.ofList name)

/-- The characters with which a key can start. -/
def startsKey (c : Char) : Bool := isBareKeyChar c || c == '"' || c == '\''

theorem SpellsKey.head {spelling : List Char} {name : String} (spells : SpellsKey spelling name) :
    ∃ c more, spelling = c :: more ∧ startsKey c := by
  cases spells with
  | bare nonempty bare =>
    obtain ⟨c, more, rfl⟩ := List.exists_cons_of_ne_nil nonempty
    refine ⟨c, more, rfl, ?_⟩
    simp [startsKey, bare c List.mem_cons_self]
  | basic => exact ⟨'"', _, rfl, rfl⟩
  | literal => exact ⟨'\'', _, rfl, rfl⟩

/-- Nothing behind a key prolongs it. -/
def EndsKey (rest : List Char) : Prop := ∀ c ∈ rest.head?, isBareKeyChar c = false

theorem simpleKey_of_bare {name : List Char} (nonempty : name ≠ [])
    (bare : ∀ c ∈ name, isBareKeyChar c) {rest : List Char} (ends : EndsKey rest) :
    simpleKey (name ++ rest) = .ok (String.ofList name, rest) := by
  have word := takeWhile_append_of_ends bare ends
  have behind := dropWhile_append_of_ends bare ends
  obtain ⟨c, more, rfl⟩ := List.exists_cons_of_ne_nil nonempty
  have first := bare c List.mem_cons_self
  unfold simpleKey
  dsimp only
  split
  · rename_i same
    cases same
    exact absurd first (by decide)
  · rename_i same
    cases same
    exact absurd first (by decide)
  · rw [word, behind]
    rfl

theorem SpellsKey.simpleKey {spelling : List Char} {name : String}
    (spells : SpellsKey spelling name) {rest : List Char} (ends : EndsKey rest) :
    simpleKey (spelling ++ rest) = .ok (name, rest) := by
  cases spells with
  | bare nonempty bare => exact simpleKey_of_bare nonempty bare ends
  | basic spells =>
    rw [List.cons_append, List.append_assoc, List.singleton_append, Toml.simpleKey,
      spells.basicBody]
  | literal literal =>
    rw [List.cons_append, List.append_assoc, List.singleton_append, Toml.simpleKey,
      literal.literalBody]

/-! ## Values -/

/-- How a value is spelled: a text between quotes of either kind, or an integer in decimal
digits. -/
inductive Spells : List Char → Value → Prop
  | basic {spelling chars : List Char} (spells : SpellsBasic spelling chars) :
    Spells ('"' :: (spelling ++ ['"'])) (.string (String.ofList chars))
  | literal {chars : List Char} (literal : Literal chars) :
    Spells ('\'' :: (chars ++ ['\''])) (.string (String.ofList chars))
  | integer {n : Nat} (range : n < 2 ^ 63) : Spells (Nat.toDigits 10 n) (.integer n)

/-- The characters that can stand directly behind a value: those that end its line. -/
def endsValue (c : Char) : Bool := isBlank c || c == '#' || c == '\n' || c == '\r'

/-- Nothing behind a value prolongs it. -/
def EndsValue (rest : List Char) : Prop := ∀ c ∈ rest.head?, endsValue c

theorem SpellsChar.head {spelling : List Char} {c : Char} (spells : SpellsChar spelling c) :
    ∃ first more, spelling = first :: more ∧ first ≠ '"' := by
  cases spells with
  | plain plain noQuote noBackslash => exact ⟨c, [], rfl, noQuote⟩
  | letter => exact ⟨'\\', _, rfl, by decide⟩
  | short => exact ⟨'\\', _, rfl, by decide⟩
  | long => exact ⟨'\\', _, rfl, by decide⟩

theorem EndsValue.head_ne {rest : List Char} (ends : EndsValue rest) {c : Char}
    (other : endsValue c = false) (more : List Char) : rest ≠ c :: more := by
  rintro rfl
  have := ends c rfl
  rw [other] at this
  cases this

theorem stringChars?_basic {text : List Char} (short : ∀ rest, text ≠ '"' :: '"' :: rest) :
    stringChars? ('"' :: text) = some (basicBody text) := by
  unfold stringChars?
  split
  · rename_i same
    cases same
    exact absurd rfl (short _)
  · rename_i same
    cases same
    rfl
  · rename_i same
    cases same
  · rename_i same
    cases same
  · rename_i other _ _
    exact absurd rfl (other _)

theorem stringChars?_literal {text : List Char} (short : ∀ rest, text ≠ '\'' :: '\'' :: rest) :
    stringChars? ('\'' :: text) = some (literalBody text) := by
  unfold stringChars?
  split
  · rename_i same
    cases same
  · rename_i same
    cases same
  · rename_i same
    cases same
    exact absurd rfl (short _)
  · rename_i same
    cases same
    rfl
  · rename_i other
    exact absurd rfl (other _)

theorem scalar_of_string {text chars rest : List Char}
    (read : stringChars? text = some (.ok (chars, rest))) :
    scalar text = .ok (.string (String.ofList chars), rest) := by
  unfold scalar
  rw [read]

theorem SpellsBasic.scalar {spelling chars : List Char} (spells : SpellsBasic spelling chars)
    {rest : List Char} (ends : EndsValue rest) :
    scalar ('"' :: (spelling ++ '"' :: rest)) = .ok (.string (String.ofList chars), rest) := by
  apply scalar_of_string
  rw [stringChars?_basic, spells.basicBody]
  intro more same
  cases spells with
  | nil => exact ends.head_ne rfl more (List.cons.inj same).2
  | cons first others =>
    obtain ⟨c, after, rfl, noQuote⟩ := first.head
    exact noQuote (List.cons.inj same).1

theorem Literal.scalar {chars : List Char} (literal : Literal chars) {rest : List Char}
    (ends : EndsValue rest) :
    scalar ('\'' :: (chars ++ '\'' :: rest)) = .ok (.string (String.ofList chars), rest) := by
  apply scalar_of_string
  rw [stringChars?_literal, literal.literalBody]
  intro more same
  cases chars with
  | nil => exact ends.head_ne rfl more (List.cons.inj same).2
  | cons c chars => exact (literal c List.mem_cons_self).2 (List.cons.inj same).1

/-! ## Integers -/

theorem EndsValue.not_digit {rest : List Char} (ends : EndsValue rest) :
    ∀ c ∈ rest.head?, (isDigit c || c == '_') = false := by
  intro c first
  have end_ := ends c first
  simp only [endsValue, isBlank, Bool.or_eq_true, beq_iff_eq] at end_
  rcases end_ with (((rfl | rfl) | rfl) | rfl) | rfl <;> rfl

/-- A number in front of digits ends among them, or directly behind them. -/
theorem field?_digits {digits rest behind : List Char} (ends : EndsValue rest)
    (digital : ∀ c ∈ digits, isDigit c) {count low high : Nat}
    (read : field? count low high (digits ++ rest) = some behind) :
    ∃ more, behind = more ++ rest ∧ ∀ c ∈ more, isDigit c := by
  obtain ⟨n, front, read⟩ := Option.bind_eq_some_iff.mp read
  split_ifs at read with fits
  obtain rfl := Option.some.inj read
  have all : ∀ c ∈ (digits ++ rest).take count, isDigit c := by
    unfold decimal? at front
    split_ifs at front with digitsOnly
    simp only [Bool.and_eq_true, List.all_eq_true] at digitsOnly
    exact digitsOnly.2
  have within : count ≤ digits.length := by
    by_contra beyond
    cases rest with
    | nil =>
      have length := fits.1
      rw [List.append_nil, List.length_take] at length
      omega
    | cons c rest =>
      have among : c ∈ (digits ++ c :: rest).take count := by
        rw [List.take_append, List.take_of_length_le (by omega)]
        obtain ⟨k, further⟩ := Nat.exists_eq_add_of_lt (Nat.lt_of_not_le beyond)
        have one : count - digits.length = k + 1 := by omega
        rw [one, List.take_succ_cons]
        exact List.mem_append_right _ List.mem_cons_self
      have digit := ends.not_digit c rfl
      rw [all c among] at digit
      cases digit
  rw [List.drop_append_of_le_length within]
  exact ⟨digits.drop count, rfl, fun c member => digital c (List.mem_of_mem_drop member)⟩

theorem expect?_digits {digits rest : List Char} (ends : EndsValue rest)
    (digital : ∀ c ∈ digits, isDigit c) {expected : Char} (noDigit : isDigit expected = false)
    (noEnd : endsValue expected = false) : expect? expected (digits ++ rest) = none := by
  cases digits with
  | nil =>
    cases rest with
    | nil => rfl
    | cons c rest =>
      apply if_neg
      rintro rfl
      exact ends.head_ne noEnd rest rfl
  | cons c digits =>
    have digit := digital c List.mem_cons_self
    apply if_neg
    rintro rfl
    rw [noDigit] at digit
    cases digit

/-- Digits are no date and no time. -/
theorem dateTime?_digits {digits rest : List Char} (ends : EndsValue rest)
    (digital : ∀ c ∈ digits, isDigit c) : dateTime? (digits ++ rest) = none := by
  have date : date? (digits ++ rest) = none := by
    unfold date?
    cases year : field? 4 0 9999 (digits ++ rest) with
    | none => rfl
    | some behind =>
      obtain ⟨more, rfl, digital⟩ := field?_digits ends digital year
      rw [Option.bind_eq_bind, Option.bind_some, expect?_digits ends digital rfl rfl]
      rfl
  have time : time? (digits ++ rest) = none := by
    unfold time?
    cases hour : field? 2 0 23 (digits ++ rest) with
    | none => rfl
    | some behind =>
      obtain ⟨more, rfl, digital⟩ := field?_digits ends digital hour
      rw [Option.bind_eq_bind, Option.bind_some, expect?_digits ends digital rfl rfl]
      rfl
  unfold dateTime?
  rw [date, time]

theorem wellGrouped_digits {digits : List Char} (nonempty : digits ≠ [])
    (digital : ∀ c ∈ digits, isDigit c) : wellGrouped digits := by
  induction digits with
  | nil => exact absurd rfl nonempty
  | cons c digits ih =>
    obtain ⟨first, others⟩ := List.forall_mem_cons.mp digital
    have noGap : c ≠ '_' := by
      rintro rfl
      exact absurd first (by decide)
    cases digits with
    | nil => simp [wellGrouped]
    | cons d digits =>
      have next : d ≠ '_' := by
        rintro rfl
        exact absurd (others '_' List.mem_cons_self) (by decide)
      rw [wellGrouped]
      · exact ih (List.cons_ne_nil _ _) others
      · exact noGap
      · exact next

theorem group_digits {digits rest : List Char} (nonempty : digits ≠ [])
    (digital : ∀ c ∈ digits, isDigit c) (ends : EndsValue rest) :
    group isDigit (digits ++ rest) = .ok (digits, rest) := by
  have taken : ∀ c ∈ digits, (isDigit c || c == '_') = true := by
    intro c member
    rw [digital c member]
    rfl
  have word := takeWhile_append_of_ends taken ends.not_digit
  have behind := dropWhile_append_of_ends taken ends.not_digit
  have noGaps : digits.filter (· != '_') = digits := by
    rw [List.filter_eq_self]
    intro c member
    have digit := digital c member
    rw [bne_iff_ne]
    rintro rfl
    exact absurd digit (by decide)
  unfold group
  dsimp only
  rw [word, behind, noGaps]
  exact if_pos (wellGrouped_digits nonempty digital)

theorem wholeDigits_toDigits (n : Nat) {rest : List Char} (ends : EndsValue rest) :
    wholeDigits (Nat.toDigits 10 n ++ rest) = .ok (Nat.toDigits 10 n, rest) := by
  rcases Nat.eq_zero_or_pos n with rfl | positive
  · rfl
  · have digital (c : Char) (member : c ∈ Nat.toDigits 10 n) : isDigit c :=
      Nat.isDigit_of_mem_toDigits (by decide) (by decide) member
    have nonzero := Json.head?_toDigits_ne_zero positive
    have read := group_digits Nat.toDigits_ne_nil digital ends
    obtain ⟨c, digits, shape, -, -⟩ := Json.exists_toDigits n
    rw [shape] at nonzero read ⊢
    unfold wholeDigits
    split
    · rename_i same
      cases same
      exact absurd rfl nonzero
    · exact read

theorem decimalNumber_toDigits {n : Nat} (range : n < 2 ^ 63) {rest : List Char}
    (ends : EndsValue rest) :
    decimalNumber false (Nat.toDigits 10 n ++ rest) = .ok (.integer n, rest) := by
  have fraction : fractionDigits rest = .ok (none, rest) := by
    unfold fractionDigits
    split
    · exact absurd rfl (ends.head_ne rfl _)
    · rfl
  have power : exponent rest = .ok (none, rest) := by
    cases rest with
    | nil => rfl
    | cons c rest =>
      apply if_neg
      rintro (rfl | rfl)
      · exact ends.head_ne rfl _ rfl
      · exact ends.head_ne rfl _ rfl
  have value : decimalValue (Nat.toDigits 10 n) = n := by
    rw [decimalValue_eq]
    exact Nat.ofDigitChars_ten_toDigits
  unfold decimalNumber
  rw [wholeDigits_toDigits n ends]
  dsimp only
  rw [fraction]
  dsimp only
  rw [power]
  dsimp only
  rw [if_pos ⟨rfl, rfl⟩, value, integerOf]
  simp only [Bool.false_eq_true, if_false]
  exact if_pos (by omega)

theorem number_of_digit {c : Char} {text : List Char} (digit : isDigit c)
    (decimal : c = '0' → EndsValue text) :
    number (c :: text) = decimalNumber false (c :: text) := by
  have base (letter : Char) (other : endsValue letter = false) (rest : List Char) :
      c :: text ≠ '0' :: letter :: rest := by
    intro same
    obtain ⟨zero, shape⟩ := List.cons.inj same
    exact (decimal zero).head_ne other rest shape
  have noSign : signed (c :: text) = (false, c :: text) := by
    unfold signed
    split
    · rename_i same
      cases same
      exact absurd digit (by decide)
    · rename_i same
      cases same
      exact absurd digit (by decide)
    · rfl
  unfold number
  split
  · rename_i same
    exact absurd same (base 'x' rfl _)
  · rename_i same
    exact absurd same (base 'o' rfl _)
  · rename_i same
    exact absurd same (base 'b' rfl _)
  rw [noSign]
  split
  · rename_i same
    cases same
    exact absurd digit (by decide)
  · rename_i same
    cases same
    exact absurd digit (by decide)
  · rename_i same
    cases same
    rfl

theorem number_toDigits {n : Nat} (range : n < 2 ^ 63) {rest : List Char} (ends : EndsValue rest) :
    number (Nat.toDigits 10 n ++ rest) = .ok (.integer n, rest) := by
  have read := decimalNumber_toDigits range ends
  rcases Nat.eq_zero_or_pos n with rfl | positive
  · rw [Nat.toDigits_zero, List.singleton_append] at read ⊢
    rw [number_of_digit (by decide) fun _ => ends]
    exact read
  · have nonzero := Json.head?_toDigits_ne_zero positive
    obtain ⟨c, digits, shape, first, -⟩ := Json.exists_toDigits n
    rw [shape] at nonzero read ⊢
    rw [List.cons_append, number_of_digit first]
    · exact read
    · rintro rfl
      exact absurd rfl nonzero

theorem scalar_toDigits {n : Nat} (range : n < 2 ^ 63) {rest : List Char} (ends : EndsValue rest) :
    scalar (Nat.toDigits 10 n ++ rest) = .ok (.integer n, rest) := by
  have digital (c : Char) (member : c ∈ Nat.toDigits 10 n) : isDigit c :=
    Nat.isDigit_of_mem_toDigits (by decide) (by decide) member
  have noDate := dateTime?_digits ends digital
  have read := number_toDigits range ends
  obtain ⟨c, digits, shape, first, -⟩ := Json.exists_toDigits n
  rw [shape, List.cons_append] at noDate read ⊢
  have no (other : Char) (noDigit : isDigit other = false) : c ≠ other := by
    rintro rfl
    rw [noDigit] at first
    cases first
  have noString : stringChars? (c :: (digits ++ rest)) = none := by
    unfold stringChars?
    split
    · rename_i same
      exact absurd (List.cons.inj same).1 (no '"' rfl)
    · rename_i same
      exact absurd (List.cons.inj same).1 (no '"' rfl)
    · rename_i same
      exact absurd (List.cons.inj same).1 (no '\'' rfl)
    · rename_i same
      exact absurd (List.cons.inj same).1 (no '\'' rfl)
    · rfl
  unfold scalar
  rw [noString]
  dsimp only
  split
  · rename_i same
    exact absurd (List.cons.inj same).1 (no 't' rfl)
  · rename_i same
    exact absurd (List.cons.inj same).1 (no 'f' rfl)
  · rw [noDate]
    exact read

theorem value_of_scalar (depth : Nat) {c : Char} {text : List Char} (noArray : c ≠ '[')
    (noTable : c ≠ '\x7b') : value depth (c :: text) = scalar (c :: text) := by
  cases depth with
  | zero => rfl
  | succ depth =>
    unfold value
    split
    · rename_i same
      exact absurd (List.cons.inj same).1 noArray
    · rename_i same
      exact absurd (List.cons.inj same).1 noTable
    · rfl

/-- The characters with which a spelled value can start. -/
def startsValue (c : Char) : Bool := isDigit c || c == '"' || c == '\''

theorem Spells.head {spelling : List Char} {found : Value} (spells : Spells spelling found) :
    ∃ c more, spelling = c :: more ∧ startsValue c := by
  cases spells with
  | basic => exact ⟨'"', _, rfl, rfl⟩
  | literal => exact ⟨'\'', _, rfl, rfl⟩
  | @integer n range =>
    obtain ⟨c, digits, shape, first, -⟩ := Json.exists_toDigits n
    refine ⟨c, digits, shape, ?_⟩
    simp [startsValue, first]

/-- Every text can be spelled. -/
theorem exists_spells_string (text : String) : ∃ spelling, Spells spelling (.string text) := by
  obtain ⟨spelling, spells⟩ := exists_spellsBasic text.toList
  have spelled := Spells.basic spells
  rw [String.ofList_toList] at spelled
  exact ⟨_, spelled⟩

theorem exists_spellsKey (name : String) : ∃ spelling, SpellsKey ('"' :: spelling) name := by
  obtain ⟨spelling, spells⟩ := exists_spellsBasic name.toList
  have spelled := SpellsKey.basic spells
  rw [String.ofList_toList] at spelled
  exact ⟨_, spelled⟩

theorem Spells.scalar {spelling : List Char} {found : Value} (spells : Spells spelling found)
    {rest : List Char} (ends : EndsValue rest) : scalar (spelling ++ rest) = .ok (found, rest) := by
  cases spells with
  | basic spells =>
    rw [List.cons_append, List.append_assoc, List.singleton_append]
    exact spells.scalar ends
  | literal literal =>
    rw [List.cons_append, List.append_assoc, List.singleton_append]
    exact literal.scalar ends
  | integer range => exact scalar_toDigits range ends

/-- A spelled value is read as what it spells, however deep values may nest there. -/
theorem Spells.value {spelling : List Char} {found : Value} (spells : Spells spelling found)
    {rest : List Char} (ends : EndsValue rest) (depth : Nat) :
    value depth (spelling ++ rest) = .ok (found, rest) := by
  have read := spells.scalar ends
  obtain ⟨c, more, rfl, starts⟩ := spells.head
  rw [List.cons_append] at read ⊢
  rw [value_of_scalar]
  · exact read
  · rintro rfl
    cases starts
  · rintro rfl
    cases starts

end DriverCompat.Toml
