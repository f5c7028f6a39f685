import DriverCompat.Proofs.Json.Continuation

/-! # The grammar of JSON texts

What a text writes, whatever white space stands between its tokens and however the characters of its
strings are escaped. A written value keeps all that the grammar leaves open: the members of an
object in their order and with repeated names, numbers by their digits, and halves of characters in
strings that nobody reads. Every relation is between a text and the rest that follows in it.
-/

namespace DriverCompat.Json

open Text

variable {text between behind rest : List Char}

/-- White space, and then the rest. -/
inductive Spaced : List Char → List Char → Prop
  | none (rest : List Char) : Spaced rest rest
  | more {c : Char} {text rest : List Char} (space : isSpace c = true)
      (further : Spaced text rest) :
    Spaced (c :: text) rest

theorem spaced_skipSpace (text : List Char) : Spaced text (skipSpace text) := by
  induction text with
  | nil => exact .none []
  | cons c text ih =>
    cases space : isSpace c with
    | true =>
      rw [skipSpace, List.dropWhile_cons_of_pos space]
      exact .more space ih
    | false =>
      rw [skipSpace_of_not_isSpace space]
      exact .none _

theorem spaced_of_skipSpace (eq : skipSpace text = rest) : Spaced text rest :=
  eq ▸ spaced_skipSpace text

theorem Spaced.skipSpace_eq (spaced : Spaced text rest) : skipSpace text = skipSpace rest := by
  induction spaced with
  | none => rfl
  | more space _ ih => exact (List.dropWhile_cons_of_pos space).trans ih

theorem Spaced.skipSpace {c : Char} (spaced : Spaced text (c :: rest)) (solid : isSpace c = false) :
    skipSpace text = c :: rest :=
  spaced.skipSpace_eq.trans (skipSpace_of_not_isSpace solid rest)

theorem Spaced.trans (first : Spaced text between) (second : Spaced between rest) :
    Spaced text rest := by
  induction first with
  | none => exact second
  | more space _ ih => exact .more space (ih second)

/-- White space ends a number, and so it does no harm in front of what ends one. -/
theorem Spaced.endsNumber (spaced : Spaced text rest) (ends : EndsNumber rest) :
    EndsNumber text := by
  cases spaced with
  | none => exact ends
  | @more c _ _ space _ =>
    intro d first
    obtain rfl : c = d := Option.some.inj first
    simp only [isSpace, Bool.or_eq_true, beq_iff_eq] at space
    rcases space with ((rfl | rfl) | rfl) | rfl <;> decide

/-- What a string consists of: characters, and halves of characters without the other half. -/
inductive Symbol where
  | char (c : Char)
  | half (n : Nat)
deriving DecidableEq, Repr

/-- A text that goes on with an escaped second half of a character. -/
def StartsTrailing (text : List Char) : Prop :=
  ∃ a b c d n rest, text = '\\' :: 'u' :: a :: b :: c :: d :: rest ∧
    hexNumber? a b c d = some n ∧ isTrailingSurrogate n = true

/-- Symbols and a closing quote, each symbol in any of the ways in which it can be written. A half
that stands in front of its other half makes a character with it. -/
inductive Spells : List Symbol → List Char → List Char → Prop
  | close (rest : List Char) : Spells [] ('"' :: rest) rest
  | plain {c : Char} {symbols : List Symbol} {text rest : List Char} (noQuote : c ≠ '"')
    (noBackslash : c ≠ '\\') (noControl : 0x20 ≤ c.toNat) (further : Spells symbols text rest) :
    Spells (.char c :: symbols) (c :: text) rest
  | letter {l c : Char} {symbols : List Symbol} {text rest : List Char}
    (known : letterEscape? l = some c) (further : Spells symbols text rest) :
    Spells (.char c :: symbols) ('\\' :: l :: text) rest
  | code {a b c d : Char} {n : Nat} {symbols : List Symbol} {text rest : List Char}
    (digits : hexNumber? a b c d = some n) (noLeading : isLeadingSurrogate n = false)
    (noTrailing : isTrailingSurrogate n = false) (further : Spells symbols text rest) :
    Spells (.char (Char.ofNat n) :: symbols) ('\\' :: 'u' :: a :: b :: c :: d :: text) rest
  | pair {a b c d a' b' c' d' : Char} {n m : Nat} {symbols : List Symbol} {text rest : List Char}
    (digits : hexNumber? a b c d = some n) (leading : isLeadingSurrogate n = true)
    (digits' : hexNumber? a' b' c' d' = some m) (trailing : isTrailingSurrogate m = true)
    (further : Spells symbols text rest) :
    Spells (.char (Char.ofNat ((n - 0xD800) * 0x400 + (m - 0xDC00) + 0x10000)) :: symbols)
      ('\\' :: 'u' :: a :: b :: c :: d :: '\\' :: 'u' :: a' :: b' :: c' :: d' :: text) rest
  | half {a b c d : Char} {n : Nat} {symbols : List Symbol} {text rest : List Char}
    (digits : hexNumber? a b c d = some n)
    (alone : isTrailingSurrogate n = true ∨ isLeadingSurrogate n = true ∧ ¬ StartsTrailing text)
    (further : Spells symbols text rest) :
    Spells (.half n :: symbols) ('\\' :: 'u' :: a :: b :: c :: d :: text) rest

/-- One digit or more. -/
def Digital (digits : List Char) : Prop := digits ≠ [] ∧ ∀ c ∈ digits, isDigit c = true

/-- The digits in front of the point: a zero stands alone. -/
inductive Whole : List Char → Prop
  | zero : Whole ['0']
  | positive {c : Char} {digits : List Char} (nonzero : c ≠ '0') (digital : Digital (c :: digits)) :
    Whole (c :: digits)

inductive Fraction : List Char → Prop
  | none : Fraction []
  | some {digits : List Char} (digital : Digital digits) : Fraction ('.' :: digits)

inductive Exponent : List Char → Prop
  | none : Exponent []
  | plain {letter : Char} {digits : List Char} (known : letter = 'e' ∨ letter = 'E')
    (digital : Digital digits) : Exponent (letter :: digits)
  | signed {letter sign : Char} {digits : List Char} (known : letter = 'e' ∨ letter = 'E')
    (plusOrMinus : sign = '+' ∨ sign = '-') (digital : Digital digits) :
    Exponent (letter :: sign :: digits)

inductive Numeral : List Char → Prop
  | positive {whole fraction exponent : List Char} (digits : Whole whole)
    (point : Fraction fraction) (power : Exponent exponent) :
    Numeral (whole ++ (fraction ++ exponent))
  | negative {whole fraction exponent : List Char} (digits : Whole whole)
    (point : Fraction fraction) (power : Exponent exponent) :
    Numeral ('-' :: (whole ++ (fraction ++ exponent)))

/-- A value, as far as it does not depend on white space and escapes. -/
inductive Written where
  | null
  | bool (value : Bool)
  | number (numeral : List Char)
  | string (symbols : List Symbol)
  | array (items : List Written)
  | object (members : List (List Symbol × Written))

/-- A member of an object: its name and its value. -/
abbrev Member := List Symbol × Written

/-- What a text can go on with: a value, or what an array or an object holds up to its end. Whether
that is at its front decides whether a comma comes next. -/
inductive Part where
  | value (value : Written)
  | items (first : Bool) (items : List Written)
  | members (first : Bool) (members : List Member)

/-- What stands in front of the next item or member. -/
inductive Separated : Bool → List Char → List Char → Prop
  | front {text rest : List Char} (spaced : Spaced text rest) : Separated true text rest
  | comma {text rest : List Char} (spaced : Spaced text (',' :: rest)) : Separated false text rest

/-- A text that starts with a part, and the rest of it. -/
inductive Writes : Part → List Char → List Char → Prop
  | null {text rest : List Char} (spaced : Spaced text ('n' :: 'u' :: 'l' :: 'l' :: rest)) :
    Writes (.value .null) text rest
  | yes {text rest : List Char} (spaced : Spaced text ('t' :: 'r' :: 'u' :: 'e' :: rest)) :
    Writes (.value (.bool true)) text rest
  | no {text rest : List Char} (spaced : Spaced text ('f' :: 'a' :: 'l' :: 's' :: 'e' :: rest)) :
    Writes (.value (.bool false)) text rest
  | number {numeral text rest : List Char} (correct : Numeral numeral)
    (spaced : Spaced text (numeral ++ rest)) : Writes (.value (.number numeral)) text rest
  | string {symbols : List Symbol} {text inner rest : List Char}
      (spaced : Spaced text ('"' :: inner))
    (spells : Spells symbols inner rest) : Writes (.value (.string symbols)) text rest
  | array {items : List Written} {text inner rest : List Char} (spaced : Spaced text ('[' :: inner))
    (held : Writes (.items true items) inner rest) : Writes (.value (.array items)) text rest
  | object {members : List Member} {text inner rest : List Char}
    (spaced : Spaced text ('{' :: inner)) (held : Writes (.members true members) inner rest) :
    Writes (.value (.object members)) text rest
  | endItems {first : Bool} {text rest : List Char} (spaced : Spaced text (']' :: rest)) :
    Writes (.items first []) text rest
  | item {first : Bool} {value : Written} {items : List Written}
      {text start behind rest : List Char}
    (separated : Separated first text start) (written : Writes (.value value) start behind)
    (further : Writes (.items false items) behind rest) :
    Writes (.items first (value :: items)) text rest
  | endMembers {first : Bool} {text rest : List Char} (spaced : Spaced text ('}' :: rest)) :
    Writes (.members first []) text rest
  | member {first : Bool} {name : List Symbol} {value : Written}
    {members : List Member} {text start key colon inner behind rest : List Char}
    (separated : Separated first text start) (quoted : Spaced start ('"' :: key))
    (spells : Spells name key colon) (spaced : Spaced colon (':' :: inner))
    (written : Writes (.value value) inner behind)
    (further : Writes (.members false members) behind rest) :
    Writes (.members first ((name, value) :: members)) text rest

/-- A text that holds one value and nothing else. -/
def Holds (text : String) (value : Written) : Prop :=
  ∃ rest, Writes (.value value) text.toList rest ∧ Spaced rest []

theorem Writes.holds {text : String} {chars : List Char} {value : Written}
    (writes : Writes (.value value) chars []) (same : text.toList = chars) : Holds text value :=
  ⟨[], same ▸ writes, .none []⟩

end DriverCompat.Json
