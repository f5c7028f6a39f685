import DriverCompat.Json.Skip
import Mathlib.Data.List.Chain
import Mathlib.Data.List.TakeWhile

/-! # The lines of an accepted text

White space may hold new lines, but strings may not, and no token begins with an equality sign. So
whatever a reader passes on its way through a text, no line of it begins with an equality sign.
-/

namespace DriverCompat.Json

open Text

variable {α β σ : Type}

/-- A character that can stand behind another one without beginning a line with an equality sign. -/
def MayFollow (previous next : Char) : Prop := previous = '\n' → next ≠ '='

/-- No line of a text begins with an equality sign. -/
def Clean (text : List Char) : Prop := ('\n' :: text).IsChain MayFollow

theorem Clean.append {first second : List Char} (left : Clean first) (right : Clean second) :
    Clean (first ++ second) := by
  have behind := List.isChain_cons.mp right
  refine List.isChain_append.mpr ⟨left, behind.2, ?_⟩
  intro _ _ next head _
  exact behind.1 next head rfl

theorem clean_of_not_mem {text : List Char} (free : '=' ∉ text) : Clean text := by
  apply List.Pairwise.isChain
  refine List.pairwise_cons.mpr ⟨fun next member _ same => free (same ▸ member), ?_⟩
  exact List.Pairwise.imp_of_mem (fun _ member _ _ same => free (same ▸ member))
    (List.pairwise_of_forall fun _ _ => trivial)

/-- A string on one line, with its opening quote. -/
theorem clean_quoted {text : List Char} (oneLine : '\n' ∉ text) : Clean ('"' :: text) := by
  refine List.isChain_cons_cons.mpr ⟨fun _ => by decide, List.Pairwise.isChain ?_⟩
  refine List.pairwise_cons.mpr ⟨fun _ _ newLine => absurd newLine (by decide), ?_⟩
  exact List.Pairwise.imp_of_mem (fun member _ _ newLine => absurd (newLine ▸ member) oneLine)
    (List.pairwise_of_forall fun _ _ => trivial)

/-- An equality sign never stands at the beginning of a line. -/
theorem Clean.not_infix {text : List Char} (clean : Clean text) : ¬ ['\n', '='] <:+: text := by
  intro broken
  have pair := List.IsChain.infix clean (broken.trans (List.suffix_cons _ _).isInfix)
  exact List.isChain_pair.mp pair rfl rfl

/-- The part of a text before what is left of it is clean. -/
def Passes (text rest : List Char) : Prop := ∃ piece, text = piece ++ rest ∧ Clean piece

/-- The part of a text before what is left of it is on one line. -/
def OneLine (text rest : List Char) : Prop := ∃ piece, text = piece ++ rest ∧ '\n' ∉ piece

namespace Passes

variable {text between rest : List Char} {c : Char}

theorem refl (text : List Char) : Passes text text := ⟨[], rfl, .singleton _⟩

theorem trans (first : Passes text between) (second : Passes between rest) : Passes text rest := by
  obtain ⟨left, rfl, leftClean⟩ := first
  obtain ⟨right, rfl, rightClean⟩ := second
  exact ⟨left ++ right, (List.append_assoc _ _ _).symm, leftClean.append rightClean⟩

theorem of_cons (other : c ≠ '=') (rest : List Char) : Passes (c :: rest) rest :=
  ⟨[c], rfl, clean_of_not_mem (by simpa using other.symm)⟩

theorem cons (other : c ≠ '=') (more : Passes text rest) : Passes (c :: text) rest :=
  (of_cons other text).trans more

theorem dropWhile {p : Char → Bool} (other : p '=' = false) (text : List Char) :
    Passes text (text.dropWhile p) := by
  refine ⟨text.takeWhile p, List.takeWhile_append_dropWhile.symm, clean_of_not_mem ?_⟩
  intro member
  exact absurd (List.mem_takeWhile_imp member) (by rw [other]; exact Bool.false_ne_true)

theorem skipSpace (text : List Char) : Passes text (Json.skipSpace text) := dropWhile rfl text

/-- What stands behind white space is reached, and its first character passed. -/
theorem of_skipSpace (eq : Json.skipSpace text = c :: between) (other : c ≠ '=')
    (more : Passes between rest) : Passes text rest :=
  (skipSpace text).trans (eq ▸ more.cons other)

end Passes

namespace OneLine

variable {text between rest : List Char} {c : Char}

theorem refl (text : List Char) : OneLine text text := ⟨[], rfl, List.not_mem_nil⟩

theorem trans (first : OneLine text between) (second : OneLine between rest) :
    OneLine text rest := by
  obtain ⟨left, rfl, leftLine⟩ := first
  obtain ⟨right, rfl, rightLine⟩ := second
  refine ⟨left ++ right, (List.append_assoc _ _ _).symm, fun member => ?_⟩
  exact (List.mem_append.mp member).elim leftLine rightLine

theorem cons (other : c ≠ '\n') (more : OneLine text rest) : OneLine (c :: text) rest :=
  trans ⟨[c], rfl, by simpa using other.symm⟩ more

theorem quoted (line : OneLine text rest) : Passes ('"' :: text) rest := by
  obtain ⟨piece, rfl, line⟩ := line
  exact ⟨'"' :: piece, rfl, clean_quoted line⟩

end OneLine

theorem passes_word {letters text rest : List Char} (plain : '=' ∉ letters)
    (read : word letters text = .ok rest) : Passes text rest := by
  induction letters generalizing text with
  | nil => cases read; exact .refl _
  | cons w ws ih =>
    cases text with
    | nil => simp [word] at read
    | cons c text =>
      simp only [word] at read
      split at read
      · rename_i same
        subst same
        refine .cons (fun same => plain (same ▸ List.mem_cons_self)) (ih ?_ read)
        exact fun member => plain (List.mem_cons_of_mem _ member)
      · simp at read

theorem ne_newLine_of_hexValue? {c : Char} {n : Nat} (value : hexValue? c = some n) : c ≠ '\n' := by
  rintro rfl
  cases value

theorem oneLine_hexEscape {text rest : List Char} {n : Nat}
    (read : hexEscape text = .ok (n, rest)) : OneLine text rest := by
  unfold hexEscape at read
  split at read
  · rename_i a b c d tail
    split at read
    · rename_i number
      cases read
      simp only [hexNumber?, Option.bind_eq_bind, Option.bind_eq_some_iff] at number
      obtain ⟨_, first, _, second, _, third, _, fourth, _⟩ := number
      exact .cons (ne_newLine_of_hexValue? first) (.cons (ne_newLine_of_hexValue? second)
        (.cons (ne_newLine_of_hexValue? third) (.cons (ne_newLine_of_hexValue? fourth) (.refl _))))
    · simp at read
  · simp at read

theorem oneLine_trailingDigits {leading : Nat} {text rest : List Char} {c : Char}
    (read : trailingDigits leading text = .ok (c, rest)) : OneLine text rest := by
  unfold trailingDigits at read
  split at read
  · simp at read
  · rename_i digits
    split at read
    · simp only [Except.ok.injEq, Prod.mk.injEq] at read
      exact read.2 ▸ oneLine_hexEscape digits
    · simp at read

theorem oneLine_pairMark {mark : Char} (plain : mark ≠ '\n') {text rest : List Char}
    (read : pairMark mark text = .ok rest) : OneLine text rest := by
  unfold pairMark at read
  split at read
  · simp at read
  · split at read
    · rename_i same
      cases read
      exact .cons (same ▸ plain) (.refl _)
    · simp at read

theorem oneLine_trailingSurrogate {leading : Nat} {text rest : List Char} {c : Char}
    (read : trailingSurrogate leading text = .ok (c, rest)) : OneLine text rest := by
  unfold trailingSurrogate at read
  split at read
  · simp at read
  · rename_i backslash
    split at read
    · simp at read
    · rename_i letter
      exact (oneLine_pairMark (by decide) backslash).trans
        ((oneLine_pairMark (by decide) letter).trans (oneLine_trailingDigits read))

theorem oneLine_numberEscape {text rest : List Char} {c : Char}
    (read : numberEscape text = .ok (c, rest)) : OneLine text rest := by
  unfold numberEscape at read
  split at read
  · simp at read
  · rename_i digits
    split at read
    · simp at read
    · split at read
      · exact (oneLine_hexEscape digits).trans (oneLine_trailingSurrogate read)
      · cases read; exact oneLine_hexEscape digits

theorem oneLine_escaped {text rest : List Char} {c : Char} (read : escaped text = .ok (c, rest)) :
    OneLine text rest := by
  unfold escaped at read
  split at read
  · simp at read
  · rename_i letter tail
    split at read
    · rename_i same
      exact .cons (same ▸ by decide) (oneLine_numberEscape read)
    · split at read
      · rename_i found
        cases read
        refine .cons ?_ (.refl _)
        rintro rfl
        cases found
      · simp at read

theorem oneLine_characters {text rest : List Char} {cs : List Char}
    (read : characters text = .ok (cs, rest)) : OneLine text rest := by
  fun_induction characters text generalizing cs rest with
  | case1 => simp at read
  | case2 => cases read; exact .cons (by decide) (.refl _)
  | case3 => simp at read
  | case4 => simp_all
  | case5 _ c between escape _ cs' end_ more ih =>
    cases read
    exact .cons (by decide) ((oneLine_escaped escape).trans (ih more))
  | case6 => simp at read
  | case7 => simp_all
  | case8 c tail _ _ noControl cs' end_ more ih =>
    cases read
    refine .cons ?_ (ih more)
    rintro rfl
    exact noControl (by decide)

theorem oneLine_stringBody {text rest : List Char} {s : String}
    (read : stringBody text = .ok (s, rest)) : OneLine text rest := by
  unfold stringBody at read
  split at read
  · simp at read
  · rename_i body
    cases read
    exact oneLine_characters body

theorem ne_equals_of_isDigit {c : Char} (digit : isDigit c) : c ≠ '=' := by
  rintro rfl
  exact absurd digit (by decide)

theorem passes_digits (value : Nat) (text : List Char) :
    Passes text (Digits.read value text).rest := by
  induction text generalizing value with
  | nil => exact .refl _
  | cons c rest ih =>
    rw [Digits.read]
    split
    · rename_i fits
      exact .cons (ne_equals_of_isDigit fits.1) (ih _)
    · exact .refl _

theorem passes_double {negative : Bool} {significand : Nat} {exponent : Int}
    {text rest : List Char} {n : Number}
    (read : double negative significand exponent text = .ok (n, rest)) : Passes text rest := by
  unfold double at read
  split at read
  · cases read; exact .refl _
  · simp at read

theorem passes_hugeExponent {negative negativeExponent : Bool} {significand : Nat}
    {text rest : List Char} {n : Number}
    (read : hugeExponent negative significand negativeExponent text = .ok (n, rest)) :
    Passes text rest := by
  unfold hugeExponent at read
  split at read
  · simp at read
  · exact (Passes.dropWhile (by decide) text).trans (passes_double read)

theorem passes_exponentDigits {negative negativeExponent : Bool} {significand value : Nat}
    {shift : Int} {text rest : List Char} {n : Number}
    (read : exponentDigits negative significand shift negativeExponent value text = .ok (n, rest)) :
    Passes text rest := by
  induction text generalizing value with
  | nil => rw [exponentDigits] at read; exact passes_double read
  | cons c tail ih =>
    rw [exponentDigits] at read
    split at read
    · rename_i digit
      split at read
      · exact .cons (ne_equals_of_isDigit digit) (ih read)
      · exact .cons (ne_equals_of_isDigit digit) (passes_hugeExponent read)
    · exact passes_double read

theorem passes_exponentSign (text : List Char) : Passes text (exponentSign text).2 := by
  unfold exponentSign
  split
  · exact .of_cons (by decide) _
  · exact .of_cons (by decide) _
  · exact .refl _

theorem passes_exponentPart {negative : Bool} {significand : Nat} {shift : Int}
    {text rest : List Char} {n : Number}
    (read : exponentPart negative significand shift text = .ok (n, rest)) : Passes text rest := by
  refine (passes_exponentSign text).trans ?_
  unfold exponentPart at read
  revert read
  generalize exponentSign text = signed
  obtain ⟨negativeExponent, tail⟩ := signed
  intro read
  cases tail with
  | nil => simp at read
  | cons c tail =>
    simp only at read
    split at read
    · rename_i digit
      exact .cons (ne_equals_of_isDigit digit) (passes_exponentDigits read)
    · simp at read

theorem passes_afterFraction {negative : Bool} {significand : Nat} {shift : Int}
    {text rest : List Char} {n : Number}
    (read : afterFraction negative significand shift text = .ok (n, rest)) : Passes text rest := by
  unfold afterFraction at read
  split at read
  · exact .cons (by decide) (passes_exponentPart read)
  · exact .cons (by decide) (passes_exponentPart read)
  · exact passes_double read

theorem passes_fractionPart {negative : Bool} {significand : Nat} {shift : Int}
    {text rest : List Char} {n : Number}
    (read : fractionPart negative significand shift text = .ok (n, rest)) : Passes text rest := by
  unfold fractionPart at read
  have digits := passes_digits significand text
  simp only at read
  split at read
  · exact digits.trans ((Passes.dropWhile (by decide) _).trans (passes_afterFraction read))
  · split at read
    · split at read <;> simp at read
    · exact digits.trans (passes_afterFraction read)

theorem passes_integer {negative : Bool} {value : Nat} {text rest : List Char} {n : Number}
    (read : integer negative value text = .ok (n, rest)) : Passes text rest := by
  unfold integer at read
  split at read
  · exact passes_double read
  · split at read
    · cases read; exact .refl _
    · exact passes_double read

theorem passes_afterInteger {negative : Bool} {value : Nat} {text rest : List Char} {n : Number}
    (read : afterInteger negative value text = .ok (n, rest)) : Passes text rest := by
  unfold afterInteger at read
  split at read
  · exact .cons (by decide) (passes_fractionPart read)
  · exact .cons (by decide) (passes_exponentPart read)
  · exact .cons (by decide) (passes_exponentPart read)
  · exact passes_integer read

theorem passes_afterLongInteger {negative : Bool} {value shift : Nat} {text rest : List Char}
    {n : Number} (read : afterLongInteger negative value shift text = .ok (n, rest)) :
    Passes text rest := by
  unfold afterLongInteger at read
  split at read
  · exact .cons (by decide) (passes_fractionPart read)
  · exact passes_afterFraction read

theorem passes_unsignedNumber {negative : Bool} {text rest : List Char} {n : Number}
    (read : unsignedNumber negative text = .ok (n, rest)) : Passes text rest := by
  unfold unsignedNumber at read
  split at read
  · simp at read
  · rename_i c tail
    split at read
    · rename_i zero
      split at read
      · simp at read
      · exact .cons (zero ▸ by decide) (passes_afterInteger read)
    · split at read
      · rename_i digit
        refine .cons (ne_equals_of_isDigit digit) ((passes_digits (digitValue c) tail).trans ?_)
        simp only at read
        split at read
        · exact (Passes.dropWhile (by decide) _).trans (passes_afterLongInteger read)
        · exact passes_afterInteger read
      · simp at read

theorem passes_numeral {text rest : List Char} {n : Number}
    (read : numeral text = .ok (n, rest)) : Passes text rest := by
  unfold numeral at read
  split at read
  · exact .cons (by decide) (passes_unsignedNumber read)
  · exact passes_unsignedNumber read

end DriverCompat.Json
