import DriverCompat.Report.Marker
import Mathlib.Data.List.Infix

/-! # Finding a marker

The first occurrence of a word is found wherever it stands. A word does not reach across a character
that it does not have, which decides in which part of a text it occurs.
-/

namespace DriverCompat

section Infix

variable {α : Type} {word front back : List α} {c : α}

theorem infix_cons_of_not_mem (free : c ∉ word) : word <:+: c :: back ↔ word <:+: back := by
  refine ⟨fun present => ?_, List.infix_cons⟩
  rcases List.infix_cons_iff.mp present with atFront | behind
  · rcases List.prefix_cons_iff.mp atFront with rfl | ⟨rest, rfl, -⟩
    · exact List.nil_infix
    · exact absurd List.mem_cons_self free
  · exact behind

/-- A word without a certain character occurs on one side of it or on the other. -/
theorem infix_append_cons_iff (free : c ∉ word) :
    word <:+: front ++ c :: back ↔ word <:+: front ∨ word <:+: back := by
  rw [List.infix_append_iff_ne_nil, infix_cons_of_not_mem free]
  refine ⟨?_, fun either => either.imp_right .inl⟩
  rintro (inFront | inBack | ⟨left, right, -, nonempty, rfl, -, reaches⟩)
  · exact .inl inFront
  · exact .inr inBack
  · rcases List.prefix_cons_iff.mp reaches with rfl | ⟨rest, rfl, -⟩
    · exact absurd rfl nonempty
    · exact absurd (List.mem_append_right _ List.mem_cons_self) free

end Infix

namespace Report

variable {word head : List Char}

/-- A word that first stands behind a text is found there. -/
theorem afterFirst?_of_absent (absent : ¬ word <:+: head ++ word.dropLast) (rest : List Char) :
    afterFirst? word (head ++ (word ++ rest)) = some rest := by
  have nonempty : word ≠ [] := by
    rintro rfl
    exact absent List.nil_infix
  induction head with
  | nil =>
    obtain ⟨c, letters, rfl⟩ := List.exists_cons_of_ne_nil nonempty
    have found : (c :: letters).isPrefixOf (c :: (letters ++ rest)) :=
      List.isPrefixOf_iff_prefix.mpr (List.prefix_append (c :: letters) rest)
    simp only [List.nil_append, List.cons_append, afterFirst?, found, if_true]
    exact congrArg some List.drop_left
  | cons c head ih =>
    have elsewhere : ¬ word.isPrefixOf (c :: (head ++ (word ++ rest))) := by
      intro found
      apply absent
      have long := List.isPrefixOf_iff_prefix.mp found
      have inside : (c :: head) ++ word.dropLast <+: c :: (head ++ (word ++ rest)) := by
        rw [List.cons_append]
        refine (List.prefix_cons_inj c).mpr ((List.prefix_append_right_inj head).mpr ?_)
        exact (List.dropLast_prefix word).trans (List.prefix_append _ _)
      refine (List.prefix_of_prefix_length_le long inside ?_).isInfix
      have := List.length_pos_of_ne_nil nonempty
      simp only [List.length_append, List.length_cons, List.length_dropLast]
      omega
    rw [List.cons_append, afterFirst?, if_neg elsewhere]
    exact ih fun present => absent (List.infix_cons present)

theorem afterFirst?_of_not_infix {text : List Char} (absent : ¬ word <:+: text) :
    afterFirst? word text = none := by
  induction text with
  | nil =>
    have nonempty : word.isEmpty = false := by
      rw [List.isEmpty_eq_false_iff]
      rintro rfl
      exact absent List.nil_infix
    simp [afterFirst?, nonempty]
  | cons c text ih =>
    have elsewhere : ¬ word.isPrefixOf (c :: text) := fun found =>
      absent (List.isPrefixOf_iff_prefix.mp found).isInfix
    rw [afterFirst?, if_neg elsewhere]
    exact ih fun present => absent (List.infix_cons present)

/-- A word that stands in a text is found before the end of that text. -/
theorem afterFirst?_of_infix (present : word <:+: head) (tail : List Char) :
    ∃ rest, afterFirst? word (head ++ tail) = some (rest ++ tail) := by
  induction head with
  | nil =>
    obtain rfl := List.infix_nil.mp present
    cases tail with
    | nil => exact ⟨[], rfl⟩
    | cons c tail => exact ⟨[], rfl⟩
  | cons c head ih =>
    rw [List.cons_append, afterFirst?]
    split
    · refine ⟨(c :: head).drop word.length, congrArg some ?_⟩
      rw [← List.cons_append, List.drop_append_of_le_length present.length_le]
    · rename_i elsewhere
      rcases List.infix_cons_iff.mp present with atFront | behind
      · exact absurd (List.isPrefixOf_iff_prefix.mpr
          (atFront.trans (List.prefix_append (c :: head) tail))) elsewhere
      · exact ih behind

end Report

namespace Text

theorem dropWhile_append_cons {α : Type} {p : α → Bool} {x : α} (keep : p x = false)
    (front back : List α) :
    ∃ left, (front ++ x :: back).dropWhile p = left ++ x :: back := by
  induction front with
  | nil => exact ⟨[], List.dropWhile_cons_of_neg (by simp [keep])⟩
  | cons c front ih =>
    rw [List.cons_append, List.dropWhile_cons]
    split
    · exact ih
    · exact ⟨c :: front, rfl⟩

/-- What stands between two characters that are no white space is not trimmed away. -/
theorem infix_trim {first last : Char} (firstSolid : isBlank first = false)
    (lastSolid : isBlank last = false) (front middle back : List Char) :
    middle <:+: trim (front ++ first :: (middle ++ last :: back)) := by
  obtain ⟨left, shape⟩ := dropWhile_append_cons firstSolid front (middle ++ last :: back)
  have reversed : (left ++ first :: (middle ++ last :: back)).reverse =
      back.reverse ++ last :: (middle.reverse ++ first :: left.reverse) := by simp
  obtain ⟨right, shape'⟩ := dropWhile_append_cons lastSolid back.reverse
    (middle.reverse ++ first :: left.reverse)
  refine ⟨left ++ [first], last :: right.reverse, ?_⟩
  rw [trim, shape, reversed, shape']
  simp

/-- Only the white space around a text that begins and ends with something else is trimmed away. -/
theorem trim_blanks {first last : Char} (firstSolid : isBlank first = false)
    (lastSolid : isBlank last = false) {front : List Char} (middle : List Char) {back : List Char}
    (frontBlank : ∀ c ∈ front, isBlank c = true) (backBlank : ∀ c ∈ back, isBlank c = true) :
    trim (front ++ (first :: (middle ++ [last]) ++ back)) = first :: (middle ++ [last]) := by
  have reversed : (first :: (middle ++ [last]) ++ back).reverse =
      back.reverse ++ last :: (middle.reverse ++ [first]) := by simp
  rw [trim, List.dropWhile_append_of_pos frontBlank, List.cons_append,
    List.dropWhile_cons_of_neg (by simp [firstSolid]), ← List.cons_append, reversed,
    List.dropWhile_append_of_pos fun c member => backBlank c (List.mem_reverse.mp member),
    List.dropWhile_cons_of_neg (by simp [lastSolid])]
  simp

/-- What is left of a text stands behind the white space at its front. -/
theorem trim_prefix (text : List Char) : trim text <+: text.dropWhile isBlank := by
  have suffix := List.dropWhile_suffix isBlank (l := (text.dropWhile isBlank).reverse)
  have turned := List.reverse_prefix.mpr suffix
  rwa [List.reverse_reverse] at turned

end Text

end DriverCompat
