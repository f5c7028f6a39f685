import DriverCompat.Arithmetic
import DriverCompat.Text.Hex

/-! # The order of hexadecimal numerals

Numerals that are filled with zeros to one width are in the order of the numbers that they write, as
long as these have no more digits than that.
-/

namespace DriverCompat.Text

/-- A lower-case hexadecimal digit. -/
def IsHexDigit (c : Char) : Prop := ('0' ≤ c ∧ c ≤ '9') ∨ ('a' ≤ c ∧ c ≤ 'f')

instance (c : Char) : Decidable (IsHexDigit c) := inferInstanceAs (Decidable (_ ∨ _))

theorem isHexDigit_digitChar : ∀ digit < 16, IsHexDigit (Nat.digitChar digit) := by decide

theorem digitChar_lt : ∀ digit < 16, ∀ less < digit, Nat.digitChar less < Nat.digitChar digit := by
  decide

/-- Texts of one length stay in their order whatever is written behind them. -/
theorem append_lt_append {first second : List Char} (same : first.length = second.length)
    (less : first < second) (behind behind' : List Char) : first ++ behind < second ++ behind' := by
  induction first generalizing second with
  | nil =>
    obtain rfl := List.eq_nil_of_length_eq_zero same.symm
    exact absurd less (List.lt_irrefl [])
  | cons c rest ih =>
    obtain ⟨d, others, rfl⟩ := List.exists_cons_of_length_eq_add_one same.symm
    rw [List.cons_lt_cons_iff] at less
    rw [List.cons_append, List.cons_append, List.cons_lt_cons_iff]
    exact less.imp id fun ⟨equal, later⟩ => ⟨equal, ih (Nat.succ.inj same) later⟩

theorem length_hexDigits_le {width n : Nat} (bound : n < 16 ^ (width + 1)) :
    (hexDigits n).length ≤ width + 1 :=
  (Nat.length_toDigits_le_iff (by decide) (Nat.succ_pos width)).mpr bound

theorem length_paddedHex {width n : Nat} (bound : n < 16 ^ (width + 1)) :
    (paddedHex (width + 1) n).length = width + 1 := by
  have digits := length_hexDigits_le bound
  rw [paddedHex, List.length_append, List.length_replicate]
  omega

theorem paddedHex_one {n : Nat} (small : n < 16) : paddedHex 1 n = [Nat.digitChar n] := by
  rw [paddedHex, hexDigits, Nat.toDigits_of_lt_base small]
  rfl

/-- The last digit is the one of the remainder, and the others are those of the quotient. -/
theorem paddedHex_succ (width n : Nat) :
    paddedHex (width + 2) n = paddedHex (width + 1) (n / 16) ++ [Nat.digitChar (n % 16)] := by
  unfold paddedHex hexDigits
  rcases Nat.lt_or_ge n 16 with small | large
  · rw [Nat.toDigits_of_lt_base small, Nat.div_eq_of_lt small, Nat.mod_eq_of_lt small,
      Nat.toDigits_of_lt_base (by decide)]
    simp [List.replicate_succ', Nat.digitChar]
  · have remainder : n % 16 < 16 := Nat.mod_lt n (by decide)
    have split := Nat.toDigits_append_toDigits (b := 16) (n := n / 16) (d := n % 16) (by decide)
      (Nat.div_pos large (by decide)) remainder
    rw [Nat.div_add_mod, Nat.toDigits_of_lt_base remainder] at split
    rw [← split]
    simp only [List.length_append, List.length_singleton, List.append_assoc]
    rw [show width + 2 = width + 1 + 1 from rfl, Nat.add_sub_add_right]

theorem isHexDigit_of_mem {width n : Nat} (bound : n < 16 ^ (width + 1)) {c : Char}
    (among : c ∈ paddedHex (width + 1) n) : IsHexDigit c := by
  induction width generalizing n with
  | zero =>
    rw [paddedHex_one bound, List.mem_singleton] at among
    exact among ▸ isHexDigit_digitChar n bound
  | succ width ih =>
    rw [paddedHex_succ, List.mem_append, List.mem_singleton] at among
    rcases among with front | rfl
    · exact ih (Nat.div_lt_of_lt_mul (by rwa [← Nat.pow_succ'])) front
    · exact isHexDigit_digitChar _ (Nat.mod_lt n (by decide))

theorem paddedHex_lt {width m n : Nat} (less : m < n) (bound : n < 16 ^ (width + 1)) :
    paddedHex (width + 1) m < paddedHex (width + 1) n := by
  induction width generalizing m n with
  | zero =>
    rw [paddedHex_one (Nat.lt_trans less bound), paddedHex_one bound, List.cons_lt_cons_iff]
    exact .inl (digitChar_lt n bound m less)
  | succ width ih =>
    have front : n / 16 < 16 ^ (width + 1) := Nat.div_lt_of_lt_mul (by rwa [← Nat.pow_succ'])
    rw [paddedHex_succ, paddedHex_succ]
    rcases Nat.lt_or_eq_of_le (Nat.div_le_div_right (c := 16) (Nat.le_of_lt less)) with fewer | same
    · have lengths : (paddedHex (width + 1) (m / 16)).length =
          (paddedHex (width + 1) (n / 16)).length := by
        rw [length_paddedHex (Nat.lt_trans fewer front), length_paddedHex front]
      exact append_lt_append lengths (ih fewer front) _ _
    · have last : m % 16 < n % 16 := by omega
      rw [same]
      apply List.append_left_lt
      rw [List.cons_lt_cons_iff]
      exact .inl (digitChar_lt _ (Nat.mod_lt n (by decide)) _ last)

end DriverCompat.Text
