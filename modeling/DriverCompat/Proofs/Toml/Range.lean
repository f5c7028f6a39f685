import DriverCompat.Toml.Line

/-! # The integers of a document

Integers are of sixty-four bits with a sign: readers of values refuse all others.
-/

namespace DriverCompat.Toml

/-- An integer fits into sixty-four bits, one of them for its sign. -/
def InRange (value : Value) : Prop := ∀ i, value = .integer i → -2 ^ 63 ≤ i ∧ i < 2 ^ 63

theorem inRange_of_integerOf {negative : Bool} {magnitude : Nat} {text rest : List Char}
    {found : Value} (read : integerOf negative magnitude text = .ok (found, rest)) :
    InRange found := by
  unfold integerOf at read
  dsimp only at read
  generalize (if negative then (-magnitude : Int) else magnitude) = value at read
  split at read
  · rename_i range
    cases read
    rintro i same
    rwa [← Value.integer.inj same]
  · cases read

theorem inRange_of_based {base : Nat} {text rest : List Char} {found : Value}
    (read : based base text = .ok (found, rest)) : InRange found := by
  unfold based at read
  split at read
  · cases read
  · exact inRange_of_integerOf read

theorem inRange_of_doubleOf {negative : Bool} {digits fraction : List Char} {exponent : Int}
    {text rest : List Char} {found : Value}
    (read : doubleOf negative digits fraction exponent text = .ok (found, rest)) :
    InRange found := by
  unfold doubleOf at read
  dsimp only at read
  split at read
  · cases read
  · cases read
    rintro _ ⟨⟩

theorem inRange_of_decimalNumber {negative : Bool} {text rest : List Char} {found : Value}
    (read : decimalNumber negative text = .ok (found, rest)) : InRange found := by
  unfold decimalNumber at read
  split at read
  · cases read
  split at read
  · cases read
  split at read
  · cases read
  split at read
  · exact inRange_of_integerOf read
  · exact inRange_of_doubleOf read

theorem inRange_of_number {text rest : List Char} {found : Value}
    (read : number text = .ok (found, rest)) : InRange found := by
  unfold number at read
  split at read
  · exact inRange_of_based read
  · exact inRange_of_based read
  · exact inRange_of_based read
  split at read
  · cases read
    rintro _ ⟨⟩
  · cases read
    rintro _ ⟨⟩
  · exact inRange_of_decimalNumber read

theorem inRange_of_scalar {text rest : List Char} {found : Value}
    (read : scalar text = .ok (found, rest)) : InRange found := by
  unfold scalar at read
  split at read
  · cases read
    rintro _ ⟨⟩
  · cases read
  split at read
  · cases read
    rintro _ ⟨⟩
  · cases read
    rintro _ ⟨⟩
  split at read
  · cases read
    rintro _ ⟨⟩
  · exact inRange_of_number read

theorem inRange_of_value {depth : Nat} {text rest : List Char} {found : Value}
    (read : value depth text = .ok (found, rest)) : InRange found := by
  cases depth with
  | zero => exact inRange_of_scalar read
  | succ depth =>
    unfold value at read
    split at read
    · split at read
      · cases read
        rintro _ ⟨⟩
      · cases read
    · unfold inlineValue at read
      split at read
      · cases read
        rintro _ ⟨⟩
      split at read
      · cases read
      split at read
      · cases read
        rintro _ ⟨⟩
      · cases read
    · exact inRange_of_scalar read

theorem inRange_of_pair {depth : Nat} {text rest : List Char} {path : List Key} {key : Key}
    {found : Value} (read : pair (value depth) text = .ok ((path, key, found), rest)) :
    InRange found := by
  unfold pair at read
  split at read
  · cases read
  split at read
  · dsimp only at read
    split at read
    · cases read
    split at read
    · cases read
    · rename_i one
      cases read
      exact inRange_of_value one
  · cases read

end DriverCompat.Toml
