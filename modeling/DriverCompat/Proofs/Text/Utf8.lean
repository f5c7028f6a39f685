import DriverCompat.Text.Utf8

/-! # UTF-8 forms

The UTF-8 form of a text is read back. What is left of it when it was cut after some bytes is read
back as the characters that are whole.
-/

namespace DriverCompat.Text

theorem encode_append (first second : List Char) :
    encode (first ++ second) = encode first ++ encode second :=
  List.flatMap_append

theorem decode?_encode (text : List Char) : decode? (encode text) = some (String.ofList text) := by
  have bytes : ByteArray.mk (encode text).toArray = (String.ofList text).toByteArray := by
    rw [String.toByteArray_ofList, List.utf8Encode, encode]
    exact ByteArray.ext (by simp)
  unfold decode?
  rw [bytes, String.fromUTF8?, dif_pos (String.ofList text).isValidUTF8]
  rfl

/-- Whether a byte goes on with a character that an earlier one has started. -/
def continues (byte : UInt8) : Bool := 0x80 ≤ byte && byte < 0xC0

/-- The bytes of a character: the first one tells how many there are, and the others go on. -/
structure Sequence (lead : UInt8) (tail : List UInt8) : Prop where
  starts : continues lead = false
  goesOn : ∀ byte ∈ tail, continues byte = true
  told : sequenceLength? lead = some (tail.length + 1)

theorem toNat_ofNat_of_lt {n : Nat} (small : n < 256) : (UInt8.ofNat n).toNat = n := by
  rw [UInt8.toNat_ofNat', Nat.mod_eq_of_lt small]

theorem continues_ofNat_mod (n : Nat) : continues (UInt8.ofNat (n % 64 + 128)) = true := by
  have small : n % 64 < 64 := Nat.mod_lt n (by decide)
  have value := toNat_ofNat_of_lt (n := n % 64 + 128) (by omega)
  simp only [continues, Bool.and_eq_true, decide_eq_true_eq, UInt8.le_iff_toNat_le,
    UInt8.lt_iff_toNat_lt, value]
  exact ⟨by simp, by simp; omega⟩

theorem not_continues_ofNat {n : Nat} (small : n < 256) (outside : n < 128 ∨ 192 ≤ n) :
    continues (UInt8.ofNat n) = false := by
  have value := toNat_ofNat_of_lt small
  simp only [continues, Bool.and_eq_false_iff, decide_eq_false_iff_not, UInt8.le_iff_toNat_le,
    UInt8.lt_iff_toNat_lt, value, UInt8.reduceToNat]
  omega

theorem sequenceLength?_ofNat {n : Nat} (small : n < 256) : sequenceLength? (UInt8.ofNat n) =
    if n < 0x80 then some 1 else if n < 0xC2 then none else if n < 0xE0 then some 2
    else if n < 0xF0 then some 3 else if n < 0xF5 then some 4 else none := by
  simp only [sequenceLength?, UInt8.lt_iff_toNat_lt, toNat_ofNat_of_lt small, UInt8.reduceToNat]

theorem exists_sequence (c : Char) :
    ∃ lead tail, String.utf8EncodeChar c = lead :: tail ∧ Sequence lead tail := by
  have top : c.val.toNat < 0x110000 := by
    rcases c.valid with low | high
    · change c.val.toNat < _ at low; omega
    · exact high.2
  unfold String.utf8EncodeChar
  dsimp only
  split
  · refine ⟨_, _, rfl, not_continues_ofNat (by omega) (by omega), nofun, ?_⟩
    rw [sequenceLength?_ofNat (by omega), if_pos (by omega)]
    rfl
  split
  · refine ⟨_, _, rfl, not_continues_ofNat (by omega) (by omega), ?_, ?_⟩
    · exact List.forall_mem_cons.mpr ⟨continues_ofNat_mod _, nofun⟩
    · rw [sequenceLength?_ofNat (by omega), if_neg (by omega), if_neg (by omega),
        if_pos (by omega)]
      rfl
  split
  · refine ⟨_, _, rfl, not_continues_ofNat (by omega) (by omega), ?_, ?_⟩
    · exact List.forall_mem_cons.mpr
        ⟨continues_ofNat_mod _, List.forall_mem_cons.mpr ⟨continues_ofNat_mod _, nofun⟩⟩
    · rw [sequenceLength?_ofNat (by omega), if_neg (by omega), if_neg (by omega),
        if_neg (by omega), if_pos (by omega)]
      rfl
  · refine ⟨_, _, rfl, not_continues_ofNat (by omega) (by omega), ?_, ?_⟩
    · exact List.forall_mem_cons.mpr ⟨continues_ofNat_mod _, List.forall_mem_cons.mpr
        ⟨continues_ofNat_mod _, List.forall_mem_cons.mpr ⟨continues_ofNat_mod _, nofun⟩⟩⟩
    · rw [sequenceLength?_ofNat (by omega), if_neg (by omega), if_neg (by omega),
        if_neg (by omega), if_neg (by omega), if_pos (by omega)]
      rfl

/-- Of a character at the end all is dropped if bytes of it are missing, and nothing otherwise. -/
theorem dropUnfinished_append {lead : UInt8} {front tail : List UInt8} {n : Nat}
    (starts : continues lead = false) (goesOn : ∀ byte ∈ tail, continues byte = true)
    (told : sequenceLength? lead = some n) :
    dropUnfinished (front ++ lead :: tail) =
      if tail.length + 1 < n then front else front ++ lead :: tail := by
  have behind : ((front ++ lead :: tail).reverse.takeWhile continues) = tail.reverse := by
    rw [List.reverse_append, List.reverse_cons, List.append_assoc,
      List.takeWhile_append_of_pos fun byte member => goesOn byte (List.mem_reverse.mp member)]
    simp [starts]
  have head : (front ++ lead :: tail).take ((front ++ lead :: tail).length - tail.length) =
      front ++ [lead] := by
    have cut : (front ++ lead :: tail).length - tail.length = (front ++ [lead]).length := by
      simp only [List.length_append, List.length_cons, List.length_nil]
      omega
    rw [cut, List.append_cons front lead tail, List.take_left]
  unfold dropUnfinished
  rw [show (fun b : UInt8 => decide (0x80 ≤ b) && decide (b < 0xC0)) = continues from rfl]
  simp only [behind, List.length_reverse, head, List.getLast?_concat, told, List.dropLast_concat]

/-- The first bytes of a character without the last ones. -/
inductive CutShort : List UInt8 → Prop where
  | none : CutShort []
  | some {lead : UInt8} {tail missing : List UInt8} (bytes : Sequence lead (tail ++ missing))
      (short : missing ≠ []) : CutShort (lead :: tail)

theorem dropUnfinished_encode_append (text : List Char) {piece : List UInt8}
    (unfinished : CutShort piece) : dropUnfinished (encode text ++ piece) = encode text := by
  cases unfinished with
  | none =>
    rcases text.eq_nil_or_concat with rfl | ⟨front, c, rfl⟩
    · rfl
    · obtain ⟨lead, tail, form, bytes⟩ := exists_sequence c
      have last : encode [c] = lead :: tail := by rw [encode, List.flatMap_singleton, form]
      rw [List.append_nil, List.concat_eq_append, encode_append, last,
        dropUnfinished_append bytes.starts bytes.goesOn bytes.told, if_neg (Nat.lt_irrefl _)]
  | some bytes short =>
    rw [dropUnfinished_append bytes.starts
      (fun byte member => bytes.goesOn byte (List.mem_append_left _ member)) bytes.told, if_pos]
    rw [List.length_append]
    exact Nat.add_lt_add_right (Nat.lt_add_of_pos_right (List.length_pos_iff.mpr short)) 1

/-- The bytes of a text up to some place are those of the characters that fit and part of one. -/
theorem take_encode (budget : Nat) (text : List Char) : ∃ piece, CutShort piece ∧
    (encode text).take budget = encode (fitting budget text) ++ piece := by
  induction text generalizing budget with
  | nil => exact ⟨[], .none, List.take_nil⟩
  | cons c rest ih =>
    have size := String.length_utf8EncodeChar c
    have first (chars : List Char) :
        encode (c :: chars) = String.utf8EncodeChar c ++ encode chars :=
      List.flatMap_cons
    rw [first, fitting]
    split
    · rename_i fits
      obtain ⟨piece, unfinished, cut⟩ := ih (budget - c.utf8Size)
      refine ⟨piece, unfinished, ?_⟩
      rw [List.take_append, List.take_of_length_le (by omega), size, cut, first,
        List.append_assoc]
    · rename_i tooLong
      obtain ⟨lead, tail, form, bytes⟩ := exists_sequence c
      rw [form, List.length_cons] at size
      rw [form, List.take_append_of_le_length (by rw [List.length_cons]; omega)]
      cases budget with
      | zero => exact ⟨[], .none, rfl⟩
      | succ kept =>
        have whole : Sequence lead (tail.take kept ++ tail.drop kept) := by
          rwa [List.take_append_drop]
        have missing : 0 < (tail.drop kept).length := by
          rw [List.length_drop]
          omega
        exact ⟨lead :: tail.take kept, .some whole (List.ne_nil_of_length_pos missing), rfl⟩

/-- A text that was cut is read back as far as its characters are whole. -/
theorem decodeCut_take_encode (budget : Nat) (text : List Char) :
    decodeCut ((encode text).take budget) = String.ofList (fitting budget text) := by
  obtain ⟨piece, unfinished, cut⟩ := take_encode budget text
  rw [decodeCut, cut, dropUnfinished_encode_append _ unfinished, decode?_encode]
  rfl

theorem decodeCut_encode (text : List Char) : decodeCut (encode text) = String.ofList text := by
  have whole := dropUnfinished_encode_append text .none
  rw [List.append_nil] at whole
  rw [decodeCut, whole, decode?_encode]
  rfl

theorem fitting_prefix (budget : Nat) (text : List Char) : fitting budget text <+: text := by
  induction text generalizing budget with
  | nil => exact List.prefix_refl []
  | cons c rest ih =>
    rw [fitting]
    split
    · exact (List.prefix_cons_inj c).mpr (ih _)
    · exact List.nil_prefix

theorem byteCount_fitting_le (budget : Nat) (text : List Char) :
    byteCount (fitting budget text) ≤ budget := by
  induction text generalizing budget with
  | nil => exact Nat.zero_le _
  | cons c rest ih =>
    rw [fitting]
    split
    · have := ih (budget - c.utf8Size)
      rw [byteCount_cons]
      omega
    · exact Nat.zero_le _

theorem fitting_append (front rest : List Char) {budget : Nat} (fits : byteCount front ≤ budget) :
    fitting budget (front ++ rest) = front ++ fitting (budget - byteCount front) rest := by
  induction front generalizing budget with
  | nil => rfl
  | cons c front ih =>
    rw [byteCount_cons] at fits ⊢
    rw [List.cons_append, fitting, if_pos (by omega), ih (by omega), List.cons_append,
      Nat.sub_add_eq]

/-- The front of a text is whole in what fits exactly if it fits itself. -/
theorem prefix_fitting_iff (front rest : List Char) (budget : Nat) :
    front <+: fitting budget (front ++ rest) ↔ byteCount front ≤ budget := by
  constructor
  · rintro ⟨more, whole⟩
    have fits := byteCount_fitting_le budget (front ++ rest)
    rw [← whole, byteCount_append] at fits
    omega
  · intro fits
    rw [fitting_append front rest fits]
    exact List.prefix_append _ _

end DriverCompat.Text
