/-! # UTF-8 lengths and cuts

Positions in a text and the capacity of a sink are counted in bytes of its UTF-8 form. A byte
sequence that was cut off is read back up to its last finished character.
-/

namespace DriverCompat.Text

/-- The UTF-8 form of a text. -/
def encode (text : List Char) : List UInt8 := text.flatMap String.utf8EncodeChar

/-- The number of bytes of the UTF-8 form. -/
def byteCount : List Char → Nat
  | [] => 0
  | c :: text => c.utf8Size + byteCount text

@[simp] theorem byteCount_nil : byteCount [] = 0 := rfl

@[simp] theorem byteCount_cons (c : Char) (text : List Char) :
    byteCount (c :: text) = c.utf8Size + byteCount text := rfl

@[simp] theorem byteCount_append (a b : List Char) :
    byteCount (a ++ b) = byteCount a + byteCount b := by
  induction a with
  | nil => simp
  | cons c a ih => rw [List.cons_append, byteCount_cons, byteCount_cons, ih, Nat.add_assoc]

/-- The longest run of whole characters from the front that fits into `budget` bytes. -/
def fitting : Nat → List Char → List Char
  | _, [] => []
  | budget, c :: rest =>
    if c.utf8Size ≤ budget then c :: fitting (budget - c.utf8Size) rest else []

/-- How many bytes the character that starts with `lead` takes, if `lead` can start one. -/
def sequenceLength? (lead : UInt8) : Option Nat :=
  if lead < 0x80 then some 1
  else if lead < 0xC2 then none
  else if lead < 0xE0 then some 2
  else if lead < 0xF0 then some 3
  else if lead < 0xF5 then some 4
  else none

/-- The text whose UTF-8 form is `bytes`, if there is one. -/
def decode? (bytes : List UInt8) : Option String :=
  String.fromUTF8? (ByteArray.mk bytes.toArray)

/-- The bytes without an unfinished character at their end. -/
def dropUnfinished (bytes : List UInt8) : List UInt8 :=
  let continuations := bytes.reverse.takeWhile fun b => 0x80 ≤ b && b < 0xC0
  let head := bytes.take (bytes.length - continuations.length)
  match head.getLast? with
  | none => bytes
  | some lead =>
    match sequenceLength? lead with
    | some n => if continuations.length + 1 < n then head.dropLast else bytes
    | none => bytes

/-- The text of bytes that were cut at the end of a sink. -/
def decodeCut (bytes : List UInt8) : String := (decode? (dropUnfinished bytes)).getD ""

end DriverCompat.Text
