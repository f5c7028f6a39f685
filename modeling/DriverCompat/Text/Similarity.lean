/-! # Similar texts

How similar two texts are, as a quotient between nothing and one: how many characters they share
at nearly the same places, how many of these are in the same order, and whether the texts begin
alike. It is used to guess what a misspelt name was meant to be.
-/

namespace DriverCompat.Text

/-- A quotient of natural numbers. -/
structure Share where
  part : Nat
  whole : Nat
deriving Repr

namespace Share

def none : Share := ⟨0, 1⟩

/-- Whether a quotient is less than another one. -/
def less (a b : Share) : Bool := a.part * b.whole < b.part * a.whole

end Share

/-- Marks the first occurrence of a character that is not marked, from an index on and before
another one. -/
def markFirst (c : Char) (first last : Nat) : Nat → List (Char × Bool) → Option (List (Char × Bool))
  | _, [] => none
  | index, (d, marked) :: rest =>
    if last ≤ index then none
    else if first ≤ index ∧ c = d ∧ !marked then some ((d, true) :: rest)
    else (markFirst c first last (index + 1) rest).map ((d, marked) :: ·)

/-- The characters of a text that another text has within a distance, in order, and the other
text with its partners marked. -/
def partners (distance : Nat) :
    Nat → List Char → List (Char × Bool) → List Char × List (Char × Bool)
  | _, [], other => ([], other)
  | index, c :: rest, other =>
    match markFirst c (index - distance) (index + distance + 1) 0 other with
    | some other =>
      let (shared, other) := partners distance (index + 1) rest other
      (c :: shared, other)
    | none => partners distance (index + 1) rest other

/-- How similar two texts are in their characters and the order of these. -/
def agreement (a b : List Char) : Share :=
  let distance := max a.length b.length / 2 - 1
  let (shared, marked) := partners distance 0 a (b.map fun c => (c, false))
  let partner := (marked.filter Prod.snd).map Prod.fst
  let moved := ((shared.zip partner).filter fun (c, d) => c ≠ d).length / 2
  let m := shared.length
  if m = 0 then .none
  else
    ⟨m * m * b.length + m * m * a.length + (m - moved) * a.length * b.length,
      3 * a.length * b.length * m⟩

/-- The number of characters, four at most, with which two texts begin alike. -/
def commonStart (a b : List Char) : Nat :=
  (((a.take 4).zip b).takeWhile fun (c, d) => c = d).length

/-- How similar two texts are, a common beginning counting once more. -/
def similarity (a b : List Char) : Share :=
  let share := agreement a b
  ⟨10 * share.part + commonStart a b * (share.whole - share.part), 10 * share.whole⟩

/-- The most similar of some names, if it is similar enough. -/
def mostSimilar? (least : Share) (text : String) (names : List String) : Option String :=
  let best := names.foldl (fun best name =>
    let share := similarity text.toList name.toList
    if best.2.less share then (name, share) else best) ("", Share.none)
  if best.2.less least then none else some best.1

end DriverCompat.Text
