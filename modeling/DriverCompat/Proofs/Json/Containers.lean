import DriverCompat.Proofs.Json.Scalars

/-! # Written arrays and objects are read back

An array or an object in its indented form is read one element or member at a time, up to its end.
-/

namespace DriverCompat.Json

variable {σ α : Type}

theorem isSpace_of_mem_newLine {depth : Nat} : ∀ c ∈ newLine depth, isSpace c := by
  intro c member
  rcases List.mem_cons.mp member with rfl | member
  · rfl
  · rw [List.eq_of_mem_replicate member]
    rfl

@[simp] theorem skipSpace_newLine (depth : Nat) (text : List Char) :
    skipSpace (newLine depth ++ text) = skipSpace text :=
  skipSpace_append isSpace_of_mem_newLine text

/-- The key of a first member, on a line of its own. -/
theorem nextKey?_first (depth : Nat) (key : String) (rest : List Char) :
    nextKey? true (newLine depth ++ (quote key ++ rest)) = .ok (some (key, rest)) := by
  unfold nextKey?
  rw [skipSpace_newLine, quote_append, skipSpace_of_not_isSpace rfl]
  simp [stringBody_escape]

theorem nextKey?_further (depth : Nat) (key : String) (rest : List Char) :
    nextKey? false (',' :: (newLine depth ++ (quote key ++ rest))) = .ok (some (key, rest)) := by
  have quoted : skipSpace (newLine depth ++ (quote key ++ rest)) =
      '"' :: (key.toList.flatMap escape ++ '"' :: rest) := by
    rw [skipSpace_newLine, quote_append, skipSpace_of_not_isSpace rfl]
  unfold nextKey?
  rw [skipSpace_of_not_isSpace rfl]
  simp [quoted, stringBody_escape]

theorem nextKey?_end (first : Bool) (depth : Nat) (rest : List Char) :
    nextKey? first (newLine depth ++ '}' :: rest) = .ok none := by
  unfold nextKey?
  rw [skipSpace_newLine]
  rfl

section Members

variable {table : σ → String → Except Cause (Reader σ)} {first : Bool} {state between : σ}
  {text behind rest valueText : List Char} {key : String} {reader : Reader σ}

/-- One member is read, and then what follows it. -/
theorem members_next (next : nextKey? first text = .ok (some (key, behind)))
    (known : table state key = .ok reader) (atColon : colon behind = .ok valueText)
    (read : reader.read valueText = .ok (between, rest)) :
    members table first state text = members table false between rest := by
  rw [members]
  split
  · rename_i failed
    rw [next] at failed
    cases failed
  · rename_i none
    rw [next] at none
    cases none
  · rename_i found
    rw [next] at found
    cases found
    rw [known]
    simp only
    split
    · rename_i failed
      rw [atColon] at failed
      cases failed
    · rename_i found
      rw [atColon] at found
      cases found
      split
      · rename_i failed
        rw [read] at failed
        cases failed
      · rename_i found
        rw [read] at found
        cases found
        rfl

theorem members_step (next : nextKey? first text = .ok (some (key, ':' :: valueText)))
    (known : table state key = .ok reader) (read : reader.read valueText = .ok (between, rest)) :
    members table first state text = members table false between rest :=
  members_next next known rfl read

theorem members_end (next : nextKey? first text = .ok none) :
    members table first state text = .ok (state, skipSpace text) := by
  rw [members]
  split
  · rename_i failed
    rw [next] at failed
    cases failed
  · rfl
  · rename_i found
    rw [next] at found
    cases found

end Members

section Elements

variable {reader : Reader α} {first : Bool} {text between rest : List Char} {value : α}

theorem nextElement?_first (depth : Nat) (rest : List Char) :
    nextElement? true (newLine depth ++ '{' :: rest) = .ok (some ('{' :: rest)) := by
  unfold nextElement?
  rw [skipSpace_newLine]
  rfl

theorem nextElement?_further (depth : Nat) (rest : List Char) :
    nextElement? false (',' :: (newLine depth ++ '{' :: rest)) = .ok (some ('{' :: rest)) := by
  have braced : skipSpace (newLine depth ++ '{' :: rest) = '{' :: rest := by
    rw [skipSpace_newLine, skipSpace_of_not_isSpace rfl]
  unfold nextElement?
  rw [skipSpace_of_not_isSpace rfl]
  simp [braced]

theorem nextElement?_end (first : Bool) (depth : Nat) (rest : List Char) :
    nextElement? first (newLine depth ++ ']' :: rest) = .ok none := by
  unfold nextElement?
  rw [skipSpace_newLine]
  rfl

theorem element?_of_next (next : nextElement? first text = .ok (some between))
    (read : reader.read between = .ok (value, rest)) :
    element? first reader text = .ok (some (value, rest)) := by
  simp only [element?, next, read]

/-- One element is read, and then what follows it. -/
theorem elements_step (next : element? first reader text = .ok (some (value, between)))
    {values : List α} (more : elements reader false between = .ok (values, rest)) :
    elements reader first text = .ok (value :: values, rest) := by
  rw [elements]
  split
  · rename_i failed
    rw [next] at failed
    cases failed
  · rename_i none
    rw [next] at none
    cases none
  · rename_i found
    rw [next] at found
    cases found
    rw [more]

theorem elements_end (next : nextElement? first text = .ok none) :
    elements reader first text = .ok ([], skipSpace text) := by
  have none : element? first reader text = .ok none := by simp only [element?, next]
  rw [elements]
  split
  · rename_i failed
    rw [none] at failed
    cases failed
  · rfl
  · rename_i found
    rw [none] at found
    cases found

end Elements

section Lists

variable {reader : Reader α} {toJson : α → Json} {depth : Nat}
  (braced : ∀ value, ∃ tail, indentedAt depth (toJson value) = '{' :: tail)
  (reads : ∀ value rest, reader.read (indentedAt depth (toJson value) ++ rest) = .ok (value, rest))
include braced reads

/-- Further elements are read up to the end of the array, by induction on them. -/
theorem elements_indentedItems (values : List α) (outer : Nat) (rest : List Char) :
    elements reader false
        (indentedItems depth (values.map toJson) ++ (newLine outer ++ ']' :: rest)) =
      .ok (values, ']' :: rest) := by
  induction values with
  | nil =>
    rw [List.map_nil, indentedItems, List.nil_append, elements_end (nextElement?_end _ _ _),
      skipSpace_newLine]
    rfl
  | cons value values ih =>
    obtain ⟨tail, shape⟩ := braced value
    have read :=
      reads value (indentedItems depth (values.map toJson) ++ (newLine outer ++ ']' :: rest))
    simp only [List.map_cons, indentedItems, List.cons_append, List.append_assoc]
    rw [shape, List.cons_append] at read ⊢
    exact elements_step (element?_of_next (nextElement?_further depth _) read) ih

end Lists

theorem readList_of_elements {reader : Reader α} {text between rest : List Char} {values : List α}
    (read : elements reader true text = .ok (values, between))
    (closed : closeList between = .ok rest) :
    readList reader ('[' :: text) = .ok (values, rest) := by
  unfold readList
  rw [skipSpace_of_not_isSpace rfl]
  simp only [read, closed]

/-- A list of values that are written as objects is read back. -/
theorem readList_indentedAt {reader : Reader α} {toJson : α → Json} {depth : Nat}
    (braced : ∀ value, ∃ tail, indentedAt (depth + 1) (toJson value) = '{' :: tail)
    (reads : ∀ value rest,
      reader.read (indentedAt (depth + 1) (toJson value) ++ rest) = .ok (value, rest))
    (values : List α) (rest : List Char) :
    readList reader (indentedAt depth (.array (values.map toJson)) ++ rest) =
      .ok (values, rest) := by
  cases values with
  | nil =>
    have read : elements reader true (']' :: rest) = .ok ([], skipSpace (']' :: rest)) :=
      elements_end rfl
    exact readList_of_elements read rfl
  | cons value values =>
    obtain ⟨tail, shape⟩ := braced value
    have read := reads value
      (indentedItems (depth + 1) (values.map toJson) ++ (newLine depth ++ ']' :: rest))
    have more := elements_indentedItems braced reads values depth rest
    simp only [List.map_cons, indentedAt, List.cons_append, List.append_assoc, List.nil_append]
    rw [shape, List.cons_append] at read ⊢
    exact readList_of_elements
      (elements_step (element?_of_next (nextElement?_first (depth + 1) _) read) more) rfl

/-- A record in the form of an object, by what its members are. -/
theorem readRecord_of_members {wanted : Wanted}
    {ofMembers ofElements : List Char → Except Fault (α × List Char)}
    {text between rest : List Char} {value : α} (read : ofMembers text = .ok (value, between))
    (closed : closeObject between = .ok rest) :
    readRecord wanted ofMembers ofElements ('{' :: text) = .ok (value, rest) := by
  unfold readRecord
  rw [skipSpace_of_not_isSpace rfl]
  simp only [read, closed]

end DriverCompat.Json
