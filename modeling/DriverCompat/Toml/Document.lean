import DriverCompat.Toml.Line

/-! # TOML documents

The lines of a text are put together into one table. Lines add to the table of the last header,
which takes its place in the document when the next header comes. A line that contradicts an
earlier one ends the reading, as does a malformed one, whichever comes first.
-/

namespace DriverCompat.Toml

/-- The table that lines are being added to. -/
inductive Target where
  /-- The document itself, before the first header. -/
  | document
  | table (path : List Key) (key : Key)
  /-- One of several tables under a header. -/
  | tables (path : List Key) (key : Key)

/-- A document that is being put together: what has its place already, the table that is being
added to, and its entries. -/
structure Draft where
  placed : Entries
  target : Target
  open_ : Entries

namespace Draft

def empty : Draft := ⟨[], .document, []⟩

/-- The path of the open table. -/
def path (draft : Draft) : List String :=
  match draft.target with
  | .document => []
  | .table path key => path.map Key.name ++ [key.name]
  | .tables path key => path.map Key.name ++ [key.name]

/-- A header can lead through every table that is not in braces. -/
def enterByHeader (_ : Key) : Origin → Except Cause Unit
  | .inline => .error .malformed
  | _ => .ok ()

/-- A dotted key can lead through tables without a header of their own. -/
def enterByKey (key : Key) : Origin → Except Cause Unit
  | .header => .error (twice key none)
  | .inline => .error .malformed
  | _ => .ok ()

/-- Changes the table in which a header puts its own. -/
def atHeader (path : List Key) (change : Entries → Except Cause Entries) (entries : Entries) :
    Except Cause Entries :=
  descend .implied enterByHeader (fun _ => change) path .header entries

/-- Gives the open table its place. -/
def close (draft : Draft) : Except Cause Entries :=
  match draft.target with
  | .document => .ok draft.open_
  | .table path key =>
    atHeader path (fun entries => .ok (entries ++ [(key, .table .header draft.open_)])) draft.placed
  | .tables path key =>
    let add (entries : Entries) : Entries := entries.map fun entry =>
      match entry with
      | (other, .tables tables) =>
        if other.name = key.name then (other, .tables (tables ++ [draft.open_])) else entry
      | _ => entry
    atHeader path (fun entries => .ok (add entries)) draft.placed

/-- What stands under a key. -/
def entry? (entries : Entries) (name : String) : Option Value :=
  (entries.find? fun entry => entry.1.name == name).map Prod.snd

/-- Opens the table of a header. A table that longer headers have implied is taken up again, and
goes behind the entries that came after it. -/
def openTable (path : List Key) (key : Key) (placed : Entries) : Except Cause Draft := do
  let parent ← parentOf path placed
  let open_ ← match entry? parent key.name with
    | none => pure []
    | some (.table .implied entries) => pure entries
    | some _ => .error .malformed
  let placed ← atHeader path
    (fun entries => .ok (entries.filter fun entry => entry.1.name != key.name)) placed
  return ⟨placed, .table path key, open_⟩
where
  /-- The entries of the table at the end of a path; a table that does not exist has none. -/
  parentOf : List Key → Entries → Except Cause Entries
    | [], entries => .ok entries
    | key :: path, entries =>
      match entry? entries key.name with
      | none => .ok []
      | some (.table _ inner) => parentOf path inner
      | some (.tables tables) => parentOf path (tables.getLast?.getD [])
      | some _ => .error .malformed

/-- Opens one more of several tables. -/
def openTables (path : List Key) (key : Key) (placed : Entries) : Except Cause Draft := do
  let reserve (entries : Entries) : Except Cause Entries :=
    match entry? entries key.name with
    | none => .ok (entries ++ [(key, .tables [])])
    | some (.tables _) => .ok entries
    | some _ => .error .malformed
  return ⟨← atHeader path reserve placed, .tables path key, []⟩

/-- Adds an entry to the open table. -/
def insert (draft : Draft) (path : List Key) (key : Key) (value : Value) : Except Cause Draft := do
  let open_ ← descend .dotted enterByKey (addEntry path key value (some draft.path)) path .header
    draft.open_
  return { draft with open_ }

/-- The draft with one more line. -/
def add (draft : Draft) : Line → Except Cause Draft
  | .pair path key value => draft.insert path key value
  | .table path key => do openTable path key (← draft.close)
  | .tables path key => do openTables path key (← draft.close)

/-- The draft with all of some lines. -/
def addAll (draft : Draft) : List (Line × Nat) → Except Stop Draft
  | [] => .ok draft
  | (line, unread) :: rest =>
    match draft.add line with
    | .ok draft => draft.addAll rest
    | .error cause => .error ⟨cause, unread⟩

end Draft

/-- The byte order mark with which a text may start. -/
def byteOrderMark : Char := '\uFEFF'

/-- The document of a text. -/
def document (text : List Char) : Except Stop Entries := do
  let body := if text.head? = some byteOrderMark then text.drop 1 else text
  let (said, stop) := lines body
  let draft ← Draft.empty.addAll said
  match stop, draft.close with
  | some stop, _ => .error stop
  | none, .ok entries => .ok entries
  | none, .error cause => .error ⟨cause, 0⟩

end DriverCompat.Toml
