import DriverCompat.Toml.Scalar

/-! # Lines of a TOML text

A text is a sequence of lines, each a key with a value, a header, or nothing. Values may reach
over several lines, and arrays and tables in braces nest up to a limit.
-/

namespace DriverCompat.Toml

/-- A line that says something. -/
inductive Line where
  /-- A value under a key, which has a path in front of it if it is dotted. -/
  | pair (path : List Key) (key : Key) (value : Value)
  /-- The header of a table, with the place of its bracket. -/
  | table (path : List Key) (key : Key)
  /-- The header of one of several tables. -/
  | tables (path : List Key) (key : Key)

/-! ## Keys -/

def isBareKeyChar (c : Char) : Bool := c.isAlphanum || c == '-' || c == '_'

/-- A key without dots: a string on one line, or a bare word. -/
def simpleKey (text : List Char) : Read String :=
  let named : Read (List Char) → Read String
    | .ok (chars, rest) => .ok (String.ofList chars, rest)
    | .error stop => .error stop
  match text with
  | '"' :: rest => named (basicBody rest)
  | '\'' :: rest => named (literalBody rest)
  | _ =>
    let word := text.takeWhile isBareKeyChar
    if word.isEmpty then .here text else .ok (String.ofList word, text.dropWhile isBareKeyChar)

/-- The parts of a dotted key and the text behind them and the blanks that follow. -/
def dottedKey (text : List Char) : Read (List (String × Nat)) :=
  let start := skipBlanks text
  match simpleKey start with
  | .error stop => .error stop
  | .ok (name, rest) =>
    match skipBlanks rest with
    | '.' :: more =>
      if _shorter : more.length < text.length then
        match dottedKey more with
        | .error stop => .error stop
        | .ok (parts, rest) => .ok ((name, start.length) :: parts, rest)
      else .here more
    | rest => .ok ([(name, start.length)], rest)
termination_by text.length

/-- How many parts a key may have, and how deep values may nest, is less than this. -/
def depthLimit : Nat := 80

/-- A dotted key, split into its path and its last part, whose value starts at a place. -/
def splitKey? (parts : List (String × Nat)) (valueAt : Nat) : Option (List Key × Key) :=
  match parts.getLast? with
  | none => none
  | some (name, keyAt) =>
    if parts.length < depthLimit then
      some (parts.dropLast.map fun (name, keyAt) => ⟨name, keyAt, keyAt⟩, ⟨name, keyAt, valueAt⟩)
    else none

/-! ## Tables -/

/-- The cause of a key that is already there. -/
def twice (key : Key) (table : Option (List String)) : Cause := .duplicateKey key.name table

/-- Changes the table at the end of a path, making the tables on the way that do not exist as
tables of the origin `fresh`. Whether an existing table may be entered says `enter`. The last of
several tables under one header may always be entered. -/
def descend (fresh : Origin) (enter : Key → Origin → Except Cause Unit)
    (change : Origin → Entries → Except Cause Entries) :
    List Key → Origin → Entries → Except Cause Entries
  | [], origin, entries => change origin entries
  | key :: path, _, entries =>
    match entries.find? fun entry => entry.1.name == key.name with
    | none => do
      let inner ← descend fresh enter change path fresh []
      return entries ++ [(key, .table fresh inner)]
    | some (_, .table origin inner) => do
      enter key origin
      let inner ← descend fresh enter change path origin inner
      return replace entries key.name (.table origin inner)
    | some (_, .tables tables) => do
      let inner ← descend fresh enter change path .header (tables.getLast?.getD [])
      return replace entries key.name (.tables (tables.dropLast ++ [inner]))
    | some _ => .error .malformed
where
  /-- The entries with another value under a key. -/
  replace (entries : Entries) (name : String) (value : Value) : Entries :=
    entries.map fun entry => if entry.1.name == name then (entry.1, value) else entry

/-- Adds an entry to a table that was reached by a path. A path leads only to tables that dotted
keys have made. -/
def addEntry (path : List Key) (key : Key) (value : Value) (table : Option (List String))
    (origin : Origin) (entries : Entries) : Except Cause Entries :=
  if !path.isEmpty ∧ origin ≠ .dotted then .error (twice key none)
  else if entries.any fun entry => entry.1.name == key.name then .error (twice key table)
  else .ok (entries ++ [(key, value)])

/-- In braces, only tables that dotted keys have made can be entered. -/
def enterInline (key : Key) : Origin → Except Cause Unit
  | .dotted => .ok ()
  | _ => .error (twice key none)

/-- Adds an entry to a table in braces. -/
def insertInline (entries : Entries) (path : List Key) (key : Key) (value : Value) :
    Except Cause Entries :=
  descend .dotted enterInline (addEntry path key value none) path .inline entries

/-- The table that the entries in braces make. -/
def inlineTable (pairs : List (List Key × Key × Value)) : Except Cause Entries :=
  pairs.foldlM (fun entries (path, key, value) => insertInline entries path key value) []

/-! ## Values -/

/-- The text behind blanks, line breaks and comments. -/
def skipTrivia (text : List Char) : List Char :=
  match text with
  | ' ' :: rest => skipTrivia rest
  | '\t' :: rest => skipTrivia rest
  | '\n' :: rest => skipTrivia rest
  | '\r' :: '\n' :: rest => skipTrivia rest
  | '#' :: rest => skipTrivia (rest.dropWhile isPlain)
  | _ => text
termination_by text.length
decreasing_by
  all_goals simp only [List.length_cons]
  all_goals first
    | omega
    | have := (rest.dropWhile_sublist isPlain).length_le; omega

/-- The items of an array, behind its bracket or a comma. -/
def arrayItems (inner : List Char → Read Value) (text : List Char) : Read (List Value) :=
  match skipTrivia text with
  | ']' :: rest => .ok ([], rest)
  | start =>
    match inner start with
    | .error stop => .error stop
    | .ok (item, rest) =>
      match skipTrivia rest with
      | ']' :: rest => .ok ([item], rest)
      | ',' :: rest =>
        if _shorter : rest.length < text.length then
          match arrayItems inner rest with
          | .error stop => .error stop
          | .ok (items, rest) => .ok (item :: items, rest)
        else .here rest
      | rest => .here rest
termination_by text.length

/-- A key, an equality sign and a value. -/
def pair (inner : List Char → Read Value) (text : List Char) : Read (List Key × Key × Value) :=
  match dottedKey text with
  | .error stop => .error stop
  | .ok (parts, rest) =>
    match rest with
    | '=' :: rest =>
      let start := skipBlanks rest
      match splitKey? parts start.length with
      | none => .here rest
      | some (path, key) =>
        match inner start with
        | .error stop => .error stop
        | .ok (value, rest) => .ok ((path, key, value), rest)
    | rest => .here rest

/-- The pairs of a table in braces, behind its brace or a comma. -/
def inlinePairs (inner : List Char → Read Value) (text : List Char) :
    Read (List (List Key × Key × Value)) :=
  match pair inner text with
  | .error stop => .error stop
  | .ok (first, rest) =>
    match skipBlanks rest with
    | '}' :: rest => .ok ([first], rest)
    | ',' :: rest =>
      if _shorter : rest.length < text.length then
        match inlinePairs inner rest with
        | .error stop => .error stop
        | .ok (pairs, rest) => .ok (first :: pairs, rest)
      else .here rest
    | rest => .here rest
termination_by text.length

/-- A table in braces, behind its brace. -/
def inlineValue (inner : List Char → Read Value) (text : List Char) : Read Value :=
  match skipBlanks text with
  | '}' :: rest => .ok (.table .inline [], rest)
  | start =>
    match inlinePairs inner start with
    | .error stop => .error stop
    | .ok (pairs, rest) =>
      match inlineTable pairs with
      | .ok entries => .ok (.table .inline entries, rest)
      | .error cause => .error ⟨cause, text.length⟩

/-- A value in which values nest at most so deep. -/
def value : Nat → List Char → Read Value
  | 0, text => scalar text
  | depth + 1, text =>
    match text with
    | '[' :: rest =>
      match arrayItems (value depth) rest with
      | .ok (items, rest) => .ok (.array items, rest)
      | .error stop => .error stop
    | '{' :: rest => inlineValue (value depth) rest
    | _ => scalar text

/-! ## Lines -/

/-- The end of a line, behind blanks and a comment. -/
def lineEnd (text : List Char) : Read Unit :=
  let rest := match skipBlanks text with
    | '#' :: rest => rest.dropWhile isPlain
    | rest => rest
  match rest with
  | [] => .ok ((), [])
  | _ =>
    match lineBreak? rest with
    | some rest => .ok ((), rest)
    | none => .here rest

/-- The end of a line behind something that it says. -/
def ended {α : Type} (said : α) (rest : List Char) : Read α :=
  match lineEnd rest with
  | .ok ((), rest) => .ok (said, rest)
  | .error stop => .error stop

/-- The path of a header that starts at a place, and the text behind it. -/
def headerKey (headerAt : Nat) (text : List Char) : Read (List Key × Key) :=
  match dottedKey text with
  | .error stop => .error stop
  | .ok (parts, rest) =>
    match splitKey? parts headerAt with
    | none => .here text
    | some found => .ok (found, rest)

/-- A line, from its first character that is no blank. -/
def line (text : List Char) : Read (Option Line) :=
  match text with
  | '[' :: '[' :: rest =>
    match headerKey text.length rest with
    | .error stop => .error stop
    | .ok ((path, key), ']' :: ']' :: rest) => ended (some (.tables path key)) rest
    | .ok (_, rest) => .here rest
  | '[' :: rest =>
    match headerKey text.length rest with
    | .error stop => .error stop
    | .ok ((path, key), ']' :: rest) => ended (some (.table path key)) rest
    | .ok (_, rest) => .here rest
  | '#' :: _ => ended none text
  | '\n' :: _ => ended none text
  | '\r' :: _ => ended none text
  | _ =>
    match pair (value (depthLimit - 1)) text with
    | .error stop => .error stop
    | .ok ((path, key, value), rest) => ended (some (.pair path key value)) rest

/-- The lines of a text that say something, with the number of characters unread at each, up to
where the text is malformed if it is. -/
def lines (text : List Char) : List (Line × Nat) × Option Stop :=
  match skipBlanks text with
  | [] => ([], none)
  | start =>
    match line start with
    | .error stop => ([], some stop)
    | .ok (said, rest) =>
      if _shorter : rest.length < text.length then
        let (more, stop) := lines rest
        (said.toList.map (·, start.length) ++ more, stop)
      else ([], some ⟨.malformed, rest.length⟩)
termination_by text.length

end DriverCompat.Toml
