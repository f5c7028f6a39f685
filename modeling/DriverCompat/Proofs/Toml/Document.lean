import DriverCompat.Proofs.Toml.Range
import DriverCompat.Toml.Document
import Mathlib.Data.List.Nodup
import Mathlib.Data.List.Basic

/-! # The keys of a document

No key of a document has two values: a line that gives a key another one ends the reading. What a
line gives to a key stays what it is, whatever tables other lines make.
-/

namespace DriverCompat.Toml

/-- The names of the keys of a table, in order. -/
def names (entries : Entries) : List String := entries.map fun entry => entry.1.name

@[simp] theorem names_nil : names [] = [] := rfl

@[simp] theorem names_cons (entry : Key × Value) (rest : Entries) :
    names (entry :: rest) = entry.1.name :: names rest := rfl

@[simp] theorem names_append (first second : Entries) :
    names (first ++ second) = names first ++ names second :=
  List.map_append

theorem mem_names_iff {entries : Entries} {name : String} :
    name ∈ names entries ↔ (entries.any fun entry => entry.1.name == name) = true := by
  simp [names]

theorem find?_eq_none_iff {entries : Entries} {name : String} :
    (entries.find? fun entry => entry.1.name == name) = none ↔ name ∉ names entries := by
  rw [List.find?_eq_none, mem_names_iff, List.any_eq_true]
  simp

theorem names_map {change : Key × Value → Key × Value}
    (keys : ∀ entry, (change entry).1 = entry.1) (entries : Entries) :
    names (entries.map change) = names entries := by
  rw [names, names, List.map_map]
  apply List.map_congr_left
  intro entry _
  rw [Function.comp_apply, keys]

theorem names_replace (entries : Entries) (name : String) (value : Value) :
    names (descend.replace entries name value) = names entries := by
  apply names_map
  intro entry
  split
  · rfl
  · rfl

/-- Two steps in a row succeed only if both do. -/
theorem ok_of_bind {ε α β : Type} {first : Except ε α} {then_ : α → Except ε β} {result : β}
    (run : first >>= then_ = .ok result) :
    ∃ value, first = .ok value ∧ then_ value = .ok result := by
  cases first with
  | error fault => cases run
  | ok value => exact ⟨value, rfl, run⟩

/-! ## What lines do to the entries of a document -/

/-- A property of values that all tables have. -/
structure HoldsOfTables (holds : Value → Prop) : Prop where
  table : ∀ origin entries, holds (.table origin entries)
  tables : ∀ tables, holds (.tables tables)

/-- No two of the entries have the same key, and all values have a property. -/
structure Proper (holds : Value → Prop) (entries : Entries) : Prop where
  distinct : (names entries).Nodup
  values : ∀ entry ∈ entries, holds entry.2

variable {holds : Value → Prop}

theorem Proper.nil : Proper holds [] := ⟨List.nodup_nil, nofun⟩

theorem Proper.append {entries : Entries} {key : Key} {value : Value}
    (proper : Proper holds entries) (fresh : key.name ∉ names entries) (held : holds value) :
    Proper holds (entries ++ [(key, value)]) := by
  constructor
  · rw [names_append, names_cons, names_nil, List.nodup_append]
    refine ⟨proper.distinct, List.nodup_singleton _, ?_⟩
    rintro name among other same rfl
    exact fresh (List.mem_singleton.mp same ▸ among)
  · intro entry member
    rcases List.mem_append.mp member with before | last
    · exact proper.values entry before
    · rw [List.mem_singleton.mp last]
      exact held

/-- Changes of values that keep the keys and the property. -/
theorem Proper.map {entries : Entries} (proper : Proper holds entries)
    {change : Key × Value → Key × Value} (keys : ∀ entry, (change entry).1 = entry.1)
    (held : ∀ entry, holds entry.2 → holds (change entry).2) :
    Proper holds (entries.map change) := by
  constructor
  · rw [names_map keys]
    exact proper.distinct
  · intro entry member
    obtain ⟨old, among, rfl⟩ := List.mem_map.mp member
    exact held old (proper.values old among)

theorem Proper.filter {entries : Entries} (proper : Proper holds entries)
    (keep : Key × Value → Bool) : Proper holds (entries.filter keep) where
  distinct := proper.distinct.sublist (List.filter_sublist.map _)
  values entry member := proper.values entry (List.mem_of_mem_filter member)

theorem Proper.replace {entries : Entries} (proper : Proper holds entries) (name : String)
    {value : Value} (held : holds value) : Proper holds (descend.replace entries name value) := by
  apply proper.map
  · intro entry
    split
    · rfl
    · rfl
  · intro entry before
    split
    · exact held
    · exact before

/-- A change further down replaces at most one table, or adds one. -/
theorem Proper.descend (tables : HoldsOfTables holds) {fresh origin : Origin}
    {enter : Key → Origin → Except Cause Unit}
    {change : Origin → Entries → Except Cause Entries} {key : Key} {path : List Key}
    {entries after : Entries} (proper : Proper holds entries)
    (changed : descend fresh enter change (key :: path) origin entries = .ok after) :
    Proper holds after ∧ ∀ name ∈ names entries, name ∈ names after := by
  have replaced (value : Value) (held : holds value) :
      Proper holds (descend.replace entries key.name value) ∧
        ∀ name ∈ names entries, name ∈ names (descend.replace entries key.name value) := by
    refine ⟨proper.replace key.name held, fun name among => ?_⟩
    rwa [names_replace]
  unfold Toml.descend at changed
  split at changed
  · rename_i absent
    obtain ⟨inner, -, returned⟩ := ok_of_bind changed
    obtain rfl := Except.ok.inj returned
    refine ⟨proper.append (find?_eq_none_iff.mp absent) (tables.table _ _), fun name among => ?_⟩
    rw [names_append]
    exact List.mem_append_left _ among
  · obtain ⟨_, -, entered⟩ := ok_of_bind changed
    obtain ⟨inner, -, returned⟩ := ok_of_bind entered
    obtain rfl := Except.ok.inj returned
    exact replaced _ (tables.table _ _)
  · obtain ⟨inner, -, returned⟩ := ok_of_bind changed
    obtain rfl := Except.ok.inj returned
    exact replaced _ (tables.tables _)
  · cases changed

theorem Proper.addEntry {path : List Key} {key : Key} {value : Value}
    {table : Option (List String)} {origin : Origin} {entries after : Entries}
    (proper : Proper holds entries) (held : holds value)
    (added : Toml.addEntry path key value table origin entries = .ok after) :
    key.name ∉ names entries ∧ after = entries ++ [(key, value)] ∧ Proper holds after := by
  unfold Toml.addEntry at added
  split_ifs at added with dotted present
  · have fresh : key.name ∉ names entries := fun among => present (mem_names_iff.mp among)
    obtain rfl := Except.ok.inj added
    exact ⟨fresh, rfl, proper.append fresh held⟩

/-! ## Drafts -/

namespace Draft

/-- The entries that have their place are proper. The table of the last header gets another key, and
without a header the entries that are being added to are those of the document. -/
structure Sound (holds : Value → Prop) (draft : Draft) : Prop where
  placed : Proper holds draft.placed
  document : draft.target = .document → Proper holds draft.open_
  table : ∀ key, draft.target = .table [] key → key.name ∉ names draft.placed

/-- A line that gives a value to a key gives one that has the property. -/
def Gives (holds : Value → Prop) : Line → Prop
  | .pair _ _ value => holds value
  | _ => True

theorem Sound.empty : Sound holds .empty := ⟨.nil, fun _ => .nil, nofun⟩

/-- A value that is given to a key of the document itself comes behind all that is there, if the key
has none yet; one that is given to a dotted key leaves the keys that are there. -/
theorem insert_eq_ok (tables : HoldsOfTables holds) {draft after : Draft} {path : List Key}
    {key : Key} {value : Value} (proper : Proper holds draft.open_) (held : holds value)
    (inserted : draft.insert path key value = .ok after) :
    after = { draft with open_ := after.open_ } ∧ Proper holds after.open_ ∧
      (∀ name ∈ names draft.open_, name ∈ names after.open_) ∧
      (path = [] → key.name ∉ names draft.open_ ∧ after.open_ = draft.open_ ++ [(key, value)]) := by
  obtain ⟨open_, changed, returned⟩ := ok_of_bind inserted
  obtain rfl := Except.ok.inj returned
  cases path with
  | nil =>
    rw [descend] at changed
    obtain ⟨fresh, rfl, after⟩ := proper.addEntry held changed
    refine ⟨rfl, after, fun name among => ?_, fun _ => ⟨fresh, rfl⟩⟩
    rw [names_append]
    exact List.mem_append_left _ among
  | cons first path =>
    obtain ⟨after, kept⟩ := proper.descend tables changed
    exact ⟨rfl, after, kept, nofun⟩

theorem Sound.insert (tables : HoldsOfTables holds) {draft after : Draft}
    (sound : draft.Sound holds) {path : List Key} {key : Key} {value : Value} (held : holds value)
    (inserted : draft.insert path key value = .ok after) : after.Sound holds := by
  have same : after.placed = draft.placed ∧ after.target = draft.target := by
    obtain ⟨open_, -, returned⟩ := ok_of_bind inserted
    obtain rfl := Except.ok.inj returned
    exact ⟨rfl, rfl⟩
  refine ⟨same.1 ▸ sound.placed, fun root => ?_, fun other header => ?_⟩
  · rw [same.2] at root
    exact (insert_eq_ok tables (sound.document root) held inserted).2.1
  · rw [same.1]
    rw [same.2] at header
    exact sound.table other header

theorem Sound.close (tables : HoldsOfTables holds) {draft : Draft} (sound : draft.Sound holds)
    {entries : Entries} (closed : draft.close = .ok entries) : Proper holds entries := by
  unfold Draft.close at closed
  split at closed
  · rename_i root
    obtain rfl := Except.ok.inj closed
    exact sound.document root
  · rename_i path key header
    cases path with
    | nil =>
      rw [atHeader, descend] at closed
      obtain rfl := Except.ok.inj closed
      exact sound.placed.append (sound.table key header) (tables.table _ _)
    | cons first path => exact (sound.placed.descend tables closed).1
  · rename_i path key header
    cases path with
    | nil =>
      rw [atHeader, descend] at closed
      obtain rfl := Except.ok.inj closed
      apply sound.placed.map
      · rintro ⟨other, value⟩
        split
        · rename_i same
          cases same
          split <;> rfl
        · rfl
      · rintro ⟨other, value⟩ before
        split
        · split
          · exact tables.tables _
          · exact before
        · exact before
    | cons first path => exact (sound.placed.descend tables closed).1

/-- A header takes its table out of the table that it is in. -/
theorem openTable_eq_ok {path : List Key} {key : Key} {entries : Entries} {draft : Draft}
    (opened : openTable path key entries = .ok draft) :
    atHeader path (fun entries => .ok (entries.filter fun entry => entry.1.name != key.name))
        entries = .ok draft.placed ∧ draft.target = .table path key := by
  obtain ⟨parent, -, opened⟩ := ok_of_bind opened
  dsimp only at opened
  split at opened
  · obtain ⟨open_, -, opened⟩ := ok_of_bind opened
    obtain ⟨placed, changed, returned⟩ := ok_of_bind opened
    obtain rfl := Except.ok.inj returned
    exact ⟨changed, rfl⟩
  · obtain ⟨open_, -, opened⟩ := ok_of_bind opened
    obtain ⟨placed, changed, returned⟩ := ok_of_bind opened
    obtain rfl := Except.ok.inj returned
    exact ⟨changed, rfl⟩
  · cases opened

theorem sound_openTable (tables : HoldsOfTables holds) {path : List Key} {key : Key}
    {entries : Entries} (proper : Proper holds entries) {draft : Draft}
    (opened : openTable path key entries = .ok draft) : draft.Sound holds := by
  obtain ⟨changed, target⟩ := openTable_eq_ok opened
  rw [atHeader] at changed
  cases path with
  | nil =>
    rw [descend] at changed
    have placed := (Except.ok.inj changed).symm
    refine ⟨placed ▸ proper.filter _, fun root => ?_, fun other header => ?_⟩
    · rw [target] at root
      cases root
    · rw [target] at header
      cases header
      rw [placed]
      intro among
      obtain ⟨entry, member, same⟩ := List.mem_map.mp among
      have differs := (List.mem_filter.mp member).2
      rw [same] at differs
      simp at differs
  | cons first path =>
    refine ⟨(proper.descend tables changed).1, fun root => ?_, fun other header => ?_⟩
    · rw [target] at root
      cases root
    · rw [target] at header
      cases header

theorem sound_openTables (tables : HoldsOfTables holds) {path : List Key} {key : Key}
    {entries : Entries} (proper : Proper holds entries) {draft : Draft}
    (opened : openTables path key entries = .ok draft) : draft.Sound holds := by
  obtain ⟨placed, changed, returned⟩ := ok_of_bind opened
  obtain rfl := Except.ok.inj returned
  refine ⟨?_, nofun, nofun⟩
  cases path with
  | nil =>
    rw [atHeader, descend] at changed
    split at changed
    · rename_i absent
      obtain rfl := Except.ok.inj changed
      have fresh : key.name ∉ names entries :=
        find?_eq_none_iff.mp (Option.map_eq_none_iff.mp absent)
      exact proper.append fresh (tables.tables _)
    · obtain rfl := Except.ok.inj changed
      exact proper
    · cases changed
  | cons first path => exact (proper.descend tables changed).1

theorem Sound.add (tables : HoldsOfTables holds) {draft after : Draft} (sound : draft.Sound holds)
    {line : Line} (gives : Gives holds line) (added : draft.add line = .ok after) :
    after.Sound holds := by
  cases line with
  | pair path key value => exact sound.insert tables gives added
  | table path key =>
    obtain ⟨entries, closed, opened⟩ := ok_of_bind added
    exact sound_openTable tables (sound.close tables closed) opened
  | tables path key =>
    obtain ⟨entries, closed, opened⟩ := ok_of_bind added
    exact sound_openTables tables (sound.close tables closed) opened

/-- By induction on the lines. -/
theorem Sound.addAll (tables : HoldsOfTables holds) {draft after : Draft}
    (sound : draft.Sound holds) {said : List (Line × Nat)}
    (gives : ∀ line ∈ said, Gives holds line.1) (added : draft.addAll said = .ok after) :
    after.Sound holds := by
  induction said generalizing draft with
  | nil =>
    obtain rfl := Except.ok.inj added
    exact sound
  | cons line rest ih =>
    obtain ⟨first, others⟩ := List.forall_mem_cons.mp gives
    obtain ⟨line, unread⟩ := line
    rw [Draft.addAll] at added
    split at added
    · rename_i next one
      exact ih (sound.add tables first one) others added
    · cases added

/-- The names of the keys of the document itself that lines in front of the first header give a
value to, in order. -/
def rootNames : List (Line × Nat) → List String
  | (.pair [] key _, _) :: rest => key.name :: rootNames rest
  | (.pair (_ :: _) _ _, _) :: rest => rootNames rest
  | _ => []

theorem rootNames_pairs (pairs : List ((Key × Value) × Nat)) :
    rootNames (pairs.map fun pair => (.pair [] pair.1.1 pair.1.2, pair.2)) =
      pairs.map fun pair => pair.1.1.name := by
  induction pairs with
  | nil => rfl
  | cons pair rest ih => exact congrArg (pair.1.1.name :: ·) ih

/-- By induction on the lines: a key is given a value only if it has none, and keys stay. -/
theorem nodup_rootNames (tables : HoldsOfTables holds) {draft after : Draft}
    (proper : Proper holds draft.open_) {said : List (Line × Nat)}
    (gives : ∀ line ∈ said, Gives holds line.1) (added : draft.addAll said = .ok after) :
    (rootNames said).Nodup ∧ ∀ name ∈ rootNames said, name ∉ names draft.open_ := by
  induction said generalizing draft with
  | nil => exact ⟨List.nodup_nil, nofun⟩
  | cons line rest ih =>
    obtain ⟨held, others⟩ := List.forall_mem_cons.mp gives
    obtain ⟨line, unread⟩ := line
    rw [Draft.addAll] at added
    split at added
    · rename_i next one
      cases line with
      | pair path key value =>
        obtain ⟨-, further, kept, root⟩ := insert_eq_ok tables proper held one
        obtain ⟨distinct, fresh⟩ := ih further others added
        cases path with
        | nil =>
          obtain ⟨new, last⟩ := root rfl
          have among : key.name ∈ names next.open_ := by
            rw [last, names_append]
            exact List.mem_append_right _ List.mem_cons_self
          refine ⟨List.nodup_cons.mpr ⟨fun twice => fresh _ twice among, distinct⟩, ?_⟩
          intro name member present
          rcases List.mem_cons.mp member with rfl | later
          · exact new present
          · exact fresh name later (kept name present)
        | cons first path =>
          exact ⟨distinct, fun name member present => fresh name member (kept name present)⟩
      | table path key => exact ⟨List.nodup_nil, nofun⟩
      | tables path key => exact ⟨List.nodup_nil, nofun⟩
    · cases added

/-- Lines that give values to keys of the document itself, each key another one, put their entries
behind those that are there. -/
theorem addAll_pairs (pairs : List ((Key × Value) × Nat)) {draft : Draft}
    (fresh : (names (draft.open_ ++ pairs.map Prod.fst)).Nodup) :
    draft.addAll (pairs.map fun pair => (.pair [] pair.1.1 pair.1.2, pair.2)) =
      .ok { draft with open_ := draft.open_ ++ pairs.map Prod.fst } := by
  induction pairs generalizing draft with
  | nil => simp [Draft.addAll]
  | cons pair rest ih =>
    obtain ⟨⟨key, value⟩, unread⟩ := pair
    rw [List.map_cons, List.append_cons] at fresh
    have absent : key.name ∉ names draft.open_ := by
      intro among
      rw [names_append, names_append, List.nodup_append] at fresh
      have parts := List.nodup_append.mp fresh.1
      exact parts.2.2 key.name among key.name List.mem_cons_self rfl
    have one : draft.add (.pair [] key value) =
        .ok { draft with open_ := draft.open_ ++ [(key, value)] } := by
      have added : Toml.addEntry [] key value (some draft.path) .header draft.open_ =
          .ok (draft.open_ ++ [(key, value)]) := by
        rw [Toml.addEntry, if_neg (by simp), if_neg (mt mem_names_iff.mpr absent)]
      rw [Draft.add, Draft.insert, descend, added]
      rfl
    have others := @ih { draft with open_ := draft.open_ ++ [(key, value)] } fresh
    rw [List.map_cons, Draft.addAll, one]
    dsimp only
    rw [others, List.map_cons, ← List.append_cons]

end Draft

/-! ## Lines -/

theorem holdsOfTables_inRange : HoldsOfTables InRange := ⟨nofun, nofun⟩

/-- The end of a line does not change what the line says. -/
theorem ended_eq_ok {α : Type} {said found : α} {text rest : List Char}
    (read : ended said text = .ok (found, rest)) : found = said := by
  unfold ended at read
  split at read
  · cases read
    rfl
  · cases read

theorem gives_of_line {text rest : List Char} {said : Line}
    (read : line text = .ok (some said, rest)) : Draft.Gives InRange said := by
  unfold line at read
  split at read
  · split at read
    · cases read
    · cases ended_eq_ok read
      trivial
    · cases read
  · split at read
    · cases read
    · cases ended_eq_ok read
      trivial
    · cases read
  · cases ended_eq_ok read
  · cases ended_eq_ok read
  · cases ended_eq_ok read
  · split at read
    · cases read
    · rename_i one
      cases ended_eq_ok read
      exact inRange_of_pair one

/-- By induction along the reader of lines. -/
theorem gives_of_lines (text : List Char) :
    ∀ said ∈ (lines text).1, Draft.Gives InRange said.1 := by
  fun_induction lines text with
  | case1 => exact nofun
  | case2 => exact nofun
  | case3 text one rest shorter more stop further nonempty read ih =>
    intro said member
    rcases List.mem_append.mp member with first | later
    · obtain ⟨line, among, rfl⟩ := List.mem_map.mp first
      rw [Option.mem_toList.mp among] at read
      exact gives_of_line read
    · rw [further] at ih
      exact ih said later
  | case4 => exact nofun

/-! ## Documents -/

/-- The text of a document behind its byte order mark, if it has one. -/
def body (text : List Char) : List Char :=
  if text.head? = some byteOrderMark then text.drop 1 else text

theorem document_eq (text : List Char) :
    document text = (do
      let draft ← Draft.empty.addAll (lines (body text)).1
      match (lines (body text)).2, draft.close with
      | some stop, _ => .error stop
      | none, .ok entries => .ok entries
      | none, .error cause => .error ⟨cause, 0⟩) := rfl

/-- A document is what all of its lines have made, with the last table closed. -/
theorem document_eq_ok_iff {text : List Char} {entries : Entries} :
    document text = .ok entries ↔ (lines (body text)).2 = none ∧ ∃ draft,
      Draft.empty.addAll (lines (body text)).1 = .ok draft ∧ draft.close = .ok entries := by
  rw [document_eq]
  generalize lines (body text) = read
  obtain ⟨said, stop⟩ := read
  constructor
  · intro made
    obtain ⟨draft, added, ended⟩ := ok_of_bind made
    clear made
    dsimp only at ended
    split at ended
    · cases ended
    · rename_i closed
      cases ended
      exact ⟨rfl, draft, added, closed⟩
    · cases ended
  · rintro ⟨ended, draft, added, closed⟩
    dsimp only at ended added
    simp only [ended, added, closed, bind, Except.bind]

/-- No key of a document has two values, and its integers are of sixty-four bits. -/
theorem proper_document {text : List Char} {entries : Entries}
    (made : document text = .ok entries) : Proper InRange entries := by
  obtain ⟨-, draft, added, closed⟩ := document_eq_ok_iff.mp made
  have gives := gives_of_lines (body text)
  exact (Draft.Sound.empty.addAll holdsOfTables_inRange gives added).close
    holdsOfTables_inRange closed

/-- A text that gives a key of the document itself two values is no document. -/
theorem document_eq_error_of_twice {text : List Char}
    (twice : ¬ (Draft.rootNames (lines (body text)).1).Nodup) :
    ∃ stop, document text = .error stop := by
  cases made : document text with
  | error stop => exact ⟨stop, rfl⟩
  | ok entries =>
    obtain ⟨-, draft, added, -⟩ := document_eq_ok_iff.mp made
    have gives := gives_of_lines (body text)
    exact absurd (Draft.nodup_rootNames holdsOfTables_inRange .nil gives added).1 twice

end DriverCompat.Toml
