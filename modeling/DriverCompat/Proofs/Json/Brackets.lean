import DriverCompat.Proofs.Json.Denotation

/-! # What readers make of arrays and objects

The items of an array denote something if each of them does. The members of an object change a
state, one after the other, as a table says for each name. A record may be written in either way.
What is read up to a closing bracket is always written as the grammar asks for it.
-/

namespace DriverCompat.Json

open Text

variable {α β σ : Type} {text between rest : List Char}

/-! ## Between brackets -/

theorem closeList_eq_ok_iff : closeList text = .ok rest ↔ skipSpace text = ']' :: rest := by
  constructor
  · intro closed
    unfold closeList at closed
    split at closed
    · simp at closed
    · rename_i eq
      cases closed
      exact eq
    · split at closed <;> simp at closed
    · simp at closed
  · intro eq
    simp only [closeList, eq]

theorem closeObject_eq_ok_iff : closeObject text = .ok rest ↔ skipSpace text = '}' :: rest := by
  constructor
  · intro closed
    unfold closeObject at closed
    split at closed
    · simp at closed
    · rename_i eq
      cases closed
      exact eq
    · simp at closed
    · simp at closed
  · intro eq
    simp only [closeObject, eq]

/-- What is read behind an opening bracket, if the closing one follows. -/
def enclosed (close : List Char → Except Fault (List Char))
    (body : List Char → Except Fault (α × List Char)) (text : List Char) : Option (α × List Char) :=
  (body text).toOption.bind fun read => (close read.2).toOption.map (read.1, ·)

theorem enclosed_eq_some_iff {close : List Char → Except Fault (List Char)}
    {body : List Char → Except Fault (α × List Char)} {found : α} :
    enclosed close body text = some (found, rest) ↔
      ∃ between, body text = .ok (found, between) ∧ close between = .ok rest := by
  simp only [enclosed, Option.bind_eq_some_iff, Option.map_eq_some_iff, toOption_eq_some_iff,
    Prod.mk.injEq, Prod.exists]
  constructor
  · rintro ⟨_, between, read, _, closed, rfl, rfl⟩
    exact ⟨between, read, closed⟩
  · rintro ⟨between, read, closed⟩
    exact ⟨_, between, read, _, closed, rfl, rfl⟩

/-- What is read between brackets is what is held there, and what that denotes. -/
structure Fills (part : List β → Part) (close : List Char → Except Fault (List Char))
    (body : List Char → Except Fault (α × List Char)) (denoted : List β → Option α) : Prop where
  reads : ∀ {held : List β} {text rest : List Char}, Writes (part held) text rest →
    enclosed close body text = (denoted held).map (·, rest)
  written : ∀ {text rest : List Char} {found : α}, enclosed close body text = some (found, rest) →
    ∃ held, Writes (part held) text rest

theorem toOption_enclosed (close : List Char → Except Fault (List Char))
    (body : List Char → Except Fault (α × List Char)) (settle : Fault → Fault) (text : List Char) :
    (match body text with
      | .error fault => .error (settle fault)
      | .ok (value, between) =>
        match close between with
        | .error fault => .error fault
        | .ok rest => .ok (value, rest) : Except Fault (α × List Char)).toOption =
      enclosed close body text := by
  rw [enclosed]
  cases body text with
  | error => rfl
  | ok read =>
    simp only [Except.toOption, Option.bind_some]
    cases close read.2 <;> rfl

theorem toOption_readList {reader : Reader α} {inner : List Char}
    (eq : skipSpace text = '[' :: inner) :
    (readList reader text).toOption = enclosed closeList (elements reader true) inner := by
  simp only [readList, eq]
  refine Eq.trans ?_
    (toOption_enclosed closeList (elements reader true) (Fault.settle listEnd) inner)
  cases elements reader true inner <;> rfl

theorem toOption_readList_of_ne {reader : Reader α}
    (noList : ∀ inner, skipSpace text ≠ '[' :: inner) : (readList reader text).toOption = none := by
  unfold readList
  split
  · rename_i eq
    exact absurd eq (noList _)
  · rfl

section Record

variable {wanted : Wanted} {ofMembers ofElements : List Char → Except Fault (α × List Char)}
  {inner : List Char}

theorem toOption_readRecord_list (eq : skipSpace text = '[' :: inner) :
    (readRecord wanted ofMembers ofElements text).toOption =
      enclosed closeList ofElements inner := by
  simp only [readRecord, eq]
  refine Eq.trans ?_ (toOption_enclosed closeList ofElements (Fault.settle listEnd) inner)
  cases ofElements inner <;> rfl

theorem toOption_readRecord_object (eq : skipSpace text = '{' :: inner) :
    (readRecord wanted ofMembers ofElements text).toOption =
      enclosed closeObject ofMembers inner := by
  simp only [readRecord, eq]
  refine Eq.trans ?_ (toOption_enclosed closeObject ofMembers (Fault.settle objectEnd) inner)
  cases ofMembers inner <;> rfl

theorem toOption_readRecord_of_ne (noList : ∀ inner, skipSpace text ≠ '[' :: inner)
    (noObject : ∀ inner, skipSpace text ≠ '{' :: inner) :
    (readRecord wanted ofMembers ofElements text).toOption = none := by
  unfold readRecord
  split
  · rename_i eq
    exact absurd eq (noList _)
  · rename_i eq
    exact absurd eq (noObject _)
  · rfl

end Record

/-- The bracket of an array, the brace of an object, or neither. -/
theorem bracket_or_brace (text : List Char) :
    (∃ inner, text = '[' :: inner) ∨ (∃ inner, text = '{' :: inner) ∨
      (∀ inner, text ≠ '[' :: inner) ∧ ∀ inner, text ≠ '{' :: inner := by
  by_cases list : ∃ inner, text = '[' :: inner
  · exact .inl list
  · by_cases object : ∃ inner, text = '{' :: inner
    · exact .inr (.inl object)
    · exact .inr (.inr ⟨not_exists.mp list, not_exists.mp object⟩)

namespace Written

/-- What an array denotes, by its items. -/
def items? (denoted : List Written → Option α) : Written → Option α
  | .array items => denoted items
  | _ => none

/-- What a record denotes, by the members of an object or the items of an array. -/
def record? (ofMembers : List Member → Option α)
    (ofItems : List Written → Option α) : Written → Option α
  | .array items => ofItems items
  | .object members => ofMembers members
  | _ => none

end Written

theorem Fills.list {reader : Reader α} {denoted : List Written → Option (List α)}
    (fills : Fills (.items true) closeList (elements reader true) denoted) :
    reader.list.Means (Written.items? denoted) where
  reads {value text rest} writes _ := by
    change (readList reader text).toOption = _
    by_cases list : ∃ inner, skipSpace text = '[' :: inner
    · obtain ⟨inner, eq⟩ := list
      obtain ⟨items, rfl, held⟩ := writes.eq_array eq
      rw [toOption_readList eq]
      exact fills.reads held
    · rw [toOption_readList_of_ne (not_exists.mp list)]
      cases writes with
      | array spaced => exact absurd ⟨_, spaced.skipSpace rfl⟩ list
      | _ => rfl
  written {text rest found} read := by
    change readList reader text = _ at read
    rw [← toOption_eq_some_iff] at read
    by_cases list : ∃ inner, skipSpace text = '[' :: inner
    · obtain ⟨inner, eq⟩ := list
      rw [toOption_readList eq] at read
      obtain ⟨items, held⟩ := fills.written read
      exact ⟨_, .array (spaced_of_skipSpace eq) held⟩
    · rw [toOption_readList_of_ne (not_exists.mp list)] at read
      cases read

theorem means_record {reader : Reader α} {wanted : Wanted}
    {ofMembers ofElements : List Char → Except Fault (α × List Char)}
    {members? : List Member → Option α} {items? : List Written → Option α}
    (reads : reader.read = readRecord wanted ofMembers ofElements)
    (fillsObject : Fills (.members true) closeObject ofMembers members?)
    (fillsArray : Fills (.items true) closeList ofElements items?) :
    reader.Means (Written.record? members? items?) where
  reads {value text rest} writes _ := by
    rw [reads]
    rcases bracket_or_brace (skipSpace text) with ⟨inner, eq⟩ | ⟨inner, eq⟩ | ⟨noList, noObject⟩
    · obtain ⟨items, rfl, held⟩ := writes.eq_array eq
      rw [toOption_readRecord_list eq]
      exact fillsArray.reads held
    · obtain ⟨list, rfl, held⟩ := writes.eq_object eq
      rw [toOption_readRecord_object eq]
      exact fillsObject.reads held
    · rw [toOption_readRecord_of_ne noList noObject]
      cases writes with
      | array spaced => exact absurd (spaced.skipSpace rfl) (noList _)
      | object spaced => exact absurd (spaced.skipSpace rfl) (noObject _)
      | _ => rfl
  written {text rest found} read := by
    rw [reads, ← toOption_eq_some_iff] at read
    rcases bracket_or_brace (skipSpace text) with ⟨inner, eq⟩ | ⟨inner, eq⟩ | ⟨noList, noObject⟩
    · rw [toOption_readRecord_list eq] at read
      obtain ⟨items, held⟩ := fillsArray.written read
      exact ⟨_, .array (spaced_of_skipSpace eq) held⟩
    · rw [toOption_readRecord_object eq] at read
      obtain ⟨list, held⟩ := fillsObject.written read
      exact ⟨_, .object (spaced_of_skipSpace eq) held⟩
    · rw [toOption_readRecord_of_ne noList noObject] at read
      cases read

/-! ## Items -/

section Items

variable {first : Bool} {value : Written} {items : List Written} {reader : Reader α}
  {denoted : Written → Option α}

theorem Writes.nextElement?_nil (writes : Writes (.items first []) text rest) :
    nextElement? first text = .ok none ∧ skipSpace text = ']' :: rest := by
  cases writes with
  | endItems spaced =>
    have eq := spaced.skipSpace rfl
    exact ⟨nextElement?_eq_ok_iff.mpr (.inl ⟨rest, eq, rfl⟩), eq⟩

theorem Writes.nextElement?_cons (writes : Writes (.items first (value :: items)) text rest) :
    ∃ start behind, nextElement? first text = .ok (some start) ∧
      Writes (.value value) start behind ∧ Writes (.items false items) behind rest := by
  cases writes with
  | item separated written further =>
    obtain ⟨c, tail, eq, -, starts⟩ := written.start
    obtain ⟨-, noEnd⟩ := Written.ne_of_startsWith starts
    refine ⟨c :: tail, _, nextElement?_eq_ok_iff.mpr (.inr ?_), eq ▸ written.behindSpace, further⟩
    cases separated with
    | front spaced => exact .inl ⟨c, tail, spaced.skipSpace_eq.trans eq, noEnd, rfl, rfl⟩
    | comma spaced => exact .inr ⟨_, c, tail, spaced.skipSpace rfl, eq, noEnd, rfl, rfl⟩

theorem Writes.element?_nil (writes : Writes (.items first []) text rest) (reader : Reader α) :
    element? first reader text = .ok none := by
  simp only [Json.element?, writes.nextElement?_nil.1]

/-- The next item is read as what it denotes, and the reading stops behind it. -/
theorem Reader.Means.toOption_element? (means : reader.Means denoted)
    (writes : Writes (.items first (value :: items)) text rest) :
    ∃ behind, (element? first reader text).toOption =
        (denoted value).map (fun found => some (found, behind)) ∧
      Writes (.items false items) behind rest := by
  obtain ⟨start, behind, next, written, further⟩ := writes.nextElement?_cons
  refine ⟨behind, ?_, further⟩
  simp only [element?, next]
  rcases means.cases written further.items_endsNumber with
    ⟨fault, failed, nothing⟩ | ⟨found, read, known⟩
  · rw [failed, nothing]
    rfl
  · rw [read, known]
    rfl

/-- Goes on behind the next element, or otherwise at the end of the array. -/
def onNext (next : Except Fault (Option (α × List Char))) (atEnd : Option β)
    (behind : α → List Char → Option β) : Option β :=
  match next with
  | .error _ => none
  | .ok none => atEnd
  | .ok (some (found, rest)) => behind found rest

/-- What a first item and then the others denote. There must be a first one. -/
def required? (denoted : Written → Option α) (more : α → List Written → Option β) :
    List Written → Option β
  | [] => none
  | value :: items => (denoted value).bind fun found => more found items

theorem Writes.onNext_nil (writes : Writes (.items first []) text rest) (reader : Reader α)
    (atEnd : Option β) (behind : α → List Char → Option β) :
    onNext (element? first reader text) atEnd behind = atEnd := by
  rw [writes.element?_nil, onNext]

/-- An item that is there is read for what it denotes. -/
theorem Reader.Means.onNext_cons (means : reader.Means denoted)
    (writes : Writes (.items first (value :: items)) text rest) (atEnd : Option β)
    (behind : α → List Char → Option β) :
    ∃ between, onNext (element? first reader text) atEnd behind =
        (denoted value).bind (behind · between) ∧
      Writes (.items false items) between rest := by
  obtain ⟨between, next, further⟩ := means.toOption_element? writes
  refine ⟨between, ?_, further⟩
  cases known : denoted value with
  | none =>
    rw [known] at next
    obtain ⟨fault, failed⟩ := toOption_eq_none_iff.mp next
    rw [failed]
    rfl
  | some found =>
    rw [known] at next
    rw [toOption_eq_some_iff.mp next]
    rfl

/-- An item that must come next, and then what follows it. -/
theorem Reader.Means.onNext_required (means : reader.Means denoted)
    (writes : Writes (.items first items) text rest)
    {behind : α → List Char → Option (β × List Char)} {more : α → List Written → Option β}
    (reads : ∀ found {between : List Char} {items : List Written},
      Writes (.items false items) between rest →
        behind found between = (more found items).map (·, rest)) :
    onNext (element? first reader text) none behind =
      (required? denoted more items).map (·, rest) := by
  cases items with
  | nil => exact writes.onNext_nil reader none behind
  | cons value items =>
    obtain ⟨between, next, further⟩ := means.onNext_cons writes none behind
    rw [next, required?]
    cases denoted value with
    | none => rfl
    | some found => exact reads found further

/-- An item that was read is written in front of whatever is written behind it. -/
theorem Reader.Means.exists_writes_of_element? (means : reader.Means denoted) {found : α}
    (read : element? first reader text = .ok (some (found, between)))
    (further : Writes (.items false items) between rest) :
    ∃ value, Writes (.items first (value :: items)) text rest := by
  unfold element? at read
  split at read
  · simp at read
  · simp at read
  · rename_i next
    split at read
    · simp at read
    · rename_i inner
      cases read
      obtain ⟨value, written⟩ := means.written inner
      refine ⟨value, ?_⟩
      rcases nextElement?_eq_ok_iff.mp next with ⟨_, _, same⟩ | ⟨c, tail, eq, -, rfl, same⟩ |
        ⟨behind, c, tail, eq, eq', -, rfl, same⟩
      · cases same
      · cases same
        exact .item (.front (spaced_of_skipSpace eq)) written further
      · cases same
        exact .item (.comma (spaced_of_skipSpace eq)) (written.spaced (spaced_of_skipSpace eq'))
          further

/-- An array ends behind its items, and only there. -/
theorem Writes.toOption_closeList (writes : Writes (.items false items) text rest) :
    (closeList text).toOption = match items with
      | [] => some rest
      | _ :: _ => none := by
  cases writes with
  | endItems spaced =>
    rw [closeList_eq_ok_iff.mpr (spaced.skipSpace rfl)]
    rfl
  | item separated =>
    cases separated with
    | comma spaced =>
      rw [toOption_eq_none_iff]
      cases closed : closeList text with
      | error fault => exact ⟨fault, rfl⟩
      | ok =>
        rw [closeList_eq_ok_iff, spaced.skipSpace rfl] at closed
        cases closed

/-- Where no further item was found, the array ends. -/
theorem writes_nil_of_closeList (closed : closeList (skipSpace text) = .ok rest) :
    Writes (.items first []) text rest := by
  rw [closeList_eq_ok_iff, (spaced_skipSpace text).skipSpace_eq.symm] at closed
  exact .endItems (spaced_of_skipSpace closed)

theorem toOption_elements (reader : Reader α) (first : Bool) (text : List Char) :
    (elements reader first text).toOption = (element? first reader text).toOption.bind fun
      | none => some ([], skipSpace text)
      | some (value, between) => (elements reader false between).toOption.map fun more =>
        (value :: more.1, more.2) := by
  rw [elements]
  split
  · rename_i failed
    rw [failed]
    rfl
  · rename_i ended
    rw [ended]
    rfl
  · rename_i value between found
    rw [congrArg Except.toOption found]
    change _ = (elements reader false between).toOption.map _
    split <;> (rename_i more; rw [congrArg Except.toOption more]; rfl)

/-- By induction on the items. -/
theorem Reader.Means.toOption_elements (means : reader.Means denoted)
    (writes : Writes (.items first items) text rest) :
    (elements reader first text).toOption = (items.mapM denoted).map (·, ']' :: rest) := by
  induction items generalizing first text with
  | nil =>
    obtain ⟨next, eq⟩ := writes.nextElement?_nil
    rw [elements_end next, eq]
    rfl
  | cons value items ih =>
    obtain ⟨behind, next, further⟩ := means.toOption_element? writes
    rw [Json.toOption_elements, next, List.mapM_cons]
    cases denoted value with
    | none => rfl
    | some found =>
      change (elements reader false behind).toOption.map _ = _
      rw [ih further]
      cases items.mapM denoted <;> rfl

/-- By induction on the reading of the items. -/
theorem Reader.Means.exists_writes_of_elements (means : reader.Means denoted) {values : List α}
    (read : elements reader first text = .ok (values, between))
    (closed : closeList between = .ok rest) : ∃ items, Writes (.items first items) text rest := by
  fun_induction elements reader first text generalizing values between with
  | case1 => simp at read
  | case2 =>
    cases read
    exact ⟨[], writes_nil_of_closeList closed⟩
  | case3 => simp_all
  | case4 first text value behind found _ values' end_ more ih =>
    cases read
    obtain ⟨items, further⟩ := ih more closed
    obtain ⟨value, writes⟩ := means.exists_writes_of_element? found further
    exact ⟨value :: items, writes⟩

theorem Reader.Means.list (means : reader.Means denoted) :
    reader.list.Means (Written.items? (List.mapM denoted)) := by
  refine Fills.list ⟨fun {items text rest} writes => ?_, fun read => ?_⟩
  · rw [enclosed, means.toOption_elements writes]
    cases items.mapM denoted <;> rfl
  · obtain ⟨between, read, closed⟩ := enclosed_eq_some_iff.mp read
    exact means.exists_writes_of_elements read closed

end Items

/-! ## Members -/

section Members

variable {first : Bool} {name : List Symbol} {value : Written} {list : List Member}
  {state : σ}

theorem Writes.nextKey?_nil (writes : Writes (.members first []) text rest) :
    nextKey? first text = .ok none ∧ skipSpace text = '}' :: rest := by
  cases writes with
  | endMembers spaced =>
    have eq := spaced.skipSpace rfl
    exact ⟨nextKey?_eq_ok_iff.mpr (.inl ⟨rest, eq, rfl⟩), eq⟩

theorem Separated.opens {start key : List Char} (separated : Separated first text start)
    (quoted : Spaced start ('"' :: key)) : Opens first text key := by
  cases separated with
  | front spaced => exact .inl ⟨rfl, spaced.skipSpace_eq.trans (quoted.skipSpace rfl)⟩
  | comma spaced => exact .inr ⟨rfl, _, spaced.skipSpace rfl, quoted.skipSpace rfl⟩

theorem toOption_nextKey? {key : List Char} (opens : Opens first text key) :
    (nextKey? first text).toOption = (stringBody key).toOption.map some := by
  cases body : stringBody key with
  | ok found =>
    rw [nextKey?_eq_ok_iff.mpr (.inr ⟨_, _, opens, body, rfl⟩)]
    rfl
  | error fault =>
    unfold nextKey?
    rcases opens with ⟨rfl, eq⟩ | ⟨rfl, between, eq, quoted⟩
    · simp [eq, body, Except.toOption]
    · simp [eq, quoted, body, Except.toOption]

theorem Writes.nextKey?_cons (writes : Writes (.members first ((name, value) :: list)) text rest) :
    ∃ atColon inner behind,
      (nextKey? first text).toOption = (text? name).map (fun key => some (key, atColon)) ∧
      colon atColon = .ok inner ∧ Writes (.value value) inner behind ∧
      Writes (.members false list) behind rest := by
  cases writes with
  | @member _ _ _ _ _ start key atColon inner behind _ separated quoted spells spaced written
      further =>
    refine ⟨atColon, inner, behind, ?_, ?_, written, further⟩
    · rw [toOption_nextKey? (separated.opens quoted), spells.toOption_stringBody, Option.map_map]
      rfl
    · simp only [colon, spaced.skipSpace rfl]

theorem toOption_members (table : σ → String → Except Cause (Reader σ)) (first : Bool) (state : σ)
    (text : List Char) :
    (members table first state text).toOption = (nextKey? first text).toOption.bind fun
      | none => some (state, skipSpace text)
      | some (key, behind) => (table state key).toOption.bind fun reader =>
        (colon behind).toOption.bind fun valueText =>
        (reader.read valueText).toOption.bind fun read =>
          (members table false read.1 read.2).toOption := by
  rw [members]
  split
  · rename_i failed
    rw [failed]
    rfl
  · rename_i ended
    rw [ended]
    rfl
  · rename_i key behind found
    rw [congrArg Except.toOption found]
    change _ = (table state key).toOption.bind _
    split
    · rename_i wrong
      rw [congrArg Except.toOption wrong]
      rfl
    · rename_i reader known
      rw [congrArg Except.toOption known]
      change _ = (colon behind).toOption.bind _
      split
      · rename_i failed
        rw [congrArg Except.toOption failed]
        rfl
      · rename_i valueText atColon
        rw [congrArg Except.toOption atColon]
        change _ = (reader.read valueText).toOption.bind _
        split
        · rename_i failed
          rw [congrArg Except.toOption failed]
          rfl
        · rename_i read
          rw [congrArg Except.toOption read]
          rfl

/-- What a table says of a name: its values are refused, or read for what they denote. -/
def Explained : Except Cause (Reader σ) → (Written → Option σ) → Prop
  | .error _, denoted => ∀ value, denoted value = none
  | .ok reader, denoted => reader.Means denoted

/-- What one member of an object does to a state. Its name must be a text. -/
def receive (step : σ → String → Written → Option σ) (state : σ) (member : Member) :
    Option σ :=
  (text? member.1).bind fun key => step state key member.2

/-- What all members do to a state, one after the other. -/
def gather (step : σ → String → Written → Option σ) :
    σ → List Member → Option σ :=
  List.foldlM (receive step)

theorem gather_cons (step : σ → String → Written → Option σ) (state : σ)
    (member : Member) (list : List Member) :
    gather step state (member :: list) =
      (receive step state member).bind fun state => gather step state list :=
  rfl

theorem gather_append (step : σ → String → Written → Option σ) (state : σ)
    (before list : List Member) :
    gather step state (before ++ list) =
      (gather step state before).bind fun state => gather step state list :=
  List.foldlM_append

section Exchange

variable {step : σ → String → Written → Option σ} {member member' : Member}

/-- A member may stand in for another one that does the same. -/
theorem gather_congr (same : ∀ state, receive step state member = receive step state member')
    (before behind : List Member) (state : σ) :
    gather step state (before ++ member :: behind) =
      gather step state (before ++ member' :: behind) := by
  simp only [gather_append, gather_cons, same]

theorem gather_eq_none (nothing : ∀ state, receive step state member = none)
    (before behind : List Member) (state : σ) :
    gather step state (before ++ member :: behind) = none := by
  simp only [gather_append, gather_cons, nothing, Option.bind_none, Option.bind_fun_none]

end Exchange

section Table

variable {table : σ → String → Except Cause (Reader σ)} {step : σ → String → Written → Option σ}
  (explained : ∀ state key, Explained (table state key) (step state key))
include explained

/-- By induction on the members. -/
theorem Writes.toOption_members (writes : Writes (.members first list) text rest) :
    (members table first state text).toOption = (gather step state list).map (·, '}' :: rest) := by
  induction list generalizing first text state with
  | nil =>
    obtain ⟨next, eq⟩ := writes.nextKey?_nil
    rw [members_end next, eq]
    rfl
  | cons member list ih =>
    obtain ⟨name, value⟩ := member
    obtain ⟨atColon, inner, behind, next, atValue, written, further⟩ := writes.nextKey?_cons
    rw [Json.toOption_members, next, gather_cons, receive]
    cases text? name with
    | none => rfl
    | some key =>
      change (table state key).toOption.bind _ = ((step state key value).bind _).map _
      have explained := explained state key
      cases known : table state key with
      | error cause =>
        rw [known] at explained
        rw [explained value]
        rfl
      | ok reader =>
        rw [known] at explained
        change (colon atColon).toOption.bind _ = _
        rw [atValue]
        change (reader.read inner).toOption.bind _ = _
        rcases explained.cases written further.members_endsNumber with
          ⟨fault, failed, nothing⟩ | ⟨changed, read, denoted⟩
        · rw [failed, nothing]
          rfl
        · rw [read, denoted]
          exact ih further

/-- By induction on the reading of the members. -/
theorem exists_writes_of_members {changed : σ}
    (read : members table first state text = .ok (changed, between))
    (closed : closeObject between = .ok rest) : ∃ list, Writes (.members first list) text rest := by
  fun_induction members table first state text with
  | case1 => simp at read
  | case2 first state text =>
    cases read
    rw [closeObject_eq_ok_iff, (spaced_skipSpace text).skipSpace_eq.symm] at closed
    exact ⟨[], .endMembers (spaced_of_skipSpace closed)⟩
  | case3 => simp at read
  | case4 => simp at read
  | case5 => simp at read
  | case6 first state text key atColon next reader known inner atValue changed' behind value _ _ _
      ih =>
    obtain ⟨list, further⟩ := ih read
    have explained := explained state key
    rw [known] at explained
    obtain ⟨value, written⟩ := explained.written value
    rcases nextKey?_eq_ok_iff.mp next with ⟨_, _, same⟩ | ⟨key, found, opens, body, same⟩
    · cases same
    · cases same
      obtain ⟨name, spells⟩ := exists_spells_of_stringBody body
      refine ⟨(name, value) :: list, ?_⟩
      rcases opens with ⟨rfl, eq⟩ | ⟨rfl, front, eq, quoted⟩
      · exact .member (.front (spaced_of_skipSpace eq)) (.none _) spells (colon_eq_ok atValue)
          written further
      · exact .member (.comma (spaced_of_skipSpace eq)) (spaced_of_skipSpace quoted) spells
          (colon_eq_ok atValue) written further

/-- The members of an object, and what is made of the state at its end. -/
theorem fills_members {start : σ} {finish : σ → Except Cause α}
    {ofMembers : List Char → Except Fault (α × List Char)}
    (same : ∀ text, (ofMembers text).toOption = (members table true start text).toOption.bind
      fun read => (finish read.1).toOption.map (·, read.2)) :
    Fills (.members true) closeObject ofMembers
      fun list => (gather step start list).bind fun state => (finish state).toOption where
  reads {list text rest} writes := by
    rw [enclosed, same, writes.toOption_members explained]
    cases gather step start list with
    | none => rfl
    | some state =>
      change ((finish state).toOption.map _).bind _ = (finish state).toOption.map _
      cases finish state <;> rfl
  written {text rest found} read := by
    obtain ⟨between, read, closed⟩ := enclosed_eq_some_iff.mp read
    rw [← toOption_eq_some_iff, same] at read
    obtain ⟨⟨state, behind⟩, held, finished⟩ := Option.bind_eq_some_iff.mp read
    obtain ⟨found, -, eq⟩ := Option.map_eq_some_iff.mp finished
    cases eq
    exact exists_writes_of_members explained (toOption_eq_some_iff.mp held) closed

end Table

end Members

end DriverCompat.Json
