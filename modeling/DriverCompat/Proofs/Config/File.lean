import DriverCompat.Named
import DriverCompat.Config.File
import DriverCompat.Proofs.Toml.Assignments

/-! # What a settings file gives

A file gives settings if its document assigns to keys of settings only, and to each a value of its
type. The settings that it does not give keep their defaults. Every other file is refused.
-/

namespace DriverCompat.Config

open Toml

/-- What the entries of a document assign to its keys. -/
def assignments (entries : Entries) : List (String × Value) :=
  entries.map fun entry => (entry.1.name, entry.2)

/-- Assignments to keys give these values for settings, and nothing else. -/
structure Gives (said : List (String × Value)) (given : Overrides) : Prop where
  known : ∀ assigned ∈ said, assigned.1 ∈ keys
  url : said.lookup "url" = given.url.map .string
  database : said.lookup "database" = given.database.map .string
  collection : said.lookup "collection" = given.collection.map .string
  driver : said.lookup "driver" = given.driver.map .string
  timeoutMs : said.lookup "connect_timeout_ms" = given.timeoutMs.map fun ms => .integer ms.toNat

/-- The text of a file gives these values for settings. -/
def FileGives (text : String) (given : Overrides) : Prop :=
  ∃ entries, document text.toList = .ok entries ∧ Gives (assignments entries) given

/-- The keys whose values are texts. -/
def textKeys : List String := ["url", "database", "collection", "driver"]

/-- A key of a setting is assigned a value of its type. -/
def IsSetting (assigned : String × Value) : Prop :=
  assigned.1 ∈ textKeys ∧ (∃ text, assigned.2 = .string text) ∨
    assigned.1 = "connect_timeout_ms" ∧ ∃ n : Nat, assigned.2 = .integer n

/-- The text of a value, if it is one. -/
def text? : Value → Option String
  | .string text => some text
  | _ => none

/-- The number of a value, if it is one that is not negative. -/
def count? : Value → Option UInt64
  | .integer (.ofNat n) => some (UInt64.ofNat n)
  | _ => none

/-- The values that assignments give for settings. -/
def given (said : List (String × Value)) : Overrides where
  url := (said.lookup "url").bind text?
  database := (said.lookup "database").bind text?
  collection := (said.lookup "collection").bind text?
  driver := (said.lookup "driver").bind text?
  timeoutMs := (said.lookup "connect_timeout_ms").bind count?

theorem setting_eq (config : Config) (key : Key) {value : Value}
    (isSetting : IsSetting (key.name, value)) :
    config.setting key value = .ok (config.override (given [(key.name, value)])) := by
  obtain ⟨name, keyAt, valueAt⟩ := key
  rcases isSetting with ⟨among, text, rfl⟩ | ⟨named, n, rfl⟩
  · simp only [textKeys, List.mem_cons, List.not_mem_nil, or_false] at among
    rcases among with rfl | rfl | rfl | rfl
    · rfl
    · rfl
    · rfl
    · rfl
  · dsimp only at named
    subst named
    rw [override_eq]
    rfl

theorem textValue_error {value : Value} (other : ¬ ∃ text, value = .string text) :
    ∃ cause, textValue value = .error cause := by
  cases value with
  | string text => exact absurd ⟨text, rfl⟩ other
  | _ => exact ⟨_, rfl⟩

theorem numberValue_error {value : Value} (other : ¬ ∃ n : Nat, value = .integer n) :
    ∃ cause, numberValue value = .error cause := by
  cases value with
  | integer i =>
    have negative : i < 0 := by
      by_contra positive
      exact other ⟨i.toNat, by rw [Int.toNat_of_nonneg (by omega)]⟩
    exact ⟨_, if_pos negative⟩
  | _ => exact ⟨_, rfl⟩

theorem setting_error (config : Config) {key : Key} {value : Value}
    (other : ¬ IsSetting (key.name, value)) : ∃ stop, config.setting key value = .error stop := by
  have noText (among : key.name ∈ textKeys) : ∃ cause, textValue value = .error cause :=
    textValue_error fun text => other (.inl ⟨among, text⟩)
  unfold setting
  dsimp only
  split
  case h_5 named =>
    obtain ⟨cause, wrong⟩ := numberValue_error fun number => other (.inr ⟨named, number⟩)
    exact ⟨_, by rw [wrong]; rfl⟩
  case h_6 => exact ⟨_, rfl⟩
  -- The other four are texts.
  all_goals
    rename_i named
    obtain ⟨cause, wrong⟩ := noText (by simp [textKeys, named])
    exact ⟨_, by rw [wrong]; rfl⟩

theorem lookup_eq_none_of_fresh {said : List (String × Value)} {name : String}
    (fresh : name ∉ said.map Prod.fst) : said.lookup name = none := by
  rw [List.lookup_eq_none_iff]
  intro assigned member
  rw [bne_iff_ne]
  rintro rfl
  exact fresh (List.mem_map_of_mem member)

/-- What one assignment and then others to other keys give is what all of them give. -/
theorem getD_lookup_cons {α : Type} (read : Value → Option α) {name : String} {value : Value}
    {said : List (String × Value)} (fresh : name ∉ said.map Prod.fst) (wanted : String) (base : α) :
    ((said.lookup wanted).bind read).getD ((([(name, value)].lookup wanted).bind read).getD base) =
      ((((name, value) :: said).lookup wanted).bind read).getD base := by
  by_cases same : wanted = name
  · subst same
    rw [lookup_eq_none_of_fresh fresh, List.lookup_cons_self, List.lookup_cons_self]
    rfl
  · have other : (wanted == name) = false := beq_false_of_ne same
    rw [List.lookup_cons, List.lookup_cons, other]
    rfl

theorem override_given_cons (config : Config) {name : String} {value : Value}
    {said : List (String × Value)} (fresh : name ∉ said.map Prod.fst) :
    (config.override (given [(name, value)])).override (given said) =
      config.override (given ((name, value) :: said)) := by
  simp only [override_eq, given, getD_lookup_cons _ fresh]

@[simp] theorem assignments_cons (entry : Key × Value) (entries : Entries) :
    assignments (entry :: entries) = (entry.1.name, entry.2) :: assignments entries := rfl

theorem map_fst_assignments (entries : Entries) :
    (assignments entries).map Prod.fst = names entries := by
  rw [assignments, List.map_map]
  rfl

/-- By induction on the entries. -/
theorem foldlM_setting {entries : Entries} (distinct : (names entries).Nodup)
    (settings : ∀ assigned ∈ assignments entries, IsSetting assigned) (config : Config) :
    entries.foldlM (fun config (key, value) => config.setting key value) config =
      .ok (config.override (given (assignments entries))) := by
  induction entries generalizing config with
  | nil => rfl
  | cons entry entries ih =>
    obtain ⟨key, value⟩ := entry
    rw [names_cons, List.nodup_cons, ← map_fst_assignments] at distinct
    obtain ⟨fresh, distinct⟩ := distinct
    rw [assignments_cons, List.forall_mem_cons] at settings
    obtain ⟨first, others⟩ := settings
    rw [map_fst_assignments] at distinct
    rw [List.foldlM_cons]
    dsimp only
    rw [setting_eq config key first]
    dsimp only [bind, Except.bind]
    rw [ih distinct others, override_given_cons config fresh, assignments_cons]

/-- By induction on the entries: those in front of the first wrong one change nothing about it. -/
theorem foldlM_setting_error {entries : Entries}
    (wrong : ∃ assigned ∈ assignments entries, ¬ IsSetting assigned) (config : Config) :
    ∃ stop, entries.foldlM (fun config (key, value) => config.setting key value) config =
      .error stop := by
  induction entries generalizing config with
  | nil => exact absurd wrong (by simp [assignments])
  | cons entry entries ih =>
    obtain ⟨key, value⟩ := entry
    rw [List.foldlM_cons]
    dsimp only
    by_cases first : IsSetting (key.name, value)
    · have others : ∃ assigned ∈ assignments entries, ¬ IsSetting assigned := by
        obtain ⟨assigned, member, wrong⟩ := wrong
        rcases List.mem_cons.mp member with rfl | later
        · exact absurd first wrong
        · exact ⟨assigned, later, wrong⟩
      rw [setting_eq config key first]
      exact ih others _
    · obtain ⟨stop, failed⟩ := setting_error config first
      exact ⟨stop, by rw [failed]; rfl⟩

theorem mem_of_lookup {said : List (String × Value)} {name : String} {value : Value}
    (found : said.lookup name = some value) : (name, value) ∈ said := by
  obtain ⟨before, behind, rfl, -⟩ := List.lookup_eq_some_iff.mp found
  exact List.mem_append_right _ List.mem_cons_self

/-- The order of assignments to different keys does not matter. -/
theorem lookup_perm {said other : List (String × Value)} (distinct : (said.map Prod.fst).Nodup)
    (perm : said.Perm other) (name : String) : said.lookup name = other.lookup name := by
  cases found : said.lookup name with
  | some value =>
    have member := perm.mem_iff.mp (mem_of_lookup found)
    exact (Named.lookup_of_mem ((perm.map Prod.fst).nodup_iff.mp distinct) member).symm
  | none =>
    rw [List.lookup_eq_none_iff] at found
    symm
    rw [List.lookup_eq_none_iff]
    exact fun assigned member => found assigned (perm.mem_iff.mpr member)

theorem Gives.perm {said other : List (String × Value)} (distinct : (said.map Prod.fst).Nodup)
    (perm : said.Perm other) {given : Overrides} (gives : Gives said given) :
    Gives other given where
  known assigned member := gives.known assigned (perm.mem_iff.mpr member)
  url := lookup_perm distinct perm "url" ▸ gives.url
  database := lookup_perm distinct perm "database" ▸ gives.database
  collection := lookup_perm distinct perm "collection" ▸ gives.collection
  driver := lookup_perm distinct perm "driver" ▸ gives.driver
  timeoutMs := lookup_perm distinct perm "connect_timeout_ms" ▸ gives.timeoutMs

theorem Gives.isSetting {said : List (String × Value)} (distinct : (said.map Prod.fst).Nodup)
    {given : Overrides} (gives : Gives said given) : ∀ assigned ∈ said, IsSetting assigned := by
  rintro ⟨name, value⟩ member
  have found := Named.lookup_of_mem distinct member
  have known := gives.known _ member
  have text {text : Option String} (same : some value = text.map Value.string) :
      ∃ text, value = .string text := by
    obtain ⟨text, -, rfl⟩ := Option.map_eq_some_iff.mp same.symm
    exact ⟨text, rfl⟩
  simp only [keys, List.mem_cons, List.not_mem_nil, or_false] at known
  rcases known with rfl | rfl | rfl | rfl | rfl
  · exact .inl ⟨by simp [textKeys], text (found ▸ gives.url)⟩
  · exact .inl ⟨by simp [textKeys], text (found ▸ gives.database)⟩
  · exact .inl ⟨by simp [textKeys], text (found ▸ gives.collection)⟩
  · exact .inl ⟨by simp [textKeys], text (found ▸ gives.driver)⟩
  · have number := found ▸ gives.timeoutMs
    obtain ⟨ms, -, rfl⟩ := Option.map_eq_some_iff.mp number.symm
    exact .inr ⟨rfl, ms.toNat, rfl⟩

theorem Gives.given_eq {said : List (String × Value)} {given : Overrides}
    (gives : Gives said given) : Config.given said = given := by
  have text (texts : Option String) : (texts.map Value.string).bind text? = texts := by
    cases texts <;> rfl
  have number (numbers : Option UInt64) :
      (numbers.map fun ms => Value.integer ms.toNat).bind count? = numbers := by
    cases numbers with
    | none => rfl
    | some ms => exact congrArg some UInt64.ofNat_toNat
  rw [Config.given, gives.url, gives.database, gives.collection, gives.driver, gives.timeoutMs]
  simp only [text, number]

theorem gives_given {said : List (String × Value)} (range : ∀ assigned ∈ said, InRange assigned.2)
    (settings : ∀ assigned ∈ said, IsSetting assigned) : Gives said (given said) := by
  have text {name : String} (among : name ∈ textKeys) :
      said.lookup name = ((said.lookup name).bind text?).map .string := by
    cases found : said.lookup name with
    | none => rfl
    | some value =>
      rcases settings _ (mem_of_lookup found) with ⟨-, text, same⟩ | ⟨named, -⟩
      · dsimp only at same
        rw [same]
        rfl
      · dsimp only at named
        subst named
        exact absurd among (by decide)
  have number : said.lookup "connect_timeout_ms" =
      ((said.lookup "connect_timeout_ms").bind count?).map fun ms => .integer ms.toNat := by
    cases found : said.lookup "connect_timeout_ms" with
    | none => rfl
    | some value =>
      have member := mem_of_lookup found
      rcases settings _ member with ⟨among, -⟩ | ⟨-, n, same⟩
      · exact absurd among (by simp [textKeys])
      · dsimp only at same
        subst same
        have fits := (range _ member n rfl).2
        have small : n < UInt64.size := by
          change n < 18446744073709551616
          omega
        have back : (UInt64.ofNat n).toNat = n := UInt64.toNat_ofNat_of_lt' small
        change some (Value.integer n) = some (.integer (UInt64.ofNat n).toNat)
        rw [back]
  refine ⟨fun assigned member => ?_, text (by decide), text (by decide), text (by decide),
    text (by decide), number⟩
  rcases settings assigned member with ⟨among, -⟩ | ⟨named, -⟩
  · exact List.mem_append_left ["connect_timeout_ms"] among
  · rw [named]
    decide

theorem ofEntries_of_gives {entries : Entries} (distinct : (names entries).Nodup)
    {given : Overrides} (gives : Gives (assignments entries) given) :
    ofEntries entries = .ok (default.override given) := by
  have settings := gives.isSetting (by rw [map_fst_assignments]; exact distinct)
  rw [ofEntries, foldlM_setting distinct settings, gives.given_eq]

theorem ofToml_of_gives (remarks : Remarks) {text : String} {given : Overrides}
    (gives : FileGives text given) : ofToml remarks text = .ok (default.override given) := by
  obtain ⟨entries, made, gives⟩ := gives
  have read := ofEntries_of_gives (proper_document made).distinct gives
  rw [ofToml, made]
  dsimp only [bind, Except.bind]
  rw [read]

/-- A file gives settings exactly if its text is a document whose entries are all settings. -/
theorem exists_fileGives_iff {text : String} : (∃ given, FileGives text given) ↔
    ∃ entries, document text.toList = .ok entries ∧
      ∀ assigned ∈ assignments entries, IsSetting assigned := by
  constructor
  · rintro ⟨given, entries, made, gives⟩
    have distinct := (proper_document made).distinct
    exact ⟨entries, made, gives.isSetting (by rw [map_fst_assignments]; exact distinct)⟩
  · rintro ⟨entries, made, settings⟩
    have range : ∀ assigned ∈ assignments entries, InRange assigned.2 := by
      intro assigned member
      obtain ⟨entry, among, rfl⟩ := List.mem_map.mp member
      exact (proper_document made).values entry among
    exact ⟨_, entries, made, gives_given range settings⟩

theorem ofToml_error (remarks : Remarks) {text : String}
    (noSettings : ¬ ∃ given, FileGives text given) :
    ∃ fault, ofToml remarks text = .error (.settingsFile fault) := by
  have failed : ∃ stop, document text.toList >>= ofEntries = .error stop := by
    cases made : document text.toList with
    | error stop => exact ⟨stop, rfl⟩
    | ok entries =>
      apply foldlM_setting_error
      by_contra right
      have settings : ∀ assigned ∈ assignments entries, IsSetting assigned := by
        intro assigned member
        by_contra wrong
        exact right ⟨assigned, member, wrong⟩
      exact noSettings (exists_fileGives_iff.mpr ⟨entries, made, settings⟩)
  obtain ⟨stop, failed⟩ := failed
  exact ⟨_, by rw [ofToml, failed]⟩

/-- A text of assignments gives what they give, if no key is assigned two values. -/
theorem fileGives_iff {text : String} {said : List (String × Value)}
    (assigns : Assigns (body text.toList) said) {given : Overrides} :
    FileGives text given ↔ (said.map Prod.fst).Nodup ∧ Gives said given := by
  constructor
  · rintro ⟨entries, made, gives⟩
    have distinct : (said.map Prod.fst).Nodup := by
      by_contra twice
      obtain ⟨stop, failed⟩ := assigns.document_eq_error twice
      rw [failed] at made
      cases made
    obtain ⟨others, read, rfl⟩ := assigns.document distinct
    rw [read] at made
    obtain rfl := Except.ok.inj made
    exact ⟨distinct, gives⟩
  · rintro ⟨distinct, gives⟩
    obtain ⟨entries, made, rfl⟩ := assigns.document distinct
    exact ⟨entries, made, gives⟩

/-- Settings can be written in any order. A timeout must not need all sixty-four bits for that. -/
theorem Gives.exists_assigns {said : List (String × Value)} (distinct : (said.map Prod.fst).Nodup)
    {given : Overrides} (gives : Gives said given)
    (signed : ∀ ms ∈ given.timeoutMs, ms.toNat < 2 ^ 63) :
    ∃ text : String, Assigns (body text.toList) said := by
  have spelled : ∀ assigned ∈ said, ∃ spelling, Spells spelling assigned.2 := by
    rintro ⟨name, value⟩ member
    rcases gives.isSetting distinct _ member with ⟨-, text, same⟩ | ⟨named, -⟩
    · dsimp only at same
      rw [same]
      exact exists_spells_string text
    · dsimp only at named
      subst named
      have found := Named.lookup_of_mem distinct member
      rw [gives.timeoutMs] at found
      obtain ⟨ms, wanted, rfl⟩ := Option.map_eq_some_iff.mp found
      exact ⟨_, .integer (signed ms wanted)⟩
  obtain ⟨text, unmarked, assigns⟩ := Toml.exists_assigns spelled
  refine ⟨String.ofList text, ?_⟩
  rw [String.toList_ofList, body_of_head?_ne unmarked]
  exact assigns

/-- Texts of the same assignments in any two orders give the same. -/
theorem fileGives_of_perm {text other : String} {said otherSaid : List (String × Value)}
    (assigns : Assigns (body text.toList) said)
    (otherAssigns : Assigns (body other.toList) otherSaid) (perm : said.Perm otherSaid)
    {given : Overrides} (gives : FileGives text given) :
    FileGives other given := by
  rw [fileGives_iff assigns] at gives
  rw [fileGives_iff otherAssigns]
  obtain ⟨distinct, gives⟩ := gives
  exact ⟨(perm.map Prod.fst).nodup_iff.mp distinct, gives.perm distinct perm⟩

/-- Why the text of a file gives no settings. -/
inductive Mistaken (text : String) : Prop
  | malformed {stop : Stop} (failed : document text.toList = .error stop)
  | twice (twice : ¬ (Draft.rootNames (lines (body text.toList)).1).Nodup)
  | unknownKey {entries : Entries} {name : String} {value : Value}
      (made : document text.toList = .ok entries) (among : (name, value) ∈ assignments entries)
      (unknown : name ∉ keys)
  | noText {entries : Entries} {name : String} {value : Value}
      (made : document text.toList = .ok entries) (among : (name, value) ∈ assignments entries)
      (wantsText : name ∈ textKeys) (other : ∀ text, value ≠ .string text)
  | noNumber {entries : Entries} {value : Value} (made : document text.toList = .ok entries)
      (among : ("connect_timeout_ms", value) ∈ assignments entries)
      (other : ∀ n : Nat, value ≠ .integer n)

theorem Mistaken.not_fileGives {text : String} (mistaken : Mistaken text) :
    ¬ ∃ given, FileGives text given := by
  rw [exists_fileGives_iff]
  rintro ⟨entries, made, settings⟩
  cases mistaken with
  | malformed failed =>
    rw [failed] at made
    cases made
  | twice twice =>
    obtain ⟨stop, failed⟩ := document_eq_error_of_twice twice
    rw [failed] at made
    cases made
  | unknownKey other among unknown =>
    rw [other] at made
    obtain rfl := Except.ok.inj made
    rcases settings _ among with ⟨known, -⟩ | ⟨known, -⟩
    · exact unknown (List.mem_append_left ["connect_timeout_ms"] known)
    · dsimp only at known
      rw [known] at unknown
      exact unknown (by decide)
  | noText other among wantsText noText =>
    rw [other] at made
    obtain rfl := Except.ok.inj made
    rcases settings _ among with ⟨-, text, same⟩ | ⟨known, -⟩
    · exact noText text same
    · dsimp only at known
      rw [known] at wantsText
      exact absurd wantsText (by decide)
  | noNumber other among noNumber =>
    rw [other] at made
    obtain rfl := Except.ok.inj made
    rcases settings _ among with ⟨known, -⟩ | ⟨-, n, same⟩
    · exact absurd known (by simp [textKeys])
    · exact noNumber n same

/-- A text gives settings, or there is a mistake in it. -/
theorem mistaken_iff {text : String} : Mistaken text ↔ ¬ ∃ given, FileGives text given := by
  refine ⟨Mistaken.not_fileGives, fun noSettings => ?_⟩
  cases made : document text.toList with
  | error stop => exact .malformed made
  | ok entries =>
    by_contra right
    refine noSettings (exists_fileGives_iff.mpr ⟨entries, made, ?_⟩)
    rintro ⟨name, value⟩ among
    by_cases wantsText : name ∈ textKeys
    · refine .inl ⟨wantsText, ?_⟩
      by_contra other
      exact right (.noText made among wantsText fun text same => other ⟨text, same⟩)
    · have known : name ∈ keys := by
        by_contra unknown
        exact right (.unknownKey made among unknown)
      have named : name = "connect_timeout_ms" := by
        rcases List.mem_append.mp (show name ∈ textKeys ++ ["connect_timeout_ms"] from known) with
          text | last
        · exact absurd text wantsText
        · exact List.mem_singleton.mp last
      subst named
      refine .inr ⟨rfl, ?_⟩
      by_contra other
      exact right (.noNumber made among fun n same => other ⟨n, same⟩)

end DriverCompat.Config
