import DriverCompat.CommandLine.Command
import DriverCompat.Proofs.Config.File
import DriverCompat.Proofs.Text.Utf8

/-! # Where settings come from

Each setting is the one that an option or its environment variable gives, else that of the file,
else the default. Only the result is judged: what the file gives for a setting that is given again
does not matter. A file that gives no settings ends all of it, whatever else is given.
-/

namespace DriverCompat

namespace Config

/-- A text of white space alone. -/
def Blank (text : String) : Prop := ∀ c ∈ text.toList, Text.isBlank c

theorem isBlankText_iff {text : String} : Text.isBlankText text = true ↔ Blank text :=
  List.all_eq_true

/-- What is said of settings: they are taken as they are, or the first rule that they violate is
named. -/
inductive Judged (config : Config) : Except Failure Config → Prop
  | taken (url : ¬ Blank config.url) (database : ¬ Blank config.database)
      (collection : ¬ Blank config.collection) (timeout : config.timeoutMs ≠ 0) :
      Judged config (.ok config)
  | url (blank : Blank config.url) :
      Judged config (.error (.configuration "connection url must not be empty"))
  | database (url : ¬ Blank config.url) (blank : Blank config.database) :
      Judged config (.error (.configuration "database name must not be empty"))
  | collection (url : ¬ Blank config.url) (database : ¬ Blank config.database)
      (blank : Blank config.collection) :
      Judged config (.error (.configuration "collection name must not be empty"))
  | timeout (url : ¬ Blank config.url) (database : ¬ Blank config.database)
      (collection : ¬ Blank config.collection) (zero : config.timeoutMs = 0) :
      Judged config (.error (.configuration "connect timeout must be greater than zero"))

theorem judged_validate (config : Config) : Judged config config.validate := by
  unfold validate violation?
  split_ifs with url database collection timeout
  · exact .url (isBlankText_iff.mp url)
  · exact .database (mt isBlankText_iff.mpr url) (isBlankText_iff.mp database)
  · exact .collection (mt isBlankText_iff.mpr url) (mt isBlankText_iff.mpr database)
      (isBlankText_iff.mp collection)
  · exact .timeout (mt isBlankText_iff.mpr url) (mt isBlankText_iff.mpr database)
      (mt isBlankText_iff.mpr collection) timeout
  · exact .taken (mt isBlankText_iff.mpr url) (mt isBlankText_iff.mpr database)
      (mt isBlankText_iff.mpr collection) timeout

end Config

namespace CommandLine

open Config (Overrides FileGives Gives Judged)

variable {φ : Type} {host : Host (StateM φ)} {remarks : Toml.Remarks} {args : Args} {files : φ}

/-- What the file that is named gives for settings; without one, nothing. -/
inductive Given (host : Host (StateM φ)) (args : Args) (files : φ) : Overrides → Prop
  | unnamed (unnamed : args.config = none) : Given host args files ⟨none, none, none, none, none⟩
  | file {path text : String} {given : Overrides} (named : args.config = some path)
      (read : ((host.readText path).run files).1 = .ok text) (gives : FileGives text given) :
      Given host args files given

/-- Why the file that is named gives no settings: it cannot be read, or there is a mistake in its
text. -/
inductive Refused (host : Host (StateM φ)) (args : Args) (files : φ) : Failure → Prop
  | unreadable {path : String} {fault : IoFault} (named : args.config = some path)
      (failed : ((host.readText path).run files).1 = .error fault) :
      Refused host args files (.io fault)
  | mistaken {path text : String} {fault : Toml.Fault} (named : args.config = some path)
      (read : ((host.readText path).run files).1 = .ok text) (mistaken : Config.Mistaken text) :
      Refused host args files (.settingsFile fault)

/-- Each setting is what an option or its variable gives, else what the file gives, else the
default. -/
structure Layered (args : Args) (given : Overrides) (config : Config) : Prop where
  url : config.url = (args.url.or given.url).getD "mongodb://localhost:27017"
  database : config.database = (args.database.or given.database).getD "driver_compat_test_rust"
  collection : config.collection = (args.collection.or given.collection).getD "test_collection"
  driver : config.driver = (args.driver.or given.driver).getD "mongodb"
  timeoutMs : config.timeoutMs = (args.timeoutMs.or given.timeoutMs).getD 5000

theorem layered_override (args : Args) (given : Overrides) :
    Layered args given ((Config.default.override given).override args.overrides) := by
  have layer {α : Type} (first second : Option α) (base : α) :
      first.getD (second.getD base) = (first.or second).getD base := by
    cases first <;> rfl
  rw [Config.override_eq, Config.override_eq]
  exact ⟨layer _ _ _, layer _ _ _, layer _ _ _, layer _ _ _, layer _ _ _⟩

/-- What the settings are before options and variables are looked at. -/
def base (host : Host (StateM φ)) (remarks : Toml.Remarks) (args : Args) (files : φ) :
    Except Failure Config :=
  match args.config with
  | none => .ok Config.default
  | some path =>
    match ((host.readText path).run files).1 with
    | .ok text => Config.ofToml remarks text
    | .error fault => .error (.io fault)

theorem settings_run (host : Host (StateM φ)) (remarks : Toml.Remarks) (args : Args) (files : φ) :
    ((settings host remarks args).run files).1 =
      (base host remarks args files).bind fun config =>
        (config.override args.overrides).validate := by
  unfold settings base fileSettings
  cases args.config with
  | none => rfl
  | some path =>
    rcases read : (host.readText path).run files with ⟨outcome, left⟩
    simp only [StateT.run_bind, read]
    cases outcome with
    | ok text => rfl
    | error fault => rfl

theorem base_of_given {given : Overrides} (gives : Given host args files given) :
    base host remarks args files = .ok (Config.default.override given) := by
  unfold base
  cases gives with
  | unnamed unnamed =>
    rw [unnamed]
    rfl
  | file named read gives =>
    rw [named]
    dsimp only
    rw [read]
    exact Config.ofToml_of_gives remarks gives

theorem base_of_not_given (nothing : ¬ ∃ given, Given host args files given) :
    ∃ failure, Refused host args files failure ∧ base host remarks args files = .error failure := by
  unfold base
  cases named : args.config with
  | none => exact absurd ⟨_, .unnamed named⟩ nothing
  | some path =>
    dsimp only
    cases read : ((host.readText path).run files).1 with
    | error fault => exact ⟨_, .unreadable named read, rfl⟩
    | ok text =>
      have noSettings : ¬ ∃ given, FileGives text given := by
        rintro ⟨given, gives⟩
        exact nothing ⟨given, .file named read gives⟩
      obtain ⟨fault, failed⟩ := Config.ofToml_error remarks noSettings
      exact ⟨_, .mistaken named read (Config.mistaken_iff.mpr noSettings), failed⟩

/-- The number of sixty-four bits that a text writes. -/
def number? (text : String) : Option UInt64 :=
  (Text.unsignedInteger 64 text.toList).toOption.map UInt64.ofNat

/-- What options and variables give together: an option wins over its variable. -/
structure Completed (named : Args) (environment : List (String × String)) (args : Args) : Prop where
  url : args.url = named.url.or (environment.lookup "OXIDEDB_URL")
  database : args.database = named.database.or (environment.lookup "DRIVER_MATRIX_DATABASE")
  collection : args.collection = named.collection.or (environment.lookup "DRIVER_MATRIX_COLLECTION")
  driver : args.driver = named.driver.or (environment.lookup "DRIVER_MATRIX_DRIVER")
  timeoutMs : args.timeoutMs =
    named.timeoutMs.or ((environment.lookup "DRIVER_MATRIX_TIMEOUT_MS").bind number?)
  config : args.config = named.config.or (environment.lookup "DRIVER_MATRIX_CONFIG")

/-- An option that has no value takes the one of its variable. How its value is looked at and put in
is `get` and `put`, and what a text gives it is `read`. -/
theorem complete_eq_ok {α : Type} {environment : List (String × String)} (flag : Flag)
    {name : String} (named : flag.environmentName? = some name) (read : String → Option α)
    (get : Args → Option α) (put : Args → Option α → Args) (has : args.has flag = (get args).isSome)
    (set : ∀ text after, args.set flag text = .ok after →
      ∃ value, read text = some value ∧ after = put args (some value))
    (same : put args (get args) = args) {after : Args}
    (completed : args.complete environment flag = .ok after) :
    after = put args ((get args).or ((environment.lookup name).bind read)) := by
  unfold Args.complete at completed
  rw [named, Option.bind_some, has] at completed
  split at completed
  · rename_i text found
    rw [found]
    cases given : get args with
    | some value =>
      rw [given] at completed
      rw [given] at same
      rw [Option.some_or, same]
      exact (Except.ok.inj completed).symm
    | none =>
      rw [given] at completed
      obtain ⟨value, reads, rfl⟩ := set text after completed
      rw [Option.none_or, Option.bind_some, reads]
  · rename_i found
    rw [found, Option.bind_none, Option.or_none, same]
    exact (Except.ok.inj completed).symm

theorem set_timeoutMs (text : String) (after : Args) (set : args.set .timeoutMs text = .ok after) :
    ∃ ms, number? text = some ms ∧ after = { args with timeoutMs := some ms } := by
  unfold Args.set at set
  split at set
  · cases set
  dsimp only at set
  split at set
  · rename_i n read
    refine ⟨UInt64.ofNat n, ?_, (Except.ok.inj set).symm⟩
    rw [number?, read]
    rfl
  · cases set

theorem set_config (text : String) (after : Args) (set : args.set .config text = .ok after) :
    ∃ path, some text = some path ∧ after = { args with config := some path } := by
  unfold Args.set at set
  split at set
  · cases set
  · exact ⟨text, rfl, (Except.ok.inj set).symm⟩

/-- A text takes the place of an option that is not a path as it is. -/
theorem complete_text {environment : List (String × String)} (flag : Flag) {name : String}
    (named : flag.environmentName? = some name) (get : Args → Option String)
    (put : Args → Option String → Args) (has : args.has flag = (get args).isSome)
    (set : ∀ text, args.set flag text = .ok (put args (some text)))
    (same : put args (get args) = args) {after : Args}
    (completed : args.complete environment flag = .ok after) :
    after = put args ((get args).or (environment.lookup name)) := by
  rw [complete_eq_ok flag named some get put has ?_ same completed, Option.bind_fun_some]
  intro text after settled
  rw [set] at settled
  exact ⟨text, rfl, (Except.ok.inj settled).symm⟩

/-- What options give is completed by variables one option after the other. -/
theorem completed_of_parse {arguments : List String} {environment : List (String × String)}
    (parsed : Args.parse arguments environment = .ok args) :
    ∃ named, Args.none.readFrom .none arguments = .ok named ∧ Completed named environment args := by
  obtain ⟨named, read, completed⟩ := Toml.ok_of_bind parsed
  refine ⟨named, read, ?_⟩
  obtain ⟨first, url, completed⟩ := Toml.ok_of_bind completed
  obtain ⟨second, database, completed⟩ := Toml.ok_of_bind completed
  obtain ⟨third, collection, completed⟩ := Toml.ok_of_bind completed
  obtain ⟨fourth, driver, completed⟩ := Toml.ok_of_bind completed
  obtain ⟨fifth, timeout, completed⟩ := Toml.ok_of_bind completed
  obtain ⟨sixth, config, completed⟩ := Toml.ok_of_bind completed
  obtain ⟨seventh, report, completed⟩ := Toml.ok_of_bind completed
  obtain ⟨eighth, log, completed⟩ := Toml.ok_of_bind completed
  obtain rfl := Except.ok.inj report
  obtain rfl := Except.ok.inj log
  obtain rfl := Except.ok.inj completed
  have url := complete_text .url rfl Args.url (fun args url => { args with url }) rfl
    (fun _ => rfl) rfl url
  have database := complete_text .database rfl Args.database
    (fun args database => { args with database }) rfl (fun _ => rfl) rfl database
  have collection := complete_text .collection rfl Args.collection
    (fun args collection => { args with collection }) rfl (fun _ => rfl) rfl collection
  have driver := complete_text .driver rfl Args.driver
    (fun args driver => { args with driver }) rfl (fun _ => rfl) rfl driver
  have timeout := complete_eq_ok .timeoutMs rfl number? Args.timeoutMs
    (fun args timeoutMs => { args with timeoutMs }) rfl set_timeoutMs rfl timeout
  have config := complete_eq_ok .config rfl some Args.config
    (fun args config => { args with config }) rfl set_config rfl config
  rw [Option.bind_fun_some] at config
  constructor
  · simp only [config, timeout, driver, collection, database, url]
  · simp only [config, timeout, driver, collection, database, url]
  · simp only [config, timeout, driver, collection, database, url]
  · simp only [config, timeout, driver, collection, database, url]
  · simp only [config, timeout, driver, collection, database, url]
  · simp only [config, timeout, driver, collection, database, url]

theorem settings_of_given {given : Overrides} (gives : Given host args files given) :
    ∃ config, Layered args given config ∧
      Judged config ((settings host remarks args).run files).1 := by
  refine ⟨_, layered_override args given, ?_⟩
  rw [settings_run, base_of_given gives]
  exact Config.judged_validate _

theorem settings_of_not_given (nothing : ¬ ∃ given, Given host args files given) :
    ∃ failure, Refused host args files failure ∧ ∀ other : Args, other.config = args.config →
      ((settings host remarks other).run files).1 = .error failure := by
  obtain ⟨failure, refused, failed⟩ := base_of_not_given nothing
  refine ⟨failure, refused, fun other same => ?_⟩
  have alike : base host remarks other files = base host remarks args files := by
    unfold base
    rw [same]
  rw [settings_run, alike, failed]
  rfl

/-- Each setting is the one that an option gives, else that of its variable, else that of the file,
else the default, and what comes of it is judged as a whole. A file can give any of them in any
order, and the order does not matter; one with a mistake ends all of it, whatever else is given. A
timeout comes back from seconds and nanoseconds as it was. -/
theorem settings_layered (host : Host (StateM φ)) (remarks : Toml.Remarks) (args : Args)
    (files : φ) :
    (∀ given, Given host args files given →
      ∃ config, Layered args given config ∧
        Judged config ((settings host remarks args).run files).1) ∧
    ((¬ ∃ given, Given host args files given) →
      ∃ failure, Refused host args files failure ∧ ∀ other : Args, other.config = args.config →
        ((settings host remarks other).run files).1 = .error failure) ∧
    (∀ text, Config.Mistaken text ↔ ¬ ∃ given, FileGives text given) ∧
    (∀ text said, Toml.Assigns (Toml.body text.toList) said →
      (∀ given, FileGives text given ↔ (said.map Prod.fst).Nodup ∧ Gives said given) ∧
      ∀ other otherSaid, Toml.Assigns (Toml.body other.toList) otherSaid → said.Perm otherSaid →
        ∀ given, FileGives text given → FileGives other given) ∧
    (∀ said given, (said.map Prod.fst).Nodup → Gives said given →
      (∀ ms ∈ given.timeoutMs, ms.toNat < 2 ^ 63) →
        ∃ text : String, Toml.Assigns (Toml.body text.toList) said) ∧
    (∀ arguments environment, Args.parse arguments environment = .ok args →
      ∃ named, Args.none.readFrom .none arguments = .ok named ∧ Completed named environment args) ∧
    (∀ (config : Config) (ms : UInt64), config.withTimeout (ms.toNat / 1000)
      (ms.toNat % 1000 * 1000000) = { config with timeoutMs := ms }) := by
  refine ⟨fun given gives => settings_of_given gives, settings_of_not_given,
    fun text => Config.mistaken_iff, ?_,
    fun said given distinct gives => gives.exists_assigns distinct,
    fun arguments environment => completed_of_parse, Config.withTimeout_parts⟩
  intro text said assigns
  refine ⟨fun given => Config.fileGives_iff assigns, ?_⟩
  intro other otherSaid otherAssigns perm given
  exact Config.fileGives_of_perm assigns otherAssigns perm

/-- A file that gives a timeout of zero, and a blank address behind it. -/
def blankFile : String :=
  String.ofList "# later\nconnect_timeout_ms = 0\n\"url\" = ' ' # none".toList

theorem assigns_blankFile : Toml.Assigns (Toml.body blankFile.toList)
    [("connect_timeout_ms", .integer 0), ("url", .string " ")] := by
  have letter (c : Char) (among : c ∈ ['u', 'r', 'l']) : Toml.SpellsChar [c] c := by
    simp only [List.mem_cons, List.not_mem_nil, or_false] at among
    rcases among with rfl | rfl | rfl <;> exact .plain rfl (by decide) (by decide)
  have url : Toml.SpellsKey ['"', 'u', 'r', 'l', '"'] "url" :=
    .basic (.cons (letter 'u' (by simp)) (.cons (letter 'r' (by simp))
      (.cons (letter 'l' (by simp)) .nil)))
  have timeout : Toml.SpellsKey "connect_timeout_ms".toList "connect_timeout_ms" :=
    @Toml.SpellsKey.bare "connect_timeout_ms".toList (by decide) (List.all_eq_true.mp rfl)
  have blank : Toml.Spells ['\'', ' ', '\''] (.string " ") :=
    @Toml.Spells.literal [' '] fun c among => by rw [List.mem_singleton.mp among]; decide
  have zero : Toml.Spells ['0'] (.integer 0) := @Toml.Spells.integer 0 (by decide)
  have none_ : Toml.Ends " # none".toList [] :=
    .blank rfl (@Toml.Ends.comment " none".toList [] [] (List.all_eq_true.mp rfl) .stop)
  have nothing : ∀ c ∈ ([] : List Char), Toml.isBlank c := nofun
  have space : ∀ c ∈ [' '], Toml.isBlank c := List.all_eq_true.mp rfl
  have last := Toml.Assigns.pair nothing url space space blank none_ (.nothing nothing)
  have both := Toml.Assigns.pair nothing timeout space space zero (.break_ (.newLine _)) last
  have later : ∀ c ∈ " later".toList, Toml.isPlain c := List.all_eq_true.mp rfl
  have all := both.skip (.comment later (.newLine _))
  exact all

/-- What the file gives is given again, the timeout as long as it can be. -/
theorem settings_layered_blankFile :
    let remarks : Toml.Remarks := fun _ _ => ""
    let files : Files := ⟨[(["run.toml"], .file (Text.encode blankFile.toList))]⟩
    let args : Args := { Args.none with
      url := some "memory", timeoutMs := some 18446744073709551615, config := some "run.toml" }
    Given (Host.ofFiles []) args files ⟨some " ", none, none, none, some 0⟩ ∧
      ((settings (Host.ofFiles []) remarks args).run files).1 =
        .ok ⟨"memory", "driver_compat_test_rust",
        "test_collection", "mongodb", 18446744073709551615⟩ := by
  intro remarks files args
  obtain ⟨layers, -, -, texts, -⟩ := settings_layered (Host.ofFiles []) remarks args files
  have gives : Gives [("connect_timeout_ms", .integer 0), ("url", .string " ")]
      ⟨some " ", none, none, none, some 0⟩ := ⟨by decide, rfl, rfl, rfl, rfl, rfl⟩
  have read : (((Host.ofFiles []).readText "run.toml").run files).1 = .ok blankFile := by
    have decoded : Text.decode? (Text.encode blankFile.toList) = some blankFile := by
      rw [Text.decode?_encode, String.ofList_toList]
    have place : files.resolve [] "run.toml" = .ok ["run.toml"] := rfl
    have content : files.content? ["run.toml"] = some (.file (Text.encode blankFile.toList)) := rfl
    change Files.readText files [] "run.toml" = _
    simp only [Files.readText, place, content, decoded]
  have given : Given (Host.ofFiles []) args files ⟨some " ", none, none, none, some 0⟩ :=
    .file rfl read (((texts _ _ assigns_blankFile).1 _).mpr ⟨by decide, gives⟩)
  refine ⟨given, ?_⟩
  obtain ⟨⟨url, database, collection, driver, timeoutMs⟩, layered, judged⟩ := layers _ given
  obtain rfl : url = "memory" := layered.url
  obtain rfl : database = "driver_compat_test_rust" := layered.database
  obtain rfl : collection = "test_collection" := layered.collection
  obtain rfl : driver = "mongodb" := layered.driver
  obtain rfl : timeoutMs = 18446744073709551615 := layered.timeoutMs
  generalize ((settings (Host.ofFiles []) remarks args).run files).1 = outcome at judged ⊢
  cases judged with
  | taken => rfl
  | url blank => exact absurd (blank 'm' (by decide)) (by decide)
  | database url blank => exact absurd (blank 'd' (by decide)) (by decide)
  | collection url database blank => exact absurd (blank 't' (by decide)) (by decide)
  | timeout url database collection zero => exact absurd zero (by decide)

end CommandLine

end DriverCompat
