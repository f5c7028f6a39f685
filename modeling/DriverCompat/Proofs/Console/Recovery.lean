import DriverCompat.Proofs.Console.Transcript
import DriverCompat.Proofs.Report.Lines
import DriverCompat.Proofs.Report.Marker
import DriverCompat.Proofs.Report.RoundTrip
import DriverCompat.Proofs.Run.Reports

/-! # Recovering a report from its transcript

The report of a run is found behind the marker that its transcript ends in, unless one of the texts
above that line holds the marker too: the name of the driver, the address, or the error of an entry.
Then what follows that first marker goes on with rules of equality signs, and holds no report at
all.
-/

namespace DriverCompat.Console

open Report (marker)

/-- The marker stands somewhere in a text. -/
def Marked (text : List Char) : Prop := marker.toList <:+: text

instance (text : List Char) : Decidable (Marked text) :=
  inferInstanceAs (Decidable (marker.toList <:+: text))

theorem not_marked_of_not_mem {text : List Char} (free : 'J' ∉ text) : ¬ Marked text :=
  fun marked => free (marked.subset (by decide))

theorem marked_spaced {front back : List Char} :
    Marked (front ++ ' ' :: back) ↔ Marked front ∨ Marked back :=
  infix_append_cons_iff (by decide)

theorem marked_spaced_of_not_mem {front back : List Char} (free : 'J' ∉ front) :
    Marked (front ++ ' ' :: back) ↔ Marked back := by
  rw [marked_spaced, or_iff_right (not_marked_of_not_mem free)]

/-- The marker stands in one of the lines of a text or behind all of them. -/
theorem marked_textOf_append (lines : List String) (rest : List Char) :
    Marked (textOf lines ++ rest) ↔ (∃ line ∈ lines, Marked line.toList) ∨ Marked rest := by
  induction lines with
  | nil => simp
  | cons line lines ih =>
    have apart : Marked (line.toList ++ '\n' :: (textOf lines ++ rest)) ↔
        Marked line.toList ∨ Marked (textOf lines ++ rest) := infix_append_cons_iff (by decide)
    rw [textOf_cons, List.append_assoc, List.cons_append, apart, List.exists_mem_cons_iff, ih,
      or_assoc]

theorem toList_title (driver : String) : (title driver).toList =
    "Rust".toList ++ ' ' :: (driver.toList ++ ' ' :: "Driver Compatibility Test".toList) := by
  simp [title, toString]

theorem marked_title (driver : String) : Marked (title driver).toList ↔ Marked driver.toList := by
  rw [toList_title, marked_spaced_of_not_mem (by decide), marked_spaced,
    or_iff_left (not_marked_of_not_mem (by decide))]

theorem not_marked_rule (width : Nat) : ¬ Marked (rule width).toList := by
  apply not_marked_of_not_mem
  intro member
  rw [rule, String.toList_ofList] at member
  exact absurd (List.eq_of_mem_replicate member) (by decide)

theorem marked_start (width : Nat) (driver : String) (config : Config) :
    (∃ line ∈ lines width (.start driver config), Marked line.toList) ↔
      Marked driver.toList ∨ Marked config.url.toList := by
  have connecting : s!"Connecting to: {config.url}".toList =
      "Connecting to:".toList ++ ' ' :: config.url.toList := by simp [toString]
  simp only [lines, List.exists_mem_cons_iff, List.not_mem_nil, false_and, exists_false, or_false,
    marked_title, not_marked_rule, false_or, connecting]
  rw [marked_spaced_of_not_mem (by decide), or_iff_left (not_marked_of_not_mem (by decide))]

theorem marked_connectFailed (width : Nat) (failure : Failure) :
    (∃ line ∈ lines width (.connectFailed failure), Marked line.toList) ↔
      Marked failure.message.toList := by
  have failed : s!"Failed to connect: {failure.message}".toList =
      "Failed to connect:".toList ++ ' ' :: failure.message.toList := by simp [toString]
  simp only [lines, List.exists_mem_cons_iff, List.not_mem_nil, false_and, exists_false, or_false,
    failed]
  exact marked_spaced_of_not_mem (by decide)

theorem not_mem_toString {c : Char} (noDigit : c.isDigit = false) (n : Nat) :
    c ∉ (toString n).toList := by
  intro member
  rw [Nat.toString_eq_ofList_toDigits, String.toList_ofList] at member
  have digit := Nat.isDigit_of_mem_toDigits (by decide) (by decide) member
  rw [noDigit] at digit
  cases digit

/-- The line of a check shows the marker if the error of the entry does. -/
theorem marked_checkLine (index : Nat) {entry : Entry} (plain : 'J' ∉ entry.name.toList) :
    Marked (checkLine index entry).toList ↔ ∃ detail ∈ entry.error, Marked detail.toList := by
  have number : 'J' ∉ (toString index).toList ++ [':'] := fun member =>
    (List.mem_append.mp member).elim (not_mem_toString (by decide) index) (by decide)
  obtain ⟨name, status, _ | detail⟩ := entry
  · have shape : (checkLine index ⟨name, status, none⟩).toList =
        "✓ Test".toList ++ ' ' :: (((toString index).toList ++ [':']) ++ ' ' :: name.toList) := by
      simp [checkLine, toString]
    rw [shape, marked_spaced_of_not_mem (by decide), marked_spaced_of_not_mem number]
    simpa using not_marked_of_not_mem plain
  · have shape : (checkLine index ⟨name, status, some detail⟩).toList =
        "✗ Test".toList ++ ' ' :: (((toString index).toList ++ [':']) ++
          ' ' :: (name.toList ++ ' ' :: ("-".toList ++ ' ' :: detail.toList))) := by
      simp [checkLine, toString]
    rw [shape, marked_spaced_of_not_mem (by decide), marked_spaced_of_not_mem number,
      marked_spaced_of_not_mem plain, marked_spaced_of_not_mem (by decide)]
    simp

theorem not_mem_name (check : Check) : 'J' ∉ check.name.toList := by
  cases check <;> decide

theorem exists_linesFrom_announcements (width index : Nat) {entries : List Entry}
    (plain : ∀ entry ∈ entries, 'J' ∉ entry.name.toList) :
    (∃ line ∈ linesFrom width (announcements index entries), Marked line.toList) ↔
      ∃ entry ∈ entries, ∃ detail ∈ entry.error, Marked detail.toList := by
  induction entries generalizing index with
  | nil => simp [announcements, linesFrom]
  | cons entry entries ih =>
    have rest := ih (index + 1) fun other member => plain other (List.mem_cons_of_mem _ member)
    have first := marked_checkLine index (plain entry List.mem_cons_self)
    rw [announcements_cons, linesFrom_cons, List.exists_mem_cons_iff, ← first, ← rest]
    exact List.exists_mem_cons_iff _ _ _

/-- The lines between the start and the end of a run show the marker if an error of an entry
does. -/
theorem marked_told {report : Report} {middle : List Notification} (told : Told report middle)
    (width : Nat) :
    (∃ line ∈ linesFrom width middle, Marked line.toList) ↔
      ∃ entry ∈ report.entries, ∃ detail ∈ entry.error, Marked detail.toList := by
  cases told with
  | unconnected failure =>
    rw [linesFrom_cons, linesFrom, List.append_nil, marked_connectFailed]
    change _ ↔ ∃ entry ∈ [_], _
    simp [Entry.ofOutcome]
  | checked names =>
    have plain : ∀ entry ∈ report.entries, 'J' ∉ entry.name.toList := by
      intro entry member
      have named : entry.name ∈ Check.all.map Check.name := names ▸ List.mem_map_of_mem member
      obtain ⟨check, -, same⟩ := List.mem_map.mp named
      exact same ▸ not_mem_name check
    rw [linesFrom_cons, ← exists_linesFrom_announcements width 1 plain]
    change (∃ line ∈ "✓ Connected successfully" :: "" :: linesFrom width _, _) ↔ _
    rw [List.exists_mem_cons_iff, List.exists_mem_cons_iff,
      or_iff_right (not_marked_of_not_mem (by decide)),
      or_iff_right (not_marked_of_not_mem (by decide))]

theorem not_marked_summary (width : Nat) (report : Report) :
    ¬ ∃ line ∈ summary width report, Marked line.toList := by
  have count (label : String) (plain : 'J' ∉ label.toList) (n : Nat) :
      ¬ Marked (label ++ toString n).toList := by
    apply not_marked_of_not_mem
    rw [String.toList_append]
    exact fun member => (List.mem_append.mp member).elim plain (not_mem_toString (by decide) n)
  rintro ⟨line, member, marked⟩
  simp only [summary, List.mem_cons, List.not_mem_nil, or_false] at member
  rcases member with rfl | rfl | rfl | rfl | rfl | rfl | rfl | rfl
  · exact not_marked_of_not_mem (by decide) marked
  · exact not_marked_rule width marked
  · exact not_marked_of_not_mem (by decide) marked
  · exact count "  Passed: " (by decide) report.passed.toNat marked
  · exact count "  Failed: " (by decide) report.failed.toNat marked
  · exact count "  Total:  " (by decide) report.total marked
  · exact not_marked_rule width marked
  · exact not_marked_of_not_mem (by decide) marked

/-- What follows the lines that show texts of the driver, of the settings and of the checks. -/
def ending (width : Nat) (report : Report) : List Char :=
  textOf (summary width report) ++ (marker.toList ++ '\n' :: (report.render.toList ++ ['\n']))

theorem exists_render_braces (report : Report) :
    ∃ middle, report.render.toList = '{' :: (middle ++ ['}']) := by
  rw [Report.render, Json.indentedText, String.toList_ofList, Json.indented, Report.toJson,
    Json.indentedAt]
  exact ⟨_, rfl⟩

theorem trim_render (report : Report) {back : List Char} (ends : back ⊆ ['\n']) :
    Text.trim ('\n' :: (report.render.toList ++ back)) = report.render.toList := by
  have blank : ∀ c ∈ ['\n'], Text.isBlank c = true := by
    intro c member
    obtain rfl := List.mem_singleton.mp member
    decide
  obtain ⟨middle, braces⟩ := exists_render_braces report
  rw [braces, ← List.singleton_append]
  exact Text.trim_blanks (by decide) (by decide) middle blank fun c member => blank c (ends member)

theorem ofText_ne_ok_of_infix {text : List Char} (broken : ['\n', '='] <:+: text)
    (report : Report) : Report.ofText (String.ofList text) ≠ .ok report := by
  have refused : Report.parse (String.ofList text) ≠ .ok report :=
    Report.parse_ne_ok_of_infix (by rwa [String.toList_ofList]) report
  unfold Report.ofText
  split
  · rename_i read
    exact fun same => refused (read.trans (congrArg _ (Except.ok.inj same)))
  · exact nofun

/-- There is no report in a text that goes on with the end of a transcript. -/
theorem ofText_trim_ending {width : Nat} (positive : 0 < width) (rest : List Char)
    (report other : Report) :
    Report.ofText (String.ofList (Text.trim (rest ++ ending width report))) ≠ .ok other := by
  obtain ⟨width, rfl⟩ := Nat.exists_eq_succ_of_ne_zero (Nat.ne_of_gt positive)
  let counts := "ummary:".toList ++ '\n' :: (s!"  Passed: {report.passed}".toList ++
    '\n' :: (s!"  Failed: {report.failed}".toList ++ '\n' :: s!"  Total:  {report.total}".toList))
  let middle := counts ++ '\n' :: '=' :: (List.replicate width '=' ++ ['\n', '\n'])
  have shape : rest ++ ending (width + 1) report =
      (rest ++ '\n' :: ((rule (width + 1)).toList ++ ['\n'])) ++ 'S' :: (middle ++
        'J' :: ("SON_OUTPUT:".toList ++ '\n' :: (report.render.toList ++ ['\n']))) := by
    simp [ending, summary, textOf_cons, marker, middle, counts, rule, List.replicate_succ]
  have kept : middle <:+: Text.trim (rest ++ ending (width + 1) report) := by
    rw [shape]
    exact Text.infix_trim (by decide) (by decide) _ _ _
  have broken : ['\n', '='] <:+: middle :=
    ⟨counts, List.replicate width '=' ++ ['\n', '\n'], by simp [middle]⟩
  exact ofText_ne_ok_of_infix (broken.trans kept) other

theorem ofTranscript_of_afterFirst? {text rest : List Char}
    (found : Report.afterFirst? marker.toList text = some rest) :
    Report.ofTranscript (String.ofList text) = Report.ofText (String.ofList (Text.trim rest)) := by
  unfold Report.ofTranscript
  rw [String.toList_ofList, found]

/-- A transcript gives no other report than its own, and gives that exactly if no line above the end
shows the marker. -/
theorem ofTranscript_ending {width : Nat} (positive : 0 < width) (preamble : List String)
    (report found : Report) :
    Report.ofTranscript (String.ofList (textOf preamble ++ ending width report)) = .ok found ↔
      found = report ∧ ¬ ∃ line ∈ preamble, Marked line.toList := by
  by_cases shown : ∃ line ∈ preamble, Marked line.toList
  · have marked : Marked (textOf preamble ++ []) := (marked_textOf_append _ _).mpr (.inl shown)
    rw [List.append_nil] at marked
    obtain ⟨rest, cut⟩ := Report.afterFirst?_of_infix marked (ending width report)
    rw [ofTranscript_of_afterFirst? cut]
    exact ⟨fun recovered => absurd recovered (ofText_trim_ending positive rest report found),
      fun claimed => absurd shown claimed.2⟩
  · have absent :
        ¬ Marked (textOf (preamble ++ summary width report) ++ marker.toList.dropLast) := by
      rw [marked_textOf_append]
      rintro (⟨line, member, marked⟩ | marked)
      · rcases List.mem_append.mp member with above | inSummary
        · exact shown ⟨line, above, marked⟩
        · exact not_marked_summary width report ⟨line, inSummary, marked⟩
      · exact absurd marked.length_le (by decide)
    have cut := Report.afterFirst?_of_absent absent ('\n' :: (report.render.toList ++ ['\n']))
    rw [textOf_append, List.append_assoc] at cut
    have recovered :
        Report.ofTranscript (String.ofList (textOf preamble ++ ending width report)) =
          .ok report := by
      refine (ofTranscript_of_afterFirst? cut).trans ?_
      rw [trim_render report (List.Subset.refl _), String.ofList_toList, Report.ofText,
        Report.parse_render]
    rw [recovered, Except.ok.injEq, and_iff_left shown, eq_comm]

theorem linesFrom_append_of_keeps {width : Nat} {first : List Notification}
    (keeps : ∀ notification ∈ first, ∀ width, widthAfter width notification = width)
    (second : List Notification) :
    linesFrom width (first ++ second) = linesFrom width first ++ linesFrom width second := by
  induction first with
  | nil => rfl
  | cons notification rest ih =>
    rw [List.cons_append, linesFrom_cons, linesFrom_cons, keeps _ List.mem_cons_self,
      ih fun other member => keeps other (List.mem_cons_of_mem _ member), List.append_assoc]

theorem widthAfter_of_told {report : Report} {middle : List Notification}
    (told : Told report middle) :
    ∀ notification ∈ middle, ∀ width, widthAfter width notification = width := by
  intro notification member width
  cases told with
  | unconnected failure =>
    obtain rfl := List.mem_singleton.mp member
    rfl
  | checked names =>
    rcases List.mem_cons.mp member with rfl | member
    · rfl
    · obtain ⟨_, -, rfl⟩ := List.mem_map.mp member
      rfl

/-- The text of the whole transcript of a run. -/
theorem textOf_linesFrom_run {report : Report} {middle : List Notification}
    (told : Told report middle) (width : Nat) (name : String) (config : Config) :
    textOf (linesFrom width (.start name config :: middle ++ [.finish report])) =
      textOf (lines width (.start name config) ++ linesFrom (title name).length middle) ++
        ending (title name).length report := by
  have closed : textOf (linesFrom (title name).length [.finish report]) =
      ending (title name).length report := by
    rw [linesFrom_cons, linesFrom, List.append_nil, lines, textOf_append, textOf_cons, textOf_cons,
      textOf_nil]
    rfl
  rw [List.cons_append, linesFrom_cons, widthAfter,
    linesFrom_append_of_keeps (widthAfter_of_told told), ← List.append_assoc, textOf_append, closed]

theorem length_title_pos (name : String) : 0 < (title name).length := by
  rw [← String.length_toList, toList_title]
  exact Nat.succ_pos _

/-- A transcript of a run gives no other report than its own, and gives that exactly if the texts
that are shown above it do not show the marker. -/
theorem ofTranscript_told {report : Report} {middle : List Notification}
    (told : Told report middle) (width : Nat) (name : String) (config : Config) (found : Report) :
    Report.ofTranscript (String.ofList
        (textOf (linesFrom width (.start name config :: middle ++ [.finish report])))) = .ok found ↔
      found = report ∧ ¬ Marked name.toList ∧ ¬ Marked config.url.toList ∧
        ∀ entry ∈ report.entries, ∀ detail ∈ entry.error, ¬ Marked detail.toList := by
  rw [textOf_linesFrom_run told, ofTranscript_ending (length_title_pos name)]
  simp only [List.mem_append, or_and_right, exists_or]
  rw [marked_start, marked_told told, not_or, not_or, and_assoc]
  push Not
  rfl

/-- A run that returns has written the lines of what fits its report, as far as they fit. -/
theorem keeps_run {σ κ τ : Type} {driver : Driver σ κ} {config : Config} {sink : Sink τ}
    {taken : τ → List UInt8} {capacity : Option Nat} (bounded : sink.Bounded taken capacity)
    {empty : τ} (fresh : taken empty = []) {state after : σ} {last : Transcript τ} {elapsed : Nat}
    {report : Report} (run : (compatibilityRun driver config (Transcript.observer sink)).run
      (state, .begin_ empty) = .ended elapsed (.returned report) (after, last)) :
    ∃ middle, Told report middle ∧ last.Keeps taken capacity (Text.encode (textOf
      (linesFrom defaultWidth (.start driver.name config :: middle ++ [.finish report])))) := by
  have calm : (Transcript.observer sink).NeverPanics := fun _ _ => rfl
  have fits : Fits capacity [] := fun _ _ => Nat.zero_le _
  have start : (Transcript.begin_ empty).Keeps taken capacity [] :=
    ⟨fresh.trans (upTo_of_fits fits).symm, iff_of_true rfl fits⟩
  obtain ⟨middle, told, rfl⟩ := compatibilityRun_told calm run
  exact ⟨middle, told, start.follow bounded _⟩

section Written

variable {σ κ τ : Type} {driver : Driver σ κ} {config : Config} {sink : Sink τ}
  {taken : τ → List UInt8} (accepts : sink.Accepts taken) {empty : τ} (fresh : taken empty = [])
  {state after : σ} {last : Transcript τ} {elapsed : Nat} {report : Report}
  (run : (compatibilityRun driver config (Transcript.observer sink)).run
    (state, .begin_ empty) = .ended elapsed (.returned report) (after, last))
include accepts fresh run

/-- A run that returns has written all lines of what fits its report. -/
theorem taken_run : ∃ middle, Told report middle ∧
    taken last.sink = Text.encode (textOf (linesFrom defaultWidth
      (.start driver.name config :: middle ++ [.finish report]))) := by
  obtain ⟨middle, told, keeps⟩ := keeps_run accepts.bounded fresh run
  exact ⟨middle, told, keeps.sink⟩

/-- The text that a run has written is in UTF-8. It gives no other report than that of the run, and
gives that exactly if neither the name of the driver nor the address nor the error of an entry shows
the marker. -/
theorem ofTranscript_run : ∃ text, Text.decode? (taken last.sink) = some text ∧
    ∀ found, Report.ofTranscript text = .ok found ↔
      found = report ∧ ¬ Marked driver.name.toList ∧ ¬ Marked config.url.toList ∧
        ∀ entry ∈ report.entries, ∀ detail ∈ entry.error, ¬ Marked detail.toList := by
  obtain ⟨middle, told, written⟩ := taken_run accepts fresh run
  exact ⟨_, by rw [written, Text.decode?_encode], ofTranscript_told told _ _ _⟩

end Written

/-- The report of a run in which all checks pass. -/
def healthyReport : Report :=
  Report.empty.recordAll (Check.all.map fun check => (check.name, .pass))

/-- The report of a run on a healthy driver is recovered. -/
theorem ofTranscript_run_memory : ∃ elapsed state last text,
    (compatibilityRun (Memory.driver .plain) .default (Transcript.observer Limits.none.sink)).run
        (.ofScript .none, .begin_ []) = .ended elapsed (.returned healthyReport) (state, last) ∧
      Text.decode? last.sink = some text ∧ Report.ofTranscript text = .ok healthyReport := by
  have returned : ((compatibilityRun (Memory.driver .plain) .default
      (Transcript.observer Limits.none.sink)).run (.ofScript .none, .begin_ [])).ending? =
        some (.returned healthyReport) := by decide +kernel
  obtain ⟨elapsed, ⟨state, last⟩, run⟩ := Course.exists_of_ending? returned
  obtain ⟨text, decoded, recovered⟩ := ofTranscript_run Limits.none_accepts rfl run
  refine ⟨elapsed, state, last, text, run, decoded, (recovered _).mpr ⟨rfl, ?_, ?_, ?_⟩⟩
  all_goals decide +kernel

/-- An address with the name of the client, which is the marker. -/
def markedUrl : String := "mongodb://localhost:27017/?appName=JSON_OUTPUT:"

/-- There is no report in the transcript of a run on a healthy driver at such an address. -/
theorem ofTranscript_run_marked_url : ∃ elapsed state last text,
    (compatibilityRun (Memory.driver .plain) { Config.default with url := markedUrl }
      (Transcript.observer Limits.none.sink)).run (.ofScript .none, .begin_ []) =
        .ended elapsed (.returned healthyReport) (state, last) ∧
      Text.decode? last.sink = some text ∧ ∀ found, Report.ofTranscript text ≠ .ok found := by
  have returned : ((compatibilityRun (Memory.driver .plain) { Config.default with url := markedUrl }
      (Transcript.observer Limits.none.sink)).run (.ofScript .none, .begin_ [])).ending? =
        some (.returned healthyReport) := by decide +kernel
  obtain ⟨elapsed, ⟨state, last⟩, run⟩ := Course.exists_of_ending? returned
  obtain ⟨middle, told, written⟩ := taken_run Limits.none_accepts rfl run
  have decoded := (congrArg Text.decode? written).trans (Text.decode?_encode _)
  refine ⟨elapsed, state, last, _, run, decoded, fun found recovered => ?_⟩
  obtain ⟨-, -, unmarked, -⟩ := (ofTranscript_told told _ _ _ found).mp recovered
  exact unmarked (by decide)

end DriverCompat.Console
