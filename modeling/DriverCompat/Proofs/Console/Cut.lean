import DriverCompat.Proofs.Console.Recovery
import DriverCompat.Proofs.Report.Truncation

/-! # Transcripts that were cut off

The transcript of a run may be cut after any byte, where its sink stopped taking more. If the text
above the marker line does not show the marker, what was taken gives the report of the run when the
report is complete, and an error when it is not. A whole transcript gives no other report, whatever
stands above the marker line.
-/

namespace DriverCompat.Console

open Report (marker)

/-- The lines between the start of a run and its summary: why there is no session, or how the checks
went. -/
def findings (report : Report) : List String :=
  match report.find? Report.connectEntry with
  | some entry => entry.error.toList.map fun detail => s!"Failed to connect: {detail}"
  | none => "✓ Connected successfully" :: "" ::
      (report.entries.zipIdx 1).map fun numbered => checkLine numbered.2 numbered.1

/-- The text for people: what stands above the marker line. -/
def preamble (driver : String) (config : Config) (report : Report) : List Char :=
  textOf (lines defaultWidth (.start driver config) ++ findings report ++
    summary (title driver).length report)

/-- A transcript up to the end of its report. -/
def upToReport (driver : String) (config : Config) (report : Report) : List Char :=
  preamble driver config report ++ (marker.toList ++ '\n' :: report.render.toList)

/-- A whole transcript. -/
def fullText (driver : String) (config : Config) (report : Report) : List Char :=
  upToReport driver config report ++ ['\n']

theorem linesFrom_announcements (width index : Nat) (entries : List Entry) :
    linesFrom width (announcements index entries) =
      (entries.zipIdx index).map fun numbered => checkLine numbered.2 numbered.1 := by
  induction entries generalizing index with
  | nil => rfl
  | cons entry entries ih =>
    rw [announcements_cons, List.zipIdx_cons, List.map_cons, ← ih (index + 1)]
    rfl

theorem linesFrom_told {report : Report} {middle : List Notification} (told : Told report middle)
    (width : Nat) : linesFrom width middle = findings report := by
  cases told with
  | unconnected failure => rfl
  | checked names =>
    have absent : report.find? Report.connectEntry = none := by
      apply List.find?_eq_none.mpr
      intro entry member
      have named : entry.name ∈ Check.all.map Check.name := names ▸ List.mem_map_of_mem member
      obtain ⟨check, -, same⟩ := List.mem_map.mp named
      simpa [← same] using check.name_ne_connectEntry
    rw [findings, absent]
    simp only
    rw [← linesFrom_announcements width]
    rfl

/-- What is written in a run is its transcript. -/
theorem textOf_linesFrom_told {report : Report} {middle : List Notification}
    (told : Told report middle) (name : String) (config : Config) :
    textOf (linesFrom defaultWidth (.start name config :: middle ++ [.finish report])) =
      fullText name config report := by
  rw [textOf_linesFrom_run told, linesFrom_told told, ending, fullText, upToReport, preamble,
    textOf_append _ (summary _ _)]
  simp only [List.append_assoc, List.cons_append]

theorem isPrefix_of_not_isPrefix {α : Type} {part target whole : List α} (cut : part <+: whole)
    (inside : target <+: whole) (short : ¬ target <+: part) :
    part <+: target ∧ part ≠ target := by
  refine ⟨List.prefix_of_prefix_length_le cut inside ?_, ?_⟩
  · by_contra longer
    exact short (List.prefix_of_prefix_length_le inside cut (by omega))
  · rintro rfl
    exact short (List.prefix_refl part)

theorem isPrefix_dropLast {α : Type} {part target : List α} (cut : part <+: target)
    (incomplete : part ≠ target) : part <+: target.dropLast := by
  apply List.prefix_of_prefix_length_le cut (List.dropLast_prefix target)
  have := mt cut.eq_of_length_le incomplete
  rw [List.length_dropLast]
  omega

/-- The marker does not begin in the text above its line. -/
theorem not_marked_append_dropLast {lines : List String} (unmarked : ¬ Marked (textOf lines)) :
    ¬ Marked (textOf lines ++ marker.toList.dropLast) := by
  rw [marked_textOf_append]
  rintro (shown | rest)
  · have above : Marked (textOf lines ++ []) := (marked_textOf_append lines []).mpr (.inl shown)
    exact unmarked (by rwa [List.append_nil] at above)
  · exact absurd rest (by decide)

/-- The end of a transcript holds no report before it is complete. -/
theorem ofText_trim_ne_ok_of_isPrefix {report : Report} {part : List Char}
    (cut : part <+: '\n' :: report.render.toList) (incomplete : part ≠ '\n' :: report.render.toList)
    (found : Report) : Report.ofText (String.ofList (Text.trim part)) ≠ .ok found := by
  obtain ⟨middle, braces⟩ := exists_render_braces report
  have start : Text.trim part <+: report.render.toList ∧
      Text.trim part ≠ report.render.toList := by
    have left := Text.trim_prefix part
    rcases List.prefix_cons_iff.mp cut with rfl | ⟨body, rfl, inside⟩
    · refine ⟨List.nil_prefix, ?_⟩
      rw [braces]
      exact nofun
    · have front : ('\n' :: body).dropWhile Text.isBlank = body := by
        rw [List.dropWhile_cons_of_pos (by decide)]
        rw [braces] at inside
        rcases List.prefix_cons_iff.mp inside with rfl | ⟨_, rfl, -⟩
        · rfl
        · exact List.dropWhile_cons_of_neg (by decide)
      rw [front] at left
      refine ⟨left.trans inside, fun whole => incomplete (congrArg _ ?_)⟩
      exact inside.eq_of_length_le (whole ▸ left.length_le)
  exact Report.ofText_ne_ok_of_isPrefix start.1 start.2 found

/-- What has been taken of a transcript gives its report when that is complete, and none before. -/
theorem ofTranscript_of_isPrefix {driver : String} {config : Config} {report : Report}
    (unmarked : ¬ Marked (preamble driver config report)) {part : List Char}
    (cut : part <+: fullText driver config report) :
    (upToReport driver config report <+: part →
        Report.ofTranscript (String.ofList part) = .ok report) ∧
      (¬ upToReport driver config report <+: part →
        ∃ failure, Report.ofTranscript (String.ofList part) = .error failure) := by
  have absent : ¬ Marked (preamble driver config report ++ marker.toList.dropLast) :=
    not_marked_append_dropLast unmarked
  constructor
  · rintro ⟨back, rfl⟩
    have tail : back <+: ['\n'] := (List.prefix_append_right_inj _).mp cut
    have shape : upToReport driver config report ++ back = preamble driver config report ++
        (marker.toList ++ '\n' :: (report.render.toList ++ back)) := by
      rw [upToReport]
      simp only [List.append_assoc, List.cons_append]
    rw [shape, ofTranscript_of_afterFirst? (Report.afterFirst?_of_absent absent _),
      trim_render report tail.subset, String.ofList_toList, Report.ofText, Report.parse_render]
  · intro short
    obtain ⟨early, incomplete⟩ := isPrefix_of_not_isPrefix cut (List.prefix_append _ _) short
    rw [upToReport, ← List.append_assoc] at early incomplete
    by_cases reached : preamble driver config report ++ marker.toList <+: part
    · obtain ⟨rest, rfl⟩ := reached
      have refused := ofText_trim_ne_ok_of_isPrefix ((List.prefix_append_right_inj _).mp early)
        fun same => incomplete (congrArg _ same)
      rw [List.append_assoc, ofTranscript_of_afterFirst? (Report.afterFirst?_of_absent absent rest)]
      cases read : Report.ofText (String.ofList (Text.trim rest)) with
      | error failure => exact ⟨failure, rfl⟩
      | ok found => exact absurd read (refused found)
    · obtain ⟨inside, partly⟩ := isPrefix_of_not_isPrefix early (List.prefix_append _ _) reached
      have before := isPrefix_dropLast inside partly
      rw [List.dropLast_append_of_ne_nil (by decide)] at before
      refine ⟨Report.noMarker, ?_⟩
      unfold Report.ofTranscript
      rw [String.toList_ofList, Report.afterFirst?_of_not_infix fun marked =>
        absent (marked.trans before.isInfix)]

/-- A run over a sink that stops taking bytes at its capacity, if it has one. What has been taken is
the front of its transcript. If the text above the marker line does not show the marker, the whole
characters of what has been taken give the report of the run if that is complete in them, and
otherwise an error. The whole transcript gives no other report, whatever it shows. -/
theorem ofTranscript_cut {σ κ τ : Type} {driver : Driver σ κ} {config : Config} {sink : Sink τ}
    {taken : τ → List UInt8} {capacity : Option Nat} (bounded : sink.Bounded taken capacity)
    {empty : τ} (fresh : taken empty = []) {state after : σ} {last : Transcript τ} {elapsed : Nat}
    {report : Report} (run : (compatibilityRun driver config (Transcript.observer sink)).run
      (state, .begin_ empty) = .ended elapsed (.returned report) (after, last)) :
    taken last.sink = upTo capacity (Text.encode (fullText driver.name config report)) ∧
      (¬ Marked (preamble driver.name config report) →
        (upToReport driver.name config report <+: (Text.decodeCut (taken last.sink)).toList →
            Report.ofTranscript (Text.decodeCut (taken last.sink)) = .ok report) ∧
          (¬ upToReport driver.name config report <+: (Text.decodeCut (taken last.sink)).toList →
            ∃ failure,
              Report.ofTranscript (Text.decodeCut (taken last.sink)) = .error failure)) ∧
      ∀ found,
        Report.ofTranscript (String.ofList (fullText driver.name config report)) = .ok found →
          found = report := by
  obtain ⟨middle, told, keeps⟩ := keeps_run bounded fresh run
  have written := keeps.sink
  rw [textOf_linesFrom_told told] at written
  obtain ⟨part, cut, decoded⟩ : ∃ part, part <+: fullText driver.name config report ∧
      Text.decodeCut (taken last.sink) = String.ofList part := by
    rw [written]
    cases capacity with
    | none => exact ⟨_, List.prefix_refl _, Text.decodeCut_encode _⟩
    | some limit => exact ⟨_, Text.fitting_prefix limit _, Text.decodeCut_take_encode limit _⟩
  refine ⟨written, fun unmarked => ?_, fun found recovered => ?_⟩
  · rw [decoded, String.toList_ofList]
    exact ofTranscript_of_isPrefix unmarked cut
  · rw [← textOf_linesFrom_told told] at recovered
    exact ((ofTranscript_told told _ _ _ found).mp recovered).1

/-- The report of a run on a healthy driver is recovered from the first 1237 bytes of its
transcript, and not from one byte less. -/
theorem ofTranscript_cut_memory :
    (∃ elapsed state last,
      (compatibilityRun (Memory.driver .plain) .default
          (Transcript.observer (Limits.mk (some 1237) .takesNothing false).sink)).run
        (.ofScript .none, .begin_ []) = .ended elapsed (.returned healthyReport) (state, last) ∧
      Report.ofTranscript (Text.decodeCut last.sink) = .ok healthyReport) ∧
    ∃ elapsed state last,
      (compatibilityRun (Memory.driver .plain) .default
          (Transcript.observer (Limits.mk (some 1236) .fails false).sink)).run
        (.ofScript .none, .begin_ []) = .ended elapsed (.returned healthyReport) (state, last) ∧
      ∃ failure, Report.ofTranscript (Text.decodeCut last.sink) = .error failure := by
  constructor
  · have returned : ((compatibilityRun (Memory.driver .plain) .default
        (Transcript.observer (Limits.mk (some 1237) .takesNothing false).sink)).run
          (.ofScript .none, .begin_ [])).ending? = some (.returned healthyReport) := by
      decide +kernel
    obtain ⟨elapsed, ⟨state, last⟩, run⟩ := Course.exists_of_ending? returned
    obtain ⟨written, recovers, -⟩ := ofTranscript_cut (Limits.bounded _) rfl run
    refine ⟨elapsed, state, last, run, (recovers (by decide +kernel)).1 ?_⟩
    rw [written, upTo, Text.decodeCut_take_encode, String.toList_ofList, fullText,
      Text.prefix_fitting_iff, upToReport, Report.render, Json.indentedText, String.toList_ofList]
    decide +kernel
  · have returned : ((compatibilityRun (Memory.driver .plain) .default
        (Transcript.observer (Limits.mk (some 1236) .fails false).sink)).run
          (.ofScript .none, .begin_ [])).ending? = some (.returned healthyReport) := by
      decide +kernel
    obtain ⟨elapsed, ⟨state, last⟩, run⟩ := Course.exists_of_ending? returned
    obtain ⟨written, recovers, -⟩ := ofTranscript_cut (Limits.bounded _) rfl run
    refine ⟨elapsed, state, last, run, (recovers (by decide +kernel)).2 ?_⟩
    rw [written, upTo, Text.decodeCut_take_encode, String.toList_ofList, fullText,
      Text.prefix_fitting_iff, upToReport, Report.render, Json.indentedText, String.toList_ofList]
    decide +kernel

end DriverCompat.Console
