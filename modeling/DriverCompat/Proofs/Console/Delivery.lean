import DriverCompat.Proofs.Console.Cut

/-! # The delivery of a transcript

The transcript of a run reaches its sink line by line up to the first fault, and the sink is flushed
if there is none. So what becomes of any sink is told by the lines alone, and by bytes of a sink
that keeps what it takes.
-/

namespace DriverCompat.Console

variable {τ : Type} {sink : Sink τ}

/-- What becomes of a sink to which lines are written up to the first fault, and which is flushed
behind them. -/
def Sink.deliver (sink : Sink τ) : List String → τ → τ
  | [], state => (sink.flush state).2
  | line :: rest, state =>
    match sink.writeText (line ++ "\n") state with
    | (.ok (), after) => sink.deliver rest after
    | (.error _, after) => after

namespace Transcript

/-- What becomes of the sink of a transcript if nothing follows but some lines. -/
def delivered (sink : Sink τ) (transcript : Transcript τ) (rest : List String) : τ :=
  match transcript.fault with
  | some _ => transcript.sink
  | none => sink.deliver rest transcript.sink

theorem delivered_nil (transcript : Transcript τ) :
    transcript.delivered sink [] = (transcript.finish sink).2 := by
  unfold delivered finish
  cases transcript.fault <;> rfl

theorem delivered_line (transcript : Transcript τ) (text : String) (rest : List String) :
    (transcript.line sink text).delivered sink rest = transcript.delivered sink (text :: rest) := by
  unfold line
  cases known : transcript.fault with
  | some fault => simp only [delivered, known]
  | none =>
    simp only [delivered, known, Sink.deliver]
    rcases sink.writeText (text ++ "\n") transcript.sink with ⟨fault | _, after⟩
    · rfl
    · simp only

theorem delivered_lines (transcript : Transcript τ) (sink : Sink τ) (texts rest : List String) :
    (texts.foldl (line sink) transcript).delivered sink rest =
      transcript.delivered sink (texts ++ rest) := by
  induction texts generalizing transcript with
  | nil => rfl
  | cons text texts ih => rw [List.foldl_cons, ih, delivered_line, List.cons_append]

/-- By induction on the notifications: the lines for them are delivered in order. -/
theorem delivered_follow (transcript : Transcript τ) (notifications : List Notification)
    (rest : List String) :
    ((observer sink).follow notifications transcript).delivered sink rest =
      transcript.delivered sink (linesFrom transcript.width notifications ++ rest) := by
  induction notifications generalizing transcript with
  | nil => rfl
  | cons notification notifications ih =>
    have further := ih (transcript.notify sink notification)
    have first := transcript.delivered_lines sink (lines transcript.width notification)
      (linesFrom (widthAfter transcript.width notification) notifications ++ rest)
    rw [linesFrom_cons, List.append_assoc, ← first]
    exact further

theorem finish_follow (state : τ) (notifications : List Notification) :
    (((observer sink).follow notifications (begin_ state)).finish sink).2 =
      sink.deliver (linesFrom defaultWidth notifications) state := by
  rw [← delivered_nil, delivered_follow, List.append_nil]
  rfl

end Transcript

/-- All lines of the transcript of a run, the last of which is the text of the report. -/
def allLines (driver : String) (config : Config) (report : Report) : List String :=
  lines defaultWidth (.start driver config) ++ findings report ++
    summary (title driver).length report ++ [Report.marker, report.render]

theorem textOf_allLines (driver : String) (config : Config) (report : Report) :
    textOf (allLines driver config report) = fullText driver config report := by
  rw [allLines, textOf_append, textOf_cons, textOf_cons, textOf_nil, fullText, upToReport, preamble]
  simp only [List.append_assoc, List.cons_append]

theorem linesFrom_run {report : Report} {middle : List Notification} (told : Told report middle)
    (name : String) (config : Config) :
    linesFrom defaultWidth (.start name config :: middle ++ [.finish report]) =
      allLines name config report := by
  have last : linesFrom (title name).length [.finish report] =
      summary (title name).length report ++ [Report.marker, report.render] := List.append_nil _
  rw [List.cons_append, linesFrom_cons, widthAfter,
    linesFrom_append_of_keeps (widthAfter_of_told told), linesFrom_told told, last, allLines]
  simp only [List.append_assoc]

/-- A run that returns delivers its lines to the sink of its transcript. -/
theorem finish_of_run {σ κ : Type} {driver : Driver σ κ} {config : Config} {state after : σ}
    {start : τ} {last : Transcript τ} {elapsed : Nat} {report : Report}
    (run : (compatibilityRun driver config (Transcript.observer sink)).run
      (state, .begin_ start) = .ended elapsed (.returned report) (after, last)) :
    (last.finish sink).2 = sink.deliver (allLines driver.name config report) start := by
  obtain ⟨middle, told, rfl⟩ := compatibilityRun_told (fun _ _ => rfl) run
  rw [Transcript.finish_follow, linesFrom_run told]

/-- Flushing takes nothing back. -/
def Sink.FlushKeeps (sink : Sink τ) (taken : τ → List UInt8) : Prop :=
  ∀ state, taken (sink.flush state).2 = taken state

theorem Limits.flushKeeps (limits : Limits) : limits.sink.FlushKeeps id := fun _ => rfl

/-- Of the lines that are delivered, as much is taken as fits. -/
theorem Sink.taken_deliver {taken : τ → List UInt8} {capacity : Option Nat}
    (bounded : sink.Bounded taken capacity) (flushing : sink.FlushKeeps taken) (lines : List String)
    (state : τ) (fits : Fits capacity (taken state)) :
    taken (sink.deliver lines state) =
      upTo capacity (taken state ++ Text.encode (textOf lines)) := by
  induction lines generalizing state with
  | nil =>
    rw [deliver, flushing, textOf_nil, Text.encode, List.flatMap_nil, List.append_nil,
      upTo_of_fits fits]
  | cons line rest ih =>
    obtain ⟨answer, after, written, kept, whole⟩ :=
      Sink.write_of_bounded bounded (Text.encode (line.toList ++ ['\n'])) state fits
    have answered : sink.writeText (line ++ "\n") state = (answer, after) := by
      rw [Sink.writeText, String.toList_append]
      exact written
    have text : Text.encode (textOf (line :: rest)) =
        Text.encode (line.toList ++ ['\n']) ++ Text.encode (textOf rest) := Text.encode_append _ _
    rw [deliver, answered, text, ← List.append_assoc]
    rcases answer with fault | _
    · have tooLong : ¬ Fits capacity (taken state ++ Text.encode (line.toList ++ ['\n'])) := by
        intro within
        cases whole.mpr within
      simp only
      rw [kept, upTo_append_of_not_fits tooLong]
    · have within := whole.mp rfl
      rw [upTo_of_fits within] at kept
      simp only
      rw [ih after (kept ▸ within), kept]

end DriverCompat.Console
