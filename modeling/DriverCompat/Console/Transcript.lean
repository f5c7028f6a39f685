import DriverCompat.Console.Sink
import DriverCompat.Report.Marker
import DriverCompat.Run.Observer

/-! # Transcripts

The transcript of a run for people, with the report for programs behind a marker line at its end.
Writing stops at the first fault, which is kept until the transcript is finished.
-/

namespace DriverCompat.Console

/-- The title over a run. -/
def title (driver : String) : String := s!"Rust {driver} Driver Compatibility Test"

/-- A line of equality signs. -/
def rule (width : Nat) : String := String.ofList (List.replicate width '=')

/-- The width of a rule before any title has been written. -/
def defaultWidth : Nat := 50

/-- A rule is as wide as the last title. -/
def widthAfter (width : Nat) : Notification → Nat
  | .start driver _ => (title driver).length
  | _ => width

/-- The line of a check: it went wrong if there is an error to show. -/
def checkLine (index : Nat) (entry : Entry) : String :=
  match entry.error with
  | none => s!"✓ Test {index}: {entry.name}"
  | some detail => s!"✗ Test {index}: {entry.name} - {detail}"

/-- The lines above the marker at the end of a run. -/
def summary (width : Nat) (report : Report) : List String :=
  ["", rule width, "Summary:", s!"  Passed: {report.passed}", s!"  Failed: {report.failed}",
    s!"  Total:  {report.total}", rule width, ""]

/-- The lines for a notification, below rules of a width. -/
def lines (width : Nat) : Notification → List String
  | .start driver config =>
    [title driver, rule (title driver).length, s!"Connecting to: {config.url}", ""]
  | .connected => ["✓ Connected successfully", ""]
  | .connectFailed failure => [s!"Failed to connect: {failure.message}"]
  | .check index entry => [checkLine index entry]
  | .finish report => summary width report ++ [Report.marker, report.render]

/-- A transcript that is being written to a sink. -/
structure Transcript (σ : Type) where
  width : Nat
  /-- The first fault, after which nothing is written. -/
  fault : Option IoFault
  sink : σ

namespace Transcript

variable {σ : Type}

/-- A transcript before its first line. -/
def begin_ (sink : σ) : Transcript σ := ⟨defaultWidth, none, sink⟩

/-- Writes a line unless there has been a fault. -/
def line (sink : Sink σ) (transcript : Transcript σ) (text : String) : Transcript σ :=
  match transcript.fault with
  | some _ => transcript
  | none =>
    match sink.writeText (text ++ "\n") transcript.sink with
    | (.ok (), state) => { transcript with sink := state }
    | (.error fault, state) => { transcript with fault := some fault, sink := state }

/-- Writes the lines for a notification. -/
def notify (sink : Sink σ) (transcript : Transcript σ) (notification : Notification) :
    Transcript σ :=
  let written := (lines transcript.width notification).foldl (line sink) transcript
  { written with width := widthAfter transcript.width notification }

/-- Flushes the sink at the end, or says the first fault. -/
def finish (sink : Sink σ) (transcript : Transcript σ) : Except IoFault Unit × σ :=
  match transcript.fault with
  | some fault => (.error fault, transcript.sink)
  | none => sink.flush transcript.sink

/-- The observer that writes a transcript. It never panics. -/
def observer (sink : Sink σ) : Observer (Transcript σ) :=
  ⟨fun notification transcript => (.returned (), transcript.notify sink notification)⟩

end Transcript

end DriverCompat.Console
