import DriverCompat.Report.Text
import DriverCompat.Failure
import DriverCompat.Text.Blank

/-! # Reports in transcripts

A transcript is text for people that ends in a marker line and the report for programs. The
report is found by the first occurrence of the marker.
-/

namespace DriverCompat.Report

open Text

/-- The line before the report. -/
def marker : String := "JSON_OUTPUT:"

/-- What follows the first occurrence of a word. -/
def afterFirst? (word : List Char) : List Char → Option (List Char)
  | [] => if word.isEmpty then some [] else none
  | c :: rest =>
    if word.isPrefixOf (c :: rest) then some ((c :: rest).drop word.length)
    else afterFirst? word rest

/-- The failure of a transcript without the marker. -/
def noMarker : Failure := .configuration s!"no {marker} marker in transcript"

/-- The report in a text that is nothing but a report. -/
def ofText (text : String) : Except Failure Report :=
  match parse text with
  | .ok report => .ok report
  | .error rejection => .error (.serialization rejection)

/-- The report behind the first marker of a transcript. -/
def ofTranscript (transcript : String) : Except Failure Report :=
  match afterFirst? marker.toList transcript.toList with
  | none => .error noMarker
  | some rest => ofText (String.ofList (trim rest))

end DriverCompat.Report
