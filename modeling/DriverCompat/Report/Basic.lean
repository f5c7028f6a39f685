/-! # Run reports

A report is the list of what was tried, in order, with the numbers of entries that passed and
failed. A run adds one entry at a time with `record`, which keeps the numbers in step with the
list; a report that was read from a text holds whatever numbers the text gave.
-/

namespace DriverCompat

/-- How one check went. -/
inductive Outcome where
  | pass
  | fail (detail : String)
deriving DecidableEq, Repr

namespace Outcome

def isPass : Outcome → Bool
  | .pass => true
  | .fail _ => false

def detail? : Outcome → Option String
  | .pass => none
  | .fail detail => some detail

end Outcome

/-- How an entry is marked. -/
inductive Status where
  | pass
  | fail
deriving DecidableEq, Repr

namespace Status

def text : Status → String
  | .pass => "PASS"
  | .fail => "FAIL"

end Status

/-- One entry of a report. -/
structure Entry where
  name : String
  status : Status
  error : Option String
deriving DecidableEq, Repr

namespace Entry

/-- The entry of an outcome: it has an error exactly if it failed. -/
def ofOutcome (name : String) : Outcome → Entry
  | .pass => ⟨name, .pass, none⟩
  | .fail detail => ⟨name, .fail, some detail⟩

def passed (entry : Entry) : Bool := entry.status == .pass

end Entry

/-- What was tried, with the numbers of successes and failures. The numbers are 64-bit words. -/
structure Report where
  passed : UInt64
  failed : UInt64
  entries : List Entry
deriving DecidableEq, Repr

namespace Report

def empty : Report := ⟨0, 0, []⟩

/-- The report with one more entry at its end. -/
def record (report : Report) (name : String) (outcome : Outcome) : Report where
  passed := if outcome.isPass then report.passed + 1 else report.passed
  failed := if outcome.isPass then report.failed else report.failed + 1
  entries := report.entries ++ [Entry.ofOutcome name outcome]

def total (report : Report) : Nat := report.entries.length

/-- The names of the entries, in order. -/
def names (report : Report) : List String := report.entries.map Entry.name

/-- The first entry with a name. -/
def find? (report : Report) (name : String) : Option Entry :=
  report.entries.find? fun entry => entry.name == name

def allPassed (report : Report) : Bool := report.failed == 0

/-- The status with which a process ends after this report. -/
def exitCode (report : Report) : Nat := if report.allPassed then 0 else 1

/-- The name of the only entry of a run that could not connect. -/
def connectEntry : String := "connect"

@[simp] theorem entries_record (report : Report) (name : String) (outcome : Outcome) :
    (report.record name outcome).entries = report.entries ++ [Entry.ofOutcome name outcome] := rfl

end Report

end DriverCompat
