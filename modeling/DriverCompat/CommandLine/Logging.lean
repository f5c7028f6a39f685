import DriverCompat.Text.Split

/-! # Logging settings

Without a log file only warnings are kept. With one, the steps of the run are kept as well.
-/

namespace DriverCompat.CommandLine

/-- How a run is logged. -/
structure Logging where
  logFile : Option String
  /-- Whether the time that each step takes is kept. -/
  enableSpans : Bool
  filter : String
deriving DecidableEq, Repr

namespace Logging

def quiet : Logging := ⟨none, false, "warn"⟩

/-- What is kept in a log file. -/
def detailedFilter : String := "warn,drivermatrix_core=debug,drivermatrix_driver_mongodb=debug"

/-- The settings for a log file, if there is one. -/
def ofFile : Option String → Logging
  | none => quiet
  | some path => ⟨some path, true, detailedFilter⟩

/-- The names of a path: without empty ones and without dots for the directory itself, except for
one at the front. -/
def parts (path : List Char) : List (List Char) :=
  match Text.splitOn '/' path with
  | [] => []
  | first :: rest =>
    (if first = [] then [] else [first]) ++ rest.filter fun name => name ≠ [] ∧ name ≠ ['.']

/-- The directory and the name of a log file; a path that ends at the root or in a step up has no
name. -/
def splitPath? (path : String) : Option (String × String) :=
  let names := parts path.toList
  let root := if path.toList.head? = some '/' then ['/'] else []
  match names.getLast? with
  | none => none
  | some name =>
    if name = ['.', '.'] ∨ name = ['.'] then none
    else
      let directory := root ++ ['/'].intercalate names.dropLast
      some (if directory.isEmpty then "." else String.ofList directory, String.ofList name)

end Logging

end DriverCompat.CommandLine
