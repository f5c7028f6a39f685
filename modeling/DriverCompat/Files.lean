import DriverCompat.IoFault
import DriverCompat.Text.Split
import DriverCompat.Text.Utf8

/-! # File trees

Files and directories by the names on the way from the root. A path is followed name by name,
and each name but the last has to lead to a directory; how a path fails says where it stops.
-/

namespace DriverCompat

/-- What stands in a file tree. -/
inductive Content where
  | file (bytes : List UInt8)
  | directory
deriving DecidableEq, Repr

/-- A file tree. A directory exists if it is listed or something is listed below it. -/
structure Files where
  entries : List (List String × Content)
deriving Repr

namespace Files

def empty : Files := ⟨[]⟩

/-- What stands under names from the root. -/
def content? (files : Files) (place : List String) : Option Content :=
  match files.entries.lookup place with
  | some content => some content
  | none =>
    if place.isEmpty || files.entries.any fun entry => place.isPrefixOf entry.1 then some .directory
    else none

/-- The tree with a content under names from the root. -/
def put (files : Files) (place : List String) (content : Content) : Files :=
  ⟨(place, content) :: files.entries.filter fun entry => entry.1 != place⟩

/-- The length from which a name is too long. -/
def nameLimit : Nat := 255

/-- Follows names from a directory; the last one may lead to nothing. -/
def follow (files : Files) : List String → List String → Except IoFault (List String)
  | place, [] => .ok place
  | place, name :: rest =>
    match files.content? place with
    | none => .error .noSuchFile
    | some (.file _) => .error .notDirectory
    | some .directory =>
      if name = "" ∨ name = "." then files.follow place rest
      else if name = ".." then files.follow place.dropLast rest
      else if nameLimit < name.utf8ByteSize then .error .nameTooLong
      else files.follow (place ++ [name]) rest

/-- The names of a path. -/
def names (path : String) : List String :=
  (Text.splitOn '/' path.toList).map String.ofList

/-- A path that no system call takes. -/
def refused? (path : String) : Option IoFault :=
  if path.toList.contains '\x00' then some .nulInName
  else if path.isEmpty then some .noSuchFile
  else none

/-- Where a path starts: at the root if it begins with a slash, and otherwise at a working
directory. -/
def start (directory : List String) (path : String) : List String :=
  if path.toList.head? = some '/' then [] else directory

/-- The place of a path. -/
def resolve (files : Files) (directory : List String) (path : String) :
    Except IoFault (List String) :=
  match refused? path with
  | some fault => .error fault
  | none => files.follow (start directory path) (names path)

/-- The text of a file. -/
def readText (files : Files) (directory : List String) (path : String) : Except IoFault String :=
  match files.resolve directory path with
  | .error fault => .error fault
  | .ok place =>
    match files.content? place with
    | none => .error .noSuchFile
    | some .directory => .error .isDirectory
    | some (.file bytes) =>
      match Text.decode? bytes with
      | some text => .ok text
      | none => .error .notUtf8

/-- The place of a file that is to be written. A path that ends in a slash names no file. -/
def writable (files : Files) (directory : List String) (path : String) :
    Except IoFault (List String) :=
  match refused? path with
  | some fault => .error fault
  | none =>
    let steps := names path
    let named := (steps.reverse.dropWhile String.isEmpty).reverse
    match files.follow (start directory path) named with
    | .error fault => .error fault
    | .ok place =>
      if steps.getLast? = some "" ∨ files.content? place = some .directory then
        .error .isDirectory
      else .ok place

/-- The tree with another text in a file. -/
def writeText (files : Files) (directory : List String) (path text : String) :
    Except IoFault Unit × Files :=
  match files.writable directory path with
  | .error fault => (.error fault, files)
  | .ok place => (.ok (), files.put place (.file (Text.encode text.toList)))

/-- The tree with a file, which keeps the text that it has. -/
def touch (files : Files) (directory : List String) (path : String) :
    Except IoFault Unit × Files :=
  match files.writable directory path with
  | .error fault => (.error fault, files)
  | .ok place =>
    (.ok (), if (files.content? place).isSome then files else files.put place (.file []))

/-- Makes the directories that names lead through. -/
def makeAlong (files : Files) : List String → List String → Except IoFault Unit × Files
  | _, [] => (.ok (), files)
  | place, name :: rest =>
    if name = "" ∨ name = "." then files.makeAlong place rest
    else if name = ".." then files.makeAlong place.dropLast rest
    else
      let place := place ++ [name]
      match files.content? place with
      | some .directory => files.makeAlong place rest
      | some (.file _) => (.error (if rest.isEmpty then .fileExists else .notDirectory), files)
      | none =>
        if nameLimit < name.utf8ByteSize then (.error .nameTooLong, files)
        else (files.put place .directory).makeAlong place rest

/-- Makes a directory and all directories above it. -/
def makeDirectories (files : Files) (directory : List String) (path : String) :
    Except IoFault Unit × Files :=
  files.makeAlong (start directory path) (names path)

/-- Whether a path leads to something. -/
def contains (files : Files) (directory : List String) (path : String) : Bool :=
  match files.resolve directory path with
  | .ok place => (files.content? place).isSome
  | .error _ => false

end Files

end DriverCompat
