import DriverCompat.Files

/-! # Hosts

What a command asks of the machine that it runs on, in any monad. One host is a file tree that is
carried along, so that whole commands can be computed.
-/

namespace DriverCompat.CommandLine

/-- The files of a machine. -/
structure Host (m : Type → Type) where
  readText : String → m (Except IoFault String)
  /-- Writes a file anew. -/
  writeText : String → String → m (Except IoFault Unit)
  /-- Makes a directory and those above it. -/
  makeDirectories : String → m (Except IoFault Unit)
  /-- Makes sure that a file can be added to. -/
  touch : String → m (Except IoFault Unit)

/-- The host that is a file tree, with a working directory. -/
def Host.ofFiles (directory : List String) : Host (StateM Files) where
  readText path files := (files.readText directory path, files)
  writeText path text files := files.writeText directory path text
  makeDirectories path files := files.makeDirectories directory path
  touch path files := files.touch directory path

end DriverCompat.CommandLine
