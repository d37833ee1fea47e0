/-
Module: LogLens.Config.Files
Purpose: The files that a run can read, as bytes under their names.
Main exports: Files, Files.read?, Files.readText?
-/
import LogLens.Text.Utf8

namespace LogLens

/-- The files that can be read. -/
structure Files where
  contents : List (String × Bytes) := []
deriving Repr, Inhabited

namespace Files

/-- The parts of a path between slashes.  Empty parts and single dots lead nowhere and are left
out. -/
def pathParts (path : String) : List String :=
  (path.splitOn "/").filter fun part => part != "" && part != "."

/-- Whether a path can only name a directory: its last part is empty or a dot. -/
def namesDirectory (path : String) : Bool :=
  (path.splitOn "/").getLast?.any fun part => part == "" || part == "."

/-- The bytes of a file; none if it cannot be read. -/
def read? (files : Files) (path : String) : Option Bytes :=
  if namesDirectory path then none
  else (files.contents.find? fun file => pathParts file.1 == pathParts path).map Prod.snd

/-- The text of a file; none if it cannot be read or is no text. -/
def readText? (files : Files) (path : String) : Option String :=
  (files.read? path).bind Utf8.decode?

end Files

end LogLens
