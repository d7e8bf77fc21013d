import Companion.Source.File
import Companion.Location

/-! # Source databases

The source files from which diagnostics quote, found by their paths. `get?_add` says what an
addition does to what is found. -/

namespace Companion

/-- A collection of source files with different paths: no two are the `Path.same`. -/
structure SourceDatabase where
  /-- The files, the one added last first. -/
  files : List SourceFile

namespace SourceDatabase

/-- The database without files. -/
def empty : SourceDatabase := ⟨[]⟩

/-- The file of a path, or of one that is the `Path.same`. -/
def get? (database : SourceDatabase) (path : Path) : Option SourceFile :=
  database.files.find? fun file => file.path.same path

/-- Whether there is a file of a path. -/
def contains (database : SourceDatabase) (path : Path) : Bool := (database.get? path).isSome

/-- Adds a text, in place of the file of a path that is the `Path.same`. -/
def add (database : SourceDatabase) (path : Path) (content : String) : SourceDatabase :=
  ⟨.ofText path content :: database.files.filter fun file => !file.path.same path⟩

/-- The line at a location with `SourceFile.line?`, if the location is known and its file is there.
-/
def lineText? (database : SourceDatabase) (location : Location) : Option String :=
  if location.isUnknown then none
  else (database.get? location.file).bind (·.line? location.line)

@[simp] theorem get?_empty (path : Path) : empty.get? path = none := rfl

/-- Law of `add`: after it `get?` finds the file at its path, and at other paths what it found
before. -/
theorem get?_add (database : SourceDatabase) (path other : Path) (content : String) :
    (database.add path content).get? other
      = if path.same other then some (.ofText path content) else database.get? other := by
  by_cases equal : path.same other = true
  · simp [get?, add, SourceFile.ofText, equal]
  · simp only [get?, add, SourceFile.ofText, List.find?_cons, equal, List.find?_filter]
    congr 1
    funext file
    by_cases same : file.path.same path = true
    · simp [same, Path.same_congr same other, equal]
    · simp [same]

end SourceDatabase

end Companion
