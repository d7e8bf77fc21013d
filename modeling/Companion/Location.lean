import Companion.Path

/-! # Locations

The place of a name in a source file. Lines and columns count from one; line zero marks a place that
is not known. -/

namespace Companion

/-- The place of a name in a source file, shown by `Location.display`. -/
structure Location where
  /-- The file. -/
  file : Path
  /-- The line, from one. -/
  line : Nat
  /-- The column in characters, from one. -/
  column : Nat
  /-- The length of the name in characters. -/
  length : Nat
  deriving DecidableEq, Repr

namespace Location

/-- The place of what has no source. -/
def unknown : Location := ⟨⟨""⟩, 0, 0, 0⟩

/-- Whether a place is not known: its line is zero, as for `unknown`. -/
def isUnknown (location : Location) : Bool := location.line == 0

@[simp] theorem isUnknown_unknown : unknown.isUnknown = true := rfl

/-- A place as `file:line:column`. -/
def display (location : Location) : String :=
  if location.isUnknown then "<unknown>"
  else s!"{location.file.text}:{location.line}:{location.column}"

end Location

end Companion
