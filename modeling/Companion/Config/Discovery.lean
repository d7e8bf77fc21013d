import Companion.Config.Document
import Companion.FileAccess
import Companion.Path.Parent

/-! # Finding configurations

A configuration holds for the directory of its file and for all directories below: it is looked for
from a directory upwards, and the nearest one counts. -/

namespace Companion

/-- The name of configuration files. -/
def Config.fileName : Path := ⟨"ccg.toml"⟩

/-- Why a configuration cannot be loaded by `Config.loadFile`. -/
inductive ConfigLoadFault
  /-- Its file cannot be read. -/
  | unreadable (error : FileError)
  /-- Its text gives no configuration: `Config.ofDocument` fails. -/
  | unusable (fault : ConfigFault)
  deriving DecidableEq, Repr

/-- A fault in words. -/
def ConfigLoadFault.message : ConfigLoadFault → String
  | unreadable error => s!"failed to read configuration: {error.message}"
  | unusable fault => fault.message

namespace Config

variable {m : Type → Type} [Monad m] [FileAccess m]

/-- The path of the configuration file of a directory: the entry of the name `Config.fileName`. -/
def fileIn (directory : Path) : Path := directory.join fileName

/-- The nearest configuration file at or above a directory: `fileIn` the directory if that is a
file, and otherwise the nearest one from its `Path.parent?` on. The recursion ends since the parent
has a smaller `Path.depth`. -/
@[semireducible] -- runs on given workspaces are evaluated
def find (start : Path) : m (Option Path) := do
  if ← FileAccess.isFile (fileIn start) then return some (fileIn start)
  else
    match _hparent : start.parent? with
    | none => return none
    | some parent => find parent
termination_by start.depth
decreasing_by exact Path.depth_lt_of_parent? _hparent

/-- The configuration of a file: that of `Config.ofDocument` of its text. -/
def loadFile (path : Path) : m (Except ConfigLoadFault Config) := do
  match ← FileAccess.readText path with
  | .error error => return .error (.unreadable error)
  | .ok text => return (ofDocument text).mapError .unusable

/-- The configuration of the file `fileIn` a directory; if there is none, `Config.standard`. -/
def loadDirectory (directory : Path) : m (Except ConfigLoadFault Config) := do
  if ← FileAccess.exists? (fileIn directory) then loadFile (fileIn directory)
  else return .ok standard

end Config

end Companion
