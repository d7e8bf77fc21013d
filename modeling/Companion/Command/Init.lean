import Companion.Command
import Companion.Command.Report

/-! # The command that writes a configuration file -/

namespace Companion.Command

variable {m : Type → Type} [Monad m] [FileAccess m]

/-- The text of a new configuration file: a heading, and the document of `Config.standard`. -/
def initialConfigText : String :=
  "# Component cache generator settings.\n\n" ++ Config.standard.toDocument

/-- Writes `initialConfigText` to the configuration file of the current directory; an existing one
is only overwritten by force. -/
def runInit (settings : Settings) (force : Bool) : m CommandReport := do
  let path := Config.fileIn (← FileAccess.currentDirectory)
  let taken ← FileAccess.exists? path
  if taken && !force then return (CommandFault.configExists path).report ""
  else
    match ← FileAccess.writeText path initialConfigText with
    | .error error => return (CommandFault.file error).report ""
    | .ok () => return ⟨0, "", settings.unlessQuiet s!"     Created {path.text}\n"⟩

end Companion.Command
