import Companion.Command.Generate
import Companion.Command.Check
import Companion.Command.Init

/-! # Running commands -/

namespace Companion

variable {m : Type → Type} [Monad m] [FileAccess m]

/-- Runs a command with `runGenerate`, `runCheck` or `runInit`, its texts being read on a terminal
or not. -/
def Command.run (settings : Settings) (terminal : Bool) : Command → m CommandReport
  | .generate options => runGenerate settings (settings.colored terminal) options
  | .check options => runCheck settings (settings.colored terminal) options
  | .init force => runInit settings force

/-- Runs a command on a workspace, not on a terminal: the report, and the workspace afterwards. -/
def Workspace.run (space : Workspace) (settings : Settings) (command : Command) :
    CommandReport × Workspace :=
  (Command.run settings false command : StateM Workspace CommandReport).run space

end Companion
