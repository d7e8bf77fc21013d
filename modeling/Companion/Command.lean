import Companion.Config.Discovery

/-! # Commands

What the command line can ask for, what a command reports, and why it may not be able to do
anything. -/

namespace Companion

/-- When texts are coloured: what is given as `--color`. -/
inductive ColorChoice
  /-- If they are read on a terminal. -/
  | auto
  /-- Always. -/
  | always
  /-- Never. -/
  | never
  deriving DecidableEq, Repr

/-- How results are reported: what is given as `--format`. -/
inductive ReportFormat
  /-- As text for a reader. -/
  | text
  /-- As a JSON document. -/
  | json
  deriving DecidableEq, Repr

/-- Settings that all commands share, as `Invocation.settingsOf` reads them. -/
structure Settings where
  /-- Whether only errors are reported. -/
  quiet : Bool
  /-- Whether more is reported than usual. -/
  verbose : Bool
  /-- When texts are coloured. -/
  color : ColorChoice
  /-- The configuration file, if one is named. -/
  config : Option Path
  deriving DecidableEq, Repr

/-- Settings of the command `generate`, which writes parts. -/
structure GenerateOptions where
  /-- The file of declarations. -/
  input : Path
  /-- The directory of the parts. -/
  output : Path
  /-- How results are reported. -/
  format : ReportFormat
  /-- Whether nothing is written. -/
  dryRun : Bool
  deriving DecidableEq, Repr

/-- Settings of the command `check`, which writes nothing. -/
structure CheckCommandOptions where
  /-- The file of declarations. -/
  input : Path
  /-- How results are reported. -/
  format : ReportFormat
  deriving DecidableEq, Repr

/-- What is to be done: one constructor for each `Invocation.CommandName`. -/
inductive Command
  /-- Write the parts of declarations. -/
  | generate (options : GenerateOptions)
  /-- Check declarations and plan their parts. -/
  | check (options : CheckCommandOptions)
  /-- Write a configuration file. -/
  | init (force : Bool)
  deriving DecidableEq, Repr

/-- What a command leaves to read, and its exit code; beside it there is only its effect on files.
-/
structure CommandReport where
  /-- The exit code. -/
  exit : Nat
  /-- The standard output. -/
  output : String
  /-- The standard error. -/
  log : String
  deriving DecidableEq, Repr

/-- Why a command cannot do anything, or stops: `CommandFault.message` says it in words. -/
inductive CommandFault
  /-- The configuration cannot be loaded: `Config.loadFile` fails. -/
  | config (path : Path) (fault : ConfigLoadFault)
  /-- The declarations cannot be read from their file. -/
  | unreadable (path : Path) (error : FileError)
  /-- The declarations are malformed, for a reason in words: `parseDeclarations` fails. -/
  | malformed (path : Path) (reason : String)
  /-- An operation on files failed. -/
  | file (error : FileError)
  /-- There is a configuration file already. -/
  | configExists (path : Path)
  deriving DecidableEq, Repr

/-- A fault in words. -/
def CommandFault.message : CommandFault → String
  | config path fault => s!"{path.text}: {fault.message}"
  | unreadable path error => s!"cannot read {path.text}: {error.message}"
  | malformed path reason => s!"{path.text}: {reason}"
  | file error => error.message
  | configExists path => s!"{path.text} already exists (use --force to overwrite)"

/-- The report of a command that stops for a fault, after what it logged before: the exit code is
one, and the `message` is the last line of the log. -/
def CommandFault.report (log : String) (fault : CommandFault) : CommandReport :=
  ⟨1, "", log ++ "error: " ++ fault.message ++ "\n"⟩

/-- Whether texts are coloured: `auto` leaves it to whether they are read on a terminal. -/
def Settings.colored (settings : Settings) (terminal : Bool) : Bool :=
  match settings.color with
  | .auto => terminal
  | .always => true
  | .never => false

end Companion
