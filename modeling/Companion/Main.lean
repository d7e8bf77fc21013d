import Companion.Command.Run
import Companion.Command.Arguments

/-! # The program

The command line program: it reads its arguments, runs the command on the computer's files and
prints what the command reports. -/

namespace Companion

/-- The failure that an error of the system stands for. -/
def FileError.ofSystem : IO.Error → FileError
  | .noFileOrDirectory .. => .notFound
  | .inappropriateType .. => .notDirectory
  | .alreadyExists .. => .alreadyExists
  | .invalidArgument _ 22 _ => .nullInPath
  | .invalidArgument .. => .nameTooLong
  | .resourceExhausted .. => .other "Resource exhausted"
  | error => .other (toString error)

/-- Runs an action and gives its failure as a value, as `FileError.ofSystem` takes it. -/
def attempt {α : Type} (action : IO α) : IO (Except FileError α) := do
  try return .ok (← action)
  catch error => return .error (FileError.ofSystem error)

/-- Whether a path stands for a file or a directory of the computer. -/
def systemKind (path : Path) : IO (Option EntryKind) := do
  try
    let data ← (← IO.FS.realPath path.text).metadata
    return some (if data.type == .dir then .directory else .file)
  catch _ => return none

instance : FileAccess IO where
  currentDirectory := do return ⟨(← IO.currentDir).toString⟩
  kind? := systemKind
  read path := do
    if (← systemKind path) == some .directory then return .error .isDirectory
    else attempt (IO.FS.readBinFile path.text)
  write path content := do
    if (← systemKind path) == some .directory then return .error .isDirectory
    else attempt (IO.FS.writeBinFile path.text content)
  createDirectory path := attempt (IO.FS.createDir path.text)

end Companion

open Companion

/-- Runs the program and gives its exit code: `Invocation.ofArguments` reads the command line, and
`Command.run` runs the command on the computer's files. -/
def main (arguments : List String) : IO UInt32 := do
  match Invocation.ofArguments arguments with
  | .run settings command =>
    let terminal ← (← IO.getStderr).isTty
    let report ← (Command.run settings terminal command : IO CommandReport)
    IO.print report.output
    IO.eprint report.log
    return report.exit.toUInt32
  | .version => do
    IO.print Invocation.versionText
    return 0
  | .help => do
    IO.print Invocation.helpText
    return 0
  | .misuse => do
    IO.eprint Invocation.helpText
    return 2
