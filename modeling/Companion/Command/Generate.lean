import Companion.Command.Input
import Companion.Command.Report

/-! # The command that writes parts

Parts are generated for all declarations and written into one directory, except those whose files
hold the same content already. The command succeeds if there is no error. -/

namespace Companion

/-- What was done with the file of a part by `writeIfChanged`. -/
inductive WriteOutcome
  /-- It was not there before. -/
  | created
  /-- It had another content. -/
  | updated
  /-- It had the same content and was left alone. -/
  | unchanged
  deriving DecidableEq, Repr

/-- The name of an outcome in a JSON report, as `generateRecord` shows it. -/
def WriteOutcome.name : WriteOutcome → String
  | .created => "created"
  | .updated => "updated"
  | .unchanged => "unchanged"

namespace Command

variable {m : Type → Type} [Monad m] [FileAccess m]

/-- The file of a part in a directory: the entry of the name `hintName`. -/
def partPath (directory : Path) (part : Part) : Path := directory.join ⟨part.hintName⟩

/-- Writes a part into a directory, unless its file has the digest of the part already: a file that
is read and has another one is updated, and a missing one is created. -/
def writeIfChanged (directory : Path) (part : Part) : m (Except FileError WriteOutcome) := do
  let path := partPath directory part
  match ← FileAccess.read path with
  | .ok content =>
    if Digest.ofBytes content = part.digest then return .ok .unchanged
    else return (← FileAccess.writeText path part.text).map fun () => .updated
  | .error .notFound => return (← FileAccess.writeText path part.text).map fun () => .created
  | .error error => return .error error

/-- A part's file and what was done with it. -/
abbrev Written := Path × WriteOutcome

/-- Writes the parts that outcomes have with `writeIfChanged`, one after the other, up to the first
failure. -/
def writeParts (directory : Path) :
    List (Option Part) → m (Except FileError (List (Option Written)))
  | [] => return .ok []
  | none :: rest => return (← writeParts directory rest).map (none :: ·)
  | some part :: rest => do
    match ← writeIfChanged directory part with
    | .error error => return .error error
    | .ok done =>
      return (← writeParts directory rest).map (some (partPath directory part, done) :: ·)

/-- Creates the directory of the parts and writes them with `writeParts`; a dry run does nothing. -/
def writeAll (options : GenerateOptions) (outcomes : List Outcome) :
    m (Except FileError (List (Option Written))) := do
  if options.dryRun then return .ok (outcomes.map fun _ => none)
  else
    match ← FileAccess.createDirectories options.output with
    | .error error => return .error error
    | .ok () => writeParts options.output (outcomes.map (·.part))

/-- What generation finds for a declaration: what was reported in an `Outcome`, and its error in
words. -/
def findingOf (outcome : Outcome) : Finding :=
  ⟨outcome.declaration, outcome.diagnostics, outcome.error.map GenerationError.message⟩

/-- The line about a written file; an `unchanged` one is mentioned in verbose runs only. -/
def writtenLine (settings : Settings) : Written → String
  | (path, .created) => s!"     Created {path.text}\n"
  | (path, .updated) => s!"     Updated {path.text}\n"
  | (path, .unchanged) => if settings.verbose then s!"   Unchanged {path.text}\n" else ""

/-- The last lines of the text report: the `writtenLine` of each file, and the numbers of units,
errors and warnings. -/
def generateSummary (settings : Settings) (outcomes : List Outcome)
    (written : List (Option Written)) (tally : Tally) : String :=
  let parts := (outcomes.filter fun outcome => outcome.part.isSome).length
  String.join ((written.filterMap id).map (writtenLine settings))
    ++ s!"   Result: {parts} unit(s), {tally.errors} error(s), {tally.warnings} warning(s)\n"

/-- The record of an outcome in the JSON report: its name, the file name and digest of its part,
what was done with the file, and the `closingFields` of the finding. -/
def generateRecord (outcome : Outcome) (written : Option Written) : Json :=
  .object <| [("declaration", .string outcome.declaration)]
    ++ (match outcome.part with
      | some part =>
        [("hint_name", .string part.hintName), ("content_hash", .string part.digest.hex)]
      | none => [])
    ++ (match written with
      | some (_, done) => [("written", .string done.name)]
      | none => [])
    ++ (findingOf outcome).closingFields

/-- The first line of the log, with the number of declarations. -/
def generateHeading (settings : Settings) (input : Path) (count : Nat) : String :=
  settings.unlessQuiet s!"  Generating {count} declaration(s) from {input.text}\n"

/-- What is logged before anything is written: the `generateHeading`, and the notices of the
outcomes. -/
def generateLog (settings : Settings) (color : Bool) (input : Path) (outcomes : List Outcome) :
    String :=
  generateHeading settings input outcomes.length
    ++ settings.noticeLines color (outcomes.filterMap Notice.ofOutcome?)

/-- Reports the outcomes in the format of the options: text with `generateSummary`, JSON with
`generateRecord`. -/
def reportGenerated (settings : Settings) (color : Bool) (options : GenerateOptions)
    (declarations : List Declaration) (outcomes : List Outcome) (written : List (Option Written)) :
    m CommandReport := do
  let log := generateLog settings color options.input outcomes
  let findings := outcomes.map findingOf
  let tally := Finding.tally findings
  match options.format with
  | .text =>
    let (sources, notices) ← loadSources options.input declarations
    let body := String.join (findings.map (Finding.text color sources))
    return ⟨tally.exitCode, "", log ++ settings.noticeLines color notices ++ body
      ++ settings.unlessQuiet (generateSummary settings outcomes written tally)⟩
  | .json =>
    return ⟨tally.exitCode, jsonReport (List.zipWith generateRecord outcomes written), log⟩

/-- Generates the parts of declarations that are read already (`Config.runAll`), and writes them
with `writeAll`. -/
def generateFrom (settings : Settings) (color : Bool) (options : GenerateOptions)
    (config : Config) (declarations : List Declaration) : m CommandReport := do
  let outcomes := config.runAll declarations
  match ← writeAll options outcomes with
  | .error error =>
    return (CommandFault.file error).report (generateLog settings color options.input outcomes)
  | .ok written => reportGenerated settings color options declarations outcomes written

/-- Reads declarations, and generates and writes their parts with `generateFrom` under the
configuration of a file. -/
def generateUnder (settings : Settings) (color : Bool) (options : GenerateOptions)
    (configFile : Option Path) : m CommandReport := do
  match ← loadConfig configFile with
  | .error fault => return fault.report ""
  | .ok config =>
    match ← readDeclarations options.input with
    | .error fault => return fault.report ""
    | .ok declarations => generateFrom settings color options config declarations

/-- Generates and writes parts with `generateUnder`, under the configuration that holds: that of
`configPath`. -/
def runGenerate (settings : Settings) (color : Bool) (options : GenerateOptions) :
    m CommandReport := do
  let configFile ← configPath settings
  let report ← generateUnder settings color options configFile
  return report.after (settings.noticeLines color (configFile.toList.map Notice.ofConfig))

end Command

end Companion
