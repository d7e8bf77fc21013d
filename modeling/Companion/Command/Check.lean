import Companion.Command.Input
import Companion.Command.Report

/-! # The command that checks declarations

Declarations are checked and their parts planned, but nothing is generated or written. The command
succeeds if there is no error. -/

namespace Companion

/-- What checking finds for one declaration: the `Finding`, and the plan if there is one. -/
structure CheckFinding where
  /-- What is reported. -/
  finding : Finding
  /-- The plan of the part. -/
  plan : Option Plan

namespace Command

variable {m : Type → Type} [Monad m] [FileAccess m]

/-- Checks a declaration on its own with `Config.check`, from an empty sink. -/
def checkDeclaration (config : Config) (declaration : Declaration) : CheckFinding :=
  let (result, sink) := config.check declaration .empty
  let name := declaration.qualifiedName
  match result with
  | .error error => ⟨⟨name, sink.pending, some error.message⟩, none⟩
  | .ok plan => ⟨⟨name, sink.pending, none⟩, plan⟩

/-- The line about a planned property: its name, its type and the regions of its `steps`. -/
def propertyLine (property : PlannedProperty) : String :=
  "       " ++ property.name ++ " : " ++ property.dependency.qualified ++ " ["
    ++ " -> ".intercalate (property.steps.map Region.name) ++ "]"
    ++ (if property.required then " required" else "") ++ "\n"

/-- The lines about a plan, one `propertyLine` for each property; only a verbose run has them. -/
def planLines (settings : Settings) (found : CheckFinding) : String :=
  match found.plan with
  | some plan =>
    if settings.verbose then
      s!"     Planned {found.finding.declaration}\n"
        ++ String.join (plan.properties.map propertyLine)
    else ""
  | none => ""

/-- The record of a planned property in the JSON report, with its `steps` as `lookups`. -/
def propertyRecord (property : PlannedProperty) : Json :=
  .object [("name", .string property.name), ("dependency", .string property.dependency.qualified),
    ("lookups", .strings (property.steps.map Region.name)), ("required", .bool property.required)]

/-- The fields about a plan in the JSON report: the `propertyRecord` of each property, and the
constraints unless there are none. -/
def planFields (plan : Plan) : List (String × Json) :=
  ("properties", .array (plan.properties.map propertyRecord)) ::
    (if plan.constraints.isEmpty then []
    else [("constraints", .strings (plan.constraints.map TypeRef.qualified))])

/-- The record of a declaration in the JSON report: its name, the `planFields` of a plan, and the
`closingFields` of the finding. -/
def checkRecord (found : CheckFinding) : Json :=
  .object <| [("declaration", .string found.finding.declaration)]
    ++ (match found.plan with
      | some plan => planFields plan
      | none => [])
    ++ found.finding.closingFields

/-- The first line of the log, with the number of declarations. -/
def checkHeading (settings : Settings) (input : Path) (count : Nat) : String :=
  settings.unlessQuiet s!"   Checking {count} declaration(s) from {input.text}\n"

/-- The last line of the text report, with the numbers of a `Tally`. -/
def checkSummary (tally : Tally) : String :=
  s!"   Result: {tally.errors} error(s), {tally.warnings} warning(s)\n"

/-- Checks declarations that are read already, each with `checkDeclaration`, and reports what is
found in the format of the options. -/
def checkFrom (settings : Settings) (color : Bool) (options : CheckCommandOptions)
    (config : Config) (declarations : List Declaration) : m CommandReport := do
  let heading := checkHeading settings options.input declarations.length
  let found := declarations.map (checkDeclaration config)
  let tally := Finding.tally (found.map (·.finding))
  match options.format with
  | .text =>
    let (sources, notices) ← loadSources options.input declarations
    let body := String.join (found.map fun each =>
      each.finding.text color sources ++ planLines settings each)
    return ⟨tally.exitCode, "", heading ++ settings.noticeLines color notices ++ body
      ++ settings.unlessQuiet (checkSummary tally)⟩
  | .json => return ⟨tally.exitCode, jsonReport (found.map checkRecord), heading⟩

/-- Reads declarations and checks them with `checkFrom` under the configuration of a file. -/
def checkUnder (settings : Settings) (color : Bool) (options : CheckCommandOptions)
    (configFile : Option Path) : m CommandReport := do
  match ← loadConfig configFile with
  | .error fault => return fault.report ""
  | .ok config =>
    match ← readDeclarations options.input with
    | .error fault => return fault.report ""
    | .ok declarations => checkFrom settings color options config declarations

/-- Checks declarations with `checkUnder`, under the configuration that holds: that of `configPath`.
-/
def runCheck (settings : Settings) (color : Bool) (options : CheckCommandOptions) :
    m CommandReport := do
  let configFile ← configPath settings
  let report ← checkUnder settings color options configFile
  return report.after (settings.noticeLines color (configFile.toList.map Notice.ofConfig))

end Command

end Companion
