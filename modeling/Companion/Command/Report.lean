import Companion.Command
import Companion.Diagnostic.Terminal
import Companion.Diagnostic.Json
import Companion.Json.Printer
import Companion.Generation

/-! # Reports of commands

The lines and documents in which the results for declarations are reported. -/

namespace Companion

/-- The numbers of errors and warnings that a command has found, from which `exitCode` is computed.
-/
structure Tally where
  /-- The number of errors. -/
  errors : Nat
  /-- The number of warnings. -/
  warnings : Nat
  deriving DecidableEq, Repr

namespace Tally

/-- No errors and no warnings. -/
def zero : Tally := ⟨0, 0⟩

/-- Counts what was reported about a declaration, `isError` and `isWarning` apart; what makes it
unfit counts as one error more. -/
def count (tally : Tally) (diagnostics : List Diagnostic) (unfit : Bool) : Tally :=
  ⟨tally.errors + (diagnostics.filter Diagnostic.isError).length + (if unfit then 1 else 0),
    tally.warnings + (diagnostics.filter Diagnostic.isWarning).length⟩

/-- The exit code of a command: one if the tally has errors, and zero otherwise. -/
def exitCode (tally : Tally) : Nat := if 0 < tally.errors then 1 else 0

end Tally

/-- What a command finds for one declaration, in the form that both `check` and `generate` report.
-/
structure Finding where
  /-- The qualified name of the declaration. -/
  declaration : String
  /-- What was reported about it. -/
  diagnostics : List Diagnostic
  /-- What makes it unfit, in words. -/
  error : Option String
  deriving DecidableEq

namespace Finding

/-- The errors and warnings of findings, counted with `Tally.count` from `Tally.zero` on. -/
def tally (findings : List Finding) : Tally :=
  findings.foldl (fun tally finding => tally.count finding.diagnostics finding.error.isSome) .zero

/-- The text of a finding: `Diagnostic.render` of each diagnostic with an empty line after it, and
the error. -/
def text (color : Bool) (sources : SourceDatabase) (finding : Finding) : String :=
  String.join (finding.diagnostics.map fun diagnostic =>
      diagnostic.render color sources ++ "\n")
    ++ (match finding.error with
      | some message => "error: " ++ message ++ "\n\n"
      | none => "")

/-- The fields of a finding that close its record in a JSON report: `diagnostics`, and `error` if
there is one. -/
def closingFields (finding : Finding) : List (String × Json) :=
  ("diagnostics", .array (finding.diagnostics.map Diagnostic.toJson)) ::
    (match finding.error with
    | some message => [("error", .string message)]
    | none => [])

end Finding

/-- A list of records as a JSON document, in the layout `Json.pretty`. -/
def jsonReport (records : List Json) : String := (Json.array records).pretty ++ "\n"

/-- A text that is left out when only errors are reported. -/
def Settings.unlessQuiet (settings : Settings) (text : String) : String :=
  if settings.quiet then "" else text

end Companion
