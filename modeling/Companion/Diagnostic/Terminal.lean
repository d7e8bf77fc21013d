import Companion.Diagnostic
import Companion.Source.Database

/-! # Diagnostics for a terminal

A diagnostic as lines of text: a heading, the place with the line of source at it if that line can
be had, and the further remarks. -/

namespace Companion.Diagnostic

/-- The colour of a severity, as the number of a terminal attribute. -/
def colorNumber : Severity → String
  | .error => "31"
  | .warning => "33"
  | .note => "36"

/-- The first line: severity, code as `DiagnosticCode.display` shows it, and message. -/
def heading (color : Bool) (diagnostic : Diagnostic) : String :=
  let start := diagnostic.severity.name ++ "[" ++ diagnostic.code.display ++ "]"
  if color then
    "\x1b[1;" ++ colorNumber diagnostic.severity ++ "m" ++ start ++ "\x1b[0m\x1b[1m: "
      ++ diagnostic.message ++ "\x1b[0m"
  else start ++ ": " ++ diagnostic.message

/-- What stands below a line up to a column: a tab below a tab, and a space below any other
character. -/
def underlinePadding (line : List Char) (column : Nat) : List Char :=
  (line.take (column - 1)).map fun c => if c = '\t' then '\t' else ' '

/-- The first `primary` remark, about the diagnostic's own place, after a space. -/
def primaryRemark (diagnostic : Diagnostic) : String :=
  match diagnostic.labels.find? (·.style == .primary) with
  | some label => " " ++ label.message
  | none => ""

/-- A line of source with its number, and the marks below it: as many as the place is long, at least
one, after the `underlinePadding` and before the `primaryRemark`. -/
def excerpt (diagnostic : Diagnostic) (line : String) : List String :=
  let number := toString diagnostic.location.line
  let margin := String.ofList (List.replicate number.length ' ')
  let marks := underlinePadding line.toList diagnostic.location.column
    ++ List.replicate (max diagnostic.location.length 1) '^'
  [margin ++ " |", number ++ " | " ++ line,
    margin ++ " | " ++ String.ofList marks ++ diagnostic.primaryRemark]

/-- The lines about the place of a diagnostic: the place, and the `excerpt` if the line is among the
sources; none if the place is unknown. -/
def placeLines (diagnostic : Diagnostic) (sources : SourceDatabase) : List String :=
  if diagnostic.location.isUnknown then []
  else
    ("  --> " ++ diagnostic.location.display) ::
      match sources.lineText? diagnostic.location with
      | some line => diagnostic.excerpt line
      | none => []

/-- The lines of the further remarks: the `secondary` ones about other places, then notes, then
advice. -/
def remarkLines (diagnostic : Diagnostic) : List String :=
  ((diagnostic.labels.filter (·.style == .secondary)).map fun label =>
      "   = note: " ++ label.message ++ " (" ++ label.location.display ++ ")")
    ++ diagnostic.notes.map ("   = note: " ++ ·)
    ++ diagnostic.help.map ("   = help: " ++ ·)

/-- The lines of a diagnostic: its `heading`, its `placeLines` and its `remarkLines`. -/
def lines (color : Bool) (sources : SourceDatabase) (diagnostic : Diagnostic) : List String :=
  diagnostic.heading color :: (diagnostic.placeLines sources ++ diagnostic.remarkLines)

/-- The text of a diagnostic: its `lines`, with a line break after every one. -/
def render (color : Bool) (sources : SourceDatabase) (diagnostic : Diagnostic) : String :=
  String.join ((diagnostic.lines color sources).map (· ++ "\n"))

end Companion.Diagnostic
