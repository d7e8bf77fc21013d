import Companion.Diagnostic
import Companion.Location.Json

/-! # Diagnostics in JSON -/

namespace Companion

/-- The severities by their names. -/
def Severity.names : List (String × Severity) :=
  [("note", .note), ("warning", .warning), ("error", .error)]

/-- Reads a severity: one of `Severity.names`. -/
def Severity.ofJson : Json → Decoded Severity := Json.asVariant .json Severity.names

/-- The label styles by their names. -/
def LabelStyle.names : List (String × LabelStyle) :=
  [("primary", .primary), ("secondary", .secondary)]

/-- The name of a label style. -/
def LabelStyle.name : LabelStyle → String
  | .primary => "primary"
  | .secondary => "secondary"

namespace DiagnosticCode

/-- The field of a code. -/
def shape : Json.Shape DiagnosticCode where
  name := "DiagnosticCode"
  closed := false
  fields := [.of "number" true Json.asNat16 fun number _ => { number }]
  blank := ⟨0⟩

/-- Reads a code by its `shape`: the field `number`. -/
def ofJson : Json → Decoded DiagnosticCode := shape.read .json

/-- Writes a code. -/
def toJson (code : DiagnosticCode) : Json := .object [("number", .integer code.number)]

end DiagnosticCode

namespace Label

/-- The fields of a label. -/
def shape : Json.Shape Label where
  name := "Label"
  closed := false
  fields :=
    [.of "location" true Location.ofJson fun location draft => { draft with location },
      .of "message" true Json.asString fun message draft => { draft with message },
      .of "style" true (Json.asVariant .json LabelStyle.names) fun style draft =>
        { draft with style }]
  blank := ⟨.unknown, "", .primary⟩

/-- Reads a label by its `shape`. -/
def ofJson : Json → Decoded Label := shape.read .json

/-- Writes a label with the fields of its `shape`. -/
def toJson (label : Label) : Json :=
  .object [("location", label.location.toJson), ("message", .string label.message),
    ("style", .string label.style.name)]

end Label

namespace Diagnostic

/-- The fields of a diagnostic, all of which must be given. -/
def shape : Json.Shape Diagnostic where
  name := "Diagnostic"
  closed := false
  fields :=
    [.of "severity" true Severity.ofJson fun severity draft => { draft with severity },
      .of "code" true DiagnosticCode.ofJson fun code draft => { draft with code },
      .of "message" true Json.asString fun message draft => { draft with message },
      .of "subject" true Json.asString fun subject draft => { draft with subject },
      .of "location" true Location.ofJson fun location draft => { draft with location },
      .of "labels" true (Json.asList Label.ofJson) fun labels draft => { draft with labels },
      .of "notes" true (Json.asList Json.asString) fun notes draft => { draft with notes },
      .of "help" true (Json.asList Json.asString) fun help draft => { draft with help }]
  blank := plain .note ⟨0⟩ "" "" .unknown

/-- Reads a diagnostic by its `shape`. -/
def ofJson : Json → Decoded Diagnostic := shape.read .json

/-- Writes a diagnostic with all fields of its `shape`. -/
def toJson (diagnostic : Diagnostic) : Json :=
  .object [("severity", .string diagnostic.severity.name), ("code", diagnostic.code.toJson),
    ("message", .string diagnostic.message), ("subject", .string diagnostic.subject),
    ("location", diagnostic.location.toJson),
    ("labels", .array (diagnostic.labels.map Label.toJson)),
    ("notes", .strings diagnostic.notes), ("help", .strings diagnostic.help)]

end Diagnostic

end Companion
