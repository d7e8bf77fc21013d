import Companion.Location

/-! # Diagnostics

A `Diagnostic` is a message about a declared type: its severity and code, the type it is about, the
place of the type's name, and further remarks. -/

namespace Companion

/-- How grave a diagnostic is, in increasing order. -/
inductive Severity
  /-- Worth knowing. -/
  | note
  /-- Likely a mistake. -/
  | warning
  /-- Nothing can be generated. -/
  | error
  deriving DecidableEq, Repr

namespace Severity

/-- The name of a severity. -/
def name : Severity → String
  | .note => "note"
  | .warning => "warning"
  | .error => "error"

/-- The place of a severity in their order, which `Severity.above` compares. -/
def rank : Severity → Nat
  | .note => 0
  | .warning => 1
  | .error => 2

/-- Whether a severity is graver than another one. -/
def above (first second : Severity) : Bool := second.rank < first.rank

/-- Whether a severity is that of an error. -/
def isError (severity : Severity) : Bool := severity == .error

end Severity

/-- The number of a kind of diagnostic, shown by `DiagnosticCode.display`. -/
structure DiagnosticCode where
  /-- The number. -/
  number : Nat
  deriving DecidableEq, Repr

namespace DiagnosticCode

/-- An annotated type is not partial. -/
def mustBePartial : DiagnosticCode := ⟨1⟩

/-- An annotated type does not derive from the base of all behaviours. -/
def mustInheritBehaviour : DiagnosticCode := ⟨2⟩

/-- A generated property has the name of something else. -/
def duplicateProperty : DiagnosticCode := ⟨3⟩

/-- A code as it is shown: `CCG` and at least three digits. -/
def display (code : DiagnosticCode) : String :=
  let digits := Nat.toDigits 10 code.number
  "CCG" ++ String.ofList (List.replicate (3 - digits.length) '0' ++ digits)

end DiagnosticCode

/-- Whether a label belongs to the place of its diagnostic or to another one. -/
inductive LabelStyle
  /-- At the place of the diagnostic. -/
  | primary
  /-- At another place. -/
  | secondary
  deriving DecidableEq, Repr

/-- A remark about a place. -/
structure Label where
  /-- The place. -/
  location : Location
  /-- The remark. -/
  message : String
  /-- Which place it is. -/
  style : LabelStyle
  deriving DecidableEq, Repr

/-- A message about a declared type, made with `Diagnostic.plain`, `withNote` and the like, and
shown by `Diagnostic.render`. -/
structure Diagnostic where
  /-- How grave it is. -/
  severity : Severity
  /-- Its kind. -/
  code : DiagnosticCode
  /-- The message. -/
  message : String
  /-- The qualified name of the type: `Declaration.qualifiedName`. -/
  subject : String
  /-- The place of the type's name. -/
  location : Location
  /-- Remarks about places. -/
  labels : List Label
  /-- Further remarks. -/
  notes : List String
  /-- Advice. -/
  help : List String
  deriving DecidableEq, Repr

namespace Diagnostic

/-- A diagnostic without further remarks. -/
def plain (severity : Severity) (code : DiagnosticCode) (subject message : String)
    (location : Location) : Diagnostic :=
  ⟨severity, code, message, subject, location, [], [], []⟩

/-- The diagnostic with a `primary` remark: one about its own place. -/
def withPrimary (diagnostic : Diagnostic) (location : Location) (message : String) : Diagnostic :=
  { diagnostic with labels := diagnostic.labels ++ [⟨location, message, .primary⟩] }

/-- The diagnostic with a `secondary` remark: one about another place. -/
def withSecondary (diagnostic : Diagnostic) (location : Location) (message : String) :
    Diagnostic :=
  { diagnostic with labels := diagnostic.labels ++ [⟨location, message, .secondary⟩] }

/-- The diagnostic with one more remark. -/
def withNote (diagnostic : Diagnostic) (text : String) : Diagnostic :=
  { diagnostic with notes := diagnostic.notes ++ [text] }

/-- The diagnostic with one more piece of advice. -/
def withHelp (diagnostic : Diagnostic) (text : String) : Diagnostic :=
  { diagnostic with help := diagnostic.help ++ [text] }

/-- Whether a diagnostic is an error: `Severity.isError` of its severity. -/
def isError (diagnostic : Diagnostic) : Bool := diagnostic.severity.isError

/-- Whether a diagnostic is a warning. -/
def isWarning (diagnostic : Diagnostic) : Bool := diagnostic.severity == .warning

end Diagnostic

end Companion
