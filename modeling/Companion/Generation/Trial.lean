import Companion.Generation
import Companion.Config.Document
import Companion.Declaration.Json
import Companion.Json.Reader

/-! # Trials

A trial runs one declaration, given as a text or not, under a configuration, given as a text or not,
and counts what was reported. `Declaration.sample` is the declaration that is tried when none is
given. -/

namespace Companion

/-- A declaration that asks for two components: one that must be on the object itself, and one that
may be among its descendants. -/
def Declaration.sample : Declaration :=
  ((((named "Sandbox").asPartial.inherits "MonoBehaviour").located
    ⟨⟨"Assets/Sandbox/Sandbox.cs"⟩, 6, 22, 7⟩).withAttribute
      ((Attribute.ofType (.named (some "UnityEngine") "Rigidbody")).withPropertyName
        "rb")).withAttribute
    ((((Attribute.ofType (.named none "SampleComponent")).withPropertyName "sample").withScope
      (.only .children)).withRequired false)

namespace Outcome

/-- The text of the part; the empty text if there is no part. -/
def text (outcome : Outcome) : String := (outcome.part.map (·.text)).getD ""

/-- The codes of what was reported, in the order of the `diagnostics`. -/
def codes (outcome : Outcome) : List DiagnosticCode := outcome.diagnostics.map (·.code)

/-- The number of errors among what was reported: diagnostics that are `isError`. -/
def reportedErrors (outcome : Outcome) : Nat :=
  (outcome.diagnostics.filter Diagnostic.isError).length

/-- The number of warnings among what was reported: diagnostics that are `isWarning`. -/
def reportedWarnings (outcome : Outcome) : Nat :=
  (outcome.diagnostics.filter Diagnostic.isWarning).length

end Outcome

/-- The declaration of a JSON document, read in the order of the document (`Json.parseLeniently`): a
field that is given twice is refused, and the values of unknown fields may be illegible. -/
def Declaration.parse? (text : String) : Option Declaration :=
  ((Json.parseLeniently text).toOption).bind fun tree => (Declaration.ofJson tree).toOption

/-- The outcome of a trial: `Config.run`; none if a given text is malformed. -/
def trial? (declaration document : Option String) : Option Outcome := do
  let declaration ←
    match declaration with
    | none => some .sample
    | some text => Declaration.parse? text
  let config ←
    match document with
    | none => some Config.standard
    | some text => (Config.ofDocument text).toOption
  some (config.run declaration)

end Companion
