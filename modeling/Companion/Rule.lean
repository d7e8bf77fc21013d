import Companion.Declaration
import Companion.Diagnostic.Sink

/-! # Rules for declarations

A `Rule` reports what is wrong with a declaration. A validator is a list of rules; it runs all of
them, whatever they report, and accepts a declaration about which none reports an error. -/

namespace Companion

/-- A check of declarations, run by `Validator.validate`. -/
structure Rule where
  /-- The code of its diagnostics. -/
  code : DiagnosticCode
  /-- Its name. -/
  name : String
  /-- What it demands. -/
  description : String
  /-- The severity of its diagnostics. -/
  severity : Severity
  /-- What it reports about a declaration. -/
  report : Declaration → List Diagnostic

namespace Rule

/-- What is reported about a type that is not partial: one error `mustBePartial`, and otherwise
nothing. -/
def partialReport (declaration : Declaration) : List Diagnostic :=
  if declaration.isPartial then []
  else
    let name := declaration.displayName
    [((Diagnostic.plain .error .mustBePartial declaration.qualifiedName
        s!"type '{name}' must be partial to receive generated component caches"
        declaration.location).withPrimary declaration.location "declared here").withHelp
      s!"add the `partial` modifier to every declaration of '{name}'"]

/-- Types must be partial, so that a second part can be added: `partialReport`. -/
def mustBePartial : Rule where
  code := .mustBePartial
  name := "must-be-partial"
  description := "annotated types must be partial so generated members can be merged in"
  severity := .error
  report := partialReport

/-- What is reported about a type that does not derive from a base (`derivesFrom`): one error
`mustInheritBehaviour`. -/
def baseReport (base : String) (declaration : Declaration) : List Diagnostic :=
  if declaration.derivesFrom base then []
  else
    let name := declaration.displayName
    let report := (Diagnostic.plain .error .mustInheritBehaviour declaration.qualifiedName
        s!"type '{name}' must derive from {base} to receive generated component caches"
        declaration.location).withPrimary declaration.location "declared here"
    match declaration.ancestry.head? with
    | some ancestor => [report.withNote s!"'{name}' derives from '{ancestor}'"]
    | none => [report]

/-- Types must derive from the base of all behaviours, which has the lookups: `baseReport`. -/
def mustInheritBehaviour (base : String) : Rule where
  code := .mustInheritBehaviour
  name := "must-inherit-behaviour"
  description := "annotated types must derive from the runtime behaviour base class"
  severity := .error
  report := baseReport base

end Rule

/-- A list of rules, which `Validator.validate` runs. -/
structure Validator where
  /-- The rules, in the order in which they run. -/
  rules : List Rule

/-- What validation says: a declaration passes, or it fails with all that was reported. -/
inductive Verdict
  /-- No error was reported. -/
  | passed
  /-- An error was reported. -/
  | failed (diagnostics : List Diagnostic)
  deriving DecidableEq

namespace Validator

/-- The rules that hold for all annotated types: `Rule.mustBePartial` and
`Rule.mustInheritBehaviour`. -/
def standard (base : String) : Validator := ⟨[Rule.mustBePartial, Rule.mustInheritBehaviour base]⟩

/-- The validator with one more rule at the end. -/
def register (validator : Validator) (rule : Rule) : Validator := ⟨validator.rules ++ [rule]⟩

/-- The names of the rules. -/
def ruleNames (validator : Validator) : List String := validator.rules.map (·.name)

/-- Runs rules one after the other into a sink, with `Sink.emitAll` of what each of them reports. -/
def runRules (declaration : Declaration) : List Rule → Sink → Sink
  | [], sink => sink
  | rule :: rest, sink => runRules declaration rest (sink.emitAll (rule.report declaration))

/-- Runs all rules with `runRules` into a sink of their own, and passes on what they reported;
`Sink.hasErrors` of their own sink decides. -/
def validate (validator : Validator) (declaration : Declaration) (sink : Sink) : Verdict × Sink :=
  let own := runRules declaration validator.rules .empty
  let (reported, own) := own.takeAll
  (if own.hasErrors then .failed reported else .passed, sink.emitAll reported)

end Validator

end Companion
