import Companion.Part
import Companion.Plan.Collision
import Companion.Rule

/-! # Generation

From a declaration to its part: the names are checked, the rules are run, the attributes are read, a
plan is made and checked for collisions, and the part is written. What stops a declaration is either
a `GenerationError` or an error among the diagnostics. -/

namespace Companion

/-- What makes a declaration unfit for generation: `checkIdentity` or `descriptors` fails. -/
inductive GenerationCause
  /-- Its names cannot be written. -/
  | identity (reason : IdentityError)
  /-- One of its attributes is wrong. -/
  | attributes (reason : ExtractionError)
  deriving DecidableEq, Repr

/-- A declaration that is unfit for generation, with the `GenerationCause`. -/
structure GenerationError where
  /-- The qualified name of the declaration. -/
  declaration : String
  /-- What is wrong. -/
  cause : GenerationCause
  deriving DecidableEq, Repr

/-- A generation error in words. -/
def GenerationError.message (error : GenerationError) : String :=
  match error.cause with
  | .identity reason => s!"invalid declaration '{error.declaration}': {reason.message}"
  | .attributes reason => s!"invalid attribute input on '{error.declaration}': {reason.message}"

/-- What generation gives for one declaration, as `Config.run` puts it together. -/
structure Outcome where
  /-- The qualified name of the declaration. -/
  declaration : String
  /-- What was reported about it. -/
  diagnostics : List Diagnostic
  /-- The part, if there is one. -/
  part : Option Part
  /-- What makes it unfit for generation, if anything does. -/
  error : Option GenerationError
  deriving DecidableEq

namespace Outcome

/-- The number of errors: the reported ones (`isError`), and the one that makes the declaration
unfit. -/
def errorCount (outcome : Outcome) : Nat :=
  (outcome.diagnostics.filter Diagnostic.isError).length + if outcome.error.isSome then 1 else 0

/-- Whether there is an error, as `errorCount` counts them. -/
def hasErrors (outcome : Outcome) : Bool :=
  outcome.error.isSome || outcome.diagnostics.any Diagnostic.isError

end Outcome

namespace Config

/-- The validator that a configuration asks for: the standard one, for the base `behaviourBase`. -/
def validator (config : Config) : Validator := .standard config.runtime.behaviourBase

/-- The plan of a declaration, with the sink after what was reported; no plan if an error was. The
stages are `checkIdentity`, the `validator`, `descriptors` and `Plan.checkCollisions`, and each of
them ends the check if it fails. -/
def check (config : Config) (declaration : Declaration) (sink : Sink) :
    Except GenerationError (Option Plan) × Sink :=
  match declaration.checkIdentity with
  | .error reason => (.error ⟨declaration.qualifiedName, .identity reason⟩, sink)
  | .ok () =>
    match config.validator.validate declaration sink with
    | (.failed _, sink) => (.ok none, sink)
    | (.passed, sink) =>
      match declaration.descriptors config.defaults with
      | .error reason => (.error ⟨declaration.qualifiedName, .attributes reason⟩, sink)
      | .ok descriptors =>
        let plan := Plan.ofDescriptors descriptors
        match plan.checkCollisions config declaration sink with
        | (true, sink) => (.ok none, sink)
        | (false, sink) => (.ok (some plan), sink)

/-- The part of a declaration, with the sink after what was reported: `Part.ofPlan` of the plan that
`Config.check` gives, if it gives one. -/
def generate (config : Config) (declaration : Declaration) (sink : Sink) :
    Except GenerationError (Option Part) × Sink :=
  match config.check declaration sink with
  | (.error error, sink) => (.error error, sink)
  | (.ok plan, sink) => (.ok (plan.map (Part.ofPlan config declaration)), sink)

/-- What generation gives for a declaration on its own: `Config.generate` from an empty sink. -/
def run (config : Config) (declaration : Declaration) : Outcome :=
  let (result, sink) := config.generate declaration .empty
  match result with
  | .error error => ⟨declaration.qualifiedName, sink.pending, none, some error⟩
  | .ok part => ⟨declaration.qualifiedName, sink.pending, part, none⟩

/-- What generation gives for each of a list of declarations: `Config.run` of one after the other.
-/
def runAll (config : Config) (declarations : List Declaration) : List Outcome :=
  declarations.map config.run

end Config

end Companion
