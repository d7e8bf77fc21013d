import Companion.Generation
import Companion.Proofs.Collisions
import Companion.Proofs.Extraction

/-! # Where generation ends

The work on a declaration ends at one of four stages: at its names, at the standard rules, at its
attributes, or with a plan. For each stage one lemma says what the check gives there, and `EndsAt`
collects the outcomes; `generate_eq_part_iff` says when there is a part and which. `Stage.Stops` and
`Stage.Gives` describe the stages in terms of the declaration, and exactly one of them fits. -/

namespace Companion

namespace Config

/-! ## The stages of the check -/

section Stages

variable (config : Config) {declaration : Declaration} (sink : Sink)

/-- A declaration whose names cannot be written ends `Config.check` before anything is reported. -/
theorem check_of_identity {reason : IdentityError}
    (hidentity : declaration.checkIdentity = .error reason) :
    config.check declaration sink
      = (.error ⟨declaration.qualifiedName, .identity reason⟩, sink) := by
  rw [check, hidentity]

/-- A declaration that breaks a rule ends `Config.check` with the `reports` of the rules, and
without a plan. -/
theorem check_of_rules (hidentity : declaration.checkIdentity = .ok ())
    (hrules : config.validator.reports declaration ≠ []) :
    config.check declaration sink
      = (.ok none, sink.emitAll (config.validator.reports declaration)) := by
  have herror : (config.validator.reports declaration).any Diagnostic.isError = true := by
    rw [validator, Rule.any_isError_reports, Bool.not_eq_true', List.isEmpty_eq_false_iff]
    exact hrules
  rw [check, hidentity]
  simp only [Validator.validate_eq, herror, if_true]

/-- A declaration that keeps the rules is judged by its attributes: `Config.check` fails if
`descriptors` does, and otherwise gives the plan of the descriptors unless one of its `reports` is
an error. -/
theorem check_of_accepted (hidentity : declaration.checkIdentity = .ok ())
    (hrules : config.validator.reports declaration = []) :
    config.check declaration sink =
      match declaration.descriptors config.defaults with
      | .error reason => (.error ⟨declaration.qualifiedName, .attributes reason⟩, sink)
      | .ok descriptors =>
        (if ((Plan.ofDescriptors descriptors).reports config declaration).any Diagnostic.isError
          then .ok none else .ok (some (Plan.ofDescriptors descriptors)),
          sink.emitAll ((Plan.ofDescriptors descriptors).reports config declaration)) := by
  rw [check, hidentity]
  simp only [Validator.validate_eq, hrules, List.any_nil, Bool.false_eq_true, if_false,
    Sink.emitAll_nil]
  cases declaration.descriptors config.defaults with
  | error reason => rfl
  | ok descriptors =>
    simp only [Plan.checkCollisions_eq]
    cases ((Plan.ofDescriptors descriptors).reports config declaration).any Diagnostic.isError <;>
      rfl

end Stages

end Config

/-! ## Outcomes -/

/-- The stages of `Config.check`, in their order. -/
inductive Stage
  /-- The names are checked. -/
  | identity
  /-- The standard rules are run. -/
  | rules
  /-- The attributes are read. -/
  | attributes
  /-- A plan is made and checked for collisions. -/
  | planning
  deriving DecidableEq, Repr

/-- What an outcome says about the part: the result of `Config.generate`. -/
def Outcome.result (outcome : Outcome) : Except GenerationError (Option Part) :=
  match outcome.error with
  | some error => .error error
  | none => .ok outcome.part

namespace Config

/-- The stage at which `Config.check` ends for a declaration, with its outcome. -/
inductive EndsAt (config : Config) (declaration : Declaration) : Stage → Outcome → Prop
  /-- The names cannot be written. -/
  | identity {reason : IdentityError} (hidentity : declaration.checkIdentity = .error reason) :
    EndsAt config declaration .identity
      ⟨declaration.qualifiedName, [], none, some ⟨declaration.qualifiedName, .identity reason⟩⟩
  /-- A rule is broken. -/
  | rules (hidentity : declaration.checkIdentity = .ok ())
      (hrules : config.validator.reports declaration ≠ []) :
    EndsAt config declaration .rules
      ⟨declaration.qualifiedName, config.validator.reports declaration, none, none⟩
  /-- An attribute cannot be read. -/
  | attributes {reason : ExtractionError} (hidentity : declaration.checkIdentity = .ok ())
      (hrules : config.validator.reports declaration = [])
      (hread : declaration.descriptors config.defaults = .error reason) :
    EndsAt config declaration .attributes
      ⟨declaration.qualifiedName, [], none, some ⟨declaration.qualifiedName, .attributes reason⟩⟩
  /-- There is a plan, and a part unless a collision is an error. -/
  | planning {descriptors : List Descriptor} (hidentity : declaration.checkIdentity = .ok ())
      (hrules : config.validator.reports declaration = [])
      (hread : declaration.descriptors config.defaults = .ok descriptors) :
    EndsAt config declaration .planning
      ⟨declaration.qualifiedName, (Plan.ofDescriptors descriptors).reports config declaration,
        if ((Plan.ofDescriptors descriptors).reports config declaration).any Diagnostic.isError
          then none else some (Part.ofPlan config declaration (Plan.ofDescriptors descriptors)),
        none⟩

/-- If `Config.generate` gives the same result and the same diagnostics for every sink, then these
are the outcome `Config.run` for the declaration on its own. -/
theorem EndsAt.of_generate {config : Config} {declaration : Declaration} {stage : Stage}
    {outcome : Outcome} (hends : config.EndsAt declaration stage outcome)
    (hgenerate : ∀ sink, config.generate declaration sink
      = (outcome.result, sink.emitAll outcome.diagnostics)) :
    ∃ stage, config.EndsAt declaration stage (config.run declaration) ∧
      ∀ sink, config.generate declaration sink = ((config.run declaration).result,
        sink.emitAll (config.run declaration).diagnostics) := by
  have hrun : config.run declaration = outcome := by
    rw [run, hgenerate]
    cases hends <;> simp [Outcome.result, Sink.empty]
  rw [hrun]
  exact ⟨stage, hends, hgenerate⟩

/-- Every declaration `EndsAt` a stage with the outcome `Config.run`, and `Config.generate` gives
this outcome for every sink. -/
theorem exists_endsAt_run (config : Config) (declaration : Declaration) :
    ∃ stage, config.EndsAt declaration stage (config.run declaration) ∧
      ∀ sink, config.generate declaration sink = ((config.run declaration).result,
        sink.emitAll (config.run declaration).diagnostics) := by
  cases hidentity : declaration.checkIdentity with
  | error reason =>
    refine (EndsAt.identity hidentity).of_generate fun sink => ?_
    rw [generate, check_of_identity config sink hidentity]
    rfl
  | ok _ =>
    by_cases hrules : config.validator.reports declaration = []
    -- a broken rule hides what is wrong with the attributes
    case neg =>
      refine (EndsAt.rules hidentity hrules).of_generate fun sink => ?_
      rw [generate, check_of_rules config sink hidentity hrules]
      rfl
    cases hread : declaration.descriptors config.defaults with
    | error reason =>
      refine (EndsAt.attributes hidentity hrules hread).of_generate fun sink => ?_
      rw [generate, check_of_accepted config sink hidentity hrules, hread]
      rfl
    | ok descriptors =>
      refine (EndsAt.planning hidentity hrules hread).of_generate fun sink => ?_
      rw [generate, check_of_accepted config sink hidentity hrules, hread]
      cases herror : ((Plan.ofDescriptors descriptors).reports config declaration).any
          Diagnostic.isError <;>
        simp only [herror, Bool.false_eq_true, if_false, if_true, Option.map_none,
          Option.map_some, Outcome.result]

/-- Where a declaration `EndsAt` a stage, its outcome has an error exactly if it has no part. -/
theorem EndsAt.hasErrors_iff {config : Config} {declaration : Declaration} {stage : Stage}
    {outcome : Outcome} (hends : config.EndsAt declaration stage outcome) :
    outcome.hasErrors = true ↔ outcome.part = none := by
  cases hends with
  | identity hidentity => simp [Outcome.hasErrors]
  | rules hidentity hrules =>
    -- every report of the rules is an error, and there is one
    have herror : (config.validator.reports declaration).any Diagnostic.isError = true := by
      rw [validator, Rule.any_isError_reports, Bool.not_eq_true', List.isEmpty_eq_false_iff]
      exact hrules
    simp only [Outcome.hasErrors, herror, Option.isSome_none, Bool.false_or]
  | attributes hidentity hrules hread => simp [Outcome.hasErrors]
  | @planning descriptors hidentity hrules hread =>
    cases herror : ((Plan.ofDescriptors descriptors).reports config declaration).any
        Diagnostic.isError <;>
      simp [Outcome.hasErrors, herror]

/-- Where a declaration `EndsAt` a stage, all diagnostics of the outcome are about the declaration:
they have its name and its place. -/
theorem EndsAt.isAbout {config : Config} {declaration : Declaration} {stage : Stage}
    {outcome : Outcome} (hends : config.EndsAt declaration stage outcome) :
    ∀ diagnostic ∈ outcome.diagnostics,
      diagnostic.subject = outcome.declaration ∧ diagnostic.location = declaration.location := by
  intro diagnostic hmem
  cases hends with
  | identity hidentity => cases hmem
  | rules hidentity hrules =>
    obtain ⟨-, habout⟩ := Rule.isError_isAbout_of_mem_reports hmem
    exact ⟨habout.subject, habout.location⟩
  | attributes hidentity hrules hread => cases hmem
  | planning hidentity hrules hread =>
    obtain ⟨-, habout⟩ := Plan.code_isAbout_of_mem_reports hmem
    exact ⟨habout.subject, habout.location⟩

/-! ## Parts -/

/-- What a declaration must fulfil at the stages of `Config.check` to have a part, with the
descriptors of its attributes. -/
structure Plans (config : Config) (declaration : Declaration) (descriptors : List Descriptor) :
    Prop where
  /-- Its names can be written. -/
  identity : declaration.checkIdentity = .ok ()
  /-- It keeps the rules. -/
  rules : config.validator.reports declaration = []
  /-- Its attributes can be read. -/
  attributes : List.Forall₂
    (fun attr descriptor => Descriptor.ofArguments attr config.defaults = .ok descriptor)
    declaration.attributes descriptors
  /-- No collision of its plan is an error. -/
  collisions : ((Plan.ofDescriptors descriptors).reports config declaration).any
    Diagnostic.isError = false

/-- The results of `Config.generate`: there is a part exactly if the declaration passes all stages
(`Plans`), and it is the part `Part.ofPlan` of the plan of its descriptors. -/
theorem generate_eq_part_iff {config : Config} {declaration : Declaration} {sink : Sink}
    {part : Part} :
    (config.generate declaration sink).1 = .ok (some part) ↔
      ∃ descriptors, config.Plans declaration descriptors ∧
        part = Part.ofPlan config declaration (Plan.ofDescriptors descriptors) := by
  constructor
  · intro hpart
    obtain ⟨stage, hends, hgenerate⟩ := exists_endsAt_run config declaration
    rw [hgenerate] at hpart
    -- of the four stages only the last one gives parts
    generalize config.run declaration = outcome at hends hpart
    cases hends with
    | identity hidentity => cases hpart
    | rules hidentity hrules => cases hpart
    | attributes hidentity hrules hread => cases hpart
    | @planning descriptors hidentity hrules hread =>
      cases herror : ((Plan.ofDescriptors descriptors).reports config declaration).any
          Diagnostic.isError with
      | true => simp [Outcome.result, herror] at hpart
      | false =>
        simp only [Outcome.result, herror, Bool.false_eq_true, if_false, Except.ok.injEq,
          Option.some.injEq] at hpart
        exact ⟨descriptors,
          ⟨hidentity, hrules, Declaration.descriptors_eq_ok_iff.mp hread, herror⟩, hpart.symm⟩
  · rintro ⟨descriptors, hplans, rfl⟩
    rw [generate, check_of_accepted config sink hplans.identity hplans.rules,
      Declaration.descriptors_eq_ok_iff.mpr hplans.attributes]
    simp [hplans.collisions]

/-- A declaration that passes all stages has the plan `Plan.ofDescriptors` of its descriptors. -/
theorem Plans.check {config : Config} {declaration : Declaration} {descriptors : List Descriptor}
    (hplans : config.Plans declaration descriptors) (sink : Sink) :
    (config.check declaration sink).1 = .ok (some (Plan.ofDescriptors descriptors)) := by
  rw [check_of_accepted config sink hplans.identity hplans.rules,
    Declaration.descriptors_eq_ok_iff.mpr hplans.attributes]
  simp [hplans.collisions]

/-- The part of `Config.run` is the one that `Config.generate` gives from an empty sink. -/
theorem part_run_eq_some_iff {config : Config} {declaration : Declaration} {part : Part} :
    (config.run declaration).part = some part ↔
      (config.generate declaration .empty).1 = .ok (some part) := by
  rw [run]
  cases hresult : (config.generate declaration .empty).1 <;> simp [hresult]

/-- If `Config.run` has a part, then `Config.generate` gives one from an empty sink. -/
theorem exists_part_of_run (config : Config) (declaration : Declaration)
    (hrun : (config.run declaration).part.isSome = true) :
    ∃ part, (config.generate declaration .empty).1 = .ok (some part) := by
  obtain ⟨part, hpart⟩ := Option.isSome_iff_exists.mp hrun
  exact ⟨part, part_run_eq_some_iff.mp hpart⟩

/-- At the level of errors, the properties of a declaration that `Plans` have different bare names,
all of which are free (`Collision.IsFree`). -/
theorem Plans.keys {config : Config} {declaration : Declaration} {descriptors : List Descriptor}
    (hplans : config.Plans declaration descriptors)
    (hlevel : config.checks.propertyCollisions = .error) :
    ((Plan.ofDescriptors descriptors).properties.map (·.key)).Nodup ∧
      ∀ property ∈ (Plan.ofDescriptors descriptors).properties,
        Collision.IsFree config.emit declaration property.key :=
  Plan.collisions_eq_nil_iff.mp
    ((Plan.any_isError_reports_of_error hlevel declaration _).mp hplans.collisions)

/-! ## The stages in terms of the declaration -/

/-- Whether the `TypeName.simpleName` of some ancestor is that of the base of all behaviours. -/
def HasBase (config : Config) (declaration : Declaration) : Prop :=
  ∃ ancestor ∈ declaration.ancestry, TypeName.simpleName ancestor = config.runtime.behaviourBase

instance (config : Config) (declaration : Declaration) : Decidable (config.HasBase declaration) :=
  inferInstanceAs (Decidable (∃ ancestor ∈ declaration.ancestry, _ = _))

theorem hasBase_iff {config : Config} {declaration : Declaration} :
    config.HasBase declaration
      ↔ declaration.derivesFrom config.runtime.behaviourBase = true := by
  simp [HasBase, Declaration.derivesFrom]

/-- Whether a declaration passes the names and the rules: the first two stages of `Config.check`. -/
structure Accepts (config : Config) (declaration : Declaration) : Prop where
  /-- Its names can be written. -/
  identity : declaration.checkIdentity = .ok ()
  /-- It is partial. -/
  isPartial : declaration.isPartial = true
  /-- The base is among its ancestors. -/
  hasBase : config.HasBase declaration

/-- The rules report nothing exactly about partial declarations that have the base (`HasBase`). -/
theorem reports_eq_nil_iff {config : Config} {declaration : Declaration} :
    config.validator.reports declaration = []
      ↔ declaration.isPartial = true ∧ config.HasBase declaration := by
  rw [validator, Rule.reports_eq_nil_iff, hasBase_iff]

end Config

namespace Stage

/-- Whether a declaration passes all stages before a given one and is stopped there, said of the
declaration and not of `Config.check`; the last stage stops all that come to it. -/
def Stops (config : Config) (declaration : Declaration) : Stage → Prop
  | identity => declaration.checkIdentity ≠ .ok ()
  | rules => declaration.checkIdentity = .ok () ∧
      (declaration.isPartial = false ∨ ¬ config.HasBase declaration)
  | attributes => config.Accepts declaration ∧ ∃ attr ∈ declaration.attributes, ∃ cause,
      Descriptor.ofArguments attr config.defaults = .error cause
  | planning => config.Accepts declaration ∧ ∀ attr ∈ declaration.attributes, ∃ descriptor,
      Descriptor.ofArguments attr config.defaults = .ok descriptor

/-- What the outcome holds for a declaration that a stage `Stops`: the part, the error and the
diagnostics of each of the four stages. -/
def Gives (config : Config) (declaration : Declaration) (outcome : Outcome) : Stage → Prop
  | identity => outcome.diagnostics = [] ∧ outcome.part = none ∧
      ∃ reason, declaration.checkIdentity = .error reason ∧
        outcome.error = some ⟨declaration.qualifiedName, .identity reason⟩
  | rules => outcome.part = none ∧ outcome.error = none ∧
      outcome.diagnostics.map (·.code)
        = (if declaration.isPartial then [] else [.mustBePartial])
          ++ (if config.HasBase declaration then [] else [.mustInheritBehaviour])
  | attributes => outcome.diagnostics = [] ∧ outcome.part = none ∧
      ∃ reason, declaration.descriptors config.defaults = .error reason ∧
        outcome.error = some ⟨declaration.qualifiedName, .attributes reason⟩
  | planning => outcome.error = none ∧
      (∀ diagnostic ∈ outcome.diagnostics, diagnostic.code = .duplicateProperty) ∧
      (outcome.part.isSome = true ↔
        ∀ diagnostic ∈ outcome.diagnostics, diagnostic.isError = false)

/-- No declaration is stopped at two stages: `Stops` determines the stage. -/
theorem eq_of_stops {config : Config} {declaration : Declaration} {first second : Stage}
    (hfirst : first.Stops config declaration) (hsecond : second.Stops config declaration) :
    first = second := by
  -- the two last stages need a declaration that the rules accept, and divide them by the attributes
  have hrules : rules.Stops config declaration → ¬ config.Accepts declaration := by
    rintro ⟨-, hpartial | hbase⟩ haccepts
    · rw [haccepts.isPartial] at hpartial
      cases hpartial
    · exact hbase haccepts.hasBase
  have hplanning : attributes.Stops config declaration → ¬ planning.Stops config declaration := by
    rintro ⟨-, attr, hmem, cause, herror⟩ ⟨-, hall⟩
    obtain ⟨descriptor, hok⟩ := hall attr hmem
    rw [hok] at herror
    cases herror
  cases first <;> cases second
  case identity.identity | rules.rules | attributes.attributes | planning.planning => rfl
  case identity.rules => exact absurd hsecond.1 hfirst
  case identity.attributes | identity.planning => exact absurd hsecond.1.identity hfirst
  case rules.identity => exact absurd hfirst.1 hsecond
  case attributes.identity | planning.identity => exact absurd hfirst.1.identity hsecond
  case rules.attributes | rules.planning => exact absurd hsecond.1 (hrules hfirst)
  case attributes.rules | planning.rules => exact absurd hfirst.1 (hrules hsecond)
  case attributes.planning => exact absurd hsecond (hplanning hfirst)
  case planning.attributes => exact absurd hfirst (hplanning hsecond)

end Stage

namespace Config

/-- Where a declaration `EndsAt` a stage, the stage `Stops` it. -/
theorem EndsAt.stops {config : Config} {declaration : Declaration} {stage : Stage}
    {outcome : Outcome} (hends : config.EndsAt declaration stage outcome) :
    stage.Stops config declaration := by
  cases hends with
  | identity hidentity => simp [Stage.Stops, hidentity]
  | rules hidentity hrules =>
    rw [ne_eq, reports_eq_nil_iff, not_and_or, Bool.not_eq_true] at hrules
    exact ⟨hidentity, hrules⟩
  | attributes hidentity hrules hread =>
    obtain ⟨hpartial, hbase⟩ := reports_eq_nil_iff.mp hrules
    exact ⟨⟨hidentity, hpartial, hbase⟩, Declaration.exists_error_of_descriptors hread⟩
  | planning hidentity hrules hread =>
    obtain ⟨hpartial, hbase⟩ := reports_eq_nil_iff.mp hrules
    exact ⟨⟨hidentity, hpartial, hbase⟩, Declaration.forall_ok_of_descriptors hread⟩

/-- Where a declaration `EndsAt` a stage, the outcome holds what the stage `Gives`. -/
theorem EndsAt.gives {config : Config} {declaration : Declaration} {stage : Stage}
    {outcome : Outcome} (hends : config.EndsAt declaration stage outcome) :
    stage.Gives config declaration outcome := by
  cases hends with
  | identity hidentity => exact ⟨rfl, rfl, _, hidentity, rfl⟩
  | rules hidentity hrules =>
    refine ⟨rfl, rfl, ?_⟩
    simp only [hasBase_iff]
    exact Rule.codes_reports config.runtime.behaviourBase declaration
  | attributes hidentity hrules hread => exact ⟨rfl, rfl, _, hread, rfl⟩
  | planning hidentity hrules hread =>
    refine ⟨rfl, fun diagnostic hmem => (Plan.code_isAbout_of_mem_reports hmem).1, ?_⟩
    simp

/-- For every configuration and declaration exactly one stage `Stops` the declaration, and the
outcome `Config.run` holds just what this stage `Gives`. The outcome `hasErrors` exactly if it has
no part, and all its diagnostics have the name and the place of the declaration. -/
theorem existsUnique_stage_run (config : Config) (declaration : Declaration) :
    (∃! stage : Stage, stage.Stops config declaration
        ∧ stage.Gives config declaration (config.run declaration)) ∧
      ((config.run declaration).hasErrors = true ↔ (config.run declaration).part = none) ∧
      ∀ diagnostic ∈ (config.run declaration).diagnostics,
        diagnostic.subject = (config.run declaration).declaration
          ∧ diagnostic.location = declaration.location := by
  obtain ⟨stage, hends, -⟩ := exists_endsAt_run config declaration
  refine ⟨⟨stage, ⟨hends.stops, hends.gives⟩, ?_⟩, hends.hasErrors_iff, hends.isAbout⟩
  rintro other ⟨hother, -⟩
  exact Stage.eq_of_stops hother hends.stops

end Config

end Companion
