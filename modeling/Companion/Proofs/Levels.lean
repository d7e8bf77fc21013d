import Companion.Proofs.Generation

/-! # Collision levels

The level of collisions decides how grave they are and nothing else. A declaration is stopped before
collisions are looked for, with the same outcome at every level, or it comes to a plan
(`Config.stopped_or_planned`), and the collisions of that plan are the same at every level.
`Config.run_levels` compares the outcomes at the three levels. -/

namespace Companion

/-- The configuration with `checks.propertyCollisions` set to a level, and everything else as it is.
-/
def Config.withLevel (config : Config) (level : CollisionLevel) : Config :=
  { config with checks := { config.checks with propertyCollisions := level } }

/-- How a diagnostic of a run with collisions as warnings returns in the run with collisions as
errors: a `duplicateProperty` changes its severity, every other diagnostic is the same. -/
inductive Diagnostic.Raised : Diagnostic → Diagnostic → Prop
  /-- A collision is a warning at the one level and an error at the other, and otherwise the
  same. -/
  | collision {diagnostic : Diagnostic} (hcode : diagnostic.code = .duplicateProperty)
      (hseverity : diagnostic.severity = .warning) :
    Raised diagnostic { diagnostic with severity := .error }
  /-- Everything else is the same. -/
  | other {diagnostic : Diagnostic} (hcode : diagnostic.code ≠ .duplicateProperty) :
    Raised diagnostic diagnostic

/-- How three outcomes of one declaration are related: `strict` has collisions as errors, `lenient`
has them as warnings, and `silent` does not look for them. -/
structure Outcome.LevelsAgree (strict lenient silent : Outcome) : Prop where
  /-- All three have the name of the declaration. -/
  declaration : strict.declaration = lenient.declaration ∧
    silent.declaration = lenient.declaration
  /-- All three have the same error. -/
  error : strict.error = lenient.error ∧ silent.error = lenient.error
  /-- Whether collisions are reported as warnings or not at all does not count for the part. -/
  silentPart : silent.part = lenient.part
  /-- Collisions that are errors prevent the part, and nothing else does: the part of `strict` is
  that of `lenient` unless `lenient` has a `duplicateProperty`. -/
  strictPart : strict.part
    = (if ∃ diagnostic ∈ lenient.diagnostics, diagnostic.code = .duplicateProperty then none
      else lenient.part)
  /-- The diagnostics are the same, but for the severity of collisions. -/
  raised : List.Forall₂ Diagnostic.Raised lenient.diagnostics strict.diagnostics
  /-- What `silent` reports are the diagnostics of `lenient` that are no collisions. -/
  silenced : silent.diagnostics
    = lenient.diagnostics.filter fun diagnostic => diagnostic.code ≠ .duplicateProperty

namespace Config

/-- The outcome of `Config.run` is the one of the stage at which the work ends, as `EndsAt` says. -/
theorem EndsAt.run_eq {config : Config} {declaration : Declaration} {stage : Stage}
    {outcome : Outcome} (hends : config.EndsAt declaration stage outcome) :
    config.run declaration = outcome := by
  obtain ⟨other, hother, -⟩ := config.exists_endsAt_run declaration
  -- no declaration is stopped at two stages, and at one stage it is stopped for one reason
  obtain rfl := Stage.eq_of_stops hends.stops hother.stops
  generalize config.run declaration = found at hother ⊢
  cases hends with
  | identity hidentity =>
    cases hother with
    | identity hfound =>
      obtain rfl := Except.error.inj (hidentity.symm.trans hfound)
      rfl
  | rules hidentity hrules =>
    cases hother
    rfl
  | attributes hidentity hrules hread =>
    cases hother with
    | attributes _ _ hfound =>
      obtain rfl := Except.error.inj (hread.symm.trans hfound)
      rfl
  | planning hidentity hrules hread =>
    cases hother with
    | planning _ _ hfound =>
      obtain rfl := Except.ok.inj (hread.symm.trans hfound)
      rfl

end Config

/-! ## The collisions of a plan -/

namespace Plan

/-- The collisions of a plan (`Plan.collisions`) as diagnostics of one severity. -/
def reportsAs (severity : Severity) (emit : EmitOptions) (declaration : Declaration) (plan : Plan) :
    List Diagnostic :=
  (plan.collisions emit declaration).map fun (property, collision) =>
    collision.diagnostic severity declaration property

variable (emit : EmitOptions) (declaration : Declaration) (plan : Plan)

/-- The severity does not count for which collisions are reported: at `.warning` and at `.error`
they are `Diagnostic.Raised` pairs, in the same order. -/
theorem forall₂_raised_reportsAs :
    List.Forall₂ Diagnostic.Raised (plan.reportsAs .warning emit declaration)
      (plan.reportsAs .error emit declaration) := by
  rw [reportsAs, reportsAs, List.forall₂_map_left_iff, List.forall₂_map_right_iff]
  exact List.forall₂_same.mpr fun _ _ => .collision rfl rfl

/-- Every diagnostic of `reportsAs` has the code `duplicateProperty` and the severity asked for. -/
theorem code_severity_of_mem_reportsAs {severity : Severity} {report : Diagnostic}
    (hreport : report ∈ plan.reportsAs severity emit declaration) :
    report.code = .duplicateProperty ∧ report.severity = severity := by
  obtain ⟨⟨property, collision⟩, -, rfl⟩ := List.mem_map.mp hreport
  exact ⟨rfl, rfl⟩

/-- Warnings are no errors. -/
theorem any_isError_reportsAs_warning :
    (plan.reportsAs .warning emit declaration).any Diagnostic.isError = false := by
  rw [List.any_eq_false]
  intro report hreport
  simp [Diagnostic.isError, (plan.code_severity_of_mem_reportsAs _ _ hreport).2, Severity.isError]

/-- At the severity of errors there is an error exactly if a collision is reported at all, which can
be read off the warnings. -/
theorem any_isError_reportsAs_error :
    (plan.reportsAs .error emit declaration).any Diagnostic.isError
      = decide (∃ report ∈ plan.reportsAs .warning emit declaration,
          report.code = .duplicateProperty) := by
  rw [reportsAs, reportsAs]
  cases plan.collisions emit declaration with
  | nil => rfl
  | cons entry rest =>
    have hfirst : (entry.2.diagnostic .error declaration entry.1).isError = true := rfl
    have hcode : (entry.2.diagnostic .warning declaration entry.1).code = .duplicateProperty := rfl
    simp [hfirst, hcode]

end Plan

namespace Config

variable (config : Config) (declaration : Declaration)

/-- The outcome of a declaration that reaches the planning with the given descriptors and
diagnostics: the part of `Plan.ofDescriptors`, unless a diagnostic is an error. -/
def plannedOutcome (descriptors : List Descriptor) (diagnostics : List Diagnostic) : Outcome :=
  ⟨declaration.qualifiedName, diagnostics,
    if diagnostics.any Diagnostic.isError then none
      else some (Part.ofPlan config declaration (Plan.ofDescriptors descriptors)), none⟩

/-- Either the declaration is stopped before the planning, with one outcome at all levels that
reports no `duplicateProperty`, or its descriptors are the same at all levels and only
`Plan.reports` depends on the level. -/
theorem stopped_or_planned :
    (∃ outcome : Outcome, outcome.part = none ∧
      (∀ diagnostic ∈ outcome.diagnostics, diagnostic.code ≠ .duplicateProperty) ∧
      ∀ level, (config.withLevel level).run declaration = outcome) ∨
    ∃ descriptors, ∀ level, (config.withLevel level).run declaration
      = config.plannedOutcome declaration descriptors
        ((Plan.ofDescriptors descriptors).reports (config.withLevel level) declaration) := by
  obtain ⟨stage, hends, -⟩ := config.exists_endsAt_run declaration
  generalize config.run declaration = outcome at hends
  -- nothing before the planning looks at the level
  cases hends with
  | identity hidentity =>
    have hlevel (level : CollisionLevel) :
        (config.withLevel level).EndsAt declaration .identity _ :=
      .identity hidentity
    exact Or.inl ⟨_, rfl, by simp, fun level => (hlevel level).run_eq⟩
  | rules hidentity hrules =>
    have hlevel (level : CollisionLevel) : (config.withLevel level).EndsAt declaration .rules
        ⟨declaration.qualifiedName, config.validator.reports declaration, none, none⟩ :=
      .rules hidentity hrules
    refine Or.inl ⟨_, rfl, ?_, fun level => (hlevel level).run_eq⟩
    -- the rules report other codes than that of collisions
    intro diagnostic hmem
    have hcodes : diagnostic.code ∈ (config.validator.reports declaration).map (·.code) :=
      List.mem_map_of_mem hmem
    rw [validator, Rule.codes_reports] at hcodes
    have hother : diagnostic.code = .mustBePartial ∨ diagnostic.code = .mustInheritBehaviour := by
      rcases List.mem_append.mp hcodes with hpartial | hbase
      · left
        split at hpartial
        · cases hpartial
        · exact List.mem_singleton.mp hpartial
      · right
        split at hbase
        · cases hbase
        · exact List.mem_singleton.mp hbase
    rcases hother with hcode | hcode <;> rw [hcode] <;> decide
  | attributes hidentity hrules hread =>
    have hlevel (level : CollisionLevel) :
        (config.withLevel level).EndsAt declaration .attributes _ :=
      .attributes hidentity hrules hread
    exact Or.inl ⟨_, rfl, by simp, fun level => (hlevel level).run_eq⟩
  | @planning descriptors hidentity hrules hread =>
    have hlevel (level : CollisionLevel) :
        (config.withLevel level).EndsAt declaration .planning _ :=
      .planning hidentity hrules hread
    exact Or.inr ⟨descriptors, fun level => (hlevel level).run_eq⟩

/-- The runs of one declaration under `.error`, `.warning` and `.allow` are related as
`Outcome.LevelsAgree` says, for every configuration and declaration: same parts and diagnostics, but
for the severity and the presence of collisions and the part that errors prevent. -/
theorem run_levels :
    Outcome.LevelsAgree ((config.withLevel .error).run declaration)
      ((config.withLevel .warning).run declaration)
      ((config.withLevel .allow).run declaration) := by
  rcases config.stopped_or_planned declaration with
    ⟨outcome, hpart, hcodes, hrun⟩ | ⟨descriptors, hrun⟩
  · -- a declaration that is stopped has no part, and nothing about collisions to report
    rw [hrun .error, hrun .warning, hrun .allow]
    refine ⟨⟨rfl, rfl⟩, ⟨rfl, rfl⟩, rfl, ?_, ?_, ?_⟩
    · rw [hpart, ite_self]
    · exact List.forall₂_same.mpr fun diagnostic hmem => .other (hcodes diagnostic hmem)
    · exact (List.filter_eq_self.mpr (by simpa using hcodes)).symm
  · let plan := Plan.ofDescriptors descriptors
    have hstrict : (config.withLevel .error).run declaration
        = config.plannedOutcome declaration descriptors
          (plan.reportsAs .error config.emit declaration) := hrun .error
    have hlenient : (config.withLevel .warning).run declaration
        = config.plannedOutcome declaration descriptors
          (plan.reportsAs .warning config.emit declaration) := hrun .warning
    have hsilent : (config.withLevel .allow).run declaration
        = config.plannedOutcome declaration descriptors [] := hrun .allow
    rw [hstrict, hlenient, hsilent]
    -- warnings never prevent the part, and errors do so exactly if there is a collision
    have hwarned := plan.any_isError_reportsAs_warning config.emit declaration
    have hraised := plan.any_isError_reportsAs_error config.emit declaration
    refine ⟨⟨rfl, rfl⟩, ⟨rfl, rfl⟩, ?_, ?_, plan.forall₂_raised_reportsAs config.emit declaration,
      ?_⟩
    · simp only [plannedOutcome, hwarned]
      rfl
    · simp only [plannedOutcome, hwarned, hraised, decide_eq_true_eq, Bool.false_eq_true, if_false]
    · refine (List.filter_eq_nil_iff.mpr fun report hreport => ?_).symm
      simp [(plan.code_severity_of_mem_reportsAs _ _ hreport).1]

end Config

end Companion
