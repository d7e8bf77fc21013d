import Companion.Rule

/-! # What validation reports

A validator reports what its rules report, in the order of the rules, and rejects a declaration
exactly if one of these reports is an error. `validate_eq` states both for every validator and every
sink, and `validate_registered` for every list of rules that are registered; the other lemmas read
off what the two standard rules report. -/

namespace Companion

/-- A diagnostic is about a declaration if it names its `qualifiedName` and points to its place. -/
structure Diagnostic.IsAbout (diagnostic : Diagnostic) (declaration : Declaration) : Prop where
  /-- It names the declaration. -/
  subject : diagnostic.subject = declaration.qualifiedName
  /-- It points to the declaration. -/
  location : diagnostic.location = declaration.location

namespace Sink

/-- Diagnostics emitted by `Sink.emitAll` are pending after the ones that were, in their order. -/
@[simp] theorem pending_emitAll (sink : Sink) (diagnostics : List Diagnostic) :
    (sink.emitAll diagnostics).pending = sink.pending ++ diagnostics := by
  induction diagnostics generalizing sink with
  | nil => simp
  | cons diagnostic rest ih => simp [ih]

/-- The `errorCount` grows by the number of errors among the emitted diagnostics. -/
@[simp] theorem errorCount_emitAll (sink : Sink) (diagnostics : List Diagnostic) :
    (sink.emitAll diagnostics).errorCount
      = sink.errorCount + diagnostics.countP Diagnostic.isError := by
  induction diagnostics generalizing sink with
  | nil => simp
  | cons diagnostic rest ih =>
    rw [emitAll_cons, ih, errorCount_emit, ← List.singleton_append (l := rest), List.countP_append]
    omega

theorem emitAll_append (sink : Sink) (first second : List Diagnostic) :
    sink.emitAll (first ++ second) = (sink.emitAll first).emitAll second := by
  simp [emitAll]

end Sink

namespace Validator

/-- What the rules of a validator report about a declaration, in the order of the rules. -/
def reports (validator : Validator) (declaration : Declaration) : List Diagnostic :=
  validator.rules.flatMap (·.report declaration)

/-- Running rules with `runRules` emits what each of them reports, one rule after the other. -/
theorem runRules_eq (declaration : Declaration) (rules : List Rule) (sink : Sink) :
    runRules declaration rules sink = sink.emitAll (rules.flatMap (·.report declaration)) := by
  induction rules generalizing sink with
  | nil => rfl
  | cons rule rest ih => rw [runRules, ih, List.flatMap_cons, Sink.emitAll_append]

/-- The result of `validate` passes on all `reports`, and fails with them exactly if one is an
error, whatever was in the sink before. -/
theorem validate_eq (validator : Validator) (declaration : Declaration) (sink : Sink) :
    validator.validate declaration sink =
      (if (validator.reports declaration).any Diagnostic.isError
        then .failed (validator.reports declaration) else .passed,
        sink.emitAll (validator.reports declaration)) := by
  have herrors : (Sink.empty.emitAll (validator.reports declaration)).hasErrors
      = (validator.reports declaration).any Diagnostic.isError := by
    rw [Sink.hasErrors, Sink.errorCount_emitAll, Bool.eq_iff_iff, decide_eq_true_iff]
    simp [Sink.empty, List.countP_pos_iff]
  simp only [validate, runRules_eq, Sink.takeAll, Sink.pending_emitAll]
  rw [← herrors]
  rfl

/-- Rules that are added with `register` come after those that were there, in the order of
registration. -/
theorem rules_foldl_register (validator : Validator) (rules : List Rule) :
    (rules.foldl register validator).rules = validator.rules ++ rules := by
  induction rules generalizing validator with
  | nil => simp
  | cons rule rest ih =>
    rw [List.foldl_cons, ih, register, List.append_assoc, List.singleton_append]

/-- One of the `reports` is an error exactly if a rule of the validator reports one. -/
theorem any_isError_reports_iff (validator : Validator) (declaration : Declaration) :
    (validator.reports declaration).any Diagnostic.isError = true ↔
      ∃ rule ∈ validator.rules, ∃ diagnostic ∈ rule.report declaration,
        diagnostic.severity = .error := by
  simp only [reports, List.any_eq_true, List.mem_flatMap, Diagnostic.isError, Severity.isError,
    beq_iff_eq]
  constructor
  · rintro ⟨diagnostic, ⟨rule, hrule, hreport⟩, hseverity⟩
    exact ⟨rule, hrule, diagnostic, hreport, hseverity⟩
  · rintro ⟨rule, hrule, diagnostic, hreport, hseverity⟩
    exact ⟨diagnostic, ⟨rule, hrule, hreport⟩, hseverity⟩

/-- All rules run, whatever those before report: the rules of a validator and those that are added
by `register` pass on all that they report, in the order of registration, after what was in the
sink. The verdict of `validate` is a failure exactly if a rule reports an error, and then with all
reports; the errors that were in the sink do not count. -/
theorem validate_registered (validator : Validator) (rules : List Rule)
    (declaration : Declaration) (sink : Sink) :
    let registered := rules.foldl register validator
    let reported := (validator.rules ++ rules).flatMap (·.report declaration)
    let (verdict, after) := registered.validate declaration sink
    after.pending = sink.pending ++ reported ∧
      after.errorCount = sink.errorCount + reported.countP Diagnostic.isError ∧
      (∀ diagnostics, verdict = .failed diagnostics ↔ diagnostics = reported ∧
        ∃ rule ∈ validator.rules ++ rules, ∃ diagnostic ∈ rule.report declaration,
          diagnostic.severity = .error) ∧
      (verdict = .passed ↔ ∀ rule ∈ validator.rules ++ rules,
        ∀ diagnostic ∈ rule.report declaration, diagnostic.severity ≠ .error) := by
  intro registered reported
  have hreports : registered.reports declaration = reported := by
    rw [reports, rules_foldl_register]
  have herror := any_isError_reports_iff registered declaration
  rw [rules_foldl_register, hreports] at herror
  rw [validate_eq, hreports]
  refine ⟨Sink.pending_emitAll sink reported, Sink.errorCount_emitAll sink reported, ?_, ?_⟩
  · intro diagnostics
    rw [← herror]
    cases reported.any Diagnostic.isError <;> simp [eq_comm]
  · rw [ite_eq_right_iff, herror]
    simp only [reduceCtorEq, imp_false, not_exists, not_and, ne_eq]

end Validator

namespace Rule

/-! ## The standard rules -/

/-- The reports of `Validator.standard`: about the missing modifier, then about the missing base. -/
theorem reports_standard (base : String) (declaration : Declaration) :
    (Validator.standard base).reports declaration
      = partialReport declaration ++ baseReport base declaration := by
  simp [Validator.reports, Validator.standard, mustBePartial, mustInheritBehaviour]

/-- A type is reported for a missing modifier exactly if it is not `isPartial`. -/
theorem codes_partialReport (declaration : Declaration) :
    (partialReport declaration).map (·.code)
      = if declaration.isPartial then [] else [.mustBePartial] := by
  rw [partialReport]
  split <;> rfl

/-- The report about a missing modifier is an error at the place of the type. -/
theorem isError_isAbout_of_mem_partialReport {declaration : Declaration} {report : Diagnostic}
    (hreport : report ∈ partialReport declaration) :
    report.isError = true ∧ report.IsAbout declaration := by
  rw [partialReport] at hreport
  split at hreport
  · cases hreport
  · rw [List.mem_singleton.mp hreport]
    exact ⟨rfl, rfl, rfl⟩

/-- A type is reported for a missing base exactly if it does not derive from it (`derivesFrom`). -/
theorem codes_baseReport (base : String) (declaration : Declaration) :
    (baseReport base declaration).map (·.code)
      = if declaration.derivesFrom base then [] else [.mustInheritBehaviour] := by
  rw [baseReport]
  split
  · rfl
  · cases declaration.ancestry.head? <;> rfl

/-- The report about a missing base is an error at the place of the type. -/
theorem isError_isAbout_of_mem_baseReport {base : String} {declaration : Declaration}
    {report : Diagnostic} (hreport : report ∈ baseReport base declaration) :
    report.isError = true ∧ report.IsAbout declaration := by
  rw [baseReport] at hreport
  split at hreport
  · cases hreport
  · cases hancestor : declaration.ancestry.head? <;> rw [hancestor] at hreport
    all_goals
      rw [List.mem_singleton.mp hreport]
      exact ⟨rfl, rfl, rfl⟩

/-- What the rules of `Validator.standard` report are errors at the place of the type. -/
theorem isError_isAbout_of_mem_reports {base : String} {declaration : Declaration}
    {report : Diagnostic} (hreport : report ∈ (Validator.standard base).reports declaration) :
    report.isError = true ∧ report.IsAbout declaration := by
  rw [reports_standard] at hreport
  rcases List.mem_append.mp hreport with hpartial | hbase
  · exact isError_isAbout_of_mem_partialReport hpartial
  · exact isError_isAbout_of_mem_baseReport hbase

/-- The codes of what the rules of `Validator.standard` report, in order. -/
theorem codes_reports (base : String) (declaration : Declaration) :
    ((Validator.standard base).reports declaration).map (·.code)
      = (if declaration.isPartial then [] else [.mustBePartial])
        ++ (if declaration.derivesFrom base then [] else [.mustInheritBehaviour]) := by
  rw [reports_standard, List.map_append, codes_partialReport, codes_baseReport]

/-- The rules of `Validator.standard` report nothing exactly about partial types that derive from
the base. -/
theorem reports_eq_nil_iff {base : String} {declaration : Declaration} :
    (Validator.standard base).reports declaration = []
      ↔ declaration.isPartial = true ∧ declaration.derivesFrom base = true := by
  rw [← List.map_eq_nil_iff (f := fun report => report.code), codes_reports]
  cases declaration.isPartial <;> cases declaration.derivesFrom base <;> simp

/-- The rules of `Validator.standard` accept exactly the declarations about which they report
nothing, since all of their reports are errors. -/
theorem any_isError_reports (base : String) (declaration : Declaration) :
    ((Validator.standard base).reports declaration).any Diagnostic.isError
      = !((Validator.standard base).reports declaration).isEmpty := by
  cases hreports : (Validator.standard base).reports declaration with
  | nil => rfl
  | cons report rest =>
    have hmem : report ∈ (Validator.standard base).reports declaration := by simp [hreports]
    simp [(isError_isAbout_of_mem_reports hmem).1]

end Rule

end Companion
