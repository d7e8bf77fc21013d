import Companion.Proofs.Checking
import Companion.Proofs.Containment

/-! # Effects of runs

The effect of a run is its exit code and the workspace that it leaves. `SameEffect` relates two
actions that have the same effect in every workspace; `Command.sameEffect_run` says so of two runs
that generate parts and differ in nothing but how they report. `Workspace.ReadingFault` lists the
faults of what a run reads. `Workspace.run_effects` puts together what is left of a workspace by
runs with other reports, by dry runs, by runs with such a fault, and by checks. -/

namespace Companion

open Command

/-! ## Actions of the same effect -/

/-- Two actions have the same effect if, from one workspace, they come to the same exit code and
leave the same workspace; what they report may differ. -/
def SameEffect (first second : StateM Workspace CommandReport) : Prop :=
  ∀ space, (first.run space).1.exit = (second.run space).1.exit ∧
    (first.run space).2 = (second.run space).2

namespace SameEffect

variable {α : Type} {first second : StateM Workspace CommandReport}

theorem refl (action : StateM Workspace CommandReport) : SameEffect action action :=
  fun _ => ⟨rfl, rfl⟩

/-- Reports of one exit code have the `SameEffect`. -/
theorem pure {report other : CommandReport} (hexit : report.exit = other.exit) :
    SameEffect (Pure.pure report) (Pure.pure other) :=
  fun _ => ⟨hexit, rfl⟩

/-- After one and the same action, actions of the `SameEffect` have the same effect: composition
with `bind`. -/
theorem bind (action : StateM Workspace α) {next other : α → StateM Workspace CommandReport}
    (hnext : ∀ value, SameEffect (next value) (other value)) :
    SameEffect (action >>= next) (action >>= other) := by
  intro space
  rw [StateT.run_bind, StateT.run_bind]
  exact hnext (action.run space).1 (action.run space).2

/-- Lines put before a report with `CommandReport.after` do not count for the `SameEffect`. -/
theorem after (hsame : SameEffect first second) (lines others : String) :
    SameEffect (do return (← first).after lines) (do return (← second).after others) :=
  fun space => hsame space

end SameEffect

namespace Command

/-! ## Runs that report differently -/

section Presentation

variable (settings : Settings) (color otherColor : Bool) (options : GenerateOptions)
  (quiet verbose : Bool) (choice : ColorChoice) (format : ReportFormat)

/-- How outcomes are reported by `reportGenerated` does not count for the effect. -/
theorem sameEffect_reportGenerated (otherSettings : Settings) (otherOptions : GenerateOptions)
    (declarations : List Declaration) (outcomes : List Outcome) (written : List (Option Written)) :
    SameEffect (reportGenerated otherSettings otherColor otherOptions declarations outcomes written)
      (reportGenerated settings color options declarations outcomes written) := by
  intro space
  refine ⟨?_, ?_⟩
  · rw [Workspace.exit_reportGenerated, Workspace.exit_reportGenerated]
  · rw [IsReading.reportGenerated, IsReading.reportGenerated]

/-- The parts of declarations are written alike by `generateFrom`, whatever is reported about them.
-/
theorem sameEffect_generateFrom (otherSettings : Settings) (config : Config)
    (declarations : List Declaration) :
    SameEffect (generateFrom otherSettings otherColor { options with format } config declarations)
      (generateFrom settings color options config declarations) := by
  refine SameEffect.bind (writeAll options (config.runAll declarations)) fun written => ?_
  cases written with
  | error error => exact .pure rfl
  | ok written => exact sameEffect_reportGenerated settings color otherColor options _ _ _ _ written

/-- Two runs of `generate` have the `SameEffect` if they differ only in how they report: in the
settings for that, in the form of the report, and in where the texts are read. -/
theorem sameEffect_run (terminal otherTerminal : Bool) :
    SameEffect
      (Command.run { settings with quiet, verbose, color := choice } otherTerminal
        (.generate { options with format }))
      (Command.run settings terminal (.generate options)) := by
  -- the configuration file is found, loaded and followed by the same input, as nothing of this
  -- depends on the settings that were changed
  refine SameEffect.bind (configPath settings) fun configFile => ?_
  refine SameEffect.after (SameEffect.bind (loadConfig configFile) fun config => ?_) _ _
  cases config with
  | error fault => exact .refl _
  | ok config =>
    refine SameEffect.bind (readDeclarations options.input) fun declarations => ?_
    cases declarations with
    | error fault => exact .refl _
    | ok declarations =>
      exact sameEffect_generateFrom settings _ _ options format _ config declarations

end Presentation

end Command

namespace Workspace

/-! ## Faults of what is read -/

section Faults

variable (space : Workspace) (settings : Settings) (input : Path)

/-- The configuration file of a run, if there is one: what `configPath` gives. -/
def configFile : Option Path :=
  ((configPath settings : StateM Workspace (Option Path)).run space).1

/-- The text of a file: what `FileAccess.readText` gives. -/
def textAt (path : Path) : Except FileError String :=
  ((FileAccess.readText path : StateM Workspace (Except FileError String)).run space).1

/-- The faults of what a run reads: of its configuration file, or of its input file if there is a
configuration. They are said of the texts of these files (`textAt`). -/
inductive ReadingFault : CommandFault → Prop
  /-- The configuration file cannot be read. -/
  | unreadableConfig {path : Path} {error : FileError}
      (hfile : space.configFile settings = some path) (hread : space.textAt path = .error error) :
    ReadingFault (.config path (.unreadable error))
  /-- The text of the configuration file is malformed, or its configuration is invalid. -/
  | unusableConfig {path : Path} {text : String} {fault : ConfigFault}
      (hfile : space.configFile settings = some path) (hread : space.textAt path = .ok text)
      (hdocument : Config.ofDocument text = .error fault) :
    ReadingFault (.config path (.unusable fault))
  /-- The input file cannot be read. -/
  | unreadable {config : Config} {error : FileError}
      (hconfig : space.loadedConfig settings = .ok config)
      (hread : space.textAt input = .error error) :
    ReadingFault (.unreadable input error)
  /-- The text of the input file is no JSON, or not the JSON of a list of declarations. -/
  | malformed {config : Config} {text reason : String}
      (hconfig : space.loadedConfig settings = .ok config) (hread : space.textAt input = .ok text)
      (hparse : parseDeclarations text = .error reason) :
    ReadingFault (.malformed input reason)

/-- The configuration of a file: that of its text `textAt`. -/
def configAt (path : Path) : Except ConfigLoadFault Config :=
  match space.textAt path with
  | .error error => .error (.unreadable error)
  | .ok text => (Config.ofDocument text).mapError .unusable

/-- The configuration of a run (`loadedConfig`) is that of its configuration file, or the standard
one. -/
theorem loadedConfig_eq :
    space.loadedConfig settings
      = match space.configFile settings with
        | none => .ok .standard
        | some path => (space.configAt path).mapError (.config path) := by
  have hfile : space.configFile settings
      = ((configPath settings : StateM Workspace (Option Path)).run space).1 := rfl
  rw [loadedConfig, ← hfile]
  cases space.configFile settings with
  | none => rfl
  | some path =>
    exact congrArg (Except.mapError (CommandFault.config path)) (run_loadFile space path)

/-- The declarations of an input file (`loadedDeclarations`) are those of its text. -/
theorem loadedDeclarations_eq :
    space.loadedDeclarations input
      = match space.textAt input with
        | .error error => .error (.unreadable input error)
        | .ok text => (parseDeclarations text).mapError (.malformed input) := by
  have htext : space.textAt input
      = ((FileAccess.readText input : StateM Workspace (Except FileError String)).run space).1 :=
    rfl
  rw [loadedDeclarations, readDeclarations, (IsReading.readText input).run_bind, ← htext]
  cases space.textAt input <;> rfl

end Faults

/-- A result that fails after `Except.mapError` fails with an error that is renamed. -/
theorem mapError_eq_error_iff {ε δ α : Type} {rename : ε → δ} {result : Except ε α} {error : δ} :
    result.mapError rename = .error error ↔
      ∃ cause, result = .error cause ∧ error = rename cause := by
  cases result <;> simp [Except.mapError, eq_comm]

variable {space : Workspace} {settings : Settings} {input : Path}

/-- A run cannot work on what it reads (`batch`) exactly if there is such a fault (`ReadingFault`).
-/
theorem batch_eq_error_iff {fault : CommandFault} :
    space.batch settings input = .error fault ↔ space.ReadingFault settings input fault := by
  rw [batch]
  constructor
  · intro hbatch
    cases hconfig : space.loadedConfig settings with
    | error found =>
      obtain rfl : found = fault := by simpa [hconfig] using hbatch
      -- without a file there is the standard configuration, so the fault is that of a file
      rw [loadedConfig_eq] at hconfig
      cases hfile : space.configFile settings with
      | none => simp [hfile] at hconfig
      | some path =>
        simp only [hfile, configAt] at hconfig
        obtain ⟨reason, hreason, rfl⟩ := mapError_eq_error_iff.mp hconfig
        cases hread : space.textAt path with
        | error error =>
          obtain rfl : .unreadable error = reason := by simpa [hread] using hreason
          exact .unreadableConfig hfile hread
        | ok text =>
          simp only [hread] at hreason
          obtain ⟨cause, hdocument, rfl⟩ := mapError_eq_error_iff.mp hreason
          exact .unusableConfig hfile hread hdocument
    | ok config =>
      have hdeclarations : space.loadedDeclarations input = .error fault := by
        rw [hconfig] at hbatch
        cases hloaded : space.loadedDeclarations input with
        | error found => simpa [hloaded, Except.map] using hbatch
        | ok declarations => simp [hloaded, Except.map] at hbatch
      rw [loadedDeclarations_eq] at hdeclarations
      cases hread : space.textAt input with
      | error error =>
        obtain rfl : .unreadable input error = fault := by simpa [hread] using hdeclarations
        exact .unreadable hconfig hread
      | ok text =>
        simp only [hread] at hdeclarations
        obtain ⟨reason, hparse, rfl⟩ := mapError_eq_error_iff.mp hdeclarations
        exact .malformed hconfig hread hparse
  · rintro (⟨hfile, hread⟩ | ⟨hfile, hread, hdocument⟩ | ⟨hconfig, hread⟩ |
      ⟨hconfig, hread, hparse⟩)
    · simp [loadedConfig_eq, configAt, hfile, hread, Except.mapError]
    · simp [loadedConfig_eq, configAt, hfile, hread, hdocument, Except.mapError]
    · simp [hconfig, loadedDeclarations_eq, hread, Except.map]
    · simp [hconfig, loadedDeclarations_eq, hread, hparse, Except.mapError, Except.map]

/-! ## What is left of a workspace -/

/-- The command `check` leaves the workspace as it is. -/
theorem snd_run_check (space : Workspace) (settings : Settings) (options : CheckCommandOptions) :
    (space.run settings (.check options)).2 = space := by
  rw [run_check]
  cases space.batch settings options.input with
  | error fault => rfl
  | ok found =>
    obtain ⟨config, declarations⟩ := found
    exact (space.run_checkFrom settings _ options config declarations).2.2

/-- A dry run of `generate` leaves the workspace as it is, and its exit code tells whether
`Config.runAll` finds an error in what it reads. -/
theorem run_dry (space : Workspace) (settings : Settings) (options : GenerateOptions)
    (hdry : options.dryRun = true) :
    (space.run settings (.generate options)).2 = space ∧
      (space.run settings (.generate options)).1.exit
        = match space.batch settings options.input with
          | .error _ => 1
          | .ok (config, declarations) =>
            (Finding.tally ((config.runAll declarations).map findingOf)).exitCode := by
  rw [run_generate]
  cases space.batch settings options.input with
  | error fault => exact ⟨rfl, rfl⟩
  | ok found =>
    obtain ⟨config, declarations⟩ := found
    obtain ⟨-, hexit, hspace⟩ :=
      space.run_generateFrom_of_dryRun settings (settings.colored false) options hdry config
        declarations
    exact ⟨hspace, hexit⟩

/-- A part cannot be written by a run, for an error on files: `writeAll` fails. -/
def FailsToWrite (space : Workspace) (settings : Settings) (options : GenerateOptions)
    (error : FileError) : Prop :=
  ∃ config declarations, space.batch settings options.input = .ok (config, declarations) ∧
    (space.writeAll options (config.runAll declarations)).1 = .error error

/-- A run of `generate` fails to write (`FailsToWrite`), or its exit code is that of the dry run. -/
theorem exit_run_generate_of_dryRun (space : Workspace) (settings : Settings)
    (options : GenerateOptions) :
    (∃ error, space.FailsToWrite settings options error) ∨
      (space.run settings (.generate options)).1.exit
        = (space.run settings (.generate { options with dryRun := true })).1.exit := by
  rw [(space.run_dry settings { options with dryRun := true } rfl).2]
  have hrun := space.generatingRun_run settings options
  generalize (space.run settings (.generate options)).1.exit = exit at hrun ⊢
  generalize (space.run settings (.generate options)).2 = after at hrun
  -- the dry run reads the same batch, so only the writing can make a difference
  cases hrun with
  | refused hbatch => exact Or.inr (by simp [hbatch])
  | @stopped config declarations error after hbatch hwrite =>
    exact Or.inl ⟨error, config, declarations, hbatch, congrArg Prod.fst hwrite⟩
  | reported hbatch hwrite => exact Or.inr (by simp [hbatch])

/-- What runs leave of a workspace, for every workspace, setting and option. A run of `generate`
comes to the same exit code and the same files if other settings for the report are given, or if its
texts are read on a terminal. A dry run changes nothing and has the exit code of the run, unless
that `FailsToWrite`. A run with a `ReadingFault` reports the fault and changes nothing; and `check`
never changes anything. -/
theorem run_effects (space : Workspace) (settings : Settings) (options : GenerateOptions) :
    let result := space.run settings (.generate options)
    let dry := space.run settings (.generate { options with dryRun := true })
    (∀ quiet verbose choice format terminal,
      let other := (Command.run { settings with quiet, verbose, color := choice } terminal
        (.generate { options with format }) : StateM Workspace CommandReport).run space
      other.1.exit = result.1.exit ∧ other.2 = result.2) ∧
    dry.2 = space ∧
    ((∃ error, space.FailsToWrite settings options error) ∨ result.1.exit = dry.1.exit) ∧
    (∀ fault, space.ReadingFault settings options.input fault →
      result = ((fault.report "").after (space.configLines settings), space)) ∧
    ∀ checkOptions, (space.run settings (.check checkOptions)).2 = space := by
  intro result dry
  refine ⟨?_, ?_, ?_, ?_, ?_⟩
  · intro quiet verbose choice format terminal
    exact sameEffect_run settings options quiet verbose choice format false terminal space
  · exact (space.run_dry settings _ rfl).1
  · exact space.exit_run_generate_of_dryRun settings options
  · intro fault hfault
    have hrun := space.run_generate settings options
    rw [batch_eq_error_iff.mpr hfault] at hrun
    exact hrun
  · exact space.snd_run_check settings

/-- A run on a document that is no list of declarations stops before it creates a directory: the
`ReadingFault` of `run_effects`. -/
theorem run_effects_malformed :
    let space := holding "d.json" "\x7b\x7d"
    let fault := CommandFault.malformed ⟨"d.json"⟩ "expected a `declarations` array"
    space.ReadingFault plainSettings (plainOptions "d.json").input fault ∧
      space.run plainSettings (.generate (plainOptions "d.json"))
        = ((fault.report "").after (space.configLines plainSettings), space) := by
  intro space fault
  have hconfig : space.loadedConfig plainSettings = .ok .standard := by decide +kernel
  have hread : space.textAt ⟨"d.json"⟩ = .ok "\x7b\x7d" := by decide +kernel
  have hparse : (match parseDeclarations "\x7b\x7d" with
      | .error reason => decide (reason = "expected a `declarations` array")
      | .ok _ => false) = true := by
    decide +kernel
  have hfault : space.ReadingFault plainSettings (plainOptions "d.json").input fault := by
    refine .malformed hconfig hread ?_
    cases hresult : parseDeclarations "\x7b\x7d" with
    | ok declarations => simp [hresult] at hparse
    | error reason => simpa [hresult] using hparse
  exact ⟨hfault, (run_effects space plainSettings (plainOptions "d.json")).2.2.2.1 fault hfault⟩

end Workspace

end Companion
