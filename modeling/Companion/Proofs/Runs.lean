import Companion.Command.Run
import Companion.Proofs.Generation
import Companion.Proofs.Validity

/-! # Runs that generate parts

A run first reads what it works on, the configuration and the declarations: its `Workspace.batch`.
`Workspace.run_onBatch` says so of all that a run can do with them. For the generation of parts
`GeneratingRun` has one constructor for each way in which it goes on, and
`Workspace.generatingRun_run` says that every run is one of these: with a fault in what it reads it
changes nothing, otherwise the workspace afterwards is the one that the writing of the parts leaves.
`IsReading` marks the actions that change nothing. -/

namespace Companion

/-- An action of `StateM Workspace` that looks at a workspace and changes nothing. -/
def IsReading {α : Type} (action : StateM Workspace α) : Prop :=
  ∀ space, (action.run space).2 = space

namespace IsReading

variable {α β : Type}

theorem pure (value : α) : IsReading (Pure.pure value : StateM Workspace α) := fun _ => rfl

/-- After an action that `IsReading`, the next one starts from the same workspace. -/
theorem run_bind {first : StateM Workspace α} (hfirst : IsReading first)
    (next : α → StateM Workspace β) (space : Workspace) :
    (first >>= next).run space = (next (first.run space).1).run space := by
  have hbind : (first >>= next).run space
      = (next (first.run space).1).run (first.run space).2 := rfl
  rw [hbind, hfirst space]

theorem bind {first : StateM Workspace α} {next : α → StateM Workspace β}
    (hfirst : IsReading first) (hnext : ∀ value, IsReading (next value)) :
    IsReading (first >>= next) := by
  intro space
  rw [hfirst.run_bind, hnext]

/-! ## Actions that read -/

theorem currentDirectory : IsReading FileAccess.currentDirectory := fun _ => rfl

theorem kind? (path : Path) : IsReading (FileAccess.kind? path) := fun _ => rfl

theorem read (path : Path) : IsReading (FileAccess.read path) := fun _ => rfl

theorem readText (path : Path) : IsReading (FileAccess.readText path) :=
  (read path).bind fun _ => pure _

theorem isFile (path : Path) : IsReading (FileAccess.isFile path) :=
  (kind? path).bind fun _ => pure _

theorem isDirectory (path : Path) : IsReading (FileAccess.isDirectory path) :=
  (kind? path).bind fun _ => pure _

/-- The search `Config.find` for a configuration file changes nothing, however far up it goes. -/
theorem find (start : Path) : IsReading (Config.find start) := by
  rw [Config.find]
  refine (isFile (Config.fileIn start)).bind fun found => ?_
  cases found with
  | true => exact pure _
  | false =>
    rw [if_neg Bool.false_ne_true]
    split
    case h_1 => exact pure none
    case h_2 parent hparent => exact find parent
termination_by start.depth
decreasing_by exact Path.depth_lt_of_parent? ‹_›

theorem loadFile (path : Path) : IsReading (Config.loadFile path) := by
  refine (readText path).bind fun content => ?_
  cases content with
  | error error => exact pure _
  | ok text => exact pure _

/-- A run looks for its configuration file without changing anything. -/
theorem configPath (settings : Settings) : IsReading (Command.configPath settings) := by
  rw [Command.configPath]
  cases settings.config with
  | some path => exact pure _
  | none => exact currentDirectory.bind fun start => find start

/-- A run loads its configuration without changing anything. -/
theorem loadConfig (configFile : Option Path) : IsReading (Command.loadConfig configFile) := by
  cases configFile with
  | none => exact pure _
  | some path => exact (loadFile path).bind fun _ => pure _

/-- A run reads its declarations without changing anything. -/
theorem readDeclarations (path : Path) : IsReading (Command.readDeclarations path) := by
  refine (readText path).bind fun content => ?_
  cases content with
  | error error => exact pure _
  | ok text => exact pure _

theorem addSource (base file : Path) (loaded : Command.LoadedSources) :
    IsReading (Command.addSource base file loaded) := by
  refine (readText (base.join file)).bind fun content => ?_
  cases content with
  | error error => exact pure _
  | ok text => exact pure _

theorem addSources (base : Path) (files : List Path) (loaded : Command.LoadedSources) :
    IsReading (Command.addSources base files loaded) := by
  induction files generalizing loaded with
  | nil => exact pure loaded
  | cons file rest ih => exact (addSource base file loaded).bind fun next => ih next

/-- A run reports what it did without changing anything. -/
theorem reportGenerated (settings : Settings) (color : Bool) (options : GenerateOptions)
    (declarations : List Declaration) (outcomes : List Outcome)
    (written : List (Option Command.Written)) :
    IsReading (Command.reportGenerated settings color options declarations outcomes written) := by
  rw [Command.reportGenerated]
  cases options.format with
  | json => exact pure _
  | text =>
    exact (addSources _ (Command.sourcePaths declarations) (.empty, [])).bind fun _ => pure _

end IsReading

/-! ## Findings without errors -/

namespace Finding

/-- The count of `Tally.count` over findings is without errors exactly if it starts without errors
and no finding has one. -/
theorem errors_foldl_eq_zero_iff {findings : List Finding} {tally : Tally} :
    (findings.foldl (fun tally finding =>
        tally.count finding.diagnostics finding.error.isSome) tally).errors = 0 ↔
      tally.errors = 0 ∧ ∀ finding ∈ findings,
        finding.diagnostics.any Diagnostic.isError = false ∧ finding.error = none := by
  induction findings generalizing tally with
  | nil => simp
  | cons first rest ih =>
    rw [List.foldl_cons, ih, List.forall_mem_cons, ← and_assoc]
    refine and_congr_left fun _ => ?_
    cases first.error <;> simp [Tally.count]

/-- The exit code of `Finding.tally` is zero exactly if no finding has an error, neither as a
diagnostic nor as a failure. -/
theorem exitCode_tally_eq_zero_iff {findings : List Finding} :
    (tally findings).exitCode = 0 ↔ ∀ finding ∈ findings,
      finding.diagnostics.any Diagnostic.isError = false ∧ finding.error = none := by
  have hcode : (tally findings).exitCode = 0 ↔ (tally findings).errors = 0 := by
    rw [Tally.exitCode]
    split <;> omega
  rw [hcode, tally, errors_foldl_eq_zero_iff]
  simp [Tally.zero]

end Finding

/-- What generation finds for a declaration has no error exactly if `Config.run` gives a part. -/
theorem Config.findingOf_run_iff {config : Config} {declaration : Declaration} :
    (Command.findingOf (config.run declaration)).diagnostics.any Diagnostic.isError = false ∧
        (Command.findingOf (config.run declaration)).error = none ↔
      ∃ part, (config.run declaration).part = some part := by
  obtain ⟨stage, hends, -⟩ := config.exists_endsAt_run declaration
  rw [← Option.ne_none_iff_exists', ne_eq, ← hends.hasErrors_iff, Outcome.hasErrors,
    Command.findingOf]
  cases (config.run declaration).error <;> simp

namespace Workspace

open Command

/-! ## What a run reads -/

/-- The configuration under which a run works: that of the file it is given or finds, or the
standard one. -/
def loadedConfig (space : Workspace) (settings : Settings) : Except CommandFault Config :=
  let configFile := ((configPath settings : StateM Workspace (Option Path)).run space).1
  ((loadConfig configFile : StateM Workspace (Except CommandFault Config)).run space).1

/-- The declarations of an input file, or the fault that keeps `readDeclarations` from reading them.
-/
def loadedDeclarations (space : Workspace) (input : Path) :
    Except CommandFault (List Declaration) :=
  ((readDeclarations input : StateM Workspace (Except CommandFault (List Declaration))).run space).1

/-- What a run works on: a configuration and a list of declarations. The configuration is loaded
first, so its fault hides one of the input. -/
def batch (space : Workspace) (settings : Settings) (input : Path) :
    Except CommandFault (Config × List Declaration) :=
  match space.loadedConfig settings with
  | .error fault => .error fault
  | .ok config => (space.loadedDeclarations input).map fun declarations => (config, declarations)

/-- The parts of what a run works on, in the order in which they are written; none if `batch` fails.
-/
def generatedParts (space : Workspace) (settings : Settings) (input : Path) : List Part :=
  match space.batch settings input with
  | .error _ => []
  | .ok (config, declarations) => (config.runAll declarations).filterMap Outcome.part

/-- The parts of a run are those of `Config.runAll` on the declarations that it reads. -/
theorem generatedParts_of_batch {space : Workspace} {settings : Settings} {input : Path}
    {config : Config} {declarations : List Declaration}
    (hbatch : space.batch settings input = .ok (config, declarations)) :
    space.generatedParts settings input
      = (config.runAll declarations).filterMap Outcome.part := by
  rw [generatedParts, hbatch]

/-- The writing of parts (`Command.writeAll`), as it is run in a workspace. -/
def writeAll (space : Workspace) (options : GenerateOptions) (outcomes : List Outcome) :
    Except FileError (List (Option Written)) × Workspace :=
  (Command.writeAll options outcomes : StateM Workspace _).run space

/-- The ways in which a run that generates parts goes, with its exit code and the workspace
afterwards: it is refused by `batch`, stopped by `writeAll`, or reports what it did. -/
inductive GeneratingRun (space : Workspace) (settings : Settings) (options : GenerateOptions) :
    Nat → Workspace → Prop
  /-- The configuration or the declarations cannot be read. -/
  | refused {fault : CommandFault} (hbatch : space.batch settings options.input = .error fault) :
    GeneratingRun space settings options 1 space
  /-- A part cannot be written. -/
  | stopped {config : Config} {declarations : List Declaration} {error : FileError}
      {after : Workspace} (hbatch : space.batch settings options.input = .ok (config, declarations))
      (hwrite : space.writeAll options (config.runAll declarations) = (.error error, after)) :
    GeneratingRun space settings options 1 after
  /-- All parts are written. -/
  | reported {config : Config} {declarations : List Declaration} {written : List (Option Written)}
      {after : Workspace} (hbatch : space.batch settings options.input = .ok (config, declarations))
      (hwrite : space.writeAll options (config.runAll declarations) = (.ok written, after)) :
    GeneratingRun space settings options
      (Finding.tally ((config.runAll declarations).map findingOf)).exitCode after

/-- The exit code of `reportGenerated` is that of the tally of the outcomes, whatever the options
are. -/
theorem exit_reportGenerated (space : Workspace) (settings : Settings) (color : Bool)
    (options : GenerateOptions) (declarations : List Declaration) (outcomes : List Outcome)
    (written : List (Option Written)) :
    ((reportGenerated settings color options declarations outcomes written :
        StateM Workspace CommandReport).run space).1.exit
      = (Finding.tally (outcomes.map findingOf)).exitCode := by
  rw [reportGenerated]
  cases options.format <;> rfl

section Writing

variable {space after : Workspace} (settings : Settings) (color : Bool) (options : GenerateOptions)
  (config : Config) (declarations : List Declaration)

/-- A run of `generateFrom` whose parts cannot be written reports the file error, and leaves the
workspace as `writeAll` does. -/
theorem run_generateFrom_of_error {error : FileError}
    (hwrite : space.writeAll options (config.runAll declarations) = (.error error, after)) :
    (generateFrom settings color options config declarations :
        StateM Workspace CommandReport).run space
      = ((CommandFault.file error).report
          (generateLog settings color options.input (config.runAll declarations)), after) := by
  rw [writeAll] at hwrite
  rw [generateFrom, StateT.run_bind, hwrite]
  rfl

/-- A run of `generateFrom` whose parts are written goes on with `reportGenerated` in the workspace
after the writing. -/
theorem run_generateFrom_of_ok {written : List (Option Written)}
    (hwrite : space.writeAll options (config.runAll declarations) = (.ok written, after)) :
    (generateFrom settings color options config declarations :
        StateM Workspace CommandReport).run space
      = (reportGenerated settings color options declarations (config.runAll declarations) written :
          StateM Workspace CommandReport).run after := by
  rw [writeAll] at hwrite
  rw [generateFrom, StateT.run_bind, hwrite]
  rfl

end Writing

/-! ## Runs on declarations -/

/-- The lines that every run on declarations logs first, from `Notice.ofConfig`: which configuration
file it reads. -/
def configLines (space : Workspace) (settings : Settings) : String :=
  let configFile := ((configPath settings : StateM Workspace (Option Path)).run space).1
  settings.noticeLines (settings.colored false) (configFile.toList.map Notice.ofConfig)

section OnBatch

variable (settings : Settings) (input : Path)
  (next : Config → List Declaration → StateM Workspace CommandReport)

/-- Reads the declarations of an input file under the configuration of a file, and goes on with
both; the first fault ends the run. -/
def readThen (configFile : Option Path) : StateM Workspace CommandReport := do
  match ← loadConfig configFile with
  | .error fault => return fault.report ""
  | .ok config =>
    match ← readDeclarations input with
    | .error fault => return fault.report ""
    | .ok declarations => next config declarations

/-- What runs on declarations have in common: all but what they do with the configuration and the
declarations (`next`). -/
def onBatch : StateM Workspace CommandReport := do
  let configFile ← configPath settings
  let report ← readThen input next configFile
  return report.after
    (settings.noticeLines (settings.colored false) (configFile.toList.map Notice.ofConfig))

theorem run_readThen (space : Workspace) :
    (readThen input next
        ((configPath settings : StateM Workspace (Option Path)).run space).1).run space
      = match space.batch settings input with
        | .error fault => (fault.report "", space)
        | .ok (config, declarations) => (next config declarations).run space := by
  rw [readThen, (IsReading.loadConfig _).run_bind, batch, loadedConfig]
  cases ((loadConfig ((configPath settings : StateM Workspace (Option Path)).run space).1 :
      StateM Workspace (Except CommandFault Config)).run space).1 with
  | error fault => rfl
  | ok config =>
    dsimp only
    rw [(IsReading.readDeclarations input).run_bind, loadedDeclarations]
    cases ((readDeclarations input :
        StateM Workspace (Except CommandFault (List Declaration))).run space).1 <;> rfl

/-- A run of `onBatch` logs which configuration file it reads; it is refused with the fault of
`Workspace.batch`, or goes on with what that gives, in the same workspace. -/
theorem run_onBatch (space : Workspace) :
    (onBatch settings input next).run space
      = match space.batch settings input with
        | .error fault => ((fault.report "").after (space.configLines settings), space)
        | .ok (config, declarations) =>
          let result := (next config declarations).run space
          (result.1.after (space.configLines settings), result.2) := by
  rw [onBatch, (IsReading.configPath settings).run_bind, StateT.run_bind, run_readThen]
  cases space.batch settings input <;> rfl

end OnBatch

/-- A run that generates parts reports a fault of `Workspace.batch`, or else does what
`generateFrom` does with the batch. -/
theorem run_generate (space : Workspace) (settings : Settings) (options : GenerateOptions) :
    space.run settings (.generate options)
      = match space.batch settings options.input with
        | .error fault => ((fault.report "").after (space.configLines settings), space)
        | .ok (config, declarations) =>
          let result :=
            (generateFrom settings (settings.colored false) options config declarations :
              StateM Workspace CommandReport).run space
          (result.1.after (space.configLines settings), result.2) :=
  run_onBatch settings options.input (generateFrom settings (settings.colored false) options) space

/-- Every run that generates parts goes in one of the ways of `GeneratingRun`, for every workspace
and setting. -/
theorem generatingRun_run (space : Workspace) (settings : Settings) (options : GenerateOptions) :
    GeneratingRun space settings options (space.run settings (.generate options)).1.exit
      (space.run settings (.generate options)).2 := by
  rw [run_generate]
  cases hbatch : space.batch settings options.input with
  | error fault => exact .refused hbatch
  | ok found =>
    obtain ⟨config, declarations⟩ := found
    dsimp only [CommandReport.after]
    rcases hwrite : space.writeAll options (config.runAll declarations) with
      ⟨error | written, after⟩
    · rw [run_generateFrom_of_error settings _ options config declarations hwrite]
      exact .stopped hbatch hwrite
    · rw [run_generateFrom_of_ok settings _ options config declarations hwrite,
        exit_reportGenerated, IsReading.reportGenerated]
      exact .reported hbatch hwrite

/-- The exit code of a run that writes all parts is that of the tally of what generation found. -/
theorem exit_run_generate {space : Workspace} {settings : Settings} {options : GenerateOptions}
    {config : Config} {declarations : List Declaration}
    (hbatch : space.batch settings options.input = .ok (config, declarations))
    (hwrite : (space.writeAll options (config.runAll declarations)).1.isOk = true) :
    (space.run settings (.generate options)).1.exit
      = (Finding.tally ((config.runAll declarations).map findingOf)).exitCode := by
  have hrun := space.generatingRun_run settings options
  generalize (space.run settings (.generate options)).1.exit = exit at hrun ⊢
  generalize (space.run settings (.generate options)).2 = after at hrun
  -- the batch can be read and everything is written, so only the last way is left
  cases hrun with
  | refused hrefused =>
    rw [hrefused] at hbatch
    cases hbatch
  | stopped hread hstopped =>
    obtain ⟨rfl, rfl⟩ := Prod.mk.inj (Except.ok.inj (hread.symm.trans hbatch))
    rw [hstopped] at hwrite
    cases hwrite
  | reported hread hwritten =>
    obtain ⟨rfl, rfl⟩ := Prod.mk.inj (Except.ok.inj (hread.symm.trans hbatch))
    rfl

/-! ## Loaded configurations -/

/-- A result succeeds with a value whether or not its errors are renamed by `Except.mapError`. -/
theorem mapError_eq_ok {ε δ α : Type} {rename : ε → δ} {result : Except ε α} {value : α} :
    result.mapError rename = .ok value ↔ result = .ok value := by
  cases result with
  | error error => constructor <;> exact fun heq => nomatch heq
  | ok found =>
    have hfound : (Except.ok found : Except ε α).mapError rename = .ok found := rfl
    rw [hfound, Except.ok.injEq, Except.ok.injEq]

/-- The configuration that `Config.ofDocument` reads is valid, since reading ends in the validation.
-/
theorem valid_of_ofDocument {text : String} {config : Config}
    (hconfig : Config.ofDocument text = .ok config) : config.Valid := by
  rw [Config.ofDocument] at hconfig
  split at hconfig
  · cases hconfig
  · have hvalidate := mapError_eq_ok.mp hconfig
    have hsame := Config.eq_of_validate hvalidate
    subst hsame
    exact Config.validate_eq_ok_iff.mp hvalidate

/-- The configuration of a file (`Config.loadFile`) is that of its text, or the fault of reading the
text. -/
theorem run_loadFile (space : Workspace) (path : Path) :
    ((Config.loadFile path : StateM Workspace (Except ConfigLoadFault Config)).run space).1
      = match ((FileAccess.readText path : StateM Workspace (Except FileError String)).run
            space).1 with
        | .error error => .error (.unreadable error)
        | .ok text => (Config.ofDocument text).mapError .unusable := by
  rw [Config.loadFile, (IsReading.readText path).run_bind]
  cases ((FileAccess.readText path : StateM Workspace (Except FileError String)).run space).1 <;>
    rfl

/-- The configuration of `loadConfig` is valid, whether it is read from a file or is the standard
one. -/
theorem valid_of_loadConfig {space : Workspace} {configFile : Option Path} {config : Config}
    (hconfig : ((loadConfig configFile : StateM Workspace (Except CommandFault Config)).run space).1
      = .ok config) : config.Valid := by
  cases configFile with
  | none =>
    cases hconfig
    exact Config.valid_standard
  | some path =>
    have hfile : ((Config.loadFile path : StateM Workspace (Except ConfigLoadFault Config)).run
        space).1 = .ok config := mapError_eq_ok.mp hconfig
    rw [run_loadFile] at hfile
    split at hfile
    · cases hfile
    · exact valid_of_ofDocument (mapError_eq_ok.mp hfile)

/-- Every run works under a valid configuration: `Workspace.batch` gives no other. -/
theorem valid_of_batch {space : Workspace} {settings : Settings} {input : Path} {config : Config}
    {declarations : List Declaration}
    (hbatch : space.batch settings input = .ok (config, declarations)) : config.Valid := by
  rw [batch] at hbatch
  cases hloaded : space.loadedConfig settings with
  | error fault => simp [hloaded] at hbatch
  | ok found =>
    cases hread : space.loadedDeclarations input with
    | error fault => simp [hloaded, hread, Except.map] at hbatch
    | ok list =>
      simp only [hloaded, hread, Except.map, Except.ok.injEq, Prod.mk.injEq] at hbatch
      exact hbatch.1 ▸ valid_of_loadConfig hloaded

end Workspace

end Companion
