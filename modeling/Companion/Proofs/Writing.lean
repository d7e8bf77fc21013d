import Companion.Proofs.Runs
import Companion.Proofs.Workspace

/-! # The writing of parts

`Workspace.WriteStep` has one constructor for each way in which the writing of one part ends, and
`Workspace.WriteSteps` chains these steps for a list of parts; `Workspace.writeStep_writeIfChanged`
and `Workspace.writeSteps_writeParts` say that all writing goes in this way. What one step preserves
a whole list of steps does: `Workspace.WritesInto` says that only files of the parts change, in the
directory of the parts, and that each of them gets the text of a part. Before that, directories may
be added (`AddsDirectories`). -/

namespace Companion

namespace Workspace

open Command

/-! ## Writing one part -/

/-- How the writing of a part by `writeIfChanged` ends, and the workspace that it leaves. -/
inductive WriteStep (output : Path) (part : Part) (before : Workspace) :
    Except FileError WriteOutcome → Workspace → Prop
  /-- There was no file. -/
  | created {name : FileName}
      (hplace : before.locate (partPath output part) = .ok (.entry name false))
      (hnone : before.files.get? name = none) :
    WriteStep output part before (.ok .created) (before.putAt name (.file part.text.toUTF8))
  /-- The file had a content of another `Digest`. -/
  | updated {name : FileName} {content : ByteArray}
      (hplace : before.locate (partPath output part) = .ok (.entry name false))
      (hfile : before.files.get? name = some (.file content))
      (hdigest : Digest.ofBytes content ≠ part.digest) :
    WriteStep output part before (.ok .updated) (before.putAt name (.file part.text.toUTF8))
  /-- The file had a content of the same `Digest`, so it is not written again. -/
  | unchanged {name : FileName} {content : ByteArray}
      (hplace : before.locate (partPath output part) = .ok (.entry name false))
      (hfile : before.files.get? name = some (.file content))
      (hdigest : Digest.ofBytes content = part.digest) :
    WriteStep output part before (.ok .unchanged) before
  /-- The file could not be read or written. -/
  | failed {error : FileError} : WriteStep output part before (.error error) before

/-- The action `FileAccess.writeText` puts the bytes of the text at the path, or leaves the
workspace as it is. -/
theorem run_writeText (space : Workspace) (path : Path) (text : String) :
    (FileAccess.writeText path text : StateM Workspace (Except FileError Unit)).run space
      = match space.write path text.toUTF8 with
        | .error error => (.error error, space)
        | .ok after => (.ok (), after) :=
  rfl

/-- Setting the text of a part's file with `Workspace.write`: a failure leaves the workspace as it
is. -/
def setText (space : Workspace) (output : Path) (part : Part) (done : WriteOutcome) :
    Except FileError WriteOutcome × Workspace :=
  match space.write (partPath output part) part.text.toUTF8 with
  | .error error => (.error error, space)
  | .ok after => (.ok done, after)

/-- A text that cannot be written makes `setText` give the error and change nothing. -/
theorem setText_of_error {space : Workspace} {output : Path} {part : Part} {error : FileError}
    (hwrite : space.write (partPath output part) part.text.toUTF8 = .error error)
    (done : WriteOutcome) : space.setText output part done = (.error error, space) := by
  delta setText
  rw [hwrite]

/-- A text that can be written makes `setText` give the outcome and the workspace after the write.
-/
theorem setText_of_ok {space after : Workspace} {output : Path} {part : Part}
    (hwrite : space.write (partPath output part) part.text.toUTF8 = .ok after)
    (done : WriteOutcome) : space.setText output part done = (.ok done, after) := by
  delta setText
  rw [hwrite]

/-- A part is written by `writeIfChanged` where there is no file, or one with a content of another
digest; any other failure to read the file is passed on. -/
theorem run_writeIfChanged (space : Workspace) (output : Path) (part : Part) :
    (writeIfChanged output part : StateM Workspace (Except FileError WriteOutcome)).run space
      = match space.read (partPath output part) with
        | .ok content =>
          if Digest.ofBytes content = part.digest then (.ok .unchanged, space)
          else space.setText output part .updated
        | .error .notFound => space.setText output part .created
        | .error error => (.error error, space) := by
  have hread : ((FileAccess.read (partPath output part) :
      StateM Workspace (Except FileError ByteArray)).run space).1
        = space.read (partPath output part) := rfl
  -- both branches that write end in the same way, but for what they say
  have hset (done : WriteOutcome) : ((do
        return (← FileAccess.writeText (partPath output part) part.text).map fun () => done :
        StateM Workspace (Except FileError WriteOutcome))).run space
      = space.setText output part done := by
    rw [StateT.run_bind, run_writeText]
    cases hwritten : space.write (partPath output part) part.text.toUTF8 with
    | error error =>
      rw [setText_of_error hwritten]
      rfl
    | ok after =>
      rw [setText_of_ok hwritten]
      rfl
  rw [writeIfChanged, (IsReading.read _).run_bind, hread]
  cases space.read (partPath output part) with
  | ok content =>
    dsimp only
    split
    · rfl
    · exact hset .updated
  | error error =>
    cases error with
    | notFound => exact hset .created
    | _ => rfl

/-- A file that is `notFound` is not there, if the path leads to a name. -/
theorem get?_eq_none_of_read {space : Workspace} {path : Path} {name : FileName}
    (hread : space.read path = .error .notFound)
    (hplace : space.locate path = .ok (.entry name false)) : space.files.get? name = none := by
  rw [read, hplace] at hread
  cases hentry : space.files.get? name with
  | none => rfl
  | some entry => cases entry <;> simp [hentry, Bind.bind, Except.bind] at hread

/-- After `notFound`, setting the text is a `WriteStep` that creates the file. -/
theorem writeStep_setText_created {space : Workspace} {output : Path} {part : Part}
    (hread : space.read (partPath output part) = .error .notFound) :
    WriteStep output part space (space.setText output part .created).1
      (space.setText output part .created).2 := by
  cases hwrite : space.write (partPath output part) part.text.toUTF8 with
  | error error =>
    rw [setText_of_error hwrite]
    exact .failed
  | ok after =>
    rw [setText_of_ok hwrite]
    obtain ⟨name, hplace, -, rfl⟩ := write_eq_ok_iff.mp hwrite
    exact .created hplace (get?_eq_none_of_read hread hplace)

/-- After a content of another digest, setting the text is a `WriteStep` that updates the file. -/
theorem writeStep_setText_updated {space : Workspace} {output : Path} {part : Part}
    {content : ByteArray} (hread : space.read (partPath output part) = .ok content)
    (hdigest : Digest.ofBytes content ≠ part.digest) :
    WriteStep output part space (space.setText output part .updated).1
      (space.setText output part .updated).2 := by
  obtain ⟨name, hplace, hfile⟩ := read_eq_ok_iff.mp hread
  have hwrite : space.write (partPath output part) part.text.toUTF8
      = .ok (space.putAt name (.file part.text.toUTF8)) :=
    write_eq_ok_iff.mpr ⟨name, hplace, by simp [hfile], rfl⟩
  rw [setText_of_ok hwrite]
  exact .updated hplace hfile hdigest

/-- The run of `writeIfChanged` is a `WriteStep`, in every workspace. -/
theorem writeStep_writeIfChanged (space : Workspace) (output : Path) (part : Part) :
    let result :=
      (writeIfChanged output part : StateM Workspace (Except FileError WriteOutcome)).run space
    WriteStep output part space result.1 result.2 := by
  rw [run_writeIfChanged]
  cases hread : space.read (partPath output part) with
  | ok content =>
    obtain ⟨name, hplace, hfile⟩ := read_eq_ok_iff.mp hread
    by_cases hdigest : Digest.ofBytes content = part.digest
    · simp only [if_pos hdigest]
      exact .unchanged hplace hfile hdigest
    · simp only [if_neg hdigest]
      exact writeStep_setText_updated hread hdigest
  | error error =>
    cases error with
    | notFound => exact writeStep_setText_created hread
    | _ => exact .failed

/-! ## Writing a list of parts -/

/-- How the writing of a list of parts by `writeParts` goes, one part after the other: whether all
are written, and the workspace that it leaves. -/
inductive WriteSteps (output : Path) : List Part → Workspace → (complete : Bool) → Workspace → Prop
  /-- All parts are written. -/
  | done {space : Workspace} : WriteSteps output [] space true space
  /-- The next part cannot be written. -/
  | stopped {part : Part} {rest : List Part} {before after : Workspace} {error : FileError}
      (hstep : WriteStep output part before (.error error) after) :
    WriteSteps output (part :: rest) before false after
  /-- The next part is written, and the rest after it. -/
  | next {part : Part} {rest : List Part} {before between after : Workspace} {done : WriteOutcome}
      {complete : Bool} (hstep : WriteStep output part before (.ok done) between)
      (hrest : WriteSteps output rest between complete after) :
    WriteSteps output (part :: rest) before complete after

/-- Where there is no part, `writeParts` writes nothing and goes on with the rest. -/
theorem run_writeParts_none (space : Workspace) (output : Path) (rest : List (Option Part)) :
    (writeParts output (none :: rest) :
        StateM Workspace (Except FileError (List (Option Written)))).run space
      = let result := (writeParts output rest :
          StateM Workspace (Except FileError (List (Option Written)))).run space
        (result.1.map (none :: ·), result.2) :=
  rfl

/-- A part is written before those after it, and a failure ends `writeParts` with the parts before
it written. -/
theorem run_writeParts_some (space : Workspace) (output : Path) (part : Part)
    (rest : List (Option Part)) :
    (writeParts output (some part :: rest) :
        StateM Workspace (Except FileError (List (Option Written)))).run space
      = match (writeIfChanged output part :
          StateM Workspace (Except FileError WriteOutcome)).run space with
        | (.error error, between) => (.error error, between)
        | (.ok done, between) =>
          let result := (writeParts output rest :
            StateM Workspace (Except FileError (List (Option Written)))).run between
          (result.1.map (some (partPath output part, done) :: ·), result.2) := by
  rw [writeParts, StateT.run_bind]
  rcases (writeIfChanged output part :
    StateM Workspace (Except FileError WriteOutcome)).run space with ⟨error | done, between⟩ <;> rfl

/-- What is done with the value of a result by `Except.map` does not change whether there is one. -/
theorem isOk_map {ε α β : Type} (result : Except ε α) (f : α → β) :
    (result.map f).isOk = result.isOk := by
  cases result <;> rfl

/-- The run of `writeParts` goes in `WriteSteps` over the parts that there are, in every workspace.
-/
theorem writeSteps_writeParts (output : Path) (parts : List (Option Part)) (space : Workspace) :
    let result := (writeParts output parts :
      StateM Workspace (Except FileError (List (Option Written)))).run space
    WriteSteps output (parts.filterMap id) space result.1.isOk result.2 := by
  -- the workspace is that before the next part, so the induction has to hold for every workspace
  induction parts generalizing space with
  | nil => exact .done
  | cons first rest ih =>
    cases first with
    | none =>
      simp only [run_writeParts_none, isOk_map]
      exact ih space
    | some part =>
      rw [run_writeParts_some]
      have hstep := writeStep_writeIfChanged space output part
      rcases hresult : (writeIfChanged output part :
          StateM Workspace (Except FileError WriteOutcome)).run space with ⟨error | done, between⟩
      · rw [hresult] at hstep
        exact .stopped hstep
      · rw [hresult] at hstep
        simp only [isOk_map]
        exact .next hstep (ih between)

/-! ## What the writing of parts changes -/

/-- What the writing of parts leaves of a workspace: the directories, and all files but those of
parts, which hold the text of a part. This is the invariant that every `WriteStep` keeps. -/
structure WritesInto (output : Path) (parts : List Part) (before after : Workspace) : Prop where
  /-- The directories are the same. -/
  directories : SameDirectories before after
  /-- A name that stands for something else is that of a part, and stands for its text. -/
  entries : ∀ name, after.files.get? name = before.files.get? name ∨
    ∃ directory, before.directoryAt output = .ok directory ∧ ∃ part ∈ parts,
      name = directory ++ [part.hintName] ∧
        after.files.get? name = some (.file part.text.toUTF8)

namespace WritesInto

variable {output : Path} {parts more : List Part} {before between after : Workspace}

theorem refl (output : Path) (parts : List Part) (space : Workspace) :
    WritesInto output parts space space :=
  ⟨.refl space, fun _ => Or.inl rfl⟩

theorem mono (hsub : parts ⊆ more) (hwrites : WritesInto output parts before after) :
    WritesInto output more before after := by
  refine ⟨hwrites.directories, fun name => (hwrites.entries name).imp_right ?_⟩
  rintro ⟨directory, hdirectory, part, hpart, hname⟩
  exact ⟨directory, hdirectory, part, hsub hpart, hname⟩

theorem trans (hfirst : WritesInto output parts before between)
    (hsecond : WritesInto output parts between after) : WritesInto output parts before after := by
  refine ⟨hfirst.directories.trans hsecond.directories, fun name => ?_⟩
  -- the later change of a name hides the earlier one
  rcases hsecond.entries name with hkept | ⟨directory, hdirectory, hpart⟩
  · rw [hkept]
    exact hfirst.entries name
  · exact Or.inr ⟨directory, hfirst.directories.symm.directoryAt hdirectory, hpart⟩

/-- A part that is put at its name with `putAt` is written into the output directory. -/
theorem putAt {part : Part} {space : Workspace} {name : FileName}
    (hentry : IsStepName part.hintName)
    (hplace : space.locate (partPath output part) = .ok (.entry name false))
    (hfree : space.files.get? name ≠ some .directory) :
    WritesInto output [part] space (space.putAt name (.file part.text.toUTF8)) := by
  have hproper := ne_nil_of_locate hplace
  refine ⟨.putAt_file hproper hfree _, fun other => ?_⟩
  rw [get?_putAt space _ hproper]
  split
  case isTrue hequal =>
    obtain ⟨directory, hdirectory, hname⟩ := exists_directoryAt_of_locate hentry hplace
    exact Or.inr ⟨directory, hdirectory, part, List.mem_singleton_self part,
      hequal ▸ hname, rfl⟩
  case isFalse => exact Or.inl rfl

end WritesInto

/-- One `WriteStep` changes the file of its part only: the step of the induction. -/
theorem WriteStep.writesInto {output : Path} {part : Part} {before after : Workspace}
    {result : Except FileError WriteOutcome} (hentry : IsStepName part.hintName)
    (hstep : WriteStep output part before result after) :
    WritesInto output [part] before after := by
  cases hstep with
  | created hplace hnone => exact .putAt hentry hplace (by simp [hnone])
  | updated hplace hfile hdigest => exact .putAt hentry hplace (by simp [hfile])
  | unchanged hplace hfile hdigest => exact .refl _ _ _
  | failed => exact .refl _ _ _

/-- Several `WriteSteps` change the files of their parts only, by induction on the steps. -/
theorem WriteSteps.writesInto {output : Path} {parts : List Part} {before after : Workspace}
    {complete : Bool} (hentries : ∀ part ∈ parts, IsStepName part.hintName)
    (hsteps : WriteSteps output parts before complete after) :
    WritesInto output parts before after := by
  induction hsteps with
  | done => exact .refl _ _ _
  | stopped hstep =>
    rw [List.forall_mem_cons] at hentries
    exact (hstep.writesInto hentries.1).mono (by simp)
  | next hstep hrest ih =>
    rw [List.forall_mem_cons] at hentries
    exact ((hstep.writesInto hentries.1).mono (by simp)).trans ((ih hentries.2).mono (by simp))

end Workspace

/-! ## Creating directories -/

/-- An action of `StateM Workspace` that changes nothing but that there are directories where there
was nothing. -/
def AddsDirectories {α : Type} (action : StateM Workspace α) : Prop :=
  ∀ space name, (action.run space).2.files.get? name = space.files.get? name ∨
    (space.files.get? name = none ∧ (action.run space).2.files.get? name = some .directory)

namespace AddsDirectories

variable {α β : Type}

theorem of_isReading {action : StateM Workspace α} (hreading : IsReading action) :
    AddsDirectories action := by
  intro space name
  rw [hreading space]
  exact Or.inl rfl

theorem pure (value : α) : AddsDirectories (Pure.pure value : StateM Workspace α) :=
  of_isReading (IsReading.pure value)

theorem bind {first : StateM Workspace α} {next : α → StateM Workspace β}
    (hfirst : AddsDirectories first) (hnext : ∀ value, AddsDirectories (next value)) :
    AddsDirectories (first >>= next) := by
  intro space name
  have hbind : (first >>= next).run space
      = (next (first.run space).1).run (first.run space).2 := rfl
  rw [hbind]
  -- a directory that the first action adds is not changed by the second
  rcases hnext (first.run space).1 (first.run space).2 name with hkept | ⟨hnone, hadded⟩
  · rw [hkept]
    exact hfirst space name
  · rcases hfirst space name with hbefore | ⟨-, hdirectory⟩
    · exact Or.inr ⟨hbefore ▸ hnone, hadded⟩
    · rw [hdirectory] at hnone
      cases hnone

theorem createDirectory (path : Path) : AddsDirectories (FileAccess.createDirectory path) := by
  intro space name
  have hrun : ((FileAccess.createDirectory path :
        StateM Workspace (Except FileError Unit)).run space).2
      = match space.createDirectory path with
        | .error _ => space
        | .ok after => after := by
    simp only [FileAccess.createDirectory, Workspace.change, StateT.run]
    cases space.createDirectory path <;> rfl
  rw [hrun]
  cases hcreate : space.createDirectory path with
  | error error => exact Or.inl rfl
  | ok after =>
    -- the one name that changes was free before
    obtain ⟨place, slash, hplace, hnone, rfl⟩ := Workspace.createDirectory_eq_ok_iff.mp hcreate
    simp only [Workspace.get?_putAt space _ (Workspace.ne_nil_of_locate hplace)]
    split
    case isTrue hequal => exact Or.inr ⟨hequal ▸ hnone, rfl⟩
    case isFalse => exact Or.inl rfl

/-- A directory that is there already counts as created, and the workspace stays as it is. -/
theorem orDirectory (path : Path) (error : FileError) :
    AddsDirectories (do
      return if ← FileAccess.isDirectory path then .ok () else .error error :
      StateM Workspace (Except FileError Unit)) :=
  of_isReading ((IsReading.isDirectory path).bind fun _ => IsReading.pure _)

theorem ensureDirectory (path : Path) : AddsDirectories (FileAccess.ensureDirectory path) := by
  refine (createDirectory path).bind fun result => ?_
  cases result with
  | ok _ => exact pure _
  | error error => exact orDirectory path error

theorem createWithin (depth : Nat) (path : Path) :
    AddsDirectories (FileAccess.createWithin depth path) := by
  induction depth generalizing path with
  | zero => exact ensureDirectory path
  | succ depth ih =>
    rw [FileAccess.createWithin]
    by_cases hempty : path.text.isEmpty = true
    case pos => simpa only [hempty, if_true] using pure _
    simp only [hempty]
    refine (createDirectory path).bind fun result => ?_
    cases result with
    | ok _ => exact pure _
    | error error =>
      cases error with
      | notFound =>
        -- the directories above are created first
        cases path.parent? with
        | none => exact pure _
        | some parent =>
          refine (ih parent).bind fun above => ?_
          cases above with
          | error error => exact pure _
          | ok _ => exact ensureDirectory path
      | _ => exact orDirectory path _

/-- The action `FileAccess.createDirectories` on the way to a path adds directories only. -/
theorem createDirectories (path : Path) : AddsDirectories (FileAccess.createDirectories path) :=
  createWithin _ path

end AddsDirectories

namespace Workspace

open Command

/-! ## Writing all parts of a run -/

/-- The workspace in which the writing of parts begins: after `createDirectories` for the directory
of the parts, whether it succeeds or not. -/
def prepared (space : Workspace) (output : Path) : Workspace :=
  ((FileAccess.createDirectories output : StateM Workspace (Except FileError Unit)).run space).2

/-- The ways of `Workspace.writeAll`: a dry run writes nothing; otherwise the directory of the parts
cannot be created, or the parts are written in `WriteSteps` from the `prepared` workspace. -/
theorem writeAll_cases (space : Workspace) (options : GenerateOptions) (outcomes : List Outcome) :
    (options.dryRun = true ∧ (space.writeAll options outcomes).2 = space) ∨
      (options.dryRun = false ∧ ∃ error,
        space.writeAll options outcomes = (.error error, space.prepared options.output)) ∨
      (options.dryRun = false ∧
        WriteSteps options.output (outcomes.filterMap Outcome.part) (space.prepared options.output)
          (space.writeAll options outcomes).1.isOk (space.writeAll options outcomes).2) := by
  cases hdry : options.dryRun with
  | true => exact Or.inl ⟨rfl, by simp only [writeAll, Command.writeAll, hdry, if_true]; rfl⟩
  | false =>
    refine Or.inr ?_
    -- the directory is created before the first part is written
    rcases hcreate : (FileAccess.createDirectories options.output :
      StateM Workspace (Except FileError Unit)).run space with ⟨error | _, between⟩
    · have hrun : space.writeAll options outcomes = (.error error, between) := by
        simp only [writeAll, Command.writeAll, hdry, Bool.false_eq_true, if_false,
          StateT.run_bind, hcreate]
        rfl
      exact Or.inl ⟨rfl, error, by rw [hrun, prepared, hcreate]⟩
    · have hrun : space.writeAll options outcomes
          = (writeParts options.output (outcomes.map (·.part)) :
              StateM Workspace (Except FileError (List (Option Written)))).run between := by
        simp only [writeAll, Command.writeAll, hdry, Bool.false_eq_true, if_false,
          StateT.run_bind, hcreate]
        rfl
      have hsteps := writeSteps_writeParts options.output (outcomes.map (·.part)) between
      rw [List.filterMap_map] at hsteps
      rw [hrun, prepared, hcreate]
      exact Or.inr ⟨rfl, hsteps⟩

end Workspace

end Companion
