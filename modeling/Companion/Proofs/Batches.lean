import Companion.Proofs.LastWrites

/-! # Writing a batch

A batch is a list of parts of different files (`Part.IsBatch`). If the path of each leads to a file
or to a free name (`Workspace.Awaits`), then all are written, and what is done with each depends on
its own file only (`Workspace.outcomeOf`), for no part is written to the file of another. Hence the
files hold the texts, whatever the order, and a second writing finds nothing to do:
`Workspace.writeBatch_exact`. -/

namespace Companion

/-- Parts of different files, with the digests of their texts: what `writeBatch` is given. -/
structure Part.IsBatch (parts : List Part) : Prop where
  /-- A part has the name of a file. -/
  isStepName : ∀ part ∈ parts, IsStepName part.hintName
  /-- No two parts have the same name. -/
  nodup : (parts.map Part.hintName).Nodup
  /-- A part has the digest of its text. -/
  digest : ∀ part ∈ parts, part.digest = .ofText part.text

namespace Part.IsBatch

variable {part : Part} {parts rest others : List Part}

theorem tail (hbatch : IsBatch (part :: rest)) : IsBatch rest :=
  ⟨fun _ hmem => hbatch.isStepName _ (List.mem_cons_of_mem _ hmem),
    (List.nodup_cons.mp hbatch.nodup).2,
    fun _ hmem => hbatch.digest _ (List.mem_cons_of_mem _ hmem)⟩

/-- No part of the rest of a batch has the name of the first. -/
theorem hintName_ne (hbatch : IsBatch (part :: rest)) {other : Part} (hother : other ∈ rest) :
    part.hintName ≠ other.hintName := by
  intro heq
  exact (List.nodup_cons.mp hbatch.nodup).1 (heq ▸ List.mem_map_of_mem hother)

/-- A batch in another order is a batch. -/
theorem perm (hbatch : IsBatch parts) (hperm : others.Perm parts) : IsBatch others :=
  ⟨fun _ hmem => hbatch.isStepName _ (hperm.mem_iff.mp hmem),
    (hperm.map Part.hintName).nodup_iff.mpr hbatch.nodup,
    fun _ hmem => hbatch.digest _ (hperm.mem_iff.mp hmem)⟩

/-- Every part of a batch is the last one of its name (`IsLastNamed`). -/
theorem isLastNamed (hbatch : IsBatch parts) (hpart : part ∈ parts) :
    IsLastNamed part.hintName parts part := by
  induction parts with
  | nil => cases hpart
  | cons first rest ih =>
    rcases List.mem_cons.mp hpart with rfl | hrest
    · exact .head fun later hlater => (hbatch.hintName_ne hlater).symm
    · exact (ih hbatch.tail hrest).cons first

end Part.IsBatch

namespace Path

/-- A path that `Path.join` makes with a step ends in that step. -/
theorem exists_toList_join (base : Path) {step : String} (hstep : IsStepName step) :
    ∃ front, (base.join ⟨step⟩).text.toList = front ++ step.toList := by
  rcases join_cases base hstep with ⟨-, hjoin⟩ | ⟨front, -, hjoin⟩ | ⟨-, hjoin⟩
  · exact ⟨[], hjoin⟩
  · exact ⟨front ++ ['/'], by simp [hjoin]⟩
  · exact ⟨base.text.toList ++ ['/'], by simp [hjoin]⟩

theorem isEmpty_join (base : Path) {step : String} (hstep : IsStepName step) :
    (base.join ⟨step⟩).text.isEmpty = false := by
  obtain ⟨front, hjoin⟩ := exists_toList_join base hstep
  have hstepList : step.toList ≠ [] := by simpa using hstep.ne_empty
  have hlist : (base.join ⟨step⟩).text.toList ≠ [] := by simp [hjoin, hstepList]
  simpa using hlist

/-- A path that `Path.join` makes with a step does not end in a slash. -/
theorem endsWith_join (base : Path) {step : String} (hstep : IsStepName step) :
    (base.join ⟨step⟩).text.endsWith "/" = false := by
  obtain ⟨front, hjoin⟩ := exists_toList_join base hstep
  have hstepList : step.toList ≠ [] := by simpa using hstep.ne_empty
  rw [String.endsWith_eq_endsWith_toSlice, String.Slice.endsWith_string_eq_false_iff,
    String.copy_toSlice, hjoin]
  rintro ⟨before, hbefore⟩
  -- the last character of the path is that of the step
  have hlast : some '/' = step.toList.getLast? := by
    have hends := congrArg List.getLast? hbefore
    rwa [List.getLast?_append_of_ne_nil _ hstepList,
      List.getLast?_append_of_ne_nil _ (by decide)] at hends
  exact hstep.slash_not_mem (List.mem_of_getLast? hlast.symm)

end Path

namespace Workspace

open Command Companion.Part

variable {space before between after : Workspace} {output : Path} {directory : FileName}
  {part : Part} {parts rest others : List Part}

/-! ## Files of parts -/

/-- A path to a step of a directory is followed there by `follow`, unless the step has too many
bytes. -/
theorem follow_join {step : String} (hstep : IsStepName step)
    (hdirectory : space.directoryAt output = .ok directory) :
    space.follow (output.join ⟨step⟩)
      = (FileSystem.nameBelow directory step).map fun name => .entry name false := by
  have hdots : ¬ (step = "." ∨ step = "..") := not_or.mpr ⟨hstep.ne_dot, hstep.ne_dotdot⟩
  rw [directoryAt, startOf] at hdirectory
  rw [follow_eq, Path.names_join output hstep, List.getLast?_concat, List.dropLast_concat, startOf,
    Path.isAbsolute_join output hstep, hdirectory, Path.endsWith_join output hstep]
  simp only [if_neg hdots, Except.bind]
  cases FileSystem.nameBelow directory step <;> rfl

/-- The path `partPath` of a part leads to a file or to a free name. -/
def Awaits (space : Workspace) (output : Path) (part : Part) : Prop :=
  ∃ name, space.locate (partPath output part) = .ok (.entry name false) ∧
    space.files.get? name ≠ some .directory

theorem Awaits.of_sameDirectories (hawaits : before.Awaits output part)
    (hsame : SameDirectories before after) : after.Awaits output part := by
  obtain ⟨name, hplace, hfree⟩ := hawaits
  exact ⟨name, hsame.locate hplace, fun hentry => hfree ((hsame.directories name).mp hentry)⟩

/-- A path to a step of a directory leads there (`locate`), unless it cannot be looked up; it is not
that something on the way is not found. -/
theorem locate_join {step : String} (hstep : IsStepName step)
    (hdirectory : space.directoryAt output = .ok directory) :
    space.locate (output.join ⟨step⟩) = .ok (.entry (directory ++ [step]) false) ∨
      ∃ error, space.locate (output.join ⟨step⟩) = .error error ∧ error ≠ .notFound := by
  rw [locate, Path.isEmpty_join output hstep, follow_join hstep hdirectory, FileSystem.nameBelow]
  by_cases hnull : ((output.join ⟨step⟩).text.toList.any fun c => c.toNat == 0) = true
  · exact Or.inr ⟨.nullInPath, by simp only [if_pos hnull], by decide⟩
  by_cases hlong : FileSystem.maxPathSize < (output.join ⟨step⟩).text.utf8ByteSize
  · exact Or.inr ⟨.nameTooLong, by simp [hnull, hlong], by decide⟩
  by_cases hstepLong : FileSystem.maxStepSize < step.utf8ByteSize
  · exact Or.inr ⟨.nameTooLong, by simp [hnull, hlong, hstepLong, Except.map], by decide⟩
  · exact Or.inl (by simp [hnull, hlong, hstepLong, Except.map])

/-- A part of a directory is awaited (`Awaits`) if its file is there, or is just not found. -/
theorem awaits_of_read (hstep : IsStepName part.hintName)
    (hdirectory : space.directoryAt output = .ok directory)
    (hread : ∀ error, space.read (partPath output part) = .error error → error = .notFound) :
    space.Awaits output part := by
  have hpath : partPath output part = output.join ⟨part.hintName⟩ := rfl
  rcases locate_join hstep hdirectory with hplace | ⟨error, hplace, herror⟩
  · refine ⟨_, hplace, fun hentry => ?_⟩
    have hdirectoryRead : space.read (partPath output part) = .error .isDirectory := by
      rw [read, hpath, hplace]
      simp [Bind.bind, Except.bind, hentry]
    cases hread _ hdirectoryRead
  · have hfailed : space.read (partPath output part) = .error error := by
      rw [read, hpath, hplace]
      rfl
    exact absurd (hread _ hfailed) herror

/-! ## Writing a part that is awaited -/

/-- What `writeIfChanged` does with a part, going by the digest of its file. -/
def outcomeOf (space : Workspace) (output : Path) (part : Part) : WriteOutcome :=
  match space.read (partPath output part) with
  | .error _ => .created
  | .ok content => if Digest.ofBytes content = part.digest then .unchanged else .updated

/-- The outcome `outcomeOf` of a part whose file cannot be read is `created`. -/
theorem outcomeOf_of_error {error : FileError}
    (hread : space.read (partPath output part) = .error error) :
    space.outcomeOf output part = .created := by
  delta outcomeOf
  rw [hread]

/-- The outcome `outcomeOf` of a part whose file is read compares it with the part by its digest. -/
theorem outcomeOf_of_ok {content : ByteArray}
    (hread : space.read (partPath output part) = .ok content) :
    space.outcomeOf output part
      = if Digest.ofBytes content = part.digest then .unchanged else .updated := by
  delta outcomeOf
  rw [hread]

/-- The outcome `outcomeOf` of a part depends on the content of its file only. -/
theorem outcomeOf_congr
    (hread : ∀ content, after.read (partPath output part) = .ok content ↔
      before.read (partPath output part) = .ok content) :
    after.outcomeOf output part = before.outcomeOf output part := by
  cases hbefore : before.read (partPath output part) with
  | ok content => rw [outcomeOf_of_ok hbefore, outcomeOf_of_ok ((hread content).mpr hbefore)]
  | error error =>
    cases hafter : after.read (partPath output part) with
    | error other => rw [outcomeOf_of_error hbefore, outcomeOf_of_error hafter]
    | ok content =>
      rw [(hread content).mp hafter] at hbefore
      cases hbefore

/-- Where a part is awaited (`Awaits`), its text can be set. -/
theorem Awaits.setText (hawaits : space.Awaits output part) (done : WriteOutcome) :
    (space.setText output part done).1 = .ok done := by
  obtain ⟨name, hplace, hfree⟩ := hawaits
  have hwrite : space.write (partPath output part) part.text.toUTF8
      = .ok (space.putAt name (.file part.text.toUTF8)) :=
    write_eq_ok_iff.mpr ⟨name, hplace, hfree, rfl⟩
  rw [setText_of_ok hwrite]

/-- Where a part is awaited (`Awaits`), its file is read or not found. -/
theorem Awaits.read_cases (hawaits : space.Awaits output part) :
    space.read (partPath output part) = .error .notFound ∨
      ∃ content, space.read (partPath output part) = .ok content := by
  obtain ⟨name, hplace, hfree⟩ := hawaits
  cases hentry : space.files.get? name with
  | none =>
    refine Or.inl ?_
    rw [Workspace.read, hplace]
    simp [Bind.bind, Except.bind, hentry]
  | some entry =>
    cases entry with
    | directory => exact absurd hentry hfree
    | file content => exact Or.inr ⟨content, read_eq_ok_iff.mpr ⟨name, hplace, hentry⟩⟩

/-- A part that is awaited (`Awaits`) is written by `writeIfChanged`, with the outcome `outcomeOf`.
-/
theorem Awaits.run_writeIfChanged (hawaits : space.Awaits output part) :
    ((writeIfChanged output part : StateM Workspace (Except FileError WriteOutcome)).run space).1
      = .ok (space.outcomeOf output part) := by
  rw [Workspace.run_writeIfChanged]
  rcases hawaits.read_cases with hread | ⟨content, hread⟩
  · rw [outcomeOf_of_error hread]
    simp only [hread]
    exact hawaits.setText .created
  · rw [outcomeOf_of_ok hread]
    simp only [hread]
    -- the digest decides whether the file is written again
    by_cases hdigest : Digest.ofBytes content = part.digest
    · rw [if_pos hdigest, if_pos hdigest]
    · rw [if_neg hdigest, if_neg hdigest]
      exact hawaits.setText .updated

/-- A part that is awaited (`Awaits`) is `created` exactly if its file is not found. -/
theorem Awaits.outcomeOf_eq_created_iff (hawaits : space.Awaits output part) :
    space.outcomeOf output part = .created ↔
      space.read (partPath output part) = .error .notFound := by
  rcases hawaits.read_cases with hread | ⟨content, hread⟩
  · simp [outcomeOf_of_error hread, hread]
  · simp only [outcomeOf_of_ok hread, hread, reduceCtorEq, iff_false]
    split <;> simp

/-- A part is left `unchanged` exactly if its file holds its text, if digests tell that from the
content of the file. -/
theorem outcomeOf_eq_unchanged_iff (hdigest : part.digest = .ofText part.text)
    (hdistinct : ∀ content, space.read (partPath output part) = .ok content →
      Digest.ofBytes content = Digest.ofText part.text → content = part.text.toUTF8) :
    space.outcomeOf output part = .unchanged ↔
      space.read (partPath output part) = .ok part.text.toUTF8 := by
  cases hread : space.read (partPath output part) with
  | error error => simp [outcomeOf_of_error hread]
  | ok content =>
    rw [outcomeOf_of_ok hread, hdigest]
    by_cases hsame : Digest.ofBytes content = Digest.ofText part.text
    · simp [hdistinct content hread hsame, Digest.ofText]
    · have hother : content ≠ part.text.toUTF8 := by
        rintro rfl
        exact hsame rfl
      simpa [hsame] using hother

/-! ## Writing all parts -/

/-- Writes the parts of a list one after the other with `writeParts`. -/
def writeBatch (space : Workspace) (output : Path) (parts : List Part) :
    Except FileError (List (Option Written)) × Workspace :=
  (writeParts output (parts.map some) :
    StateM Workspace (Except FileError (List (Option Written)))).run space

/-- In a batch a part is compared with the content of its file before, and with nothing else:
`Distinguishes` is then about these contents only. -/
theorem distinguishes_iff_of_isBatch (hbatch : IsBatch parts) :
    space.Distinguishes output parts ↔ ∀ part ∈ parts, ∀ content,
      space.read (partPath output part) = .ok content →
        Digest.ofBytes content = Digest.ofText part.text → content = part.text.toUTF8 := by
  constructor
  · intro hdistinguishes part hpart content hread
    obtain ⟨front, back, rfl⟩ := List.append_of_mem hpart
    have hfirst : ∀ earlier ∈ front, earlier.hintName ≠ part.hintName := by
      have hnodup := hbatch.nodup
      rw [List.map_append, List.map_cons, List.nodup_append] at hnodup
      intro earlier hearlier
      exact hnodup.2.2 _ (List.mem_map_of_mem hearlier) _ (List.mem_cons_self ..)
    exact hdistinguishes part content (.old rfl hfirst hread)
  · intro hdistinct part content hcompares
    cases hcompares with
    | old hparts hfirst hread => exact hdistinct part (by simp [hparts]) content hread
    | @written front back _ last hparts hlast =>
      -- no part before this one has its name
      obtain ⟨first, middle, rfl, hname, -⟩ := hlast
      have hnodup := hbatch.nodup
      rw [hparts] at hnodup
      simp [hname, List.nodup_append] at hnodup

/-- The parts of a batch that are awaited are all written by `writeBatch`, and what is done with
each is `outcomeOf` in the workspace before all of them. Induction on the parts: a write changes the
file of no later part. -/
theorem fst_writeBatch (hbatch : IsBatch parts)
    (hawaits : ∀ part ∈ parts, space.Awaits output part) :
    (space.writeBatch output parts).1
      = .ok (parts.map fun part => some (partPath output part, space.outcomeOf output part)) := by
  -- by induction on the parts: the writing of the first keeps the files of the rest, and with them
  -- all that the rest depends on
  induction parts generalizing space with
  | nil => rfl
  | cons part rest ih =>
    have hfirst := (hawaits part (by simp)).run_writeIfChanged
    have hstep := writeStep_writeIfChanged space output part
    rw [writeBatch, List.map_cons, run_writeParts_some]
    rcases hrun : (writeIfChanged output part :
      StateM Workspace (Except FileError WriteOutcome)).run space with ⟨result, between⟩
    rw [hrun] at hfirst hstep
    obtain rfl : result = .ok (space.outcomeOf output part) := hfirst
    have hwrites : WritesInto output [part] space between :=
      hstep.writesInto (hbatch.isStepName part (by simp))
    have hkept {other : Part} (hother : other ∈ rest) {content : ByteArray} :
        between.read (partPath output other) = .ok content ↔
          space.read (partPath output other) = .ok content :=
      hwrites.read_iff (hbatch.isStepName other (by simp [hother]))
        (by simpa using hbatch.hintName_ne hother)
    have hrest := @ih between hbatch.tail fun other hother =>
      (hawaits other (by simp [hother])).of_sameDirectories hwrites.directories
    have houtcomes : (rest.map fun other =>
          some (partPath output other, between.outcomeOf output other))
        = rest.map fun other => some (partPath output other, space.outcomeOf output other) :=
      List.map_congr_left fun other hother => by rw [outcomeOf_congr fun _ => hkept hother]
    rw [writeBatch, houtcomes] at hrest
    simp only [hrest, Except.map, List.map_cons]

/-- A `writeBatch` that succeeds is a sequence of `WriteSteps` to its end. -/
theorem writeSteps_writeBatch {written : List (Option Written)}
    (hwritten : (space.writeBatch output parts).1 = .ok written) :
    WriteSteps output parts space true (space.writeBatch output parts).2 := by
  have hsteps := writeSteps_writeParts output (parts.map some) space
  have hparts : (parts.map some).filterMap id = parts := by simp
  rw [hparts] at hsteps
  rw [writeBatch] at hwritten ⊢
  simp only [hwritten] at hsteps
  exact hsteps

/-- Where all files hold the texts already, `writeBatch` leaves every part `unchanged` and writes
nothing. -/
theorem writeBatch_eq_self (hdigest : ∀ part ∈ parts, part.digest = .ofText part.text)
    (hread : ∀ part ∈ parts, space.read (partPath output part) = .ok part.text.toUTF8) :
    space.writeBatch output parts
      = (.ok (parts.map fun part => some (partPath output part, .unchanged)), space) := by
  induction parts with
  | nil => rfl
  | cons part rest ih =>
    rw [List.forall_mem_cons] at hdigest hread
    have hsame : Digest.ofBytes part.text.toUTF8 = part.digest := hdigest.1.symm
    have hrest := ih hdigest.2 hread.2
    rw [writeBatch] at hrest
    rw [writeBatch, List.map_cons, run_writeParts_some, run_writeIfChanged, hread.1]
    simp only [if_pos hsame, hrest, Except.map, List.map_cons]

/-! ## What a batch leaves -/

/-- Two workspaces in which every name stands for the same. -/
structure SameEntries (first second : Workspace) : Prop where
  /-- The current directory is the same. -/
  current : second.directory = first.directory
  /-- Every name stands for the same. -/
  entries : ∀ name, second.files.get? name = first.files.get? name

/-- A workspace in which the files of parts hold their texts, and that is otherwise as `before`. -/
structure HoldsBatch (directory : FileName) (parts : List Part) (before after : Workspace) :
    Prop where
  /-- The current directory is the same. -/
  current : after.directory = before.directory
  /-- Every part is there. -/
  texts : ∀ part ∈ parts,
    after.files.get? (directory ++ [part.hintName]) = some (.file part.text.toUTF8)
  /-- All other names stand for what they stood for. -/
  others : ∀ name, (∀ part ∈ parts, name ≠ directory ++ [part.hintName]) →
    after.files.get? name = before.files.get? name

namespace HoldsBatch

/-- What a batch leaves does not depend on the order: two workspaces that `HoldsBatch` of the same
parts have `SameEntries`. -/
theorem sameEntries {first second : Workspace} (hperm : others.Perm parts)
    (hfirst : HoldsBatch directory parts before first)
    (hsecond : HoldsBatch directory others before second) : SameEntries first second := by
  refine ⟨hsecond.current.trans hfirst.current.symm, fun name => ?_⟩
  by_cases hname : ∃ part ∈ parts, name = directory ++ [part.hintName]
  · obtain ⟨part, hpart, rfl⟩ := hname
    rw [hfirst.texts part hpart, hsecond.texts part (hperm.mem_iff.mpr hpart)]
  · push Not at hname
    rw [hfirst.others name hname,
      hsecond.others name fun part hpart => hname part (hperm.mem_iff.mp hpart)]

end HoldsBatch

/-- A `writeBatch` that succeeds leaves the texts of its parts and nothing else (`HoldsBatch`), and
they can be read. -/
theorem holdsBatch_writeBatch (hdirectory : space.directoryAt output = .ok directory)
    (hbatch : IsBatch parts) (hdistinguishes : space.Distinguishes output parts)
    {written : List (Option Written)}
    (hwritten : (space.writeBatch output parts).1 = .ok written) :
    HoldsBatch directory parts space (space.writeBatch output parts).2 ∧
      ∀ part ∈ parts,
        (space.writeBatch output parts).2.read (partPath output part)
          = .ok part.text.toUTF8 := by
  have hsteps := writeSteps_writeBatch hwritten
  generalize (space.writeBatch output parts).2 = after at hsteps
  have hwrites := hsteps.writesInto hbatch.isStepName
  have hread : ∀ part ∈ parts, after.read (partPath output part) = .ok part.text.toUTF8 :=
    fun part hpart => hsteps.read_last hbatch.isStepName hbatch.digest hdistinguishes
      (hbatch.isLastNamed hpart)
  refine ⟨⟨hwrites.directories.current, fun part hpart => ?_, fun name hname => ?_⟩, hread⟩
  · -- the path of the part leads to its name in the directory
    obtain ⟨name, hplace, hfile⟩ := read_eq_ok_iff.mp (hread part hpart)
    obtain ⟨found, hfound, rfl⟩ :=
      exists_directoryAt_of_locate (hbatch.isStepName part hpart) hplace
    rw [hwrites.directories.directoryAt hdirectory] at hfound
    rwa [Except.ok.inj hfound]
  · rcases hwrites.entries name with hkept | ⟨found, hfound, part, hpart, hnamed, -⟩
    · exact hkept
    · rw [hdirectory] at hfound
      exact absurd (Except.ok.inj hfound ▸ hnamed) (hname part hpart)

/-- What `writeBatch` does with parts of different files (`IsBatch`) in a directory in which each of
them has a file or none, provided that digests tell the texts from the contents of these files
(`Distinguishes`). Each part is created if it had no file, left unchanged if its file held its text,
and updated otherwise (`outcomeOf`). Afterwards the files hold the texts, and every other name
stands for what it stood for. Another order of the parts leaves the same, and a second writing
leaves every part unchanged and writes nothing. Workspaces have no links (`Entry`), so that
different names are different files. -/
theorem writeBatch_exact (hdirectory : space.directoryAt output = .ok directory)
    (hbatch : IsBatch parts)
    (hreadable : ∀ part ∈ parts, ∀ error,
      space.read (partPath output part) = .error error → error = .notFound)
    (hdistinguishes : space.Distinguishes output parts) :
    let after := (space.writeBatch output parts).2
    (space.writeBatch output parts).1
        = .ok (parts.map fun part => some (partPath output part, space.outcomeOf output part)) ∧
      (∀ part ∈ parts,
        (space.outcomeOf output part = .created ↔
          space.read (partPath output part) = .error .notFound) ∧
        (space.outcomeOf output part = .unchanged ↔
          space.read (partPath output part) = .ok part.text.toUTF8)) ∧
      (∀ part ∈ parts, after.read (partPath output part) = .ok part.text.toUTF8) ∧
      HoldsBatch directory parts space after ∧
      (∀ others : List Part, others.Perm parts →
        SameEntries after (space.writeBatch output others).2) ∧
      after.writeBatch output parts
        = (.ok (parts.map fun part => some (partPath output part, .unchanged)), after) := by
  intro after
  -- each part finds its file or none, so that it can be written
  have hawaits : ∀ part ∈ parts, space.Awaits output part := fun part hpart =>
    awaits_of_read (hbatch.isStepName part hpart) hdirectory (hreadable part hpart)
  have hdistinct := (distinguishes_iff_of_isBatch hbatch).mp hdistinguishes
  have hwritten := fst_writeBatch hbatch hawaits
  obtain ⟨hholds, hread⟩ := holdsBatch_writeBatch hdirectory hbatch hdistinguishes hwritten
  refine ⟨hwritten, fun part hpart => ⟨(hawaits part hpart).outcomeOf_eq_created_iff,
    outcomeOf_eq_unchanged_iff (hbatch.digest part hpart) (hdistinct part hpart)⟩, hread, hholds,
    fun others hperm => ?_, writeBatch_eq_self hbatch.digest hread⟩
  -- in another order the parts are the same, so all that was assumed of them holds as well
  have hother : IsBatch others := hbatch.perm hperm
  have hwrittenOther := fst_writeBatch hother fun part hpart =>
    hawaits part (hperm.mem_iff.mp hpart)
  have hdistinguishesOther := (distinguishes_iff_of_isBatch hother).mpr fun part hpart =>
    hdistinct part (hperm.mem_iff.mp hpart)
  exact hholds.sameEntries hperm
    (holdsBatch_writeBatch hdirectory hother hdistinguishesOther hwrittenOther).1

/-- A workspace with a directory `Generated` of three files. -/
def drafts : Workspace :=
  ⟨⟨[(["Generated"], .directory), (["Generated", "A"], .file "old".toUTF8),
    (["Generated", "B"], .file "same".toUTF8), (["Generated", "notes"], .file "kept".toUTF8)]⟩, []⟩

/-- Three parts for the directory of `drafts`, of which one is there with another text, one with the
same text, and one not at all. -/
def draftParts : List Part := [.ofText "A" "new", .ofText "B" "same", .ofText "C" "more"]

theorem isBatch_draftParts : IsBatch draftParts := by
  refine ⟨?_, by decide, ?_⟩
  · simp only [draftParts, List.forall_mem_cons]
    refine ⟨⟨by decide, by decide, by decide, by decide⟩, ⟨by decide, by decide, by decide,
      by decide⟩, ⟨by decide, by decide, by decide, by decide⟩, by simp⟩
  · simp [draftParts, Part.ofText]

/-- What is read of the files of `draftParts` in `drafts`. -/
theorem read_drafts : draftParts.map (fun part => drafts.read (partPath ⟨"Generated"⟩ part))
    = [.ok "old".toUTF8, .ok "same".toUTF8, .error .notFound] := by
  decide +kernel

theorem readable_drafts : ∀ part ∈ draftParts, ∀ error,
    drafts.read (partPath ⟨"Generated"⟩ part) = .error error → error = .notFound := by
  have hread := read_drafts
  simp only [draftParts, List.map_cons, List.map_nil, List.cons.injEq, and_true] at hread
  obtain ⟨hold, hsame, hnone⟩ := hread
  simp [draftParts, hold, hsame, hnone]

theorem distinguishes_drafts : drafts.Distinguishes ⟨"Generated"⟩ draftParts := by
  have hdigest : Digest.ofBytes "old".toUTF8 ≠ Digest.ofText "new" := by decide +kernel
  have hread := read_drafts
  simp only [draftParts, List.map_cons, List.map_nil, List.cons.injEq, and_true] at hread
  obtain ⟨hold, hsame, hnone⟩ := hread
  rw [distinguishes_iff_of_isBatch isBatch_draftParts]
  simp only [draftParts, List.forall_mem_cons, hold, hsame, hnone, Except.ok.injEq]
  refine ⟨?_, ?_, nofun, by simp⟩
  · rintro content rfl hequal
    exact absurd hequal hdigest
  · rintro content rfl -
    rfl

/-- The three `draftParts` are updated, left unchanged and created, and a second writing leaves them
all unchanged. -/
theorem writeBatch_exact_drafts :
    let after := (drafts.writeBatch ⟨"Generated"⟩ draftParts).2
    drafts.directoryAt ⟨"Generated"⟩ = .ok ["Generated"] ∧ IsBatch draftParts ∧
      (∀ part ∈ draftParts, ∀ error,
        drafts.read (partPath ⟨"Generated"⟩ part) = .error error → error = .notFound) ∧
      drafts.Distinguishes ⟨"Generated"⟩ draftParts ∧
      (drafts.writeBatch ⟨"Generated"⟩ draftParts).1
        = .ok [some (⟨"Generated/A"⟩, .updated), some (⟨"Generated/B"⟩, .unchanged),
          some (⟨"Generated/C"⟩, .created)] ∧
      HoldsBatch ["Generated"] draftParts drafts after ∧
      after.writeBatch ⟨"Generated"⟩ draftParts
        = (.ok [some (⟨"Generated/A"⟩, .unchanged), some (⟨"Generated/B"⟩, .unchanged),
          some (⟨"Generated/C"⟩, .unchanged)], after) := by
  intro after
  have hdirectory : drafts.directoryAt ⟨"Generated"⟩ = .ok ["Generated"] := by decide +kernel
  have hdone : (draftParts.map fun part =>
        some (partPath ⟨"Generated"⟩ part, drafts.outcomeOf ⟨"Generated"⟩ part))
      = [some (⟨"Generated/A"⟩, .updated), some (⟨"Generated/B"⟩, .unchanged),
          some (⟨"Generated/C"⟩, .created)] := by
    decide +kernel
  have hkept : (draftParts.map fun part =>
        some (partPath ⟨"Generated"⟩ part, WriteOutcome.unchanged))
      = [some (⟨"Generated/A"⟩, .unchanged), some (⟨"Generated/B"⟩, .unchanged),
          some (⟨"Generated/C"⟩, .unchanged)] := by
    decide +kernel
  obtain ⟨hwritten, -, -, hholds, -, hagain⟩ :=
    writeBatch_exact hdirectory isBatch_draftParts readable_drafts distinguishes_drafts
  exact ⟨hdirectory, isBatch_draftParts, readable_drafts, distinguishes_drafts, hdone ▸ hwritten,
    hholds, hkept ▸ hagain⟩

end Workspace

end Companion
