import Companion.Proofs.Containment

/-! # What the files of a run hold

Parts are written one after the other, so that of several parts of one name the last one stays
(`Part.IsLastNamed`). A part is not written over a content of its own digest; `Workspace.Compares`
has the contents with which parts are compared, and `Workspace.Distinguishes` says that digests tell
them from the texts of the parts. Under this assumption the file of every part of a run without
errors holds the text of the last part of that name: `Workspace.run_generate_last`. Nothing compares
the declarations of a list with each other, so that this need not be the text of the part itself:
`Workspace.run_generate_lost_pool` has a run on two declarations of one type. -/

namespace Companion

/-! ## The last part of a name -/

/-- A part is the last one of the name `hint` in a list. -/
def Part.IsLastNamed (hint : String) (parts : List Part) (last : Part) : Prop :=
  ∃ front back, parts = front ++ last :: back ∧ last.hintName = hint ∧
    ∀ later ∈ back, later.hintName ≠ hint

namespace Part.IsLastNamed

variable {hint : String} {part last : Part} {parts rest : List Part}

/-- The last part of a name (`IsLastNamed`) stays the last one with another part in front. -/
theorem cons (hlast : IsLastNamed hint rest last) (part : Part) :
    IsLastNamed hint (part :: rest) last := by
  obtain ⟨front, back, rfl, hname, hfree⟩ := hlast
  exact ⟨part :: front, back, rfl, hname, hfree⟩

/-- The first part is the last one of its name (`IsLastNamed`) if no other part has that name. -/
theorem head (hfree : ∀ later ∈ rest, later.hintName ≠ part.hintName) :
    IsLastNamed part.hintName (part :: rest) part :=
  ⟨[], rest, rfl, rfl, hfree⟩

/-- Cons reading of `IsLastNamed`: the last part of a name is the first part of the list, or the
last one of the others. -/
theorem cases_cons (hlast : IsLastNamed hint (part :: rest) last) :
    (last = part ∧ ∀ later ∈ rest, later.hintName ≠ part.hintName) ∨
      IsLastNamed hint rest last := by
  obtain ⟨front, back, hparts, rfl, hfree⟩ := hlast
  cases front with
  | nil =>
    obtain ⟨rfl, rfl⟩ := List.cons.inj hparts
    exact Or.inl ⟨rfl, hfree⟩
  | cons first others =>
    obtain ⟨-, rfl⟩ := List.cons.inj hparts
    exact Or.inr ⟨others, back, rfl, rfl, hfree⟩

/-- Every name that some part has is that of a last part (`IsLastNamed`). -/
theorem exists_of_mem (hpart : part ∈ parts) : ∃ last, IsLastNamed part.hintName parts last := by
  -- the name is kept and the part is not: another one of the name may come later
  have hnamed : ∃ other ∈ parts, other.hintName = part.hintName := ⟨part, hpart, rfl⟩
  generalize part.hintName = hint at hnamed
  clear hpart
  induction parts with
  | nil => simp at hnamed
  | cons first rest ih =>
    by_cases hlater : ∃ later ∈ rest, later.hintName = hint
    · obtain ⟨last, hlast⟩ := ih hlater
      exact ⟨last, hlast.cons first⟩
    · push Not at hlater
      obtain ⟨other, hmem, rfl⟩ := hnamed
      rcases List.mem_cons.mp hmem with rfl | hrest
      · exact ⟨other, head hlater⟩
      · exact absurd rfl (hlater other hrest)

end Part.IsLastNamed

namespace Workspace

open Command Companion.Part

variable {output : Path} {parts rest : List Part} {part : Part} {before after : Workspace}

/-! ## Reading files of parts -/

/-- In workspaces between which `WritesInto` changes only files of other names, the file of a part
is read alike. -/
theorem WritesInto.read_iff (hwrites : WritesInto output parts before after)
    (hentry : IsStepName part.hintName)
    (hother : ∀ written ∈ parts, written.hintName ≠ part.hintName) {content : ByteArray} :
    after.read (partPath output part) = .ok content ↔
      before.read (partPath output part) = .ok content := by
  -- the path leads to the same name before and after, and that is not the name of a written part
  have hkept {name : FileName}
      (hplace : before.locate (partPath output part) = .ok (.entry name false)) :
      after.files.get? name = before.files.get? name := by
    rcases hwrites.entries name with hsame | ⟨directory, -, written, hmem, hname, -⟩
    · exact hsame
    · obtain ⟨found, -, hfound⟩ := exists_directoryAt_of_locate hentry hplace
      rw [hname, List.append_singleton_inj] at hfound
      exact absurd hfound.2 (hother written hmem)
  rw [read_eq_ok_iff, read_eq_ok_iff]
  constructor
  · rintro ⟨name, hplace, hfile⟩
    have hbefore := hwrites.directories.symm.locate hplace
    exact ⟨name, hbefore, hkept hbefore ▸ hfile⟩
  · rintro ⟨name, hplace, hfile⟩
    exact ⟨name, hwrites.directories.locate hplace, (hkept hplace).trans hfile⟩

/-- After `putAt` of a part at its name, its file holds its text. -/
theorem read_putAt {name : FileName}
    (hplace : before.locate (partPath output part) = .ok (.entry name false))
    (hfree : before.files.get? name ≠ some .directory) :
    (before.putAt name (.file part.text.toUTF8)).read (partPath output part)
      = .ok part.text.toUTF8 := by
  have hproper := ne_nil_of_locate hplace
  refine read_eq_ok_iff.mpr ⟨name, (SameDirectories.putAt_file hproper hfree _).locate hplace, ?_⟩
  rw [get?_putAt before _ hproper, if_pos rfl]

/-- After a `WriteStep` of a part, its file holds its text, if digests tell it from the content
before. -/
theorem WriteStep.read_self {done : WriteOutcome}
    (hstep : WriteStep output part before (.ok done) after)
    (hdigest : ∀ content, before.read (partPath output part) = .ok content →
      Digest.ofBytes content = part.digest → content = part.text.toUTF8) :
    after.read (partPath output part) = .ok part.text.toUTF8 := by
  cases hstep with
  | created hplace hnone => exact read_putAt hplace (by simp [hnone])
  | updated hplace hfile hdifferent => exact read_putAt hplace (by simp [hfile])
  | @unchanged name content hplace hfile hsame =>
    have hread : before.read (partPath output part) = .ok content :=
      read_eq_ok_iff.mpr ⟨name, hplace, hfile⟩
    rw [hread, hdigest content hread hsame]

/-! ## Contents that are compared -/

/-- The contents with which `writeParts` compares the parts of a list when they are written one
after the other: of each part, the content that its file then has. -/
inductive Compares (space : Workspace) (output : Path) (parts : List Part) : Part → ByteArray → Prop
  /-- The first part of a name is compared with the content of its file. -/
  | old {front back : List Part} {part : Part} {content : ByteArray}
      (hparts : parts = front ++ part :: back)
      (hfirst : ∀ earlier ∈ front, earlier.hintName ≠ part.hintName)
      (hread : space.read (partPath output part) = .ok content) :
    Compares space output parts part content
  /-- Another part is compared with the text of the one of that name before it. -/
  | written {front back : List Part} {part last : Part} (hparts : parts = front ++ part :: back)
      (hlast : IsLastNamed part.hintName front last) :
    Compares space output parts part last.text.toUTF8

/-- Among the contents that are compared (`Compares`), only the text of a part has the digest of
that text. -/
def Distinguishes (space : Workspace) (output : Path) (parts : List Part) : Prop :=
  ∀ part content, space.Compares output parts part content →
    Digest.ofBytes content = Digest.ofText part.text → content = part.text.toUTF8

/-- After the first part is written (`WriteStep`), the others are compared with nothing else than in
the list from the start on. -/
theorem WriteStep.compares {done : WriteOutcome}
    (hstep : WriteStep output part before (.ok done) after)
    (hentries : ∀ other ∈ part :: rest, IsStepName other.hintName)
    (hself : after.read (partPath output part) = .ok part.text.toUTF8) {other : Part}
    {content : ByteArray} (hcompares : after.Compares output rest other content) :
    before.Compares output (part :: rest) other content := by
  -- the content was there before the rest is written, or is one that the rest writes
  cases hcompares with
  | @old front back _ _ hparts hfirst hread =>
    have hsplit : part :: rest = (part :: front) ++ other :: back := by
      rw [hparts, List.cons_append]
    by_cases hname : part.hintName = other.hintName
    · -- the file is that of the part just written
      have hpath : partPath output other = partPath output part := by
        rw [partPath, partPath, hname]
      rw [hpath, hself, Except.ok.injEq] at hread
      subst hread
      exact .written hsplit (hname ▸ .head fun earlier hmem => hname ▸ hfirst earlier hmem)
    · have hother : IsStepName other.hintName := hentries other (by simp [hparts])
      have hwrites := hstep.writesInto (hentries part (by simp))
      refine .old hsplit ?_ ((hwrites.read_iff hother (by simpa using hname)).mp hread)
      simpa using ⟨hname, hfirst⟩
  | @written front back _ last hparts hlast =>
    have hsplit : part :: rest = (part :: front) ++ other :: back := by
      rw [hparts, List.cons_append]
    exact .written hsplit (hlast.cons part)

/-- After all parts are written (`WriteSteps`), the file of each holds the text of the last part of
that name (`IsLastNamed`). Induction on the steps: what is compared stays among what is compared in
the whole list. -/
theorem WriteSteps.read_last (hsteps : WriteSteps output parts before true after)
    (hentries : ∀ part ∈ parts, IsStepName part.hintName)
    (hdigests : ∀ part ∈ parts, part.digest = .ofText part.text)
    (hdistinguishes : before.Distinguishes output parts) {hint : String} {last : Part}
    (hlast : IsLastNamed hint parts last) :
    after.read (partPath output last) = .ok last.text.toUTF8 := by
  -- by induction on the steps: what is left to write is compared with nothing new, so the
  -- assumption on digests carries over to it
  generalize hcomplete : true = complete at hsteps
  induction hsteps with
  | done =>
    obtain ⟨front, back, hparts, -⟩ := hlast
    simp at hparts
  | stopped hstep => cases hcomplete
  | @next part rest before between after done complete hstep hrest ih =>
    have hself : between.read (partPath output part) = .ok part.text.toUTF8 := by
      refine hstep.read_self fun content hread hdigest => ?_
      rw [hdigests part (by simp)] at hdigest
      have hfirst : part :: rest = [] ++ part :: rest := rfl
      exact hdistinguishes part content (.old hfirst (by simp) hread) hdigest
    rw [List.forall_mem_cons] at hdigests
    rcases hlast.cases_cons with ⟨rfl, hfree⟩ | hlater
    · -- no later part has the name, so the file stays as this step leaves it
      have hwrites := hrest.writesInto fun part hmem => hentries part (List.mem_cons_of_mem _ hmem)
      exact (hwrites.read_iff (hentries last (by simp)) hfree).mpr hself
    · refine ih (fun part hmem => hentries part (List.mem_cons_of_mem _ hmem)) hdigests.2 ?_ hlater
        hcomplete
      exact fun other content hcompares =>
        hdistinguishes other content (hstep.compares hentries hself hcompares)

/-- Digests tell the contents apart (`Distinguishes`) if no part has a file yet and no two texts for
one file have the same digest. -/
theorem distinguishes_of_pairwise {space : Workspace}
    (hfresh : ∀ part ∈ parts, (space.read (partPath output part)).toOption = none)
    (hdigests : parts.Pairwise fun earlier later => earlier.hintName = later.hintName →
      Digest.ofText earlier.text ≠ Digest.ofText later.text) :
    space.Distinguishes output parts := by
  intro part content hcompares hdigest
  cases hcompares with
  | old hparts hfirst hread =>
    have hnone := hfresh part (by simp [hparts])
    rw [hread] at hnone
    cases hnone
  | written hparts hlast =>
    -- two parts of one name, whose texts the assumption tells apart
    obtain ⟨first, between, rfl, hname, -⟩ := hlast
    rw [hparts, List.pairwise_append] at hdigests
    exact absurd hdigest (hdigests.2.2 _ (by simp) part (by simp) hname)

end Workspace

/-! ## Runs without errors -/

namespace Workspace

open Command Companion.Part

variable {space : Workspace} {settings : Settings} {options : GenerateOptions}

/-- Every part among `generatedParts` has the digest of its text. -/
theorem digest_of_mem_generatedParts {input : Path} {part : Part}
    (hpart : part ∈ space.generatedParts settings input) : part.digest = .ofText part.text := by
  obtain ⟨config, declarations, -, declaration, -, hrun⟩ := mem_generatedParts_iff.mp hpart
  obtain ⟨descriptors, -, rfl⟩ :=
    Config.generate_eq_part_iff.mp (Config.part_run_eq_some_iff.mp hrun)
  rfl

/-- A run of `generate` without errors reads declarations all of which have a part, and writes all
parts (`WriteSteps`). -/
theorem writeSteps_of_exit (hdry : options.dryRun = false)
    (hexit : (space.run settings (.generate options)).1.exit = 0) :
    (∃ config declarations, space.batch settings options.input = .ok (config, declarations) ∧
        ∀ declaration ∈ declarations, ∃ part, (config.run declaration).part = some part) ∧
      WriteSteps options.output (space.generatedParts settings options.input)
        (space.prepared options.output) true (space.run settings (.generate options)).2 := by
  have hrun := space.generatingRun_run settings options
  generalize (space.run settings (.generate options)).1.exit = exit at hexit hrun
  generalize (space.run settings (.generate options)).2 = after at hrun ⊢
  cases hrun with
  | refused hbatch => cases hexit
  | stopped hbatch hwrite => cases hexit
  | @reported config declarations written after hbatch hwrite =>
    rw [Finding.exitCode_tally_eq_zero_iff] at hexit
    refine ⟨⟨config, declarations, hbatch, fun declaration hmem => ?_⟩, ?_⟩
    · exact Config.findingOf_run_iff.mp (hexit _ (by simpa [Config.runAll] using ⟨_, hmem, rfl⟩))
    · -- of the ways in which the writing can go, only the last one is left
      rcases space.writeAll_cases options (config.runAll declarations) with
        ⟨hyes, -⟩ | ⟨-, error, hstopped⟩ | ⟨-, hsteps⟩
      · rw [hdry] at hyes
        cases hyes
      · rw [hwrite] at hstopped
        cases hstopped
      · rw [hwrite] at hsteps
        rw [generatedParts_of_batch hbatch]
        exact hsteps

/-- After a run of `generate` without errors, the file of each part holds the text of the last part
of that name (`IsLastNamed`). -/
theorem read_last_of_exit (hdry : options.dryRun = false)
    (hexit : (space.run settings (.generate options)).1.exit = 0)
    (hdistinguishes : (space.prepared options.output).Distinguishes options.output
      (space.generatedParts settings options.input)) {hint : String} {last : Part}
    (hlast : IsLastNamed hint (space.generatedParts settings options.input) last) :
    (space.run settings (.generate options)).2.read (partPath options.output last)
      = .ok last.text.toUTF8 :=
  (writeSteps_of_exit hdry hexit).2.read_last
    (fun _ hpart => (isEntryName_of_mem_generatedParts hpart).toIsStepName)
    (fun _ => digest_of_mem_generatedParts) hdistinguishes hlast

end Workspace

/-! ## Two types of one name -/

namespace Declaration

/-- A generic type `Pool` with one type parameter of the given name. -/
def poolOf (parameter : String) : Declaration :=
  (((named "Pool").withTypeParameter parameter).asPartial).inherits "MonoBehaviour"

/-- Whether a declaration has no attributes and is otherwise the `given` one, decided field by
field. -/
def isBare (declaration given : Declaration) : Bool :=
  declaration.name == given.name && declaration.namespaceName == given.namespaceName &&
    declaration.typeParameters == given.typeParameters &&
    declaration.isPartial == given.isPartial && declaration.ancestry == given.ancestry &&
    declaration.members == given.members && declaration.attributes.isEmpty &&
    declaration.location == given.location

theorem eq_of_isBare {declaration given : Declaration} (hbare : isBare declaration given = true)
    (hnone : given.attributes = []) : declaration = given := by
  simp only [isBare, Bool.and_eq_true, beq_iff_eq, List.isEmpty_iff] at hbare
  obtain ⟨⟨⟨⟨⟨⟨⟨hname, hspace⟩, hparameters⟩, hpartial⟩, hancestry⟩, hmembers⟩, hattributes⟩,
    hlocation⟩ := hbare
  rw [← hnone] at hattributes
  cases declaration
  cases given
  congr

/-- Declarations are equal in turn to given ones without attributes if they `isBare` so. -/
theorem eq_of_isEqv_isBare {declarations given : List Declaration}
    (hbare : declarations.isEqv given isBare = true)
    (hnone : ∀ declaration ∈ given, declaration.attributes = []) : declarations = given := by
  induction declarations generalizing given with
  | nil =>
    cases given with
    | nil => rfl
    | cons other rest => cases hbare
  | cons declaration others ih =>
    cases given with
    | nil => cases hbare
    | cons other rest =>
      rw [List.isEqv_cons_cons, Bool.and_eq_true] at hbare
      rw [List.forall_mem_cons] at hnone
      rw [eq_of_isBare hbare.1 hnone.1, ih hbare.2 hnone.2]

end Declaration

namespace Workspace

open Command Companion.Part Declaration

/-- The part of the type `poolOf` a type parameter. -/
def poolPart (parameter : String) : Part :=
  .ofPlan .standard (poolOf parameter) (Plan.ofDescriptors [])

/-- A workspace with a list of `poolOf "T"` and `poolOf "U"`, which differ in the name of the type
parameter only. -/
def pools : Workspace :=
  holding "d.json"
    ("[\x7b\"name\":\"Pool\",\"type_parameters\":[\"T\"],"
      ++ "\"is_partial\":true,\"ancestry\":[\"MonoBehaviour\"]\x7d,"
      ++ "\x7b\"name\":\"Pool\",\"type_parameters\":[\"U\"],"
      ++ "\"is_partial\":true,\"ancestry\":[\"MonoBehaviour\"]\x7d]")

/-- The run on `pools` works on the two types, under the standard configuration. -/
theorem batch_pools :
    pools.batch plainSettings ⟨"d.json"⟩ = .ok (.standard, [poolOf "T", poolOf "U"]) := by
  -- attributes cannot be compared by evaluation, but the two types have none
  have hread : ((pools.batch plainSettings ⟨"d.json"⟩).toOption.any fun found =>
      found.1 == .standard && found.2.isEqv [poolOf "T", poolOf "U"] isBare) = true := by
    decide +kernel
  cases hbatch : pools.batch plainSettings ⟨"d.json"⟩ with
  | error fault => simp [hbatch, Except.toOption] at hread
  | ok found =>
    obtain ⟨config, declarations⟩ := found
    simp only [hbatch, Except.toOption, Option.any_some, Bool.and_eq_true, beq_iff_eq] at hread
    obtain ⟨rfl, hbare⟩ := hread
    rw [eq_of_isEqv_isBare hbare (by simp [poolOf, inherits, asPartial, withTypeParameter, named])]

theorem part_run_poolOf {parameter : String}
    (hidentity : (poolOf parameter).checkIdentity = .ok ()) :
    (Config.standard.run (poolOf parameter)).part = some (poolPart parameter) := by
  have hbase : Config.standard.HasBase (poolOf parameter) :=
    ⟨"MonoBehaviour", List.mem_singleton_self _, by decide +kernel⟩
  refine Config.part_run_eq_some_iff.mpr (Config.generate_eq_part_iff.mpr ⟨[], ?_, rfl⟩)
  exact ⟨hidentity, Config.reports_eq_nil_iff.mpr ⟨rfl, hbase⟩, .nil, rfl⟩

/-- The run on `pools` generates the parts of the two types. -/
theorem generatedParts_pools :
    pools.generatedParts plainSettings ⟨"d.json"⟩ = [poolPart "T", poolPart "U"] := by
  have hfirst : (poolOf "T").checkIdentity = .ok () := by decide +kernel
  have hsecond : (poolOf "U").checkIdentity = .ok () := by decide +kernel
  rw [generatedParts_of_batch batch_pools]
  simp [Config.runAll, part_run_poolOf hfirst, part_run_poolOf hsecond]

/-- The two parts `poolPart` have one file, in any directory. -/
theorem partPath_poolPart (output : Path) :
    partPath output (poolPart "T") = partPath output (poolPart "U") := by
  have hname : (poolPart "T").hintName = (poolPart "U").hintName := by decide +kernel
  rw [partPath, partPath, hname]

/-- The texts of the two parts `poolPart` have different digests. -/
theorem digest_poolPart :
    Digest.ofText (poolPart "T").text ≠ Digest.ofText (poolPart "U").text := by
  decide +kernel

/-- The run on `pools` has no error. -/
theorem exit_pools : (pools.run plainSettings (.generate (plainOptions "d.json"))).1.exit = 0 := by
  have hwrite : (pools.writeAll (plainOptions "d.json")
      (Config.standard.runAll [poolOf "T", poolOf "U"])).1.isOk = true := by
    decide +kernel
  rw [exit_run_generate batch_pools hwrite]
  decide +kernel

/-- In the run on `pools`, digests tell apart the contents that are compared. -/
theorem distinguishes_pools :
    (pools.prepared ⟨"Generated"⟩).Distinguishes ⟨"Generated"⟩
      (pools.generatedParts plainSettings ⟨"d.json"⟩) := by
  have hfresh : ((pools.prepared ⟨"Generated"⟩).read
      (partPath ⟨"Generated"⟩ (poolPart "U"))).toOption.isNone = true := by
    decide +kernel
  rw [generatedParts_pools]
  refine distinguishes_of_pairwise (fun part hpart => ?_)
    (List.pairwise_pair.mpr fun _ => digest_poolPart)
  have hpath : partPath ⟨"Generated"⟩ part = partPath ⟨"Generated"⟩ (poolPart "U") := by
    rcases List.mem_pair.mp hpart with rfl | rfl
    · exact partPath_poolPart _
    · rfl
  rw [hpath]
  exact Option.isNone_iff_eq_none.mp hfresh

/-! ## The files of a run -/

variable {space : Workspace} {settings : Settings} {options : GenerateOptions}

/-- After a run of `generate` without errors that is no dry run, every declaration has a part, and
its file holds the text of the last part of that name (`IsLastNamed`), if digests tell apart the
contents that are compared (`Distinguishes`). Of two parts of one name the earlier one is therefore
lost. -/
theorem run_generate_last (hdry : options.dryRun = false)
    (hexit : (space.run settings (.generate options)).1.exit = 0)
    (hdistinguishes : (space.prepared options.output).Distinguishes options.output
      (space.generatedParts settings options.input)) :
    ∃ config declarations, space.batch settings options.input = .ok (config, declarations) ∧
      ∀ declaration ∈ declarations, ∃ part last, (config.run declaration).part = some part ∧
        IsLastNamed part.hintName (space.generatedParts settings options.input) last ∧
        (space.run settings (.generate options)).2.read (partPath options.output part)
          = .ok last.text.toUTF8 := by
  obtain ⟨⟨config, declarations, hbatch, hall⟩, -⟩ := writeSteps_of_exit hdry hexit
  refine ⟨config, declarations, hbatch, fun declaration hmem => ?_⟩
  obtain ⟨part, hpart⟩ := hall declaration hmem
  have hgenerated : part ∈ space.generatedParts settings options.input :=
    mem_generatedParts_iff.mpr ⟨config, declarations, hbatch, declaration, hmem, hpart⟩
  obtain ⟨last, hlast⟩ := IsLastNamed.exists_of_mem hgenerated
  have hpath : partPath options.output part = partPath options.output last := by
    obtain ⟨front, back, -, hname, -⟩ := hlast
    rw [partPath, partPath, hname]
  have hread := read_last_of_exit hdry hexit hdistinguishes hlast
  rw [← hpath] at hread
  exact ⟨part, last, hpart, hlast, hread⟩

/-- The run on `pools` has no error, and the file of both types holds the text of the last part of
their name. -/
theorem run_generate_last_pools :
    (plainOptions "d.json").dryRun = false ∧
      (pools.run plainSettings (.generate (plainOptions "d.json"))).1.exit = 0 ∧
      ∃ config declarations, pools.batch plainSettings ⟨"d.json"⟩ = .ok (config, declarations) ∧
        ∀ declaration ∈ declarations, ∃ part last, (config.run declaration).part = some part ∧
          IsLastNamed part.hintName (pools.generatedParts plainSettings ⟨"d.json"⟩) last ∧
          (pools.run plainSettings (.generate (plainOptions "d.json"))).2.read
            (partPath ⟨"Generated"⟩ part) = .ok last.text.toUTF8 :=
  ⟨rfl, exit_pools, run_generate_last rfl exit_pools distinguishes_pools⟩

/-- The run on `pools` has no error, and the file of the first part does not hold its text. -/
theorem run_generate_lost_pool :
    (pools.run plainSettings (.generate (plainOptions "d.json"))).1.exit = 0 ∧
      (pools.prepared ⟨"Generated"⟩).Distinguishes ⟨"Generated"⟩
        (pools.generatedParts plainSettings ⟨"d.json"⟩) ∧
      ∃ config declarations, pools.batch plainSettings ⟨"d.json"⟩ = .ok (config, declarations) ∧
        ∃ declaration ∈ declarations, ∃ part, (config.run declaration).part = some part ∧
          (pools.run plainSettings (.generate (plainOptions "d.json"))).2.read
            (partPath ⟨"Generated"⟩ part) ≠ .ok part.text.toUTF8 := by
  refine ⟨exit_pools, distinguishes_pools, .standard, _, batch_pools, poolOf "T", by simp,
    poolPart "T", part_run_poolOf (by decide +kernel), ?_⟩
  have hlast : IsLastNamed (poolPart "U").hintName
      (pools.generatedParts plainSettings ⟨"d.json"⟩) (poolPart "U") := by
    rw [generatedParts_pools]
    exact (IsLastNamed.head (by simp)).cons (poolPart "T")
  have hread : (pools.run plainSettings (.generate (plainOptions "d.json"))).2.read
      (partPath ⟨"Generated"⟩ (poolPart "U")) = .ok (poolPart "U").text.toUTF8 :=
    read_last_of_exit rfl exit_pools distinguishes_pools hlast
  intro hfirst
  rw [partPath_poolPart] at hfirst
  have htexts : (poolPart "T").text.toUTF8 = (poolPart "U").text.toUTF8 :=
    Except.ok.inj (hfirst.symm.trans hread)
  exact digest_poolPart (by rw [Digest.ofText, Digest.ofText, htexts])

end Workspace

end Companion
