import Companion.Proofs.FileStem
import Companion.Proofs.Writing

/-! # Where the files of a run are

The name of a part's file is a stem of name characters, dots and an arity mark, followed by the
configured suffix. If the identity of the declaration and the suffix were checked, then it is the
name of an entry (`Declaration.isEntryName_hintNameOf`), so that no part is written anywhere but in
the output directory: `Workspace.run_generate_contained`. -/

namespace Companion

open Identifier

/-! ## Names of entries -/

namespace TypeName

/-- The mark `aritySuffix` of a number of type arguments holds a backtick and digits only. -/
theorem not_mem_aritySuffix {c : Char} (hmark : c ≠ '`') (hdigit : c.isDigit = false)
    (count : Nat) : c ∉ aritySuffix count := by
  have hdigits : c ∉ Nat.toDigits 10 count := by
    intro hmem
    rw [Nat.isDigit_of_mem_toDigits (by decide) (by decide) hmem] at hdigit
    cases hdigit
  rw [aritySuffix]
  split
  · simp
  · simpa [arityMark] using ⟨hmark, hdigits⟩

end TypeName

namespace Config

/-- A suffix that `isFileSuffix` accepts is not empty and has no separators. -/
theorem isFileSuffix_iff {suffix : String} :
    isFileSuffix suffix = true
      ↔ suffix.toList ≠ [] ∧ '/' ∉ suffix.toList ∧ '\\' ∉ suffix.toList := by
  rw [isFileSuffix, Bool.and_eq_true, List.all_eq_true]
  constructor
  · rintro ⟨hempty, hall⟩
    exact ⟨by simpa using hempty, fun hmem => by simpa using hall _ hmem,
      fun hmem => by simpa using hall _ hmem⟩
  · rintro ⟨hempty, hslash, hbackslash⟩
    refine ⟨by simpa using hempty, fun c hc => ?_⟩
    have hone : c ≠ '/' := fun heq => hslash (heq ▸ hc)
    have htwo : c ≠ '\\' := fun heq => hbackslash (heq ▸ hc)
    simp [hone, htwo]

end Config

namespace Declaration

variable {declaration : Declaration}

/-- The only `delimiters` in the stem `TypeName.fileStem` of a qualified name are dots and the
backtick of an arity mark. -/
theorem IsNamed.not_mem_fileStem (hnamed : declaration.IsNamed) {c : Char} (hc : c ∈ delimiters)
    (hdot : c ≠ '.') (hmark : c ≠ '`') :
    c ∉ (TypeName.fileStem declaration.qualifiedName).toList := by
  have hdigits : delimiters.all (fun c => !c.isDigit) = true := by decide
  have hdigit : c.isDigit = false := by simpa using List.all_eq_true.mp hdigits c hc
  rw [TypeName.toList_fileStem, toList_qualifiedName, hnamed.fileStemChars_qualifiedChars,
    List.mem_append, not_or]
  exact ⟨hnamed.not_mem_dottedChars hc hdot, TypeName.not_mem_aritySuffix hmark hdigit _⟩

/-- The stem `TypeName.fileStem` of a qualified name is not empty. -/
theorem IsNamed.fileStem_ne_empty (hnamed : declaration.IsNamed) :
    (TypeName.fileStem declaration.qualifiedName).toList ≠ [] := by
  rw [TypeName.toList_fileStem, toList_qualifiedName, hnamed.fileStemChars_qualifiedChars,
    dottedChars]
  have hname := isIdentifierChars_ne_nil hnamed.name
  split <;> simp [hname]

/-- The name `Part.hintNameOf` of a file is a stem and the suffix with a dot between them. -/
theorem toList_hintNameOf (emit : EmitOptions) (declaration : Declaration) :
    (Part.hintNameOf emit declaration).toList
      = (TypeName.fileStem declaration.qualifiedName).toList ++ '.' :: emit.fileSuffix.toList := by
  simp [Part.hintNameOf]

/-- Another delimiter stands in `Part.hintNameOf` only if the suffix brings it in. -/
theorem IsNamed.not_mem_hintNameOf (hnamed : declaration.IsNamed) {emit : EmitOptions} {c : Char}
    (hc : c ∈ delimiters) (hdot : c ≠ '.') (hmark : c ≠ '`')
    (hsuffix : c ∉ emit.fileSuffix.toList) :
    c ∉ (Part.hintNameOf emit declaration).toList := by
  rw [toList_hintNameOf, List.mem_append, List.mem_cons, not_or, not_or]
  exact ⟨hnamed.not_mem_fileStem hc hdot hmark, hdot, hsuffix⟩

/-- The name `Part.hintNameOf` of a file is that of an entry, if `checkIdentity` and `isFileSuffix`
accepted names and suffix. -/
theorem isEntryName_hintNameOf {emit : EmitOptions}
    (hidentity : declaration.checkIdentity = .ok ())
    (hsuffix : Config.isFileSuffix emit.fileSuffix = true) :
    IsEntryName (Part.hintNameOf emit declaration) := by
  have hnamed := isNamed_of_checkIdentity hidentity
  obtain ⟨hnonempty, hslash, hbackslash⟩ := Config.isFileSuffix_iff.mp hsuffix
  -- there is something before the dot and something after it, so it is none of the dots alone
  have hlength : 3 ≤ (Part.hintNameOf emit declaration).toList.length := by
    have hstem := List.length_pos_iff.mpr hnamed.fileStem_ne_empty
    have hend := List.length_pos_iff.mpr hnonempty
    rw [toList_hintNameOf, List.length_append, List.length_cons]
    omega
  have hlong {other : String} (hother : other.toList.length < 3) :
      Part.hintNameOf emit declaration ≠ other := by
    rintro rfl
    omega
  exact {
    ne_empty := hlong (by decide)
    ne_dot := hlong (by decide)
    ne_dotdot := hlong (by decide)
    slash_not_mem := hnamed.not_mem_hintNameOf (by decide) (by decide) (by decide) hslash
    backslash_not_mem :=
      hnamed.not_mem_hintNameOf (by decide) (by decide) (by decide) hbackslash }

end Declaration

/-- Under a valid configuration the name of every part of `Config.run` is that of an entry. -/
theorem Config.Valid.isEntryName_hintName {config : Config} (hvalid : config.Valid)
    {declaration : Declaration} {part : Part} (hpart : (config.run declaration).part = some part) :
    IsEntryName part.hintName := by
  obtain ⟨descriptors, hplans, rfl⟩ := generate_eq_part_iff.mp (part_run_eq_some_iff.mp hpart)
  exact Declaration.isEntryName_hintNameOf hplans.identity hvalid.fileSuffix

namespace Workspace

/-! ## What a run changes -/

/-- A part is among the `generatedParts` of a run exactly if it is the part of `Config.run` for a
declaration that the run reads. -/
theorem mem_generatedParts_iff {space : Workspace} {settings : Settings} {input : Path}
    {part : Part} :
    part ∈ space.generatedParts settings input ↔
      ∃ config declarations, space.batch settings input = .ok (config, declarations) ∧
        ∃ declaration ∈ declarations, (config.run declaration).part = some part := by
  rw [generatedParts]
  cases space.batch settings input with
  | error fault => simp
  | ok found =>
    obtain ⟨config, declarations⟩ := found
    simp [Config.runAll, List.mem_filterMap]

/-- The names of the `generatedParts` of a run are those of entries. The configuration that a run
reads is valid, so nothing is assumed of it. -/
theorem isEntryName_of_mem_generatedParts {space : Workspace} {settings : Settings} {input : Path}
    {part : Part} (hpart : part ∈ space.generatedParts settings input) :
    IsEntryName part.hintName := by
  obtain ⟨config, declarations, hbatch, declaration, -, hrun⟩ := mem_generatedParts_iff.mp hpart
  exact (valid_of_batch hbatch).isEntryName_hintName hrun

/-- The writing of all parts with `writeAll` adds directories first, and then changes files of parts
only (`WritesInto`), if the names of the parts are those of entries. -/
theorem exists_writesInto_writeAll (space : Workspace) (options : GenerateOptions)
    (outcomes : List Outcome)
    (hentries : ∀ part ∈ outcomes.filterMap Outcome.part, IsEntryName part.hintName) :
    ∃ between : Workspace,
      (∀ name, between.files.get? name = space.files.get? name ∨
        (space.files.get? name = none ∧ between.files.get? name = some .directory)) ∧
      WritesInto options.output (outcomes.filterMap Outcome.part) between
        (space.writeAll options outcomes).2 := by
  have hprepared := AddsDirectories.createDirectories options.output space
  rcases space.writeAll_cases options outcomes with
    ⟨-, hafter⟩ | ⟨-, error, hstopped⟩ | ⟨-, hsteps⟩
  · rw [hafter]
    exact ⟨space, fun _ => Or.inl rfl, .refl _ _ _⟩
  · -- the directories that were created before the error stay
    rw [hstopped]
    exact ⟨space.prepared options.output, hprepared, .refl _ _ _⟩
  · exact ⟨space.prepared options.output, hprepared,
      hsteps.writesInto fun part hpart => (hentries part hpart).toIsStepName⟩

/-- A run of `generate` changes nothing, or does what `writeAll` does with outcomes whose parts are
the `generatedParts`. -/
theorem run_generate_cases (space : Workspace) (settings : Settings) (options : GenerateOptions) :
    (space.run settings (.generate options)).2 = space ∨
      ∃ outcomes : List Outcome,
        outcomes.filterMap Outcome.part = space.generatedParts settings options.input ∧
          (space.run settings (.generate options)).2 = (space.writeAll options outcomes).2 := by
  have hrun := space.generatingRun_run settings options
  generalize (space.run settings (.generate options)).1.exit = exit at hrun
  generalize (space.run settings (.generate options)).2 = after at hrun ⊢
  -- a run that is stopped has written what came before, like one that is not
  cases hrun with
  | refused hbatch => exact Or.inl rfl
  | stopped hbatch hwrite =>
    exact Or.inr ⟨_, (generatedParts_of_batch hbatch).symm, by rw [hwrite]⟩
  | reported hbatch hwrite =>
    exact Or.inr ⟨_, (generatedParts_of_batch hbatch).symm, by rw [hwrite]⟩

/-- Where a run of `generate` can write, for every workspace, setting and option. The name of every
generated part satisfies `IsEntryName`. Whatever the run creates or changes is either a directory
where there was nothing, or the file of a generated part, which stands in the output directory
itself and holds the text of a part of that name. Workspaces have no links (`Entry`), so that names
that differ are different files. -/
theorem run_generate_contained (space : Workspace) (settings : Settings)
    (options : GenerateOptions) :
    let after := (space.run settings (.generate options)).2
    (∀ part ∈ space.generatedParts settings options.input, IsEntryName part.hintName) ∧
      ∀ name, after.files.get? name = space.files.get? name ∨
        (space.files.get? name = none ∧ after.files.get? name = some .directory) ∨
        ∃ directory, after.directoryAt options.output = .ok directory ∧
          ∃ part ∈ space.generatedParts settings options.input,
            name = directory ++ [part.hintName] ∧
              after.files.get? name = some (.file part.text.toUTF8) := by
  intro after
  have hentries : ∀ part ∈ space.generatedParts settings options.input, IsEntryName part.hintName :=
    fun _ => isEntryName_of_mem_generatedParts
  refine ⟨hentries, fun name => ?_⟩
  rcases space.run_generate_cases settings options with hsame | ⟨outcomes, hparts, hafter⟩
  · exact Or.inl (by rw [show after = space from hsame])
  · -- a name that the writing leaves alone was changed by the creation of directories at most
    obtain ⟨between, hadds, hwrites⟩ :=
      space.exists_writesInto_writeAll options outcomes (hparts ▸ hentries)
    rw [← hafter, hparts] at hwrites
    rcases hwrites.entries name with hkept | ⟨directory, hdirectory, hpart⟩
    · have hname := hadds name
      rw [← hkept] at hname
      exact hname.imp_right Or.inl
    · exact Or.inr (Or.inr ⟨directory, hwrites.directories.directoryAt hdirectory, hpart⟩)

/-- A workspace in which there is one file of the given name, in the current directory. -/
def holding (name text : String) : Workspace := ⟨⟨[([name], .file text.toUTF8)]⟩, []⟩

/-- The settings of a run without options. -/
def plainSettings : Settings := ⟨false, false, .auto, none⟩

/-- The options of a run that writes the parts of an input file into `Generated`. -/
def plainOptions (input : String) : GenerateOptions := ⟨⟨input⟩, ⟨"Generated"⟩, .text, false⟩

/-- The part of a declaration that is read from a file has the name of an entry, as
`run_generate_contained` says. -/
theorem run_generate_contained_sandbox :
    let space := holding "d.json"
      "[\x7b\"name\":\"Sandbox\",\"is_partial\":true,\"ancestry\":[\"MonoBehaviour\"]\x7d]"
    (space.generatedParts plainSettings ⟨"d.json"⟩).map (·.hintName)
        = ["Sandbox.ComponentCache.g.cs"] ∧
      IsEntryName "Sandbox.ComponentCache.g.cs" := by
  intro space
  have hnames : (space.generatedParts plainSettings ⟨"d.json"⟩).map (·.hintName)
      = ["Sandbox.ComponentCache.g.cs"] := by
    decide +kernel
  obtain ⟨part, hpart, hname⟩ := List.mem_map.mp (hnames ▸ List.mem_singleton_self _)
  exact ⟨hnames,
    hname ▸ (run_generate_contained space plainSettings (plainOptions "d.json")).1 part hpart⟩

end Workspace

end Companion
