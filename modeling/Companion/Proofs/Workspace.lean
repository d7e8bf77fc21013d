import Companion.FileSystem
import Mathlib.Data.List.Basic

/-! # Where paths lead

`Workspace.directoryAt` is the directory that a path leads to; a path joined from a path and the
name of an entry leads to that entry of this directory (`Workspace.exists_directoryAt_of_locate`).
Where paths lead depends on the directories of a workspace and not on its files: putting a file
where no directory is keeps `SameDirectories`, and then every path leads where it led before
(`SameDirectories.locate`). For each operation on files one lemma says when it succeeds and what it
does then. -/

namespace Companion

/-- A text that is one step of a path, and names neither the directory itself nor the one above. -/
structure IsStepName (name : String) : Prop where
  /-- There is a name. -/
  ne_empty : name ≠ ""
  /-- It is not that of the directory itself. -/
  ne_dot : name ≠ "."
  /-- It is not that of the directory above. -/
  ne_dotdot : name ≠ ".."
  /-- It has one step. -/
  slash_not_mem : '/' ∉ name.toList

/-- A text that names an entry of a directory and nothing else, also where backslashes separate
steps: an `IsStepName` without backslashes. -/
structure IsEntryName (name : String) : Prop extends IsStepName name where
  /-- It has one step also where backslashes separate steps. -/
  backslash_not_mem : '\\' ∉ name.toList

namespace Path

/-- The pieces of a text that are followed as steps: those between slashes, without the empty ones.
-/
def namesOf (text : List Char) : List String :=
  ((text.splitOn '/').filter fun piece => !piece.isEmpty).map String.ofList

/-- The pieces of a path that are followed, as `namesOf` cuts its text. -/
def names (path : Path) : List String := namesOf path.text.toList

@[simp] theorem namesOf_nil : namesOf [] = [] := rfl

theorem namesOf_append_slash (front back : List Char) :
    namesOf (front ++ '/' :: back) = namesOf front ++ namesOf back := by
  rw [namesOf, List.splitOn_append_cons_self, List.filter_append, List.map_append]
  rfl

theorem namesOf_step {name : String} (hname : IsStepName name) :
    namesOf name.toList = [name] := by
  have hpiece : name.toList.isEmpty = false := by simpa using hname.ne_empty
  rw [namesOf, List.splitOn_eq_singleton hname.slash_not_mem]
  simp [hpiece]

/-- A path is absolute exactly if it starts with a slash. -/
theorem isAbsolute_iff {path : Path} :
    path.isAbsolute = true ↔ path.text.toList.head? = some '/' := by
  rw [isAbsolute, anchor, pieces]
  cases path.text.toList with
  | nil => simp [splitAnchor]
  | cons first rest =>
    obtain ⟨piece, others, hrest⟩ := List.exists_cons_of_ne_nil (List.splitOn_ne_nil '/' rest)
    rw [List.splitOn_cons_eq_if_modifyHead, hrest]
    by_cases hslash : first = '/'
    · simp [hslash, splitAnchor]
    · -- without a slash in front, the first piece is not empty, so the path is not rooted
      have hanchor : (splitAnchor ((first :: piece) :: others)).1 ≠ .root := by
        rw [splitAnchor.eq_def]
        split <;> simp_all
      simpa [hslash] using hanchor

/-- The ways in which `Path.join` adds a step: to the empty path, after a slash, or with a slash of
its own. -/
theorem join_cases (base : Path) {name : String} (hname : IsStepName name) :
    (base.text.toList = [] ∧ (base.join ⟨name⟩).text.toList = name.toList) ∨
      (∃ front, base.text.toList = front ++ ['/'] ∧
        (base.join ⟨name⟩).text.toList = front ++ '/' :: name.toList) ∨
      (base.text.toList ≠ [] ∧
        (base.join ⟨name⟩).text.toList = base.text.toList ++ '/' :: name.toList) := by
  -- a step is never absolute, so joining it does not replace the path
  have hrelative : (Path.mk name).isAbsolute = false := by
    rw [Bool.eq_false_iff, ne_eq, isAbsolute_iff]
    exact fun hslash => hname.slash_not_mem (List.mem_of_mem_head? hslash)
  rw [join, hrelative, Bool.false_or]
  by_cases hempty : base.text = ""
  · simp [hempty]
  · rw [if_neg (by simpa using hempty)]
    by_cases hslash : base.text.toList.getLast? = some '/'
    · obtain ⟨front, hfront⟩ := List.getLast?_eq_some_iff.mp hslash
      rw [if_pos hslash]
      exact Or.inr (Or.inl ⟨front, hfront, by simp [hfront]⟩)
    · rw [if_neg hslash]
      exact Or.inr (Or.inr ⟨by simpa using hempty, by simp⟩)

/-- The `names` of a path to an entry are those of the path to its directory and its name. -/
theorem names_join (base : Path) {name : String} (hname : IsStepName name) :
    (base.join ⟨name⟩).names = base.names ++ [name] := by
  rw [names, names]
  rcases join_cases base hname with ⟨hbase, hjoin⟩ | ⟨front, hbase, hjoin⟩ | ⟨-, hjoin⟩
  · rw [hjoin, hbase, namesOf_step hname, namesOf_nil, List.nil_append]
  · rw [hjoin, hbase, namesOf_append_slash, namesOf_append_slash, namesOf_step hname, namesOf_nil,
      List.append_nil]
  · rw [hjoin, namesOf_append_slash, namesOf_step hname]

/-- A path to an entry starts where the path to its directory does. -/
theorem isAbsolute_join (base : Path) {name : String} (hname : IsStepName name) :
    (base.join ⟨name⟩).isAbsolute = base.isAbsolute := by
  rw [Bool.eq_iff_iff, isAbsolute_iff, isAbsolute_iff]
  rcases join_cases base hname with ⟨hbase, hjoin⟩ | ⟨front, hbase, hjoin⟩ | ⟨hbase, hjoin⟩
  · rw [hjoin, hbase]
    simpa using fun hslash => hname.slash_not_mem (List.mem_of_mem_head? hslash)
  · rw [hjoin, hbase]
    cases front <;> simp
  · rw [hjoin]
    cases htext : base.text.toList with
    | nil => exact absurd htext hbase
    | cons first rest => simp

end Path

namespace FileSystem

/-- What `nameBelow` gives for a directory is the directory with one more step. -/
theorem nameBelow_eq_ok {directory name : FileName} {step : String}
    (hname : nameBelow directory step = .ok name) : name = directory ++ [step] := by
  rw [nameBelow] at hname
  split at hname
  · cases hname
  · exact (Except.ok.inj hname).symm

/-- Steps that lead to a directory by `FileSystem.walk` lead there in every file system that keeps
the directories. -/
theorem walk_eq_ok_of_directories {before after : FileSystem}
    (hkept : ∀ name, before.get? name = some .directory → after.get? name = some .directory)
    {start directory : FileName} {steps : List String}
    (hwalk : before.walk start steps = .ok directory) :
    after.walk start steps = .ok directory := by
  induction steps generalizing start with
  | nil => exact hwalk
  | cons step rest ih =>
    rw [walk] at hwalk ⊢
    split
    case isTrue hdot => exact ih (by simpa [hdot] using hwalk)
    case isFalse hdot =>
      rw [if_neg hdot] at hwalk
      split
      case isTrue hup => exact ih (by simpa [hup] using hwalk)
      case isFalse hup =>
        rw [if_neg hup] at hwalk
        cases hbelow : nameBelow start step with
        | error error => simp [hbelow] at hwalk
        | ok name =>
          simp only [hbelow] at hwalk ⊢
          -- the step was taken, so there was a directory
          cases hentry : before.get? name with
          | none => simp [hentry] at hwalk
          | some entry =>
            cases entry with
            | file content => simp [hentry] at hwalk
            | directory =>
              rw [hkept name hentry]
              exact ih (by simpa [hentry] using hwalk)

end FileSystem

namespace Workspace

open FileSystem

/-- Where a path starts: at the root if it is absolute, else in the current directory. -/
def startOf (space : Workspace) (path : Path) : FileName :=
  if path.isAbsolute then [] else space.directory

/-- The directory that a path leads to by `FileSystem.walk`; the empty path leads to the current
directory. -/
def directoryAt (space : Workspace) (path : Path) : Except FileError FileName :=
  space.files.walk (space.startOf path) path.names

theorem follow_eq (space : Workspace) (path : Path) :
    space.follow path =
      match path.names.getLast? with
      | none => .ok .directory
      | some last =>
        if last = "." ∨ last = ".." then (space.directoryAt path).map fun _ => .directory
        else
          (space.files.walk (space.startOf path) path.names.dropLast).bind fun directory =>
            (nameBelow directory last).bind fun name =>
              .ok (.entry name (path.text.endsWith "/")) :=
  rfl

/-- The place of a path in `locate` is that of `follow`, if the path can be looked up at all: it has
no null character, is not empty and not too long. -/
theorem locate_eq_ok_iff {space : Workspace} {path : Path} {destination : Destination} :
    space.locate path = .ok destination ↔
      ((path.text.toList.any fun c => c.toNat == 0) = false ∧ path.text.isEmpty = false ∧
        ¬ maxPathSize < path.text.utf8ByteSize) ∧ space.follow path = .ok destination := by
  rw [locate]
  split
  case isTrue hnull => simp [hnull]
  split
  case isTrue hempty => simp [hempty]
  split
  case isTrue hlong => simp [hlong]
  rename_i hnull hempty hlong
  simp [hnull, hempty, hlong]

/-- A path that `follow` leads to an entry ends in a name, which stands in the directory that the
rest leads to. -/
theorem exists_of_follow_eq_entry {space : Workspace} {path : Path} {name : FileName} {slash : Bool}
    (hfollow : space.follow path = .ok (.entry name slash)) :
    ∃ last directory, path.names.getLast? = some last ∧
      space.files.walk (space.startOf path) path.names.dropLast = .ok directory ∧
      name = directory ++ [last] := by
  rw [follow_eq] at hfollow
  cases hlast : path.names.getLast? with
  | none => simp [hlast] at hfollow
  | some last =>
    simp only [hlast] at hfollow
    -- a path that ends in dots leads to a directory, so to no entry
    split at hfollow
    · cases hdirectory : space.directoryAt path <;> simp [hdirectory, Except.map] at hfollow
    · cases hwalk : space.files.walk (space.startOf path) path.names.dropLast with
      | error error => simp [hwalk, Except.bind] at hfollow
      | ok directory =>
        cases hbelow : nameBelow directory last with
        | error error => simp [hwalk, hbelow, Except.bind] at hfollow
        | ok found =>
          simp only [hwalk, hbelow, Except.bind, Except.ok.injEq, Destination.entry.injEq]
            at hfollow
          exact ⟨last, directory, rfl, rfl, hfollow.1 ▸ nameBelow_eq_ok hbelow⟩

/-- An entry that `locate` leads to is below the root. -/
theorem ne_nil_of_locate {space : Workspace} {path : Path} {name : FileName} {slash : Bool}
    (hplace : space.locate path = .ok (.entry name slash)) : name ≠ [] := by
  obtain ⟨last, directory, -, -, rfl⟩ := exists_of_follow_eq_entry (locate_eq_ok_iff.mp hplace).2
  simp

/-- The path joined from a path and the name of an entry leads to that entry of the directory that
`directoryAt` gives for the path. -/
theorem exists_directoryAt_of_locate {space : Workspace} {base : Path} {entry : String}
    (hentry : IsStepName entry) {name : FileName} {slash : Bool}
    (hplace : space.locate (base.join ⟨entry⟩) = .ok (.entry name slash)) :
    ∃ directory, space.directoryAt base = .ok directory ∧ name = directory ++ [entry] := by
  obtain ⟨last, directory, hlast, hwalk, hname⟩ :=
    exists_of_follow_eq_entry (locate_eq_ok_iff.mp hplace).2
  rw [Path.names_join base hentry, List.getLast?_concat, Option.some.injEq] at hlast
  rw [Path.names_join base hentry, List.dropLast_concat, startOf, Path.isAbsolute_join base hentry]
    at hwalk
  exact ⟨directory, hwalk, hlast ▸ hname⟩

/-! ## Operations -/

/-- A file is read exactly if `locate` leads to it, with no slash after its name. -/
theorem read_eq_ok_iff {space : Workspace} {path : Path} {content : ByteArray} :
    space.read path = .ok content ↔
      ∃ name, space.locate path = .ok (.entry name false) ∧
        space.files.get? name = some (.file content) := by
  rw [read]
  cases hplace : space.locate path with
  | error error => simp [Bind.bind, Except.bind]
  | ok destination =>
    cases destination with
    | directory => simp [Bind.bind, Except.bind]
    | entry name slash =>
      simp only [Bind.bind, Except.bind, Except.ok.injEq, Destination.entry.injEq]
      cases hentry : space.files.get? name with
      | none => simp [hentry]
      | some entry =>
        cases entry with
        | directory => simp [hentry]
        | file found => cases slash <;> simp [hentry]

/-- A write succeeds exactly where `locate` leads to a name that no directory has, and puts the
content there; nothing else changes. -/
theorem write_eq_ok_iff {space after : Workspace} {path : Path} {content : ByteArray} :
    space.write path content = .ok after ↔
      ∃ name, space.locate path = .ok (.entry name false) ∧
        space.files.get? name ≠ some .directory ∧ after = space.putAt name (.file content) := by
  rw [write]
  cases hplace : space.locate path with
  | error error => simp [Bind.bind, Except.bind]
  | ok destination =>
    cases destination with
    | directory => simp [Bind.bind, Except.bind]
    | entry name slash =>
      simp only [Bind.bind, Except.bind, Except.ok.injEq, Destination.entry.injEq]
      -- a slash after the name asks for a directory, which cannot be written
      cases slash with
      | true => simp
      | false =>
        cases hentry : space.files.get? name with
        | none => simp [hentry, eq_comm]
        | some entry => cases entry <;> simp [hentry, eq_comm]

/-- A directory is created exactly where `locate` leads to a free name. -/
theorem createDirectory_eq_ok_iff {space after : Workspace} {path : Path} :
    space.createDirectory path = .ok after ↔
      ∃ name slash, space.locate path = .ok (.entry name slash) ∧
        space.files.get? name = none ∧ after = space.putAt name .directory := by
  rw [createDirectory]
  cases hplace : space.locate path with
  | error error => simp [Bind.bind, Except.bind]
  | ok destination =>
    cases destination with
    | directory => simp [Bind.bind, Except.bind]
    | entry name slash =>
      simp only [Bind.bind, Except.bind, Except.ok.injEq, Destination.entry.injEq]
      cases hentry : space.files.get? name <;> simp [hentry, eq_comm]

/-- After `putAt` at a name below the root, that name stands for the entry and all others for what
they stood for. -/
theorem get?_putAt (space : Workspace) {name : FileName} (entry : Entry) (hname : name ≠ [])
    (other : FileName) :
    (space.putAt name entry).files.get? other
      = if name = other then some entry else space.files.get? other :=
  get?_put space.files name other entry hname

/-! ## Workspaces with the same directories -/

/-- Two workspaces with the same directories, in one of which one works; their files may differ. -/
structure SameDirectories (before after : Workspace) : Prop where
  /-- The current directory is the same. -/
  current : after.directory = before.directory
  /-- The same names are those of directories. -/
  directories : ∀ name,
    after.files.get? name = some .directory ↔ before.files.get? name = some .directory

namespace SameDirectories

variable {first before after last : Workspace}

theorem refl (space : Workspace) : SameDirectories space space := ⟨rfl, fun _ => Iff.rfl⟩

theorem symm (hsame : SameDirectories before after) : SameDirectories after before :=
  ⟨hsame.current.symm, fun name => (hsame.directories name).symm⟩

theorem trans (hfirst : SameDirectories before after) (hsecond : SameDirectories after last) :
    SameDirectories before last :=
  ⟨hsecond.current.trans hfirst.current,
    fun name => (hsecond.directories name).trans (hfirst.directories name)⟩

/-- A file that is put where no directory is leaves the `SameDirectories`. -/
theorem putAt_file {space : Workspace} {name : FileName} (hname : name ≠ [])
    (hfree : space.files.get? name ≠ some .directory) (content : ByteArray) :
    SameDirectories space (space.putAt name (.file content)) := by
  refine ⟨rfl, fun other => ?_⟩
  rw [get?_putAt space _ hname]
  split
  case isTrue hequal => simp [← hequal, hfree]
  case isFalse => rfl

/-- Steps of `FileSystem.walk` lead to the same directory in both workspaces. -/
theorem walk (hsame : SameDirectories before after) {start directory : FileName}
    {steps : List String} (hwalk : before.files.walk start steps = .ok directory) :
    after.files.walk start steps = .ok directory :=
  walk_eq_ok_of_directories (fun name => (hsame.directories name).mpr) hwalk

theorem startOf (hsame : SameDirectories before after) (path : Path) :
    after.startOf path = before.startOf path := by
  rw [Workspace.startOf, Workspace.startOf, hsame.current]

/-- Paths lead to the same directory by `directoryAt` in both workspaces. -/
theorem directoryAt (hsame : SameDirectories before after) {path : Path} {directory : FileName}
    (hdirectory : before.directoryAt path = .ok directory) :
    after.directoryAt path = .ok directory := by
  rw [Workspace.directoryAt, hsame.startOf]
  exact hsame.walk hdirectory

/-- Paths are followed by `follow` to the same places in both workspaces. -/
theorem follow (hsame : SameDirectories before after) {path : Path} {destination : Destination}
    (hfollow : before.follow path = .ok destination) : after.follow path = .ok destination := by
  rw [follow_eq] at hfollow ⊢
  cases hlast : path.names.getLast? with
  | none => simpa [hlast] using hfollow
  | some step =>
    simp only [hlast] at hfollow ⊢
    -- a path that ends in dots is followed as a whole, any other one up to its last step
    split
    case isTrue hdots =>
      rw [if_pos hdots] at hfollow
      cases hdirectory : before.directoryAt path with
      | error error => simp [hdirectory, Except.map] at hfollow
      | ok directory =>
        rw [hsame.directoryAt hdirectory]
        simpa [hdirectory, Except.map] using hfollow
    case isFalse hdots =>
      rw [if_neg hdots] at hfollow
      cases hwalk : before.files.walk (before.startOf path) path.names.dropLast with
      | error error => simp [hwalk, Except.bind] at hfollow
      | ok directory =>
        rw [hsame.startOf, hsame.walk hwalk]
        simpa [hwalk] using hfollow

/-- Paths are located by `locate` at the same places in both workspaces. -/
theorem locate (hsame : SameDirectories before after) {path : Path} {destination : Destination}
    (hplace : before.locate path = .ok destination) : after.locate path = .ok destination := by
  rw [locate_eq_ok_iff] at hplace ⊢
  exact ⟨hplace.1, hsame.follow hplace.2⟩

end SameDirectories

end Workspace

end Companion
