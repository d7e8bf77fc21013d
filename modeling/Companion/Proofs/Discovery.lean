import Companion.Proofs.Runs
import Mathlib.Logic.Relation

/-! # The nearest configuration

`Path.IsAtOrAbove` says that a directory is reached from a path by going up, any number of times.
Each step up takes one component away, so that these directories are those of the first components
of the path (`Path.exists_isAtOrAbove_iff`) and are told apart by their depths. The search for a
configuration looks into one directory and goes on above it (`Config.run_find_of_not_isIn`); by
induction along the path it finds the file of the deepest directory that has one:
`Config.find_nearest`. -/

namespace Companion

namespace Path

/-- A directory is a path, or one goes up from the path to the directory with `Path.parent?`, any
number of times. -/
def IsAtOrAbove (directory path : Path) : Prop :=
  Relation.ReflTransGen (fun lower upper : Path => lower.parent? = some upper) path directory

variable {directory other path parent : Path}

theorem IsAtOrAbove.refl (path : Path) : path.IsAtOrAbove path := Relation.ReflTransGen.refl

/-- What is at or above the `parent?` is at or above the path. -/
theorem IsAtOrAbove.of_parent? (hparent : path.parent? = some parent)
    (habove : directory.IsAtOrAbove parent) : directory.IsAtOrAbove path :=
  Relation.ReflTransGen.head hparent habove

/-- What `IsAtOrAbove` a path is the path, or is at or above its `parent?`. -/
theorem isAtOrAbove_iff :
    directory.IsAtOrAbove path ↔
      path = directory ∨ ∃ parent, path.parent? = some parent ∧ directory.IsAtOrAbove parent :=
  Relation.ReflTransGen.cases_head_iff

/-- A directory that `IsAtOrAbove` a path has the first of the `components` of the path. -/
theorem IsAtOrAbove.isPrefix_components (habove : directory.IsAtOrAbove path) :
    directory.components <+: path.components := by
  induction habove with
  | refl => exact List.prefix_rfl
  | tail _ hparent ih =>
    obtain ⟨⟨last, hlast⟩, -⟩ := exists_components_of_parent? hparent
    exact List.IsPrefix.trans ⟨[last], hlast.symm⟩ ih

/-- A directory that `IsAtOrAbove` a path starts where the path does. -/
theorem IsAtOrAbove.isAbsolute_eq (habove : directory.IsAtOrAbove path) :
    directory.isAbsolute = path.isAbsolute := by
  induction habove with
  | refl => rfl
  | tail _ hparent ih => exact (exists_components_of_parent? hparent).2.trans ih

theorem IsAtOrAbove.depth_le (habove : directory.IsAtOrAbove path) :
    directory.depth ≤ path.depth :=
  habove.isPrefix_components.length_le

/-- No other directory at or above a path has the `depth` of the path, or a greater one. -/
theorem IsAtOrAbove.eq_of_depth_le (habove : directory.IsAtOrAbove path)
    (hdepth : path.depth ≤ directory.depth) : directory = path := by
  rcases isAtOrAbove_iff.mp habove with hhere | ⟨parent, hparent, hrest⟩
  · exact hhere.symm
  · have hlower := depth_lt_of_parent? hparent
    have hupper := hrest.depth_le
    omega

/-- The directories at or above a path are told apart by their `depth`. -/
theorem IsAtOrAbove.eq_of_depth_eq (habove : directory.IsAtOrAbove path)
    (hother : other.IsAtOrAbove path) (hdepth : directory.depth = other.depth) :
    directory = other := by
  induction habove using Relation.ReflTransGen.head_induction_on with
  | refl => exact (hother.eq_of_depth_le (Nat.le_of_eq hdepth)).symm
  | head hparent hrest ih =>
    rcases isAtOrAbove_iff.mp hother with rfl | ⟨parent, hsame, habove⟩
    · -- the path itself is deeper than all that is above it
      have hlower := depth_lt_of_parent? hparent
      have hupper := IsAtOrAbove.depth_le hrest
      omega
    · obtain rfl := Option.some.inj (hsame.symm.trans hparent)
      exact ih habove

/-- Going up reaches a directory of the first components `front` of a path, for any number of them.
-/
theorem exists_isAtOrAbove_of_prefix_components {front : List (List Char)}
    (hfront : front <+: path.components) :
    ∃ directory : Path, directory.IsAtOrAbove path ∧ directory.components = front := by
  -- by induction on the depth, which is less for the parent
  induction hdepth : path.depth using Nat.strongRecOn generalizing path with
  | ind depth ih =>
    cases hparent : path.parent? with
    | none =>
      rw [parent?_eq_none_iff.mp hparent, List.prefix_nil] at hfront
      exact ⟨path, .refl path, hfront ▸ parent?_eq_none_iff.mp hparent⟩
    | some parent =>
      obtain ⟨⟨last, hlast⟩, -⟩ := exists_components_of_parent? hparent
      rw [hlast, List.prefix_concat_iff] at hfront
      rcases hfront with hwhole | hfront
      · exact ⟨path, .refl path, hlast.trans hwhole.symm⟩
      · obtain ⟨directory, habove, hcomponents⟩ :=
          ih parent.depth (hdepth ▸ depth_lt_of_parent? hparent) hfront rfl
        exact ⟨directory, habove.of_parent? hparent, hcomponents⟩

/-- The directories that are `IsAtOrAbove` a path start where it does and have its first
`components`, for any number of them. -/
theorem exists_isAtOrAbove_iff {absolute : Bool} {front : List (List Char)} :
    (∃ directory : Path, directory.IsAtOrAbove path ∧ directory.isAbsolute = absolute ∧
        directory.components = front) ↔
      absolute = path.isAbsolute ∧ front <+: path.components := by
  constructor
  · rintro ⟨directory, habove, rfl, rfl⟩
    exact ⟨habove.isAbsolute_eq, habove.isPrefix_components⟩
  · rintro ⟨rfl, hfront⟩
    obtain ⟨directory, habove, hcomponents⟩ := exists_isAtOrAbove_of_prefix_components hfront
    exact ⟨directory, habove, habove.isAbsolute_eq, hcomponents⟩

/-- Going up `count` times takes as many components away. -/
theorem add_depth_of_walk {walk : ℕ → Path} {count : ℕ}
    (hwalk : ∀ index < count, (walk index).parent? = some (walk (index + 1))) :
    count + (walk count).depth = (walk 0).depth := by
  induction count with
  | zero => exact Nat.zero_add _
  | succ count ih =>
    have hbefore := ih fun index hindex => hwalk index (Nat.lt_succ_of_lt hindex)
    have hlast := depth_of_parent? (hwalk count (Nat.lt_succ_self _))
    omega

end Path

namespace Config

/-- A directory has a configuration: there is a file at `fileIn` it, and not a directory of that
name. -/
def IsIn (space : Workspace) (directory : Path) : Prop :=
  ∃ content, space.entry? (fileIn directory) = some (.file content)

/-- The nearest directory with a configuration at or above a path: the deepest of those that have
one. -/
structure IsNearest (space : Workspace) (start directory : Path) : Prop where
  /-- It is the path or a directory above it. -/
  above : directory.IsAtOrAbove start
  /-- It has a configuration. -/
  isIn : IsIn space directory
  /-- No such directory is deeper. -/
  deepest : ∀ other, other.IsAtOrAbove start → IsIn space other → other.depth ≤ directory.depth

variable {space : Workspace} {start parent directory other : Path}

/-! ## The search -/

theorem isIn_iff :
    IsIn space directory ↔
      ((space.entry? (fileIn directory)).map Entry.kind == some .file) = true := by
  rw [IsIn, beq_iff_eq]
  cases space.entry? (fileIn directory) with
  | none => simp
  | some entry => cases entry <;> simp [Entry.kind]

/-- The search `find` ends in the directory where it starts if there is a configuration (`IsIn`). -/
theorem run_find_of_isIn (hisIn : IsIn space start) :
    (find start : StateM Workspace (Option Path)).run space = (some (fileIn start), space) := by
  have hfound : ((FileAccess.isFile (fileIn start) : StateM Workspace Bool).run space).1 = true :=
    isIn_iff.mp hisIn
  rw [find, (IsReading.isFile _).run_bind, hfound, if_pos rfl]
  rfl

/-- The search `find` goes on above a directory without a configuration, and ends where nothing is
above. -/
theorem run_find_of_not_isIn (hnone : ¬ IsIn space start) :
    (find start : StateM Workspace (Option Path)).run space
      = match start.parent? with
        | none => (none, space)
        | some parent => (find parent : StateM Workspace (Option Path)).run space := by
  have hfound : ((FileAccess.isFile (fileIn start) : StateM Workspace Bool).run space).1 = false :=
    Bool.eq_false_iff.mpr fun htrue => hnone (isIn_iff.mpr htrue)
  rw [find, (IsReading.isFile _).run_bind, hfound, if_neg Bool.false_ne_true]
  split
  case h_1 htop =>
    rw [htop]
    rfl
  case h_2 parent hparent => rw [hparent]

/-- A directory with a configuration is itself the nearest one (`IsNearest`). -/
theorem IsNearest.here (hisIn : IsIn space start) : IsNearest space start start where
  above := .refl start
  isIn := hisIn
  deepest := fun _ hother _ => hother.depth_le

/-- Without a configuration in the directory the nearest one (`IsNearest`) is the nearest from its
`parent?`. -/
theorem IsNearest.of_parent? (hnone : ¬ IsIn space start) (hparent : start.parent? = some parent)
    (hnearest : IsNearest space parent directory) : IsNearest space start directory where
  above := hnearest.above.of_parent? hparent
  isIn := hnearest.isIn
  deepest := by
    intro other hother hisIn
    rcases Path.isAtOrAbove_iff.mp hother with rfl | ⟨upper, hupper, habove⟩
    · exact absurd hisIn hnone
    · obtain rfl := Option.some.inj (hupper.symm.trans hparent)
      exact hnearest.deepest other habove hisIn

/-- There is one directory that `IsNearest` at most: all are at or above the path and of the same
depth. -/
theorem IsNearest.unique (hdirectory : IsNearest space start directory)
    (hother : IsNearest space start other) : directory = other :=
  hdirectory.above.eq_of_depth_eq hother.above
    (Nat.le_antisymm (hother.deepest directory hdirectory.above hdirectory.isIn)
      (hdirectory.deepest other hother.above hother.isIn))

/-- There is no configuration at or above a directory if there is none in it and none at or above
its parent. -/
theorem not_isIn_of_parent? (hnone : ¬ IsIn space start)
    (hrest : ∀ parent, start.parent? = some parent →
      ∀ directory, directory.IsAtOrAbove parent → ¬ IsIn space directory) :
    ∀ directory, directory.IsAtOrAbove start → ¬ IsIn space directory := by
  intro directory habove
  rcases Path.isAtOrAbove_iff.mp habove with rfl | ⟨parent, hparent, hupper⟩
  · exact hnone
  · exact hrest parent hparent directory hupper

/-- The search `find` gives the file of the directory that `IsNearest`, or there is none at or above
the path. Strong induction on the `depth` of the path, which falls with each step up. -/
theorem exists_isNearest_or_run_find (space : Workspace) (start : Path) :
    (∃ directory, IsNearest space start directory ∧
        (find start : StateM Workspace (Option Path)).run space
          = (some (fileIn directory), space)) ∨
      ((∀ directory, directory.IsAtOrAbove start → ¬ IsIn space directory) ∧
        (find start : StateM Workspace (Option Path)).run space = (none, space)) := by
  -- the depth of the path falls with each step up
  induction hdepth : start.depth using Nat.strongRecOn generalizing start with
  | ind depth ih =>
    by_cases hisIn : IsIn space start
    · exact Or.inl ⟨start, .here hisIn, run_find_of_isIn hisIn⟩
    rw [run_find_of_not_isIn hisIn]
    cases hparent : start.parent? with
    | none => exact Or.inr ⟨not_isIn_of_parent? hisIn (by simp [hparent]), rfl⟩
    | some parent =>
      rcases ih parent.depth (hdepth ▸ Path.depth_lt_of_parent? hparent) parent rfl with
        ⟨directory, hnearest, hrun⟩ | ⟨hnowhere, hrun⟩
      · exact Or.inl ⟨directory, hnearest.of_parent? hisIn hparent, hrun⟩
      · refine Or.inr ⟨not_isIn_of_parent? hisIn fun upper hupper => ?_, hrun⟩
        obtain rfl := Option.some.inj (hupper.symm.trans hparent)
        exact hnowhere

/-- What the search `find` for a configuration gives, for every workspace and path. One goes up from
the path at most as often as its `depth`, so that the search ends, and it changes nothing. It gives
the file `fileIn` the directory that `IsNearest`: the deepest one with a configuration among the
path and the directories above it. It gives nothing exactly if there is no such directory. -/
theorem find_nearest (space : Workspace) (start : Path) :
    (∀ (walk : ℕ → Path) (count : ℕ), walk 0 = start →
      (∀ index < count, (walk index).parent? = some (walk (index + 1))) → count ≤ start.depth) ∧
    ∃ found, (find start : StateM Workspace (Option Path)).run space = (found, space) ∧
      (∀ path, found = some path ↔
        ∃ directory, IsNearest space start directory ∧ path = fileIn directory) ∧
      (found = none ↔ ∀ directory, directory.IsAtOrAbove start → ¬ IsIn space directory) := by
  refine ⟨?_, ?_⟩
  · rintro walk count rfl hwalk
    have hdepth := Path.add_depth_of_walk hwalk
    omega
  -- the nearest directory is the only one of its kind, so it decides what is found
  rcases exists_isNearest_or_run_find space start with
    ⟨directory, hnearest, hrun⟩ | ⟨hnowhere, hrun⟩
  · refine ⟨_, hrun, fun path => ⟨?_, ?_⟩, iff_of_false nofun ?_⟩
    · intro hpath
      exact ⟨directory, hnearest, (Option.some.inj hpath).symm⟩
    · rintro ⟨other, hother, rfl⟩
      rw [hnearest.unique hother]
    · exact fun hnowhere => hnowhere directory hnearest.above hnearest.isIn
  · refine ⟨_, hrun, fun path => iff_of_false nofun ?_, iff_of_true rfl hnowhere⟩
    rintro ⟨directory, hnearest, -⟩
    exact hnowhere directory hnearest.above hnearest.isIn

/-- A directory of the name of configuration files is passed over. -/
example :
    ((find ⟨"/game/src/ui"⟩ : StateM Workspace (Option Path)).run
      ⟨⟨[(["game"], .directory), (["game", "ccg.toml"], .file "".toUTF8),
        (["game", "src"], .directory), (["game", "src", "ccg.toml"], .directory)]⟩, []⟩).1
      = some ⟨"/game/ccg.toml"⟩ := by
  decide +kernel

end Config

end Companion
