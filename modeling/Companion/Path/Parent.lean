import Companion.Path
import Companion.Text.Pieces

/-! # Directories above a path

The components of a path are its steps, after a leading `.` if it has one. Going up from a path
takes its last component away (`Path.exists_components_of_parent?`) and ends where there is none
left (`Path.parent?_eq_none_iff`), so that the `Path.depth` of a path is how often one can go up. -/

namespace Companion.Path

/-- The components of a path: its steps, after a leading `.` if it has one. -/
def components (path : Path) : List (List Char) :=
  (if path.anchor = .dot then [['.']] else []) ++ path.steps

/-- The number of `components` of a path: how often one can go up from it. -/
def depth (path : Path) : Nat := path.components.length

/-! ## Anchors and pieces -/

/-- The pieces of a path are those of its `anchor` and those of its `body`. -/
theorem anchorPieces_append_body (path : Path) :
    anchorPieces path.anchor ++ path.body = path.pieces := by
  rw [anchor, body]
  fun_cases splitAnchor path.pieces <;> simp_all [anchorPieces]

/-- A path that `assemble` makes of pieces without separators has these pieces. -/
theorem pieces_assemble {anchor : Anchor} {front : List (List Char)}
    (hpieces : ∀ piece ∈ anchorPieces anchor ++ front, '/' ∉ piece) (hne : front ≠ []) :
    (assemble anchor front).pieces = anchorPieces anchor ++ front := by
  have hassembled : assemble anchor front
      = ⟨String.ofList (['/'].intercalate (anchorPieces anchor ++ front))⟩ :=
    assemble.eq_2 anchor front fun _ hempty => hne hempty
  have hsome : anchorPieces anchor ++ front ≠ [] := by simp [hne]
  rw [hassembled, pieces, String.toList_ofList, List.splitOn_intercalate '/' hpieces hsome]

/-- The first pieces of a path without an anchor show no anchor to `splitAnchor` either. -/
theorem splitAnchor_of_prefix_body {path : Path} (hanchor : path.anchor = .here)
    {front : List (List Char)} (hfront : front <+: path.body) :
    splitAnchor front = (.here, front) := by
  obtain ⟨rest, hrest⟩ := hfront
  have hpieces := path.anchorPieces_append_body
  rw [hanchor, ← hrest, anchorPieces, List.nil_append] at hpieces
  rw [anchor, ← hpieces] at hanchor
  fun_cases splitAnchor front with
  | case1 second others => exact absurd hanchor nofun
  | case2 others => exact absurd hanchor nofun
  | case3 => rfl

/-- A path of the same anchor and the first pieces of the `body` has the `anchor`, and those of the
steps that are among these pieces. -/
theorem anchor_steps_assemble (path : Path) {front : List (List Char)}
    (hfront : front <+: path.body) :
    (assemble path.anchor front).anchor = path.anchor ∧
      (assemble path.anchor front).steps = front.filter isStep := by
  have hpieces : ∀ piece ∈ anchorPieces path.anchor ++ front, '/' ∉ piece := by
    intro piece hpiece
    have hmem : piece ∈ path.pieces := by
      rw [← path.anchorPieces_append_body]
      exact ((List.prefix_append_right_inj _).mpr hfront).subset hpiece
    exact Text.not_mem_of_mem_splitOn hmem
  cases front with
  | nil => cases path.anchor <;> decide
  | cons first rest =>
    rw [steps, body, anchor, pieces_assemble hpieces (List.cons_ne_nil _ _)]
    -- only where there is no anchor, the first pieces could be taken for one
    cases hanchor : path.anchor with
    | root => exact ⟨rfl, rfl⟩
    | dot => exact ⟨rfl, rfl⟩
    | here =>
      rw [anchorPieces, List.nil_append, splitAnchor_of_prefix_body hanchor hfront]
      exact ⟨rfl, rfl⟩

/-! ## Going up -/

/-- Only pieces that are no steps are taken away by `trimBody`, from the end. -/
theorem exists_append_of_trimBody (body : List (List Char)) :
    ∃ tail, body = trimBody body ++ tail ∧ ∀ piece ∈ tail, isStep piece = false := by
  refine ⟨(body.reverse.takeWhile fun piece => !isStep piece).reverse, ?_, ?_⟩
  · rw [trimBody, ← List.reverse_append, List.takeWhile_append_dropWhile, List.reverse_reverse]
  · intro piece hpiece
    have hall := List.all_eq_true.mp (List.all_takeWhile (p := fun piece => !isStep piece)
      (l := body.reverse)) piece (List.mem_reverse.mp hpiece)
    simpa using hall

theorem trimBody_prefix_body (body : List (List Char)) : trimBody body <+: body := by
  obtain ⟨tail, hbody, -⟩ := exists_append_of_trimBody body
  exact ⟨tail, hbody.symm⟩

/-- No step is taken away by `trimBody`. -/
theorem filter_isStep_trimBody (body : List (List Char)) :
    (trimBody body).filter isStep = body.filter isStep := by
  obtain ⟨tail, hbody, htail⟩ := exists_append_of_trimBody body
  have hnone : tail.filter isStep = [] := List.filter_eq_nil_iff.mpr fun piece hpiece => by
    simp [htail piece hpiece]
  conv => rhs; rw [hbody, List.filter_append, hnone, List.append_nil]

/-- What `trimBody` leaves ends in a step, if it leaves anything. -/
theorem isStep_of_trimBody_eq {body front : List (List Char)} {last : List Char}
    (htrim : trimBody body = front ++ [last]) : isStep last = true := by
  have hdrop : (body.reverse.dropWhile fun piece => !isStep piece) = last :: front.reverse := by
    rw [← List.reverse_inj, ← trimBody, htrim]
    simp
  have hhead := List.head?_dropWhile_not (fun piece => !isStep piece) body.reverse
  rw [hdrop] at hhead
  simpa using hhead

/-- Going up from a path whose `body` ends in a step, trimmed, takes the step away. -/
theorem parent?_of_trimBody_eq {path : Path} {front : List (List Char)} {last : List Char}
    (htrim : trimBody path.body = front ++ [last]) :
    path.parent? = some (assemble path.anchor (trimBody front)) := by
  rw [parent?, htrim]
  cases front with
  | nil => rfl
  | cons first rest =>
    show some (assemble _ (trimBody ((first :: rest) ++ [last]).dropLast)) = _
    rw [List.dropLast_concat]

/-- Case analysis of `parent?`: a path has no `steps`, or the one above it has the same `anchor` and
all steps but the last. -/
theorem parent?_cases (path : Path) :
    (path.steps = [] ∧ path.parent? = if path.anchor = .dot then some ⟨""⟩ else none) ∨
      ∃ parent last, path.parent? = some parent ∧ parent.anchor = path.anchor ∧
        path.steps = parent.steps ++ [last] := by
  have htrimmed : path.steps = (trimBody path.body).filter isStep :=
    (filter_isStep_trimBody path.body).symm
  rcases List.eq_nil_or_concat (trimBody path.body) with hnone | ⟨front, last, hsome⟩
  · rw [htrimmed, parent?, hnone]
    exact Or.inl ⟨rfl, rfl⟩
  · rw [List.concat_eq_append] at hsome
    have hfront : front <+: trimBody path.body := ⟨[last], hsome.symm⟩
    obtain ⟨hanchor, hsteps⟩ := path.anchor_steps_assemble
      ((trimBody_prefix_body front).trans (hfront.trans (trimBody_prefix_body path.body)))
    refine Or.inr ⟨_, last, parent?_of_trimBody_eq hsome, hanchor, ?_⟩
    rw [htrimmed, hsteps, hsome, filter_isStep_trimBody front, List.filter_append]
    simp [isStep_of_trimBody_eq hsome]

/-- One cannot go up from a path exactly if it has no `components`. -/
theorem parent?_eq_none_iff {path : Path} : path.parent? = none ↔ path.components = [] := by
  rw [components]
  rcases path.parent?_cases with ⟨hsteps, hparent⟩ | ⟨parent, last, hparent, -, hsteps⟩
  · rw [hparent, hsteps]
    by_cases hdot : path.anchor = .dot <;> simp [hdot]
  · simp [hparent, hsteps]

/-- Going up takes the last of the `components` away and leaves relative paths relative. -/
theorem exists_components_of_parent? {path parent : Path} (hparent : path.parent? = some parent) :
    (∃ last, path.components = parent.components ++ [last]) ∧
      parent.isAbsolute = path.isAbsolute := by
  rw [components, components, isAbsolute, isAbsolute]
  rcases path.parent?_cases with ⟨hsteps, hcase⟩ | ⟨found, last, hcase, hanchor, hsteps⟩
  · rw [hcase] at hparent
    by_cases hdot : path.anchor = .dot
    · rw [if_pos hdot] at hparent
      obtain rfl := Option.some.inj hparent
      rw [hdot, hsteps]
      exact ⟨⟨['.'], rfl⟩, rfl⟩
    · simp [hdot] at hparent
  · obtain rfl := Option.some.inj (hcase.symm.trans hparent)
    rw [hanchor, hsteps]
    exact ⟨⟨last, (List.append_assoc ..).symm⟩, rfl⟩

/-- A path has one component more than its `parent?`. -/
theorem depth_of_parent? {path parent : Path} (hparent : path.parent? = some parent) :
    path.depth = parent.depth + 1 := by
  obtain ⟨⟨last, hlast⟩, -⟩ := exists_components_of_parent? hparent
  rw [depth, hlast, List.length_append, List.length_singleton, depth]

theorem depth_lt_of_parent? {path parent : Path} (hparent : path.parent? = some parent) :
    parent.depth < path.depth := by
  rw [depth_of_parent? hparent]
  exact Nat.lt_succ_self _

end Companion.Path
