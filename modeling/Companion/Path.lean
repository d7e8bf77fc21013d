/-! # File paths

Paths as texts with `/` between their pieces. Two paths are the same if they agree on their anchor
and on their steps: empty pieces and pieces `.` do not count, except for a leading `.`; pieces `..`
count. Paths are ordered by the same, step by step. A path keeps its own spelling, which `join` and
`parent?` preserve. -/

namespace Companion

/-- A file path, as it is spelled; `Path.same` says which spellings mean the same. -/
structure Path where
  /-- The spelling of the path. -/
  text : String
  deriving DecidableEq, Repr

namespace Path

/-- Where a path starts. -/
inductive Anchor
  /-- At the root: the path starts with `/`. -/
  | root
  /-- At the current directory, written as a leading `.`. -/
  | dot
  /-- At the current directory, without any sign of it. -/
  | here
  deriving DecidableEq, Repr

/-- The pieces between the separators. -/
def pieces (path : Path) : List (List Char) := path.text.toList.splitOn '/'

/-- Whether a piece is a step: neither empty nor `.`. -/
def isStep (piece : List Char) : Bool := !piece.isEmpty && piece != ['.']

/-- The anchor of a list of pieces, with the pieces after it. -/
def splitAnchor : List (List Char) → Anchor × List (List Char)
  | [] :: second :: rest => (.root, second :: rest)
  | ['.'] :: rest => (.dot, rest)
  | pieces => (.here, pieces)

/-- The anchor of a path, which `splitAnchor` finds at its first pieces. -/
def anchor (path : Path) : Anchor := (splitAnchor path.pieces).1

/-- The pieces after the anchor, steps (`isStep`) or not. -/
def body (path : Path) : List (List Char) := (splitAnchor path.pieces).2

/-- The steps of a path: the pieces of its `body` that are steps. -/
def steps (path : Path) : List (List Char) := path.body.filter isStep

/-- Whether two paths are the same: they have the same `anchor` and the same `steps`. -/
def same (first second : Path) : Bool :=
  first.anchor == second.anchor && first.steps == second.steps

theorem same_iff {first second : Path} :
    first.same second = true ↔ first.anchor = second.anchor ∧ first.steps = second.steps := by
  simp [same]

@[simp] theorem same_self (path : Path) : path.same path = true := by simp [same]

/-- Paths that are the `same` are the same as the same paths. -/
theorem same_congr {first second : Path} (equal : first.same second = true) (path : Path) :
    first.same path = second.same path := by
  obtain ⟨anchors, steps⟩ := same_iff.mp equal
  simp [same, anchors, steps]

/-- The place of an anchor in the order of paths: the root comes first, a leading `.` next. -/
def Anchor.rank : Anchor → List (List Nat)
  | .root => [[0]]
  | .dot => [[1]]
  | .here => []

/-- The place of a step in the order of paths: `..` comes before all names, and names are in the
order of their code points. -/
def stepRank (step : List Char) : List Nat :=
  if step = ['.', '.'] then [2] else 3 :: step.map Char.toNat

/-- The place of a path in the order of paths: `Anchor.rank` first, and then the `stepRank` of each
step. -/
def rank (path : Path) : List (List Nat) := path.anchor.rank ++ path.steps.map stepRank

/-- Whether a path comes before another one or is the same, by its `rank`. -/
def atMost (first second : Path) : Bool := !(second.rank < first.rank)

/-- Whether a path starts at the root. -/
def isAbsolute (path : Path) : Bool := path.anchor == .root

/-- The spelling of an anchor as pieces. -/
def anchorPieces : Anchor → List (List Char)
  | .root => [[]]
  | .dot => [['.']]
  | .here => []

/-- The path of an anchor and the pieces after it: `anchorPieces` and pieces with separators between
them. -/
def assemble (anchor : Anchor) (body : List (List Char)) : Path :=
  match anchor, body with
  | .root, [] => ⟨"/"⟩
  | anchor, body => ⟨String.ofList (['/'].intercalate (anchorPieces anchor ++ body))⟩

/-- A list of pieces without the ones at its end that are no steps. -/
def trimBody (body : List (List Char)) : List (List Char) :=
  (body.reverse.dropWhile fun piece => !isStep piece).reverse

/-- The directory that holds a path: the path without its last step, and without the pieces before
it that `trimBody` takes away. The root and the empty path have none. -/
def parent? (path : Path) : Option Path :=
  match trimBody path.body with
  | [] => if path.anchor = .dot then some ⟨""⟩ else none
  | piece :: rest => some (assemble path.anchor (trimBody (piece :: rest).dropLast))

/-- A path below another one; an absolute one stands for itself. There is one separator between the
two. -/
def join (base below : Path) : Path :=
  if below.isAbsolute || base.text.isEmpty then below
  else if base.text.toList.getLast? = some '/' then ⟨base.text ++ below.text⟩
  else ⟨base.text ++ "/" ++ below.text⟩

instance : Append Path := ⟨join⟩

end Path

end Companion
