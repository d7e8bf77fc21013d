import Companion.Proofs.Nesting
import Mathlib.Order.Bounds.Basic
import Mathlib.Data.List.Infix

/-! # Texts of arbitrary steps

A writer may take steps in any order, and close more blocks than it has opened. `IsTranscript` says
what is seen of its text all the same: one line for each step, in order, after the spaces of the
step's own level (`Writer.isTranscript_performAll`). Since the level never falls below zero, it is
not the number of opened blocks less that of closed ones; it is the greatest such difference among
the steps since any point in time (`Writer.isGreatest_level`). -/

namespace Companion.Layout

open Text

/-- The line of a step at a level: nothing without a `content`, otherwise the content after
`width * level` spaces. -/
def Step.row (width level : Nat) (step : Step) : List Char :=
  if step.content = [] then [] else List.replicate (width * level) ' ' ++ step.content

/-- What is seen of the text of steps in its lines `linesOf`: which line stands for which step, and
at which level. -/
structure IsTranscript (width : Nat) (steps : List Step) (text : String) : Prop where
  /-- The text is that of its lines, with a line break after each. -/
  terminated : text.toList = (linesOf text).flatMap (· ++ ['\n'])
  /-- There is one line for each step. -/
  length : (linesOf text).length = steps.length
  /-- The `row` of a step stands at the level after the steps before it; a closing brace goes back
  one level before it is written. -/
  row : ∀ front step back, steps = front ++ step :: back →
    (linesOf text)[front.length]? = some (step.row width (levelAfter front - step.fall))
  /-- No line ends in white space if no content does that is written as a line. -/
  edges : (∀ content, Step.line content ∈ steps →
      ∀ c ∈ content.toList.getLast?, isWhiteSpace c = false) →
    ∀ line ∈ linesOf text, ∀ c ∈ line.getLast?, isWhiteSpace c = false

variable {steps : List Step}

/-- A property that holds of the contents of lines and of tidy contents holds of all contents: those
of the other steps are tidy. -/
theorem forall_content {p : List Char → Prop}
    (hlines : ∀ content, Step.line content ∈ steps → p content.toList)
    (htidy : ∀ step : Step, step.IsTidy → p step.content) : ∀ step ∈ steps, p step.content := by
  intro step hmem
  cases step with
  | line content => exact hlines content hmem
  | blank => exact htidy .blank trivial
  | openBlock => exact htidy .openBlock trivial
  | closeBlock => exact htidy .closeBlock trivial

/-- The text of steps is that of its lines `linesOf`, with a line break after each. -/
theorem toList_text (hsteps : ∀ step ∈ steps, '\n' ∉ step.content) (width : Nat) :
    (text width steps).toList = (linesOf (text width steps)).flatMap (· ++ ['\n']) := by
  rw [linesOf_text_of_unbroken hsteps, text_eq, lines, String.toList_join, List.flatMap_map,
    List.flatMap_map]
  simp

/-- The `row` of a step stands after as many lines as there are steps before it, at `levelAfter`
those steps less what it closes. -/
theorem getElem?_linesOf_text (hsteps : ∀ step ∈ steps, '\n' ∉ step.content) (width : Nat)
    {front back : List Step} {step : Step} (hsplit : steps = front ++ step :: back) :
    (linesOf (text width steps))[front.length]?
      = some (step.row width (levelAfter front - step.fall)) := by
  have hlines : linesFrom width 0 steps = linesFrom width 0 front
      ++ step.written width (levelAfter front)
        :: linesFrom width (step.after (levelAfter front)) back := by
    rw [hsplit, linesFrom_append, linesFrom_cons, ← levelAfter]
  have hindex : (linesFrom width 0 steps)[front.length]?
      = some (step.written width (levelAfter front)) := by
    rw [hlines, List.getElem?_append_right (by simp)]
    simp
  rw [linesOf_text_of_unbroken hsteps, List.getElem?_map, hindex, Option.map_some,
    Step.toList_written_eq, Step.row]

namespace Writer

/-- The text that `Writer.performAll` writes for any steps whose lines hold no line break is a
transcript: one line for each step, after the spaces of the step's level, and no white space at the
ends of lines unless a line asks for it. The steps may close blocks that are not open; the level
then stays at zero. -/
theorem isTranscript_performAll
    (hsteps : ∀ content, Step.line content ∈ steps → '\n' ∉ content.toList) (width : Nat) :
    IsTranscript width steps ((Writer.ofWidth width).performAll steps).text := by
  have hunbroken : ∀ step ∈ steps, '\n' ∉ step.content :=
    forall_content (p := fun content => '\n' ∉ content) hsteps fun _ htidy => htidy.unbroken.1
  have hlines := linesOf_text_of_unbroken hunbroken width
  have hwhole : IsTranscript width steps (Layout.text width steps) := {
    terminated := toList_text hunbroken width
    length := by rw [hlines, List.length_map, length_linesFrom]
    row := fun front step back hsplit => getElem?_linesOf_text hunbroken width hsplit
    edges := fun hedges => getLast?_of_mem_linesOf hunbroken (forall_content
      (p := fun content => ∀ c ∈ content.getLast?, isWhiteSpace c = false) hedges
      fun _ htidy => htidy.ends) width }
  exact hwhole

/-- Steps that close more blocks than they open, with lines that are empty. -/
theorem isTranscript_performAll_unbalanced :
    let steps : List Step := [.closeBlock, .line "partial class Pool", .openBlock, .blank, .line "",
      .line "int size;", .closeBlock, .closeBlock]
    (∀ content, Step.line content ∈ steps → '\n' ∉ content.toList) ∧
      IsTranscript 4 steps ((Writer.ofWidth 4).performAll steps).text := by
  intro steps
  have hsteps : ∀ content, Step.line content ∈ steps → '\n' ∉ content.toList := by
    intro content hmem
    have hcontent : content = "partial class Pool" ∨ content = "" ∨ content = "int size;" := by
      simpa [steps] using hmem
    rcases hcontent with rfl | rfl | rfl <;> decide
  exact ⟨hsteps, isTranscript_performAll hsteps 4⟩

end Writer

/-! ## The level -/

/-- How many more blocks steps open than they close, as an integer. -/
def surplus (steps : List Step) : Int := steps.count .openBlock - steps.count .closeBlock

/-- A step adds its `rise` to the surplus and takes away its `fall`. -/
theorem surplus_concat (front : List Step) (step : Step) :
    surplus (front ++ [step]) = surplus front + step.rise - step.fall := by
  have hcounts : [step].count .openBlock = step.rise ∧ [step].count .closeBlock = step.fall := by
    cases step <;> simp [Step.rise, Step.fall]
  rw [surplus, surplus, List.count_append, List.count_append, hcounts.1, hcounts.2]
  omega

theorem levelAfter_concat (front : List Step) (step : Step) :
    levelAfter (front ++ [step]) = levelAfter front + step.rise - step.fall := by
  rw [levelAfter, List.foldl_concat, ← levelAfter, step.after_eq]

/-- The level `levelAfter` steps is the greatest surplus among the steps since any point in time:
the suffixes count what was opened after a level was cut off at zero. -/
theorem isGreatest_levelAfter (steps : List Step) :
    IsGreatest {count | ∃ back, back <:+ steps ∧ surplus back = count}
      (levelAfter steps : Int) := by
  induction steps using List.reverseRecOn with
  | nil =>
    refine ⟨⟨[], List.nil_suffix, rfl⟩, ?_⟩
    rintro _ ⟨back, hback, rfl⟩
    rw [List.suffix_nil.mp hback]
    exact le_rfl
  | append_singleton front step ih =>
    obtain ⟨⟨back, hback, hsurplus⟩, hgreatest⟩ := ih
    rw [levelAfter_concat]
    refine ⟨?_, ?_⟩
    · -- a closing brace at level zero forgets all that was opened before it
      by_cases hzero : levelAfter front + step.rise < step.fall
      · have hback : levelAfter front + step.rise - step.fall = 0 :=
          Nat.sub_eq_zero_of_le (Nat.le_of_lt hzero)
        rw [hback]
        exact ⟨[], List.nil_suffix, rfl⟩
      · refine ⟨back ++ [step], List.suffix_concat_iff.mpr (.inr ⟨back, rfl, hback⟩), ?_⟩
        rw [surplus_concat, hsurplus]
        omega
    · rintro _ ⟨recent, hrecent, rfl⟩
      rcases List.suffix_concat_iff.mp hrecent with rfl | ⟨earlier, rfl, hearlier⟩
      · exact Int.natCast_nonneg _
      · have hbound : surplus earlier ≤ levelAfter front := hgreatest ⟨earlier, hearlier, rfl⟩
        rw [surplus_concat]
        omega

/-- The level of a writer after `performAll` is the greatest surplus among the steps since any point
in time. -/
theorem Writer.isGreatest_level (width : Nat) (steps : List Step) :
    IsGreatest {count | ∃ back, back <:+ steps ∧ surplus back = count}
      (((Writer.ofWidth width).performAll steps).level : Int) := by
  have hwidth : (Writer.ofWidth width).HasWidth width := rfl
  rw [performAll_eq hwidth]
  exact isGreatest_levelAfter steps

end Companion.Layout
