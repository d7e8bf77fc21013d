import Companion.Part.Layout
import Mathlib.Data.List.Basic

/-! # Reading laid-out texts

`Layout.unindented` cuts a text at its line breaks and drops the spaces before each line.
`unindented_text` says that this undoes `Layout.text`: whatever the width of a level, the lines of a
text are the contents of its steps, provided that each content stays on one line and does not start
with a space itself. -/

namespace Companion.Layout

/-! ## One line for each step -/

/-- Appending the spaces of `count` levels one after the other appends `width * count` spaces. -/
theorem foldl_append_replicate (width count : Nat) (front : String) :
    (List.replicate count (String.ofList (List.replicate width ' '))).foldl (· ++ ·) front
      = front ++ String.ofList (List.replicate (width * count) ' ') := by
  induction count generalizing front with
  | zero => simp
  | succ count ih =>
    rw [List.replicate_succ, List.foldl_cons, ih, String.append_assoc, ← String.ofList_append,
      List.replicate_append_replicate, Nat.mul_succ, Nat.add_comm width]

namespace Writer

variable {writer : Writer} {width : Nat}

/-- A writer whose levels are `width` spaces each: its `margin` is that many spaces. -/
def HasWidth (writer : Writer) (width : Nat) : Prop :=
  writer.margin = String.ofList (List.replicate width ' ')

/-- The step `Writer.line` appends `indented width writer.level content` and a line break, and
changes neither the margin nor the level. -/
theorem line_eq (hwidth : writer.HasWidth width) (content : String) :
    writer.line content
      = { writer with text := writer.text ++ (indented width writer.level content ++ "\n") } := by
  rw [line, indented]
  split
  · rw [blank, String.empty_append]
  · rw [hwidth, foldl_append_replicate]
    simp only [String.append_assoc]

/-- The step `Writer.perform` appends `step.written width writer.level` and a line break, and leads
to the level `step.after writer.level`. -/
theorem perform_eq (hwidth : writer.HasWidth width) (step : Step) :
    writer.perform step
      = ⟨writer.text ++ (step.written width writer.level ++ "\n"), writer.margin,
          step.after writer.level⟩ := by
  cases step with
  | line content => exact line_eq hwidth content
  | blank => rfl
  | openBlock =>
    rw [perform, openBlock, line_eq hwidth]
    rfl
  | closeBlock =>
    have hback : { writer with level := writer.level - 1 }.HasWidth width := hwidth
    exact line_eq hback closingBrace

theorem HasWidth.perform (hwidth : writer.HasWidth width) (step : Step) :
    (writer.perform step).HasWidth width := by
  rw [perform_eq hwidth]
  exact hwidth

/-- The step `Writer.performAll` appends `linesFrom width writer.level steps`, each line with a line
break after it: the run of the writer is the list of lines. -/
theorem performAll_eq (hwidth : writer.HasWidth width) (steps : List Step) :
    writer.performAll steps
      = ⟨writer.text ++ String.join ((linesFrom width writer.level steps).map (· ++ "\n")),
          writer.margin, steps.foldl Step.after writer.level⟩ := by
  induction steps generalizing writer with
  | nil => simp [performAll]
  | cons step rest ih =>
    have hrest : writer.performAll (step :: rest) = (writer.perform step).performAll rest := rfl
    rw [hrest, ih (hwidth.perform step), perform_eq hwidth]
    simp [String.append_assoc]

end Writer

/-- The level to which steps lead from level 0: the fold of `Step.after` over them. -/
def levelAfter (steps : List Step) : Nat := steps.foldl Step.after 0

/-- The lines `linesFrom` of a concatenation: the later steps write their lines at the level
`front.foldl Step.after level` to which the earlier ones lead. -/
theorem linesFrom_append (width level : Nat) (front back : List Step) :
    linesFrom width level (front ++ back)
      = linesFrom width level front ++ linesFrom width (front.foldl Step.after level) back := by
  induction front generalizing level with
  | nil => rfl
  | cons step rest ih =>
    rw [List.cons_append, linesFrom_cons, ih, linesFrom_cons, List.cons_append, List.foldl_cons]

/-- The text of steps is the concatenation of `lines width steps`, with a line break after each. -/
theorem text_eq (width : Nat) (steps : List Step) :
    text width steps = String.join ((lines width steps).map (· ++ "\n")) := by
  have hwidth : (Writer.ofWidth width).HasWidth width := rfl
  rw [text, Writer.performAll_eq hwidth]
  exact String.empty_append

/-! ## Reading the lines -/

/-- What a step writes after the spaces of its level. -/
def Step.content : Step → List Char
  | .line content => content.toList
  | .blank => []
  | .openBlock => openingBrace.toList
  | .closeBlock => closingBrace.toList

/-- A content that can be read back from a laid-out text: it stays on one line and does not start
with a space. -/
structure IsLine (content : List Char) : Prop where
  /-- There is no line break. -/
  unbroken : '\n' ∉ content
  /-- There is no space at the start. -/
  flush : content.head? ≠ some ' '

/-- A line without its leading spaces: what `List.dropWhile` leaves of it. -/
def flushed (line : List Char) : List Char := line.dropWhile (· == ' ')

/-- The lines of a text without their leading spaces; the last one is what follows the last line
break. -/
def unindented (text : String) : List (List Char) := (text.toList.splitOn '\n').map flushed

/-- Spaces before a content that starts with none are dropped. -/
theorem flushed_replicate_append {content : List Char} (hcontent : content.head? ≠ some ' ')
    (count : Nat) : flushed (List.replicate count ' ' ++ content) = content := by
  have hspaces : ∀ c ∈ List.replicate count ' ', (c == ' ') = true := by
    intro c hc
    simp [List.eq_of_mem_replicate hc]
  rw [flushed, List.dropWhile_append_of_pos hspaces]
  cases content with
  | nil => rfl
  | cons first rest =>
    have hfirst : first ≠ ' ' := by simpa using hcontent
    exact List.dropWhile_cons_of_neg (by simpa using hfirst)

/-- The braces can be read back. -/
theorem isLine_braces : IsLine openingBrace.toList ∧ IsLine closingBrace.toList :=
  ⟨⟨by decide, by decide⟩, ⟨by decide, by decide⟩⟩

/-- A content is written after spaces only. -/
theorem toList_indented (width level : Nat) (content : String) :
    ∃ count, (indented width level content).toList
      = List.replicate count ' ' ++ content.toList := by
  rw [indented]
  split
  · rename_i hempty
    exact ⟨0, by simp_all⟩
  · exact ⟨width * level, by simp⟩

/-- A step writes its `Step.content` after spaces only, whatever the width and the level are. -/
theorem Step.toList_written (width level : Nat) (step : Step) :
    ∃ count, (step.written width level).toList
      = List.replicate count ' ' ++ step.content := by
  cases step with
  | line content => exact toList_indented width level content
  | blank => exact ⟨0, rfl⟩
  | openBlock => exact toList_indented width level openingBrace
  | closeBlock => exact toList_indented width (level - 1) closingBrace

/-- A character other than the space that is not in `step.content` is not in what the step writes.
-/
theorem Step.not_mem_written {step : Step} {c : Char} (hspace : c ≠ ' ') (hc : c ∉ step.content)
    (width level : Nat) : c ∉ (step.written width level).toList := by
  obtain ⟨count, hwritten⟩ := step.toList_written width level
  rw [hwritten, List.mem_append, List.mem_replicate]
  rintro (⟨-, hequal⟩ | hmem)
  · exact hspace hequal
  · exact hc hmem

/-- The line of a step without its leading spaces is `step.content`: `flushed` undoes the
indentation. -/
theorem Step.flushed_written {step : Step} (hstep : step.content.head? ≠ some ' ')
    (width level : Nat) : flushed (step.written width level).toList = step.content := by
  obtain ⟨count, hwritten⟩ := step.toList_written width level
  rw [hwritten, flushed_replicate_append hstep]

/-- Lines with a line break after each, cut at the line breaks: the lines again, and an empty piece
after the last line break. -/
theorem splitOn_join {lines : List String} (hlines : ∀ line ∈ lines, '\n' ∉ line.toList) :
    (String.join (lines.map (· ++ "\n"))).toList.splitOn '\n'
      = lines.map String.toList ++ [[]] := by
  rw [String.toList_join]
  induction lines with
  | nil => rfl
  | cons line rest ih =>
    rw [List.forall_mem_cons] at hlines
    have hcut := List.splitOn_append_cons_self_of_not_mem hlines.1
      ((rest.map (· ++ "\n")).flatMap String.toList)
    simpa [ih hlines.2] using hcut

/-- Every line of `linesFrom` is that of one of the steps, written at some level. -/
theorem exists_of_mem_linesFrom {width level : Nat} {steps : List Step} {line : String}
    (hline : line ∈ linesFrom width level steps) :
    ∃ step ∈ steps, ∃ own, line = step.written width own := by
  -- each step may change the level at which the next one is written
  induction steps generalizing level with
  | nil => cases hline
  | cons step rest ih =>
    rw [linesFrom_cons, List.mem_cons] at hline
    rcases hline with rfl | hrest
    · exact ⟨step, List.mem_cons_self, level, rfl⟩
    · obtain ⟨found, hmem, hfound⟩ := ih hrest
      exact ⟨found, List.mem_cons_of_mem _ hmem, hfound⟩

/-- The text `text width steps` cut at its line breaks gives `lines width steps`, and nothing after
the last of them. -/
theorem splitOn_text {steps : List Step} (hsteps : ∀ step ∈ steps, '\n' ∉ step.content)
    (width : Nat) :
    (text width steps).toList.splitOn '\n' = (lines width steps).map String.toList ++ [[]] := by
  rw [text_eq]
  refine splitOn_join fun line hline => ?_
  obtain ⟨step, hmem, level, rfl⟩ := exists_of_mem_linesFrom hline
  exact Step.not_mem_written (by decide) (hsteps step hmem) width level

/-- The lines `linesFrom` without the leading spaces gives the contents of the steps, at whatever
level it starts. -/
theorem map_flushed_linesFrom {steps : List Step}
    (hsteps : ∀ step ∈ steps, step.content.head? ≠ some ' ') (width level : Nat) :
    (linesFrom width level steps).map (fun line => flushed line.toList)
      = steps.map Step.content := by
  induction steps generalizing level with
  | nil => rfl
  | cons step rest ih =>
    rw [List.forall_mem_cons] at hsteps
    rw [linesFrom_cons, List.map_cons, Step.flushed_written hsteps.1, ih hsteps.2, List.map_cons]

/-- The function `unindented` undoes `text`: reading a laid-out text gives the contents of its steps
in order, and nothing after the last of them. -/
theorem unindented_text {steps : List Step} (hsteps : ∀ step ∈ steps, IsLine step.content)
    (width : Nat) : unindented (text width steps) = steps.map Step.content ++ [[]] := by
  have hcontents := map_flushed_linesFrom (fun step hmem => (hsteps step hmem).flush) width 0
  rw [unindented, splitOn_text (fun step hmem => (hsteps step hmem).unbroken), lines,
    List.map_append, List.map_map]
  exact congrArg (· ++ [[]]) hcontents

end Companion.Layout
