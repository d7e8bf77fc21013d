import Companion.Part
import Companion.Text.CharClass
import Companion.Proofs.Layout

/-! # The shape of laid-out texts

`IsWellShaped` says what is seen of a text before any of its words is read: where lines end, which
braces belong together, and how far each line is indented. `Nests` says of steps that every closing
brace closes a block and that every line is tidy. One lemma for each question says what a step
writes at its level, and the induction over the steps leads to the whole text:
`Nests.isWellShaped_text`. -/

namespace Companion

namespace Layout

open Text

theorem toList_openingBrace : openingBrace.toList = ['\x7b'] := rfl

theorem toList_closingBrace : closingBrace.toList = ['\x7d'] := rfl

/-! ## Balanced braces -/

/-- Reading `text` leads from `before` open braces to `after` open braces, and no brace is closed
that is not open. -/
structure Balances (before after : Nat) (text : List Char) : Prop where
  /-- No prefix closes more braces than are open. -/
  prefixes : ∀ front, front <+: text → front.count '\x7d' ≤ before + front.count '\x7b'
  /-- All of the text leads from the one number to the other. -/
  total : before + text.count '\x7b' = after + text.count '\x7d'

namespace Balances

variable {before between after : Nat} {first second text : List Char}

/-- A text without braces balances at every level. -/
theorem of_not_mem (hopen : '\x7b' ∉ text) (hclose : '\x7d' ∉ text) (level : Nat) :
    Balances level level text where
  prefixes := by
    intro front hfront
    rw [List.count_eq_zero_of_not_mem fun hmem => hclose (hfront.subset hmem)]
    exact Nat.zero_le _
  total := by rw [List.count_eq_zero_of_not_mem hopen, List.count_eq_zero_of_not_mem hclose]

theorem append (hfirst : Balances before between first) (hsecond : Balances between after second) :
    Balances before after (first ++ second) where
  prefixes := by
    intro front hfront
    rcases List.prefix_or_prefix_of_prefix hfront (List.prefix_append first second) with
      hshort | ⟨rest, rfl⟩
    · exact hfirst.prefixes front hshort
    · -- the prefix has all of the first text
      have hrest := hsecond.prefixes rest ((List.prefix_append_right_inj first).mp hfront)
      have htotal := hfirst.total
      rw [List.count_append, List.count_append]
      omega
  total := by
    have hleft := hfirst.total
    have hright := hsecond.total
    rw [List.count_append, List.count_append]
    omega

/-- For a single character only the text itself needs to be looked at, since its other prefix is
empty. -/
theorem of_singleton {c : Char} (hclose : [c].count '\x7d' ≤ before + [c].count '\x7b')
    (htotal : before + [c].count '\x7b' = after + [c].count '\x7d') :
    Balances before after [c] where
  prefixes := by
    intro front hfront
    rcases List.prefix_cons_iff.mp hfront with rfl | ⟨rest, rfl, hrest⟩
    · simp
    · rw [List.prefix_nil.mp hrest]
      exact hclose
  total := htotal

/-- The text `openingBrace` leads from a level to the next one. -/
theorem opening (level : Nat) : Balances level (level + 1) openingBrace.toList := by
  rw [toList_openingBrace]
  exact of_singleton (by simp) rfl

/-- The text `closingBrace` leads back from the next level. -/
theorem closing (level : Nat) : Balances (level + 1) level closingBrace.toList := by
  rw [toList_closingBrace]
  exact of_singleton (by simp) rfl

end Balances

/-! ## Lines and levels -/

/-- The lines of a text: what stands before each of its line breaks, as `List.splitOn` cuts it. -/
def linesOf (text : String) : List (List Char) := (text.toList.splitOn '\n').dropLast

/-- The number of lines that are `openingBrace`, the spaces before it aside. -/
def opens (lines : List (List Char)) : Nat :=
  lines.countP fun line => flushed line == openingBrace.toList

/-- The number of lines that are `closingBrace`, the spaces before it aside. -/
def closes (lines : List (List Char)) : Nat :=
  lines.countP fun line => flushed line == closingBrace.toList

/-- The level of a line: `opens` of the lines before it, less `closes` of those lines and itself. As
an integer it can be negative for an arbitrary text. -/
def depth (front : List (List Char)) (line : List Char) : Int :=
  opens front - closes (front ++ [line])

/-- What is seen of a text without reading its words, in the lines `linesOf` of the text itself: no
carriage return, a final brace and line break, no white space at the ends of lines, balanced braces,
and every line that is not empty indented by `width` spaces for each level of its `depth`. -/
structure IsWellShaped (width : Nat) (text : String) : Prop where
  /-- There is no carriage return. -/
  carriage : '\r' ∉ text.toList
  /-- The text ends in a closing brace and a line break. -/
  ending : ['\x7d', '\n'] <:+ text.toList
  /-- No line ends in white space. -/
  edges : ∀ line ∈ linesOf text, ∀ c ∈ line.getLast?, isWhiteSpace c = false
  /-- The braces are balanced, and no prefix closes more than it opens: `Balances` from 0 to 0. -/
  braces : Balances 0 0 text.toList
  /-- No level is negative. -/
  depth_nonneg : ∀ front line back, linesOf text = front ++ line :: back → 0 ≤ depth front line
  /-- Every line that is not empty starts with exactly the spaces of its `depth`. -/
  indentation : ∀ front line back, linesOf text = front ++ line :: back → line ≠ [] →
    ∃ first rest, line = List.replicate (width * (depth front line).toNat) ' ' ++ first :: rest ∧
      isWhiteSpace first = false
  /-- The level of the last line is zero. -/
  depth_last : ∀ front line, linesOf text = front ++ [line] → depth front line = 0

theorem opens_append (front back : List (List Char)) :
    opens (front ++ back) = opens front + opens back :=
  List.countP_append

theorem closes_append (front back : List (List Char)) :
    closes (front ++ back) = closes front + closes back :=
  List.countP_append

/-! ## One step -/

/-- The characters that shape a text: the line breaks and the braces. -/
def shapers : List Char := ['\n', '\r', '\x7b', '\x7d']

/-- A text with none of the `shapers`. -/
def IsPlain (text : List Char) : Prop := ∀ c ∈ text, c ∉ shapers

instance (text : List Char) : Decidable (IsPlain text) :=
  decidable_of_iff ((text.all fun c => !shapers.contains c) = true) (by simp [IsPlain])

theorem isPlain_append {first second : List Char} :
    IsPlain (first ++ second) ↔ IsPlain first ∧ IsPlain second :=
  List.forall_mem_append

/-- A content of a line that leaves the shape of a text as it is: on one line, without white space
at the edges, and with balanced braces. -/
structure IsTidy (content : List Char) : Prop where
  /-- It starts with a character that is neither white space nor shapes the text. -/
  starts : ∃ first rest, content = first :: rest ∧ isWhiteSpace first = false ∧ first ∉ shapers
  /-- It does not end in white space. -/
  ends : ∀ c ∈ content.getLast?, isWhiteSpace c = false
  /-- There is no line break. -/
  newline : '\n' ∉ content
  /-- There is no carriage return. -/
  carriage : '\r' ∉ content
  /-- Its braces are balanced. -/
  braces : ∀ level, Balances level level content

/-- A plain content between characters that are no white space is tidy: without `shapers` the braces
balance and the line stays one. -/
theorem IsTidy.of_isPlain {content : List Char} (first last : Char) (hplain : IsPlain content)
    (hfirst : content.head? = some first) (hlast : content.getLast? = some last)
    (hstart : isWhiteSpace first = false) (hend : isWhiteSpace last = false) : IsTidy content where
  starts := by
    obtain ⟨rest, rfl⟩ := List.head?_eq_some_iff.mp hfirst
    exact ⟨first, rest, rfl, hstart, hplain first List.mem_cons_self⟩
  ends := by simpa [hlast] using hend
  newline hmem := hplain _ hmem (by decide)
  carriage hmem := hplain _ hmem (by decide)
  braces := .of_not_mem (fun hmem => hplain _ hmem (by decide)) fun hmem =>
    hplain _ hmem (by decide)

namespace Step

/-- How many levels a step opens. -/
def rise : Step → Nat
  | .openBlock => 1
  | _ => 0

/-- How many levels a step closes. -/
def fall : Step → Nat
  | .closeBlock => 1
  | _ => 0

theorem after_eq (level : Nat) (step : Step) :
    step.after level = level + step.rise - step.fall := by
  cases step <;> rfl

/-- A step that writes a tidy line (`Layout.IsTidy`), an empty line or a brace. -/
def IsTidy : Step → Prop
  | .line content => Layout.IsTidy content.toList
  | _ => True

/-- A step writes its `content` after the spaces of the level less `Step.fall`, or an empty line. -/
theorem toList_written_eq (width level : Nat) (step : Step) :
    (step.written width level).toList
      = if step.content = [] then []
        else List.replicate (width * (level - step.fall)) ' ' ++ step.content := by
  have hindented (level : Nat) (content : String) : (indented width level content).toList
      = if content.toList = [] then []
        else List.replicate (width * level) ' ' ++ content.toList := by
    rw [indented]
    by_cases hempty : content = ""
    · simp [hempty]
    · simp [hempty]
  cases step with
  | line content => exact hindented level content
  | blank => rfl
  | openBlock => exact hindented level openingBrace
  | closeBlock => exact hindented (level - 1) closingBrace

/-- What `Step.written` writes does not end in white space if the content does not. -/
theorem getLast?_written {step : Step}
    (hends : ∀ c ∈ step.content.getLast?, isWhiteSpace c = false) (width level : Nat) :
    ∀ c ∈ (step.written width level).toList.getLast?, isWhiteSpace c = false := by
  rw [toList_written_eq]
  by_cases hempty : step.content = []
  · simp [hempty]
  · rw [if_neg hempty, List.getLast?_append_of_ne_nil _ hempty]
    exact hends

variable {step : Step}

/-- The content of a tidy step is empty or starts with a character that is no white space, as braces
do. -/
theorem IsTidy.starts (htidy : step.IsTidy) :
    step.content = [] ∨
      ∃ first rest, step.content = first :: rest ∧ isWhiteSpace first = false := by
  cases step with
  | line content =>
    obtain ⟨first, rest, hcontent, hfirst, -⟩ := Layout.IsTidy.starts htidy
    exact Or.inr ⟨first, rest, hcontent, hfirst⟩
  | blank => exact Or.inl rfl
  | openBlock => exact Or.inr ⟨'\x7b', [], rfl, by decide⟩
  | closeBlock => exact Or.inr ⟨'\x7d', [], rfl, by decide⟩

/-- The content of a tidy step does not end in white space. -/
theorem IsTidy.ends (htidy : step.IsTidy) :
    ∀ c ∈ step.content.getLast?, isWhiteSpace c = false := by
  cases step with
  | line content => exact Layout.IsTidy.ends htidy
  | blank => exact nofun
  | openBlock => rintro c ⟨⟩; decide
  | closeBlock => rintro c ⟨⟩; decide

/-- The content of a tidy step stays on one line. -/
theorem IsTidy.unbroken (htidy : step.IsTidy) : '\n' ∉ step.content ∧ '\r' ∉ step.content := by
  cases step with
  | line content => exact ⟨Layout.IsTidy.newline htidy, Layout.IsTidy.carriage htidy⟩
  | blank => exact ⟨nofun, nofun⟩
  | openBlock => decide
  | closeBlock => decide

/-- The content of a tidy step leads from the level of the step to `step.after level`, as `Balances`
counts braces. -/
theorem IsTidy.balances_content (htidy : step.IsTidy) {level : Nat} (hlevel : step.fall ≤ level) :
    Balances level (step.after level) step.content := by
  cases step with
  | line content => exact Layout.IsTidy.braces htidy level
  | blank => exact .of_not_mem (by simp [content]) (by simp [content]) level
  | openBlock => exact .opening level
  | closeBlock =>
    obtain ⟨below, rfl⟩ := Nat.exists_eq_add_of_le' hlevel
    exact .closing below

/-- The content of a tidy step is `openingBrace` exactly for `Step.openBlock`, and `closingBrace`
exactly for `Step.closeBlock`. -/
theorem IsTidy.content_eq_brace_iff (htidy : step.IsTidy) :
    (step.content = openingBrace.toList ↔ step = .openBlock) ∧
      (step.content = closingBrace.toList ↔ step = .closeBlock) := by
  cases step with
  | line content =>
    obtain ⟨first, rest, hcontent, -, hfirst⟩ := Layout.IsTidy.starts htidy
    rw [Step.content, hcontent, toList_openingBrace, toList_closingBrace, List.cons.injEq,
      List.cons.injEq]
    refine ⟨iff_of_false ?_ nofun, iff_of_false ?_ nofun⟩
    · rintro ⟨rfl, -⟩
      exact hfirst (by decide)
    · rintro ⟨rfl, -⟩
      exact hfirst (by decide)
  | blank => decide
  | openBlock => decide
  | closeBlock => decide

/-- The content of a tidy step does not start with a space. -/
theorem IsTidy.flush (htidy : step.IsTidy) : step.content.head? ≠ some ' ' := by
  rcases htidy.starts with hempty | ⟨first, rest, hcontent, hfirst⟩
  · simp [hempty]
  · rw [hcontent, List.head?_cons, ne_eq, Option.some.injEq]
    rintro rfl
    cases hfirst

/-- The line of a tidy step counts in `opens` and `closes` as `rise` and `fall` say. -/
theorem IsTidy.opens_closes_written (htidy : step.IsTidy) (width level : Nat) :
    opens [(step.written width level).toList] = step.rise ∧
      closes [(step.written width level).toList] = step.fall := by
  obtain ⟨hopen, hclose⟩ := htidy.content_eq_brace_iff
  rw [opens, closes, List.countP_singleton, List.countP_singleton,
    flushed_written htidy.flush]
  simp only [beq_iff_eq, hopen, hclose]
  cases step <;> exact ⟨rfl, rfl⟩

/-- The line of a tidy step is empty, or its content after the spaces of its own level, and that
content starts with no white space. -/
theorem IsTidy.written_cases (htidy : step.IsTidy) (width level : Nat) :
    (step.written width level).toList = [] ∨
      ∃ first rest, (step.written width level).toList
          = List.replicate (width * (level - step.fall)) ' ' ++ first :: rest ∧
        isWhiteSpace first = false := by
  rw [toList_written_eq]
  rcases htidy.starts with hempty | ⟨first, rest, hcontent, hfirst⟩
  · exact Or.inl (if_pos hempty)
  · rw [if_neg (by simp [hcontent]), hcontent]
    exact Or.inr ⟨first, rest, rfl, hfirst⟩

/-- The written line of a tidy step leads from the level to `step.after level`: the spaces count for
nothing. -/
theorem IsTidy.balances_written (htidy : step.IsTidy) (width : Nat) {level : Nat}
    (hlevel : step.fall ≤ level) :
    Balances level (step.after level) (step.written width level).toList := by
  have hcontent := htidy.balances_content hlevel
  rw [toList_written_eq]
  split
  · rename_i hempty
    rwa [hempty] at hcontent
  · exact (Balances.of_not_mem (by simp) (by simp) level).append hcontent

end Step

/-! ## All steps -/

/-- Tidy steps that lead from the level `before` to the level `after`, and close no block that is
not open. -/
inductive Nests : (before : Nat) → List Step → (after : Nat) → Prop
  /-- No step stays at the level. -/
  | nil {level : Nat} : Nests level [] level
  /-- A step leads to the level `step.after before` at which the next one starts. -/
  | cons {before after : Nat} {step : Step} {rest : List Step} (htidy : step.IsTidy)
      (hlevel : step.fall ≤ before) (hrest : Nests (step.after before) rest after) :
    Nests before (step :: rest) after

namespace Nests

variable {before between after width : Nat} {steps first second : List Step}

theorem append (hfirst : Nests before first between) (hsecond : Nests between second after) :
    Nests before (first ++ second) after := by
  induction hfirst with
  | nil => exact hsecond
  | cons htidy hlevel hrest ih => exact .cons htidy hlevel (ih hsecond)

/-- A tidy line stays at the level. -/
theorem line {level : Nat} {content : String} (htidy : Layout.IsTidy content.toList) :
    Nests level [.line content] level :=
  .cons htidy (Nat.zero_le _) .nil

/-- An empty line stays at the level. -/
theorem blank {level : Nat} : Nests level [.blank] level :=
  .cons trivial (Nat.zero_le _) .nil

/-- Steps each of which stays at the level stay there together, by induction on the list. -/
theorem of_forall_mem {level : Nat} (hsteps : ∀ step ∈ steps, Nests level [step] level) :
    Nests level steps level := by
  induction steps with
  | nil => exact .nil
  | cons step rest ih =>
    rw [List.forall_mem_cons] at hsteps
    exact hsteps.1.append (ih hsteps.2)

/-- Steps that `Part.block` puts between braces lead back to the level if they keep the level
inside. -/
theorem block {level : Nat} (hsteps : Nests (level + 1) steps (level + 1)) :
    Nests level (Part.block steps) level := by
  have hopen : Nests level [.openBlock] (level + 1) := .cons trivial (Nat.zero_le _) .nil
  have hclose : Nests (level + 1) [.closeBlock] level :=
    .cons trivial (Nat.le_add_left 1 level) .nil
  exact (hopen.append hsteps).append hclose

/-- Every line of `linesFrom` is that of a tidy step, at the level to which the lines before it
lead: `before` and the `opens` less the `closes` of those lines. After the last line the level is
`after`. -/
theorem exists_of_split (hnests : Nests before steps after) {front back : List (List Char)}
    {line : List Char}
    (hlines : (linesFrom width before steps).map String.toList = front ++ line :: back) :
    ∃ (level : Nat) (step : Step), step.IsTidy ∧ step.fall ≤ level ∧
      line = (step.written width level).toList ∧ before + opens front = level + closes front ∧
      (back = [] → after = step.after level) := by
  induction hnests generalizing front with
  | nil => simp at hlines
  | @cons before after step rest htidy hlevel hrest ih =>
    rw [linesFrom_cons, List.map_cons] at hlines
    cases front with
    | nil =>
      obtain ⟨hline, hback⟩ := List.cons.inj hlines
      refine ⟨before, step, htidy, hlevel, hline.symm, rfl, ?_⟩
      rintro rfl
      -- no line follows, so no step does
      have hnone : rest = [] := by
        have hlength := congrArg List.length hback
        rw [List.length_map, length_linesFrom] at hlength
        exact List.length_eq_zero_iff.mp hlength
      subst hnone
      cases hrest
      rfl
    | cons first others =>
      obtain ⟨hfirst, hothers⟩ := List.cons.inj hlines
      obtain ⟨level, found, hfound, hfall, hline, hcount, hlast⟩ := ih hothers
      refine ⟨level, found, hfound, hfall, hline, ?_, hlast⟩
      -- the first line counts as its step leads from level to level
      obtain ⟨hopens, hcloses⟩ := htidy.opens_closes_written width before
      have hsplit : first :: others = [(step.written width before).toList] ++ others := by
        rw [hfirst]
        rfl
      rw [step.after_eq] at hcount
      rw [hsplit, opens_append, closes_append, hopens, hcloses]
      omega

/-- All of the steps are tidy. -/
theorem isTidy_of_mem (hnests : Nests before steps after) : ∀ step ∈ steps, step.IsTidy := by
  induction hnests with
  | nil => exact nofun
  | cons htidy hlevel hrest ih => exact List.forall_mem_cons.mpr ⟨htidy, ih⟩

end Nests

/-! ## The text -/

theorem toList_join_cons (line : String) (rest : List String) :
    (String.join ((line :: rest).map (· ++ "\n"))).toList
      = line.toList ++ '\n' :: (String.join (rest.map (· ++ "\n"))).toList := by
  simp [String.toList_join]

/-- The lines `linesOf` of a laid-out text are those of `linesFrom` if each content stays on one
line. -/
theorem linesOf_text_of_unbroken {steps : List Step} (hsteps : ∀ step ∈ steps, '\n' ∉ step.content)
    (width : Nat) : linesOf (text width steps) = (linesFrom width 0 steps).map String.toList := by
  rw [linesOf, splitOn_text hsteps, List.dropLast_concat, lines]

/-- No line of a laid-out text ends in white space if no content does. -/
theorem getLast?_of_mem_linesOf {steps : List Step} (hsteps : ∀ step ∈ steps, '\n' ∉ step.content)
    (hends : ∀ step ∈ steps, ∀ c ∈ step.content.getLast?, isWhiteSpace c = false) (width : Nat) :
    ∀ line ∈ linesOf (text width steps), ∀ c ∈ line.getLast?, isWhiteSpace c = false := by
  rw [linesOf_text_of_unbroken hsteps]
  intro line hline
  obtain ⟨written, hwritten, rfl⟩ := List.mem_map.mp hline
  obtain ⟨step, hmem, level, rfl⟩ := exists_of_mem_linesFrom hwritten
  exact Step.getLast?_written (hends step hmem) width level

namespace Nests

variable {before after width : Nat} {steps front : List Step}

/-- The text of steps that nest from `before` to `after` balances between these levels: each step
adds its own line. -/
theorem balances (hnests : Nests before steps after) :
    Balances before after
      (String.join ((linesFrom width before steps).map (· ++ "\n"))).toList := by
  induction hnests with
  | nil => exact .of_not_mem (by simp) (by simp) _
  | @cons before after step rest htidy hlevel hrest ih =>
    rw [linesFrom_cons, toList_join_cons]
    have hbreak : Balances (step.after before) (step.after before) ['\n'] :=
      .of_not_mem (by decide) (by decide) _
    exact (htidy.balances_written width hlevel).append (hbreak.append ih)

/-- The lines `linesOf` of a text of nesting steps are those of `linesFrom`. -/
theorem linesOf_text (hnests : Nests 0 steps after) :
    linesOf (text width steps) = (linesFrom width 0 steps).map String.toList :=
  linesOf_text_of_unbroken (fun step hmem => (hnests.isTidy_of_mem step hmem).unbroken.1) width

/-- Every line of the text is that of a tidy step, and its `depth` is the level to which the lines
before it lead, less the block that the step closes. So the depth is a natural number. -/
theorem exists_of_linesOf (hnests : Nests 0 steps after) {front back : List (List Char)}
    {line : List Char} (hsplit : linesOf (text width steps) = front ++ line :: back) :
    ∃ (level : Nat) (step : Step), step.IsTidy ∧ line = (step.written width level).toList ∧
      depth front line = (level - step.fall : Nat) ∧ (back = [] → after = step.after level) := by
  rw [hnests.linesOf_text] at hsplit
  obtain ⟨level, step, htidy, hlevel, rfl, hcount, hlast⟩ := hnests.exists_of_split hsplit
  refine ⟨level, step, htidy, rfl, ?_, hlast⟩
  rw [depth, closes_append, (htidy.opens_closes_written width level).2]
  omega

/-- There is no carriage return in the text. -/
theorem carriage_not_mem_text (hnests : Nests 0 steps after) :
    '\r' ∉ (text width steps).toList := by
  rw [text_eq, lines, String.toList_join]
  intro hmem
  obtain ⟨written, hwritten, hin⟩ := List.mem_flatMap.mp hmem
  obtain ⟨line, hline, rfl⟩ := List.mem_map.mp hwritten
  obtain ⟨step, hstep, level, rfl⟩ := exists_of_mem_linesFrom hline
  have hcarriage := Step.not_mem_written (c := '\r') (by decide)
    (hnests.isTidy_of_mem step hstep).unbroken.2 width level
  simp [hcarriage] at hin

end Nests

/-- A text whose last step is `Step.closeBlock` ends in a closing brace and a line break. -/
theorem suffix_text_concat (width : Nat) (front : List Step) :
    ['\x7d', '\n'] <:+ (text width (front ++ [.closeBlock])).toList := by
  have hclosing : (Step.closeBlock.written width (levelAfter front)).toList
      = List.replicate (width * (levelAfter front - 1)) ' ' ++ ['\x7d'] :=
    Step.toList_written_eq width _ .closeBlock
  have hline : ((linesFrom width (levelAfter front) [.closeBlock]).map (· ++ "\n")).flatMap
        String.toList
      = List.replicate (width * (levelAfter front - 1)) ' ' ++ ['\x7d', '\n'] := by
    simp [hclosing]
  rw [text_eq, lines, linesFrom_append, ← levelAfter, String.toList_join, List.map_append,
    List.flatMap_append, hline]
  exact (List.suffix_append _ _).trans (List.suffix_append _ _)

/-- The text of steps that nest from 0 to 0 and end in `Step.closeBlock` is well shaped, whatever
the width is. -/
theorem Nests.isWellShaped_text {front : List Step} (hnests : Nests 0 (front ++ [.closeBlock]) 0)
    (width : Nat) : IsWellShaped width (text width (front ++ [.closeBlock])) where
  carriage := hnests.carriage_not_mem_text
  ending := suffix_text_concat width front
  edges := by
    have htidy := hnests.isTidy_of_mem
    exact getLast?_of_mem_linesOf (fun step hmem => (htidy step hmem).unbroken.1)
      (fun step hmem => (htidy step hmem).ends) width
  braces := by
    rw [text_eq]
    exact hnests.balances
  depth_nonneg := by
    intro before line back hsplit
    obtain ⟨level, step, -, -, hdepth, -⟩ := hnests.exists_of_linesOf hsplit
    rw [hdepth]
    exact Int.natCast_nonneg _
  indentation := by
    intro before line back hsplit hne
    obtain ⟨level, step, htidy, rfl, hdepth, -⟩ := hnests.exists_of_linesOf hsplit
    rw [hdepth, Int.toNat_natCast]
    exact (htidy.written_cases width level).resolve_left hne
  depth_last := by
    intro before line hsplit
    obtain ⟨level, step, -, -, hdepth, hlast⟩ := hnests.exists_of_linesOf hsplit
    -- the last step leads to level zero, so that it neither opens a block nor leaves one open
    have hzero := hlast rfl
    rw [step.after_eq] at hzero
    rw [hdepth]
    omega

end Layout

end Companion
