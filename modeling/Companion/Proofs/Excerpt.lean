import Companion.Diagnostic.Terminal
import Companion.Proofs.SourceLines
import Mathlib.Data.Nat.Digits.Lemmas

/-! # Excerpts

A diagnostic is shown with the line of source at its place, between two rows that are aligned with
it. `Diagnostic.IsExcerpt` says what the three rows are: bars in one column, the line as it is, and
carets that start below the column of the diagnostic. `Diagnostic.isExcerpt_render` says that such
an excerpt stands in the text of a diagnostic exactly if the line can be had, and that the further
remarks follow in any case. -/

namespace Companion

namespace SourceFile

theorem mem_of_mem_withoutReturn {c : Char} {piece : List Char} (hc : c ∈ withoutReturn piece) :
    c ∈ piece := by
  rw [withoutReturn] at hc
  split at hc
  case isTrue => exact List.dropLast_subset piece hc
  case isFalse => exact hc

/-- No line `SourceFile.line?` of a file holds a line break. -/
theorem newline_not_mem_line {file : SourceFile} {number : Nat} {line : String}
    (hline : file.line? number = some line) : '\n' ∉ line.toList := by
  have hnumber := (file.isSome_line?_iff number).mp (Option.isSome_of_eq_some hline)
  obtain ⟨index, rfl⟩ : ∃ index, number = index + 1 := ⟨number - 1, by omega⟩
  rw [lineCount_eq] at hnumber
  rw [line?_eq_some (List.getElem?_eq_getElem hnumber.2), Option.some.injEq] at hline
  rw [← hline, String.toList_ofList]
  intro hmem
  exact (splitOn_newline file.content.toList).1 _ (List.getElem_mem hnumber.2)
    (mem_of_mem_withoutReturn hmem)

end SourceFile

/-- A location that leads `lineText?` to a line is known, and the line holds no line break. -/
theorem SourceDatabase.lineText?_eq_some {database : SourceDatabase} {location : Location}
    {line : String} (hline : database.lineText? location = some line) :
    location.isUnknown = false ∧ '\n' ∉ line.toList := by
  rw [lineText?] at hline
  split at hline
  case isTrue => cases hline
  case isFalse hknown =>
    obtain ⟨file, -, hfile⟩ := Option.bind_eq_some_iff.mp hline
    exact ⟨by simpa using hknown, SourceFile.newline_not_mem_line hfile⟩

/-! ## Numbers -/

/-- A number is written by `Nat.toDigits` with as many characters as it has decimal digits. -/
theorem length_toDigits {number : Nat} (hnumber : number ≠ 0) :
    (Nat.toDigits 10 number).length = (Nat.digits 10 number).length := by
  have hpositive : 0 < (Nat.digits 10 number).length :=
    List.length_pos_iff.mpr (Nat.digits_ne_nil_iff_ne_zero.mpr hnumber)
  -- both lengths are the least exponent of a power of ten above the number
  refine Nat.le_antisymm ?_ ?_
  · rw [Nat.length_toDigits_le_iff (by decide) hpositive,
      ← Nat.digits_length_le_iff (by decide)]
  · rw [Nat.digits_length_le_iff (by decide),
      ← Nat.length_toDigits_le_iff (by decide) Nat.length_toDigits_pos]

namespace Diagnostic

/-! ## The rows of an excerpt -/

/-- A row of an excerpt: a gutter of a given width, which has neither bars nor line breaks, a bar,
and what follows it. -/
def IsRow (width : Nat) (rest row : List Char) : Prop :=
  ∃ gutter, gutter.length = width ∧ '|' ∉ gutter ∧ '\n' ∉ gutter ∧ row = gutter ++ '|' :: rest

/-- What stands below the line `above` before a column: a tab below each tab, and a space below each
other character, as far as the line goes. -/
structure Pads (above : List Char) (column : Nat) (padding : List Char) : Prop where
  /-- It ends before the column, or at the end of the line. -/
  length_eq : padding.length = min (max column 1 - 1) above.length
  /-- It has a tab where the line has one, and spaces elsewhere. -/
  tab_iff : ∀ index : Fin padding.length,
    (padding[index] = '\t' ↔ above[index.val]? = some '\t') ∧
      (padding[index] ≠ '\t' → padding[index] = ' ')

/-- The remark of the first `primary` label of a diagnostic, after a space; nothing if there is no
such label. -/
inductive FirstRemark : List Label → List Char → Prop
  /-- No label is at the own place. -/
  | none {labels : List Label} (hlabels : ∀ label ∈ labels, label.style ≠ .primary) :
    FirstRemark labels []
  /-- A label is the first one at the own place. -/
  | first {front back : List Label} {label : Label}
    (hfront : ∀ label ∈ front, label.style ≠ .primary) (hlabel : label.style = .primary) :
    FirstRemark (front ++ label :: back) (' ' :: label.message.toList)

/-- The width of what stands before the bars of an excerpt: the digits of the line's number, and a
space. -/
def gutterWidth (diagnostic : Diagnostic) : Nat :=
  (Nat.digits 10 diagnostic.location.line).length + 1

/-- Three rows (`IsRow`) that show a line of source and mark the place of a diagnostic below it. -/
structure IsExcerpt (diagnostic : Diagnostic) (line : String) (blank shown marked : String) :
    Prop where
  /-- The first row has nothing after the bar. -/
  blank_isRow : IsRow diagnostic.gutterWidth [] blank.toList
  /-- The second row has the line after the bar. -/
  shown_isRow : IsRow diagnostic.gutterWidth (' ' :: line.toList) shown.toList
  /-- The line is a single one. -/
  line_unbroken : '\n' ∉ line.toList
  /-- The third row has carets after the bar, below the place of the diagnostic, and a remark. -/
  marked_isRow : ∃ padding remark, Pads line.toList diagnostic.location.column padding ∧
    FirstRemark diagnostic.labels remark ∧
    IsRow diagnostic.gutterWidth
      (' ' :: padding ++ List.replicate (max diagnostic.location.length 1) '^' ++ remark)
      marked.toList

/-- What `underlinePadding` puts below a line stands in the columns of the line (`Pads`). -/
theorem pads_underlinePadding (line : List Char) (column : Nat) :
    Pads line column (underlinePadding line column) where
  length_eq := by
    rw [underlinePadding, List.length_map, List.length_take]
    omega
  tab_iff := by
    rintro ⟨index, hindex⟩
    rw [underlinePadding, List.length_map, List.length_take] at hindex
    have hline : index < line.length := by omega
    simp only [underlinePadding, Fin.getElem_fin, List.getElem_map, List.getElem_take,
      List.getElem?_eq_getElem hline, Option.some.injEq]
    split <;> simp_all

/-- Below a tab stands a tab. -/
example : underlinePadding "\tclass A".toList 8 = "\t      ".toList := by decide

theorem firstRemark_primaryRemark (diagnostic : Diagnostic) :
    FirstRemark diagnostic.labels diagnostic.primaryRemark.toList := by
  rw [primaryRemark]
  split
  case h_1 label hfind =>
    obtain ⟨hlabel, front, back, hlabels, hfront⟩ := List.find?_eq_some_iff_append.mp hfind
    rw [hlabels, String.toList_append]
    exact .first (fun other hother => by simpa using hfront other hother) (by simpa using hlabel)
  case h_2 hfind =>
    exact .none fun label hlabel => by simpa using List.find?_eq_none.mp hfind label hlabel

/-- The digits of a number, or a space for each of them, and another space make the gutter of a row
(`IsRow`). -/
theorem isRow_append {number : Nat} (hnumber : number ≠ 0) {front : List Char}
    (hlength : front.length = (Nat.toDigits 10 number).length)
    (hfront : ∀ c ∈ front, c = ' ' ∨ c.isDigit = true) (rest : List Char) :
    IsRow ((Nat.digits 10 number).length + 1) rest (front ++ ' ' :: '|' :: rest) := by
  have hgutter : ∀ c : Char, c ≠ ' ' → c.isDigit = false → c ∉ front ++ [' '] := by
    intro c hspace hdigit hmem
    rcases List.mem_append.mp hmem with hmem | hmem
    · simpa [hspace, hdigit] using hfront c hmem
    · exact hspace (List.mem_singleton.mp hmem)
  refine ⟨front ++ [' '], ?_, hgutter _ (by decide) (by decide), hgutter _ (by decide) (by decide),
    by simp⟩
  rw [List.length_append, hlength, length_toDigits hnumber, List.length_singleton]

/-- A line without line breaks is shown by `excerpt` in three rows that line up: they satisfy
`IsExcerpt`. -/
theorem isExcerpt_excerpt {diagnostic : Diagnostic} {line : String}
    (hknown : diagnostic.location.isUnknown = false) (hline : '\n' ∉ line.toList) :
    ∃ blank shown marked, diagnostic.excerpt line = [blank, shown, marked] ∧
      diagnostic.IsExcerpt line blank shown marked := by
  have hnumber : diagnostic.location.line ≠ 0 := by simpa [Location.isUnknown] using hknown
  -- the margin of the blank rows is as wide as the line number
  have hmargin : (toString diagnostic.location.line).length
      = (Nat.toDigits 10 diagnostic.location.line).length := by
    rw [← String.length_toList, Nat.toString_eq_repr, Nat.toList_repr]
  have hspaces := isRow_append hnumber (by rw [List.length_replicate, hmargin])
    fun c (hc : c ∈ List.replicate (toString diagnostic.location.line).length ' ') =>
      .inl (List.eq_of_mem_replicate hc)
  have hdigits := isRow_append hnumber rfl
    fun c hc => .inr (Nat.isDigit_of_mem_toDigits (by decide) (by decide) hc)
  refine ⟨_, _, _, rfl, ?blank, ?shown, hline,
    underlinePadding line.toList diagnostic.location.column, diagnostic.primaryRemark.toList,
    pads_underlinePadding .., firstRemark_primaryRemark diagnostic, ?marked⟩
  case blank =>
    rw [String.toList_append, String.toList_ofList]
    exact hspaces []
  case shown =>
    rw [String.toList_append, String.toList_append, Nat.toString_eq_repr, Nat.toList_repr,
      List.append_assoc]
    exact hdigits (' ' :: line.toList)
  case marked =>
    simp only [String.toList_append, String.toList_ofList, List.append_assoc]
    exact hspaces _

/-! ## The text of a diagnostic -/

/-- The `excerpt` of a line that can be had stands among the `lines` between the place and the
`remarkLines`. -/
theorem lines_eq_append (color : Bool) (sources : SourceDatabase) (diagnostic : Diagnostic) :
    diagnostic.lines color sources
      = (diagnostic.heading color :: (if diagnostic.location.isUnknown then []
          else ["  --> " ++ diagnostic.location.display]))
        ++ (sources.lineText? diagnostic.location).elim [] diagnostic.excerpt
        ++ diagnostic.remarkLines := by
  rw [lines, placeLines]
  split
  case isTrue hunknown => simp [SourceDatabase.lineText?, hunknown]
  case isFalse => cases sources.lineText? diagnostic.location <;> simp

/-- What `render` shows of a diagnostic, for every diagnostic and every collection of sources: its
heading, its place if it is known, the excerpt of the line at the place if this line can be had, and
the further remarks in their order: about other places, then notes, then advice. The excerpt are
three rows as `IsExcerpt` says, so that the marks stand below the place. -/
theorem isExcerpt_render (color : Bool) (sources : SourceDatabase) (diagnostic : Diagnostic) :
    ∃ excerpt : List String,
      diagnostic.render color sources = String.join
        (((diagnostic.heading color :: (if diagnostic.location.isUnknown then []
              else ["  --> " ++ diagnostic.location.display]))
          ++ excerpt
          ++ ((diagnostic.labels.filter (·.style == .secondary)).map (fun label =>
              "   = note: " ++ label.message ++ " (" ++ label.location.display ++ ")")
            ++ diagnostic.notes.map ("   = note: " ++ ·)
            ++ diagnostic.help.map ("   = help: " ++ ·))).map (· ++ "\n")) ∧
      (diagnostic.location.isUnknown = true → excerpt = []) ∧
      match sources.lineText? diagnostic.location with
      | none => excerpt = []
      | some line => ∃ blank shown marked, excerpt = [blank, shown, marked] ∧
          diagnostic.IsExcerpt line blank shown marked := by
  refine ⟨(sources.lineText? diagnostic.location).elim [] diagnostic.excerpt, ?_, ?_, ?_⟩
  · rw [render, lines_eq_append, remarkLines]
  · intro hunknown
    rw [SourceDatabase.lineText?, if_pos hunknown, Option.elim_none]
  · cases hline : sources.lineText? diagnostic.location with
    | none => rfl
    | some line =>
      obtain ⟨hknown, hbreak⟩ := SourceDatabase.lineText?_eq_some hline
      exact isExcerpt_excerpt hknown hbreak

end Diagnostic

end Companion
