import Companion.Source.File
import Companion.Text.Pieces
import Mathlib.Data.List.Basic

/-! # The lines of a source file

A source file keeps the byte offsets at which its lines start and cuts a line out of its text by
them. No byte of a longer character is a line break, so these offsets are the borders of the pieces
that the line breaks separate: `lineStartsFrom_intercalate` finds each piece between them.
`SourceFile.isLineAt_splitOn` says that the lines of a file are the pieces of its text at its line
breaks, without the carriage return at their end, and that no line is cut out at an offset outside
the text or inside a character. -/

namespace Companion

namespace Text

/-! ## Line breaks among bytes -/

/-- The bytes of characters, one `String.utf8EncodeChar` after the other. -/
def encoded (chars : List Char) : List UInt8 := chars.flatMap String.utf8EncodeChar

@[simp] theorem encoded_append (front back : List Char) :
    encoded (front ++ back) = encoded front ++ encoded back :=
  List.flatMap_append

@[simp] theorem encoded_newline_cons (rest : List Char) :
    encoded ('\n' :: rest) = 0x0A :: encoded rest := rfl

theorem bytes_eq_encoded (text : String) : bytes text = encoded text.toList := bytes_eq text

theorem utf8ByteSize_ofList (chars : List Char) :
    (String.ofList chars).utf8ByteSize = (encoded chars).length := by
  rw [← length_bytes, bytes_eq_encoded, String.toList_ofList]

/-- Only the line break has the byte `0x0A` in its encoding. -/
theorem newline_not_mem_utf8EncodeChar {c : Char} (hc : c ≠ '\n') :
    0x0A ∉ String.utf8EncodeChar c := by
  have hcode : c.val.toNat ≠ 0x0A := fun hcode => hc (Char.ext (UInt32.toNat_inj.mp hcode))
  rw [String.utf8EncodeChar]
  generalize c.val.toNat = code at *
  -- a character of one byte is its own code, and the bytes of the others are at least 0x80
  split_ifs <;> simp only [List.mem_cons, List.not_mem_nil, ← UInt8.toNat_inj,
    UInt8.toNat_ofNat'] <;> simp <;> omega

/-- Characters that are no line breaks have no byte `0x0A` in `encoded`. -/
theorem newline_not_mem_encoded {chars : List Char} (hchars : '\n' ∉ chars) :
    0x0A ∉ encoded chars := by
  intro hmem
  obtain ⟨c, hc, hbyte⟩ := List.mem_flatMap.mp hmem
  exact newline_not_mem_utf8EncodeChar (fun heq => hchars (heq ▸ hc)) hbyte

end Text

open Text

/-- Bytes that are no line breaks only move the offset of `lineStartsFrom`. -/
theorem lineStartsFrom_append {front : List UInt8} (hfront : 0x0A ∉ front) (offset : Nat)
    (rest : List UInt8) :
    lineStartsFrom offset (front ++ rest) = lineStartsFrom (offset + front.length) rest := by
  induction front generalizing offset with
  | nil => rfl
  | cons byte others ih =>
    rw [List.mem_cons, not_or] at hfront
    rw [List.cons_append, lineStartsFrom, if_neg (Ne.symm hfront.1), ih hfront.2,
      List.length_cons, Nat.add_right_comm, Nat.add_assoc]

/-- In a text of one line, `lineStartsFrom` finds no other line. -/
theorem lineStartsFrom_encoded {piece : List Char} (hpiece : '\n' ∉ piece) (offset : Nat) :
    lineStartsFrom offset (encoded piece) = [] := by
  have hstarts := lineStartsFrom_append (newline_not_mem_encoded hpiece) offset []
  rwa [List.append_nil] at hstarts

/-- After the first line, `lineStartsFrom` finds the next one behind its line break. -/
theorem lineStartsFrom_encoded_append {piece : List Char} (hpiece : '\n' ∉ piece) (offset : Nat)
    (rest : List Char) :
    lineStartsFrom offset (encoded (piece ++ '\n' :: rest))
      = (offset + (encoded piece).length + 1)
        :: lineStartsFrom (offset + (encoded piece).length + 1) (encoded rest) := by
  rw [encoded_append, encoded_newline_cons, lineStartsFrom_append (newline_not_mem_encoded hpiece),
    lineStartsFrom, if_pos rfl]

/-! ## Pieces between line breaks -/

/-- No piece of `List.splitOn` holds a line break, and there is one piece more than there are line
breaks. -/
theorem splitOn_newline (chars : List Char) :
    (∀ piece ∈ chars.splitOn '\n', '\n' ∉ piece) ∧
      (chars.splitOn '\n').length = chars.count '\n' + 1 :=
  ⟨fun _ => not_mem_of_mem_splitOn, length_splitOn '\n' chars⟩

/-- The pieces before an index, each with the line break after it: what stands before the piece at
the index. -/
def charsBefore (pieces : List (List Char)) (index : Nat) : List Char :=
  (pieces.take index).flatMap (· ++ ['\n'])

@[simp] theorem charsBefore_zero (pieces : List (List Char)) : charsBefore pieces 0 = [] := rfl

theorem charsBefore_cons_succ (first : List Char) (rest : List (List Char)) (index : Nat) :
    charsBefore (first :: rest) (index + 1) = first ++ '\n' :: charsBefore rest index := by
  simp [charsBefore]

theorem charsBefore_succ {pieces : List (List Char)} {index : Nat} {piece : List Char}
    (hpiece : pieces[index]? = some piece) :
    charsBefore pieces (index + 1) = charsBefore pieces index ++ piece ++ ['\n'] := by
  simp [charsBefore, List.take_add_one, hpiece]

/-- A piece stands after `charsBefore` its index, and the last piece stands at the end. -/
theorem exists_intercalate_eq {pieces : List (List Char)} {index : Nat} {piece : List Char}
    (hpiece : pieces[index]? = some piece) :
    ∃ back, ['\n'].intercalate pieces = charsBefore pieces index ++ piece ++ back ∧
      (index + 1 = pieces.length → back = []) := by
  induction pieces generalizing index with
  | nil => cases hpiece
  | cons first rest ih =>
    -- only the last piece has no line break after it
    cases rest with
    | nil =>
      obtain ⟨rfl, rfl⟩ : index = 0 ∧ first = piece := by
        simpa [List.getElem?_singleton] using hpiece
      exact ⟨[], by simp, fun _ => rfl⟩
    | cons second others =>
      rw [List.intercalate_cons_cons]
      cases index with
      | zero =>
        obtain rfl : first = piece := by simpa using hpiece
        exact ⟨'\n' :: ['\n'].intercalate (second :: others), by simp, by simp⟩
      | succ index =>
        obtain ⟨back, hcontent, hlast⟩ := ih hpiece
        refine ⟨back, ?_, fun hlength => hlast (by simpa using hlength)⟩
        rw [hcontent, charsBefore_cons_succ]
        simp

/-- The lines that `lineStartsFrom` finds start where the pieces do, at the number of bytes of
`charsBefore` their index; by induction on the pieces. -/
theorem lineStartsFrom_intercalate {pieces : List (List Char)} (hne : pieces ≠ [])
    (hpieces : ∀ piece ∈ pieces, '\n' ∉ piece) (offset : Nat) :
    offset :: lineStartsFrom offset (encoded (['\n'].intercalate pieces))
      = (List.range pieces.length).map fun index =>
          offset + (encoded (charsBefore pieces index)).length := by
  -- the offset of the remaining pieces grows by the piece in front of them and its line break
  induction pieces generalizing offset with
  | nil => exact absurd rfl hne
  | cons first rest ih =>
    rw [List.forall_mem_cons] at hpieces
    rw [List.length_cons, List.range_succ_eq_map, List.map_cons, List.map_map, charsBefore_zero]
    cases rest with
    | nil =>
      rw [List.intercalate_singleton, lineStartsFrom_encoded hpieces.1]
      rfl
    | cons second others =>
      rw [List.intercalate_cons_cons, List.append_assoc, List.singleton_append,
        lineStartsFrom_encoded_append hpieces.1, ih (List.cons_ne_nil _ _) hpieces.2]
      congr 1
      refine List.map_congr_left fun index _ => ?_
      simp only [Function.comp_apply, charsBefore_cons_succ, encoded_append, encoded_newline_cons,
        List.length_append, List.length_cons]
      omega

namespace SourceFile

variable (file : SourceFile)

/-- The pieces of a file's text between its line breaks, as `List.splitOn` cuts it. -/
def pieces : List (List Char) := file.content.toList.splitOn '\n'

/-! ## Cutting lines out -/

/-- The `lineStarts` of a file are where the `pieces` of its text start. -/
theorem lineStarts_eq_map :
    file.lineStarts = (List.range file.pieces.length).map fun index =>
      (encoded (charsBefore file.pieces index)).length := by
  have hstarts := lineStartsFrom_intercalate (List.splitOn_ne_nil '\n' file.content.toList)
    (splitOn_newline file.content.toList).1 0
  rw [List.intercalate_splitOn] at hstarts
  rw [file.lineStarts_eq, lineStartsOf, bytes_eq_encoded, hstarts]
  simp only [Nat.zero_add, pieces]

theorem lineCount_eq : file.lineCount = file.pieces.length := by
  rw [lineCount, lineStarts_eq_map, List.length_map, List.length_range]

variable {file} {index : Nat} {piece : List Char}

theorem getElem?_lineStarts (hindex : index < file.pieces.length) :
    file.lineStarts[index]? = some (encoded (charsBefore file.pieces index)).length := by
  rw [lineStarts_eq_map, List.getElem?_map, List.getElem?_range hindex, Option.map_some]

theorem getElem?_lineStarts_eq_none (hindex : file.pieces.length ≤ index) :
    file.lineStarts[index]? = none := by
  rw [List.getElem?_eq_none_iff, ← lineCount, lineCount_eq]
  exact hindex

/-- The text of a file is `charsBefore` a piece, the piece and what stands after it. -/
theorem exists_content_eq (hpiece : file.pieces[index]? = some piece) :
    ∃ back, file.content.toList = charsBefore file.pieces index ++ piece ++ back ∧
      (index + 1 = file.pieces.length → back = []) := by
  obtain ⟨back, hcontent, hlast⟩ := exists_intercalate_eq hpiece
  exact ⟨back, by rw [← hcontent, pieces, List.intercalate_splitOn], hlast⟩

/-- The offset `stopOf` of a line is where its piece stops. -/
theorem stopOf_eq (hpiece : file.pieces[index]? = some piece) :
    file.stopOf index
      = (encoded (charsBefore file.pieces index)).length + (encoded piece).length := by
  have hindex : index < file.pieces.length := (List.getElem?_eq_some_iff.mp hpiece).1
  rw [stopOf]
  by_cases hnext : index + 1 < file.pieces.length
  · -- one byte before the next line, which is the line break
    rw [getElem?_lineStarts hnext, charsBefore_succ hpiece]
    simp only [encoded_append, List.length_append]
    rfl
  · obtain ⟨back, hcontent, hlast⟩ := exists_content_eq hpiece
    rw [getElem?_lineStarts_eq_none (Nat.le_of_not_lt hnext), ← length_bytes, bytes_eq_encoded,
      hcontent, hlast (by omega), List.append_nil, encoded_append, List.length_append]

/-- The offsets `span?` of a line are those of its piece. -/
theorem span?_eq_some (hpiece : file.pieces[index]? = some piece) :
    file.span? (index + 1) = some ((encoded (charsBefore file.pieces index)).length,
      (encoded (charsBefore file.pieces index)).length + (encoded piece).length) := by
  rw [span?, getElem?_lineStarts (List.getElem?_eq_some_iff.mp hpiece).1, Option.map_some,
    stopOf_eq hpiece]

/-- Between the offsets of a line, `slice?` finds its piece. -/
theorem slice?_span (hpiece : file.pieces[index]? = some piece) :
    slice? file.content (encoded (charsBefore file.pieces index)).length
        ((encoded (charsBefore file.pieces index)).length + (encoded piece).length)
      = some (String.ofList piece) := by
  obtain ⟨back, hcontent, -⟩ := exists_content_eq hpiece
  have htext : file.content = String.ofList (charsBefore file.pieces index) ++ String.ofList piece
      ++ String.ofList back := by
    rw [← String.ofList_append, ← String.ofList_append, ← hcontent, String.ofList_toList]
  rw [htext, ← utf8ByteSize_ofList, ← utf8ByteSize_ofList]
  exact slice?_append ..

/-- The line `line?` of a number is its piece without the carriage return. -/
theorem line?_eq_some (hpiece : file.pieces[index]? = some piece) :
    file.line? (index + 1) = some (String.ofList (withoutReturn piece)) := by
  simp only [line?, span?_eq_some hpiece, Option.bind_some, slice?_span hpiece, Option.map_some,
    String.toList_ofList]

/-- A number has a `span?` exactly if it is that of one of the lines. -/
theorem isSome_span?_iff (file : SourceFile) (number : Nat) :
    (file.span? number).isSome = true ↔ 1 ≤ number ∧ number ≤ file.lineCount := by
  cases number with
  | zero => simp [span?]
  | succ index =>
    rw [span?, Option.isSome_map, isSome_getElem?, lineCount]
    omega

/-- A number has a `line?` exactly if it is that of one of the lines, as it has a `span?`. -/
theorem isSome_line?_iff (file : SourceFile) (number : Nat) :
    (file.line? number).isSome = true ↔ 1 ≤ number ∧ number ≤ file.lineCount := by
  rw [← isSome_span?_iff]
  constructor
  · intro hline
    obtain ⟨line, hline⟩ := Option.isSome_iff_exists.mp hline
    obtain ⟨span, hspan, -⟩ := Option.bind_eq_some_iff.mp hline
    exact Option.isSome_iff_exists.mpr ⟨span, hspan⟩
  · intro hspan
    obtain ⟨hpositive, hcount⟩ := (isSome_span?_iff file number).mp hspan
    -- lines are numbered from one, pieces from zero
    obtain ⟨index, rfl⟩ : ∃ index, number = index + 1 := ⟨number - 1, by omega⟩
    rw [lineCount_eq] at hcount
    rw [line?_eq_some (List.getElem?_eq_getElem hcount)]
    rfl

/-! ## Lines and pieces -/

/-- A line is what is left of a text when the carriage return at its end is removed, if it ends in
one; only one is. The function `withoutReturn` decides which case holds. -/
inductive TrimsReturn : List Char → List Char → Prop
  /-- A carriage return is removed. -/
  | returned (line : List Char) : TrimsReturn (line ++ ['\r']) line
  /-- There is none. -/
  | plain {line : List Char} (hline : line.getLast? ≠ some '\r') : TrimsReturn line line

theorem trimsReturn_withoutReturn (piece : List Char) :
    TrimsReturn piece (withoutReturn piece) := by
  rw [withoutReturn]
  split
  case isTrue hreturn =>
    have hpiece : piece.dropLast ++ ['\r'] = piece := List.dropLast_append_getLast? '\r' hreturn
    have htrims := TrimsReturn.returned piece.dropLast
    rwa [hpiece] at htrims
  case isFalse hplain => exact .plain hplain

/-- A piece without carriage returns is left as it is by `withoutReturn`. -/
theorem withoutReturn_of_not_mem {piece : List Char} (hpiece : '\r' ∉ piece) :
    withoutReturn piece = piece :=
  if_neg fun hreturn => hpiece (List.mem_of_getLast? hreturn)

/-- The lines of a file, in order: those that `line?` finds for the numbers up to `lineCount`. -/
def lines (file : SourceFile) : List String :=
  (List.range file.lineCount).filterMap fun index => file.line? (index + 1)

theorem lines_eq_map (file : SourceFile) :
    file.lines = file.pieces.map fun piece => String.ofList (withoutReturn piece) := by
  have hline : ∀ index ∈ List.range file.lineCount, file.line? (index + 1)
      = some (String.ofList (withoutReturn (file.pieces.getD index []))) := by
    intro index hindex
    rw [List.mem_range, lineCount_eq] at hindex
    rw [line?_eq_some (List.getElem?_eq_getElem hindex), List.getD_eq_getElem?_getD,
      List.getElem?_eq_getElem hindex, Option.getD_some]
  rw [lines, List.filterMap_eq_map_iff_forall_eq_some.mpr hline]
  refine List.ext_getElem (by simp [lineCount_eq]) fun index _ hindex => ?_
  rw [List.length_map] at hindex
  simp [hindex]

/-- The `lines` of a text without carriage returns, with line breaks between them, are the text. -/
theorem intercalate_lines (hcontent : '\r' ∉ file.content.toList) :
    "\n".intercalate file.lines = file.content := by
  have hwhole : ∀ piece ∈ file.pieces,
      (String.toList ∘ fun piece => String.ofList (withoutReturn piece)) piece = piece := by
    intro piece hpiece
    obtain ⟨index, hindex, rfl⟩ := List.getElem_of_mem hpiece
    obtain ⟨back, hback, -⟩ := exists_content_eq (List.getElem?_eq_getElem hindex)
    rw [Function.comp_apply, String.toList_ofList, withoutReturn_of_not_mem]
    intro hmem
    rw [hback, List.mem_append, List.mem_append] at hcontent
    exact hcontent (.inl (.inr hmem))
  rw [← String.toList_inj, String.toList_intercalate, lines_eq_map, List.map_map,
    List.map_congr_left hwhole, List.map_id']
  exact List.intercalate_splitOn '\n'

/-- The line with an index is the piece at this index, cut out between two borders of characters in
the text. -/
structure IsLineAt (file : SourceFile) (index start stop : Nat) (line : String) : Prop where
  /-- The offsets of the line. -/
  span : file.span? (index + 1) = some (start, stop)
  /-- They are in order. -/
  ordered : start ≤ stop
  /-- The first one is a border between characters of the text. -/
  startBorder : String.Pos.Raw.IsValid file.content ⟨start⟩
  /-- So is the second one. -/
  stopBorder : String.Pos.Raw.IsValid file.content ⟨stop⟩
  /-- The line is found. -/
  found : file.line? (index + 1) = some line
  /-- It is the piece without the carriage return at its end. -/
  trimmed : ∃ piece, (file.content.toList.splitOn '\n')[index]? = some piece ∧
    TrimsReturn piece line.toList

/-- There is a line at the index of each of the `pieces`, in the sense of `IsLineAt`. -/
theorem exists_isLineAt (hpiece : file.pieces[index]? = some piece) :
    ∃ start stop line, file.IsLineAt index start stop line := by
  obtain ⟨hordered, hstart, hstop⟩ := isValid_of_slice?_eq_some (slice?_span hpiece)
  refine ⟨_, _, _, span?_eq_some hpiece, hordered, hstart, hstop, line?_eq_some hpiece,
    piece, hpiece, ?_⟩
  rw [String.toList_ofList]
  exact trimsReturn_withoutReturn piece

/-- A file has one line more than its text has line breaks (`lineCount`). There is a `line?` of each
number from one to the number of lines and of no other one, and `span?` exists for the same numbers.
The lines are the pieces of the text between line breaks, without the carriage return at their end;
they start and stop at borders between characters (`IsLineAt`). The `lines` of a text without
carriage returns give the text back. -/
theorem isLineAt_splitOn (file : SourceFile) :
    file.lineCount = file.content.toList.count '\n' + 1 ∧
    (∀ number, ((file.line? number).isSome = true ↔ 1 ≤ number ∧ number ≤ file.lineCount) ∧
      (file.span? number).isSome = (file.line? number).isSome) ∧
    (∀ index : Fin file.lineCount, ∃ start stop line, file.IsLineAt index start stop line) ∧
    ('\r' ∉ file.content.toList → "\n".intercalate file.lines = file.content) := by
  have hcount := file.lineCount_eq
  refine ⟨?_, fun number => ⟨file.isSome_line?_iff number, ?_⟩, fun index => ?_, intercalate_lines⟩
  · rw [hcount]
    exact (splitOn_newline file.content.toList).2
  · rw [Bool.eq_iff_iff, isSome_line?_iff, isSome_span?_iff]
  · obtain ⟨index, hindex⟩ := index
    exact exists_isLineAt (List.getElem?_eq_getElem (hcount ▸ hindex))

/-- A text with characters of several bytes, an empty line and a line break at its end. -/
theorem isLineAt_splitOn_umlaut :
    let file := SourceFile.ofText ⟨"Sandbox.cs"⟩ "class Größe\n\n"
    '\r' ∉ file.content.toList ∧ file.lineCount = 3 ∧
      "\n".intercalate file.lines = file.content := by
  intro file
  obtain ⟨hcount, -, -, hlines⟩ := isLineAt_splitOn file
  have hfree : '\r' ∉ file.content.toList := by decide +kernel
  have hbreaks : file.content.toList.count '\n' = 2 := by decide +kernel
  exact ⟨hfree, by rw [hcount, hbreaks], hlines hfree⟩

end SourceFile

end Companion
