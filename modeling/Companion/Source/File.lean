import Companion.Path
import Companion.Text.Bytes

/-! # Source files

A file's text with the byte offsets at which its lines start, so that a line is found without
reading the text again. -/

namespace Companion

/-- The byte offsets after the line breaks among bytes, the first of which stands at `offset`. -/
def lineStartsFrom (offset : Nat) : List UInt8 → List Nat
  | [] => []
  | byte :: rest =>
    if byte = 0x0A then (offset + 1) :: lineStartsFrom (offset + 1) rest
    else lineStartsFrom (offset + 1) rest

/-- The byte offsets at which the lines of a text start: zero, and `lineStartsFrom` its bytes. -/
def lineStartsOf (content : String) : List Nat := 0 :: lineStartsFrom 0 (Text.bytes content)

/-- A source file, with the table of its lines that `ofText` makes. -/
structure SourceFile where
  /-- The name under which the file is known. -/
  path : Path
  /-- The text. -/
  content : String
  /-- The byte offset at which each line starts. -/
  lineStarts : List Nat
  /-- The offsets are those of the text. -/
  lineStarts_eq : lineStarts = lineStartsOf content := by rfl

namespace SourceFile

/-- The source file of a text, its `lineStarts` computed with `lineStartsOf`. -/
def ofText (path : Path) (content : String) : SourceFile :=
  { path, content, lineStarts := lineStartsOf content }

/-- The number of lines: that of the `lineStarts`, of which there is one at least. -/
def lineCount (file : SourceFile) : Nat := file.lineStarts.length

/-- A line without the carriage return at its end. -/
def withoutReturn (line : List Char) : List Char :=
  if line.getLast? = some '\r' then line.dropLast else line

/-- The byte offset at which the line with an index stops: before its line break, or at the end of
the text. -/
def stopOf (file : SourceFile) (index : Nat) : Nat :=
  match file.lineStarts[index + 1]? with
  | some next => next - 1
  | none => file.content.utf8ByteSize

/-- The byte offsets between which the line with a number, from one, stands without its line break:
one of `lineStarts`, and `stopOf` its index. -/
def span? (file : SourceFile) (number : Nat) : Option (Nat × Nat) :=
  match number with
  | 0 => none
  | index + 1 => file.lineStarts[index]?.map fun start => (start, file.stopOf index)

/-- The line with a number, from one: the `Text.slice?` of its `span?`, and `withoutReturn`. -/
def line? (file : SourceFile) (number : Nat) : Option String :=
  (file.span? number).bind fun (start, stop) =>
    (Text.slice? file.content start stop).map fun text =>
      String.ofList (withoutReturn text.toList)

end SourceFile

end Companion
