import Companion.Text.CharClass
import Companion.Text.Unicode.Invisible

/-! # Quoted texts

The form in which messages show a text: between double quotes, with escapes for quotes, backslashes,
line breaks, tabs and the null character, and the code point in hexadecimal for any other character
that has no glyph of its own. -/

namespace Companion.Text.Quoted

/-- Whether a character is shown by its number. -/
def isInvisible (c : Char) : Bool := inRanges Unicode.invisibleRanges c.toNat

/-- The escape of a code point by its number. -/
def escapeCode (code : Nat) : List Char :=
  "\\u\x7b".toList ++ Nat.toDigits 16 code ++ "\x7d".toList

/-- How one character is shown: quotes, backslashes and line breaks after a backslash, and
characters that `isInvisible` by their numbers. -/
def showChar (c : Char) : List Char :=
  if c = '"' then "\\\"".toList
  else if c = '\\' then "\\\\".toList
  else if c = '\n' then "\\n".toList
  else if c = '\r' then "\\r".toList
  else if c = '\t' then "\\t".toList
  else if c.toNat = 0 then "\\0".toList
  else if isInvisible c then escapeCode c.toNat
  else [c]

/-- A text between quotes, each character as `showChar` shows it. -/
def quote (text : String) : String :=
  String.ofList ("\"".toList ++ text.toList.flatMap showChar ++ "\"".toList)

end Companion.Text.Quoted
