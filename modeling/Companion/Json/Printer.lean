import Companion.Json
import Companion.Decimal.Shortest

/-! # Printing JSON

`Json.compact` writes a value on one line; `Json.pretty` writes one item or entry a line, indented
by two spaces a level. Only quotes, backslashes and control characters are escaped. What is
illegible is written as `null`. -/

namespace Companion.Json

/-- The digit of a value below sixteen, in lower case. -/
def escapeDigit (value : Nat) : Char := "0123456789abcdef".toList.getD value '0'

/-- How one character stands in a text: quotes, backslashes and controls are escaped. -/
def escapeChar (c : Char) : List Char :=
  if c = '"' then "\\\"".toList
  else if c = '\\' then "\\\\".toList
  else if c = '\n' then "\\n".toList
  else if c = '\r' then "\\r".toList
  else if c = '\t' then "\\t".toList
  else if c.toNat = 8 then "\\b".toList
  else if c.toNat = 12 then "\\f".toList
  else if c.toNat < 32 then
    "\\u00".toList ++ [escapeDigit (c.toNat / 16), escapeDigit (c.toNat % 16)]
  else [c]

/-- A text between quotes, each character as `escapeChar` shows it. -/
def quoted (text : String) : String :=
  "\"" ++ String.ofList (text.toList.flatMap escapeChar) ++ "\""

mutual

/-- A value on one line. -/
def compact : Json → String
  | .null => "null"
  | .bool value => if value then "true" else "false"
  | .integer value => toString value
  | .real bits => Decimal.ofBits bits
  | .string value => quoted value
  | .array items => "[" ++ ",".intercalate (compactItems items) ++ "]"
  | .object entries => "\x7b" ++ ",".intercalate (compactEntries entries) ++ "\x7d"
  | .illegible => "null"

/-- The items of a list, each on one line as `compact` writes it. -/
def compactItems : List Json → List String
  | [] => []
  | item :: rest => compact item :: compactItems rest

/-- The entries of an object, each on one line as `compact` writes it. -/
def compactEntries : List (String × Json) → List String
  | [] => []
  | (key, value) :: rest => (quoted key ++ ":" ++ compact value) :: compactEntries rest

end

/-- A line break and the indentation of a level. -/
def newline (level : Nat) : String := "\n" ++ String.ofList (List.replicate (2 * level) ' ')

/-- Parts of a list or object between brackets, one a line; nothing stands between the brackets if
there is no part. -/
def bracketed (level : Nat) (opening closing : String) (parts : List String) : String :=
  if parts.isEmpty then opening ++ closing
  else
    opening ++ newline (level + 1) ++ ("," ++ newline (level + 1)).intercalate parts
      ++ newline level ++ closing

mutual

/-- A value that starts at a level of indentation, with its parts `bracketed` one level further. -/
def prettyAt (level : Nat) : Json → String
  | .array items => bracketed level "[" "]" (prettyItems (level + 1) items)
  | .object entries => bracketed level "\x7b" "\x7d" (prettyEntries (level + 1) entries)
  | .null => "null"
  | .bool value => if value then "true" else "false"
  | .integer value => toString value
  | .real bits => Decimal.ofBits bits
  | .string value => quoted value
  | .illegible => "null"

/-- The items of a list at a level, as `prettyAt` writes them. -/
def prettyItems (level : Nat) : List Json → List String
  | [] => []
  | item :: rest => prettyAt level item :: prettyItems level rest

/-- The entries of an object at a level, as `prettyAt` writes them. -/
def prettyEntries (level : Nat) : List (String × Json) → List String
  | [] => []
  | (key, value) :: rest =>
    (quoted key ++ ": " ++ prettyAt level value) :: prettyEntries level rest

end

/-- A value on several lines: `prettyAt` the outermost level. -/
def pretty (value : Json) : String := prettyAt 0 value

end Companion.Json
