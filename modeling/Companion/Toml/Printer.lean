import Companion.Json.Printer

/-! # Printing settings documents

The text of a settings document with one table per group: a header, then a line per setting, and an
empty line between groups. Only texts, truth values, integers and lists of these occur. -/

namespace Companion.Toml

/-- How one character stands in a text. -/
def escapeChar (c : Char) : List Char :=
  if c = '"' then "\\\"".toList
  else if c = '\\' then "\\\\".toList
  else if c = '\n' then "\\n".toList
  else if c = '\r' then "\\r".toList
  else if c = '\t' then "\\t".toList
  else if c.toNat = 8 then "\\b".toList
  else if c.toNat = 12 then "\\f".toList
  else if c.toNat < 32 || c.toNat = 127 then
    "\\u00".toList ++ [Json.escapeDigit (c.toNat / 16), Json.escapeDigit (c.toNat % 16)]
  else [c]

/-- A text between quotes, each character as `escapeChar` shows it. -/
def quoted (text : String) : String :=
  "\"" ++ String.ofList (text.toList.flatMap escapeChar) ++ "\""

mutual

/-- A value on one line. -/
def printValue : Json → String
  | .string value => quoted value
  | .bool value => if value then "true" else "false"
  | .integer value => toString value
  | .array items => "[" ++ ", ".intercalate (printItems items) ++ "]"
  | _ => "\"\""

/-- The items of a list, each as `printValue` writes it. -/
def printItems : List Json → List String
  | [] => []
  | item :: rest => printValue item :: printItems rest

end

/-- The lines of a group of settings: a header, and a line with `printValue` for each setting. -/
def printGroup (name : String) (settings : List (String × Json)) : String :=
  "[" ++ name ++ "]\n"
    ++ String.join (settings.map fun setting => setting.1 ++ " = " ++ printValue setting.2 ++ "\n")

/-- The text of a list of groups: `printGroup` of each, with an empty line between them. -/
def printGroups (groups : List (String × List (String × Json))) : String :=
  "\n".intercalate (groups.map fun group => printGroup group.1 group.2)

end Companion.Toml
