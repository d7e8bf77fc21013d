import Companion.Toml
import Companion.Toml.Scalar

/-! # Reading settings documents

The grammar of TOML documents. A reader takes a list of characters and gives what it reads with the
characters after it, or nothing if the text is not of its form. Readers of nested or repeated forms
take `fuel`, a bound on the number of their steps; `parse?` starts with more than the text has
characters. Lists and inline tables may be nested, and keys dotted, less than `nestingLimit` deep.
-/

namespace Companion.Toml

/-- The number of open lists and inline tables, and of keys with dots between them, from which on a
text is refused by `readValue` and `readPath`. -/
def nestingLimit : Nat := 80

/-- A reader of some form of text: what it reads at the start of a text, and the rest of the text.
-/
abbrev Reader (α : Type) := List Char → Option (α × List Char)

/-- Drops spaces and tabs. -/
def skipSpaces (text : List Char) : List Char := text.dropWhile fun c => c == ' ' || c == '\t'

/-- Whether a character may stand in a comment or in a text on one line. -/
def isPlain (c : Char) : Bool := c == '\t' || (' ' ≤ c && c.toNat != 0x7F)

/-- Drops a line break; none if there is none. -/
def newline? : List Char → Option (List Char)
  | '\n' :: rest => some rest
  | '\r' :: '\n' :: rest => some rest
  | _ => none

/-- Drops a comment. -/
def skipComment : List Char → List Char
  | '#' :: rest => rest.dropWhile isPlain
  | text => text

/-- Drops spaces, comments and line breaks, with `skipSpaces`, `skipComment` and `newline?` in turn.
-/
def skipLayout : (fuel : Nat) → List Char → List Char
  | 0, text => text
  | fuel + 1, text =>
    let after := skipComment (skipSpaces text)
    match newline? after with
    | some rest => skipLayout fuel rest
    | none => after

/-! ## Texts -/

/-- The character with a given number, if there is one. -/
def character? (code : Nat) : Option Char :=
  if h : code.isValidChar then some (Char.ofNatAux code h) else none

/-- Reads a character by a number of `count` hexadecimal digits. -/
def readCode (count : Nat) : Reader Char := fun text => do
  let digits ← (text.take count).mapM digit?
  if digits.length = count then
    let c ← character? (numberOf 16 digits)
    some (c, text.drop count)
  else none

/-- Reads what follows a backslash. -/
def readEscape : Reader Char
  | 'b' :: rest => some (Char.ofNat 8, rest)
  | 't' :: rest => some ('\t', rest)
  | 'n' :: rest => some ('\n', rest)
  | 'f' :: rest => some (Char.ofNat 12, rest)
  | 'r' :: rest => some ('\r', rest)
  | '"' :: rest => some ('"', rest)
  | '\\' :: rest => some ('\\', rest)
  | 'u' :: rest => readCode 4 rest
  | 'U' :: rest => readCode 8 rest
  | _ => none

/-- Reads a text on one line up to its quote. -/
def readLineText (quote : Char) (escapes : Bool) :
    (fuel : Nat) → (done : List Char) → Reader String
  | 0, _, _ => none
  | _ + 1, _, [] => none
  | fuel + 1, done, c :: rest =>
    if c = quote then some (String.ofList done.reverse, rest)
    else if c = '\\' ∧ escapes then
      match readEscape rest with
      | some (escaped, rest) => readLineText quote escapes fuel (escaped :: done) rest
      | none => none
    else if isPlain c then readLineText quote escapes fuel (c :: done) rest
    else none

/-- The text after a backslash at the end of a line: spaces and line breaks are dropped. -/
def joinLines? (fuel : Nat) (text : List Char) : Option (List Char) :=
  (newline? (skipSpaces text)).map (dropBlank fuel)
where
  /-- Drops spaces and line breaks. -/
  dropBlank : Nat → List Char → List Char
  | 0, text => text
  | fuel + 1, text =>
    let after := skipSpaces text
    match newline? after with
    | some rest => dropBlank fuel rest
    | none => after

/-- Reads a text on several lines up to three quotes; up to two more belong to the text. -/
def readBlockText (quote : Char) (escapes : Bool) :
    (fuel : Nat) → (done : List Char) → Reader String
  | 0, _, _ => none
  | _ + 1, _, [] => none
  | fuel + 1, done, c :: rest =>
    if c = quote then
      let count := ((c :: rest).takeWhile (· == quote)).length
      if count < 3 then readBlockText quote escapes fuel (c :: done) rest
      else
        let kept := min (count - 3) 2
        some (String.ofList (done.reverse ++ List.replicate kept quote),
          (c :: rest).drop (kept + 3))
    else if c = '\\' ∧ escapes then
      match joinLines? rest.length rest with
      | some rest => readBlockText quote escapes fuel done rest
      | none =>
        match readEscape rest with
        | some (escaped, rest) => readBlockText quote escapes fuel (escaped :: done) rest
        | none => none
    else
      match newline? (c :: rest) with
      | some rest => readBlockText quote escapes fuel ('\n' :: done) rest
      | none =>
        if isPlain c then readBlockText quote escapes fuel (c :: done) rest else none

/-- Whether a character opens a text. -/
def isQuote (c : Char) : Bool := c == '"' || c == Char.ofNat 39

/-- Reads a text in one of its four forms: `readLineText` or `readBlockText`, with escapes or
without. -/
def readText : Reader String
  | first :: rest =>
    if !isQuote first then none
    else
      let escapes := first == '"'
      if rest.take 2 = [first, first] then
        let body := rest.drop 2
        readBlockText first escapes (body.length + 1) [] ((newline? body).getD body)
      else readLineText first escapes (rest.length + 1) [] rest
  | [] => none

/-! ## Keys -/

/-- Whether a character may stand in a key without quotes. -/
def isBare (c : Char) : Bool := c.isAlphanum || c == '-' || c == '_'

/-- Reads one key: a text on one line between quotes, or a word of characters that are `isBare`. -/
def readKey : Reader String := fun text =>
  match text with
  | [] => none
  | first :: rest =>
    if isQuote first then readLineText first (first == '"') (rest.length + 1) [] rest
    else
      let word := text.takeWhile isBare
      if word.isEmpty then none else some (String.ofList word, text.drop word.length)

/-- Reads keys with dots between them, each with `readKey`. -/
def readKeys : (fuel : Nat) → Reader (List String)
  | 0, _ => none
  | fuel + 1, text => do
    let (key, rest) ← readKey (skipSpaces text)
    match skipSpaces rest with
    | '.' :: rest => do
      let (keys, rest) ← readKeys fuel rest
      some (key :: keys, rest)
    | rest => some ([key], rest)

/-- Reads a path of keys that is not as long as `nestingLimit`. -/
def readPath (fuel : Nat) : Reader (List String) := fun text =>
  (readKeys fuel text).filter fun (path, _) => path.length < nestingLimit

/-! ## Values -/

/-- Whether a character may stand in a word without quotes. -/
def isWordChar (c : Char) : Bool := isBare c || c == '+' || c == '.' || c == ':'

/-- The word at the start of a text; a date may have a space before the time. -/
def takeWord (text : List Char) : List Char :=
  let word := text.takeWhile isWordChar
  match text.drop word.length with
  | ' ' :: c :: rest =>
    if isDate word && c.isDigit then word ++ ' ' :: (c :: rest).takeWhile isWordChar else word
  | _ => word

mutual

/-- Reads a value in which at most `depth` lists and inline tables are open at once: a list, an
inline table, a text, or a word that `scalar?` understands. -/
def readValue : (fuel depth : Nat) → Reader Json
  | 0, _, _ => none
  | fuel + 1, depth, text =>
    match text with
    | [] => none
    | '[' :: rest => if depth = 0 then none else readItems fuel (depth - 1) [] rest
    | '\x7b' :: rest =>
      if depth = 0 then none
      else
        match skipSpaces rest with
        | '\x7d' :: rest => some (.object [], rest)
        | rest => readAssignments fuel (depth - 1) [] rest
    | first :: _ =>
      if isQuote first then (readText text).map fun (value, rest) => (.string value, rest)
      else
        let word := takeWord text
        (scalar? word).map fun value => (value, text.drop word.length)

/-- Reads the values of a list up to its bracket. -/
def readItems : (fuel depth : Nat) → (done : List Json) → Reader Json
  | 0, _, _, _ => none
  | fuel + 1, depth, done, text =>
    match skipLayout (text.length + 1) text with
    | ']' :: rest => some (.array done.reverse, rest)
    | text =>
      match readValue fuel depth text with
      | none => none
      | some (value, rest) =>
        match skipLayout (rest.length + 1) rest with
        | ',' :: rest => readItems fuel depth (value :: done) rest
        | ']' :: rest => some (.array (value :: done).reverse, rest)
        | _ => none

/-- Reads the assignments of an inline table up to its brace. -/
def readAssignments : (fuel depth : Nat) → (done : List (List String × String × Json)) →
    Reader Json
  | 0, _, _, _ => none
  | fuel + 1, depth, done, text =>
    match readAssignment fuel depth text with
    | none => none
    | some (assignment, rest) =>
      match skipSpaces rest with
      | ',' :: rest => readAssignments fuel depth (assignment :: done) rest
      | '\x7d' :: rest => (inlineTree? (assignment :: done).reverse).map fun tree => (tree, rest)
      | _ => none

/-- Reads an assignment to a dotted key: a path, an equals sign, and a value with `readValue`. -/
def readAssignment : (fuel depth : Nat) → Reader (List String × String × Json)
  | 0, _, _ => none
  | fuel + 1, depth, text =>
    match readPath (text.length + 1) text with
    | some (path, '=' :: rest) =>
      match splitLast? path, readValue fuel depth (skipSpaces rest) with
      | some (before, key), some (value, rest) => some ((before, key, value), rest)
      | _, _ => none
    | _ => none

end

/-! ## Documents -/

/-- Reads the header of a table or of one more table of a list. -/
def readHeader (fuel : Nat) : Reader Statement
  | '[' :: '[' :: rest =>
    match readPath fuel rest with
    | some (path, ']' :: ']' :: rest) => some (.listHeader path, rest)
    | _ => none
  | '[' :: rest =>
    match readPath fuel rest with
    | some (path, ']' :: rest) => some (.header path, rest)
    | _ => none
  | _ => none

/-- Reads a statement: `readHeader` after a bracket, and otherwise `readAssignment`. -/
def readStatement (fuel : Nat) : Reader Statement := fun text =>
  match text with
  | '[' :: _ => readHeader fuel text
  | _ => (readAssignment fuel (nestingLimit - 1) text).map fun ((path, key, value), rest) =>
      (.assign path key value, rest)

/-- Reads statements with `readStatement`, each on its own line, up to the end of the text. -/
def readStatements : (fuel : Nat) → (done : List Statement) → List Char → Option (List Statement)
  | 0, _, _ => none
  | fuel + 1, done, text =>
    match skipLayout (text.length + 1) text with
    | [] => some done.reverse
    | text =>
      match readStatement (2 * text.length + 2) text with
      | none => none
      | some (statement, rest) =>
        match skipComment (skipSpaces rest) with
        | [] => some (statement :: done).reverse
        | rest =>
          match newline? rest with
          | some rest => readStatements fuel (statement :: done) rest
          | none => none

/-- A text without the byte order mark at its start. -/
def withoutMark : List Char → List Char
  | c :: rest => if c.toNat = 0xFEFF then rest else c :: rest
  | [] => []

/-- The tree of a document, which `treeOf?` makes of its statements; none if the text is no
document. -/
def parse? (text : String) : Option Json :=
  let chars := withoutMark text.toList
  (readStatements (chars.length + 1) [] chars).bind treeOf?

end Companion.Toml
