import Companion.Json

/-! # Reading JSON

`Json.parse` reads a document. A `Cursor` is the rest of the text with the number of bytes before
it; a `Failure` is a cause with the byte at which it shows, and `Failure.message` gives the cause
with line and column. At most 127 lists and objects may be open at once. `Json.parseLeniently` goes
on after what is well written but cannot be held, which it reads as `Json.illegible`; whoever reads
a structure may then pass over it.

The readers take `fuel`, a bound on the number of their steps: each step but one in three takes a
character off the text, so three times its length is enough, and what is left of it is always more
than the length of the text that is left. -/

namespace Companion.Json

/-- Why a text is not a JSON document, one constructor for each message of `SyntaxCause.message`. -/
inductive SyntaxCause
  | eofInList
  | eofInObject
  | eofInString
  | eofInValue
  | expectedColon
  | expectedListEnd
  | expectedObjectEnd
  | expectedWord
  | expectedValue
  | invalidEscape
  | invalidNumber
  | numberOutOfRange
  | controlCharacter
  | keyNotString
  | loneSurrogate
  | trailingComma
  | trailingCharacters
  | unfinishedSurrogate
  | tooDeep
  deriving DecidableEq, Repr

/-- A cause in words. -/
def SyntaxCause.message : SyntaxCause → String
  | eofInList => "EOF while parsing a list"
  | eofInObject => "EOF while parsing an object"
  | eofInString => "EOF while parsing a string"
  | eofInValue => "EOF while parsing a value"
  | expectedColon => "expected `:`"
  | expectedListEnd => "expected `,` or `]`"
  | expectedObjectEnd => "expected `,` or `\x7d`"
  | expectedWord => "expected ident"
  | expectedValue => "expected value"
  | invalidEscape => "invalid escape"
  | invalidNumber => "invalid number"
  | numberOutOfRange => "number out of range"
  | controlCharacter => "control character (\\u0000-\\u001F) found while parsing a string"
  | keyNotString => "key must be a string"
  | loneSurrogate => "lone leading surrogate in hex escape"
  | trailingComma => "trailing comma"
  | trailingCharacters => "trailing characters"
  | unfinishedSurrogate => "unexpected end of hex escape"
  | tooDeep => "recursion limit exceeded"

/-- Whether a text with this failure is well written, and only what it stands for cannot be held. -/
def SyntaxCause.isIllegible : SyntaxCause → Bool
  | numberOutOfRange => true
  | loneSurrogate => true
  | unfinishedSurrogate => true
  | _ => false

/-- What becomes of a value that is well written but cannot be held: `parse` is strict, and
`parseLeniently` is lenient. -/
inductive Strictness
  /-- It is a failure. -/
  | strict
  /-- It is `Json.illegible`. -/
  | lenient
  deriving DecidableEq, Repr

/-- A cause and the number of bytes before the place at which it shows, of which `positionFrom`
makes line and column. -/
structure Failure where
  /-- What is wrong. -/
  cause : SyntaxCause
  /-- The number of bytes before the place. -/
  offset : Nat
  deriving DecidableEq, Repr

/-- The line, from one, and the column in bytes at a distance from a place in a text. -/
def positionFrom (line column : Nat) : (text : List Char) → (offset : Nat) → Nat × Nat
  | [], _ => (line, column)
  | _, 0 => (line, column)
  | c :: rest, offset =>
    if c = '\n' then positionFrom (line + 1) 0 rest (offset - 1)
    else if offset < c.utf8Size then (line, column + offset)
    else positionFrom line (column + c.utf8Size) rest (offset - c.utf8Size)

/-- A failure in words, with its place in the text: `positionFrom` the first line. -/
def Failure.message (failure : Failure) (text : String) : String :=
  let (line, column) := positionFrom 1 0 text.toList failure.offset
  s!"{failure.cause.message} at line {line} column {column}"

/-- The rest of a text and the number of bytes before it. -/
structure Cursor where
  /-- The characters still to read. -/
  rest : List Char
  /-- The number of bytes read. -/
  offset : Nat

namespace Cursor

/-- The cursor after the first character. -/
def advance (cursor : Cursor) : Cursor :=
  match cursor.rest with
  | [] => cursor
  | c :: rest => ⟨rest, cursor.offset + c.utf8Size⟩

/-- The cursor after leading characters of a class. -/
def skip (cursor : Cursor) (accept : Char → Bool) : Cursor :=
  let taken := cursor.rest.takeWhile accept
  ⟨cursor.rest.dropWhile accept, taken.foldl (fun size c => size + c.utf8Size) cursor.offset⟩

/-- The cursor after white space. -/
def skipBlanks (cursor : Cursor) : Cursor :=
  cursor.skip fun c => c = ' ' || c = '\n' || c = '\t' || c = '\r'

/-- A failure at the cursor. -/
def fail {α : Type} (cursor : Cursor) (cause : SyntaxCause) : Except Failure α :=
  .error ⟨cause, cursor.offset⟩

/-- A failure at the byte after the cursor, or at the end of the text. -/
def failNext {α : Type} (cursor : Cursor) (cause : SyntaxCause) : Except Failure α :=
  .error ⟨cause, if cursor.rest.isEmpty then cursor.offset else cursor.offset + 1⟩

/-- The number of bytes of the next `count` characters, as far as there are so many. -/
def sizeAhead (cursor : Cursor) (count : Nat) : Nat :=
  (cursor.rest.take count).foldl (fun size c => size + c.utf8Size) 0

end Cursor

/-! ## Words -/

/-- Reads the rest of a word such as `null`. -/
def readWord (value : Json) : (word : List Char) → Cursor → Except Failure (Json × Cursor)
  | [], cursor => .ok (value, cursor)
  | expected :: word, cursor =>
    match cursor.rest with
    | [] => cursor.fail .eofInValue
    | c :: _ =>
      if c = expected then readWord value word cursor.advance
      else .error ⟨.expectedWord, cursor.offset + 1⟩

/-! ## Numbers -/

/-- The value of a decimal digit. -/
def digitValue (c : Char) : Nat := c.toNat - '0'.toNat

/-- The largest significand. -/
def maxSignificand : Nat := 0xFFFFFFFFFFFFFFFF

/-- The largest exponent. -/
def maxExponent : Int := 0x7FFFFFFF

/-- Appends digits to a significand as long as it fits; returns it with the digits that are
left. -/
def takeDigits (significand : Nat) : List Char → Nat × List Char
  | [] => (significand, [])
  | c :: rest =>
    let next := significand * 10 + digitValue c
    if maxSignificand < next then (significand, c :: rest) else takeDigits next rest

/-- Divides by `10 ^ 308` until the exponent is in the range of the powers of ten. -/
def scaleDown : (fuel : Nat) → Float → Int → Float
  | 0, value, _ => value
  | fuel + 1, value, exponent =>
    if -exponent ≤ 308 then value / Float.ofScientific 1 false (-exponent).toNat
    else if value == 0 then value
    else scaleDown fuel (value / Float.ofScientific 1 false 308) (exponent + 308)

/-- The double nearest to a significand, multiplied or divided (`scaleDown`) by a power of ten; none
if it overflows. -/
def scale? (significand : Nat) (exponent : Int) : Option Float :=
  let value := significand.toUInt64.toFloat
  if exponent < 0 then some (scaleDown 4 value exponent)
  else if 308 < exponent then if value == 0 then some value else none
  else
    let scaled := value * Float.ofScientific 1 false exponent.toNat
    if scaled.isInf then none else some scaled

/-- A real number with a sign. -/
def signed (negative : Bool) (value : Float) : Json :=
  .real (if negative then -value else value).toBits

/-- The real number of a significand and an exponent, or the failure `numberOutOfRange` at the
cursor. -/
def readScaled (negative : Bool) (significand : Nat) (exponent : Int) (cursor : Cursor) :
    Except Failure (Json × Cursor) :=
  match scale? significand exponent with
  | none => cursor.fail .numberOutOfRange
  | some value => .ok (signed negative value, cursor)

/-- Reads the digits of an exponent; none if they pass the largest exponent, with the cursor after
the digit at which they do. -/
def readExponentDigits (value : Nat) (offset : Nat) : List Char → Option Nat × Cursor
  | [] => (some value, ⟨[], offset⟩)
  | c :: rest =>
    if c.isDigit then
      let next := value * 10 + digitValue c
      if maxExponent < next then (none, ⟨rest, offset + 1⟩)
      else readExponentDigits next (offset + 1) rest
    else (some value, ⟨c :: rest, offset⟩)

/-- Keeps an exponent in the range of 32 bits. -/
def clampExponent (exponent : Int) : Int := max (-maxExponent - 1) (min maxExponent exponent)

/-- Reads the exponent after its letter. -/
def readExponent (negative : Bool) (significand : Nat) (before : Int) (cursor : Cursor) :
    Except Failure (Json × Cursor) :=
  let (down, cursor) :=
    match cursor.rest with
    | '+' :: _ => (false, cursor.advance)
    | '-' :: _ => (true, cursor.advance)
    | _ => (false, cursor)
  match cursor.rest with
  | [] => cursor.fail .eofInValue
  | c :: _ =>
    if !c.isDigit then .error ⟨.invalidNumber, cursor.offset + 1⟩
    else
      match readExponentDigits 0 cursor.offset cursor.rest with
      | (some exponent, cursor) =>
        readScaled negative significand
          (clampExponent (if down then before - exponent else before + exponent)) cursor
      | (none, cursor) =>
        if significand ≠ 0 && !down then cursor.fail .numberOutOfRange
        else .ok (signed negative 0, cursor.skip Char.isDigit)

/-- Reads what follows the digits of a number with a point or too many digits. -/
def readScaledTail (negative : Bool) (significand : Nat) (exponent : Int) (cursor : Cursor) :
    Except Failure (Json × Cursor) :=
  match cursor.rest with
  | 'e' :: _ => readExponent negative significand exponent cursor.advance
  | 'E' :: _ => readExponent negative significand exponent cursor.advance
  | _ => readScaled negative significand exponent cursor

/-- Reads the digits after the point, of which `takeDigits` takes as many as fit the significand. -/
def readFraction (negative : Bool) (significand : Nat) (exponent : Int) (cursor : Cursor) :
    Except Failure (Json × Cursor) :=
  let digits := cursor.rest.takeWhile Char.isDigit
  let after := cursor.skip Char.isDigit
  if digits.isEmpty then
    cursor.failNext (if cursor.rest.isEmpty then .eofInValue else .invalidNumber)
  else
    let (significand, left) := takeDigits significand digits
    readScaledTail negative significand (exponent - (digits.length - left.length : Nat)) after

/-- Reads what follows the whole digits of a number, of which `extra` did not fit the
significand. -/
def readNumberTail (negative : Bool) (significand extra : Nat) (cursor : Cursor) :
    Except Failure (Json × Cursor) :=
  match cursor.rest with
  | '.' :: _ => readFraction negative significand extra cursor.advance
  | 'e' :: _ => readExponent negative significand extra cursor.advance
  | 'E' :: _ => readExponent negative significand extra cursor.advance
  | _ =>
    if extra ≠ 0 then readScaled negative significand extra cursor
    else if !negative then .ok (.integer significand, cursor)
    else if significand = 0 || -(significand : Int) < minInt64 then
      .ok (signed true significand.toUInt64.toFloat, cursor)
    else .ok (.integer (-significand), cursor)

/-- Reads a number after its sign: its whole digits, and what follows them with `readNumberTail`. -/
def readNumber (negative : Bool) (cursor : Cursor) : Except Failure (Json × Cursor) :=
  match cursor.rest with
  | [] => cursor.fail .eofInValue
  | '0' :: rest =>
    if (rest.takeWhile Char.isDigit).isEmpty then readNumberTail negative 0 0 cursor.advance
    else cursor.advance.failNext .invalidNumber
  | c :: _ =>
    if !c.isDigit then .error ⟨.invalidNumber, cursor.offset + 1⟩
    else
      let (significand, left) := takeDigits 0 (cursor.rest.takeWhile Char.isDigit)
      readNumberTail negative significand left.length (cursor.skip Char.isDigit)

/-- The cursor after a number that is well written. -/
def skipNumber (cursor : Cursor) : Cursor :=
  let cursor := cursor.skip Char.isDigit
  let cursor :=
    match cursor.rest with
    | '.' :: _ => cursor.advance.skip Char.isDigit
    | _ => cursor
  match cursor.rest with
  | 'e' :: _ => (cursor.advance.skip fun c => c = '+' || c = '-').skip Char.isDigit
  | 'E' :: _ => (cursor.advance.skip fun c => c = '+' || c = '-').skip Char.isDigit
  | _ => cursor

/-- Reads a number after its sign, as strictly as told: if it is only illegible, `skipNumber` passes
over it. -/
def readNumberAs (strictness : Strictness) (negative : Bool) (cursor : Cursor) :
    Except Failure (Json × Cursor) :=
  match readNumber negative cursor with
  | .ok result => .ok result
  | .error failure =>
    if strictness = .lenient && failure.cause.isIllegible then
      .ok (.illegible, skipNumber cursor)
    else .error failure

/-! ## Texts -/

/-- The value of a hexadecimal digit. -/
def hexValue? (c : Char) : Option Nat :=
  if c.isDigit then some (digitValue c)
  else if 'a' ≤ c ∧ c ≤ 'f' then some (c.toNat - 'a'.toNat + 10)
  else if 'A' ≤ c ∧ c ≤ 'F' then some (c.toNat - 'A'.toNat + 10)
  else none

/-- Reads four hexadecimal digits. -/
def readHex (cursor : Cursor) : Except Failure (Nat × Cursor) :=
  if cursor.sizeAhead 4 < 4 then .error ⟨.eofInString, cursor.offset + cursor.sizeAhead 4⟩
  else
    match (cursor.rest.take 4).mapM hexValue? with
    | none => .error ⟨.invalidEscape, cursor.offset + 4⟩
    | some digits =>
      .ok (digits.foldl (fun value digit => value * 16 + digit) 0,
        ⟨cursor.rest.drop 4, cursor.offset + 4⟩)

/-- Whether a code unit is the first of a surrogate pair. -/
def isLeading (code : Nat) : Bool := 0xD800 ≤ code && code ≤ 0xDBFF

/-- Whether a code unit is the second of a surrogate pair. -/
def isTrailing (code : Nat) : Bool := 0xDC00 ≤ code && code ≤ 0xDFFF

/-- Reads one given character of the escape of a second surrogate. -/
def readMark (mark : Char) (cursor : Cursor) : Except Failure Cursor :=
  match cursor.rest with
  | [] => cursor.fail .eofInString
  | c :: _ =>
    if c = mark then .ok cursor.advance else .error ⟨.unfinishedSurrogate, cursor.offset + 1⟩

/-- Reads the code of an escaped character, which may take a pair of surrogates, `isLeading` and
`isTrailing`. -/
def readUnicode (cursor : Cursor) : Except Failure (Char × Cursor) := do
  let (code, cursor) ← readHex cursor
  if isTrailing code then cursor.fail .loneSurrogate
  else if isLeading code then
    let cursor ← readMark '\\' cursor
    let cursor ← readMark 'u' cursor
    let (second, cursor) ← readHex cursor
    if isTrailing second then
      .ok (Char.ofNat ((code - 0xD800) * 1024 + (second - 0xDC00) + 0x10000), cursor)
    else cursor.fail .loneSurrogate
  else .ok (Char.ofNat code, cursor)

/-- Reads what follows a backslash. -/
def readEscape (cursor : Cursor) : Except Failure (Char × Cursor) :=
  match cursor.rest with
  | [] => cursor.fail .eofInString
  | '"' :: _ => .ok ('"', cursor.advance)
  | '\\' :: _ => .ok ('\\', cursor.advance)
  | '/' :: _ => .ok ('/', cursor.advance)
  | 'b' :: _ => .ok (Char.ofNat 8, cursor.advance)
  | 'f' :: _ => .ok (Char.ofNat 12, cursor.advance)
  | 'n' :: _ => .ok ('\n', cursor.advance)
  | 'r' :: _ => .ok ('\r', cursor.advance)
  | 't' :: _ => .ok ('\t', cursor.advance)
  | 'u' :: _ => readUnicode cursor.advance
  | _ :: _ => .error ⟨.invalidEscape, cursor.offset + 1⟩

/-- Reads a text after its opening quote; `done` holds the characters read, the last first. -/
def readText : (fuel : Nat) → Cursor → (done : List Char) → Except Failure (String × Cursor)
  | 0, cursor, _ => cursor.fail .eofInString
  | fuel + 1, cursor, done =>
    match cursor.rest with
    | [] => cursor.fail .eofInString
    | '"' :: _ => .ok (String.ofList done.reverse, cursor.advance)
    | '\\' :: _ =>
      match readEscape cursor.advance with
      | .error failure => .error failure
      | .ok (c, cursor) => readText fuel cursor (c :: done)
    | c :: _ =>
      if c.toNat < 32 then .error ⟨.controlCharacter, cursor.offset + 1⟩
      else readText fuel cursor.advance (c :: done)

/-- The cursor after what follows a backslash; any code of a character will do. -/
def skipEscape (cursor : Cursor) : Except Failure Cursor :=
  match cursor.rest with
  | 'u' :: _ => (readHex cursor.advance).map Prod.snd
  | _ => (readEscape cursor).map Prod.snd

/-- The cursor after a text whose opening quote is before it. -/
def skipText : (fuel : Nat) → Cursor → Except Failure Cursor
  | 0, cursor => cursor.fail .eofInString
  | fuel + 1, cursor =>
    match cursor.rest with
    | [] => cursor.fail .eofInString
    | '"' :: _ => .ok cursor.advance
    | '\\' :: _ =>
      match skipEscape cursor.advance with
      | .error failure => .error failure
      | .ok cursor => skipText fuel cursor
    | c :: _ =>
      if c.toNat < 32 then .error ⟨.controlCharacter, cursor.offset + 1⟩
      else skipText fuel cursor.advance

/-- Reads a text after its opening quote, as strictly as told: if it is only illegible, `skipText`
passes over it and there is none. -/
def readTextAs (strictness : Strictness) (fuel : Nat) (cursor : Cursor) :
    Except Failure (Option String × Cursor) :=
  match readText fuel cursor [] with
  | .ok (text, after) => .ok (some text, after)
  | .error failure =>
    if strictness = .lenient && failure.cause.isIllegible then
      (skipText fuel cursor).map fun after => (none, after)
    else .error failure

/-- A text, if there is a legible one. -/
def ofText? : Option String → Json
  | some text => .string text
  | none => .illegible

/-! ## Values -/

/-- Moves a cursor to the next item of a list, after the comma if it is not the first one; none at
the end of the list. -/
def nextItem (first : Bool) (cursor : Cursor) : Except Failure (Option Cursor) :=
  let cursor := cursor.skipBlanks
  match cursor.rest with
  | [] => cursor.failNext .eofInList
  | ']' :: _ => .ok none
  | c :: _ =>
    if first then .ok (some cursor)
    else if c = ',' then
      let cursor := cursor.advance.skipBlanks
      match cursor.rest with
      | [] => cursor.failNext .eofInValue
      | ']' :: _ => cursor.failNext .trailingComma
      | _ => .ok (some cursor)
    else cursor.failNext .expectedListEnd

/-- Moves a cursor to the quote of the next key of an object; none at the end of the object. -/
def nextKey (first : Bool) (cursor : Cursor) : Except Failure (Option Cursor) :=
  let cursor := cursor.skipBlanks
  match cursor.rest with
  | [] => cursor.failNext .eofInObject
  | '\x7d' :: _ => .ok none
  | c :: _ =>
    if first then if c = '"' then .ok (some cursor) else cursor.failNext .keyNotString
    else if c = ',' then
      let cursor := cursor.advance.skipBlanks
      match cursor.rest with
      | [] => cursor.failNext .eofInValue
      | '"' :: _ => .ok (some cursor)
      | '\x7d' :: _ => cursor.failNext .trailingComma
      | _ => cursor.failNext .keyNotString
    else cursor.failNext .expectedObjectEnd

/-- Moves a cursor after the colon of an entry. -/
def readColon (cursor : Cursor) : Except Failure Cursor :=
  let cursor := cursor.skipBlanks
  match cursor.rest with
  | [] => cursor.failNext .eofInObject
  | ':' :: _ => .ok cursor.advance
  | _ => cursor.failNext .expectedColon

/-- The list or object that was read, if it can be held. -/
def heldIf (fits : Bool) (read : Json × Cursor) : Json × Cursor :=
  if fits then read else (.illegible, read.2)

mutual

/-- Reads a value; `depth` is the number of lists and objects that may still be opened, plus one.
`fuel` is enough for the rest of the text and never the reason of a failure. -/
def readValue (strictness : Strictness) : (fuel depth : Nat) → Cursor →
    Except Failure (Json × Cursor)
  | 0, _, cursor => cursor.fail .tooDeep
  | fuel + 1, depth, cursor =>
    let cursor := cursor.skipBlanks
    match cursor.rest with
    | [] => cursor.failNext .eofInValue
    | 'n' :: _ => readWord .null "ull".toList cursor.advance
    | 't' :: _ => readWord (.bool true) "rue".toList cursor.advance
    | 'f' :: _ => readWord (.bool false) "alse".toList cursor.advance
    | '-' :: _ => readNumberAs strictness true cursor.advance
    | '"' :: _ => (readTextAs strictness fuel cursor.advance).map fun (text, after) =>
        (ofText? text, after)
    | '[' :: _ =>
      if depth ≤ 1 && strictness = .strict then cursor.failNext .tooDeep
      else (readItems strictness fuel (depth - 1) true cursor.advance []).map (heldIf (1 < depth))
    | '\x7b' :: _ =>
      if depth ≤ 1 && strictness = .strict then cursor.failNext .tooDeep
      else (readEntries strictness fuel (depth - 1) true cursor.advance (some [])).map
        (heldIf (1 < depth))
    | c :: _ =>
      if c.isDigit then readNumberAs strictness false cursor else cursor.failNext .expectedValue

/-- Reads the items of a list up to its bracket; `done` holds the items read, the last first. -/
def readItems (strictness : Strictness) : (fuel depth : Nat) → (first : Bool) → Cursor →
    (done : List Json) → Except Failure (Json × Cursor)
  | 0, _, _, cursor, _ => cursor.fail .tooDeep
  | fuel + 1, depth, first, cursor, done =>
    match nextItem first cursor with
    | .error failure => .error failure
    | .ok none => .ok (.array done.reverse, cursor.skipBlanks.advance)
    | .ok (some cursor) =>
      match readValue strictness fuel depth cursor with
      | .error failure => .error failure
      | .ok (value, cursor) => readItems strictness fuel depth false cursor (value :: done)

/-- Reads the entries of an object up to its brace; `done` holds the entries read, the last
first, if all their keys are legible. -/
def readEntries (strictness : Strictness) : (fuel depth : Nat) → (first : Bool) → Cursor →
    (done : Option (List (String × Json))) → Except Failure (Json × Cursor)
  | 0, _, _, cursor, _ => cursor.fail .tooDeep
  | fuel + 1, depth, first, cursor, done =>
    match nextKey first cursor with
    | .error failure => .error failure
    | .ok none =>
      .ok ((done.map fun entries => .object entries.reverse).getD .illegible,
        cursor.skipBlanks.advance)
    | .ok (some cursor) =>
      match readTextAs strictness fuel cursor.advance with
      | .error failure => .error failure
      | .ok (key, cursor) =>
        match readColon cursor with
        | .error failure => .error failure
        | .ok cursor =>
          match readValue strictness fuel depth cursor with
          | .error failure => .error failure
          | .ok (value, cursor) =>
            readEntries strictness fuel depth false cursor
              (done.bind fun entries => key.map fun key => (key, value) :: entries)

end

/-- Reads a document: one value of `readValue`, and nothing after it but white space. -/
def parseAs (strictness : Strictness) (text : String) : Except Failure Json := do
  let chars := text.toList
  let (value, cursor) ← readValue strictness (3 * chars.length + 3) 128 ⟨chars, 0⟩
  let cursor := cursor.skipBlanks
  if cursor.rest.isEmpty then .ok value else cursor.failNext .trailingCharacters

/-- Reads a document of which everything is held: `parseAs .strict`. -/
def parse (text : String) : Except Failure Json := parseAs .strict text

/-- Reads a document of which some values may be illegible: `parseAs .lenient`. -/
def parseLeniently (text : String) : Except Failure Json := parseAs .lenient text

end Companion.Json
