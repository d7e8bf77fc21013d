import Companion.Text.CharClass

/-! # Identifiers

The names that C# accepts for members, types, namespaces and type parameters. An identifier is a
letter or underscore followed by letters, digits and underscores; a reserved word is one only when
it is written verbatim, with a leading `@`. `bare` is the name that a verbatim spelling denotes, and
`propertyName` the default name of a member that holds a value of a given type. -/

namespace Companion.Identifier

open Companion.Text

/-- The reserved words of the language. -/
def keywords : List String :=
  ["abstract", "as", "base", "bool", "break", "byte", "case", "catch", "char", "checked",
    "class", "const", "continue", "decimal", "default", "delegate", "do", "double", "else",
    "enum", "event", "explicit", "extern", "false", "finally", "fixed", "float", "for",
    "foreach", "goto", "if", "implicit", "in", "int", "interface", "internal", "is", "lock",
    "long", "namespace", "new", "null", "object", "operator", "out", "override", "params",
    "private", "protected", "public", "readonly", "ref", "return", "sbyte", "sealed", "short",
    "sizeof", "stackalloc", "static", "string", "struct", "switch", "this", "throw", "true",
    "try", "typeof", "uint", "ulong", "unchecked", "unsafe", "ushort", "using", "virtual",
    "void", "volatile", "while"]

/-- The reserved words as lists of characters. -/
def keywordChars : List (List Char) := keywords.map String.toList

/-- Whether a list of characters spells a reserved word: one of `keywordChars`. -/
def isReserved (word : List Char) : Bool := keywordChars.contains word

/-- Whether a word is reserved: `isReserved` of its characters. -/
def isKeyword (word : String) : Bool := isReserved word.toList

/-- Whether a character may start an identifier: a letter or `_`. -/
def startsName (c : Char) : Bool := c == '_' || isAlphabetic c

/-- Whether a character may stand inside an identifier: a letter, a digit or `_`. -/
def continuesName (c : Char) : Bool := c == '_' || isAlphanumeric c

/-- Whether a list of characters has the shape of a name, reserved or not: `startsName` holds of the
first and `continuesName` of the others. -/
def isWord : List Char → Bool
  | [] => false
  | c :: rest => startsName c && rest.all continuesName

/-- Whether a list of characters is an identifier: a word (`isWord`) that is not reserved, or any
word after the `@` of a verbatim one. -/
def isIdentifierChars : List Char → Bool
  | '@' :: body => isWord body
  | name => isWord name && !isReserved name

/-- Whether a text is an identifier: `isIdentifierChars` of its characters. -/
def isIdentifier (name : String) : Bool := isIdentifierChars name.toList

/-- Lower-cases the first character of a name, which may give more characters than one. -/
def lowerFirst : List Char → List Char
  | [] => []
  | c :: rest => lowercase c ++ rest

/-- The member name derived from a type's simple name, as characters: `lowerFirst`, written verbatim
if that is reserved. -/
def propertyNameChars (typeName : List Char) : List Char :=
  let derived := lowerFirst typeName
  if isReserved derived then '@' :: derived else derived

/-- The member name derived from a type's simple name: its first character in lower case, written
verbatim if that gives a reserved word. -/
def propertyName (typeName : String) : String :=
  String.ofList (propertyNameChars typeName.toList)

/-- The characters of a name without its leading `@` signs. -/
def bareChars (name : List Char) : List Char := name.dropWhile (· == '@')

/-- A name without its leading `@` signs: two names with one bare form denote one identifier. -/
def bare (name : String) : String := String.ofList (bareChars name.toList)

@[simp] theorem toList_bare (name : String) : (bare name).toList = bareChars name.toList :=
  String.toList_ofList

@[simp] theorem toList_propertyName (typeName : String) :
    (propertyName typeName).toList = propertyNameChars typeName.toList :=
  String.toList_ofList

end Companion.Identifier
