import Companion.Identifier

/-! # Names of types

Readings of a possibly qualified and generic type name: its last segment (`simpleName`), a stem that
is safe as a file name and unique per type and arity (`fileStem`), and the check that a name is a
dotted path of identifiers (`isPath`). -/

namespace Companion.TypeName

open Companion.Text Companion.Identifier

/-- The alias that roots a name in the global namespace. -/
def globalAlias : List Char := "global::".toList

/-- A name without the `globalAlias` at its start. -/
def withoutAlias (name : List Char) : List Char := (globalAlias.isPrefixOf? name).getD name

/-- The last of the pieces that dots separate. -/
def lastSegment (name : List Char) : List Char := (name.splitOn '.').getLastD []

/-- The simple name of a list of characters: the `lastSegment` of what stands before the first list
of type arguments, without the alias and without outer white space. -/
def simpleNameChars (name : List Char) : List Char :=
  trim (lastSegment (withoutAlias (name.takeWhile (· != '<'))))

/-- The last dotted segment of a type name, without alias, type arguments and outer white space:
`simpleNameChars` of its characters. -/
def simpleName (name : String) : String := String.ofList (simpleNameChars name.toList)

/-- Removes every occurrence of the `globalAlias`; `skip` counts the characters that still belong to
the occurrence found last. -/
def eraseAliases : (skip : Nat) → List Char → List Char
  | _, [] => []
  | skip + 1, _ :: rest => eraseAliases skip rest
  | 0, c :: rest =>
    if globalAlias.isPrefixOf (c :: rest) then eraseAliases (globalAlias.length - 1) rest
    else c :: eraseAliases 0 rest

/-- The mark that replaces a list of type arguments: a backtick and the number of arguments. -/
def arityMark (arity : Nat) : List Char := "`".toList ++ Nat.toDigits 10 arity

/-- Reads a type name at a nesting depth of type arguments, `arity` being the number of arguments of
the outermost list so far. Lists become `arityMark`s; white space is dropped. -/
def fileStemFrom : (depth arity : Nat) → List Char → List Char
  | _, _, [] => []
  | depth, arity, c :: rest =>
    if c = '<' then fileStemFrom (depth + 1) (if depth = 0 then 1 else arity) rest
    else if c = ',' ∧ depth = 1 then fileStemFrom depth (arity + 1) rest
    else if c = '>' ∧ 0 < depth then
      (if depth = 1 then arityMark arity else []) ++ fileStemFrom (depth - 1) arity rest
    else if 0 < depth ∨ isWhiteSpace c then fileStemFrom depth arity rest
    else c :: fileStemFrom depth arity rest

/-- The file stem of a list of characters: `fileStemFrom` its start, after `eraseAliases`. -/
def fileStemChars (name : List Char) : List Char := fileStemFrom 0 0 (eraseAliases 0 name)

/-- A type name as a file name stem: aliases and white space are dropped, and each list of type
arguments becomes a backtick and its length. -/
def fileStem (name : String) : String := String.ofList (fileStemChars name.toList)

/-- Whether the pieces that dots separate are all identifiers, as `isIdentifierChars` says. -/
def isPathChars (name : List Char) : Bool := (name.splitOn '.').all isIdentifierChars

/-- Whether a text is a dotted path of identifiers: `isPathChars` of its characters. -/
def isPath (name : String) : Bool := isPathChars name.toList

/-- Whether a text is a dotted path of identifiers, possibly rooted in the global namespace by
`globalAlias`. -/
def isRootedPath (name : String) : Bool := isPathChars (withoutAlias name.toList)

@[simp] theorem toList_simpleName (name : String) :
    (simpleName name).toList = simpleNameChars name.toList :=
  String.toList_ofList

@[simp] theorem toList_fileStem (name : String) :
    (fileStem name).toList = fileStemChars name.toList :=
  String.toList_ofList

end Companion.TypeName
