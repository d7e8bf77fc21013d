import Companion.TypeName

/-! # Type references

A reference to a type by its namespace, the types that contain it, its name and its type arguments.
`TypeRef.qualified` spells it from the global namespace; `TypeRef.isResolvable` says that every name
in it is an identifier. -/

namespace Companion

/-- A reference to a type, written by `TypeRef.qualified`. -/
structure TypeRef where
  /-- The dotted namespace; none for the global one. -/
  namespaceName : Option String
  /-- The containing types, the outermost first. -/
  containing : List String
  /-- The simple name. -/
  name : String
  /-- The type arguments. -/
  arguments : List TypeRef

namespace TypeRef

open Identifier

/-- The type of a name, without arguments. -/
def named (namespaceName : Option String) (name : String) : TypeRef := ⟨namespaceName, [], name, []⟩

/-- The reference one level further inside: a containing type is added. -/
def nestedIn (type : TypeRef) (container : String) : TypeRef :=
  { type with containing := type.containing ++ [container] }

/-- The reference with one more type argument. -/
def withArgument (type argument : TypeRef) : TypeRef :=
  { type with arguments := type.arguments ++ [argument] }

/-- The characters of everything before a type's simple name: the `globalAlias`, the namespace and
the containing types, with dots. -/
def qualifier (namespaceName : Option String) (containing : List String) : List Char :=
  TypeName.globalAlias
    ++ (match namespaceName with
      | none => []
      | some name => name.toList ++ ['.'])
    ++ containing.flatMap fun name => name.toList ++ ['.']

/-- A list of type arguments between angle brackets; nothing if there is none. -/
def bracketed (arguments : List (List Char)) : List Char :=
  if arguments.isEmpty then [] else ['<'] ++ ", ".toList.intercalate arguments ++ ['>']

mutual

/-- The characters of a fully qualified type: its `qualifier`, its name, and its type arguments
`bracketed`. -/
def qualifiedChars : TypeRef → List Char
  | ⟨namespaceName, containing, name, arguments⟩ =>
    qualifier namespaceName containing ++ name.toList ++ bracketed (argumentChars arguments)

/-- The characters of each of a list of types, as `qualifiedChars` writes it. -/
def argumentChars : List TypeRef → List (List Char)
  | [] => []
  | argument :: rest => qualifiedChars argument :: argumentChars rest

end

/-- The type as it is written from the global namespace: `global::Space.Outer.Name<A, B>`. -/
def qualified (type : TypeRef) : String := String.ofList type.qualifiedChars

@[simp] theorem toList_qualified (type : TypeRef) :
    type.qualified.toList = type.qualifiedChars :=
  String.toList_ofList

mutual

/-- Whether all names in a reference are identifiers: namespace (`TypeName.isPath`), containing
types, name, and those of the type arguments. -/
def isResolvable : TypeRef → Bool
  | ⟨namespaceName, containing, name, arguments⟩ =>
    namespaceName.all TypeName.isPath && containing.all isIdentifier && isIdentifier name
      && areResolvable arguments

/-- Whether all names in a list of references are identifiers: each reference `isResolvable`. -/
def areResolvable : List TypeRef → Bool
  | [] => true
  | argument :: rest => isResolvable argument && areResolvable rest

end

end TypeRef

end Companion
