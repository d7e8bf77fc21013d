import Companion.Attribute
import Companion.Location

/-! # Declarations

The declaration of a type that carries attributes: its names, its ancestors, the members that its
author wrote, and its attributes. `Declaration.checkIdentity` says whether its names can be written.
-/

namespace Companion

open Identifier

/-- A member that the author of a type wrote. -/
structure Member where
  /-- The name. -/
  name : String
  /-- The number of parameters of a method; zero for other members. -/
  arity : Nat
  deriving DecidableEq, Repr

/-- A declared type with attributes: what a host says about one type of the author. -/
structure Declaration where
  /-- The simple name. -/
  name : String
  /-- The dotted namespace; none or empty for the global one. -/
  namespaceName : Option String
  /-- The names of the type parameters. -/
  typeParameters : List String
  /-- Whether every part of the type is declared partial. -/
  isPartial : Bool
  /-- The base types, the nearest first. -/
  ancestry : List String
  /-- The members that the author wrote. -/
  members : List Member
  /-- The attributes in source order. -/
  attributes : List Attribute
  /-- The place of the type's name. -/
  location : Location

/-- Why a declaration's names cannot be written, as `Declaration.identityError?` finds it. -/
inductive IdentityError
  /-- The type's name is no identifier. -/
  | invalidName (name : String)
  /-- A piece of the namespace is no identifier. -/
  | invalidNamespace (name segment : String)
  /-- A type parameter is no identifier. -/
  | invalidTypeParameter (name : String)
  deriving DecidableEq, Repr

/-- An identity error in words. -/
def IdentityError.message : IdentityError → String
  | invalidName name => s!"'{name}' is not a valid type name"
  | invalidNamespace name segment => s!"namespace '{name}' has invalid segment '{segment}'"
  | invalidTypeParameter name => s!"'{name}' is not a valid type parameter name"

namespace Declaration

/-- The declaration of a name and nothing else; `inNamespace`, `asPartial` and the like add to it.
-/
def named (name : String) : Declaration := ⟨name, none, [], false, [], [], [], .unknown⟩

/-- The declaration in a namespace. -/
def inNamespace (declaration : Declaration) (name : String) : Declaration :=
  { declaration with namespaceName := some name }

/-- The declaration as a partial one. -/
def asPartial (declaration : Declaration) : Declaration := { declaration with isPartial := true }

/-- The declaration with one more ancestor. -/
def inherits (declaration : Declaration) (base : String) : Declaration :=
  { declaration with ancestry := declaration.ancestry ++ [base] }

/-- The declaration with one more type parameter. -/
def withTypeParameter (declaration : Declaration) (name : String) : Declaration :=
  { declaration with typeParameters := declaration.typeParameters ++ [name] }

/-- The declaration with one more member. -/
def withMember (declaration : Declaration) (name : String) (arity : Nat) : Declaration :=
  { declaration with members := declaration.members ++ [⟨name, arity⟩] }

/-- The declaration with one more attribute. -/
def withAttribute (declaration : Declaration) (attr : Attribute) : Declaration :=
  { declaration with attributes := declaration.attributes ++ [attr] }

/-- The declaration at a place. -/
def located (declaration : Declaration) (location : Location) : Declaration :=
  { declaration with location }

/-- The characters of the name with its type parameters, `bracketed` if there are any. -/
def displayChars (declaration : Declaration) : List Char :=
  declaration.name.toList
    ++ TypeRef.bracketed (declaration.typeParameters.map String.toList)

/-- The name with its type parameters: `Name<T, U>`. -/
def displayName (declaration : Declaration) : String := String.ofList declaration.displayChars

/-- The namespace, if it is not the global one: neither none nor empty. -/
def properNamespace? (declaration : Declaration) : Option String :=
  declaration.namespaceName.filter fun name => !name.isEmpty

/-- The characters of the qualified name: the `properNamespace?` and a dot before `displayChars`. -/
def qualifiedChars (declaration : Declaration) : List Char :=
  match declaration.properNamespace? with
  | some name => name.toList ++ ['.'] ++ declaration.displayChars
  | none => declaration.displayChars

/-- The name with its namespace and type parameters: `Space.Name<T, U>`. -/
def qualifiedName (declaration : Declaration) : String := String.ofList declaration.qualifiedChars

@[simp] theorem toList_displayName (declaration : Declaration) :
    declaration.displayName.toList = declaration.displayChars :=
  String.toList_ofList

@[simp] theorem toList_qualifiedName (declaration : Declaration) :
    declaration.qualifiedName.toList = declaration.qualifiedChars :=
  String.toList_ofList

/-- The first piece of a dotted name that is no `isIdentifierChars`. -/
def invalidSegment? (name : String) : Option String :=
  ((name.toList.splitOn '.').find? fun piece => !isIdentifierChars piece).map String.ofList

/-- What is wrong with a declaration's names: its own, then the `invalidSegment?` of its namespace,
then its type parameters. -/
def identityError? (declaration : Declaration) : Option IdentityError :=
  if !isIdentifier declaration.name then some (.invalidName declaration.name)
  else
    match declaration.properNamespace?.bind fun name =>
        (invalidSegment? name).map (IdentityError.invalidNamespace name) with
    | some reason => some reason
    | none =>
      (declaration.typeParameters.find? fun name => !isIdentifier name).map .invalidTypeParameter

/-- Accepts a declaration whose `identityError?` is none: its names are all identifiers. -/
def checkIdentity (declaration : Declaration) : Except IdentityError Unit :=
  match declaration.identityError? with
  | some reason => .error reason
  | none => .ok ()

/-- Whether the author wrote a member with a name and a number of parameters, in these spellings. -/
def declares (declaration : Declaration) (name : String) (arity : Nat) : Bool :=
  declaration.members.any fun member => member.name == name && member.arity == arity

/-- Whether the author wrote a member with a name. -/
def declaresNamed (declaration : Declaration) (name : String) : Bool :=
  declaration.members.any fun member => member.name == name

/-- Whether the `TypeName.simpleName` of some ancestor is the given one. -/
def derivesFrom (declaration : Declaration) (base : String) : Bool :=
  declaration.ancestry.any fun ancestor => TypeName.simpleName ancestor == base

end Declaration

end Companion
