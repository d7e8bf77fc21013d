import Companion.TypeRef
import Companion.SearchScope
import Companion.Dictionary

/-! # Attributes

An `Attribute` is one request for a cached component, as it is written on a declaration: constant
arguments by position and by name. -/

namespace Companion

/-- A constant argument of an attribute, of one of the kinds that `AttributeValue.kindName` names.
-/
inductive AttributeValue
  /-- A type. -/
  | type (reference : TypeRef)
  /-- A text. -/
  | string (value : String)
  /-- A truth value. -/
  | bool (value : Bool)
  /-- An integer or a constant of an enumeration. -/
  | integer (value : Int)
  /-- The null constant. -/
  | null
  /-- A constant that could not be evaluated, with the reason. -/
  | unbound (reason : String)

/-- What kind of constant an argument is, for the messages of `ExtractionCause`. -/
def AttributeValue.kindName : AttributeValue → String
  | .type _ => "a type"
  | .string _ => "a string"
  | .bool _ => "a bool"
  | .integer _ => "an integer"
  | .null => "null"
  | .unbound _ => "an unbound constant"

/-- One attribute of a declaration: its arguments as they are given, which `Descriptor.ofArguments`
reads. -/
structure Attribute where
  /-- The arguments given by position. -/
  positional : List AttributeValue
  /-- The arguments given by name, in the order of a `Dictionary`. -/
  named : Dictionary AttributeValue

namespace Attribute

/-- The argument that names the generated property. -/
def propertyNameKey : String := "PropertyName"

/-- The argument that restricts the search. -/
def searchScopeKey : String := "SearchScope"

/-- The argument that says whether the component must be found. -/
def isRequiredKey : String := "IsRequired"

/-- The attribute without arguments. -/
def empty : Attribute := ⟨[], .empty⟩

/-- The attribute that requests a type as its first positional argument and says nothing else. -/
def ofType (dependency : TypeRef) : Attribute := ⟨[.type dependency], .empty⟩

/-- The attribute with one more positional argument, after those that it has. -/
def withPositional (attr : Attribute) (value : AttributeValue) : Attribute :=
  { attr with positional := attr.positional ++ [value] }

/-- The attribute with a named argument set, in place of an earlier one of the name. -/
def withNamed (attr : Attribute) (name : String) (value : AttributeValue) : Attribute :=
  { attr with named := attr.named.insert name value }

/-- The attribute with a property name, given as `propertyNameKey`. -/
def withPropertyName (attr : Attribute) (name : String) : Attribute :=
  attr.withNamed propertyNameKey (.string name)

/-- The attribute with a search scope: its word `SearchScope.bits` is given as `searchScopeKey`. -/
def withScope (attr : Attribute) (scope : SearchScope) : Attribute :=
  attr.withNamed searchScopeKey (.integer scope.bits.toNat)

/-- The attribute that says whether the component must be found, given as `isRequiredKey`. -/
def withRequired (attr : Attribute) (required : Bool) : Attribute :=
  attr.withNamed isRequiredKey (.bool required)

end Attribute

end Companion
