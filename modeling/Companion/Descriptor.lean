import Companion.Declaration
import Companion.Config

/-! # Descriptors

A `Descriptor` is what one attribute asks for: a component type, possibly a property name, where the
component is looked for and whether it must be found. `Descriptor.ofAttribute` reads it off the
attribute's arguments, or says which of them is wrong. -/

namespace Companion

/-- What one attribute asks for, as `Descriptor.ofArguments` reads it. -/
structure Descriptor where
  /-- The component type. -/
  dependency : TypeRef
  /-- The property name, if one is given. -/
  propertyName : Option String
  /-- Where the component is looked for. -/
  scope : SearchScope
  /-- Whether it must be found. -/
  required : Bool

/-- The name of the property: the given one, or the one that `Identifier.propertyName` derives from
the name of the component type. -/
def Descriptor.resolvedName (descriptor : Descriptor) : String :=
  descriptor.propertyName.getD (Identifier.propertyName descriptor.dependency.name)

/-- What is wrong with an attribute: one constructor for each way in which `Descriptor.ofArguments`
fails. -/
inductive ExtractionCause
  /-- More than two positional arguments. -/
  | tooManyArguments (count : Nat)
  /-- No component type: no argument, or the null constant. -/
  | missingTargetType
  /-- A component type that does not exist or is not `isResolvable`. -/
  | unresolvedTargetType (reason : String)
  /-- Something else in place of the component type. -/
  | targetNotAType (found : String)
  /-- An argument of the wrong kind. -/
  | argumentKind (argument found expected : String)
  /-- A named argument that attributes do not have. -/
  | unknownArgument (name : String)
  /-- Two different property names. -/
  | conflictingPropertyName (positional named : String)
  /-- A property name that is no `Identifier.isIdentifier`. -/
  | invalidPropertyName (name : String)
  /-- A scope with bits that stand for no region, on which `SearchScope.ofRaw?` fails. -/
  | invalidSearchScope (bits : Int)
  /-- A scope that `isEmpty`. -/
  | emptySearchScope
  deriving DecidableEq, Repr

/-- A cause in words, with the argument or the name that it is about. -/
def ExtractionCause.message : ExtractionCause → String
  | tooManyArguments count => s!"{count} positional arguments given, at most 2 accepted"
  | missingTargetType => "missing dependency type argument"
  | unresolvedTargetType reason => s!"dependency type could not be resolved: {reason}"
  | targetNotAType found => s!"dependency argument is {found}, expected a type"
  | argumentKind argument found expected => s!"`{argument}` is {found}, expected {expected}"
  | unknownArgument name => s!"unknown named argument `{name}`"
  | conflictingPropertyName positional named =>
    s!"property name given as '{positional}' and as `PropertyName = \"" ++ named ++ "\"`"
  | invalidPropertyName name => s!"'{name}' is not a valid property name"
  | invalidSearchScope bits =>
    s!"search scope {bits} is not a combination of Self, Children and Parent"
  | emptySearchScope => "search scope must include at least one of Self, Children or Parent"

/-- A wrong attribute: its number on the declaration, and the `ExtractionCause` that says what is
wrong with it. -/
structure ExtractionError where
  /-- The number of the attribute, from one. -/
  position : Nat
  /-- What is wrong. -/
  cause : ExtractionCause
  deriving DecidableEq, Repr

/-- A wrong attribute in words: its number and the `message` of the cause. -/
def ExtractionError.message (error : ExtractionError) : String :=
  s!"attribute #{error.position}: {error.cause.message}"

namespace Descriptor

/-- The component type that the first argument gives, if it is a type that `isResolvable`. -/
def dependencyOf : Option AttributeValue → Except ExtractionCause TypeRef
  | none => .error .missingTargetType
  | some .null => .error .missingTargetType
  | some (.type reference) =>
    if reference.isResolvable then .ok reference
    else .error (.unresolvedTargetType s!"'{reference.qualified}' is not a valid type name")
  | some (.unbound reason) => .error (.unresolvedTargetType reason)
  | some value => .error (.targetNotAType value.kindName)

/-- The text of an argument; the null constant stands for none, and a value of another kind fails
with `argumentKind`. -/
def optionalText (argument : String) : AttributeValue → Except ExtractionCause (Option String)
  | .string value => .ok (some value)
  | .null => .ok none
  | value => .error (.argumentKind argument value.kindName "a string")

/-- The scope that an argument gives: that of `SearchScope.ofRaw?`, if it is not empty. -/
def scopeOf : AttributeValue → Except ExtractionCause SearchScope
  | .integer raw =>
    match SearchScope.ofRaw? raw with
    | none => .error (.invalidSearchScope raw)
    | some scope => if scope.isEmpty then .error .emptySearchScope else .ok scope
  | value => .error (.argumentKind Attribute.searchScopeKey value.kindName "an integer")

/-- The truth value that an argument gives; a value of another kind fails with `argumentKind`. -/
def requiredOf : AttributeValue → Except ExtractionCause Bool
  | .bool value => .ok value
  | value => .error (.argumentKind Attribute.isRequiredKey value.kindName "a bool")

/-- What the named arguments of an attribute say, beginning with `Options.ofDefaults`. -/
structure Options where
  /-- The property name, if one is given. -/
  name : Option String
  /-- Where the component is looked for. -/
  scope : SearchScope
  /-- Whether it must be found. -/
  required : Bool
  deriving DecidableEq

/-- What is said when there are no named arguments: the scope and the flag of the
`AttributeDefaults`, and no name. -/
def Options.ofDefaults (defaults : AttributeDefaults) : Options :=
  ⟨none, defaults.searchScope, defaults.required⟩

/-- Takes one named argument into account: `propertyNameKey`, `searchScopeKey` and `isRequiredKey`
are known, and other names fail with `unknownArgument`. -/
def Options.set (options : Options) (name : String) (value : AttributeValue) :
    Except ExtractionCause Options :=
  if name = Attribute.propertyNameKey then
    (optionalText Attribute.propertyNameKey value).map fun name => { options with name }
  else if name = Attribute.searchScopeKey then
    (scopeOf value).map fun scope => { options with scope }
  else if name = Attribute.isRequiredKey then
    (requiredOf value).map fun required => { options with required }
  else .error (.unknownArgument name)

/-- Takes named arguments into account one after the other with `Options.set`, up to the first that
fails. -/
def Options.setAll : Options → List (String × AttributeValue) → Except ExtractionCause Options
  | options, [] => .ok options
  | options, (name, value) :: rest =>
    match options.set name value with
    | .error cause => .error cause
    | .ok options => options.setAll rest

/-- The one property name of two that may be given; different ones fail with
`conflictingPropertyName`. -/
def mergeNames : (positional named : Option String) → Except ExtractionCause (Option String)
  | some positional, some named =>
    if positional = named then .ok (some positional)
    else .error (.conflictingPropertyName positional named)
  | some positional, none => .ok (some positional)
  | none, named => .ok named

/-- Accepts the absence of a property name, and a name that `Identifier.isIdentifier` accepts. -/
def checkName : Option String → Except ExtractionCause Unit
  | none => .ok ()
  | some name =>
    if Identifier.isIdentifier name then .ok () else .error (.invalidPropertyName name)

/-- Reads an attribute, or finds what is wrong with it: the number of arguments, then the component
type (`dependencyOf`), the second argument (`optionalText`), the named arguments (`Options.setAll`),
and last the property name (`mergeNames`, `checkName`). -/
def ofArguments (attr : Attribute) (defaults : AttributeDefaults) :
    Except ExtractionCause Descriptor := do
  if 2 < attr.positional.length then .error (.tooManyArguments attr.positional.length)
  let dependency ← dependencyOf attr.positional[0]?
  let positional ←
    match attr.positional[1]? with
    | none => .ok none
    | some value => optionalText "propertyName" value
  let options ← (Options.ofDefaults defaults).setAll attr.named.entries
  let propertyName ← mergeNames positional options.name
  checkName propertyName
  .ok ⟨dependency, propertyName, options.scope, options.required⟩

/-- Reads the attribute with a given number: the result of `ofArguments`, with the number beside the
cause of a failure. -/
def ofAttribute (position : Nat) (attr : Attribute) (defaults : AttributeDefaults) :
    Except ExtractionError Descriptor :=
  (ofArguments attr defaults).mapError (⟨position, ·⟩)

/-- Reads attributes numbered from `position` on with `ofAttribute`, up to the first that is wrong.
-/
def ofAttributesFrom (position : Nat) (defaults : AttributeDefaults) :
    List Attribute → Except ExtractionError (List Descriptor)
  | [] => .ok []
  | attr :: rest => do
    let descriptor ← ofAttribute position attr defaults
    let others ← ofAttributesFrom (position + 1) defaults rest
    .ok (descriptor :: others)

end Descriptor

/-- What the attributes of a declaration ask for, in their order: `Descriptor.ofAttributesFrom 1`.
-/
def Declaration.descriptors (declaration : Declaration) (defaults : AttributeDefaults) :
    Except ExtractionError (List Descriptor) :=
  Descriptor.ofAttributesFrom 1 defaults declaration.attributes

end Companion
