import Companion.SearchScope

/-! # Configurations

The settings of the generator, in four groups: the defaults of attributes, the names of the runtime
library, the form of the generated parts, and the treatment of name collisions. -/

namespace Companion

/-- What an attribute means when it does not say otherwise: `Descriptor.Options.ofDefaults`. -/
structure AttributeDefaults where
  /-- Whether the component must be found. -/
  required : Bool
  /-- Where the component is looked for. -/
  searchScope : SearchScope
  deriving DecidableEq, Repr

/-- The names of the runtime library that the generated text uses. -/
structure RuntimeNames where
  /-- The simple name of the base type of all annotated types, for which
  `Rule.mustInheritBehaviour` looks. -/
  behaviourBase : String
  /-- The lookup on the object itself. -/
  findInSelf : String
  /-- The lookup among descendants. -/
  findInChildren : String
  /-- The lookup among ancestors. -/
  findInParent : String
  /-- The attribute that demands a component on the object. -/
  requireAttribute : String
  /-- The exception thrown when a required component is missing. -/
  missingException : String
  deriving DecidableEq, Repr

/-- The form of the generated parts. -/
structure EmitOptions where
  /-- The method that fills the properties. -/
  populateMethod : String
  /-- The method that the runtime calls first. -/
  lifecycleHook : String
  /-- What the names of generated files end in. -/
  fileSuffix : String
  /-- The number of spaces of one level. -/
  indent : Nat
  deriving DecidableEq, Repr

/-- How a name collision is treated by `Plan.checkCollisions`. -/
inductive CollisionLevel
  /-- As an error. -/
  | error
  /-- As a warning. -/
  | warning
  /-- Not at all. -/
  | allow
  deriving DecidableEq, Repr

/-- Which checks are made on the generated names. -/
structure CheckOptions where
  /-- The treatment of colliding property names. -/
  propertyCollisions : CollisionLevel
  deriving DecidableEq, Repr

/-- The settings of the generator; `Config.validate` says which are accepted. -/
structure Config where
  /-- The defaults of attributes. -/
  defaults : AttributeDefaults
  /-- The names of the runtime library. -/
  runtime : RuntimeNames
  /-- The form of the generated parts. -/
  emit : EmitOptions
  /-- The checks on generated names. -/
  checks : CheckOptions
  deriving DecidableEq, Repr

/-- The standard defaults of attributes: a component must be found, on the object itself. -/
def AttributeDefaults.standard : AttributeDefaults := ⟨true, .only .self⟩

/-- The names of the runtime library as it is delivered. -/
def RuntimeNames.standard : RuntimeNames where
  behaviourBase := "MonoBehaviour"
  findInSelf := "GetComponent"
  findInChildren := "GetComponentInChildren"
  findInParent := "GetComponentInParent"
  requireAttribute := "global::UnityEngine.RequireComponent"
  missingException := "global::UnityEngine.MissingReferenceException"

/-- The standard form of the generated parts. -/
def EmitOptions.standard : EmitOptions where
  populateMethod := "CacheComponents"
  lifecycleHook := "Awake"
  fileSuffix := "ComponentCache.g.cs"
  indent := 4

/-- The standard checks: colliding property names are an `error`. -/
def CheckOptions.standard : CheckOptions := ⟨.error⟩

/-- The settings that hold when nothing else is said: the `standard` ones of each group. -/
def Config.standard : Config := ⟨.standard, .standard, .standard, .standard⟩

/-- The runtime method that looks for a component in a region: one name of `RuntimeNames` for each
region. -/
def RuntimeNames.lookup (names : RuntimeNames) : Region → String
  | .self => names.findInSelf
  | .children => names.findInChildren
  | .parent => names.findInParent

end Companion
