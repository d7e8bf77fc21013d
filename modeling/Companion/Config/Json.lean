import Companion.Config
import Companion.SearchScope.Json

/-! # Configurations as trees of values

The fields of a configuration by name. All of them may be absent, and none may be unknown. The
dialect is a parameter, because settings files and JSON documents give the same tree. -/

namespace Companion

/-- The collision levels by their names, for reading; `CollisionLevel.name` is for writing. -/
def CollisionLevel.names : List (String × CollisionLevel) :=
  [("error", .error), ("warning", .warning), ("allow", .allow)]

/-- The name of a collision level. -/
def CollisionLevel.name : CollisionLevel → String
  | .error => "error"
  | .warning => "warning"
  | .allow => "allow"

/-- The fields of the attribute defaults. -/
def AttributeDefaults.shape : Json.Shape AttributeDefaults where
  name := "AttributeDefaults"
  closed := true
  fields :=
    [.of "required" false Json.asBool fun required draft => { draft with required },
      .of "search_scope" false SearchScope.ofJson fun searchScope draft =>
        { draft with searchScope }]
  blank := .standard

/-- The fields of the runtime names. -/
def RuntimeNames.shape : Json.Shape RuntimeNames where
  name := "RuntimeApi"
  closed := true
  fields :=
    [.of "behaviour_base" false Json.asString fun behaviourBase draft =>
        { draft with behaviourBase },
      .of "find_in_self" false Json.asString fun findInSelf draft => { draft with findInSelf },
      .of "find_in_children" false Json.asString fun findInChildren draft =>
        { draft with findInChildren },
      .of "find_in_parent" false Json.asString fun findInParent draft =>
        { draft with findInParent },
      .of "require_attribute" false Json.asString fun requireAttribute draft =>
        { draft with requireAttribute },
      .of "missing_exception" false Json.asString fun missingException draft =>
        { draft with missingException }]
  blank := .standard

/-- The fields of the emit options. -/
def EmitOptions.shape : Json.Shape EmitOptions where
  name := "EmitConfig"
  closed := true
  fields :=
    [.of "populate_method" false Json.asString fun populateMethod draft =>
        { draft with populateMethod },
      .of "lifecycle_hook" false Json.asString fun lifecycleHook draft =>
        { draft with lifecycleHook },
      .of "file_suffix" false Json.asString fun fileSuffix draft => { draft with fileSuffix },
      .of "indent" false Json.asNat64 fun indent draft => { draft with indent }]
  blank := .standard

/-- The fields of the checks. -/
def CheckOptions.shape (dialect : Json.Dialect) : Json.Shape CheckOptions where
  name := "ValidateConfig"
  closed := true
  fields :=
    [.of "property_collisions" false (Json.asVariant dialect CollisionLevel.names)
      fun propertyCollisions _ => { propertyCollisions }]
  blank := .standard

namespace Config

/-- The groups of a configuration: `attribute`, `runtime`, `emit` and `validate`, each with the
shape of its structure. -/
def shape (dialect : Json.Dialect) : Json.Shape Config where
  name := "GeneratorConfig"
  closed := true
  fields :=
    [.of "attribute" false (AttributeDefaults.shape.read dialect) fun defaults draft =>
        { draft with defaults },
      .of "runtime" false (RuntimeNames.shape.read dialect) fun runtime draft =>
        { draft with runtime },
      .of "emit" false (EmitOptions.shape.read dialect) fun emit draft => { draft with emit },
      .of "validate" false ((CheckOptions.shape dialect).read dialect) fun checks draft =>
        { draft with checks }]
  blank := .standard

/-- Reads a configuration from a tree of a dialect by its `shape`. -/
def ofTree (dialect : Json.Dialect) : Json → Decoded Config := (shape dialect).read dialect

/-- Reads a configuration from a JSON document: `ofTree .json`. -/
def ofJson : Json → Decoded Config := ofTree .json

/-- Writes a configuration with all settings of its `shape`. -/
def toJson (config : Config) : Json :=
  .object
    [("attribute", .object [("required", .bool config.defaults.required),
      ("search_scope", config.defaults.searchScope.toJson)]),
    ("runtime", .object [("behaviour_base", .string config.runtime.behaviourBase),
      ("find_in_self", .string config.runtime.findInSelf),
      ("find_in_children", .string config.runtime.findInChildren),
      ("find_in_parent", .string config.runtime.findInParent),
      ("require_attribute", .string config.runtime.requireAttribute),
      ("missing_exception", .string config.runtime.missingException)]),
    ("emit", .object [("populate_method", .string config.emit.populateMethod),
      ("lifecycle_hook", .string config.emit.lifecycleHook),
      ("file_suffix", .string config.emit.fileSuffix), ("indent", .integer config.emit.indent)]),
    ("validate", .object
      [("property_collisions", .string config.checks.propertyCollisions.name)])]

end Config

end Companion
