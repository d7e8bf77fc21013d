import Companion.TypeRef
import Companion.Json.Decoding

/-! # Type references in JSON -/

namespace Companion.TypeRef

/-- The fields of a reference, its type arguments being read by `argument`. -/
def shape (argument : Json → Decoded TypeRef) : Json.Shape TypeRef where
  name := "TypeRef"
  closed := false
  fields :=
    [.of "namespace" false (Json.asOption Json.asString) fun namespaceName draft =>
        { draft with namespaceName },
      .of "containing_types" false (Json.asList Json.asString) fun containing draft =>
        { draft with containing },
      .of "name" true Json.asString fun name draft => { draft with name },
      .of "type_arguments" false (Json.asList argument) fun arguments draft =>
        { draft with arguments }]
  blank := named none ""

/-- Reads a reference by its `shape` in a value of at most the given depth. -/
def ofJsonWithin : (depth : Nat) → Json → Decoded TypeRef
  | 0, value => .error (.wrongType value "struct TypeRef")
  | depth + 1, value => (shape (ofJsonWithin depth)).read .json value

/-- Reads a reference: `ofJsonWithin` the depth of the value, which is always enough. -/
def ofJson (value : Json) : Decoded TypeRef := ofJsonWithin value.depth value

mutual

/-- Writes a reference. -/
def toJson : TypeRef → Json
  | ⟨namespaceName, containing, name, arguments⟩ =>
    .object [("namespace", .ofOption (namespaceName.map .string)),
      ("containing_types", .strings containing), ("name", .string name),
      ("type_arguments", .array (argumentsToJson arguments))]

/-- Writes each of a list of references with `toJson`. -/
def argumentsToJson : List TypeRef → List Json
  | [] => []
  | argument :: rest => toJson argument :: argumentsToJson rest

end

end Companion.TypeRef
