import Companion.Declaration
import Companion.Attribute.Json
import Companion.Location.Json

/-! # Declarations in JSON -/

namespace Companion

namespace Member

/-- The fields of a member: `name`, and `arity`, which is zero if it is not given. -/
def shape : Json.Shape Member where
  name := "MemberSignature"
  closed := false
  fields :=
    [.of "name" true Json.asString fun name draft => { draft with name },
      .of "arity" false Json.asNat64 fun arity draft => { draft with arity }]
  blank := ⟨"", 0⟩

/-- Reads a member by its `shape`. -/
def ofJson : Json → Decoded Member := shape.read .json

/-- Writes a member with the fields of its `shape`. -/
def toJson (member : Member) : Json :=
  .object [("name", .string member.name), ("arity", .integer member.arity)]

end Member

namespace Declaration

/-- The fields of a declaration; all but the `name` may be absent. -/
def shape : Json.Shape Declaration where
  name := "AnnotatedDeclaration"
  closed := false
  fields :=
    [.of "name" true Json.asString fun name draft => { draft with name },
      .of "namespace" false (Json.asOption Json.asString) fun namespaceName draft =>
        { draft with namespaceName },
      .of "type_parameters" false (Json.asList Json.asString) fun typeParameters draft =>
        { draft with typeParameters },
      .of "is_partial" false Json.asBool fun isPartial draft => { draft with isPartial },
      .of "ancestry" false (Json.asList Json.asString) fun ancestry draft =>
        { draft with ancestry },
      .of "members" false (Json.asList Member.ofJson) fun members draft =>
        { draft with members },
      .of "attributes" false (Json.asList Attribute.ofJson) fun attributes draft =>
        { draft with attributes },
      .of "location" false Location.ofJson fun location draft => { draft with location }]
  blank := named ""

/-- Reads a declaration by its `shape`. -/
def ofJson : Json → Decoded Declaration := shape.read .json

/-- Writes a declaration with all fields of its `shape`. -/
def toJson (declaration : Declaration) : Json :=
  .object [("name", .string declaration.name),
    ("namespace", .ofOption (declaration.namespaceName.map .string)),
    ("type_parameters", .strings declaration.typeParameters),
    ("is_partial", .bool declaration.isPartial),
    ("ancestry", .strings declaration.ancestry),
    ("members", .array (declaration.members.map Member.toJson)),
    ("attributes", .array (declaration.attributes.map Attribute.toJson)),
    ("location", declaration.location.toJson)]

end Declaration

end Companion
