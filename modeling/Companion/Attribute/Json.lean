import Companion.Attribute
import Companion.TypeRef.Json

/-! # Attributes in JSON

An argument is an object of its kind and its value, or the array of the two. -/

namespace Companion

namespace AttributeValue

/-- The kinds of arguments, one for each constructor of `AttributeValue`. -/
inductive Kind
  | type
  | string
  | bool
  | integer
  | null
  | unbound
  deriving DecidableEq, Repr

/-- The kinds by their names, which stand at the key `kind`. -/
def kinds : List (String × Kind) :=
  [("type", .type), ("string", .string), ("bool", .bool), ("int", .integer), ("null", .null),
    ("error", .unbound)]

/-- What messages call an argument. -/
def title : String := "adjacently tagged enum AttributeValue"

/-- Reads the value of an argument of a given kind, which must be of that kind. -/
def ofKind (kind : Kind) (value : Json) : Decoded AttributeValue :=
  match kind with
  | .type => (TypeRef.ofJson value).map .type
  | .string => (Json.asString value).map .string
  | .bool => (Json.asBool value).map .bool
  | .integer => (Json.asInt64 value).map .integer
  | .null =>
    match value with
    | .null => .ok .null
    | found => .error (.wrongType found "unit variant AttributeValue::Null")
  | .unbound => (Json.asString value).map .unbound

/-- The argument of a kind without a value: only the `null` constant has none. -/
def ofKindAlone : Kind → Decoded AttributeValue
  | .null => .ok .null
  | _ => .error (.missingField "value")

/-- Reads the kind in an object: one of `kinds`. -/
def kindOfEntry : Json → Decoded Kind := Json.asVariant .json kinds

/-- Reads the kind in an array, where it is always a text: one of `kinds`. -/
def kindOfItem (value : Json) : Decoded Kind := do
  Json.variantNamed kinds (← Json.asText "variant identifier" value)

/-- Finds the only value of a key among entries; a second one fails with `duplicateField`. -/
def onlyEntry (key : String) (entries : List (String × Json)) : Decoded (Option Json) :=
  match entries.filter (·.1 == key) with
  | [] => .ok none
  | [entry] => .ok (some entry.2)
  | _ => .error (.duplicateField key)

/-- The entry that must be kept until the kind is known, if there is one: a value before the
kind. -/
def valueBeforeKind? (entries : List (String × Json)) : Option Json :=
  ((entries.takeWhile (·.1 != "kind")).find? (·.1 == "value")).map Prod.snd

/-- Reads an argument from an object or from an array. A value that must be kept until the kind is
known (`valueBeforeKind?`) must be legible as a whole. -/
def ofJson : Json → Decoded AttributeValue
  | .object entries => do
    match ← onlyEntry "kind" entries with
    | none => .error (.missingField "kind")
    | some tag =>
      let kind ← kindOfEntry tag
      match ← onlyEntry "value" entries with
      | none => ofKindAlone kind
      | some value =>
        if (valueBeforeKind? entries).all Json.isLegible then ofKind kind value
        else .error (.wrongType value title)
  | .array [] => .error (.wrongLength 0 title)
  | .array (tag :: rest) => do
    let kind ← kindOfItem tag
    match rest with
    | [] => .error (.wrongLength 1 title)
    | value :: surplus =>
      let argument ← ofKind kind value
      if surplus.isEmpty then .ok argument
      else .error (.wrongLength (surplus.length + 2) "fewer elements in array")
  | found => .error (.wrongType found title)

/-- Writes an argument as an object with its kind and, but for `null`, its value. -/
def toJson : AttributeValue → Json
  | .type reference => .object [("kind", .string "type"), ("value", reference.toJson)]
  | .string value => .object [("kind", .string "string"), ("value", .string value)]
  | .bool value => .object [("kind", .string "bool"), ("value", .bool value)]
  | .integer value => .object [("kind", .string "int"), ("value", .integer value)]
  | .null => .object [("kind", .string "null")]
  | .unbound reason => .object [("kind", .string "error"), ("value", .string reason)]

end AttributeValue

namespace Attribute

/-- The fields of an attribute: `positional` and `named`, both of which may be missing. -/
def shape : Json.Shape Attribute where
  name := "RawAttribute"
  closed := false
  fields :=
    [.of "positional" false (Json.asList AttributeValue.ofJson) fun positional draft =>
        { draft with positional },
      .of "named" false (Json.asDictionary AttributeValue.ofJson) fun named draft =>
        { draft with named }]
  blank := empty

/-- Reads an attribute by its `shape`. -/
def ofJson : Json → Decoded Attribute := shape.read .json

/-- Writes an attribute with the fields of its `shape`. -/
def toJson (attr : Attribute) : Json :=
  .object [("positional", .array (attr.positional.map AttributeValue.toJson)),
    ("named", .object (attr.named.entries.map fun entry => (entry.1, entry.2.toJson)))]

end Attribute

end Companion
