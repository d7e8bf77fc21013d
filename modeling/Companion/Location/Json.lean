import Companion.Location
import Companion.Json.Decoding

/-! # Locations in JSON -/

namespace Companion.Location

/-- The fields of a location; `length` is zero if absent. -/
def shape : Json.Shape Location where
  name := "Location"
  closed := false
  fields :=
    [.of "file" true (Json.asText "path string") fun file draft => { draft with file := ⟨file⟩ },
      .of "line" true Json.asNat32 fun line draft => { draft with line },
      .of "column" true Json.asNat32 fun column draft => { draft with column },
      .of "length" false Json.asNat32 fun length draft => { draft with length }]
  blank := unknown

/-- Reads a location by its `shape`. -/
def ofJson : Json → Decoded Location := shape.read .json

/-- Writes a location with all fields of its `shape`. -/
def toJson (location : Location) : Json :=
  .object [("file", .string location.file.text), ("line", .integer location.line),
    ("column", .integer location.column), ("length", .integer location.length)]

end Companion.Location
