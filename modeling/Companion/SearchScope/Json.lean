import Companion.SearchScope
import Companion.Json.Decoding

/-! # Search scopes in JSON

A scope is written as the list of its regions' names; one name may also stand for itself. -/

namespace Companion.SearchScope

/-- Reads names one after the other and joins their regions to a scope with `union`; another name
fails with `unknownScope`. -/
def ofItems : List Json → SearchScope → Decoded SearchScope
  | [], scope => .ok scope
  | item :: rest, scope => do
    let name ← Json.asString item
    match Region.ofName? name with
    | none => .error (.unknownScope name)
    | some region => ofItems rest (scope.union (only region))

/-- Reads a scope: a name, or a list of names with `ofItems`. -/
def ofJson : Json → Decoded SearchScope
  | .string name =>
    match Region.ofName? name with
    | none => .error (.unknownScope name)
    | some region => .ok (only region)
  | .array items => ofItems items empty
  | found => .error (.wrongType found "a scope name or a list of scope names")

/-- Writes a scope as the list of its `names`. -/
def toJson (scope : SearchScope) : Json := Json.strings scope.names

end Companion.SearchScope
