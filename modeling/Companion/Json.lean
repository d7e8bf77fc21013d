import Companion.Dictionary

/-! # JSON values

The tree of a JSON document. Objects keep their entries in the order in which they are written;
`Json.canonical` sorts the keys of every object and keeps the last of several values of one key. -/

namespace Companion

/-- A JSON value. The order of an object's keys and repeated keys are kept; `Json.canonical` sorts
them. -/
inductive Json
  /-- The value `null`. -/
  | null
  /-- A truth value. -/
  | bool (value : Bool)
  /-- A number without point and exponent. -/
  | integer (value : Int)
  /-- A double-precision number, by its bits. -/
  | real (bits : UInt64)
  /-- A text. -/
  | string (value : String)
  /-- A list of values. -/
  | array (items : List Json)
  /-- Named values. -/
  | object (entries : List (String × Json))
  /-- What is well written but cannot be held: a number that is too great, a text with half of a
  surrogate pair, or a list or an object inside too many others. -/
  | illegible
  deriving Inhabited

namespace Json

/-- The least integer of 64 bits with a sign. -/
def minInt64 : Int := -0x8000000000000000

/-- The greatest integer of 64 bits with a sign. -/
def maxInt64 : Int := 0x7FFFFFFFFFFFFFFF

mutual

/-- The value with the keys of all its objects sorted as in a `Dictionary`, the last value of a
repeated key winning. -/
def canonical : Json → Json
  | .array items => .array (canonicalItems items)
  | .object entries => .object (Dictionary.ofList (canonicalEntries entries)).entries
  | value => value

/-- The `canonical` forms of a list's items. -/
def canonicalItems : List Json → List Json
  | [] => []
  | item :: rest => canonical item :: canonicalItems rest

/-- The `canonical` forms of an object's values, still in the order of the object. -/
def canonicalEntries : List (String × Json) → List (String × Json)
  | [] => []
  | (key, value) :: rest => (key, canonical value) :: canonicalEntries rest

end

mutual

/-- The number of values on the longest path into a value: one for a value that is neither a list
nor an object. -/
def depth : Json → Nat
  | .array items => itemsDepth items + 1
  | .object entries => entriesDepth entries + 1
  | _ => 1

/-- The largest `depth` of a list's items. -/
def itemsDepth : List Json → Nat
  | [] => 0
  | item :: rest => max (depth item) (itemsDepth rest)

/-- The largest `depth` of an object's values. -/
def entriesDepth : List (String × Json) → Nat
  | [] => 0
  | (_, value) :: rest => max (depth value) (entriesDepth rest)

end

mutual

/-- Whether nothing in a value is `illegible`. -/
def isLegible : Json → Bool
  | .array items => areLegible items
  | .object entries => areLegibleEntries entries
  | .illegible => false
  | _ => true

/-- Whether nothing in a list's items is `illegible`. -/
def areLegible : List Json → Bool
  | [] => true
  | item :: rest => isLegible item && areLegible rest

/-- Whether nothing in an object's values is `illegible`. -/
def areLegibleEntries : List (String × Json) → Bool
  | [] => true
  | (_, value) :: rest => isLegible value && areLegibleEntries rest

end

/-- The value of an object's key; the last one counts. -/
def get? (key : String) : Json → Option Json
  | .object entries => (entries.reverse.find? (·.1 == key)).map Prod.snd
  | _ => none

/-- A list of texts. -/
def strings (items : List String) : Json := .array (items.map .string)

/-- A text, or `null`. -/
def ofOption : Option Json → Json
  | none => .null
  | some value => value

end Json

end Companion
