import Companion.Json
import Companion.Decimal.Shortest
import Companion.Text.Quoted

/-! # Decoding structures from JSON

The rules by which a value is read as a member of a domain type. A `Shape` lists the fields of a
structure in their order of declaration. An object gives them by name: its entries are stored one
after the other, and the first required field without an entry is missed at the end. An array gives
them by position. `DecodeError` lists what can be wrong, and `DecodeError.message` words it. -/

namespace Companion

/-- Why a value does not decode: one constructor for each kind of message of `DecodeError.message`.
-/
inductive DecodeError
  /-- A value of another type than the expected one. -/
  | wrongType (found : Json) (expected : String)
  /-- An integer outside the range of the expected type. -/
  | outOfRange (value : Int) (expected : String)
  /-- A required field is absent. -/
  | missingField (name : String)
  /-- A field that a closed structure does not have. -/
  | unknownField (name : String) (known : List String)
  /-- A field that is given twice. -/
  | duplicateField (name : String)
  /-- A name that stands for no variant. -/
  | unknownVariant (name : String) (known : List String)
  /-- A list of the wrong length. -/
  | wrongLength (length : Nat) (expected : String)
  /-- An object in place of a variant has not exactly one key. -/
  | notOneKey
  /-- A name that stands for no search region. -/
  | unknownScope (name : String)
  deriving Inhabited

namespace DecodeError

/-- What a value is, for a message. -/
def describe : Json → String
  | .null => "null"
  | .bool value => s!"boolean `{value}`"
  | .integer value => s!"integer `{value}`"
  | .real bits => "floating point `" ++ Decimal.ofBits bits ++ "`"
  | .string value => "string " ++ Text.Quoted.quote value
  | .array _ => "sequence"
  | .object _ => "map"
  | .illegible => "illegible value"

/-- A name between backticks. -/
def ticked (name : String) : String := "`" ++ name ++ "`"

/-- A choice of names for a message, each of them `ticked`: one, one of two, or one of a list. -/
def choice : List String → String
  | [] => "there are no fields"
  | [only] => "expected " ++ ticked only
  | [first, second] => "expected " ++ ticked first ++ " or " ++ ticked second
  | names => "expected one of " ++ ", ".intercalate (names.map ticked)

/-- The error of a name that stands for no search region, as it is worded everywhere. -/
def unknownScopeMessage (name : String) : String :=
  s!"unknown search scope '{name}' (expected self, children, or parent)"

/-- An error in words. -/
def message : DecodeError → String
  | wrongType found expected => s!"invalid type: {describe found}, expected {expected}"
  | outOfRange value expected => s!"invalid value: integer `{value}`, expected {expected}"
  | missingField name => s!"missing field `{name}`"
  | unknownField name known => s!"unknown field `{name}`, {choice known}"
  | duplicateField name => s!"duplicate field `{name}`"
  | unknownVariant name known => s!"unknown variant `{name}`, {choice known}"
  | wrongLength length expected => s!"invalid length {length}, expected {expected}"
  | notOneKey => "invalid value: map, expected map with a single key"
  | unknownScope name => unknownScopeMessage name

end DecodeError

/-- What decoding gives: a value, or the `DecodeError` that says why there is none. -/
abbrev Decoded (α : Type) := Except DecodeError α

namespace Json

/-! ## Plain values -/

/-- Reads a text, `expected` naming what it stands for. -/
def asText (expected : String) : Json → Decoded String
  | .string value => .ok value
  | found => .error (.wrongType found expected)

/-- Reads a text. -/
def asString : Json → Decoded String := asText "a string"

/-- Reads a truth value. -/
def asBool : Json → Decoded Bool
  | .bool value => .ok value
  | found => .error (.wrongType found "a boolean")

/-- Reads an integer between two bounds, `expected` naming its type. -/
def asInteger (low high : Int) (expected : String) : Json → Decoded Int
  | .integer value =>
    if low ≤ value ∧ value ≤ high then .ok value else .error (.outOfRange value expected)
  | found => .error (.wrongType found expected)

/-- Reads a natural number up to a bound, `expected` naming its type. -/
def asNatural (high : Nat) (expected : String) (value : Json) : Decoded Nat :=
  (asInteger 0 high expected value).map Int.toNat

/-- Reads a natural number of 8 bits. -/
def asNat8 : Json → Decoded Nat := asNatural 0xFF "u8"

/-- Reads a natural number of 16 bits. -/
def asNat16 : Json → Decoded Nat := asNatural 0xFFFF "u16"

/-- Reads a natural number of 32 bits. -/
def asNat32 : Json → Decoded Nat := asNatural 0xFFFFFFFF "u32"

/-- Reads a natural number of 64 bits. -/
def asNat64 : Json → Decoded Nat := asNatural 0xFFFFFFFFFFFFFFFF "usize"

/-- Reads an integer of 64 bits. -/
def asInt64 : Json → Decoded Int := asInteger minInt64 maxInt64 "i64"

/-! ## Lists and maps -/

/-- Reads each of a list of values with `read`, up to the first that fails. -/
def eachItem {α : Type} (read : Json → Decoded α) : List Json → Decoded (List α)
  | [] => .ok []
  | item :: rest => do
    let first ← read item
    let others ← eachItem read rest
    .ok (first :: others)

/-- Reads a list: `eachItem` of its items. -/
def asList {α : Type} (read : Json → Decoded α) : Json → Decoded (List α)
  | .array items => eachItem read items
  | found => .error (.wrongType found "a sequence")

/-- Reads the entries of an object into a dictionary with `Dictionary.insert`; the last one with a
key counts. -/
def eachEntry {α : Type} (read : Json → Decoded α) :
    List (String × Json) → Dictionary α → Decoded (Dictionary α)
  | [], dictionary => .ok dictionary
  | (key, value) :: rest, dictionary => do
    let entry ← read value
    eachEntry read rest (dictionary.insert key entry)

/-- Reads a dictionary: `eachEntry` of an object, into the empty one. -/
def asDictionary {α : Type} (read : Json → Decoded α) : Json → Decoded (Dictionary α)
  | .object entries => eachEntry read entries .empty
  | found => .error (.wrongType found "a map")

/-- Reads a value that may be `null`. -/
def asOption {α : Type} (read : Json → Decoded α) : Json → Decoded (Option α)
  | .null => .ok none
  | value => (read value).map some

/-! ## Dialects -/

/-- What two notations of one tree of values disagree on, JSON (`Dialect.json`) and settings
documents. -/
structure Dialect where
  /-- Whether a structure given as an array may have more items than fields. -/
  surplusItems : Bool
  /-- Whether a value is the payload of a variant that has none. -/
  isUnit : Json → Bool

/-- The rules for JSON documents. -/
def Dialect.json : Dialect where
  surplusItems := false
  isUnit
    | .null => true
    | _ => false

/-- Reads the name of a variant without payload: a text, or an object with it as the only key. In
the second case the payload is given beside the name. -/
def asVariantName : Json → Decoded (String × Option Json)
  | .string name => .ok (name, none)
  | .object [(name, payload)] => .ok (name, some payload)
  | .object _ => .error .notOneKey
  | found => .error (.wrongType found "string or map")

/-- The variant of a name; another name fails with `unknownVariant`. -/
def variantNamed {α : Type} (variants : List (String × α)) (name : String) : Decoded α :=
  match variants.find? (·.1 == name) with
  | none => .error (.unknownVariant name (variants.map Prod.fst))
  | some variant => .ok variant.2

/-- Reads one of the named variants: `variantNamed` of the name, whose payload must be the unit of
the dialect. -/
def asVariant {α : Type} (dialect : Dialect) (variants : List (String × α)) (value : Json) :
    Decoded α := do
  let (name, payload) ← asVariantName value
  let variant ← variantNamed variants name
  match payload with
  | none => .ok variant
  | some payload =>
    if dialect.isUnit payload then .ok variant else .error (.wrongType payload "unit")

/-! ## Structures -/

/-- One field of a structure: how its value is stored into a draft of the structure. `Field.of`
makes one of a reader. -/
structure Field (α : Type) where
  /-- The name in objects. -/
  name : String
  /-- Whether the field must be given. -/
  required : Bool
  /-- Reads a value and puts it into a draft. -/
  store : Json → α → Decoded α

/-- A field whose value is read and then put in place. -/
def Field.of {α β : Type} (name : String) (required : Bool) (read : Json → Decoded β)
    (put : β → α → α) : Field α :=
  ⟨name, required, fun value draft => (read value).map (put · draft)⟩

/-- The fields of a structure in their order of declaration, by which `Shape.read` reads it. -/
structure Shape (α : Type) where
  /-- The name of the structure. -/
  name : String
  /-- Whether other fields are refused. -/
  closed : Bool
  /-- The fields. -/
  fields : List (Field α)
  /-- The draft that holds the defaults, and a placeholder for every required field. -/
  blank : α

namespace Shape

variable {α : Type}

/-- What a message calls the structure. -/
def title (shape : Shape α) : String := "struct " ++ shape.name

/-- What a message calls the structure when an array is too short for it. -/
def titleWithSize (shape : Shape α) : String :=
  let size := shape.fields.length
  shape.title ++ s!" with {size} element" ++ (if size = 1 then "" else "s")

/-- Stores the entries of an object into their fields; `seen` holds the names of the fields stored
so far. At the end the first field in the order of declaration counts that is `required` and not
seen. -/
def readEntries (shape : Shape α) :
    List (String × Json) → (seen : List String) → α → Decoded α
  | [], seen, draft =>
    match shape.fields.find? fun field => field.required && !seen.contains field.name with
    | some field => .error (.missingField field.name)
    | none => .ok draft
  | (key, value) :: rest, seen, draft =>
    match shape.fields.find? (·.name == key) with
    | none =>
      if shape.closed then .error (.unknownField key (shape.fields.map (·.name)))
      else readEntries shape rest seen draft
    | some field =>
      if seen.contains key then .error (.duplicateField key)
      else
        match field.store value draft with
        | .error reason => .error reason
        | .ok draft => readEntries shape rest (key :: seen) draft

/-- Stores the items of an array into the fields from an index on, in the order of declaration;
missing items are passed over for fields that are not `required`. -/
def readItems (shape : Shape α) (dialect : Dialect) (length : Nat) :
    (index : Nat) → List (Field α) → List Json → α → Decoded α
  | _, [], [], draft => .ok draft
  | _, [], _ :: _, draft =>
    if dialect.surplusItems then .ok draft
    else .error (.wrongLength length "fewer elements in array")
  | index, field :: fields, [], draft =>
    if field.required then .error (.wrongLength index shape.titleWithSize)
    else readItems shape dialect length (index + 1) fields [] draft
  | index, field :: fields, item :: items, draft =>
    match field.store item draft with
    | .error reason => .error reason
    | .ok draft => readItems shape dialect length (index + 1) fields items draft

/-- Reads a structure from its `blank` draft on: `readEntries` of an object, or `readItems` of an
array. -/
def read (shape : Shape α) (dialect : Dialect) : Json → Decoded α
  | .object entries => shape.readEntries entries [] shape.blank
  | .array items => shape.readItems dialect items.length 0 shape.fields items shape.blank
  | found => .error (.wrongType found shape.title)

end Shape

end Json

end Companion
