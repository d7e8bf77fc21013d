import Companion.Config.Json
import Companion.Config.Validity
import Companion.Toml.Reader
import Companion.Toml.Printer

/-! # Configurations as settings documents

Reading a configuration from the text of a settings document, and writing one. -/

namespace Companion

/-- The rules by which a settings document gives structures: surplus items are passed over, and an
empty list or table may stand for a name without content. -/
def Toml.dialect : Json.Dialect where
  surplusItems := true
  isUnit
    | .array [] => true
    | .object [] => true
    | _ => false

/-- Why a text gives no configuration with `Config.ofDocument`. -/
inductive ConfigFault
  /-- It is no settings document, or not one of a configuration. -/
  | malformed
  /-- One of its settings breaks a condition of `Config.faults`. -/
  | invalid (fault : SettingFault)
  deriving DecidableEq, Repr

/-- A fault in words; of a malformed document only that it is one. -/
def ConfigFault.message : ConfigFault → String
  | malformed => "failed to parse configuration: "
  | invalid fault => fault.message

namespace Config

/-- The configuration of a document, whether valid or not: `Toml.parse?` reads the text and
`Config.ofTree` the tree. -/
def parse? (text : String) : Option Config :=
  (Toml.parse? text).bind fun tree => (ofTree Toml.dialect tree).toOption

/-- The configuration of a document, if `Config.validate` accepts it. -/
def ofDocument (text : String) : Except ConfigFault Config :=
  match parse? text with
  | none => .error .malformed
  | some config => config.validate.mapError .invalid

/-- The entries of a group of a tree; a tree that is no object has none. -/
def entriesOf : Json → List (String × Json)
  | .object entries => entries
  | _ => []

/-- The document of a configuration: one group of `Toml.printGroups` for each field of
`Config.toJson`. -/
def toDocument (config : Config) : String :=
  Toml.printGroups ((entriesOf config.toJson).map fun group => (group.1, entriesOf group.2))

end Config

end Companion
