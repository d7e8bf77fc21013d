import Companion.Config
import Companion.TypeName

/-! # Validity of configurations

The conditions under which the settings give well-formed parts. `Config.fault?` finds the first
setting that breaks one; `Config.validate` refuses such a configuration. -/

namespace Companion

/-- A setting that breaks a condition, as `Config.faults` finds it. -/
structure SettingFault where
  /-- The group and the name of the setting. -/
  setting : String
  /-- The condition that it breaks. -/
  reason : String
  deriving DecidableEq, Repr

namespace SettingFault

/-- A fault in words. -/
def message (fault : SettingFault) : String :=
  s!"invalid value for `{fault.setting}`: {fault.reason}"

/-- The fault of a setting that must be an `Identifier.isIdentifier` and is none. -/
def ofIdentifier? (setting value : String) : Option SettingFault :=
  if Identifier.isIdentifier value then none
  else some ⟨setting, s!"'{value}' is not a valid identifier"⟩

/-- The fault of a setting that must be a `TypeName.isRootedPath` and is none. -/
def ofTypeName? (setting value : String) : Option SettingFault :=
  if TypeName.isRootedPath value then none
  else some ⟨setting, s!"'{value}' is not a valid type name"⟩

end SettingFault

namespace Config

/-- Whether a text can end a file name: it is not empty and has neither a slash nor a backslash. -/
def isFileSuffix (suffix : String) : Bool :=
  !suffix.isEmpty && suffix.toList.all fun c => c != '/' && c != '\\'

/-- The faults of a configuration in the order in which they are looked for: one entry for each
condition. -/
def faults (config : Config) : List (Option SettingFault) :=
  [if config.defaults.searchScope.isEmpty then
      some ⟨"attribute.search_scope", "at least one scope is required"⟩
    else none,
    SettingFault.ofIdentifier? "runtime.behaviour_base" config.runtime.behaviourBase,
    SettingFault.ofIdentifier? "runtime.find_in_self" config.runtime.findInSelf,
    SettingFault.ofIdentifier? "runtime.find_in_children" config.runtime.findInChildren,
    SettingFault.ofIdentifier? "runtime.find_in_parent" config.runtime.findInParent,
    SettingFault.ofTypeName? "runtime.require_attribute" config.runtime.requireAttribute,
    SettingFault.ofTypeName? "runtime.missing_exception" config.runtime.missingException,
    SettingFault.ofIdentifier? "emit.populate_method" config.emit.populateMethod,
    SettingFault.ofIdentifier? "emit.lifecycle_hook" config.emit.lifecycleHook,
    if config.emit.populateMethod = config.emit.lifecycleHook then
      some ⟨"emit.lifecycle_hook",
        s!"must differ from emit.populate_method ('{config.emit.populateMethod}')"⟩
    else none,
    if isFileSuffix config.emit.fileSuffix then none
    else some ⟨"emit.file_suffix", s!"'{config.emit.fileSuffix}' is not a file name suffix"⟩,
    if 1 ≤ config.emit.indent ∧ config.emit.indent ≤ 8 then none
    else some ⟨"emit.indent", "must be between 1 and 8"⟩]

/-- The first fault of a configuration: that of the first broken condition among its `faults`. -/
def fault? (config : Config) : Option SettingFault := config.faults.findSome? id

/-- Accepts a configuration whose `fault?` is none. -/
def validate (config : Config) : Except SettingFault Config :=
  match config.fault? with
  | some fault => .error fault
  | none => .ok config

end Config

end Companion
