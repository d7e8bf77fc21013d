import Companion.Config.Validity

/-! # Valid configurations

`Config.Valid` says of each setting what validation demands of it; `validate_eq_ok_iff` says that
validation demands exactly that. -/

namespace Companion

namespace SettingFault

/-- A setting that `ofIdentifier?` looks at has no fault exactly if it is an identifier. -/
@[simp] theorem ofIdentifier?_eq_none_iff {setting value : String} :
    ofIdentifier? setting value = none ↔ Identifier.isIdentifier value = true := by
  simp [ofIdentifier?]

/-- A setting that `ofTypeName?` looks at has no fault exactly if it names a type. -/
@[simp] theorem ofTypeName?_eq_none_iff {setting value : String} :
    ofTypeName? setting value = none ↔ TypeName.isRootedPath value = true := by
  simp [ofTypeName?]

end SettingFault

namespace Config

/-- The conditions under which the settings give well-formed parts: those that `Config.validate`
looks at, one by one. -/
structure Valid (config : Config) : Prop where
  /-- Attributes look somewhere. -/
  searchScope : config.defaults.searchScope.isEmpty = false
  /-- The base type has a simple name. -/
  behaviourBase : Identifier.isIdentifier config.runtime.behaviourBase = true
  /-- The lookup on the object is a method name. -/
  findInSelf : Identifier.isIdentifier config.runtime.findInSelf = true
  /-- The lookup among descendants is a method name. -/
  findInChildren : Identifier.isIdentifier config.runtime.findInChildren = true
  /-- The lookup among ancestors is a method name. -/
  findInParent : Identifier.isIdentifier config.runtime.findInParent = true
  /-- The demanding attribute is a type. -/
  requireAttribute : TypeName.isRootedPath config.runtime.requireAttribute = true
  /-- The exception is a type. -/
  missingException : TypeName.isRootedPath config.runtime.missingException = true
  /-- The populating method has a method name. -/
  populateMethod : Identifier.isIdentifier config.emit.populateMethod = true
  /-- The hook has a method name. -/
  lifecycleHook : Identifier.isIdentifier config.emit.lifecycleHook = true
  /-- The two generated methods are spelled differently. -/
  methods_ne : config.emit.populateMethod ≠ config.emit.lifecycleHook
  /-- The suffix can end a file name. -/
  fileSuffix : isFileSuffix config.emit.fileSuffix = true
  /-- Levels are between one and eight spaces apart. -/
  indent : 1 ≤ config.emit.indent ∧ config.emit.indent ≤ 8

/-- A configuration has no `fault?` exactly if it is valid. -/
theorem fault?_eq_none_iff {config : Config} : config.fault? = none ↔ config.Valid := by
  rw [fault?, List.findSome?_eq_none_iff]
  simp only [faults, List.mem_cons, List.not_mem_nil, or_false, forall_eq_or_imp, forall_eq, id_eq,
    ite_eq_right_iff, reduceCtorEq, imp_false, SettingFault.ofIdentifier?_eq_none_iff,
    SettingFault.ofTypeName?_eq_none_iff, ite_eq_left_iff, Decidable.not_not, Bool.not_eq_true]
  constructor
  · rintro ⟨hscope, hbase, hself, hchildren, hparent, hattribute, hexception, hpopulate, hhook, hne,
      hsuffix, hindent⟩
    exact ⟨hscope, hbase, hself, hchildren, hparent, hattribute, hexception, hpopulate, hhook, hne,
      by simpa using hsuffix, hindent⟩
  · intro h
    exact ⟨h.searchScope, h.behaviourBase, h.findInSelf, h.findInChildren, h.findInParent,
      h.requireAttribute, h.missingException, h.populateMethod, h.lifecycleHook, h.methods_ne,
      by simpa using h.fileSuffix, h.indent⟩

/-- The function `validate` accepts exactly the valid configurations, and gives them back. -/
theorem validate_eq_ok_iff {config : Config} : config.validate = .ok config ↔ config.Valid := by
  rw [← fault?_eq_none_iff, validate]
  cases config.fault? <;> simp

/-- An accepted configuration is the one that was validated: `validate` changes nothing. -/
theorem eq_of_validate {config accepted : Config} (haccepted : config.validate = .ok accepted) :
    accepted = config := by
  rw [validate] at haccepted
  split at haccepted
  · cases haccepted
  · exact (Except.ok.inj haccepted).symm

/-- The settings `Config.standard` are valid. -/
theorem valid_standard : standard.Valid := fault?_eq_none_iff.mp (by decide +kernel)

/-- Every lookup of a valid configuration (`RuntimeNames.lookup`) is a method name. -/
theorem Valid.lookup {config : Config} (hvalid : config.Valid) (region : Region) :
    Identifier.isIdentifier (config.runtime.lookup region) = true := by
  cases region with
  | self => exact hvalid.findInSelf
  | children => exact hvalid.findInChildren
  | parent => exact hvalid.findInParent

end Config

end Companion
