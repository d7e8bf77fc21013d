import Companion.Descriptor
import Companion.Proofs.Names
import Mathlib.Data.List.Forall2

/-! # Descriptors that were read

A descriptor that was read off an attribute has a component type all of whose names are identifiers,
and a property name that can be written; a declaration is read exactly if each of its attributes is,
and gives one descriptor per attribute. -/

namespace Companion

open Identifier

/-- A sequence `first >>= next` succeeds exactly if both steps do. -/
theorem bind_eq_ok {ε α β : Type} {first : Except ε α} {next : α → Except ε β} {result : β} :
    (first >>= next) = .ok result ↔ ∃ value, first = .ok value ∧ next value = .ok result := by
  cases first <;> simp [Bind.bind, Except.bind]

namespace Descriptor

/-- What `ofArguments` guarantees of a descriptor: its names can be written. -/
structure IsNamed (descriptor : Descriptor) : Prop where
  /-- The component type can be spelled. -/
  dependency : descriptor.dependency.isResolvable = true
  /-- A given property name is an identifier. -/
  propertyName : ∀ name ∈ descriptor.propertyName, isIdentifier name = true

/-- A component type that `dependencyOf` accepts can be spelled. -/
theorem isResolvable_of_dependencyOf {value : Option AttributeValue} {type : TypeRef}
    (hvalue : dependencyOf value = .ok type) : type.isResolvable = true := by
  unfold dependencyOf at hvalue
  split at hvalue
  case h_3 reference =>
    split at hvalue
    · rename_i hresolvable
      cases hvalue
      exact hresolvable
    · cases hvalue
  all_goals cases hvalue

/-- A property name that `checkName` accepts is an identifier. -/
theorem isIdentifier_of_checkName {propertyName : Option String}
    (hname : checkName propertyName = .ok ()) :
    ∀ name ∈ propertyName, isIdentifier name = true := by
  intro name hmem
  rw [Option.mem_def.mp hmem, checkName] at hname
  split at hname
  · rename_i hidentifier
    exact hidentifier
  · cases hname

/-- The property name that the second argument gives: its `optionalText`, or none if there is no
argument. -/
def positionalName : Option AttributeValue → Except ExtractionCause (Option String)
  | none => .ok none
  | some value => optionalText "propertyName" value

/-- The checks of `ofArguments` for at most two positional arguments, one after the other. -/
theorem ofArguments_eq {attr : Attribute} (hcount : attr.positional.length ≤ 2)
    (defaults : AttributeDefaults) :
    ofArguments attr defaults =
      dependencyOf attr.positional[0]? >>= fun dependency =>
      positionalName attr.positional[1]? >>= fun positional =>
      (Options.ofDefaults defaults).setAll attr.named.entries >>= fun options =>
      mergeNames positional options.name >>= fun propertyName =>
      checkName propertyName >>= fun _ =>
      .ok ⟨dependency, propertyName, options.scope, options.required⟩ := by
  unfold ofArguments
  rw [if_neg (Nat.not_lt.mpr hcount)]
  -- the two arms of the match on the second argument run the same steps
  cases attr.positional[1]? <;> rfl

/-- With more than two positional arguments `ofArguments` fails with `tooManyArguments`. -/
theorem ofArguments_of_two_lt {attr : Attribute} (hcount : 2 < attr.positional.length)
    (defaults : AttributeDefaults) :
    ofArguments attr defaults = .error (.tooManyArguments attr.positional.length) := by
  unfold ofArguments
  rw [if_pos hcount]
  rfl

/-- Every descriptor that `ofArguments` reads off an attribute satisfies `IsNamed`. -/
theorem isNamed_of_ofArguments {attr : Attribute} {defaults : AttributeDefaults}
    {descriptor : Descriptor} (hread : ofArguments attr defaults = .ok descriptor) :
    descriptor.IsNamed := by
  rcases Nat.lt_or_ge 2 attr.positional.length with hmany | hfew
  · rw [ofArguments_of_two_lt hmany] at hread
    cases hread
  rw [ofArguments_eq hfew] at hread
  obtain ⟨dependency, hdependency, hread⟩ := bind_eq_ok.mp hread
  obtain ⟨positional, -, hread⟩ := bind_eq_ok.mp hread
  obtain ⟨options, -, hread⟩ := bind_eq_ok.mp hread
  obtain ⟨propertyName, -, hread⟩ := bind_eq_ok.mp hread
  obtain ⟨_, hname, hread⟩ := bind_eq_ok.mp hread
  cases hread
  exact ⟨isResolvable_of_dependencyOf hdependency, isIdentifier_of_checkName hname⟩

/-- The name of a type that `isResolvable` is an identifier. -/
theorem isIdentifier_name_of_isResolvable {type : TypeRef} (htype : type.isResolvable = true) :
    isIdentifier type.name = true := by
  obtain ⟨namespaceName, containing, name, arguments⟩ := type
  simp only [TypeRef.isResolvable, Bool.and_eq_true] at htype
  exact htype.1.2

/-- The `resolvedName` of a well-named descriptor is writable, whether it is given or derived. -/
theorem IsNamed.isWritable {descriptor : Descriptor} (hnamed : descriptor.IsNamed) :
    IsWritable descriptor.resolvedName.toList := by
  cases hgiven : descriptor.propertyName with
  | none =>
    rw [resolvedName, hgiven, Option.getD_none, toList_propertyName]
    exact isWritable_propertyNameChars (isIdentifier_name_of_isResolvable hnamed.dependency)
  | some name =>
    rw [resolvedName, hgiven, Option.getD_some]
    exact isWritable_of_identifier (hnamed.propertyName name hgiven)

/-! ## All attributes of a declaration -/

/-- The number in `ofAttribute` matters for errors only: the descriptors are those of `ofArguments`.
-/
theorem ofAttribute_eq_ok_iff {position : Nat} {attr : Attribute} {defaults : AttributeDefaults}
    {descriptor : Descriptor} : ofAttribute position attr defaults = .ok descriptor ↔
      ofArguments attr defaults = .ok descriptor := by
  rw [ofAttribute]
  cases ofArguments attr defaults <;> simp [Except.mapError]

/-- The results of `ofAttributesFrom` are the lists of what `ofArguments` reads off each of the
attributes, in their order; the numbers matter for errors only. -/
theorem ofAttributesFrom_eq_ok_iff {position : Nat} {defaults : AttributeDefaults}
    {attributes : List Attribute} {descriptors : List Descriptor} :
    ofAttributesFrom position defaults attributes = .ok descriptors ↔
      List.Forall₂ (fun attr descriptor => ofArguments attr defaults = .ok descriptor)
        attributes descriptors := by
  induction attributes generalizing position descriptors with
  | nil => simp [ofAttributesFrom, eq_comm]
  | cons attr rest ih =>
    -- the number of the first attribute changes along the list, but not what is read
    rw [ofAttributesFrom, bind_eq_ok, List.forall₂_cons_left_iff]
    constructor
    · rintro ⟨descriptor, hfirst, hrest⟩
      obtain ⟨others, hothers, hall⟩ := bind_eq_ok.mp hrest
      cases hall
      exact ⟨descriptor, others, ofAttribute_eq_ok_iff.mp hfirst, ih.mp hothers, rfl⟩
    · rintro ⟨descriptor, others, hfirst, hothers, rfl⟩
      exact ⟨descriptor, ofAttribute_eq_ok_iff.mpr hfirst,
        bind_eq_ok.mpr ⟨others, ih.mpr hothers, rfl⟩⟩

/-- An error of `ofAttributesFrom` is there exactly if `ofArguments` fails on one of the attributes.
-/
theorem exists_ofAttributesFrom_eq_error_iff {position : Nat} {defaults : AttributeDefaults}
    {attributes : List Attribute} :
    (∃ reason, ofAttributesFrom position defaults attributes = .error reason) ↔
      ∃ attr ∈ attributes, ∃ cause, ofArguments attr defaults = .error cause := by
  induction attributes generalizing position with
  | nil => simp [ofAttributesFrom]
  | cons attr rest ih =>
    simp only [List.mem_cons, exists_eq_or_imp, ← @ih (position + 1)]
    rw [ofAttributesFrom, ofAttribute]
    cases ofArguments attr defaults with
    | error cause => simp [Except.mapError, Bind.bind, Except.bind]
    | ok descriptor =>
      cases ofAttributesFrom (position + 1) defaults rest <;>
        simp [Except.mapError, Bind.bind, Except.bind]

/-- All descriptors that `ofArguments` reads off attributes satisfy `IsNamed`. -/
theorem isNamed_of_forall₂ {defaults : AttributeDefaults} {attributes : List Attribute}
    {descriptors : List Descriptor}
    (hread : List.Forall₂ (fun attr descriptor => ofArguments attr defaults = .ok descriptor)
      attributes descriptors) : ∀ descriptor ∈ descriptors, descriptor.IsNamed := by
  induction hread with
  | nil => simp
  | cons hattr _ ih =>
    intro descriptor hmem
    rcases List.mem_cons.mp hmem with rfl | hrest
    · exact isNamed_of_ofArguments hattr
    · exact ih descriptor hrest

end Descriptor

/-- The results of `descriptors` are the lists of what `Descriptor.ofArguments` reads off each of
the attributes, in their order. -/
theorem Declaration.descriptors_eq_ok_iff {declaration : Declaration}
    {defaults : AttributeDefaults} {descriptors : List Descriptor} :
    declaration.descriptors defaults = .ok descriptors ↔
      List.Forall₂ (fun attr descriptor => Descriptor.ofArguments attr defaults = .ok descriptor)
        declaration.attributes descriptors :=
  Descriptor.ofAttributesFrom_eq_ok_iff

/-- If `descriptors` fails, then `Descriptor.ofArguments` fails on one of the attributes. -/
theorem Declaration.exists_error_of_descriptors {declaration : Declaration}
    {defaults : AttributeDefaults} {reason : ExtractionError}
    (hread : declaration.descriptors defaults = .error reason) :
    ∃ attr ∈ declaration.attributes, ∃ cause,
      Descriptor.ofArguments attr defaults = .error cause :=
  Descriptor.exists_ofAttributesFrom_eq_error_iff.mp ⟨reason, hread⟩

/-- If `descriptors` succeeds, then `Descriptor.ofArguments` succeeds on each of the attributes. -/
theorem Declaration.forall_ok_of_descriptors {declaration : Declaration}
    {defaults : AttributeDefaults} {descriptors : List Descriptor}
    (hread : declaration.descriptors defaults = .ok descriptors) :
    ∀ attr ∈ declaration.attributes, ∃ descriptor,
      Descriptor.ofArguments attr defaults = .ok descriptor := by
  intro attr hmem
  cases hattr : Descriptor.ofArguments attr defaults with
  | ok descriptor => exact ⟨descriptor, rfl⟩
  | error cause =>
    obtain ⟨reason, herror⟩ :=
      Descriptor.exists_ofAttributesFrom_eq_error_iff.mpr ⟨attr, hmem, cause, hattr⟩
    rw [Declaration.descriptors, herror] at hread
    cases hread

end Companion
