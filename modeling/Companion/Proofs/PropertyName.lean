import Companion.Proofs.Extraction

/-! # When property names are identifiers

A property name that an attribute gives is checked when the attribute is read; one that is derived
from the component type is not. Lower-casing the first character keeps a word a word for every
character but one: the form of the capital I with a dot above ends in a mark that no identifier
contains (`isWord_lowerFirst_iff`). Reserved words are escaped, so that character is the only reason
why a derived name is no identifier (`isIdentifierChars_propertyNameChars_iff`).
`isIdentifier_resolvedName_iff` says the same of the properties of a declaration. -/

namespace Companion

namespace Identifier

open Text

/-- The character `dotAbove` stands in no word. -/
theorem continuesName_dotAbove : continuesName dotAbove = false := by decide +kernel

theorem startsName_of_alphabetic {c : Char} (hc : isAlphabetic c = true) :
    startsName c = true := by
  simp [startsName, hc]

/-- Lower-casing the first character of a word gives a word, unless it is `dottedCapital`: then
`dotAbove` comes second. -/
theorem isWord_lowerFirst_iff {word : List Char} (hword : isWord word = true) :
    isWord (lowerFirst word) = true ↔ word.head? ≠ some dottedCapital := by
  cases word with
  | nil => cases hword
  | cons first rest =>
    rw [isWord, Bool.and_eq_true] at hword
    obtain ⟨hfirst, hrest⟩ := hword
    rw [lowerFirst, List.head?_cons, ne_eq, Option.some.injEq]
    by_cases hdotted : first = dottedCapital
    · rw [hdotted, lowercase_dottedCapital]
      simp [isWord, continuesName_dotAbove]
    · -- any other first character becomes one that can start a name
      obtain ⟨form, hform, hkind⟩ := lowercase_eq_singleton hdotted
      have hstarts : startsName form = true := by
        rcases hkind with rfl | halpha
        · exact hfirst
        · exact startsName_of_alphabetic halpha
      rw [hform, List.singleton_append, isWord, hstarts, hrest]
      simp [hdotted]

/-- Lower-casing the first character of a word gives no verbatim name. -/
theorem head?_lowerFirst_ne_at {word : List Char} (hword : isWord word = true) :
    (lowerFirst word).head? ≠ some '@' := by
  by_cases hdotted : word.head? = some dottedCapital
  · obtain ⟨rest, rfl⟩ := List.head?_eq_some_iff.mp hdotted
    rw [lowerFirst, lowercase_dottedCapital]
    simp
  · exact head?_ne_at_of_isWord ((isWord_lowerFirst_iff hword).mpr hdotted)

/-- A name that is escaped by `@` where it is reserved is an identifier exactly if it is a word. -/
theorem isIdentifierChars_escape_iff {name : List Char} (hname : name.head? ≠ some '@') :
    isIdentifierChars (if isReserved name then '@' :: name else name) = true
      ↔ isWord name = true := by
  cases hreserved : isReserved name with
  | true => simp [isIdentifierChars]
  | false =>
    -- a name that is not verbatim is an identifier if it is a word and not reserved
    have hplain : isIdentifierChars name = (isWord name && !isReserved name) := by
      rw [isIdentifierChars.eq_def]
      split
      · exact absurd rfl hname
      · rfl
    simp [hplain, hreserved]

/-- The name that `propertyNameChars` derives from an identifier is an identifier, unless that one
starts with `dottedCapital`. -/
theorem isIdentifierChars_propertyNameChars_iff {typeName : List Char}
    (hname : isIdentifierChars typeName = true) :
    isIdentifierChars (propertyNameChars typeName) = true
      ↔ typeName.head? ≠ some dottedCapital := by
  rcases isIdentifierChars_cases hname with ⟨body, rfl, hbody⟩ | ⟨hword, -⟩
  · -- a verbatim name has nothing to lower, and escaping is not needed
    have hsame : propertyNameChars ('@' :: body) = '@' :: body := by
      have hat : lowercase '@' = ['@'] := by decide +kernel
      rw [propertyNameChars, lowerFirst, hat, List.singleton_append, isReserved_verbatim]
      rfl
    have hdotted : '@' ≠ dottedCapital := by decide
    rw [hsame]
    simp [isIdentifierChars, hbody, hdotted]
  · rw [propertyNameChars, isIdentifierChars_escape_iff (head?_lowerFirst_ne_at hword),
      isWord_lowerFirst_iff hword]

end Identifier

namespace Descriptor

open Identifier Text

/-- The `resolvedName` of a well-named descriptor is an identifier, unless it is derived from a type
whose name starts with `dottedCapital`. -/
theorem IsNamed.isIdentifier_resolvedName {descriptor : Descriptor} (hnamed : descriptor.IsNamed) :
    isIdentifier descriptor.resolvedName = true
      ↔ ¬ (descriptor.propertyName = none
          ∧ descriptor.dependency.name.toList.head? = some dottedCapital) := by
  cases hgiven : descriptor.propertyName with
  | none =>
    have htype := isIdentifier_name_of_isResolvable hnamed.dependency
    rw [resolvedName, hgiven, Option.getD_none, isIdentifier, toList_propertyName,
      isIdentifierChars_propertyNameChars_iff htype]
    simp
  | some name =>
    rw [resolvedName, hgiven, Option.getD_some, hnamed.propertyName name hgiven]
    simp

end Descriptor

namespace Declaration

open Identifier Text

/-- The properties of a declaration have identifiers for their names, except those whose names are
derived from types that start with `dottedCapital`. This is exact: such a `resolvedName` is never an
identifier, though `Declaration.descriptors` accepts the attribute. -/
theorem isIdentifier_resolvedName_iff {declaration : Declaration} {defaults : AttributeDefaults}
    {descriptors : List Descriptor} (hread : declaration.descriptors defaults = .ok descriptors) :
    ∀ descriptor ∈ descriptors, isIdentifier descriptor.resolvedName = true
      ↔ ¬ (descriptor.propertyName = none
          ∧ descriptor.dependency.name.toList.head? = some dottedCapital) := by
  intro descriptor hmem
  have hnamed := Descriptor.isNamed_of_forall₂ (descriptors_eq_ok_iff.mp hread) descriptor hmem
  exact hnamed.isIdentifier_resolvedName

/-- A declaration that asks for a component of one type and says nothing else. -/
def requesting (typeName : String) : Declaration :=
  (named "Sandbox").withAttribute (.ofType (.named none typeName))

/-- The one descriptor of `requesting`: on the object itself, required, and without a `propertyName`
of its own. -/
theorem descriptors_requesting {typeName : String} (hname : isIdentifier typeName = true) :
    (requesting typeName).descriptors .standard
      = .ok [⟨.named none typeName, none, .only .self, true⟩] := by
  have hresolvable : (TypeRef.named none typeName).isResolvable = true := by
    simp [TypeRef.named, TypeRef.isResolvable, TypeRef.areResolvable, hname]
  refine descriptors_eq_ok_iff.mpr (.cons ?_ .nil)
  rw [Descriptor.ofArguments_eq (by simp [Attribute.ofType])]
  simp only [Attribute.ofType, List.getElem?_cons_zero, Descriptor.dependencyOf, hresolvable,
    if_true]
  rfl

/-- A type that is called by a reserved word but for its first letter gives a verbatim name,
`@object` for `Object`. -/
theorem isIdentifier_resolvedName_object :
    ∃ descriptors, (requesting "Object").descriptors .standard = .ok descriptors ∧
      ∃ descriptor ∈ descriptors, descriptor.propertyName = none ∧
        descriptor.resolvedName = "@object" ∧ isIdentifier descriptor.resolvedName = true := by
  have hobject : isIdentifier "Object" = true := by decide +kernel
  have hread := descriptors_requesting hobject
  refine ⟨_, hread, _, List.mem_singleton_self _, rfl, by decide +kernel, ?_⟩
  exact (isIdentifier_resolvedName_iff hread _ (List.mem_singleton_self _)).mpr (by decide +kernel)

/-- A type whose name starts with `dottedCapital` is accepted, and the name of its property is no
identifier. -/
theorem not_isIdentifier_resolvedName_dotted :
    ∃ descriptors, (requesting "\u0130tem").descriptors .standard = .ok descriptors ∧
      ∃ descriptor ∈ descriptors, isIdentifier descriptor.resolvedName = false :=
  ⟨_, descriptors_requesting (by decide +kernel), _, List.mem_singleton_self _, by decide +kernel⟩

end Declaration

end Companion
