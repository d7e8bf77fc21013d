import Companion.Proofs.Generation
import Companion.Proofs.Layout
import Companion.Proofs.Validity

/-! # The lines of a part

When the names in the configuration, the declaration and the plan can be written, every line of the
part can be read back: `unindented_ofPlan` says that the text, cut into lines, shows the contents of
`Part.steps` and nothing else. `IsNamed` states what is needed of a declaration and of a plan;
`Config.Plans.declaration_isNamed` and `Config.Plans.plan_isNamed` say that the checks before the
writing of a part ensure it. -/

namespace Companion

open Identifier Layout

/-! ## Declarations and plans with good names -/

/-- A declaration all of whose names can be written into a part, which `Declaration.checkIdentity`
makes sure of. -/
structure Declaration.IsNamed (declaration : Declaration) : Prop where
  /-- Its own name is an identifier. -/
  name : isIdentifier declaration.name = true
  /-- Its namespace is a path of identifiers, unless it is the global one. -/
  namespaceName : ∀ name ∈ declaration.properNamespace?, TypeName.isPath name = true
  /-- Its type parameters are identifiers. -/
  typeParameters : ∀ name ∈ declaration.typeParameters, isIdentifier name = true

namespace Declaration

/-- A name for which `invalidSegment?` finds no wrong piece is a path. -/
theorem isPath_of_invalidSegment?_eq_none {name : String} (hname : invalidSegment? name = none) :
    TypeName.isPath name = true := by
  rw [invalidSegment?, Option.map_eq_none_iff, List.find?_eq_none] at hname
  exact List.all_eq_true.mpr (by simpa using hname)

/-- A declaration that passes `checkIdentity` has good names. -/
theorem isNamed_of_checkIdentity {declaration : Declaration}
    (hidentity : declaration.checkIdentity = .ok ()) : declaration.IsNamed := by
  rw [checkIdentity, identityError?] at hidentity
  -- each test that is passed gives one of the conditions
  split at hidentity
  case h_1 => cases hidentity
  rename_i hnone
  split at hnone
  case isTrue => cases hnone
  rename_i hname
  split at hnone
  case h_1 => cases hnone
  rename_i hnamespace
  rw [Option.map_eq_none_iff, List.find?_eq_none] at hnone
  refine ⟨by simpa using hname, ?_, by simpa using hnone⟩
  intro name hmem
  rw [Option.mem_def.mp hmem, Option.bind_some, Option.map_eq_none_iff] at hnamespace
  exact isPath_of_invalidSegment?_eq_none hnamespace

/-- The name of a declaration with its type parameters (`displayName`) consists of type characters.
-/
theorem IsNamed.isTypeChar_of_mem_displayName {declaration : Declaration}
    (hnamed : declaration.IsNamed) {c : Char} (hc : c ∈ declaration.displayName.toList) :
    TypeRef.isTypeChar c = true := by
  rw [toList_displayName, displayChars, List.mem_append] at hc
  rcases hc with hname | hparameters
  · exact TypeRef.isTypeChar_of_isNameChar (isNameChar_of_mem_identifier hnamed.name hname)
  · refine TypeRef.isTypeChar_of_mem_bracketed ?_ hparameters
    intro parameter hmem c hc
    obtain ⟨name, hname, rfl⟩ := List.mem_map.mp hmem
    exact TypeRef.isTypeChar_of_isNameChar
      (isNameChar_of_mem_identifier (hnamed.typeParameters name hname) hc)

end Declaration

/-- A property whose name and component type can be written: the name `IsWritable` and the type
`isResolvable`. -/
structure PlannedProperty.IsNamed (property : PlannedProperty) : Prop where
  /-- The name is writable. -/
  name : IsWritable property.name.toList
  /-- The component type can be spelled. -/
  dependency : property.dependency.isResolvable = true

/-- A plan all of whose properties and demanded types can be written. -/
structure Plan.IsNamed (plan : Plan) : Prop where
  /-- The properties can be written. -/
  properties : ∀ property ∈ plan.properties, property.IsNamed
  /-- The demanded types can be spelled. -/
  constraints : ∀ type ∈ plan.constraints, type.isResolvable = true

/-- The identifier that the property of a descriptor denotes: the `bare` form of `resolvedName`. -/
def Descriptor.key (descriptor : Descriptor) : String := bare descriptor.resolvedName

namespace Plan

/-- Well-named descriptors give well-named properties, at whatever position the numbering starts. -/
theorem isNamed_of_mem_ofDescriptorsFrom {descriptors : List Descriptor}
    (hnamed : ∀ descriptor ∈ descriptors, descriptor.IsNamed) (position : Nat) :
    ∀ property ∈ PlannedProperty.ofDescriptorsFrom position descriptors, property.IsNamed := by
  induction descriptors generalizing position with
  | nil => intro property hmem; cases hmem
  | cons descriptor rest ih =>
    rw [List.forall_mem_cons] at hnamed
    rw [PlannedProperty.ofDescriptorsFrom, List.forall_mem_cons]
    exact ⟨⟨hnamed.1.isWritable, hnamed.1.dependency⟩, ih hnamed.2 (position + 1)⟩

/-- Every type that `constraintsAfter` demands is the component type of a descriptor. -/
theorem exists_of_mem_constraintsAfter {seen : List String} {descriptors : List Descriptor}
    {type : TypeRef} (htype : type ∈ constraintsAfter seen descriptors) :
    ∃ descriptor ∈ descriptors, descriptor.dependency = type := by
  induction descriptors generalizing seen with
  | nil => cases htype
  | cons descriptor rest ih =>
    rw [constraintsAfter] at htype
    split at htype
    · rcases List.mem_cons.mp htype with rfl | hrest
      · exact ⟨descriptor, List.mem_cons_self, rfl⟩
      · obtain ⟨found, hmem, hfound⟩ := ih hrest
        exact ⟨found, List.mem_cons_of_mem _ hmem, hfound⟩
    · obtain ⟨found, hmem, hfound⟩ := ih htype
      exact ⟨found, List.mem_cons_of_mem _ hmem, hfound⟩

/-- The plan `Plan.ofDescriptors` of well-named descriptors is well named. -/
theorem isNamed_ofDescriptors {descriptors : List Descriptor}
    (hnamed : ∀ descriptor ∈ descriptors, descriptor.IsNamed) :
    (ofDescriptors descriptors).IsNamed where
  properties := isNamed_of_mem_ofDescriptorsFrom hnamed 1
  constraints := by
    intro type htype
    obtain ⟨descriptor, hmem, rfl⟩ := exists_of_mem_constraintsAfter htype
    exact (hnamed descriptor hmem).dependency

/-- The properties of `ofDescriptorsFrom` are named `resolvedName`, in the order of the descriptors.
-/
theorem names_ofDescriptorsFrom (position : Nat) (descriptors : List Descriptor) :
    (PlannedProperty.ofDescriptorsFrom position descriptors).map (·.name)
      = descriptors.map Descriptor.resolvedName := by
  induction descriptors generalizing position with
  | nil => rfl
  | cons descriptor rest ih =>
    rw [PlannedProperty.ofDescriptorsFrom, List.map_cons, ih]
    rfl

/-- The properties of a plan are compared by `Descriptor.key`, in the order of the descriptors. -/
theorem keys_ofDescriptors (descriptors : List Descriptor) :
    (ofDescriptors descriptors).properties.map (·.key) = descriptors.map Descriptor.key := by
  have hmap := congrArg (List.map bare) (names_ofDescriptorsFrom 1 descriptors)
  rw [List.map_map, List.map_map] at hmap
  exact hmap

end Plan

namespace Config.Plans

variable {config : Config} {declaration : Declaration} {descriptors : List Descriptor}

/-- A declaration with a part has good names: `Config.Plans` includes the identity check. -/
theorem declaration_isNamed (hplans : config.Plans declaration descriptors) :
    declaration.IsNamed :=
  Declaration.isNamed_of_checkIdentity hplans.identity

/-- The plan of a part has good names: `Config.Plans` includes the check of every attribute. -/
theorem plan_isNamed (hplans : config.Plans declaration descriptors) :
    (Plan.ofDescriptors descriptors).IsNamed :=
  Plan.isNamed_ofDescriptors (Descriptor.isNamed_of_forall₂ hplans.attributes)

end Config.Plans

/-! ## Lines that can be read back -/

/-- A text of name characters and type characters stays on one line. -/
theorem newline_not_mem_of_isTypeChar {text : List Char}
    (htext : ∀ c ∈ text, TypeRef.isTypeChar c = true) : '\n' ∉ text :=
  TypeRef.not_mem_of_isTypeChar htext (by decide) (by decide)

/-- A writable name and anything that stays on the line after it can be read back. -/
theorem isLine_of_writable_append {name rest : List Char} (hname : IsWritable name)
    (hrest : '\n' ∉ rest) : IsLine (name ++ rest) where
  unbroken := by simp [hname.not_mem (show '\n' ∈ delimiters by decide), hrest]
  flush := by
    have hspace : ' ' ∉ name := hname.not_mem (by decide)
    cases hform : name with
    | nil => exact absurd hform hname.ne_nil
    | cons first others =>
      rw [hform, List.mem_cons, not_or] at hspace
      simpa using Ne.symm hspace.1

namespace PlannedProperty

variable {property : PlannedProperty}

/-- The name and the spelled type of a property stay on one line. -/
theorem IsNamed.newline_not_mem (hnamed : property.IsNamed) :
    '\n' ∉ property.name.toList ∧ '\n' ∉ property.dependency.qualifiedChars :=
  ⟨hnamed.name.not_mem (by decide),
    newline_not_mem_of_isTypeChar
      (TypeRef.isTypeChar_of_mem_qualifiedChars property.dependency hnamed.dependency)⟩

/-- The line `declarationLine` of a well-named property can be read back. -/
theorem IsNamed.isLine_declarationLine (hnamed : property.IsNamed) :
    IsLine property.declarationLine.toList := by
  obtain ⟨hname, htype⟩ := hnamed.newline_not_mem
  rw [declarationLine]
  exact ⟨by simp [hname, htype], by simp⟩

/-- A line of `populationLines` clears the property, is an `assignment` to it, or stands after the
`emptyTest`: an assignment, or the throwing of the exception. -/
theorem populationLines_cases {runtime : RuntimeNames} {line : String}
    (hline : line ∈ property.populationLines runtime) :
    line = property.name ++ " = null;" ∨
      (∃ region, line = property.assignment runtime region) ∨
      (∃ region, line = property.emptyTest ++ property.assignment runtime region) ∨
      line = property.emptyTest ++ ("throw new " ++ runtime.missingException ++ "();") := by
  rw [populationLines, List.mem_cons, List.mem_append] at hline
  rcases hline with hclear | hlookup | hfailure
  · exact Or.inl hclear
  · rw [lookupLines] at hlookup
    split at hlookup
    · cases hlookup
    · rename_i first others _
      -- the first lookup is assigned, the others only while the property is null
      rcases List.mem_cons.mp hlookup with hfirst | hother
      · exact Or.inr (Or.inl ⟨first, hfirst⟩)
      · obtain ⟨region, -, hregion⟩ := List.mem_map.mp hother
        exact Or.inr (Or.inr (Or.inl ⟨region, hregion.symm⟩))
  · rw [failureLines] at hfailure
    split at hfailure
    · rw [List.mem_singleton.mp hfailure]
      exact Or.inr (Or.inr (Or.inr (by simp only [String.append_assoc])))
    · cases hfailure

/-- The lines `populationLines` of a well-named property can be read back, under a valid
configuration. -/
theorem IsNamed.isLine_of_mem_populationLines (hnamed : property.IsNamed) {config : Config}
    (hvalid : config.Valid) {line : String}
    (hline : line ∈ property.populationLines config.runtime) : IsLine line.toList := by
  obtain ⟨hname, htype⟩ := hnamed.newline_not_mem
  have hassignment (region : Region) :
      IsLine (property.assignment config.runtime region).toList := by
    have hlookup : '\n' ∉ (config.runtime.lookup region).toList :=
      (isWritable_of_identifier (hvalid.lookup region)).not_mem (by decide)
    simp only [assignment, String.toList_append, List.append_assoc]
    exact isLine_of_writable_append hnamed.name (by simp [hlookup, htype])
  -- a guarded line starts with the test, which stays on the line
  have hguarded {rest : String} (hrest : '\n' ∉ rest.toList) :
      IsLine (property.emptyTest ++ rest).toList := by
    rw [emptyTest]
    exact ⟨by simp [hname, hrest], by simp⟩
  have hexception : '\n' ∉ config.runtime.missingException.toList :=
    newline_not_mem_of_isTypeChar fun _ hc =>
      TypeRef.isTypeChar_of_mem_rootedPath hvalid.missingException hc
  rcases populationLines_cases hline with rfl | ⟨region, rfl⟩ | ⟨region, rfl⟩ | rfl
  · rw [String.toList_append]
    exact isLine_of_writable_append hnamed.name (by decide)
  · exact hassignment region
  · exact hguarded (hassignment region).unbroken
  · exact hguarded (by simp [hexception])

end PlannedProperty

namespace Part

variable {config : Config} {declaration : Declaration} {plan : Plan}

/-- Steps in `Part.block` can be read back if they can without the braces. -/
theorem isLine_of_mem_block {steps : List Step} (hsteps : ∀ step ∈ steps, IsLine step.content) :
    ∀ step ∈ block steps, IsLine step.content := by
  rw [block, List.forall_mem_append, List.forall_mem_append, List.forall_mem_singleton,
    List.forall_mem_singleton]
  exact ⟨⟨isLine_braces.1, hsteps⟩, isLine_braces.2⟩

theorem isLine_of_mem_constraintSteps (hvalid : config.Valid) (hplan : plan.IsNamed) :
    ∀ step ∈ constraintSteps config.runtime plan, IsLine step.content := by
  have hattribute : '\n' ∉ config.runtime.requireAttribute.toList :=
    newline_not_mem_of_isTypeChar fun _ hc =>
      TypeRef.isTypeChar_of_mem_rootedPath hvalid.requireAttribute hc
  intro step hstep
  obtain ⟨type, hmem, rfl⟩ := List.mem_map.mp hstep
  have htype : '\n' ∉ type.qualifiedChars := newline_not_mem_of_isTypeChar
    (TypeRef.isTypeChar_of_mem_qualifiedChars type (hplan.constraints type hmem))
  exact ⟨by simp [Step.content, hattribute, htype], by simp [Step.content]⟩

theorem isLine_of_mem_propertySteps (hplan : plan.IsNamed) :
    ∀ step ∈ propertySteps plan, IsLine step.content := by
  intro step hstep
  rcases List.mem_append.mp hstep with hproperty | hblank
  · obtain ⟨property, hmem, rfl⟩ := List.mem_map.mp hproperty
    exact (hplan.properties property hmem).isLine_declarationLine
  · split at hblank
    · cases hblank
    · rw [List.mem_singleton.mp hblank]
      exact ⟨by simp [Step.content], by simp [Step.content]⟩

/-- The header of a generated method can be read back. -/
theorem isLine_methodHeader {method : String} (hmethod : isIdentifier method = true) :
    IsLine (Step.line ("private void " ++ method ++ "()")).content := by
  have hname : '\n' ∉ method.toList :=
    (isWritable_of_identifier hmethod).not_mem (by decide)
  exact ⟨by simp [Step.content, hname], by simp [Step.content]⟩

theorem isLine_of_mem_populateSteps (hvalid : config.Valid) (hplan : plan.IsNamed) :
    ∀ step ∈ populateSteps config plan, IsLine step.content := by
  rw [populateSteps, List.forall_mem_cons]
  refine ⟨isLine_methodHeader hvalid.populateMethod, isLine_of_mem_block ?_⟩
  intro step hstep
  obtain ⟨property, hmem, hline⟩ := List.mem_flatMap.mp hstep
  obtain ⟨line, hmemLine, rfl⟩ := List.mem_map.mp hline
  exact (hplan.properties property hmem).isLine_of_mem_populationLines hvalid hmemLine

theorem isLine_of_mem_hookSteps (hvalid : config.Valid) (declaration : Declaration) :
    ∀ step ∈ hookSteps config.emit declaration, IsLine step.content := by
  rw [hookSteps]
  split
  · rw [List.forall_mem_append, List.forall_mem_cons, List.forall_mem_singleton]
    refine ⟨⟨⟨by simp [Step.content], by simp [Step.content]⟩,
      isLine_methodHeader hvalid.lifecycleHook⟩, isLine_of_mem_block ?_⟩
    rw [List.forall_mem_singleton, Step.content, String.toList_append]
    exact isLine_of_writable_append (isWritable_of_identifier hvalid.populateMethod) (by decide)
  · intro step hstep
    cases hstep

theorem isLine_of_mem_typeSteps (hvalid : config.Valid) (hdeclaration : declaration.IsNamed)
    (hplan : plan.IsNamed) :
    ∀ step ∈ typeSteps config declaration plan, IsLine step.content := by
  have hname : '\n' ∉ declaration.displayName.toList :=
    newline_not_mem_of_isTypeChar fun _ hc => hdeclaration.isTypeChar_of_mem_displayName hc
  rw [typeSteps, List.forall_mem_append, List.forall_mem_cons]
  refine ⟨isLine_of_mem_constraintSteps hvalid hplan,
    ⟨by simpa [Step.content] using hname, by simp [Step.content]⟩, isLine_of_mem_block ?_⟩
  rw [List.forall_mem_append, List.forall_mem_append]
  exact ⟨⟨isLine_of_mem_propertySteps hplan, isLine_of_mem_populateSteps hvalid hplan⟩,
    isLine_of_mem_hookSteps hvalid declaration⟩

/-- Every step of `Part.steps` has a content that can be read back, for a valid configuration and
good names. -/
theorem isLine_of_mem_steps (hvalid : config.Valid) (hdeclaration : declaration.IsNamed)
    (hplan : plan.IsNamed) :
    ∀ step ∈ steps config declaration plan, IsLine step.content := by
  have htype := isLine_of_mem_typeSteps hvalid hdeclaration hplan
  rw [steps, List.forall_mem_append, List.forall_mem_cons, List.forall_mem_singleton]
  refine ⟨⟨⟨by simp [Step.content], by simp [Step.content]⟩, by simp [Step.content],
    by simp [Step.content]⟩, ?_⟩
  split
  · rename_i name hnamespace
    have hname : '\n' ∉ name.toList := newline_not_mem_of_isTypeChar fun _ hc =>
      TypeRef.isTypeChar_of_mem_path (hdeclaration.namespaceName name hnamespace) hc
    rw [List.forall_mem_cons]
    exact ⟨⟨by simpa [Step.content] using hname, by simp [Step.content]⟩,
      isLine_of_mem_block htype⟩
  · exact htype

/-- The text of `Part.ofPlan` shows the contents of its steps, line by line: `unindented` gives them
back, and nothing after the last of them. -/
theorem unindented_ofPlan (hvalid : config.Valid) (hdeclaration : declaration.IsNamed)
    (hplan : plan.IsNamed) :
    unindented (ofPlan config declaration plan).text
      = (steps config declaration plan).map Step.content ++ [[]] :=
  unindented_text (isLine_of_mem_steps hvalid hdeclaration hplan) config.emit.indent

end Part

end Companion
