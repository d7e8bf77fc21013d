import Companion.Generation.Trial
import Companion.Proofs.Part
import Mathlib.Data.List.Nodup

/-! # The members of a part

`declaredMembers` reads off the text of a part which members it declares; `declaredMembers_ofPlan`
says that these are the planned properties, the populating method, and the hook unless the author
wrote it. From this follows when two members of a part denote one identifier, and when a generated
method repeats a member of the author. -/

namespace Companion

open Identifier Layout

/-- A member that a line of a part declares, as `DeclaredMember.read?` recognises it in the text. -/
inductive DeclaredMember
  /-- A property of a given name. -/
  | property (name : String)
  /-- A method of a given name, without parameters. -/
  | method (name : String)
  deriving DecidableEq, Repr

namespace DeclaredMember

/-- The name of a member as it is written. -/
def name : DeclaredMember → String
  | property name => name
  | method name => name

/-- The identifier that the name of a member denotes: `bare` drops the `@` of a verbatim name. -/
def key (member : DeclaredMember) : String := bare member.name

/-- What stands after the last space of a line. -/
def lastWord (line : List Char) : List Char := (line.reverse.takeWhile (· != ' ')).reverse

/-- The member that a line declares, if it declares one: a line from `private ` to ` { get; set; }`
declares a property, one from `private void ` to `()` a method. -/
def read? (line : List Char) : Option DeclaredMember :=
  match "private ".toList.isPrefixOf? line with
  | none => none
  | some rest =>
    -- what a property ends in tells it from a method; its type may contain spaces, its name not
    match " \x7b get; set; \x7d".toList.isSuffixOf? rest with
    | some front => some (.property (String.ofList (lastWord front)))
    | none =>
      match "void ".toList.isPrefixOf? rest with
      | none => none
      | some signature =>
        ("()".toList.isSuffixOf? signature).map fun name => .method (String.ofList name)

/-! ## Reading lines -/

/-- The `lastWord` of a line that ends in a space and a name without spaces is that name. -/
theorem lastWord_append {name : List Char} (hname : ' ' ∉ name) (front : List Char) :
    lastWord (front ++ ' ' :: name) = name := by
  rw [lastWord, List.reverse_append, List.reverse_cons, List.append_assoc, List.singleton_append,
    takeWhile_append_mark (by simpa using hname), List.reverse_reverse]

/-- The line `PlannedProperty.declarationLine` is read as that property, if its name contains no
space. -/
theorem read?_declarationLine {property : PlannedProperty} (hnamed : property.IsNamed) :
    read? property.declarationLine.toList = some (.property property.name) := by
  have hspace : ' ' ∉ property.name.toList := hnamed.name.not_mem (by decide)
  have hstart : "private ".toList.isPrefixOf? property.declarationLine.toList
      = some ((property.dependency.qualified.toList ++ ' ' :: property.name.toList)
        ++ " \x7b get; set; \x7d".toList) := by
    rw [List.isPrefixOf?_eq_some_iff_append_eq]
    simp [PlannedProperty.declarationLine]
  have hend : " \x7b get; set; \x7d".toList.isSuffixOf?
        ((property.dependency.qualified.toList ++ ' ' :: property.name.toList)
          ++ " \x7b get; set; \x7d".toList)
      = some (property.dependency.qualified.toList ++ ' ' :: property.name.toList) :=
    List.isSuffixOf?_eq_some_iff_append_eq.mpr rfl
  rw [read?, hstart]
  simp only [hend, lastWord_append hspace, String.ofList_toList]

/-- The header `private void method()` is read as that method. -/
theorem read?_methodHeader (method : String) :
    read? ("private void " ++ method ++ "()").toList = some (.method method) := by
  have hstart : "private ".toList.isPrefixOf? ("private void " ++ method ++ "()").toList
      = some ("void ".toList ++ (method.toList ++ "()".toList)) := by
    rw [List.isPrefixOf?_eq_some_iff_append_eq]
    simp
  have hproperty : " \x7b get; set; \x7d".toList.isSuffixOf?
      ("void ".toList ++ (method.toList ++ "()".toList)) = none := by
    simp [List.isSuffixOf?, List.isPrefixOf?]
  have hvoid : "void ".toList.isPrefixOf? ("void ".toList ++ (method.toList ++ "()".toList))
      = some (method.toList ++ "()".toList) :=
    List.isPrefixOf?_eq_some_iff_append_eq.mpr rfl
  have hend : "()".toList.isSuffixOf? (method.toList ++ "()".toList) = some method.toList :=
    List.isSuffixOf?_eq_some_iff_append_eq.mpr rfl
  rw [read?, hstart]
  simp only [hproperty, hvoid, hend, Option.map_some, String.ofList_toList]

/-- A line that does not start with the modifier `private` declares nothing. -/
theorem read?_eq_none {line : List Char} (hline : "private ".toList.isPrefixOf? line = none) :
    read? line = none := by
  rw [read?, hline]

/-- A line that starts with a writable name and a delimiter declares nothing, since no such name
starts with the modifier. -/
theorem read?_writable_append {name : List Char} (hname : IsWritable name) {c : Char}
    (hc : c ∈ delimiters) (rest : List Char) : read? (name ++ c :: rest) = none := by
  have hmodifier : "private ".toList = "private".toList ++ ' ' :: [] := by simp
  rw [read?_eq_none]
  rw [hmodifier]
  exact hname.isPrefixOf?_keyword (by decide +kernel) hc (by decide) [] rest

/-- No line of `PlannedProperty.populationLines` declares a member. -/
theorem read?_populationLine {property : PlannedProperty} (hnamed : property.IsNamed)
    {runtime : RuntimeNames} {line : String} (hline : line ∈ property.populationLines runtime) :
    read? line.toList = none := by
  have hguarded (rest : String) : read? (property.emptyTest ++ rest).toList = none :=
    read?_eq_none (by simp [PlannedProperty.emptyTest, List.isPrefixOf?])
  rcases PlannedProperty.populationLines_cases hline with rfl | ⟨region, rfl⟩ | ⟨region, rfl⟩ | rfl
  · rw [String.toList_append]
    exact read?_writable_append hnamed.name (c := ' ') (by decide) _
  · simp only [PlannedProperty.assignment, String.toList_append, List.append_assoc]
    exact read?_writable_append hnamed.name (c := ' ') (by decide) _
  · exact hguarded _
  · exact hguarded _

end DeclaredMember

/-- The members that a text declares, in order: those that `DeclaredMember.read?` finds in its
`unindented` lines. -/
def declaredMembers (text : String) : List DeclaredMember :=
  (unindented text).filterMap DeclaredMember.read?

namespace Part

/-- The members that steps declare, before they are laid out as a text. -/
def membersOf (steps : List Step) : List DeclaredMember :=
  steps.filterMap fun step => DeclaredMember.read? step.content

@[simp] theorem membersOf_append (first second : List Step) :
    membersOf (first ++ second) = membersOf first ++ membersOf second :=
  List.filterMap_append

@[simp] theorem membersOf_cons (step : Step) (rest : List Step) :
    membersOf (step :: rest) = (DeclaredMember.read? step.content).toList ++ membersOf rest := by
  rw [membersOf, List.filterMap_cons]
  cases DeclaredMember.read? step.content <;> rfl

@[simp] theorem membersOf_nil : membersOf [] = [] := rfl

theorem membersOf_eq_nil {steps : List Step}
    (hsteps : ∀ step ∈ steps, DeclaredMember.read? step.content = none) : membersOf steps = [] :=
  List.filterMap_eq_nil_iff.mpr hsteps

/-- Braces declare nothing. -/
theorem read?_braces : DeclaredMember.read? Step.openBlock.content = none ∧
    DeclaredMember.read? Step.closeBlock.content = none :=
  ⟨by decide, by decide⟩

/-- Steps between braces declare what they declare without them. -/
@[simp] theorem membersOf_block (steps : List Step) :
    membersOf (block steps) = membersOf steps := by
  simp [block, read?_braces]

/-- The list `membersOf` counts the header of a method as the one member it declares. -/
theorem membersOf_methodHeader (method : String) :
    (DeclaredMember.read? (Step.line ("private void " ++ method ++ "()")).content).toList
      = [.method method] := by
  rw [Step.content, DeclaredMember.read?_methodHeader]
  rfl

variable {config : Config} {plan : Plan}

theorem membersOf_constraintSteps (runtime : RuntimeNames) (plan : Plan) :
    membersOf (constraintSteps runtime plan) = [] := by
  refine membersOf_eq_nil ?_
  intro step hstep
  obtain ⟨type, -, rfl⟩ := List.mem_map.mp hstep
  exact DeclaredMember.read?_eq_none (by simp [Step.content, List.isPrefixOf?])

theorem membersOf_propertySteps (hplan : plan.IsNamed) :
    membersOf (propertySteps plan)
      = plan.properties.map fun property => .property property.name := by
  have hlines : ∀ properties : List PlannedProperty, (∀ property ∈ properties, property.IsNamed) →
      membersOf (properties.map fun property => .line property.declarationLine)
        = properties.map fun property => .property property.name := by
    intro properties hnamed
    induction properties with
    | nil => rfl
    | cons property rest ih =>
      rw [List.forall_mem_cons] at hnamed
      rw [List.map_cons, membersOf_cons, ih hnamed.2, Step.content,
        DeclaredMember.read?_declarationLine hnamed.1]
      rfl
  have hblank : membersOf (if plan.properties.isEmpty then [] else [.blank]) = [] := by
    split <;> rfl
  rw [propertySteps, membersOf_append, hlines plan.properties hplan.properties, hblank,
    List.append_nil]

theorem membersOf_populateSteps (config : Config) (hplan : plan.IsNamed) :
    membersOf (populateSteps config plan) = [.method config.emit.populateMethod] := by
  rw [populateSteps, membersOf_cons, membersOf_methodHeader, membersOf_block, membersOf_eq_nil]
  · rfl
  · intro step hstep
    obtain ⟨property, hmem, hlines⟩ := List.mem_flatMap.mp hstep
    obtain ⟨line, hline, rfl⟩ := List.mem_map.mp hlines
    exact DeclaredMember.read?_populationLine (hplan.properties property hmem) hline

theorem membersOf_hookSteps (hvalid : config.Valid) (declaration : Declaration) :
    membersOf (hookSteps config.emit declaration)
      = if declaresHook config.emit declaration then [.method config.emit.lifecycleHook]
        else [] := by
  have hcall : DeclaredMember.read? (config.emit.populateMethod ++ "();").toList = none := by
    rw [String.toList_append]
    exact DeclaredMember.read?_writable_append (isWritable_of_identifier hvalid.populateMethod)
      (c := '(') (by decide) _
  have hblank : DeclaredMember.read? Step.blank.content = none := by decide
  rw [hookSteps]
  split
  · rw [membersOf_append, membersOf_cons, membersOf_cons, membersOf_methodHeader, membersOf_block,
      membersOf_cons, hblank, Step.content, hcall]
    rfl
  · rfl

/-- The list `typeSteps` has the steps of the populating method after the properties and before the
hook, where the hook is there exactly if `declaresHook` holds. -/
theorem exists_typeSteps_eq (hvalid : config.Valid) (declaration : Declaration)
    (hplan : plan.IsNamed) :
    ∃ front back, typeSteps config declaration plan = front ++ populateSteps config plan ++ back ∧
      membersOf front = (plan.properties.map fun property => .property property.name) ∧
      membersOf back = if declaresHook config.emit declaration then
        [.method config.emit.lifecycleHook] else [] := by
  -- the header of the type declares no member of it
  have hclass : DeclaredMember.read?
      (Step.line ("partial class " ++ declaration.displayName)).content = none :=
    DeclaredMember.read?_eq_none (by simp [Step.content, List.isPrefixOf?])
  refine ⟨constraintSteps config.runtime plan
      ++ .line ("partial class " ++ declaration.displayName) :: .openBlock :: propertySteps plan,
    hookSteps config.emit declaration ++ [.closeBlock], by simp [typeSteps, block], ?_, ?_⟩
  · rw [membersOf_append, membersOf_constraintSteps, membersOf_cons, membersOf_cons, hclass,
      read?_braces.1, membersOf_propertySteps hplan]
    rfl
  · rw [membersOf_append, membersOf_hookSteps hvalid, membersOf_cons, read?_braces.2]
    exact List.append_nil _

/-- The list `steps` has the steps of the populating method after the properties and before the
hook, as `typeSteps` has them: the header of the file and the namespace declare nothing. -/
theorem exists_steps_eq (hvalid : config.Valid) (declaration : Declaration)
    (hplan : plan.IsNamed) :
    ∃ front back, steps config declaration plan = front ++ populateSteps config plan ++ back ∧
      membersOf front = (plan.properties.map fun property => .property property.name) ∧
      membersOf back = if declaresHook config.emit declaration then
        [.method config.emit.lifecycleHook] else [] := by
  have hspace (name : String) : DeclaredMember.read?
      (Step.line ("namespace " ++ name)).content = none :=
    DeclaredMember.read?_eq_none (by simp [Step.content, List.isPrefixOf?])
  -- the mark of generated files declares nothing
  have hmark : membersOf [.line "// <auto-generated/>", .blank] = [] := by decide
  obtain ⟨front, back, hsteps, hfront, hback⟩ := exists_typeSteps_eq hvalid declaration hplan
  rw [steps]
  split
  · rename_i name _
    refine ⟨[.line "// <auto-generated/>", .blank]
        ++ .line ("namespace " ++ name) :: .openBlock :: front, back ++ [.closeBlock],
      by simp [hsteps, block], ?_, ?_⟩
    · rw [membersOf_append, hmark, membersOf_cons, membersOf_cons, hspace, read?_braces.1, hfront]
      rfl
    · rw [membersOf_append, hback, membersOf_cons, read?_braces.2]
      exact List.append_nil _
  · refine ⟨[.line "// <auto-generated/>", .blank] ++ front, back, by simp [hsteps], ?_, hback⟩
    rw [membersOf_append, hmark, hfront, List.nil_append]

/-- The members that the steps of a part declare: the planned properties in order, `populateMethod`,
and `lifecycleHook` if `declaresHook` holds. -/
theorem membersOf_steps (hvalid : config.Valid) (declaration : Declaration)
    (hplan : plan.IsNamed) :
    membersOf (steps config declaration plan)
      = (plan.properties.map fun property => .property property.name)
        ++ [.method config.emit.populateMethod]
        ++ if declaresHook config.emit declaration then [.method config.emit.lifecycleHook]
          else [] := by
  obtain ⟨front, back, hsteps, hfront, hback⟩ := exists_steps_eq hvalid declaration hplan
  rw [hsteps, membersOf_append, membersOf_append, membersOf_populateSteps config hplan, hfront,
    hback]

/-- The text of `Part.ofPlan` declares the planned properties in order, `populateMethod`, and
`lifecycleHook` unless the author wrote it. The members are read off the text by `declaredMembers`.
-/
theorem declaredMembers_ofPlan {declaration : Declaration} (hvalid : config.Valid)
    (hdeclaration : declaration.IsNamed) (hplan : plan.IsNamed) :
    declaredMembers (ofPlan config declaration plan).text
      = (plan.properties.map fun property => .property property.name)
        ++ [.method config.emit.populateMethod]
        ++ if declaresHook config.emit declaration then [.method config.emit.lifecycleHook]
          else [] := by
  have hend : DeclaredMember.read? [] = none := by decide
  rw [declaredMembers, unindented_ofPlan hvalid hdeclaration hplan, List.filterMap_append,
    List.filterMap_map, ← membersOf_steps hvalid declaration hplan]
  simp [membersOf, hend]

/-- The methods that a part declares: `populateMethod`, and `lifecycleHook` if `declaresHook` holds.
-/
def methods (emit : EmitOptions) (declaration : Declaration) : List String :=
  emit.populateMethod :: if declaresHook emit declaration then [emit.lifecycleHook] else []

/-- For a declaration that is planned, the text declares a property named `resolvedName` for each
descriptor, and after them `Part.methods`. -/
theorem declaredMembers_of_plans {declaration : Declaration} {descriptors : List Descriptor}
    (hvalid : config.Valid) (hplans : config.Plans declaration descriptors) :
    declaredMembers (ofPlan config declaration (.ofDescriptors descriptors)).text
      = (descriptors.map fun descriptor => .property descriptor.resolvedName)
        ++ (methods config.emit declaration).map .method := by
  have hnames : ((Plan.ofDescriptors descriptors).properties.map fun property =>
        DeclaredMember.property property.name)
      = descriptors.map fun descriptor => .property descriptor.resolvedName := by
    have hmap := congrArg (List.map DeclaredMember.property)
      (Plan.names_ofDescriptorsFrom 1 descriptors)
    rw [List.map_map, List.map_map] at hmap
    exact hmap
  -- the hook comes last, if it is declared at all
  have hmethods : (methods config.emit declaration).map DeclaredMember.method
      = [.method config.emit.populateMethod]
        ++ if declaresHook config.emit declaration then [.method config.emit.lifecycleHook]
          else [] := by
    rw [methods]
    split <;> rfl
  rw [declaredMembers_ofPlan hvalid hplans.declaration_isNamed hplans.plan_isNamed, hnames,
    hmethods, List.append_assoc]

/-- A declaration whose run has a part and whose descriptors ask for `names` is generated, and
`declaredMembers` of the text are these names and then `Part.methods`. -/
theorem exists_declaredMembers_eq (declaration : Declaration) (names : List String)
    (hvalid : config.Valid) (hrun : (config.run declaration).part.isSome = true)
    (hnames : ((declaration.descriptors config.defaults).toOption.map fun descriptors =>
      descriptors.map Descriptor.resolvedName) = some names) :
    ∃ part, (config.generate declaration .empty).1 = .ok (some part) ∧
      declaredMembers part.text
        = names.map .property ++ (methods config.emit declaration).map .method := by
  obtain ⟨part, hpart⟩ := Config.exists_part_of_run config declaration hrun
  obtain ⟨descriptors, hplans, rfl⟩ := Config.generate_eq_part_iff.mp hpart
  rw [Declaration.descriptors_eq_ok_iff.mpr hplans.attributes] at hnames
  have hread : descriptors.map Descriptor.resolvedName = names := Option.some.inj hnames
  refine ⟨_, hpart, ?_⟩
  rw [declaredMembers_of_plans hvalid hplans, ← hread, List.map_map]
  rfl

theorem isIdentifier_of_mem_methods (hvalid : config.Valid) {declaration : Declaration}
    {method : String} (hmethod : method ∈ methods config.emit declaration) :
    isIdentifier method = true := by
  rcases List.mem_cons.mp hmethod with rfl | hhook
  · exact hvalid.populateMethod
  · split at hhook
    · rw [List.mem_singleton.mp hhook]
      exact hvalid.lifecycleHook
    · cases hhook

/-- The names `Part.methods` are spelled differently, as `Config.Valid` demands of the two names. -/
theorem nodup_methods (hvalid : config.Valid) (declaration : Declaration) :
    (methods config.emit declaration).Nodup := by
  rw [methods]
  split
  · simpa using hvalid.methods_ne
  · exact List.nodup_singleton _

/-- A bare name that `Collision.IsFree` is the spelling of no method of the part. -/
theorem not_mem_methods_of_isFree {declaration : Declaration} {key : String}
    (hfree : Collision.IsFree config.emit declaration key) :
    key ∉ methods config.emit declaration := by
  intro hmem
  rcases List.mem_cons.mp hmem with hpopulate | hhook
  · exact hfree.populateMethod hpopulate
  · split at hhook
    · exact hfree.lifecycleHook (List.mem_singleton.mp hhook)
    · cases hhook

end Part

/-! ## Members of one part -/

/-- Bare names and methods spelled otherwise denote different identifiers exactly if no method is
written `@key` for one of the bare names or for another method. -/
theorem nodup_append_map_bare_iff {keys methods : List String} (hkeys : keys.Nodup)
    (hmethods : methods.Nodup) (hidentifiers : ∀ method ∈ methods, isIdentifier method = true)
    (hfree : ∀ key ∈ keys, key ∉ methods) :
    (keys ++ methods.map bare).Nodup
      ↔ ∀ key, "@" ++ key ∈ methods → key ∉ keys ∧ key ∉ methods := by
  rw [List.nodup_append, List.nodup_map_iff_inj_on hmethods]
  -- a method is its bare name or the verbatim form of it, and only the latter can clash
  constructor
  · rintro ⟨-, hinjective, hdisjoint⟩ key hverbatim
    obtain ⟨hdenotes, hbare⟩ := bare_verbatim (hidentifiers _ hverbatim)
    refine ⟨fun hkey => ?_, fun hmethod => ?_⟩
    · exact hdisjoint key hkey _ (List.mem_map_of_mem hverbatim) hdenotes.symm
    · exact verbatim_ne key
        (hinjective _ hverbatim key hmethod (hdenotes.trans hbare.symm))
  · intro hverbatim
    refine ⟨hkeys, ?_, ?_⟩
    · intro first hfirst second hsecond hbare
      rcases bare_cases (hidentifiers first hfirst) with hfirstBare | hfirstVerbatim <;>
        rcases bare_cases (hidentifiers second hsecond) with hsecondBare | hsecondVerbatim
      · rw [← hfirstBare, hbare, hsecondBare]
      · rw [← hbare, hfirstBare] at hsecondVerbatim
        exact absurd hfirst (hverbatim first (hsecondVerbatim ▸ hsecond)).2
      · rw [hbare, hsecondBare] at hfirstVerbatim
        exact absurd hsecond (hverbatim second (hfirstVerbatim ▸ hfirst)).2
      · rw [hfirstVerbatim, hbare, ← hsecondVerbatim]
    · intro key hkey name hname heq
      obtain ⟨method, hmethod, rfl⟩ := List.mem_map.mp hname
      rcases bare_cases (hidentifiers method hmethod) with hbare | hform
      · exact hfree key hkey (heq.trans hbare ▸ hmethod)
      · exact (hverbatim key (heq ▸ hform ▸ hmethod)).1 hkey

namespace Config

variable {config : Config} {declaration : Declaration} {sink : Sink} {part : Part}

/-- Where collisions are errors, every generated part declares its properties and `Part.methods`,
and the identifiers they denote are different exactly if no method is written as `@key` where `key`
is the identifier of a property or the other method. The planner compares the bare names of the
properties with the spelling of the methods, so this case is not reported. -/
theorem nodup_keys_declaredMembers_iff (hvalid : config.validate = .ok config)
    (hlevel : config.checks.propertyCollisions = .error)
    (hpart : (config.generate declaration sink).1 = .ok (some part)) :
    ∃ descriptors : List Descriptor,
      List.Forall₂
        (fun attr descriptor => Descriptor.ofArguments attr config.defaults = .ok descriptor)
        declaration.attributes descriptors ∧
      declaredMembers part.text
        = (descriptors.map fun descriptor => .property descriptor.resolvedName)
          ++ (Part.methods config.emit declaration).map .method ∧
      (((declaredMembers part.text).map (·.key)).Nodup ↔
        ∀ key, "@" ++ key ∈ Part.methods config.emit declaration →
          key ∉ descriptors.map Descriptor.key ∧
          key ∉ Part.methods config.emit declaration) := by
  rw [validate_eq_ok_iff] at hvalid
  obtain ⟨descriptors, hplans, rfl⟩ := generate_eq_part_iff.mp hpart
  have hmembers := Part.declaredMembers_of_plans hvalid hplans
  refine ⟨descriptors, hplans.attributes, hmembers, ?_⟩
  obtain ⟨hnodup, hfree⟩ := hplans.keys hlevel
  have hkeys := Plan.keys_ofDescriptors descriptors
  -- the planner has compared the keys with the methods as these are spelled
  have hspelled : ∀ key ∈ descriptors.map Descriptor.key,
      key ∉ Part.methods config.emit declaration := by
    intro key hkey
    rw [← hkeys] at hkey
    obtain ⟨property, hmem, rfl⟩ := List.mem_map.mp hkey
    exact Part.not_mem_methods_of_isFree (hfree property hmem)
  rw [hmembers, List.map_append, List.map_map, List.map_map]
  exact nodup_append_map_bare_iff (hkeys ▸ hnodup) (Part.nodup_methods hvalid declaration)
    (fun method hmethod => Part.isIdentifier_of_mem_methods hvalid hmethod) hspelled

/-- The standard settings with another `populateMethod`. -/
def populatingBy (name : String) : Config :=
  { Config.standard with emit := { EmitOptions.standard with populateMethod := name } }

theorem valid_populatingBy {name : String} (hname : isIdentifier name = true)
    (hne : name ≠ "Awake") : (populatingBy name).Valid :=
  { valid_standard with populateMethod := hname, methods_ne := hne }

/-- A populating method that is written verbatim clashes with no property unless it denotes one:
`@class` is accepted, and the part declares different identifiers. -/
theorem nodup_keys_declaredMembers_class :
    (populatingBy "@class").validate = .ok (populatingBy "@class") ∧
      (populatingBy "@class").checks.propertyCollisions = .error ∧
      ∃ part, ((populatingBy "@class").generate .sample .empty).1 = .ok (some part) ∧
        ((declaredMembers part.text).map (·.key)).Nodup := by
  have hvalid : (populatingBy "@class").Valid :=
    valid_populatingBy (by decide +kernel) (by decide)
  have hmethods : Part.methods (populatingBy "@class").emit .sample = ["@class", "Awake"] := by
    decide +kernel
  obtain ⟨part, hpart, hmembers⟩ := Part.exists_declaredMembers_eq .sample ["rb", "sample"] hvalid
    (by decide +kernel) (by decide +kernel)
  obtain ⟨descriptors, -, hread, hnodup⟩ :=
    nodup_keys_declaredMembers_iff (validate_eq_ok_iff.mpr hvalid) rfl hpart
  have hkeys : ["rb", "sample"] = descriptors.map Descriptor.key := by
    have hall := congrArg (List.map (·.key)) (List.append_cancel_right (hmembers.symm.trans hread))
    have hbare : (["rb", "sample"].map DeclaredMember.property).map (·.key) = ["rb", "sample"] := by
      decide
    rw [hbare, List.map_map] at hall
    exact hall
  refine ⟨validate_eq_ok_iff.mpr hvalid, rfl, part, hpart, hnodup.mpr ?_⟩
  intro key hkey
  have hclass : key = "class" := by
    rw [hmethods] at hkey
    simpa [← String.toList_inj] using hkey
  rw [hclass, hmethods, ← hkeys]
  decide

/-- A populating method `@rb` is accepted by `validate` and by the planner for a property `rb`, and
the part declares the identifier `rb` twice. -/
theorem not_nodup_keys_declaredMembers_rb :
    (populatingBy "@rb").validate = .ok (populatingBy "@rb") ∧
      (populatingBy "@rb").checks.propertyCollisions = .error ∧
      ∃ part, ((populatingBy "@rb").generate .sample .empty).1 = .ok (some part) ∧
        ¬ ((declaredMembers part.text).map (·.key)).Nodup := by
  have hvalid : (populatingBy "@rb").Valid := valid_populatingBy (by decide +kernel) (by decide)
  have hmethods : Part.methods (populatingBy "@rb").emit .sample = ["@rb", "Awake"] := by
    decide +kernel
  obtain ⟨part, hpart, hmembers⟩ := Part.exists_declaredMembers_eq .sample ["rb", "sample"] hvalid
    (by decide +kernel) (by decide +kernel)
  refine ⟨validate_eq_ok_iff.mpr hvalid, rfl, part, hpart, ?_⟩
  rw [hmembers, hmethods]
  decide

end Config

/-! ## Members of the author -/

/-- Whether the author wrote a member without parameters that denotes the same identifier as a name,
which `Declaration.declares` decides by the spelling. -/
def Declaration.DeclaresBare (declaration : Declaration) (name : String) : Prop :=
  ∃ member ∈ declaration.members, member.arity = 0 ∧ bare member.name = bare name

instance (declaration : Declaration) (name : String) :
    Decidable (declaration.DeclaresBare name) :=
  inferInstanceAs (Decidable (∃ member ∈ declaration.members, _ ∧ _))

namespace Config

variable {config : Config} {declaration : Declaration} {sink : Sink} {part : Part}

/-- A part declares `populateMethod` always, and `lifecycleHook` unless `Declaration.declares` finds
exactly that spelling. So its methods repeat no member of the author in the sense of `DeclaresBare`
exactly if none denotes the populating method, and one is spelled as the hook if any denotes the
hook. -/
theorem not_declaresBare_methods_iff (hvalid : config.validate = .ok config)
    (hpart : (config.generate declaration sink).1 = .ok (some part)) :
    (∀ method, .method method ∈ declaredMembers part.text ↔
      method = config.emit.populateMethod ∨
        method = config.emit.lifecycleHook
          ∧ declaration.declares config.emit.lifecycleHook 0 = false) ∧
    ((∀ method, .method method ∈ declaredMembers part.text → ¬ declaration.DeclaresBare method) ↔
      ¬ declaration.DeclaresBare config.emit.populateMethod ∧
        (declaration.DeclaresBare config.emit.lifecycleHook →
          declaration.declares config.emit.lifecycleHook 0 = true)) := by
  rw [validate_eq_ok_iff] at hvalid
  obtain ⟨descriptors, hplans, rfl⟩ := generate_eq_part_iff.mp hpart
  have hmethods : ∀ method,
      DeclaredMember.method method ∈ declaredMembers
        (Part.ofPlan config declaration (.ofDescriptors descriptors)).text ↔
      method = config.emit.populateMethod ∨
        method = config.emit.lifecycleHook
          ∧ declaration.declares config.emit.lifecycleHook 0 = false := by
    intro method
    rw [Part.declaredMembers_of_plans hvalid hplans, Part.methods, Part.declaresHook]
    cases declaration.declares config.emit.lifecycleHook 0 <;> simp
  refine ⟨hmethods, ?_⟩
  simp only [hmethods]
  constructor
  · intro hnone
    refine ⟨hnone _ (Or.inl rfl), fun hbare => ?_⟩
    -- a hook that is not spelled by the author is declared, which contradicts the assumption
    by_contra hspelled
    exact hnone _ (Or.inr ⟨rfl, Bool.eq_false_iff.mpr hspelled⟩) hbare
  · rintro ⟨hpopulate, hhook⟩ method (rfl | ⟨rfl, hspelled⟩)
    · exact hpopulate
    · intro hbare
      rw [hhook hbare] at hspelled
      cases hspelled

/-- A hook that the author wrote as `Awake` is not declared again. -/
theorem not_declaresBare_methods_awake :
    Config.standard.validate = .ok Config.standard ∧
      ∃ part, (Config.standard.generate (Declaration.sample.withMember "Awake" 0) .empty).1
          = .ok (some part) ∧
        ∀ method, .method method ∈ declaredMembers part.text →
          ¬ (Declaration.sample.withMember "Awake" 0).DeclaresBare method := by
  have hvalid : Config.standard.validate = .ok Config.standard :=
    validate_eq_ok_iff.mpr valid_standard
  obtain ⟨part, hpart⟩ := exists_part_of_run Config.standard
    (Declaration.sample.withMember "Awake" 0) (by decide +kernel)
  exact ⟨hvalid, part, hpart,
    (not_declaresBare_methods_iff hvalid hpart).2.mpr ⟨by decide +kernel, by decide +kernel⟩⟩

/-- A hook that the author wrote verbatim, as `@Awake`, is declared again: the two denote one
identifier and `Declaration.declares` does not find it. -/
theorem declaresBare_methods_verbatim_awake :
    Config.standard.validate = .ok Config.standard ∧
      Config.standard.checks.propertyCollisions = .error ∧
      ∃ part, (Config.standard.generate (Declaration.sample.withMember "@Awake" 0) .empty).1
          = .ok (some part) ∧
        .method Config.standard.emit.lifecycleHook ∈ declaredMembers part.text ∧
          (Declaration.sample.withMember "@Awake" 0).DeclaresBare
            Config.standard.emit.lifecycleHook := by
  obtain ⟨part, hpart, hmembers⟩ := Part.exists_declaredMembers_eq
    (Declaration.sample.withMember "@Awake" 0) ["rb", "sample"] valid_standard (by decide +kernel)
    (by decide +kernel)
  refine ⟨validate_eq_ok_iff.mpr valid_standard, rfl, part, hpart, ?_, by decide +kernel⟩
  rw [hmembers]
  decide +kernel

end Config

end Companion
