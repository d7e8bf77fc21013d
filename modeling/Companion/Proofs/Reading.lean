import Companion.Proofs.FileStem
import Companion.Proofs.Population

/-! # Reading a plan off a part

`Heading.read?` reads a line that names something: a namespace, a demanded component, the type or a
property. `Part.headings_ofPlan` says that a part shows these headings and no others, for no name
can make a line look like another one; with the statements of the populating method they determine
what was planned. Hence two parts of one text have the same plan, as far as parts show plans:
`Config.generate_text_inj`. -/

namespace Companion

open Identifier Layout

/-! ## Names with type parameters -/

namespace TypeRef

/-- Between commas stand the members of a list joined by `, `, all but the first after a space. -/
theorem splitOn_intercalate {name : List Char} {rest : List (List Char)} (hname : ',' ∉ name)
    (hrest : ∀ other ∈ rest, ',' ∉ other) :
    (", ".toList.intercalate (name :: rest)).splitOn ',' = name :: rest.map (' ' :: ·) := by
  have hspaces : ", ".toList.intercalate (name :: rest)
      = [','].intercalate (name :: rest.map (' ' :: ·)) := by
    clear hname hrest
    induction rest generalizing name with
    | nil => simp
    | cons next others ih =>
      rw [List.intercalate_cons_cons, ih, List.map_cons, List.intercalate_cons_cons,
        List.intercalate_cons_cons_left]
      simp
  rw [hspaces]
  refine List.splitOn_intercalate ',' ?_ (List.cons_ne_nil _ _)
  rw [List.forall_mem_cons, List.forall_mem_map]
  exact ⟨hname, fun other hother => by simpa using hrest other hother⟩

/-- Lists without commas in their members are equal if they are `bracketed` alike. -/
theorem bracketed_inj {first second : List (List Char)} (hfirst : ∀ name ∈ first, ',' ∉ name)
    (hsecond : ∀ name ∈ second, ',' ∉ name) (hequal : bracketed first = bracketed second) :
    first = second := by
  cases first with
  | nil =>
    cases second with
    | nil => rfl
    | cons name rest => cases hequal
  | cons name rest =>
    cases second with
    | nil => cases hequal
    | cons other others =>
      rw [List.forall_mem_cons] at hfirst hsecond
      have hinner : ", ".toList.intercalate (name :: rest)
          = ", ".toList.intercalate (other :: others) :=
        List.append_cancel_left (List.append_cancel_right hequal)
      have hpieces := congrArg (List.splitOn ',') hinner
      rw [splitOn_intercalate hfirst.1 hfirst.2, splitOn_intercalate hsecond.1 hsecond.2,
        List.cons.injEq] at hpieces
      -- cut at the commas, all names but the first stand after a space
      have hspace : Function.Injective ((' ' :: ·) : List Char → List Char) :=
        List.cons_injective
      rw [hpieces.1, hspace.list_map hpieces.2]

/-- A `bracketed` list is empty or starts with its bracket. -/
theorem takeWhile_bracketed (names : List (List Char)) :
    (bracketed names).takeWhile (· != '<') = [] := by
  cases names <;> rfl

end TypeRef

namespace Declaration

variable {first second : Declaration}

/-- The name stands before the bracket in `displayChars`, if there is one. -/
theorem IsNamed.takeWhile_displayChars (hnamed : first.IsNamed) :
    first.displayChars.takeWhile (· != '<') = first.name.toList := by
  have hangle : '<' ∉ first.name.toList :=
    (isWritable_of_identifier hnamed.name).not_mem (by decide)
  rw [displayChars, List.takeWhile_append_of_pos (bne_of_not_mem hangle),
    TypeRef.takeWhile_bracketed, List.append_nil]

/-- No type parameter has a comma. -/
theorem IsNamed.comma_not_mem (hnamed : first.IsNamed) :
    ∀ name ∈ first.typeParameters.map String.toList, ',' ∉ name := by
  rw [List.forall_mem_map]
  intro name hname
  exact (isWritable_of_identifier (hnamed.typeParameters name hname)).not_mem (by decide)

/-- Two well-named declarations have one `displayName` only if they have the same name and type
parameters. -/
theorem IsNamed.displayName_inj (hfirst : first.IsNamed) (hsecond : second.IsNamed)
    (hequal : first.displayName = second.displayName) :
    first.name = second.name ∧ first.typeParameters = second.typeParameters := by
  rw [← String.toList_inj, toList_displayName, toList_displayName] at hequal
  have hname : first.name.toList = second.name.toList := by
    rw [← hfirst.takeWhile_displayChars, hequal, hsecond.takeWhile_displayChars]
  rw [displayChars, displayChars, hname, List.append_cancel_left_eq] at hequal
  have hparameters := TypeRef.bracketed_inj hfirst.comma_not_mem hsecond.comma_not_mem hequal
  have hlists : Function.Injective String.toList := fun _ _ => String.toList_inj.mp
  exact ⟨hlists hname, hlists.list_map hparameters⟩

end Declaration

/-! ## Headings -/

/-- A line of a part that names something, as `Heading.read?` recognises it in the text. -/
inductive Heading
  /-- A namespace. -/
  | space (name : String)
  /-- A component that the object itself must have. -/
  | demand (type : String)
  /-- The type, with its type parameters. -/
  | type (name : String)
  /-- A property. -/
  | property (type name : String)
  deriving DecidableEq, Repr

namespace Heading

open DeclaredMember

/-- The headings of a part in their order: the namespace, the demanded components, the type, and the
types and names of the properties. -/
def sequence (space : Option String) (demands : List String) (name : String)
    (properties : List (String × String)) : List Heading :=
  space.toList.map .space ++ (demands.map .demand
    ++ .type name :: properties.map fun found => .property found.1 found.2)

/-- The namespace that a heading names. -/
def space? : Heading → Option String
  | space name => some name
  | _ => none

/-- The component that a heading demands. -/
def demand? : Heading → Option String
  | demand component => some component
  | _ => none

/-- The type that a heading names. -/
def type? : Heading → Option String
  | type name => some name
  | _ => none

/-- The property that a heading declares. -/
def property? : Heading → Option (String × String)
  | property component name => some (component, name)
  | _ => none

/-- Filtering `sequence` by the kind of heading gives back what was put in, for each of the four
kinds. -/
theorem filterMap_sequence (space : Option String) (demands : List String) (name : String)
    (properties : List (String × String)) :
    (sequence space demands name properties).filterMap space? = space.toList ∧
      (sequence space demands name properties).filterMap demand? = demands ∧
      (sequence space demands name properties).filterMap type? = [name] ∧
      (sequence space demands name properties).filterMap property? = properties := by
  simp [sequence, List.filterMap_cons, List.filterMap_map, Function.comp_def, space?, demand?,
    type?, property?]

/-- The headings `sequence` determine what they name, since `filterMap_sequence` gives it back. -/
theorem sequence_inj {space other : Option String} {demands others : List String}
    {name otherName : String} {properties otherProperties : List (String × String)}
    (hequal : sequence space demands name properties
      = sequence other others otherName otherProperties) :
    space = other ∧ demands = others ∧ name = otherName ∧ properties = otherProperties := by
  obtain ⟨hspaces, hdemands, htypes, hproperties⟩ :=
    filterMap_sequence space demands name properties
  rw [hequal] at hspaces hdemands htypes hproperties
  obtain ⟨hspaces', hdemands', htypes', hproperties'⟩ :=
    filterMap_sequence other others otherName otherProperties
  have hspace : space = other := by
    simpa using congrArg List.head? (hspaces.symm.trans hspaces')
  exact ⟨hspace, hdemands.symm.trans hdemands',
    List.singleton_inj.mp (htypes.symm.trans htypes'), hproperties.symm.trans hproperties'⟩

/-- Reads `attribute(typeof(type))]` as `Heading.demand`. -/
def readDemand? (demand : List Char) : Option Heading :=
  match "(typeof(".toList.isPrefixOf? (demand.dropWhile (· != '(')) with
  | none => none
  | some rest => ("))]".toList.isSuffixOf? rest).map fun type => .demand (String.ofList type)

/-- What stands before the last space of a line, as `lastWord` stands after it. -/
def beforeLastWord (line : List Char) : List Char :=
  ((line.reverse.dropWhile (· != ' ')).drop 1).reverse

/-- Reads `private type name` before ` { get; set; }` as `Heading.property`. -/
def readProperty? (line : List Char) : Option Heading :=
  match "private ".toList.isPrefixOf? line with
  | none => none
  | some rest =>
    (" \x7b get; set; \x7d".toList.isSuffixOf? rest).map fun front =>
      .property (String.ofList (beforeLastWord front)) (String.ofList (lastWord front))

/-- The heading that a line is, if it is one: it starts with `namespace`, `partial class`, an
opening bracket or `private`. -/
def read? (line : List Char) : Option Heading :=
  match "namespace ".toList.isPrefixOf? line with
  | some name => some (.space (String.ofList name))
  | none =>
    match "partial class ".toList.isPrefixOf? line with
    | some name => some (.type (String.ofList name))
    | none =>
      match "[".toList.isPrefixOf? line with
      | some rest => readDemand? rest
      | none => readProperty? line

/-! ## Reading lines -/

theorem read?_namespace (name : String) :
    read? ("namespace " ++ name).toList = some (.space name) := by
  have hstart : "namespace ".toList.isPrefixOf? ("namespace " ++ name).toList = some name.toList :=
    List.isPrefixOf?_eq_some_iff_append_eq.mpr (String.toList_append ..).symm
  rw [read?, hstart]
  simp only [String.ofList_toList]

theorem read?_classHeader (name : String) :
    read? ("partial class " ++ name).toList = some (.type name) := by
  have hspace : "namespace ".toList.isPrefixOf? ("partial class " ++ name).toList = none := by
    simp [List.isPrefixOf?]
  have hstart : "partial class ".toList.isPrefixOf? ("partial class " ++ name).toList
      = some name.toList :=
    List.isPrefixOf?_eq_some_iff_append_eq.mpr (String.toList_append ..).symm
  rw [read?, hspace]
  simp only [hstart, String.ofList_toList]

/-- A demanded component is read off its attribute, however the attribute is called, as long as its
name has no bracket. -/
theorem read?_constraint {demand : String} (hdemand : '(' ∉ demand.toList) (type : String) :
    read? ("[" ++ demand ++ "(typeof(" ++ type ++ "))]").toList = some (.demand type) := by
  have hline : ("[" ++ demand ++ "(typeof(" ++ type ++ "))]").toList
      = '[' :: (demand.toList ++ '(' :: ("typeof(".toList ++ (type.toList ++ "))]".toList))) := by
    simp
  -- the opening bracket tells the attribute from the other headings
  have hspace (rest : List Char) : "namespace ".toList.isPrefixOf? ('[' :: rest) = none := by
    simp [List.isPrefixOf?]
  have hclass (rest : List Char) : "partial class ".toList.isPrefixOf? ('[' :: rest) = none := by
    simp [List.isPrefixOf?]
  have hbracket (rest : List Char) : "[".toList.isPrefixOf? ('[' :: rest) = some rest :=
    List.isPrefixOf?_eq_some_iff_append_eq.mpr rfl
  have htypeof : "(typeof(".toList.isPrefixOf?
      ('(' :: ("typeof(".toList ++ (type.toList ++ "))]".toList)))
        = some (type.toList ++ "))]".toList) :=
    List.isPrefixOf?_eq_some_iff_append_eq.mpr rfl
  have hend : "))]".toList.isSuffixOf? (type.toList ++ "))]".toList) = some type.toList :=
    List.isSuffixOf?_eq_some_iff_append_eq.mpr rfl
  rw [hline, read?, hspace]
  simp only [hclass, hbracket, readDemand?]
  rw [dropWhile_append_mark hdemand, htypeof]
  simp only [hend, Option.map_some, String.ofList_toList]

/-- What `beforeLastWord` leaves of a line whose last word has no space. -/
theorem beforeLastWord_append {name : List Char} (hname : ' ' ∉ name) (front : List Char) :
    beforeLastWord (front ++ ' ' :: name) = front := by
  rw [beforeLastWord, List.reverse_append, List.reverse_cons, List.append_assoc,
    List.singleton_append, dropWhile_append_mark (by simpa using hname), List.drop_one,
    List.tail_cons, List.reverse_reverse]

/-- A line that starts with the modifier `private` is no heading but a property. -/
theorem read?_private (rest : String) :
    read? ("private " ++ rest).toList
      = (" \x7b get; set; \x7d".toList.isSuffixOf? rest.toList).map fun front =>
        .property (String.ofList (beforeLastWord front)) (String.ofList (lastWord front)) := by
  have hspace : "namespace ".toList.isPrefixOf? ("private " ++ rest).toList = none := by
    simp [List.isPrefixOf?]
  have hclass : "partial class ".toList.isPrefixOf? ("private " ++ rest).toList = none := by
    simp [List.isPrefixOf?]
  have hbracket : "[".toList.isPrefixOf? ("private " ++ rest).toList = none := by
    simp [List.isPrefixOf?]
  have hstart : "private ".toList.isPrefixOf? ("private " ++ rest).toList = some rest.toList :=
    List.isPrefixOf?_eq_some_iff_append_eq.mpr (String.toList_append ..).symm
  rw [read?, hspace]
  simp only [hclass, hbracket, readProperty?, hstart]

/-- The line `declarationLine` is read as the property, with its type and name. -/
theorem read?_declarationLine {property : PlannedProperty} (hnamed : property.IsNamed) :
    read? property.declarationLine.toList
      = some (.property property.dependency.qualified property.name) := by
  have hname : ' ' ∉ property.name.toList := hnamed.name.not_mem (by decide)
  have hline : property.declarationLine = "private " ++ (property.dependency.qualified ++ " "
      ++ property.name ++ " \x7b get; set; \x7d") := by
    simp only [PlannedProperty.declarationLine, String.append_assoc]
  have hend : " \x7b get; set; \x7d".toList.isSuffixOf? (property.dependency.qualified ++ " "
        ++ property.name ++ " \x7b get; set; \x7d").toList
      = some (property.dependency.qualified.toList ++ ' ' :: property.name.toList) := by
    rw [List.isSuffixOf?_eq_some_iff_append_eq]
    simp
  rw [hline, read?_private, hend, Option.map_some, beforeLastWord_append hname,
    lastWord_append hname, String.ofList_toList, String.ofList_toList]

/-- The header of a method is no heading: it does not end as a property does. -/
theorem read?_methodHeader (method : String) :
    read? ("private void " ++ method ++ "()").toList = none := by
  have hline : "private void " ++ method ++ "()" = "private " ++ ("void " ++ method ++ "()") := by
    simp [← String.toList_inj]
  have hend : " \x7b get; set; \x7d".toList.isSuffixOf? ("void " ++ method ++ "()").toList
      = none := by
    simp [List.isSuffixOf?, List.isPrefixOf?]
  rw [hline, read?_private, hend, Option.map_none]

/-- A line that starts with none of the words of headings is no heading. -/
theorem read?_eq_none {line : List Char} (hspace : "namespace ".toList.isPrefixOf? line = none)
    (hclass : "partial class ".toList.isPrefixOf? line = none)
    (hbracket : "[".toList.isPrefixOf? line = none)
    (hmodifier : "private ".toList.isPrefixOf? line = none) : read? line = none := by
  rw [read?, hspace]
  simp only [hclass, hbracket, readProperty?, hmodifier]

/-- A line that starts with a writable name and a delimiter is no heading: `partial` is such a name
as well, but no class follows it. -/
theorem read?_writable_append {name : List Char} (hname : IsWritable name) {c : Char}
    (hc : c ∈ delimiters) {rest : List Char} (hrest : rest.head? ≠ some 'c') :
    read? (name ++ c :: rest) = none := by
  have hspace : "namespace ".toList = "namespace".toList ++ ' ' :: [] := by simp
  have hmodifier : "private ".toList = "private".toList ++ ' ' :: [] := by simp
  have hclass : "partial class ".toList.isPrefixOf? (name ++ c :: rest) = none := by
    rw [Option.eq_none_iff_forall_ne_some]
    intro others hothers
    have hline := List.isPrefixOf?_eq_some_iff_append_eq.mp hothers
    have hpartial : IsWritable "partial".toList :=
      isWritable_of_identifier (by decide +kernel)
    have hsplit : "partial class ".toList ++ others
        = "partial".toList ++ ' ' :: ("class ".toList ++ others) := by
      simp
    -- both sides start with a run of name characters, after which the class or the rest follows
    rw [hsplit] at hline
    have hnames := congrArg (List.takeWhile isNameChar) hline
    rw [hpartial.takeWhile_append (by decide), hname.takeWhile_append hc] at hnames
    rw [hnames, List.append_cancel_left_eq, List.cons.injEq] at hline
    exact hrest (by simp [← hline.2])
  have hbracket : "[".toList.isPrefixOf? (name ++ c :: rest) = none := by
    rw [Option.eq_none_iff_forall_ne_some]
    intro others hothers
    have hline := List.isPrefixOf?_eq_some_iff_append_eq.mp hothers
    obtain ⟨first, body, rfl⟩ := List.exists_cons_of_ne_nil hname.ne_nil
    have hfirst : '[' = first := (List.cons.inj hline).1
    exact hname.not_mem (show '[' ∈ delimiters by decide) (hfirst ▸ List.mem_cons_self)
  refine read?_eq_none ?_ hclass hbracket ?_
  · rw [hspace]
    exact hname.isPrefixOf?_keyword (by decide +kernel) hc (by decide) [] rest
  · rw [hmodifier]
    exact hname.isPrefixOf?_keyword (by decide +kernel) hc (by decide) [] rest

/-- No line of `populationLines` is a heading. -/
theorem read?_populationLine {property : PlannedProperty} (hnamed : property.IsNamed)
    {runtime : RuntimeNames} {line : String} (hline : line ∈ property.populationLines runtime) :
    read? line.toList = none := by
  -- a guarded line starts with the test
  have hguarded (rest : String) : read? (property.emptyTest ++ rest).toList = none :=
    read?_eq_none (by simp [PlannedProperty.emptyTest, List.isPrefixOf?])
      (by simp [PlannedProperty.emptyTest, List.isPrefixOf?])
      (by simp [PlannedProperty.emptyTest, List.isPrefixOf?])
      (by simp [PlannedProperty.emptyTest, List.isPrefixOf?])
  rcases PlannedProperty.populationLines_cases hline with rfl | ⟨region, rfl⟩ | ⟨region, rfl⟩ | rfl
  · have hclear : (property.name ++ " = null;").toList
        = property.name.toList ++ ' ' :: "= null;".toList := by
      simp
    rw [hclear]
    exact read?_writable_append hnamed.name (by decide) (by simp)
  · have hassign : (property.assignment runtime region).toList = property.name.toList ++ ' ' ::
        ("= this." ++ runtime.lookup region ++ "<" ++ property.dependency.qualified
          ++ ">();").toList := by
      simp [PlannedProperty.assignment]
    rw [hassign]
    exact read?_writable_append hnamed.name (by decide) (by simp)
  · exact hguarded _
  · exact hguarded _

end Heading

/-! ## The headings of a part -/

namespace Part

/-- The headings of a text, in order: those that `Heading.read?` finds in its `unindented` lines. -/
def headings (text : String) : List Heading := (unindented text).filterMap Heading.read?

/-- The headings that steps write, before they are laid out as a text. -/
def headingsOf (steps : List Step) : List Heading :=
  steps.filterMap fun step => Heading.read? step.content

theorem headingsOf_append (first second : List Step) :
    headingsOf (first ++ second) = headingsOf first ++ headingsOf second :=
  List.filterMap_append

theorem headingsOf_line_of_some {content : String} {heading : Heading}
    (hline : Heading.read? content.toList = some heading) (rest : List Step) :
    headingsOf (.line content :: rest) = heading :: headingsOf rest :=
  List.filterMap_cons_some hline

theorem headingsOf_line_of_none {content : String} (hline : Heading.read? content.toList = none)
    (rest : List Step) : headingsOf (.line content :: rest) = headingsOf rest :=
  List.filterMap_cons_none hline

theorem headingsOf_eq_nil {steps : List Step}
    (hsteps : ∀ step ∈ steps, Heading.read? step.content = none) : headingsOf steps = [] :=
  List.filterMap_eq_nil_iff.mpr hsteps

/-- Each of the lines that are written for a list of items has a heading. -/
theorem headingsOf_map {α : Type} {items : List α} {line : α → String} {heading : α → Heading}
    (hitems : ∀ item ∈ items, Heading.read? (line item).toList = some (heading item)) :
    headingsOf (items.map fun item => .line (line item)) = items.map heading := by
  induction items with
  | nil => rfl
  | cons item rest ih =>
    rw [List.forall_mem_cons] at hitems
    rw [List.map_cons, headingsOf_line_of_some hitems.1, ih hitems.2, List.map_cons]

/-- Braces are no headings, so `Part.block` adds none. -/
theorem headingsOf_block (steps : List Step) : headingsOf (block steps) = headingsOf steps := by
  have hopen : headingsOf [.openBlock] = [] := by decide
  have hclose : headingsOf [.closeBlock] = [] := by decide
  rw [block, headingsOf_append, headingsOf_append, hopen, hclose, List.nil_append, List.append_nil]

variable {config : Config} {declaration : Declaration} {plan : Plan}

theorem headingsOf_constraintSteps (hvalid : config.Valid) (plan : Plan) :
    headingsOf (constraintSteps config.runtime plan)
      = plan.constraints.map fun type => .demand type.qualified := by
  have hdemand : '(' ∉ config.runtime.requireAttribute.toList :=
    TypeRef.not_mem_of_isTypeChar
      (fun _ hc => TypeRef.isTypeChar_of_mem_rootedPath hvalid.requireAttribute hc)
      (by decide) (by decide)
  exact headingsOf_map fun type _ => Heading.read?_constraint hdemand type.qualified

theorem headingsOf_propertySteps (hplan : plan.IsNamed) :
    headingsOf (propertySteps plan)
      = plan.properties.map fun property =>
        .property property.dependency.qualified property.name := by
  have hblank : headingsOf (if plan.properties.isEmpty then [] else [.blank]) = [] := by
    split <;> rfl
  rw [propertySteps, headingsOf_append, hblank, List.append_nil]
  exact headingsOf_map fun property hmem =>
    Heading.read?_declarationLine (hplan.properties property hmem)

theorem headingsOf_populateSteps (config : Config) (hplan : plan.IsNamed) :
    headingsOf (populateSteps config plan) = [] := by
  rw [populateSteps, headingsOf_line_of_none (Heading.read?_methodHeader _), headingsOf_block]
  refine headingsOf_eq_nil fun step hstep => ?_
  obtain ⟨property, hmem, hlines⟩ := List.mem_flatMap.mp hstep
  obtain ⟨line, hline, rfl⟩ := List.mem_map.mp hlines
  exact Heading.read?_populationLine (hplan.properties property hmem) hline

theorem headingsOf_hookSteps (hvalid : config.Valid) (declaration : Declaration) :
    headingsOf (hookSteps config.emit declaration) = [] := by
  have hcall : Heading.read? (config.emit.populateMethod ++ "();").toList = none := by
    have hline : (config.emit.populateMethod ++ "();").toList
        = config.emit.populateMethod.toList ++ '(' :: ");".toList := by
      simp
    rw [hline]
    exact Heading.read?_writable_append (isWritable_of_identifier hvalid.populateMethod)
      (by decide) (by decide)
  rw [hookSteps]
  split
  · have hheader : headingsOf [.blank, .line ("private void " ++ config.emit.lifecycleHook ++ "()")]
        = [] :=
      headingsOf_line_of_none (Heading.read?_methodHeader _) []
    rw [headingsOf_append, hheader, headingsOf_block, headingsOf_line_of_none hcall]
    rfl
  · rfl

theorem headingsOf_typeSteps (hvalid : config.Valid) (declaration : Declaration)
    (hplan : plan.IsNamed) :
    headingsOf (typeSteps config declaration plan)
      = (plan.constraints.map fun type => .demand type.qualified)
        ++ .type declaration.displayName :: plan.properties.map fun property =>
          .property property.dependency.qualified property.name := by
  rw [typeSteps, headingsOf_append, headingsOf_constraintSteps hvalid,
    headingsOf_line_of_some (Heading.read?_classHeader _), headingsOf_block, headingsOf_append,
    headingsOf_append, headingsOf_propertySteps hplan, headingsOf_populateSteps config hplan,
    headingsOf_hookSteps hvalid, List.append_nil, List.append_nil]

/-- The text of `Part.ofPlan` shows the namespace, the demanded components, the type and the
properties, in the order of `Heading.sequence`. -/
theorem headings_ofPlan (hvalid : config.Valid) (hdeclaration : declaration.IsNamed)
    (hplan : plan.IsNamed) :
    headings (ofPlan config declaration plan).text
      = Heading.sequence declaration.properNamespace? (plan.constraints.map TypeRef.qualified)
        declaration.displayName
        (plan.properties.map fun property => (property.dependency.qualified, property.name)) := by
  have hmark : headingsOf [.line "// <auto-generated/>", .blank] = [] := by decide
  have hend : Heading.read? [] = none := by decide
  have hsteps : headings (ofPlan config declaration plan).text
      = headingsOf (steps config declaration plan) := by
    rw [headings, unindented_ofPlan hvalid hdeclaration hplan, List.filterMap_append,
      List.filterMap_map, List.filterMap_cons_none hend, List.filterMap_nil, List.append_nil]
    rfl
  rw [hsteps, steps, headingsOf_append, hmark, List.nil_append, Heading.sequence, List.map_map,
    List.map_map]
  cases declaration.properNamespace? with
  | none => exact headingsOf_typeSteps hvalid declaration hplan
  | some name =>
    dsimp only
    rw [headingsOf_line_of_some (Heading.read?_namespace name), headingsOf_block,
      headingsOf_typeSteps hvalid declaration hplan]
    rfl

end Part

/-! ## The statements of a part -/

namespace Statement

/-- Whether a statement clears a property (`Statement.clear`). -/
def isClear : Statement → Bool
  | clear _ => true
  | _ => false

/-- Whether a statement throws if a property is still null (`Statement.guard`). -/
def isGuard : Statement → Bool
  | guard _ _ => true
  | _ => false

/-- The method that a statement calls. -/
def method? : Statement → Option String
  | assign _ method _ => some method
  | fallback _ method _ => some method
  | _ => none

end Statement

namespace PlannedProperty

variable (runtime : RuntimeNames)

/-- The `statements` of a property call the methods of its lookups, in the order of its `steps`. -/
theorem filterMap_method?_statements (property : PlannedProperty) :
    (property.statements runtime).filterMap Statement.method?
      = property.steps.map runtime.lookup := by
  -- the exception is thrown without calling a method
  have hfailure : (property.failureStatements runtime).filterMap Statement.method? = [] := by
    rw [failureStatements]
    split <;> rfl
  have hlookups : (property.lookupStatements runtime).filterMap Statement.method?
      = property.steps.map runtime.lookup := by
    rw [lookupStatements]
    cases property.steps with
    | nil => rfl
    | cons first others =>
      have hothers : (others.map fun region => Statement.fallback property.key
            (runtime.lookup region) property.dependency.qualified).filterMap Statement.method?
          = others.map runtime.lookup := by
        rw [List.filterMap_map]
        exact congrFun List.filterMap_eq_map others
      exact congrArg (runtime.lookup first :: ·) hothers
  rw [statements, List.filterMap_cons_none rfl, List.filterMap_append, hlookups, hfailure,
    List.append_nil]

/-- Among the `statements` of a property is a guard exactly if it is required. -/
theorem any_isGuard_statements (property : PlannedProperty) :
    (property.statements runtime).any Statement.isGuard = property.required := by
  have hlookups : (property.lookupStatements runtime).any Statement.isGuard = false := by
    rw [lookupStatements]
    cases property.steps with
    | nil => rfl
    | cons first others => simp [Statement.isGuard]
  rw [statements, List.any_cons, List.any_append, hlookups, failureStatements]
  cases property.required <;> rfl

/-- Only the first of the `statements` of a property clears it, so a clearing statement marks where
a property begins. -/
theorem isClear_eq_false (property : PlannedProperty) :
    ∀ statement ∈ property.lookupStatements runtime ++ property.failureStatements runtime,
      (!statement.isClear) = true := by
  rw [List.forall_mem_append]
  constructor
  · rw [lookupStatements]
    cases property.steps with
    | nil => simp
    | cons first others => simp [Statement.isClear]
  · rw [failureStatements]
    cases property.required <;> simp [Statement.isClear]

variable {runtime}

/-- The statements of further properties start with one that clears, so nothing of them belongs to
the property before. -/
theorem takeWhile_flatMap_statements (properties : List PlannedProperty) :
    (properties.flatMap (·.statements runtime)).takeWhile (fun found => !found.isClear) = [] := by
  cases properties <;> rfl

/-- The statements of a list of properties determine those of each: they are cut before every
`Statement.clear`. -/
theorem map_statements_eq {first second : List PlannedProperty}
    (hequal : first.flatMap (·.statements runtime) = second.flatMap (·.statements runtime)) :
    first.map (·.statements runtime) = second.map (·.statements runtime) := by
  induction first generalizing second with
  | nil =>
    cases second with
    | nil => rfl
    | cons other others => cases hequal
  | cons property rest ih =>
    cases second with
    | nil => cases hequal
    | cons other others =>
      rw [List.flatMap_cons, List.flatMap_cons, statements, statements, List.cons_append,
        List.cons_append, List.cons.injEq] at hequal
      obtain ⟨hclear, hbodies⟩ := hequal
      -- the statements of the first property end where the next one is cleared
      have hbody := congrArg (List.takeWhile fun found => !found.isClear) hbodies
      rw [List.takeWhile_append_of_pos (property.isClear_eq_false runtime),
        List.takeWhile_append_of_pos (other.isClear_eq_false runtime),
        takeWhile_flatMap_statements, takeWhile_flatMap_statements, List.append_nil,
        List.append_nil] at hbody
      rw [hbody, List.append_cancel_left_eq] at hbodies
      rw [List.map_cons, List.map_cons, ih hbodies, statements, statements, hclear, hbody]

end PlannedProperty

namespace Config

variable {config : Config} {declaration : Declaration} {descriptors : List Descriptor}

/-- What a part shows of a property: its name and type, the methods of its lookups, and whether it
is required. The regions of the lookups are shown only through `RuntimeNames.lookup`. -/
def shown (config : Config) (property : PlannedProperty) :
    String × String × List String × Bool :=
  (property.name, property.dependency.qualified, property.steps.map config.runtime.lookup,
    property.required)

/-- What is `shown` of properties is their types and names, as the headings give them, and what
`method?` and `isGuard` find in their statements. -/
theorem map_shown (config : Config) (properties : List PlannedProperty) :
    properties.map config.shown
      = ((properties.map fun property => (property.dependency.qualified, property.name)).zip
          (properties.map (·.statements config.runtime))).map fun found =>
        (found.1.2, found.1.1, found.2.filterMap Statement.method?,
          found.2.any Statement.isGuard) := by
  rw [List.zip_map', List.map_map]
  refine List.map_congr_left fun property _ => ?_
  rw [Function.comp_apply, property.filterMap_method?_statements, property.any_isGuard_statements]
  rfl

/-- The text of a part determines what was planned. If two declarations have parts of one text under
one configuration, they agree on namespace, name and type parameters, the plans that `Config.check`
makes for them agree on the demanded components and on what is `shown` of each property, and
`declaresHook` holds for both or for neither. -/
theorem generate_text_inj (hvalid : config.validate = .ok config) {first second : Declaration}
    {firstSink secondSink : Sink} {firstPart secondPart : Part}
    (hfirst : (config.generate first firstSink).1 = .ok (some firstPart))
    (hsecond : (config.generate second secondSink).1 = .ok (some secondPart))
    (htext : firstPart.text = secondPart.text) :
    ∃ firstPlan secondPlan, (config.check first firstSink).1 = .ok (some firstPlan) ∧
      (config.check second secondSink).1 = .ok (some secondPlan) ∧
      first.namespaceName.getD "" = second.namespaceName.getD "" ∧
      first.name = second.name ∧ first.typeParameters = second.typeParameters ∧
      firstPlan.constraints.map TypeRef.qualified = secondPlan.constraints.map TypeRef.qualified ∧
      firstPlan.properties.map config.shown = secondPlan.properties.map config.shown ∧
      Part.declaresHook config.emit first = Part.declaresHook config.emit second := by
  have hvalid := validate_eq_ok_iff.mp hvalid
  obtain ⟨firstDescriptors, hplans, rfl⟩ := generate_eq_part_iff.mp hfirst
  obtain ⟨secondDescriptors, hothers, rfl⟩ := generate_eq_part_iff.mp hsecond
  have hnamed := hplans.declaration_isNamed
  have hotherNamed := hothers.declaration_isNamed
  -- one text has one sequence of headings, one list of statements and one list of members
  have hheadings := congrArg Part.headings htext
  rw [Part.headings_ofPlan hvalid hnamed hplans.plan_isNamed,
    Part.headings_ofPlan hvalid hotherNamed hothers.plan_isNamed] at hheadings
  have hstatements := congrArg (Part.statements? config.emit.populateMethod) htext
  rw [Part.statements?_ofPlan hvalid hnamed hplans.plan_isNamed,
    Part.statements?_ofPlan hvalid hotherNamed hothers.plan_isNamed, Option.some.injEq]
    at hstatements
  have hmembers := congrArg declaredMembers htext
  rw [Part.declaredMembers_ofPlan hvalid hnamed hplans.plan_isNamed,
    Part.declaredMembers_ofPlan hvalid hotherNamed hothers.plan_isNamed] at hmembers
  obtain ⟨hspace, hconstraints, hname, hproperties⟩ := Heading.sequence_inj hheadings
  obtain ⟨hname, hparameters⟩ := hnamed.displayName_inj hotherNamed hname
  have hshown : (Plan.ofDescriptors firstDescriptors).properties.map config.shown
      = (Plan.ofDescriptors secondDescriptors).properties.map config.shown := by
    rw [map_shown, map_shown, hproperties, PlannedProperty.map_statements_eq hstatements]
  refine ⟨_, _, hplans.check firstSink, hothers.check secondSink,
    Declaration.properNamespace?_inj.mp hspace, hname, hparameters, hconstraints, hshown, ?_⟩
  -- the properties are as many, so that the hook is all that can make a difference in the members
  have hcount := congrArg List.length hproperties
  have hhooks := List.append_inj_right hmembers (by simpa using hcount)
  cases hhook : Part.declaresHook config.emit first <;>
    cases hotherHook : Part.declaresHook config.emit second <;>
      simp [hhook, hotherHook] at hhooks ⊢

/-- Two declarations that differ in whether the global namespace is absent or empty have parts of
one text. -/
theorem generate_text_inj_sample :
    Config.standard.validate = .ok Config.standard ∧
      ∃ firstPart secondPart,
        (Config.standard.generate .sample .empty).1 = .ok (some firstPart) ∧
        (Config.standard.generate (Declaration.sample.inNamespace "") .empty).1
          = .ok (some secondPart) ∧
        firstPart.text = secondPart.text ∧
        ∃ firstPlan secondPlan,
          (Config.standard.check .sample .empty).1 = .ok (some firstPlan) ∧
          (Config.standard.check (Declaration.sample.inNamespace "") .empty).1
            = .ok (some secondPlan) ∧
          firstPlan.constraints.map TypeRef.qualified
            = secondPlan.constraints.map TypeRef.qualified ∧
          firstPlan.properties.map Config.standard.shown
            = secondPlan.properties.map Config.standard.shown := by
  have hvalid : Config.standard.validate = .ok Config.standard :=
    validate_eq_ok_iff.mpr valid_standard
  obtain ⟨firstPart, hfirst⟩ := exists_part_of_run Config.standard .sample (by decide +kernel)
  obtain ⟨secondPart, hsecond⟩ := exists_part_of_run Config.standard
    (Declaration.sample.inNamespace "") (by decide +kernel)
  have htexts : (Config.standard.run .sample).part.map Part.text
      = (Config.standard.run (Declaration.sample.inNamespace "")).part.map Part.text := by
    decide +kernel
  rw [part_run_eq_some_iff.mpr hfirst, part_run_eq_some_iff.mpr hsecond, Option.map_some,
    Option.map_some, Option.some.injEq] at htexts
  obtain ⟨firstPlan, secondPlan, hplan, hotherPlan, -, -, -, hconstraints, hshown, -⟩ :=
    generate_text_inj hvalid hfirst hsecond htexts
  exact ⟨hvalid, firstPart, secondPart, hfirst, hsecond, htexts, firstPlan, secondPlan, hplan,
    hotherPlan, hconstraints, hshown⟩

end Config

end Companion
