import Companion.Proofs.Members
import Companion.Proofs.Statements

/-! # What the populating method does

`Part.statements?` reads the statements of a method off the text of a part. For the populating
method these are, property by property, the ones of `PlannedProperty.statements`; running them gives
each property the first answer that is not null, or throws at the first required property without
one. `Fulfils` says this in terms of the attributes, for an oracle that answers the lookups. -/

namespace Companion

open Identifier Layout

/-- Reading a list with `List.mapM` succeeds if reading each of its items does. -/
theorem mapM_eq_some_map {α β : Type} {read : α → Option β} {value : α → β} {items : List α}
    (hread : ∀ item ∈ items, read item = some (value item)) :
    items.mapM read = some (items.map value) := by
  induction items with
  | nil => rfl
  | cons item rest ih =>
    rw [List.forall_mem_cons] at hread
    rw [List.mapM_cons, hread.1, ih hread.2]
    rfl

namespace PlannedProperty

/-! ## The statements of a property -/

/-- The lookups of a property as statements: the first of its `steps` is assigned, the others are
`Statement.fallback`s. -/
def lookupStatements (runtime : RuntimeNames) (property : PlannedProperty) : List Statement :=
  match property.steps with
  | [] => []
  | first :: others =>
    .assign property.key (runtime.lookup first) property.dependency.qualified ::
      others.map fun region =>
        .fallback property.key (runtime.lookup region) property.dependency.qualified

/-- The failure of a required property as a statement: a `Statement.guard` with the exception of the
runtime. -/
def failureStatements (runtime : RuntimeNames) (property : PlannedProperty) : List Statement :=
  if property.required then [.guard property.key runtime.missingException] else []

/-- The statements that fill a property: it is cleared, looked up step by step, and checked if it is
required. -/
def statements (runtime : RuntimeNames) (property : PlannedProperty) : List Statement :=
  .clear property.key :: (property.lookupStatements runtime ++ property.failureStatements runtime)

variable {config : Config} {property : PlannedProperty}

/-- The lines `lookupLines` of a property are read as its `lookupStatements`. -/
theorem IsNamed.mapM_read?_lookupLines (hnamed : property.IsNamed) (hvalid : config.Valid) :
    (property.lookupLines config.runtime).mapM (fun line => Statement.read? line.toList)
      = some (property.lookupStatements config.runtime) := by
  have hassign (region : Region) :
      Statement.read? (property.assignment config.runtime region).toList
        = some (.assign property.key (config.runtime.lookup region)
          property.dependency.qualified) :=
    Statement.read?_assign hnamed.name (isWritable_of_identifier (hvalid.lookup region)) _
  have hfallback (region : Region) :
      Statement.read? (property.emptyTest ++ property.assignment config.runtime region).toList
        = some (.fallback property.key (config.runtime.lookup region)
          property.dependency.qualified) :=
    Statement.read?_fallback hnamed.name (isWritable_of_identifier (hvalid.lookup region)) _
  rw [lookupLines, lookupStatements]
  -- only the first lookup is unguarded
  cases property.steps with
  | nil => rfl
  | cons first others =>
    have hothers : (others.map fun region =>
          property.emptyTest ++ property.assignment config.runtime region).mapM
          (fun line => Statement.read? line.toList)
        = some (others.map fun region => .fallback property.key (config.runtime.lookup region)
          property.dependency.qualified) := by
      rw [List.mapM_map]
      exact mapM_eq_some_map fun region _ => hfallback region
    rw [List.mapM_cons, hassign, hothers]
    rfl

/-- The lines `failureLines` of a property are read as its `failureStatements`. -/
theorem IsNamed.mapM_read?_failureLines (hnamed : property.IsNamed) (runtime : RuntimeNames) :
    (property.failureLines runtime).mapM (fun line => Statement.read? line.toList)
      = some (property.failureStatements runtime) := by
  rw [failureLines, failureStatements]
  split
  · have hline : property.emptyTest ++ "throw new " ++ runtime.missingException ++ "();"
        = property.emptyTest ++ ("throw new " ++ runtime.missingException ++ "();") := by
      simp only [String.append_assoc]
    rw [List.mapM_cons, List.mapM_nil, hline, emptyTest, Statement.read?_guard hnamed.name]
    rfl
  · rfl

/-- The lines `populationLines` of a property are read as its `statements`. -/
theorem IsNamed.mapM_read?_populationLines (hnamed : property.IsNamed) (hvalid : config.Valid) :
    (property.populationLines config.runtime).mapM (fun line => Statement.read? line.toList)
      = some (property.statements config.runtime) := by
  rw [populationLines, statements, List.mapM_cons, Statement.read?_clear hnamed.name,
    List.mapM_append, hnamed.mapM_read?_lookupLines hvalid, hnamed.mapM_read?_failureLines]
  rfl

/-! ## Running the statements of a property -/

section Running

variable {α : Type} (oracle : String → String → Option α)

/-- The first answer of the oracle to the lookups of a property that is not null, in the order of
its `steps`. -/
def answer (runtime : RuntimeNames) (property : PlannedProperty) : Option α :=
  property.steps.findSome? fun region =>
    oracle (runtime.lookup region) property.dependency.qualified

/-- Running `Statement.fallback`s while a property is null: the first object that is found stays.
The property then has what it had or else what `List.findSome?` finds in the regions. -/
theorem run_fallbacks (runtime : RuntimeNames) (name type : String) (regions : List Region)
    (objects : String → Option α) (found : Option α) :
    Statement.run oracle ⟨Function.update objects name found, none⟩
        (regions.map fun region => .fallback name (runtime.lookup region) type)
      = ⟨Function.update objects name
          (found.or (regions.findSome? fun region => oracle (runtime.lookup region) type)),
        none⟩ := by
  -- the object found so far is generalised: an object that was found makes the rest do nothing
  induction regions generalizing found with
  | nil => simp
  | cons region rest ih =>
    have hstep : Statement.execute oracle ⟨Function.update objects name found, none⟩
        (.fallback name (runtime.lookup region) type)
          = ⟨Function.update objects name (found.or (oracle (runtime.lookup region) type)),
            none⟩ := by
      cases found <;> simp [Statement.execute, Statement.State.put]
    rw [List.map_cons, Statement.run_cons rfl, hstep, ih, List.findSome?_cons]
    cases found <;> cases oracle (runtime.lookup region) type <;> simp

/-- Running the `statements` of a property puts its `answer` into it, and throws if it is required
and there is none; the other properties stay as they are. -/
theorem run_statements (runtime : RuntimeNames) (property : PlannedProperty)
    (objects : String → Option α) :
    Statement.run oracle ⟨objects, none⟩ (property.statements runtime)
      = ⟨Function.update objects property.key (property.answer oracle runtime),
        if property.required && (property.answer oracle runtime).isNone then
          some (property.key, runtime.missingException)
        else none⟩ := by
  have hlookups : Statement.run oracle ⟨Function.update objects property.key none, none⟩
      (property.lookupStatements runtime)
        = ⟨Function.update objects property.key (property.answer oracle runtime), none⟩ := by
    rw [lookupStatements, answer]
    cases property.steps with
    | nil => simp
    | cons first others =>
      have hfirst : Statement.execute oracle ⟨Function.update objects property.key none, none⟩
          (.assign property.key (runtime.lookup first) property.dependency.qualified)
            = ⟨Function.update objects property.key
                (oracle (runtime.lookup first) property.dependency.qualified), none⟩ := by
        simp [Statement.execute, Statement.State.put]
      -- the first lookup is made without a test, as the property was just cleared
      simp only [Statement.run_cons, hfirst, run_fallbacks, List.findSome?_cons]
      cases oracle (runtime.lookup first) property.dependency.qualified <;> simp
  rw [statements, Statement.run_cons rfl, Statement.run_append]
  have hclear : Statement.execute oracle ⟨objects, none⟩ (.clear property.key)
      = ⟨Function.update objects property.key none, none⟩ := rfl
  rw [hclear, hlookups, failureStatements]
  cases property.required with
  | false => simp
  | true =>
    rw [if_pos rfl, Statement.run_cons rfl, Statement.run_nil, Statement.execute]
    cases property.answer oracle runtime <;> simp

end Running

end PlannedProperty

/-! ## Reading the statements off a part -/

namespace Part

/-- The line that a generated method without parameters starts with. -/
def methodHeader (method : String) : List Char := ("private void " ++ method ++ "()").toList

/-- The lines between the braces after the `methodHeader` of a method, up to the first closing
brace. -/
def bodyLines? (method : String) (lines : List (List Char)) : Option (List (List Char)) :=
  match lines.dropWhile (· != methodHeader method) with
  | _ :: opening :: rest =>
    if opening = openingBrace.toList ∧ closingBrace.toList ∈ rest then
      some (rest.takeWhile (· != closingBrace.toList))
    else none
  | _ => none

/-- The statements of a method in a text: those that `Statement.read?` finds in the `bodyLines?` of
the method, if each of its lines is one. -/
def statements? (method text : String) : Option (List Statement) :=
  match bodyLines? method (unindented text) with
  | none => none
  | some lines => lines.mapM Statement.read?

/-- The first `methodHeader` of a method, and the first closing brace after it, enclose what
`bodyLines?` gives. -/
theorem bodyLines?_append {method : String} {front body : List (List Char)}
    (hfront : methodHeader method ∉ front) (hbody : closingBrace.toList ∉ body)
    (back : List (List Char)) :
    bodyLines? method (front ++ methodHeader method :: openingBrace.toList ::
      (body ++ closingBrace.toList :: back)) = some body := by
  rw [bodyLines?, dropWhile_append_mark hfront]
  simp [takeWhile_append_mark hbody]

/-- Lines that `Statement.read?` reads are no closing brace. -/
theorem closingBrace_not_mem {lines : List (List Char)} {statements : List Statement}
    (hlines : lines.mapM Statement.read? = some statements) : closingBrace.toList ∉ lines := by
  have hclosing : Statement.read? closingBrace.toList = none := by decide
  intro hmem
  obtain ⟨front, back, rfl⟩ := List.append_of_mem hmem
  rw [List.mapM_append, List.mapM_cons, hclosing] at hlines
  cases hfront : front.mapM Statement.read? <;> simp [hfront] at hlines

variable {config : Config} {plan : Plan}

/-- The lines that fill the properties of a plan are read as the `statements` of the properties, one
property after the other. -/
theorem mapM_read?_population (hvalid : config.Valid) {properties : List PlannedProperty}
    (hnamed : ∀ property ∈ properties, property.IsNamed) :
    ((properties.flatMap fun property =>
        (property.populationLines config.runtime).map Step.line).map Step.content).mapM
        Statement.read?
      = some (properties.flatMap (·.statements config.runtime)) := by
  induction properties with
  | nil => rfl
  | cons property rest ih =>
    rw [List.forall_mem_cons] at hnamed
    have hfirst : (((property.populationLines config.runtime).map Step.line).map Step.content).mapM
        Statement.read? = some (property.statements config.runtime) := by
      rw [List.mapM_map, List.mapM_map]
      exact hnamed.1.mapM_read?_populationLines hvalid
    rw [List.flatMap_cons, List.flatMap_cons, List.map_append, List.mapM_append, hfirst,
      ih hnamed.2]
    rfl

/-- The populating method in the text of `Part.ofPlan` consists of the `statements` of the
properties. -/
theorem statements?_ofPlan (hvalid : config.Valid) {declaration : Declaration}
    (hdeclaration : declaration.IsNamed) (hplan : plan.IsNamed) :
    statements? config.emit.populateMethod (ofPlan config declaration plan).text
      = some (plan.properties.flatMap (·.statements config.runtime)) := by
  obtain ⟨front, back, hsteps, hmembers, -⟩ := exists_steps_eq hvalid declaration hplan
  have hread := mapM_read?_population hvalid hplan.properties
  have hheader : DeclaredMember.read? (methodHeader config.emit.populateMethod)
      = some (.method config.emit.populateMethod) := DeclaredMember.read?_methodHeader _
  -- the lines before the method declare properties only
  have hfront : methodHeader config.emit.populateMethod ∉ front.map Step.content := by
    intro hmem
    obtain ⟨step, hstep, hcontent⟩ := List.mem_map.mp hmem
    have hmethod : .method config.emit.populateMethod ∈ membersOf front :=
      List.mem_filterMap.mpr ⟨step, hstep, by rw [hcontent, hheader]⟩
    rw [hmembers] at hmethod
    obtain ⟨property, -, hproperty⟩ := List.mem_map.mp hmethod
    cases hproperty
  have hlines : (steps config declaration plan).map Step.content ++ [[]]
      = front.map Step.content ++ methodHeader config.emit.populateMethod :: openingBrace.toList ::
        ((plan.properties.flatMap fun property =>
            (property.populationLines config.runtime).map Step.line).map Step.content
          ++ closingBrace.toList :: (back.map Step.content ++ [[]])) := by
    rw [hsteps, populateSteps, block]
    simp [Step.content, methodHeader]
  rw [statements?, unindented_ofPlan hvalid hdeclaration hplan, hlines,
    bodyLines?_append hfront (closingBrace_not_mem hread)]
  exact hread

end Part

/-! ## What the attributes ask for -/

/-- Searching `SearchScope.regions` is asking on the object, then among its descendants, then among
its ancestors, where only regions of the scope are asked. -/
theorem SearchScope.findSome?_regions {α : Type} (scope : SearchScope) (ask : Region → Option α) :
    scope.regions.findSome? ask
      = (if scope.contains .self then ask .self else none).or
        ((if scope.contains .children then ask .children else none).or
          (if scope.contains .parent then ask .parent else none)) := by
  have hcons (region : Region) (rest : List Region) :
      (region :: rest).findSome? ask = (ask region).or (rest.findSome? ask) := by
    rw [List.findSome?_cons]
    cases ask region <;> rfl
  rw [regions, Region.all, List.filter_cons, List.filter_cons, List.filter_cons, List.filter_nil]
  split <;> split <;> split <;> simp [hcons]

namespace Descriptor

variable {α : Type} (oracle : String → String → Option α) (runtime : RuntimeNames)

/-- What a method of the runtime finds for a descriptor in a region; nothing outside the scope of
the descriptor. -/
def answerIn (descriptor : Descriptor) (region : Region) (method : String) : Option α :=
  if descriptor.scope.contains region then oracle method descriptor.dependency.qualified else none

/-- The first component that is found for a descriptor: `answerIn` the object, then among its
descendants, then among its ancestors. -/
def answer (descriptor : Descriptor) : Option α :=
  (descriptor.answerIn oracle .self runtime.findInSelf).or
    ((descriptor.answerIn oracle .children runtime.findInChildren).or
      (descriptor.answerIn oracle .parent runtime.findInParent))

/-- Whether a descriptor demands a component and its `answer` is none. -/
def fails (descriptor : Descriptor) : Bool :=
  descriptor.required && (descriptor.answer oracle runtime).isNone

/-- The `answer` of the property that is planned for a descriptor is the `answer` of the descriptor:
the lookup table leads through the regions in the order of the latter. -/
theorem answer_ofDescriptor (position : Nat) (descriptor : Descriptor) :
    (PlannedProperty.ofDescriptor position descriptor).answer oracle runtime
      = descriptor.answer oracle runtime := by
  have hsteps : (PlannedProperty.ofDescriptor position descriptor).steps
      = descriptor.scope.regions := descriptor.scope.lookups_eq_regions
  rw [PlannedProperty.answer, hsteps]
  exact descriptor.scope.findSome?_regions _

end Descriptor

/-- What a run of the populating method must have done for a list of descriptors, given what the
lookups answer (`oracle`) and what the properties held before. -/
structure Fulfils {α : Type} (oracle : String → String → Option α) (runtime : RuntimeNames)
    (descriptors : List Descriptor) (before : String → Option α) (after : Statement.State α) :
    Prop where
  /-- It throws at the first descriptor that fails, and only there. -/
  thrown : after.thrown = (descriptors.find? (·.fails oracle runtime)).map fun descriptor =>
    (descriptor.key, runtime.missingException)
  /-- A property that is reached, because no descriptor before it fails, has its answer. -/
  reached : ∀ front descriptor back, descriptors = front ++ descriptor :: back →
    (∀ earlier ∈ front, earlier.fails oracle runtime = false) →
      after.objects descriptor.key = descriptor.answer oracle runtime
  /-- A property after a descriptor that fails is as it was. -/
  unreached : ∀ front descriptor back, descriptors = front ++ descriptor :: back →
    (∃ earlier ∈ front, earlier.fails oracle runtime = true) →
      after.objects descriptor.key = before descriptor.key
  /-- Everything else is as it was. -/
  untouched : ∀ name, name ∉ descriptors.map Descriptor.key → after.objects name = before name

section Fulfilling

variable {α : Type} {oracle : String → String → Option α} {runtime : RuntimeNames}
  {descriptor : Descriptor} {rest : List Descriptor} {before : String → Option α}

/-- A run that throws at its first descriptor fulfils the list: nothing after it is reached. -/
theorem Fulfils.cons_of_fails (hfails : descriptor.fails oracle runtime = true)
    (hnew : descriptor.key ∉ rest.map Descriptor.key) :
    Fulfils oracle runtime (descriptor :: rest) before
      ⟨Function.update before descriptor.key (descriptor.answer oracle runtime),
        some (descriptor.key, runtime.missingException)⟩ where
  thrown := by rw [List.find?_cons_of_pos hfails]; rfl
  reached := by
    rintro front next back hsplit hfront
    rcases List.cons_eq_append_iff.mp hsplit with ⟨rfl, hnext⟩ | ⟨others, rfl, -⟩
    · obtain ⟨rfl, -⟩ := List.cons_eq_cons.mp hnext
      exact Function.update_self ..
    · -- a later descriptor would be reached only if the first one passed
      have hpasses := hfront descriptor List.mem_cons_self
      rw [hfails] at hpasses
      cases hpasses
  unreached := by
    rintro front next back hsplit ⟨earlier, hearlier, -⟩
    rcases List.cons_eq_append_iff.mp hsplit with ⟨rfl, -⟩ | ⟨others, rfl, rfl⟩
    · cases hearlier
    · -- a later property has another key than the one that was assigned
      have hne : next.key ≠ descriptor.key := fun heq => hnew (by simp [← heq])
      exact Function.update_of_ne hne ..
  untouched := by
    intro name hname
    rw [List.map_cons, List.mem_cons, not_or] at hname
    exact Function.update_of_ne hname.1 ..

/-- A run that goes on after its first descriptor fulfils the list if it fulfils the rest, from the
state in which the first property has its `answer`. -/
theorem Fulfils.cons_of_passes (hpasses : descriptor.fails oracle runtime = false)
    (hnew : descriptor.key ∉ rest.map Descriptor.key) {after : Statement.State α}
    (hrest : Fulfils oracle runtime rest
      (Function.update before descriptor.key (descriptor.answer oracle runtime)) after) :
    Fulfils oracle runtime (descriptor :: rest) before after where
  thrown := by
    rw [List.find?_cons_of_neg (by simp [hpasses])]
    exact hrest.thrown
  reached := by
    rintro front next back hsplit hfront
    rcases List.cons_eq_append_iff.mp hsplit with ⟨rfl, hnext⟩ | ⟨others, rfl, hothers⟩
    · obtain ⟨rfl, -⟩ := List.cons_eq_cons.mp hnext
      rw [hrest.untouched _ hnew, Function.update_self]
    · exact hrest.reached others next back hothers
        fun earlier hearlier => hfront earlier (List.mem_cons_of_mem _ hearlier)
  unreached := by
    rintro front next back hsplit ⟨earlier, hearlier, hfails⟩
    rcases List.cons_eq_append_iff.mp hsplit with ⟨rfl, -⟩ | ⟨others, rfl, hothers⟩
    · cases hearlier
    · -- the descriptor that fails is not the first one, which passes
      have hlater : earlier ∈ others := by
        rcases List.mem_cons.mp hearlier with rfl | hmem
        · rw [hpasses] at hfails
          cases hfails
        · exact hmem
      have hne : next.key ≠ descriptor.key := fun heq => hnew (by simp [hothers, ← heq])
      rw [hrest.unreached others next back hothers ⟨earlier, hlater, hfails⟩,
        Function.update_of_ne hne]
  untouched := by
    intro name hname
    rw [List.map_cons, List.mem_cons, not_or] at hname
    rw [hrest.untouched name hname.2, Function.update_of_ne hname.1]

/-- Running the `statements` of all planned properties fulfils the descriptors, if no two of them
have the same `Descriptor.key`; by induction on the descriptors. -/
theorem fulfils_run {descriptors : List Descriptor}
    (hnodup : (descriptors.map Descriptor.key).Nodup) (position : Nat)
    (before : String → Option α) :
    Fulfils oracle runtime descriptors before
      (Statement.run oracle ⟨before, none⟩
        ((PlannedProperty.ofDescriptorsFrom position descriptors).flatMap
          (·.statements runtime))) := by
  induction descriptors generalizing position before with
  | nil => exact ⟨rfl, by simp, by simp, fun _ _ => rfl⟩
  | cons descriptor rest ih =>
    -- the key is new among the later ones, so that they leave the property as it is
    rw [List.map_cons, List.nodup_cons] at hnodup
    have hkey : (PlannedProperty.ofDescriptor position descriptor).key = descriptor.key := rfl
    have hrequired : (PlannedProperty.ofDescriptor position descriptor).required
        = descriptor.required := rfl
    rw [PlannedProperty.ofDescriptorsFrom, List.flatMap_cons, Statement.run_append,
      PlannedProperty.run_statements, Descriptor.answer_ofDescriptor, hkey, hrequired,
      ← Descriptor.fails]
    cases hfails : descriptor.fails oracle runtime with
    | true =>
      -- the statements of the later properties are not executed
      rw [if_pos rfl, Statement.run_of_thrown rfl]
      exact Fulfils.cons_of_fails hfails hnodup.1
    | false =>
      rw [if_neg Bool.false_ne_true]
      exact Fulfils.cons_of_passes hfails hnodup.1 (ih hnodup.2 (position + 1) _)

end Fulfilling

namespace Config

/-- Where collisions are errors, the populating method of a part does what the attributes ask for.
There are descriptors that `Descriptor.ofArguments` reads from the attributes, with different keys,
and statements that `Part.statements?` reads off the text; whatever the `oracle` answers to the
lookups and the properties held before, running the statements `Fulfils` the descriptors. -/
theorem exists_fulfils_of_generate {config : Config} {declaration : Declaration} {sink : Sink}
    {part : Part} (hvalid : config.validate = .ok config)
    (hlevel : config.checks.propertyCollisions = .error)
    (hpart : (config.generate declaration sink).1 = .ok (some part)) :
    ∃ (descriptors : List Descriptor) (statements : List Statement),
      List.Forall₂
        (fun attr descriptor => Descriptor.ofArguments attr config.defaults = .ok descriptor)
        declaration.attributes descriptors ∧
      (descriptors.map Descriptor.key).Nodup ∧
      Part.statements? config.emit.populateMethod part.text = some statements ∧
      ∀ (α : Type) (oracle : String → String → Option α) (before : String → Option α),
        Fulfils oracle config.runtime descriptors before
          (Statement.run oracle ⟨before, none⟩ statements) := by
  rw [validate_eq_ok_iff] at hvalid
  obtain ⟨descriptors, hplans, rfl⟩ := generate_eq_part_iff.mp hpart
  obtain ⟨hkeys, -⟩ := hplans.keys hlevel
  have hnodup : (descriptors.map Descriptor.key).Nodup :=
    Plan.keys_ofDescriptors descriptors ▸ hkeys
  have hread := Part.statements?_ofPlan hvalid hplans.declaration_isNamed hplans.plan_isNamed
  exact ⟨descriptors, _, hplans.attributes, hnodup, hread, fun _ _ before =>
    fulfils_run hnodup 1 before⟩

/-- If nothing is found, the method of the sample throws for its required property. -/
theorem exists_fulfils_of_generate_sample :
    Config.standard.validate = .ok Config.standard ∧
      Config.standard.checks.propertyCollisions = .error ∧
      ∃ part statements, (Config.standard.generate .sample .empty).1 = .ok (some part) ∧
        Part.statements? Config.standard.emit.populateMethod part.text = some statements ∧
        (Statement.run (fun _ _ => none) ⟨fun _ => some 0, none⟩ statements).thrown
          = some ("rb", "global::UnityEngine.MissingReferenceException") := by
  have hvalid : Config.standard.validate = .ok Config.standard :=
    validate_eq_ok_iff.mpr valid_standard
  obtain ⟨part, hpart⟩ := exists_part_of_run Config.standard .sample (by decide +kernel)
  obtain ⟨descriptors, statements, hattributes, -, hstatements, hfulfils⟩ :=
    exists_fulfils_of_generate hvalid rfl hpart
  refine ⟨hvalid, rfl, part, statements, hpart, hstatements, ?_⟩
  have hfirst : ((Declaration.sample.descriptors Config.standard.defaults).toOption.map
      fun descriptors =>
        (descriptors.find? (·.fails (fun _ _ => (none : Option Nat)) Config.standard.runtime)).map
          fun descriptor => (descriptor.key, Config.standard.runtime.missingException))
      = some (some ("rb", "global::UnityEngine.MissingReferenceException")) := by
    decide +kernel
  rw [Declaration.descriptors_eq_ok_iff.mpr hattributes] at hfirst
  exact (hfulfils Nat (fun _ _ => none) (fun _ => some 0)).thrown.trans (Option.some.inj hfirst)

end Config

end Companion
