import Companion.Generation.Trial
import Companion.Proofs.Part
import Mathlib.Data.List.Perm.Basic

/-! # Selections of attributes

Attributes are read each on its own, and at the level of errors a plan is accepted exactly if the
keys of its properties are free and differ. Neither depends on the order of the attributes, and both
stay true when attributes are removed. `pick` takes the items at given positions: an order of all
positions rearranges a list, an ascending list of positions leaves the others out.
`Config.Plans.of_subperm` carries a plan over to other attributes, and `Config.generate_picking`
compares a declaration with the one that has the picked attributes. -/

namespace Companion

open Identifier

/-! ## Picking items by their positions -/

/-- The items of a list at positions, in the order of the positions; a position beyond the end gives
none. -/
def pick {α : Type} (positions : List Nat) (items : List α) : List α :=
  positions.filterMap (items[·]?)

section Picking

variable {α β : Type} {positions : List Nat} {items : List α}

theorem pick_cons (position : Nat) (positions : List Nat) (items : List α) :
    pick (position :: positions) items = items[position]?.toList ++ pick positions items := by
  rw [pick, List.filterMap_cons, ← pick]
  cases items[position]? <;> rfl

/-- What is done with every item can be done before or after `pick`. -/
theorem pick_map (f : α → β) (positions : List Nat) (items : List α) :
    pick positions (items.map f) = (pick positions items).map f := by
  rw [pick, pick, List.map_filterMap]
  simp only [List.getElem?_map]

/-- All positions in their order `pick` the list itself. -/
theorem pick_range (items : List α) : pick (List.range items.length) items = items := by
  have hlookup : (List.range items.length).map (items[·]?) = items.map some := by
    refine List.ext_getElem (by simp) fun index hfirst hsecond => ?_
    rw [List.length_map] at hsecond
    simp [hsecond]
  have hpick : pick (List.range items.length) items
      = ((List.range items.length).map (items[·]?)).filterMap id := by
    rw [List.filterMap_map]
    rfl
  rw [hpick, hlookup, List.filterMap_map]
  simp

/-- All positions in some order `pick` a rearrangement of the list. -/
theorem pick_perm (hpositions : positions.Perm (List.range items.length)) :
    (pick positions items).Perm items := by
  have hperm := hpositions.filterMap (items[·]?)
  have hself := pick_range items
  rw [pick] at hself
  rwa [hself] at hperm

/-- Ascending positions `pick` a part of the list. -/
theorem pick_sublist (hpositions : positions.Sublist (List.range items.length)) :
    (pick positions items).Sublist items := by
  have hsub := hpositions.filterMap (items[·]?)
  have hself := pick_range items
  rw [pick] at hself
  rwa [hself] at hsub

/-- If two lists are related item by item, then so are the items that the same positions `pick` of
them. -/
theorem forall₂_pick {R : α → β → Prop} {others : List β} (hall : List.Forall₂ R items others)
    (positions : List Nat) : List.Forall₂ R (pick positions items) (pick positions others) := by
  have hlookup (position : Nat) :
      List.Forall₂ R items[position]?.toList others[position]?.toList := by
    induction hall generalizing position with
    | nil => exact .nil
    | cons hfirst hrest ih =>
      cases position with
      | zero => exact .cons hfirst .nil
      | succ position => exact ih position
  induction positions with
  | nil => exact .nil
  | cons position rest ih =>
    rw [pick_cons, pick_cons]
    exact List.rel_append (hlookup position) ih

end Picking

/-! ## Plans of selected descriptors -/

/-- A property without the number of its attribute: `position` is zero. -/
def PlannedProperty.unnumbered (property : PlannedProperty) : PlannedProperty :=
  { property with position := 0 }

namespace Plan

/-- But for the numbers, the properties of `ofDescriptors descriptors` are `ofDescriptor` of the
descriptors one by one. -/
theorem map_unnumbered_ofDescriptors (descriptors : List Descriptor) :
    (ofDescriptors descriptors).properties.map PlannedProperty.unnumbered
      = descriptors.map (PlannedProperty.ofDescriptor 0) := by
  have hfrom (position : Nat) : (PlannedProperty.ofDescriptorsFrom position descriptors).map
      PlannedProperty.unnumbered = descriptors.map (PlannedProperty.ofDescriptor 0) := by
    induction descriptors generalizing position with
    | nil => rfl
    | cons descriptor rest ih =>
      rw [PlannedProperty.ofDescriptorsFrom, List.map_cons, List.map_cons, ih]
      rfl
  exact hfrom 1

/-- A type is spelled in `constraintsAfter seen descriptors` exactly if the spelling is not `seen`
and one of the descriptors `demandsOnSelf` a type of this spelling. -/
theorem mem_map_qualified_constraintsAfter {seen : List String} {descriptors : List Descriptor}
    {spelling : String} :
    spelling ∈ (constraintsAfter seen descriptors).map TypeRef.qualified ↔
      spelling ∉ seen ∧ ∃ descriptor ∈ descriptors,
        demandsOnSelf descriptor = true ∧ descriptor.dependency.qualified = spelling := by
  induction descriptors generalizing seen with
  | nil => simp [constraintsAfter]
  | cons descriptor rest ih =>
    by_cases hdemands : demandsOnSelf descriptor = true
    case neg => simp [constraintsAfter, hdemands, ih]
    by_cases hseen : descriptor.dependency.qualified ∈ seen
    · -- this spelling is passed over, and it is none of those that are looked for
      have hpassed : constraintsAfter seen (descriptor :: rest) = constraintsAfter seen rest := by
        simp [constraintsAfter, hseen]
      rw [hpassed, ih, List.exists_mem_cons_iff]
      refine and_congr_right fun hnew => (or_iff_right ?_).symm
      rintro ⟨-, rfl⟩
      exact hnew hseen
    · have htaken : constraintsAfter seen (descriptor :: rest) = descriptor.dependency ::
          constraintsAfter (descriptor.dependency.qualified :: seen) rest := by
        simp [constraintsAfter, hdemands, hseen]
      rw [htaken, List.map_cons, List.mem_cons, ih, List.exists_mem_cons_iff]
      by_cases hspelling : spelling = descriptor.dependency.qualified
      · simp [hspelling, hseen, hdemands]
      · simp [hspelling, Ne.symm hspelling]

/-- A type is spelled among the constraints of `ofDescriptors` exactly if one of the descriptors
`demandsOnSelf` a type of this spelling. -/
theorem mem_map_qualified_constraints {descriptors : List Descriptor} {spelling : String} :
    spelling ∈ (ofDescriptors descriptors).constraints.map TypeRef.qualified ↔
      ∃ descriptor ∈ descriptors,
        demandsOnSelf descriptor = true ∧ descriptor.dependency.qualified = spelling := by
  rw [ofDescriptors, mem_map_qualified_constraintsAfter]
  simp

end Plan

/-! ## Declarations with other attributes -/

namespace Declaration

/-- The declaration with other attributes, and otherwise as it is. -/
def withAttributes (declaration : Declaration) (attributes : List Attribute) : Declaration :=
  { declaration with attributes }

/-- The declaration with those of its attributes that `positions` pick, in the order of the
positions. -/
def picking (declaration : Declaration) (positions : List Nat) : Declaration :=
  declaration.withAttributes (pick positions declaration.attributes)

end Declaration

namespace Config

variable {config : Config} {declaration : Declaration} {descriptors others : List Descriptor}
  {attributes : List Attribute}

/-- If a declaration has a part, then so has `withAttributes`, provided that the descriptors of the
other attributes are some of those that the declaration has. This is at the level of errors: keys
that differ and are free stay so. -/
theorem Plans.of_subperm (hlevel : config.checks.propertyCollisions = .error)
    (hplans : config.Plans declaration descriptors)
    (hread : List.Forall₂
      (fun attr descriptor => Descriptor.ofArguments attr config.defaults = .ok descriptor)
      attributes others)
    (hsub : others.Subperm descriptors) :
    config.Plans (declaration.withAttributes attributes) others where
  identity := hplans.identity
  rules := hplans.rules
  attributes := hread
  collisions := by
    obtain ⟨hnodup, hfree⟩ := hplans.keys hlevel
    have hkeys : ∀ key ∈ descriptors.map Descriptor.key,
        Collision.IsFree config.emit declaration key := by
      rw [← Plan.keys_ofDescriptors]
      exact List.forall_mem_map.mpr hfree
    rw [Plan.keys_ofDescriptors] at hnodup
    rw [Plan.any_isError_reports_of_error hlevel, Plan.collisions_eq_nil_iff,
      ← List.forall_mem_map (P := Collision.IsFree config.emit _), Plan.keys_ofDescriptors]
    obtain ⟨list, hperm, hsublist⟩ := hsub
    have hpermKeys := hperm.map Descriptor.key
    have hsubKeys := hsublist.map Descriptor.key
    refine ⟨hpermKeys.nodup_iff.mp (hnodup.sublist hsubKeys), fun key hkey => ?_⟩
    have hold := hkeys key (hsubKeys.subset (hpermKeys.mem_iff.mpr hkey))
    exact ⟨hold.typeName, hold.members, hold.populateMethod, hold.lifecycleHook⟩

/-- A part is given by `Config.generate` exactly if the declaration passes all stages, as `Plans`
says. -/
theorem exists_generate_iff {sink : Sink} :
    (∃ part, (config.generate declaration sink).1 = .ok (some part)) ↔
      ∃ descriptors, config.Plans declaration descriptors := by
  simp only [generate_eq_part_iff]
  exact ⟨fun ⟨_, descriptors, hplans, _⟩ => ⟨descriptors, hplans⟩,
    fun ⟨descriptors, hplans⟩ => ⟨_, descriptors, hplans, rfl⟩⟩

/-- If a declaration has a part, then so has `Declaration.picking` of it, from the descriptors at
the same positions, if no position is picked twice. -/
theorem Plans.picking (hlevel : config.checks.propertyCollisions = .error)
    (hplans : config.Plans declaration descriptors) {positions : List Nat}
    (hpositions : (pick positions descriptors).Subperm descriptors) :
    config.Plans (declaration.picking positions) (pick positions descriptors) :=
  hplans.of_subperm hlevel (forall₂_pick hplans.attributes positions) hpositions

/-- If rearranged attributes give a part, then so do the attributes as they were: these are a
rearrangement of the picked ones in turn. -/
theorem Plans.of_picking (hlevel : config.checks.propertyCollisions = .error)
    {positions : List Nat}
    (hpositions : positions.Perm (List.range declaration.attributes.length))
    (hplans : config.Plans (declaration.picking positions) others) :
    ∃ descriptors, config.Plans declaration descriptors := by
  -- the attributes as they were are a rearrangement of the picked ones
  have hperm : declaration.attributes.Perm (declaration.picking positions).attributes :=
    (pick_perm hpositions).symm
  obtain ⟨descriptors, hread, hdescriptors⟩ := List.perm_comp_forall₂ hperm hplans.attributes
  have hback := hplans.of_subperm hlevel hread hdescriptors.subperm
  exact ⟨descriptors, hback⟩

/-- What the descriptors of the attributes of a declaration say of its plan `plan` and of the plan
`other` of `declaration.picking positions`: but for the numbers, the properties of `plan` are those
that the descriptors ask for, and the properties of `other` those that the descriptors at
`positions` ask for; and each plan demands the types that its descriptors demand. -/
structure PicksPlan (config : Config) (declaration : Declaration) (positions : List Nat)
    (sink : Sink) (descriptors : List Descriptor) (plan other : Plan) : Prop where
  /-- Each descriptor is read off its attribute. -/
  attributes : List.Forall₂
    (fun attr descriptor => Descriptor.ofArguments attr config.defaults = .ok descriptor)
    declaration.attributes descriptors
  /-- The declaration has the plan `plan`. -/
  checked : (config.check declaration sink).1 = .ok (some plan)
  /-- The declaration with the picked attributes has the plan `other`. -/
  chosen_checked : (config.check (declaration.picking positions) sink).1 = .ok (some other)
  /-- The part of the declaration is that of `plan`. -/
  generated : (config.generate declaration sink).1
    = .ok (some (Part.ofPlan config declaration plan))
  /-- The part of the declaration with the picked attributes is that of `other`. -/
  chosen_generated : (config.generate (declaration.picking positions) sink).1
    = .ok (some (Part.ofPlan config (declaration.picking positions) other))
  /-- The properties of `plan` are those of all descriptors, one by one. -/
  properties : plan.properties.map PlannedProperty.unnumbered
    = descriptors.map (PlannedProperty.ofDescriptor 0)
  /-- The properties of `other` are those of the picked descriptors, one by one. -/
  chosen_properties : other.properties.map PlannedProperty.unnumbered
    = (pick positions descriptors).map (PlannedProperty.ofDescriptor 0)
  /-- The constraints of `plan` spell the types of all descriptors with `demandsOnSelf`. -/
  constraints : ∀ spelling, spelling ∈ plan.constraints.map TypeRef.qualified ↔
    ∃ descriptor ∈ descriptors,
      Plan.demandsOnSelf descriptor = true ∧ descriptor.dependency.qualified = spelling
  /-- The constraints of `other` spell the types of the picked descriptors with `demandsOnSelf`. -/
  chosen_constraints : ∀ spelling, spelling ∈ other.constraints.map TypeRef.qualified ↔
    ∃ descriptor ∈ pick positions descriptors,
      Plan.demandsOnSelf descriptor = true ∧ descriptor.dependency.qualified = spelling

/-- Under `PicksPlan` the properties of the second plan are the picked ones of the first. -/
theorem PicksPlan.properties_eq_pick {positions : List Nat} {sink : Sink} {plan other : Plan}
    (hpicks : config.PicksPlan declaration positions sink descriptors plan other) :
    other.properties.map PlannedProperty.unnumbered
      = pick positions (plan.properties.map PlannedProperty.unnumbered) := by
  rw [hpicks.properties, hpicks.chosen_properties, pick_map]

/-- Descriptors with a plan, and their picked ones if no position is picked twice, give plans as
`PicksPlan` says, at the level of errors. -/
theorem Plans.picksPlan (hlevel : config.checks.propertyCollisions = .error)
    (hplans : config.Plans declaration descriptors) {positions : List Nat}
    (hpositions : (pick positions descriptors).Subperm descriptors) (sink : Sink) :
    config.PicksPlan declaration positions sink descriptors (.ofDescriptors descriptors)
      (.ofDescriptors (pick positions descriptors)) where
  attributes := hplans.attributes
  checked := hplans.check sink
  chosen_checked := (hplans.picking hlevel hpositions).check sink
  generated := generate_eq_part_iff.mpr ⟨_, hplans, rfl⟩
  chosen_generated := generate_eq_part_iff.mpr ⟨_, hplans.picking hlevel hpositions, rfl⟩
  properties := Plan.map_unnumbered_ofDescriptors descriptors
  chosen_properties := Plan.map_unnumbered_ofDescriptors (pick positions descriptors)
  constraints _ := Plan.mem_map_qualified_constraints
  chosen_constraints _ := Plan.mem_map_qualified_constraints

/-- Under `PicksPlan` both plans demand the same types if the positions only rearrange the
descriptors: which types are demanded does not depend on the order. -/
theorem PicksPlan.mem_constraints_iff {positions : List Nat} {sink : Sink} {plan other : Plan}
    (hpicks : config.PicksPlan declaration positions sink descriptors plan other)
    (hperm : (pick positions descriptors).Perm descriptors) (spelling : String) :
    spelling ∈ other.constraints.map TypeRef.qualified ↔
      spelling ∈ plan.constraints.map TypeRef.qualified := by
  rw [hpicks.constraints, hpicks.chosen_constraints]
  simp only [hperm.mem_iff]

/-- Attributes in another order, and attributes of which some are left out, at the level of errors.

If `positions` is an order of all attributes, then `config.generate` gives a part for
`declaration.picking positions` exactly if it gives one for `declaration`. By `PicksPlan` both plans
have the properties of the descriptors of the attributes, each plan in its own order, and the
constraints of both spell the types that these descriptors demand; so a type is spelled among the
constraints of both or of neither.

If `positions` leaves some attributes out and `config.generate` gives a part for `declaration`, then
it gives one for `declaration.picking positions`, whose plan has by `PicksPlan` the properties and
the constraints of the descriptors that are kept. -/
theorem generate_picking (config : Config) (hlevel : config.checks.propertyCollisions = .error)
    (declaration : Declaration) (positions : List Nat) (sink : Sink) :
    let chosen := declaration.picking positions
    let count := declaration.attributes.length
    (positions.Perm (List.range count) →
      ((∃ part, (config.generate chosen sink).1 = .ok (some part)) ↔
        ∃ part, (config.generate declaration sink).1 = .ok (some part)) ∧
      ((∃ part, (config.generate declaration sink).1 = .ok (some part)) →
        ∃ descriptors plan other,
          config.PicksPlan declaration positions sink descriptors plan other ∧
          other.properties.map PlannedProperty.unnumbered
            = pick positions (plan.properties.map PlannedProperty.unnumbered) ∧
          ∀ spelling, spelling ∈ other.constraints.map TypeRef.qualified ↔
            spelling ∈ plan.constraints.map TypeRef.qualified)) ∧
    (positions.Sublist (List.range count) →
      (∃ part, (config.generate declaration sink).1 = .ok (some part)) →
        (∃ part, (config.generate chosen sink).1 = .ok (some part)) ∧
        ∃ descriptors plan other,
          config.PicksPlan declaration positions sink descriptors plan other ∧
          other.properties.map PlannedProperty.unnumbered
            = pick positions (plan.properties.map PlannedProperty.unnumbered)) := by
  intro chosen count
  simp only [exists_generate_iff]
  refine ⟨fun hpositions => ⟨⟨?_, ?_⟩, ?_⟩, fun hpositions => ?_⟩
  · rintro ⟨others, hplans⟩
    exact Plans.of_picking hlevel hpositions hplans
  all_goals
    rintro ⟨descriptors, hplans⟩
    have hcount : count = descriptors.length := hplans.attributes.length_eq
    rw [hcount] at hpositions
  · exact ⟨_, hplans.picking hlevel (pick_perm hpositions).subperm⟩
  · have hperm := pick_perm hpositions
    have hpicks := hplans.picksPlan hlevel hperm.subperm sink
    exact ⟨_, _, _, hpicks, hpicks.properties_eq_pick, hpicks.mem_constraints_iff hperm⟩
  · have hsubperm := (pick_sublist hpositions).subperm
    have hpicks := hplans.picksPlan hlevel hsubperm sink
    exact ⟨⟨_, hplans.picking hlevel hsubperm⟩, _, _, _, hpicks, hpicks.properties_eq_pick⟩

/-- The two attributes of `Declaration.sample` can be exchanged, and the first one can be left out:
its plan has the properties `rb` and `sample`, and the plans of the picked attributes have `sample`
and `rb`, or `sample` alone. -/
theorem generate_picking_sample :
    let names (plan : Plan) := plan.properties.map PlannedProperty.name
    Config.standard.checks.propertyCollisions = .error ∧
      [1, 0].Perm (List.range Declaration.sample.attributes.length) ∧
      [1].Sublist (List.range Declaration.sample.attributes.length) ∧
      (∃ descriptors plan other,
        Config.standard.PicksPlan .sample [1, 0] .empty descriptors plan other ∧
        names plan = ["rb", "sample"] ∧ names other = ["sample", "rb"]) ∧
      ∃ descriptors plan other,
        Config.standard.PicksPlan .sample [1] .empty descriptors plan other ∧
        names plan = ["rb", "sample"] ∧ names other = ["sample"] := by
  intro names
  have hperm : [1, 0].Perm (List.range Declaration.sample.attributes.length) := by decide
  have hsub : [1].Sublist (List.range Declaration.sample.attributes.length) := by decide
  have hpart := exists_part_of_run Config.standard .sample (by decide +kernel)
  obtain ⟨descriptors, plan, other, hexchanged, -⟩ :=
    ((generate_picking .standard rfl .sample [1, 0] .empty).1 hperm).2 hpart
  obtain ⟨keptDescriptors, keptPlan, kept, hkept, -⟩ :=
    ((generate_picking .standard rfl .sample [1] .empty).2 hsub hpart).2
  -- the plans are evaluated by their names only
  have hnames {declaration : Declaration} {expected : List String} {plan : Plan}
      (hexpected : (Config.standard.check declaration .empty).1.map (Option.map names)
        = .ok (some expected))
      (hcheck : (Config.standard.check declaration .empty).1 = .ok (some plan)) :
      names plan = expected := by
    rw [hcheck] at hexpected
    simpa [Except.map] using hexpected
  have hsample : (Config.standard.check .sample .empty).1.map (Option.map names)
      = .ok (some ["rb", "sample"]) := by decide +kernel
  refine ⟨rfl, hperm, hsub, ⟨_, _, _, hexchanged, hnames hsample hexchanged.checked, ?_⟩,
    _, _, _, hkept, hnames hsample hkept.checked, ?_⟩
  · exact hnames (by decide +kernel) hexchanged.chosen_checked
  · exact hnames (by decide +kernel) hkept.chosen_checked

end Config

end Companion
