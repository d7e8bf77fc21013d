import Companion.Proofs.Selections

/-! # What a plan gathers

A plan is made in one pass over the descriptors, in which the spellings that are demanded already
are remembered. `Gathers` is the pattern of such a pass: some positions of a list give a result, and
the results are listed in the order of the positions. `Plan.exists_gathers_constraints` says in this
way which component types a plan demands on the object itself, and
`Plan.properties_constraints_ofDescriptors` adds what the properties are and that neither list
changes when further descriptors follow. -/

namespace Companion

/-! ## Results in the order of their positions -/

/-- A list holds the results that positions give, one for each position that `gives` one, in the
order of the positions. -/
def Gathers {α : Type} (gives : Nat → α → Prop) (results : List α) : Prop :=
  ∃ entries : List (Nat × α), entries.Pairwise (fun first second => first.1 < second.1) ∧
    (∀ position result, (position, result) ∈ entries ↔ gives position result) ∧
    results = entries.map Prod.snd

namespace Gathers

variable {α : Type} {gives : Nat → α → Prop} {results : List α}

/-- If no position `gives` a result, then the list is empty. -/
theorem nil (hnone : ∀ position result, ¬ gives position result) : Gathers gives [] :=
  ⟨[], .nil, by simpa using hnone, rfl⟩

/-- An entry one position further. -/
def further (entry : Nat × α) : Nat × α := (entry.1 + 1, entry.2)

/-- Entries stay in order when `further` is applied to each. -/
theorem pairwise_map_further {entries : List (Nat × α)}
    (hsorted : entries.Pairwise fun first second => first.1 < second.1) :
    (entries.map further).Pairwise fun first second => first.1 < second.1 :=
  List.pairwise_map.mpr (hsorted.imp Nat.succ_lt_succ)

/-- Entries of the later positions are those of all positions but the first, when `further` is
applied to each. -/
theorem mem_map_further {entries : List (Nat × α)}
    (hentries : ∀ position result,
      (position, result) ∈ entries ↔ gives (position + 1) result) (position : Nat) (result : α) :
    (position, result) ∈ entries.map further ↔ position ≠ 0 ∧ gives position result := by
  cases position with
  | zero => simp [further]
  | succ position => simp [further, ← hentries]

/-- Without a result at the first position, `Gathers` holds of the results of the later ones. -/
theorem of_tail (hnone : ∀ result, ¬ gives 0 result)
    (hrest : Gathers (fun position => gives (position + 1)) results) : Gathers gives results := by
  obtain ⟨entries, hsorted, hentries, rfl⟩ := hrest
  refine ⟨entries.map further, pairwise_map_further hsorted, fun position result => ?_, ?_⟩
  · rw [mem_map_further hentries]
    refine and_iff_right_of_imp ?_
    rintro hgives rfl
    exact hnone result hgives
  · rw [List.map_map]
    rfl

/-- Cons reading of `Gathers`: the result of the first position stands before those of the later
ones. -/
theorem cons {first : α} (hfirst : ∀ result, gives 0 result ↔ result = first)
    (hrest : Gathers (fun position => gives (position + 1)) results) :
    Gathers gives (first :: results) := by
  obtain ⟨entries, hsorted, hentries, rfl⟩ := hrest
  -- the later positions move up by one, so they stay in order and above the first
  refine ⟨(0, first) :: entries.map further, List.pairwise_cons.mpr ⟨?_, ?_⟩,
    fun position result => ?_, ?_⟩
  · intro later hlater
    obtain ⟨entry, -, rfl⟩ := List.mem_map.mp hlater
    exact Nat.succ_pos entry.1
  · exact pairwise_map_further hsorted
  · rw [List.mem_cons, mem_map_further hentries, Prod.mk.injEq]
    constructor
    · rintro (⟨rfl, rfl⟩ | ⟨-, hgives⟩)
      · exact (hfirst result).mpr rfl
      · exact hgives
    · intro hgives
      by_cases hzero : position = 0
      · subst hzero
        exact Or.inl ⟨rfl, (hfirst result).mp hgives⟩
      · exact Or.inr ⟨hzero, hgives⟩
  · rw [List.map_cons, List.map_map]
    rfl

/-- Positions that give the same results give the same list to `Gathers`. -/
theorem congr {others : Nat → α → Prop}
    (hiff : ∀ position result, gives position result ↔ others position result)
    (hresults : Gathers others results) : Gathers gives results := by
  obtain ⟨entries, hsorted, hentries, rfl⟩ := hresults
  exact ⟨entries, hsorted, fun position result => (hentries ..).trans (hiff ..).symm, rfl⟩

end Gathers

namespace Plan

/-! ## Constraints -/

/-- The descriptor at a position demands a component on the object itself (`demandsOnSelf`), and no
descriptor before it demands a type of the same spelling `TypeRef.qualified` there. -/
structure DemandsFirst (descriptors : List Descriptor) (position : Nat) (descriptor : Descriptor) :
    Prop where
  /-- The descriptor stands at the position. -/
  stands : descriptors[position]? = some descriptor
  /-- The component must be found. -/
  required : descriptor.required = true
  /-- It is looked for on the object itself. -/
  onSelf : descriptor.scope.contains .self = true
  /-- The descriptors before it that demand a type spell it otherwise. -/
  first : ∀ earlier ∈ descriptors.take position, demandsOnSelf earlier = true →
    earlier.dependency.qualified ≠ descriptor.dependency.qualified

/-- The two conditions of `demandsOnSelf`: the component must be found, and the scope `contains` the
object itself. -/
theorem demandsOnSelf_iff {descriptor : Descriptor} :
    demandsOnSelf descriptor = true
      ↔ descriptor.required = true ∧ descriptor.scope.contains .self = true :=
  Bool.and_eq_true_iff

/-- Cons reading of `DemandsFirst` at the first position: the first descriptor is there, if it
`demandsOnSelf`. -/
theorem demandsFirst_cons_zero {first descriptor : Descriptor} {rest : List Descriptor} :
    DemandsFirst (first :: rest) 0 descriptor
      ↔ descriptor = first ∧ demandsOnSelf first = true := by
  constructor
  · rintro ⟨hstands, hrequired, hself, -⟩
    cases hstands
    exact ⟨rfl, demandsOnSelf_iff.mpr ⟨hrequired, hself⟩⟩
  · rintro ⟨rfl, hdemands⟩
    obtain ⟨hrequired, hself⟩ := demandsOnSelf_iff.mp hdemands
    exact ⟨rfl, hrequired, hself, by simp⟩

/-- Cons reading of `DemandsFirst` at a later position: the first descriptor only counts if it
`demandsOnSelf`, and must then spell its type otherwise. -/
theorem demandsFirst_cons_succ {first descriptor : Descriptor} {rest : List Descriptor}
    {position : Nat} :
    DemandsFirst (first :: rest) (position + 1) descriptor ↔
      (demandsOnSelf first = true →
        first.dependency.qualified ≠ descriptor.dependency.qualified)
      ∧ DemandsFirst rest position descriptor := by
  constructor
  · rintro ⟨hstands, hrequired, hself, hearlier⟩
    rw [List.take_succ_cons, List.forall_mem_cons] at hearlier
    exact ⟨hearlier.1, hstands, hrequired, hself, hearlier.2⟩
  · rintro ⟨hfirst, hstands, hrequired, hself, hearlier⟩
    refine ⟨hstands, hrequired, hself, ?_⟩
    rw [List.take_succ_cons, List.forall_mem_cons]
    exact ⟨hfirst, hearlier⟩

/-- After the spellings `seen`, the types of `constraintsAfter` are those of the descriptors that
`DemandsFirst`, as far as these are not among the `seen`. Induction on the descriptors, with `seen`
generalized. -/
theorem exists_gathers_constraintsAfter (seen : List String) (descriptors : List Descriptor) :
    ∃ found, constraintsAfter seen descriptors = found.map (·.dependency) ∧
      Gathers (fun position descriptor => descriptor.dependency.qualified ∉ seen ∧
        DemandsFirst descriptors position descriptor) found := by
  induction descriptors generalizing seen with
  | nil =>
    refine ⟨[], rfl, .nil ?_⟩
    rintro position descriptor ⟨-, hfirst⟩
    cases hfirst.stands
  | cons first rest ih =>
    rw [constraintsAfter]
    split
    · -- the first type is new, and from here on its spelling is a seen one
      rename_i htaken
      rw [Bool.and_eq_true, Bool.not_eq_true', List.contains_eq_mem,
        decide_eq_false_iff_not] at htaken
      obtain ⟨hdemands, hnew⟩ := htaken
      obtain ⟨found, hconstraints, hfound⟩ := ih (first.dependency.qualified :: seen)
      refine ⟨first :: found, by rw [hconstraints, List.map_cons], .cons ?_ (hfound.congr ?_)⟩
      · intro descriptor
        rw [demandsFirst_cons_zero]
        constructor
        · rintro ⟨-, hdescriptor, -⟩
          exact hdescriptor
        · rintro rfl
          exact ⟨hnew, rfl, hdemands⟩
      · intro position descriptor
        rw [demandsFirst_cons_succ, List.mem_cons, not_or,
          eq_comm (b := first.dependency.qualified)]
        tauto
    · -- the first type is passed over, and the seen spellings stay as they are
      rename_i hpassed
      rw [Bool.and_eq_true, Bool.not_eq_true', List.contains_eq_mem, decide_eq_false_iff_not,
        not_and, not_not] at hpassed
      obtain ⟨found, hconstraints, hfound⟩ := ih seen
      refine ⟨found, hconstraints, .of_tail ?_ (hfound.congr ?_)⟩
      · -- the first type is not demanded, or its spelling was seen
        rintro descriptor ⟨hnew, hfirst⟩
        obtain ⟨rfl, hdemands⟩ := demandsFirst_cons_zero.mp hfirst
        exact hnew (hpassed hdemands)
      · intro position descriptor
        rw [demandsFirst_cons_succ]
        refine and_congr_right fun hnew => and_iff_right ?_
        rintro hdemands hspelling
        exact hnew (hspelling ▸ hpassed hdemands)

/-- The constraints of `ofDescriptors descriptors` are the types of the descriptors that
`DemandsFirst`, in the order of the descriptors. -/
theorem exists_gathers_constraints (descriptors : List Descriptor) :
    ∃ found, (ofDescriptors descriptors).constraints = found.map (·.dependency) ∧
      Gathers (DemandsFirst descriptors) found := by
  obtain ⟨found, hconstraints, hfound⟩ := exists_gathers_constraintsAfter [] descriptors
  exact ⟨found, hconstraints, hfound.congr fun position descriptor => by simp⟩

/-- No two types of `constraintsAfter` are spelled alike by `TypeRef.qualified`. -/
theorem nodup_map_qualified_constraintsAfter (seen : List String) (descriptors : List Descriptor) :
    ((constraintsAfter seen descriptors).map TypeRef.qualified).Nodup := by
  induction descriptors generalizing seen with
  | nil => exact .nil
  | cons first rest ih =>
    rw [constraintsAfter]
    split
    · refine List.nodup_cons.mpr ⟨?_, ih _⟩
      rw [mem_map_qualified_constraintsAfter]
      simp
    · exact ih seen

/-- Further descriptors leave the types of `constraintsAfter` as they are and can only add some at
the end. -/
theorem constraintsAfter_prefix (seen : List String) (descriptors further : List Descriptor) :
    constraintsAfter seen descriptors <+: constraintsAfter seen (descriptors ++ further) := by
  induction descriptors generalizing seen with
  | nil => exact List.nil_prefix
  | cons first rest ih =>
    rw [List.cons_append, constraintsAfter, constraintsAfter]
    split
    · exact (List.prefix_cons_inj _).mpr (ih _)
    · exact ih seen

/-! ## Properties -/

/-- Closed form of `ofDescriptorsFrom`: the property at `index` is `ofDescriptor (position + index)`
of the descriptor there. -/
theorem ofDescriptorsFrom_eq_mapIdx (position : Nat) (descriptors : List Descriptor) :
    PlannedProperty.ofDescriptorsFrom position descriptors
      = descriptors.mapIdx fun index => PlannedProperty.ofDescriptor (position + index) := by
  induction descriptors generalizing position with
  | nil => rfl
  | cons first rest ih =>
    rw [PlannedProperty.ofDescriptorsFrom, ih, List.mapIdx_cons]
    simp only [Nat.add_zero, Nat.add_right_comm position 1, Nat.add_assoc position]

/-- What `ofDescriptors` makes of a list of descriptors. It has one property per descriptor, in
their order, with what the descriptor says, the number `index + 1`, and of the regions in the order
`self`, `children`, `parent` those that the scope `contains`. Its constraints are the types of the
descriptors that `DemandsFirst`; no two are spelled alike, and every type that a descriptor demands
on the object itself is spelled among them. Further descriptors only add to the ends of both lists.
-/
theorem properties_constraints_ofDescriptors (descriptors : List Descriptor) :
    let plan := ofDescriptors descriptors
    (plan.properties = descriptors.mapIdx fun index descriptor =>
      { name := descriptor.resolvedName
        dependency := descriptor.dependency
        steps := [Region.self, .children, .parent].filter descriptor.scope.contains
        required := descriptor.required
        position := index + 1 }) ∧
    (∃ found, plan.constraints = found.map (·.dependency) ∧
      Gathers (DemandsFirst descriptors) found) ∧
    (plan.constraints.map TypeRef.qualified).Nodup ∧
    (∀ spelling, spelling ∈ plan.constraints.map TypeRef.qualified ↔
      ∃ descriptor ∈ descriptors, descriptor.required = true ∧
        descriptor.scope.contains .self = true ∧ descriptor.dependency.qualified = spelling) ∧
    ∀ further, plan.properties <+: (ofDescriptors (descriptors ++ further)).properties ∧
      plan.constraints <+: (ofDescriptors (descriptors ++ further)).constraints := by
  intro plan
  refine ⟨?_, exists_gathers_constraints descriptors,
    nodup_map_qualified_constraintsAfter [] descriptors, ?_, fun further => ⟨?_, ?_⟩⟩
  · rw [show plan.properties = _ from ofDescriptorsFrom_eq_mapIdx 1 descriptors]
    refine congrArg (List.mapIdx · descriptors) (funext fun index => funext fun descriptor => ?_)
    -- the rows of the table of lookups are the regions that a scope contains
    rw [PlannedProperty.ofDescriptor, SearchScope.lookups_eq_regions, Nat.add_comm 1]
    rfl
  · intro spelling
    rw [mem_map_qualified_constraints]
    simp only [demandsOnSelf_iff, and_assoc]
  · have hmapped := ofDescriptorsFrom_eq_mapIdx 1 (descriptors ++ further)
    rw [List.mapIdx_append, ← ofDescriptorsFrom_eq_mapIdx] at hmapped
    exact ⟨_, hmapped.symm⟩
  · exact constraintsAfter_prefix [] descriptors further

end Plan

end Companion
