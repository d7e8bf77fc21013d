import Companion.Plan.Collision
import Companion.Proofs.Validation
import Mathlib.Data.List.Basic

/-! # Plans without collisions

`Plan.reports` is what the collision check reports about a plan, and `checkCollisions_eq` says that
the check emits exactly that and fails exactly if an error is among it. `collisions_eq_nil_iff` says
which plans have no collision: the bare names of their properties differ from each other and each of
them is free. -/

namespace Companion

open Identifier

/-- The bare name of a property, by which `Collision.find?` compares it. -/
def PlannedProperty.key (property : PlannedProperty) : String := bare property.name

namespace Collision

/-- A bare name is free if neither the type nor a member nor a generated method has it, as
`Collision.find?` compares them. -/
structure IsFree (emit : EmitOptions) (declaration : Declaration) (key : String) : Prop where
  /-- The type has another name. -/
  typeName : key ≠ bare declaration.name
  /-- All members have other names. -/
  members : ∀ member ∈ declaration.members, bare member.name ≠ key
  /-- The populating method is spelled otherwise. -/
  populateMethod : key ≠ emit.populateMethod
  /-- The hook is spelled otherwise. -/
  lifecycleHook : key ≠ emit.lifecycleHook

/-- A bare name does not collide (`Collision.find?`) exactly if no earlier property has it and it
`IsFree`. -/
theorem find?_eq_none_iff {emit : EmitOptions} {declaration : Declaration}
    {seen : List (String × Nat)} {key : String} :
    find? emit declaration seen key = none
      ↔ key ∉ seen.map Prod.fst ∧ IsFree emit declaration key := by
  rw [find?]
  cases hseen : seen.find? (·.1 == key) with
  | some entry =>
    -- an entry that was found has the key
    have hkey : entry.1 = key := by simpa using List.find?_some hseen
    have hmem : key ∈ seen.map Prod.fst :=
      List.mem_map.mpr ⟨entry, List.mem_of_find?_eq_some hseen, hkey⟩
    simp [hmem]
  | none =>
    have hnew : key ∉ seen.map Prod.fst := by
      intro hmem
      obtain ⟨entry, hentry, hkey⟩ := List.mem_map.mp hmem
      exact List.find?_eq_none.mp hseen entry hentry (by simpa using hkey)
    constructor
    · intro hnone
      split_ifs at hnone with htype hmember hmethod
      refine ⟨hnew, htype, ?_, fun hpopulate => hmethod (Or.inl hpopulate),
        fun hhook => hmethod (Or.inr hhook)⟩
      intro member hmem hname
      exact hmember (List.any_eq_true.mpr ⟨member, hmem, by simpa using hname⟩)
    · rintro ⟨-, htype, hmembers, hpopulate, hhook⟩
      have hmember : ¬ (declaration.members.any fun member => bare member.name == key) = true := by
        intro hany
        obtain ⟨member, hmem, hname⟩ := List.any_eq_true.mp hany
        exact hmembers member hmem (by simpa using hname)
      simp only [if_neg htype, if_neg hmember, hpopulate, hhook, or_self, if_false]

end Collision

namespace Plan

/-- After `remember` the seen names are the earlier ones and that of the property. -/
theorem mem_remember {seen : List (String × Nat)} {property : PlannedProperty} {key : String} :
    key ∈ (remember seen property).map Prod.fst
      ↔ key = property.key ∨ key ∈ seen.map Prod.fst := by
  rw [remember, ← PlannedProperty.key]
  split
  · rename_i hseen
    obtain ⟨entry, hentry, hkey⟩ := List.any_eq_true.mp hseen
    constructor
    · exact Or.inr
    · rintro (rfl | hmem)
      · exact List.mem_map.mpr ⟨entry, hentry, by simpa using hkey⟩
      · exact hmem
  · simp

/-- The pass `collisionsAfter` finds nothing exactly if the names of the properties differ, are not
among the seen ones and are free (`Collision.IsFree`). -/
theorem collisionsAfter_eq_nil_iff {emit : EmitOptions} {declaration : Declaration}
    {seen : List (String × Nat)} {properties : List PlannedProperty} :
    collisionsAfter emit declaration seen properties = []
      ↔ (properties.map (·.key)).Nodup ∧ ∀ property ∈ properties,
          property.key ∉ seen.map Prod.fst ∧ Collision.IsFree emit declaration property.key := by
  induction properties generalizing seen with
  | nil => simp [collisionsAfter]
  | cons property rest ih =>
    rw [collisionsAfter, ← PlannedProperty.key]
    cases hfind : Collision.find? emit declaration seen property.key with
    | some collision =>
      have hnot := mt Collision.find?_eq_none_iff.mpr (by rw [hfind]; simp)
      simp only [reduceCtorEq, false_iff, not_and]
      intro _ hall
      exact hnot (hall property List.mem_cons_self)
    | none =>
      obtain ⟨hnew, hfree⟩ := Collision.find?_eq_none_iff.mp hfind
      -- by the induction no later key is among the remembered names, of which this key is one
      simp only [ih, mem_remember, List.map_cons, List.nodup_cons, List.mem_cons, forall_eq_or_imp]
      constructor
      · rintro ⟨hnodup, hrest⟩
        refine ⟨⟨?_, hnodup⟩, ⟨hnew, hfree⟩, ?_⟩
        · intro hmem
          obtain ⟨later, hlater, hkey⟩ := List.mem_map.mp hmem
          exact (hrest later hlater).1 (Or.inl hkey)
        · exact fun later hlater => ⟨fun hmem => (hrest later hlater).1 (Or.inr hmem),
            (hrest later hlater).2⟩
      · rintro ⟨⟨hfirst, hnodup⟩, -, hrest⟩
        refine ⟨hnodup, fun later hlater => ⟨?_, (hrest later hlater).2⟩⟩
        rintro (hkey | hmem)
        · exact hfirst (List.mem_map.mpr ⟨later, hlater, hkey⟩)
        · exact (hrest later hlater).1 hmem

/-- A plan has no `collisions` exactly if its properties have different bare names, all of them free
(`Collision.IsFree`). -/
theorem collisions_eq_nil_iff {plan : Plan} {emit : EmitOptions} {declaration : Declaration} :
    plan.collisions emit declaration = []
      ↔ (plan.properties.map (·.key)).Nodup
        ∧ ∀ property ∈ plan.properties, Collision.IsFree emit declaration property.key := by
  simp [collisions, collisionsAfter_eq_nil_iff]

/-! ## Reports -/

/-- What `checkCollisions` reports about a plan: each of its `collisions`, with the severity of the
configured level. -/
def reports (config : Config) (declaration : Declaration) (plan : Plan) : List Diagnostic :=
  match config.checks.propertyCollisions.severity? with
  | none => []
  | some severity =>
    (plan.collisions config.emit declaration).map fun (property, collision) =>
      collision.diagnostic severity declaration property

/-- Closed form of `checkCollisions`: it emits the `reports` and fails exactly if an error is among
them. -/
theorem checkCollisions_eq (config : Config) (declaration : Declaration) (plan : Plan)
    (sink : Sink) :
    plan.checkCollisions config declaration sink
      = ((plan.reports config declaration).any Diagnostic.isError,
        sink.emitAll (plan.reports config declaration)) := by
  rw [checkCollisions, reports]
  cases config.checks.propertyCollisions.severity? with
  | none => rfl
  | some severity =>
    -- all collisions have one severity, so one of them is enough
    have herror : ∀ found : List (PlannedProperty × Collision),
        (!found.isEmpty && severity.isError)
          = (found.map fun (property, collision) =>
              collision.diagnostic severity declaration property).any Diagnostic.isError := by
      intro found
      cases found with
      | nil => rfl
      | cons entry rest =>
        have hseverity : ∀ (collision : Collision) (property : PlannedProperty),
            (collision.diagnostic severity declaration property).isError = severity.isError :=
          fun _ _ => rfl
        cases hlevel : severity.isError <;> simp [hseverity, hlevel]
    simp only [herror]

/-- Each of the `reports` has the code `duplicateProperty` and is about the declaration. -/
theorem code_isAbout_of_mem_reports {config : Config} {declaration : Declaration} {plan : Plan}
    {report : Diagnostic} (hreport : report ∈ plan.reports config declaration) :
    report.code = .duplicateProperty ∧ report.IsAbout declaration := by
  rw [reports] at hreport
  split at hreport
  · cases hreport
  · obtain ⟨⟨property, collision⟩, -, rfl⟩ := List.mem_map.mp hreport
    exact ⟨rfl, rfl, rfl⟩

/-- At the level of errors, no error is among the `reports` exactly if there are no `collisions`. -/
theorem any_isError_reports_of_error {config : Config}
    (hlevel : config.checks.propertyCollisions = .error) (declaration : Declaration)
    (plan : Plan) :
    (plan.reports config declaration).any Diagnostic.isError = false
      ↔ plan.collisions config.emit declaration = [] := by
  rw [reports, hlevel]
  simp only [CollisionLevel.severity?]
  cases plan.collisions config.emit declaration with
  | nil => simp
  | cons entry rest =>
    simp only [List.map_cons, List.any_cons, reduceCtorEq, iff_false]
    simp [Collision.diagnostic, Diagnostic.isError, Diagnostic.withHelp, Diagnostic.withNote,
      Diagnostic.plain, Severity.isError]

end Plan

end Companion
