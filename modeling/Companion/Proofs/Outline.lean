import Companion.Generation.Trial
import Companion.Proofs.FileStem

/-! # What a part depends on

A part is written from the namespace, the name, the type parameters and the attributes of its
declaration, and from the answer to one question about the members: whether the hook is among them.
`Declaration.SameOutline` compares two declarations in these points. The place of a type, its
ancestors and its other members steer the rules and the collision check, hence decide whether there
is a part; `Config.part_eq_of_sameOutline` says that they never decide what stands in it. -/

namespace Companion

/-- Two declarations agree in all that is written into a part: name, namespace, type parameters,
attributes, and whether `lifecycleHook` is declared. The global namespace may be absent in one and
empty in the other; base types, locations and other members may differ. -/
structure Declaration.SameOutline (emit : EmitOptions) (first second : Declaration) : Prop where
  /-- The names are equal. -/
  name : first.name = second.name
  /-- The namespaces are equal, where an absent one counts as empty. -/
  namespaceName : first.namespaceName.getD "" = second.namespaceName.getD ""
  /-- The type parameters are equal. -/
  typeParameters : first.typeParameters = second.typeParameters
  /-- The attributes are equal. -/
  attributes : first.attributes = second.attributes
  /-- Either both authors wrote the hook or none did, as `Declaration.declares` finds it without
  parameters. -/
  hook : first.declares emit.lifecycleHook 0 = second.declares emit.lifecycleHook 0

namespace Declaration.SameOutline

variable {config : Config} {first second : Declaration}

/-- The names with their type parameters (`Declaration.displayName`) are equal. -/
theorem displayName_eq {emit : EmitOptions} (hsame : SameOutline emit first second) :
    first.displayName = second.displayName := by
  rw [displayName, displayName, displayChars, displayChars, hsame.name, hsame.typeParameters]

/-- The files of the parts have one name: `Part.hintNameOf` reads nothing but the outline. -/
theorem hintNameOf_eq {emit : EmitOptions} (hsame : SameOutline emit first second) :
    Part.hintNameOf emit first = Part.hintNameOf emit second := by
  have hspace := properNamespace?_inj.mpr hsame.namespaceName
  have hqualified : first.qualifiedName = second.qualifiedName := by
    rw [qualifiedName, qualifiedName, qualifiedChars_eq, qualifiedChars_eq, dottedChars,
      dottedChars, hspace, hsame.name, hsame.typeParameters]
  rw [Part.hintNameOf, Part.hintNameOf, hqualified]

/-- The same attributes are read in the same way, so `Declaration.descriptors` gives the same list
or the same failure. -/
theorem descriptors_eq {emit : EmitOptions} (hsame : SameOutline emit first second)
    (defaults : AttributeDefaults) : first.descriptors defaults = second.descriptors defaults := by
  rw [descriptors, descriptors, hsame.attributes]

/-- The outline decides whether `Part.hookSteps` declares the hook. -/
theorem hookSteps_eq {emit : EmitOptions} (hsame : SameOutline emit first second) :
    Part.hookSteps emit first = Part.hookSteps emit second := by
  rw [Part.hookSteps, Part.hookSteps, Part.declaresHook, Part.declaresHook, hsame.hook]

/-- One plan is written in the same `Part.steps` for both declarations. -/
theorem steps_eq (hsame : SameOutline config.emit first second) (plan : Plan) :
    Part.steps config first plan = Part.steps config second plan := by
  have htype : Part.typeSteps config first plan = Part.typeSteps config second plan := by
    rw [Part.typeSteps, Part.typeSteps, hsame.displayName_eq, hsame.hookSteps_eq]
  rw [Part.steps, Part.steps, properNamespace?_inj.mpr hsame.namespaceName, htype]

/-- One plan gives both declarations the same `Part.ofPlan`. -/
theorem ofPlan_eq (hsame : SameOutline config.emit first second) (plan : Plan) :
    Part.ofPlan config first plan = Part.ofPlan config second plan := by
  rw [Part.ofPlan, Part.ofPlan, hsame.hintNameOf_eq, hsame.steps_eq]

end Declaration.SameOutline

namespace Config

/-- If two declarations agree in `SameOutline` and both have a part under one configuration, then
the parts have the same `hintName`, the same `text` and the same `digest`, whatever the sinks held
before. -/
theorem part_eq_of_sameOutline {config : Config} {first second : Declaration}
    (hsame : first.SameOutline config.emit second) {sink other : Sink} {part another : Part}
    (hfirst : (config.generate first sink).1 = .ok (some part))
    (hsecond : (config.generate second other).1 = .ok (some another)) :
    part.hintName = another.hintName ∧ part.text = another.text ∧ part.digest = another.digest := by
  obtain ⟨descriptors, hplans, rfl⟩ := generate_eq_part_iff.mp hfirst
  obtain ⟨others, hothers, rfl⟩ := generate_eq_part_iff.mp hsecond
  -- both plans come from the same attributes, so they are one plan
  have hread := Declaration.descriptors_eq_ok_iff.mpr hplans.attributes
  rw [hsame.descriptors_eq, Declaration.descriptors_eq_ok_iff.mpr hothers.attributes,
    Except.ok.injEq] at hread
  subst hread
  rw [hsame.ofPlan_eq]
  exact ⟨rfl, rfl, rfl⟩

/-- A type that was moved, has further ancestors and new members keeps its part; a member with the
name of the hook is another one if it has a parameter. -/
theorem part_eq_of_sameOutline_moved :
    let moved : Declaration :=
      { Declaration.sample with
        namespaceName := some "", location := .unknown,
        ancestry := ["Game.Hero<T>", "global::UnityEngine.MonoBehaviour"],
        members := [⟨"Update", 0⟩, ⟨"Awake", 1⟩] }
    Declaration.sample.SameOutline EmitOptions.standard moved ∧
      ∃ part another, (Config.standard.generate .sample .empty).1 = .ok (some part) ∧
        (Config.standard.generate moved .empty).1 = .ok (some another) ∧
        part.hintName = another.hintName ∧ part.text = another.text ∧
        part.digest = another.digest := by
  intro moved
  have hsame : Declaration.sample.SameOutline EmitOptions.standard moved :=
    ⟨rfl, rfl, rfl, rfl, by decide⟩
  obtain ⟨part, hpart⟩ := exists_part_of_run Config.standard .sample (by decide +kernel)
  obtain ⟨another, hanother⟩ := exists_part_of_run Config.standard moved (by decide +kernel)
  exact ⟨hsame, part, another, hpart, hanother, part_eq_of_sameOutline hsame hpart hanother⟩

end Config

end Companion
