import Companion.Descriptor

/-! # Plans

What a generated part will declare: one property per descriptor, with the regions in which its
component is looked for, and the component types that the object itself must have. -/

namespace Companion

/-- A property of a generated part, as `PlannedProperty.ofDescriptor` makes it of what an attribute
asks for. -/
structure PlannedProperty where
  /-- The name. -/
  name : String
  /-- The component type. -/
  dependency : TypeRef
  /-- The regions in which the component is looked for, in order: the `lookups` of the scope. -/
  steps : List Region
  /-- Whether the component must be found. -/
  required : Bool
  /-- The number of the attribute that asks for it. -/
  position : Nat

/-- The content of a generated part, which `Plan.ofDescriptors` makes of what the attributes ask
for. -/
structure Plan where
  /-- The properties, in the order of the attributes: one per `Descriptor`. -/
  properties : List PlannedProperty
  /-- The component types that the object itself must have, each once. -/
  constraints : List TypeRef

namespace SearchScope

/-- The regions in which a component is looked for, in order, by the three bits of the scope that
stand for regions. -/
def lookupTable : Vector (List Region) 8 := #v[
  [],
  [.self],
  [.children],
  [.self, .children],
  [.parent],
  [.self, .parent],
  [.children, .parent],
  [.self, .children, .parent]]

/-- The three low bits of a word are the index of a row of `lookupTable`. -/
theorem toNat_and_seven_lt (bits : UInt32) : (bits &&& 0b111).toNat < 8 := by
  have hlow : (bits &&& 0b111).toNat = bits.toNat % 8 := toNat_and_all bits
  omega

/-- The regions in which a component of a scope is looked for: the row of `lookupTable` at the three
low bits of the word. -/
def lookups (scope : SearchScope) : List Region :=
  lookupTable.get ⟨(scope.bits &&& 0b111).toNat, toNat_and_seven_lt scope.bits⟩

/-- Whether a scope `contains` a region is a matter of its three low bits. -/
theorem contains_and_seven (bits : UInt32) (region : Region) :
    contains ⟨bits &&& 0b111⟩ region = contains ⟨bits⟩ region := by
  have hbit : 0b111 &&& region.bit = region.bit := by cases region <;> decide
  rw [contains, contains, UInt32.and_assoc, hbit]

/-- The table of lookups lists the `regions` of each scope: those that it `contains`, in the order
of `Region.all`. -/
theorem lookups_eq_regions (scope : SearchScope) : scope.lookups = scope.regions := by
  have hrow : ∀ row : Fin 8, lookupTable.get row = regions ⟨row.val.toUInt32⟩ := by decide
  have hlow : regions ⟨scope.bits &&& 0b111⟩ = scope.regions := by
    rw [regions, regions, funext (contains_and_seven scope.bits)]
  rw [lookups, hrow, ← hlow]
  simp

end SearchScope

namespace PlannedProperty

/-- The property that a descriptor asks for, with the number `position` of its attribute: it has the
`resolvedName`, and its component is looked for in the `lookups` of the scope. -/
def ofDescriptor (position : Nat) (descriptor : Descriptor) : PlannedProperty where
  name := descriptor.resolvedName
  dependency := descriptor.dependency
  steps := descriptor.scope.lookups
  required := descriptor.required
  position := position

/-- The properties `ofDescriptor` of descriptors that are numbered from `position` on. -/
def ofDescriptorsFrom (position : Nat) : List Descriptor → List PlannedProperty
  | [] => []
  | descriptor :: rest =>
    ofDescriptor position descriptor :: ofDescriptorsFrom (position + 1) rest

end PlannedProperty

namespace Plan

/-- Whether a descriptor demands its component on the object itself: it is required, and its scope
`contains` the object. -/
def demandsOnSelf (descriptor : Descriptor) : Bool :=
  descriptor.required && descriptor.scope.contains .self

/-- The component types of the descriptors that `demandsOnSelf`, each spelling `TypeRef.qualified`
once; `seen` holds the spellings of those that are demanded already. -/
def constraintsAfter (seen : List String) : List Descriptor → List TypeRef
  | [] => []
  | descriptor :: rest =>
    let spelling := descriptor.dependency.qualified
    if demandsOnSelf descriptor && !seen.contains spelling then
      descriptor.dependency :: constraintsAfter (spelling :: seen) rest
    else constraintsAfter seen rest

/-- The plan of a list of descriptors: `ofDescriptorsFrom 1` are its properties and
`constraintsAfter []` its constraints. -/
def ofDescriptors (descriptors : List Descriptor) : Plan :=
  ⟨PlannedProperty.ofDescriptorsFrom 1 descriptors, constraintsAfter [] descriptors⟩

/-- Whether a plan has nothing to generate. -/
def isEmpty (plan : Plan) : Bool := plan.properties.isEmpty

/-- The first property of a name, if a plan has one. -/
def property? (plan : Plan) (name : String) : Option PlannedProperty :=
  plan.properties.find? (·.name == name)

end Plan

end Companion
