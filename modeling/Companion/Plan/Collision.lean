import Companion.Plan
import Companion.Diagnostic.Sink

/-! # Name collisions

A planned property collides if the identifier it denotes is taken: by an earlier property, by the
enclosing type, by a member that the author wrote, or by a generated method. `Plan.collisions`
reports each such property once, for the first of these reasons. -/

namespace Companion

open Identifier

/-- Why the name of a property is taken, as `Collision.find?` finds it. -/
inductive Collision
  /-- By the property of an earlier attribute, given by its number. -/
  | repeated (first : Nat)
  /-- By the enclosing type. -/
  | enclosingType
  /-- By a member that the author wrote. -/
  | member
  /-- By a generated method: `populateMethod` or `lifecycleHook`. -/
  | generatedMethod
  deriving DecidableEq, Repr

namespace Collision

/-- What the message about a collision says, of the name of the property and that of its type. -/
def message (collision : Collision) (property typeName : String) : String :=
  match collision with
  | .repeated _ => s!"property '{property}' is generated more than once for '{typeName}'"
  | .enclosingType =>
    s!"property '{property}' has the same name as its enclosing type '{typeName}'"
  | .member => s!"property '{property}' conflicts with a member declared on '{typeName}'"
  | .generatedMethod => s!"property '{property}' conflicts with a generated method on '{typeName}'"

/-- The remark of a collision that names the attributes involved, by their numbers. -/
def remark (collision : Collision) (property : PlannedProperty) : String :=
  match collision with
  | .repeated first =>
    s!"attribute #{first} and attribute #{property.position} both produce '{property.name}'"
  | _ => s!"produced by attribute #{property.position}"

/-- The collision of a bare property name, if it is taken, in the order of the constructors of
`Collision`. `seen` holds the bare names of the earlier properties with the number of the first
attribute of each. -/
def find? (emit : EmitOptions) (declaration : Declaration) (seen : List (String × Nat))
    (key : String) : Option Collision :=
  match seen.find? (·.1 == key) with
  | some entry => some (.repeated entry.2)
  | none =>
    if key = bare declaration.name then some .enclosingType
    else if declaration.members.any fun member => bare member.name == key then some .member
    else if key = emit.populateMethod ∨ key = emit.lifecycleHook then some .generatedMethod
    else none

/-- The diagnostic `duplicateProperty` that reports a collision, with its `message` and its
`remark`. -/
def diagnostic (severity : Severity) (declaration : Declaration) (property : PlannedProperty)
    (collision : Collision) : Diagnostic :=
  ((Diagnostic.plain severity .duplicateProperty declaration.qualifiedName
      (collision.message property.name declaration.displayName) declaration.location).withNote
    (collision.remark property)).withHelp "give the attribute a distinct property name"

end Collision

/-- The severity at which collisions are reported, if they are: none at the level `allow`. -/
def CollisionLevel.severity? : CollisionLevel → Option Severity
  | .error => some .error
  | .warning => some .warning
  | .allow => none

namespace Plan

/-- The names seen after a property: its bare name and its number are put to `seen`, unless an
earlier property has the name. -/
def remember (seen : List (String × Nat)) (property : PlannedProperty) : List (String × Nat) :=
  let key := bare property.name
  if seen.any (·.1 == key) then seen else (key, property.position) :: seen

/-- The properties of a list that collide, each with the reason that `Collision.find?` gives; the
bare names before it are those that `remember` has kept. -/
def collisionsAfter (emit : EmitOptions) (declaration : Declaration) :
    (seen : List (String × Nat)) → List PlannedProperty → List (PlannedProperty × Collision)
  | _, [] => []
  | seen, property :: rest =>
    let others := collisionsAfter emit declaration (remember seen property) rest
    match Collision.find? emit declaration seen (bare property.name) with
    | some collision => (property, collision) :: others
    | none => others

/-- The properties of a plan that collide, each with the reason: `collisionsAfter` where none is
seen before. -/
def collisions (plan : Plan) (emit : EmitOptions) (declaration : Declaration) :
    List (PlannedProperty × Collision) :=
  collisionsAfter emit declaration [] plan.properties

/-- Reports the `collisions` of a plan at the severity of `checks.propertyCollisions`, and says
whether one of them is an error. -/
def checkCollisions (config : Config) (declaration : Declaration) (plan : Plan) (sink : Sink) :
    Bool × Sink :=
  match config.checks.propertyCollisions.severity? with
  | none => (false, sink)
  | some severity =>
    let found := plan.collisions config.emit declaration
    (!found.isEmpty && severity.isError,
      sink.emitAll (found.map fun (property, collision) =>
        collision.diagnostic severity declaration property))

end Plan

end Companion
