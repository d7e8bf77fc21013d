import Companion.Plan
import Companion.Part.Layout
import Companion.Digest

/-! # Companion parts

The second half of a partial type, generated from a plan: a property for each component, a method
that fills the properties, and the runtime's hook that calls it, unless the author wrote that hook.
A `Part` is the text with the name of its file and its digest. -/

namespace Companion

/-- A generated part, as `Part.ofPlan` makes it: a file to be written. -/
structure Part where
  /-- The name of the file: `Part.hintNameOf` the declaration. -/
  hintName : String
  /-- The text. -/
  text : String
  /-- The digest of the text: `Digest.ofText`. -/
  digest : Digest
  deriving DecidableEq

namespace PlannedProperty

open Layout

/-- The declaration of a property, private and of the type `TypeRef.qualified`. -/
def declarationLine (property : PlannedProperty) : String :=
  "private " ++ property.dependency.qualified ++ " " ++ property.name ++ " \x7b get; set; \x7d"

/-- The assignment that a lookup makes, with the method `RuntimeNames.lookup` of the region. -/
def assignment (runtime : RuntimeNames) (property : PlannedProperty) (region : Region) : String :=
  property.name ++ " = this." ++ runtime.lookup region ++ "<" ++ property.dependency.qualified
    ++ ">();"

/-- The test that a property is still empty. -/
def emptyTest (property : PlannedProperty) : String := "if (" ++ property.name ++ " == null) "

/-- The lookups of a property in the regions of its `steps`: the first is made always, the others
only after an `emptyTest`. -/
def lookupLines (runtime : RuntimeNames) (property : PlannedProperty) : List String :=
  match property.steps with
  | [] => []
  | first :: others =>
    property.assignment runtime first ::
      others.map fun region => property.emptyTest ++ property.assignment runtime region

/-- The failure of a required property that is still empty: after an `emptyTest` the
`missingException` is thrown. -/
def failureLines (runtime : RuntimeNames) (property : PlannedProperty) : List String :=
  if property.required then
    [property.emptyTest ++ "throw new " ++ runtime.missingException ++ "();"]
  else []

/-- The statements that fill a property: it is emptied, and then there are its `lookupLines` and
`failureLines`. -/
def populationLines (runtime : RuntimeNames) (property : PlannedProperty) : List String :=
  (property.name ++ " = null;") ::
    (property.lookupLines runtime ++ property.failureLines runtime)

end PlannedProperty

namespace Part

open Layout

/-- The name of the file of a declaration's part: the `TypeName.fileStem` of the qualified name and
the `fileSuffix`. -/
def hintNameOf (emit : EmitOptions) (declaration : Declaration) : String :=
  TypeName.fileStem declaration.qualifiedName ++ "." ++ emit.fileSuffix

/-- Steps between braces: after `openBlock` and before `closeBlock`. -/
def block (steps : List Step) : List Step := [.openBlock] ++ steps ++ [.closeBlock]

/-- The attributes that demand components on the object itself: a `requireAttribute` for each of the
`constraints`. -/
def constraintSteps (runtime : RuntimeNames) (plan : Plan) : List Step :=
  plan.constraints.map fun type =>
    .line ("[" ++ runtime.requireAttribute ++ "(typeof(" ++ type.qualified ++ "))]")

/-- The declarations of the properties, one `declarationLine` each, with an empty line after them if
there are any. -/
def propertySteps (plan : Plan) : List Step :=
  (plan.properties.map fun property => .line property.declarationLine)
    ++ (if plan.properties.isEmpty then [] else [.blank])

/-- The method `populateMethod`, which fills the properties: its body are the `populationLines` of
one after the other. -/
def populateSteps (config : Config) (plan : Plan) : List Step :=
  .line ("private void " ++ config.emit.populateMethod ++ "()") ::
    block (plan.properties.flatMap fun property =>
      (property.populationLines config.runtime).map .line)

/-- Whether the part declares the runtime's hook: the author wrote no method `lifecycleHook` without
parameters. -/
def declaresHook (emit : EmitOptions) (declaration : Declaration) : Bool :=
  !declaration.declares emit.lifecycleHook 0

/-- The runtime's hook, if `declaresHook`: it calls the `populateMethod`. -/
def hookSteps (emit : EmitOptions) (declaration : Declaration) : List Step :=
  if declaresHook emit declaration then
    [.blank, .line ("private void " ++ emit.lifecycleHook ++ "()")]
      ++ block [.line (emit.populateMethod ++ "();")]
  else []

/-- The part of the type itself: its `constraintSteps`, and a partial class with `propertySteps`,
`populateSteps` and `hookSteps`. -/
def typeSteps (config : Config) (declaration : Declaration) (plan : Plan) : List Step :=
  constraintSteps config.runtime plan
    ++ .line ("partial class " ++ declaration.displayName) ::
      block (propertySteps plan ++ populateSteps config plan
        ++ hookSteps config.emit declaration)

/-- The whole part: a mark for tools, and the `typeSteps` in the namespace of the type, if it has
one. -/
def steps (config : Config) (declaration : Declaration) (plan : Plan) : List Step :=
  [.line "// <auto-generated/>", .blank] ++
    match declaration.properNamespace? with
    | some name => .line ("namespace " ++ name) :: block (typeSteps config declaration plan)
    | none => typeSteps config declaration plan

/-- The part with a given text: `Digest.ofText` of the text is its digest. -/
def ofText (hintName text : String) : Part := ⟨hintName, text, .ofText text⟩

/-- The part of a declaration that a plan describes: `Layout.text` of its `steps`, in a file of the
name `hintNameOf`. -/
def ofPlan (config : Config) (declaration : Declaration) (plan : Plan) : Part :=
  ofText (hintNameOf config.emit declaration)
    (Layout.text config.emit.indent (steps config declaration plan))

end Part

end Companion
