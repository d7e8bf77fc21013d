import Companion.Config.Json
import Companion.Generation.Trial
import Companion.Proofs.Decoding
import Mathlib.Data.Nat.Bitwise

/-! # Reading what was written

Whatever is written as a JSON value reads as itself, be its keys in the order in which they are
written or sorted: references of any nesting (`TypeRef.readsAs`), declarations
(`Declaration.readsAs`) and configurations (`Config.readsAs_ofTree`), as far as their numbers fit
the types of the format. A list of region names reads as the union of its regions, or its first
unknown name is refused. `readsAs_toJson` puts these together. -/

namespace Companion

open Json (ReadsAs Fills Shape.Lawful)

/-! ## References -/

namespace TypeRef

theorem shape_lawful (argument : Json → Decoded TypeRef) : (shape argument).Lawful where
  distinct := by simp [shape]
  commute := by simp [shape]

/-- The reader of `shape` reads only values of smaller depth as type arguments, so two readers that
agree on those give the same structure. -/
theorem read_shape_congr {first second : Json → Decoded TypeRef} {value : Json}
    (hequal : ∀ child : Json, child.depth < value.depth → first child = second child) :
    (shape first).read .json value = (shape second).read .json value := by
  -- the arguments are the items of a part, two steps inside the value
  have harguments : ∀ child ∈ value.children,
      Json.asList second child = Json.asList first child := by
    intro child hchild
    refine Json.asList_congr fun item hitem => (hequal item ?_).symm
    exact (Json.depth_lt_of_mem_children hitem).trans (Json.depth_lt_of_mem_children hchild)
  have hfields : List.Forall₂ (Json.Field.AgreeOn value.children) (shape second).fields
      (shape first).fields :=
    .cons (.refl _ _) (.cons (.refl _ _) (.cons (.refl _ _) (.cons (.of_read harguments) .nil)))
  exact Json.Shape.read_congr hfields .json

/-- A bound on the depth that is great enough does not matter for `ofJsonWithin`. -/
theorem ofJsonWithin_eq {first second : Nat} {value : Json} (hfirst : value.depth ≤ first)
    (hsecond : value.depth ≤ second) : ofJsonWithin first value = ofJsonWithin second value := by
  have hpos := value.depth_pos
  -- both bounds go down together, and never faster than the depth of the parts
  induction first generalizing second value with
  | zero => exact absurd (hpos.trans_le hfirst) (lt_irrefl 0)
  | succ first ih =>
    cases second with
    | zero => exact absurd (hpos.trans_le hsecond) (lt_irrefl 0)
    | succ second =>
      rw [ofJsonWithin, ofJsonWithin]
      refine read_shape_congr fun child hchild => ih ?_ ?_ child.depth_pos
      · exact Nat.le_of_lt_succ (hchild.trans_le hfirst)
      · exact Nat.le_of_lt_succ (hchild.trans_le hsecond)

/-- The function `ofJson` reads a structure whose type arguments are read by `ofJson`: the bound on
the depth is out of sight. -/
theorem ofJson_eq_read (value : Json) : ofJson value = (shape ofJson).read .json value := by
  obtain ⟨depth, hdepth⟩ := Nat.exists_eq_add_one_of_ne_zero value.depth_pos.ne'
  rw [ofJson, hdepth, ofJsonWithin]
  refine read_shape_congr fun child hchild => ofJsonWithin_eq ?_ (le_refl _)
  exact Nat.le_of_lt_succ (hchild.trans_eq hdepth)

mutual

/-- A reference of any nesting reads as itself: `ofJson` undoes `toJson`, by recursion over the
reference and its arguments. -/
theorem readsAs : (reference : TypeRef) → ReadsAs ofJson reference.toJson reference
  | ⟨namespaceName, containing, name, arguments⟩ => by
    -- reading is unfolded once, so that the arguments are read by the same function
    have hfills : Fills (shape ofJson).fields
        [.ofOption (namespaceName.map .string), .strings containing, .string name,
          .array (argumentsToJson arguments)]
        (shape ofJson).blank ⟨namespaceName, containing, name, arguments⟩ :=
      .cons (Json.readsAs_optionalString namespaceName) (.cons (Json.readsAs_strings containing)
        (.cons (Json.readsAs_string name) (.cons (readsAs_arguments arguments) .nil)))
    rw [toJson, funext ofJson_eq_read]
    exact Json.readsAs_object (shape_lawful ofJson) hfills .json

/-- The type arguments `argumentsToJson` writes read as themselves, one by one. -/
theorem readsAs_arguments : (arguments : List TypeRef) →
    ReadsAs (Json.asList ofJson) (.array (argumentsToJson arguments)) arguments
  | [] => Json.readsAs_nil
  | argument :: rest => (readsAs argument).cons (readsAs_arguments rest)

end

end TypeRef

/-! ## Declarations -/

namespace AttributeValue

/-- An integer argument fits if it has 64 bits; the other kinds always do. -/
def Fits : AttributeValue → Prop
  | .integer value => Json.minInt64 ≤ value ∧ value ≤ Json.maxInt64
  | _ => True

/-- An argument is read by its kind: the name under `kind` picks the reader `ofKind` of the value.
-/
theorem ofJson_tagged {name : String} {kind : Kind} (value : Json)
    (hkind : kinds.find? (·.1 == name) = some (name, kind)) :
    ofJson (.object [("kind", .string name), ("value", value)]) = ofKind kind value := by
  have hentry : kindOfEntry (.string name) = .ok kind :=
    (Json.readsAs_variant .json hkind).written
  simp [ofJson, onlyEntry, valueBeforeKind?, hentry, Bind.bind, Except.bind]

theorem readsAs_tagged {name : String} {kind : Kind} {value : Json} {argument : AttributeValue}
    (hkind : kinds.find? (·.1 == name) = some (name, kind))
    (hvalue : ReadsAs (ofKind kind) value argument) :
    ReadsAs ofJson (.object [("kind", .string name), ("value", value)]) argument := by
  constructor
  · rw [ofJson_tagged value hkind]
    exact hvalue.written
  · have hless : "kind" < "value" := by decide
    have hsorted : [("kind", Json.string name), ("value", value)].Pairwise
        fun first second => first.1 < second.1 :=
      List.pairwise_pair.mpr hless
    rw [Json.canonical_object_of_sorted hsorted]
    exact (ofJson_tagged value.canonical hkind).trans hvalue.sorted

/-- An argument of each kind reads as itself, if an integer `Fits`. -/
theorem readsAs {argument : AttributeValue} (hfits : argument.Fits) :
    ReadsAs ofJson argument.toJson argument := by
  cases argument with
  | type reference =>
    have hvalue := (TypeRef.readsAs reference).map AttributeValue.type
    exact readsAs_tagged rfl hvalue
  | string value =>
    have hvalue := (Json.readsAs_string value).map AttributeValue.string
    exact readsAs_tagged rfl hvalue
  | bool value =>
    have hvalue := (Json.readsAs_bool value).map AttributeValue.bool
    exact readsAs_tagged rfl hvalue
  | integer value =>
    have hvalue := (Json.readsAs_integer "i64" hfits.1 hfits.2).map AttributeValue.integer
    exact readsAs_tagged rfl hvalue
  | null =>
    -- the null constant has no value: its object has one key, and nothing to sort
    exact ⟨rfl, rfl⟩
  | unbound reason =>
    have hvalue := (Json.readsAs_string reason).map AttributeValue.unbound
    exact readsAs_tagged rfl hvalue

end AttributeValue

namespace Attribute

/-- All arguments of an attribute fit, positional and named ones. -/
structure Fits (attr : Attribute) : Prop where
  positional : ∀ argument ∈ attr.positional, argument.Fits
  named : ∀ entry ∈ attr.named.entries, entry.2.Fits

theorem fits_ofType (dependency : TypeRef) : (ofType dependency).Fits :=
  ⟨List.forall_mem_singleton.mpr trivial, fun _ hmem => absurd hmem List.not_mem_nil⟩

theorem Fits.withNamed {attr : Attribute} (hfits : attr.Fits) (name : String)
    (argument : AttributeValue) (hargument : argument.Fits) :
    (attr.withNamed name argument).Fits where
  positional := hfits.positional
  named entry hmem := by
    rcases Dictionary.mem_insertEntry hmem with rfl | hold
    · exact hargument
    · exact hfits.named entry hold

theorem shape_lawful : shape.Lawful where
  distinct := by simp [shape]
  commute := by simp [shape]

theorem readsAs {attr : Attribute} (hfits : attr.Fits) : ReadsAs ofJson attr.toJson attr := by
  have hfills : Fills shape.fields
      [.array (attr.positional.map AttributeValue.toJson),
        .object (attr.named.entries.map fun entry => (entry.1, entry.2.toJson))]
      shape.blank attr :=
    .cons (Json.readsAs_list fun argument hmem => AttributeValue.readsAs
        (hfits.positional argument hmem))
      (.cons (Json.readsAs_dictionary fun entry hmem => AttributeValue.readsAs
        (hfits.named entry hmem)) .nil)
  exact Json.readsAs_object shape_lawful hfills .json

end Attribute

namespace Member

/-- The number of parameters has 64 bits, without a sign. -/
def Fits (member : Member) : Prop := member.arity ≤ 0xFFFFFFFFFFFFFFFF

theorem shape_lawful : shape.Lawful where
  distinct := by simp [shape]
  commute := by simp [shape]

theorem readsAs {member : Member} (hfits : member.Fits) :
    ReadsAs ofJson member.toJson member := by
  have hfills : Fills shape.fields [.string member.name, .integer member.arity] shape.blank
      member :=
    .cons (Json.readsAs_string member.name) (.cons (Json.readsAs_natural "usize" hfits) .nil)
  exact Json.readsAs_object shape_lawful hfills .json

end Member

namespace Location

/-- The numbers of a location have 32 bits, without a sign. -/
structure Fits (location : Location) : Prop where
  line : location.line ≤ 0xFFFFFFFF
  column : location.column ≤ 0xFFFFFFFF
  length : location.length ≤ 0xFFFFFFFF

theorem shape_lawful : shape.Lawful where
  distinct := by simp [shape]
  commute := by simp [shape]

theorem readsAs {location : Location} (hfits : location.Fits) :
    ReadsAs ofJson location.toJson location := by
  have hfills : Fills shape.fields
      [.string location.file.text, .integer location.line, .integer location.column,
        .integer location.length]
      shape.blank location :=
    .cons (Json.readsAs_text "path string" location.file.text)
      (.cons (Json.readsAs_natural "u32" hfits.line)
        (.cons (Json.readsAs_natural "u32" hfits.column)
          (.cons (Json.readsAs_natural "u32" hfits.length) .nil)))
  exact Json.readsAs_object shape_lawful hfills .json

end Location

namespace Declaration

/-- The numbers of a declaration fit the types of the format. -/
structure Fits (declaration : Declaration) : Prop where
  members : ∀ member ∈ declaration.members, member.Fits
  attributes : ∀ attr ∈ declaration.attributes, attr.Fits
  location : declaration.location.Fits

theorem shape_lawful : shape.Lawful where
  distinct := by simp [shape]
  commute := by simp [shape]

theorem readsAs {declaration : Declaration} (hfits : declaration.Fits) :
    ReadsAs ofJson declaration.toJson declaration := by
  have hmembers := Json.readsAs_list fun member hmem => Member.readsAs (hfits.members member hmem)
  have hattributes :=
    Json.readsAs_list fun attr hmem => Attribute.readsAs (hfits.attributes attr hmem)
  have hfills : Fills shape.fields
      [.string declaration.name, .ofOption (declaration.namespaceName.map .string),
        .strings declaration.typeParameters, .bool declaration.isPartial,
        .strings declaration.ancestry, .array (declaration.members.map Member.toJson),
        .array (declaration.attributes.map Attribute.toJson), declaration.location.toJson]
      shape.blank declaration :=
    .cons (Json.readsAs_string _) (.cons (Json.readsAs_optionalString _)
      (.cons (Json.readsAs_strings _) (.cons (Json.readsAs_bool _)
        (.cons (Json.readsAs_strings _) (.cons hmembers (.cons hattributes
          (.cons (Location.readsAs hfits.location) .nil)))))))
  exact Json.readsAs_object shape_lawful hfills .json

end Declaration

/-! ## Search scopes -/

/-- The place of a region's bit in the word of a scope: `Region.bit` is two to this power. -/
def Region.place : Region → Nat
  | .self => 0
  | .children => 1
  | .parent => 2

theorem Region.toNat_bit (region : Region) : region.bit.toNat = 2 ^ region.place := by
  cases region <;> rfl

theorem Region.place_inj {first second : Region} : first.place = second.place ↔ first = second := by
  cases first <;> cases second <;> decide

namespace SearchScope

/-- The union of the flags `Region.bit` of several regions. -/
def ofRegions (regions : List Region) : SearchScope :=
  ⟨(regions.map Region.bit).foldr (· ||| ·) 0⟩

theorem contains_eq_testBit (scope : SearchScope) (region : Region) :
    scope.contains region = scope.bits.toNat.testBit region.place := by
  rw [Bool.eq_iff_iff, contains, beq_iff_eq, ← UInt32.toNat_inj, UInt32.toNat_and,
    Region.toNat_bit, Nat.and_two_pow]
  cases scope.bits.toNat.testBit region.place with
  | false => simp [(Nat.two_pow_pos region.place).ne]
  | true => simp

/-- A region belongs to `ofRegions` of several exactly if it is one of them. -/
theorem contains_ofRegions (regions : List Region) (region : Region) :
    (ofRegions regions).contains region = decide (region ∈ regions) := by
  rw [contains_eq_testBit]
  induction regions with
  | nil => simp [ofRegions]
  | cons first rest ih =>
    -- the bits of different regions stand in different places
    have hcons : (ofRegions (first :: rest)).bits = first.bit ||| (ofRegions rest).bits := rfl
    rw [hcons, UInt32.toNat_or, Nat.testBit_or, ih, Region.toNat_bit, Nat.testBit_two_pow]
    simp only [Region.place_inj, List.mem_cons, Bool.decide_or, eq_comm]

/-- A scope without unknown bits is the union of its `regions`. -/
theorem ofRegions_regions {scope : SearchScope} (hbits : scope.bits.toNat ≤ maxBits) :
    ofRegions scope.regions = scope := by
  -- there are eight such words
  have hsmall : ∀ n : Fin (maxBits + 1),
      ofRegions (regions ⟨n.val.toUInt32⟩) = ⟨n.val.toUInt32⟩ := by
    decide
  simpa using hsmall ⟨scope.bits.toNat, Nat.lt_succ_of_le hbits⟩

theorem names_ofRegions (regions : List Region) :
    (ofRegions regions).names = (Region.all.filter (· ∈ regions)).map Region.name := by
  rw [names, SearchScope.regions, funext (contains_ofRegions regions)]

/-- The names of regions are read one after the other by `ofItems`, and their flags are joined with
those of the scope before. -/
theorem ofItems_append (regions : List Region) (items : List Json) (scope : SearchScope) :
    ofItems ((regions.map Region.name).map .string ++ items) scope
      = ofItems items (scope.union (ofRegions regions)) := by
  induction regions generalizing scope with
  | nil => simp [union, ofRegions]
  | cons region rest ih =>
    have hunion : (scope.union (only region)).union (ofRegions rest)
        = scope.union (ofRegions (region :: rest)) := by
      simp only [union, only, ofRegions, List.map_cons, List.foldr_cons, UInt32.or_assoc]
    rw [← hunion, ← ih]
    simp only [List.map_cons, List.cons_append, ofItems, Json.asString, Json.asText,
      Region.ofName?_name, Bind.bind, Except.bind]

theorem ofJson_regions (regions : List Region) :
    ofJson (.strings (regions.map Region.name)) = .ok (ofRegions regions) := by
  have hitems := ofItems_append regions [] empty
  rw [List.append_nil] at hitems
  rw [Json.strings, ofJson, hitems]
  simp [ofItems, union, empty]

/-- The first name that `Region.ofName?` does not know is refused as `unknownScope`, whatever
follows it. -/
theorem ofJson_unknown (regions : List Region) {unknown : String}
    (hunknown : Region.ofName? unknown = none) (rest : List String) :
    ofJson (.strings (regions.map Region.name ++ unknown :: rest))
      = .error (.unknownScope unknown) := by
  rw [Json.strings, List.map_append, ofJson, ofItems_append, List.map_cons]
  simp only [ofItems, Json.asString, Json.asText, hunknown, Bind.bind, Except.bind]

theorem canonical_strings (texts : List String) :
    (Json.strings texts).canonical = .strings texts := by
  rw [Json.strings, Json.canonical_array, List.map_map]
  rfl

/-- A scope without unknown bits reads as itself: the names of its regions give their flags back. -/
theorem readsAs {scope : SearchScope} (hbits : scope.bits.toNat ≤ maxBits) :
    ReadsAs ofJson scope.toJson scope := by
  have hread : ofJson scope.toJson = .ok scope := by
    rw [toJson, names, ofJson_regions, ofRegions_regions hbits]
  refine ⟨hread, ?_⟩
  rw [toJson, canonical_strings]
  exact hread

end SearchScope

namespace Region

theorem ofName?_eq_none_iff {name : String} : ofName? name = none ↔ name ∉ all.map Region.name := by
  simp [ofName?]

/-- Names all of which belong to regions are the names of a list of regions. -/
theorem exists_map_name {names : List String}
    (hnames : ∀ name ∈ names, name ∈ all.map Region.name) :
    ∃ regions : List Region, regions.map Region.name = names := by
  induction names with
  | nil => exact ⟨[], rfl⟩
  | cons name rest ih =>
    rw [List.forall_mem_cons] at hnames
    obtain ⟨region, -, rfl⟩ := List.mem_map.mp hnames.1
    obtain ⟨regions, rfl⟩ := ih hnames.2
    exact ⟨region :: regions, rfl⟩

end Region

/-! ## Configurations -/

theorem CollisionLevel.readsAs (dialect : Json.Dialect) (level : CollisionLevel) :
    ReadsAs (Json.asVariant dialect names) (.string level.name) level := by
  cases level <;> exact Json.readsAs_variant dialect rfl

theorem AttributeDefaults.shape_lawful : shape.Lawful where
  distinct := by simp [shape]
  commute := by simp [shape]

theorem AttributeDefaults.fills {defaults : AttributeDefaults}
    (hscope : defaults.searchScope.bits.toNat ≤ SearchScope.maxBits) :
    Fills shape.fields [.bool defaults.required, defaults.searchScope.toJson] shape.blank
      defaults :=
  .cons (Json.readsAs_bool _) (.cons (SearchScope.readsAs hscope) .nil)

theorem RuntimeNames.shape_lawful : shape.Lawful where
  distinct := by simp [shape]
  commute := by simp [shape]

theorem RuntimeNames.fills (names : RuntimeNames) :
    Fills shape.fields
      [.string names.behaviourBase, .string names.findInSelf, .string names.findInChildren,
        .string names.findInParent, .string names.requireAttribute, .string names.missingException]
      shape.blank names :=
  .cons (Json.readsAs_string _) (.cons (Json.readsAs_string _) (.cons (Json.readsAs_string _)
    (.cons (Json.readsAs_string _) (.cons (Json.readsAs_string _)
      (.cons (Json.readsAs_string _) .nil)))))

theorem EmitOptions.shape_lawful : shape.Lawful where
  distinct := by simp [shape]
  commute := by simp [shape]

theorem EmitOptions.fills {emit : EmitOptions} (hindent : emit.indent ≤ 0xFFFFFFFFFFFFFFFF) :
    Fills shape.fields
      [.string emit.populateMethod, .string emit.lifecycleHook, .string emit.fileSuffix,
        .integer emit.indent]
      shape.blank emit :=
  .cons (Json.readsAs_string _) (.cons (Json.readsAs_string _) (.cons (Json.readsAs_string _)
    (.cons (Json.readsAs_natural "usize" hindent) .nil)))

theorem CheckOptions.shape_lawful (dialect : Json.Dialect) : (shape dialect).Lawful where
  distinct := by simp [shape]
  commute := by simp [shape]

theorem CheckOptions.fills (dialect : Json.Dialect) (checks : CheckOptions) :
    Fills (shape dialect).fields [.string checks.propertyCollisions.name] (shape dialect).blank
      checks :=
  .cons (CollisionLevel.readsAs dialect _) .nil

namespace Config

/-- The search scope has no unknown bits, and the indentation has 64 bits; the rest of a
configuration fits always. -/
structure Fits (config : Config) : Prop where
  searchScope : config.defaults.searchScope.bits.toNat ≤ SearchScope.maxBits
  indent : config.emit.indent ≤ 0xFFFFFFFFFFFFFFFF

theorem shape_lawful (dialect : Json.Dialect) : (shape dialect).Lawful where
  distinct := by simp [shape]
  commute := by simp [shape]

/-- A configuration reads as itself by `ofTree` in every dialect. -/
theorem readsAs_ofTree {config : Config} (hfits : config.Fits) (dialect : Json.Dialect) :
    ReadsAs (ofTree dialect) config.toJson config := by
  have hdefaults := Json.readsAs_object AttributeDefaults.shape_lawful
    (AttributeDefaults.fills hfits.searchScope) dialect
  have hruntime := Json.readsAs_object RuntimeNames.shape_lawful config.runtime.fills dialect
  have hemit := Json.readsAs_object EmitOptions.shape_lawful
    (EmitOptions.fills hfits.indent) dialect
  have hchecks := Json.readsAs_object (CheckOptions.shape_lawful dialect)
    (config.checks.fills dialect) dialect
  have hfills : Fills (shape dialect).fields _ (shape dialect).blank config :=
    .cons hdefaults (.cons hruntime (.cons hemit (.cons hchecks .nil)))
  exact Json.readsAs_object (shape_lawful dialect) hfills dialect

end Config

/-! ## The round trip -/

/-- Whatever is written reads as itself, in the sense of `ReadsAs`: by `Declaration.ofJson` every
declaration whose numbers fit, by `Config.ofJson` every configuration whose search scope has no
unknown bits and whose indentation fits. A list of names reads by `SearchScope.ofJson` as the union
of the flags of its regions, which is written with the name of each of them once, in the order of
search; or else the first name that belongs to no region is refused. -/
theorem readsAs_toJson :
    (∀ declaration : Declaration, declaration.Fits →
      ReadsAs Declaration.ofJson declaration.toJson declaration) ∧
    (∀ config : Config, config.Fits → ReadsAs Config.ofJson config.toJson config) ∧
    ∀ names : List String,
      match names.find? fun name => !(Region.all.map Region.name).contains name with
      | some unknown => SearchScope.ofJson (.strings names) = .error (.unknownScope unknown)
      | none => ∃ regions : List Region, regions.map Region.name = names ∧
          SearchScope.ofJson (.strings names) = .ok (.ofRegions regions) ∧
          (SearchScope.ofRegions regions).toJson
            = .strings ((Region.all.filter (· ∈ regions)).map Region.name) := by
  refine ⟨fun declaration hfits => Declaration.readsAs hfits,
    fun config hfits => Config.readsAs_ofTree hfits .json, fun names => ?_⟩
  split
  case h_1 unknown hfind =>
    -- the names before the unknown one are those of regions, and are read before it is refused
    rw [List.find?_eq_some_iff_append] at hfind
    obtain ⟨hunknown, known, rest, rfl, hknown⟩ := hfind
    have hnames : ∀ name ∈ known, name ∈ Region.all.map Region.name := by
      intro name hmem
      simpa using hknown name hmem
    obtain ⟨regions, rfl⟩ := Region.exists_map_name hnames
    have hnone : Region.ofName? unknown = none := by
      rw [Region.ofName?_eq_none_iff]
      simpa using hunknown
    exact SearchScope.ofJson_unknown regions hnone rest
  case h_2 hfind =>
    rw [List.find?_eq_none] at hfind
    have hnames : ∀ name ∈ names, name ∈ Region.all.map Region.name := by
      intro name hmem
      simpa using hfind name hmem
    obtain ⟨regions, rfl⟩ := Region.exists_map_name hnames
    refine ⟨regions, rfl, SearchScope.ofJson_regions regions, ?_⟩
    rw [SearchScope.toJson, SearchScope.names_ofRegions]

/-- The sample declaration and the standard configuration fit, and read as themselves. -/
theorem readsAs_toJson_sample :
    Declaration.sample.Fits ∧ Config.standard.Fits ∧
      ReadsAs Declaration.ofJson Declaration.sample.toJson .sample ∧
      ReadsAs Config.ofJson Config.standard.toJson .standard := by
  have hdeclaration : Declaration.sample.Fits := by
    refine ⟨fun _ hmem => absurd hmem List.not_mem_nil, ?_, ⟨by decide, by decide, by decide⟩⟩
    refine List.forall_mem_cons.mpr ⟨?_, List.forall_mem_singleton.mpr ?_⟩
    · exact (Attribute.fits_ofType _).withNamed Attribute.propertyNameKey (.string "rb") trivial
    · have hnamed := (Attribute.fits_ofType (.named none "SampleComponent")).withNamed
        Attribute.propertyNameKey (.string "sample") trivial
      have hscoped := hnamed.withNamed Attribute.searchScopeKey
        (.integer (SearchScope.only .children).bits.toNat) ⟨by decide, by decide⟩
      exact hscoped.withNamed Attribute.isRequiredKey (.bool false) trivial
  have hconfig : Config.standard.Fits := ⟨by decide, by decide⟩
  exact ⟨hdeclaration, hconfig, readsAs_toJson.1 _ hdeclaration, readsAs_toJson.2.1 _ hconfig⟩

end Companion
