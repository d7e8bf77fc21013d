import Companion.Proofs.Contract
import Companion.Text.Bytes

/-! # Which fault of an attribute is reported

An attribute can be wrong in several ways at once. `Attribute.Violates` says, for each check by
itself, what is wrong with the arguments it looks at, and `Check.Precedes` in which order the checks
are made; the named arguments come in the order of the bytes of their keys.
`Descriptor.ofArguments_eq_error_iff` says that the cause of the first violated check is reported,
and `Declaration.descriptors_reports_firstFault` that of several wrong attributes the first one is,
whatever comes after it. The contract of attributes is that they pass all checks:
`Attribute.isAcceptable_iff_forall_passes`. -/

namespace Companion

open Identifier

namespace Text

/-! ## Keys in the order of their bytes -/

/-- Two texts are equal, or one of them is smaller. -/
theorem lt_trichotomy (first second : String) :
    first < second ∨ first = second ∨ second < first := by
  by_cases hless : first < second
  · exact .inl hless
  · by_cases hgreater : second < first
    · exact .inr (.inr hgreater)
    · exact .inr (.inl (String.le_antisymm (String.not_lt.mp hgreater) (String.not_lt.mp hless)))

/-- A smaller character has smaller bytes `String.utf8EncodeChar`, whatever follows. -/
theorem utf8EncodeChar_append_lt {c d : Char} (hless : c < d) (rest other : List UInt8) :
    String.utf8EncodeChar c ++ rest < String.utf8EncodeChar d ++ other := by
  have hcode : c.val.toNat < d.val.toNat := hless
  have hbound : d.val.toNat < 0x110000 := by
    rcases d.valid with hlow | ⟨-, hhigh⟩
    · exact Nat.lt_trans hlow (by decide)
    · exact hhigh
  rw [String.utf8EncodeChar, String.utf8EncodeChar]
  generalize c.val.toNat = code at *
  generalize d.val.toNat = larger at *
  -- the codes have one to four bytes each, and are compared as numbers byte by byte
  split_ifs <;> simp (disch := omega) only [List.cons_append, List.nil_append,
    List.cons_lt_cons_iff, UInt8.lt_iff_toNat_lt, ← UInt8.toNat_inj, UInt8.toNat_ofNat',
    Nat.mod_eq_of_lt]
  all_goals
    by_contra hnot
    simp only [not_or, not_and, Nat.not_lt] at hnot
    omega

/-- Smaller lists of characters have smaller bytes `String.utf8EncodeChar`, one by one. -/
theorem flatMap_utf8EncodeChar_lt {first second : List Char} (hless : first < second) :
    first.flatMap String.utf8EncodeChar < second.flatMap String.utf8EncodeChar := by
  induction first generalizing second with
  | nil =>
    cases second with
    | nil => exact absurd hless (List.lt_irrefl [])
    | cons d later =>
      obtain ⟨byte, bytes, hbytes⟩ := List.exists_cons_of_ne_nil String.utf8EncodeChar_ne_nil
      rw [List.flatMap_nil, List.flatMap_cons, hbytes, List.cons_append]
      exact List.nil_lt_cons byte _
  | cons c rest ih =>
    cases second with
    | nil => exact absurd hless (List.not_lt_nil _)
    | cons d later =>
      rw [List.flatMap_cons, List.flatMap_cons]
      -- the first characters differ, or they are equal and the rest decides
      rcases List.cons_lt_cons_iff.mp hless with hchar | ⟨rfl, hrest⟩
      · exact utf8EncodeChar_append_lt hchar _ _
      · exact List.append_left_lt (ih hrest)

/-- The order of texts is that of their bytes (`Text.bytes`). -/
theorem bytes_lt_iff {first second : String} : bytes first < bytes second ↔ first < second := by
  have hbytes {smaller larger : String} (hless : smaller < larger) :
      bytes smaller < bytes larger := by
    rw [bytes_eq, bytes_eq]
    exact flatMap_utf8EncodeChar_lt (String.lt_iff.mp hless)
  refine ⟨fun hless => ?_, hbytes⟩
  rcases lt_trichotomy first second with hsmaller | rfl | hgreater
  · exact hsmaller
  · exact absurd hless (List.lt_irrefl _)
  · exact absurd hless (List.lt_asymm (hbytes hgreater))

end Text

/-! ## Checks and their order -/

/-- A check of the arguments of an attribute, of which `Descriptor.ofArguments` makes one after the
other. -/
inductive Check
  /-- The number of positional arguments. -/
  | count
  /-- The component type. -/
  | dependency
  /-- The kind of the second positional argument. -/
  | positionalName
  /-- The named argument with a key. -/
  | named (key : String)
  /-- Whether the property names that are given are the same. -/
  | agreement
  /-- Whether the property name is an identifier. -/
  | propertyName

namespace Check

/-- The place of a check in the order of the checks; that of all `named` arguments is the same. -/
def rank : Check → Nat
  | count => 0
  | dependency => 1
  | positionalName => 2
  | named _ => 3
  | agreement => 4
  | propertyName => 5

/-- One check is made before another: the one of smaller `rank`, and of two `named` arguments the
one whose key has smaller bytes. -/
def Precedes : Check → Check → Prop
  | named key, named other => Text.bytes key < Text.bytes other
  | first, second => first.rank < second.rank

theorem precedes_named_named_iff {key other : String} :
    (named key).Precedes (named other) ↔ key < other :=
  Text.bytes_lt_iff

/-- Apart from the `named` arguments, the checks are made in the order of their `rank`. -/
theorem precedes_iff_rank_lt {first second : Check} (hsecond : ∀ key, second ≠ named key) :
    first.Precedes second ↔ first.rank < second.rank := by
  cases second with
  | named key => exact absurd rfl (hsecond key)
  | _ => cases first <;> rfl

/-- Apart from the `named` arguments, the `rank` determines the check. -/
theorem eq_of_rank_eq {first second : Check} (hsecond : ∀ key, second ≠ named key)
    (hrank : first.rank = second.rank) : first = second := by
  cases second with
  | named key => exact absurd rfl (hsecond key)
  | _ => cases first <;> first | rfl | cases hrank

/-- What is made before the check of a `named` argument has a smaller `rank`, or is the check of a
named argument with a smaller key. -/
theorem precedes_named_iff {first : Check} {key : String} :
    first.Precedes (named key) ↔
      first.rank < (named key).rank ∨ ∃ other, first = named other ∧ other < key := by
  cases first with
  | named other => simp [precedes_named_named_iff, rank]
  | _ => simp [Precedes]

/-- Of two checks, one `Precedes` the other. -/
theorem precedes_trichotomy (first second : Check) :
    first.Precedes second ∨ first = second ∨ second.Precedes first := by
  cases first with
  | named key =>
    cases second with
    | named other =>
      rw [precedes_named_named_iff, precedes_named_named_iff, named.injEq]
      exact Text.lt_trichotomy key other
    | _ => simp [Precedes, rank]
  | _ => cases second <;> simp [Precedes, rank]

end Check

/-! ## Violations -/

namespace AttributeValue

/-- A text, a truth value or an integer: a constant that is neither a type nor null nor `unbound`.
-/
def IsScalar : AttributeValue → Prop
  | .string _ | .bool _ | .integer _ => True
  | .type _ | .null | .unbound _ => False

/-- An integer, whether its bits stand for regions or not. -/
def IsInteger (value : AttributeValue) : Prop := ∃ raw, value = .integer raw

end AttributeValue

namespace Attribute

/-- A named argument that attributes may not have, with the reason: the opposite of
`Attribute.Allows`. -/
inductive Forbids : String → AttributeValue → ExtractionCause → Prop
  /-- Attributes have no argument with the key. -/
  | unknown {key : String} {value : AttributeValue} (hkey : ¬ IsKnown key) :
    Forbids key value (.unknownArgument key)
  /-- It is no property name. -/
  | nameKind {value : AttributeValue} (hkind : ¬ value.IsName) :
    Forbids propertyNameKey value (.argumentKind propertyNameKey value.kindName "a string")
  /-- It is no integer. -/
  | scopeKind {value : AttributeValue} (hkind : ¬ value.IsInteger) :
    Forbids searchScopeKey value (.argumentKind searchScopeKey value.kindName "an integer")
  /-- It has bits that stand for no region. -/
  | scopeBits {raw : Int} (hbits : raw < 0 ∨ 7 < raw) :
    Forbids searchScopeKey (.integer raw) (.invalidSearchScope raw)
  /-- It has no such bits, and of the three that stand for regions none is set. -/
  | scopeEmpty {raw : Int} (hbits : ¬ (raw < 0 ∨ 7 < raw)) (hregions : raw % 8 = 0) :
    Forbids searchScopeKey (.integer raw) .emptySearchScope
  /-- It is no truth value. -/
  | requiredKind {value : AttributeValue} (hkind : ¬ value.IsFlag) :
    Forbids isRequiredKey value (.argumentKind isRequiredKey value.kindName "a bool")

/-- An attribute violates a check, by itself and whatever the other checks say, with the cause. This
is said of the arguments, not of how `Descriptor.ofArguments` reads them. -/
inductive Violates (attr : Attribute) : Check → ExtractionCause → Prop
  /-- There are more than two positional arguments. -/
  | tooMany (hcount : 2 < attr.positional.length) :
    Violates attr .count (.tooManyArguments attr.positional.length)
  /-- There is no component type. -/
  | missing (hfirst : attr.positional[0]? = none) : Violates attr .dependency .missingTargetType
  /-- The null constant stands in its place. -/
  | null (hfirst : attr.positional[0]? = some .null) : Violates attr .dependency .missingTargetType
  /-- A constant of another kind stands in its place. -/
  | notAType {value : AttributeValue} (hfirst : attr.positional[0]? = some value)
    (hkind : value.IsScalar) : Violates attr .dependency (.targetNotAType value.kindName)
  /-- The component type does not exist. -/
  | unbound {reason : String} (hfirst : attr.positional[0]? = some (.unbound reason)) :
    Violates attr .dependency (.unresolvedTargetType reason)
  /-- A name in the component type is no identifier. -/
  | misspelled {type : TypeRef} {name : String} (hfirst : attr.positional[0]? = some (.type type))
    (hmentions : type.Mentions name) (hname : isIdentifier name = false) :
    Violates attr .dependency
      (.unresolvedTargetType s!"'{type.qualified}' is not a valid type name")
  /-- The second positional argument is no property name. -/
  | positionalName {value : AttributeValue} (hsecond : attr.positional[1]? = some value)
    (hkind : ¬ value.IsName) :
    Violates attr .positionalName (.argumentKind "propertyName" value.kindName "a string")
  /-- A named argument may not be given. -/
  | named {key : String} {value : AttributeValue} {cause : ExtractionCause}
    (hgiven : attr.named.get? key = some value) (hforbids : Forbids key value cause) :
    Violates attr (.named key) cause
  /-- Two different property names are given. -/
  | conflict {positional named : String}
    (hsecond : attr.positional[1]? = some (.string positional))
    (hgiven : attr.named.get? propertyNameKey = some (.string named))
    (hdiffer : positional ≠ named) :
    Violates attr .agreement (.conflictingPropertyName positional named)
  /-- The property name is no identifier. -/
  | propertyName {name : String} (hgiven : attr.givenName = some name)
    (hname : isIdentifier name = false) : Violates attr .propertyName (.invalidPropertyName name)

/-- An attribute passes a check if it does not violate it (`Violates`) with any cause. -/
def Passes (attr : Attribute) (check : Check) : Prop := ∀ cause, ¬ attr.Violates check cause

/-- The first check that an attribute violates, with the cause: it `Passes` all checks that are made
before. -/
structure IsFirstFault (attr : Attribute) (check : Check) (cause : ExtractionCause) : Prop where
  /-- It violates the check. -/
  violates : attr.Violates check cause
  /-- It passes all checks before. -/
  passes : ∀ other, other.Precedes check → attr.Passes other

end Attribute

/-- A sequence `first >>= next` fails exactly if the first step fails, or succeeds and the second
one fails. -/
theorem bind_eq_error {ε α β : Type} {first : Except ε α} {next : α → Except ε β} {cause : ε} :
    (first >>= next) = .error cause ↔
      first = .error cause ∨ ∃ value, first = .ok value ∧ next value = .error cause := by
  cases first <;> simp [Bind.bind, Except.bind]

namespace Descriptor

/-! ## Single arguments -/

theorem optionalText_eq_error_iff {argument : String} {value : AttributeValue}
    {cause : ExtractionCause} : optionalText argument value = .error cause ↔
      ¬ value.IsName ∧ .argumentKind argument value.kindName "a string" = cause := by
  cases value <;> simp [optionalText, AttributeValue.IsName]

theorem requiredOf_eq_error_iff {value : AttributeValue} {cause : ExtractionCause} :
    requiredOf value = .error cause ↔
      ¬ value.IsFlag ∧ .argumentKind Attribute.isRequiredKey value.kindName "a bool" = cause := by
  cases value <;> simp [requiredOf, AttributeValue.IsFlag]

theorem scopeOf_eq_error_iff {value : AttributeValue} {cause : ExtractionCause} :
    scopeOf value = .error cause ↔
      ¬ value.IsInteger ∧
          .argumentKind Attribute.searchScopeKey value.kindName "an integer" = cause ∨
      ∃ raw, value = .integer raw ∧
        ((raw < 0 ∨ 7 < raw) ∧ .invalidSearchScope raw = cause ∨
          ¬ (raw < 0 ∨ 7 < raw) ∧ raw % 8 = 0 ∧ .emptySearchScope = cause) := by
  cases value with
  | integer raw =>
    rw [scopeOf]
    simp only [AttributeValue.IsInteger, AttributeValue.integer.injEq, exists_eq',
      not_true_eq_false, false_and, false_or, exists_eq_left']
    cases hscope : SearchScope.ofRaw? raw with
    | none => simp [SearchScope.ofRaw?_eq_none_iff.mp hscope]
    | some scope =>
      obtain ⟨hraw, hbits⟩ := SearchScope.ofRaw?_eq_some_iff.mp hscope
      -- bits of regions only, so the one thing left to reject is a scope without any
      have hknown : ¬ (raw < 0 ∨ 7 < raw) := by omega
      have hempty : scope.isEmpty = true ↔ raw % 8 = 0 := by
        rw [SearchScope.isEmpty_iff]
        omega
      simp [hknown, hempty, ite_eq_iff]
  | _ => simp [scopeOf, AttributeValue.IsInteger]

namespace Options

variable {options result : Options} {key : String} {value : AttributeValue}
  {entries : List (String × AttributeValue)} {cause : ExtractionCause}

theorem map_eq_error {ε α β : Type} {f : α → β} {outcome : Except ε α} {cause : ε} :
    outcome.map f = .error cause ↔ outcome = .error cause := by
  cases outcome <;> simp [Except.map]

/-- A named argument is rejected by `Options.set` exactly if attributes may not have it, for the
reason that `Attribute.Forbids` it. -/
theorem set_eq_error_iff (options : Options) :
    options.set key value = .error cause ↔ Attribute.Forbids key value cause := by
  constructor
  · intro hset
    -- each known key has its own reader, which says why it fails
    by_cases hkey : Attribute.IsKnown key
    · rcases hkey with rfl | rfl | rfl
      · rw [set_propertyName, map_eq_error, optionalText_eq_error_iff] at hset
        obtain ⟨hkind, rfl⟩ := hset
        exact .nameKind hkind
      · rw [set_searchScope, map_eq_error, scopeOf_eq_error_iff] at hset
        rcases hset with ⟨hkind, rfl⟩ | ⟨raw, rfl, ⟨hbits, rfl⟩ | ⟨hbits, hregions, rfl⟩⟩
        · exact .scopeKind hkind
        · exact .scopeBits hbits
        · exact .scopeEmpty hbits hregions
      · rw [set_isRequired, map_eq_error, requiredOf_eq_error_iff] at hset
        obtain ⟨hkind, rfl⟩ := hset
        exact .requiredKind hkind
    · rw [set_of_unknown options value hkey] at hset
      cases hset
      exact .unknown hkey
  · intro hforbids
    cases hforbids with
    | unknown hkey => exact set_of_unknown options value hkey
    | nameKind hkind =>
      rw [set_propertyName, map_eq_error]
      exact optionalText_eq_error_iff.mpr ⟨hkind, rfl⟩
    | scopeKind hkind =>
      rw [set_searchScope, map_eq_error]
      exact scopeOf_eq_error_iff.mpr (.inl ⟨hkind, rfl⟩)
    | scopeBits hbits =>
      rw [set_searchScope, map_eq_error]
      exact scopeOf_eq_error_iff.mpr (.inr ⟨_, rfl, .inl ⟨hbits, rfl⟩⟩)
    | scopeEmpty hbits hregions =>
      rw [set_searchScope, map_eq_error]
      exact scopeOf_eq_error_iff.mpr (.inr ⟨_, rfl, .inr ⟨hbits, hregions, rfl⟩⟩)
    | requiredKind hkind =>
      rw [set_isRequired, map_eq_error]
      exact requiredOf_eq_error_iff.mpr ⟨hkind, rfl⟩

/-- Named arguments are rejected by `Options.setAll` for the first one that attributes may not have.
-/
theorem exists_forbids_of_setAll (hresult : options.setAll entries = .error cause) :
    ∃ front key value rest, entries = front ++ (key, value) :: rest ∧
      (∀ entry ∈ front, Attribute.Allows entry.1 entry.2) ∧ Attribute.Forbids key value cause := by
  -- the options change on the way, but not which arguments are allowed
  induction entries generalizing options with
  | nil => cases hresult
  | cons entry rest ih =>
    obtain ⟨key, value⟩ := entry
    rw [setAll] at hresult
    cases hset : options.set key value with
    | error found =>
      rw [hset] at hresult
      cases hresult
      exact ⟨[], key, value, rest, rfl, by simp, (set_eq_error_iff options).mp hset⟩
    | ok next =>
      rw [hset] at hresult
      obtain ⟨front, other, wrong, later, rfl, hfront, hforbids⟩ := ih hresult
      have hallows := (exists_set_eq_ok_iff options).mp ⟨next, hset⟩
      exact ⟨(key, value) :: front, other, wrong, later, rfl,
        List.forall_mem_cons.mpr ⟨hallows, hfront⟩, hforbids⟩

end Options

theorem mergeNames_eq_error_iff {positional named : Option String} {cause : ExtractionCause} :
    mergeNames positional named = .error cause ↔
      ∃ first second, positional = some first ∧ named = some second ∧ first ≠ second ∧
        .conflictingPropertyName first second = cause := by
  cases positional with
  | none => simp [mergeNames]
  | some first =>
    cases named with
    | none => simp [mergeNames]
    | some second => by_cases hsame : first = second <;> simp [mergeNames, hsame]

theorem checkName_eq_error_iff {name : Option String} {cause : ExtractionCause} :
    checkName name = .error cause ↔
      ∃ given, name = some given ∧ isIdentifier given = false ∧
        .invalidPropertyName given = cause := by
  cases name with
  | none => simp [checkName]
  | some given => cases hgiven : isIdentifier given <;> simp [checkName, hgiven]

end Descriptor

namespace Attribute

open Descriptor

variable {attr : Attribute} {check : Check} {cause : ExtractionCause}

/-! ## Checks one by one -/

/-- A check is decided by a step of `ofArguments` if it is violated exactly with the causes with
which this step fails. -/
def IsDecidedBy {α : Type} (attr : Attribute) (check : Check)
    (outcome : Except ExtractionCause α) : Prop :=
  ∀ cause, attr.Violates check cause ↔ outcome = .error cause

/-- A check is passed if the step that decides it (`IsDecidedBy`) succeeds. -/
theorem IsDecidedBy.passes {α : Type} {outcome : Except ExtractionCause α} {value : α}
    (hcheck : attr.IsDecidedBy check outcome) (hvalue : outcome = .ok value) :
    attr.Passes check := by
  intro cause hviolates
  rw [(hcheck cause).mp hviolates] at hvalue
  cases hvalue

/-- A step that decides a check (`IsDecidedBy`) fails with one cause only, so that the check is
violated with one only. -/
theorem IsDecidedBy.cause_unique {α : Type} {outcome : Except ExtractionCause α}
    {other : ExtractionCause} (hcheck : attr.IsDecidedBy check outcome)
    (hviolates : attr.Violates check cause) (hother : attr.Violates check other) :
    cause = other :=
  Except.error.inj (((hcheck cause).mp hviolates).symm.trans ((hcheck other).mp hother))

theorem Allows.not_forbids {key : String} {value : AttributeValue} (hallows : Allows key value) :
    ¬ Forbids key value cause := by
  intro hforbids
  cases hforbids with
  | unknown hkey => exact hkey hallows.isKnown
  | nameKind hkind => exact hkind (allows_propertyName_iff.mp hallows)
  | scopeKind hkind =>
    obtain ⟨raw, hvalue, -⟩ := allows_searchScope_iff.mp hallows
    exact hkind ⟨raw, hvalue⟩
  | scopeBits hbits =>
    obtain ⟨_, ⟨⟩, hraw⟩ := allows_searchScope_iff.mp hallows
    omega
  | scopeEmpty hbits hregions =>
    obtain ⟨_, ⟨⟩, hraw⟩ := allows_searchScope_iff.mp hallows
    omega
  | requiredKind hkind => exact hkind (allows_isRequired_iff.mp hallows)

theorem passes_count (hcount : attr.positional.length ≤ 2) : attr.Passes .count := by
  rintro _ ⟨hmany⟩
  exact Nat.not_lt.mpr hcount hmany

theorem isDecidedBy_dependency (attr : Attribute) :
    attr.IsDecidedBy .dependency (dependencyOf attr.positional[0]?) := by
  intro cause
  constructor
  · intro hviolates
    cases hviolates with
    | missing hfirst | null hfirst | unbound hfirst => rw [hfirst]; rfl
    | @notAType value hfirst hkind =>
      rw [hfirst]
      cases value <;> first | rfl | exact hkind.elim
    | @misspelled type name hfirst hmentions hname =>
      have hresolvable := TypeRef.isResolvable_eq_false_iff.mpr ⟨name, hmentions, hname⟩
      simp [hfirst, dependencyOf, hresolvable]
  · -- conversely the shape of the first argument tells which failure it is
    intro hvalue
    cases hfirst : attr.positional[0]? with
    | none =>
      rw [hfirst] at hvalue
      cases hvalue
      exact .missing hfirst
    | some value =>
      rw [hfirst] at hvalue
      cases value with
      | type type =>
        rw [dependencyOf] at hvalue
        split at hvalue
        · cases hvalue
        · rename_i hresolvable
          cases hvalue
          obtain ⟨name, hmentions, hname⟩ :=
            TypeRef.isResolvable_eq_false_iff.mp (Bool.not_eq_true _ ▸ hresolvable)
          exact .misspelled hfirst hmentions hname
      | null =>
        cases hvalue
        exact .null hfirst
      | unbound reason =>
        cases hvalue
        exact .unbound hfirst
      | _ =>
        cases hvalue
        exact .notAType hfirst trivial

theorem isDecidedBy_positionalName (attr : Attribute) :
    attr.IsDecidedBy .positionalName (Descriptor.positionalName attr.positional[1]?) := by
  intro cause
  constructor
  · intro hviolates
    cases hviolates with
    | positionalName hsecond hkind =>
      rw [hsecond]
      exact optionalText_eq_error_iff.mpr ⟨hkind, rfl⟩
  · intro hname
    cases hsecond : attr.positional[1]? with
    | none =>
      rw [hsecond] at hname
      cases hname
    | some value =>
      rw [hsecond] at hname
      obtain ⟨hkind, rfl⟩ := optionalText_eq_error_iff.mp hname
      exact .positionalName hsecond hkind

theorem violates_named_iff {key : String} : attr.Violates (.named key) cause ↔
    ∃ value, attr.named.get? key = some value ∧ Forbids key value cause := by
  constructor
  · rintro ⟨⟩
    exact ⟨_, ‹_›, ‹_›⟩
  · rintro ⟨value, hgiven, hforbids⟩
    exact .named hgiven hforbids

/-- Named arguments that `Options.setAll` takes into account pass their checks. -/
theorem passes_named_of_setAll {options result : Options}
    (hresult : options.setAll attr.named.entries = .ok result) (key : String) :
    attr.Passes (.named key) := by
  intro cause hviolates
  obtain ⟨value, hgiven, hforbids⟩ := violates_named_iff.mp hviolates
  have hallows := (Options.exists_setAll_eq_ok_iff options).mp ⟨result, hresult⟩ (key, value)
    (Dictionary.get?_eq_some_iff.mp hgiven)
  exact hallows.not_forbids hforbids

theorem isDecidedBy_agreement (attr : Attribute) :
    attr.IsDecidedBy .agreement (mergeNames (attr.positional[1]?.bind AttributeValue.text?)
      ((attr.named.get? propertyNameKey).bind AttributeValue.text?)) := by
  intro cause
  simp only [mergeNames_eq_error_iff, Option.bind_eq_some_iff, AttributeValue.text?_eq_some_iff]
  constructor
  · intro hviolates
    cases hviolates with
    | conflict hsecond hgiven hdiffer =>
      exact ⟨_, _, ⟨_, hsecond, rfl⟩, ⟨_, hgiven, rfl⟩, hdiffer, rfl⟩
  · rintro ⟨_, _, ⟨_, hsecond, rfl⟩, ⟨_, hgiven, rfl⟩, hdiffer, rfl⟩
    exact .conflict hsecond hgiven hdiffer

theorem isDecidedBy_propertyName (attr : Attribute) :
    attr.IsDecidedBy .propertyName (checkName attr.givenName) := by
  intro cause
  rw [checkName_eq_error_iff]
  constructor
  · intro hviolates
    cases hviolates with
    | propertyName hgiven hname => exact ⟨_, hgiven, hname, rfl⟩
  · rintro ⟨_, hgiven, hname, rfl⟩
    exact .propertyName hgiven hname

/-- A check is violated (`Violates`) with one cause only. -/
theorem Violates.cause_unique {other : ExtractionCause} (hviolates : attr.Violates check cause)
    (hother : attr.Violates check other) : cause = other := by
  cases check with
  | count =>
    cases hviolates
    cases hother
    rfl
  | dependency => exact (isDecidedBy_dependency attr).cause_unique hviolates hother
  | positionalName => exact (isDecidedBy_positionalName attr).cause_unique hviolates hother
  | named key =>
    obtain ⟨value, hgiven, hforbids⟩ := violates_named_iff.mp hviolates
    obtain ⟨_, hgivenOther, hforbidsOther⟩ := violates_named_iff.mp hother
    cases hgiven.symm.trans hgivenOther
    -- any options will do
    rw [← Options.set_eq_error_iff ⟨none, ⟨0⟩, true⟩] at hforbids hforbidsOther
    exact Except.error.inj (hforbids.symm.trans hforbidsOther)
  | agreement => exact (isDecidedBy_agreement attr).cause_unique hviolates hother
  | propertyName => exact (isDecidedBy_propertyName attr).cause_unique hviolates hother

/-! ## The first fault -/

/-- There is one check and one cause at most that are the first fault (`IsFirstFault`). -/
theorem IsFirstFault.unique {other : Check} {otherCause : ExtractionCause}
    (hfirst : attr.IsFirstFault check cause) (hother : attr.IsFirstFault other otherCause) :
    check = other ∧ cause = otherCause := by
  rcases Check.precedes_trichotomy check other with hbefore | rfl | hafter
  · exact absurd hfirst.violates (hother.passes check hbefore cause)
  · exact ⟨rfl, hfirst.violates.cause_unique hother.violates⟩
  · exact absurd hother.violates (hfirst.passes other hafter otherCause)

/-! The reading makes the checks in the order of their places. What is known after some of them is
that all checks with an earlier place are passed; each step adds one place. -/

/-- An attribute `Passes` all checks of a `rank` below a given one. -/
def PassesBelow (attr : Attribute) (rank : Nat) : Prop :=
  ∀ check : Check, check.rank < rank → attr.Passes check

theorem PassesBelow.next (hbelow : attr.PassesBelow check.rank) (hpasses : attr.Passes check)
    (hcheck : ∀ key, check ≠ .named key) : attr.PassesBelow (check.rank + 1) := by
  intro other hrank
  rcases Nat.lt_succ_iff_lt_or_eq.mp hrank with hless | hsame
  · exact hbelow other hless
  · rwa [Check.eq_of_rank_eq hcheck hsame]

theorem PassesBelow.next_named (hbelow : attr.PassesBelow (Check.positionalName.rank + 1))
    (hpasses : ∀ key, attr.Passes (.named key)) : attr.PassesBelow Check.agreement.rank := by
  intro other hrank
  cases other with
  | named key => exact hpasses key
  | count | dependency | positionalName => exact hbelow _ (by decide)
  | agreement | propertyName => exact absurd hrank (by decide)

theorem PassesBelow.isFirstFault (hbelow : attr.PassesBelow check.rank)
    (hviolates : attr.Violates check cause) (hcheck : ∀ key, check ≠ .named key) :
    attr.IsFirstFault check cause :=
  ⟨hviolates, fun other hother => hbelow other ((Check.precedes_iff_rank_lt hcheck).mp hother)⟩

/-- If an attribute may not have a named argument (`Forbids`), but may have those before it
(`Allows`), then its check is the first of all named arguments that is violated. With the checks of
smaller `rank` passed it is the first of all. -/
theorem PassesBelow.isFirstFault_named {key : String} {value : AttributeValue}
    {front rest : List (String × AttributeValue)}
    (hbelow : attr.PassesBelow (Check.named key).rank)
    (hentries : attr.named.entries = front ++ (key, value) :: rest)
    (hfront : ∀ entry ∈ front, Allows entry.1 entry.2) (hforbids : Forbids key value cause) :
    attr.IsFirstFault (.named key) cause := by
  have hgiven : attr.named.get? key = some value :=
    Dictionary.get?_eq_some_iff.mpr (by simp [hentries])
  refine ⟨.named hgiven hforbids, fun other hother => ?_⟩
  rcases Check.precedes_named_iff.mp hother with hrank | ⟨smaller, rfl, hless⟩
  · exact hbelow other hrank
  intro found hviolates
  obtain ⟨wrong, hwrong, hfound⟩ := violates_named_iff.mp hviolates
  have hsorted := attr.named.sorted
  rw [Dictionary.get?_eq_some_iff, hentries, List.mem_append, List.mem_cons] at hwrong
  rw [hentries, List.pairwise_append, List.pairwise_cons] at hsorted
  -- a smaller key stands in front, where all arguments are allowed
  rcases hwrong with hmem | hsame | hlater
  · exact (hfront _ hmem).not_forbids hfound
  · cases hsame
    exact String.lt_irrefl _ hless
  · exact String.lt_irrefl _ (String.lt_trans hless (hsorted.2.1.1 _ hlater))

end Attribute

namespace Descriptor

variable {attr : Attribute} {defaults : AttributeDefaults} {cause : ExtractionCause}

/-- An attribute that `ofArguments` reads `Passes` all checks. -/
theorem passes_of_ofArguments {descriptor : Descriptor}
    (hread : ofArguments attr defaults = .ok descriptor) (check : Check) : attr.Passes check := by
  obtain ⟨hcount, hdependency, ⟨_, hpositional⟩, ⟨options, hoptions, -⟩, hmerged, hname⟩ :=
    ofArguments_eq_ok_iff.mp hread
  have hgiven : attr.givenName = descriptor.propertyName := (mergeNames_eq_ok_iff.mp hmerged).2
  cases check with
  | count => exact Attribute.passes_count hcount
  | dependency => exact (Attribute.isDecidedBy_dependency attr).passes hdependency
  | positionalName => exact (Attribute.isDecidedBy_positionalName attr).passes hpositional
  | named key => exact Attribute.passes_named_of_setAll hoptions key
  | agreement => exact (Attribute.isDecidedBy_agreement attr).passes hmerged
  | propertyName =>
    rw [← hgiven] at hname
    exact (Attribute.isDecidedBy_propertyName attr).passes hname

/-- An attribute that `ofArguments` rejects is rejected for its first fault. The proof follows the
steps of the reading: each that succeeds passes its check, and the first that fails gives the fault.
-/
theorem exists_isFirstFault_of_ofArguments (hread : ofArguments attr defaults = .error cause) :
    ∃ check, attr.IsFirstFault check cause := by
  -- each step fails, and its check is the first fault, or it adds its check to those passed before
  have hstart : attr.PassesBelow Check.count.rank := fun _ hrank => absurd hrank (Nat.not_lt_zero _)
  rcases Nat.lt_or_ge 2 attr.positional.length with hmany | hfew
  · rw [ofArguments_of_two_lt hmany] at hread
    cases hread
    exact ⟨.count, hstart.isFirstFault (.tooMany hmany) nofun⟩
  rw [ofArguments_eq hfew] at hread
  have hcount : attr.PassesBelow Check.dependency.rank :=
    hstart.next (Attribute.passes_count hfew) nofun
  rcases bind_eq_error.mp hread with herror | ⟨dependency, hvalue, hread⟩
  · have hviolates := (Attribute.isDecidedBy_dependency attr cause).mpr herror
    exact ⟨.dependency, hcount.isFirstFault hviolates nofun⟩
  have hdependency : attr.PassesBelow Check.positionalName.rank :=
    hcount.next ((Attribute.isDecidedBy_dependency attr).passes hvalue) nofun
  rcases bind_eq_error.mp hread with herror | ⟨positional, hpositional, hread⟩
  · have hviolates := (Attribute.isDecidedBy_positionalName attr cause).mpr herror
    exact ⟨.positionalName, hdependency.isFirstFault hviolates nofun⟩
  have hsecond : attr.PassesBelow (Check.positionalName.rank + 1) :=
    hdependency.next ((Attribute.isDecidedBy_positionalName attr).passes hpositional) nofun
  rcases bind_eq_error.mp hread with herror | ⟨options, hoptions, hread⟩
  · obtain ⟨front, key, value, rest, hentries, hfront, hforbids⟩ :=
      Options.exists_forbids_of_setAll herror
    exact ⟨.named key, hsecond.isFirstFault_named hentries hfront hforbids⟩
  have hnamed := hsecond.next_named (Attribute.passes_named_of_setAll hoptions)
  -- the names that are merged are those that the arguments give
  rw [← (positionalName_eq_ok_iff.mp hpositional).2, Options.name_of_setAll hoptions] at hread
  rcases bind_eq_error.mp hread with herror | ⟨propertyName, hmerged, hread⟩
  · have hviolates := (Attribute.isDecidedBy_agreement attr cause).mpr herror
    exact ⟨.agreement, hnamed.isFirstFault hviolates nofun⟩
  have hagreement : attr.PassesBelow Check.propertyName.rank :=
    hnamed.next ((Attribute.isDecidedBy_agreement attr).passes hmerged) nofun
  rw [← (mergeNames_eq_ok_iff.mp hmerged).2] at hread
  rcases bind_eq_error.mp hread with herror | ⟨_, -, hread⟩
  · have hviolates := (Attribute.isDecidedBy_propertyName attr cause).mpr herror
    exact ⟨.propertyName, hagreement.isFirstFault hviolates nofun⟩
  · cases hread

/-- An attribute is rejected by `ofArguments` exactly for its first fault (`IsFirstFault`). -/
theorem ofArguments_eq_error_iff :
    ofArguments attr defaults = .error cause ↔ ∃ check, attr.IsFirstFault check cause := by
  refine ⟨exists_isFirstFault_of_ofArguments, fun ⟨check, hfirst⟩ => ?_⟩
  cases hread : ofArguments attr defaults with
  | ok descriptor => exact absurd hfirst.violates (passes_of_ofArguments hread check cause)
  | error found =>
    obtain ⟨other, hother⟩ := exists_isFirstFault_of_ofArguments hread
    rw [(hfirst.unique hother).2]

/-! ## All attributes of a declaration -/

/-- An attribute is rejected by `ofAttribute` with its number and the cause of its first fault
(`IsFirstFault`). -/
theorem ofAttribute_eq_error_iff {position : Nat} {error : ExtractionError} :
    ofAttribute position attr defaults = .error error ↔
      error.position = position ∧ ∃ check, attr.IsFirstFault check error.cause := by
  obtain ⟨number, cause⟩ := error
  rw [← @ofArguments_eq_error_iff attr defaults, ofAttribute]
  cases ofArguments attr defaults <;> simp [Except.mapError, eq_comm]

/-- Reading attributes with `ofAttributesFrom` fails exactly if one of them is rejected and those
before it are read, and then with what this one is rejected for, whatever comes after it. -/
theorem ofAttributesFrom_eq_error_iff {position : Nat} {attributes : List Attribute}
    {error : ExtractionError} : ofAttributesFrom position defaults attributes = .error error ↔
      ∃ front attr rest, attributes = front ++ attr :: rest ∧
        (∀ earlier ∈ front, ∃ descriptor, ofArguments earlier defaults = .ok descriptor) ∧
        ofAttribute (position + front.length) attr defaults = .error error := by
  induction attributes generalizing position with
  | nil => simp [ofAttributesFrom]
  | cons attr rest ih =>
    rw [ofAttributesFrom, bind_eq_error]
    constructor
    · -- the first attribute is rejected, or it is read and a later one is
      rintro (hattr | ⟨descriptor, hattr, hrest⟩)
      · exact ⟨[], attr, rest, rfl, by simp, hattr⟩
      · rcases bind_eq_error.mp hrest with herror | ⟨_, -, hread⟩
        · obtain ⟨front, wrong, later, rfl, hfront, hwrong⟩ := ih.mp herror
          refine ⟨attr :: front, wrong, later, rfl, ?_, ?_⟩
          · exact List.forall_mem_cons.mpr ⟨⟨_, ofAttribute_eq_ok_iff.mp hattr⟩, hfront⟩
          · rwa [List.length_cons, Nat.add_comm front.length, ← Nat.add_assoc]
        · cases hread
    · -- the attribute that is rejected is the first one or stands in the rest
      rintro ⟨front, wrong, later, hattributes, hfront, hwrong⟩
      cases front with
      | nil =>
        cases hattributes
        exact .inl hwrong
      | cons first front =>
        cases hattributes
        obtain ⟨⟨descriptor, hfirst⟩, hfront⟩ := List.forall_mem_cons.mp hfront
        rw [List.length_cons, Nat.add_comm front.length, ← Nat.add_assoc] at hwrong
        exact .inr ⟨descriptor, ofAttribute_eq_ok_iff.mpr hfirst,
          bind_eq_error.mpr (.inl (ih.mpr ⟨front, wrong, later, rfl, hfront, hwrong⟩))⟩

end Descriptor

/-- An attribute satisfies `IsAcceptable` exactly if it `Passes` all checks. -/
theorem Attribute.isAcceptable_iff_forall_passes {attr : Attribute} :
    attr.IsAcceptable ↔ ∀ check, attr.Passes check := by
  constructor
  · intro hacceptable
    obtain ⟨descriptor, hread⟩ :=
      Descriptor.exists_ofArguments_of_isAcceptable hacceptable ⟨true, ⟨0⟩⟩
    exact Descriptor.passes_of_ofArguments hread
  · intro hpasses
    cases hread : Descriptor.ofArguments attr ⟨true, ⟨0⟩⟩ with
    | ok descriptor => exact Descriptor.isAcceptable_of_ofArguments hread
    | error cause =>
      obtain ⟨check, hfirst⟩ := Descriptor.exists_isFirstFault_of_ofArguments hread
      exact absurd hfirst.violates (hpasses check cause)

/-- What `descriptors` gives for the attributes of a declaration, for all defaults. It gives one
descriptor for each attribute, in their order, if `Descriptor.ofArguments` reads all of them. Else
the first one that cannot be read is reported, with its number and the cause of its first fault
(`IsFirstFault`), and whatever comes after it changes nothing. A single attribute is rejected
exactly for its first fault. -/
theorem Declaration.descriptors_reports_firstFault (declaration : Declaration)
    (defaults : AttributeDefaults) :
    (∀ descriptors, declaration.descriptors defaults = .ok descriptors ↔
      List.Forall₂ (fun attr descriptor => Descriptor.ofArguments attr defaults = .ok descriptor)
        declaration.attributes descriptors) ∧
    (∀ error, declaration.descriptors defaults = .error error ↔
      ∃ front attr rest, declaration.attributes = front ++ attr :: rest ∧
        (∀ earlier ∈ front, ∃ descriptor,
          Descriptor.ofArguments earlier defaults = .ok descriptor) ∧
        error.position = front.length + 1 ∧ ∃ check, attr.IsFirstFault check error.cause) ∧
    (∀ error, declaration.descriptors defaults = .error error → ∀ later,
      { declaration with
        attributes := declaration.attributes.take error.position ++ later }.descriptors defaults
          = .error error) ∧
    ∀ position attr error, Descriptor.ofAttribute position attr defaults = .error error ↔
      error.position = position ∧ ∃ check, attr.IsFirstFault check error.cause := by
  refine ⟨fun descriptors => descriptors_eq_ok_iff, fun error => ?_, fun error herror later => ?_,
    fun position attr error => Descriptor.ofAttribute_eq_error_iff⟩
  · rw [descriptors, Descriptor.ofAttributesFrom_eq_error_iff]
    simp only [Descriptor.ofAttribute_eq_error_iff, Nat.add_comm 1]
  · rw [descriptors, Descriptor.ofAttributesFrom_eq_error_iff] at herror ⊢
    obtain ⟨front, attr, rest, hattributes, hfront, hattr⟩ := herror
    refine ⟨front, attr, later, ?_, hfront, hattr⟩
    have hposition := (Descriptor.ofAttribute_eq_error_iff.mp hattr).1
    rw [hattributes, hposition, Nat.add_comm, List.take_length_add_append]
    simp

end Companion
