import Companion.Proofs.Extraction
import Companion.Proofs.TypePaths

/-! # The contract of attributes

`Attribute.IsAcceptable` says which arguments an attribute may have, each for itself and without
regard to the order in which they are read; `Descriptor.Answers` says what a descriptor takes from
them. `Descriptor.exists_ofAttribute_iff_isAcceptable` says that exactly the acceptable attributes
can be read, and that their descriptors answer them. Of the named arguments, each sets one option
and leaves the others as they are: `Descriptor.Options.setAll_field`. -/

namespace Companion

open Identifier

namespace Dictionary

variable {α : Type}

/-- A key has the value `get?` with which it stands among the entries of a dictionary. -/
theorem get?_eq_some_iff {dictionary : Dictionary α} {key : String} {value : α} :
    dictionary.get? key = some value ↔ (key, value) ∈ dictionary.entries := by
  obtain ⟨entries, hsorted⟩ := dictionary
  change (entries.find? (·.1 == key)).map Prod.snd = some value ↔ (key, value) ∈ entries
  induction entries with
  | nil => simp
  | cons entry rest ih =>
    obtain ⟨own, given⟩ := entry
    obtain ⟨hbelow, htail⟩ := List.pairwise_cons.mp hsorted
    by_cases hkey : own = key
    · subst hkey
      -- no later entry has this key
      have hrest : (own, value) ∉ rest := fun hmem => String.lt_irrefl own (hbelow _ hmem)
      rw [List.find?_cons_of_pos (by simp), List.mem_cons, or_iff_left hrest]
      simp [eq_comm]
    · rw [List.find?_cons_of_neg (by simpa using hkey), ih htail, List.mem_cons]
      simp [Ne.symm hkey]

/-- A key without a value `get?` stands in no entry of a dictionary. -/
theorem get?_eq_none_iff {dictionary : Dictionary α} {key : String} :
    dictionary.get? key = none ↔ ∀ value, (key, value) ∉ dictionary.entries := by
  rw [Option.eq_none_iff_forall_ne_some]
  exact forall_congr' fun value => not_congr get?_eq_some_iff

end Dictionary

namespace SearchScope

/-- The word `bits` of a scope determines it. -/
theorem toNat_bits_inj {first second : SearchScope} :
    first.bits.toNat = second.bits.toNat ↔ first = second := by
  rw [UInt32.toNat_inj]
  constructor
  · intro hbits
    cases first
    cases second
    cases hbits
    rfl
  · rintro rfl
    rfl

/-- A scope `isEmpty` exactly if its word is zero. -/
theorem isEmpty_iff {scope : SearchScope} : scope.isEmpty = true ↔ scope.bits.toNat = 0 := by
  rw [isEmpty, beq_iff_eq, ← UInt32.toNat_inj]
  rfl

/-- The integers of which `ofRaw?` makes a scope are those from zero to seven, and the scope has the
integer as its word. -/
theorem ofRaw?_eq_some_iff {raw : Int} {scope : SearchScope} :
    ofRaw? raw = some scope ↔ raw ≤ 7 ∧ (scope.bits.toNat : Int) = raw := by
  have hword (hraw : raw ≤ 7) : raw.toNat.toUInt32.toNat = raw.toNat := by
    rw [Nat.toUInt32, UInt32.toNat_ofNat']
    omega
  rw [ofRaw?_eq, maxBits]
  split
  · rename_i hraw
    rw [Option.some.injEq, ← toNat_bits_inj, hword hraw.2]
    omega
  · rename_i hraw
    simp only [reduceCtorEq, false_iff]
    omega

theorem ofRaw?_eq_none_iff {raw : Int} : ofRaw? raw = none ↔ raw < 0 ∨ 7 < raw := by
  rw [ofRaw?_eq, maxBits]
  split <;> simp only [reduceCtorEq, false_iff, true_iff] <;> omega

end SearchScope

namespace AttributeValue

/-- The text of a string constant; values of other kinds have none. -/
def text? : AttributeValue → Option String
  | .string text => some text
  | _ => none

theorem text?_eq_some_iff {value : AttributeValue} {text : String} :
    value.text? = some text ↔ value = .string text := by
  cases value <;> simp [text?]

/-- What may be given as a property name: a text, or the null constant for none. -/
def IsName (value : AttributeValue) : Prop := value = .null ∨ ∃ text, value = .string text

/-- What may be given as a search scope: an integer all of whose bits stand for regions, with at
least one bit, so that `Descriptor.scopeOf` accepts it. -/
def IsScope (value : AttributeValue) : Prop := ∃ raw, value = .integer raw ∧ 1 ≤ raw ∧ raw ≤ 7

/-- What may say whether the component must be found: a truth value. -/
def IsFlag (value : AttributeValue) : Prop := ∃ flag, value = .bool flag

end AttributeValue

namespace Attribute

/-- The property name that an attribute gives: by position if there is a text, else by the name
`propertyNameKey` if there is one. -/
def givenName (attr : Attribute) : Option String :=
  (attr.positional[1]?.bind AttributeValue.text?).or
    ((attr.named.get? propertyNameKey).bind AttributeValue.text?)

/-- The keys of the named arguments that attributes have, whatever their values are. -/
def IsKnown (key : String) : Prop :=
  key = propertyNameKey ∨ key = searchScopeKey ∨ key = isRequiredKey

/-- A named argument that attributes may have: a known key with a value of its kind (`IsName`,
`IsScope`, `IsFlag`). -/
def Allows (key : String) (value : AttributeValue) : Prop :=
  key = propertyNameKey ∧ value.IsName ∨ key = searchScopeKey ∧ value.IsScope ∨
    key = isRequiredKey ∧ value.IsFlag

theorem Allows.isKnown {key : String} {value : AttributeValue} (hallows : Allows key value) :
    IsKnown key :=
  hallows.imp And.left (Or.imp And.left And.left)

/-- The keys of the named arguments differ. -/
theorem keys_ne : propertyNameKey ≠ searchScopeKey ∧ propertyNameKey ≠ isRequiredKey ∧
    searchScopeKey ≠ isRequiredKey := by
  decide

theorem allows_propertyName_iff {value : AttributeValue} :
    Allows propertyNameKey value ↔ value.IsName := by
  simp [Allows, keys_ne]

theorem allows_searchScope_iff {value : AttributeValue} :
    Allows searchScopeKey value ↔ value.IsScope := by
  simp [Allows, keys_ne, keys_ne.1.symm]

theorem allows_isRequired_iff {value : AttributeValue} :
    Allows isRequiredKey value ↔ value.IsFlag := by
  simp [Allows, keys_ne.2.1.symm, keys_ne.2.2.symm]

/-- The contract of attributes, said of the arguments and not of how `Descriptor.ofArguments` reads
them. -/
structure IsAcceptable (attr : Attribute) : Prop where
  /-- There are one or two positional arguments. -/
  count : attr.positional.length = 1 ∨ attr.positional.length = 2
  /-- The first is a type, and all names in it are identifiers. -/
  dependency : ∃ type, attr.positional[0]? = some (.type type) ∧
    ∀ name, type.Mentions name → isIdentifier name = true
  /-- The second, if there is one, may be given as a property name. -/
  second : ∀ value, attr.positional[1]? = some value → value.IsName
  /-- The named arguments are known and of the right kind. -/
  named : ∀ key value, attr.named.get? key = some value → Allows key value
  /-- A property name that is given both ways is the same. -/
  agreement : ∀ positional named, attr.positional[1]? = some (.string positional) →
    attr.named.get? propertyNameKey = some (.string named) → positional = named
  /-- The property name, if one is given, is an identifier. -/
  givenName : ∀ name, attr.givenName = some name → isIdentifier name = true

end Attribute

namespace Descriptor

/-- What a descriptor takes from the arguments of an attribute and, as far as nothing is given, from
the defaults. -/
structure Answers (descriptor : Descriptor) (attr : Attribute) (defaults : AttributeDefaults) :
    Prop where
  /-- The component type is the first argument. -/
  dependency : attr.positional[0]? = some (.type descriptor.dependency)
  /-- The property name is the one that is given. -/
  propertyName : descriptor.propertyName = attr.givenName
  /-- A scope that is given counts, as a word of bits. -/
  scope_of_given : ∀ raw, attr.named.get? Attribute.searchScopeKey = some (.integer raw) →
    (descriptor.scope.bits.toNat : Int) = raw
  /-- Without one, the default scope counts. -/
  scope_of_absent : attr.named.get? Attribute.searchScopeKey = none →
    descriptor.scope = defaults.searchScope
  /-- A truth value that is given says whether the component must be found. -/
  required_of_given : ∀ flag, attr.named.get? Attribute.isRequiredKey = some (.bool flag) →
    descriptor.required = flag
  /-- Without one, the default says it. -/
  required_of_absent : attr.named.get? Attribute.isRequiredKey = none →
    descriptor.required = defaults.required

/-! ## Single arguments -/

theorem dependencyOf_eq_ok_iff {value : Option AttributeValue} {type : TypeRef} :
    dependencyOf value = .ok type ↔ value = some (.type type) ∧ type.isResolvable = true := by
  constructor
  · intro hvalue
    have hresolvable := isResolvable_of_dependencyOf hvalue
    unfold dependencyOf at hvalue
    split at hvalue
    case h_3 reference =>
      split at hvalue
      · cases hvalue
        exact ⟨rfl, hresolvable⟩
      · cases hvalue
    all_goals cases hvalue
  · rintro ⟨rfl, hresolvable⟩
    rw [dependencyOf, if_pos hresolvable]

theorem optionalText_eq_ok_iff {argument : String} {value : AttributeValue} {name : Option String} :
    optionalText argument value = .ok name ↔ value.IsName ∧ value.text? = name := by
  cases value <;> simp [optionalText, AttributeValue.IsName, AttributeValue.text?]

theorem exists_optionalText_eq_ok_iff {argument : String} {value : AttributeValue} :
    (∃ name, optionalText argument value = .ok name) ↔ value.IsName := by
  simp [optionalText_eq_ok_iff]

theorem positionalName_eq_ok_iff {value : Option AttributeValue} {name : Option String} :
    positionalName value = .ok name ↔
      (∀ given, value = some given → given.IsName) ∧ value.bind AttributeValue.text? = name := by
  cases value with
  | none => simp [positionalName]
  | some given => simp [positionalName, optionalText_eq_ok_iff]

/-- An integer is read by `scopeOf` if its bits stand for regions and one of them is set. -/
theorem scopeOf_eq_ok_iff {value : AttributeValue} {scope : SearchScope} :
    scopeOf value = .ok scope ↔
      ∃ raw, value = .integer raw ∧ (1 ≤ raw ∧ raw ≤ 7) ∧ (scope.bits.toNat : Int) = raw := by
  cases value with
  | integer raw =>
    rw [scopeOf]
    simp only [AttributeValue.integer.injEq, exists_eq_left']
    cases hscope : SearchScope.ofRaw? raw with
    | none =>
      have hraw := SearchScope.ofRaw?_eq_none_iff.mp hscope
      simp only [reduceCtorEq, false_iff]
      omega
    | some found =>
      obtain ⟨hraw, hbits⟩ := SearchScope.ofRaw?_eq_some_iff.mp hscope
      simp only
      split
      · -- known bits, but no region among them: the number is zero
        rename_i hempty
        rw [SearchScope.isEmpty_iff] at hempty
        simp only [reduceCtorEq, false_iff]
        omega
      · -- known bits and a region among them
        rename_i hset
        rw [SearchScope.isEmpty_iff] at hset
        rw [Except.ok.injEq, ← SearchScope.toNat_bits_inj]
        omega
  | _ => simp [scopeOf]

theorem exists_scopeOf_eq_ok_iff {value : AttributeValue} :
    (∃ scope, scopeOf value = .ok scope) ↔ value.IsScope := by
  simp only [scopeOf_eq_ok_iff]
  constructor
  · rintro ⟨scope, raw, hvalue, hraw, -⟩
    exact ⟨raw, hvalue, hraw⟩
  · rintro ⟨raw, hvalue, hraw⟩
    cases hscope : SearchScope.ofRaw? raw with
    | none =>
      rw [SearchScope.ofRaw?_eq_none_iff] at hscope
      omega
    | some scope =>
      exact ⟨scope, raw, hvalue, hraw, (SearchScope.ofRaw?_eq_some_iff.mp hscope).2⟩

theorem requiredOf_eq_ok_iff {value : AttributeValue} {flag : Bool} :
    requiredOf value = .ok flag ↔ value = .bool flag := by
  cases value <;> simp [requiredOf]

theorem exists_requiredOf_eq_ok_iff {value : AttributeValue} :
    (∃ flag, requiredOf value = .ok flag) ↔ value.IsFlag := by
  simp only [requiredOf_eq_ok_iff, AttributeValue.IsFlag]

/-! ## Named arguments -/

namespace Options

variable {options next result : Options} {key : String} {value : AttributeValue}
  {entries : List (String × AttributeValue)}

theorem map_eq_ok {ε α β : Type} {f : α → β} {outcome : Except ε α} {result : β} :
    outcome.map f = .ok result ↔ ∃ value, outcome = .ok value ∧ f value = result := by
  cases outcome <;> simp [Except.map]

theorem exists_map_eq_ok_iff {ε α β : Type} {f : α → β} {outcome : Except ε α} :
    (∃ result, outcome.map f = .ok result) ↔ ∃ value, outcome = .ok value := by
  cases outcome <;> simp [Except.map]

theorem set_propertyName (options : Options) (value : AttributeValue) :
    options.set Attribute.propertyNameKey value
      = (optionalText Attribute.propertyNameKey value).map fun name => { options with name } := by
  rw [set, if_pos rfl]

theorem set_searchScope (options : Options) (value : AttributeValue) :
    options.set Attribute.searchScopeKey value
      = (scopeOf value).map fun scope => { options with scope } := by
  rw [set, if_neg (by decide), if_pos rfl]

theorem set_isRequired (options : Options) (value : AttributeValue) :
    options.set Attribute.isRequiredKey value
      = (requiredOf value).map fun required => { options with required } := by
  rw [set, if_neg (by decide), if_neg (by decide), if_pos rfl]

theorem set_of_unknown (options : Options) (value : AttributeValue)
    (hkey : ¬ Attribute.IsKnown key) : options.set key value = .error (.unknownArgument key) := by
  simp only [Attribute.IsKnown, not_or] at hkey
  rw [set, if_neg hkey.1, if_neg hkey.2.1, if_neg hkey.2.2]

/-- A named argument sets with `Options.set` no option but that of its key. -/
theorem set_keeps (hset : options.set key value = .ok next) :
    (key ≠ Attribute.propertyNameKey → next.name = options.name) ∧
      (key ≠ Attribute.searchScopeKey → next.scope = options.scope) ∧
      (key ≠ Attribute.isRequiredKey → next.required = options.required) := by
  by_cases hkey : Attribute.IsKnown key
  · rcases hkey with rfl | rfl | rfl
    · rw [set_propertyName, map_eq_ok] at hset
      obtain ⟨name, -, rfl⟩ := hset
      simp
    · rw [set_searchScope, map_eq_ok] at hset
      obtain ⟨scope, -, rfl⟩ := hset
      simp
    · rw [set_isRequired, map_eq_ok] at hset
      obtain ⟨required, -, rfl⟩ := hset
      simp
  · rw [set_of_unknown options value hkey] at hset
    cases hset

/-- A named argument can be taken into account by `Options.set` exactly if attributes may have it
(`Attribute.Allows`). -/
theorem exists_set_eq_ok_iff (options : Options) : (∃ next, options.set key value = .ok next) ↔
    Attribute.Allows key value := by
  by_cases hkey : Attribute.IsKnown key
  · rcases hkey with rfl | rfl | rfl
    · rw [set_propertyName, exists_map_eq_ok_iff, exists_optionalText_eq_ok_iff,
        Attribute.allows_propertyName_iff]
    · rw [set_searchScope, exists_map_eq_ok_iff, exists_scopeOf_eq_ok_iff,
        Attribute.allows_searchScope_iff]
    · rw [set_isRequired, exists_map_eq_ok_iff, exists_requiredOf_eq_ok_iff,
        Attribute.allows_isRequired_iff]
  · simp only [set_of_unknown options value hkey, reduceCtorEq, exists_false, false_iff]
    exact fun hallows => hkey hallows.isKnown

/-- Named arguments can be taken into account by `Options.setAll` exactly if attributes may have
each of them (`Attribute.Allows`). -/
theorem exists_setAll_eq_ok_iff (options : Options) :
    (∃ result, options.setAll entries = .ok result) ↔
      ∀ entry ∈ entries, Attribute.Allows entry.1 entry.2 := by
  induction entries generalizing options with
  | nil => simp [setAll]
  | cons entry rest ih =>
    obtain ⟨key, value⟩ := entry
    rw [List.forall_mem_cons, ← exists_set_eq_ok_iff options, setAll]
    cases hset : options.set key value with
    | error cause => simp
    | ok next => simpa using ih next

/-- An option that only the argument of one key sets has after `Options.setAll` the value that this
argument gives, and keeps its value if there is no such argument. Stated once for all options
`field`, with the key `own` of its argument; the keys of the entries differ since they are in order.
-/
theorem setAll_field {α : Type} (field : Options → α) (own : String)
    (Gives : AttributeValue → α → Prop)
    (hown : ∀ {options next value}, set options own value = .ok next → Gives value (field next))
    (hother : ∀ {options next key value}, key ≠ own → set options key value = .ok next →
      field next = field options)
    (hsorted : entries.Pairwise fun first second => first.1 < second.1)
    (hresult : options.setAll entries = .ok result) :
    (∀ value, (own, value) ∈ entries → Gives value (field result)) ∧
      ((∀ value, (own, value) ∉ entries) → field result = field options) := by
  induction entries generalizing options with
  | nil =>
    cases hresult
    simp
  | cons entry rest ih =>
    obtain ⟨key, given⟩ := entry
    obtain ⟨hbelow, htail⟩ := List.pairwise_cons.mp hsorted
    rw [setAll] at hresult
    cases hset : options.set key given with
    | error cause => simp [hset] at hresult
    | ok next =>
      rw [hset] at hresult
      obtain ⟨hgives, hkeeps⟩ := ih htail hresult
      constructor
      · intro value hvalue
        rcases List.mem_cons.mp hvalue with hfirst | hrest
        · cases hfirst
          -- no later argument has this key
          rw [hkeeps fun later hlater => String.lt_irrefl own (hbelow _ hlater)]
          exact hown hset
        · exact hgives value hrest
      · intro habsent
        have hkey : key ≠ own := fun hkey => habsent given (hkey ▸ List.mem_cons_self)
        rw [hkeeps fun later hlater => habsent later (List.mem_cons_of_mem _ hlater),
          hother hkey hset]

/-- After `Options.setAll` of the named arguments, the name is the text that is given as
`propertyNameKey`. -/
theorem name_of_setAll {attr : Attribute} {defaults : AttributeDefaults}
    (hoptions : (ofDefaults defaults).setAll attr.named.entries = .ok result) :
    result.name = (attr.named.get? Attribute.propertyNameKey).bind AttributeValue.text? := by
  have hname := setAll_field name Attribute.propertyNameKey
    (fun value name => name = value.text?) ?_ ?_ attr.named.sorted hoptions
  · cases hgiven : attr.named.get? Attribute.propertyNameKey with
    | none => exact hname.2 (Dictionary.get?_eq_none_iff.mp hgiven)
    | some value => exact hname.1 value (Dictionary.get?_eq_some_iff.mp hgiven)
  · intro options next value hset
    rw [set_propertyName, map_eq_ok] at hset
    obtain ⟨name, hname, rfl⟩ := hset
    exact (optionalText_eq_ok_iff.mp hname).2.symm
  · exact fun hkey hset => (set_keeps hset).1 hkey

/-- After `Options.setAll` of the named arguments, the scope is the one that is given as
`searchScopeKey`, or else the default. -/
theorem scope_of_setAll {attr : Attribute} {defaults : AttributeDefaults}
    (hoptions : (ofDefaults defaults).setAll attr.named.entries = .ok result) :
    (∀ raw, attr.named.get? Attribute.searchScopeKey = some (.integer raw) →
      (result.scope.bits.toNat : Int) = raw) ∧
    (attr.named.get? Attribute.searchScopeKey = none → result.scope = defaults.searchScope) := by
  have hscope := setAll_field scope Attribute.searchScopeKey
    (fun value scope => ∀ raw, value = .integer raw → (scope.bits.toNat : Int) = raw)
    ?_ ?_ attr.named.sorted hoptions
  · exact ⟨fun raw hgiven => hscope.1 _ (Dictionary.get?_eq_some_iff.mp hgiven) raw rfl,
      fun habsent => hscope.2 (Dictionary.get?_eq_none_iff.mp habsent)⟩
  · -- only an integer is read as a scope
    intro options next value hset raw hraw
    rw [set_searchScope, map_eq_ok] at hset
    obtain ⟨scope, hscope, rfl⟩ := hset
    obtain ⟨given, hvalue, -, hbits⟩ := scopeOf_eq_ok_iff.mp hscope
    rw [hraw] at hvalue
    cases hvalue
    exact hbits
  · exact fun hkey hset => (set_keeps hset).2.1 hkey

/-- After `Options.setAll` of the named arguments, the component must be found if this is given as
`isRequiredKey`, or else if it is the default. -/
theorem required_of_setAll {attr : Attribute} {defaults : AttributeDefaults}
    (hoptions : (ofDefaults defaults).setAll attr.named.entries = .ok result) :
    (∀ flag, attr.named.get? Attribute.isRequiredKey = some (.bool flag) →
      result.required = flag) ∧
    (attr.named.get? Attribute.isRequiredKey = none → result.required = defaults.required) := by
  have hrequired := setAll_field required Attribute.isRequiredKey
    (fun value required => value = .bool required) ?_ ?_ attr.named.sorted hoptions
  · refine ⟨fun flag hgiven => ?_, fun habsent => ?_⟩
    · cases hrequired.1 _ (Dictionary.get?_eq_some_iff.mp hgiven)
      rfl
    · exact hrequired.2 (Dictionary.get?_eq_none_iff.mp habsent)
  · intro options next value hset
    rw [set_isRequired, map_eq_ok] at hset
    obtain ⟨required, hrequired, rfl⟩ := hset
    exact requiredOf_eq_ok_iff.mp hrequired
  · exact fun hkey hset => (set_keeps hset).2.2 hkey

end Options

/-! ## The property name -/

/-- Two names that may be given are merged by `mergeNames` if they do not differ; the first one
counts. -/
theorem mergeNames_eq_ok_iff {positional named name : Option String} :
    mergeNames positional named = .ok name ↔
      (∀ first second, positional = some first → named = some second → first = second) ∧
        positional.or named = name := by
  cases positional with
  | none => cases named <;> simp [mergeNames]
  | some first =>
    cases named with
    | none => simp [mergeNames]
    | some second => by_cases hsame : first = second <;> simp [mergeNames, hsame]

theorem checkName_eq_ok_iff {name : Option String} :
    checkName name = .ok () ↔ ∀ given, name = some given → isIdentifier given = true := by
  cases name with
  | none => simp [checkName]
  | some given => cases hgiven : isIdentifier given <;> simp [checkName, hgiven]

/-! ## Attributes -/

/-- An attribute is read by `ofArguments` exactly if each step of the reading succeeds. -/
theorem ofArguments_eq_ok_iff {attr : Attribute} {defaults : AttributeDefaults}
    {descriptor : Descriptor} : ofArguments attr defaults = .ok descriptor ↔
      attr.positional.length ≤ 2 ∧
      dependencyOf attr.positional[0]? = .ok descriptor.dependency ∧
      (∃ positional, positionalName attr.positional[1]? = .ok positional) ∧
      (∃ options, (Options.ofDefaults defaults).setAll attr.named.entries = .ok options ∧
        options.scope = descriptor.scope ∧ options.required = descriptor.required) ∧
      mergeNames (attr.positional[1]?.bind AttributeValue.text?)
          ((attr.named.get? Attribute.propertyNameKey).bind AttributeValue.text?)
        = .ok descriptor.propertyName ∧
      checkName descriptor.propertyName = .ok () := by
  rcases Nat.lt_or_ge 2 attr.positional.length with hmany | hfew
  · rw [ofArguments_of_two_lt hmany]
    simp [Nat.not_le.mpr hmany]
  rw [ofArguments_eq hfew]
  constructor
  · intro hread
    obtain ⟨dependency, hdependency, hread⟩ := bind_eq_ok.mp hread
    obtain ⟨positional, hpositional, hread⟩ := bind_eq_ok.mp hread
    obtain ⟨options, hoptions, hread⟩ := bind_eq_ok.mp hread
    obtain ⟨propertyName, hmerged, hread⟩ := bind_eq_ok.mp hread
    obtain ⟨_, hname, hread⟩ := bind_eq_ok.mp hread
    cases hread
    -- what is merged are the texts that the two arguments give
    rw [← (positionalName_eq_ok_iff.mp hpositional).2, Options.name_of_setAll hoptions] at hmerged
    exact ⟨hfew, hdependency, ⟨positional, hpositional⟩, ⟨options, hoptions, rfl, rfl⟩, hmerged,
      hname⟩
  · rintro ⟨-, hdependency, ⟨positional, hpositional⟩, ⟨options, hoptions, hscope, hrequired⟩,
      hmerged, hname⟩
    rw [(positionalName_eq_ok_iff.mp hpositional).2, ← Options.name_of_setAll hoptions] at hmerged
    refine bind_eq_ok.mpr ⟨_, hdependency, bind_eq_ok.mpr ⟨_, hpositional, bind_eq_ok.mpr
      ⟨_, hoptions, bind_eq_ok.mpr ⟨_, hmerged, bind_eq_ok.mpr ⟨_, hname, ?_⟩⟩⟩⟩⟩
    rw [hscope, hrequired]

/-- An attribute that `ofArguments` reads satisfies `Attribute.IsAcceptable`. -/
theorem isAcceptable_of_ofArguments {attr : Attribute} {defaults : AttributeDefaults}
    {descriptor : Descriptor} (hread : ofArguments attr defaults = .ok descriptor) :
    attr.IsAcceptable := by
  obtain ⟨hcount, hdependency, ⟨_, hpositional⟩, ⟨_, hoptions, -⟩, hmerged, hname⟩ :=
    ofArguments_eq_ok_iff.mp hread
  obtain ⟨hfirst, hresolvable⟩ := dependencyOf_eq_ok_iff.mp hdependency
  obtain ⟨hagree, hmerge⟩ := mergeNames_eq_ok_iff.mp hmerged
  have hgiven : attr.givenName = descriptor.propertyName := hmerge
  have hlength : 0 < attr.positional.length := (List.getElem?_eq_some_iff.mp hfirst).1
  exact {
    count := by omega
    dependency := ⟨_, hfirst, (TypeRef.isResolvable_iff _).mp hresolvable⟩
    second := (positionalName_eq_ok_iff.mp hpositional).1
    named := fun key value hvalue => (Options.exists_setAll_eq_ok_iff _).mp ⟨_, hoptions⟩
      (key, value) (Dictionary.get?_eq_some_iff.mp hvalue)
    agreement := fun positional named hpositional hnamed =>
      hagree positional named (by rw [hpositional]; rfl) (by rw [hnamed]; rfl)
    givenName := hgiven ▸ checkName_eq_ok_iff.mp hname }

/-- An attribute that satisfies `Attribute.IsAcceptable` is read by `ofArguments`, whatever the
defaults are. -/
theorem exists_ofArguments_of_isAcceptable {attr : Attribute} (hacceptable : attr.IsAcceptable)
    (defaults : AttributeDefaults) :
    ∃ descriptor, ofArguments attr defaults = .ok descriptor := by
  obtain ⟨dependency, hfirst, hnames⟩ := hacceptable.dependency
  have hpositional := positionalName_eq_ok_iff.mpr ⟨hacceptable.second, rfl⟩
  obtain ⟨options, hoptions⟩ :=
    (Options.exists_setAll_eq_ok_iff (.ofDefaults defaults)).mpr fun entry hentry =>
      hacceptable.named entry.1 entry.2 (Dictionary.get?_eq_some_iff.mpr hentry)
  -- where both names are given as texts, they agree
  have hagree : ∀ first second, attr.positional[1]?.bind AttributeValue.text? = some first →
      (attr.named.get? Attribute.propertyNameKey).bind AttributeValue.text? = some second →
      first = second := by
    intro first second hfirst hsecond
    obtain ⟨value, hvalue, htext⟩ := Option.bind_eq_some_iff.mp hfirst
    obtain ⟨other, hother, hotherText⟩ := Option.bind_eq_some_iff.mp hsecond
    rw [AttributeValue.text?_eq_some_iff.mp htext] at hvalue
    rw [AttributeValue.text?_eq_some_iff.mp hotherText] at hother
    exact hacceptable.agreement first second hvalue hother
  refine ⟨⟨dependency, attr.givenName, options.scope, options.required⟩,
    ofArguments_eq_ok_iff.mpr ⟨?_, ?_, ⟨_, hpositional⟩, ⟨options, hoptions, rfl, rfl⟩, ?_, ?_⟩⟩
  · rcases hacceptable.count with hone | htwo <;> omega
  · exact dependencyOf_eq_ok_iff.mpr ⟨hfirst, (TypeRef.isResolvable_iff _).mpr hnames⟩
  · exact mergeNames_eq_ok_iff.mpr ⟨hagree, rfl⟩
  · exact checkName_eq_ok_iff.mpr hacceptable.givenName

/-- A descriptor that `ofArguments` reads off an attribute `Answers` it. -/
theorem answers_of_ofArguments {attr : Attribute} {defaults : AttributeDefaults}
    {descriptor : Descriptor} (hread : ofArguments attr defaults = .ok descriptor) :
    descriptor.Answers attr defaults := by
  obtain ⟨-, hdependency, -, ⟨options, hoptions, hscope, hrequired⟩, hmerged, -⟩ :=
    ofArguments_eq_ok_iff.mp hread
  have hgivenScope := Options.scope_of_setAll hoptions
  have hgivenFlag := Options.required_of_setAll hoptions
  rw [hscope] at hgivenScope
  rw [hrequired] at hgivenFlag
  exact {
    dependency := (dependencyOf_eq_ok_iff.mp hdependency).1
    propertyName := (mergeNames_eq_ok_iff.mp hmerged).2.symm
    scope_of_given := hgivenScope.1
    scope_of_absent := hgivenScope.2
    required_of_given := hgivenFlag.1
    required_of_absent := hgivenFlag.2 }

/-- Exactly the attributes that satisfy `Attribute.IsAcceptable` are read by `ofAttribute`, whatever
their number is. The descriptor then `Answers` the attribute: it has the type of the first argument,
the property name that is given, and the scope and the truth value that are given or else those of
the defaults. -/
theorem exists_ofAttribute_iff_isAcceptable (position : Nat) (attr : Attribute)
    (defaults : AttributeDefaults) :
    ((∃ descriptor, ofAttribute position attr defaults = .ok descriptor) ↔ attr.IsAcceptable) ∧
      ∀ descriptor, ofAttribute position attr defaults = .ok descriptor →
        descriptor.Answers attr defaults := by
  simp only [ofAttribute_eq_ok_iff]
  refine ⟨⟨?_, ?_⟩, ?_⟩
  · rintro ⟨descriptor, hread⟩
    exact isAcceptable_of_ofArguments hread
  · exact fun hacceptable => exists_ofArguments_of_isAcceptable hacceptable defaults
  · exact fun descriptor hread => answers_of_ofArguments hread

end Descriptor

end Companion
