import Companion.Json.Decoding
import Mathlib.Data.List.Forall2
import Mathlib.Data.List.Induction
import Mathlib.Data.List.Nodup
import Mathlib.Data.List.Pairwise

/-! # Reading structures

What the reading of a structure depends on. The order of an object's keys does not matter
(`Shape.Lawful.readEntries_perm`), and an object that gives all fields in their order is read like
the array of its values (`Shape.Lawful.read_object_zip`). A reader that is called for parts of a
value only may be replaced by one that does the same with these parts (`Shape.read_congr`).

`ReadsAs read value member` says that a value reads as a member, in the order in which it is written
and with the keys of its objects sorted. There is one lemma for each kind of value. -/

namespace Companion

/-! ## Dictionaries of distinct keys -/

namespace Dictionary

variable {α : Type} {key : String} {value : α} {entries : List (String × α)}

/-- An entry with a new key stands after `insertEntry` somewhere among the others. -/
theorem insertEntry_perm (hnew : key ∉ entries.map Prod.fst) :
    (insertEntry key value entries).Perm ((key, value) :: entries) := by
  induction entries with
  | nil => exact List.Perm.refl _
  | cons head rest ih =>
    rw [List.map_cons, List.mem_cons, not_or] at hnew
    rw [insertEntry, if_neg hnew.1]
    split
    · exact List.Perm.refl _
    · exact ((ih hnew.2).cons head).trans (List.Perm.swap ..)

/-- The dictionary `ofList` of entries with distinct keys has these entries, in another order. -/
theorem entries_ofList_perm (hnodup : (entries.map Prod.fst).Nodup) :
    (ofList entries).entries.Perm entries := by
  -- from the back, because the last entry is inserted last
  induction entries using List.reverseRecOn with
  | nil => exact List.Perm.refl _
  | append_singleton front entry ih =>
    rw [((List.perm_append_singleton entry front).map Prod.fst).nodup_iff, List.map_cons,
      List.nodup_cons] at hnodup
    have hfront := ih hnodup.2
    have hnew : entry.1 ∉ (ofList front).entries.map Prod.fst := by
      rw [(hfront.map Prod.fst).mem_iff]
      exact hnodup.1
    rw [ofList, List.foldl_concat]
    calc ((ofList front).insert entry.1 entry.2).entries
      List.Perm _ (entry :: (ofList front).entries) := insertEntry_perm hnew
      List.Perm _ (entry :: front) := hfront.cons entry
      List.Perm _ (front ++ [entry]) := (List.perm_append_singleton entry front).symm

/-- Entries with increasing keys are the entries of their dictionary `ofList`, in the same order. -/
theorem entries_ofList_of_sorted
    (hsorted : entries.Pairwise fun first second => first.1 < second.1) :
    (ofList entries).entries = entries := by
  have hnodup : (entries.map Prod.fst).Nodup := by
    rw [List.Nodup, List.pairwise_map]
    exact hsorted.imp fun hless => String.ne_of_lt hless
  refine (entries_ofList_perm hnodup).eq_of_pairwise ?_ (ofList entries).sorted hsorted
  intro first second _ _ hless hgreater
  exact absurd hgreater (String.lt_asymm hless)

theorem ext_entries {first second : Dictionary α} (hentries : first.entries = second.entries) :
    first = second := by
  cases first
  cases second
  cases hentries
  rfl

/-- A dictionary is `ofList` of its entries. -/
theorem ofList_entries (dictionary : Dictionary α) : ofList dictionary.entries = dictionary :=
  ext_entries (entries_ofList_of_sorted dictionary.sorted)

end Dictionary

namespace Json

variable {α β : Type}

/-! ## Parts of a value -/

/-- The items of a list, and the values of an object. -/
def children : Json → List Json
  | .array items => items
  | .object entries => entries.map Prod.snd
  | _ => []

theorem depth_le_itemsDepth {item : Json} {items : List Json} (hmem : item ∈ items) :
    item.depth ≤ itemsDepth items := by
  induction items with
  | nil => cases hmem
  | cons head rest ih =>
    rw [itemsDepth]
    rcases List.mem_cons.mp hmem with rfl | hrest
    · exact Nat.le_max_left _ _
    · exact Nat.le_trans (ih hrest) (Nat.le_max_right _ _)

theorem depth_le_entriesDepth {value : Json} {entries : List (String × Json)}
    (hmem : value ∈ entries.map Prod.snd) : value.depth ≤ entriesDepth entries := by
  induction entries with
  | nil => cases hmem
  | cons head rest ih =>
    rw [entriesDepth]
    rcases List.mem_cons.mp hmem with rfl | hrest
    · exact Nat.le_max_left _ _
    · exact Nat.le_trans (ih hrest) (Nat.le_max_right _ _)

/-- A value has a greater `depth` than each of its `children`. -/
theorem depth_lt_of_mem_children {child value : Json} (hmem : child ∈ value.children) :
    child.depth < value.depth := by
  cases value with
  | array items =>
    rw [depth]
    exact Nat.lt_succ_of_le (depth_le_itemsDepth hmem)
  | object entries =>
    rw [depth]
    exact Nat.lt_succ_of_le (depth_le_entriesDepth hmem)
  | null | bool _ | integer _ | real _ | string _ | illegible => cases hmem

theorem depth_pos (value : Json) : 0 < value.depth := by
  cases value <;> simp [depth]

theorem canonicalItems_eq_map (items : List Json) : canonicalItems items = items.map canonical := by
  induction items with
  | nil => rfl
  | cons item rest ih => rw [canonicalItems, ih, List.map_cons]

theorem canonicalEntries_eq_map (entries : List (String × Json)) :
    canonicalEntries entries = entries.map fun entry => (entry.1, entry.2.canonical) := by
  induction entries with
  | nil => rfl
  | cons entry rest ih => rw [canonicalEntries, ih, List.map_cons]

theorem canonical_array (items : List Json) :
    (array items).canonical = .array (items.map canonical) := by
  rw [canonical, canonicalItems_eq_map]

/-- The form `canonical` of an object whose keys are distinct only moves its entries. -/
theorem canonical_object_perm {entries : List (String × Json)}
    (hnodup : (entries.map Prod.fst).Nodup) :
    ∃ sorted, (object entries).canonical = .object sorted ∧
      sorted.Perm (entries.map fun entry => (entry.1, entry.2.canonical)) := by
  refine ⟨_, rfl, ?_⟩
  rw [canonicalEntries_eq_map]
  apply Dictionary.entries_ofList_perm
  rw [List.map_map]
  exact hnodup

/-- The form `canonical` leaves the keys of an object where they are if they are in order. -/
theorem canonical_object_of_sorted {entries : List (String × Json)}
    (hsorted : entries.Pairwise fun first second => first.1 < second.1) :
    (object entries).canonical
      = .object (entries.map fun entry => (entry.1, entry.2.canonical)) := by
  rw [canonical, canonicalEntries_eq_map, Dictionary.entries_ofList_of_sorted]
  exact List.pairwise_map.mpr hsorted

/-! ## Objects as arrays -/

namespace Field

@[simp] theorem name_of (name : String) (required : Bool) (read : Json → Decoded β)
    (put : β → α → α) : (of name required read put).name = name :=
  rfl

/-- Two fields can be stored one after the other with `Field.store`, in either order. -/
def Commute (first second : Field α) : Prop :=
  ∀ value other draft result,
    (first.store value draft).bind (second.store other) = .ok result ↔
      (second.store other draft).bind (first.store value) = .ok result

instance : Std.Symm (@Commute α) :=
  ⟨fun _ _ hcommute value other draft result => (hcommute other value draft result).symm⟩

/-- Fields made with `Field.of` that are put into different places of a structure `Commute`. -/
@[simp] theorem commute_of {γ : Type} {name other : String} {required otherRequired : Bool}
    {read : Json → Decoded β} {readOther : Json → Decoded γ} {put : β → α → α}
    {putOther : γ → α → α}
    (hput : ∀ item otherItem draft,
      putOther otherItem (put item draft) = put item (putOther otherItem draft)) :
    Commute (.of name required read put) (.of other otherRequired readOther putOther) := by
  intro value otherValue draft result
  simp only [of]
  cases read value with
  | error reason => cases readOther otherValue <;> simp [Except.map, Except.bind]
  | ok item =>
    cases readOther otherValue with
    | error reason => simp [Except.map, Except.bind]
    | ok otherItem => simp [Except.map, Except.bind, hput]

end Field

namespace Shape

variable {shape : Shape α} {draft result : α} {seen : List String}

/-- The fields of a shape have distinct names, and the order in which they are stored does not
matter. -/
structure Lawful (shape : Shape α) : Prop where
  distinct : (shape.fields.map Field.name).Nodup
  commute : shape.fields.Pairwise Field.Commute

/-- Cons reading of `readEntries`: the first entry of an object is passed over, or stored into its
field. -/
theorem readEntries_cons_eq_ok_iff {key : String} {value : Json} {rest : List (String × Json)} :
    shape.readEntries ((key, value) :: rest) seen draft = .ok result ↔
      (shape.fields.find? (·.name == key) = none ∧ shape.closed = false ∧
          shape.readEntries rest seen draft = .ok result) ∨
        ∃ field next, shape.fields.find? (·.name == key) = some field ∧ key ∉ seen ∧
          field.store value draft = .ok next ∧
          shape.readEntries rest (key :: seen) next = .ok result := by
  rw [readEntries]
  cases hfield : shape.fields.find? (·.name == key) with
  | none => cases shape.closed <;> simp
  | some field =>
    by_cases hseen : key ∈ seen
    · simp [hseen]
    · cases hstore : field.store value draft <;> simp [hseen, hstore]

/-- Which fields have been stored matters to `readEntries`, not in which order. -/
theorem readEntries_congr_seen {entries : List (String × Json)} {other : List String}
    (hseen : ∀ name, seen.contains name = other.contains name) :
    shape.readEntries entries seen draft = shape.readEntries entries other draft := by
  induction entries generalizing seen other draft with
  | nil => simp only [readEntries, hseen]
  | cons entry rest ih =>
    have hcons : ∀ name, (entry.1 :: seen).contains name = (entry.1 :: other).contains name := by
      intro name
      rw [List.contains_cons, List.contains_cons, hseen]
    simp only [readEntries, hseen, ih hseen, ih hcons]

/-- A field of a `Lawful` shape is found under its name. -/
theorem Lawful.find?_name (hlawful : shape.Lawful) {field : Field α} (hmem : field ∈ shape.fields) :
    shape.fields.find? (·.name == field.name) = some field := by
  cases hfind : shape.fields.find? (·.name == field.name) with
  | none => simpa using List.find?_eq_none.mp hfind field hmem
  | some other =>
    have hname : other.name = field.name := by simpa using List.find?_some hfind
    have hother := List.mem_of_find?_eq_some hfind
    rw [List.inj_on_of_nodup_map hlawful.distinct hother hmem hname]

/-- The fields of two different names of a `Lawful` shape `Commute`. -/
theorem Lawful.commute_of_find? (hlawful : shape.Lawful) {key other : String}
    {field otherField : Field α} (hkeys : key ≠ other)
    (hfield : shape.fields.find? (·.name == key) = some field)
    (hother : shape.fields.find? (·.name == other) = some otherField) :
    field.Commute otherField := by
  have hname : field.name = key := by simpa using List.find?_some hfield
  have hotherName : otherField.name = other := by simpa using List.find?_some hother
  refine hlawful.commute.forall (List.mem_of_find?_eq_some hfield)
    (List.mem_of_find?_eq_some hother) ?_
  rintro rfl
  exact hkeys (hname.symm.trans hotherName)

/-- Two entries at the front of an object may change places: `readEntries` of a `Lawful` shape gives
the same. -/
theorem Lawful.readEntries_swap (hlawful : shape.Lawful) {first second : String × Json}
    {rest : List (String × Json)}
    (hread : shape.readEntries (first :: second :: rest) seen draft = .ok result) :
    shape.readEntries (second :: first :: rest) seen draft = .ok result := by
  obtain ⟨key, value⟩ := first
  obtain ⟨other, otherValue⟩ := second
  rw [readEntries_cons_eq_ok_iff] at hread
  rcases hread with ⟨hnone, hclosed, hread⟩ | ⟨field, next, hfield, hkey, hstore, hread⟩
  · -- the first entry belongs to no field, and is passed over wherever it stands
    rw [readEntries_cons_eq_ok_iff] at hread
    rcases hread with ⟨hotherNone, -, hrest⟩ | ⟨field, next, hfield, hother, hstore, hrest⟩
    · refine readEntries_cons_eq_ok_iff.mpr (Or.inl ⟨hotherNone, hclosed, ?_⟩)
      exact readEntries_cons_eq_ok_iff.mpr (Or.inl ⟨hnone, hclosed, hrest⟩)
    · refine readEntries_cons_eq_ok_iff.mpr (Or.inr ⟨field, next, hfield, hother, hstore, ?_⟩)
      exact readEntries_cons_eq_ok_iff.mpr (Or.inl ⟨hnone, hclosed, hrest⟩)
  · rw [readEntries_cons_eq_ok_iff] at hread
    rcases hread with ⟨hotherNone, hclosed, hrest⟩ |
      ⟨otherField, last, hotherField, hother, hotherStore, hrest⟩
    · refine readEntries_cons_eq_ok_iff.mpr (Or.inl ⟨hotherNone, hclosed, ?_⟩)
      exact readEntries_cons_eq_ok_iff.mpr (Or.inr ⟨field, next, hfield, hkey, hstore, hrest⟩)
    · -- both are stored, under different keys, because no field may be given twice
      rw [List.mem_cons, not_or] at hother
      have hboth : (field.store value draft).bind (otherField.store otherValue) = .ok last := by
        rw [hstore]
        exact hotherStore
      have hcommute := hlawful.commute_of_find? (Ne.symm hother.1) hfield hotherField
      rw [hcommute value otherValue draft last] at hboth
      cases hmiddle : otherField.store otherValue draft with
      | error reason =>
        rw [hmiddle] at hboth
        cases hboth
      | ok middle =>
        rw [hmiddle] at hboth
        refine readEntries_cons_eq_ok_iff.mpr
          (Or.inr ⟨otherField, middle, hotherField, hother.2, hmiddle, ?_⟩)
        refine readEntries_cons_eq_ok_iff.mpr (Or.inr ⟨field, last, hfield, ?_, hboth, ?_⟩)
        · rw [List.mem_cons, not_or]
          exact ⟨Ne.symm hother.1, hkey⟩
        · rw [← hrest]
          apply readEntries_congr_seen
          intro name
          simp only [List.contains_cons, Bool.or_left_comm]

/-- The order of an object's keys does not matter to `readEntries` of a `Lawful` shape. Induction on
the permutation, from `Lawful.readEntries_swap`. -/
theorem Lawful.readEntries_perm (hlawful : shape.Lawful) {first second : List (String × Json)}
    (hperm : first.Perm second) (hread : shape.readEntries first seen draft = .ok result) :
    shape.readEntries second seen draft = .ok result := by
  induction hperm generalizing seen draft with
  | nil => exact hread
  | cons entry hperm ih =>
    rw [readEntries_cons_eq_ok_iff] at hread ⊢
    refine hread.imp (fun ⟨hnone, hclosed, hrest⟩ => ⟨hnone, hclosed, ih hrest⟩) ?_
    rintro ⟨field, next, hfield, hkey, hstore, hrest⟩
    exact ⟨field, next, hfield, hkey, hstore, ih hrest⟩
  | swap first second rest => exact hlawful.readEntries_swap hread
  | trans _ _ ih ih' => exact ih' (ih hread)

/-- The entries that give the fields from some field on in their order are read by `readEntries` as
`readItems` reads their values. -/
theorem Lawful.readEntries_zip (hlawful : shape.Lawful) {dialect : Dialect} {length index : Nat}
    {before after : List (Field α)} (hfields : shape.fields = before ++ after)
    (hseen : ∀ name, name ∈ seen ↔ name ∈ before.map Field.name) {values : List Json}
    (hlength : values.length = after.length) :
    shape.readEntries ((after.map Field.name).zip values) seen draft
      = shape.readItems dialect length index after values draft := by
  -- `before` are the fields that have been stored: they grow by one with every entry
  induction after generalizing before seen draft index values with
  | nil =>
    rw [List.length_eq_zero_iff.mp hlength, List.map_nil, List.zip_nil_left, readEntries, readItems]
    have hgiven : (shape.fields.find? fun field => field.required && !seen.contains field.name)
        = none := by
      rw [List.find?_eq_none, hfields, List.append_nil]
      intro field hmem
      simp [hseen, List.mem_map_of_mem hmem]
    rw [hgiven]
  | cons field rest ih =>
    -- the first entry is stored into the first of the fields that are left, as the first item is
    obtain ⟨value, others, rfl⟩ := List.exists_cons_of_length_eq_add_one hlength
    have hdistinct := hlawful.distinct
    rw [hfields, List.map_append, List.nodup_append] at hdistinct
    have hnew : field.name ∉ before.map Field.name :=
      fun hmem => hdistinct.2.2 _ hmem _ (List.mem_map_of_mem List.mem_cons_self) rfl
    have hcontains : seen.contains field.name = false := by
      simpa [hseen] using hnew
    have hmem : field ∈ shape.fields := by
      rw [hfields]
      exact List.mem_append_right before List.mem_cons_self
    rw [List.map_cons, List.zip_cons_cons, readEntries, hlawful.find?_name hmem, readItems]
    simp only [hcontains, Bool.false_eq_true, if_false]
    cases field.store value draft with
    | error reason => rfl
    | ok next =>
      have hsplit : shape.fields = (before ++ [field]) ++ rest := by
        rw [hfields, List.append_assoc, List.singleton_append]
      refine ih hsplit (fun name => ?_) (Nat.succ.inj hlength)
      rw [List.mem_cons, hseen, List.map_append, List.mem_append, List.map_singleton,
        List.mem_singleton, or_comm]

/-- An object with all fields in their order is read by `Shape.read` like the array of its values.
-/
theorem Lawful.read_object_zip (hlawful : shape.Lawful) (dialect : Dialect) {values : List Json}
    (hlength : values.length = shape.fields.length) :
    shape.read dialect (.object ((shape.fields.map Field.name).zip values))
      = shape.read dialect (.array values) := by
  rw [read, read]
  exact hlawful.readEntries_zip (List.nil_append _).symm (fun _ => Iff.rfl) hlength

end Shape

/-! ## Readers that agree on the parts of a value -/

theorem eachItem_congr {first second : Json → Decoded α} {items : List Json}
    (hitems : ∀ item ∈ items, first item = second item) :
    eachItem first items = eachItem second items := by
  induction items with
  | nil => rfl
  | cons item rest ih =>
    rw [List.forall_mem_cons] at hitems
    rw [eachItem, eachItem, hitems.1, ih hitems.2]

theorem asList_congr {first second : Json → Decoded α} {value : Json}
    (hchildren : ∀ child ∈ value.children, first child = second child) :
    asList first value = asList second value := by
  cases value with
  | array items => exact eachItem_congr hchildren
  | null | bool _ | integer _ | real _ | string _ | object _ | illegible => rfl

/-- Two fields do the same with each of a list of values. -/
structure Field.AgreeOn (values : List Json) (first second : Field α) : Prop where
  name : first.name = second.name
  required : first.required = second.required
  store : ∀ value ∈ values, ∀ draft, first.store value draft = second.store value draft

theorem Field.AgreeOn.of_read {values : List Json} {name : String} {required : Bool}
    {read other : Json → Decoded β} {put : β → α → α}
    (hread : ∀ value ∈ values, read value = other value) :
    AgreeOn values (.of name required read put) (.of name required other put) where
  name := rfl
  required := rfl
  store value hmem draft := by simp only [of, hread value hmem]

theorem Field.AgreeOn.refl (values : List Json) (field : Field α) : AgreeOn values field field :=
  ⟨rfl, rfl, fun _ _ _ => rfl⟩

/-- In two lists of related elements `List.find?` finds nothing, or related elements. -/
theorem find?_of_forall₂ {R : α → β → Prop} {items : List α} {others : List β}
    (hall : List.Forall₂ R items others) {p : α → Bool} {q : β → Bool}
    (hpq : ∀ item other, R item other → p item = q other) :
    (items.find? p = none ∧ others.find? q = none) ∨
      ∃ item other, items.find? p = some item ∧ others.find? q = some other ∧ R item other := by
  induction hall with
  | nil => exact Or.inl ⟨rfl, rfl⟩
  | cons hrel _ ih =>
    rw [List.find?_cons, List.find?_cons, hpq _ _ hrel]
    split
    · exact Or.inr ⟨_, _, rfl, rfl, hrel⟩
    · exact ih

namespace Shape

variable {shape : Shape α} {others : List (Field α)} {values : List Json}

theorem readEntries_congr (hfields : List.Forall₂ (Field.AgreeOn values) shape.fields others)
    {entries : List (String × Json)} (hentries : ∀ entry ∈ entries, entry.2 ∈ values)
    (seen : List String) (draft : α) :
    readEntries { shape with fields := others } entries seen draft
      = shape.readEntries entries seen draft := by
  induction entries generalizing seen draft with
  | nil =>
    -- the first required field without an entry is missed, which has the same name in both
    have hmissing := find?_of_forall₂ hfields fun field other hagree =>
      show (field.required && !seen.contains field.name)
        = (other.required && !seen.contains other.name) by rw [hagree.name, hagree.required]
    rw [readEntries, readEntries]
    rcases hmissing with ⟨hnone, hotherNone⟩ | ⟨field, other, hfield, hother, hagree⟩
    · rw [hnone, hotherNone]
    · rw [hfield, hother]
      simp only [hagree.name]
  | cons entry rest ih =>
    rw [List.forall_mem_cons] at hentries
    have hfound := find?_of_forall₂ hfields fun field other hagree =>
      show (field.name == entry.1) = (other.name == entry.1) by rw [hagree.name]
    rw [readEntries, readEntries]
    rcases hfound with ⟨hnone, hotherNone⟩ | ⟨field, other, hfield, hother, hagree⟩
    · -- an unknown key is refused with all the names
      have hnames : List.Forall₂ (· = ·) (shape.fields.map Field.name) (others.map Field.name) := by
        rw [List.forall₂_map_left_iff, List.forall₂_map_right_iff]
        exact hfields.imp fun _ _ hagree => hagree.name
      rw [List.forall₂_eq_eq_eq] at hnames
      rw [hnone, hotherNone]
      simp only [hnames, ih hentries.2]
    · rw [hfield, hother]
      simp only [hagree.store entry.2 hentries.1 draft, ih hentries.2]

theorem readItems_congr {shape : Shape α} {others fields otherFields : List (Field α)}
    (hlength : others.length = shape.fields.length)
    (hfields : List.Forall₂ (Field.AgreeOn values) fields otherFields) {items : List Json}
    (hitems : ∀ item ∈ items, item ∈ values) (dialect : Dialect) (length index : Nat)
    (draft : α) :
    readItems { shape with fields := others } dialect length index otherFields items draft
      = shape.readItems dialect length index fields items draft := by
  -- the message for a short array shows how many fields there are
  have htitle : titleWithSize { shape with fields := others } = shape.titleWithSize := by
    simp only [titleWithSize, title, hlength]
  induction hfields generalizing items index draft with
  | nil => cases items <;> rfl
  | cons hagree _ ih =>
    cases items with
    | nil => simp only [readItems, hagree.required, htitle, ih hitems]
    | cons item rest =>
      rw [List.forall_mem_cons] at hitems
      simp only [readItems, hagree.store item hitems.1 draft, ih hitems.2]

/-- Fields that do the same with the parts of a value (`Field.AgreeOn`) may replace each other in
`Shape.read` of it. -/
theorem read_congr {value : Json}
    (hfields : List.Forall₂ (Field.AgreeOn value.children) shape.fields others)
    (dialect : Dialect) :
    read { shape with fields := others } dialect value = shape.read dialect value := by
  cases value with
  | object entries =>
    exact readEntries_congr hfields (fun entry hmem => List.mem_map_of_mem hmem) [] shape.blank
  | array items =>
    exact readItems_congr hfields.length_eq.symm hfields (fun _ hmem => hmem) dialect _ _ _
  | null | bool _ | integer _ | real _ | string _ | illegible => rfl

end Shape

/-! ## Values that read as members -/

/-- A value reads as a member of a type, in the order in which it is written and with the keys of
all its objects sorted by `Json.canonical`. -/
structure ReadsAs (read : Json → Decoded α) (value : Json) (member : α) : Prop where
  written : read value = .ok member
  sorted : read value.canonical = .ok member

theorem ReadsAs.map {read : Json → Decoded α} {value : Json} {member : α}
    (hread : ReadsAs read value member) (f : α → β) :
    ReadsAs (fun value => (read value).map f) value (f member) := by
  constructor
  · rw [hread.written]
    rfl
  · rw [hread.sorted]
    rfl

theorem readsAs_string (text : String) : ReadsAs asString (.string text) text := ⟨rfl, rfl⟩

theorem readsAs_text (expected text : String) : ReadsAs (asText expected) (.string text) text :=
  ⟨rfl, rfl⟩

theorem readsAs_bool (value : Bool) : ReadsAs asBool (.bool value) value := ⟨rfl, rfl⟩

theorem readsAs_integer {low high value : Int} (expected : String) (hlow : low ≤ value)
    (hhigh : value ≤ high) : ReadsAs (asInteger low high expected) (.integer value) value := by
  have hread : asInteger low high expected (.integer value) = .ok value :=
    if_pos ⟨hlow, hhigh⟩
  exact ⟨hread, hread⟩

theorem readsAs_natural {high value : Nat} (expected : String) (hhigh : value ≤ high) :
    ReadsAs (asNatural high expected) (.integer value) value := by
  have hinteger := readsAs_integer expected (Int.natCast_nonneg value) (Int.ofNat_le.mpr hhigh)
  exact hinteger.map Int.toNat

theorem readsAs_optionalString (text : Option String) :
    ReadsAs (asOption asString) (.ofOption (text.map .string)) text := by
  cases text <;> exact ⟨rfl, rfl⟩

/-- The name of a variant `ReadsAs` the variant in every dialect. -/
theorem readsAs_variant {variants : List (String × α)} {name : String} {variant : α}
    (dialect : Dialect) (hfind : variants.find? (·.1 == name) = some (name, variant)) :
    ReadsAs (asVariant dialect variants) (.string name) variant := by
  have hread : asVariant dialect variants (.string name) = .ok variant := by
    simp [asVariant, asVariantName, variantNamed, hfind, Bind.bind, Except.bind]
  exact ⟨hread, hread⟩

section Lists

variable {read : Json → Decoded α}

theorem readsAs_nil : ReadsAs (asList read) (.array []) [] := ⟨rfl, rfl⟩

theorem ReadsAs.cons {value : Json} {values : List Json} {member : α} {members : List α}
    (hfirst : ReadsAs read value member) (hrest : ReadsAs (asList read) (.array values) members) :
    ReadsAs (asList read) (.array (value :: values)) (member :: members) := by
  have hsorted := hrest.sorted
  rw [canonical_array] at hsorted
  constructor
  · have hwritten : eachItem read values = .ok members := hrest.written
    rw [asList, eachItem, hfirst.written, hwritten]
    rfl
  · rw [canonical_array, asList, List.map_cons, eachItem, hfirst.sorted]
    have hsorted' : eachItem read (values.map canonical) = .ok members := hsorted
    rw [hsorted']
    rfl

/-- A list `ReadsAs` the members as which its items read. -/
theorem readsAs_list {write : α → Json} {members : List α}
    (hmembers : ∀ member ∈ members, ReadsAs read (write member) member) :
    ReadsAs (asList read) (.array (members.map write)) members := by
  induction members with
  | nil => exact readsAs_nil
  | cons member rest ih =>
    rw [List.forall_mem_cons] at hmembers
    exact hmembers.1.cons (ih hmembers.2)

theorem readsAs_strings (texts : List String) :
    ReadsAs (asList asString) (.strings texts) texts :=
  readsAs_list fun text _ => readsAs_string text

theorem eachEntry_eq_foldl (write : α → Json) {entries : List (String × α)}
    (hentries : ∀ entry ∈ entries, read (write entry.2) = .ok entry.2)
    (dictionary : Dictionary α) :
    eachEntry read (entries.map fun entry => (entry.1, write entry.2)) dictionary
      = .ok (entries.foldl (fun found entry => found.insert entry.1 entry.2) dictionary) := by
  induction entries generalizing dictionary with
  | nil => rfl
  | cons entry rest ih =>
    rw [List.forall_mem_cons] at hentries
    rw [List.map_cons, eachEntry, hentries.1]
    exact ih hentries.2 _

/-- A dictionary `ReadsAs` itself if its values do; its keys are in order already. -/
theorem readsAs_dictionary {write : α → Json} {dictionary : Dictionary α}
    (hentries : ∀ entry ∈ dictionary.entries, ReadsAs read (write entry.2) entry.2) :
    ReadsAs (asDictionary read)
      (.object (dictionary.entries.map fun entry => (entry.1, write entry.2))) dictionary := by
  constructor
  · rw [asDictionary, eachEntry_eq_foldl write fun entry hmem => (hentries entry hmem).written]
    exact congrArg Except.ok (Dictionary.ofList_entries dictionary)
  · -- the keys of a dictionary increase, so that sorting leaves them where they are
    rw [canonical_object_of_sorted (List.pairwise_map.mpr dictionary.sorted), List.map_map,
      asDictionary]
    refine (eachEntry_eq_foldl (fun member => (write member).canonical)
      (fun entry hmem => (hentries entry hmem).sorted) .empty).trans ?_
    exact congrArg Except.ok (Dictionary.ofList_entries dictionary)

end Lists

/-- Values fill the fields of a structure: each `ReadsAs` an item that is put into the draft. -/
inductive Fills : List (Field α) → List Json → α → α → Prop
  | nil {draft : α} : Fills [] [] draft draft
  | cons {β : Type} {name : String} {required : Bool} {read : Json → Decoded β} {put : β → α → α}
      {fields : List (Field α)} {value : Json} {values : List Json} {item : β} {draft result : α}
      (first : ReadsAs read value item) (others : Fills fields values (put item draft) result) :
      Fills (.of name required read put :: fields) (value :: values) draft result

namespace Fills

variable {fields : List (Field α)} {values : List Json} {draft result : α}

theorem length_eq (hfills : Fills fields values draft result) : values.length = fields.length := by
  induction hfills with
  | nil => rfl
  | cons _ _ ih => rw [List.length_cons, List.length_cons, ih]

theorem readItems_eq_ok (hfills : Fills fields values draft result) (shape : Shape α)
    (dialect : Dialect) (length index : Nat) :
    shape.readItems dialect length index fields values draft = .ok result ∧
      shape.readItems dialect length index fields (values.map canonical) draft = .ok result := by
  induction hfills generalizing index with
  | nil => exact ⟨rfl, rfl⟩
  | cons first _ ih =>
    simp only [List.map_cons, Shape.readItems, Field.of, first.written, first.sorted, Except.map]
    exact ih (index + 1)

end Fills

/-- An object with the fields of a `Lawful` shape `ReadsAs` the structure that its values fill
(`Fills`). -/
theorem readsAs_object {shape : Shape α} (hlawful : shape.Lawful) {values : List Json} {result : α}
    (hfills : Fills shape.fields values shape.blank result) (dialect : Dialect) :
    ReadsAs (shape.read dialect) (.object ((shape.fields.map Field.name).zip values)) result := by
  have hlength := hfills.length_eq
  have hlength' : (values.map canonical).length = shape.fields.length := by
    rw [List.length_map, hlength]
  -- sorted values fill the fields in the same way
  have hsortedValues : shape.read dialect
      (.object ((shape.fields.map Field.name).zip (values.map canonical))) = .ok result := by
    rw [hlawful.read_object_zip dialect hlength']
    exact (hfills.readItems_eq_ok shape dialect _ 0).2
  constructor
  · rw [hlawful.read_object_zip dialect hlength]
    exact (hfills.readItems_eq_ok shape dialect _ 0).1
  · -- sorting moves the entries from the order of the fields, which does not matter to reading
    have hkeys : ((shape.fields.map Field.name).zip values).map Prod.fst
        = shape.fields.map Field.name := by
      apply List.map_fst_zip
      rw [List.length_map]
      exact Nat.le_of_eq hlength.symm
    obtain ⟨sorted, hsorted, hperm⟩ := canonical_object_perm (hkeys ▸ hlawful.distinct)
    have hvalues : (((shape.fields.map Field.name).zip values).map fun entry =>
        (entry.1, entry.2.canonical))
          = (shape.fields.map Field.name).zip (values.map canonical) := by
      rw [List.zip_map_right]
      rfl
    rw [hvalues] at hperm
    rw [hsorted]
    exact hlawful.readEntries_perm hperm.symm hsortedValues

end Json

end Companion
