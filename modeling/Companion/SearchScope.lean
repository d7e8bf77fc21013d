/-! # Search scopes

The regions of the object graph in which a component is looked for. A `SearchScope` is a word whose
three low bits stand for the regions; other bits carry no region and are kept as they are. -/

namespace Companion

/-- A region of the object graph around the annotated object. -/
inductive Region
  /-- The annotated object. -/
  | self
  /-- Its descendants. -/
  | children
  /-- Its ancestors. -/
  | parent
  deriving DecidableEq, Repr

namespace Region

/-- All regions, in the order in which they are searched: `self`, `children`, `parent`. -/
def all : List Region := [.self, .children, .parent]

/-- The name of a region in configurations and reports. -/
def name : Region → String
  | .self => "self"
  | .children => "children"
  | .parent => "parent"

/-- The region of a given name, if there is one: the inverse of `Region.name`. -/
def ofName? (name : String) : Option Region := all.find? (·.name == name)

/-- The bit that stands for a region in `SearchScope.bits`. -/
def bit : Region → UInt32
  | .self => 1
  | .children => 2
  | .parent => 4

@[simp] theorem mem_all (region : Region) : region ∈ all := by cases region <;> decide

@[simp] theorem ofName?_name (region : Region) : ofName? region.name = some region := by
  cases region <;> decide

end Region

/-- A set of regions, as a word of bits. -/
structure SearchScope where
  /-- The word: bits 1, 2 and 4 stand for the object, its descendants and its ancestors. -/
  bits : UInt32
  deriving DecidableEq, Repr

namespace SearchScope

/-- The scope without any bit. -/
def empty : SearchScope := ⟨0⟩

/-- The scope of one region: its word is `Region.bit`. -/
def only (region : Region) : SearchScope := ⟨region.bit⟩

/-- The scope with the bits of both: `contains` holds of the regions of either. -/
def union (first second : SearchScope) : SearchScope := ⟨first.bits ||| second.bits⟩

/-- Whether a scope holds a region: its word has the `Region.bit` of the region. -/
def contains (scope : SearchScope) (region : Region) : Bool :=
  scope.bits &&& region.bit == region.bit

/-- Whether a scope has no bit at all, unknown ones included: its word is that of `empty`. -/
def isEmpty (scope : SearchScope) : Bool := scope.bits == 0

/-- The regions that a scope `contains`, in the order of `Region.all`. -/
def regions (scope : SearchScope) : List Region := Region.all.filter scope.contains

@[simp] theorem mem_regions {scope : SearchScope} {region : Region} :
    region ∈ scope.regions ↔ scope.contains region = true := by
  simp [regions]

/-- The names of the `regions` of a scope. -/
def names (scope : SearchScope) : List String := scope.regions.map Region.name

/-- The `names` of a scope for a reader: `self | parent`, or `none`. -/
def display (scope : SearchScope) : String :=
  if scope.names.isEmpty then "none" else " | ".intercalate scope.names

/-- The scope of all regions: `all.bits` has the three bits that stand for one. -/
def all : SearchScope := (only .self).union ((only .children).union (only .parent))

/-- The largest word all of whose bits stand for regions, which is that of `all`. -/
def maxBits : Nat := 7

/-- The word of an integer; none if it is negative or needs more than 32 bits. -/
def wordOf? (raw : Int) : Option UInt32 :=
  if 0 ≤ raw ∧ raw < UInt32.size then some raw.toNat.toUInt32 else none

/-- The scope of a word; none if the word has a bit that is not in `all.bits`. -/
def ofBits? (bits : UInt32) : Option SearchScope :=
  if bits &&& all.bits = bits then some ⟨bits⟩ else none

/-- The scope of an attribute's integer constant: `wordOf?` takes it as a word and `ofBits?` takes
the word as a scope. None if one of the two fails. -/
def ofRaw? (raw : Int) : Option SearchScope := (wordOf? raw).bind ofBits?

/-- Masking a word with `all.bits` leaves its remainder modulo eight. -/
theorem toNat_and_all (bits : UInt32) : (bits &&& all.bits).toNat = bits.toNat % 8 := by
  rw [UInt32.toNat_and]
  exact Nat.and_two_pow_sub_one_eq_mod bits.toNat 3

/-- A word is one of `ofBits?` exactly if it is at most `maxBits`. -/
theorem and_all_eq_iff (bits : UInt32) : bits &&& all.bits = bits ↔ bits.toNat ≤ maxBits := by
  rw [← UInt32.toNat_inj, toNat_and_all, maxBits]
  omega

/-- The two conversions of `ofRaw?` in one: a constant gives a scope exactly if it is between zero
and `maxBits`, and the scope has the constant as its word. -/
theorem ofRaw?_eq (raw : Int) :
    ofRaw? raw = if 0 ≤ raw ∧ raw ≤ maxBits then some ⟨raw.toNat.toUInt32⟩ else none := by
  rw [ofRaw?, wordOf?]
  split
  case isTrue hword =>
    have hsize : raw < 4294967296 := hword.2
    have hbits : raw.toNat.toUInt32.toNat = raw.toNat := by
      rw [Nat.toUInt32, UInt32.toNat_ofNat']
      omega
    have hlow : raw.toNat.toUInt32 &&& all.bits = raw.toNat.toUInt32 ↔ 0 ≤ raw ∧ raw ≤ maxBits := by
      rw [and_all_eq_iff, hbits, maxBits]
      omega
    simp only [Option.bind_some, ofBits?, hlow]
  case isFalse hword =>
    -- what is no word is too large for a scope
    have hlarge : ¬ (0 ≤ raw ∧ raw ≤ maxBits) := by
      rintro ⟨hsign, hbound⟩
      have hsize : raw < UInt32.size := Int.lt_of_le_of_lt hbound (by decide)
      exact hword ⟨hsign, hsize⟩
    rw [if_neg hlarge, Option.bind_none]

/-- The `union` of the regions with the given names, or the first name of which `Region.ofName?`
makes no region. -/
def ofNames : List String → Except String SearchScope
  | [] => .ok empty
  | name :: rest =>
    match Region.ofName? name with
    | none => .error name
    | some region => (ofNames rest).map (only region).union

end SearchScope

end Companion
