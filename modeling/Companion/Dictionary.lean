/-! # Dictionaries

A `Dictionary` maps texts to values and keeps its keys in increasing order, so that two dictionaries
with the same entries are equal. `get?_insert` says what an insertion does to the values. -/

namespace Companion

/-- A finite map from texts, as entries with strictly increasing keys. -/
structure Dictionary (α : Type) where
  /-- The entries in the order of their keys. -/
  entries : List (String × α)
  /-- The keys increase. -/
  sorted : entries.Pairwise fun first second => first.1 < second.1
  deriving DecidableEq

namespace Dictionary

variable {α : Type}

/-- The dictionary without entries. -/
def empty : Dictionary α := ⟨[], List.Pairwise.nil⟩

instance : Inhabited (Dictionary α) := ⟨empty⟩

/-- Puts an entry in its place, instead of the entry with the same key if there is one. -/
def insertEntry (key : String) (value : α) : List (String × α) → List (String × α)
  | [] => [(key, value)]
  | entry :: rest =>
    if key < entry.1 then (key, value) :: entry :: rest
    else if key = entry.1 then (key, value) :: rest
    else entry :: insertEntry key value rest

theorem mem_insertEntry {key : String} {value : α} {entries : List (String × α)}
    {entry : String × α} (member : entry ∈ insertEntry key value entries) :
    entry = (key, value) ∨ entry ∈ entries := by
  induction entries with
  | nil => simpa [insertEntry] using member
  | cons head rest ih =>
    rw [insertEntry] at member
    split at member
    · simpa using member
    · split at member
      · rcases List.mem_cons.mp member with rfl | tail
        · exact Or.inl rfl
        · exact Or.inr (List.mem_cons_of_mem _ tail)
      · rcases List.mem_cons.mp member with rfl | tail
        · exact Or.inr List.mem_cons_self
        · exact (ih tail).imp_right (List.mem_cons_of_mem _)

theorem pairwise_insertEntry (key : String) (value : α) (entries : List (String × α))
    (sorted : entries.Pairwise fun first second => first.1 < second.1) :
    (insertEntry key value entries).Pairwise fun first second => first.1 < second.1 := by
  induction entries with
  | nil => simp [insertEntry]
  | cons head rest ih =>
    obtain ⟨below, tail⟩ := List.pairwise_cons.mp sorted
    rw [insertEntry]
    split
    case isTrue less =>
      refine List.pairwise_cons.mpr ⟨fun entry member => ?_, sorted⟩
      rcases List.mem_cons.mp member with rfl | later
      · exact less
      · exact String.lt_trans less (below entry later)
    case isFalse notLess =>
      split
      case isTrue same =>
        exact List.pairwise_cons.mpr ⟨fun entry member => same ▸ below entry member, tail⟩
      case isFalse different =>
        refine List.pairwise_cons.mpr ⟨fun entry member => ?_, ih tail⟩
        -- what comes later is the new entry or an old one, and both are above the head
        rcases mem_insertEntry member with rfl | later
        · exact Decidable.byContradiction fun notAbove =>
            different (String.le_antisymm (String.not_lt.mp notAbove) (String.not_lt.mp notLess))
        · exact below entry later

/-- The dictionary with an entry added or replaced: `insertEntry` keeps the entries in order. -/
def insert (dictionary : Dictionary α) (key : String) (value : α) : Dictionary α :=
  ⟨insertEntry key value dictionary.entries,
    pairwise_insertEntry key value dictionary.entries dictionary.sorted⟩

/-- The value of a key, if it has one. -/
def get? (dictionary : Dictionary α) (key : String) : Option α :=
  (dictionary.entries.find? (·.1 == key)).map Prod.snd

@[simp] theorem get?_empty (key : String) : (empty : Dictionary α).get? key = none := rfl

theorem find?_insertEntry (key other : String) (value : α) (entries : List (String × α)) :
    (insertEntry key value entries).find? (·.1 == other)
      = if key = other then some (key, value) else entries.find? (·.1 == other) := by
  induction entries with
  | nil => by_cases equal : key = other <;> simp [insertEntry, equal]
  | cons head rest ih =>
    rw [insertEntry]
    split
    case isTrue => by_cases equal : key = other <;> simp [equal]
    case isFalse =>
      split
      case isTrue same =>
        -- the entry of the same key is replaced where it stands
        subst same
        by_cases equal : head.1 = other <;> simp [equal]
      case isFalse different =>
        by_cases equal : head.1 = other
        · have : key ≠ other := fun same => different (same.trans equal.symm)
          simp [equal, this]
        · simp [equal, ih]

/-- Law of `insert`: after it the key has the value, and for other keys `get?` gives the values they
had. -/
theorem get?_insert (dictionary : Dictionary α) (key other : String) (value : α) :
    (dictionary.insert key value).get? other
      = if key = other then some value else dictionary.get? other := by
  unfold get? insert
  rw [find?_insertEntry]
  split <;> rfl

/-- The dictionary of a list of entries, of which the last one with a key counts: `insert` of one
after the other. -/
def ofList (entries : List (String × α)) : Dictionary α :=
  entries.foldl (fun dictionary entry => dictionary.insert entry.1 entry.2) empty

end Dictionary

end Companion
