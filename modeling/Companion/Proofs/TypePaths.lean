import Companion.Proofs.Plan

/-! # What the spelling of a type says

A reference spells a type by its path, which leads through the segments of the namespace and the
containing types to the name, and by its type arguments. `TypeRef.SameType` compares references by
these. No name of a resolvable reference holds a dot, a bracket or a comma, so the path and the type
arguments can be read back: `TypeRef.qualified_eq_iff` says that two references are spelled alike
exactly if they are the same type. `Plan.qualified_eq_iff_merges` adds what this means for a plan,
which tells types apart by their spelling. -/

namespace Companion

open Identifier

namespace TypeRef

/-! ## Paths -/

/-- The segments of the namespace, as `List.splitOn` cuts it at the dots; none in the global one. -/
def spaceSegments (type : TypeRef) : List String :=
  match type.namespaceName with
  | none => []
  | some space => (space.toList.splitOn '.').map String.ofList

/-- The names that lead to a type: the segments of the namespace, the containing types and the name
of the type. -/
def path (type : TypeRef) : List String :=
  type.spaceSegments ++ type.containing ++ [type.name]

/-- A name stands in a reference: on the `path` to its type, or in one of its type arguments, at any
depth. -/
inductive Mentions : TypeRef → String → Prop
  /-- It is on the path. -/
  | path {type : TypeRef} {name : String} (hname : name ∈ type.path) : Mentions type name
  /-- A type argument has it. -/
  | argument {type argument : TypeRef} {name : String} (hargument : argument ∈ type.arguments)
      (hname : Mentions argument name) : Mentions type name

/-- The `path` of a reference consists of identifiers exactly if each part of it does: the
namespace, the containing types and the name. -/
theorem forall_mem_path_iff {type : TypeRef} :
    (∀ name ∈ type.path, isIdentifier name = true) ↔
      (type.namespaceName.all TypeName.isPath = true ∧ type.containing.all isIdentifier = true)
        ∧ isIdentifier type.name = true := by
  have hspace : (∀ name ∈ type.spaceSegments, isIdentifier name = true)
      ↔ type.namespaceName.all TypeName.isPath = true := by
    rw [spaceSegments]
    cases type.namespaceName with
    | none => simp
    | some space => simp [TypeName.isPath, TypeName.isPathChars, isIdentifier]
  rw [path, List.forall_mem_append, List.forall_mem_append, hspace, ← List.all_eq_true]
  simp

mutual

/-- A reference passes `isResolvable` exactly if all names that it `Mentions` are identifiers, by
recursion over the reference and its arguments. -/
theorem isResolvable_iff : (type : TypeRef) →
    (type.isResolvable = true ↔ ∀ name, type.Mentions name → isIdentifier name = true)
  | ⟨namespaceName, containing, own, arguments⟩ => by
    rw [isResolvable, Bool.and_eq_true, Bool.and_eq_true, Bool.and_eq_true,
      ← @forall_mem_path_iff ⟨namespaceName, containing, own, arguments⟩,
      areResolvable_iff arguments]
    constructor
    · rintro ⟨hpath, harguments⟩ name hmentions
      cases hmentions with
      | path hname => exact hpath name hname
      | argument hargument hname => exact harguments _ hargument name hname
    · intro hall
      exact ⟨fun name hname => hall name (.path hname),
        fun argument hargument name hname => hall name (.argument hargument hname)⟩

/-- References pass `areResolvable` exactly if all names that each of them `Mentions` are
identifiers. -/
theorem areResolvable_iff : (arguments : List TypeRef) →
    (areResolvable arguments = true ↔
      ∀ argument ∈ arguments, ∀ name, argument.Mentions name → isIdentifier name = true)
  | [] => by simp [areResolvable]
  | argument :: rest => by
    rw [areResolvable, Bool.and_eq_true, isResolvable_iff argument, areResolvable_iff rest,
      List.forall_mem_cons]

end

/-- A reference is not resolvable exactly if it `Mentions` some name that is no identifier. -/
theorem isResolvable_eq_false_iff {type : TypeRef} :
    type.isResolvable = false ↔ ∃ name, type.Mentions name ∧ isIdentifier name = false := by
  rw [← Bool.not_eq_true, isResolvable_iff]
  simp only [not_forall, Bool.not_eq_true, exists_prop]

/-- The names on the path of a resolvable reference are identifiers. -/
theorem isIdentifier_of_mem_path {type : TypeRef} (htype : type.isResolvable = true) :
    ∀ name ∈ type.path, isIdentifier name = true :=
  fun name hname => (isResolvable_iff type).mp htype name (.path hname)

/-- The type arguments of a resolvable reference are resolvable. -/
theorem areResolvable_arguments {type : TypeRef} (htype : type.isResolvable = true) :
    areResolvable type.arguments = true :=
  (areResolvable_iff type.arguments).mpr fun _ hargument name hname =>
    (isResolvable_iff type).mp htype name (.argument hargument hname)

/-! ## Same types -/

/-- Two references are the same type: they have the same `path`, and as many type arguments, which
are the same types one by one. Where the namespace ends and the containing types begin does not
count. -/
inductive SameType : TypeRef → TypeRef → Prop
  | mk {first second : TypeRef} (hpath : first.path = second.path)
      (harguments : List.Forall₂ SameType first.arguments second.arguments) : SameType first second

theorem SameType.path_eq {first second : TypeRef} (hsame : first.SameType second) :
    first.path = second.path := by
  cases hsame
  assumption

theorem SameType.forall₂_arguments {first second : TypeRef} (hsame : first.SameType second) :
    List.Forall₂ SameType first.arguments second.arguments := by
  cases hsame
  assumption

/-! ## The spelling of a path -/

/-- The spelling of a `path`: what `qualifiedChars` has between the alias of the global namespace
and the type arguments. -/
def pathChars (type : TypeRef) : List Char :=
  (match type.namespaceName with
    | none => []
    | some space => space.toList ++ ['.'])
    ++ (type.containing.flatMap (fun outer => outer.toList ++ ['.']) ++ type.name.toList)

theorem qualifiedChars_eq (type : TypeRef) :
    type.qualifiedChars = TypeName.globalAlias
      ++ (type.pathChars ++ bracketed (argumentChars type.arguments)) := by
  obtain ⟨namespaceName, containing, name, arguments⟩ := type
  rw [qualifiedChars, qualifier.eq_def, pathChars]
  cases namespaceName <;> simp

/-- Names that are each followed by a dot can be read back, up to the last dot. -/
theorem splitOn_flatMap_append {names : List String} (hnames : ∀ name ∈ names, '.' ∉ name.toList)
    (last : List Char) :
    (names.flatMap (fun name => name.toList ++ ['.']) ++ last).splitOn '.'
      = names.map String.toList ++ last.splitOn '.' := by
  induction names with
  | nil => rfl
  | cons name rest ih =>
    rw [List.forall_mem_cons] at hnames
    rw [List.flatMap_cons, List.append_assoc, List.append_assoc, List.singleton_append,
      List.splitOn_append_cons_self, List.splitOn_eq_singleton hnames.1, ih hnames.2,
      List.singleton_append, List.map_cons, List.cons_append]

/-- Between the dots of `pathChars` stand the names of the path, if they are identifiers. -/
theorem splitOn_pathChars {type : TypeRef} (hpath : ∀ name ∈ type.path, isIdentifier name = true) :
    type.pathChars.splitOn '.' = type.path.map String.toList := by
  have hdot : ∀ name ∈ type.containing ++ [type.name], '.' ∉ name.toList := by
    intro name hname
    refine (isWritable_of_identifier (hpath name ?_)).not_mem (by decide)
    rw [path, List.append_assoc]
    exact List.mem_append_right _ hname
  rw [List.forall_mem_append, List.forall_mem_singleton] at hdot
  have hinner := splitOn_flatMap_append hdot.1 type.name.toList
  rw [List.splitOn_eq_singleton hdot.2] at hinner
  rw [pathChars, path, spaceSegments]
  -- the names after the namespace are the same in both cases
  cases type.namespaceName with
  | none => simpa using hinner
  | some space =>
    simp only [List.append_assoc, List.singleton_append]
    rw [List.splitOn_append_cons_self, hinner]
    simp

/-- The spelling `pathChars` is the names of the path with dots between them. -/
theorem pathChars_eq {type : TypeRef} (hpath : ∀ name ∈ type.path, isIdentifier name = true) :
    type.pathChars = ['.'].intercalate (type.path.map String.toList) := by
  rw [← splitOn_pathChars hpath, List.intercalate_splitOn]

/-- Whether a character can stand in the spelling of a path: `isNameChar`, or a dot. -/
def isPathChar (c : Char) : Bool := isNameChar c || c == '.'

/-- No delimiter but the dot stands in a path. -/
theorem isPathChar_delimiter {c : Char} (hc : c ∈ delimiters) (hdot : c ≠ '.') :
    isPathChar c = false := by
  simp [isPathChar, isNameChar_delimiter c hc, hdot]

/-- The spelling of a path ends before the first character that is no `isPathChar`, so
`List.takeWhile` reads it off a text. -/
theorem takeWhile_pathChars_append {type : TypeRef}
    (hpath : ∀ name ∈ type.path, isIdentifier name = true) {rest : List Char}
    (hrest : ∀ c ∈ rest.head?, isPathChar c = false) :
    (type.pathChars ++ rest).takeWhile isPathChar = type.pathChars := by
  have hchars : ∀ c ∈ type.pathChars, isPathChar c = true := by
    intro c hc
    rw [pathChars_eq hpath] at hc
    rcases mem_intercalate hc with hdot | ⟨piece, hpiece, hin⟩
    · simp [isPathChar, List.mem_singleton.mp hdot]
    · obtain ⟨name, hname, rfl⟩ := List.mem_map.mp hpiece
      simp [isPathChar, isNameChar_of_mem_identifier (hpath name hname) hin]
  rw [List.takeWhile_append_of_pos hchars]
  -- what follows ends the path, unless nothing follows
  cases rest with
  | nil => rw [List.takeWhile_nil, List.append_nil]
  | cons c others =>
    rw [List.takeWhile_cons_of_neg (by simp [hrest c rfl]), List.append_nil]

/-! ## The spelling of type arguments -/

/-- What follows a spelled type inside of another one: nothing, a comma or a closing bracket. -/
def Ends (rest : List Char) : Prop := ∀ c ∈ rest.head?, c = ',' ∨ c = '>'

/-- Texts with a comma and a space before each of them, as `bracketed` has all but the first. -/
def listed (pieces : List (List Char)) : List Char := pieces.flatMap (", ".toList ++ ·)

theorem listed_cons (piece : List Char) (rest : List (List Char)) :
    listed (piece :: rest) = ", ".toList ++ (piece ++ listed rest) := by
  rw [listed, listed, List.flatMap_cons, List.append_assoc]

/-- After a spelled type argument in a `listed` text stands a comma or the closing bracket. -/
theorem ends_listed_append (pieces : List (List Char)) (rest : List Char) :
    Ends (listed pieces ++ '>' :: rest) := by
  intro c hc
  cases pieces with
  | nil => exact Or.inr (Option.mem_some.mp hc).symm
  | cons piece others => exact Or.inl (Option.mem_some.mp hc).symm

/-- Between the brackets of `bracketed`, each text but the first is `listed`. -/
theorem bracketed_cons (piece : List Char) (rest : List (List Char)) :
    bracketed (piece :: rest) = '<' :: (piece ++ (listed rest ++ ['>'])) := by
  have hinner : ", ".toList.intercalate (piece :: rest) = piece ++ listed rest := by
    induction rest generalizing piece with
    | nil => simp [listed]
    | cons next others ih =>
      rw [List.intercalate_cons_cons, ih, listed_cons, List.append_assoc]
  rw [bracketed, hinner]
  simp

/-- A property of what a text goes on with holds of a `bracketed` list before it, if it holds of the
opening bracket: the list is empty or starts with one. -/
theorem forall_head?_bracketed_append {p : Char → Prop} (hopen : p '<') (pieces : List (List Char))
    {rest : List Char} (hrest : ∀ c ∈ rest.head?, p c) :
    ∀ c ∈ (bracketed pieces ++ rest).head?, p c := by
  cases pieces with
  | nil => exact hrest
  | cons piece others =>
    intro c hc
    rw [bracketed_cons, List.cons_append, List.head?_cons, Option.mem_some] at hc
    exact hc ▸ hopen

/-- No path goes on in a `bracketed` list or after it. -/
theorem isPathChar_head?_bracketed_append {pieces : List (List Char)} {rest : List Char}
    (hrest : Ends rest) : ∀ c ∈ (bracketed pieces ++ rest).head?, isPathChar c = false := by
  refine forall_head?_bracketed_append (isPathChar_delimiter (by decide) (by decide)) pieces ?_
  intro c hc
  rcases hrest c hc with rfl | rfl <;> exact isPathChar_delimiter (by decide) (by decide)

/-- What stands between the brackets of equal `bracketed` lists is equal, and so is what follows. -/
theorem listed_eq_of_bracketed {pieces others : List (List Char)} {rest other : List Char}
    (hrest : Ends rest) (hother : Ends other)
    (hequal : bracketed pieces ++ rest = bracketed others ++ other) :
    listed pieces ++ '>' :: rest = listed others ++ '>' :: other := by
  -- a list without texts has no bracket, and what follows starts with no opening one
  have hopen : ∀ {text : List Char}, Ends text → ∀ inner, text ≠ '<' :: inner := by
    rintro text htext inner rfl
    simpa using htext '<' rfl
  cases pieces with
  | nil =>
    cases others with
    | nil =>
      have hfollow : rest = other := hequal
      rw [hfollow]
    | cons piece pieces =>
      rw [bracketed_cons] at hequal
      exact absurd hequal (hopen hrest _)
  | cons first firsts =>
    cases others with
    | nil =>
      rw [bracketed_cons] at hequal
      exact absurd hequal.symm (hopen hother _)
    | cons second seconds =>
      rw [bracketed_cons, bracketed_cons, List.cons_append, List.cons_append,
        List.cons_inj_right] at hequal
      simpa [listed] using hequal

/-! ## Reading a type -/

mutual

/-- The spelling of a resolvable type can be read off a text that starts with it, up to `SameType`;
what follows the spelling is then equal too. The recursion is over the first type. -/
theorem sameType_of_append : (first : TypeRef) → {second : TypeRef} → {rest other : List Char} →
    first.isResolvable = true → second.isResolvable = true → Ends rest → Ends other →
    first.qualifiedChars ++ rest = second.qualifiedChars ++ other →
    first.SameType second ∧ rest = other
  | ⟨namespaceName, containing, name, arguments⟩, second, rest, other, hfirst, hsecond, hrest,
      hother, hequal => by
    have hfirstPath := isIdentifier_of_mem_path hfirst
    have hsecondPath := isIdentifier_of_mem_path hsecond
    simp only [qualifiedChars_eq, List.append_assoc, List.append_cancel_left_eq] at hequal
    -- the two paths end at the first character that no path has
    have hchars := congrArg (List.takeWhile isPathChar) hequal
    rw [takeWhile_pathChars_append hfirstPath (isPathChar_head?_bracketed_append hrest),
      takeWhile_pathChars_append hsecondPath (isPathChar_head?_bracketed_append hother)] at hchars
    have hpath := congrArg (List.splitOn '.') hchars
    rw [splitOn_pathChars hfirstPath, splitOn_pathChars hsecondPath] at hpath
    rw [hchars, List.append_cancel_left_eq] at hequal
    obtain ⟨harguments, hfollow⟩ := forall₂_sameType_of_append arguments
      (areResolvable_arguments hfirst) (areResolvable_arguments hsecond)
      (listed_eq_of_bracketed hrest hother hequal)
    have hnames : Function.Injective String.toList := fun _ _ => String.toList_inj.mp
    exact ⟨.mk (hnames.list_map hpath) harguments, hfollow⟩

/-- The spellings of type arguments can be read one after the other, up to the closing bracket and
up to `SameType`. -/
theorem forall₂_sameType_of_append : (firsts : List TypeRef) → {seconds : List TypeRef} →
    {rest other : List Char} → areResolvable firsts = true → areResolvable seconds = true →
    listed (argumentChars firsts) ++ '>' :: rest = listed (argumentChars seconds) ++ '>' :: other →
    List.Forall₂ SameType firsts seconds ∧ rest = other
  | [], [], rest, other, _, _, hequal => by
    simp only [argumentChars, listed, List.flatMap_nil, List.nil_append, List.cons_inj_right]
      at hequal
    exact ⟨.nil, hequal⟩
  | [], second :: seconds, rest, other, _, _, hequal => by
    simp [argumentChars, listed] at hequal
  | first :: firsts, [], rest, other, _, _, hequal => by
    simp [argumentChars, listed] at hequal
  | first :: firsts, second :: seconds, rest, other, hfirsts, hseconds, hequal => by
    rw [areResolvable, Bool.and_eq_true] at hfirsts hseconds
    simp only [argumentChars, listed_cons, List.append_assoc, List.append_cancel_left_eq] at hequal
    obtain ⟨hsame, hrest⟩ := sameType_of_append first hfirsts.1 hseconds.1
      (ends_listed_append _ rest) (ends_listed_append _ other) hequal
    obtain ⟨hothers, hfollow⟩ := forall₂_sameType_of_append firsts hfirsts.2 hseconds.2 hrest
    exact ⟨.cons hsame hothers, hfollow⟩

end

mutual

/-- The same type is spelled alike: `SameType` implies equal `qualifiedChars`. -/
theorem qualifiedChars_eq_of_sameType : (first : TypeRef) → {second : TypeRef} →
    first.isResolvable = true → second.isResolvable = true → first.SameType second →
    first.qualifiedChars = second.qualifiedChars
  | ⟨namespaceName, containing, name, arguments⟩, second, hfirst, hsecond, hsame => by
    have hchars := pathChars_eq (isIdentifier_of_mem_path hfirst)
    rw [hsame.path_eq, ← pathChars_eq (isIdentifier_of_mem_path hsecond)] at hchars
    have harguments := argumentChars_eq_of_forall₂ arguments
      (areResolvable_arguments hfirst) (areResolvable_arguments hsecond) hsame.forall₂_arguments
    rw [qualifiedChars_eq, qualifiedChars_eq, hchars, harguments]

/-- The same type arguments are spelled alike by `argumentChars`. -/
theorem argumentChars_eq_of_forall₂ : (firsts : List TypeRef) → {seconds : List TypeRef} →
    areResolvable firsts = true → areResolvable seconds = true →
    List.Forall₂ SameType firsts seconds → argumentChars firsts = argumentChars seconds
  | [], _, _, _, .nil => rfl
  | first :: firsts, _ :: _, hfirsts, hseconds, .cons hsame hrest => by
    rw [areResolvable, Bool.and_eq_true] at hfirsts hseconds
    rw [argumentChars, argumentChars,
      qualifiedChars_eq_of_sameType first hfirsts.1 hseconds.1 hsame,
      argumentChars_eq_of_forall₂ firsts hfirsts.2 hseconds.2 hrest]

end

/-- Two resolvable references have one spelling `qualified` exactly if they are the same type:
`sameType_of_append` with nothing after the spellings, and its converse. -/
theorem qualified_eq_iff {first second : TypeRef} (hfirst : first.isResolvable = true)
    (hsecond : second.isResolvable = true) :
    first.qualified = second.qualified ↔ first.SameType second := by
  rw [← String.toList_inj, toList_qualified, toList_qualified]
  constructor
  · intro hequal
    have hends : Ends [] := fun c hc => by cases hc
    exact (sameType_of_append first hfirst hsecond hends hends (by rw [hequal])).1
  · exact qualifiedChars_eq_of_sameType first hfirst hsecond

end TypeRef

/-! ## Demanded types -/

namespace Plan

/-- The descriptor at a position demands a component on the object itself, and no descriptor before
it demands the same type there, in the sense of `TypeRef.SameType`. -/
structure DemandsNewType (descriptors : List Descriptor) (position : Nat)
    (descriptor : Descriptor) : Prop where
  /-- The descriptor stands at the position. -/
  stands : descriptors[position]? = some descriptor
  /-- The component must be found. -/
  required : descriptor.required = true
  /-- It is looked for on the object itself. -/
  onSelf : descriptor.scope.contains .self = true
  /-- The descriptors before it that demand a type demand another one. -/
  new : ∀ earlier ∈ descriptors.take position, demandsOnSelf earlier = true →
    ¬ earlier.dependency.SameType descriptor.dependency

/-- Among resolvable types, a new type is a new spelling: `DemandsNewType` is `DemandsFirst`, which
compares the spellings. -/
theorem demandsNewType_iff {descriptors : List Descriptor}
    (hdescriptors : ∀ descriptor ∈ descriptors, descriptor.dependency.isResolvable = true)
    (position : Nat) (descriptor : Descriptor) :
    DemandsNewType descriptors position descriptor
      ↔ DemandsFirst descriptors position descriptor := by
  -- both say the same of earlier descriptors, since these are resolvable too
  have hspelling (hstands : descriptors[position]? = some descriptor) :
      ∀ earlier ∈ descriptors.take position,
        (earlier.dependency.qualified = descriptor.dependency.qualified
          ↔ earlier.dependency.SameType descriptor.dependency) :=
    fun earlier hearlier => TypeRef.qualified_eq_iff
      (hdescriptors earlier (List.mem_of_mem_take hearlier))
      (hdescriptors descriptor (List.mem_of_getElem? hstands))
  constructor
  · rintro ⟨hstands, hrequired, hself, hnew⟩
    exact ⟨hstands, hrequired, hself, fun earlier hearlier hdemands hequal =>
      hnew earlier hearlier hdemands ((hspelling hstands earlier hearlier).mp hequal)⟩
  · rintro ⟨hstands, hrequired, hself, hfirst⟩
    exact ⟨hstands, hrequired, hself, fun earlier hearlier hdemands hsame =>
      hfirst earlier hearlier hdemands ((hspelling hstands earlier hearlier).mpr hsame)⟩

/-- Resolvable references have one spelling `qualified` exactly if they are the `SameType`. So the
`constraints` of a plan, the types that it demands on the object itself, are those of the
descriptors with `DemandsNewType`, and two demanded types share a constraint exactly if they are the
same. -/
theorem qualified_eq_iff_merges {first second : TypeRef} (hfirst : first.isResolvable = true)
    (hsecond : second.isResolvable = true) {descriptors : List Descriptor}
    (hdescriptors : ∀ descriptor ∈ descriptors, descriptor.dependency.isResolvable = true) :
    let constraints := (ofDescriptors descriptors).constraints
    (first.qualified = second.qualified ↔ first.SameType second) ∧
    (∃ found, constraints = found.map (·.dependency) ∧
      Gathers (DemandsNewType descriptors) found) ∧
    ∀ one ∈ descriptors, ∀ other ∈ descriptors,
      demandsOnSelf one = true → demandsOnSelf other = true →
      ((∃ constraint ∈ constraints, constraint.qualified = one.dependency.qualified ∧
          constraint.qualified = other.dependency.qualified)
        ↔ one.dependency.SameType other.dependency) := by
  intro constraints
  refine ⟨TypeRef.qualified_eq_iff hfirst hsecond, ?_, ?_⟩
  · obtain ⟨found, hconstraints, hfound⟩ := exists_gathers_constraints descriptors
    exact ⟨found, hconstraints, hfound.congr (demandsNewType_iff hdescriptors)⟩
  · intro one hone other hother hdemands _
    rw [← TypeRef.qualified_eq_iff (hdescriptors one hone) (hdescriptors other hother)]
    constructor
    · rintro ⟨constraint, -, hsameOne, hsameOther⟩
      rw [← hsameOne, hsameOther]
    · intro hequal
      have hspelled : one.dependency.qualified ∈ constraints.map TypeRef.qualified :=
        mem_map_qualified_constraints.mpr ⟨one, hone, hdemands, rfl⟩
      obtain ⟨constraint, hconstraint, hown⟩ := List.mem_map.mp hspelled
      exact ⟨constraint, hconstraint, hown, hown.trans hequal⟩

/-- A pool of bullets, by its namespace. -/
def spacedPool : TypeRef :=
  ⟨some "Game.Pools", [], "Pool", [⟨some "Game.Items", [], "Bullet", []⟩]⟩

/-- The same pool, by the types that contain it and its bullets. -/
def nestedPool : TypeRef :=
  ⟨some "Game", ["Pools"], "Pool", [⟨some "Game", ["Items"], "Bullet", []⟩]⟩

/-- A pool is spelled alike whether its path leads through a namespace or through containing types,
and demanded once if it is demanded in both ways. -/
theorem qualified_eq_iff_merges_pool :
    let descriptors :=
      [⟨spacedPool, none, .only .self, true⟩, ⟨nestedPool, none, .only .self, true⟩]
    spacedPool.isResolvable = true ∧ nestedPool.isResolvable = true ∧
      (∀ descriptor ∈ descriptors, descriptor.dependency.isResolvable = true) ∧
      spacedPool.qualified = nestedPool.qualified ∧
      ∃ constraint ∈ (ofDescriptors descriptors).constraints,
        constraint.qualified = spacedPool.qualified ∧
        constraint.qualified = nestedPool.qualified := by
  intro descriptors
  have hspaced : spacedPool.isResolvable = true := by decide +kernel
  have hnested : nestedPool.isResolvable = true := by decide +kernel
  have hdescriptors : ∀ descriptor ∈ descriptors, descriptor.dependency.isResolvable = true := by
    simp [descriptors, hspaced, hnested]
  have hsame : spacedPool.SameType nestedPool :=
    .mk (by decide +kernel) (.cons (.mk (by decide +kernel) .nil) .nil)
  obtain ⟨hspelled, -, hmerged⟩ := qualified_eq_iff_merges hspaced hnested hdescriptors
  exact ⟨hspaced, hnested, hdescriptors, hspelled.mpr hsame,
    (hmerged ⟨spacedPool, none, .only .self, true⟩ (by simp [descriptors])
      ⟨nestedPool, none, .only .self, true⟩ (by simp [descriptors]) rfl rfl).mpr hsame⟩

end Plan

end Companion
