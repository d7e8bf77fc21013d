import Companion.Proofs.TypePaths
import Companion.Proofs.WrittenType

/-! # File stems of written types

The stem of a type name is read in one pass, with a depth and one count of type arguments for all
lists. Inside a list a written type leaves the depth and the count as they are, whatever it holds
itself (`WrittenType.stemFrom_chars_append`), so that only the commas of the list are counted, and a
list that is not inside another one starts its count anew. `WrittenType.fileStem_text` says what
comes of it: the segments of the type with the mark of their number of type arguments. -/

namespace Companion

open Identifier Text

namespace TypeName

/-! ## One step of the reading -/

/-- What `fileStemFrom` reads off the rest of a name, whose aliases are not erased yet. -/
def stemFrom (depth arity : Nat) (rest : List Char) : List Char :=
  fileStemFrom depth arity (eraseAliases 0 rest)

@[simp] theorem stemFrom_nil (depth arity : Nat) : stemFrom depth arity [] = [] := rfl

/-- The alias of the global namespace is not read: `eraseAliases` drops it. -/
theorem stemFrom_alias_append (depth arity : Nat) (rest : List Char) :
    stemFrom depth arity (globalAlias ++ rest) = stemFrom depth arity rest := rfl

/-- An opening bracket leads `stemFrom` one level further inside; outside of all brackets it starts
the count anew. -/
theorem stemFrom_open (depth arity : Nat) (rest : List Char) :
    stemFrom depth arity ('<' :: rest)
      = stemFrom (depth + 1) (if depth = 0 then 1 else arity) rest := by
  rw [stemFrom, eraseAliases_cons (by decide), fileStemFrom, if_pos rfl, stemFrom]

/-- A closing bracket leads `stemFrom` back; the last one leaves the `arityMark` of the count. -/
theorem stemFrom_close (depth arity : Nat) (rest : List Char) :
    stemFrom (depth + 1) arity ('>' :: rest)
      = (if depth = 0 then arityMark arity else []) ++ stemFrom depth arity rest := by
  rw [stemFrom, eraseAliases_cons (by decide), fileStemFrom, if_neg (by decide), if_neg (by simp),
    if_pos ⟨rfl, Nat.succ_pos depth⟩, stemFrom]
  simp only [Nat.add_eq_right, Nat.add_sub_cancel]

/-- Outside of type arguments the count of `stemFrom` does not matter. -/
theorem stemFrom_zero (arity other : Nat) (rest : List Char) :
    stemFrom 0 arity rest = stemFrom 0 other rest := by
  rw [stemFrom, stemFrom]
  generalize eraseAliases 0 rest = name
  induction name with
  | nil => rfl
  | cons c others ih =>
    -- a list of type arguments starts with the same count
    by_cases hopen : c = '<'
    · rw [fileStemFrom, fileStemFrom, if_pos hopen, if_pos hopen, if_pos rfl, if_pos rfl]
    · simp [fileStemFrom, hopen, ih]

/-- Outside of type arguments `stemFrom` keeps an identifier. -/
theorem stemFrom_name_append (segment : WrittenSegment) (arity : Nat) {rest : List Char}
    (hrest : BreaksAlias rest) :
    stemFrom 0 arity (segment.name.toList ++ rest)
      = segment.name.toList ++ stemFrom 0 arity rest := by
  rw [stemFrom, eraseAliases_append (segment.not_mem_name (by decide)) hrest,
    fileStemFrom_zero_append, stemFrom]
  intro c hc
  exact ⟨fun hopen => segment.not_mem_name (by decide) (hopen ▸ hc),
    isWhiteSpace_of_isNameChar (isNameChar_of_mem_identifier segment.isIdentifierChars_name hc)⟩

/-- Outside of type arguments `stemFrom` keeps a dot. -/
theorem stemFrom_dot (arity : Nat) (rest : List Char) :
    stemFrom 0 arity ('.' :: rest) = '.' :: stemFrom 0 arity rest := by
  have hdot : ∀ c ∈ ['.'], c ≠ '<' ∧ isWhiteSpace c = false :=
    List.forall_mem_singleton.mpr ⟨by decide, by decide⟩
  rw [stemFrom, eraseAliases_cons (by decide)]
  exact fileStemFrom_zero_append hdot arity _

/-- Inside of type arguments, of a text without brackets `stemFrom` reads only the commas, which are
`counted`. -/
theorem stemFrom_inside_append {inner rest : List Char} (hopen : '<' ∉ inner) (hclose : '>' ∉ inner)
    (herase : eraseAliases 0 (inner ++ rest) = inner ++ eraseAliases 0 rest) (depth arity : Nat) :
    stemFrom (depth + 1) arity (inner ++ rest)
      = stemFrom (depth + 1) (counted (depth + 1) arity (inner.count ',')) rest := by
  rw [stemFrom, herase, fileStemFrom_inside_append hopen hclose (Nat.succ_pos depth), stemFrom]

/-- Inside of type arguments `stemFrom` does not read an identifier. -/
theorem stemFrom_succ_name_append (segment : WrittenSegment) (depth arity : Nat) {rest : List Char}
    (hrest : BreaksAlias rest) :
    stemFrom (depth + 1) arity (segment.name.toList ++ rest) = stemFrom (depth + 1) arity rest := by
  have hcommas : segment.name.toList.count ',' = 0 :=
    List.count_eq_zero.mpr (segment.not_mem_name (by decide))
  rw [stemFrom_inside_append (segment.not_mem_name (by decide)) (segment.not_mem_name (by decide))
    (eraseAliases_append (segment.not_mem_name (by decide)) hrest), hcommas, counted_zero]

/-- Inside of type arguments `stemFrom` does not read a dot. -/
theorem stemFrom_succ_dot (depth arity : Nat) (rest : List Char) :
    stemFrom (depth + 1) arity ('.' :: rest) = stemFrom (depth + 1) arity rest := by
  have hread := @stemFrom_inside_append ['.'] rest (by decide) (by decide)
    (eraseAliases_cons (by decide) rest) depth arity
  rwa [List.count_eq_zero.mpr (by decide), counted_zero] at hread

/-- What separates type arguments is `counted` directly inside of the outermost list. -/
theorem stemFrom_succ_separator (depth arity : Nat) (rest : List Char) :
    stemFrom (depth + 1) arity (", ".toList ++ rest)
      = stemFrom (depth + 1) (counted (depth + 1) arity 1) rest := by
  refine stemFrom_inside_append (by decide) (by decide) ?_ depth arity
  exact (eraseAliases_cons (by decide) (' ' :: rest)).trans
    (congrArg (',' :: ·) (eraseAliases_cons (by decide) rest))

end TypeName

open Companion.TypeName

/-! ## Reading past a type

The induction over the tree carries any text that follows, provided that it does not complete an
alias. -/

/-- After an identifier stands a bracket, or what stands after the segment. -/
theorem breaksAlias_bracketed_append (pieces : List (List Char)) {rest : List Char}
    (hrest : BreaksAlias rest) : BreaksAlias (TypeRef.bracketed pieces ++ rest) :=
  TypeRef.forall_head?_bracketed_append (by decide) pieces hrest

/-- After a type argument stands a comma or the closing bracket. -/
theorem breaksAlias_listed_append (pieces : List (List Char)) (rest : List Char) :
    BreaksAlias (TypeRef.listed pieces ++ '>' :: rest) := by
  intro c hc
  rcases TypeRef.ends_listed_append pieces rest c hc with rfl | rfl <;> decide

mutual

/-- Inside of type arguments, a written type leaves depth and count of `stemFrom` as they are; by
recursion over the type, its segments and its arguments. -/
theorem WrittenType.stemFrom_chars_append : (type : WrittenType) → (depth arity : Nat) →
    {rest : List Char} → BreaksAlias rest →
    stemFrom (depth + 1) arity (type.chars ++ rest) = stemFrom (depth + 1) arity rest
  | ⟨rooted, outer, last⟩, depth, arity, rest, hrest => by
    have hread : stemFrom (depth + 1) arity
          (WrittenSegment.outerChars outer ++ last.chars ++ rest)
        = stemFrom (depth + 1) arity rest := by
      rw [List.append_assoc, WrittenSegment.stemFrom_outerChars_append outer,
        last.stemFrom_chars_append depth arity hrest]
    rw [WrittenType.chars, List.append_assoc]
    -- the alias is erased before anything is read
    cases rooted with
    | false => exact hread
    | true => exact (stemFrom_alias_append (depth + 1) arity _).trans hread

/-- Inside of type arguments, a segment leaves depth and count as they are. -/
theorem WrittenSegment.stemFrom_chars_append : (segment : WrittenSegment) → (depth arity : Nat) →
    {rest : List Char} → BreaksAlias rest →
    stemFrom (depth + 1) arity (segment.chars ++ rest) = stemFrom (depth + 1) arity rest
  | ⟨name, arguments⟩, depth, arity, rest, hrest => by
    have hbreaks := breaksAlias_bracketed_append (WrittenType.argumentChars arguments) hrest
    rw [WrittenSegment.chars, List.append_assoc]
    calc
      stemFrom (depth + 1) arity
          (name.val.toList ++ (TypeRef.bracketed (WrittenType.argumentChars arguments) ++ rest))
        = stemFrom (depth + 1) arity
            (TypeRef.bracketed (WrittenType.argumentChars arguments) ++ rest) :=
          stemFrom_succ_name_append ⟨name, arguments⟩ depth arity hbreaks
      _ = stemFrom (depth + 1) arity rest :=
          WrittenType.stemFrom_bracketed_append arguments (depth + 1) arity rest

/-- Inside of type arguments, segments with dots leave depth and count as they are. -/
theorem WrittenSegment.stemFrom_outerChars_append : (outer : List WrittenSegment) →
    (depth arity : Nat) → (rest : List Char) →
    stemFrom (depth + 1) arity (WrittenSegment.outerChars outer ++ rest)
      = stemFrom (depth + 1) arity rest
  | [], _, _, _ => rfl
  | segment :: others, depth, arity, rest => by
    rw [WrittenSegment.outerChars, List.append_assoc, List.cons_append,
      segment.stemFrom_chars_append depth arity (breaksAlias_cons (by decide) _),
      stemFrom_succ_dot, WrittenSegment.stemFrom_outerChars_append others]

/-- Of a list of type arguments, `stemFrom` leaves the `aritySuffix` of its length if it is not
inside of another one. -/
theorem WrittenType.stemFrom_bracketed_append : (arguments : List WrittenType) →
    (depth arity : Nat) → (rest : List Char) →
    stemFrom depth arity (TypeRef.bracketed (WrittenType.argumentChars arguments) ++ rest)
      = (if depth = 0 then aritySuffix arguments.length else []) ++ stemFrom depth arity rest
  | [], depth, arity, rest => by
    rw [List.length_nil, aritySuffix, if_pos rfl, ite_self]
    rfl
  | argument :: others, depth, arity, rest => by
    rw [WrittenType.argumentChars, TypeRef.bracketed_cons, List.cons_append, List.append_assoc,
      List.append_assoc, List.singleton_append, stemFrom_open,
      argument.stemFrom_chars_append depth _ (breaksAlias_listed_append _ rest),
      WrittenType.stemFrom_listed_append others, stemFrom_close, List.length_cons]
    cases depth with
    | zero =>
      -- the count starts with one for the first argument
      have hcount : counted 1 1 others.length = others.length + 1 := Nat.add_comm ..
      simp only [if_pos, Nat.zero_add, hcount]
      rw [aritySuffix, if_neg (Nat.succ_ne_zero _), stemFrom_zero _ arity]
    | succ depth => simp [counted]

/-- Of further type arguments, only the number is `counted`, and only directly inside of the
outermost list. -/
theorem WrittenType.stemFrom_listed_append : (arguments : List WrittenType) →
    (depth arity : Nat) → (rest : List Char) →
    stemFrom (depth + 1) arity
        (TypeRef.listed (WrittenType.argumentChars arguments) ++ '>' :: rest)
      = stemFrom (depth + 1) (counted (depth + 1) arity arguments.length) ('>' :: rest)
  | [], depth, arity, rest => by
    rw [List.length_nil, counted_zero]
    rfl
  | argument :: others, depth, arity, rest => by
    rw [WrittenType.argumentChars, TypeRef.listed_cons, List.append_assoc, List.append_assoc,
      stemFrom_succ_separator,
      argument.stemFrom_chars_append depth _ (breaksAlias_listed_append _ rest),
      WrittenType.stemFrom_listed_append others, counted_counted, List.length_cons, Nat.add_comm 1]

end

/-! ## The stem of a type -/

namespace WrittenSegment

/-- The type arguments of a segment. -/
def arguments : WrittenSegment → List WrittenType
  | ⟨_, arguments⟩ => arguments

/-- What a stem has of a segment: its identifier and, if it has type arguments, a backtick and their
number. -/
def stem (segment : WrittenSegment) : String :=
  segment.name ++ if segment.isGeneric then "`" ++ toString segment.arguments.length else ""

theorem toList_stem (segment : WrittenSegment) :
    segment.stem.toList = segment.name.toList ++ aritySuffix segment.arguments.length := by
  obtain ⟨name, arguments⟩ := segment
  rw [stem, String.toList_append]
  cases arguments with
  | nil => rfl
  | cons argument others =>
    have hmark : aritySuffix (others.length + 1) = arityMark (others.length + 1) :=
      if_neg (Nat.succ_ne_zero _)
    rw [isGeneric, List.isEmpty_cons, Bool.not_false, if_pos rfl, String.toList_append,
      Nat.toString_eq_repr, Nat.toList_repr, WrittenSegment.arguments, List.length_cons, hmark,
      arityMark]

/-- Outside of type arguments, of a segment `stemFrom` leaves the `stem`. -/
theorem stemFrom_zero_append (segment : WrittenSegment) (arity : Nat) {rest : List Char}
    (hrest : BreaksAlias rest) :
    stemFrom 0 arity (segment.chars ++ rest) = segment.stem.toList ++ stemFrom 0 arity rest := by
  obtain ⟨name, arguments⟩ := segment
  have hbreaks := breaksAlias_bracketed_append (WrittenType.argumentChars arguments) hrest
  rw [toList_stem, chars, List.append_assoc, List.append_assoc]
  calc
    stemFrom 0 arity
        (name.val.toList ++ (TypeRef.bracketed (WrittenType.argumentChars arguments) ++ rest))
      = name.val.toList ++ stemFrom 0 arity
          (TypeRef.bracketed (WrittenType.argumentChars arguments) ++ rest) :=
        stemFrom_name_append ⟨name, arguments⟩ arity hbreaks
    _ = name.val.toList ++ (aritySuffix arguments.length ++ stemFrom 0 arity rest) := by
        rw [WrittenType.stemFrom_bracketed_append, if_pos rfl]

/-- Of segments, `stemFrom` leaves the stems, with dots between them; by induction on the outer
segments. -/
theorem stemFrom_outerChars (outer : List WrittenSegment) (last : WrittenSegment) (arity : Nat) :
    stemFrom 0 arity (outerChars outer ++ last.chars)
      = ['.'].intercalate ((outer ++ [last]).map fun segment => segment.stem.toList) := by
  induction outer with
  | nil =>
    have hread := last.stemFrom_zero_append arity breaksAlias_nil
    rw [List.append_nil, stemFrom_nil, List.append_nil] at hread
    simp [outerChars, hread]
  | cons segment others ih =>
    rw [outerChars, List.append_assoc, List.cons_append,
      segment.stemFrom_zero_append arity (breaksAlias_cons (by decide) _), stemFrom_dot, ih]
    cases others <;> simp

end WrittenSegment

namespace WrittenType

/-- The segments of a type, the last one included. -/
def segments (type : WrittenType) : List WrittenSegment := type.outer ++ [type.last]

/-- The `TypeName.fileStem` of a written type is the `stem` of each of its `segments`, with dots
between them: the identifier, and after it a backtick and the number of type arguments if there are
any. Neither the type arguments nor any alias of the global namespace are in it. -/
theorem fileStem_text (type : WrittenType) :
    TypeName.fileStem type.text = ".".intercalate (type.segments.map WrittenSegment.stem) := by
  obtain ⟨rooted, outer, last⟩ := type
  have hread : fileStemChars (chars ⟨rooted, outer, last⟩)
      = stemFrom 0 0 (WrittenSegment.outerChars outer ++ last.chars) := by
    rw [chars]
    cases rooted with
    | false => rfl
    | true => exact stemFrom_alias_append 0 0 _
  rw [← String.toList_inj, toList_fileStem, text, String.toList_ofList, hread,
    WrittenSegment.stemFrom_outerChars, String.toList_intercalate, List.map_map]
  rfl

/-- Only the arguments of the outermost lists are counted, and each list anew. -/
example : TypeName.fileStem "global::Map<List<K, V>, global::Item>.Entry<T>" = "Map`2.Entry`1" := by
  decide +kernel

end WrittenType

end Companion
