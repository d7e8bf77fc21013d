import Companion.Proofs.FileStem
import Companion.Rule

/-! # Type names as they are written

A program writes a type as segments joined by dots, each an identifier with type arguments if it has
some, after the alias of the global namespace or not; the arguments are written in the same way.
`WrittenType` is the tree of such a name and `WrittenType.text` its spelling. The reading of a
simple name stops at the first angle bracket: `WrittenType.simpleName_text` says that it finds the
first segment with type arguments, which is the last one unless the type is nested in a generic one,
and `WrittenType.simpleName_codes_baseReport` what this means for the rule about the base. -/

namespace Companion

open Identifier Text

namespace TypeName

/-! ## Reading a simple name -/

/-- A text without dots is its own `lastSegment`. -/
theorem lastSegment_of_not_mem {name : List Char} (hname : '.' ∉ name) :
    lastSegment name = name := by
  rw [lastSegment, List.splitOn_eq_singleton hname]
  rfl

/-- The `lastSegment` stands after every dot. -/
theorem lastSegment_append_dot (front rest : List Char) :
    lastSegment (front ++ '.' :: rest) = lastSegment rest := by
  rw [lastSegment, lastSegment, List.splitOn_append_cons_self, List.getLastD_eq_getLast?,
    List.getLastD_eq_getLast?, List.getLast?_append_of_ne_nil _ (List.splitOn_ne_nil _ _)]

/-- The alias at the start of a text is removed by `withoutAlias`. -/
theorem withoutAlias_append (name : List Char) : withoutAlias (globalAlias ++ name) = name := by
  rw [withoutAlias, List.isPrefixOf?_eq_some_iff_append_eq.mpr rfl, Option.getD_some]

/-- A text without colons has no alias, so `withoutAlias` leaves it as it is. -/
theorem withoutAlias_of_not_mem {name : List Char} (hname : ':' ∉ name) :
    withoutAlias name = name := by
  have hnone : globalAlias.isPrefixOf? name = none := by
    refine Option.eq_none_iff_forall_ne_some.mpr fun rest hrest => hname ?_
    rw [← List.isPrefixOf?_eq_some_iff_append_eq.mp hrest]
    exact List.mem_append_left _ (by decide)
  rw [withoutAlias, hnone, Option.getD_none]

/-- The function `trim` leaves a text without white space as it is. -/
theorem trim_eq_self {text : List Char} (htext : ∀ c ∈ text, isWhiteSpace c = false) :
    trim text = text := by
  have hdrop : ∀ chars : List Char, (∀ c ∈ chars, isWhiteSpace c = false) →
      chars.dropWhile isWhiteSpace = chars := by
    intro chars hchars
    cases chars with
    | nil => rfl
    | cons c rest => exact List.dropWhile_cons_of_neg (by simp [hchars c List.mem_cons_self])
  rw [trim, hdrop text htext, hdrop _ (by simpa using htext), List.reverse_reverse]

end TypeName

/-! ## The tree of a name -/

mutual

/-- A type as it is written: segments with dots between them, each of which can have type arguments.
-/
inductive WrittenType
  /-- The segments before the last dot, and the last segment; `rooted` says whether the alias of the
  global namespace stands before them. -/
  | mk (rooted : Bool) (outer : List WrittenSegment) (last : WrittenSegment)

/-- A segment of a written type: an identifier, carried with the proof that it is one, and type
arguments. -/
inductive WrittenSegment
  /-- An identifier with type arguments; the brackets are left out if there are none. -/
  | mk (name : { text : String // isIdentifier text = true }) (arguments : List WrittenType)

end

mutual

/-- The characters of a written type: the alias if it is rooted, and the segments with dots between
them. -/
def WrittenType.chars : WrittenType → List Char
  | ⟨rooted, outer, last⟩ =>
    (if rooted then TypeName.globalAlias else []) ++ (WrittenSegment.outerChars outer ++ last.chars)

/-- The characters of a segment: its identifier and its `bracketed` type arguments. -/
def WrittenSegment.chars : WrittenSegment → List Char
  | ⟨name, arguments⟩ =>
    name.val.toList ++ TypeRef.bracketed (WrittenType.argumentChars arguments)

/-- The characters of segments with a dot after each of them. -/
def WrittenSegment.outerChars : List WrittenSegment → List Char
  | [] => []
  | segment :: rest => segment.chars ++ '.' :: WrittenSegment.outerChars rest

/-- The characters of each of a list of written types. -/
def WrittenType.argumentChars : List WrittenType → List (List Char)
  | [] => []
  | argument :: rest => argument.chars :: WrittenType.argumentChars rest

end

namespace WrittenSegment

/-- The identifier of a segment. -/
def name : WrittenSegment → String
  | ⟨name, _⟩ => name.val

/-- Whether a segment has type arguments. -/
def isGeneric : WrittenSegment → Bool
  | ⟨_, arguments⟩ => !arguments.isEmpty

theorem isIdentifierChars_name (segment : WrittenSegment) :
    isIdentifierChars segment.name.toList = true := by
  obtain ⟨name, _⟩ := segment
  exact name.property

/-- A member of `delimiters` stands in no identifier of a segment. -/
theorem not_mem_name (segment : WrittenSegment) {c : Char} (hc : c ∈ delimiters) :
    c ∉ segment.name.toList :=
  (isWritable_of_identifier segment.isIdentifierChars_name).not_mem hc

/-! ## What is read of a name -/

/-- The first segment that has type arguments; the last segment if no other one has. -/
def firstGeneric (outer : List WrittenSegment) (last : WrittenSegment) : WrittenSegment :=
  (outer.find? isGeneric).getD last

/-- What stands before the first bracket of segments joined by dots: the part of a type that
`TypeName.simpleName` reads. -/
def readChars (outer : List WrittenSegment) (last : WrittenSegment) : List Char :=
  (outerChars outer ++ last.chars).takeWhile (· != '<')

/-- Of a segment and what follows it, the part before the first bracket is the identifier, and what
follows counts only if the segment is not `isGeneric`. -/
theorem takeWhile_chars_append (segment : WrittenSegment) (rest : List Char) :
    (segment.chars ++ rest).takeWhile (· != '<')
      = segment.name.toList ++ if segment.isGeneric then [] else rest.takeWhile (· != '<') := by
  obtain ⟨name, arguments⟩ := segment
  have hangle : '<' ∉ name.val.toList := not_mem_name ⟨name, arguments⟩ (by decide)
  rw [chars, List.append_assoc, List.takeWhile_append_of_pos (bne_of_not_mem hangle)]
  -- a list of type arguments is empty or starts with the bracket
  cases arguments <;> rfl

/-- Of a single segment, the identifier is read. -/
theorem readChars_nil (last : WrittenSegment) : readChars [] last = last.name.toList := by
  have hchars := last.takeWhile_chars_append []
  rw [List.append_nil, List.takeWhile_nil, ite_self, List.append_nil] at hchars
  rw [readChars, outerChars, List.nil_append, hchars]

/-- After a segment without type arguments the reading of `readChars` goes on, after one with some
it ends. -/
theorem readChars_cons (segment : WrittenSegment) (rest : List WrittenSegment)
    (last : WrittenSegment) :
    readChars (segment :: rest) last
      = segment.name.toList ++ if segment.isGeneric then [] else '.' :: readChars rest last := by
  rw [readChars, outerChars, List.append_assoc, List.cons_append, segment.takeWhile_chars_append,
    List.takeWhile_cons_of_pos (by decide), readChars]

/-- Neither identifiers nor dots are colons, so `readChars` holds no alias. -/
theorem colon_not_mem_readChars (outer : List WrittenSegment) (last : WrittenSegment) :
    ':' ∉ readChars outer last := by
  induction outer with
  | nil =>
    rw [readChars_nil]
    exact last.not_mem_name (by decide)
  | cons segment rest ih =>
    rw [readChars_cons, List.mem_append, not_or]
    refine ⟨segment.not_mem_name (by decide), ?_⟩
    split
    · exact List.not_mem_nil
    · rw [List.mem_cons, not_or]
      exact ⟨by decide, ih⟩

/-- The `lastSegment` before the first bracket is the identifier of `firstGeneric`. -/
theorem lastSegment_readChars (outer : List WrittenSegment) (last : WrittenSegment) :
    TypeName.lastSegment (readChars outer last) = (firstGeneric outer last).name.toList := by
  have hname (segment : WrittenSegment) :
      TypeName.lastSegment segment.name.toList = segment.name.toList :=
    TypeName.lastSegment_of_not_mem (segment.not_mem_name (by decide))
  induction outer with
  | nil => rw [readChars_nil, hname, firstGeneric, List.find?_nil, Option.getD_none]
  | cons segment rest ih =>
    rw [readChars_cons, firstGeneric]
    cases hgeneric : segment.isGeneric with
    | true =>
      -- nothing after the identifier of this segment is read
      rw [if_pos rfl, List.append_nil, hname, List.find?_cons_of_pos hgeneric, Option.getD_some]
    | false =>
      rw [if_neg Bool.false_ne_true, TypeName.lastSegment_append_dot, ih, firstGeneric,
        List.find?_cons_of_neg (by simp [hgeneric])]

end WrittenSegment

namespace WrittenType

/-- The segments before the last one. -/
def outer : WrittenType → List WrittenSegment
  | ⟨_, outer, _⟩ => outer

/-- The last segment. -/
def last : WrittenType → WrittenSegment
  | ⟨_, _, last⟩ => last

/-- The spelling of a written type. -/
def text (type : WrittenType) : String := String.ofList type.chars

/-- The segment that the simple name is read off: the first one with type arguments, or the last one
if no other has any (`firstGeneric`). -/
def readSegment (type : WrittenType) : WrittenSegment :=
  WrittenSegment.firstGeneric type.outer type.last

/-- The `TypeName.simpleName` of a written type is the identifier of its `readSegment`. -/
theorem simpleName_text (type : WrittenType) :
    TypeName.simpleName type.text = type.readSegment.name := by
  obtain ⟨rooted, outer, last⟩ := type
  have hread : TypeName.withoutAlias ((chars ⟨rooted, outer, last⟩).takeWhile (· != '<'))
      = WrittenSegment.readChars outer last := by
    rw [chars]
    -- the alias has no bracket, so it is all read and then dropped
    cases rooted with
    | false =>
      exact TypeName.withoutAlias_of_not_mem (WrittenSegment.colon_not_mem_readChars outer last)
    | true =>
      have hangle : '<' ∉ TypeName.globalAlias := by decide
      rw [if_pos rfl, List.takeWhile_append_of_pos (bne_of_not_mem hangle),
        TypeName.withoutAlias_append, WrittenSegment.readChars]
  rw [← String.toList_inj, TypeName.toList_simpleName, text, String.toList_ofList,
    TypeName.simpleNameChars, hread, WrittenSegment.lastSegment_readChars]
  exact TypeName.trim_eq_self fun c hc => isWhiteSpace_of_isNameChar
    (isNameChar_of_mem_identifier (WrittenSegment.isIdentifierChars_name _) hc)

end WrittenType

/-! ## Ancestors -/

/-- The declaration with the given ancestors, as they are written. -/
def Declaration.descendingFrom (declaration : Declaration) (ancestors : List WrittenType) :
    Declaration :=
  { declaration with ancestry := ancestors.map WrittenType.text }

/-- Two choices between the same two values, if these differ, agree exactly if their conditions do.
-/
theorem ite_eq_ite_iff_of_ne {α : Type} {yes no : α} (hne : yes ≠ no) {p q : Prop} [Decidable p]
    [Decidable q] : ((if p then yes else no) = if q then yes else no) ↔ (p ↔ q) := by
  by_cases hp : p <;> by_cases hq : q <;> simp [hp, hq, hne, hne.symm]

namespace WrittenType

/-- A declaration with written ancestors `derivesFrom` the base exactly if one of them has the base
as the name of its `readSegment`. -/
theorem derivesFrom_descendingFrom (declaration : Declaration) (ancestors : List WrittenType)
    (base : String) :
    (declaration.descendingFrom ancestors).derivesFrom base = true ↔
      ∃ ancestor ∈ ancestors, ancestor.readSegment.name = base := by
  simp [Declaration.derivesFrom, Declaration.descendingFrom, simpleName_text]

/-- The `TypeName.simpleName` of a written type is the identifier of its `readSegment`: the first
segment with type arguments, or the last one if no other one has any. So it is that of the last
segment exactly if no segment before has type arguments or the first one that has some has the same
identifier. A declaration with written ancestors is reported by `Rule.mustInheritBehaviour`, once,
exactly if no `readSegment` is named as the base; the report is the one that the last segments call
for exactly if some ancestor is read as the base just when the last segment of some ancestor is the
base. -/
theorem simpleName_codes_baseReport (type : WrittenType) (base : String)
    (declaration : Declaration) (ancestors : List WrittenType) :
    let codes := ((Rule.mustInheritBehaviour base).report
      (declaration.descendingFrom ancestors)).map (·.code)
    TypeName.simpleName type.text = type.readSegment.name ∧
    (TypeName.simpleName type.text = type.last.name ↔
      ∀ segment ∈ type.outer.find? WrittenSegment.isGeneric, segment.name = type.last.name) ∧
    (codes = if ∃ ancestor ∈ ancestors, ancestor.readSegment.name = base then []
      else [.mustInheritBehaviour]) ∧
    ((codes = if ∃ ancestor ∈ ancestors, ancestor.last.name = base then []
        else [.mustInheritBehaviour]) ↔
      ((∃ ancestor ∈ ancestors, ancestor.readSegment.name = base) ↔
        ∃ ancestor ∈ ancestors, ancestor.last.name = base)) := by
  intro codes
  have hcodes : codes = if ∃ ancestor ∈ ancestors, ancestor.readSegment.name = base then []
      else [.mustInheritBehaviour] := by
    have hreport := Rule.codes_baseReport base (declaration.descendingFrom ancestors)
    simp only [derivesFrom_descendingFrom] at hreport
    exact hreport
  refine ⟨type.simpleName_text, ?_, hcodes, ?_⟩
  · rw [simpleName_text, readSegment, WrittenSegment.firstGeneric]
    cases type.outer.find? WrittenSegment.isGeneric <;> simp
  · rw [hcodes]
    exact ite_eq_ite_iff_of_ne (List.cons_ne_nil _ _).symm

/-- A type that is nested in a generic one: `Pool<T>.MonoBehaviour`. -/
def nestedInPool : WrittenType :=
  ⟨false, [⟨⟨"Pool", by decide +kernel⟩, [⟨false, [], ⟨⟨"T", by decide +kernel⟩, []⟩⟩]⟩],
    ⟨⟨"MonoBehaviour", by decide +kernel⟩, []⟩⟩

/-- A type nested in a generic one is read as the generic one: it does not count as the base, though
its last segment is the base. -/
theorem simpleName_nestedInPool :
    nestedInPool.text = "Pool<T>.MonoBehaviour" ∧ nestedInPool.last.name = "MonoBehaviour" ∧
      TypeName.simpleName nestedInPool.text = "Pool" ∧
      ((Rule.mustInheritBehaviour "MonoBehaviour").report
          ((Declaration.named "Sandbox").descendingFrom [nestedInPool])).map (·.code)
        = [.mustInheritBehaviour] := by
  refine ⟨?_, rfl, nestedInPool.simpleName_text, by decide +kernel⟩
  rw [← String.toList_inj]
  decide +kernel

end WrittenType

end Companion
