import Companion.TypeRef
import Mathlib.Data.List.Basic

/-! # The characters of names

Which characters can stand in a name of a generated part, and which cannot. `isNameChar` holds of
every character of an identifier and of every character of a derived property name; `IsWritable`
adds that the name is neither empty nor reserved. The `delimiters` of the generated texts (white
space, brackets, operators) are no name characters, so that a text can be cut at them to read its
names back. Paths and spelled types add the few characters of `isTypeChar`. `bare_cases` relates an
identifier to the name that it denotes. -/

namespace Companion

namespace Text

/-- The dot above (U+0307), which the lower-case form of `dottedCapital` ends in. -/
def dotAbove : Char := Char.ofNat 0x307

/-- Every code point of `Unicode.alphabeticRanges` is a character. -/
theorem isValidChar_of_alphabetic {code : Nat}
    (hcode : inRanges Unicode.alphabeticRanges code = true) : code.isValidChar := by
  have htable : ∀ range ∈ Unicode.alphabeticRanges,
      range.2 < 0xD800 ∨ (0xDFFF < range.1 ∧ range.2 < 0x110000) := by decide +kernel
  obtain ⟨range, hmem, hin⟩ := List.any_eq_true.mp hcode
  simp only [Bool.and_eq_true, decide_eq_true_eq] at hin
  rcases htable range hmem with hlow | ⟨habove, hbelow⟩
  · exact Or.inl (by omega)
  · exact Or.inr (by omega)

/-- The forms of every run of `Unicode.lowercaseRuns` lie inside one range of
`Unicode.alphabeticRanges`. -/
theorem lowercaseRuns_alphabetic : ∀ run ∈ Unicode.lowercaseRuns,
    (Unicode.alphabeticRanges.any fun range =>
      Nat.ble range.1 run.image
        && Nat.ble (run.image + (run.last - run.first)) range.2) = true := by
  decide +kernel

/-- The form that `LowercaseRun.apply?` gives to a code point is alphabetic. -/
theorem inRanges_of_apply? {run : Unicode.LowercaseRun} (hrun : run ∈ Unicode.lowercaseRuns)
    {code form : Nat} (happly : run.apply? code = some form) :
    inRanges Unicode.alphabeticRanges form = true := by
  obtain ⟨range, hmem, hinside⟩ := List.any_eq_true.mp (lowercaseRuns_alphabetic run hrun)
  rw [Bool.and_eq_true, Nat.ble_eq, Nat.ble_eq] at hinside
  unfold Unicode.LowercaseRun.apply? at happly
  split at happly
  · rename_i hin
    rw [Option.some.injEq] at happly
    refine List.any_eq_true.mpr ⟨range, hmem, ?_⟩
    simp only [Bool.and_eq_true, decide_eq_true_eq]
    omega
  · cases happly

/-- The capital I with a dot above (U+0130), the one character with a lower-case form of two
characters. -/
def dottedCapital : Char := Char.ofNat 0x130

/-- The lower-case form of `dottedCapital` has two characters, and ends in `dotAbove`. -/
theorem lowercase_dottedCapital : lowercase dottedCapital = ['i', dotAbove] := by decide +kernel

/-- Every character other than `dottedCapital` has a lower-case form of one character: itself, or an
alphabetic one. -/
theorem lowercase_eq_singleton {c : Char} (hc : c ≠ dottedCapital) :
    ∃ form, lowercase c = [form] ∧ (form = c ∨ isAlphabetic form = true) := by
  have hcode : c.toNat ≠ 0x130 := fun hcode => hc (Char.toNat_inj.mp hcode)
  rw [lowercase, if_neg hcode]
  split
  · rename_i form hfound
    obtain ⟨run, hrun, happly⟩ := List.exists_of_findSome?_eq_some hfound
    -- a run maps into the alphabetic ranges, so its form is a character
    have halpha := inRanges_of_apply? hrun happly
    have hform : (Char.ofNat form).toNat = form := by
      rw [Char.ofNat, dif_pos (isValidChar_of_alphabetic halpha)]
      rfl
    refine ⟨Char.ofNat form, rfl, Or.inr ?_⟩
    rw [isAlphabetic, hform]
    exact halpha
  · exact ⟨c, rfl, Or.inl rfl⟩

/-- A character of `lowercase c` is `c` itself, an alphabetic character or `dotAbove`. -/
theorem lowercase_cases {c d : Char} (hd : d ∈ lowercase c) :
    d = c ∨ isAlphabetic d = true ∨ d = dotAbove := by
  by_cases hdotted : c = dottedCapital
  · rw [hdotted, lowercase_dottedCapital] at hd
    rcases List.mem_pair.mp hd with rfl | rfl
    · exact Or.inr (Or.inl (by decide +kernel))
    · exact Or.inr (Or.inr rfl)
  · obtain ⟨form, hform, hkind⟩ := lowercase_eq_singleton hdotted
    rw [hform] at hd
    rw [List.mem_singleton.mp hd]
    exact hkind.imp_right Or.inl

/-- A lower-case form is not empty. -/
theorem lowercase_ne_nil (c : Char) : lowercase c ≠ [] := by
  rw [lowercase]
  split
  · simp
  · split <;> simp

end Text

namespace Identifier

open Text

/-! ## Name characters -/

/-- Whether a character can stand in a name of a generated part: in an identifier, or in a property
name that is derived from one. The latter may contain `dotAbove`, which no identifier does. -/
def isNameChar (c : Char) : Bool := c == '@' || continuesName c || c == dotAbove

/-- The characters between the names of a generated part; none of them is an `isNameChar`. -/
def delimiters : List Char :=
  [' ', '\n', '\r', '\t', '(', ')', '<', '>', '[', ']', '\x7b', '\x7d', '=', ';', ',', '.', ':',
    '/', '\\', '`']

/-- A delimiter is no name character. -/
theorem isNameChar_delimiter : ∀ c ∈ delimiters, isNameChar c = false := by
  have htable : delimiters.all (fun c => !isNameChar c) = true := by decide +kernel
  intro c hc
  simpa using List.all_eq_true.mp htable c hc

@[simp] theorem isNameChar_at : isNameChar '@' = true := by simp [isNameChar]

@[simp] theorem isNameChar_dotAbove : isNameChar dotAbove = true := by simp [isNameChar]

theorem continuesName_of_startsName {c : Char} (hc : startsName c = true) :
    continuesName c = true := by
  simp only [startsName, continuesName, isAlphanumeric, Bool.or_eq_true] at hc ⊢
  rcases hc with hunderscore | halpha
  · exact Or.inl hunderscore
  · exact Or.inr (Or.inl halpha)

theorem isNameChar_of_continuesName {c : Char} (hc : continuesName c = true) :
    isNameChar c = true := by
  simp [isNameChar, hc]

/-- The characters of a word, in the sense of `isWord`, are name characters. -/
theorem isNameChar_of_mem_word {word : List Char} (hword : isWord word = true) {c : Char}
    (hc : c ∈ word) : isNameChar c = true := by
  cases word with
  | nil => cases hc
  | cons first rest =>
    simp only [isWord, Bool.and_eq_true, List.all_eq_true] at hword
    rcases List.mem_cons.mp hc with rfl | hrest
    · exact isNameChar_of_continuesName (continuesName_of_startsName hword.1)
    · exact isNameChar_of_continuesName (hword.2 c hrest)

/-! ## Identifiers -/

/-- A name that passes `isIdentifierChars` is a word that is not reserved, or a word after an `@`.
-/
theorem isIdentifierChars_cases {name : List Char} (hname : isIdentifierChars name = true) :
    (∃ body, name = '@' :: body ∧ isWord body = true) ∨
      (isWord name = true ∧ isReserved name = false) := by
  rw [isIdentifierChars.eq_def] at hname
  split at hname
  · exact Or.inl ⟨_, rfl, hname⟩
  · exact Or.inr (by simpa using hname)

/-- The characters of an identifier are name characters. -/
theorem isNameChar_of_mem_identifier {name : List Char} (hname : isIdentifierChars name = true)
    {c : Char} (hc : c ∈ name) : isNameChar c = true := by
  rcases isIdentifierChars_cases hname with ⟨body, rfl, hbody⟩ | ⟨hword, -⟩
  · rcases List.mem_cons.mp hc with rfl | hmem
    · rfl
    · exact isNameChar_of_mem_word hbody hmem
  · exact isNameChar_of_mem_word hword hc

/-- No reserved word starts with an `@`, so a verbatim name is never reserved. -/
theorem isReserved_verbatim (body : List Char) : isReserved ('@' :: body) = false := by
  have htable : ∀ word ∈ keywordChars, word.head? ≠ some '@' := by decide +kernel
  rw [isReserved, Bool.eq_false_iff, ne_eq, List.contains_iff_mem]
  intro hmem
  exact htable _ hmem rfl

theorem isIdentifierChars_ne_nil {name : List Char} (hname : isIdentifierChars name = true) :
    name ≠ [] := by
  rintro rfl
  cases hname

/-! ## Verbatim names -/

/-- A word does not start with an `@`. -/
theorem head?_ne_at_of_isWord {word : List Char} (hword : isWord word = true) :
    word.head? ≠ some '@' := by
  have hat : startsName '@' = false := by decide +kernel
  cases word with
  | nil => simp
  | cons first rest =>
    rw [isWord, Bool.and_eq_true] at hword
    rw [List.head?_cons, ne_eq, Option.some.injEq]
    rintro rfl
    rw [hat] at hword
    cases hword.1

/-- A word is its own bare name: `bareChars` has no `@` to drop. -/
theorem bareChars_of_isWord {word : List Char} (hword : isWord word = true) :
    bareChars word = word := by
  cases word with
  | nil => rfl
  | cons first rest =>
    have hfirst : first ≠ '@' := by simpa using head?_ne_at_of_isWord hword
    exact List.dropWhile_cons_of_neg (by simpa using hfirst)

/-- An identifier is its `bare` name, or that name after an `@`. -/
theorem bare_cases {name : String} (hname : isIdentifier name = true) :
    bare name = name ∨ name = "@" ++ bare name := by
  rw [← String.toList_inj, ← String.toList_inj, String.toList_append, toList_bare]
  rcases isIdentifierChars_cases hname with ⟨body, hbody, hword⟩ | ⟨hword, -⟩
  · have hdrop : bareChars ('@' :: body) = bareChars body := by simp [bareChars]
    rw [hbody, hdrop, bareChars_of_isWord hword]
    exact Or.inr rfl
  · exact Or.inl (bareChars_of_isWord hword)

/-- The `bare` name of a verbatim identifier is what follows the `@`, and is bare itself. -/
theorem bare_verbatim {name : String} (hname : isIdentifier ("@" ++ name) = true) :
    bare ("@" ++ name) = name ∧ bare name = name := by
  have hword : isWord name.toList = true := by
    rw [isIdentifier, String.toList_append] at hname
    exact hname
  have hdrop : bareChars ("@" ++ name).toList = bareChars name.toList := by simp [bareChars]
  rw [← String.toList_inj, ← String.toList_inj, toList_bare, toList_bare, hdrop,
    bareChars_of_isWord hword]
  exact ⟨rfl, rfl⟩

/-- No name is the verbatim form of itself. -/
theorem verbatim_ne (name : String) : "@" ++ name ≠ name := by
  intro heq
  have hlength := congrArg (fun text => text.toList.length) heq
  simp at hlength

/-! ## Writable names -/

/-- A name that stands in a generated part for itself: it consists of characters with `isNameChar`,
at least one, and is not a reserved word. -/
structure IsWritable (name : List Char) : Prop where
  /-- There is a character. -/
  ne_nil : name ≠ []
  /-- All are name characters. -/
  nameChars : ∀ c ∈ name, isNameChar c = true
  /-- The name is not reserved. -/
  unreserved : isReserved name = false

/-- No member of `delimiters` stands in a writable name. -/
theorem IsWritable.not_mem {name : List Char} (hname : IsWritable name) {c : Char}
    (hc : c ∈ delimiters) : c ∉ name := by
  intro hmem
  have hyes := hname.nameChars c hmem
  rw [isNameChar_delimiter c hc] at hyes
  cases hyes

/-- A writable name is none of the reserved words. -/
theorem IsWritable.ne_keyword {name word : List Char} (hname : IsWritable name)
    (hword : isReserved word = true) : name ≠ word := by
  rintro rfl
  rw [hname.unreserved] at hword
  cases hword

/-- A writable name ends at the first delimiter after it: `List.takeWhile` with `isNameChar` gives
the name back. -/
theorem IsWritable.takeWhile_append {name : List Char} (hname : IsWritable name) {c : Char}
    (hc : c ∈ delimiters) (rest : List Char) :
    (name ++ c :: rest).takeWhile isNameChar = name := by
  rw [List.takeWhile_append_of_pos hname.nameChars,
    List.takeWhile_cons_of_neg (by simp [isNameChar_delimiter c hc]), List.append_nil]

/-- The reserved words consist of name characters. -/
theorem isNameChar_of_mem_keyword {word : List Char} (hword : isReserved word = true) :
    ∀ c ∈ word, isNameChar c = true := by
  have htable : keywordChars.all (fun word => word.all isNameChar) = true := by decide +kernel
  rw [isReserved, List.contains_iff_mem] at hword
  exact List.all_eq_true.mp (List.all_eq_true.mp htable word hword)

/-- What starts with a writable name and a delimiter does not start with a reserved word and a
delimiter. -/
theorem IsWritable.isPrefixOf?_keyword {name word : List Char} (hname : IsWritable name)
    (hword : isReserved word = true) {c d : Char} (hc : c ∈ delimiters) (hd : d ∈ delimiters)
    (next rest : List Char) : (word ++ d :: next).isPrefixOf? (name ++ c :: rest) = none := by
  refine Option.eq_none_iff_forall_ne_some.mpr ?_
  intro others hothers
  have hline := List.isPrefixOf?_eq_some_iff_append_eq.mp hothers
  rw [List.append_assoc, List.cons_append] at hline
  -- both sides start with a run of name characters, and the two runs are the word and the name
  have hstart : (word ++ d :: (next ++ others)).takeWhile isNameChar = word := by
    rw [List.takeWhile_append_of_pos (isNameChar_of_mem_keyword hword),
      List.takeWhile_cons_of_neg (by simp [isNameChar_delimiter d hd]), List.append_nil]
  rw [hline, hname.takeWhile_append hc] at hstart
  exact hname.ne_keyword hword hstart

/-- Every name that passes `isIdentifierChars` is writable. -/
theorem isWritable_of_identifier {name : List Char} (hname : isIdentifierChars name = true) :
    IsWritable name where
  ne_nil := isIdentifierChars_ne_nil hname
  nameChars _ hc := isNameChar_of_mem_identifier hname hc
  unreserved := by
    rcases isIdentifierChars_cases hname with ⟨body, rfl, -⟩ | ⟨-, hfree⟩
    · exact isReserved_verbatim body
    · exact hfree

/-- Lower-casing the first character of an identifier leaves name characters, `dotAbove` among them.
-/
theorem isNameChar_of_mem_lowerFirst {name : List Char} (hname : isIdentifierChars name = true)
    {c : Char} (hc : c ∈ lowerFirst name) : isNameChar c = true := by
  cases name with
  | nil => cases hc
  | cons first rest =>
    rcases List.mem_append.mp hc with hform | hrest
    · rcases lowercase_cases hform with rfl | halpha | rfl
      · exact isNameChar_of_mem_identifier hname List.mem_cons_self
      · exact isNameChar_of_continuesName (by simp [continuesName, isAlphanumeric, halpha])
      · exact isNameChar_dotAbove
    · exact isNameChar_of_mem_identifier hname (List.mem_cons_of_mem _ hrest)

/-- A property name that `propertyNameChars` derives from an identifier is writable, though it need
not be an identifier. -/
theorem isWritable_propertyNameChars {typeName : List Char}
    (hname : isIdentifierChars typeName = true) : IsWritable (propertyNameChars typeName) := by
  have hchars : ∀ c ∈ lowerFirst typeName, isNameChar c = true :=
    fun c hc => isNameChar_of_mem_lowerFirst hname hc
  have hne : lowerFirst typeName ≠ [] := by
    cases typeName with
    | nil => cases hname
    | cons first rest => simp [lowerFirst, lowercase_ne_nil]
  rw [propertyNameChars]
  split
  -- a reserved word is escaped, and then it is none
  · refine ⟨List.cons_ne_nil _ _, ?_, isReserved_verbatim _⟩
    intro c hc
    rcases List.mem_cons.mp hc with rfl | hmem
    · exact isNameChar_at
    · exact hchars c hmem
  · rename_i hfree
    exact ⟨hne, hchars, Bool.eq_false_iff.mpr hfree⟩

end Identifier

open Identifier

/-! ## Lists cut at a mark -/

section Mark

variable {α : Type} [BEq α] [LawfulBEq α] {mark : α} {front : List α}

/-- What stands before a mark is told apart from it. -/
theorem bne_of_not_mem (hfront : mark ∉ front) : ∀ x ∈ front, (x != mark) = true := by
  intro x hx
  simpa using fun heq : x = mark => hfront (heq ▸ hx)

/-- What stands before the first mark is what `List.takeWhile` takes. -/
theorem takeWhile_append_mark (hfront : mark ∉ front) (back : List α) :
    (front ++ mark :: back).takeWhile (· != mark) = front := by
  rw [List.takeWhile_append_of_pos (bne_of_not_mem hfront), List.takeWhile_cons_of_neg (by simp),
    List.append_nil]

/-- What starts with the first mark is what `List.dropWhile` leaves. -/
theorem dropWhile_append_mark (hfront : mark ∉ front) (back : List α) :
    (front ++ mark :: back).dropWhile (· != mark) = mark :: back := by
  rw [List.dropWhile_append_of_pos (bne_of_not_mem hfront), List.dropWhile_cons_of_neg (by simp)]

end Mark

/-- A character of `List.intercalate` is one of the separator or of a member. -/
theorem mem_intercalate {α : Type} {separator : List α} {pieces : List (List α)} {x : α}
    (hx : x ∈ separator.intercalate pieces) : x ∈ separator ∨ ∃ piece ∈ pieces, x ∈ piece := by
  induction pieces with
  | nil => cases hx
  | cons piece rest ih =>
    cases rest with
    | nil => exact Or.inr ⟨piece, List.mem_cons_self, by simpa using hx⟩
    | cons next others =>
      rw [List.intercalate_cons_cons, List.mem_append, List.mem_append] at hx
      rcases hx with (hpiece | hseparator) | hothers
      · exact Or.inr ⟨piece, List.mem_cons_self, hpiece⟩
      · exact Or.inl hseparator
      · rcases ih hothers with hseparator | ⟨found, hmem, hfound⟩
        · exact Or.inl hseparator
        · exact Or.inr ⟨found, List.mem_cons_of_mem _ hmem, hfound⟩

namespace TypeRef

/-! ## Paths and spelled types -/

/-- The characters between the names of a spelled type: those of `::`, of a path and of a type
argument list. -/
def marks : List Char := [':', '.', '<', '>', ',', ' ']

/-- Whether a character can stand in a spelled type: `isNameChar`, or one of `marks`. -/
def isTypeChar (c : Char) : Bool := isNameChar c || marks.contains c

theorem isTypeChar_of_isNameChar {c : Char} (hc : isNameChar c = true) : isTypeChar c = true := by
  simp [isTypeChar, hc]

theorem isTypeChar_of_mem_marks {c : Char} (hc : c ∈ marks) : isTypeChar c = true := by
  simp [isTypeChar, hc]

/-- A delimiter that is not in `marks` stands in no spelled type. -/
theorem not_mem_of_isTypeChar {text : List Char} (htext : ∀ c ∈ text, isTypeChar c = true)
    {c : Char} (hc : c ∈ delimiters) (hmark : c ∉ marks) : c ∉ text := by
  intro hmem
  have hyes := htext c hmem
  simp [isTypeChar, isNameChar_delimiter c hc, hmark] at hyes

/-- The characters of a dotted path of identifiers (`TypeName.isPathChars`) are type characters. -/
theorem isTypeChar_of_mem_path {name : List Char} (hname : TypeName.isPathChars name = true)
    {c : Char} (hc : c ∈ name) : isTypeChar c = true := by
  rw [← name.intercalate_splitOn '.'] at hc
  rcases mem_intercalate hc with hdot | ⟨piece, hpiece, hmem⟩
  · rw [List.mem_singleton.mp hdot]
    exact isTypeChar_of_mem_marks (by decide)
  · have hidentifier := List.all_eq_true.mp hname piece hpiece
    exact isTypeChar_of_isNameChar (isNameChar_of_mem_identifier hidentifier hmem)

/-- The alias of the global namespace consists of type characters. -/
theorem isTypeChar_globalAlias : ∀ c ∈ TypeName.globalAlias, isTypeChar c = true := by
  have htable : TypeName.globalAlias.all isTypeChar = true := by decide +kernel
  exact List.all_eq_true.mp htable

/-- The characters of a path that may be rooted in the global namespace (`TypeName.isRootedPath`)
are type characters. -/
theorem isTypeChar_of_mem_rootedPath {name : String} (hname : TypeName.isRootedPath name = true)
    {c : Char} (hc : c ∈ name.toList) : isTypeChar c = true := by
  rw [TypeName.isRootedPath, TypeName.withoutAlias] at hname
  cases hrest : TypeName.globalAlias.isPrefixOf? name.toList with
  | none =>
    rw [hrest] at hname
    exact isTypeChar_of_mem_path hname hc
  | some rest =>
    rw [hrest] at hname
    rw [← List.isPrefixOf?_eq_some_iff_append_eq.mp hrest] at hc
    rcases List.mem_append.mp hc with halias | hpath
    · exact isTypeChar_globalAlias c halias
    · exact isTypeChar_of_mem_path hname hpath

theorem isTypeChar_of_mem_qualifier {namespaceName : Option String} {containing : List String}
    (hnamespace : namespaceName.all TypeName.isPath = true)
    (hcontaining : containing.all isIdentifier = true) {c : Char}
    (hc : c ∈ qualifier namespaceName containing) : isTypeChar c = true := by
  have hdot : isTypeChar '.' = true := isTypeChar_of_mem_marks (by decide)
  rw [qualifier.eq_def, List.mem_append, List.mem_append] at hc
  -- the alias of the global namespace, the namespace with its dot, or an outer type with its dot
  rcases hc with (halias | hspace) | houter
  · exact isTypeChar_globalAlias c halias
  · cases namespaceName with
    | none => cases hspace
    | some name =>
      rcases List.mem_append.mp hspace with hname | hlast
      · exact isTypeChar_of_mem_path hnamespace hname
      · rw [List.mem_singleton.mp hlast]
        exact hdot
  · obtain ⟨outer, hmem, hin⟩ := List.mem_flatMap.mp houter
    have houter := List.all_eq_true.mp hcontaining outer hmem
    rcases List.mem_append.mp hin with hname | hlast
    · exact isTypeChar_of_isNameChar (isNameChar_of_mem_identifier houter hname)
    · rw [List.mem_singleton.mp hlast]
      exact hdot

/-- A character of a `bracketed` list is one of the brackets and separators, or one of a member. -/
theorem mem_bracketed {arguments : List (List Char)} {c : Char} (hc : c ∈ bracketed arguments) :
    c ∈ ['<', ',', ' ', '>'] ∨ ∃ argument ∈ arguments, c ∈ argument := by
  rw [bracketed] at hc
  split at hc
  · cases hc
  · rw [List.mem_append, List.mem_append] at hc
    rcases hc with (hopen | hinner) | hclose
    · exact Or.inl (by simp [List.mem_singleton.mp hopen])
    · have hseparators : ∀ separator ∈ ", ".toList, separator ∈ ['<', ',', ' ', '>'] := by simp
      exact (mem_intercalate hinner).imp_left (hseparators c)
    · exact Or.inl (by simp [List.mem_singleton.mp hclose])

/-- Where all members consist of type characters, so does the `bracketed` list. -/
theorem isTypeChar_of_mem_bracketed {arguments : List (List Char)}
    (harguments : ∀ argument ∈ arguments, ∀ c ∈ argument, isTypeChar c = true) {c : Char}
    (hc : c ∈ bracketed arguments) : isTypeChar c = true := by
  have hmarks : ∀ mark ∈ ['<', ',', ' ', '>'], mark ∈ marks := by simp [marks]
  rcases mem_bracketed hc with hmark | ⟨argument, hmem, hin⟩
  · exact isTypeChar_of_mem_marks (hmarks c hmark)
  · exact harguments argument hmem c hin

mutual

/-- Every character that `qualifiedChars` writes for a resolvable type is a type character, by
recursion over the type and its arguments. -/
theorem isTypeChar_of_mem_qualifiedChars :
    (type : TypeRef) → type.isResolvable = true → ∀ c ∈ type.qualifiedChars, isTypeChar c = true
  | ⟨namespaceName, containing, name, arguments⟩, htype => by
    simp only [isResolvable, Bool.and_eq_true] at htype
    obtain ⟨⟨⟨hnamespace, hcontaining⟩, hname⟩, harguments⟩ := htype
    intro c hc
    rw [qualifiedChars, List.mem_append, List.mem_append] at hc
    rcases hc with (hqualifier | hown) | hbracketed
    · exact isTypeChar_of_mem_qualifier hnamespace hcontaining hqualifier
    · exact isTypeChar_of_isNameChar (isNameChar_of_mem_identifier hname hown)
    · exact isTypeChar_of_mem_bracketed
        (isTypeChar_of_mem_argumentChars arguments harguments) hbracketed

/-- Every character of `argumentChars` is a type character if all arguments are resolvable. -/
theorem isTypeChar_of_mem_argumentChars :
    (arguments : List TypeRef) → areResolvable arguments = true →
      ∀ spelling ∈ argumentChars arguments, ∀ c ∈ spelling, isTypeChar c = true
  | [], _ => by simp [argumentChars]
  | argument :: rest, hall => by
    rw [areResolvable, Bool.and_eq_true] at hall
    intro spelling hspelling
    rw [argumentChars] at hspelling
    rcases List.mem_cons.mp hspelling with rfl | hrest
    · exact isTypeChar_of_mem_qualifiedChars argument hall.1
    · exact isTypeChar_of_mem_argumentChars rest hall.2 spelling hrest

end

end TypeRef

end Companion
