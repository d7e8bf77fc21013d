import Companion.Proofs.Part

/-! # File stems

The file of a part is called by the dotted name of its type and, for a generic type, by the number
of type parameters. `Declaration.IsNamed.fileStemChars_qualifiedChars` says so of every declaration
whose names are identifiers, and since neither dots nor backticks stand in identifiers, the pieces
of such a stem can be read back: `Declaration.hintNameOf_eq_iff` says that two files have one name
exactly if the types agree on namespace, name and number of type parameters. -/

namespace Companion

open Identifier Text

namespace Identifier

/-- White space stands in no name: it is no `isNameChar`. -/
theorem isNameChar_of_isWhiteSpace {c : Char} (hc : isWhiteSpace c = true) :
    isNameChar c = false := by
  have htable : whiteSpaceRanges.all (fun range =>
      (List.range' range.1 (range.2 + 1 - range.1)).all fun code => !isNameChar (Char.ofNat code))
        = true := by
    decide +kernel
  obtain ⟨range, hrange, hin⟩ := List.any_eq_true.mp hc
  simp only [Bool.and_eq_true, decide_eq_true_eq] at hin
  have hcode : c.toNat ∈ List.range' range.1 (range.2 + 1 - range.1) := by
    rw [List.mem_range'_1]
    omega
  have hname := List.all_eq_true.mp (List.all_eq_true.mp htable range hrange) _ hcode
  simpa [Char.ofNat_toNat] using hname

/-- A name character is no white space. -/
theorem isWhiteSpace_of_isNameChar {c : Char} (hc : isNameChar c = true) :
    isWhiteSpace c = false := by
  by_contra hspace
  rw [isNameChar_of_isWhiteSpace (Bool.not_eq_false _ ▸ hspace)] at hc
  cases hc

end Identifier

namespace TypeName

/-! ## Reading a type name -/

/-- No `globalAlias` goes on with what follows: the first character of the rest is none of its
characters. -/
def BreaksAlias (rest : List Char) : Prop := ∀ c ∈ rest.head?, c ∉ globalAlias

theorem breaksAlias_nil : BreaksAlias [] := fun _ hc => by cases hc

theorem breaksAlias_cons {c : Char} (hc : c ∉ globalAlias) (rest : List Char) :
    BreaksAlias (c :: rest) := fun _ hhead => Option.mem_some.mp hhead ▸ hc

/-- No `globalAlias` starts in front of what breaks it (`BreaksAlias`), unless it ends there with
its colons. -/
theorem not_alias_prefix_append {front rest : List Char} (hfront : ':' ∉ front)
    (hrest : BreaksAlias rest) : ¬globalAlias <+: front ++ rest := by
  intro halias
  have hcolon : ':' ∈ globalAlias := by decide
  rcases List.prefix_or_prefix_of_prefix halias (List.prefix_append front rest) with
    hinside | ⟨back, hback⟩
  · exact hfront (hinside.subset hcolon)
  · cases back with
    | nil =>
      rw [List.append_nil] at hback
      exact hfront (hback ▸ hcolon)
    | cons c others =>
      -- the alias would reach into what follows, whose first character it does not have
      rw [← hback, List.prefix_append_right_inj] at halias
      obtain ⟨back, rfl⟩ := halias
      exact hrest c rfl (hback ▸ List.mem_append_right _ List.mem_cons_self)

/-- A text without colons is kept by `eraseAliases` in front of what breaks an alias. -/
theorem eraseAliases_append {front rest : List Char} (hfront : ':' ∉ front)
    (hrest : BreaksAlias rest) :
    eraseAliases 0 (front ++ rest) = front ++ eraseAliases 0 rest := by
  induction front with
  | nil => rfl
  | cons c others ih =>
    have hstart := not_alias_prefix_append hfront hrest
    rw [← List.isPrefixOf_iff_prefix, List.cons_append] at hstart
    rw [List.cons_append, eraseAliases, if_neg hstart,
      ih fun hmem => hfront (List.mem_cons_of_mem c hmem), List.cons_append]

/-- A character that the `globalAlias` does not have is kept by `eraseAliases`. -/
theorem eraseAliases_cons {c : Char} (hc : c ∉ globalAlias) (rest : List Char) :
    eraseAliases 0 (c :: rest) = c :: eraseAliases 0 rest := by
  have hstart := not_alias_prefix_append (List.not_mem_nil (a := ':')) (breaksAlias_cons hc rest)
  rw [List.nil_append, ← List.isPrefixOf_iff_prefix] at hstart
  rw [eraseAliases, if_neg hstart]

/-- A text without colons holds no alias, and is kept by `eraseAliases`. -/
theorem eraseAliases_of_not_mem {name : List Char} (hname : ':' ∉ name) :
    eraseAliases 0 name = name := by
  have herased := eraseAliases_append hname breaksAlias_nil
  rwa [List.append_nil, eraseAliases, List.append_nil] at herased

/-- Outside of type arguments, `fileStemFrom` keeps everything but white space and what opens a list
of them. -/
theorem fileStemFrom_zero_append {front : List Char}
    (hfront : ∀ c ∈ front, c ≠ '<' ∧ isWhiteSpace c = false) (arity : Nat) (rest : List Char) :
    fileStemFrom 0 arity (front ++ rest) = front ++ fileStemFrom 0 arity rest := by
  induction front with
  | nil => rfl
  | cons c others ih =>
    rw [List.forall_mem_cons] at hfront
    obtain ⟨⟨hopen, hspace⟩, hothers⟩ := hfront
    rw [List.cons_append, fileStemFrom, if_neg hopen, if_neg (by simp), if_neg (by simp),
      if_neg (by simp [hspace]), ih hothers, List.cons_append]

/-- The number of type arguments of the outermost list after more commas, which count only directly
inside of this list. -/
def counted (depth arity commas : Nat) : Nat := if depth = 1 then arity + commas else arity

@[simp] theorem counted_zero (depth arity : Nat) : counted depth arity 0 = arity := ite_self arity

theorem counted_counted (depth arity commas more : Nat) :
    counted depth (counted depth arity commas) more = counted depth arity (commas + more) := by
  rw [counted, counted, counted]
  split
  · exact Nat.add_assoc ..
  · rfl

/-- Inside a list of type arguments, `fileStemFrom` leaves of a text without brackets nothing but
the count of its commas (`counted`). -/
theorem fileStemFrom_inside_append {inner : List Char} (hopen : '<' ∉ inner) (hclose : '>' ∉ inner)
    {depth : Nat} (hdepth : 0 < depth) (arity : Nat) (rest : List Char) :
    fileStemFrom depth arity (inner ++ rest)
      = fileStemFrom depth (counted depth arity (inner.count ',')) rest := by
  induction inner generalizing arity with
  | nil => rw [List.nil_append, List.count_nil, counted_zero]
  | cons c others ih =>
    simp only [List.mem_cons, not_or] at hopen hclose
    rw [List.cons_append, fileStemFrom, if_neg (Ne.symm hopen.1)]
    -- a comma counts directly inside of the outermost list only; all else is skipped
    by_cases hcomma : c = ',' ∧ depth = 1
    · have hone : arity + 1 = counted depth arity 1 := (if_pos hcomma.2).symm
      rw [if_pos hcomma, ih hopen.2 hclose.2, hone, counted_counted, hcomma.1,
        List.count_cons_self, Nat.add_comm]
    · rw [if_neg hcomma, if_neg (by simp [Ne.symm hclose.1]), if_pos (.inl hdepth),
        ih hopen.2 hclose.2, counted, counted]
      split
      case isTrue hone => rw [List.count_cons_of_ne fun hc => hcomma ⟨hc, hone⟩]
      case isFalse => rfl

/-- A list of texts without commas has one comma less than it has texts. -/
theorem count_comma_intercalate {pieces : List (List Char)}
    (hpieces : ∀ piece ∈ pieces, ',' ∉ piece) (hne : pieces ≠ []) :
    (", ".toList.intercalate pieces).count ',' + 1 = pieces.length := by
  induction pieces with
  | nil => exact absurd rfl hne
  | cons piece rest ih =>
    rw [List.forall_mem_cons] at hpieces
    have hpiece : piece.count ',' = 0 := List.count_eq_zero.mpr hpieces.1
    cases rest with
    | nil => simpa using hpiece
    | cons next others =>
      have hseparator : ", ".toList.count ',' = 1 := by decide
      rw [List.intercalate_cons_cons, List.count_append, List.count_append, hpiece, hseparator,
        List.length_cons, ← ih hpieces.2 (List.cons_ne_nil _ _)]
      omega

/-- The mark `arityMark` of a number of type arguments; nothing if there are none. -/
def aritySuffix (count : Nat) : List Char := if count = 0 then [] else arityMark count

/-- Of a `bracketed` list of names `fileStemFrom` leaves the mark of its length. -/
theorem fileStemFrom_bracketed {arguments : List (List Char)}
    (harguments : ∀ argument ∈ arguments, ∀ c ∈ argument, isNameChar c = true) (arity : Nat) :
    fileStemFrom 0 arity (TypeRef.bracketed arguments) = aritySuffix arguments.length := by
  have hfree : ∀ c ∈ delimiters, ∀ argument ∈ arguments, c ∉ argument := by
    intro c hc argument hmem hin
    have hname := harguments argument hmem c hin
    rw [isNameChar_delimiter c hc] at hname
    cases hname
  -- between the brackets stand the names and the separators, and neither holds a bracket
  have hinner : ∀ c ∈ delimiters, c ∉ ", ".toList → c ∉ ", ".toList.intercalate arguments := by
    intro c hc hseparator hmem
    rcases mem_intercalate hmem with hsep | ⟨argument, hargument, hin⟩
    · exact hseparator hsep
    · exact hfree c hc argument hargument hin
  by_cases hempty : arguments = []
  · subst hempty
    rfl
  · have hcount := count_comma_intercalate (hfree ',' (by decide)) hempty
    rw [TypeRef.bracketed, if_neg (by simpa using hempty), List.append_assoc, List.singleton_append,
      fileStemFrom, if_pos rfl, if_pos rfl,
      fileStemFrom_inside_append (hinner '<' (by decide) (by decide))
        (hinner '>' (by decide) (by decide)) Nat.one_pos,
      counted, if_pos rfl, Nat.add_comm 1, hcount]
    simp [fileStemFrom, aritySuffix, hempty]

/-- The number of type arguments can be read off its `aritySuffix`. -/
theorem aritySuffix_injective : Function.Injective aritySuffix := by
  intro first second heq
  have hmark (count : Nat) : arityMark count ≠ [] := by simp [arityMark]
  rw [aritySuffix, aritySuffix] at heq
  split at heq <;> split at heq
  case isTrue.isTrue hfirst hsecond => rw [hfirst, hsecond]
  case isTrue.isFalse => exact absurd heq.symm (hmark second)
  case isFalse.isTrue => exact absurd heq (hmark first)
  case isFalse.isFalse =>
    -- both suffixes are marks, and the decimal digits of a number determine it
    have hdigits : Nat.toDigits 10 first = Nat.toDigits 10 second :=
      List.append_cancel_left heq
    calc
      first = Nat.ofDigitChars 10 (Nat.toDigits 10 first) 0 := Nat.ofDigitChars_ten_toDigits.symm
      _ = Nat.ofDigitChars 10 (Nat.toDigits 10 second) 0 := by rw [hdigits]
      _ = second := Nat.ofDigitChars_ten_toDigits

end TypeName

namespace Declaration

variable {declaration : Declaration}

/-! ## The parts of a stem -/

/-- The name with its `properNamespace?`, without type parameters. -/
def dottedChars (declaration : Declaration) : List Char :=
  match declaration.properNamespace? with
  | some name => name.toList ++ '.' :: declaration.name.toList
  | none => declaration.name.toList

/-- The pieces of the `properNamespace?`; none in the global one. -/
def namespacePieces (declaration : Declaration) : List (List Char) :=
  match declaration.properNamespace? with
  | some name => name.toList.splitOn '.'
  | none => []

theorem qualifiedChars_eq (declaration : Declaration) :
    declaration.qualifiedChars = declaration.dottedChars
      ++ TypeRef.bracketed (declaration.typeParameters.map String.toList) := by
  rw [qualifiedChars, dottedChars]
  cases declaration.properNamespace? <;> simp [displayChars]

/-- The characters `dottedChars` of a name are name characters and dots. -/
theorem IsNamed.mem_dottedChars (hnamed : declaration.IsNamed) {c : Char}
    (hc : c ∈ declaration.dottedChars) : isNameChar c = true ∨ c = '.' := by
  have hname : c ∈ declaration.name.toList → isNameChar c = true :=
    fun hmem => isNameChar_of_mem_identifier hnamed.name hmem
  rw [dottedChars] at hc
  split at hc
  · rename_i space hspace
    rw [List.mem_append, List.mem_cons] at hc
    rcases hc with hspaced | hdot | hmem
    · rw [← space.toList.intercalate_splitOn '.'] at hspaced
      rcases mem_intercalate hspaced with hdot | ⟨piece, hpiece, hin⟩
      · exact Or.inr (List.mem_singleton.mp hdot)
      · have hpath := List.all_eq_true.mp (hnamed.namespaceName space hspace)
        exact Or.inl (isNameChar_of_mem_identifier (hpath piece hpiece) hin)
    · exact Or.inr hdot
    · exact Or.inl (hname hmem)
  · exact Or.inl (hname hc)

/-- A delimiter other than the dot stands in no dotted name (`dottedChars`). -/
theorem IsNamed.not_mem_dottedChars (hnamed : declaration.IsNamed) {c : Char}
    (hc : c ∈ delimiters) (hdot : c ≠ '.') : c ∉ declaration.dottedChars := by
  intro hmem
  rcases hnamed.mem_dottedChars hmem with hname | heq
  · rw [isNameChar_delimiter c hc] at hname
    cases hname
  · exact hdot heq

/-- The dotted name `dottedChars` can be cut into the pieces of the namespace and the name. -/
theorem IsNamed.splitOn_dottedChars (hnamed : declaration.IsNamed) :
    declaration.dottedChars.splitOn '.'
      = declaration.namespacePieces ++ [declaration.name.toList] := by
  have hname : '.' ∉ declaration.name.toList :=
    (isWritable_of_identifier hnamed.name).not_mem (by decide)
  rw [dottedChars, namespacePieces]
  split
  · rw [List.splitOn_append_cons_self, List.splitOn_eq_singleton hname]
  · rw [List.splitOn_eq_singleton hname, List.nil_append]

/-- The pieces of the namespace (`namespacePieces`) determine it. -/
theorem namespacePieces_inj {first second : Declaration} :
    first.namespacePieces = second.namespacePieces
      ↔ first.properNamespace? = second.properNamespace? := by
  constructor
  · intro hpieces
    rw [namespacePieces, namespacePieces] at hpieces
    cases hone : first.properNamespace? with
    | none =>
      cases htwo : second.properNamespace? with
      | none => rfl
      | some two =>
        rw [hone, htwo] at hpieces
        exact absurd hpieces.symm (List.splitOn_ne_nil _ _)
    | some one =>
      cases htwo : second.properNamespace? with
      | none =>
        rw [hone, htwo] at hpieces
        exact absurd hpieces (List.splitOn_ne_nil _ _)
      | some two =>
        rw [hone, htwo] at hpieces
        -- joining the pieces by dots gives the namespace back
        have htext := congrArg (['.'].intercalate ·) hpieces
        simp only [List.intercalate_splitOn, String.toList_inj] at htext
        rw [htext]
  · intro hspace
    rw [namespacePieces, namespacePieces, hspace]

/-- Dotted names (`dottedChars`) are equal exactly if namespaces and names are. -/
theorem IsNamed.dottedChars_inj {first second : Declaration} (hfirst : first.IsNamed)
    (hsecond : second.IsNamed) :
    first.dottedChars = second.dottedChars
      ↔ first.properNamespace? = second.properNamespace? ∧ first.name = second.name := by
  constructor
  · intro hdotted
    have hpieces := congrArg (List.splitOn '.') hdotted
    rw [hfirst.splitOn_dottedChars, hsecond.splitOn_dottedChars, List.append_singleton_inj,
      namespacePieces_inj, String.toList_inj] at hpieces
    exact hpieces
  · rintro ⟨hspace, hname⟩
    rw [dottedChars, dottedChars, hspace, hname]

/-- The stem `TypeName.fileStemChars` of a declaration is its dotted name with the mark of its
number of type parameters. -/
theorem IsNamed.fileStemChars_qualifiedChars (hnamed : declaration.IsNamed) :
    TypeName.fileStemChars declaration.qualifiedChars
      = declaration.dottedChars ++ TypeName.aritySuffix declaration.typeParameters.length := by
  have hparameters : ∀ parameter ∈ declaration.typeParameters.map String.toList,
      ∀ c ∈ parameter, isNameChar c = true := by
    intro parameter hmem c hc
    obtain ⟨name, hname, rfl⟩ := List.mem_map.mp hmem
    exact isNameChar_of_mem_identifier (hnamed.typeParameters name hname) hc
  -- without colons there is no alias to erase
  have hcolon : ':' ∉ declaration.qualifiedChars := by
    rw [qualifiedChars_eq, List.mem_append, not_or]
    refine ⟨hnamed.not_mem_dottedChars (by decide) (by decide), fun hmem => ?_⟩
    rcases TypeRef.mem_bracketed hmem with hmark | ⟨parameter, hparameter, hin⟩
    · exact absurd hmark (by decide)
    · have hname := hparameters parameter hparameter ':' hin
      rw [isNameChar_delimiter ':' (by decide)] at hname
      cases hname
  -- outside of the brackets every character is kept
  have hkept : ∀ c ∈ declaration.dottedChars, c ≠ '<' ∧ isWhiteSpace c = false := by
    intro c hc
    refine ⟨fun heq => hnamed.not_mem_dottedChars (by decide) (by decide) (heq ▸ hc), ?_⟩
    rcases hnamed.mem_dottedChars hc with hname | rfl
    · exact isWhiteSpace_of_isNameChar hname
    · decide
  rw [TypeName.fileStemChars, TypeName.eraseAliases_of_not_mem hcolon, qualifiedChars_eq,
    TypeName.fileStemFrom_zero_append hkept, TypeName.fileStemFrom_bracketed hparameters,
    List.length_map]

/-! ## Names of files -/

/-- A text without backticks ends where an `aritySuffix` begins. -/
theorem takeWhile_append_aritySuffix {front : List Char} (hfront : '`' ∉ front) (count : Nat) :
    (front ++ TypeName.aritySuffix count).takeWhile (· != '`') = front := by
  rw [List.takeWhile_append_of_pos (bne_of_not_mem hfront), TypeName.aritySuffix]
  split
  · simp
  · simp [TypeName.arityMark]

/-- Stems `TypeName.fileStemChars` are equal exactly if namespaces, names and numbers of type
parameters are. -/
theorem IsNamed.fileStemChars_inj {first second : Declaration} (hfirst : first.IsNamed)
    (hsecond : second.IsNamed) :
    TypeName.fileStemChars first.qualifiedChars = TypeName.fileStemChars second.qualifiedChars
      ↔ first.properNamespace? = second.properNamespace? ∧ first.name = second.name
        ∧ first.typeParameters.length = second.typeParameters.length := by
  rw [hfirst.fileStemChars_qualifiedChars, hsecond.fileStemChars_qualifiedChars, ← and_assoc,
    ← hfirst.dottedChars_inj hsecond]
  constructor
  · intro hstems
    have hfront := congrArg (List.takeWhile (· != '`')) hstems
    rw [takeWhile_append_aritySuffix (hfirst.not_mem_dottedChars (by decide) (by decide)),
      takeWhile_append_aritySuffix (hsecond.not_mem_dottedChars (by decide) (by decide))] at hfront
    rw [hfront] at hstems
    exact ⟨hfront, TypeName.aritySuffix_injective (List.append_cancel_left hstems)⟩
  · rintro ⟨hdotted, hcount⟩
    rw [hdotted, hcount]

/-- The namespaces `properNamespace?` are equal exactly if the given ones are, the absent and the
empty one counting as one. -/
theorem properNamespace?_inj {first second : Declaration} :
    first.properNamespace? = second.properNamespace?
      ↔ first.namespaceName.getD "" = second.namespaceName.getD "" := by
  have hproper (name : Option String) : (name.filter fun text => !text.isEmpty)
      = if name.getD "" = "" then none else some (name.getD "") := by
    cases name with
    | none => rfl
    | some text => by_cases hempty : text = "" <;> simp [hempty]
  rw [properNamespace?, properNamespace?, hproper, hproper]
  split <;> split <;> simp_all

/-- The parts of two declarations have one file name `Part.hintNameOf` exactly if the declarations
have the same namespace, the same name and the same number of type parameters, if `checkIdentity`
accepts both of them. An absent namespace and an empty one are the same. -/
theorem hintNameOf_eq_iff {first second : Declaration} (hfirst : first.checkIdentity = .ok ())
    (hsecond : second.checkIdentity = .ok ()) (emit : EmitOptions) :
    Part.hintNameOf emit first = Part.hintNameOf emit second
      ↔ first.namespaceName.getD "" = second.namespaceName.getD "" ∧ first.name = second.name
        ∧ first.typeParameters.length = second.typeParameters.length := by
  have hstems :=
    (isNamed_of_checkIdentity hfirst).fileStemChars_inj (isNamed_of_checkIdentity hsecond)
  rw [properNamespace?_inj] at hstems
  rw [← hstems, ← String.toList_inj, Part.hintNameOf, Part.hintNameOf]
  simp only [String.toList_append, TypeName.toList_fileStem, toList_qualifiedName,
    List.append_cancel_right_eq]

/-- The names of type parameters do not count for `Part.hintNameOf`, nor whether the global
namespace is absent or empty. -/
theorem hintNameOf_eq_pool :
    ((named "Pool").withTypeParameter "T").checkIdentity = .ok () ∧
      (((named "Pool").inNamespace "").withTypeParameter "U").checkIdentity = .ok () ∧
      Part.hintNameOf .standard ((named "Pool").withTypeParameter "T")
        = Part.hintNameOf .standard (((named "Pool").inNamespace "").withTypeParameter "U") := by
  have hfirst : ((named "Pool").withTypeParameter "T").checkIdentity = .ok () := by decide +kernel
  have hsecond :
      (((named "Pool").inNamespace "").withTypeParameter "U").checkIdentity = .ok () := by
    decide +kernel
  exact ⟨hfirst, hsecond, (hintNameOf_eq_iff hfirst hsecond .standard).mpr ⟨rfl, rfl, rfl⟩⟩

end Declaration

end Companion
