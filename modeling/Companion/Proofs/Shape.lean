import Companion.Generation.Trial
import Companion.Proofs.FileStem
import Companion.Proofs.Nesting

/-! # The shape of a part

No name brings a brace, a line break or white space to the edge of a line into a part, so that all
its lines are tidy; and its blocks are closed where they are opened (`Part.nests_steps`). Hence
every generated text is well shaped: `Config.isWellShaped_of_generate`. -/

namespace Companion

namespace Part

open Identifier Layout Text

variable {config : Config} {declaration : Declaration} {plan : Plan}

/-! ## Tidy lines -/

/-- All `shapers` of a text are delimiters, and none of them is among the `marks` of a spelled type.
-/
theorem shapers_delimiters : ∀ c ∈ shapers, c ∈ delimiters ∧ c ∉ TypeRef.marks := by
  have htable : shapers.all (fun c => delimiters.contains c && !TypeRef.marks.contains c) = true :=
    by decide
  intro c hc
  simpa using List.all_eq_true.mp htable c hc

theorem isPlain_of_isTypeChar {text : List Char} (htext : ∀ c ∈ text, TypeRef.isTypeChar c = true) :
    IsPlain text := by
  intro c hc hshaper
  obtain ⟨hdelimiter, hmark⟩ := shapers_delimiters c hshaper
  exact TypeRef.not_mem_of_isTypeChar htext hdelimiter hmark hc

theorem isPlain_of_isWritable {name : List Char} (hname : IsWritable name) : IsPlain name :=
  isPlain_of_isTypeChar fun c hc => TypeRef.isTypeChar_of_isNameChar (hname.nameChars c hc)

theorem isPlain_of_identifier {name : String} (hname : isIdentifier name = true) :
    IsPlain name.toList :=
  isPlain_of_isWritable (isWritable_of_identifier hname)

theorem isPlain_of_rootedPath {name : String} (hname : TypeName.isRootedPath name = true) :
    IsPlain name.toList :=
  isPlain_of_isTypeChar fun _ hc => TypeRef.isTypeChar_of_mem_rootedPath hname hc

theorem isPlain_qualified {type : TypeRef} (htype : type.isResolvable = true) :
    IsPlain type.qualified.toList := by
  rw [TypeRef.toList_qualified]
  exact isPlain_of_isTypeChar (TypeRef.isTypeChar_of_mem_qualifiedChars type htype)

/-- A text ends as the last of its pieces does. -/
theorem getLast?_toList_append {front back : String} {last : Char}
    (hback : back.toList.getLast? = some last) :
    (front ++ back).toList.getLast? = some last := by
  rw [String.toList_append, List.getLast?_append, hback, Option.some_or]

/-- The attribute that demands a component is tidy: it stands between square brackets. -/
theorem isTidy_constraint {demand : String} {type : TypeRef}
    (hdemand : TypeName.isRootedPath demand = true) (htype : type.isResolvable = true) :
    IsTidy ("[" ++ demand ++ "(typeof(" ++ type.qualified ++ "))]").toList := by
  refine .of_isPlain '[' ']' ?_ (by simp) (getLast?_toList_append rfl)
    (by decide) (by decide)
  simp only [String.toList_append, isPlain_append]
  exact ⟨⟨⟨⟨by decide, isPlain_of_rootedPath hdemand⟩, by decide⟩, isPlain_qualified htype⟩,
    by decide⟩

/-- The header of a generated method is tidy. -/
theorem isTidy_methodHeader {method : String} (hmethod : isIdentifier method = true) :
    IsTidy ("private void " ++ method ++ "()").toList := by
  refine .of_isPlain 'p' ')' ?_ (by simp) (getLast?_toList_append rfl)
    (by decide) (by decide)
  simp only [String.toList_append, isPlain_append]
  exact ⟨⟨by decide, isPlain_of_identifier hmethod⟩, by decide⟩

/-- No character of a dotted path (`TypeName.isPathChars`) is white space. -/
theorem isWhiteSpace_of_mem_path {name : List Char} (hname : TypeName.isPathChars name = true)
    {c : Char} (hc : c ∈ name) : isWhiteSpace c = false := by
  rw [← name.intercalate_splitOn '.'] at hc
  rcases mem_intercalate hc with hdot | ⟨piece, hpiece, hmem⟩
  · rw [List.mem_singleton.mp hdot]
    decide
  · have hidentifier := List.all_eq_true.mp hname piece hpiece
    exact isWhiteSpace_of_isNameChar (isNameChar_of_mem_identifier hidentifier hmem)

/-- The header of a namespace is tidy. -/
theorem isTidy_namespace {name : String} (hname : TypeName.isPath name = true) :
    IsTidy ("namespace " ++ name).toList := by
  have hne : name.toList ≠ [] := by
    intro hempty
    rw [TypeName.isPath, hempty] at hname
    cases hname
  refine .of_isPlain 'n' (name.toList.getLast hne) ?_ (by simp)
    (getLast?_toList_append (List.getLast?_eq_some_getLast hne)) (by decide)
    (isWhiteSpace_of_mem_path hname (List.getLast_mem hne))
  simp only [String.toList_append, isPlain_append]
  exact ⟨by decide, isPlain_of_isTypeChar fun _ hc => TypeRef.isTypeChar_of_mem_path hname hc⟩

/-- The `displayName` of a well-named declaration ends in a character that is no white space. -/
theorem exists_getLast?_displayName (hnamed : declaration.IsNamed) :
    ∃ last, declaration.displayName.toList.getLast? = some last ∧ isWhiteSpace last = false := by
  have hne := isIdentifierChars_ne_nil hnamed.name
  rw [Declaration.toList_displayName, Declaration.displayChars, TypeRef.bracketed]
  split
  · rw [List.append_nil, List.getLast?_eq_some_getLast hne]
    exact ⟨_, rfl, isWhiteSpace_of_isNameChar
      (isNameChar_of_mem_identifier hnamed.name (List.getLast_mem hne))⟩
  · refine ⟨'>', ?_, by decide⟩
    rw [← List.append_assoc, List.getLast?_concat]

/-- The header of the part of a type is tidy. -/
theorem isTidy_classHeader (hnamed : declaration.IsNamed) :
    IsTidy ("partial class " ++ declaration.displayName).toList := by
  obtain ⟨last, hlast, hspace⟩ := exists_getLast?_displayName hnamed
  refine .of_isPlain 'p' last ?_ (by simp) (getLast?_toList_append hlast) (by decide) hspace
  simp only [String.toList_append, isPlain_append]
  exact ⟨by decide, isPlain_of_isTypeChar fun _ hc => hnamed.isTypeChar_of_mem_displayName hc⟩

/-- The `declarationLine` of a property is tidy: the braces of its accessors belong together. -/
theorem isTidy_declarationLine {property : PlannedProperty} (hnamed : property.IsNamed) :
    IsTidy property.declarationLine.toList := by
  have hfront : IsPlain ("private " ++ property.dependency.qualified ++ " " ++ property.name
      ++ " ").toList := by
    simp only [String.toList_append, isPlain_append]
    exact ⟨⟨⟨⟨by decide, isPlain_qualified hnamed.dependency⟩, by decide⟩,
      isPlain_of_isWritable hnamed.name⟩, by decide⟩
  -- the only braces of the line are those around the accessors
  have haccessors (level : Nat) : Balances level level "\x7b get; set; \x7d".toList := by
    have hnames : Balances (level + 1) (level + 1) " get; set; ".toList :=
      .of_not_mem (by decide) (by decide) _
    exact (Balances.opening level).append (hnames.append (.closing level))
  have hline : property.declarationLine.toList = ("private " ++ property.dependency.qualified ++ " "
      ++ property.name ++ " ").toList ++ "\x7b get; set; \x7d".toList := by
    simp [PlannedProperty.declarationLine]
  have hmem {c : Char} (hc : c ∈ shapers) (hliteral : c ∉ "\x7b get; set; \x7d".toList) :
      c ∉ property.declarationLine.toList := by
    rw [hline, List.mem_append, not_or]
    exact ⟨fun hin => hfront c hin hc, hliteral⟩
  refine ⟨⟨'p', _, by simp [PlannedProperty.declarationLine]; rfl, by decide, by decide⟩, ?_,
    hmem (by decide) (by decide), hmem (by decide) (by decide), fun level => ?_⟩
  · rw [hline, List.getLast?_append_of_ne_nil _ (by decide)]
    rintro c ⟨⟩
    decide
  · rw [hline]
    exact (Balances.of_not_mem (fun hin => hfront _ hin (by decide))
      (fun hin => hfront _ hin (by decide)) level).append (haccessors level)

/-- A line that starts with a writable name, goes on without `shapers` and ends in a semicolon is
tidy. -/
theorem isTidy_of_isWritable {name rest : String} (hname : IsWritable name.toList)
    (hrest : IsPlain rest.toList) (hlast : rest.toList.getLast? = some ';') :
    IsTidy (name ++ rest).toList := by
  obtain ⟨first, others, hfirst⟩ := List.exists_cons_of_ne_nil hname.ne_nil
  have hink : isWhiteSpace first = false :=
    isWhiteSpace_of_isNameChar (hname.nameChars first (by simp [hfirst]))
  refine .of_isPlain first ';' ?_ (by simp [hfirst]) (getLast?_toList_append hlast) hink
    (by decide)
  rw [String.toList_append, isPlain_append]
  exact ⟨isPlain_of_isWritable hname, hrest⟩

/-- Every line of `populationLines` is tidy: it starts with the name of the property or with `if`.
-/
theorem isTidy_of_mem_populationLines {property : PlannedProperty} (hvalid : config.Valid)
    (hnamed : property.IsNamed) {line : String}
    (hline : line ∈ property.populationLines config.runtime) : IsTidy line.toList := by
  have hlookup (region : Region) : IsPlain (" = this." ++ config.runtime.lookup region ++ "<"
      ++ property.dependency.qualified ++ ">();").toList := by
    simp only [String.toList_append, isPlain_append]
    exact ⟨⟨⟨⟨by decide, isPlain_of_identifier (hvalid.lookup region)⟩, by decide⟩,
      isPlain_qualified hnamed.dependency⟩, by decide⟩
  have hassignment (region : Region) : property.assignment config.runtime region
      = property.name ++ (" = this." ++ config.runtime.lookup region ++ "<"
        ++ property.dependency.qualified ++ ">();") := by
    simp only [PlannedProperty.assignment, String.append_assoc]
  -- a guarded line starts with the test, so only its end depends on what is guarded
  have hguarded {rest : String} (hrest : IsPlain rest.toList)
      (hlast : rest.toList.getLast? = some ';') : IsTidy (property.emptyTest ++ rest).toList := by
    refine .of_isPlain 'i' ';' ?_ (by simp [PlannedProperty.emptyTest])
      (getLast?_toList_append hlast) (by decide) (by decide)
    simp only [PlannedProperty.emptyTest, String.toList_append, isPlain_append]
    exact ⟨⟨⟨by decide, isPlain_of_isWritable hnamed.name⟩, by decide⟩, hrest⟩
  rcases PlannedProperty.populationLines_cases hline with
    rfl | ⟨region, rfl⟩ | ⟨region, rfl⟩ | rfl
  · exact isTidy_of_isWritable hnamed.name (by decide) rfl
  · rw [hassignment]
    exact isTidy_of_isWritable hnamed.name (hlookup region) (getLast?_toList_append rfl)
  · rw [hassignment]
    refine hguarded ?_ (getLast?_toList_append (getLast?_toList_append rfl))
    rw [String.toList_append, isPlain_append]
    exact ⟨isPlain_of_isWritable hnamed.name, hlookup region⟩
  · refine hguarded ?_ (getLast?_toList_append rfl)
    simp only [String.toList_append, isPlain_append]
    exact ⟨⟨by decide, isPlain_of_rootedPath hvalid.missingException⟩, by decide⟩

/-! ## Steps that nest -/

variable {level : Nat}

theorem nests_constraintSteps (hvalid : config.Valid) (hplan : plan.IsNamed) :
    Nests level (constraintSteps config.runtime plan) level := by
  refine .of_forall_mem fun step hstep => ?_
  obtain ⟨type, hmem, rfl⟩ := List.mem_map.mp hstep
  exact .line (isTidy_constraint hvalid.requireAttribute (hplan.constraints type hmem))

theorem nests_propertySteps (hplan : plan.IsNamed) : Nests level (propertySteps plan) level := by
  refine .of_forall_mem fun step hstep => ?_
  rcases List.mem_append.mp hstep with hproperty | hblank
  · obtain ⟨property, hmem, rfl⟩ := List.mem_map.mp hproperty
    exact .line (isTidy_declarationLine (hplan.properties property hmem))
  · split at hblank
    · cases hblank
    · rw [List.mem_singleton.mp hblank]
      exact .blank

theorem nests_populateSteps (hvalid : config.Valid) (hplan : plan.IsNamed) :
    Nests level (populateSteps config plan) level := by
  refine (Nests.line (isTidy_methodHeader hvalid.populateMethod)).append (.block ?_)
  refine .of_forall_mem fun step hstep => ?_
  obtain ⟨property, hmem, hline⟩ := List.mem_flatMap.mp hstep
  obtain ⟨line, hmemLine, rfl⟩ := List.mem_map.mp hline
  exact .line (isTidy_of_mem_populationLines hvalid (hplan.properties property hmem) hmemLine)

theorem nests_hookSteps (hvalid : config.Valid) (declaration : Declaration) :
    Nests level (hookSteps config.emit declaration) level := by
  rw [hookSteps]
  split
  · have hcall : IsTidy (config.emit.populateMethod ++ "();").toList :=
      isTidy_of_isWritable (isWritable_of_identifier hvalid.populateMethod) (by decide) rfl
    have hheader := isTidy_methodHeader hvalid.lifecycleHook
    exact (Nests.blank.append (.line hheader)).append (.block (.line hcall))
  · exact .nil

/-- The steps `typeSteps` nest from the level to itself: the part of a type ends in the brace that
closes it. -/
theorem nests_typeSteps (hvalid : config.Valid) (hdeclaration : declaration.IsNamed)
    (hplan : plan.IsNamed) : Nests level (typeSteps config declaration plan) level := by
  have hmembers : Nests (level + 1) (propertySteps plan ++ populateSteps config plan
      ++ hookSteps config.emit declaration) (level + 1) :=
    ((nests_propertySteps hplan).append (nests_populateSteps hvalid hplan)).append
      (nests_hookSteps hvalid declaration)
  exact (nests_constraintSteps hvalid hplan).append
    ((Nests.line (isTidy_classHeader hdeclaration)).append (.block hmembers))

theorem nests_steps (hvalid : config.Valid) (hdeclaration : declaration.IsNamed)
    (hplan : plan.IsNamed) : Nests 0 (steps config declaration plan) 0 := by
  have hmark : IsTidy "// <auto-generated/>".toList :=
    .of_isPlain '/' '>' (by decide) rfl rfl (by decide) (by decide)
  refine ((Nests.line hmark).append .blank).append ?_
  split
  · rename_i name hname
    exact (Nests.line (isTidy_namespace (hdeclaration.namespaceName name hname))).append
      (.block (nests_typeSteps hvalid hdeclaration hplan))
  · exact nests_typeSteps hvalid hdeclaration hplan

/-- The last step of `Part.steps` is a closing brace, that of the type or that of its namespace. -/
theorem exists_steps_eq_concat (config : Config) (declaration : Declaration) (plan : Plan) :
    ∃ front, steps config declaration plan = front ++ [.closeBlock] := by
  rw [steps]
  split
  · exact ⟨_, by rw [block, ← List.cons_append, ← List.append_assoc]⟩
  · exact ⟨_, by
      rw [typeSteps, block, ← List.cons_append, ← List.append_assoc, ← List.append_assoc]⟩

end Part

/-- Every text that `Config.generate` gives is well shaped (`Layout.IsWellShaped`), with the
indentation of the configuration: without carriage returns and white space at the end of a line,
with balanced braces, and with every line at its level. The declaration and the sink are arbitrary.
-/
theorem Config.isWellShaped_of_generate {config : Config} (hvalid : config.validate = .ok config)
    {declaration : Declaration} {sink : Sink} {part : Part}
    (hpart : (config.generate declaration sink).1 = .ok (some part)) :
    Layout.IsWellShaped config.emit.indent part.text := by
  have hvalid := validate_eq_ok_iff.mp hvalid
  obtain ⟨descriptors, hplans, rfl⟩ := generate_eq_part_iff.mp hpart
  have hnests := Part.nests_steps hvalid hplans.declaration_isNamed hplans.plan_isNamed
  obtain ⟨front, hfront⟩ := Part.exists_steps_eq_concat config declaration
    (Plan.ofDescriptors descriptors)
  rw [hfront] at hnests
  have htext := hnests.isWellShaped_text config.emit.indent
  rwa [← hfront] at htext

/-- The text of a declaration in a namespace is well shaped. -/
theorem Config.isWellShaped_of_generate_sample :
    Config.standard.validate = .ok Config.standard ∧
      ∃ part, (Config.standard.generate (Declaration.sample.inNamespace "Game") .empty).1
          = .ok (some part) ∧
        Layout.IsWellShaped 4 part.text := by
  have hvalid : Config.standard.validate = .ok Config.standard :=
    validate_eq_ok_iff.mpr valid_standard
  obtain ⟨part, hpart⟩ := exists_part_of_run Config.standard
    (Declaration.sample.inNamespace "Game") (by decide +kernel)
  exact ⟨hvalid, part, hpart, isWellShaped_of_generate hvalid hpart⟩

end Companion
