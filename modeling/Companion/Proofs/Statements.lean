import Companion.Proofs.Names
import Mathlib.Logic.Function.Basic

/-! # The statements of a populating method

The four kinds of statements that a populating method consists of, with a reader and a meaning.
`Statement.read?` reads one line; the lemmas about it take the lines apart that a part is written
with. `Statement.run` executes statements one after the other, on properties that hold an object or
null, until one of them throws; an oracle gives the answers of the lookups. -/

namespace Companion

open Identifier

/-- A statement about the property that a bare name denotes, as the populating method of a part
contains it. -/
inductive Statement
  /-- The statement `name = null;`. -/
  | clear (name : String)
  /-- The statement `name = this.method<type>();`. -/
  | assign (name method type : String)
  /-- The statement `if (name == null) name = this.method<type>();`. -/
  | fallback (name method type : String)
  /-- The statement `if (name == null) throw new exception();`. -/
  | guard (name exception : String)
  deriving DecidableEq, Repr

namespace Statement

/-! ## Reading -/

/-- The `bare` name of the characters up to the first space. -/
def nameOf (line : List Char) : String :=
  String.ofList (bareChars (line.takeWhile (· != ' ')))

/-- The characters from the first space on. -/
def afterName (line : List Char) : List Char := line.dropWhile (· != ' ')

/-- Reads `this.method<type>();` as the method and the type. -/
def readCall? (value : List Char) : Option (String × String) :=
  match "this.".toList.isPrefixOf? value with
  | none => none
  | some call =>
    match "<".toList.isPrefixOf? (call.dropWhile (· != '<')) with
    | none => none
    | some arguments =>
      (">();".toList.isSuffixOf? arguments).map fun type =>
        (String.ofList (call.takeWhile (· != '<')), String.ofList type)

/-- Reads the assignment of null as `clear`, or that of a call as `assign`. -/
def readAssignment? (line : List Char) : Option Statement :=
  match " = ".toList.isPrefixOf? (afterName line) with
  | none => none
  | some value =>
    -- no call is spelled like null
    if value = "null;".toList then some (.clear (nameOf line))
    else (readCall? value).map fun call => .assign (nameOf line) call.1 call.2

/-- Reads what is done while the property of a name is still null: an exception is thrown (`guard`),
or the same property is assigned (`fallback`). -/
def readGuarded? (name : String) (body : List Char) : Option Statement :=
  match "throw new ".toList.isPrefixOf? body with
  | some rest =>
    ("();".toList.isSuffixOf? rest).map fun exception => .guard name (String.ofList exception)
  | none =>
    match readAssignment? body with
    -- the tested and the assigned name may be spelled differently, with and without an `@`
    | some (.assign other method type) =>
      if other = name then some (.fallback name method type) else none
    | _ => none

/-- Reads a statement: what starts with `if (` is guarded, everything else is an assignment. -/
def read? (line : List Char) : Option Statement :=
  match "if (".toList.isPrefixOf? line with
  | none => readAssignment? line
  | some test =>
    match " == null) ".toList.isPrefixOf? (afterName test) with
    | none => none
    | some body => readGuarded? (nameOf test) body

/-- A writable name is cut off at the first space: `nameOf` gives its bare form and `afterName` the
rest. -/
theorem nameOf_append {name : String} (hname : IsWritable name.toList) (rest : List Char) :
    nameOf (name.toList ++ ' ' :: rest) = bare name ∧
      afterName (name.toList ++ ' ' :: rest) = ' ' :: rest := by
  have hspace : ' ' ∉ name.toList := hname.not_mem (by decide)
  rw [nameOf, afterName, takeWhile_append_mark hspace, dropWhile_append_mark hspace]
  exact ⟨rfl, rfl⟩

/-- A call that is written with a writable method is read by `readCall?` as its method and its type.
-/
theorem readCall?_written {method : String} (hmethod : IsWritable method.toList)
    (type : List Char) :
    readCall? ("this.".toList ++ (method.toList ++ '<' :: (type ++ ">();".toList)))
      = some (method, String.ofList type) := by
  have hangle : '<' ∉ method.toList := hmethod.not_mem (by decide)
  have hstart : "this.".toList.isPrefixOf?
      ("this.".toList ++ (method.toList ++ '<' :: (type ++ ">();".toList)))
        = some (method.toList ++ '<' :: (type ++ ">();".toList)) :=
    List.isPrefixOf?_eq_some_iff_append_eq.mpr rfl
  rw [readCall?, hstart]
  simp only [dropWhile_append_mark hangle, takeWhile_append_mark hangle]
  simp [List.isPrefixOf?]

/-! ## Written statements -/

section Written

variable {name method : String} (hname : IsWritable name.toList)

include hname

/-- What starts with a writable name and a space is read by `readAssignment?`, since no such name is
`if`. -/
theorem read?_of_name (rest : List Char) :
    read? (name.toList ++ ' ' :: rest) = readAssignment? (name.toList ++ ' ' :: rest) := by
  -- the name would have to be the reserved word that stands before the bracket
  have hkeyword : "if (".toList = "if".toList ++ ' ' :: ['('] := by simp
  have hstart : "if (".toList.isPrefixOf? (name.toList ++ ' ' :: rest) = none := by
    rw [hkeyword]
    exact hname.isPrefixOf?_keyword (by decide +kernel) (by decide) (by decide) ['('] rest
  rw [read?, hstart]

/-- A test is read together with what is done if it succeeds, by `readGuarded?`. -/
theorem read?_test (body : String) :
    read? ("if (" ++ name ++ " == null) " ++ body).toList
      = readGuarded? (bare name) body.toList := by
  have hstart : "if (".toList.isPrefixOf? ("if (" ++ name ++ " == null) " ++ body).toList
      = some (name.toList ++ ' ' :: ("== null) ".toList ++ body.toList)) := by
    rw [List.isPrefixOf?_eq_some_iff_append_eq]
    simp
  have hbody : " == null) ".toList.isPrefixOf? (' ' :: ("== null) ".toList ++ body.toList))
      = some body.toList :=
    List.isPrefixOf?_eq_some_iff_append_eq.mpr rfl
  obtain ⟨hbare, hafter⟩ := nameOf_append hname ("== null) ".toList ++ body.toList)
  rw [read?, hstart]
  simp only [hafter, hbody, hbare]

/-- The line `name = null;` is read as `clear` of the bare name. -/
theorem read?_clear : read? (name ++ " = null;").toList = some (.clear (bare name)) := by
  have hline : (name ++ " = null;").toList = name.toList ++ ' ' :: "= null;".toList := by simp
  obtain ⟨hbare, hafter⟩ := nameOf_append hname "= null;".toList
  rw [hline, read?_of_name hname, readAssignment?, hafter, hbare]
  rfl

/-- The assignment of a call is read by `readAssignment?` as its bare name, method and type. -/
theorem readAssignment?_call (hmethod : IsWritable method.toList) (type : String) :
    readAssignment? (name ++ " = this." ++ method ++ "<" ++ type ++ ">();").toList
      = some (.assign (bare name) method type) := by
  have hline : (name ++ " = this." ++ method ++ "<" ++ type ++ ">();").toList
      = name.toList ++ ' ' :: ("= ".toList
        ++ ("this.".toList ++ (method.toList ++ '<' :: (type.toList ++ ">();".toList)))) := by
    simp
  obtain ⟨hbare, hafter⟩ := nameOf_append hname ("= ".toList
    ++ ("this.".toList ++ (method.toList ++ '<' :: (type.toList ++ ">();".toList))))
  have hvalue : " = ".toList.isPrefixOf? (' ' :: ("= ".toList
        ++ ("this.".toList ++ (method.toList ++ '<' :: (type.toList ++ ">();".toList)))))
      = some ("this.".toList ++ (method.toList ++ '<' :: (type.toList ++ ">();".toList))) :=
    List.isPrefixOf?_eq_some_iff_append_eq.mpr rfl
  -- a call is not spelled like null
  have hcall : "this.".toList ++ (method.toList ++ '<' :: (type.toList ++ ">();".toList))
      ≠ "null;".toList := by
    simp
  rw [hline, readAssignment?, hafter, hbare, hvalue]
  simp only [if_neg hcall, readCall?_written hmethod, Option.map_some, String.ofList_toList]

/-- The line that assigns a call is read as `assign`. -/
theorem read?_assign (hmethod : IsWritable method.toList) (type : String) :
    read? (name ++ " = this." ++ method ++ "<" ++ type ++ ">();").toList
      = some (.assign (bare name) method type) := by
  rw [← readAssignment?_call hname hmethod type]
  simp only [String.toList_append, List.append_assoc]
  exact read?_of_name hname _

/-- The line that assigns a call to a property that is still null is read as `fallback`. -/
theorem read?_fallback (hmethod : IsWritable method.toList) (type : String) :
    read? ("if (" ++ name ++ " == null) "
        ++ (name ++ " = this." ++ method ++ "<" ++ type ++ ">();")).toList
      = some (.fallback (bare name) method type) := by
  have hkeyword : "throw new ".toList = "throw".toList ++ ' ' :: "new ".toList := by simp
  have hthrow : "throw new ".toList.isPrefixOf?
      (name ++ " = this." ++ method ++ "<" ++ type ++ ">();").toList = none := by
    rw [hkeyword]
    simp only [String.toList_append, List.append_assoc]
    exact hname.isPrefixOf?_keyword (by decide +kernel) (c := ' ') (by decide) (by decide) _ _
  rw [read?_test hname, readGuarded?, hthrow]
  simp only [readAssignment?_call hname hmethod, if_true]

/-- The line that throws an exception if a property is still null is read as `guard`. -/
theorem read?_guard (exception : String) :
    read? ("if (" ++ name ++ " == null) " ++ ("throw new " ++ exception ++ "();")).toList
      = some (.guard (bare name) exception) := by
  have hstart : "throw new ".toList.isPrefixOf? ("throw new " ++ exception ++ "();").toList
      = some (exception.toList ++ "();".toList) := by
    rw [List.isPrefixOf?_eq_some_iff_append_eq]
    simp
  have hend : "();".toList.isSuffixOf? (exception.toList ++ "();".toList)
      = some exception.toList :=
    List.isSuffixOf?_eq_some_iff_append_eq.mpr rfl
  rw [read?_test hname, readGuarded?, hstart]
  simp only [hend, Option.map_some, String.ofList_toList]

end Written

/-! ## Meaning -/

/-- What a run has done: the objects that the properties hold, and what was thrown, with the
property that was still null. -/
structure State (α : Type) where
  /-- The object of each property, if it holds one. -/
  objects : String → Option α
  /-- The property and the exception, if one was thrown. -/
  thrown : Option (String × String)

variable {α : Type}

/-- The state with an object, or null, in a property; the other properties are as they were. -/
def State.put (state : State α) (name : String) (object : Option α) : State α :=
  { state with objects := Function.update state.objects name object }

/-- Executes a statement; the `oracle` answers the lookup of a type by a method. -/
def execute (oracle : String → String → Option α) (state : State α) : Statement → State α
  | clear name => state.put name none
  | assign name method type => state.put name (oracle method type)
  | fallback name method type =>
    if (state.objects name).isNone then state.put name (oracle method type) else state
  | guard name exception =>
    if (state.objects name).isNone then { state with thrown := some (name, exception) } else state

/-- Executes statements one after the other with `execute`; once something was thrown, nothing more
is done. -/
def run (oracle : String → String → Option α) : State α → List Statement → State α
  | state, [] => state
  | state, statement :: rest =>
    if state.thrown.isSome then state else run oracle (statement.execute oracle state) rest

variable {oracle : String → String → Option α} {state : State α}

@[simp] theorem run_nil : run oracle state [] = state := rfl

/-- Before anything is thrown, `run` executes the first statement and goes on with the rest. -/
theorem run_cons (hstate : state.thrown = none) (statement : Statement) (rest : List Statement) :
    run oracle state (statement :: rest) = run oracle (statement.execute oracle state) rest := by
  simp [run, hstate]

/-- Once something was thrown, `run` leaves the state as it is. -/
theorem run_of_thrown (hstate : state.thrown.isSome = true) (statements : List Statement) :
    run oracle state statements = state := by
  cases statements with
  | nil => rfl
  | cons statement rest => rw [run, if_pos hstate]

/-- Two lists of statements are run one after the other: `run` of a concatenation is the
composition. -/
theorem run_append (state : State α) (first second : List Statement) :
    run oracle state (first ++ second) = run oracle (run oracle state first) second := by
  induction first generalizing state with
  | nil => rfl
  | cons statement rest ih =>
    rw [List.cons_append, run, run]
    split
    · rename_i hthrown
      rw [run_of_thrown hthrown]
    · exact ih _

end Statement

end Companion
