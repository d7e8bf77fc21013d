import Companion.Path

/-! # File systems

A file system as a finite map from absolute names to files and directories, with the operations that
programs perform on it and the ways in which they fail. A `Workspace` is a file system with a
current directory, from which relative paths start. `Workspace.locate` follows a path to its
`Destination`; what an operation does there is then a matter of the entry at that name.

An `Entry` is a file or a directory. There are no links, so that a name has one file and different
names have different ones, and there are no rights, so that every file can be read and written and
every directory searched. What is proved of a `Workspace` therefore holds for file systems without
links whose files and directories are all accessible; where a path leads through a link, or a right
is missing, it says nothing. -/

namespace Companion

/-- What a name stands for. There are files and directories, and nothing else: no links, and no file
that may not be read or written. -/
inductive Entry
  /-- A file with its content. -/
  | file (content : ByteArray)
  /-- A directory. -/
  | directory

/-- Why an operation on files fails: what `Workspace.read`, `write` and `createDirectory` give in
place of a result. -/
inductive FileError
  /-- The name, or a directory on the way to it, does not exist. -/
  | notFound
  /-- A name on the way is not that of a directory. -/
  | notDirectory
  /-- The name is that of a directory. -/
  | isDirectory
  /-- The name is taken. -/
  | alreadyExists
  /-- The content of the file is no text. -/
  | notText
  /-- The path, or a step of it, has too many bytes. -/
  | nameTooLong
  /-- The path holds the null character. -/
  | nullInPath
  /-- Another failure, in the words of the system. -/
  | other (message : String)
  deriving DecidableEq, Repr

/-- A failure in words. -/
def FileError.message : FileError → String
  | notFound => "No such file or directory (os error 2)"
  | notDirectory => "Not a directory (os error 20)"
  | isDirectory => "Is a directory (os error 21)"
  | alreadyExists => "File exists (os error 17)"
  | notText => "stream did not contain valid UTF-8"
  | nameTooLong => "File name too long (os error 36)"
  | nullInPath => "file name contained an unexpected NUL byte"
  | other message => message

/-- An absolute name: the steps from the root. -/
abbrev FileName := List String

/-- A file system: the entries below the root, each name once, as `put` keeps them. -/
structure FileSystem where
  /-- The entries below the root. -/
  entries : List (FileName × Entry)

namespace FileSystem

/-- The file system in which there is only the root. -/
def empty : FileSystem := ⟨[]⟩

/-- What a name stands for, if there is an entry of the name; the empty name stands for the root. -/
def get? (files : FileSystem) (name : FileName) : Option Entry :=
  if name.isEmpty then some .directory
  else (files.entries.find? (·.1 == name)).map Prod.snd

/-- Entries with one put at a name: in place of the entry of the name, or at the end. -/
def putEntry (name : FileName) (entry : Entry) :
    List (FileName × Entry) → List (FileName × Entry)
  | [] => [(name, entry)]
  | first :: rest =>
    if first.1 = name then (name, entry) :: rest else first :: putEntry name entry rest

/-- The file system with an entry put at a name, in place of an earlier one: `putEntry` into its
entries. -/
def put (files : FileSystem) (name : FileName) (entry : Entry) : FileSystem :=
  ⟨putEntry name entry files.entries⟩

theorem find?_putEntry (name other : FileName) (entry : Entry)
    (entries : List (FileName × Entry)) :
    (putEntry name entry entries).find? (·.1 == other)
      = if name = other then some (name, entry) else entries.find? (·.1 == other) := by
  induction entries with
  | nil => simp [putEntry]
  | cons first rest ih =>
    rw [putEntry]
    split
    case isTrue same =>
      subst same
      by_cases equal : first.1 = other <;> simp [equal]
    case isFalse different =>
      by_cases equal : first.1 = other
      · have : name ≠ other := fun h => different (equal.trans h.symm)
        simp [equal, this]
      · simp [equal, ih]

/-- Law of `put`: after it `get?` finds the entry at the name, and at other names what it found
before. -/
theorem get?_put (files : FileSystem) (name other : FileName) (entry : Entry)
    (proper : name ≠ []) :
    (files.put name entry).get? other = if name = other then some entry else files.get? other := by
  unfold get? put
  by_cases empty : other = []
  · subst empty; simp [proper]
  · simp only [List.isEmpty_iff, empty, if_false, find?_putEntry]
    split <;> rfl

/-- The greatest number of bytes of a step. -/
def maxStepSize : Nat := 255

/-- The greatest number of bytes of a path. -/
def maxPathSize : Nat := 4095

/-- The name of a step below a directory; `nameTooLong` beyond `maxStepSize`. -/
def nameBelow (directory : FileName) (step : String) : Except FileError FileName :=
  if maxStepSize < step.utf8ByteSize then .error .nameTooLong else .ok (directory ++ [step])

/-- The directory that steps lead to from a directory: `.` stays, `..` goes up, and any other step
must be the name of a directory. -/
def walk (files : FileSystem) (directory : FileName) : List String → Except FileError FileName
  | [] => .ok directory
  | step :: rest =>
    if step = "." then walk files directory rest
    else if step = ".." then walk files directory.dropLast rest
    else
      match nameBelow directory step with
      | .error error => .error error
      | .ok name =>
        match files.get? name with
        | none => .error .notFound
        | some (.file _) => .error .notDirectory
        | some .directory => walk files name rest

end FileSystem

/-- A file system with a current directory, on which `Command.run` is run as a function. -/
structure Workspace where
  /-- The files. -/
  files : FileSystem
  /-- The current directory. -/
  directory : FileName

namespace Workspace

/-- The path of the current directory. -/
def currentPath (space : Workspace) : Path := ⟨"/" ++ "/".intercalate space.directory⟩

/-- What a path leads to. -/
inductive Destination
  /-- A directory, which is there: the path is the root or ends in `.` or `..`. -/
  | directory
  /-- A name in a directory, whether there is anything at it or not; a slash after it asks for a
  directory. -/
  | entry (name : FileName) (slash : Bool)
  deriving DecidableEq, Repr

/-- Follows a path that can be looked up at all: `FileSystem.walk` takes all steps but the last one,
which may be new. -/
def follow (space : Workspace) (path : Path) : Except FileError Destination :=
  let start := if path.isAbsolute then [] else space.directory
  let steps := (path.pieces.filter fun piece => !piece.isEmpty).map String.ofList
  match steps.getLast? with
  | none => .ok .directory
  | some last =>
    if last = "." ∨ last = ".." then (space.files.walk start steps).map fun _ => .directory
    else do
      let directory ← space.files.walk start steps.dropLast
      let name ← FileSystem.nameBelow directory last
      .ok (.entry name (path.text.endsWith "/"))

/-- Follows a path with `follow`, unless it holds the null character, is empty or is longer than
`maxPathSize`. -/
def locate (space : Workspace) (path : Path) : Except FileError Destination :=
  if path.text.toList.any fun c => c.toNat == 0 then .error .nullInPath
  else if path.text.isEmpty then .error .notFound
  else if FileSystem.maxPathSize < path.text.utf8ByteSize then .error .nameTooLong
  else space.follow path

/-- What a path stands for, at the place that `locate` gives; a file with a slash after its name is
none. -/
def entry? (space : Workspace) (path : Path) : Option Entry :=
  match space.locate path with
  | .error _ => none
  | .ok .directory => some .directory
  | .ok (.entry name slash) =>
    match space.files.get? name with
    | some (.file content) => if slash then none else some (.file content)
    | found => found

/-- The content of a file, at the place that `locate` gives. -/
def read (space : Workspace) (path : Path) : Except FileError ByteArray := do
  match ← space.locate path with
  | .directory => .error .isDirectory
  | .entry name slash =>
    match space.files.get? name with
    | none => .error .notFound
    | some .directory => .error .isDirectory
    | some (.file content) => if slash then .error .notDirectory else .ok content

/-- The workspace with an entry put at a name with `FileSystem.put`; the current directory stays. -/
def putAt (space : Workspace) (name : FileName) (entry : Entry) : Workspace :=
  { space with files := space.files.put name entry }

/-- The workspace with another content in a file at the place that `locate` gives, where the file is
created if necessary. -/
def write (space : Workspace) (path : Path) (content : ByteArray) :
    Except FileError Workspace := do
  match ← space.locate path with
  | .directory => .error .isDirectory
  | .entry name slash =>
    if slash then .error .isDirectory
    else
      match space.files.get? name with
      | some .directory => .error .isDirectory
      | _ => .ok (space.putAt name (.file content))

/-- The workspace with a new directory at the place that `locate` gives; a name that is taken fails
with `alreadyExists`. -/
def createDirectory (space : Workspace) (path : Path) : Except FileError Workspace := do
  match ← space.locate path with
  | .directory => .error .alreadyExists
  | .entry name _ =>
    match space.files.get? name with
    | some _ => .error .alreadyExists
    | none => .ok (space.putAt name .directory)

end Workspace

end Companion
