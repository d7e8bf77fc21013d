import Companion.FileSystem

/-! # Access to files

The operations on files that commands are made of. `FileAccess` states them for any monad, so that
one command runs on the computer's files and on a `Workspace`, of which its effect is then a
function. The second kind of run has neither links nor rights (`FileSystem`): what holds of it holds
of a run on the computer's files where these have no links and are accessible. -/

namespace Companion

/-- What a path stands for: an `Entry` without the content of a file. -/
inductive EntryKind
  | file
  | directory
  deriving DecidableEq, Repr

/-- The kind of an entry. -/
def Entry.kind : Entry → EntryKind
  | .file _ => .file
  | .directory => .directory

/-- A monad in which files can be used: `IO`, and `StateM Workspace`. -/
class FileAccess (m : Type → Type) where
  /-- The path of the current directory. -/
  currentDirectory : m Path
  /-- What a path stands for. -/
  kind? : Path → m (Option EntryKind)
  /-- The content of a file. -/
  read : Path → m (Except FileError ByteArray)
  /-- Sets the content of a file, which is created if necessary. -/
  write : Path → ByteArray → m (Except FileError Unit)
  /-- Creates a directory in an existing one. -/
  createDirectory : Path → m (Except FileError Unit)

/-- Runs a change that may fail as an operation of `StateM Workspace`; a failure leaves the
workspace as it is. -/
def Workspace.change (action : Workspace → Except FileError Workspace) :
    StateM Workspace (Except FileError Unit) := fun space =>
  match action space with
  | .error error => (.error error, space)
  | .ok space => (.ok (), space)

instance : FileAccess (StateM Workspace) where
  currentDirectory := fun space => (space.currentPath, space)
  kind? path := fun space => ((space.entry? path).map Entry.kind, space)
  read path := fun space => (space.read path, space)
  write path content := Workspace.change fun space => space.write path content
  createDirectory path := Workspace.change fun space => space.createDirectory path

namespace FileAccess

variable {m : Type → Type} [Monad m] [FileAccess m]

/-- Whether a path stands for a file, according to `kind?`. -/
def isFile (path : Path) : m Bool := do
  let kind ← kind? path
  return kind == some .file

/-- Whether a path stands for a directory, according to `kind?`. -/
def isDirectory (path : Path) : m Bool := do
  let kind ← kind? path
  return kind == some .directory

/-- Whether a path stands for anything, according to `kind?`. -/
def exists? (path : Path) : m Bool := do
  let kind ← kind? path
  return kind.isSome

/-- The text of bytes in UTF-8; other bytes fail with `notText`. -/
def textOf (content : ByteArray) : Except FileError String :=
  match String.fromUTF8? content with
  | some text => .ok text
  | none => .error .notText

/-- The text of a file: `textOf` of its content. -/
def readText (path : Path) : m (Except FileError String) := do
  let content ← read path
  return content.bind textOf

/-- Sets the text of a file: `write` of its UTF-8 form. -/
def writeText (path : Path) (text : String) : m (Except FileError Unit) :=
  write path text.toUTF8

/-- Creates a directory if it is not there yet: a failure counts only if there is no directory
afterwards. -/
def ensureDirectory (path : Path) : m (Except FileError Unit) := do
  match ← createDirectory path with
  | .ok () => return .ok ()
  | .error error => return if ← isDirectory path then .ok () else .error error

/-- Creates a directory and those on the way to it, of which at most `depth` are missing: where
`createDirectory` does not find the directory above, that one is created first. -/
def createWithin : (depth : Nat) → Path → m (Except FileError Unit)
  | 0, path => ensureDirectory path
  | depth + 1, path => do
    if path.text.isEmpty then return .ok ()
    match ← createDirectory path with
    | .ok () => return .ok ()
    | .error .notFound =>
      match path.parent? with
      | none => return .error (.other "failed to create whole tree")
      | some parent =>
        match ← createWithin depth parent with
        | .error error => return .error error
        | .ok () => ensureDirectory path
    | .error error => return if ← isDirectory path then .ok () else .error error

/-- Creates a directory and those on the way to it, as far as they are missing: `createWithin` as
deep as the path has pieces. -/
def createDirectories (path : Path) : m (Except FileError Unit) :=
  createWithin (path.pieces.length + 1) path

end FileAccess

end Companion
