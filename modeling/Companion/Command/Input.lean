import Companion.Command.Notice
import Companion.Declaration.Json
import Companion.Json.Reader
import Companion.Source.Database
import Companion.Diagnostic.Terminal

/-! # The input of commands

What commands read before they do anything: the configuration, the declarations, and the source
files from which diagnostics quote. -/

namespace Companion.Command

variable {m : Type → Type} [Monad m] [FileAccess m]

/-- The configuration file that holds: the named one, or the one that `Config.find` finds from the
current directory on. -/
def configPath (settings : Settings) : m (Option Path) :=
  match settings.config with
  | some path => return some path
  | none => do Config.find (← FileAccess.currentDirectory)

/-- The configuration of a file; without a file that is `Config.standard`. -/
def loadConfig : Option Path → m (Except CommandFault Config)
  | none => return .ok .standard
  | some path => return (← Config.loadFile path).mapError (.config path)

/-- The list of declarations of a document: the document itself, or its field `declarations`. -/
def declarationList : Json → Except String Json
  | .array items => .ok (.array items)
  | .object entries =>
    match (Json.object entries).get? "declarations" with
    | some list => .ok list
    | none => .error "expected a `declarations` array"
  | _ => .error "expected an array of declarations"

/-- The declarations of a text, or what is wrong with it in words: `Json.parse` reads the text, and
`Declaration.ofJson` each item of its `declarationList`. -/
def parseDeclarations (text : String) : Except String (List Declaration) := do
  let tree ← (Json.parse text).mapError fun failure => failure.message text
  let list ← declarationList tree.canonical
  (Json.asList Declaration.ofJson list).mapError DecodeError.message

/-- The declarations of a file: `parseDeclarations` of its text. -/
def readDeclarations (path : Path) : m (Except CommandFault (List Declaration)) := do
  match ← FileAccess.readText path with
  | .error error => return .error (.unreadable path error)
  | .ok text => return (parseDeclarations text).mapError (.malformed path)

/-- The directory from which the paths of source files start: the parent of the file of
declarations, or `.` if that is empty. -/
def baseDirectory (input : Path) : Path :=
  match input.parent? with
  | some parent => if parent.text.isEmpty then ⟨"."⟩ else parent
  | none => ⟨"."⟩

/-- Source files, with notices of those that could not be read. -/
abbrev LoadedSources := SourceDatabase × List Notice

/-- Adds a file to the sources, or the notice `ofMissingSource` if it cannot be read. -/
def addSource (base file : Path) (loaded : LoadedSources) : m LoadedSources := do
  let (sources, notices) := loaded
  match ← FileAccess.readText (base.join file) with
  | .error error => return (sources, notices ++ [.ofMissingSource (base.join file) error])
  | .ok text => return (sources.add file text, notices)

/-- Adds files to the sources with `addSource`, one after the other. -/
def addSources (base : Path) : List Path → LoadedSources → m LoadedSources
  | [], loaded => return loaded
  | file :: rest, loaded => do addSources base rest (← addSource base file loaded)

/-- The files of declarations whose places are known, in the order `Path.atMost`. Of paths that are
the `same` only one is there, in the spelling that comes last among the declarations. -/
def sourcePaths (declarations : List Declaration) : List Path :=
  let files := (declarations.filter fun declaration => !declaration.location.isUnknown).map
    (·.location.file)
  ((files.mergeSort Path.atMost).reverse.eraseDupsBy Path.same).reverse

/-- The source files of declarations: the `sourcePaths`, read from the `baseDirectory` on. -/
def loadSources (input : Path) (declarations : List Declaration) : m LoadedSources :=
  addSources (baseDirectory input) (sourcePaths declarations) (.empty, [])

end Companion.Command
