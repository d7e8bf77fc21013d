import Companion.Command

/-! # Command line arguments

The reading of a command line. It has two levels: the options before the name of the command, and
the options and operands after it. The options that all commands share may stand on both levels,
where the inner one wins; on one level no option is given twice. Arguments are judged one after the
other: the first one that is wrong, or that asks for help or for the version, decides. -/

namespace Companion

/-- What a command line asks for, as `Invocation.ofArguments` reads it. -/
inductive Invocation
  /-- Running a command. -/
  | run (settings : Settings) (command : Command)
  /-- The version. -/
  | version
  /-- A summary of the command line. -/
  | help
  /-- Nothing: the command line is wrong. -/
  | misuse
  deriving DecidableEq, Repr

namespace Invocation

/-- The options. -/
inductive OptionName
  | quiet
  | verbose
  | color
  | config
  | output
  | format
  | dryRun
  | force
  | help
  | version
  deriving DecidableEq, Repr

/-- How an option is written. -/
structure OptionForm where
  /-- The option. -/
  option : OptionName
  /-- Its name after two dashes. -/
  long : String
  /-- Its letter after one dash. -/
  short : Option Char
  /-- Whether it has a value. -/
  takesValue : Bool

/-- The options that all commands share, on both levels of a command line. -/
def sharedOptions : List OptionForm :=
  [⟨.quiet, "quiet", some 'q', false⟩, ⟨.verbose, "verbose", some 'v', false⟩,
    ⟨.color, "color", none, true⟩, ⟨.config, "config", none, true⟩,
    ⟨.help, "help", some 'h', false⟩]

/-- The option for the format of reports. -/
def formatOption : OptionForm := ⟨.format, "format", some 'f', true⟩

/-- The names of the commands. -/
inductive CommandName
  | generate
  | check
  | init
  deriving DecidableEq, Repr

/-- The command of a given name, if there is one. -/
def CommandName.ofText? : String → Option CommandName
  | "generate" => some .generate
  | "check" => some .check
  | "init" => some .init
  | _ => none

/-- The options that stand before the name of the command: the `sharedOptions`, and the version. -/
def outerOptions : List OptionForm :=
  sharedOptions ++ [⟨.version, "version", some 'V', false⟩]

/-- The options that stand after the name of a command: the `sharedOptions`, and those of the
command. -/
def innerOptions : CommandName → List OptionForm
  | .generate =>
    sharedOptions ++ [⟨.output, "output", some 'o', true⟩, formatOption,
      ⟨.dryRun, "dry-run", none, false⟩]
  | .check => sharedOptions ++ [formatOption]
  | .init => sharedOptions ++ [⟨.force, "force", none, false⟩]

/-- The number of operands that a command takes. -/
def operandCount : CommandName → Nat
  | .generate => 1
  | .check => 1
  | .init => 0

/-- The color choice of a given name, if there is one. -/
def colorChoice? : String → Option ColorChoice
  | "auto" => some .auto
  | "always" => some .always
  | "never" => some .never
  | _ => none

/-- The report format of a given name, if there is one. -/
def reportFormat? : String → Option ReportFormat
  | "text" => some .text
  | "json" => some .json
  | _ => none

/-- Whether an option may have a value: `colorChoice?` and `reportFormat?` know it, and paths are
not empty. -/
def accepts (option : OptionName) (value : String) : Bool :=
  match option with
  | .color => (colorChoice? value).isSome
  | .format => (reportFormat? value).isSome
  | .config => !value.isEmpty
  | .output => !value.isEmpty
  | _ => true

/-- The options given on one level, with their values; flags have an empty one. -/
abbrev Given := List (OptionName × String)

/-- Whether an option is given, with whatever value. -/
def Given.has (given : Given) (option : OptionName) : Bool := given.any (·.1 == option)

/-- The value of an option, if it is given. -/
def Given.value? (given : Given) (option : OptionName) : Option String :=
  (given.find? (·.1 == option)).map Prod.snd

/-- What has been read of one level of a command line, by `Level.read` argument by argument. -/
structure Level where
  /-- The options given. -/
  given : Given
  /-- The operands. -/
  operands : List String
  /-- The option whose value comes next. -/
  pending : Option OptionForm
  /-- Whether only operands can follow. -/
  operandsOnly : Bool

/-- A level of which nothing has been read. -/
def Level.start : Level := ⟨[], [], none, false⟩

/-- Takes an option with its value into account. Help and version end the reading; a value that
`accepts` refuses, and an option that is given already, are misuse. -/
def Level.give (level : Level) (form : OptionForm) (value : String) : Except Invocation Level :=
  match form.option with
  | .help => .error .help
  | .version => .error .version
  | option =>
    if level.given.has option || !accepts option value then .error .misuse
    else .ok { level with given := (option, value) :: level.given, pending := none }

/-- Reads an option by its long name, with the value after an equals sign if there is one; without
one the value is `pending`. -/
def Level.readLong (forms : List OptionForm) (level : Level) (text : List Char) :
    Except Invocation Level :=
  let name := text.takeWhile (· != '=')
  match forms.find? (·.long.toList == name), text.drop name.length with
  | none, _ => .error .misuse
  | some form, [] =>
    if form.takesValue then .ok { level with pending := some form } else level.give form ""
  | some form, _ :: value =>
    if form.takesValue then level.give form (String.ofList value) else .error .misuse

/-- Reads options by their letters; the first one with a value takes the rest, or is `pending` if
nothing is left. -/
def Level.readShort (forms : List OptionForm) : Level → List Char → Except Invocation Level
  | level, [] => .ok level
  | level, letter :: rest =>
    match forms.find? (·.short == some letter) with
    | none => .error .misuse
    | some form =>
      if form.takesValue then
        match rest with
        | [] => .ok { level with pending := some form }
        | '=' :: value => level.give form (String.ofList value)
        | value => level.give form (String.ofList value)
      else
        match level.give form "" with
        | .error stop => .error stop
        | .ok level => readShort forms level rest

/-- Takes an operand into account, of which there are at most `count`; an empty one is misuse. -/
def Level.takeOperand (count : Nat) (level : Level) (operand : String) : Except Invocation Level :=
  if operand.isEmpty || count ≤ level.operands.length then .error .misuse
  else .ok { level with operands := level.operands ++ [operand] }

/-- Reads one argument of a level with at most `count` operands: an option (`readLong`,
`readShort`), the value of the `pending` one, or an operand. -/
def Level.read (forms : List OptionForm) (count : Nat) (level : Level) (argument : String) :
    Except Invocation Level :=
  if level.operandsOnly then level.takeOperand count argument
  else
    match argument.toList, level.pending with
    | ['-', '-'], none => .ok { level with operandsOnly := true }
    | '-' :: '-' :: text, none => level.readLong forms text
    | '-' :: letter :: letters, none => level.readShort forms (letter :: letters)
    | '-' :: _ :: _, some _ => .error .misuse
    | _, some form => level.give form argument
    | _, none => level.takeOperand count argument

/-- Reads the arguments after the name of a command with `Level.read`, up to the first that stops
the reading. -/
def readInner (name : CommandName) : Level → List String → Except Invocation Level
  | level, [] => if level.pending.isSome then .error .misuse else .ok level
  | level, argument :: rest =>
    match level.read (innerOptions name) (operandCount name) argument with
    | .error stop => .error stop
    | .ok level => readInner name level rest

/-- The settings that two levels give; where both give a value, the inner one wins. -/
def settingsOf (outer inner : Given) : Settings :=
  let value? := fun option => (inner.value? option).or (outer.value? option)
  { quiet := inner.has .quiet || outer.has .quiet
    verbose := inner.has .verbose || outer.has .verbose
    color := ((value? .color).bind colorChoice?).getD .auto
    config := (value? .config).map Path.mk }

/-- The format of reports that options give: `text` if they give none. -/
def formatOf (given : Given) : ReportFormat :=
  ((given.value? .format).bind reportFormat?).getD .text

/-- The command that a level gives; none if the operand is missing that `operandCount` asks for. -/
def commandOf (name : CommandName) (level : Level) : Option Command :=
  match name with
  | .generate =>
    level.operands.head?.map fun input => .generate
      { input := ⟨input⟩
        output := ⟨(level.given.value? .output).getD "."⟩
        format := formatOf level.given
        dryRun := level.given.has .dryRun }
  | .check =>
    level.operands.head?.map fun input => .check
      { input := ⟨input⟩, format := formatOf level.given }
  | .init => some (.init (level.given.has .force))

/-- Reads the arguments after the name of a command (`readInner`), given the options before it. -/
def readCommand (outer : Given) (name : CommandName) (arguments : List String) : Invocation :=
  match readInner name .start arguments with
  | .error stop => stop
  | .ok level =>
    match commandOf name level with
    | none => .misuse
    | some command => .run (settingsOf outer level.given) command

/-- Reads the names after the request for help: none, or that of a command. -/
def readHelp : List String → Invocation
  | [] => .help
  | [name] => if (CommandName.ofText? name).isSome || name == "help" then .help else .misuse
  | _ => .misuse

/-- Reads arguments up to the name of the command, and then with `readCommand` those after it. -/
def readOuter : Level → List String → Invocation
  | _, [] => .misuse
  | level, argument :: rest =>
    match level.read outerOptions 1 argument with
    | .error stop => stop
    | .ok level =>
      match level.operands with
      | [] => readOuter level rest
      | name :: _ =>
        if level.operandsOnly then .misuse
        else if name = "help" then readHelp rest
        else
          match CommandName.ofText? name with
          | none => .misuse
          | some name => readCommand level.given name rest

/-- Reads a command line: `readOuter` from its first argument on. -/
def ofArguments (arguments : List String) : Invocation := readOuter .start arguments

/-- The answer to a request for the version. -/
def versionText : String := "ccg 0.1.0\n"

/-- The summary of the command line. -/
def helpText : String :=
  "Component cache generator\n\n"
    ++ "Usage: ccg [OPTIONS] generate <INPUT> [-o <OUTPUT>] [-f text|json] [--dry-run]\n"
    ++ "       ccg [OPTIONS] check <INPUT> [-f text|json]\n"
    ++ "       ccg [OPTIONS] init [--force]\n\n"
    ++ "Options: -q, --quiet  -v, --verbose  --color auto|always|never  --config <PATH>\n"

end Invocation

end Companion
