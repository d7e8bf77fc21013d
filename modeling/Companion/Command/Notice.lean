import Companion.Command
import Companion.Generation

/-! # Notices

Lines of the log about the work itself, beside what is reported: warnings of what could not be done,
which only a quiet run leaves out, and details, which only a verbose run has. -/

namespace Companion

/-- How much a notice matters. -/
inductive NoticeLevel
  /-- A detail of the work. -/
  | detail
  /-- Something that could not be done. -/
  | warning
  deriving DecidableEq, Repr

/-- The mark of a level at the start of a line. -/
def NoticeLevel.mark : NoticeLevel → String
  | .detail => "DEBUG"
  | .warning => " WARN"

/-- The colour of a level. -/
def NoticeLevel.color : NoticeLevel → String
  | .detail => "34"
  | .warning => "33"

/-- A notice of a run, which `Notice.line` shows in the log if `Settings.logs` says so. -/
structure Notice where
  /-- How much it matters. -/
  level : NoticeLevel
  /-- What it says. -/
  text : String
  /-- Names and values of what it is about. -/
  details : List (String × String)
  deriving DecidableEq, Repr

namespace Notice

/-- A text in a style of the terminal, or as it is. -/
def styled (color : Bool) (style text : String) : String :=
  if color then "\x1b[" ++ style ++ "m" ++ text ++ "\x1b[0m" else text

/-- How a character stands in a notice: controls of a terminal by their numbers, line breaks and all
other characters as they are. -/
def showChar (c : Char) : List Char :=
  let code := c.toNat
  if code = 0x1B ∨ code = 0x7 ∨ code = 0x8 ∨ code = 0xC ∨ code = 0x7F then
    "\\x".toList ++ [Nat.digitChar (code / 16), Nat.digitChar (code % 16)]
  else if 0x80 ≤ code ∧ code ≤ 0x9F then
    "\\u\x7b".toList ++ Nat.toDigits 16 code ++ "\x7d".toList
  else [c]

/-- A detail at the end of a line. -/
def detailText (color : Bool) (detail : String × String) : String :=
  " " ++ styled color "3" detail.1 ++ styled color "2" "=" ++ detail.2

/-- The line of a notice: the mark of its level, its text with `showChar`, and the `detailText` of
each detail. -/
def line (color : Bool) (notice : Notice) : String :=
  styled color notice.level.color notice.level.mark ++ " "
    ++ String.ofList (notice.text.toList.flatMap showChar)
    ++ String.join (notice.details.map (detailText color)) ++ "\n"

/-- The notice that a configuration file is going to be read, by `loadConfig`. -/
def ofConfig (path : Path) : Notice := ⟨.detail, "loading configuration", [("path", path.text)]⟩

/-- The notice of a source file that `addSource` cannot read. -/
def ofMissingSource (path : Path) (error : FileError) : Notice :=
  ⟨.detail, s!"source not loaded: {error.message}", [("path", path.text)]⟩

/-- The notice of what `Config.run` gives for a declaration: its error, or its part; none if it was
stopped by diagnostics. -/
def ofOutcome? (outcome : Outcome) : Option Notice :=
  match outcome.error, outcome.part with
  | some error, _ => some ⟨.warning, error.message, []⟩
  | none, some part =>
    some ⟨.detail, "rendered companion source",
      [("hint_name", part.hintName), ("content_hash", part.digest.hex)]⟩
  | none, none => none

end Notice

/-- Whether notices of a level are logged; a run that is both verbose and quiet is verbose. -/
def Settings.logs (settings : Settings) : NoticeLevel → Bool
  | .detail => settings.verbose
  | .warning => settings.verbose || !settings.quiet

/-- The lines of those notices that `Settings.logs` lets through. -/
def Settings.noticeLines (settings : Settings) (color : Bool) (notices : List Notice) : String :=
  String.join ((notices.filter fun notice => settings.logs notice.level).map (Notice.line color))

/-- The report with lines put before its log. -/
def CommandReport.after (lines : String) (report : CommandReport) : CommandReport :=
  { report with log := lines ++ report.log }

end Companion
