/-! # Layout of generated texts

A text as a sequence of steps: lines, empty lines, and braces that open and close a level.
`Layout.text` writes them one after the other, each non-empty line after the spaces of its level.
`Layout.lines` says which line each step writes. -/

namespace Companion.Layout

/-- One step of writing a text, taken by `Writer.perform`. -/
inductive Step
  /-- A line at the current level. -/
  | line (content : String)
  /-- An empty line. -/
  | blank
  /-- An opening brace, after which the level is one higher. -/
  | openBlock
  /-- A closing brace, at the level before the matching opening one. -/
  | closeBlock
  deriving DecidableEq, Repr

/-- The opening brace. -/
def openingBrace : String := "\x7b"

/-- The closing brace. -/
def closingBrace : String := "\x7d"

/-! ## Writing -/

/-- A text that is being written, line by line: the state that each `Step` changes. -/
structure Writer where
  /-- What is written so far. -/
  text : String
  /-- The spaces of one level. -/
  margin : String
  /-- The current level. -/
  level : Nat

namespace Writer

/-- A writer that has written nothing yet, with the width of a level as its `margin`. -/
def ofWidth (width : Nat) : Writer := ⟨"", String.ofList (List.replicate width ' '), 0⟩

/-- Writes an empty line. -/
def blank (writer : Writer) : Writer := { writer with text := writer.text ++ "\n" }

/-- Writes a line at the current level, after `level` times the `margin`; an empty line has no
spaces. -/
def line (writer : Writer) (content : String) : Writer :=
  if content.isEmpty then writer.blank
  else
    let indented := (List.replicate writer.level writer.margin).foldl (· ++ ·) writer.text
    { writer with text := indented ++ content ++ "\n" }

/-- Writes an opening brace as a `line`, after which the level is one higher. -/
def openBlock (writer : Writer) : Writer :=
  let opened := writer.line openingBrace
  { opened with level := opened.level + 1 }

/-- Writes a closing brace as a `line` after going back one level, if there is one to go back. -/
def closeBlock (writer : Writer) : Writer :=
  { writer with level := writer.level - 1 }.line closingBrace

/-- Takes one step, by the function of its name. -/
def perform (writer : Writer) : Step → Writer
  | .line content => writer.line content
  | .blank => writer.blank
  | .openBlock => writer.openBlock
  | .closeBlock => writer.closeBlock

/-- Takes steps one after the other with `perform`. -/
def performAll (writer : Writer) (steps : List Step) : Writer := steps.foldl perform writer

end Writer

/-- The text that steps write: that of `Writer.ofWidth` after `performAll` of them. -/
def text (width : Nat) (steps : List Step) : String :=
  ((Writer.ofWidth width).performAll steps).text

/-! ## Lines -/

/-- A line at a level, after `width * level` spaces; an empty line has no spaces. -/
def indented (width level : Nat) (content : String) : String :=
  if content.isEmpty then "" else String.ofList (List.replicate (width * level) ' ') ++ content

/-- The line that a step writes at a level, `indented` unless it is `blank`. -/
def Step.written (width level : Nat) : Step → String
  | .line content => indented width level content
  | .blank => ""
  | .openBlock => indented width level openingBrace
  | .closeBlock => indented width (level - 1) closingBrace

/-- The level after a step: one higher after `openBlock`, and one lower after `closeBlock`, never
below zero. -/
def Step.after (level : Nat) : Step → Nat
  | .openBlock => level + 1
  | .closeBlock => level - 1
  | _ => level

/-- The lines that steps write from a level on: each is `Step.written` at the level that
`Step.after` gives. -/
def linesFrom (width : Nat) : (level : Nat) → List Step → List String
  | _, [] => []
  | level, step :: rest => step.written width level :: linesFrom width (step.after level) rest

/-- The lines of a text: those of `linesFrom` at level zero. -/
def lines (width : Nat) (steps : List Step) : List String := linesFrom width 0 steps

@[simp] theorem linesFrom_nil (width level : Nat) : linesFrom width level [] = [] := rfl

@[simp] theorem linesFrom_cons (width level : Nat) (step : Step) (rest : List Step) :
    linesFrom width level (step :: rest)
      = step.written width level :: linesFrom width (step.after level) rest := rfl

/-- Each step writes one line: `linesFrom` has as many lines as there are steps. -/
@[simp] theorem length_linesFrom (width level : Nat) (steps : List Step) :
    (linesFrom width level steps).length = steps.length := by
  induction steps generalizing level with
  | nil => rfl
  | cons step rest ih => simp [ih]

end Companion.Layout
