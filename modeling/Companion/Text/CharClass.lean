import Companion.Text.Unicode.Alphabetic
import Companion.Text.Unicode.Numeric
import Companion.Text.Unicode.Lowercase

/-! # Character classes

Membership of a character in the Unicode properties that names and white space are defined by, and
the lower-case form of one character. A property is a list of closed code point ranges; `inRanges`
is membership in such a list. -/

namespace Companion.Text

/-- Whether a code point lies in one of the closed ranges. -/
def inRanges (ranges : List (Nat × Nat)) (code : Nat) : Bool :=
  ranges.any fun range => range.1 ≤ code && code ≤ range.2

@[simp] theorem inRanges_nil (code : Nat) : inRanges [] code = false := rfl

@[simp] theorem inRanges_cons (range : Nat × Nat) (ranges : List (Nat × Nat)) (code : Nat) :
    inRanges (range :: ranges) code
      = ((range.1 ≤ code && code ≤ range.2) || inRanges ranges code) := rfl

/-- The closed ranges of the property White_Space, in increasing order. -/
def whiteSpaceRanges : List (Nat × Nat) :=
  [(0x9, 0xD), (0x20, 0x20), (0x85, 0x85), (0xA0, 0xA0), (0x1680, 0x1680), (0x2000, 0x200A),
    (0x2028, 0x2029), (0x202F, 0x202F), (0x205F, 0x205F), (0x3000, 0x3000)]

/-- Whether a character has the property Alphabetic. -/
def isAlphabetic (c : Char) : Bool := inRanges Unicode.alphabeticRanges c.toNat

/-- Whether a character is a number: category Nd, Nl or No. -/
def isNumeric (c : Char) : Bool := inRanges Unicode.numericRanges c.toNat

/-- Whether a character is alphabetic or a number: `isAlphabetic` or `isNumeric`. -/
def isAlphanumeric (c : Char) : Bool := isAlphabetic c || isNumeric c

/-- Whether a character has the property White_Space. -/
def isWhiteSpace (c : Char) : Bool := inRanges whiteSpaceRanges c.toNat

/-- The lower-case form of one character, from `Unicode.lowercaseRuns`. Only the capital I with a
dot above has a form of two characters; a character without a mapping is its own form. -/
def lowercase (c : Char) : List Char :=
  if c.toNat = 0x130 then [Char.ofNat 0x69, Char.ofNat 0x307]
  else
    match Unicode.lowercaseRuns.findSome? fun run => run.apply? c.toNat with
    | some code => [Char.ofNat code]
    | none => [c]

/-- Removes the leading and the trailing white space (`isWhiteSpace`) of a text. -/
def trim (text : List Char) : List Char :=
  ((text.dropWhile isWhiteSpace).reverse.dropWhile isWhiteSpace).reverse

end Companion.Text
