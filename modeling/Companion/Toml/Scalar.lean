import Companion.Json

/-! # Numbers and dates of settings documents

The reading of a bare word: an integer of 64 bits in one of four bases, a real number, or a date or
time. Underscores may stand between digits. No setting is a real number or a date, so only the form
of these is checked, and that a real number is not too great; they become `Json.null`. -/

namespace Companion.Toml

/-- The value of a digit of some base, and a bound on the base. -/
def digit? (c : Char) : Option Nat :=
  if c.isDigit then some (c.toNat - '0'.toNat)
  else if 'a' ≤ c ∧ c ≤ 'f' then some (c.toNat - 'a'.toNat + 10)
  else if 'A' ≤ c ∧ c ≤ 'F' then some (c.toNat - 'A'.toNat + 10)
  else none

/-- Reads one or more digits of a base. -/
def digitGroup? (base : Nat) (group : List Char) : Option (List Nat) :=
  if group.isEmpty then none else group.mapM fun c => (digit? c).filter (· < base)

/-- Reads digits of a base with underscores between them, each group with `digitGroup?`. -/
def digits? (base : Nat) (word : List Char) : Option (List Nat) :=
  ((word.splitOn '_').mapM (digitGroup? base)).map List.flatten

/-- The number that digits of a base stand for. -/
def numberOf (base : Nat) (digits : List Nat) : Nat :=
  digits.foldl (fun number digit => number * base + digit) 0

/-- An integer of 64 bits; none outside their range. -/
def bounded? (value : Int) : Option Int :=
  if Json.minInt64 ≤ value ∧ value ≤ Json.maxInt64 then some value else none

/-- A word without its sign, and whether the sign is a minus. -/
def unsigned : List Char → Bool × List Char
  | '+' :: rest => (false, rest)
  | '-' :: rest => (true, rest)
  | word => (false, word)

/-- Reads decimal digits without a superfluous zero in front. -/
def decimalDigits? (word : List Char) : Option (List Nat) := do
  let digits ← digits? 10 word
  if digits.head? = some 0 ∧ 1 < digits.length then none else some digits

/-- Reads a decimal number without a superfluous zero in front: `numberOf` its `decimalDigits?`. -/
def decimal? (word : List Char) : Option Nat := (decimalDigits? word).map (numberOf 10)

/-- Reads an integer: hexadecimal, octal or binary digits after a mark, or a `decimal?` number after
a sign. -/
def integer? (word : List Char) : Option Int :=
  match word with
  | '0' :: 'x' :: rest => (digits? 16 rest).bind fun digits => bounded? (numberOf 16 digits)
  | '0' :: 'o' :: rest => (digits? 8 rest).bind fun digits => bounded? (numberOf 8 digits)
  | '0' :: 'b' :: rest => (digits? 2 rest).bind fun digits => bounded? (numberOf 2 digits)
  | _ =>
    let (negative, rest) := unsigned word
    (decimal? rest).bind fun value => bounded? (if negative then -(value : Int) else value)

/-- The exponent that a word after its letter stands for. -/
def exponent? (word : List Char) : Option Int :=
  let (negative, rest) := unsigned word
  (digits? 10 rest).map fun digits =>
    if negative then -(numberOf 10 digits : Int) else numberOf 10 digits

/-- The least number that is rounded to infinity: half a unit of the last place above the greatest
double-precision number. -/
def infinityBound : Nat := Nat.pow 2 1024 - Nat.pow 2 970

/-- Whether digits times a power of ten are rounded to infinity. The bound has 309 digits, so
powers of ten are computed only for numbers with as many. -/
def isInfinite (digits : List Nat) (exponent : Int) : Bool :=
  let significant := digits.dropWhile (· == 0)
  let order := significant.length + exponent
  !significant.isEmpty && (309 < order || (order == 309 &&
    infinityBound * Nat.pow 10 (-exponent).toNat
      ≤ numberOf 10 significant * Nat.pow 10 exponent.toNat))

/-- Whether the parts of a word are those of a real number: the digits before the point, the point
with the digits after it, and the letter with the exponent. A positive number must be finite
(`isInfinite`). -/
def isRealOf (negative : Bool) (whole fraction exponent : List Char) : Bool :=
  let digitsAfter := if fraction.isEmpty then some [] else digits? 10 (fraction.drop 1)
  let power := if exponent.isEmpty then some 0 else exponent? (exponent.drop 1)
  match decimalDigits? whole, digitsAfter, power with
  | some before, some after, some power =>
    !(fraction.isEmpty && exponent.isEmpty)
      && (negative || !isInfinite (before ++ after) (power - after.length))
  | _, _, _ => false

/-- Whether a word is a real number: its parts satisfy `isRealOf`, or it is one of the words for
infinity and no number. -/
def isReal (word : List Char) : Bool :=
  let (negative, rest) := unsigned word
  if rest = "inf".toList ∨ rest = "nan".toList then true
  else
    let mantissa := rest.takeWhile fun c => c != 'e' && c != 'E'
    let whole := mantissa.takeWhile (· != '.')
    isRealOf negative whole (mantissa.drop whole.length) (rest.drop mantissa.length)

/-- The number that exactly `count` decimal digits stand for. -/
def fixedNumber? (count : Nat) (word : List Char) : Option Nat :=
  if word.length = count ∧ word.all Char.isDigit then
    some (numberOf 10 (word.map fun c => c.toNat - '0'.toNat))
  else none

/-- A number of exactly `count` digits, between `low` and `high`. -/
def isNumberIn (count low high : Nat) (word : List Char) : Bool :=
  (fixedNumber? count word).any fun value => low ≤ value && value ≤ high

/-- Whether a year has a leap day. -/
def isLeapYear (year : Nat) : Bool := year % 4 == 0 && (year % 100 != 0 || year % 400 == 0)

/-- The number of days of a month, which depends on `isLeapYear` for the second one. -/
def daysOfMonth (year month : Nat) : Nat :=
  if month = 2 then if isLeapYear year then 29 else 28
  else if month = 4 ∨ month = 6 ∨ month = 9 ∨ month = 11 then 30
  else 31

/-- Whether a word is a date: year, month and day, which is at most `daysOfMonth`. -/
def isDate (word : List Char) : Bool :=
  match word.splitOn '-' with
  | [year, month, day] =>
    match fixedNumber? 4 year, fixedNumber? 2 month with
    | some yearNumber, some monthNumber =>
      isNumberIn 2 1 12 month && isNumberIn 2 1 (daysOfMonth yearNumber monthNumber) day
    | _, _ => false
  | _ => false

/-- Whether a word is a time of day. -/
def isTime (word : List Char) : Bool :=
  match word.splitOn ':' with
  | [hour, minute, second] =>
    let whole := second.takeWhile (· != '.')
    let fraction := second.drop whole.length
    isNumberIn 2 0 23 hour && isNumberIn 2 0 59 minute && isNumberIn 2 0 60 whole
      && (fraction.isEmpty || (1 < fraction.length && (fraction.drop 1).all Char.isDigit))
  | _ => false

/-- Whether a word is the difference to universal time. -/
def isOffset (word : List Char) : Bool :=
  match word with
  | ['Z'] => true
  | ['z'] => true
  | sign :: rest =>
    (sign == '+' || sign == '-') &&
      match rest.splitOn ':' with
      | [hour, minute] => isNumberIn 2 0 23 hour && isNumberIn 2 0 59 minute
      | _ => false
  | [] => false

/-- Whether a word is a time of day (`isTime`), possibly with a difference to universal time
(`isOffset`). -/
def isOffsetTime (word : List Char) : Bool :=
  let time := word.takeWhile fun c => c.isDigit || c == ':' || c == '.'
  let offset := word.drop time.length
  isTime time && (offset.isEmpty || isOffset offset)

/-- Whether a word is a date (`isDate`), a time (`isTime`), or both with a mark between them. -/
def isMoment (word : List Char) : Bool :=
  isTime word || isDate word ||
    (isDate (word.take 10) &&
      match word.drop 10 with
      | mark :: rest => (mark == 'T' || mark == 't' || mark == ' ') && isOffsetTime rest
      | [] => false)

/-- Reads a bare word: a truth value, an `integer?`, a real number (`isReal`) or a moment
(`isMoment`). -/
def scalar? (word : List Char) : Option Json :=
  if word = "true".toList then some (.bool true)
  else if word = "false".toList then some (.bool false)
  else
    match integer? word with
    | some value => some (.integer value)
    | none => if isReal word || isMoment word then some .null else none

end Companion.Toml
