/-! # Shortest decimals of binary fractions

The decimal text of a double-precision number. `Binary` is an exact value `mantissa * 2 ^ exponent`
with the half gaps to its neighbours; `shortest` finds the fewest digits that still lie closer to
the value than to its neighbours; `positional` writes them without an exponent and `scientific` with
one, as the place of the point asks for. -/

namespace Companion.Decimal

/-- A positive binary fraction in quarters of its last place, with the ends of the interval of
values that round to it. -/
structure Binary where
  /-- Four times the mantissa. -/
  value : Nat
  /-- Four times the lower end of the interval. -/
  lower : Nat
  /-- Four times the upper end of the interval. -/
  upper : Nat
  /-- Whether the ends belong to the interval. -/
  closed : Bool
  /-- The binary exponent of the quarters. -/
  exponent : Int
  deriving DecidableEq, Repr

/-- The bit before the fraction of a normal number. -/
def implicitBit : Nat := 0x10000000000000

/-- The bit of the sign. -/
def signBit : Nat := 0x8000000000000000

/-- The positive value with the given bits of exponent and fraction. Below a power of two the
interval is `narrow`, since the values there are twice as close. -/
def Binary.ofBits (bits : Nat) : Binary :=
  let biased := bits / implicitBit % 2048
  let fraction := bits % implicitBit
  let mantissa := if biased = 0 then fraction else fraction + implicitBit
  let narrow := fraction = 0 ∧ 1 < biased
  { value := 4 * mantissa
    lower := if narrow then 4 * mantissa - 1 else 4 * mantissa - 2
    upper := 4 * mantissa + 2
    closed := mantissa % 2 = 0
    exponent := (max biased 1 : Nat) - 1077 }

/-- Digits of a decimal and the place of its point: the value is `0.d₁d₂… * 10 ^ point`. -/
structure Digits where
  /-- The digits as one number. -/
  digits : Nat
  /-- The number of digits. -/
  count : Nat
  /-- The power of ten of the point. -/
  point : Int
  deriving DecidableEq, Repr

/-- Numerator and denominator of `scaled * 2 ^ exponent / 10 ^ place`. -/
def ratio (scaled : Nat) (exponent place : Int) : Nat × Nat :=
  (scaled * Nat.pow 2 exponent.toNat * Nat.pow 10 (-place).toNat,
    Nat.pow 2 (-exponent).toNat * Nat.pow 10 place.toNat)

/-- Whether `count * 10 ^ place` lies in the interval of a binary value. -/
def Binary.admits (binary : Binary) (count : Nat) (place : Int) : Bool :=
  let (low, den) := ratio binary.lower binary.exponent place
  let (high, _) := ratio binary.upper binary.exponent place
  if binary.closed then low ≤ count * den && count * den ≤ high
  else low < count * den && count * den < high

/-- The multiple of `10 ^ place` nearest to a binary value, among those that `Binary.admits`; of two
equally near ones the even one. -/
def Binary.nearest? (binary : Binary) (place : Int) : Option Nat :=
  let (num, den) := ratio binary.value binary.exponent place
  let below := num / den
  let belowFits := binary.admits below place
  let aboveFits := binary.admits (below + 1) place
  if belowFits && aboveFits then
    let gapBelow := num - below * den
    let gapAbove := (below + 1) * den - num
    some (if gapBelow < gapAbove || (gapBelow == gapAbove && below % 2 == 0) then below
      else below + 1)
  else if belowFits then some below
  else if aboveFits then some (below + 1)
  else none

/-- The power of ten above a binary value: the least `point` in the given window with
`value ≤ 10 ^ point`. -/
def Binary.pointFrom (binary : Binary) : (window : Nat) → Int → Int
  | 0, point => point
  | window + 1, point =>
    let (num, den) := ratio binary.value binary.exponent point
    if num < den then point else binary.pointFrom window (point + 1)

/-- The shortest digits of a binary value: the first `count` from which on `Binary.nearest?` finds a
decimal of so many digits. -/
def Binary.shortestFrom (binary : Binary) (point : Int) : (fuel count : Nat) → Digits
  | 0, count => ⟨0, count, point⟩
  | fuel + 1, count =>
    match binary.nearest? (point - count) with
    | some digits => ⟨digits, count, point⟩
    | none => binary.shortestFrom point fuel (count + 1)

/-- The shortest digits of a positive value given by its bits: `Binary.shortestFrom` one digit on;
17 digits always suffice. -/
def shortest (bits : Nat) : Digits :=
  let binary := Binary.ofBits bits
  binary.shortestFrom (binary.pointFrom 700 (-330)) 17 1

/-- The digits as characters, without the zeros at the end, and the place of the point. -/
def Digits.trimmed (digits : Digits) : List Char × Int :=
  let padded := Nat.toDigits 10 digits.digits
  ((padded.reverse.dropWhile (· == '0')).reverse,
    digits.point + (padded.length - digits.count : Int))

/-- The text of a decimal without exponent, with at least one digit on both sides of the point. -/
def positional (text : List Char) (point : Int) : List Char :=
  if point ≤ 0 then "0.".toList ++ List.replicate (-point).toNat '0' ++ text
  else
    let whole := text.take point.toNat ++ List.replicate (point.toNat - text.length) '0'
    let rest := text.drop point.toNat
    whole ++ ['.'] ++ (if rest.isEmpty then ['0'] else rest)

/-- The text of a decimal with one digit before the point and a signed exponent; there is no point
without a digit after it. -/
def scientific (text : List Char) (point : Int) : List Char :=
  let exponent := point - 1
  let rest := text.drop 1
  text.take 1 ++ (if rest.isEmpty then [] else '.' :: rest)
    ++ ['e', if exponent < 0 then '-' else '+'] ++ Nat.toDigits 10 exponent.natAbs

/-- The text of a decimal: `positional` if at most four zeros follow the point before the first
digit and at most sixteen digits precede the point, and `scientific` otherwise. -/
def Digits.text (digits : Digits) : List Char :=
  let (text, point) := digits.trimmed
  if -5 < point ∧ point ≤ 16 then positional text point else scientific text point

/-- The text of a finite double given by its bits: the sign, and the `shortest` digits that
determine it. -/
def ofBits (bits : UInt64) : String :=
  let magnitude := bits.toNat % signBit
  let sign := if bits.toNat < signBit then [] else ['-']
  let body := if magnitude = 0 then "0.0".toList else (shortest magnitude).text
  String.ofList (sign ++ body)

end Companion.Decimal
