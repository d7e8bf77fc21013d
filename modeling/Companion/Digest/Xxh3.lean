/-! # The 128-bit XXH3 hash

The hash with seed zero and the standard secret. Inputs are treated by length: up to 16 bytes by one
mixing step, up to 240 bytes by pairs of 16-byte lanes, and longer ones by blocks of 1024 bytes in
eight running sums. All arithmetic is modulo the word size. -/

namespace Companion.Digest.Xxh3

/-- The standard secret. -/
def secret : ByteArray := ⟨#[
    0xB8, 0xFE, 0x6C, 0x39, 0x23, 0xA4, 0x4B, 0xBE, 0x7C, 0x01, 0x81, 0x2C, 0xF7, 0x21, 0xAD, 0x1C,
    0xDE, 0xD4, 0x6D, 0xE9, 0x83, 0x90, 0x97, 0xDB, 0x72, 0x40, 0xA4, 0xA4, 0xB7, 0xB3, 0x67, 0x1F,
    0xCB, 0x79, 0xE6, 0x4E, 0xCC, 0xC0, 0xE5, 0x78, 0x82, 0x5A, 0xD0, 0x7D, 0xCC, 0xFF, 0x72, 0x21,
    0xB8, 0x08, 0x46, 0x74, 0xF7, 0x43, 0x24, 0x8E, 0xE0, 0x35, 0x90, 0xE6, 0x81, 0x3A, 0x26, 0x4C,
    0x3C, 0x28, 0x52, 0xBB, 0x91, 0xC3, 0x00, 0xCB, 0x88, 0xD0, 0x65, 0x8B, 0x1B, 0x53, 0x2E, 0xA3,
    0x71, 0x64, 0x48, 0x97, 0xA2, 0x0D, 0xF9, 0x4E, 0x38, 0x19, 0xEF, 0x46, 0xA9, 0xDE, 0xAC, 0xD8,
    0xA8, 0xFA, 0x76, 0x3F, 0xE3, 0x9C, 0x34, 0x3F, 0xF9, 0xDC, 0xBB, 0xC7, 0xC7, 0x0B, 0x4F, 0x1D,
    0x8A, 0x51, 0xE0, 0x4B, 0xCD, 0xB4, 0x59, 0x31, 0xC8, 0x9F, 0x7E, 0xC9, 0xD9, 0x78, 0x73, 0x64,
    0xEA, 0xC5, 0xAC, 0x83, 0x34, 0xD3, 0xEB, 0xC3, 0xC5, 0x81, 0xA0, 0xFF, 0xFA, 0x13, 0x63, 0xEB,
    0x17, 0x0D, 0xDD, 0x51, 0xB7, 0xF0, 0xDA, 0x49, 0xD3, 0x16, 0x55, 0x26, 0x29, 0xD4, 0x68, 0x9E,
    0x2B, 0x16, 0xBE, 0x58, 0x7D, 0x47, 0xA1, 0xFC, 0x8F, 0xF8, 0xB8, 0xD1, 0x7A, 0xD0, 0x31, 0xCE,
    0x45, 0xCB, 0x3A, 0x8F, 0x95, 0x16, 0x04, 0x28, 0xAF, 0xD7, 0xFB, 0xCA, 0xBB, 0x4B, 0x40, 0x7E]⟩

/-- A pair of words: the halves of a product, of a running sum or of the hash. -/
structure Halves where
  /-- The low half. -/
  low : UInt64
  /-- The high half. -/
  high : UInt64
  deriving DecidableEq

/-! ## Constants -/

/-- The first 32-bit prime. -/
def prime32a : UInt64 := 0x9E3779B1

/-- The second 32-bit prime. -/
def prime32b : UInt64 := 0x85EBCA77

/-- The third 32-bit prime. -/
def prime32c : UInt64 := 0xC2B2AE3D

/-- The first 64-bit prime. -/
def prime64a : UInt64 := 0x9E3779B185EBCA87

/-- The second 64-bit prime. -/
def prime64b : UInt64 := 0xC2B2AE3D27D4EB4F

/-- The third 64-bit prime. -/
def prime64c : UInt64 := 0x165667B19E3779F9

/-- The fourth 64-bit prime. -/
def prime64d : UInt64 := 0x85EBCA77C2B2AE63

/-- The fifth 64-bit prime. -/
def prime64e : UInt64 := 0x27D4EB2F165667C5

/-! ## Words -/

/-- The byte at an index; zero beyond the end. -/
def byteAt (data : ByteArray) (index : Nat) : UInt8 := data[index]?.getD 0

/-- The word of `count` bytes from an index on, lowest byte first; bytes beyond the end are zero as
for `byteAt`. -/
def wordAt (data : ByteArray) : (count index : Nat) → UInt64
  | 0, _ => 0
  | count + 1, index => (byteAt data index).toUInt64 ||| (wordAt data count (index + 1) <<< 8)

/-- The four bytes from an index on. -/
def read32 (data : ByteArray) (index : Nat) : UInt64 := wordAt data 4 index

/-- The eight bytes from an index on. -/
def read64 (data : ByteArray) (index : Nat) : UInt64 := wordAt data 8 index

/-- The low 32 bits of a word. -/
def low32 (word : UInt64) : UInt64 := word &&& 0xFFFFFFFF

/-- The bytes of a word of `count` bytes in the opposite order. -/
def reverseBytes : (count : Nat) → UInt64 → UInt64
  | 0, _ => 0
  | count + 1, word =>
    ((word &&& 0xFF) <<< (8 * count).toUInt64) ||| reverseBytes count (word >>> 8)

/-- Rotates a word of 32 bits to the left by 13. -/
def rotate13 (word : UInt64) : UInt64 := low32 (word <<< 13) ||| (low32 word >>> 19)

/-- The full product of two words. -/
def product (first second : UInt64) : Halves :=
  let full := first.toNat * second.toNat
  ⟨full.toUInt64, (full >>> 64).toUInt64⟩

/-- The exclusive or of the halves of the `product` of two words. -/
def foldedProduct (first second : UInt64) : UInt64 :=
  let full := product first second
  full.low ^^^ full.high

/-- Mixes a word with its own upper bits. -/
def xorShift (word amount : UInt64) : UInt64 := word ^^^ (word >>> amount)

/-- The final mixing of a word. -/
def avalanche (word : UInt64) : UInt64 :=
  xorShift (xorShift word 37 * 0x165667919E3779F9) 32

/-- The final mixing for inputs of at most three bytes. -/
def shortAvalanche (word : UInt64) : UInt64 :=
  xorShift (xorShift (xorShift word 33 * prime64b) 29 * prime64c) 32

/-! ## Up to 16 bytes -/

/-- The hash of no bytes. -/
def hashEmpty : Halves :=
  ⟨shortAvalanche (read64 secret 64 ^^^ read64 secret 72),
    shortAvalanche (read64 secret 80 ^^^ read64 secret 88)⟩

/-- The hash of one to three bytes: the first, the middle and the last byte with the size, mixed by
`shortAvalanche`. -/
def hashTo3 (data : ByteArray) : Halves :=
  let size := data.size
  let combined := ((byteAt data 0).toUInt64 <<< 16) ||| ((byteAt data (size / 2)).toUInt64 <<< 24)
    ||| (byteAt data (size - 1)).toUInt64 ||| (size.toUInt64 <<< 8)
  let mirrored := rotate13 (reverseBytes 4 combined)
  ⟨shortAvalanche (combined ^^^ (read32 secret 0 ^^^ read32 secret 4)),
    shortAvalanche (mirrored ^^^ (read32 secret 8 ^^^ read32 secret 12))⟩

/-- The hash of four to eight bytes: the first and the last four bytes as one word, mixed by
`product` and `xorShift`. -/
def hashTo8 (data : ByteArray) : Halves :=
  let size := data.size
  let input := read32 data 0 + (read32 data (size - 4) <<< 32)
  let keyed := input ^^^ (read64 secret 16 ^^^ read64 secret 24)
  let mixed := product keyed (prime64a + (size.toUInt64 <<< 2))
  let high := mixed.high + (mixed.low <<< 1)
  let low := mixed.low ^^^ (high >>> 3)
  ⟨xorShift (xorShift low 35 * 0x9FB21C651E98DF25) 28, avalanche high⟩

/-- The hash of nine to sixteen bytes: the first and the last eight bytes, mixed by two calls of
`product`. -/
def hashTo16 (data : ByteArray) : Halves :=
  let size := data.size
  let first := read64 data 0
  let last := read64 data (size - 8)
  let mixed := product (first ^^^ last ^^^ (read64 secret 32 ^^^ read64 secret 40)) prime64a
  let keyed := last ^^^ (read64 secret 48 ^^^ read64 secret 56)
  let high := mixed.high + (keyed + low32 keyed * (prime32b - 1))
  let low := (mixed.low + ((size - 1).toUInt64 <<< 54)) ^^^ reverseBytes 8 high
  let final := product low prime64b
  ⟨avalanche final.low, avalanche (final.high + high * prime64b)⟩

/-! ## Up to 240 bytes -/

/-- Mixes sixteen bytes with sixteen bytes of the secret. -/
def mixLane (data : ByteArray) (index key : Nat) : UInt64 :=
  foldedProduct (read64 data index ^^^ read64 secret key)
    (read64 data (index + 8) ^^^ read64 secret (key + 8))

/-- Adds two lanes of sixteen bytes to the running sums, each with `mixLane` to one and as it is to
the other. -/
def mixPair (data : ByteArray) (sums : Halves) (first second key : Nat) : Halves :=
  ⟨(sums.low + mixLane data first key) ^^^ (read64 data second + read64 data (second + 8)),
    (sums.high + mixLane data second (key + 16)) ^^^ (read64 data first + read64 data (first + 8))⟩

/-- Turns the running sums into the hash of an input of the given size. -/
def finishPairs (size : Nat) (sums : Halves) : Halves :=
  ⟨avalanche (sums.low + sums.high),
    0 - avalanche (sums.low * prime64a + sums.high * prime64d + size.toUInt64 * prime64b)⟩

/-- The hash of 17 to 128 bytes: `mixPair` of lanes from both ends, the innermost first. -/
def hashTo128 (data : ByteArray) : Halves :=
  let size := data.size
  let pairs := (List.range ((size - 1) / 32 + 1)).reverse
  finishPairs size (pairs.foldl
    (fun sums i => mixPair data sums (16 * i) (size - 16 * (i + 1)) (32 * i))
    ⟨size.toUInt64 * prime64a, 0⟩)

/-- The hash of 129 to 240 bytes: `mixPair` of consecutive pairs of lanes, and the last 32 bytes
again. -/
def hashTo240 (data : ByteArray) : Halves :=
  let size := data.size
  let head := (List.range 4).foldl
    (fun sums i => mixPair data sums (32 * i) (32 * i + 16) (32 * i))
    ⟨size.toUInt64 * prime64a, 0⟩
  let tail := (List.range (size / 32 - 4)).foldl
    (fun sums i => mixPair data sums (32 * i + 128) (32 * i + 144) (32 * i + 3))
    ⟨avalanche head.low, avalanche head.high⟩
  finishPairs size (mixPair data tail (size - 16) (size - 32) 103)

/-! ## Longer inputs -/

/-- The eight running sums before the first stripe. -/
def initialSums : Vector UInt64 8 :=
  #v[prime32c, prime64a, prime64b, prime64c, prime64d, prime32b, prime64e, prime32a]

/-- The neighbour of a lane: even lanes are paired with the odd ones after them. -/
def partner (lane : Fin 8) : Fin 8 :=
  if lane.val % 2 = 0 then Fin.ofNat 8 (lane.val + 1) else Fin.ofNat 8 (lane.val - 1)

/-- Adds a stripe of 64 bytes to the running sums. -/
def addStripe (data : ByteArray) (sums : Vector UInt64 8) (index key : Nat) : Vector UInt64 8 :=
  Vector.ofFn fun lane =>
    let keyed := read64 data (index + 8 * lane.val) ^^^ read64 secret (key + 8 * lane.val)
    sums[lane] + read64 data (index + 8 * (partner lane).val) + low32 keyed * (keyed >>> 32)

/-- Adds the first `count` stripes of a block that starts at an index with `addStripe`. -/
def addStripes (data : ByteArray) (sums : Vector UInt64 8) (start count : Nat) :
    Vector UInt64 8 :=
  (List.range count).foldl (fun sums i => addStripe data sums (start + 64 * i) (8 * i)) sums

/-- Mixes the running sums at the end of a block. -/
def scramble (sums : Vector UInt64 8) : Vector UInt64 8 :=
  Vector.ofFn fun lane =>
    (xorShift sums[lane] 47 ^^^ read64 secret (128 + 8 * lane.val)) * prime32a

/-- Joins the running sums into one word. -/
def mergeSums (sums : Vector UInt64 8) (key : Nat) (start : UInt64) : UInt64 :=
  avalanche <| start
    + foldedProduct (sums[0] ^^^ read64 secret key) (sums[1] ^^^ read64 secret (key + 8))
    + foldedProduct (sums[2] ^^^ read64 secret (key + 16)) (sums[3] ^^^ read64 secret (key + 24))
    + foldedProduct (sums[4] ^^^ read64 secret (key + 32)) (sums[5] ^^^ read64 secret (key + 40))
    + foldedProduct (sums[6] ^^^ read64 secret (key + 48)) (sums[7] ^^^ read64 secret (key + 56))

/-- The hash of more than 240 bytes: blocks of sixteen stripes, with `scramble` after each block,
and the last 64 bytes again. -/
def hashLong (data : ByteArray) : Halves :=
  let size := data.size
  let blocks := (size - 1) / 1024
  let full := (List.range blocks).foldl
    (fun sums i => scramble (addStripes data sums (1024 * i) 16)) initialSums
  let sums := addStripes data full (1024 * blocks) ((size - 1 - 1024 * blocks) / 64)
  let sums := addStripe data sums (size - 64) 121
  ⟨mergeSums sums 11 (size.toUInt64 * prime64a),
    mergeSums sums 117 (~~~ (size.toUInt64 * prime64b))⟩

/-- The 128-bit hash of a sequence of bytes, by its size: one function for each range. -/
def hash (data : ByteArray) : Halves :=
  let size := data.size
  if size = 0 then hashEmpty
  else if size ≤ 3 then hashTo3 data
  else if size ≤ 8 then hashTo8 data
  else if size ≤ 16 then hashTo16 data
  else if size ≤ 128 then hashTo128 data
  else if size ≤ 240 then hashTo240 data
  else hashLong data

end Companion.Digest.Xxh3
