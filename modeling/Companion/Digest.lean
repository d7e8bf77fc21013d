import Companion.Digest.Xxh3

/-! # Content digests

A `Digest` is the sixteen bytes by which two texts are taken to be equal. It is the 128-bit XXH3
hash of the text's UTF-8 form, low half first, each half with its lowest byte first. -/

namespace Companion

/-- Sixteen bytes that stand for a content, as `Digest.ofBytes` computes them. -/
structure Digest where
  /-- The bytes in the order in which they are shown. -/
  bytes : Vector UInt8 16
  deriving DecidableEq

namespace Digest

/-- The digit of a value below sixteen, in lower case. -/
def hexDigit (value : Nat) : Char := "0123456789abcdef".toList.getD value '0'

/-- A byte as two digits. -/
def hexByte (byte : UInt8) : List Char := [hexDigit (byte.toNat / 16), hexDigit (byte.toNat % 16)]

/-- A digest as 32 digits: the `hexByte` of each byte. -/
def hex (digest : Digest) : String := String.ofList (digest.bytes.toList.flatMap hexByte)

/-- A digest as its first two bytes, for messages. -/
def abbreviated (digest : Digest) : String :=
  "ContentHash(" ++ String.ofList ((digest.bytes.toList.take 2).flatMap hexByte) ++ "..)"

/-- The bytes of a word, lowest first. -/
def wordBytes (word : UInt64) : Vector UInt8 8 :=
  Vector.ofFn fun i => (word >>> (8 * i.val).toUInt64).toUInt8

/-- The digest of a sequence of bytes: the two words of `Xxh3.hash`, each with its lowest byte
first. -/
def ofBytes (data : ByteArray) : Digest :=
  let hash := Xxh3.hash data
  ⟨wordBytes hash.low ++ wordBytes hash.high⟩

/-- The digest of a text: `ofBytes` of its UTF-8 form. -/
def ofText (text : String) : Digest := ofBytes text.toUTF8

end Digest

end Companion
