/-!
# Digests

The SHA-256 digest of a byte sequence, and the digest of a text, taken over its UTF-8 bytes and
written in hexadecimal digits.
-/
namespace QuestionDesk.Text.Digest

/-- The round constants: the leading bits of the fractional parts of the cube roots of primes. -/
def roundConstants : List UInt32 := [
  0x428a2f98, 0x71374491, 0xb5c0fbcf, 0xe9b5dba5, 0x3956c25b, 0x59f111f1, 0x923f82a4, 0xab1c5ed5,
  0xd807aa98, 0x12835b01, 0x243185be, 0x550c7dc3, 0x72be5d74, 0x80deb1fe, 0x9bdc06a7, 0xc19bf174,
  0xe49b69c1, 0xefbe4786, 0x0fc19dc6, 0x240ca1cc, 0x2de92c6f, 0x4a7484aa, 0x5cb0a9dc, 0x76f988da,
  0x983e5152, 0xa831c66d, 0xb00327c8, 0xbf597fc7, 0xc6e00bf3, 0xd5a79147, 0x06ca6351, 0x14292967,
  0x27b70a85, 0x2e1b2138, 0x4d2c6dfc, 0x53380d13, 0x650a7354, 0x766a0abb, 0x81c2c92e, 0x92722c85,
  0xa2bfe8a1, 0xa81a664b, 0xc24b8b70, 0xc76c51a3, 0xd192e819, 0xd6990624, 0xf40e3585, 0x106aa070,
  0x19a4c116, 0x1e376c08, 0x2748774c, 0x34b0bcb5, 0x391c0cb3, 0x4ed8aa4a, 0x5b9cca4f, 0x682e6ff3,
  0x748f82ee, 0x78a5636f, 0x84c87814, 0x8cc70208, 0x90befffa, 0xa4506ceb, 0xbef9a3f7, 0xc67178f2]

/-- The eight words of a chaining state. -/
structure Chain where
  /-- The first word. -/
  a : UInt32
  /-- The second word. -/
  b : UInt32
  /-- The third word. -/
  c : UInt32
  /-- The fourth word. -/
  d : UInt32
  /-- The fifth word. -/
  e : UInt32
  /-- The sixth word. -/
  f : UInt32
  /-- The seventh word. -/
  g : UInt32
  /-- The eighth word. -/
  h : UInt32

/-- The initial state: the leading bits of the fractional parts of the square roots of primes. -/
def Chain.initial : Chain :=
  ⟨0x6a09e667, 0xbb67ae85, 0x3c6ef372, 0xa54ff53a, 0x510e527f, 0x9b05688c, 0x1f83d9ab, 0x5be0cd19⟩

/-- The words of a state in order. -/
def Chain.words (chain : Chain) : List UInt32 :=
  [chain.a, chain.b, chain.c, chain.d, chain.e, chain.f, chain.g, chain.h]

/-- A word turned to the right. -/
def turn (word : UInt32) (places : UInt32) : UInt32 :=
  (word >>> places) ||| (word <<< (32 - places))

/-- The next word of a message schedule, whose words stand with the latest first. -/
def nextWord (latest : List UInt32) : UInt32 :=
  let near := latest.getD 1 0
  let far := latest.getD 14 0
  let low := turn far 7 ^^^ turn far 18 ^^^ (far >>> 3)
  let high := turn near 17 ^^^ turn near 19 ^^^ (near >>> 10)
  latest.getD 15 0 + low + latest.getD 6 0 + high

/-- A message schedule prolonged by a number of words, the latest first. -/
def prolong : Nat → List UInt32 → List UInt32
  | 0, latest => latest
  | count + 1, latest => prolong count (nextWord latest :: latest)

/-- One round on a state with its constant and its word of the schedule. -/
def round (chain : Chain) (step : UInt32 × UInt32) : Chain :=
  let mixed := turn chain.e 6 ^^^ turn chain.e 11 ^^^ turn chain.e 25
  let choice := (chain.e &&& chain.f) ^^^ (~~~chain.e &&& chain.g)
  let first := chain.h + mixed + choice + step.1 + step.2
  let stirred := turn chain.a 2 ^^^ turn chain.a 13 ^^^ turn chain.a 22
  let majority := (chain.a &&& chain.b) ^^^ (chain.a &&& chain.c) ^^^ (chain.b &&& chain.c)
  ⟨first + (stirred + majority), chain.a, chain.b, chain.c, chain.d + first, chain.e, chain.f,
    chain.g⟩

/-- A state after a block of sixteen words. -/
def compress (chain : Chain) (block : List UInt32) : Chain :=
  let schedule := (prolong 48 block.reverse).reverse
  let last := (roundConstants.zip schedule).foldl round chain
  ⟨chain.a + last.a, chain.b + last.b, chain.c + last.c, chain.d + last.d, chain.e + last.e,
    chain.f + last.f, chain.g + last.g, chain.h + last.h⟩

/-- The big-endian word of up to four bytes. -/
def wordOf (bytes : List UInt8) : UInt32 :=
  bytes.foldl (fun word byte => (word <<< 8) ||| byte.toUInt32) 0

/-- A list cut into pieces of a positive size, the last of which may be shorter. -/
def pieces {α : Type} (size : Nat) : List α → List (List α)
  | [] => []
  | item :: rest => (item :: rest.take (size - 1)) :: pieces size (rest.drop (size - 1))
termination_by items => items.length
decreasing_by
  simp only [List.length_drop, List.length_cons]
  omega

/-- The bytes of a message with the delimiter, the zeros and the length that fill the last
block. -/
def padded (bytes : List UInt8) : List UInt8 :=
  let length := bytes.length
  let zeros := (119 - length % 64) % 64
  let bits := 8 * length
  let suffix := (List.range 8).map fun place => UInt8.ofNat (bits >>> (8 * (7 - place)))
  bytes ++ 0x80 :: List.replicate zeros 0 ++ suffix

/-- The state after all blocks of a message. -/
def chainOf (bytes : List UInt8) : Chain :=
  let words := (pieces 4 (padded bytes)).map wordOf
  (pieces 16 words).foldl compress Chain.initial

/-- The lower-case hexadecimal digit of a number below sixteen. -/
def hexDigit (value : Nat) : Char := "0123456789abcdef".toList.getD value '0'

/-- The hexadecimal digits of a word, eight of them. -/
def hexWord (word : UInt32) : List Char :=
  (List.range 8).map fun place => hexDigit (word.toNat >>> (4 * (7 - place)) % 16)

/-- The hexadecimal digest of a byte sequence. -/
def ofBytes (bytes : List UInt8) : String :=
  String.ofList ((chainOf bytes).words.flatMap hexWord)

end QuestionDesk.Text.Digest

namespace QuestionDesk.Text

/-- The hexadecimal digest of the UTF-8 bytes of a text. -/
def digest (text : String) : String := Digest.ofBytes text.toUTF8.toList

end QuestionDesk.Text
