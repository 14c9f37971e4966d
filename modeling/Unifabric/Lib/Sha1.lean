import Mathlib

/-!
# The SHA-1 digest

The digest of a byte string and its lower-case hexadecimal text, as the
standard library of Go computes them.  Words are 32-bit with wrapping
addition; a message is padded to blocks of 64 bytes.
-/

namespace Unifabric.Lib

open List

/-- The five chaining words. -/
structure Sha1State where
  a : UInt32
  b : UInt32
  c : UInt32
  d : UInt32
  e : UInt32
  deriving DecidableEq, Repr

namespace Sha1

/-- Rotation to the left. -/
def rotateLeft (word : UInt32) (count : UInt32) : UInt32 :=
  (word <<< count) ||| (word >>> (32 - count))

/-- The initial chaining value. -/
def initial : Sha1State := ⟨0x67452301, 0xEFCDAB89, 0x98BADCFE, 0x10325476, 0xC3D2E1F0⟩

/-- One round with the mixing value `f`, the constant `k` and one word. -/
def round (state : Sha1State) (f k word : UInt32) : Sha1State :=
  { a := rotateLeft state.a 5 + f + state.e + k + word
    b := state.a
    c := rotateLeft state.b 30
    d := state.c
    e := state.d }

/-- The round function of the step with the given number. -/
def mix (number : Nat) (state : Sha1State) (word : UInt32) : Sha1State :=
  if number < 20 then
    round state ((state.b &&& state.c) ||| ((~~~ state.b) &&& state.d)) 0x5A827999 word
  else if number < 40 then
    round state (state.b ^^^ state.c ^^^ state.d) 0x6ED9EBA1 word
  else if number < 60 then
    round state ((state.b &&& state.c) ||| (state.b &&& state.d) ||| (state.c &&& state.d))
      0x8F1BBCDC word
  else
    round state (state.b ^^^ state.c ^^^ state.d) 0xCA62C1D6 word

/--
The 80 rounds of one block.  The window holds the sixteen message words which
the schedule still needs, oldest first.
-/
def rounds : Nat → Nat → List UInt32 → Sha1State → Sha1State
  | 0, _, _, state => state
  | left + 1, number, window, state =>
    let word := window.headD 0
    let scheduled := rotateLeft
      (window.getD 13 0 ^^^ window.getD 8 0 ^^^ window.getD 2 0 ^^^ word) 1
    rounds left (number + 1) (window.tail ++ [scheduled]) (mix number state word)

/-- Absorb one block of sixteen words. -/
def absorb (state : Sha1State) (block : List UInt32) : Sha1State :=
  let final := rounds 80 0 block state
  { a := state.a + final.a
    b := state.b + final.b
    c := state.c + final.c
    d := state.d + final.d
    e := state.e + final.e }

/-- The bytes of a number, most significant first. -/
def bigEndian (count number : Nat) : List UInt8 :=
  (List.range count).map fun index => UInt8.ofNat (number / 256 ^ (count - 1 - index))

/-- Append the padding: a one bit, zeros, and the bit length in 8 bytes. -/
def pad (message : List UInt8) : List UInt8 :=
  message ++ 0x80 :: List.replicate ((119 - message.length % 64) % 64) 0 ++
      bigEndian 8 (8 * message.length)

/-- One big-endian word. -/
def wordOfBytes (bytes : List UInt8) : UInt32 :=
  bytes.foldl (fun word byte => (word <<< 8) ||| byte.toUInt32) 0

/-- Split a list into chunks of the given size, as far as it is full. -/
def chunks {α : Type} (size : Nat) : Nat → List α → List (List α)
  | 0, _ => []
  | count + 1, values => values.take size :: chunks size count (values.drop size)

/-- The digest as 20 bytes. -/
def sum (message : List UInt8) : List UInt8 :=
  let padded := pad message
  let words := (chunks 4 (padded.length / 4) padded).map wordOfBytes
  let final := (chunks 16 (words.length / 16) words).foldl absorb initial
  [final.a, final.b, final.c, final.d, final.e].flatMap fun word => bigEndian 4 word.toNat

/-- One hexadecimal digit, lower case. -/
def hexDigit (value : Nat) : Char :=
  if value < 10 then Char.ofNat (48 + value) else Char.ofNat (87 + value)

/-- `hex.EncodeToString`. -/
def hexEncode (bytes : List UInt8) : List Char :=
  bytes.flatMap fun byte => [hexDigit (byte.toNat / 16), hexDigit (byte.toNat % 16)]

/-- The digest of a string, as 40 hexadecimal digits. -/
def hexSum (text : String) : List Char := hexEncode (sum text.toUTF8.toList)

end Sha1

end Unifabric.Lib
