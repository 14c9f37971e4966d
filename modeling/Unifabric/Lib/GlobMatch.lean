import Mathlib

/-!
# Shell patterns of the Go library

`filepath.Match` on a system with the separator `/`, over the bytes of the
UTF-8 encoding as the library has it: a star skips bytes, a question mark and
a character class read one rune.  `none` is `ErrBadPattern`.
-/

namespace Unifabric.Lib

open List

/-- The bytes of the UTF-8 encoding. -/
def utf8Bytes (text : String) : List Nat := text.toByteArray.data.toList.map UInt8.toNat

lemma utf8Bytes_append (left right : String) :
    utf8Bytes (left ++ right) = utf8Bytes left ++ utf8Bytes right := by
  simp [utf8Bytes, String.toByteArray_append]

lemma utf8Bytes_ofList {text : List Char} (ascii : ∀ c ∈ text, c.toNat < 0x80) :
    utf8Bytes (String.ofList text) = text.map Char.toNat := by
  induction text with
  | nil => rfl
  | cons first rest ih =>
    have small := ascii first mem_cons_self
    have single : utf8Bytes (String.ofList [first]) = [first.toNat] := by
      simp only [utf8Bytes, String.toByteArray_ofList, utf8Encode]
      have low : first.toNat ≤ 0x7F := by omega
      simp [String.utf8EncodeChar, low]
      omega
    rw [← singleton_append, String.ofList_append, utf8Bytes_append,
      single, ih fun c member => ascii c (.tail _ member)]
    rfl

/-- Whether a byte lies in a range. -/
def byteIn (low high byte : Nat) : Bool := low ≤ byte && byte ≤ high

def runeError : Nat := 0xFFFD

/--
`utf8.DecodeRune`: the first rune and the number of its bytes.  An invalid
encoding is `runeError` of one byte.
-/
def decodeRune : List Nat → Nat × Nat
  | [] => (runeError, 0)
  | first :: rest =>
    if first < 0x80 then (first, 1)
    else if byteIn 0xC2 0xDF first then
      match rest with
      | second :: _ =>
        if byteIn 0x80 0xBF second then
          ((first - 0xC0) * 0x40 + (second - 0x80), 2)
        else (runeError, 1)
      | [] => (runeError, 1)
    else if byteIn 0xE0 0xEF first then
      match rest with
      | second :: third :: _ =>
        if byteIn (if first = 0xE0 then 0xA0 else 0x80)
              (if first = 0xED then 0x9F else 0xBF) second &&
            byteIn 0x80 0xBF third then
          (((first - 0xE0) * 0x40 + (second - 0x80)) * 0x40 + (third - 0x80), 3)
        else (runeError, 1)
      | _ => (runeError, 1)
    else if byteIn 0xF0 0xF4 first then
      match rest with
      | second :: third :: fourth :: _ =>
        if byteIn (if first = 0xF0 then 0x90 else 0x80)
              (if first = 0xF4 then 0x8F else 0xBF) second &&
            byteIn 0x80 0xBF third && byteIn 0x80 0xBF fourth then
          ((((first - 0xF0) * 0x40 + (second - 0x80)) * 0x40 +
            (third - 0x80)) * 0x40 + (fourth - 0x80), 4)
        else (runeError, 1)
      | _ => (runeError, 1)
    else (runeError, 1)

/-! ## One chunk of a pattern -/

/-- `getEsc`: one character of a class, possibly escaped. -/
def getEsc (chunk : List Nat) : Option (Nat × List Nat) :=
  let unescaped := if chunk.head? = some '\\'.toNat then chunk.tail else chunk
  if chunk = [] ∨ chunk.head? = some '-'.toNat ∨ chunk.head? = some ']'.toNat ∨ unescaped = [] then
    none
  else
    let (rune, width) := decodeRune unescaped
    let rest := unescaped.drop width
    if (rune = runeError ∧ width = 1) ∨ rest = [] then none
    else some (rune, rest)

/-- The ranges of a class up to its closing bracket. -/
def matchRanges (rune : Nat) : Nat → Bool → Bool → List Nat → Option (Bool × List Nat)
  | 0, _, _, _ => none
  | fuel + 1, matched, started, chunk =>
    if started ∧ chunk.head? = some ']'.toNat then
      some (matched, chunk.tail)
    else do
      let (low, chunk) ← getEsc chunk
      let (high, chunk) ←
        if chunk.head? = some '-'.toNat then getEsc chunk.tail
        else some (low, chunk)
      matchRanges rune fuel (matched || (low ≤ rune && rune ≤ high)) true chunk

/-- Match one literal byte; `none` is a text which failed already. -/
def matchByte (byte : Nat) (text : Option (List Nat)) : Option (List Nat) :=
  text.bind fun bytes => if bytes.head? = some byte then some bytes.tail else none

/--
`matchChunk`: what is left of the text after the chunk.  The inner `none` is a
failed match, after which only the form of the chunk is checked.  Every round
reads at least one byte of the chunk.
-/
def matchChunk : Nat → List Nat → Option (List Nat) → Option (Option (List Nat))
  | 0, _, text => some text
  | _ + 1, [], text => some text
  | fuel + 1, byte :: chunk, text =>
    let text := if text = some [] then none else text
    if byte = '['.toNat then
      let rune := ((text.map decodeRune).getD (0, 0)).1
      let text := text.map fun bytes => bytes.drop (decodeRune bytes).2
      let negated : Bool := chunk.head? = some '^'.toNat
      let ranges := if negated then chunk.tail else chunk
      match matchRanges rune (ranges.length + 1) false false ranges with
      | none => none
      | some (matched, chunk) => matchChunk fuel chunk (if matched = negated then none else text)
    else if byte = '?'.toNat then
      matchChunk fuel chunk (text.bind fun bytes =>
          if bytes.head? = some '/'.toNat then none
          else some (bytes.drop (decodeRune bytes).2))
    else if byte = '\\'.toNat then
      match chunk with
      | [] => none
      | escaped :: chunk => matchChunk fuel chunk (matchByte escaped text)
    else matchChunk fuel chunk (matchByte byte text)

/-! ## Whole patterns -/

/-- Split a pattern before its next star outside of a class. -/
def scanLiteral (inRange : Bool) : List Nat → List Nat × List Nat
  | [] => ([], [])
  | byte :: rest =>
    if byte = '\\'.toNat then
      match rest with
      | [] => ([byte], [])
      | escaped :: rest =>
        let (chunk, rest) := scanLiteral inRange rest
        (byte :: escaped :: chunk, rest)
    else if byte = '*'.toNat ∧ inRange = false then ([], byte :: rest)
    else
      let (chunk, rest) := scanLiteral (byte = '['.toNat || (inRange && byte ≠ ']'.toNat)) rest
      (byte :: chunk, rest)

/-- `scanChunk`: leading stars, then the pattern up to the next star. -/
def scanChunk (pattern : List Nat) : Bool × List Nat × List Nat :=
  (pattern.head? = some '*'.toNat, scanLiteral false (pattern.dropWhile (· = '*'.toNat)))

/-- A match of the last chunk must exhaust the text. -/
def acceptMatch (rest : List Nat) (text : List Nat) : Bool := text.isEmpty || !rest.isEmpty

/-- Match a chunk after skipping bytes other than the separator. -/
def skipMatch (chunk rest : List Nat) : List Nat → Option (Option (List Nat))
  | [] => some none
  | byte :: text =>
    if byte = '/'.toNat then some none
    else
      match matchChunk chunk.length chunk (some text) with
      | none => none
      | some none => skipMatch chunk rest text
      | some (some left) =>
        if acceptMatch rest left then some (some left)
        else skipMatch chunk rest text

/-- The loop of `filepath.Match`; every round shortens the pattern. -/
def matchPattern : Nat → List Nat → List Nat → Option Bool
  | 0, _, text => some text.isEmpty
  | fuel + 1, pattern, text =>
    if pattern = [] then some text.isEmpty
    else
      let (star, chunk, rest) := scanChunk pattern
      if star ∧ chunk = [] then some (!text.contains '/'.toNat)
      else
        match matchChunk chunk.length chunk (some text) with
        | none => none
        | some here =>
          match here.filter (acceptMatch rest) with
          | some left => matchPattern fuel rest left
          | none =>
            if star then
              match skipMatch chunk rest text with
              | none => none
              | some none => some false
              | some (some left) => matchPattern fuel rest left
            else some false

/-- `filepath.Match`. -/
def filepathMatch (pattern name : String) : Option Bool :=
  let bytes := utf8Bytes pattern
  matchPattern bytes.length bytes (utf8Bytes name)

example : filepathMatch "eth[0-3]*.1" "eth2/5.1" = some false := by decide +kernel

example : filepathMatch "eth[0-3]*.1" "eth2x5.1" = some true := by decide +kernel

end Unifabric.Lib
