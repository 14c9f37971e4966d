import Mathlib

/-!
# Texts of the Go library

`strings.TrimSpace`, the part of `strings.ToLower` which can produce an ASCII
letter, and the decoding of a JSON array of strings.
-/

namespace Unifabric.Lib

/-! ## Spaces and case -/

def isSpace (c : Char) : Bool :=
  let code := c.toNat
  (9 ≤ code && code ≤ 13) || code == 0x20 || code == 0x85 ||
    code == 0xA0 || code == 0x1680 || (0x2000 ≤ code && code ≤ 0x200A) ||
    code == 0x2028 || code == 0x2029 || code == 0x202F ||
    code == 0x205F || code == 0x3000

/-- Drop the characters with a property from both ends. -/
def trimBy (drop : Char → Bool) (text : List Char) : List Char :=
  ((text.dropWhile drop).reverse.dropWhile drop).reverse

def trimSpace (text : String) : String := String.ofList (trimBy isSpace text.toList)

/--
`unicode.ToLower` as far as its result is an ASCII letter: the capitals, the
dotted capital I and the Kelvin sign.  Other letters are left unchanged.
-/
def toLowerAscii (c : Char) : Char :=
  if 'A' ≤ c ∧ c ≤ 'Z' then Char.ofNat (c.toNat + 32)
  else if c.toNat = 0x130 then 'i'
  else if c.toNat = 0x212A then 'k'
  else c

/-! ## JSON arrays of strings -/

/-- The value of a hexadecimal digit. -/
def hexValue (c : Char) : Option Nat :=
  if '0' ≤ c ∧ c ≤ '9' then some (c.toNat - '0'.toNat)
  else if 'a' ≤ c ∧ c ≤ 'f' then some (c.toNat - 'a'.toNat + 10)
  else if 'A' ≤ c ∧ c ≤ 'F' then some (c.toNat - 'A'.toNat + 10)
  else none

/-- The value of four hexadecimal digits. -/
def hexValue4 (a b c d : Char) : Option Nat := do
  return (((← hexValue a) * 16 + (← hexValue b)) * 16 + (← hexValue c)) * 16 + (← hexValue d)

/-- The character of a code unit which is not the start of a pair. -/
def unitChar (unit : Nat) : Char :=
  if 0xD800 ≤ unit ∧ unit ≤ 0xDFFF then Char.ofNat 0xFFFD
  else Char.ofNat unit

/-- The one-letter escapes. -/
def escapeChar (c : Char) : Option Char :=
  if c = '"' ∨ c = '\\' ∨ c = '/' then some c
  else if c = 'b' then some (Char.ofNat 8)
  else if c = 'f' then some (Char.ofNat 12)
  else if c = 'n' then some '\n'
  else if c = 'r' then some '\r'
  else if c = 't' then some '\t'
  else none

/-- The characters of a string up to its closing quote, and what follows. -/
def jsonStringBody : List Char → Option (List Char × List Char)
  | [] => none
  | '"' :: rest => some ([], rest)
  | '\\' :: 'u' :: a :: b :: c :: d :: '\\' :: 'u' :: e :: f :: g :: h :: rest =>
      match hexValue4 a b c d, hexValue4 e f g h with
      | some high, some low =>
        if 0xD800 ≤ high ∧ high ≤ 0xDBFF ∧ 0xDC00 ≤ low ∧ low ≤ 0xDFFF then
          (jsonStringBody rest).map fun parsed =>
            (Char.ofNat (0x10000 + (high - 0xD800) * 0x400 + (low - 0xDC00)) :: parsed.1, parsed.2)
        else
          (jsonStringBody ('\\' :: 'u' :: e :: f :: g :: h :: rest)).map fun parsed =>
            (unitChar high :: parsed.1, parsed.2)
      | _, _ => none
  | '\\' :: 'u' :: a :: b :: c :: d :: rest =>
    match hexValue4 a b c d with
    | some unit =>
      (jsonStringBody rest).map fun parsed => (unitChar unit :: parsed.1, parsed.2)
    | none => none
  | '\\' :: c :: rest =>
    match escapeChar c with
    | some escaped =>
      (jsonStringBody rest).map fun parsed => (escaped :: parsed.1, parsed.2)
    | none => none
  | c :: rest =>
    if c.toNat < 0x20 ∨ c = '\\' then none
    else
      (jsonStringBody rest).map fun parsed => (c :: parsed.1, parsed.2)

/-- The white space of JSON. -/
def isJsonSpace (c : Char) : Bool := c == ' ' || c == '\t' || c == '\n' || c == '\r'

/-- One element: a string, or `null`, which decodes to the empty string. -/
def jsonElement (text : List Char) : Option (String × List Char) :=
  match text.dropWhile isJsonSpace with
  | '"' :: rest =>
    (jsonStringBody rest).map fun parsed => (String.ofList parsed.1, parsed.2.dropWhile isJsonSpace)
  | 'n' :: 'u' :: 'l' :: 'l' :: rest => some ("", rest.dropWhile isJsonSpace)
  | _ => none

/-- The elements up to the closing bracket, and what follows. -/
def jsonElements : Nat → List Char → Option (List String × List Char)
  | 0, _ => none
  | fuel + 1, text =>
    match jsonElement text with
    | none => none
    | some (element, ']' :: rest) => some ([element], rest)
    | some (element, ',' :: rest) =>
      (jsonElements fuel rest).map fun parsed => (element :: parsed.1, parsed.2)
    | some _ => none

/--
`json.Unmarshal` into a slice of strings.  Every element takes at least one
character, so the length of the text bounds their number.
-/
def unmarshalStrings (raw : String) : Option (List String) :=
  match raw.toList.dropWhile isJsonSpace with
  | 'n' :: 'u' :: 'l' :: 'l' :: rest => if rest.all isJsonSpace then some [] else none
  | '[' :: rest =>
    match rest.dropWhile isJsonSpace with
    | ']' :: tail => if tail.all isJsonSpace then some [] else none
    | _ =>
      match jsonElements (rest.length + 1) rest with
      | some (elements, tail) => if tail.all isJsonSpace then some elements else none
      | none => none
  | _ => none

example : unmarshalStrings " [\"a\\u0042\", null , \"\\\"\" ] " = some ["aB", "", "\""] := by
  decide +kernel

end Unifabric.Lib
