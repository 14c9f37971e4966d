import Unifabric.Lib.GoText

/-!
# Network addresses

`net.ParseIP` and the text form of `net.IP`, on lists of sixteen bytes, with
`net.ParseCIDR` and the hardware addresses.
-/

namespace Unifabric.Lib

/-! ## Reading -/

/--
`parseIPv4Fields`: the octets read, the value of the octet under way and the
number of its digits.
-/
def ipv4Fields (fields : List Nat) (value digits : Nat) : List Char → Option (List Nat)
  | [] => if fields.length = 3 then some (fields ++ [value]) else none
  | c :: rest =>
    if c.isDigit then
      let next := value * 10 + (c.toNat - '0'.toNat)
      -- An octet has no leading zero.
      if (digits = 1 ∧ value = 0) ∨ 255 < next then none
      else ipv4Fields fields next (digits + 1) rest
    else if c = '.' then
      if digits = 0 ∨ rest = [] ∨ fields.length = 3 then none
      else ipv4Fields (fields ++ [value]) 0 0 rest
    else none

/-- The value of hexadecimal digits. -/
def hexNumber (digits : List Char) : Nat :=
  digits.foldl (fun acc c => acc * 16 + (hexValue c).getD 0) 0

/--
The groups of an IPv6 address: how many may follow, the bytes read and the
position of the ellipsis.
-/
def ipv6Groups : Nat → List Nat → Option Nat → List Char → Option (List Nat × Option Nat)
  | 0, bytes, ellipsis, text => if text = [] then some (bytes, ellipsis) else none
  | budget + 1, bytes, ellipsis, text =>
    let digits := text.takeWhile fun c => (hexValue c).isSome
    let rest := text.dropWhile fun c => (hexValue c).isSome
    if digits = [] ∨ 4 < digits.length then none
    else if rest.head? = some '.' then
      if (ellipsis = none ∧ bytes.length ≠ 12) ∨ 16 < bytes.length + 4 then
        none
      else
        (ipv4Fields [] 0 0 text).map fun fields => (bytes ++ fields, ellipsis)
    else
      let bytes := bytes ++ [hexNumber digits / 256, hexNumber digits % 256]
      match rest with
      | [] => some (bytes, ellipsis)
      | [_] => none
      | ':' :: ':' :: after =>
        if ellipsis.isSome then none
        else if after = [] then some (bytes, some bytes.length)
        else ipv6Groups budget bytes (some bytes.length) after
      | ':' :: more => ipv6Groups budget bytes ellipsis more
      | _ => none

/-- The zeros an ellipsis stands for. -/
def expandEllipsis (bytes : List Nat) (ellipsis : Option Nat) : Option (List Nat) :=
  if bytes.length < 16 then
    ellipsis.map fun position =>
      bytes.take position ++ List.replicate (16 - bytes.length) 0 ++ bytes.drop position
  else if ellipsis.isSome then none
  else some bytes

/-- `parseIPv6`, without a zone. -/
def parseIPv6 (text : List Char) : Option (List Nat) :=
  match text with
  | [':', ':'] => some (List.replicate 16 0)
  | ':' :: ':' :: rest =>
    (ipv6Groups 8 [] (some 0) rest).bind fun (bytes, ellipsis) => expandEllipsis bytes ellipsis
  | _ =>
    (ipv6Groups 8 [] none text).bind fun (bytes, ellipsis) => expandEllipsis bytes ellipsis

/-- The bytes of an IPv4 address in IPv6 form. -/
def mapped4 (fields : List Nat) : List Nat := List.replicate 10 0 ++ [255, 255] ++ fields

/--
`net.ParseIP`: the first separator decides the family, and an address with a
zone is not accepted.
-/
def parseIP (text : String) : Option (List Nat) :=
  match text.toList.find? fun c => c = '.' ∨ c = ':' ∨ c = '%' with
  | some '.' => (ipv4Fields [] 0 0 text.toList).map mapped4
  | some ':' => if '%' ∈ text.toList then none else parseIPv6 text.toList
  | _ => none

/-! ## Writing -/

/-- An IPv4 address with dots. -/
def ipv4String (fields : List Nat) : String := ".".intercalate (fields.map toString)

/-- Pairs of bytes as groups. -/
def groupsOf : List Nat → List Nat
  | high :: low :: rest => (high * 256 + low) :: groupsOf rest
  | _ => []

/-- Groups with colons. -/
def groupsString (groups : List Nat) : String :=
  ":".intercalate (groups.map fun group => String.ofList (Nat.toDigits 16 group))

/-- The first of the longest runs of at least two zero groups. -/
def zeroRun (groups : List Nat) : Option (Nat × Nat) :=
  (List.range groups.length).foldl (fun best start =>
      let length := ((groups.drop start).takeWhile (· = 0)).length
      if 2 ≤ length ∧ (best.map Prod.snd).getD 0 < length then
        some (start, length)
      else best)
    none

/-- An IPv6 address, its longest run of zero groups left out. -/
def ipv6String (bytes : List Nat) : String :=
  let groups := groupsOf bytes
  match zeroRun groups with
  | none => groupsString groups
  | some (start, length) =>
    groupsString (groups.take start) ++ "::" ++ groupsString (groups.drop (start + length))

/-! ## Slices of bytes -/

/--
`IP.To4`: the four bytes of an IPv4 address, also of one in IPv6 form.  The nil
slice is the empty list.
-/
def to4 (ip : List Nat) : Option (List Nat) :=
  if ip.length = 4 then some ip
  else if ip.length = 16 ∧ ip.take 12 = mapped4 [] then some (ip.drop 12)
  else none

def to16 (ip : List Nat) : Option (List Nat) :=
  if ip.length = 4 then some (mapped4 ip)
  else if ip.length = 16 then some ip
  else none

/-- `IP.String` of sixteen bytes. -/
def ipString (ip : List Nat) : String :=
  match to4 ip with
  | some fields => ipv4String fields
  | none => ipv6String ip

/-- `IsLinkLocalUnicast` of an IPv6 address. -/
def isLinkLocalUnicast (ip : List Nat) : Bool := ip.getD 0 0 = 0xfe ∧ ip.getD 1 0 / 64 = 2

/-! ## Networks -/

/-- The number of bits of an address, by the family of its text. -/
def addressBits (text : List Char) : Nat :=
  if text.find? (fun c => c = '.' ∨ c = ':') = some '.' then 32 else 128

/-- `dtoi` of a whole text: decimal digits, leading zeros allowed. -/
def dtoi (digits : List Char) : Option Nat :=
  if digits ≠ [] ∧ digits.all Char.isDigit then
    some (digits.foldl (fun n c => n * 10 + (c.toNat - '0'.toNat)) 0)
  else none

/-- `net.ParseCIDR`, of which only the address is kept. -/
def parseCIDR (text : String) : Option (List Nat) :=
  let address := text.toList.takeWhile (· ≠ '/')
  match text.toList.dropWhile (· ≠ '/') with
  | [] => none
  | _ :: mask =>
    (parseIP (String.ofList address)).filter fun _ => (dtoi mask).any (· ≤ addressBits address)

/-! ## Hardware addresses -/

/-- A byte of two hexadecimal digits. -/
def hexByte (high low : Char) : Option Nat := do
  return (← hexValue high) * 16 + (← hexValue low)

/-- Bytes with a separator between them. -/
def separatedBytes (separator : Char) : List Char → Option (List Nat)
  | [high, low] => (hexByte high low).map ([·])
  | high :: low :: c :: rest => do
      if c ≠ separator then none
      else return (← hexByte high low) :: (← separatedBytes separator rest)
  | _ => none

/-- Pairs of bytes with dots between them. -/
def dottedBytes : List Char → Option (List Nat)
  | [a, b, c, d] => return [← hexByte a b, ← hexByte c d]
  | a :: b :: c :: d :: '.' :: rest =>
    return (← hexByte a b) :: (← hexByte c d) :: (← dottedBytes rest)
  | _ => none

/-- `net.ParseMAC`: six, eight or twenty bytes. -/
def parseMAC (text : String) : Option (List Nat) :=
  let chars := text.toList
  let bytes :=
    match chars.drop 2 with
    | ':' :: _ => separatedBytes ':' chars
    | '-' :: _ => separatedBytes '-' chars
    | _ => dottedBytes chars
  bytes.filter fun bytes => bytes.length ∈ [6, 8, 20]

/-- Two hexadecimal digits. -/
def hexPair (byte : Nat) : String :=
  String.ofList [Nat.digitChar (byte / 16), Nat.digitChar (byte % 16)]

/-- `HardwareAddr.String`. -/
def hardwareAddrString (bytes : List Nat) : String := ":".intercalate (bytes.map hexPair)

example : (parseMAC "0A58.0af4.0203").map hardwareAddrString = some "0a:58:0a:f4:02:03" := by
  decide +kernel

example : (parseCIDR "10.0.0.7/24").map ipString = some "10.0.0.7" := by decide +kernel

example : (parseIP "fe80:0000:0000:0000:0000:0000:0000:0001").map ipv6String = some "fe80::1" := by
  decide +kernel

end Unifabric.Lib
