import Unifabric.Lib.Bytes

/-!
# Sampled headers

`parseSampledHeader`: the addresses, protocol and ports of the first bytes of
an Ethernet frame.  The lengths of IPv6 extension headers are computed from a
byte in the arithmetic of bytes.  Every read follows the check of the length it
needs, so that no read is behind the end.
-/

namespace Unifabric.Sflow

open Lib

/-! ## Constants -/

def etherTypeIPv4 : Nat := 0x0800

def etherTypeIPv6 : Nat := 0x86DD

def protoTCP : UInt8 := 6

def protoUDP : UInt8 := 17

def protoSCTP : UInt8 := 132

/-- The protocols whose header starts with two ports. -/
def hasPorts (proto : UInt8) : Bool := proto == protoTCP || proto == protoUDP || proto == protoSCTP

structure ParsedFlow where
  bytes : Nat
  srcAddr : List UInt8
  dstAddr : List UInt8
  etype : Nat
  proto : Nat
  srcPort : Nat
  dstPort : Nat
  deriving DecidableEq, Repr

/-- The ports at an offset, if the protocol has some and they are there. -/
def portsAt (ip : List UInt8) (proto : UInt8) (offset : Nat) : Nat × Nat :=
  if hasPorts proto && decide (offset + 4 ≤ ip.length) then
    (uint16At ip offset, uint16At ip (offset + 2))
  else (0, 0)

/-! ## IPv4 -/

def parseIPv4 (ip : List UInt8) (frameLength : Nat) : Option ParsedFlow :=
  if ip.length < 20 ∨ byteAt ip 0 >>> 4 ≠ 4 then none
  else
    let ihl := (byteAt ip 0 &&& 0x0F).toNat * 4
    if ihl < 20 ∨ ip.length < ihl then none
    else
      let proto := byteAt ip 9
      let ports := portsAt ip proto ihl
      some
        { bytes := if frameLength = 0 then uint16At ip 2 else frameLength
          srcAddr := slice ip 12 16
          dstAddr := slice ip 16 20
          etype := etherTypeIPv4
          proto := proto.toNat
          srcPort := ports.1
          dstPort := ports.2 }

/-! ## IPv6 -/

/-- The loop over the extension headers: next header and offset. -/
def skipExtensions (ip : List UInt8) : Nat → UInt8 → Nat → Option (UInt8 × Nat)
  | 0, nextHeader, offset => some (nextHeader, offset)
  | budget + 1, nextHeader, offset =>
    if nextHeader = 0 ∨ nextHeader = 43 ∨ nextHeader = 60 then
      if ip.length < offset + 2 then none
      else
        let hdrLen := (byteAt ip (offset + 1) + 1).toNat * 8
        if ip.length < offset + hdrLen then none
        else skipExtensions ip budget (byteAt ip offset) (offset + hdrLen)
    else if nextHeader = 44 then
      if ip.length < offset + 8 then none
      else skipExtensions ip budget (byteAt ip offset) (offset + 8)
    else if nextHeader = 51 then
      if ip.length < offset + 2 then none
      else
        let hdrLen := (byteAt ip (offset + 1) + 2).toNat * 4
        if ip.length < offset + hdrLen then none
        else skipExtensions ip budget (byteAt ip offset) (offset + hdrLen)
    else some (nextHeader, offset)

def parseIPv6 (ip : List UInt8) (frameLength : Nat) : Option ParsedFlow :=
  if ip.length < 40 ∨ byteAt ip 0 >>> 4 ≠ 6 then none
  else
    match skipExtensions ip 8 (byteAt ip 6) 40 with
    | none => none
    | some (nextHeader, offset) =>
      let ports := portsAt ip nextHeader offset
      some
        { bytes := if frameLength = 0 then 40 + uint16At ip 4 else frameLength
          srcAddr := slice ip 8 24
          dstAddr := slice ip 24 40
          etype := etherTypeIPv6
          proto := nextHeader.toNat
          srcPort := ports.1
          dstPort := ports.2 }

/-! ## Ethernet -/

/-- The loop over the VLAN tags: type and offset. -/
def skipTags (header : List UInt8) : Nat → Nat → Nat → Option (Nat × Nat)
  | 0, etype, offset => some (etype, offset)
  | budget + 1, etype, offset =>
    if etype ≠ 0x8100 ∧ etype ≠ 0x88A8 ∧ etype ≠ 0x9100 then
      some (etype, offset)
    else if header.length < offset + 4 then none
    else skipTags header budget (uint16At header (offset + 2)) (offset + 4)

def parseSampledHeader (header : List UInt8) (frameLength : Nat) : Option ParsedFlow :=
  if header.length < 14 then none
  else
    match skipTags header 2 (uint16At header 12) 14 with
    | none => none
    | some (etype, offset) =>
      if etype = etherTypeIPv4 then
        parseIPv4 (header.drop offset) frameLength
      else if etype = etherTypeIPv6 then
        parseIPv6 (header.drop offset) frameLength
      else none

end Unifabric.Sflow
