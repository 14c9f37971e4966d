import Unifabric.Sflow.Headers

/-!
# Round trip of sampled headers

Well-formed frames as data, and the bytes they are sent as.  The parser gives
back the addresses, the protocol and the ports of every frame without an
extension header whose length byte leaves the arithmetic of bytes; one such
header alone is enough to lose the ports.
-/

namespace Unifabric.Sflow

open Lib

variable {before : List UInt8} {offset : Nat} {length : UInt8}

/-! ## Frames -/

/-- The protocols above IP which carry ports. -/
inductive Transport where
  | tcp
  | udp
  | sctp
  deriving DecidableEq, Repr

/-- The number of a protocol. -/
def Transport.number : Transport → UInt8
  | .tcp => protoTCP
  | .udp => protoUDP
  | .sctp => protoSCTP

/-- The first bytes of a segment: its ports and what follows them. -/
structure Segment where
  transport : Transport
  srcPort : UInt16
  dstPort : UInt16
  rest : List UInt8

/-- The bytes of a segment. -/
def Segment.bytes (segment : Segment) : List UInt8 :=
  uint16Bytes segment.srcPort ++ (uint16Bytes segment.dstPort ++ segment.rest)

/-- The types of IPv6 extension headers the parser skips. -/
inductive ExtensionKind where
  | hopByHop
  | routing
  | destination
  | fragment
  | authentication
  deriving DecidableEq, Repr

/-- The number of an extension header. -/
def ExtensionKind.number : ExtensionKind → UInt8
  | .hopByHop => 0
  | .routing => 43
  | .destination => 60
  | .fragment => 44
  | .authentication => 51

/-- The size which the length byte of an extension header stands for. -/
def ExtensionKind.size (kind : ExtensionKind) (length : UInt8) : Nat :=
  match kind with
  | .hopByHop | .routing | .destination => (length.toNat + 1) * 8
  | .fragment => 8
  | .authentication => (length.toNat + 2) * 4

/-- The length byte is so large that the parser computes another size. -/
def ExtensionKind.Overflows (kind : ExtensionKind) (length : UInt8) : Prop :=
  match kind with
  | .hopByHop | .routing | .destination => 256 ≤ length.toNat + 1
  | .fragment => False
  | .authentication => 256 ≤ length.toNat + 2

/-- An extension header, its body as long as its length byte says. -/
structure Extension where
  kind : ExtensionKind
  length : UInt8
  body : List UInt8
  sized : body.length + 2 = kind.size length

/-- The type of the first header of a chain. -/
def chainHead (upper : UInt8) : List Extension → UInt8
  | [] => upper
  | extension :: _ => extension.kind.number

/-- The bytes of a chain of extension headers. -/
def chainBytes (upper : UInt8) : List Extension → List UInt8
  | [] => []
  | extension :: rest =>
    (chainHead upper rest :: extension.length :: extension.body) ++ chainBytes upper rest

/-- An IPv4 packet: the low half of its first byte counts the options. -/
structure IPv4Packet where
  head : UInt8
  version : head >>> 4 = 4
  fields : Vector UInt8 8
  checksum : Vector UInt8 2
  source : Vector UInt8 4
  destination : Vector UInt8 4
  options : List UInt8
  sized : options.length + 20 = (head &&& 0x0F).toNat * 4
  segment : Segment

/-- An IPv6 packet with at most eight extension headers. -/
structure IPv6Packet where
  head : UInt8
  version : head >>> 4 = 6
  fields : Vector UInt8 5
  hopLimit : UInt8
  source : Vector UInt8 16
  destination : Vector UInt8 16
  extensions : List Extension
  bounded : extensions.length ≤ 8
  segment : Segment

/-- A packet. -/
inductive Packet where
  | ipv4 (packet : IPv4Packet)
  | ipv6 (packet : IPv6Packet)

namespace Packet

/-- The type of the frame which carries a packet. -/
def etype : Packet → UInt16
  | .ipv4 _ => 0x0800
  | .ipv6 _ => 0x86DD

/-- The segment of a packet. -/
def segment : Packet → Segment
  | .ipv4 packet => packet.segment
  | .ipv6 packet => packet.segment

/-- The source address. -/
def source : Packet → List UInt8
  | .ipv4 packet => packet.source.toList
  | .ipv6 packet => packet.source.toList

/-- The destination address. -/
def destination : Packet → List UInt8
  | .ipv4 packet => packet.destination.toList
  | .ipv6 packet => packet.destination.toList

/-- The extension headers, of which an IPv4 packet has none. -/
def extensions : Packet → List Extension
  | .ipv4 _ => []
  | .ipv6 packet => packet.extensions

end Packet

/-- The bytes of an IPv4 packet. -/
def IPv4Packet.bytes (packet : IPv4Packet) : List UInt8 :=
  (packet.head :: packet.fields.toList) ++
    (packet.segment.transport.number :: packet.checksum.toList) ++
    (packet.source.toList ++ (packet.destination.toList ++
      (packet.options ++ packet.segment.bytes)))

section

variable (packet : IPv6Packet)

/-- The bytes of an IPv6 packet. -/
def IPv6Packet.bytes : List UInt8 :=
  (packet.head :: packet.fields.toList) ++
    [chainHead packet.segment.transport.number packet.extensions, packet.hopLimit] ++
    (packet.source.toList ++ (packet.destination.toList ++
      (chainBytes packet.segment.transport.number packet.extensions ++ packet.segment.bytes)))

/-- The bytes of a packet. -/
def Packet.bytes : Packet → List UInt8
  | .ipv4 packet => packet.bytes
  | .ipv6 packet => packet.bytes

/-- A VLAN tag. -/
structure VlanTag where
  tpid : UInt16
  known : tpid = 0x8100 ∨ tpid = 0x88A8 ∨ tpid = 0x9100
  control : Vector UInt8 2

/-- An Ethernet frame with at most two VLAN tags. -/
structure Frame where
  addresses : Vector UInt8 12
  tags : List VlanTag
  bounded : tags.length ≤ 2
  packet : Packet

/-- The tags and the type of a frame, and the packet. -/
def taggedBytes (packet : Packet) : List VlanTag → List UInt8
  | [] => uint16Bytes packet.etype ++ packet.bytes
  | tag :: rest => uint16Bytes tag.tpid ++ (tag.control.toList ++ taggedBytes packet rest)

/-- The bytes of a frame. -/
def Frame.bytes (frame : Frame) : List UInt8 :=
  frame.addresses.toList ++ taggedBytes frame.packet frame.tags

/-- The parser gives back what the frame carries. -/
def RoundTrip (frame : Frame) : Prop :=
  ∀ frameLength, ∃ flow, parseSampledHeader frame.bytes frameLength = some flow ∧
      flow.srcAddr = frame.packet.source ∧
      flow.dstAddr = frame.packet.destination ∧
      flow.proto = frame.packet.segment.transport.number.toNat ∧
      flow.srcPort = frame.packet.segment.srcPort.toNat ∧
      flow.dstPort = frame.packet.segment.dstPort.toNat

/-! ## Ports -/

lemma hasPorts_transport (transport : Transport) : hasPorts transport.number = true := by
  cases transport with
  | tcp => rfl
  | udp => rfl
  | sctp => rfl

lemma portsAt_segment (known : before.length = offset) (segment : Segment) :
    portsAt (before ++ segment.bytes) segment.transport.number offset =
      (segment.srcPort.toNat, segment.dstPort.toNat) := by
  have long : offset + 4 ≤ (before ++ segment.bytes).length := by
    simp [Segment.bytes, known]
    omega
  have source : uint16At (before ++ segment.bytes) offset = segment.srcPort.toNat := by
    rw [← Nat.add_zero offset, uint16At_append known]
    exact uint16At_uint16Bytes segment.srcPort _
  have destination : uint16At (before ++ segment.bytes) (offset + 2) = segment.dstPort.toNat := by
    rw [uint16At_append known]
    change uint16At (uint16Bytes segment.srcPort ++
      (uint16Bytes segment.dstPort ++ segment.rest)) (2 + 0) = _
    rw [uint16At_append (length_uint16Bytes _)]
    exact uint16At_uint16Bytes segment.dstPort _
  unfold portsAt
  rw [hasPorts_transport, Bool.true_and, if_pos (decide_eq_true long), source, destination]

/-! ## The chain of extension headers -/

lemma Transport.number_plain (transport : Transport) :
    ¬ (transport.number = 0 ∨ transport.number = 43 ∨ transport.number = 60) ∧
      transport.number ≠ 44 ∧ transport.number ≠ 51 := by
  cases transport with
  | tcp => decide
  | udp => decide
  | sctp => decide

lemma skipExtensions_transport (ip : List UInt8) (budget : Nat)
    (transport : Transport) (offset : Nat) :
    skipExtensions ip budget transport.number offset = some (transport.number, offset) := by
  obtain ⟨plain, noFragment, noAuthentication⟩ := transport.number_plain
  cases budget with
  | zero => rfl
  | succ budget => rw [skipExtensions, if_neg plain, if_neg noFragment, if_neg noAuthentication]

/-- The length which the loop computes for a header. -/
def parsedSize (kind : ExtensionKind) (length : UInt8) : Nat :=
  match kind with
  | .hopByHop | .routing | .destination => (length + 1).toNat * 8
  | .fragment => 8
  | .authentication => (length + 2).toNat * 4

lemma parsedSize_eq (fits : ¬ kind.Overflows length) :
    parsedSize kind length = kind.size length := by
  have one : length.toNat + 1 < 256 → (length + 1).toNat = length.toNat + 1 :=
    fun bound => by
      exact Nat.mod_eq_of_lt bound
  have two : length.toNat + 2 < 256 → (length + 2).toNat = length.toNat + 2 :=
    fun bound => by
      exact Nat.mod_eq_of_lt bound
  cases kind with
  | fragment => rfl
  | hopByHop => exact congrArg (· * 8) (one (Nat.lt_of_not_le fits))
  | routing => exact congrArg (· * 8) (one (Nat.lt_of_not_le fits))
  | destination => exact congrArg (· * 8) (one (Nat.lt_of_not_le fits))
  | authentication => exact congrArg (· * 4) (two (Nat.lt_of_not_le fits))

lemma skipExtensions_step (known : before.length = offset) (budget : Nat) (kind : ExtensionKind)
    (next length : UInt8) (inside : parsedSize kind length ≤ after.length + 2) :
    skipExtensions (before ++ (next :: length :: after)) (budget + 1) kind.number offset =
      skipExtensions (before ++ (next :: length :: after)) budget next
        (offset + parsedSize kind length) := by
  have first : byteAt (before ++ (next :: length :: after)) offset =
      next := by
    rw [← Nat.add_zero offset, byteAt_append known]
    rfl
  have second : byteAt (before ++ (next :: length :: after)) (offset + 1) =
      length := by
    rw [byteAt_append known]
    rfl
  have total : (before ++ (next :: length :: after)).length = offset + (after.length + 2) := by
    simp [known]
  have two : ¬ (before ++ (next :: length :: after)).length < offset + 2 := by
    omega
  have enough : ¬ (before ++ (next :: length :: after)).length <
      offset + parsedSize kind length := by
    omega
  cases kind with
  | hopByHop =>
    rw [skipExtensions, if_pos (by decide), if_neg two, second, first]
    exact if_neg enough
  | routing =>
    rw [skipExtensions, if_pos (by decide), if_neg two, second, first]
    exact if_neg enough
  | destination =>
    rw [skipExtensions, if_pos (by decide), if_neg two, second, first]
    exact if_neg enough
  | fragment =>
    rw [skipExtensions, if_neg (by decide), if_pos (by decide), first]
    exact if_neg enough
  | authentication =>
    rw [skipExtensions, if_neg (by decide), if_neg (by decide),
      if_pos (by decide), if_neg two, second, first]
    exact if_neg enough

/-- The walk over a chain of extensions which fit ends at its transport. -/
lemma skipExtensions_chain (transport : Transport) {extensions : List Extension}
    (fits : ∀ extension ∈ extensions, ¬ extension.kind.Overflows extension.length)
    (before : List UInt8) (offset budget : Nat) (known : before.length = offset)
    (enough : extensions.length ≤ budget) :
    skipExtensions (before ++ (chainBytes transport.number extensions ++ payload)) budget
        (chainHead transport.number extensions) offset =
      some (transport.number, offset + (chainBytes transport.number extensions).length) := by
  induction extensions generalizing before offset budget with
  | nil => exact skipExtensions_transport _ budget transport offset
  | cons extension rest ih =>
    cases budget with
    | zero => simp at enough
    | succ budget =>
      have size := parsedSize_eq (fits extension (.head _))
      have sized := extension.sized
      have walked := ih (fun other member => fits other (.tail _ member))
        (before ++ (chainHead transport.number rest :: extension.length :: extension.body))
        (offset + parsedSize extension.kind extension.length) budget
        (by
          rw [size, ← sized]
          simp [known])
        (by simpa using enough)
      have split : before ++ (chainBytes transport.number (extension :: rest) ++ payload) =
            before ++ (chainHead transport.number rest :: extension.length :: (extension.body ++
                (chainBytes transport.number rest ++ payload))) := by
        simp [chainBytes]
      rw [split, chainHead, skipExtensions_step known budget]
      · rw [List.append_assoc] at walked
        refine walked.trans ?_
        rw [size, ← sized, chainBytes]
        simp
        omega
      · rw [size, ← sized]
        simp

/-! ## Packets -/

/-- What the parser makes of an IPv4 packet. -/
lemma parseIPv4_bytes (packet : IPv4Packet) (frameLength : Nat) :
    ∃ flow, parseIPv4 packet.bytes frameLength = some flow ∧ flow.srcAddr = packet.source.toList ∧
      flow.dstAddr = packet.destination.toList ∧
      flow.proto = packet.segment.transport.number.toNat ∧
      flow.srcPort = packet.segment.srcPort.toNat ∧
      flow.dstPort = packet.segment.dstPort.toNat := by
  have sized := packet.sized
  have head : byteAt packet.bytes 0 = packet.head := rfl
  have proto : byteAt packet.bytes 9 = packet.segment.transport.number := by
    have known : (packet.head :: packet.fields.toList).length = 9 := by simp
    rw [IPv4Packet.bytes, List.append_assoc, ← Nat.add_zero 9, byteAt_append known]
    rfl
  obtain ⟨start, startLength, split⟩ : ∃ start : List UInt8, start.length = 12 ∧ packet.bytes =
        start ++ (packet.source.toList ++ (packet.destination.toList ++
          (packet.options ++ packet.segment.bytes))) :=
    ⟨_, by simp, rfl⟩
  have length : packet.bytes.length = 20 + packet.options.length + packet.segment.bytes.length := by
    rw [split]
    simp [startLength]
    omega
  have source : slice packet.bytes 12 16 = packet.source.toList := by
    rw [split]
    exact slice_append startLength (by simp)
  have destination : slice packet.bytes 16 20 = packet.destination.toList := by
    rw [split, ← List.append_assoc]
    exact slice_append (by simp [startLength]) (by simp)
  have ports : portsAt packet.bytes packet.segment.transport.number (packet.options.length + 20) =
        (packet.segment.srcPort.toNat, packet.segment.dstPort.toNat) := by
    rw [split, ← List.append_assoc, ← List.append_assoc, ← List.append_assoc]
    refine portsAt_segment ?_ packet.segment
    simp [startLength]
    omega
  have accepted : ¬ (packet.bytes.length < 20 ∨ packet.head >>> 4 ≠ 4) := by
    rintro (short | other)
    · omega
    · exact other packet.version
  unfold parseIPv4
  rw [head, proto, source, destination, ← sized, if_neg accepted, if_neg (by omega)]
  dsimp only
  rw [ports]
  exact ⟨_, rfl, rfl, rfl, rfl, rfl, rfl⟩

/-- What the parser makes of an IPv6 packet, given where the loop ends. -/
lemma parseIPv6_bytes (frameLength : Nat) (walked : skipExtensions packet.bytes 8 (chainHead
      packet.segment.transport.number packet.extensions) 40 = some (next, offset)) :
    ∃ flow, parseIPv6 packet.bytes frameLength = some flow ∧ flow.srcAddr = packet.source.toList ∧
      flow.dstAddr = packet.destination.toList ∧ flow.proto = next.toNat ∧
      (flow.srcPort, flow.dstPort) = portsAt packet.bytes next offset := by
  have head : byteAt packet.bytes 0 = packet.head := rfl
  have proto : byteAt packet.bytes 6 =
      chainHead packet.segment.transport.number packet.extensions := by
    have known : (packet.head :: packet.fields.toList).length = 6 := by simp
    rw [IPv6Packet.bytes, List.append_assoc, ← Nat.add_zero 6, byteAt_append known]
    rfl
  obtain ⟨start, startLength, split⟩ : ∃ start : List UInt8, start.length = 8 ∧ packet.bytes =
        start ++ (packet.source.toList ++ (packet.destination.toList ++
          (chainBytes packet.segment.transport.number packet.extensions ++
            packet.segment.bytes))) :=
    ⟨_, by simp, rfl⟩
  have source : slice packet.bytes 8 24 = packet.source.toList := by
    rw [split]
    exact slice_append startLength (by simp)
  have destination : slice packet.bytes 24 40 = packet.destination.toList := by
    rw [split, ← List.append_assoc]
    exact slice_append (by simp [startLength]) (by simp)
  have accepted : ¬ (packet.bytes.length < 40 ∨ packet.head >>> 4 ≠ 6) := by
    rintro (short | other)
    · rw [split] at short
      simp [startLength] at short
      omega
    · exact other packet.version
  unfold parseIPv6
  rw [head, proto, source, destination, if_neg accepted, walked]
  exact ⟨_, rfl, rfl, rfl, rfl, rfl⟩

lemma IPv6Packet.bytes_split : ∃ start : List UInt8, start.length = 40 ∧
      packet.bytes = start ++ (chainBytes packet.segment.transport.number packet.extensions ++
          packet.segment.bytes) := by
  refine ⟨(packet.head :: packet.fields.toList) ++
    [chainHead packet.segment.transport.number packet.extensions,
      packet.hopLimit] ++ packet.source.toList ++
      packet.destination.toList, by simp, ?_⟩
  simp [IPv6Packet.bytes]

lemma parseIPv6_fits (frameLength : Nat)
    (fits : ∀ extension ∈ packet.extensions, ¬ extension.kind.Overflows extension.length) :
    ∃ flow, parseIPv6 packet.bytes frameLength = some flow ∧ flow.srcAddr = packet.source.toList ∧
      flow.dstAddr = packet.destination.toList ∧
      flow.proto = packet.segment.transport.number.toNat ∧
      flow.srcPort = packet.segment.srcPort.toNat ∧
      flow.dstPort = packet.segment.dstPort.toNat := by
  obtain ⟨start, known, split⟩ := packet.bytes_split
  have walked : skipExtensions packet.bytes 8
      (chainHead packet.segment.transport.number packet.extensions) 40 =
        some (packet.segment.transport.number, 40 + (chainBytes packet.segment.transport.number
            packet.extensions).length) := by
    rw [split]
    exact skipExtensions_chain packet.segment.transport fits start 40 8 known packet.bounded
  rcases parseIPv6_bytes packet frameLength walked with
    ⟨flow, parsed, source, destination, proto, ports⟩
  have found : portsAt packet.bytes packet.segment.transport.number
      (40 + (chainBytes packet.segment.transport.number packet.extensions).length) =
        (packet.segment.srcPort.toNat, packet.segment.dstPort.toNat) := by
    rw [split, ← List.append_assoc]
    exact portsAt_segment (by simp [known]) packet.segment
  rw [found] at ports
  exact ⟨flow, parsed, source, destination, proto, congrArg Prod.fst ports, congrArg Prod.snd ports⟩

end

/-! ## Frames -/

lemma uint16At_known (known : before.length = offset) (value : UInt16) (rest : List UInt8) :
    uint16At (before ++ (uint16Bytes value ++ rest)) offset = value.toNat := by
  rw [← Nat.add_zero offset, uint16At_append known, uint16At_uint16Bytes]

lemma Packet.etype_plain (packet : Packet) :
    packet.etype.toNat ≠ 0x8100 ∧ packet.etype.toNat ≠ 0x88A8 ∧ packet.etype.toNat ≠ 0x9100 := by
  cases packet with
  | ipv4 packet =>
    change (2048 : Nat) ≠ 0x8100 ∧ (2048 : Nat) ≠ 0x88A8 ∧ (2048 : Nat) ≠ 0x9100
    decide
  | ipv6 packet =>
    change (34525 : Nat) ≠ 0x8100 ∧ (34525 : Nat) ≠ 0x88A8 ∧ (34525 : Nat) ≠ 0x9100
    decide

lemma skipTags_tagged (packet : Packet) (tags : List VlanTag) (before : List UInt8)
    (offset budget : Nat) (known : before.length = offset) (enough : tags.length ≤ budget) :
    ∃ stop, skipTags (before ++ taggedBytes packet tags) budget
          (uint16At (before ++ taggedBytes packet tags) offset)
          (offset + 2) = some (packet.etype.toNat, stop) ∧
        (before ++ taggedBytes packet tags).drop stop = packet.bytes := by
  induction tags generalizing before offset budget with
  | nil =>
    rw [taggedBytes, uint16At_known known]
    refine ⟨offset + 2, ?_, ?_⟩
    · cases budget with
      | zero => rfl
      | succ budget => rw [skipTags, if_pos packet.etype_plain]
    · rw [← List.append_assoc]
      exact drop_append_known (by simp [known])
  | cons tag rest ih =>
    cases budget with
    | zero => simp at enough
    | succ budget =>
      have walked := ih (before ++ (uint16Bytes tag.tpid ++ tag.control.toList))
        (offset + 4) budget (by simp [known])
        (by simpa using enough)
      have split : before ++ (uint16Bytes tag.tpid ++
          tag.control.toList) ++ taggedBytes packet rest =
            before ++ taggedBytes packet (tag :: rest) := by
        simp [taggedBytes]
      rw [split] at walked
      have tagged : ¬ (tag.tpid.toNat ≠ 0x8100 ∧
          tag.tpid.toNat ≠ 0x88A8 ∧ tag.tpid.toNat ≠ 0x9100) := by
        rintro ⟨first, second, third⟩
        rcases tag.known with same | same | same
        · exact first (by rw [same]; rfl)
        · exact second (by rw [same]; rfl)
        · exact third (by rw [same]; rfl)
      have long : ¬ (before ++ taggedBytes packet (tag :: rest)).length < offset + 2 + 4 := by
        have some : 2 ≤ (taggedBytes packet rest).length := by
          cases rest with
          | nil => simp [taggedBytes]
          | cons other others => simp [taggedBytes]
        simp only [taggedBytes, List.length_append, known, length_uint16Bytes, Vector.length_toList]
        omega
      have etype : uint16At (before ++ taggedBytes packet (tag :: rest))
        offset = tag.tpid.toNat := uint16At_known known tag.tpid _
      rw [etype, skipTags, if_neg tagged, if_neg long]
      exact walked

lemma parseSampledHeader_bytes (frame : Frame) (frameLength : Nat) :
    parseSampledHeader frame.bytes frameLength = match frame.packet with
      | .ipv4 packet => parseIPv4 packet.bytes frameLength
      | .ipv6 packet => parseIPv6 packet.bytes frameLength := by
  rcases skipTags_tagged frame.packet frame.tags frame.addresses.toList 12 2
    (by simp) frame.bounded with ⟨stop, walked, rest⟩
  have long : ¬ frame.bytes.length < 14 := by
    have some : 2 ≤ (taggedBytes frame.packet frame.tags).length := by
      cases frame.tags with
      | nil => simp [taggedBytes]
      | cons other others => simp [taggedBytes]
    simp only [Frame.bytes, List.length_append, Vector.length_toList]
    omega
  unfold parseSampledHeader
  rw [if_neg long, Frame.bytes, walked]
  dsimp only
  rw [rest]
  cases frame.packet with
  | ipv4 packet => rfl
  | ipv6 packet => rfl

lemma roundTrip_of_fits (frame : Frame) (fits : ∀ extension ∈ frame.packet.extensions,
      ¬ extension.kind.Overflows extension.length) : RoundTrip frame := by
  intro frameLength
  rw [parseSampledHeader_bytes]
  cases isPacket : frame.packet with
  | ipv4 packet => exact parseIPv4_bytes packet frameLength
  | ipv6 packet =>
    rw [isPacket] at fits
    exact parseIPv6_fits packet frameLength fits

/-! ## Length bytes which overflow -/

section

variable (kind : ExtensionKind)

include kind

lemma ExtensionKind.two_le_size (length : UInt8) : 2 ≤ kind.size length := by
  cases kind with
  | fragment => exact (by decide : 2 ≤ 8)
  | hopByHop => simp only [size]; omega
  | routing => simp only [size]; omega
  | destination => simp only [size]; omega
  | authentication => simp only [size]; omega

/-- An extension header with an empty body. -/
def bareExtension (length : UInt8) : Extension where
  kind := kind
  length := length
  body := List.replicate (kind.size length - 2) 0
  sized := by
    have enough := kind.two_le_size length
    rw [List.length_replicate]
    omega

/-- An IPv6 packet with one extension header before two TCP ports. -/
def barePacket (length : UInt8) : IPv6Packet where
  head := 0x60
  version := by decide
  fields := Vector.replicate 5 0
  hopLimit := 64
  source := Vector.replicate 16 1
  destination := Vector.replicate 16 2
  extensions := [bareExtension kind length]
  bounded := by simp
  segment := { transport := .tcp, srcPort := 1, dstPort := 1, rest := [] }

/-- The frame of that packet. -/
def bareFrame (length : UInt8) : Frame where
  addresses := Vector.replicate 12 0
  tags := []
  bounded := by simp
  packet := .ipv6 (barePacket kind length)

end

/-- The parser stays on the header, or goes four bytes into its body. -/
lemma parsedSize_of_overflows (overflows : kind.Overflows length) :
    parsedSize kind length = 0 ∨ parsedSize kind length = 4 := by
  have bound := length.toNat_lt
  have one : (length + 1).toNat = (length.toNat + 1) % 256 := UInt8.toNat_add length 1
  have two : (length + 2).toNat = (length.toNat + 2) % 256 := UInt8.toNat_add length 2
  cases kind with
  | fragment => exact overflows.elim
  | hopByHop =>
    simp only [ExtensionKind.Overflows] at overflows
    exact .inl (by simp only [parsedSize]; omega)
  | routing =>
    simp only [ExtensionKind.Overflows] at overflows
    exact .inl (by simp only [parsedSize]; omega)
  | destination =>
    simp only [ExtensionKind.Overflows] at overflows
    exact .inl (by simp only [parsedSize]; omega)
  | authentication =>
    simp only [ExtensionKind.Overflows] at overflows
    simp only [parsedSize]
    omega

lemma ExtensionKind.long_of_overflows {kind : ExtensionKind} (overflows : kind.Overflows length) :
    1000 ≤ kind.size length := by
  cases kind with
  | fragment => exact overflows.elim
  | hopByHop => simp only [Overflows, size] at overflows ⊢; omega
  | routing => simp only [Overflows, size] at overflows ⊢; omega
  | destination => simp only [Overflows, size] at overflows ⊢; omega
  | authentication => simp only [Overflows, size] at overflows ⊢; omega

lemma not_roundTrip_of_overflows (overflows : kind.Overflows length) :
    ¬ RoundTrip (bareFrame kind length) := by
  have long := ExtensionKind.long_of_overflows overflows
  have size := parsedSize_of_overflows overflows
  obtain ⟨start, known, split⟩ := (barePacket kind length).bytes_split
  let body : List UInt8 := List.replicate (kind.size length - 2) 0
  let segment : Segment := (barePacket kind length).segment
  have bytes : (barePacket kind length).bytes =
      start ++ (protoTCP :: length :: (body ++ segment.bytes)) := by
    rw [split]
    simp [chainBytes, chainHead, barePacket, bareExtension, body, segment, Transport.number]
  have bodyLength : body.length = kind.size length - 2 := by simp [body]
  have walked : skipExtensions (barePacket kind length).bytes 8
      (chainHead (barePacket kind length).segment.transport.number
        (barePacket kind length).extensions) 40 =
        some (protoTCP, 40 + parsedSize kind length) := by
    rw [bytes]
    refine (skipExtensions_step known 7 kind protoTCP length ?_).trans
      (skipExtensions_transport _ 7 .tcp _)
    rw [List.length_append, bodyLength]
    omega
  obtain ⟨flow, parsed, _, _, _, ports⟩ := parseIPv6_bytes (barePacket kind length) 0 walked
  intro roundTrip
  obtain ⟨other, otherParsed, _, _, _, srcPort, _⟩ := roundTrip 0
  rw [parseSampledHeader_bytes] at otherParsed
  have same : other = flow := Option.some_inj.1 (otherParsed.symm.trans parsed)
  have one : flow.srcPort = 1 := by
    rw [← same, srcPort]
    rfl
  have enough : 40 + parsedSize kind length + 4 ≤
      (start ++ (protoTCP :: length :: (body ++ segment.bytes))).length := by
    simp only [List.length_append, List.length_cons, known, bodyLength]
    omega
  have read : flow.srcPort = uint16At (start ++ (protoTCP :: length :: (body ++ segment.bytes)))
        (40 + parsedSize kind length) := by
    rw [bytes, portsAt, if_pos (by simpa [hasPorts] using enough)] at ports
    exact congrArg Prod.fst ports
  rw [uint16At_append known] at read
  rcases size with zero | four
  · rw [zero] at read
    have value : flow.srcPort = 6 * 256 + length.toNat := read
    omega
  · -- Four bytes on there are only zeros of the body.
    obtain ⟨rest, isBody⟩ : ∃ rest, body = [0, 0, 0, 0] ++ rest := by
      refine ⟨List.replicate (kind.size length - 6) 0, ?_⟩
      rw [show body = List.replicate (4 + (kind.size length - 6)) 0 by
        simp only [body]; congr 1; omega, List.replicate_add]
      rfl
    rw [four, isBody] at read
    have value : flow.srcPort = 0 := by
      rw [read]
      simp [uint16At, byteAt]
    omega

/--
The frames whose extension headers all have length bytes of some set are parsed
back exactly if no length byte of the set overflows.
-/
theorem roundTrip_iff_lengths_fit (allowed : ExtensionKind → UInt8 → Prop) :
    (∀ frame : Frame, (∀ extension ∈ frame.packet.extensions,
        allowed extension.kind extension.length) → RoundTrip frame) ↔
      ∀ kind length, allowed kind length → ¬ kind.Overflows length := by
  constructor
  · intro parsed kind length isAllowed overflows
    refine not_roundTrip_of_overflows overflows (parsed (bareFrame kind length) ?_)
    intro extension member
    cases List.mem_singleton.mp member
    exact isAllowed
  · intro fit frame within
    exact roundTrip_of_fits frame fun extension member =>
      fit extension.kind extension.length (within extension member)

/--
An authentication header of 1024 bytes has length byte 254: the ports are read
from its first bytes.
-/
theorem authentication_header_loses_ports : (barePacket .authentication 254).segment.srcPort = 1 ∧
      (parseSampledHeader (bareFrame .authentication 254).bytes 0).map
        (fun flow => (flow.proto, flow.srcPort, flow.dstPort)) = some (6, 6 * 256 + 254, 0) := by
  constructor
  · rfl
  · decide +kernel

end Unifabric.Sflow
