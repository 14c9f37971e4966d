import Unifabric.Sflow.Attribution
import Unifabric.Sflow.Headers

/-!
# Flow records and their log form

`DecodeDatagram` builds flow records from the samples of a datagram, and
`flowLogRecord` writes them with their volume scaled by the sampling rate.
What `DecodeMessageVersion` reads from the wire is an arbitrary `Datagram`,
whose numbers have the widths of the wire.  The type and the two further times of a
record, which nothing here reads, are left out.
-/

namespace Unifabric.Sflow

open Lib

/-! ## Datagrams -/

structure SampledIPBase where
  length : UInt32
  protocol : UInt32
  srcIP : List UInt8
  dstIP : List UInt8
  srcPort : UInt32
  dstPort : UInt32
  deriving DecidableEq, Repr

/-- The data of a flow record on the wire, a value or a pointer to one. -/
inductive RecordData where
  | sampledIPv4 (data : SampledIPBase)
  | sampledIPv6 (data : SampledIPBase)
  | sampledHeader (headerData : List UInt8) (frameLength : UInt32)
  | extendedGateway (srcAS lastAS : UInt32)
  | other
  deriving DecidableEq, Repr

/-- A sample; flow samples and expanded ones are read alike. -/
inductive Sample where
  | flowSample (samplingRate : UInt32) (records : List RecordData)
  | other
  deriving DecidableEq, Repr

/-- `sflowdecoder.Packet`. -/
structure Datagram where
  sequenceNumber : UInt32
  agentIP : List UInt8
  samples : List Sample
  deriving DecidableEq, Repr

/-! ## Records -/

structure FlowRecord where
  sequenceNum : UInt32
  samplingRate : UInt64
  samplerAddress : Option (List UInt8)
  timeFlowStart : Int
  bytes : UInt64
  packets : UInt64
  srcAddr : List UInt8
  dstAddr : List UInt8
  srcAS : UInt32
  dstAS : UInt32
  etype : Nat
  proto : Nat
  srcPort : Nat
  dstPort : Nat
  srcAttribution : EndpointAttribution
  dstAttribution : EndpointAttribution
  deriving DecidableEq, Repr

def parsedFromSampledIP (data : SampledIPBase) (etype : Nat) : ParsedFlow where
  bytes := data.length.toNat
  srcAddr := data.srcIP
  dstAddr := data.dstIP
  etype := etype
  proto := data.protocol.toNat
  srcPort := data.srcPort.toNat
  dstPort := data.dstPort.toNat

/-- The variables of the first loop of `recordsFromFlowRecords`. -/
structure RecordScan where
  parsed : List ParsedFlow
  srcAS : UInt32
  dstAS : UInt32

/-- The body of that loop. -/
def scanRecord (scan : RecordScan) : RecordData → RecordScan
  | .sampledIPv4 data =>
    { scan with parsed := scan.parsed ++ [parsedFromSampledIP data etherTypeIPv4] }
  | .sampledIPv6 data =>
    { scan with parsed := scan.parsed ++ [parsedFromSampledIP data etherTypeIPv6] }
  | .sampledHeader headerData frameLength =>
    { scan with
      parsed := scan.parsed ++ (parseSampledHeader headerData frameLength.toNat).toList }
  | .extendedGateway srcAS lastAS => { scan with srcAS := srcAS, dstAS := lastAS }
  | .other => scan

/-- The attribution of a record which was not looked up. -/
def noAttribution : EndpointAttribution := ⟨"", "", "", "", "", ""⟩

def recordsFromFlowRecords (now : Int) (sequenceNum : UInt32)
    (samplingRate : UInt64) (samplerIP : Option (List UInt8))
    (flowRecords : List RecordData) : List FlowRecord :=
  let scan := flowRecords.foldl scanRecord ⟨[], 0, 0⟩
  (scan.parsed.filter fun pf => pf.srcAddr ≠ [] ∧ pf.dstAddr ≠ []).map fun pf =>
    { sequenceNum := sequenceNum
      samplingRate := samplingRate
      samplerAddress := samplerIP
      timeFlowStart := now
      bytes := if UInt64.ofNat pf.bytes = 0 then 1 else UInt64.ofNat pf.bytes
      packets := 1
      srcAddr := pf.srcAddr
      dstAddr := pf.dstAddr
      srcAS := scan.srcAS
      dstAS := scan.dstAS
      etype := pf.etype
      proto := pf.proto
      srcPort := pf.srcPort
      dstPort := pf.dstPort
      srcAttribution := noAttribution
      dstAttribution := noAttribution }

/-- `DecodeDatagram`, after the message is decoded. -/
def decodeDatagram (now : Int) (remote : Option (List UInt8))
    (packet : Datagram) : List FlowRecord :=
  let samplerIP := if packet.agentIP = [] then remote else some packet.agentIP
  packet.samples.flatMap fun sample =>
    match sample with
    | .flowSample samplingRate records =>
      recordsFromFlowRecords now packet.sequenceNumber samplingRate.toUInt64 samplerIP records
    | .other => []

/-! ## Log records -/

/-- The values of attributes. -/
inductive AttributeValue where
  | int64 (value : Int64)
  | string (value : String)
  deriving DecidableEq

/-- `otellog.Record`, its severity, event name and body constant. -/
structure LogRecord where
  timestamp : Int
  observedTimestamp : Int
  attributes : List (String × AttributeValue)

/-- `IP.String`. -/
def addressText (ip : List UInt8) : String :=
  let bytes := ip.map UInt8.toNat
  if ip = [] then "<nil>"
  else if (to16 bytes).isSome then ipString bytes
  else "?" ++ String.join (bytes.map hexPair)

def workloadID (attr : EndpointAttribution) : String :=
  if attr.topOwnerNamespace = "" ∨ attr.topOwnerKind = "" ∨ attr.topOwnerName = "" then ""
  else attr.topOwnerNamespace ++ "/" ++ attr.topOwnerKind ++ "/" ++ attr.topOwnerName

def protocolName : Nat → String
  | 1 => "ICMP"
  | 6 => "TCP"
  | 17 => "UDP"
  | 58 => "IPv6-ICMP"
  | 132 => "SCTP"
  | proto => "Protocol " ++ toString proto

/-- The attributes of one end of a flow. -/
def attributionAttributes (side : String) (attr : EndpointAttribution) :
    List (String × AttributeValue) :=
  [(side ++ "_pod_namespace", .string attr.podNamespace),
    (side ++ "_pod_name", .string attr.podName),
    (side ++ "_node_name", .string attr.nodeName),
    (side ++ "_pod_top_owner_kind", .string attr.topOwnerKind),
    (side ++ "_pod_top_owner_namespace", .string attr.topOwnerNamespace),
    (side ++ "_pod_top_owner_name", .string attr.topOwnerName),
    (side ++ "_workload", .string (workloadID attr))]

/-- The sampling rate by which volumes are scaled. -/
def FlowRecord.scale (record : FlowRecord) : UInt64 :=
  if record.samplingRate = 0 then 1 else record.samplingRate

/-- `flowLogRecord`: products in `uint64`, attributes in `int64`. -/
def flowLogRecord (now : Int) (record : FlowRecord) : LogRecord where
  timestamp := record.timeFlowStart
  observedTimestamp := now
  attributes :=
    [("sequence_num", .int64 record.sequenceNum.toUInt64.toInt64),
      ("sampling_rate", .int64 record.samplingRate.toInt64),
      ("sampler_ip", .string ((record.samplerAddress.map addressText).getD "")),
      ("bytes", .int64 record.bytes.toInt64),
      ("packets", .int64 record.packets.toInt64),
      ("scaled_bytes", .int64 (record.bytes * record.scale).toInt64),
      ("scaled_packets", .int64 (record.packets * record.scale).toInt64),
      ("proto", .int64 (Int64.ofNat record.proto)),
      ("protocol", .string (protocolName record.proto)),
      ("src_ip", .string (addressText record.srcAddr)),
      ("dst_ip", .string (addressText record.dstAddr)),
      ("src_port", .int64 (Int64.ofNat record.srcPort)),
      ("dst_port", .int64 (Int64.ofNat record.dstPort))] ++
    attributionAttributes "src" record.srcAttribution ++
    attributionAttributes "dst" record.dstAttribution

/-! ## Scaled volumes -/

/-- An attribute holds a volume times the rate, or times one for rate zero. -/
def LogRecord.ScalesTo (log : LogRecord) (name : String) (volume samplingRate : UInt64) : Prop :=
  ∃ value : Int64, (name, .int64 value) ∈ log.attributes ∧ 0 ≤ value.toInt ∧
      value.toInt = volume.toNat * (if samplingRate = 0 then 1 else samplingRate.toNat)

/-- A product is written as it is exactly if an `int64` can hold it. -/
lemma toInt_toInt64_mul_iff (left right : UInt64) : (0 ≤ (left * right).toInt64.toInt ∧
        (left * right).toInt64.toInt = left.toNat * right.toNat) ↔
      left.toNat * right.toNat < 2 ^ 63 := by
  constructor
  · rintro ⟨_, exact⟩
    have bound := (left * right).toInt64.toInt_lt
    rw [exact] at bound
    exact_mod_cast bound
  · intro fits
    have product : left * right = UInt64.ofNat (left.toNat * right.toNat) := by
      rw [UInt64.ofNat_mul, UInt64.ofNat_toNat, UInt64.ofNat_toNat]
    rw [product, UInt64.toInt64_ofNat', Int64.toInt_ofNat_of_lt fits]
    exact ⟨by positivity, Nat.cast_mul _ _⟩

lemma toNat_scale (record : FlowRecord) : record.scale.toNat =
      if record.samplingRate = 0 then 1 else record.samplingRate.toNat := by
  unfold FlowRecord.scale
  split_ifs <;> rfl

/-- The attributes which are written under the names of the volumes. -/
lemma scalesTo_flowLogRecord (now : Int) (record : FlowRecord) :
    ((flowLogRecord now record).ScalesTo "scaled_bytes" record.bytes record.samplingRate ↔
      record.bytes.toNat * record.scale.toNat < 2 ^ 63) ∧
    ((flowLogRecord now record).ScalesTo "scaled_packets" record.packets record.samplingRate ↔
      record.packets.toNat * record.scale.toNat < 2 ^ 63) := by
  unfold LogRecord.ScalesTo
  rw [← toInt_toInt64_mul_iff, ← toInt_toInt64_mul_iff, toNat_scale]
  simp [flowLogRecord, attributionAttributes]

/-- A record of a datagram counts one packet, at a rate of 32 bits. -/
lemma packets_of_mem_decodeDatagram {now : Int} {remote : Option (List UInt8)} {packet : Datagram}
    {record : FlowRecord} (built : record ∈ decodeDatagram now remote packet) :
    record.packets = 1 ∧ record.samplingRate.toNat < 2 ^ 32 := by
  obtain ⟨sample, _, ofSample⟩ := List.mem_flatMap.1 built
  cases sample with
  | other => simp at ofSample
  | flowSample samplingRate records =>
    obtain ⟨pf, _, rfl⟩ := List.mem_map.1 ofSample
    exact ⟨rfl, samplingRate.toNat_lt⟩

/--
The scaled volumes of a record which is built from a datagram are written as
they are exactly if the bytes times the sampling rate stay below the sign bit.
-/
theorem scaled_volumes_exact_iff (now observed : Int)
    (remote : Option (List UInt8)) (packet : Datagram) (record : FlowRecord)
    (built : record ∈ decodeDatagram now remote packet) :
    ((flowLogRecord observed record).ScalesTo "scaled_bytes" record.bytes record.samplingRate ∧
      (flowLogRecord observed record).ScalesTo "scaled_packets" record.packets
        record.samplingRate) ↔
      record.bytes.toNat * (if record.samplingRate = 0 then 1 else record.samplingRate.toNat) <
          2 ^ 63 := by
  obtain ⟨onePacket, rate⟩ := packets_of_mem_decodeDatagram built
  have scales := scalesTo_flowLogRecord observed record
  rw [scales.1, scales.2, toNat_scale, onePacket]
  refine and_iff_left ?_
  split_ifs
  · decide
  · change 1 * record.samplingRate.toNat < 2 ^ 63
    omega

/-- A datagram with one sampled packet between two IPv4 addresses. -/
def oneSampledPacket (length samplingRate : UInt32) : Datagram :=
  ⟨1, [10, 0, 0, 1], [.flowSample samplingRate
      [.sampledIPv4 ⟨length, 6, [10, 0, 0, 2], [10, 0, 0, 3], 1024, 4791⟩]]⟩

theorem scaled_volumes_exact_jumbo_frame :
    ∃ record ∈ decodeDatagram 0 none (oneSampledPacket 9000 65536),
      (flowLogRecord 0 record).ScalesTo "scaled_bytes" record.bytes record.samplingRate := by
  have built := List.mem_of_mem_head? (l := decodeDatagram 0 none (oneSampledPacket 9000 65536)) rfl
  exact ⟨_, built, ((scaled_volumes_exact_iff 0 0 none _ _ built).mpr (by decide)).1⟩

/-- The largest length and rate of the wire are written as another number. -/
theorem scaled_bytes_overflow : ∃ record ∈ decodeDatagram 0 none
        (oneSampledPacket 0xFFFFFFFF 0xFFFFFFFF),
      ¬ (flowLogRecord 0 record).ScalesTo "scaled_bytes" record.bytes record.samplingRate := by
  refine ⟨_, List.mem_of_mem_head?
    (l := decodeDatagram 0 none (oneSampledPacket 0xFFFFFFFF 0xFFFFFFFF))
    rfl, ?_⟩
  rw [(scalesTo_flowLogRecord 0 _).1]
  decide

end Unifabric.Sflow
