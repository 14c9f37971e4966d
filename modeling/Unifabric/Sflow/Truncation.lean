import Unifabric.Sflow.Headers

/-!
# Truncated headers

`parseSampledHeader` once more, with reads which fail behind the end of the
bytes: none of them does.  What the parser finds in the first bytes of a frame
it also finds in the whole frame, where only the ports can be missing.
-/

namespace Unifabric.Sflow

open Lib List Option

/-! ## Reads within the bytes -/

/-- `portsAt`, with checked reads. -/
def readPorts (ip : List UInt8) (proto : UInt8) (offset : Nat) : Option (Nat × Nat) :=
  if hasPorts proto && decide (offset + 4 ≤ ip.length) then do
    return (← readUint16 ip offset, ← readUint16 ip (offset + 2))
  else some (0, 0)

/-- `parseIPv4`, with checked reads. -/
def readIPv4 (ip : List UInt8) (frameLength : Nat) : Option (Option ParsedFlow) := do
  if ip.length < 20 then return none
  let first ← readByte ip 0
  if first >>> 4 ≠ 4 then return none
  let ihl := (first &&& 0x0F).toNat * 4
  if ihl < 20 ∨ ip.length < ihl then return none
  let proto ← readByte ip 9
  let ports ← readPorts ip proto ihl
  let bytes ←
    if frameLength = 0 ∧ 4 ≤ ip.length then readUint16 ip 2
    else some frameLength
  let srcAddr ← readSlice ip 12 16
  let dstAddr ← readSlice ip 16 20
  return some
    { bytes, srcAddr, dstAddr, etype := etherTypeIPv4, proto := proto.toNat
      srcPort := ports.1, dstPort := ports.2 }

/-- The loop over the extension headers, with checked reads. -/
def readExtensions (ip : List UInt8) : Nat → UInt8 → Nat → Option (Option (UInt8 × Nat))
  | 0, nextHeader, offset => some (some (nextHeader, offset))
  | budget + 1, nextHeader, offset =>
    if nextHeader = 0 ∨ nextHeader = 43 ∨ nextHeader = 60 then
      if ip.length < offset + 2 then some none
      else do
        let hdrLen := ((← readByte ip (offset + 1)) + 1).toNat * 8
        if ip.length < offset + hdrLen then return none
        readExtensions ip budget (← readByte ip offset) (offset + hdrLen)
    else if nextHeader = 44 then
      if ip.length < offset + 8 then some none
      else do readExtensions ip budget (← readByte ip offset) (offset + 8)
    else if nextHeader = 51 then
      if ip.length < offset + 2 then some none
      else do
        let hdrLen := ((← readByte ip (offset + 1)) + 2).toNat * 4
        if ip.length < offset + hdrLen then return none
        readExtensions ip budget (← readByte ip offset) (offset + hdrLen)
    else some (some (nextHeader, offset))

/-- `parseIPv6`, with checked reads. -/
def readIPv6 (ip : List UInt8) (frameLength : Nat) : Option (Option ParsedFlow) := do
  if ip.length < 40 then return none
  if (← readByte ip 0) >>> 4 ≠ 6 then return none
  let some (nextHeader, offset) ← readExtensions ip 8 (← readByte ip 6) 40
    | return none
  let ports ← readPorts ip nextHeader offset
  let bytes ←
    if frameLength = 0 ∧ 6 ≤ ip.length then
      (40 + ·) <$> readUint16 ip 4
    else some frameLength
  let srcAddr ← readSlice ip 8 24
  let dstAddr ← readSlice ip 24 40
  return some
    { bytes, srcAddr, dstAddr, etype := etherTypeIPv6
      proto := nextHeader.toNat, srcPort := ports.1, dstPort := ports.2 }

/-- The loop over the VLAN tags, with checked reads. -/
def readTags (header : List UInt8) : Nat → Nat → Nat → Option (Option (Nat × Nat))
  | 0, etype, offset => some (some (etype, offset))
  | budget + 1, etype, offset =>
    if etype ≠ 0x8100 ∧ etype ≠ 0x88A8 ∧ etype ≠ 0x9100 then
      some (some (etype, offset))
    else if header.length < offset + 4 then some none
    else do
      readTags header budget (← readUint16 header (offset + 2)) (offset + 4)

/--
`parseSampledHeader`, with checked reads: `none` is a read out of bounds, and
`some none` a header which is not accepted.
-/
def readSampledHeader (header : List UInt8) (frameLength : Nat) : Option (Option ParsedFlow) := do
  if header.length < 14 then return none
  let some (etype, offset) ← readTags header 2 (← readUint16 header 12) 14
    | return none
  let ip ← readSlice header offset header.length
  if etype = etherTypeIPv4 then readIPv4 ip frameLength
  else if etype = etherTypeIPv6 then readIPv6 ip frameLength
  else return none

lemma readPorts_eq (ip : List UInt8) (proto : UInt8) (offset : Nat) :
    readPorts ip proto offset = some (portsAt ip proto offset) := by
  rw [readPorts, portsAt]
  split_ifs with there
  · simp only [Bool.and_eq_true, decide_eq_true_eq] at there
    rw [readUint16_eq (by omega), readUint16_eq (by omega)]
    rfl
  · rfl

lemma readIPv4_eq (ip : List UInt8) (frameLength : Nat) :
    readIPv4 ip frameLength = some (parseIPv4 ip frameLength) := by
  rw [readIPv4, parseIPv4]
  by_cases short : ip.length < 20
  · simp [short]
  · rw [readByte_eq (by omega), readByte_eq (by omega),
      readSlice_eq (by omega) (by omega), readSlice_eq (by omega) (by omega),
      readUint16_eq (by omega)]
    have long : 4 ≤ ip.length := by omega
    simp only [readPorts_eq, short, false_or, long, and_true, bind_eq_bind, bind_some]
    generalize (byteAt ip 0 &&& 0x0F).toNat * 4 = ihl
    by_cases version : byteAt ip 0 >>> 4 = 4
    · by_cases sized : ihl < 20 ∨ ip.length < ihl
      · simp [version, sized]
      · by_cases known : frameLength = 0 <;> simp [version, sized, known]
    · simp [version]

lemma readExtensions_eq (ip : List UInt8) (budget : Nat) (nextHeader : UInt8) (offset : Nat) :
    readExtensions ip budget nextHeader offset =
      some (skipExtensions ip budget nextHeader offset) := by
  induction budget generalizing nextHeader offset with
  | zero => rfl
  | succ budget ih =>
    rw [readExtensions, skipExtensions]
    split_ifs with options short fragment shortFragment authentication shortAuthentication
    · rfl
    · rw [readByte_eq (by omega), readByte_eq (by omega)]
      simp only [bind_eq_bind, bind_some]
      split_ifs
      · rfl
      · exact ih _ _
    · rfl
    · rw [readByte_eq (by omega)]
      exact ih _ _
    · rfl
    · rw [readByte_eq (by omega), readByte_eq (by omega)]
      simp only [bind_eq_bind, bind_some]
      split_ifs
      · rfl
      · exact ih _ _
    · rfl

lemma readIPv6_eq (ip : List UInt8) (frameLength : Nat) :
    readIPv6 ip frameLength = some (parseIPv6 ip frameLength) := by
  rw [readIPv6, parseIPv6]
  by_cases short : ip.length < 40
  · simp [short]
  · rw [readByte_eq (by omega), readByte_eq (by omega),
      readSlice_eq (by omega) (by omega), readSlice_eq (by omega) (by omega),
      readUint16_eq (by omega)]
    have long : 6 ≤ ip.length := by omega
    simp only [readPorts_eq, readExtensions_eq, short, false_or, long, and_true]
    by_cases version : byteAt ip 0 >>> 4 = 6
    · cases skipped : skipExtensions ip 8 (byteAt ip 6) 40 with
      | none => simp [version, skipped]
      | some found =>
        by_cases known : frameLength = 0 <;>
          simp [version, known, skipped]
    · simp [version]

lemma readTags_eq (header : List UInt8) (budget etype offset : Nat) :
    readTags header budget etype offset = some (skipTags header budget etype offset) := by
  induction budget generalizing etype offset with
  | zero => rfl
  | succ budget ih =>
    rw [readTags, skipTags]
    split_ifs
    · rfl
    · rfl
    · rw [readUint16_eq (by omega)]
      exact ih _ _

/-- The tags end within the bytes. -/
lemma le_of_skipTags (inside : offset ≤ header.length)
    (skipped : skipTags header budget etype offset = some found) : found.2 ≤ header.length := by
  induction budget generalizing etype offset with
  | zero =>
    cases skipped
    exact inside
  | succ budget ih =>
    rw [skipTags] at skipped
    split_ifs at skipped
    · cases skipped
      exact inside
    · exact ih (by omega) skipped

/-- No read is out of bounds, and the parser finds what the model says. -/
lemma readSampledHeader_eq (header : List UInt8) (frameLength : Nat) :
    readSampledHeader header frameLength = some (parseSampledHeader header frameLength) := by
  rw [readSampledHeader, parseSampledHeader]
  by_cases short : header.length < 14
  · simp [short]
  · rw [readUint16_eq (by omega)]
    simp only [readTags_eq, short, if_false, bind_eq_bind, bind_some]
    cases skipped : skipTags header 2 (uint16At header 12) 14 with
    | none => rfl
    | some found =>
      have inside := le_of_skipTags (by omega) skipped
      simp only [readSlice_eq inside le_rfl, readIPv4_eq, readIPv6_eq,
        slice, take_of_length_le, length_drop, le_refl,
        bind_some]
      split_ifs <;> rfl

/-! ## Longer bytes -/

/-- A flow of a frame and that of its first bytes. -/
structure ParsedFlow.Extends (flow whole : ParsedFlow) : Prop where
  bytes : flow.bytes = whole.bytes
  srcAddr : flow.srcAddr = whole.srcAddr
  dstAddr : flow.dstAddr = whole.dstAddr
  etype : flow.etype = whole.etype
  proto : flow.proto = whole.proto
  ports : (flow.srcPort, flow.dstPort) = (whole.srcPort, whole.dstPort) ∨
    (flow.srcPort, flow.dstPort) = (0, 0)

section

variable {ip header : List UInt8} (rest : List UInt8)

lemma portsAt_append (proto : UInt8) (offset : Nat) :
    portsAt ip proto offset = portsAt (ip ++ rest) proto offset ∨
      portsAt ip proto offset = (0, 0) := by
  unfold portsAt
  by_cases there : offset + 4 ≤ ip.length
  · have longer : offset + 4 ≤ (ip ++ rest).length := by
      rw [length_append]
      omega
    rw [uint16At_append_left rest (by omega), uint16At_append_left rest (by omega)]
    simp only [there, longer, true_or]
  · simp [there]

lemma skipExtensions_append (skipped : skipExtensions ip budget nextHeader offset = some found) :
    skipExtensions (ip ++ rest) budget nextHeader offset = some found := by
  induction budget generalizing nextHeader offset with
  | zero => exact skipped
  | succ budget ih =>
    have longer : (ip ++ rest).length = ip.length + rest.length := length_append
    rw [skipExtensions] at skipped ⊢
    simp only at skipped ⊢
    split_ifs at skipped with options short behind fragment short authentication short behind
    · rw [if_pos options, if_neg (by omega), byteAt_append_left rest (by omega),
        byteAt_append_left rest (by omega), if_neg (by omega)]
      exact ih skipped
    · rw [if_neg options, if_pos fragment, if_neg (by omega), byteAt_append_left rest (by omega)]
      exact ih skipped
    · rw [if_neg options, if_neg fragment, if_pos authentication,
        if_neg (by omega), byteAt_append_left rest (by omega),
        byteAt_append_left rest (by omega), if_neg (by omega)]
      exact ih skipped
    · rw [if_neg options, if_neg fragment, if_neg authentication]
      exact skipped

lemma skipTags_append (skipped : skipTags header budget etype offset = some found) :
    skipTags (header ++ rest) budget etype offset = some found := by
  induction budget generalizing etype offset with
  | zero => exact skipped
  | succ budget ih =>
    have longer : (header ++ rest).length = header.length + rest.length := length_append
    rw [skipTags] at skipped ⊢
    split_ifs at skipped with plain short
    · rw [if_pos plain]
      exact skipped
    · rw [if_neg plain, if_neg (by omega), uint16At_append_left rest (by omega)]
      exact ih skipped

lemma parseIPv4_append (parsed : parseIPv4 ip frameLength = some flow) :
    ∃ whole, parseIPv4 (ip ++ rest) frameLength = some whole ∧ flow.Extends whole := by
  have longer : (ip ++ rest).length = ip.length + rest.length := length_append
  rw [parseIPv4] at parsed ⊢
  by_cases refused : ip.length < 20 ∨ byteAt ip 0 >>> 4 ≠ 4
  · cases (if_pos refused).symm.trans parsed
  rw [if_neg refused] at parsed
  rw [byteAt_append_left rest (by omega), if_neg (by grind)]
  simp only at parsed ⊢
  by_cases short : (byteAt ip 0 &&& 0x0F).toNat * 4 < 20 ∨
    ip.length < (byteAt ip 0 &&& 0x0F).toNat * 4
  · cases (if_pos short).symm.trans parsed
  rw [if_neg short] at parsed
  rw [if_neg (by omega), byteAt_append_left rest (by omega), uint16At_append_left rest (by omega),
    slice_append_left rest (by omega) (by omega),
    slice_append_left rest (by omega) (by omega)]
  obtain rfl := some.inj parsed
  exact ⟨_, rfl, rfl, rfl, rfl, rfl, rfl, portsAt_append rest _ _⟩

lemma parseIPv6_append (parsed : parseIPv6 ip frameLength = some flow) :
    ∃ whole, parseIPv6 (ip ++ rest) frameLength = some whole ∧ flow.Extends whole := by
  rw [parseIPv6] at parsed ⊢
  by_cases refused : ip.length < 40 ∨ byteAt ip 0 >>> 4 ≠ 6
  · cases (if_pos refused).symm.trans parsed
  rw [if_neg refused] at parsed
  rw [byteAt_append_left rest (by omega), if_neg (by grind)]
  cases skipped : skipExtensions ip 8 (byteAt ip 6) 40 with
  | none => simp [skipped] at parsed
  | some found =>
    rw [skipped] at parsed
    rw [byteAt_append_left rest (by omega), skipExtensions_append rest skipped,
      uint16At_append_left rest (by omega),
      slice_append_left rest (by omega) (by omega),
      slice_append_left rest (by omega) (by omega)]
    obtain rfl := some.inj parsed
    exact ⟨_, rfl, rfl, rfl, rfl, rfl, rfl, portsAt_append rest _ _⟩

lemma parseSampledHeader_append (parsed : parseSampledHeader header frameLength = some flow) :
    ∃ whole, parseSampledHeader (header ++ rest) frameLength = some whole ∧ flow.Extends whole := by
  have longer : (header ++ rest).length = header.length + rest.length := length_append
  rw [parseSampledHeader] at parsed ⊢
  split_ifs at parsed with short
  cases skipped : skipTags header 2 (uint16At header 12) 14 with
  | none => simp [skipped] at parsed
  | some found =>
    have inside := le_of_skipTags (by omega) skipped
    rw [if_neg (by omega), uint16At_append_left rest (by omega), skipTags_append rest skipped]
    simp only [skipped] at parsed
    simp only [drop_append_of_le_length inside]
    split_ifs at parsed ⊢ with isIPv4 isIPv6
    · exact parseIPv4_append rest parsed
    · exact parseIPv6_append rest parsed

end

/--
Neither the first bytes of a frame nor the whole frame are read out of bounds,
and what is found in the first bytes is found in the whole frame, up to ports
which the first bytes do not have.
-/
theorem truncation_harmless (whole start : List UInt8) (frameLength : Nat)
    (truncated : start <+: whole) :
    readSampledHeader start frameLength ≠ none ∧ readSampledHeader whole frameLength ≠ none ∧
      ∀ flow, readSampledHeader start frameLength = some (some flow) →
        ∃ flow', readSampledHeader whole frameLength = some (some flow') ∧ flow.Extends flow' := by
  obtain ⟨rest, rfl⟩ := truncated
  simp only [readSampledHeader_eq, Option.some.injEq]
  exact ⟨Option.some_ne_none _, Option.some_ne_none _, fun flow => parseSampledHeader_append rest⟩

/-- A frame with an IPv4 header of a TCP segment, cut before the ports. -/
def frameWithoutPorts : List UInt8 :=
  List.replicate 12 0 ++ [8, 0, 0x45] ++ List.replicate 8 0 ++ [6] ++ List.replicate 10 0

theorem truncation_harmless_without_ports :
    ∃ flow flow', readSampledHeader frameWithoutPorts 64 = some (some flow) ∧
      readSampledHeader (frameWithoutPorts ++ [0, 1, 0, 2]) 64 =
        some (some flow') ∧ flow.Extends flow' := by
  have accepted : (readSampledHeader frameWithoutPorts 64).join.isSome := by decide +kernel
  obtain ⟨flow, accepted⟩ := Option.isSome_iff_exists.mp accepted
  have parsed := Option.join_eq_some_iff.mp accepted
  have harmless := truncation_harmless _ _ 64 (prefix_append frameWithoutPorts [0, 1, 0, 2])
  obtain ⟨flow', parsed', extended⟩ := harmless.2.2 flow parsed
  exact ⟨flow, flow', parsed, parsed', extended⟩

end Unifabric.Sflow
