/-
FastNetMon/SflowSampled.lean

What the packet of a flow sample says, against the sampled headers of the sample.

One packet is filled from all records of a flow sample and handed to the core behind the last
one, whether or not a sampled header was among them.  Where there are several, the last one
sets the addresses and the lengths, and ports that it does not have stay as an earlier one left
them.  The length of the frame is passed on as a signed number.  Main result: the samples
whose packet is that of their sampled header (`flowSample_sampled_iff`).
-/
import FastNetMon.PacketParserAgreement
import FastNetMon.PacketPatch
import FastNetMon.SflowBounds
import FastNetMon.SflowHeaders

namespace FastNetMon

open Memory

/-! ### Sampled headers -/

/-- A raw packet header record. -/
def RecordTuple.isRawPacketHeader (record : RecordTuple) : Bool := record.elementType = 1

variable (context : SflowContext) (m : Memory)

/-- The nested parser, for the sampled header of a record. -/
def parseRecord (record : RecordTuple) (packet : ParsedPacket) : Parsed := do
  let rawProtocolHeader ← readSflowRawProtocolHeader m record.dataPtr
  parseSampledHeader context m rawProtocolHeader (record.dataPtr + 16) packet

/-- The packet is that of the sampled header of a record: the nested parser takes the header,
and addresses, ports and length are those of a packet that holds nothing else. -/
def IsSampledPacket (record : RecordTuple) (packet : ParsedPacket) : Prop :=
  ∃ rawProtocolHeader view,
    readSflowRawProtocolHeader m record.dataPtr = .ok rawProtocolHeader ∧
    parseRecord context m record {} = .ok (.success, view) ∧
    SameAddresses packet view ∧ packet.ports = view.ports ∧
    packet.length.toNat = (if context.sflowReadPacketLengthFromIpHeader then view.length.toNat
      else rawProtocolHeader.frameLengthBeforeSampling.toNat) ∧
    packet.capturedPayloadLength.toInt ≤ record.elementLength.toInt

/-- The records of a sample have a sampled header, and the packet is that of the last one. -/
def EmitsSampledPacket (records : List RecordTuple) (packet : ParsedPacket) : Prop :=
  ∃ headers record, records.filter RecordTuple.isRawPacketHeader = headers ++ [record] ∧
    IsSampledPacket context m record packet

/-! ### Ports -/

/-- The sampled header of a record has no ports to set. -/
def LeavesPorts (record : RecordTuple) : Prop :=
  ∀ packet after, parseRecord context m record packet = .ok (.success, after) →
    after.ports = packet.ports

/-- The sampled header of a record has ports that are not both zero. -/
def HasPorts (record : RecordTuple) : Prop :=
  ∃ view, parseRecord context m record {} = .ok (.success, view) ∧ view.ports ≠ (0, 0)

/-- The ports of one of the headers show behind the last one. -/
def PortsShow (headers : List RecordTuple) : Prop :=
  ∃ before record behind, headers = before ++ record :: behind ∧ HasPorts context m record ∧
    ∀ later ∈ behind, LeavesPorts context m later

theorem not_portsShow_nil : ¬ PortsShow context m [] := by
  rintro ⟨before, record, behind, hsplit, -⟩
  exact List.append_ne_nil_of_right_ne_nil before (List.cons_ne_nil record behind) hsplit.symm

theorem portsShow_concat (headers : List RecordTuple) (record : RecordTuple) :
    PortsShow context m (headers ++ [record]) ↔
      HasPorts context m record ∨ (LeavesPorts context m record ∧ PortsShow context m headers) := by
  constructor
  · rintro ⟨before, shown, behind, hsplit, hports, hleave⟩
    induction behind using List.reverseRecOn with
    | nil =>
      obtain ⟨-, hlast⟩ := List.append_inj' hsplit rfl
      obtain rfl := List.cons.inj hlast |>.1
      exact .inl hports
    | append_singleton behind later _ =>
      rw [← List.cons_append, ← List.append_assoc] at hsplit
      obtain ⟨rfl, hlast⟩ := List.append_inj' hsplit rfl
      obtain rfl := List.cons.inj hlast |>.1
      exact .inr ⟨hleave record (by simp), before, shown, behind, rfl, hports,
        fun later hmem => hleave later (by simp [hmem])⟩
  · rintro (hports | ⟨hleave, before, shown, behind, rfl, hports, hleave'⟩)
    · exact ⟨headers, record, [], rfl, hports, fun later hmem => absurd hmem List.not_mem_nil⟩
    · refine ⟨before, shown, behind ++ [record], by simp, hports, fun later hmem => ?_⟩
      obtain hmem | hmem := List.mem_append.mp hmem
      · exact hleave' later hmem
      · rwa [List.mem_singleton.mp hmem]

/-! ### One record -/

/-- The packet behind the sampled header of a record, apart from its ports. -/
structure HeaderRead (record : RecordTuple) (packet : ParsedPacket)
    (rawProtocolHeader : SflowRawProtocolHeader) (view : ParsedPacket) : Prop where
  raw : readSflowRawProtocolHeader m record.dataPtr = .ok rawProtocolHeader
  accepted : parseRecord context m record {} = .ok (.success, view)
  addresses : SameAddresses packet view
  length : packet.length = view.length
  lengthBeforeSampling : context.sflowReadPacketLengthFromIpHeader = false →
    view.length = .ofInt rawProtocolHeader.frameLengthBeforeSampling.toInt32.toInt
  captured : packet.capturedPayloadLength.toInt ≤ record.elementLength.toInt
  ports : ¬ LeavesPorts context m record → packet.ports = view.ports

/-- What has been read of the sampled headers so far. -/
structure SampledSoFar (headers : List RecordTuple) (packet : ParsedPacket) : Prop where
  ports : packet.ports ≠ (0, 0) ↔ PortsShow context m headers
  last : ∀ before record, headers = before ++ [record] →
    ∃ rawProtocolHeader view, HeaderRead context m record packet rawProtocolHeader view

variable {context m}

/-- The choice of the parser does not look at the packet either. -/
theorem patchesHeader_parseSampledHeader (rawProtocolHeader : SflowRawProtocolHeader)
    (headerPayloadPointer : ℕ) :
    PatchesHeader headerPayloadPointer rawProtocolHeader.frameLengthBeforeSampling.toInt32
      { readPacketLengthFromIpHeader := context.sflowReadPacketLengthFromIpHeader }
      (parseSampledHeader context m rawProtocolHeader headerPayloadPointer) := by
  show PatchesHeader _ _ _ fun packet =>
    parseSampledHeader context m rawProtocolHeader headerPayloadPointer packet
  unfold parseSampledHeader
  exact patches_ite (fun _ => patchesHeader_parseRawPacket ..) fun _ =>
    patches_ite (fun _ => patchesHeader_parseRawIpv4Packet ..) fun _ =>
      patches_of_error fun _ => rfl

/-- A sampled header that is taken. -/
theorem sampledSoFar_concat {sampleHeader : SflowSampleHeader} {headers : List RecordTuple}
    {record : RecordTuple} {packet after : ParsedPacket}
    (h : SampledSoFar context m headers packet)
    (hrun : processRawPacketHeader context m sampleHeader packet record = .ok after) :
    SampledSoFar context m (headers ++ [record]) after := by
  simp only [processRawPacketHeader, bind_eq_ok_iff, rejectIf_eq_ok_iff, pure_eq_ok_iff] at hrun
  obtain ⟨-, hnonneg, -, hsize, raw, hraw, -, havailable, ⟨code, filled⟩, hparse, -, hcode,
    rfl⟩ := hrun
  obtain rfl : code = .success := not_not.mp hcode
  have hrecord : ∀ packet, parseRecord context m record packet
      = parseSampledHeader context m raw (record.dataPtr + 16) packet := fun packet => by
    rw [parseRecord, hraw, ok_bind]
  obtain ⟨fault, hfault⟩ | ⟨code, patch, hpatch, hpatched⟩ :=
    @patchesHeader_parseSampledHeader context m raw (record.dataPtr + 16)
  · exact absurd (hparse.symm.trans (hfault packet)) (by simp)
  · obtain ⟨rfl, rfl⟩ := Prod.mk.inj (Except.ok.inj ((hpatched packet).symm.trans hparse))
    have hheader := hpatch rfl
    have hview : parseRecord context m record {} = .ok (.success, patch {}) :=
      (hrecord {}).trans (hpatched {})
    have hlength : 0 ≤ record.elementLength.toInt := by
      rw [Int32.lt_iff_toInt_lt] at hnonneg
      simpa using hnonneg
    have hfits := headerSize_fits hlength hsize havailable
    have hcaptured : raw.headerSize.toInt32.toInt ≤ record.elementLength.toInt := by
      have hle := Int32.toInt_lt record.elementLength
      rw [toInt_toInt32 (by omega)]
      omega
    have hleaves : (∀ packet, (patch packet).ports = packet.ports) →
        LeavesPorts context m record := by
      intro hkept packet' after hafter
      obtain ⟨-, rfl⟩ := Prod.mk.inj
        (Except.ok.inj ((hpatched packet').symm.trans ((hrecord packet').symm.trans hafter)))
      exact hkept packet'
    constructor
    · rw [portsShow_concat]
      show (patch packet).ports ≠ (0, 0) ↔ _
      obtain hkept | ⟨ports, hset⟩ := hheader.ports
      · -- the header has no ports
        have hleave := hleaves hkept
        have hnone : ¬ HasPorts context m record := by
          rintro ⟨view, hparse, hports⟩
          exact hports (hleave {} view hparse)
        rw [hkept, h.ports, or_iff_right hnone, and_iff_right hleave]
      · -- the header sets the ports, whatever they were
        have hsets : ¬ LeavesPorts context m record := by
          intro hleave
          have hsame := hleave { sourcePort := ports.1 + 1 } _
            ((hrecord _).trans (hpatched _))
          rw [hset] at hsame
          exact absurd (congrArg Prod.fst hsame) (by simp [ParsedPacket.ports])
        rw [hset, or_iff_left fun hboth => hsets hboth.1, HasPorts]
        constructor
        · exact fun hports => ⟨patch {}, hview, by rwa [hset]⟩
        · rintro ⟨view, hparse, hports⟩
          obtain ⟨-, rfl⟩ := Prod.mk.inj (Except.ok.inj (hview.symm.trans hparse))
          rwa [hset] at hports
    · intro before record' hsplit
      obtain ⟨-, hlast⟩ := List.append_inj' hsplit rfl
      obtain rfl := (List.cons.inj hlast).1
      refine ⟨raw, patch {}, hraw, hview, hheader.addresses packet {}, hheader.length packet {},
        fun hoption => hheader.lengthBeforeSampling hoption {}, hcaptured, fun hsets => ?_⟩
      obtain hkept | ⟨ports, hset⟩ := hheader.ports
      · exact absurd (hleaves hkept) hsets
      · exact (hset packet).trans (hset {}).symm

/-- A record that is no sampled header changes nothing of what it says. -/
theorem SampledSoFar.of_eq {headers : List RecordTuple} {packet after : ParsedPacket}
    (h : SampledSoFar context m headers packet)
    (hsame : after = { packet with srcAsn := after.srcAsn, dstAsn := after.dstAsn }) :
    SampledSoFar context m headers after := by
  rw [hsame]
  refine ⟨h.ports, fun before record hsplit => ?_⟩
  obtain ⟨raw, view, hread⟩ := h.last before record hsplit
  exact ⟨raw, view, hread.raw, hread.accepted, hread.addresses, hread.length,
    hread.lengthBeforeSampling, hread.captured, hread.ports⟩

theorem processExtendedGatewayData_same {record : RecordTuple} {packet after : ParsedPacket}
    (h : processExtendedGatewayData m packet record = .ok after) :
    after = { packet with srcAsn := after.srcAsn, dstAsn := after.dstAsn } := by
  simp only [processExtendedGatewayData, bind_eq_ok_iff, rejectIf_eq_ok_iff] at h
  obtain ⟨-, -, _, -, h⟩ := h
  split at h
  · simp only [bind_eq_ok_iff, pure_eq_ok_iff] at h
    obtain ⟨_, -, _, -, _, -, rfl⟩ := h
    rfl
  · obtain rfl := Except.ok.inj h
    rfl

/-- What the loop over the records has read. -/
theorem sampledSoFar_foldlM {sampleHeader : SflowSampleHeader} {records headers : List RecordTuple}
    {packet after : ParsedPacket} (h : SampledSoFar context m headers packet)
    (hrun : records.foldlM (processFlowRecord context m sampleHeader) packet = .ok after) :
    SampledSoFar context m (headers ++ records.filter RecordTuple.isRawPacketHeader) after := by
  induction records generalizing headers packet with
  | nil =>
    obtain rfl := Except.ok.inj hrun
    rwa [List.filter_nil, List.append_nil]
  | cons record records ih =>
    rw [List.foldlM_cons, bind_eq_ok_iff] at hrun
    obtain ⟨next, hstep, hrest⟩ := hrun
    rw [processFlowRecord] at hstep
    by_cases hraw : record.elementType = 1
    · rw [if_pos hraw] at hstep
      rw [List.filter_cons_of_pos (by simpa [RecordTuple.isRawPacketHeader] using hraw),
        List.append_cons]
      exact ih (sampledSoFar_concat h hstep) hrest
    · rw [if_neg hraw] at hstep
      rw [List.filter_cons_of_neg (by simpa [RecordTuple.isRawPacketHeader] using hraw)]
      split at hstep
      · exact ih (h.of_eq (processExtendedGatewayData_same hstep)) hrest
      · obtain rfl := Except.ok.inj hstep
        exact ih h hrest

/-! ### Main result -/

/-- A length that went through a signed number is the length if that number is not negative. -/
theorem toNat_ofInt_toInt32 (length : UInt32) :
    (UInt64.ofInt length.toInt32.toInt).toNat = length.toNat ↔ length.toNat < 2 ^ 31 := by
  have hlt := length.toNat_lt
  have hcond := BitVec.toInt_eq_toNat_cond length.toBitVec
  have hint : length.toInt32.toInt = length.toBitVec.toInt := rfl
  have hnat : length.toBitVec.toNat = length.toNat := rfl
  rw [hint, UInt64.ofInt, UInt64.toNat_ofNat']
  split at hcond <;> omega

/-- **When a flow sample is handed on as its sampled header.**  This is so exactly if the
sample has a sampled header, the frame length of the last one is below `2^31` or the length is
taken from the IP header, and no ports of an earlier one show behind the last one. -/
theorem flowSample_sampled_iff (context : SflowContext) (m : Memory)
    (dataPointer dataLength : ℕ) (expanded : Bool) {sampleHeader : SflowSampleHeader}
    {records : List RecordTuple} {packet : ParsedPacket}
    (hheader : readSflowSampleHeaderUnified m dataPointer dataLength expanded = .ok sampleHeader)
    (hrecords : getRecords m (dataPointer + dataLength) sampleHeader.numberOfFlowRecords.toNat
      (dataPointer + sampleHeader.originalPayloadLength) = .ok records)
    (hrun : processSflowFlowSample context m dataPointer dataLength expanded = .ok packet) :
    EmitsSampledPacket context m records packet ↔
      ∃ headers record, records.filter RecordTuple.isRawPacketHeader = headers ++ [record] ∧
        (context.sflowReadPacketLengthFromIpHeader = true ∨
          ∃ rawProtocolHeader,
            readSflowRawProtocolHeader m record.dataPtr = .ok rawProtocolHeader ∧
            rawProtocolHeader.frameLengthBeforeSampling.toNat < 2 ^ 31) ∧
        ¬ (LeavesPorts context m record ∧ PortsShow context m headers) := by
  have hsofar : SampledSoFar context m (records.filter RecordTuple.isRawPacketHeader) packet := by
    rw [processSflowFlowSample, hheader, ok_bind] at hrun
    simp only [bind_eq_ok_iff] at hrun
    obtain ⟨-, -, -, -, records', hrecords', hfold⟩ := hrun
    obtain rfl := Except.ok.inj (hrecords.symm.trans hrecords')
    have hfresh : SampledSoFar context m [] { source := .sflow
                                              arrivalTime := context.currentInaccurateTime
                                              agentIpv4Address := context.clientIpv4Address } := by
      refine ⟨iff_of_false (fun h => h rfl) (not_portsShow_nil context m), ?_⟩
      intro before record hsplit
      exact absurd hsplit.symm (List.append_ne_nil_of_right_ne_nil _ (List.cons_ne_nil _ _))
    exact sampledSoFar_foldlM hfresh hfold
  rw [EmitsSampledPacket]
  refine exists_congr fun headers => exists_congr fun record => and_congr_right fun hsplit => ?_
  obtain ⟨raw, view, hread⟩ := hsofar.last headers record hsplit
  have hports := hsofar.ports
  rw [hsplit, portsShow_concat] at hports
  have hsame : packet.ports = view.ports ↔
      ¬ (LeavesPorts context m record ∧ PortsShow context m headers) := by
    by_cases hleave : LeavesPorts context m record
    · have hzero : view.ports = (0, 0) := hleave {} view hread.accepted
      have hnone : ¬ HasPorts context m record := by
        rintro ⟨view', hparse, hne⟩
        exact hne (hleave {} view' hparse)
      rw [hzero, ← not_iff_not, not_not]
      exact hports.trans (or_iff_right hnone)
    · exact iff_of_true (hread.ports hleave) fun hboth => hleave hboth.1
  have hlength : (packet.length.toNat
      = if context.sflowReadPacketLengthFromIpHeader then view.length.toNat
        else raw.frameLengthBeforeSampling.toNat) ↔
      context.sflowReadPacketLengthFromIpHeader = true ∨
        raw.frameLengthBeforeSampling.toNat < 2 ^ 31 := by
    rw [hread.length]
    cases hoption : context.sflowReadPacketLengthFromIpHeader with
    | true => exact iff_of_true (by simp) (.inl rfl)
    | false =>
      rw [hread.lengthBeforeSampling hoption, if_neg Bool.false_ne_true, toNat_ofInt_toInt32]
      simp
  constructor
  · rintro ⟨raw', view', hraw, hview, -, hequal, hlengths, -⟩
    obtain rfl := Except.ok.inj (hread.raw.symm.trans hraw)
    obtain ⟨-, rfl⟩ := Prod.mk.inj (Except.ok.inj (hread.accepted.symm.trans hview))
    refine ⟨(hlength.mp hlengths).imp_right fun hsmall => ⟨raw, hread.raw, hsmall⟩, hsame.mp hequal⟩
  · rintro ⟨hsmall, hnone⟩
    refine ⟨raw, view, hread.raw, hread.accepted, hread.addresses, hsame.mpr hnone,
      hlength.mpr (hsmall.imp_right ?_), hread.captured⟩
    rintro ⟨raw', hraw, hlt⟩
    obtain rfl := Except.ok.inj (hread.raw.symm.trans hraw)
    exact hlt

/-- A sample of a UDP packet without an Ethernet header. -/
def udpSample : Memory :=
  ofBytes (vlanSample.compactHeader ++ networkWords [1, 44, 11, 28, 0, 28] ++ udpPacket)

theorem flowSample_sampled_iff_udpSample :
    ∃ sampleHeader records packet,
      readSflowSampleHeaderUnified udpSample 0 84 false = .ok sampleHeader ∧
      getRecords udpSample (0 + 84) sampleHeader.numberOfFlowRecords.toNat
        (0 + sampleHeader.originalPayloadLength) = .ok records ∧
      processSflowFlowSample {} udpSample 0 84 false = .ok packet ∧
      EmitsSampledPacket {} udpSample records packet := by
  obtain ⟨sampleHeader, hheader⟩ :
      ∃ sampleHeader, readSflowSampleHeaderUnified udpSample 0 84 false = .ok sampleHeader :=
    ⟨_, rfl⟩
  obtain rfl := Except.ok.inj hheader
  refine ⟨_, [⟨1, 40, 44⟩], _, rfl, rfl, rfl, ?_⟩
  refine (flowSample_sampled_iff {} udpSample 0 84 false rfl rfl rfl).mpr ?_
  exact ⟨[], _, rfl, .inr ⟨_, rfl, by decide⟩, fun h => not_portsShow_nil _ _ h.2⟩

/-- A sample with one record, of a kind that is counted and left. -/
def switchSample : Memory := ofBytes (vlanSample.compactHeader ++ networkWords [1001, 0])

/-- A packet without addresses is handed on for a sample that has no sampled header. -/
theorem flowSample_without_header :
    ¬ ∀ (context : SflowContext) (m : Memory) (dataPointer dataLength : ℕ) (expanded : Bool)
      (sampleHeader : SflowSampleHeader) (records : List RecordTuple) (packet : ParsedPacket),
      readSflowSampleHeaderUnified m dataPointer dataLength expanded = .ok sampleHeader →
      getRecords m (dataPointer + dataLength) sampleHeader.numberOfFlowRecords.toNat
        (dataPointer + sampleHeader.originalPayloadLength) = .ok records →
      processSflowFlowSample context m dataPointer dataLength expanded = .ok packet →
      EmitsSampledPacket context m records packet := by
  intro hsampled
  obtain ⟨headers, record, hsplit, -⟩ :=
    hsampled {} switchSample 0 40 false _ [⟨1001, 40, 0⟩] _ rfl rfl rfl
  exact List.append_ne_nil_of_right_ne_nil headers (List.cons_ne_nil record []) hsplit.symm

end FastNetMon
