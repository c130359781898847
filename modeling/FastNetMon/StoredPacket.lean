/-
FastNetMon/StoredPacket.lean

Raw packets, from the collectors to the buckets (`fixed_size_packet_storage.hpp`, and
`walk_block` of `afpacket_collector.cpp`).

A collector hands on how many bytes it captured at the payload pointer, and a bucket stores a
copy of them with that number.  The collectors for sFlow and AF_PACKET never claim more bytes
than there are; the copy ends after 2048 bytes, but the number that is stored with it does not.
Main result: `storedPacket_faithful_iff`.
-/
import FastNetMon.SflowSampled
import FastNetMon.PacketBucket

namespace FastNetMon

open Std Memory

/-! ### AF_PACKET -/

/-- `tpacket3_hdr`, the fields that are looked at, in the order of the host. -/
structure Tpacket3Hdr where
  tpNextOffset : UInt32
  tpSnaplen : UInt32
  tpMac : UInt16

/-- The header at address `p`. -/
def readTpacket3Hdr (m : Memory) (p : ℕ) : Except Fault Tpacket3Hdr := do
  let tpNextOffset ← m.read32 p
  let tpSnaplen ← m.read32 (p + 12)
  let tpMac ← m.read16 (p + 24)
  return ⟨tpNextOffset, tpSnaplen, tpMac⟩

/-- What the collector takes from the configuration and the clock. -/
structure AfPacketContext where
  mirrorAfPacketCustomSamplingRate : UInt32 := 1
  afPacketReadPacketLengthFromIpHeader : Bool := false
  currentInaccurateTime : Int64 := 0

/-- The loop of `walk_block` over the packets of a block, of which `left` are left; gives the
packets that are handed to the core. -/
def walkBlock (context : AfPacketContext) (m : Memory) :
    (left ppd : ℕ) → Except Fault (List ParsedPacket)
  | 0, _ => .ok []
  | left + 1, ppd => do
      let header ← readTpacket3Hdr m ppd
      let (result, packet) ← parseRawPacketToSimplePacketFull m (ppd + header.tpMac.toNat)
        header.tpSnaplen.toInt32 header.tpSnaplen.toInt32
        { source := .mirror
          arrivalTime := context.currentInaccurateTime
          sampleRatio := if context.mirrorAfPacketCustomSamplingRate > 1 then
            context.mirrorAfPacketCustomSamplingRate else 1 }
        { readPacketLengthFromIpHeader := context.afPacketReadPacketLengthFromIpHeader }
      let packets ← walkBlock context m left (ppd + header.tpNextOffset.toNat)
      return if result = .success then packet :: packets else packets

/-! ### What was captured -/

/-- The bytes between the payload pointer of a packet and the end of its capture. -/
def ParsedPacket.bytesBefore (packet : ParsedPacket) (captureEnd : ℕ) : ℕ :=
  match packet.payloadPointer with
  | none => 0
  | some payloadPointer => captureEnd - payloadPointer

/-- No more bytes are claimed than were captured. -/
def CapturedBefore (captureEnd : ℕ) (packet : ParsedPacket) : Prop :=
  packet.capturedPayloadLength.toInt ≤ packet.bytesBefore captureEnd

/-- A frame that the parser accepts is not longer than any signed length. -/
theorem parseRawPacket_capturedLength {m : Memory} {pointer : ℕ}
    {lengthBeforeSampling capturedLength : Int32} {packet after : ParsedPacket}
    {parserOptions : ParserOptions}
    (h : parseRawPacketToSimplePacketFull m pointer lengthBeforeSampling capturedLength packet
      parserOptions = .ok (.success, after)) :
    0 ≤ capturedLength.toInt := by
  rw [parseRawPacketToSimplePacketFull] at h
  split at h
  · cases h
  · omega

/-- A frame is handed on with as many bytes as the kernel delivers. -/
theorem parseRawPacket_captured {m : Memory} {pointer : ℕ} {snaplen : UInt32}
    {packet after : ParsedPacket} {parserOptions : ParserOptions}
    (h : parseRawPacketToSimplePacketFull m pointer snaplen.toInt32 snaplen.toInt32 packet
      parserOptions = .ok (.success, after)) :
    after.payloadPointer = some pointer ∧ after.capturedPayloadLength.toInt = snaplen.toNat := by
  have hnonneg := parseRawPacket_capturedLength h
  obtain ⟨fault, hfault⟩ | ⟨code, patch, hpatch, hparse⟩ :=
    patchesHeader_parseRawPacket m pointer snaplen.toInt32 parserOptions snaplen.toInt32
  · cases h.symm.trans (hfault packet)
  · obtain ⟨rfl, rfl⟩ := Prod.mk.inj (Except.ok.inj ((hparse packet).symm.trans h))
    obtain ⟨hpointer, hcaptured⟩ := (hpatch rfl).payload packet
    refine ⟨hpointer, ?_⟩
    have hcond := BitVec.toInt_eq_toNat_cond snaplen.toBitVec
    have hint : snaplen.toInt32.toInt = snaplen.toBitVec.toInt := rfl
    have hnat : snaplen.toBitVec.toNat = snaplen.toNat := rfl
    have hlt := snaplen.toNat_lt
    rw [hcaptured, hint]
    rw [hint] at hnonneg
    split at hcond <;> omega

/-- Every packet of a block stands at its frame, with the bytes of the frame. -/
theorem walkBlock_captured {context : AfPacketContext} {m : Memory} {left ppd : ℕ}
    {packets : List ParsedPacket} (h : walkBlock context m left ppd = .ok packets)
    {packet : ParsedPacket} (hmem : packet ∈ packets) :
    ∃ ppd header, readTpacket3Hdr m ppd = .ok header ∧
      packet.payloadPointer = some (ppd + header.tpMac.toNat) ∧
      packet.capturedPayloadLength.toInt = header.tpSnaplen.toNat := by
  induction left generalizing ppd packets with
  | zero =>
    obtain rfl : [] = packets := Except.ok.inj h
    cases hmem
  | succ left ih =>
    simp only [walkBlock, bind_eq_ok_iff, pure_eq_ok_iff] at h
    obtain ⟨header, hheader, ⟨result, first⟩, hparse, rest, hrest, rfl⟩ := h
    by_cases hresult : result = .success
    · subst hresult
      rw [if_pos rfl] at hmem
      obtain rfl | hmem := List.mem_cons.mp hmem
      · exact ⟨ppd, header, hheader, parseRawPacket_captured hparse⟩
      · exact ih hrest hmem
    · rw [if_neg hresult] at hmem
      exact ih hrest hmem

/-! ### sFlow -/

/-- What every step of a loop preserves holds at its end. -/
theorem foldlM_preserves {α β : Type} {f : β → α → Except Fault β} {good : β → Prop}
    {xs : List α} {b after : β}
    (hstep : ∀ b, ∀ a ∈ xs, ∀ next, good b → f b a = .ok next → good next) (hb : good b)
    (h : xs.foldlM f b = .ok after) : good after := by
  induction xs generalizing b with
  | nil =>
    obtain rfl := Except.ok.inj h
    exact hb
  | cons a xs ih =>
    rw [List.foldlM_cons, bind_eq_ok_iff] at h
    obtain ⟨next, hnext, hrest⟩ := h
    have hgood := hstep b a List.mem_cons_self next hb hnext
    exact ih (fun b a hmem => hstep b a (List.mem_cons_of_mem _ hmem)) hgood hrest

variable {context : SflowContext} {m : Memory}

/-- The records of a flow sample of either form. -/
def IsRecordOf (m : Memory) (sample : SampleTuple) (record : RecordTuple) : Prop :=
  ∃ expanded header records,
    readSflowSampleHeaderUnified m sample.dataBlockStart sample.sampleLength.toNat expanded
      = .ok header ∧
    getRecords m sample.region.stop header.numberOfFlowRecords.toNat
      (sample.dataBlockStart + header.originalPayloadLength) = .ok records ∧
    record ∈ records

/-- The packet claims bytes of the header in one of these records, and no others. -/
def CapturedIn (isRecord : RecordTuple → Prop) (packet : ParsedPacket) : Prop :=
  packet.payloadPointer = none ∧ packet.capturedPayloadLength = 0 ∨
    ∃ record, isRecord record ∧ packet.payloadPointer = some (record.dataPtr + 16) ∧
      CapturedBefore record.region.stop packet

/-- A record of a sample ends inside the sample. -/
theorem IsRecordOf.stop_le {sample : SampleTuple} {record : RecordTuple}
    (h : IsRecordOf m sample record) : record.region.stop ≤ sample.region.stop := by
  obtain ⟨expanded, header, records, -, hrecords, hmem⟩ := h
  exact ((getRecords_spec hrecords).1.inside (List.mem_map_of_mem hmem)).2

theorem CapturedBefore.mono {stop stop' : ℕ} {packet : ParsedPacket}
    (h : CapturedBefore stop packet) (hle : stop ≤ stop') : CapturedBefore stop' packet := by
  refine h.trans (Int.ofNat_le.mpr ?_)
  rw [ParsedPacket.bytesBefore, ParsedPacket.bytesBefore]
  split
  · exact le_rfl
  · exact Nat.sub_le_sub_right hle _

/-- What is claimed of a record ends where all of them have ended. -/
theorem CapturedIn.before {isRecord : RecordTuple → Prop} {packet : ParsedPacket} {stop : ℕ}
    (h : CapturedIn isRecord packet) (hstop : ∀ record, isRecord record → record.region.stop ≤ stop) :
    CapturedBefore stop packet := by
  obtain ⟨-, hnone⟩ | ⟨record, hrecord, -, hcaptured⟩ := h
  · rw [CapturedBefore, hnone]
    exact Int.natCast_nonneg _
  · exact hcaptured.mono (hstop record hrecord)

/-- A sampled header ends inside its record. -/
theorem processRawPacketHeader_captured {sampleHeader : SflowSampleHeader}
    {packet after : ParsedPacket} {record : RecordTuple}
    (h : processRawPacketHeader context m sampleHeader packet record = .ok after) :
    after.payloadPointer = some (record.dataPtr + 16) ∧
      CapturedBefore record.region.stop after := by
  simp only [processRawPacketHeader, bind_eq_ok_iff, rejectIf_eq_ok_iff, pure_eq_ok_iff] at h
  obtain ⟨-, hnonneg, -, hsize, raw, -, -, havailable, -, -, -, -, rfl⟩ := h
  have hlength : 0 ≤ record.elementLength.toInt := by
    rw [Int32.lt_iff_toInt_lt] at hnonneg
    simpa using hnonneg
  have hfits := headerSize_fits hlength hsize havailable
  have hlt := Int32.toInt_lt record.elementLength
  refine ⟨rfl, ?_⟩
  show raw.headerSize.toInt32.toInt
    ≤ ((record.dataPtr + record.elementLength.toInt.toNat - (record.dataPtr + 16) : ℕ) : ℤ)
  rw [toInt_toInt32 (by omega)]
  omega

/-- The packet of a flow sample claims bytes of one of its records only. -/
theorem processSflowFlowSample_captured {sample : SampleTuple} {expanded : Bool}
    {packet : ParsedPacket}
    (h : processSflowFlowSample context m sample.dataBlockStart sample.sampleLength.toNat expanded
      = .ok packet) : CapturedIn (IsRecordOf m sample) packet := by
  simp only [processSflowFlowSample, bind_eq_ok_iff] at h
  obtain ⟨header, hheader, -, -, -, -, records, hrecords, hfold⟩ := h
  refine foldlM_preserves (fun before record hmem after hbefore hstep => ?_) ?_ hfold
  · rw [processFlowRecord] at hstep
    split at hstep
    · exact .inr ⟨record, ⟨expanded, header, records, hheader, hrecords, hmem⟩,
        processRawPacketHeader_captured hstep⟩
    · split at hstep
      · rw [processExtendedGatewayData_same hstep]
        exact hbefore
      · obtain rfl := Except.ok.inj hstep
        exact hbefore
  · exact .inl ⟨rfl, rfl⟩

/-- What is not rejected is there. -/
theorem mem_unlessRejected {α : Type} {x : Except Fault α} {xs : List α} {a : α}
    (h : unlessRejected x = .ok xs) (hmem : a ∈ xs) : x = .ok a := by
  cases x with
  | ok b =>
    obtain rfl : [b] = xs := Except.ok.inj h
    rw [List.mem_singleton.mp hmem]
  | error fault =>
    cases fault with
    | rejected =>
      obtain rfl : [] = xs := Except.ok.inj h
      cases hmem
    | outOfBounds => cases h
    | outOfFuel => cases h

/-- What a sample hands to the core claims bytes of its records. -/
theorem processSample_captured {sample : SampleTuple} {packets : List ParsedPacket}
    (h : processSample context m sample = .ok packets) {packet : ParsedPacket}
    (hmem : packet ∈ packets) : CapturedIn (IsRecordOf m sample) packet := by
  rw [processSample] at h
  split at h
  · obtain rfl := Except.ok.inj h
    cases hmem
  · split at h
    · exact processSflowFlowSample_captured (mem_unlessRejected h hmem)
    · simp only [bind_eq_ok_iff, pure_eq_ok_iff] at h
      obtain ⟨-, -, rfl⟩ := h
      cases hmem
    · exact processSflowFlowSample_captured (mem_unlessRejected h hmem)
    · obtain rfl := Except.ok.inj h
      cases hmem
    · obtain rfl := Except.ok.inj h
      cases hmem

/-- Every packet of a datagram comes from one of its samples, and claims bytes of a record of
this sample. -/
theorem parseSflowV5Packet_captured {datagram : ByteString} {packets : List ParsedPacket}
    (h : parseSflowV5Packet context (ofBytes datagram) 0 datagram.length = .ok packets)
    {packet : ParsedPacket} (hmem : packet ∈ packets) :
    ∃ samples sample, readSflowSamples (ofBytes datagram) 0 datagram.length = .ok samples ∧
      sample ∈ samples ∧ CapturedIn (IsRecordOf (ofBytes datagram) sample) packet := by
  rw [parseSflowV5Packet] at h
  split at h
  · rename_i samples hsamples
    have hall : ∀ packet ∈ packets, ∃ sample ∈ samples,
        CapturedIn (IsRecordOf (ofBytes datagram) sample) packet := by
      refine @foldlM_preserves _ _ _ (fun handed : List ParsedPacket => ∀ packet ∈ handed,
          ∃ sample ∈ samples, CapturedIn (IsRecordOf (ofBytes datagram) sample) packet) _ _ _
        (fun handed sample hsample next hhanded hstep => ?_)
        (fun packet hmem => absurd hmem List.not_mem_nil) h
      simp only [bind_eq_ok_iff, pure_eq_ok_iff] at hstep
      obtain ⟨yielded, hyielded, rfl⟩ := hstep
      intro packet hpacket
      obtain hpacket | hpacket := List.mem_append.mp hpacket
      · exact hhanded packet hpacket
      · exact ⟨sample, hsample, processSample_captured hyielded hpacket⟩
    obtain ⟨sample, hsample, hcaptured⟩ := hall packet hmem
    exact ⟨samples, sample, hsamples, hsample, hcaptured⟩
  · obtain rfl := Except.ok.inj h
    cases hmem
  · cases h

/-- A sample of a datagram ends inside the datagram. -/
theorem sample_stop_le {datagram : ByteString} {samples : List SampleTuple}
    (h : readSflowSamples (ofBytes datagram) 0 datagram.length = .ok samples)
    {sample : SampleTuple} (hmem : sample ∈ samples) : sample.region.stop ≤ datagram.length := by
  have hreadable : (ofBytes datagram).Readable 0 (0 + datagram.length) := by
    rw [Nat.zero_add]
    exact readable_ofBytes datagram
  obtain ⟨header, -, -, -, -, hconsecutive, -⟩ := (readSflowSamples_spec hreadable).2 samples h
  rw [← Nat.zero_add datagram.length]
  exact (hconsecutive.inside (List.mem_map_of_mem hmem)).2

/-! ### What is stored -/

/-- The stored form of a packet whose captured bytes are `captured`: as many bytes as it says,
at most 2048, all from the beginning of the capture, and not more than the packet had. -/
structure StoredFaithfully (packet : SimplePacket) (captured : ByteString)
    (raw : FixedSizePacketStorage) : Prop where
  copied : raw.inclLen.toNat = raw.packetPayload.length
  bound : raw.inclLen ≤ 2048
  bytes : raw.packetPayload = captured.take raw.inclLen.toNat
  original : packet.capturedPayloadLength.toInt ≤ packet.payloadFullLength.toNat →
    raw.inclLen ≤ raw.origLen

/-- When the stored form of a packet is faithful. -/
theorem storedFaithfully_iff {packet : SimplePacket} {captured : ByteString}
    {raw : FixedSizePacketStorage} (hpointer : packet.payloadPointer = some captured)
    (hraw : packet.rawPacket = some raw) :
    StoredFaithfully packet captured raw ↔
      packet.capturedPayloadLength ≤ 2048 ∧
        packet.capturedPayloadLength.toInt ≤ captured.length := by
  rw [SimplePacket.rawPacket, hpointer] at hraw
  simp only at hraw
  split at hraw
  case isFalse => cases hraw
  case isTrue hpositive =>
    obtain rfl := Option.some_injective _ hraw
    have hnonneg : 0 ≤ packet.capturedPayloadLength := Int32.le_of_lt hpositive
    have hincl := Int32.toNat_toUInt32_of_le hnonneg
    have hint := Int32.cast_toNatClampNeg _ hnonneg
    generalize packet.capturedPayloadLength.toNatClampNeg = n at hincl hint
    have hsmall : packet.capturedPayloadLength ≤ 2048 ↔ n ≤ 2048 := by
      rw [Int32.le_iff_toInt_le, ← hint]
      exact Int.ofNat_le
    rw [hsmall, ← hint, Int.ofNat_le]
    constructor
    · intro h
      have hcopied : _ = (captured.take (min _ 2048)).length := h.copied
      rw [List.length_take, hincl] at hcopied
      omega
    · rintro ⟨hbound, hlength⟩
      refine ⟨?_, ?_, ?_, fun horiginal => ?_⟩
      · show _ = (captured.take (min _ 2048)).length
        rw [List.length_take, hincl]
        omega
      · rw [UInt32.le_iff_toNat_le]
        exact hincl.trans_le hbound
      · show captured.take (min _ 2048) = captured.take _
        rw [hincl, min_eq_left hbound]
      · rw [UInt32.le_iff_toNat_le]
        show packet.capturedPayloadLength.toUInt32.toNat ≤ packet.payloadFullLength.toNat
        omega

/-- What `add_packet_to_storage` does with a packet that has a raw form. -/
theorem addPacketToStorage_raw {κ : Type} [Ord κ] [TransOrd κ] {s : PacketBucketsStorage κ}
    {clientIp : κ} {packet : SimplePacket} {now : Int} {raw : FixedSizePacketStorage}
    (hraw : packet.rawPacket = some raw)
    (hadded : (s.addPacketToStorage clientIp packet now).1 = true) :
    ∃ bucket bucket', s.packetBucketsMap[clientIp]? = some bucket ∧
      (s.addPacketToStorage clientIp packet now).2.packetBucketsMap[clientIp]? = some bucket' ∧
      bucket'.rawPacketsCircularBuffer = bucket.rawPacketsCircularBuffer.pushBack raw := by
  cases hbucket : s.packetBucketsMap[clientIp]? with
  | none =>
    simp only [PacketBucketsStorage.addPacketToStorage, hbucket] at hadded
    cases hadded
  | some bucket =>
    simp only [PacketBucketsStorage.addPacketToStorage, hbucket] at hadded ⊢
    split at hadded
    · rename_i hreceives
      rw [if_pos hreceives]
      refine ⟨bucket, _, rfl, ExtTreeMap.getElem?_insert_self, ?_⟩
      simp only [PacketBucket.pushPacket, hraw]
      rw [PacketBucket.closeIfNearOverflow]
      split <;> rfl
    · cases hadded

/-- **When stored packets are faithful.**  A packet of the sFlow collector claims no more bytes
than there are behind its payload pointer, in the record that it was taken from, and one of the
AF_PACKET collector no more than there are in its frame; what a bucket stores of a packet is
faithful exactly if at most 2048 bytes were captured, no more being claimed than there are. -/
theorem storedPacket_faithful_iff (κ : Type) [Ord κ] [TransOrd κ] :
    (∀ (context : SflowContext) (datagram : ByteString) (packets : List ParsedPacket),
      parseSflowV5Packet context (ofBytes datagram) 0 datagram.length = .ok packets →
      ∀ packet ∈ packets, CapturedBefore datagram.length packet ∧
        ∃ samples sample, readSflowSamples (ofBytes datagram) 0 datagram.length = .ok samples ∧
          sample ∈ samples ∧ CapturedIn (IsRecordOf (ofBytes datagram) sample) packet) ∧
    (∀ (context : AfPacketContext) (m : Memory) (left ppd : ℕ) (packets : List ParsedPacket),
      walkBlock context m left ppd = .ok packets →
      ∀ packet ∈ packets, ∃ ppd header, readTpacket3Hdr m ppd = .ok header ∧
        packet.payloadPointer = some (ppd + header.tpMac.toNat) ∧
        CapturedBefore (ppd + header.tpMac.toNat + header.tpSnaplen.toNat) packet) ∧
    ∀ (s : PacketBucketsStorage κ) (clientIp : κ) (packet : SimplePacket) (now : Int)
      (captured : ByteString) (raw : FixedSizePacketStorage),
      packet.payloadPointer = some captured → packet.rawPacket = some raw →
      (s.addPacketToStorage clientIp packet now).1 = true →
      (∃ bucket bucket', s.packetBucketsMap[clientIp]? = some bucket ∧
        (s.addPacketToStorage clientIp packet now).2.packetBucketsMap[clientIp]? = some bucket' ∧
        bucket'.rawPacketsCircularBuffer = bucket.rawPacketsCircularBuffer.pushBack raw) ∧
      (StoredFaithfully packet captured raw ↔
        packet.capturedPayloadLength ≤ 2048 ∧
          packet.capturedPayloadLength.toInt ≤ captured.length) := by
  refine ⟨fun context datagram packets h packet hmem => ?_,
    fun context m left ppd packets h packet hmem => ?_,
    fun s clientIp packet now captured raw hpointer hraw hadded =>
      ⟨addPacketToStorage_raw hraw hadded, storedFaithfully_iff hpointer hraw⟩⟩
  · obtain ⟨samples, sample, hsamples, hsample, hcaptured⟩ := parseSflowV5Packet_captured h hmem
    have hbefore : CapturedBefore datagram.length packet :=
      hcaptured.before fun _ hrecord => hrecord.stop_le.trans (sample_stop_le hsamples hsample)
    exact ⟨hbefore, samples, sample, hsamples, hsample, hcaptured⟩
  obtain ⟨ppd, header, hheader, hpointer, hcaptured⟩ := walkBlock_captured h hmem
  refine ⟨ppd, header, hheader, hpointer, ?_⟩
  rw [CapturedBefore, hcaptured, ParsedPacket.bytesBefore, hpointer]
  show (header.tpSnaplen.toNat : ℤ) ≤ ((_ + header.tpSnaplen.toNat - _ : ℕ) : ℤ)
  rw [Nat.add_sub_cancel_left]

/-- A packet of 60 bytes, of which 28 were captured. -/
def udpPacketOf28Bytes : SimplePacket where
  payloadPointer := some udpPacket
  capturedPayloadLength := 28
  payloadFullLength := 60

/-- A packet that a bucket has room for. -/
theorem storedPacket_faithful_iff_small :
    ∃ raw, udpPacketOf28Bytes.rawPacket = some raw ∧
      StoredFaithfully udpPacketOf28Bytes udpPacket raw := by
  refine ⟨_, rfl, ?_⟩
  have hstored := (storedPacket_faithful_iff UInt32).2.2
    { packetBucketsMap := (∅ : ExtTreeMap UInt32 PacketBucket compare).insert 7 {} } 7
    udpPacketOf28Bytes 0 udpPacket _ rfl rfl rfl
  exact hstored.2.mpr (by decide)

/-- A frame of 3000 bytes. -/
def jumboFrame : ByteString :=
  ethernetFrame (.replicate 6 1) (.replicate 6 2) 2048 udpPacket ++ List.replicate 2958 0

/-- A block with one frame of 3000 bytes, and what stands before it. -/
def jumboBlock : ByteString :=
  List.replicate 12 0 ++ [184, 11, 0, 0, 184, 11, 0, 0, 0, 0, 0, 0, 82, 0] ++
    List.replicate 56 0 ++ jumboFrame

/-- The bytes of a packet at its payload pointer. -/
def ParsedPacket.withPayload (packet : ParsedPacket) (captured : ByteString) : SimplePacket where
  payloadPointer := packet.payloadPointer.map fun _ => captured
  capturedPayloadLength := packet.capturedPayloadLength
  payloadFullLength := packet.payloadFullLength
  fields := { packet with }

/-- A frame of 3000 bytes is stored with that length, and with 2048 bytes. -/
theorem storedPacket_jumboBlock :
    ¬ ∀ (context : AfPacketContext) (block : ByteString) (left ppd : ℕ)
      (packets : List ParsedPacket) (packet : ParsedPacket) (captured : ByteString)
      (raw : FixedSizePacketStorage),
      walkBlock context (ofBytes block) left ppd = .ok packets → packet ∈ packets →
      (∃ payloadPointer, packet.payloadPointer = some payloadPointer ∧
        (ofBytes block).Holds payloadPointer captured) →
      packet.capturedPayloadLength.toInt = captured.length →
      (packet.withPayload captured).rawPacket = some raw →
      StoredFaithfully (packet.withPayload captured) captured raw := by
  intro hfaithful
  have hlength : jumboFrame.length = 3000 := by
    rw [jumboFrame, List.length_append, length_ethernetFrame, List.length_replicate]
    rfl
  have hfaithful := hfaithful {} jumboBlock 1 0 [_] _ jumboFrame _ rfl List.mem_cons_self
    ⟨82, rfl, holds_ofBytes_iff.mpr (List.prefix_rfl)⟩ (by rw [hlength]; rfl) rfl
  exact absurd hfaithful.bound (by decide)

end FastNetMon
