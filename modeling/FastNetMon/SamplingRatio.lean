/-
FastNetMon/SamplingRatio.lean

The sampling ratios of the packets that are handed to the core, over runs of the collectors of
NetFlow v5, NetFlow v9, IPFIX and sFlow.

sFlow takes the ratio from the header of a sample, NetFlow v5 from the header of a datagram, and
the other two from the stored rates.  A ratio of 0 gets through at two places: in a sample of
sFlow, and in a record of Netflow Lite.  Main result: without such samples and records, every
packet of a run has a ratio of at least 1 and no stored rate is 0; and a count-based sampler is
understood exactly if its numbers do not leave 32 bits (`samplingRatios_usable`).
-/
import FastNetMon.NetflowV5
import FastNetMon.SamplingRates
import FastNetMon.StoredPacket
import FastNetMon.Transition

namespace FastNetMon

open Memory Procedure

/-! ### sFlow -/

variable {context : SflowContext} {m : Memory} {packet after : ParsedPacket}
  {sampleHeader : SflowSampleHeader} {sample : SampleTuple}

/-- A raw packet header sets the ratio to that of the sample, other records leave it. -/
theorem processFlowRecord_sampleRatio {record : RecordTuple}
    (h : processFlowRecord context m sampleHeader packet record = .ok after) :
    after.sampleRatio
      = if record.isRawPacketHeader then sampleHeader.samplingRate else packet.sampleRatio := by
  rw [processFlowRecord] at h
  by_cases hraw : record.elementType = 1
  · have hkind : record.isRawPacketHeader = true := decide_eq_true hraw
    rw [if_pos hraw] at h
    rw [if_pos hkind]
    simp only [processRawPacketHeader, bind_eq_ok_iff, pure_eq_ok_iff] at h
    obtain ⟨-, -, -, -, raw, -, -, -, parsed, -, -, -, rfl⟩ := h
    rfl
  · have hkind : ¬ record.isRawPacketHeader = true := fun h => hraw (of_decide_eq_true h)
    rw [if_neg hraw] at h
    rw [if_neg hkind]
    split at h
    · rw [processExtendedGatewayData_same h]
    · obtain rfl := Except.ok.inj h
      rfl

/-- The ratio behind the records of a sample. -/
theorem foldlM_sampleRatio {records : List RecordTuple}
    (h : records.foldlM (processFlowRecord context m sampleHeader) packet = .ok after) :
    after.sampleRatio = if records.any RecordTuple.isRawPacketHeader then sampleHeader.samplingRate
      else packet.sampleRatio := by
  induction records generalizing packet with
  | nil =>
    obtain rfl := Except.ok.inj h
    rfl
  | cons record records ih =>
    rw [List.foldlM_cons, bind_eq_ok_iff] at h
    obtain ⟨next, hnext, hrest⟩ := h
    rw [ih hrest, processFlowRecord_sampleRatio hnext, List.any_cons]
    cases record.isRawPacketHeader with
    | true => simp
    | false => simp

/-- A flow sample, and whether it has the expanded header. -/
def SampleTuple.flowSampleKind (sample : SampleTuple) : Option Bool :=
  if sample.enterprise ≠ 0 then none
  else
    match sflowSampleTypeFromInteger sample.integerFormat with
    | .flowSample => some false
    | .expandedFlowSample => some true
    | _ => none

/-- A flow sample with a raw packet header, unless it is turned down, has a sampling rate. -/
def SampleRatioUsable (context : SflowContext) (m : Memory) (sample : SampleTuple) : Prop :=
  let dataLength := sample.sampleLength.toNat
  ∀ expanded sampleHeader records, sample.flowSampleKind = some expanded →
    readSflowSampleHeaderUnified m sample.dataBlockStart dataLength expanded = .ok sampleHeader →
    getRecords m (sample.dataBlockStart + dataLength) sampleHeader.numberOfFlowRecords.toNat
      (sample.dataBlockStart + sampleHeader.originalPayloadLength) = .ok records →
    records.any RecordTuple.isRawPacketHeader = true →
    processSflowFlowSample context m sample.dataBlockStart dataLength expanded
        = .error .rejected ∨
      sampleHeader.samplingRate ≠ 0

theorem processSflowFlowSample_usable {expanded : Bool}
    (hkind : sample.flowSampleKind = some expanded) (hsample : SampleRatioUsable context m sample)
    (h : processSflowFlowSample context m sample.dataBlockStart sample.sampleLength.toNat expanded
      = .ok packet) : 1 ≤ packet.sampleRatio := by
  have hrun := h
  simp only [processSflowFlowSample, bind_eq_ok_iff] at hrun
  obtain ⟨sampleHeader, hheader, -, -, -, -, records, hrecords, hfold⟩ := hrun
  rw [foldlM_sampleRatio hfold]
  split
  · rename_i hraw
    have husable := hsample expanded sampleHeader records hkind hheader hrecords hraw
    rw [h] at husable
    exact one_le_iff_ne_zero.mpr (husable.resolve_left (by simp))
  · show 1 ≤ (1 : UInt32)
    decide

theorem processSample_usable {packets : List ParsedPacket}
    (hsample : SampleRatioUsable context m sample)
    (h : processSample context m sample = .ok packets) :
    ∀ packet ∈ packets, 1 ≤ packet.sampleRatio := by
  intro packet hmem
  rw [processSample] at h
  split at h
  · obtain rfl := Except.ok.inj h
    cases hmem
  rename_i henterprise
  have hkind := SampleTuple.flowSampleKind.eq_def sample
  rw [if_neg henterprise] at hkind
  split at h
  · rename_i htype
    rw [htype] at hkind
    exact processSflowFlowSample_usable hkind hsample (mem_unlessRejected h hmem)
  · simp only [bind_eq_ok_iff, pure_eq_ok_iff] at h
    obtain ⟨-, -, rfl⟩ := h
    cases hmem
  · rename_i htype
    rw [htype] at hkind
    exact processSflowFlowSample_usable hkind hsample (mem_unlessRejected h hmem)
  · obtain rfl := Except.ok.inj h
    cases hmem
  · obtain rfl := Except.ok.inj h
    cases hmem

/-- The samples of a datagram are usable. -/
def SamplesUsable (context : SflowContext) (m : Memory) (payloadLength : ℕ) : Prop :=
  ∀ samples, readSflowSamples m 0 payloadLength = .ok samples →
    ∀ sample ∈ samples, SampleRatioUsable context m sample

/-- **A datagram of sFlow.** -/
theorem parseSflowV5Packet_usable {payloadLength : ℕ} {packets : List ParsedPacket}
    (hsamples : SamplesUsable context m payloadLength)
    (h : parseSflowV5Packet context m 0 payloadLength = .ok packets) :
    ∀ packet ∈ packets, 1 ≤ packet.sampleRatio := by
  rw [parseSflowV5Packet] at h
  split at h
  · rename_i samples hread
    refine @foldlM_preserves _ _ _ (fun handed : List ParsedPacket =>
      ∀ packet ∈ handed, 1 ≤ packet.sampleRatio) _ _ _
      (fun handed sample hmem next hhanded hstep => ?_)
      (fun packet hmem => absurd hmem List.not_mem_nil) h
    simp only [bind_eq_ok_iff, pure_eq_ok_iff] at hstep
    obtain ⟨yielded, hyielded, rfl⟩ := hstep
    rw [List.forall_mem_append]
    exact ⟨hhanded, processSample_usable (hsamples samples hread sample hmem) hyielded⟩
  · obtain rfl := Except.ok.inj h
    exact fun packet hmem => absurd hmem List.not_mem_nil
  · cases h

/-! ### Runs of the collectors -/

/-- The variables of the collectors; those of NetFlow v5 and sFlow keep nothing but the packets
that they handed over. -/
structure Collectors where
  netflow9 : CollectorState := {}
  ipfix : CollectorState := {}
  handed : List ParsedPacket := []

/-- The packets that were handed to the core. -/
def Collectors.packets (c : Collectors) : List ParsedPacket :=
  c.netflow9.emitted ++ c.ipfix.emitted ++ c.handed

/-- A datagram at one of the ports.  What stands behind one of NetFlow or IPFIX is left open. -/
inductive Datagram
  | netflow (context : NetflowContext) (packet : Memory) (packetLength : ℕ)
  | sflow (context : SflowContext) (payload : List UInt8)

/-- `process_netflow_packet`. -/
def processNetflowPacket (context : NetflowContext) (packet : Memory) (packetLength : ℕ)
    (c : Collectors) : Collectors :=
  match packet.readNtohs 0 with
  | .ok version =>
      if version = 5 then
        { c with handed := (processNetflowPacketV5 context packet packetLength c.handed).1 }
      else if version = 9 then
        { c with netflow9 := (processNetflowPacketV9 context packet packetLength c.netflow9).1 }
      else if version = 10 then
        { c with ipfix := (processIpfixPacket context packet packetLength c.ipfix).1 }
      else c
  | .error _ => c

/-- The collectors behind a datagram. -/
def receive (c : Collectors) : Datagram → Option Collectors
  | .netflow context packet packetLength =>
      some (processNetflowPacket context packet packetLength c)
  | .sflow context payload =>
      match parseSflowV5Packet context (ofBytes payload) 0 payload.length with
      | .ok packets => some { c with handed := c.handed ++ packets }
      -- the memory holds the datagram, so this does not occur
      | .error _ => some c

/-- The configured ratio is at least 1. -/
def Datagram.Configured : Datagram → Prop
  | .netflow context _ _ => 1 ≤ context.netflowSamplingRatio
  | .sflow _ _ => True

/-- No sample of sFlow and no record of Netflow Lite brings a ratio of 0. -/
def Datagram.RatiosUsable (c : Collectors) : Datagram → Prop
  | .netflow context packet packetLength =>
      packet.readNtohs 0 = .ok 9 →
        ∀ record ∈ netflow9DataRecords context packet packetLength c.netflow9,
          LiteRatioUsable record.1 record.2
  | .sflow context payload => SamplesUsable context (ofBytes payload) payload.length

/-- Every packet that was handed over has a ratio of at least 1, and no stored rate is 0. -/
structure Collectors.Usable (c : Collectors) : Prop where
  packets : ∀ packet ∈ c.packets, 1 ≤ packet.sampleRatio
  netflow9Rates : ∀ client rate, c.netflow9.samplingRates client = some rate → rate ≠ 0
  ipfixRates : ∀ client rate, c.ipfix.samplingRates client = some rate → rate ≠ 0

/-- What is kept by every datagram. -/
structure Collectors.Kept (c : Collectors) : Prop where
  netflow9 : c.netflow9.Usable
  ipfix : c.ipfix.Usable ∧ c.ipfix.templates.Every Template.IpfixSound
  handed : ∀ packet ∈ c.handed, 1 ≤ packet.sampleRatio

theorem kept_start : ({} : Collectors).Kept :=
  ⟨usable_start, ⟨usable_start, every_start _⟩, fun _ hmem => absurd hmem List.not_mem_nil⟩

theorem Collectors.Kept.usable {c : Collectors} (h : c.Kept) : c.Usable := by
  refine ⟨fun packet hmem => ?_, h.netflow9.rates, h.ipfix.1.rates⟩
  rw [Collectors.packets, List.mem_append, List.mem_append] at hmem
  obtain (hmem | hmem) | hmem := hmem
  · exact h.netflow9.emitted packet hmem
  · exact h.ipfix.1.emitted packet hmem
  · exact h.handed packet hmem

/-- A datagram of NetFlow or IPFIX. -/
theorem kept_processNetflowPacket {context : NetflowContext} {packetLength : ℕ} {c : Collectors}
    (h : c.Kept) (hratio : 1 ≤ context.netflowSamplingRatio)
    (hlite : m.readNtohs 0 = .ok 9 →
      ∀ record ∈ netflow9DataRecords context m packetLength c.netflow9,
        LiteRatioUsable record.1 record.2) :
    (processNetflowPacket context m packetLength c).Kept := by
  rw [processNetflowPacket]
  cases hversion : m.readNtohs 0 with
  | error fault => exact h
  | ok version =>
    dsimp only
    split
    · have hkeeps := preserves_processNetflowPacketV5 context
        (I := fun handed => ∀ packet ∈ handed, 1 ≤ packet.sampleRatio)
        (fun handed packet hpacket hhanded => List.forall_mem_append.mpr
          ⟨hhanded, List.forall_mem_singleton.mpr hpacket⟩) m packetLength
      exact ⟨h.netflow9, h.ipfix, (hkeeps c.handed h.handed).1⟩
    · split
      · rename_i hnine
        subst hnine
        exact ⟨usable_processNetflowPacketV9 hratio h.netflow9 (hlite hversion), h.ipfix, h.handed⟩
      · split
        · exact ⟨h.netflow9, usable_processIpfixPacket hratio h.ipfix, h.handed⟩
        · exact h

theorem kept_receive {c c' : Collectors} {d : Datagram} (h : c.Kept)
    (hd : d.Configured ∧ d.RatiosUsable c) (hstep : receive c d = some c') : c'.Kept := by
  cases d with
  | netflow context packet packetLength =>
    obtain rfl := Option.some.inj hstep
    exact kept_processNetflowPacket h hd.1 hd.2
  | sflow context payload =>
    rw [receive] at hstep
    split at hstep
    · rename_i packets hparse
      obtain rfl := Option.some.inj hstep
      refine ⟨h.netflow9, h.ipfix, List.forall_mem_append.mpr ⟨h.handed, ?_⟩⟩
      exact parseSflowV5Packet_usable hd.2 hparse
    · obtain rfl := Option.some.inj hstep
      exact h

/-- **Every flow has a usable sampling ratio, unless a sample of sFlow or a record of Netflow
Lite brings one of 0.**  In every run with a configured ratio of at least 1 and without such
samples and records, every packet that is handed over has a ratio of at least 1, and no stored
rate is 0.  Of the rates of count-based samplers, those that fit 32 bits are learned exactly if
the interval is 1 or the sum of space and interval fits 32 bits. -/
theorem samplingRatios_usable {datagrams : List Datagram} {c : Collectors}
    (h : Runs receive (fun c d => d.Configured ∧ d.RatiosUsable c) {} datagrams c) :
    c.Usable ∧
    ∀ context t m options, ipfixOptionsOf t m = .ok options → options.CountBased →
      ((options.countBasedRate < 2 ^ 32 → LearnsRate context t m options.countBasedRate) ↔
        options.samplingPacketInterval = 1 ∨
          options.samplingPacketSpace.toNat + options.samplingPacketInterval.toNat < 2 ^ 32) :=
  ⟨(h.invariant kept_receive kept_start).usable,
    fun _ _ _ _ hoptions hcount => learnsRate_of_fits_iff hoptions hcount⟩

/-! ### One datagram of each kind -/

/-- A datagram of NetFlow v5 with one flow, and the sampling rate 100. -/
def netflow5Datagram : List UInt8 :=
  [0, 5, 0, 1] ++ List.replicate 18 0 ++ [0x40, 100] ++ List.replicate 48 0

/-- A datagram of sFlow with one sample: a UDP packet, with a sampling rate. -/
def sflowDatagram (samplingRate : UInt32) : List UInt8 :=
  networkWords [5, 1, 0x0a000001, 0, 1, 0, 1] ++ networkWords [1, 84] ++
    networkWords [1, 3, samplingRate, 0, 0, 3, 4, 1] ++ networkWords [1, 44, 11, 28, 0, 28] ++
    udpPacket

/-- A template of Netflow Lite: packets observed, packets selected, and a frame. -/
def liteTemplate : List UInt8 :=
  netflow9Header 1 ++ [0, 0, 0, 20, 1, 0, 0, 3, 1, 0x3e, 0, 8, 1, 0x3f, 0, 8, 0, 104, 0, 47]

/-- A record of Netflow Lite: one packet observed, and two of it selected. -/
def liteRecord : List UInt8 :=
  netflow9Header 1 ++ [1, 0, 0, 67] ++ [0, 0, 0, 0, 0, 0, 0, 1] ++ [0, 0, 0, 0, 0, 0, 0, 2] ++
    taggedUdpFrame

/-- An options template of IPFIX for count-based samplers. -/
def countBasedTemplate : Template where
  templateId := 256
  numRecords := 3
  totalLength := 10
  records := [{ recordType := 304, recordLength := 2 }, { recordType := 305, recordLength := 4 },
    { recordType := 306, recordLength := 4 }]
  type := .options

/-- An options record of a count-based sampler. -/
def countBasedRecord (interval space : UInt32) : Memory :=
  ofBytes ([0, 1] ++ networkWords [interval, space])

set_option maxRecDepth 2000 in
theorem samplesUsable_sflowDatagram :
    SamplesUsable {} (ofBytes (sflowDatagram 1000)) (sflowDatagram 1000).length := by
  intro samples hread sample hmem expanded sampleHeader records hkind hheader _ _
  have hsamples : readSflowSamples (ofBytes (sflowDatagram 1000)) 0 (sflowDatagram 1000).length
      = .ok [⟨0, 1, 36, 84⟩] := by rfl
  obtain rfl := Except.ok.inj (hsamples.symm.trans hread)
  obtain rfl := List.mem_singleton.mp hmem
  obtain rfl : false = expanded := Option.some.inj hkind
  have hrate : (readSflowSampleHeaderUnified (ofBytes (sflowDatagram 1000)) 36 84 false).map
      SflowSampleHeader.samplingRate = .ok 1000 := by rfl
  rw [show readSflowSampleHeaderUnified (ofBytes (sflowDatagram 1000)) 36 84 false
    = .ok sampleHeader from hheader] at hrate
  rw [show sampleHeader.samplingRate = 1000 from Except.ok.inj hrate]
  exact .inr (by decide)

/-- The ratios of the packets that are handed over for one datagram and then another one. -/
def ratiosOf (d d' : Datagram) : Option (List UInt32) :=
  ((receive {} d).bind fun c => receive c d').map fun c => c.packets.map ParsedPacket.sampleRatio

theorem exists_of_ratiosOf {d d' : Datagram} {ratios : List UInt32}
    (h : ratiosOf d d' = some ratios) :
    ∃ c c', receive {} d = some c ∧ receive c d' = some c' ∧
      c'.packets.map ParsedPacket.sampleRatio = ratios := by
  obtain ⟨c', hbind, hratios⟩ := Option.map_eq_some_iff.mp h
  obtain ⟨c, hd, hd'⟩ := Option.bind_eq_some_iff.mp hbind
  exact ⟨c, c', hd, hd', hratios⟩

theorem samplingRatios_usable_switches :
    ∃ c, Runs receive (fun c d => d.Configured ∧ d.RatiosUsable c) {}
        [.netflow exporter (ofBytes netflow5Datagram) 72, .sflow {} (sflowDatagram 1000)] c ∧
      c.packets.map ParsedPacket.sampleRatio = [100, 1000] ∧ c.Usable ∧
      LearnsRate exporter countBasedTemplate (countBasedRecord 1 999) 1000 := by
  have hvalues : ratiosOf (.netflow exporter (ofBytes netflow5Datagram) 72)
      (.sflow {} (sflowDatagram 1000)) = some [100, 1000] := by decide +kernel
  obtain ⟨c, c', hd, hd', hratios⟩ := exists_of_ratiosOf hvalues
  have hconfigured : (Datagram.netflow exporter (ofBytes netflow5Datagram) 72).Configured :=
    show (1 : UInt32) ≤ 1 by decide
  have hruns : Runs receive (fun c d => d.Configured ∧ d.RatiosUsable c) {}
      [.netflow exporter (ofBytes netflow5Datagram) 72, .sflow {} (sflowDatagram 1000)] c' :=
    .head ⟨hconfigured, fun hnine => absurd hnine (by decide)⟩ hd
      (.head ⟨trivial, samplesUsable_sflowDatagram⟩ hd' (.refl _))
  obtain ⟨husable, hlearns⟩ := samplingRatios_usable hruns
  refine ⟨c', hruns, hratios, husable, ?_⟩
  exact (hlearns exporter countBasedTemplate (countBasedRecord 1 999) _ rfl ⟨rfl, by decide⟩).mpr
    (.inl rfl) (by decide)

theorem not_usable_of_ratio {c : Collectors} {ratios : List UInt32}
    (hratios : c.packets.map ParsedPacket.sampleRatio = ratios) (hzero : 0 ∈ ratios) :
    ¬ c.Usable := by
  intro husable
  rw [← hratios] at hzero
  obtain ⟨packet, hmem, hpacket⟩ := List.mem_map.mp hzero
  exact one_le_iff_ne_zero.mp (husable.packets packet hmem) hpacket

/-- A sample of sFlow with the sampling rate 0, a record of Netflow Lite with fewer packets
observed than selected, and a count-based sampler whose sum leaves 32 bits. -/
theorem samplingRatios_unusable :
    (∃ c, Runs receive (fun _ d => d.Configured) {}
        [.sflow {} (sflowDatagram 1000), .sflow {} (sflowDatagram 0)] c ∧ ¬ c.Usable) ∧
    (∃ c, Runs receive (fun _ d => d.Configured) {}
        [.netflow exporter (ofBytes liteTemplate) 40, .netflow exporter (ofBytes liteRecord) 87] c ∧
      ¬ c.Usable) ∧
    ∃ options, ipfixOptionsOf countBasedTemplate (countBasedRecord 2 4294967295) = .ok options ∧
      options.CountBased ∧ options.countBasedRate < 2 ^ 32 ∧
      ¬ LearnsRate exporter countBasedTemplate (countBasedRecord 2 4294967295)
        options.countBasedRate := by
  refine ⟨?_, ?_, _, rfl, ⟨rfl, by decide⟩, by decide, fun hlearns => ?_⟩
  · have hvalues : ratiosOf (.sflow {} (sflowDatagram 1000)) (.sflow {} (sflowDatagram 0))
        = some [1000, 0] := by decide +kernel
    obtain ⟨c, c', hd, hd', hratios⟩ := exists_of_ratiosOf hvalues
    exact ⟨c', .head trivial hd (.head trivial hd' (.refl _)),
      not_usable_of_ratio hratios (by decide)⟩
  · have hconfigured (payload : List UInt8) (length : ℕ) :
        (Datagram.netflow exporter (ofBytes payload) length).Configured :=
      show (1 : UInt32) ≤ 1 by decide
    have hvalues : ratiosOf (.netflow exporter (ofBytes liteTemplate) 40)
        (.netflow exporter (ofBytes liteRecord) 87) = some [0] := by decide +kernel
    obtain ⟨c, c', hd, hd', hratios⟩ := exists_of_ratiosOf hvalues
    exact ⟨c', .head (hconfigured _ _) hd (.head (hconfigured _ _) hd' (.refl _)),
      not_usable_of_ratio hratios (by decide)⟩
  · exact absurd ((learnsRate_iff rfl ⟨rfl, by decide⟩).mp hlearns) (by decide)

end FastNetMon
