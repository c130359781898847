/-
FastNetMon/SamplingRates.lean

The sampling rates that the collectors of NetFlow v9 and IPFIX keep, and the ratios of the
packets that they hand over.

A rate of 0 is never stored, and a packet starts with the stored rate of its exporter or the
configured one; no field of a record changes the ratio (`CollectorState.Usable`).  Only NetFlow
v9 sets it again, for the records of Netflow Lite: the quotient of two counters of the record,
which may be 0 (`LiteRatioUsable`).  IPFIX computes the rate of count-based samplers from a sum
of 32 bits (`learnsRate_iff`).
-/
import FastNetMon.NetflowV9Bounds
import FastNetMon.ReducedSize
import FastNetMon.IpfixStore

namespace FastNetMon

open Memory Procedure

/-! ### Usable ratios and rates -/

/-- Every packet that was handed over has a ratio of at least 1, and no stored rate is 0. -/
structure CollectorState.Usable (s : CollectorState) : Prop where
  emitted : ∀ packet ∈ s.emitted, 1 ≤ packet.sampleRatio
  rates : ∀ client rate, s.samplingRates client = some rate → rate ≠ 0

theorem one_le_iff_ne_zero {ratio : UInt32} : 1 ≤ ratio ↔ ratio ≠ 0 := by
  rw [UInt32.le_iff_toNat_le, ne_eq, ← UInt32.toNat_inj]
  exact Nat.one_le_iff_ne_zero

theorem usable_start : ({} : CollectorState).Usable :=
  ⟨fun packet hmem => absurd hmem List.not_mem_nil, fun client rate h => by cases h⟩

variable {context : NetflowContext} {timeSec sourceId : UInt32} {m : Memory} {t : Template}
  {s : CollectorState} {flow flow' : Flow} {records : List TemplateRecord} {record : TemplateRecord}

/-- What has no effect on the packets and the rates. -/
theorem CollectorState.Usable.of_eq {s' : CollectorState} (h : s.Usable)
    (hemitted : s'.emitted = s.emitted) (hrates : s'.samplingRates = s.samplingRates) :
    s'.Usable :=
  ⟨hemitted ▸ h.emitted, hrates ▸ h.rates⟩

theorem usable_storeTemplate : Preserves CollectorState.Usable (storeTemplate context sourceId t) :=
  keeps_modify fun _ hs => hs.of_eq rfl rfl

theorem usable_updateDeviceFlowTimeouts (deviceTimeouts : DeviceTimeouts) :
    Preserves CollectorState.Usable (updateDeviceFlowTimeouts context deviceTimeouts) := by
  refine preserves_ite (preserves_pure ()) (keeps_modify fun s hs => ?_)
  dsimp only
  split
  · exact hs.of_eq rfl rfl
  · split
    · exact hs
    · exact hs.of_eq rfl rfl

/-- The stored rates behind an update: a rate of 0 is ignored. -/
theorem samplingRates_updateSamplingRate (rate : UInt32) (s : CollectorState) :
    (updateSamplingRate context rate s).1.samplingRates
      = if rate = 0 then s.samplingRates
        else Function.update s.samplingRates context.clientAddressInStringFormat (some rate) := by
  rw [updateSamplingRate]
  split
  · rfl
  · rw [modify_run]
    dsimp only
    split
    · rfl
    · rename_i oldSamplingRate hold
      split
      · rfl
      · rename_i hsame
        obtain rfl := not_not.mp hsame
        exact (Function.update_eq_self_iff.mpr hold.symm).symm

theorem emitted_updateSamplingRate (rate : UInt32) (s : CollectorState) :
    (updateSamplingRate context rate s).1.emitted = s.emitted := by
  rw [updateSamplingRate]
  split
  · rfl
  · rw [modify_run]
    dsimp only
    split
    · rfl
    · split <;> rfl

/-- How a procedure ends is left open. -/
theorem preserves_of_run {α : Type} {I : CollectorState → Prop} {p : Collect α}
    (h : ∀ s, I s → I (p s).1) : Preserves I p :=
  fun s hs => ⟨h s hs, (keeps_any p s trivial).2⟩

theorem usable_updateSamplingRate (rate : UInt32) :
    Preserves CollectorState.Usable (updateSamplingRate context rate) := by
  refine preserves_of_run fun s hs => ?_
  by_cases hzero : rate = 0
  · rw [updateSamplingRate, if_pos hzero]
    exact hs
  refine ⟨by rw [emitted_updateSamplingRate]; exact hs.emitted, ?_⟩
  intro client stored hstored
  rw [samplingRates_updateSamplingRate, if_neg hzero, Function.update_apply] at hstored
  split at hstored
  · obtain rfl := Option.some.inj hstored
    exact hzero
  · exact hs.rates client stored hstored

/-- A packet starts with a usable ratio. -/
theorem keeps_freshPacket (hratio : 1 ≤ context.netflowSamplingRatio) :
    Keeps CollectorState.Usable (fun _ => True) (freshPacket context timeSec)
      fun packet => 1 ≤ packet.sampleRatio := by
  refine keeps_get.bind fun s hs => keeps_pure ?_
  show 1 ≤ (s.samplingRates context.clientAddressInStringFormat).getD context.netflowSamplingRatio
  cases hrate : s.samplingRates context.clientAddressInStringFormat with
  | none => exact hratio
  | some rate => exact one_le_iff_ne_zero.mpr (hs.rates _ _ hrate)

theorem usable_processFunc {packets : List ParsedPacket}
    (h : ∀ packet ∈ packets, 1 ≤ packet.sampleRatio) :
    Preserves CollectorState.Usable (processFunc packets) := by
  refine keeps_modify fun s hs => ⟨fun packet hmem => ?_, hs.rates⟩
  obtain hmem | hmem := List.mem_append.mp hmem
  · exact hs.emitted packet hmem
  · exact h packet hmem

/-! ### Fields -/

section Fields

variable {recordType : ℕ} {rule : FieldRule Flow}

/-- No field changes the ratio of the packet. -/
theorem sharedFieldRule_keeps (h : sharedFieldRule recordType = some rule) (bytes : List UInt8)
    (flow : Flow) :
    (rule.store bytes flow).packet.sampleRatio = flow.packet.sampleRatio ∧
      (rule.store bytes flow).flowMeta.observedPackets = flow.flowMeta.observedPackets ∧
      (rule.store bytes flow).flowMeta.selectedPackets = flow.flowMeta.selectedPackets ∧
      (rule.store bytes flow).flowMeta.natEvent = flow.flowMeta.natEvent := by
  rw [sharedFieldRule.eq_def] at h
  split at h
  all_goals cases h
  all_goals simp only [FieldRule.upTo, FieldRule.ofLengths, onPacket, onMeta, and_self]

/-- The counters of Netflow Lite, and the mark of translated addresses, have their own fields. -/
theorem netflow9FieldRule_keeps (h : netflow9FieldRule recordType = some rule)
    (bytes : List UInt8) (flow : Flow) :
    (rule.store bytes flow).packet.sampleRatio = flow.packet.sampleRatio ∧
      (recordType ≠ 318 →
        (rule.store bytes flow).flowMeta.observedPackets = flow.flowMeta.observedPackets) ∧
      (recordType ≠ 319 →
        (rule.store bytes flow).flowMeta.selectedPackets = flow.flowMeta.selectedPackets) ∧
      (flow.flowMeta.natEvent = true → (rule.store bytes flow).flowMeta.natEvent = true) := by
  rw [netflow9FieldRule.eq_def] at h
  split at h
  case h_13 =>
    obtain ⟨hratio, hobserved, hselected, hnat⟩ := sharedFieldRule_keeps h bytes flow
    exact ⟨hratio, fun _ => hobserved, fun _ => hselected, fun hset => hnat.trans hset⟩
  all_goals cases h
  all_goals first
    | exact ⟨rfl, fun _ => rfl, fun _ => rfl, id⟩
    | exact ⟨rfl, fun _ => rfl, fun _ => rfl, fun _ => rfl⟩
    | exact ⟨rfl, fun hne => absurd rfl hne, fun _ => rfl, id⟩
    | exact ⟨rfl, fun _ => rfl, fun hne => absurd rfl hne, id⟩

theorem ipfixFieldRule_sampleRatio (h : ipfixFieldRule recordType = some rule)
    (bytes : List UInt8) (flow : Flow) :
    (rule.store bytes flow).packet.sampleRatio = flow.packet.sampleRatio := by
  rw [ipfixFieldRule.eq_def] at h
  split at h
  all_goals first
    | exact (sharedFieldRule_keeps h bytes flow).1
    | cases h
  all_goals rfl

/-- What every store of a rule keeps is kept by the rule. -/
theorem FieldRule.decode_keeps {P : Flow → Prop} {n : ℕ}
    (h : rule.decode m n flow = .ok flow') (hflow : P flow)
    (hstore : ∀ bytes, P (rule.store bytes flow)) : P flow' := by
  rw [FieldRule.decode] at h
  split at h
  · simp only [bind_eq_ok_iff, pure_eq_ok_iff] at h
    obtain ⟨bytes, -, rfl⟩ := h
    exact hstore bytes
  · obtain rfl := Except.ok.inj h
    exact hflow

/-- A field that a rule takes is stored. -/
theorem FieldRule.store_of_decode {n : ℕ} (haccepts : rule.accepts flow n = true)
    (h : rule.decode m n flow = .ok flow') :
    ∃ bytes, m.readBytes 0 n = .ok bytes ∧ flow' = rule.store bytes flow := by
  rw [FieldRule.decode, if_pos haccepts] at h
  simp only [bind_eq_ok_iff, pure_eq_ok_iff] at h
  obtain ⟨bytes, hbytes, rfl⟩ := h
  exact ⟨bytes, hbytes, rfl⟩

/-- A field that a rule does not take is passed over. -/
theorem FieldRule.eq_of_decode {n : ℕ} (hleft : rule.accepts flow n = false)
    (h : rule.decode m n flow = .ok flow') : flow' = flow := by
  rw [FieldRule.decode, hleft, if_neg Bool.false_ne_true] at h
  exact (Except.ok.inj h).symm

end Fields

/-! ### Netflow Lite -/

/-- The counters that the ratio of Netflow Lite is computed from. -/
inductive LiteCounter
  | observed
  | selected
deriving DecidableEq, Repr

namespace LiteCounter

/-- The field that carries the counter. -/
def recordType : LiteCounter → ℕ
  | observed => 318
  | selected => 319

/-- The counter in the meta information of a flow. -/
def get (flowMeta : NetflowMetaInfo) : LiteCounter → UInt64
  | observed => flowMeta.observedPackets
  | selected => flowMeta.selectedPackets

/-- What a field makes of the counter: one of eight bytes sets it. -/
def after (counter : LiteCounter) (m : Memory) (record : TemplateRecord) (old : UInt64) : UInt64 :=
  if record.recordType.toNat = counter.recordType ∧ record.recordLength.toNat = 8 then
    match m.readBytes 0 8 with
    | .ok bytes => .ofNat (bigEndian bytes)
    | .error _ => old
  else old

/-- The counter of a record: that of its last field, and 0 without one. -/
def last (counter : LiteCounter) (m : Memory) : List TemplateRecord → (offset : ℕ) →
    (old : UInt64) → UInt64
  | [], _, old => old
  | record :: records, offset, old =>
      last counter m records (offset + record.recordLength.toNat)
        (counter.after (m.shift offset) record old)

end LiteCounter

/-- The record has a field that says that addresses are translated. -/
def HasNatEvent (records : List TemplateRecord) : Prop :=
  ∃ record ∈ records, record.recordType.toNat = 230 ∧ record.recordLength.toNat = 1

instance (records : List TemplateRecord) : Decidable (HasNatEvent records) :=
  inferInstanceAs (Decidable (∃ record ∈ records, _ ∧ _))

/-- The loop over the fields of a record, without what it learns. -/
def netflow9DecodeFields (m : Memory) : List TemplateRecord → (offset : ℕ) → Flow →
    Except Fault Flow
  | [], _, flow => .ok flow
  | record :: records, offset, flow => do
      let flow ← netflow9DecodeField (m.shift offset) record flow
      netflow9DecodeFields m records (offset + record.recordLength.toNat) flow

/-- A section of layer 2 in the record is parsed, and its packet taken over. -/
def SectionParsed (m : Memory) (records : List TemplateRecord) : Prop :=
  ∃ packet flow, netflow9DecodeFields m records 0 { packet } = .ok flow ∧
    flow.flowMeta.nestedPacketParsed = true

/-- A record of Netflow Lite that is handed over has counters whose quotient is not 0 in 32 bits,
unless the counter of selected packets is 0. -/
def LiteRatioUsable (m : Memory) (records : List TemplateRecord) : Prop :=
  let observedPackets := LiteCounter.observed.last m records 0 0
  let selectedPackets := LiteCounter.selected.last m records 0 0
  HasNatEvent records ∨ ¬ SectionParsed m records ∨ selectedPackets = 0 ∨
    observedPackets.toNat / selectedPackets.toNat % 2 ^ 32 ≠ 0

theorem netflow9PacketSection_keeps {recordLength : UInt32}
    (h : netflow9PacketSection m recordLength flow = .ok flow') :
    flow'.packet = flow.packet ∧ flow'.flowMeta.observedPackets = flow.flowMeta.observedPackets ∧
      flow'.flowMeta.selectedPackets = flow.flowMeta.selectedPackets ∧
      flow'.flowMeta.natEvent = flow.flowMeta.natEvent := by
  simp only [netflow9PacketSection, bind_eq_ok_iff] at h
  obtain ⟨parsed, -, h⟩ := h
  split at h
  · obtain rfl := pure_eq_ok_iff.mp h
    exact ⟨rfl, rfl, rfl, rfl⟩
  · obtain rfl := pure_eq_ok_iff.mp h
    exact ⟨rfl, rfl, rfl, rfl⟩

/-- A property of the flow is kept by a field if it is kept by a section of layer 2 and by what
the rules store. -/
theorem netflow9DecodeField_keeps {P : Flow → Prop}
    (h : netflow9DecodeField m record flow = .ok flow') (hflow : P flow)
    (hsection : ∀ {recordLength next},
      netflow9PacketSection m recordLength flow = .ok next → P next)
    (hstore : ∀ {rule}, netflow9FieldRule record.recordType.toNat = some rule →
      ∀ bytes, P (rule.store bytes flow)) : P flow' := by
  rw [netflow9DecodeField] at h
  split at h
  · exact hsection h
  · split at h
    · rename_i rule hrule
      exact FieldRule.decode_keeps h hflow (hstore hrule)
    · obtain rfl := Except.ok.inj h
      exact hflow

theorem netflow9DecodeField_sampleRatio (h : netflow9DecodeField m record flow = .ok flow') :
    flow'.packet.sampleRatio = flow.packet.sampleRatio := by
  refine netflow9DecodeField_keeps
    (P := fun next => next.packet.sampleRatio = flow.packet.sampleRatio) h rfl ?_ ?_
  · intro recordLength next hnext
    rw [(netflow9PacketSection_keeps hnext).1]
  · intro rule hrule bytes
    exact (netflow9FieldRule_keeps hrule bytes flow).1

/-- A field with a rule of its own is decoded by it. -/
theorem netflow9DecodeField_of_rule {rule : FieldRule Flow}
    (hrule : netflow9FieldRule record.recordType.toNat = some rule)
    (hsection : record.recordType.toNat ≠ 104) :
    netflow9DecodeField m record flow = rule.decode m record.recordLength.toNat flow := by
  have hne : ¬ record.recordType = 104 := fun heq => hsection (by rw [heq]; rfl)
  rw [netflow9DecodeField, if_neg hne, hrule]

theorem netflow9DecodeField_natEvent (h : netflow9DecodeField m record flow = .ok flow')
    (hset : flow.flowMeta.natEvent = true ∨
      record.recordType.toNat = 230 ∧ record.recordLength.toNat = 1) :
    flow'.flowMeta.natEvent = true := by
  obtain hset | ⟨htype, hlength⟩ := hset
  · refine netflow9DecodeField_keeps (P := fun next => next.flowMeta.natEvent = true) h hset ?_ ?_
    · intro recordLength next hnext
      rw [(netflow9PacketSection_keeps hnext).2.2.2, hset]
    · intro rule hrule bytes
      exact (netflow9FieldRule_keeps hrule bytes flow).2.2.2 hset
  · rw [netflow9DecodeField_of_rule (by rw [htype]; rfl) (by omega), hlength] at h
    obtain ⟨bytes, -, rfl⟩ := FieldRule.store_of_decode rfl h
    rfl

/-- The field of a counter sets it. -/
theorem LiteCounter.get_decodeField_own (counter : LiteCounter)
    (htype : record.recordType.toNat = counter.recordType)
    (h : netflow9DecodeField m record flow = .ok flow') :
    counter.get flow'.flowMeta = counter.after m record (counter.get flow.flowMeta) := by
  obtain ⟨rule, hrule, haccepts, hstore⟩ : ∃ rule,
      netflow9FieldRule counter.recordType = some rule ∧
      (∀ n, rule.accepts flow n = [8].contains n) ∧
      ∀ bytes, counter.get (rule.store bytes flow).flowMeta = .ofNat (bigEndian bytes) := by
    cases counter
    · exact ⟨_, rfl, fun _ => rfl, fun _ => rfl⟩
    · exact ⟨_, rfl, fun _ => rfl, fun _ => rfl⟩
  have hsection : record.recordType.toNat ≠ 104 := by
    rw [htype]
    cases counter <;> decide
  rw [netflow9DecodeField_of_rule (htype ▸ hrule) hsection] at h
  rw [after]
  by_cases hlength : record.recordLength.toNat = 8
  · rw [if_pos ⟨htype, hlength⟩]
    rw [hlength] at h
    obtain ⟨bytes, hbytes, rfl⟩ := FieldRule.store_of_decode (haccepts 8) h
    rw [hbytes, hstore]
  · rw [if_neg fun hboth => hlength hboth.2]
    have hleft : rule.accepts flow record.recordLength.toNat = false := by
      rw [haccepts]
      simpa using hlength
    rw [FieldRule.eq_of_decode hleft h]

/-- A field sets a counter if it is the one for it. -/
theorem LiteCounter.get_decodeField (counter : LiteCounter)
    (h : netflow9DecodeField m record flow = .ok flow') :
    counter.get flow'.flowMeta = counter.after m record (counter.get flow.flowMeta) := by
  by_cases htype : record.recordType.toNat = counter.recordType
  · exact counter.get_decodeField_own htype h
  rw [after, if_neg fun hboth => htype hboth.1]
  refine netflow9DecodeField_keeps
    (P := fun next => counter.get next.flowMeta = counter.get flow.flowMeta) h rfl ?_ ?_
  · intro recordLength next hnext
    obtain ⟨-, hobserved, hselected, -⟩ := netflow9PacketSection_keeps hnext
    cases counter with
    | observed => exact hobserved
    | selected => exact hselected
  · intro rule hrule bytes
    obtain ⟨-, hobserved, hselected, -⟩ := netflow9FieldRule_keeps hrule bytes flow
    cases counter with
    | observed => exact hobserved htype
    | selected => exact hselected htype

/-- What the fields of a record make of a flow. -/
theorem netflow9DecodeFields_spec {offset : ℕ}
    (h : netflow9DecodeFields m records offset flow = .ok flow') :
    flow'.packet.sampleRatio = flow.packet.sampleRatio ∧
      (flow.flowMeta.natEvent = true ∨ HasNatEvent records → flow'.flowMeta.natEvent = true) ∧
      ∀ counter : LiteCounter,
        counter.get flow'.flowMeta = counter.last m records offset (counter.get flow.flowMeta) := by
  induction records generalizing offset flow with
  | nil =>
    obtain rfl := Except.ok.inj h
    refine ⟨rfl, fun hset => hset.resolve_right ?_, fun _ => rfl⟩
    rintro ⟨record, hmem, -⟩
    exact absurd hmem List.not_mem_nil
  | cons record records ih =>
    rw [netflow9DecodeFields, bind_eq_ok_iff] at h
    obtain ⟨next, hnext, hrest⟩ := h
    obtain ⟨hratio, hnat, hcounter⟩ := ih hrest
    refine ⟨hratio.trans (netflow9DecodeField_sampleRatio hnext), fun hset => hnat ?_,
      fun counter => ?_⟩
    · obtain hset | ⟨field, hmem, hfield⟩ := hset
      · exact .inl (netflow9DecodeField_natEvent hnext (.inl hset))
      · obtain rfl | hmem := List.mem_cons.mp hmem
        · exact .inl (netflow9DecodeField_natEvent hnext (.inr hfield))
        · exact .inr ⟨field, hmem, hfield⟩
    · rw [hcounter counter, counter.get_decodeField hnext]
      rfl

/-- The packets of a decoded record have usable ratios. -/
theorem netflow9Packets_usable (hlite : LiteRatioUsable m records) {packet : ParsedPacket}
    (hpacket : 1 ≤ packet.sampleRatio)
    (h : netflow9DecodeFields m records 0 { packet } = .ok flow) :
    ∀ handed ∈ netflow9Packets flow, 1 ≤ handed.sampleRatio := by
  obtain ⟨hratio, hnat, hcounter⟩ := netflow9DecodeFields_spec h
  have hobserved := hcounter .observed
  have hselected := hcounter .selected
  intro handed hmem
  rw [netflow9Packets] at hmem
  dsimp only at hmem
  split at hmem
  · cases hmem
  rename_i hnatEvent
  -- what follows the override leaves its ratio
  suffices hoverride : 1 ≤ (netflow9OverrideFromNested flow).sampleRatio by
    have hcleared : 1 ≤ (clearIcmpPorts (adjustProtocolVersion
        (netflow9OverrideFromNested flow))).sampleRatio := by
      rw [clearIcmpPorts, adjustProtocolVersion]
      split <;> split <;> exact hoverride
    split at hmem
    · rw [netflow9BidirectionalPackets, List.mem_pair] at hmem
      obtain rfl | rfl := hmem
      · exact hcleared
      · exact hcleared
    · obtain rfl := List.mem_singleton.mp hmem
      exact hcleared
  have hfresh : 1 ≤ flow.packet.sampleRatio := hratio ▸ hpacket
  rw [netflow9OverrideFromNested]
  split
  · rename_i hparsed
    dsimp only
    split
    · rename_i hne
      obtain hset | hnone | hzero | hquotient := hlite
      · exact absurd (hnat (.inr hset)) hnatEvent
      · exact absurd ⟨packet, flow, h, hparsed⟩ hnone
      · exact absurd (hselected.trans hzero) hne
      · change 1 ≤ (flow.flowMeta.observedPackets / flow.flowMeta.selectedPackets).toUInt32
        rw [show flow.flowMeta.observedPackets = _ from hobserved,
          show flow.flowMeta.selectedPackets = _ from hselected, UInt32.le_iff_toNat_le,
          UInt64.toNat_toUInt32, UInt64.toNat_div]
        exact Nat.one_le_iff_ne_zero.mpr hquotient
    · exact hfresh
  · exact hfresh

/-- The loop over the fields decodes them, whatever it learns. -/
theorem keeps_netflow9Fields_usable {offset : ℕ} :
    Keeps CollectorState.Usable (fun _ => True)
      (forFields (netflow9RecordToFlow context) m records offset flow)
      fun flow' => netflow9DecodeFields m records offset flow = .ok flow' := by
  induction records generalizing offset flow with
  | nil => exact keeps_pure rfl
  | cons record records ih =>
    rw [forFields]
    refine Keeps.bind (Q := fun next => netflow9DecodeField (m.shift offset) record flow = .ok next)
      ?_ fun next hnext => ?_
    · exact Keeps.bind (keeps_liftM (fun _ h => h) fun _ _ => trivial) fun next hnext =>
        Keeps.bind (preserves_liftM _) fun rate _ =>
          Keeps.bind (usable_updateSamplingRate rate) fun _ _ => keeps_pure hnext
    · refine Keeps.mono ih fun flow' hrest => ?_
      rw [netflow9DecodeFields, hnext, ok_bind, hrest]

/-- A data record of NetFlow v9. -/
theorem usable_netflow9FlowsetToStore (hratio : 1 ≤ context.netflowSamplingRatio)
    (hlite : LiteRatioUsable m records) :
    Preserves CollectorState.Usable (netflow9FlowsetToStore context timeSec records m) := by
  refine Keeps.bind (keeps_freshPacket hratio) fun packet hpacket =>
    Keeps.bind keeps_netflow9Fields_usable fun flow hflow => ?_
  exact usable_processFunc (netflow9Packets_usable hlite hpacket hflow)

/-- A record of NetFlow v9. -/
theorem usable_netflow9Record (hratio : 1 ≤ context.netflowSamplingRatio)
    (hlite : t.type = .data → LiteRatioUsable m t.records) :
    Preserves CollectorState.Usable (netflow9Record context timeSec t m) := by
  rw [netflow9Record]
  split
  · rename_i htype
    exact usable_netflow9FlowsetToStore hratio (hlite htype)
  · refine Preserves.bind (preserves_forFields fun m record options => ?_) fun options =>
      (usable_updateSamplingRate _).bind fun _ => usable_updateDeviceFlowTimeouts _
    rw [netflow9OptionsField]
    split
    · exact preserves_liftM _
    · exact preserves_pure options
  · exact preserves_pure ()

/-! ### Datagrams of NetFlow v9 -/

/-- The data records that a flowset with this template is cut into, as they are seen from their
first bytes. -/
def templateDataRecords (t : Template) (m : Memory) (flowsetLength : ℕ) :
    List (Memory × List TemplateRecord) :=
  let numberOfFlows := (flowsetLength - 4) / t.totalLength.toNat
  if t.type = .data ∧ numberOfFlows ≤ flowsPerPacketMaximumNumber then
    (recordRegions t.totalLength.toNat numberOfFlows 4).map fun region =>
      (m.shift region.start, t.records)
  else []

/-- The data records of the flowset at an offset. -/
def flowsetDataRecords (context : NetflowContext) (sourceId : UInt32) (packet : Memory)
    (packetLength offset : ℕ) (s : CollectorState) : List (Memory × List TemplateRecord) :=
  match packet.readNtohs offset, packet.readNtohs (offset + 2) with
  | .ok flowsetId, .ok flowsetLength =>
      if flowsetId < 256 ∨ offset + flowsetLength.toNat > packetLength then []
      else
        match peerFindTemplate s.templates sourceId flowsetId.toUInt32
            context.clientAddressInStringFormat with
        | some t => templateDataRecords t (packet.shift offset) flowsetLength.toNat
        | none => []
  | _, _ => []

/-- The data records of the flowsets that the loop gets to. -/
def visitedDataRecords (context : NetflowContext) (timeSec sourceId : UInt32) (packet : Memory)
    (packetLength : ℕ) :
    (left offset : ℕ) → CollectorState → List (Memory × List TemplateRecord)
  | 0, _, _ => []
  | left + 1, offset, s =>
      flowsetDataRecords context sourceId packet packetLength offset s ++
        match processFlowset context timeSec sourceId packet packetLength offset s with
        | (s', .ok next) =>
            if next = packetLength then []
            else visitedDataRecords context timeSec sourceId packet packetLength left next s'
        | (_, .error _) => []

/-- The data records of a datagram of NetFlow v9. -/
def netflow9DataRecords (context : NetflowContext) (packet : Memory) (packetLength : ℕ)
    (s : CollectorState) : List (Memory × List TemplateRecord) :=
  match packet.readNtohs 2, packet.readNtohl 8, packet.readNtohl 16 with
  | .ok flowsetCountTotal, .ok timeSec, .ok sourceId =>
      if packetLength < 20 ∨ flowsetCountTotal.toNat > setsPerPacketMaximumNumber then []
      else
        visitedDataRecords context timeSec sourceId packet packetLength flowsetCountTotal.toNat 20 s
  | _, _, _ => []

/-- The loop over the records visits those of the regions. -/
theorem preserves_processRecords_of_regions {I : CollectorState → Prop}
    {process : Memory → Collect Unit} {setLength totalLength left offset : ℕ}
    (h : ∀ region ∈ recordRegions totalLength left offset,
      Preserves I (process (m.shift region.start))) :
    Preserves I (processRecords m setLength totalLength process left offset) := by
  induction left generalizing offset with
  | zero => exact preserves_pure ()
  | succ left ih =>
    rw [recordRegions, List.forall_mem_cons] at h
    rw [processRecords]
    exact (preserves_liftM _).bind fun _ => h.1.bind fun _ => ih h.2

theorem usable_processNetflowV9Records {flowsetLength : ℕ}
    (hratio : 1 ≤ context.netflowSamplingRatio)
    (hlite : ∀ record ∈ templateDataRecords t m flowsetLength,
      LiteRatioUsable record.1 record.2) :
    Preserves CollectorState.Usable
      (processNetflowV9Records context timeSec t m flowsetLength) := by
  refine (preserves_liftM _).bind fun _ => (preserves_liftM _).bind fun _ => ?_
  refine Keeps.bind (keeps_liftM (fun _ h => rejectIf_eq_ok_iff.mp h) fun _ _ => trivial)
    fun _ hnumber => preserves_ite (preserves_pure ()) ?_
  refine preserves_processRecords_of_regions fun region hmem => ?_
  refine usable_netflow9Record hratio fun htype => ?_
  refine hlite (m.shift region.start, t.records) ?_
  rw [templateDataRecords, if_pos ⟨htype, by omega⟩]
  exact List.mem_map_of_mem hmem

theorem usable_processNetflowV9Data {packetLength offset : ℕ} {flowsetId flowsetLength : UInt16}
    (hratio : 1 ≤ context.netflowSamplingRatio) (hs : s.Usable) (hid : ¬ flowsetId < 256)
    (hinside : ¬ offset + flowsetLength.toNat > packetLength)
    (hreadId : m.readNtohs offset = .ok flowsetId)
    (hreadLength : m.readNtohs (offset + 2) = .ok flowsetLength)
    (hlite : ∀ record ∈ flowsetDataRecords context sourceId m packetLength offset s,
      LiteRatioUsable record.1 record.2) :
    (processNetflowV9Data context timeSec sourceId (m.shift offset) flowsetLength.toNat
      s).1.Usable := by
  by_cases hshort : flowsetLength.toNat < 4
  · rw [processNetflowV9Data, rejectIf_of hshort]
    exact hs
  have hread : (m.shift offset).readNtohs 0 = .ok flowsetId := by
    rw [readNtohs_shift]
    exact hreadId
  rw [flowsetDataRecords, hreadId, hreadLength] at hlite
  dsimp only at hlite
  rw [if_neg (by tauto)] at hlite
  cases hfound : peerFindTemplate s.templates sourceId flowsetId.toUInt32
      context.clientAddressInStringFormat with
  | none =>
    rw [processNetflowV9Data_unknown hshort hread hfound]
    exact hs
  | some t =>
    rw [hfound] at hlite
    rw [processNetflowV9Data_known hshort hread hfound]
    exact (usable_processNetflowV9Records hratio hlite s hs).1

/-- A value that is returned at the end leaves the state alone. -/
theorem run_bind_return {p : Collect Unit} {next : ℕ} {s : CollectorState} :
    ((do p; return next : Collect ℕ) s).1 = (p s).1 := by
  rw [bind_run]
  rcases p s with ⟨s', fault | u⟩ <;> rfl

/-- A flowset, with templates or with records. -/
theorem usable_processFlowset {packetLength offset : ℕ}
    (hratio : 1 ≤ context.netflowSamplingRatio) (hs : s.Usable)
    (hlite : ∀ record ∈ flowsetDataRecords context sourceId m packetLength offset s,
      LiteRatioUsable record.1 record.2) :
    (processFlowset context timeSec sourceId m packetLength offset s).1.Usable := by
  have hstore : ∀ sourceId t, Template.Sound t →
      Preserves CollectorState.Usable (storeTemplate context sourceId t) :=
    fun _ _ _ => usable_storeTemplate
  by_cases hend : offset ≥ packetLength
  · rw [processFlowset, rejectIf_of hend]
    exact hs
  by_cases hheader : offset + 4 > packetLength
  · rw [processFlowset, rejectIf_of_not hend, liftM_ok_bind, rejectIf_of hheader]
    exact hs
  rw [processFlowset, rejectIf_of_not hend, liftM_ok_bind, rejectIf_of_not hheader, liftM_ok_bind]
  cases hreadId : m.readNtohs offset with
  | error fault => exact hs
  | ok flowsetId =>
    rw [liftM_ok_bind]
    cases hreadLength : m.readNtohs (offset + 2) with
    | error fault => exact hs
    | ok flowsetLength =>
      rw [liftM_ok_bind]
      by_cases hlong : offset + flowsetLength.toNat > packetLength
      · rw [rejectIf_of hlong]
        exact hs
      rw [rejectIf_of_not hlong, liftM_ok_bind, processFlowsetOfId]
      split
      · rw [run_bind_return]
        exact (preserves_processTemplateFlowset hstore s hs).1
      · split
        · rw [run_bind_return]
          exact (preserves_processOptionsTemplateFlowset hstore s hs).1
        · split
          · exact hs
          · rename_i hid
            rw [run_bind_return]
            exact usable_processNetflowV9Data hratio hs hid hlong hreadId hreadLength hlite

/-- The loop over the flowsets. -/
theorem usable_processFlowsets {packetLength left offset : ℕ}
    (hratio : 1 ≤ context.netflowSamplingRatio) (hs : s.Usable)
    (hlite : ∀ record ∈ visitedDataRecords context timeSec sourceId m packetLength left offset s,
      LiteRatioUsable record.1 record.2) :
    (processFlowsets context timeSec sourceId m packetLength left offset s).1.Usable := by
  induction left generalizing offset s with
  | zero => exact hs
  | succ left ih =>
    rw [visitedDataRecords, List.forall_mem_append] at hlite
    obtain ⟨hhead, hrest⟩ := hlite
    have hstep := (@usable_processFlowset context timeSec) hratio hs hhead
    rw [processFlowsets, bind_run]
    cases hrun : processFlowset context timeSec sourceId m packetLength offset s with
    | mk s' result =>
      rw [hrun] at hstep hrest
      cases result with
      | error fault => exact hstep
      | ok next =>
        dsimp only at hrest ⊢
        split
        · exact hstep
        · rename_i hne
          rw [if_neg hne] at hrest
          exact ih hstep hrest

/-- **A datagram of NetFlow v9.** -/
theorem usable_processNetflowPacketV9 {packetLength : ℕ}
    (hratio : 1 ≤ context.netflowSamplingRatio) (hs : s.Usable)
    (hlite : ∀ record ∈ netflow9DataRecords context m packetLength s,
      LiteRatioUsable record.1 record.2) :
    (processNetflowPacketV9 context m packetLength s).1.Usable := by
  rw [netflow9DataRecords] at hlite
  by_cases hshort : packetLength < 20
  · rw [processNetflowPacketV9, rejectIf_of hshort]
    exact hs
  rw [processNetflowPacketV9, rejectIf_of_not hshort, liftM_ok_bind]
  cases hcount : m.readNtohs 2 with
  | error fault => exact hs
  | ok flowsetCountTotal =>
    rw [liftM_ok_bind]
    by_cases hmany : flowsetCountTotal.toNat > setsPerPacketMaximumNumber
    · rw [rejectIf_of hmany]
      exact hs
    rw [rejectIf_of_not hmany, liftM_ok_bind]
    cases htime : m.readNtohl 8 with
    | error fault => exact hs
    | ok timeSec =>
      rw [liftM_ok_bind]
      cases hsource : m.readNtohl 16 with
      | error fault => exact hs
      | ok sourceId =>
        rw [hcount, htime, hsource] at hlite
        dsimp only at hlite
        rw [if_neg (by tauto)] at hlite
        rw [liftM_ok_bind]
        exact usable_processFlowsets hratio hs hlite

/-! ### IPFIX -/

theorem ipfixRecordToFlow_sampleRatio {type recordLength : UInt32}
    (h : ipfixRecordToFlow m type recordLength flow = .ok flow') :
    flow'.packet.sampleRatio = flow.packet.sampleRatio := by
  rw [ipfixRecordToFlow] at h
  split at h
  · rw [ipfixFrameSection_packet h]
  · split at h
    · rename_i rule hrule
      exact FieldRule.decode_keeps
        (P := fun flow' => flow'.packet.sampleRatio = flow.packet.sampleRatio) h rfl
        fun bytes => ipfixFieldRule_sampleRatio hrule bytes flow
    · obtain rfl := Except.ok.inj h
      rfl

theorem ipfixFields_sampleRatio {setMaximumLength offset : ℕ} {decoded : Flow × ℕ}
    (h : ipfixFields m setMaximumLength records offset flow = .ok decoded) :
    decoded.1.packet.sampleRatio = flow.packet.sampleRatio := by
  induction records generalizing offset flow with
  | nil =>
    obtain rfl := Except.ok.inj h
    rfl
  | cons record records ih =>
    simp only [ipfixFields, bind_eq_ok_iff, rejectIf_eq_ok_iff] at h
    obtain ⟨⟨recordLength, noted⟩, hfield, -, -, next, hnext, h⟩ := h
    rw [ih h, ipfixRecordToFlow_sampleRatio hnext, (ipfixFieldLength_cases hfield).2]

/-- A data record of IPFIX. -/
theorem usable_ipfixDataSetToStore {setMaximumLength : ℕ}
    (hratio : 1 ≤ context.netflowSamplingRatio) :
    Preserves CollectorState.Usable
      (ipfixDataSetToStore context timeSec t setMaximumLength m) := by
  refine Keeps.bind (keeps_freshPacket hratio) fun packet hpacket =>
    Keeps.bind (Q := fun decoded => 1 ≤ decoded.1.packet.sampleRatio)
      (keeps_liftM (fun decoded hdecoded => ?_) fun _ _ => trivial) fun decoded hdecoded => ?_
  · exact ipfixFields_sampleRatio hdecoded ▸ hpacket
  · refine Preserves.bind (usable_processFunc ?_) fun _ => preserves_pure _
    rw [List.forall_mem_singleton, ipfixPacket, clearIcmpPorts, adjustProtocolVersion]
    split <;> split <;> split <;> exact hdecoded

/-- Two invariants are kept together. -/
theorem preserves_and {α : Type} {I J : CollectorState → Prop} {p : Collect α}
    (hI : Preserves I p) (hJ : Preserves J p) : Preserves (fun s => I s ∧ J s) p :=
  preserves_of_run fun s hs => ⟨(hI s hs.1).1, (hJ s hs.2).1⟩

/-- **A message of IPFIX.** -/
theorem usable_processIpfixPacket {udpPacketLength : ℕ}
    (hratio : 1 ≤ context.netflowSamplingRatio)
    (hs : s.Usable ∧ s.templates.Every Template.IpfixSound) :
    (processIpfixPacket context m udpPacketLength s).1.Usable ∧
      (processIpfixPacket context m udpPacketLength s).1.templates.Every Template.IpfixSound := by
  refine (ends_processIpfixPacket
    (I := fun s => s.Usable ∧ s.templates.Every Template.IpfixSound)
    (fun _ _ ht => preserves_and usable_storeTemplate (preserves_storeTemplate_every ht))
    (fun _ _ _ _ => preserves_and (usable_ipfixDataSetToStore hratio)
      (preserves_ipfixDataSetToStore_templates _))
    (fun _ _ => ends_ipfixOptionsSetToStore
      (fun _ => preserves_and (usable_updateSamplingRate _)
        (preserves_updateSamplingRate_templates _ _))
      fun _ => preserves_and (usable_updateDeviceFlowTimeouts _)
        (preserves_updateDeviceFlowTimeouts_templates _ _))
    (fun _ h => h.2) s hs).1

/-! ### Count-based sampling -/

/-- An options record of a count-based sampler that selects packets. -/
def IpfixOptions.CountBased (options : IpfixOptions) : Prop :=
  options.samplingSelectorAlgorithm = 1 ∧ options.samplingPacketInterval ≠ 0

/-- The sampling rate of a count-based sampler, without a bound on the numbers. -/
def IpfixOptions.countBasedRate (options : IpfixOptions) : ℕ :=
  (options.samplingPacketSpace.toNat + options.samplingPacketInterval.toNat)
    / options.samplingPacketInterval.toNat

/-- The fields of an options record. -/
def ipfixOptionsOf (t : Template) (m : Memory) : Except Fault IpfixOptions :=
  (forFields ipfixOptionsField (m.shift t.optionScopeLength.toNat) t.records 0 {} {}).2

/-- The options record sets the rate of its exporter, whatever that was. -/
def LearnsRate (context : NetflowContext) (t : Template) (m : Memory) (rate : ℕ) : Prop :=
  ∀ s, ((ipfixOptionsSetToStore context t m s).1.samplingRates
    context.clientAddressInStringFormat).map UInt32.toNat = some rate

variable {options : IpfixOptions}

/-- Reading the fields of an options record has no effect. -/
theorem forFields_ipfixOptionsField (records : List TemplateRecord) (m : Memory) (offset : ℕ)
    (options : IpfixOptions) :
    ∃ decoded : Except Fault IpfixOptions,
      forFields ipfixOptionsField m records offset options = liftM decoded := by
  induction records generalizing offset options with
  | nil => exact ⟨.ok options, rfl⟩
  | cons record records ih =>
    obtain ⟨first, hfirst⟩ : ∃ first : Except Fault IpfixOptions,
        ipfixOptionsField (m.shift offset) record options = liftM first := by
      rw [ipfixOptionsField]
      split
      · exact ⟨_, rfl⟩
      · exact ⟨.ok options, rfl⟩
    rw [forFields, hfirst]
    cases first with
    | error fault => exact ⟨.error fault, rfl⟩
    | ok next => exact ih _ next

/-- The stored rates behind an options record. -/
theorem samplingRates_ipfixOptionsSetToStore (h : ipfixOptionsOf t m = .ok options)
    (s : CollectorState) :
    (ipfixOptionsSetToStore context t m s).1.samplingRates
      = if byteSwap32 options.learnedRate = 0 then s.samplingRates
        else Function.update s.samplingRates context.clientAddressInStringFormat
          (some (byteSwap32 options.learnedRate)) := by
  obtain ⟨decoded, hdecoded⟩ :=
    forFields_ipfixOptionsField t.records (m.shift t.optionScopeLength.toNat) 0 {}
  rw [ipfixOptionsOf, hdecoded, liftM_run] at h
  obtain rfl : decoded = .ok options := h
  rw [ipfixOptionsSetToStore, hdecoded, liftM_ok_bind, ← samplingRates_updateSamplingRate]
  obtain ⟨s', hrun⟩ : ∃ s', updateSamplingRate context (byteSwap32 options.learnedRate) s
      = (s', .ok ()) := by
    rw [updateSamplingRate]
    split
    · exact ⟨s, rfl⟩
    · exact ⟨_, rfl⟩
  rw [bind_of_ok hrun, hrun, updateDeviceFlowTimeouts]
  split
  · rfl
  · rw [modify_run]
    dsimp only
    split
    · rfl
    · split <;> rfl

/-- The rate that is computed for a count-based sampler: that of the sum cut to 32 bits. -/
theorem toNat_learnedRate (h : options.CountBased) :
    (byteSwap32 options.learnedRate).toNat
      = (options.samplingPacketSpace.toNat + options.samplingPacketInterval.toNat) % 2 ^ 32
        / options.samplingPacketInterval.toNat := by
  rw [IpfixOptions.CountBased] at h
  rw [IpfixOptions.learnedRate, if_pos h, byteSwap32_byteSwap32, UInt32.toNat_div,
    UInt32.toNat_add]

/-- The rate of a count-based sampler is learned exactly if the sum that it is computed from fits
32 bits; else the sum is cut to less than the interval, and nothing is learned. -/
theorem learnsRate_iff (h : ipfixOptionsOf t m = .ok options) (hcount : options.CountBased) :
    LearnsRate context t m options.countBasedRate ↔
      options.samplingPacketSpace.toNat + options.samplingPacketInterval.toNat < 2 ^ 32 := by
  have hlearned := toNat_learnedRate hcount
  have hspace := options.samplingPacketSpace.toNat_lt
  have hinterval := options.samplingPacketInterval.toNat_lt
  have hpos : 0 < options.samplingPacketInterval.toNat := Nat.pos_of_ne_zero fun hzero =>
    hcount.2 (UInt32.toNat_inj.mp hzero)
  constructor
  · intro hlearns
    by_contra hwraps
    have hzero : byteSwap32 options.learnedRate = 0 := by
      rw [← UInt32.toNat_inj, hlearned]
      exact Nat.div_eq_of_lt (by omega)
    have hstart := hlearns {}
    rw [samplingRates_ipfixOptionsSetToStore h, if_pos hzero] at hstart
    cases hstart
  · intro hsum s
    rw [Nat.mod_eq_of_lt hsum] at hlearned
    have hrate : 1 ≤ options.countBasedRate :=
      Nat.div_pos (Nat.le_add_left _ _) hpos
    have hne : byteSwap32 options.learnedRate ≠ 0 := fun hzero => by
      rw [← UInt32.toNat_inj, hlearned] at hzero
      exact absurd hzero (Nat.one_le_iff_ne_zero.mp hrate)
    rw [samplingRates_ipfixOptionsSetToStore h, if_neg hne, Function.update_self, Option.map_some,
      hlearned]
    rfl

/-- **When rates of count-based samplers that fit 32 bits are learned.** -/
theorem learnsRate_of_fits_iff (h : ipfixOptionsOf t m = .ok options)
    (hcount : options.CountBased) :
    (options.countBasedRate < 2 ^ 32 → LearnsRate context t m options.countBasedRate) ↔
      options.samplingPacketInterval = 1 ∨
        options.samplingPacketSpace.toNat + options.samplingPacketInterval.toNat < 2 ^ 32 := by
  rw [learnsRate_iff h hcount, IpfixOptions.countBasedRate]
  have hspace := options.samplingPacketSpace.toNat_lt
  have hpos : options.samplingPacketInterval.toNat ≠ 0 := fun hzero =>
    hcount.2 (UInt32.toNat_inj.mp hzero)
  by_cases hone : options.samplingPacketInterval = 1
  · rw [hone]
    refine iff_of_true (fun hfits => ?_) (.inl rfl)
    rwa [show (1 : UInt32).toNat = 1 from rfl, Nat.div_one] at hfits
  · -- the quotient by two or more is below the sum by half
    have hinterval : options.samplingPacketInterval.toNat ≠ 1 := fun h =>
      hone (UInt32.toNat_inj.mp h)
    rw [or_iff_right hone]
    refine ⟨fun hall => hall ?_, fun hsum _ => hsum⟩
    rw [Nat.add_div_right _ (by omega)]
    have hhalf : options.samplingPacketSpace.toNat / options.samplingPacketInterval.toNat
        ≤ options.samplingPacketSpace.toNat / 2 := Nat.div_le_div_left (by omega) (by omega)
    omega

end FastNetMon
