/-
FastNetMon/FieldOrder.lean

The order of the fields in a template of NetFlow v9 or IPFIX.

A field is decoded into the flow that the fields in front of it left.  Some decoders read what
another field may write: the ports of UDP and TCP the protocol, the section of a packet the size
of the frame, the section without a length of its own the length that was noted last.  Without
such a pair in the template the order is of no account.  Main result: `fieldOrder_irrelevant`.
-/
import FastNetMon.Locality
import FastNetMon.ReducedSize
import FastNetMon.VariableRecords

namespace FastNetMon

open Memory Procedure

/-! ### The parts of a flow -/

/-- The parts of a flow that fields write, and what they leave alone. -/
inductive FlowField
  | length
  | ipLength
  | numberOfPackets
  | protocol
  | sourcePort
  | destinationPort
  | srcIp
  | dstIp
  | srcIpv6
  | dstIpv6
  | ipProtocolVersion
  | inputInterface
  | outputInterface
  | srcAsn
  | dstAsn
  | flowStart
  | flowEnd
  | sourceMac
  | destinationMac
  | flags
  | forwardingStatus
  | selectedPackets
  | observedPackets
  | dataLinkFrameSize
  | nestedPacket
  | nestedPacketParsed
  | ipNextHopIpv4
  | ipNextHopIpv4Set
  | bgpNextHopIpv4
  | bgpNextHopIpv4Set
  | bgpNextHopIpv6
  | bgpNextHopIpv6Set
  | receivedForwardingStatus
  | bytesFromSourceToDestination
  | bytesFromDestinationToSource
  | packetsFromSourceToDestination
  | packetsFromDestinationToSource
  | flowId
  | natEvent
  | variableFieldLength
  | otherFields
deriving DecidableEq, Repr

namespace FlowField

/-- The values of a part. -/
def Value : FlowField → Type
  | length | ipLength | numberOfPackets => UInt64
  | protocol | srcIp | dstIp | inputInterface | outputInterface | srcAsn | dstAsn => UInt32
  | sourcePort | destinationPort => UInt16
  | srcIpv6 | dstIpv6 | bgpNextHopIpv6 => Vector UInt8 16
  | ipProtocolVersion | flags => UInt8
  | flowStart | flowEnd => Int64
  | sourceMac | destinationMac => Vector UInt8 6
  | forwardingStatus => ForwardingStatus
  | selectedPackets | observedPackets | dataLinkFrameSize | flowId => UInt64
  | nestedPacket | otherFields => ParsedPacket
  | ipNextHopIpv4 | bgpNextHopIpv4 => UInt32
  | nestedPacketParsed | ipNextHopIpv4Set | bgpNextHopIpv4Set | bgpNextHopIpv6Set
  | receivedForwardingStatus | natEvent => Bool
  | bytesFromSourceToDestination | bytesFromDestinationToSource
  | packetsFromSourceToDestination | packetsFromDestinationToSource => UInt64
  | variableFieldLength => VariableLengthEncoding × UInt16

/-- The value of a field in a flow. -/
def get : (f : FlowField) → Flow → f.Value
  | length, flow => flow.packet.length
  | ipLength, flow => flow.packet.ipLength
  | numberOfPackets, flow => flow.packet.numberOfPackets
  | protocol, flow => flow.packet.protocol
  | sourcePort, flow => flow.packet.sourcePort
  | destinationPort, flow => flow.packet.destinationPort
  | srcIp, flow => flow.packet.srcIp
  | dstIp, flow => flow.packet.dstIp
  | srcIpv6, flow => flow.packet.srcIpv6
  | dstIpv6, flow => flow.packet.dstIpv6
  | ipProtocolVersion, flow => flow.packet.ipProtocolVersion
  | inputInterface, flow => flow.packet.inputInterface
  | outputInterface, flow => flow.packet.outputInterface
  | srcAsn, flow => flow.packet.srcAsn
  | dstAsn, flow => flow.packet.dstAsn
  | flowStart, flow => flow.packet.flowStart
  | flowEnd, flow => flow.packet.flowEnd
  | sourceMac, flow => flow.packet.sourceMac
  | destinationMac, flow => flow.packet.destinationMac
  | flags, flow => flow.packet.flags
  | forwardingStatus, flow => flow.packet.forwardingStatus
  | selectedPackets, flow => flow.flowMeta.selectedPackets
  | observedPackets, flow => flow.flowMeta.observedPackets
  | dataLinkFrameSize, flow => flow.flowMeta.dataLinkFrameSize
  | nestedPacket, flow => flow.flowMeta.nestedPacket
  | nestedPacketParsed, flow => flow.flowMeta.nestedPacketParsed
  | ipNextHopIpv4, flow => flow.flowMeta.ipNextHopIpv4
  | ipNextHopIpv4Set, flow => flow.flowMeta.ipNextHopIpv4Set
  | bgpNextHopIpv4, flow => flow.flowMeta.bgpNextHopIpv4
  | bgpNextHopIpv4Set, flow => flow.flowMeta.bgpNextHopIpv4Set
  | bgpNextHopIpv6, flow => flow.flowMeta.bgpNextHopIpv6
  | bgpNextHopIpv6Set, flow => flow.flowMeta.bgpNextHopIpv6Set
  | receivedForwardingStatus, flow => flow.flowMeta.receivedForwardingStatus
  | bytesFromSourceToDestination, flow => flow.flowMeta.bytesFromSourceToDestination
  | bytesFromDestinationToSource, flow => flow.flowMeta.bytesFromDestinationToSource
  | packetsFromSourceToDestination, flow => flow.flowMeta.packetsFromSourceToDestination
  | packetsFromDestinationToSource, flow => flow.flowMeta.packetsFromDestinationToSource
  | flowId, flow => flow.flowMeta.flowId
  | natEvent, flow => flow.flowMeta.natEvent
  | variableFieldLength, flow => flow.noted
  -- no field writes the other parts of the packet
  | otherFields, flow => { flow.packet with
      length := 0, ipLength := 0, numberOfPackets := 0, protocol := 0, sourcePort := 0,
      destinationPort := 0, srcIp := 0, dstIp := 0, srcIpv6 := Vector.replicate 16 0,
      dstIpv6 := Vector.replicate 16 0, ipProtocolVersion := 0, inputInterface := 0,
      outputInterface := 0, srcAsn := 0, dstAsn := 0, flowStart := 0, flowEnd := 0,
      sourceMac := Vector.replicate 6 0, destinationMac := Vector.replicate 6 0, flags := 0,
      forwardingStatus := .unknown }

end FlowField

/-- A flow without what is noted about the length of a field. -/
def Flow.withoutNote (flow : Flow) : Flow :=
  { flow with flowMeta := { flow.flowMeta with
      variableFieldLengthEncoding := .unknown, variableFieldLength := 0 } }

/-- The parts make up the flow, but for the note. -/
theorem withoutNote_eq_of_get {a b : Flow}
    (h : ∀ f, f ≠ FlowField.variableFieldLength → f.get a = f.get b) :
    a.withoutNote = b.withoutNote := by
  obtain ⟨p, r⟩ := a
  obtain ⟨q, t⟩ := b
  have hmeta : ({ r with variableFieldLengthEncoding := .unknown, variableFieldLength := 0 } :
      NetflowMetaInfo) = { t with
        variableFieldLengthEncoding := .unknown, variableFieldLength := 0 } := by
    rw [NetflowMetaInfo.mk.injEq]
    exact ⟨h .selectedPackets nofun, h .observedPackets nofun, h .dataLinkFrameSize nofun,
      h .nestedPacket nofun, h .nestedPacketParsed nofun, h .ipNextHopIpv4 nofun,
      h .ipNextHopIpv4Set nofun, h .bgpNextHopIpv4 nofun, h .bgpNextHopIpv4Set nofun,
      h .bgpNextHopIpv6 nofun, h .bgpNextHopIpv6Set nofun, h .receivedForwardingStatus nofun,
      h .bytesFromSourceToDestination nofun, h .bytesFromDestinationToSource nofun,
      h .packetsFromSourceToDestination nofun, h .packetsFromDestinationToSource nofun,
      h .flowId nofun, h .natEvent nofun, rfl, rfl⟩
  -- the packet is its written fields and, with these blanked, the rest
  have hother : FlowField.otherFields.get ⟨p, r⟩ = FlowField.otherFields.get ⟨q, t⟩ :=
    h .otherFields nofun
  have hpacket : p = q := by
    have hparts := ParsedPacket.mk.inj hother
    obtain ⟨hp1, hp2, -, -, -, -, -, -, -, -, hp3, hp4, -, -, -, hp5, -, -, -, -, -, -, -, hp6,
      hp7, hp8, hp9, hp10, hp11, hp12, hp13, hp14, hp15, hp16, hp17, hp18, hp19, hp20, hp21, hp22,
      -, hp23, -, -, hp24⟩ := hparts
    obtain ⟨⟩ := p
    obtain ⟨⟩ := q
    rw [ParsedPacket.mk.injEq]
    exact ⟨hp1, hp2, h .srcIp nofun, h .dstIp nofun, h .srcIpv6 nofun, h .dstIpv6 nofun,
      h .sourceMac nofun, h .destinationMac nofun, h .srcAsn nofun, h .dstAsn nofun, hp3, hp4,
      h .inputInterface nofun, h .outputInterface nofun, h .ipProtocolVersion nofun, hp5,
      h .sourcePort nofun, h .destinationPort nofun, h .protocol nofun, h .length nofun,
      h .ipLength nofun, h .numberOfPackets nofun, h .flags nofun, hp6, hp7, hp8, hp9, hp10, hp11,
      hp12, hp13, hp14, hp15, hp16, hp17, hp18, hp19, hp20, hp21, hp22, h .forwardingStatus nofun,
      hp23, h .flowStart nofun, h .flowEnd nofun, hp24⟩
  rw [Flow.withoutNote, Flow.withoutNote]
  dsimp only at hmeta ⊢
  rw [hpacket, hmeta]

/-! ### What the decoders read -/

/-- What a rule makes of a part depends on that part and on those it reads. -/
def FieldRule.Local (rule : FieldRule Flow) (reads : List FlowField) : Prop :=
  ∀ a b, (∀ r ∈ reads, r.get a = r.get b) →
    (∀ recordLength, rule.accepts a recordLength = rule.accepts b recordLength) ∧
    ∀ bytes (f : FlowField), f.get a = f.get b →
      f.get (rule.store bytes a) = f.get (rule.store bytes b)

variable {recordType : ℕ} {rule : FieldRule Flow} {reads : List FlowField}

theorem sharedFieldRule_local (h : sharedFieldRule recordType = some rule)
    (hlength : recordType = 1 → .length ∈ reads) : rule.Local reads := by
  rw [sharedFieldRule.eq_def] at h
  split at h
  all_goals cases h
  all_goals
    intro a b hreads
    refine ⟨fun _ => rfl, fun bytes f hf => ?_⟩
    dsimp only [FieldRule.ofLengths, FieldRule.upTo, onPacket, onMeta]
    cases f
  all_goals dsimp only [FlowField.get, Flow.noted] at hf ⊢
  all_goals first
    | with_reducible exact hf
    | with_reducible rfl
    | rw [hf]
    -- the copy to the length is that to the length of the IP packet as well
    | (have hold : a.packet.length = b.packet.length := hreads .length (hlength rfl)
       rw [hold])

theorem netflow9FieldRule_local (h : netflow9FieldRule recordType = some rule)
    (hlength : recordType = 1 → .length ∈ reads) : rule.Local reads := by
  rw [netflow9FieldRule.eq_def] at h
  split at h
  all_goals first
    | exact sharedFieldRule_local h hlength
    | cases h
  all_goals
    intro a b hreads
    refine ⟨fun _ => rfl, fun bytes f hf => ?_⟩
    dsimp only [FieldRule.ofLengths, FieldRule.upTo, onPacket, onMeta, storeForwardingStatus]
    cases f
  all_goals dsimp only [FlowField.get, Flow.noted] at hf ⊢
  all_goals first
    | with_reducible exact hf
    | with_reducible rfl
    | rw [hf]

theorem ipfixFieldRule_local (h : ipfixFieldRule recordType = some rule)
    (hlength : recordType = 1 → .length ∈ reads)
    (hprotocol : recordType ∈ [180, 181, 182, 183] → .protocol ∈ reads) : rule.Local reads := by
  rw [ipfixFieldRule.eq_def] at h
  split at h
  all_goals first
    | exact sharedFieldRule_local h hlength
    | cases h
  all_goals
    intro a b hreads
    refine ⟨fun recordLength => ?accepts, fun bytes f hf => ?stores⟩
    case accepts =>
      first
        | rfl
        | exact congrArg (fun protocol : UInt32 => protocol == _ && recordLength == 2)
            (hreads .protocol (hprotocol (by decide)))
    case stores =>
      dsimp only [FieldRule.ofLengths, FieldRule.ofProtocol, onPacket, onMeta,
        storeForwardingStatus]
      cases f
      all_goals dsimp only [FlowField.get, Flow.noted] at hf ⊢
      all_goals with_reducible exact hf

/-! ### Fields that are decoded alone -/

/-- A field of NetFlow v9 is decoded from its own bytes. -/
def netflow9FieldAlone (record : TemplateRecord) (bytes : List UInt8) (flow : Flow) :
    Except Fault Flow :=
  netflow9DecodeField (ofBytes bytes) record flow

/-- A field of IPFIX is decoded from its own bytes, the length in front included. -/
def ipfixFieldAlone (record : TemplateRecord) (bytes : List UInt8) (flow : Flow) :
    Except Fault Flow := do
  let (recordLength, flow) ← ipfixFieldLength (ofBytes bytes) bytes.length record 0 flow
  ipfixRecordToFlow (ofBytes bytes) record.recordType recordLength flow

/-- What a field of NetFlow v9 reads of a flow besides the parts that it changes. -/
def netflow9Reads (record : TemplateRecord) : List FlowField :=
  if record.recordType = 1 then [.length]
  else if record.recordType = 104 then [.dataLinkFrameSize, .nestedPacket]
  else []

/-- What a field of IPFIX reads of a flow besides the parts that it changes. -/
def ipfixReads (record : TemplateRecord) : List FlowField :=
  if record.recordType = 1 then [.length]
  else if record.recordType.toNat ∈ [180, 181, 182, 183] then [.protocol]
  else if record.recordType = 315 then
    if record.isVariable then [.nestedPacket] else [.variableFieldLength, .nestedPacket]
  else []

/-- The flow that was decoded, or else the one before. -/
def Flow.orIfError (flow : Flow) : Except Fault Flow → Flow
  | .ok flow' => flow'
  | .error _ => flow

section Alone

variable (decode : TemplateRecord → List UInt8 → Flow → Except Fault Flow)

/-- What a field makes of a flow; where it cannot be decoded, it is passed over. -/
def fieldStep (field : TemplateRecord × List UInt8) (flow : Flow) : Flow :=
  Flow.orIfError flow (decode field.1 field.2 flow)

/-- The fields of a record in a template write a part of the flow. -/
def FieldWrites (record : TemplateRecord) (f : FlowField) : Prop :=
  ∃ bytes flow flow', decode record bytes flow = .ok flow' ∧ f.get flow' ≠ f.get flow

variable {decode}

theorem fieldWrites_of_writes {field : TemplateRecord × List UInt8} {f : FlowField}
    (h : Writes FlowField.get (fieldStep decode) field f) : FieldWrites decode field.1 f := by
  obtain ⟨flow, hne⟩ := h
  rw [fieldStep] at hne
  cases hflow : decode field.1 field.2 flow with
  | ok flow' =>
    rw [hflow] at hne
    exact ⟨field.2, flow, flow', hflow, hne⟩
  | error fault =>
    rw [hflow] at hne
    exact (hne rfl).elim

/-- Two decodings fail both, or give flows with the same part. -/
def SameOutcome (f : FlowField) : Except Fault Flow → Except Fault Flow → Prop
  | .ok a, .ok b => f.get a = f.get b
  | .error _, .error _ => True
  | _, _ => False

theorem SameOutcome.get_orIfError {f : FlowField} {x y : Except Fault Flow}
    (h : SameOutcome f x y) {a b : Flow} (hf : f.get a = f.get b) :
    f.get (a.orIfError x) = f.get (b.orIfError y) := by
  cases x with
  | ok a' =>
    cases y with
    | ok b' => exact h
    | error fault => exact h.elim
  | error fault =>
    cases y with
    | ok b' => exact h.elim
    | error fault' => exact hf

/-- What a rule reads is what the decoding with it reads. -/
theorem FieldRule.Local.sameOutcome (h : rule.Local reads) (m : Memory) (recordLength : ℕ)
    {a b : Flow} (hreads : ∀ r ∈ reads, r.get a = r.get b) {f : FlowField}
    (hf : f.get a = f.get b) :
    SameOutcome f (rule.decode m recordLength a) (rule.decode m recordLength b) := by
  obtain ⟨haccepts, hstore⟩ := h a b hreads
  rw [FieldRule.decode, FieldRule.decode, haccepts]
  by_cases hb : rule.accepts b recordLength = true
  · rw [if_pos hb, if_pos hb]
    cases m.readBytes 0 recordLength with
    | ok bytes => exact hstore bytes f hf
    | error fault => exact trivial
  · rw [if_neg hb, if_neg hb]
    exact hf

end Alone

/-- The flow after the packet in a section was parsed. -/
def Flow.withNested (flow : Flow) (parsed : ParserCode × ParsedPacket) : Flow :=
  if parsed.1 = .success then
    { flow with flowMeta := { flow.flowMeta with
        nestedPacket := parsed.2, nestedPacketParsed := true } }
  else { flow with flowMeta := { flow.flowMeta with nestedPacket := parsed.2 } }

theorem get_withNested {a b : Flow} (parsed : ParserCode × ParsedPacket) {f : FlowField}
    (hf : f.get a = f.get b) : f.get (a.withNested parsed) = f.get (b.withNested parsed) := by
  rw [Flow.withNested, Flow.withNested]
  by_cases hsuccess : parsed.1 = .success
  · rw [if_pos hsuccess, if_pos hsuccess]
    cases f <;> first | exact hf | rfl
  · rw [if_neg hsuccess, if_neg hsuccess]
    cases f <;> first | exact hf | rfl

/-- The length of the packet in a section of NetFlow v9. -/
def sectionPacketLength (dataLinkFrameSize : UInt64) (recordLength : UInt32) : Int32 :=
  (if dataLinkFrameSize ≠ 0 then dataLinkFrameSize
    else recordLength.toUInt64).toUInt32.toInt32

theorem netflow9PacketSection_eq (m : Memory) (recordLength : UInt32) (flow : Flow) :
    netflow9PacketSection m recordLength flow
      = (parseRawPacketToSimplePacketFull m 0
          (sectionPacketLength flow.flowMeta.dataLinkFrameSize recordLength) recordLength.toInt32
          flow.flowMeta.nestedPacket { readPacketLengthFromIpHeader := true }).map
        flow.withNested := by
  rw [netflow9PacketSection]
  dsimp only
  rw [← sectionPacketLength]
  cases parseRawPacketToSimplePacketFull m 0 _ _ flow.flowMeta.nestedPacket _ with
  | error fault => rfl
  | ok parsed =>
    rw [ok_bind, Except.map, Flow.withNested]
    dsimp only
    split <;> rfl

theorem readsOnly_netflow9 (field : TemplateRecord × List UInt8) :
    ReadsOnly FlowField.get (fieldStep netflow9FieldAlone) field (netflow9Reads field.1) := by
  intro a b hreads f hf
  obtain ⟨record, bytes⟩ := field
  rw [netflow9Reads] at hreads
  rw [fieldStep, fieldStep, netflow9FieldAlone, netflow9FieldAlone, netflow9DecodeField,
    netflow9DecodeField]
  dsimp only at hreads ⊢
  by_cases htype : record.recordType = 104
  · rw [if_neg (by rw [htype]; decide), if_pos htype] at hreads
    have hsize : a.flowMeta.dataLinkFrameSize = b.flowMeta.dataLinkFrameSize :=
      hreads .dataLinkFrameSize List.mem_cons_self
    have hnested : a.flowMeta.nestedPacket = b.flowMeta.nestedPacket :=
      hreads .nestedPacket (List.mem_cons_of_mem _ List.mem_cons_self)
    rw [if_pos htype, if_pos htype, netflow9PacketSection_eq, netflow9PacketSection_eq, hsize,
      hnested]
    cases parseRawPacketToSimplePacketFull (ofBytes bytes) 0 _ _ b.flowMeta.nestedPacket _ with
    | error fault => exact hf
    | ok parsed => exact get_withNested parsed hf
  · rw [if_neg htype, if_neg htype]
    cases hrule : netflow9FieldRule record.recordType.toNat with
    | none => exact hf
    | some rule =>
      refine ((netflow9FieldRule_local hrule fun htype => ?_).sameOutcome _ _ hreads
        hf).get_orIfError hf
      rw [if_pos (UInt32.toNat_inj.mp htype)]
      exact List.mem_cons_self

theorem ipfixFrameSection_eq (m : Memory) (flow : Flow) :
    ipfixFrameSection m flow
      = if flow.noted.1 = .unknown ∨ flow.noted.2 = 0 then .ok flow
        else (parseRawPacketToSimplePacketFull m flow.noted.1.headerLength
          flow.noted.2.toUInt32.toInt32 flow.noted.2.toUInt32.toInt32 flow.flowMeta.nestedPacket
          { readPacketLengthFromIpHeader := true }).map flow.withNested := by
  by_cases hnone : flow.noted.1 = .unknown ∨ flow.noted.2 = 0
  · rw [if_pos hnone, ipfixFrameSection]
    exact if_pos hnone
  · rw [if_neg hnone, ipfixFrameSection]
    refine (if_neg hnone).trans ?_
    dsimp only [Flow.noted]
    cases parseRawPacketToSimplePacketFull m _ _ _ flow.flowMeta.nestedPacket _ with
    | error fault => rfl
    | ok parsed =>
      rw [ok_bind, Except.map, Flow.withNested]
      dsimp only
      split <;> rfl

/-- What the decoding of a field reads, once its length is known. -/
theorem sameOutcome_ipfixRecordToFlow (m : Memory) (type recordLength : UInt32) {a b : Flow}
    (hlength : type = 1 → a.packet.length = b.packet.length)
    (hprotocol : type.toNat ∈ [180, 181, 182, 183] → a.packet.protocol = b.packet.protocol)
    (hsection : type = 315 →
      a.noted = b.noted ∧ a.flowMeta.nestedPacket = b.flowMeta.nestedPacket)
    {f : FlowField} (hf : f.get a = f.get b) :
    SameOutcome f (ipfixRecordToFlow m type recordLength a)
      (ipfixRecordToFlow m type recordLength b) := by
  rw [ipfixRecordToFlow, ipfixRecordToFlow]
  by_cases htype : type = 315
  · obtain ⟨hnoted, hnested⟩ := hsection htype
    rw [if_pos htype, if_pos htype, ipfixFrameSection_eq, ipfixFrameSection_eq, hnoted, hnested]
    split
    · exact hf
    · cases parseRawPacketToSimplePacketFull m _ _ _ b.flowMeta.nestedPacket _ with
      | error fault => exact trivial
      | ok parsed => exact get_withNested parsed hf
  · rw [if_neg htype, if_neg htype]
    cases hrule : ipfixFieldRule type.toNat with
    | none => exact hf
    | some rule =>
      have hlocal : rule.Local ((if type = 1 then [.length] else []) ++
          if type.toNat ∈ [180, 181, 182, 183] then [.protocol] else []) := by
        refine ipfixFieldRule_local hrule (fun hone => ?_) fun hport => ?_
        · rw [if_pos (UInt32.toNat_inj.mp hone)]
          exact List.mem_append_left _ List.mem_cons_self
        · rw [if_pos hport]
          exact List.mem_append_right _ List.mem_cons_self
      refine hlocal.sameOutcome _ _ (fun r hr => ?_) hf
      rcases List.mem_append.mp hr with hr | hr
      · split at hr
        · rename_i hone
          obtain rfl := List.mem_singleton.mp hr
          exact hlength hone
        · cases hr
      · split at hr
        · rename_i hport
          obtain rfl := List.mem_singleton.mp hr
          exact hprotocol hport
        · cases hr

/-- A flow with a note on the length of a field. -/
def Flow.withNote (info : VariableLengthEncodingInfo) (flow : Flow) : Flow :=
  { flow with flowMeta := { flow.flowMeta with
      variableFieldLengthEncoding := info.variableFieldLengthEncoding
      variableFieldLength := info.variableFieldLength } }

theorem get_withNote {a b : Flow} (info : VariableLengthEncodingInfo) {f : FlowField}
    (hf : f.get a = f.get b) : f.get (a.withNote info) = f.get (b.withNote info) := by
  rw [Flow.withNote, Flow.withNote]
  cases f <;> first | exact hf | rfl

theorem readsOnly_ipfix (field : TemplateRecord × List UInt8) :
    ReadsOnly FlowField.get (fieldStep ipfixFieldAlone) field (ipfixReads field.1) := by
  intro a b hreads f hf
  obtain ⟨record, bytes⟩ := field
  rw [ipfixReads] at hreads
  refine SameOutcome.get_orIfError ?_ hf
  rw [ipfixFieldAlone, ipfixFieldAlone, ipfixFieldLength, ipfixFieldLength]
  dsimp only at hreads ⊢
  have hlength (hone : record.recordType = 1) : a.packet.length = b.packet.length := by
    rw [if_pos hone] at hreads
    exact hreads .length List.mem_cons_self
  have hprotocol (hport : record.recordType.toNat ∈ [180, 181, 182, 183]) :
      a.packet.protocol = b.packet.protocol := by
    have hne : record.recordType ≠ 1 := by
      rintro hone
      rw [hone] at hport
      exact absurd hport (by decide)
    rw [if_neg hne, if_pos hport] at hreads
    exact hreads .protocol List.mem_cons_self
  have hsection (htype : record.recordType = 315) : ∀ r ∈
      (if record.isVariable then [FlowField.nestedPacket]
        else [.variableFieldLength, .nestedPacket]), r.get a = r.get b := by
    rw [if_neg (by rw [htype]; decide), if_neg (by rw [htype]; decide), if_pos htype] at hreads
    exact hreads
  by_cases hvariable : record.isVariable = true
  -- both flows get the same note, which a section then takes its length from
  · rw [if_pos hvariable, if_pos hvariable]
    cases readIpfixVariableLengthField (ofBytes bytes) 0 bytes.length with
    | error fault => exact trivial
    | ok info =>
      refine sameOutcome_ipfixRecordToFlow (ofBytes bytes) record.recordType
        info.recordFullLength (a := a.withNote info) (b := b.withNote info) hlength hprotocol
        (fun htype => ⟨rfl, ?_⟩) (get_withNote info hf)
      have hnested := hsection htype
      rw [if_pos hvariable] at hnested
      exact hnested .nestedPacket List.mem_cons_self
  · rw [if_neg hvariable, if_neg hvariable]
    refine sameOutcome_ipfixRecordToFlow (ofBytes bytes) record.recordType record.recordLength
      hlength hprotocol (fun htype => ?_) hf
    have hnoted := hsection htype
    rw [if_neg hvariable] at hnoted
    exact ⟨hnoted .variableFieldLength List.mem_cons_self,
      hnoted .nestedPacket (List.mem_cons_of_mem _ List.mem_cons_self)⟩

/-! ### Records of NetFlow v9 -/

variable {m : Memory} {context : NetflowContext} {s : CollectorState} {offset : ℕ} {flow : Flow}
  {record : TemplateRecord} {bytes : List UInt8} {fields : List (TemplateRecord × List UInt8)}

theorem updateSamplingRate_run (samplingRate : UInt32) (s : CollectorState) :
    ∃ samplingRates, updateSamplingRate context samplingRate s
      = ({ s with samplingRates }, .ok ()) := by
  rw [updateSamplingRate]
  split
  · exact ⟨s.samplingRates, rfl⟩
  · rw [modify_run]
    dsimp only
    split
    · exact ⟨_, rfl⟩
    · split
      · exact ⟨_, rfl⟩
      · exact ⟨s.samplingRates, rfl⟩

/-- A field is decoded in its record as it is alone. -/
theorem netflow9RecordToFlow_run (hlength : record.recordLength.toNat = bytes.length)
    (hle : record.recordLength.toNat ≤ 65535) (hbytes : m.Holds offset bytes) :
    ∃ samplingRates, netflow9RecordToFlow context (m.shift offset) record flow s
      = ({ s with samplingRates }, .ok (fieldStep netflow9FieldAlone (record, bytes) flow)) := by
  have hextends := extends_of_holds hbytes
  have hreadable : (ofBytes bytes).Readable 0 record.recordLength.toNat :=
    hlength ▸ readable_ofBytes bytes
  obtain ⟨flow', halone⟩ : ∃ flow', netflow9FieldAlone record bytes flow = .ok flow' := by
    rw [netflow9FieldAlone, netflow9DecodeField]
    split
    · exact netflow9PacketSection_ok hreadable hle
    · split
      · exact FieldRule.decode_ok _ hreadable _
      · exact ⟨_, rfl⟩
  have hdecode : netflow9DecodeField (m.shift offset) record flow = .ok flow' := by
    have hagrees := agrees_netflow9DecodeField hextends record flow
    rw [← netflow9FieldAlone, halone] at hagrees
    exact hagrees.eq trivial
  obtain ⟨samplingRate, hrate⟩ : ∃ samplingRate,
      netflow9SamplingInterval (m.shift offset) record = .ok samplingRate := by
    have hagrees := agrees_netflow9SamplingInterval hextends record
    rw [netflow9SamplingInterval] at hagrees
    split at hagrees
    · rename_i hfield
      obtain ⟨samplingRate, hread⟩ := hreadable.readNtohl (p := 0) le_rfl (by rw [hfield.2]; decide)
      rw [hread] at hagrees
      exact ⟨samplingRate, hagrees.eq trivial⟩
    · exact ⟨0, hagrees.eq trivial⟩
  obtain ⟨samplingRates, hupdate⟩ := (@updateSamplingRate_run context) samplingRate s
  refine ⟨samplingRates, ?_⟩
  have hstep : fieldStep netflow9FieldAlone (record, bytes) flow = flow' := by
    rw [fieldStep, halone]
    rfl
  rw [netflow9RecordToFlow, hdecode, bind_run, liftM_run]
  dsimp only
  rw [hrate, bind_run, liftM_run]
  dsimp only
  rw [bind_of_ok hupdate, hstep]
  rfl

/-- **A record of NetFlow v9 is decoded field by field.** -/
theorem netflow9Fields_run (hfields : FieldsAt m netflow9LengthAt offset fields)
    (hle : ∀ field ∈ fields, field.1.recordLength.toNat ≤ 65535) :
    ∃ samplingRates, forFields (netflow9RecordToFlow context) m (fields.map Prod.fst) offset flow s
      = ({ s with samplingRates },
        .ok (fields.foldl (fun flow field => fieldStep netflow9FieldAlone field flow) flow)) := by
  induction fields generalizing offset flow s with
  | nil => exact ⟨s.samplingRates, rfl⟩
  | cons field fields ih =>
    obtain ⟨record, bytes⟩ := field
    obtain ⟨hlength, hbytes, hrest⟩ := hfields
    have hlength : record.recordLength.toNat = bytes.length := Option.some_injective _ hlength
    obtain ⟨samplingRates, hfirst⟩ := (@netflow9RecordToFlow_run m context s offset flow)
      hlength (hle _ List.mem_cons_self) hbytes
    rw [← hlength] at hrest
    obtain ⟨samplingRates', hfields⟩ := (@ih { s with samplingRates } _
      (fieldStep netflow9FieldAlone (record, bytes) flow)) hrest
      fun field hmem => hle field (List.mem_cons_of_mem _ hmem)
    refine ⟨samplingRates', ?_⟩
    rw [List.map_cons, forFields, bind_of_ok hfirst, List.foldl_cons]
    exact hfields

/-! ### Records of IPFIX -/

/-- The bytes have the length of the field, as the template or its first bytes say. -/
def HasFieldLength (field : TemplateRecord × List UInt8) : Prop :=
  ipfixLengthAt (ofBytes field.2) field.2.length field.1 0 = some field.2.length

/-- The bytes of a field, or the length of an empty one, which is turned down. -/
def IsIpfixField (field : TemplateRecord × List UInt8) : Prop :=
  HasFieldLength field ∨ field.1.isVariable = true ∧ field.2 = [0]

theorem ipfixFieldLength_alone (h : HasFieldLength (record, bytes)) (flow : Flow) :
    ∃ recordLength noted,
      ipfixFieldLength (ofBytes bytes) bytes.length record 0 flow = .ok (recordLength, noted) ∧
      recordLength.toNat = bytes.length := by
  rw [HasFieldLength, ipfixLengthAt] at h
  rw [ipfixFieldLength] at h ⊢
  dsimp only at h
  by_cases hvariable : record.isVariable = true
  · rw [if_pos hvariable] at h ⊢
    cases hinfo : readIpfixVariableLengthField (ofBytes bytes) 0 bytes.length with
    | error fault =>
      rw [hinfo] at h
      cases h
    | ok info =>
      rw [hinfo] at h
      exact ⟨_, _, rfl, Option.some_injective _ h⟩
  · rw [if_neg hvariable] at h ⊢
    exact ⟨_, _, rfl, Option.some_injective _ h⟩

/-- The length of a field is read in its record as it is alone. -/
theorem ipfixFieldLength_at {field : UInt32 × Flow}
    (h : ipfixFieldLength (ofBytes bytes) bytes.length record 0 flow = .ok field)
    (hbytes : m.Holds offset bytes) {setMaximumLength : ℕ}
    (hend : offset + bytes.length ≤ setMaximumLength) :
    ipfixFieldLength m setMaximumLength record offset flow = .ok field := by
  have hagrees := agrees_ipfixFieldLength (extends_of_holds hbytes) bytes.length record 0 flow
  rw [h] at hagrees
  have hshift := hagrees.eq trivial
  refine ipfixFieldLength_mono hend ?_
  rw [ipfixFieldLength] at hshift ⊢
  by_cases hvariable : record.isVariable = true
  · rw [if_pos hvariable] at hshift ⊢
    rw [← hshift]
    refine congrArg (· >>= _) ?_
    simp only [readIpfixVariableLengthField, variableLengthEncodingInfo, read_shift,
      readNtohs_shift, Nat.add_zero, Nat.zero_add, Nat.add_assoc, gt_iff_lt,
      Nat.add_lt_add_iff_left]
  · rw [if_neg hvariable] at hshift ⊢
    exact hshift

/-- A frame section without a length of its own, which takes the one that was noted last. -/
def IsFixedSection (record : TemplateRecord) : Prop :=
  record.recordType = 315 ∧ record.isVariable = false

/-- A field alone is decoded, unless it is a frame section that takes another's length. -/
theorem ipfixFieldAlone_ok (h : HasFieldLength (record, bytes))
    (hsection : IsFixedSection record → flow.noted.1 = .unknown) :
    ∃ recordLength noted flow',
      ipfixFieldLength (ofBytes bytes) bytes.length record 0 flow = .ok (recordLength, noted) ∧
      recordLength.toNat = bytes.length ∧
      ipfixRecordToFlow (ofBytes bytes) record.recordType recordLength noted = .ok flow' ∧
      fieldStep ipfixFieldAlone (record, bytes) flow = flow' ∧
      (record.isVariable = false → flow'.noted = flow.noted) := by
  obtain ⟨recordLength, noted, hfield, hlength⟩ := ipfixFieldLength_alone h flow
  have hreadable : (ofBytes bytes).Readable 0 recordLength.toNat :=
    hlength ▸ readable_ofBytes bytes
  have hnoted : record.isVariable = false → noted = flow := by
    intro hfixed
    rw [ipfixFieldLength, if_neg (by rw [hfixed]; decide)] at hfield
    exact (congrArg Prod.snd (Except.ok.inj hfield)).symm
  -- a section does not read past its own bytes: the noted length is its own, or there is none
  obtain ⟨flow', hflow⟩ : ∃ flow', ipfixRecordToFlow (ofBytes bytes) record.recordType recordLength
      noted = .ok flow' := by
    refine ipfixRecordToFlow_ok hreadable fun htype hused _ => ?_
    cases hvariable : record.isVariable with
    | false =>
      rw [hnoted hvariable] at hused
      exact (hused (hsection ⟨htype, hvariable⟩)).elim
    | true =>
      rw [ipfixFieldLength, if_pos hvariable] at hfield
      simp only [bind_eq_ok_iff, pure_eq_ok_iff] at hfield
      obtain ⟨info, hinfo, hpair⟩ := hfield
      cases hpair
      exact (readIpfixVariableLengthField_spec hinfo).1.ge
  refine ⟨recordLength, noted, flow', hfield, hlength, hflow, ?_, fun hfixed => ?_⟩
  · rw [fieldStep, ipfixFieldAlone, hfield, ok_bind]
    dsimp only
    rw [hflow]
    rfl
  · rw [ipfixRecordToFlow_noted hflow, hnoted hfixed]

/-- **A record of IPFIX is decoded field by field.** -/
theorem ipfixFields_run {setMaximumLength : ℕ} (hfields : ∀ field ∈ fields, HasFieldLength field)
    (hbytes : m.Holds offset (fields.map Prod.snd).flatten)
    (hend : offset + (fields.map Prod.snd).flatten.length ≤ setMaximumLength)
    (hsections : (∃ field ∈ fields, IsFixedSection field.1) →
      flow.noted.1 = .unknown ∧ ∀ field ∈ fields, field.1.isVariable = false) :
    ∃ length, ipfixFields m setMaximumLength (fields.map Prod.fst) offset flow
      = .ok (fields.foldl (fun flow field => fieldStep ipfixFieldAlone field flow) flow,
        length) := by
  -- the flow has no note as long as there is a section to come that would take it
  induction fields generalizing offset flow with
  | nil => exact ⟨offset, rfl⟩
  | cons field fields ih =>
    obtain ⟨record, bytes⟩ := field
    rw [List.map_cons, List.flatten_cons, holds_append] at hbytes
    rw [List.map_cons, List.flatten_cons, List.length_append] at hend
    have hsection (h : IsFixedSection record) : flow.noted.1 = .unknown :=
      (hsections ⟨_, List.mem_cons_self, h⟩).1
    obtain ⟨recordLength, noted, flow', hlength, hbound, hflow, hstep, hnoted⟩ :=
      (@ipfixFieldAlone_ok flow) (hfields _ List.mem_cons_self) hsection
    have hrecord : ipfixRecordToFlow (m.shift offset) record.recordType recordLength noted
        = .ok flow' := by
      have hagrees := agrees_ipfixRecordToFlow (extends_of_holds hbytes.1) record.recordType
        recordLength noted
      rw [hflow] at hagrees
      exact hagrees.eq trivial
    have hsections' : (∃ field ∈ fields, IsFixedSection field.1) →
        flow'.noted.1 = .unknown ∧ ∀ field ∈ fields, field.1.isVariable = false := by
      rintro ⟨field, hmem, hfixed⟩
      obtain ⟨hunknown, hall⟩ := hsections ⟨field, List.mem_cons_of_mem _ hmem, hfixed⟩
      rw [hnoted (hall _ List.mem_cons_self)]
      exact ⟨hunknown, fun field hmem => hall field (List.mem_cons_of_mem _ hmem)⟩
    dsimp only at hend hbytes
    obtain ⟨length, hrun⟩ := ih (fun field hmem => hfields field (List.mem_cons_of_mem _ hmem))
      hbytes.2 (by omega) hsections'
    refine ⟨length, ?_⟩
    rw [List.map_cons, ipfixFields, ipfixFieldLength_at hlength hbytes.1 (by omega), ok_bind,
      List.foldl_cons, hstep]
    dsimp only
    rw [rejectIf_of_not (by omega), ok_bind, hrecord, ok_bind, hbound]
    exact hrun

/-- A record that is decoded has no empty field, and lies within the set. -/
theorem ipfixFields_fits {setMaximumLength : ℕ} {decoded : Flow × ℕ}
    (hfields : ∀ field ∈ fields, IsIpfixField field)
    (hbytes : m.Holds offset (fields.map Prod.snd).flatten) (hle : offset ≤ setMaximumLength)
    (hrun : ipfixFields m setMaximumLength (fields.map Prod.fst) offset flow = .ok decoded) :
    (∀ field ∈ fields, HasFieldLength field) ∧
      offset + (fields.map Prod.snd).flatten.length ≤ setMaximumLength := by
  induction fields generalizing offset flow with
  | nil => exact ⟨nofun, hle⟩
  | cons field fields ih =>
    obtain ⟨record, bytes⟩ := field
    rw [List.map_cons, List.flatten_cons, holds_append] at hbytes
    dsimp only at hbytes
    simp only [List.map_cons, ipfixFields, bind_eq_ok_iff, rejectIf_eq_ok_iff] at hrun
    obtain ⟨⟨recordLength, noted⟩, hlength, -, hend, next, -, hrun⟩ := hrun
    dsimp only at hend hrun
    have hown : HasFieldLength (record, bytes) := by
      refine (hfields _ List.mem_cons_self).resolve_right ?_
      rintro ⟨hvariable, rfl : bytes = [0]⟩
      rw [ipfixFieldLength, if_pos hvariable, readIpfixVariableLengthField] at hlength
      simp only [bind_eq_ok_iff, rejectIf_eq_ok_iff] at hlength
      obtain ⟨info, ⟨-, -, first, hfirst, -, hne, -⟩, -⟩ := hlength
      rw [hbytes.1.read] at hfirst
      exact hne (Except.ok.inj hfirst).symm
    -- the two lengths agree in a set that is long enough for both
    have hbound : recordLength.toNat = bytes.length := by
      obtain ⟨recordLength', noted', halone, hlength'⟩ := ipfixFieldLength_alone hown flow
      have hat := ipfixFieldLength_at halone hbytes.1
        (le_max_left (offset + bytes.length) setMaximumLength)
      rw [ipfixFieldLength_mono (le_max_right _ _) hlength] at hat
      rw [← hlength', show recordLength = recordLength' from
        congrArg Prod.fst (Except.ok.inj hat)]
    rw [hbound] at hend hrun
    obtain ⟨hrest, hfits⟩ := ih (fun field hmem => hfields field (List.mem_cons_of_mem _ hmem))
      hbytes.2 (by omega) hrun
    refine ⟨List.forall_mem_cons.mpr ⟨hown, hrest⟩, ?_⟩
    rw [List.map_cons, List.flatten_cons, List.length_append, ← Nat.add_assoc]
    exact hfits

/-- A field that carries its length leaves a note on it. -/
theorem variable_writes (h : record.isVariable = true) :
    FieldWrites ipfixFieldAlone record .variableFieldLength := by
  have hlength : HasFieldLength (record, [1, 0]) := by
    rw [HasFieldLength, ipfixLengthAt, ipfixFieldLength, if_pos h]
    rfl
  have hfixed : ¬ IsFixedSection record := fun hsection => by
    rw [hsection.2] at h
    cases h
  obtain ⟨recordLength, noted, flow', hfield, -, hflow, -, -⟩ :=
    (@ipfixFieldAlone_ok { packet := {} }) hlength fun hsection => (hfixed hsection).elim
  refine ⟨[1, 0], { packet := {} }, flow', ?_, ?_⟩
  · rw [ipfixFieldAlone, hfield]
    exact hflow
  · show flow'.noted ≠ _
    rw [ipfixFieldLength, if_pos h] at hfield
    have hnoted : noted.noted = (.singleByte, 1) := by
      cases hfield
      rfl
    rw [ipfixRecordToFlow_noted hflow, hnoted]
    intro hnone
    cases hnone

/-! ### Main result -/

section Order

variable {decode : TemplateRecord → List UInt8 → Flow → Except Fault Flow}
  {fieldReads : TemplateRecord → List FlowField} {fields' : List (TemplateRecord × List UInt8)}

/-- A template with different types of fields, of which no two write the same part of a flow,
and none reads a part that another one writes. -/
structure OrderFree (decode : TemplateRecord → List UInt8 → Flow → Except Fault Flow)
    (fieldReads : TemplateRecord → List FlowField) (records : List TemplateRecord) : Prop where
  distinct : (records.map TemplateRecord.recordType).Nodup
  writesApart : ∀ x ∈ records, ∀ y ∈ records, y ≠ x → ∀ f, f ≠ .variableFieldLength →
    ¬ (FieldWrites decode x f ∧ FieldWrites decode y f)
  readsApart : ∀ x ∈ records, ∀ y ∈ records, y ≠ x → ∀ f ∈ fieldReads x, ¬ FieldWrites decode y f

theorem OrderFree.perm {records records' : List TemplateRecord}
    (h : OrderFree decode fieldReads records) (hperm : records.Perm records') :
    OrderFree decode fieldReads records' where
  distinct := (hperm.map _).nodup_iff.mp h.distinct
  writesApart x hx y hy := h.writesApart x (hperm.mem_iff.mpr hx) y (hperm.mem_iff.mpr hy)
  readsApart x hx y hy := h.readsApart x (hperm.mem_iff.mpr hx) y (hperm.mem_iff.mpr hy)

/-- The fields of such a template make the same flow in any order, but for the note. -/
theorem OrderFree.withoutNote_eq (h : OrderFree decode fieldReads (fields.map Prod.fst))
    (hreads : ∀ field, ReadsOnly FlowField.get (fieldStep decode) field (fieldReads field.1))
    (hperm : fields.Perm fields') (flow : Flow) :
    (fields.foldl (fun flow field => fieldStep decode field flow) flow).withoutNote
      = (fields'.foldl (fun flow field => fieldStep decode field flow) flow).withoutNote := by
  have htypes := h.distinct
  rw [List.map_map] at htypes
  have hne : ∀ x ∈ fields, ∀ y ∈ fields, y ≠ x → y.1 ≠ x.1 := fun x hx y hy hxy heq =>
    hxy (List.inj_on_of_nodup_map htypes hy hx (congrArg TemplateRecord.recordType heq))
  refine withoutNote_eq_of_get fun f hf => get_foldl_perm hperm htypes.of_map
    (fun x _ => hreads x) (fun x hx y hy hxy r hr hwrites => ?_)
    (fun x hx y hy hxy hwrites => ?_) flow
  · exact h.readsApart x.1 (List.mem_map_of_mem hx) y.1 (List.mem_map_of_mem hy)
      (hne x hx y hy hxy) r hr (fieldWrites_of_writes hwrites)
  · exact h.writesApart x.1 (List.mem_map_of_mem hx) y.1 (List.mem_map_of_mem hy)
      (hne x hx y hy hxy) f hf
      ⟨fieldWrites_of_writes hwrites.1, fieldWrites_of_writes hwrites.2⟩

/-- A frame section without a length of its own is not together with a field that carries one. -/
theorem OrderFree.fixedSections {records : List TemplateRecord}
    (h : OrderFree ipfixFieldAlone ipfixReads records)
    (hsection : ∃ x ∈ records, IsFixedSection x) : ∀ y ∈ records, y.isVariable = false := by
  obtain ⟨x, hx, htype, hfixed⟩ := hsection
  intro y hy
  by_contra hvariable
  have hvariable : y.isVariable = true := eq_true_of_ne_false hvariable
  have hne : y ≠ x := by
    rintro rfl
    rw [hfixed] at hvariable
    cases hvariable
  refine h.readsApart x hx y hy hne .variableFieldLength ?_ (variable_writes hvariable)
  rw [ipfixReads, if_neg (by rw [htype]; decide), if_neg (by rw [htype]; decide), if_pos htype,
    if_neg (by rw [hfixed]; decide)]
  exact List.mem_cons_self

/-- The packets of a record of NetFlow v9. -/
theorem netflow9FlowsetToStore_emitted {timeSec : UInt32} {packet : ParsedPacket}
    (hfresh : freshPacket context timeSec s = (s, .ok packet))
    (hfields : FieldsAt m netflow9LengthAt 0 fields)
    (hle : ∀ field ∈ fields, field.1.recordLength.toNat ≤ 65535) :
    (netflow9FlowsetToStore context timeSec (fields.map Prod.fst) m s).1.emitted
      = s.emitted ++ netflow9Packets
          (fields.foldl (fun flow field => fieldStep netflow9FieldAlone field flow)
            { packet }).withoutNote := by
  obtain ⟨samplingRates, hrun⟩ := (@netflow9Fields_run m context s 0 { packet }) hfields hle
  rw [netflow9FlowsetToStore, bind_of_ok hfresh, bind_of_ok hrun]
  rfl

theorem netflow9_fieldOrder {timeSec : UInt32}
    (horder : OrderFree netflow9FieldAlone netflow9Reads (fields.map Prod.fst))
    (hperm : fields.Perm fields') (hle : ∀ field ∈ fields, field.1.recordLength.toNat ≤ 65535)
    (hfields : FieldsAt m netflow9LengthAt 0 fields)
    {m' : Memory} (hfields' : FieldsAt m' netflow9LengthAt 0 fields') :
    (netflow9FlowsetToStore context timeSec (fields'.map Prod.fst) m' s).1.emitted
      = (netflow9FlowsetToStore context timeSec (fields.map Prod.fst) m s).1.emitted := by
  obtain ⟨packet, hfresh⟩ : ∃ packet, freshPacket context timeSec s = (s, .ok packet) := ⟨_, rfl⟩
  rw [netflow9FlowsetToStore_emitted hfresh hfields hle,
    netflow9FlowsetToStore_emitted hfresh hfields' fun field hmem =>
      hle field (hperm.mem_iff.mpr hmem),
    horder.withoutNote_eq readsOnly_netflow9 hperm]

/-- The packets of a record of IPFIX: none if a field is empty or the record too long, and else
that of the fields that are decoded alone. -/
theorem ipfixDataSetToStore_emitted {timeSec : UInt32} {setMaximumLength : ℕ} {t : Template}
    {packet : ParsedPacket} (hfresh : freshPacket context timeSec s = (s, .ok packet))
    (ht : t.records = fields.map Prod.fst)
    (horder : OrderFree ipfixFieldAlone ipfixReads t.records)
    (hfields : ∀ field ∈ fields, IsIpfixField field)
    (hbytes : m.Holds 0 (fields.map Prod.snd).flatten) :
    ((∀ field ∈ fields, HasFieldLength field) ∧
        (fields.map Prod.snd).flatten.length ≤ setMaximumLength →
      (ipfixDataSetToStore context timeSec t setMaximumLength m s).1.emitted
        = s.emitted ++ [ipfixPacket
          (fields.foldl (fun flow field => fieldStep ipfixFieldAlone field flow)
            { packet }).withoutNote]) ∧
    (¬ ((∀ field ∈ fields, HasFieldLength field) ∧
        (fields.map Prod.snd).flatten.length ≤ setMaximumLength) →
      (ipfixDataSetToStore context timeSec t setMaximumLength m s).1.emitted = s.emitted) := by
  obtain ⟨packet', hfresh', hstore⟩ :=
    (@run_ipfixDataSetToStore m setMaximumLength context timeSec t s)
  rw [hfresh] at hfresh'
  obtain rfl : packet = packet' := Except.ok.inj (congrArg Prod.snd hfresh')
  rw [hstore, ht]
  constructor
  · rintro ⟨hlengths, hend⟩
    have hsections : (∃ field ∈ fields, IsFixedSection field.1) →
        ({ packet } : Flow).noted.1 = .unknown ∧ ∀ field ∈ fields, field.1.isVariable = false := by
      rintro ⟨field, hmem, hsection⟩
      rw [ht] at horder
      exact ⟨rfl, fun field' hmem' => horder.fixedSections
        ⟨field.1, List.mem_map_of_mem hmem, hsection⟩ field'.1 (List.mem_map_of_mem hmem')⟩
    obtain ⟨length, hrun⟩ := (@ipfixFields_run m 0 { packet } fields setMaximumLength) hlengths
      hbytes (by omega) hsections
    rw [hrun]
    rfl
  · intro hnot
    cases hrun : ipfixFields m setMaximumLength (fields.map Prod.fst) 0 { packet } with
    | ok decoded =>
      obtain ⟨hlengths, hend⟩ := ipfixFields_fits hfields hbytes (Nat.zero_le _) hrun
      exact (hnot ⟨hlengths, by omega⟩).elim
    | error fault => rfl

theorem ipfix_fieldOrder {timeSec : UInt32} {setMaximumLength : ℕ} {t t' : Template}
    (horder : OrderFree ipfixFieldAlone ipfixReads t.records) (hperm : fields.Perm fields')
    (ht : t.records = fields.map Prod.fst) (ht' : t'.records = fields'.map Prod.fst)
    (hfields : ∀ field ∈ fields, IsIpfixField field)
    (hbytes : m.Holds 0 (fields.map Prod.snd).flatten)
    {m' : Memory} (hbytes' : m'.Holds 0 (fields'.map Prod.snd).flatten) :
    (ipfixDataSetToStore context timeSec t' setMaximumLength m' s).1.emitted
      = (ipfixDataSetToStore context timeSec t setMaximumLength m s).1.emitted := by
  obtain ⟨packet, hfresh⟩ : ∃ packet, freshPacket context timeSec s = (s, .ok packet) := ⟨_, rfl⟩
  have horder' : OrderFree ipfixFieldAlone ipfixReads t'.records := by
    rw [ht] at horder
    rw [ht']
    exact horder.perm (hperm.map Prod.fst)
  -- whether the record is decoded at all does not depend on the order
  have hflatten : (fields'.map Prod.snd).flatten.length = (fields.map Prod.snd).flatten.length :=
    (hperm.map Prod.snd).flatten.length_eq.symm
  have hlengths : (∀ field ∈ fields', HasFieldLength field) ↔
      ∀ field ∈ fields, HasFieldLength field :=
    forall_congr' fun field => by rw [hperm.mem_iff]
  have hrun := (@ipfixDataSetToStore_emitted m context s fields timeSec setMaximumLength) hfresh
    ht horder hfields hbytes
  have hrun' := (@ipfixDataSetToStore_emitted m' context s fields' timeSec setMaximumLength) hfresh
    ht' horder' (fun field hmem => hfields field (hperm.mem_iff.mpr hmem)) hbytes'
  rw [hlengths, hflatten] at hrun'
  by_cases hfits : (∀ field ∈ fields, HasFieldLength field) ∧
      (fields.map Prod.snd).flatten.length ≤ setMaximumLength
  · rw [hrun.1 hfits, hrun'.1 hfits]
    rw [ht] at horder
    rw [horder.withoutNote_eq readsOnly_ipfix hperm]
  · rw [hrun.2 hfits, hrun'.2 hfits]

end Order

/-- **The order of fields is of no account.**  If no two fields of a data template write the same
part of the packet or of the meta information, and none reads a part that another one writes, a
record of NetFlow v9 or IPFIX gives the same packets with its fields in any order. -/
theorem fieldOrder_irrelevant (context : NetflowContext) (timeSec : UInt32)
    {fields fields' : List (TemplateRecord × List UInt8)} (hperm : fields.Perm fields')
    (m m' : Memory) (s : CollectorState) :
    (OrderFree netflow9FieldAlone netflow9Reads (fields.map Prod.fst) →
      (∀ field ∈ fields, field.1.recordLength.toNat ≤ 65535) →
      FieldsAt m netflow9LengthAt 0 fields → FieldsAt m' netflow9LengthAt 0 fields' →
      (netflow9FlowsetToStore context timeSec (fields'.map Prod.fst) m' s).1.emitted
        = (netflow9FlowsetToStore context timeSec (fields.map Prod.fst) m s).1.emitted) ∧
    ∀ (t t' : Template) (setMaximumLength : ℕ),
      t.records = fields.map Prod.fst → t'.records = fields'.map Prod.fst →
      OrderFree ipfixFieldAlone ipfixReads t.records → (∀ field ∈ fields, IsIpfixField field) →
      m.Holds 0 (fields.map Prod.snd).flatten → m'.Holds 0 (fields'.map Prod.snd).flatten →
      (ipfixDataSetToStore context timeSec t' setMaximumLength m' s).1.emitted
        = (ipfixDataSetToStore context timeSec t setMaximumLength m s).1.emitted := by
  constructor
  · intro horder hle hfields hfields'
    exact netflow9_fieldOrder horder hperm hle hfields hfields'
  · intro t t' setMaximumLength ht ht' horder hfields hbytes hbytes'
    exact ipfix_fieldOrder horder hperm ht ht' hfields hbytes hbytes'

/-! ### A template in two orders -/

/-- What the decoding by a rule writes, storing the bytes does. -/
theorem FieldRule.writes_of_decode {n : ℕ} {flow' : Flow} {f : FlowField}
    (h : rule.decode m n flow = .ok flow') (hne : f.get flow' ≠ f.get flow) :
    ∃ bytes, f.get (rule.store bytes flow) ≠ f.get flow := by
  rw [FieldRule.decode] at h
  split at h
  · simp only [bind_eq_ok_iff, pure_eq_ok_iff] at h
    obtain ⟨bytes, -, rfl⟩ := h
    exact ⟨bytes, hne⟩
  · obtain rfl := Except.ok.inj h
    exact (hne rfl).elim

/-- A rule writes one part of a flow at most. -/
def FieldRule.WritesOnly (rule : FieldRule Flow) (part : FlowField) : Prop :=
  ∀ bytes flow f, f ≠ part → f.get (rule.store bytes flow) = f.get flow

variable {part : FlowField}

theorem FieldRule.WritesOnly.eq_of_decode {n : ℕ} {flow' : Flow} {f : FlowField}
    (hrule : rule.WritesOnly part) (h : rule.decode m n flow = .ok flow')
    (hne : f.get flow' ≠ f.get flow) : f = part := by
  obtain ⟨bytes, hwrites⟩ := FieldRule.writes_of_decode h hne
  by_contra hpart
  exact hwrites (hrule bytes flow f hpart)

theorem netflow9_writes_only (htype : record.recordType ≠ 104)
    (h : netflow9FieldRule record.recordType.toNat = some rule) (hrule : rule.WritesOnly part)
    (f : FlowField) (hwrites : FieldWrites netflow9FieldAlone record f) : f = part := by
  obtain ⟨bytes, flow, flow', hflow, hne⟩ := hwrites
  rw [netflow9FieldAlone, netflow9DecodeField, if_neg htype, h] at hflow
  exact hrule.eq_of_decode hflow hne

theorem ipfix_writes_only (hfixed : record.isVariable = false) (htype : record.recordType ≠ 315)
    (h : ipfixFieldRule record.recordType.toNat = some rule) (hrule : rule.WritesOnly part)
    (f : FlowField) (hwrites : FieldWrites ipfixFieldAlone record f) : f = part := by
  obtain ⟨bytes, flow, flow', hflow, hne⟩ := hwrites
  rw [ipfixFieldAlone, ipfixFieldLength, if_neg (by rw [hfixed]; decide), ok_bind] at hflow
  dsimp only at hflow
  rw [ipfixRecordToFlow, if_neg htype, h] at hflow
  exact hrule.eq_of_decode hflow hne

/-- The field of a protocol, 6. -/
def protocolField : TemplateRecord × List UInt8 := ({ recordType := 4, recordLength := 1 }, [6])

/-- The field of a source port, 80. -/
def sourcePortField : TemplateRecord × List UInt8 :=
  ({ recordType := 7, recordLength := 2 }, [0, 80])

/-- The field of a source port of TCP, 80. -/
def tcpSourcePortField : TemplateRecord × List UInt8 :=
  ({ recordType := 182, recordLength := 2 }, [0, 80])

theorem protocol_writesOnly (h : sharedFieldRule 4 = some rule) : rule.WritesOnly .protocol := by
  cases h
  intro bytes flow f hf
  cases f <;> first | rfl | exact (hf rfl).elim

theorem sourcePort_writesOnly (h : sharedFieldRule 7 = some rule) :
    rule.WritesOnly .sourcePort := by
  cases h
  intro bytes flow f hf
  cases f <;> first | rfl | exact (hf rfl).elim

theorem tcpSourcePort_writesOnly (h : ipfixFieldRule 182 = some rule) :
    rule.WritesOnly .sourcePort := by
  cases h
  intro bytes flow f hf
  cases f <;> first | rfl | exact (hf rfl).elim

theorem writesApart_pair {decode : TemplateRecord → List UInt8 → Flow → Except Fault Flow}
    {x y : TemplateRecord} {fx fy : FlowField} (hx : ∀ f, FieldWrites decode x f → f = fx)
    (hy : ∀ f, FieldWrites decode y f → f = fy) (hne : fx ≠ fy) :
    ∀ a ∈ [x, y], ∀ b ∈ [x, y], b ≠ a → ∀ f,
      ¬ (FieldWrites decode a f ∧ FieldWrites decode b f) := by
  rintro a ha b hb hab f ⟨hwa, hwb⟩
  simp only [List.mem_cons, List.not_mem_nil, or_false] at ha hb
  obtain rfl | rfl := ha <;> obtain rfl | rfl := hb
  · exact hab rfl
  · exact hne ((hx f hwa).symm.trans (hy f hwb))
  · exact hne ((hx f hwb).symm.trans (hy f hwa))
  · exact hab rfl

theorem orderFree_pair {decode : TemplateRecord → List UInt8 → Flow → Except Fault Flow}
    {fieldReads : TemplateRecord → List FlowField} {x y : TemplateRecord} {fx fy : FlowField}
    (htype : x.recordType ≠ y.recordType) (hx : ∀ f, FieldWrites decode x f → f = fx)
    (hy : ∀ f, FieldWrites decode y f → f = fy) (hne : fx ≠ fy)
    (hreads : ∀ a ∈ [x, y], fieldReads a = []) : OrderFree decode fieldReads [x, y] where
  distinct := List.nodup_cons.mpr ⟨fun h => htype (List.mem_singleton.mp h),
    List.nodup_singleton _⟩
  writesApart a ha b hb hab f _ := writesApart_pair hx hy hne a ha b hb hab f
  readsApart a ha b _ _ f hf := by
    rw [hreads a ha] at hf
    cases hf

theorem ipfix_protocol_only (f : FlowField)
    (h : FieldWrites ipfixFieldAlone protocolField.1 f) : f = .protocol :=
  ipfix_writes_only rfl (by decide) rfl (protocol_writesOnly rfl) f h

/-- A protocol and a source port of either protocol may be put in any order. -/
theorem fieldOrder_irrelevant_sourcePort :
    (netflow9FlowsetToStore exporter 0 [sourcePortField.1, protocolField.1]
        (ofBytes [0, 80, 6]) {}).1.emitted
      = (netflow9FlowsetToStore exporter 0 [protocolField.1, sourcePortField.1]
        (ofBytes [6, 0, 80]) {}).1.emitted ∧
    (ipfixDataSetToStore exporter 0 { records := [sourcePortField.1, protocolField.1] } 3
        (ofBytes [0, 80, 6]) {}).1.emitted
      = (ipfixDataSetToStore exporter 0 { records := [protocolField.1, sourcePortField.1] } 3
        (ofBytes [6, 0, 80]) {}).1.emitted := by
  obtain ⟨hnetflow9, hipfix⟩ := fieldOrder_irrelevant exporter 0
    (List.Perm.swap sourcePortField protocolField []) (ofBytes [6, 0, 80]) (ofBytes [0, 80, 6]) {}
  constructor
  · refine hnetflow9 (orderFree_pair (by decide)
      (netflow9_writes_only (by decide) rfl (protocol_writesOnly rfl))
      (netflow9_writes_only (by decide) rfl (sourcePort_writesOnly rfl))
      (by decide) (by decide)) (by decide) ?_ ?_
    · exact ⟨rfl, holds_ofBytes_iff.mpr (by decide), rfl, holds_ofBytes_iff.mpr (by decide),
        trivial⟩
    · exact ⟨rfl, holds_ofBytes_iff.mpr (by decide), rfl, holds_ofBytes_iff.mpr (by decide),
        trivial⟩
  · refine hipfix _ _ 3 rfl rfl (orderFree_pair (by decide) ipfix_protocol_only
      (ipfix_writes_only rfl (by decide) rfl (sourcePort_writesOnly rfl))
      (by decide) (by decide)) ?_ (holds_ofBytes _) (holds_ofBytes _)
    exact List.forall_mem_cons.mpr ⟨.inl rfl, List.forall_mem_singleton.mpr (.inl rfl)⟩

/-- A source port of TCP in front of the protocol is lost. -/
theorem portBeforeProtocol_differs :
    ¬ ∀ (context : NetflowContext) (timeSec : UInt32)
      (fields fields' : List (TemplateRecord × List UInt8)), fields.Perm fields' →
      ∀ (m m' : Memory) (s : CollectorState) (t t' : Template) (setMaximumLength : ℕ),
      t.records = fields.map Prod.fst → t'.records = fields'.map Prod.fst →
      (t.records.map TemplateRecord.recordType).Nodup →
      (∀ x ∈ t.records, ∀ y ∈ t.records, y ≠ x → ∀ f,
        ¬ (FieldWrites ipfixFieldAlone x f ∧ FieldWrites ipfixFieldAlone y f)) →
      (∀ field ∈ fields, IsIpfixField field) →
      m.Holds 0 (fields.map Prod.snd).flatten → m'.Holds 0 (fields'.map Prod.snd).flatten →
      (ipfixDataSetToStore context timeSec t' setMaximumLength m' s).1.emitted
        = (ipfixDataSetToStore context timeSec t setMaximumLength m s).1.emitted := by
  intro hsame
  have hfields : ∀ field ∈ [protocolField, tcpSourcePortField], IsIpfixField field :=
    List.forall_mem_cons.mpr ⟨.inl rfl, List.forall_mem_singleton.mpr (.inl rfl)⟩
  have hemitted := hsame ipfixExporter 0 [protocolField, tcpSourcePortField] _
    (List.Perm.swap tcpSourcePortField protocolField []) (ofBytes [6, 0, 80])
    (ofBytes [0, 80, 6]) {} { records := [protocolField.1, tcpSourcePortField.1] }
    { records := [tcpSourcePortField.1, protocolField.1] } 3 rfl rfl (by decide)
    (writesApart_pair ipfix_protocol_only
      (ipfix_writes_only rfl (by decide) rfl (tcpSourcePort_writesOnly rfl))
      (by decide)) hfields (holds_ofBytes _) (holds_ofBytes _)
  have hports := congrArg (List.map ParsedPacket.sourcePort) hemitted
  exact absurd hports (by decide)

end FastNetMon
