/-
FastNetMon/NetflowV9.lean

The collector of NetFlow v9 (`netflow_v9_collector.cpp`).

A datagram is a header and a number of flowsets: templates, options templates, and data
flowsets that are decoded with a template learned before.  Reserved flowsets leave the
body of the loop early.  Lengths and offsets are numbers: a datagram is not longer than
65535 bytes, so the sums of the source do not wrap.
-/
import FastNetMon.NetflowCollector
import FastNetMon.NetflowV9Template

namespace FastNetMon

open Memory

/-! ### Flow records -/

/-- The fields of data records but for the two that `netflow9_record_to_flow` decodes
otherwise. -/
def netflow9FieldRule : ℕ → Option (FieldRule Flow)
  -- TCP_FLAGS
  | 6 => some <| .upTo 1 <| onPacket fun bytes packet =>
      { packet with flags := .ofNat (memcpy 1 packet.flags.toNat bytes) }
  -- FLOW_SAMPLER_ID
  | 48 => some <| .ofLengths [1, 2, 4] fun _ flow => flow
  -- FORWARDING_STATUS
  | 89 => some <| .ofLengths [1] storeForwardingStatus
  -- LAYER2_PACKET_SECTION_SIZE
  | 103 => some <| .ofLengths [2] <| onMeta fun bytes flowMeta =>
      { flowMeta with dataLinkFrameSize := .ofNat (bigEndian bytes) }
  -- FLOW_ID
  | 148 => some <| .ofLengths [4] <| onMeta fun bytes flowMeta =>
      { flowMeta with flowId := .ofNat (bigEndian bytes) }
  -- NAT_EVENT
  | 230 => some <| .ofLengths [1] <| onMeta fun _ flowMeta => { flowMeta with natEvent := true }
  -- BYTES_FROM_SOURCE_TO_DESTINATION
  | 231 => some <| .ofLengths [4, 8] <| onMeta fun bytes flowMeta =>
      { flowMeta with bytesFromSourceToDestination := .ofNat (bigEndian bytes) }
  -- BYTES_FROM_DESTINATION_TO_SOURCE
  | 232 => some <| .ofLengths [2, 4, 8] <| onMeta fun bytes flowMeta =>
      { flowMeta with bytesFromDestinationToSource := .ofNat (bigEndian bytes) }
  -- PACKETS_FROM_SOURCE_TO_DESTINATION
  | 298 => some <| .ofLengths [4, 8] <| onMeta fun bytes flowMeta =>
      { flowMeta with packetsFromSourceToDestination := .ofNat (bigEndian bytes) }
  -- PACKETS_FROM_DESTINATION_TO_SOURCE
  | 299 => some <| .ofLengths [4, 8] <| onMeta fun bytes flowMeta =>
      { flowMeta with packetsFromDestinationToSource := .ofNat (bigEndian bytes) }
  -- SELECTOR_TOTAL_PACKETS_OBSERVED
  | 318 => some <| .ofLengths [8] <| onMeta fun bytes flowMeta =>
      { flowMeta with observedPackets := .ofNat (bigEndian bytes) }
  -- SELECTOR_TOTAL_PACKETS_SELECTED
  | 319 => some <| .ofLengths [8] <| onMeta fun bytes flowMeta =>
      { flowMeta with selectedPackets := .ofNat (bigEndian bytes) }
  | recordType => sharedFieldRule recordType

/-- `NETFLOW9_LAYER2_PACKET_SECTION_DATA`: the bytes of the field are a packet. -/
def netflow9PacketSection (m : Memory) (recordLength : UInt32) (flow : Flow) :
    Except Fault Flow := do
  let fullPacketLength :=
    if flow.flowMeta.dataLinkFrameSize ≠ 0 then flow.flowMeta.dataLinkFrameSize
    else recordLength.toUInt64
  let (result, nestedPacket) ←
    parseRawPacketToSimplePacketFull m 0 fullPacketLength.toUInt32.toInt32 recordLength.toInt32
      flow.flowMeta.nestedPacket { readPacketLengthFromIpHeader := true }
  -- what the parser filled in before an error stays in the nested packet
  let flowMeta := { flow.flowMeta with nestedPacket }
  if result = .success then
    return { flow with flowMeta := { flowMeta with nestedPacketParsed := true } }
  else return { flow with flowMeta }

/-- What a field changes in the flow. -/
def netflow9DecodeField (m : Memory) (record : TemplateRecord) (flow : Flow) :
    Except Fault Flow :=
  if record.recordType = 104 then netflow9PacketSection m record.recordLength flow
  else
    match netflow9FieldRule record.recordType.toNat with
    | some rule => rule.decode m record.recordLength.toNat flow
    | none => .ok flow

/-- `NETFLOW9_SAMPLING_INTERVAL`, which some devices send in the data. -/
def netflow9SamplingInterval (m : Memory) (record : TemplateRecord) : Except Fault UInt32 :=
  if record.recordType = 34 ∧ record.recordLength = 4 then m.readNtohl 0 else .ok 0

variable (context : NetflowContext)

/-- `netflow9_record_to_flow`; the memory is seen from the field. -/
def netflow9RecordToFlow (m : Memory) (record : TemplateRecord) (flow : Flow) :
    Collect Flow := do
  let flow ← netflow9DecodeField m record flow
  let samplingRate ← netflow9SamplingInterval m record
  updateSamplingRate context samplingRate
  return flow

/-- Take the packet of Netflow Lite over, if there is one. -/
def netflow9OverrideFromNested (flow : Flow) : ParsedPacket :=
  if flow.flowMeta.nestedPacketParsed then
    let packet := overridePacketFieldsFromNestedPacket flow.packet flow.flowMeta.nestedPacket
    if flow.flowMeta.selectedPackets ≠ 0 then
      -- the quotient is computed as a `double` and cut down to 32 bits
      { packet with sampleRatio :=
          (flow.flowMeta.observedPackets / flow.flowMeta.selectedPackets).toUInt32 }
    else packet
  else flow.packet

/-- The two packets of a bidirectional flow of Cisco ASA. -/
def netflow9BidirectionalPackets (flowMeta : NetflowMetaInfo) (packet : ParsedPacket) :
    List ParsedPacket :=
  let packet := { packet with
    length := flowMeta.bytesFromSourceToDestination
    ipLength := flowMeta.bytesFromSourceToDestination
    numberOfPackets := flowMeta.packetsFromSourceToDestination }
  let reversePacket := { packet with
    length := flowMeta.bytesFromDestinationToSource
    ipLength := flowMeta.bytesFromDestinationToSource
    numberOfPackets := flowMeta.packetsFromDestinationToSource
    srcIp := packet.dstIp
    dstIp := packet.srcIp
    srcIpv6 := packet.dstIpv6
    dstIpv6 := packet.srcIpv6
    sourcePort := packet.destinationPort
    destinationPort := packet.sourcePort
    inputInterface := packet.outputInterface
    outputInterface := packet.inputInterface
    srcAsn := packet.dstAsn
    dstAsn := packet.srcAsn
    srcCountry := packet.dstCountry
    dstCountry := packet.srcCountry }
  [packet, reversePacket]

/-- The packets that `netflow9_flowset_to_store` hands over for a decoded flow. -/
def netflow9Packets (flow : Flow) : List ParsedPacket :=
  let packet := netflow9OverrideFromNested flow
  if flow.flowMeta.natEvent then []
  else
    let packet := clearIcmpPorts (adjustProtocolVersion packet)
    if packet.length = 0 ∧ packet.numberOfPackets = 0 ∧ flow.flowMeta.flowId ≠ 0 then
      netflow9BidirectionalPackets flow.flowMeta packet
    else [packet]

/-- `netflow9_flowset_to_store`; the memory is seen from the record. -/
def netflow9FlowsetToStore (timeSec : UInt32) (templateRecords : List TemplateRecord)
    (m : Memory) : Collect Unit := do
  let packet ← freshPacket context timeSec
  let flow ← forFields (netflow9RecordToFlow context) m templateRecords 0 { packet }
  processFunc (netflow9Packets flow)

/-! ### Options records -/

/-- The local variables of `netflow9_options_flowset_to_store`. -/
structure Netflow9Options where
  samplingRate : UInt32 := 0
  interfaceId : UInt32 := 0
  interfaceDescription : List UInt8 := []
  deviceTimeouts : DeviceTimeouts := {}
deriving DecidableEq, Repr

/-- The fields of options records. -/
def netflow9OptionsRule : ℕ → Option (FieldRule Netflow9Options)
  -- INPUT_SNMP
  | 10 => some <| .ofLengths [4, 2] fun bytes options =>
      { options with interfaceId := .ofNat (bigEndian bytes) }
  -- SAMPLING_INTERVAL
  | 34 => some <| .ofLengths [2, 4] fun bytes options =>
      { options with samplingRate := .ofNat (bigEndian bytes) }
  -- ACTIVE_TIMEOUT
  | 36 => some <| .ofLengths [2] fun bytes options =>
      { options with deviceTimeouts :=
          { options.deviceTimeouts with activeTimeout := some (.ofNat (bigEndian bytes)) } }
  -- INACTIVE_TIMEOUT
  | 37 => some <| .ofLengths [2] fun bytes options =>
      { options with deviceTimeouts :=
          { options.deviceTimeouts with inactiveTimeout := some (.ofNat (bigEndian bytes)) } }
  -- FLOW_SAMPLER_ID
  | 48 => some <| .ofLengths [4, 2] fun _ options => options
  -- FLOW_SAMPLER_RANDOM_INTERVAL
  | 50 => some <| .ofLengths [2, 4] fun bytes options =>
      { options with samplingRate := .ofNat (bigEndian bytes) }
  -- INTERFACE_DESCRIPTION, up to the first zero byte
  | 83 => some <| .upTo 128 fun bytes options =>
      { options with interfaceDescription := bytes.takeWhile (· ≠ 0) }
  | _ => none

/-- One field of an options record. -/
def netflow9OptionsField (m : Memory) (record : TemplateRecord) (options : Netflow9Options) :
    Collect Netflow9Options :=
  match netflow9OptionsRule record.recordType.toNat with
  | some rule => liftM (rule.decode m record.recordLength.toNat options)
  | none => pure options

/-- `netflow9_options_flowset_to_store`; the memory is seen from the record. -/
def netflow9OptionsFlowsetToStore (flowTemplate : Template) (m : Memory) : Collect Unit := do
  -- the scope fields are skipped
  let pkt := m.shift flowTemplate.optionScopeLength.toNat
  let options ← forFields netflow9OptionsField pkt flowTemplate.records 0 {}
  updateSamplingRate context options.samplingRate
  updateDeviceFlowTimeouts context options.deviceTimeouts

/-! ### Flowsets -/

/-- `process_netflow_v9_template`. -/
def processTemplateFlowset (sourceId : UInt32) (m : Memory) (pkt flowsetLength : ℕ) :
    Collect Unit := do
  let (learned, ending) :=
    processNetflowV9Template context.currentInaccurateTime m pkt flowsetLength
  learned.forM fun fieldTemplate => storeTemplate context sourceId fieldTemplate.template
  ending

/-- `process_netflow_v9_options_template`. -/
def processOptionsTemplateFlowset (sourceId : UInt32) (m : Memory) (pkt flowsetLength : ℕ) :
    Collect Unit := do
  let learned ←
    processNetflowV9OptionsTemplate context.currentInaccurateTime m pkt flowsetLength
  storeTemplate context sourceId learned.template

/-- One record of a data flowset. -/
def netflow9Record (timeSec : UInt32) (fieldTemplate : Template) (m : Memory) : Collect Unit :=
  match fieldTemplate.type with
  | .data => netflow9FlowsetToStore context timeSec fieldTemplate.records m
  | .options => netflow9OptionsFlowsetToStore context fieldTemplate m
  | .unknown => pure ()

/-- `process_netflow_v9_data` with a known template; the memory is seen from the flowset. -/
def processNetflowV9Records (timeSec : UInt32) (fieldTemplate : Template) (m : Memory)
    (flowsetLength : ℕ) : Collect Unit := do
  rejectIf (fieldTemplate.records = [])
  rejectIf (fieldTemplate.totalLength = 0)
  let totalLength := fieldTemplate.totalLength.toNat
  let numberOfFlows := (flowsetLength - 4) / totalLength
  rejectIf (numberOfFlows = 0 ∨ numberOfFlows > flowsPerPacketMaximumNumber)
  if fieldTemplate.type = .unknown then pure ()
  else
    processRecords m flowsetLength totalLength (netflow9Record context timeSec fieldTemplate)
      numberOfFlows 4

/-- `process_netflow_v9_data`; the memory is seen from the flowset. -/
def processNetflowV9Data (timeSec sourceId : UInt32) (m : Memory) (flowsetLength : ℕ) :
    Collect Unit := do
  rejectIf (flowsetLength < 4)
  let flowsetId ← m.readNtohs 0
  let s ← Procedure.get
  match peerFindTemplate s.templates sourceId flowsetId.toUInt32
      context.clientAddressInStringFormat with
  | none => pure ()
  | some fieldTemplate => processNetflowV9Records context timeSec fieldTemplate m flowsetLength

/-! ### Datagrams -/

/-- A flowset with its header read; gives the next offset. -/
def processFlowsetOfId (timeSec sourceId : UInt32) (packet : Memory) (offset : ℕ)
    (flowsetId flowsetLength : UInt16) : Collect ℕ :=
  if flowsetId = 0 then do
    processTemplateFlowset context sourceId packet offset flowsetLength.toNat
    return offset + flowsetLength.toNat
  else if flowsetId = 1 then do
    processOptionsTemplateFlowset context sourceId packet offset flowsetLength.toNat
    return offset + flowsetLength.toNat
  else if flowsetId < 256 then
    -- `continue` leaves the offset where it is
    return offset
  else do
    processNetflowV9Data context timeSec sourceId (packet.shift offset) flowsetLength.toNat
    return offset + flowsetLength.toNat

/-- The body of the loop over the flowsets; gives the next offset. -/
def processFlowset (timeSec sourceId : UInt32) (packet : Memory) (packetLength offset : ℕ) :
    Collect ℕ := do
  rejectIf (offset ≥ packetLength)
  rejectIf (offset + 4 > packetLength)
  let flowsetId ← packet.readNtohs offset
  let flowsetLength ← packet.readNtohs (offset + 2)
  rejectIf (offset + flowsetLength.toNat > packetLength)
  processFlowsetOfId context timeSec sourceId packet offset flowsetId flowsetLength

/-- The loop over the flowsets. -/
def processFlowsets (timeSec sourceId : UInt32) (packet : Memory) (packetLength : ℕ) :
    (left offset : ℕ) → Collect Unit
  | 0, _ => pure ()
  | left + 1, offset => do
      let offset ← processFlowset context timeSec sourceId packet packetLength offset
      if offset = packetLength then pure ()
      else processFlowsets timeSec sourceId packet packetLength left offset

/-- `process_netflow_packet_v9`. -/
def processNetflowPacketV9 (packet : Memory) (packetLength : ℕ) : Collect Unit := do
  rejectIf (packetLength < 20)
  let flowsetCountTotal ← packet.readNtohs 2
  rejectIf (flowsetCountTotal.toNat > setsPerPacketMaximumNumber)
  let timeSec ← packet.readNtohl 8
  let sourceId ← packet.readNtohl 16
  processFlowsets context timeSec sourceId packet packetLength flowsetCountTotal.toNat 20

end FastNetMon
