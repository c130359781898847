/-
FastNetMon/Ipfix.lean

The collector of IPFIX (`ipfix_collector.cpp`).

A message is a header and sets: templates, options templates, and data sets that are
decoded with a template learned before.  The records of a data set have the length that
the template gives, or, where a field carries its own length, they are as long as their
fields.  Memories are seen from the set, the record or the field.
-/
import FastNetMon.NetflowCollector
import FastNetMon.IpfixTemplate

namespace FastNetMon

open Memory

/-! ### Fields of data records -/

/-- A port that is only taken from flows of one protocol. -/
def FieldRule.ofProtocol (protocol : UInt32)
    (change : List UInt8 → ParsedPacket → ParsedPacket) : FieldRule Flow where
  accepts flow recordLength := flow.packet.protocol == protocol && recordLength == 2
  store := onPacket change

/-- The fields of data records but for the one that `ipfix_record_to_flow` decodes
otherwise. -/
def ipfixFieldRule : ℕ → Option (FieldRule Flow)
  -- TCP_FLAGS, in the last byte
  | 6 => some <| .ofLengths [1, 2] <| onPacket fun bytes packet =>
      { packet with flags := bytes.getLast?.getD 0 }
  -- FRAGMENT_IDENTIFICATION
  | 54 => some <| .ofLengths [4] fun _ flow => flow
  -- FLOW_DIRECTION
  | 61 => some <| .ofLengths [1] fun _ flow => flow
  -- IPV6_NEXT_HOP
  | 62 => some <| .ofLengths [16] <| onMeta fun bytes flowMeta =>
      { flowMeta with bgpNextHopIpv6Set := true, bgpNextHopIpv6 := toVector 16 bytes }
  -- FORWARDING_STATUS
  | 89 => some <| .ofLengths [1, 4] storeForwardingStatus
  -- FLOW_END_REASON
  | 136 => some <| .ofLengths [1] fun _ flow => flow
  -- FLOW_START_NANOSECONDS
  | 156 => some <| .ofLengths [8] <| onPacket fun bytes packet =>
      { packet with flowStart := .ofNat (bigEndian bytes) / 1000000 }
  -- FLOW_END_NANOSECONDS
  | 157 => some <| .ofLengths [8] <| onPacket fun bytes packet =>
      { packet with flowEnd := .ofNat (bigEndian bytes) / 1000000 }
  -- UDP_SOURCE_PORT
  | 180 => some <| .ofProtocol 17 fun bytes packet =>
      { packet with sourcePort := .ofNat (bigEndian bytes) }
  -- UDP_DESTINATION_PORT
  | 181 => some <| .ofProtocol 17 fun bytes packet =>
      { packet with destinationPort := .ofNat (bigEndian bytes) }
  -- TCP_SOURCE_PORT
  | 182 => some <| .ofProtocol 6 fun bytes packet =>
      { packet with sourcePort := .ofNat (bigEndian bytes) }
  -- TCP_DESTINATION_PORT
  | 183 => some <| .ofProtocol 6 fun bytes packet =>
      { packet with destinationPort := .ofNat (bigEndian bytes) }
  | recordType => sharedFieldRule recordType

/-- The bytes in front of the payload of a field that carries its length. -/
def VariableLengthEncoding.headerLength : VariableLengthEncoding → ℕ
  | .unknown => 0
  | .singleByte => 1
  | .twoByte => 3

/-- `IPFIX_DATALINK_FRAME_SECTION`: the payload of the field is a packet.  Its length is
the one of the last field that carried its length. -/
def ipfixFrameSection (m : Memory) (flow : Flow) : Except Fault Flow :=
  let encoding := flow.flowMeta.variableFieldLengthEncoding
  let length := flow.flowMeta.variableFieldLength
  if encoding = .unknown ∨ length = 0 then .ok flow
  else do
    let (result, nestedPacket) ←
      parseRawPacketToSimplePacketFull m encoding.headerLength length.toUInt32.toInt32
        length.toUInt32.toInt32 flow.flowMeta.nestedPacket { readPacketLengthFromIpHeader := true }
    -- what the parser filled in before an error stays in the nested packet
    let flowMeta := { flow.flowMeta with nestedPacket }
    if result = .success then
      return { flow with flowMeta := { flowMeta with nestedPacketParsed := true } }
    else return { flow with flowMeta }

/-- `ipfix_record_to_flow`; the memory is seen from the field. -/
def ipfixRecordToFlow (m : Memory) (recordType recordLength : UInt32) (flow : Flow) :
    Except Fault Flow :=
  if recordType = 315 then ipfixFrameSection m flow
  else
    match ipfixFieldRule recordType.toNat with
    | some rule => rule.decode m recordLength.toNat flow
    | none => .ok flow

/-! ### Data records -/

/-- `variable_length_encoding_info_t`. -/
structure VariableLengthEncodingInfo where
  variableFieldLengthEncoding : VariableLengthEncoding
  variableFieldLength : UInt16
  recordFullLength : UInt32
deriving DecidableEq, Repr

/-- The length of a field with this first byte. -/
def variableLengthEncodingInfo (m : Memory) (offset setLength : ℕ) (fieldLength : UInt8) :
    Except Fault VariableLengthEncodingInfo :=
  if fieldLength = 255 then do
    rejectIf (offset + 1 + 2 > setLength)
    let twoByteFieldLength ← m.readNtohs (offset + 1)
    return {
      variableFieldLengthEncoding := .twoByte
      variableFieldLength := twoByteFieldLength
      recordFullLength := twoByteFieldLength.toUInt32 + 1 + 2 }
  else .ok {
    variableFieldLengthEncoding := .singleByte
    variableFieldLength := fieldLength.toUInt16
    recordFullLength := fieldLength.toUInt32 + 1 }

/-- `read_ipfix_variable_length_field`. -/
def readIpfixVariableLengthField (m : Memory) (offset setLength : ℕ) :
    Except Fault VariableLengthEncodingInfo := do
  rejectIf (offset + 1 > setLength)
  let fieldLength ← m.read offset
  rejectIf (fieldLength = 0)
  let info ← variableLengthEncodingInfo m offset setLength fieldLength
  rejectIf (offset + info.recordFullLength.toNat > setLength)
  return info

/-- The length of a field in a record, and the flow with what is noted about it. -/
def ipfixFieldLength (m : Memory) (setMaximumLength : ℕ) (record : TemplateRecord) (offset : ℕ)
    (flow : Flow) : Except Fault (UInt32 × Flow) :=
  if record.isVariable then do
    let info ← readIpfixVariableLengthField m offset setMaximumLength
    return (info.recordFullLength, { flow with flowMeta := { flow.flowMeta with
      variableFieldLengthEncoding := info.variableFieldLengthEncoding
      variableFieldLength := info.variableFieldLength } })
  else .ok (record.recordLength, flow)

/-- The loop over the fields of a record; gives the flow and the offset behind them. -/
def ipfixFields (m : Memory) (setMaximumLength : ℕ) :
    List TemplateRecord → (offset : ℕ) → Flow → Except Fault (Flow × ℕ)
  | [], offset, flow => .ok (flow, offset)
  | record :: records, offset, flow => do
      let (recordLength, flow) ← ipfixFieldLength m setMaximumLength record offset flow
      rejectIf (offset + recordLength.toNat > setMaximumLength)
      let flow ← ipfixRecordToFlow (m.shift offset) record.recordType recordLength flow
      ipfixFields m setMaximumLength records (offset + recordLength.toNat) flow

/-- The packet that `ipfix_data_set_to_store` hands over for a decoded flow. -/
def ipfixPacket (flow : Flow) : ParsedPacket :=
  let packet :=
    if flow.flowMeta.nestedPacketParsed then
      overridePacketFieldsFromNestedPacket flow.packet flow.flowMeta.nestedPacket
    else flow.packet
  clearIcmpPorts (adjustProtocolVersion packet)

variable (context : NetflowContext)

/-- `ipfix_data_set_to_store`; gives the length of the record. -/
def ipfixDataSetToStore (timeSec : UInt32) (fieldTemplate : Template) (setMaximumLength : ℕ)
    (m : Memory) : Collect ℕ := do
  let packet ← freshPacket context timeSec
  let (flow, setLength) ← ipfixFields m setMaximumLength fieldTemplate.records 0 { packet }
  processFunc [ipfixPacket flow]
  return setLength

/-- Go on where a function returned `false`. -/
def ignoreResult {α : Type} (p : Collect α) : Collect Unit := fun s =>
  match p s with
  | (s', .error .rejected) => (s', .ok ())
  | (s', .error fault) => (s', .error fault)
  | (s', .ok _) => (s', .ok ())

/-- The loop over the records of a set without variable fields.  What the decoding of a
record returns is not looked at. -/
def ipfixFixedRecords (timeSec : UInt32) (fieldTemplate : Template) (m : Memory) :
    (left offset : ℕ) → Collect Unit
  | 0, _ => pure ()
  | left + 1, offset => do
      ignoreResult (ipfixDataSetToStore context timeSec fieldTemplate
        fieldTemplate.totalLength.toNat (m.shift offset))
      ipfixFixedRecords timeSec fieldTemplate m left (offset + fieldTemplate.totalLength.toNat)

/-- The variables of the loop over the records of a set with variable fields. -/
structure IpfixLoop where
  flowOffset : UInt32
  maximumDataAvailableToRead : UInt32
deriving DecidableEq, Repr

/-- The body of the loop over the records of a set with variable fields; the loop is left
at padding. -/
def ipfixVariableRecord (timeSec : UInt32) (fieldTemplate : Template) (m : Memory)
    (loop : IpfixLoop) : Collect (Option IpfixLoop) := do
  let readFlowLength ← ipfixDataSetToStore context timeSec fieldTemplate
    loop.maximumDataAvailableToRead.toNat (m.shift (4 + loop.flowOffset.toNat))
  let flowOffset := loop.flowOffset + .ofNat readFlowLength
  let maximumDataAvailableToRead := loop.maximumDataAvailableToRead - .ofNat readFlowLength
  if maximumDataAvailableToRead < fieldTemplate.totalLength then do
    let allPaddingBytesAreZero ← areAllPaddingBytesAreZero m (4 + flowOffset.toNat)
      maximumDataAvailableToRead.toNat
    rejectIf (allPaddingBytesAreZero = false)
    return none
  else return some { flowOffset, maximumDataAvailableToRead }

/-- The loop over the records of a set with variable fields. -/
def ipfixVariableRecords (timeSec : UInt32) (fieldTemplate : Template) (m : Memory)
    (setLength : ℕ) : (fuel : ℕ) → IpfixLoop → Collect Unit
  | 0, _ => liftM (Except.error Fault.outOfFuel)
  | fuel + 1, loop =>
      if loop.flowOffset.toNat < setLength - 4 then do
        let next ← ipfixVariableRecord context timeSec fieldTemplate m loop
        match next with
        | some loop => ipfixVariableRecords timeSec fieldTemplate m setLength fuel loop
        | none => pure ()
      else pure ()

/-- `process_ipfix_regular_data_set`. -/
def processIpfixRegularDataSet (timeSec : UInt32) (fieldTemplate : Template) (m : Memory)
    (setLength : ℕ) : Collect Unit :=
  if fieldTemplate.ipfixVariableLengthElementsUsed then
    ipfixVariableRecords context timeSec fieldTemplate m setLength setLength
      { flowOffset := 0, maximumDataAvailableToRead := .ofNat (setLength - 4) }
  else do
    rejectIf (fieldTemplate.totalLength = 0)
    let numberOfRecords := (setLength - 4) / fieldTemplate.totalLength.toNat
    rejectIf (numberOfRecords > 0x4000)
    rejectIf (numberOfRecords = 0)
    ipfixFixedRecords context timeSec fieldTemplate m numberOfRecords 4

/-! ### Options records -/

/-- The local variables of `ipfix_options_set_to_store`; the sampling rate is in network
order. -/
structure IpfixOptions where
  samplingRate : UInt32 := 0
  samplingSelectorAlgorithm : UInt16 := 0
  samplingPacketSpace : UInt32 := 0
  samplingPacketInterval : UInt32 := 0
  deviceTimeouts : DeviceTimeouts := {}
deriving DecidableEq, Repr

/-- The fields of options records. -/
def ipfixOptionsRule : ℕ → Option (FieldRule IpfixOptions)
  -- SAMPLING_INTERVAL
  | 34 => some <| .ofLengths [4] fun bytes options =>
      { options with samplingRate := .ofNat (ofHostBytes bytes) }
  -- ACTIVE_TIMEOUT
  | 36 => some <| .ofLengths [2] fun bytes options =>
      { options with deviceTimeouts :=
          { options.deviceTimeouts with activeTimeout := some (.ofNat (bigEndian bytes)) } }
  -- INACTIVE_TIMEOUT
  | 37 => some <| .ofLengths [2] fun bytes options =>
      { options with deviceTimeouts :=
          { options.deviceTimeouts with inactiveTimeout := some (.ofNat (bigEndian bytes)) } }
  -- SAMPLING_SELECTOR_ALGORITHM
  | 304 => some <| .ofLengths [2] fun bytes options =>
      { options with samplingSelectorAlgorithm := .ofNat (bigEndian bytes) }
  -- SAMPLING_PACKET_INTERVAL
  | 305 => some <| .ofLengths [4] fun bytes options =>
      let samplingPacketInterval := .ofNat (bigEndian bytes)
      { options with samplingPacketInterval, samplingRate := byteSwap32 samplingPacketInterval }
  -- SAMPLING_PACKET_SPACE
  | 306 => some <| .ofLengths [4] fun bytes options =>
      { options with samplingPacketSpace := .ofNat (bigEndian bytes) }
  | _ => none

/-- One field of an options record. -/
def ipfixOptionsField (m : Memory) (record : TemplateRecord) (options : IpfixOptions) :
    Collect IpfixOptions :=
  match ipfixOptionsRule record.recordType.toNat with
  | some rule => liftM (rule.decode m record.recordLength.toNat options)
  | none => pure options

/-- The sampling rate of an options record, in network order; for count-based sampling it is
computed. -/
def IpfixOptions.learnedRate (options : IpfixOptions) : UInt32 :=
  if options.samplingSelectorAlgorithm = 1 ∧ options.samplingPacketInterval ≠ 0 then
    -- the sum is one of 32 bits; the quotient is computed as a `double` and cut down
    byteSwap32 ((options.samplingPacketSpace + options.samplingPacketInterval)
      / options.samplingPacketInterval)
  else options.samplingRate

/-- `ipfix_options_set_to_store`; the memory is seen from the record. -/
def ipfixOptionsSetToStore (flowTemplate : Template) (m : Memory) : Collect Unit := do
  -- the scope fields are skipped
  let packet := m.shift flowTemplate.optionScopeLength.toNat
  let options ← forFields ipfixOptionsField packet flowTemplate.records 0 {}
  -- `update_ipfix_sampling_rate` takes the rate in network order
  updateSamplingRate context (byteSwap32 options.learnedRate)
  updateDeviceFlowTimeouts context options.deviceTimeouts

/-- `process_ipfix_options_data_set`; one record of the set is decoded. -/
def processIpfixOptionsDataSet (fieldTemplate : Template) (m : Memory) (setLength : ℕ) :
    Collect Unit :=
  if fieldTemplate.ipfixVariableLengthElementsUsed then pure ()
  else do
    rejectIf (4 + fieldTemplate.totalLength.toNat > setLength)
    ipfixOptionsSetToStore context fieldTemplate (m.shift 4)

/-! ### Sets -/

/-- `process_ipfix_data_template_set`. -/
def processIpfixDataTemplateSet (sourceId : UInt32) (m : Memory) (setLength : ℕ) :
    Collect Unit := do
  rejectIf (setLength < 4)
  let setId ← m.readNtohs 0
  rejectIf (setId ≠ 2)
  let (templates, ending) :=
    readIpfixDataTemplates context.currentInaccurateTime m setLength setLength 4
  templates.forM fun fieldTemplate => storeTemplate context sourceId fieldTemplate
  ending

/-- `process_ipfix_options_template_set`. -/
def processIpfixOptionsTemplateSet (sourceId : UInt32) (m : Memory) (setLength : ℕ) :
    Collect Unit := do
  rejectIf (setLength < 4)
  let setId ← m.readNtohs 0
  rejectIf (setId ≠ 3)
  let (templates, ending) :=
    readIpfixOptionsTemplates context.currentInaccurateTime m setLength setLength 4
  templates.forM fun fieldTemplate => storeTemplate context sourceId fieldTemplate
  ending

/-- `process_ipfix_data_set` with a known template. -/
def processIpfixRecords (timeSec : UInt32) (fieldTemplate : Template) (m : Memory)
    (setLength : ℕ) : Collect Unit := do
  rejectIf (fieldTemplate.records = [])
  match fieldTemplate.type with
  | .data => processIpfixRegularDataSet context timeSec fieldTemplate m setLength
  | .options => processIpfixOptionsDataSet context fieldTemplate m setLength
  | .unknown => pure ()

/-- `process_ipfix_data_set`. -/
def processIpfixDataSet (timeSec sourceId : UInt32) (m : Memory) (setLength : ℕ) :
    Collect Unit := do
  rejectIf (setLength < 4)
  let setId ← m.readNtohs 0
  let s ← Procedure.get
  match peerFindTemplate s.templates sourceId setId.toUInt32
      context.clientAddressInStringFormat with
  | none => liftM (Except.error Fault.rejected)
  | some fieldTemplate => processIpfixRecords context timeSec fieldTemplate m setLength

/-! ### Messages -/

/-- A set with its header read; the memory is seen from the set. -/
def processIpfixSetOfId (timeSec sourceId : UInt32) (m : Memory) (setId setLength : UInt16) :
    Collect Unit :=
  if setId = 2 then processIpfixDataTemplateSet context sourceId m setLength.toNat
  else if setId = 3 then processIpfixOptionsTemplateSet context sourceId m setLength.toNat
  else if setId < 256 then pure ()
  else processIpfixDataSet context timeSec sourceId m setLength.toNat

/-- The body of the loop over the sets; gives the next offset. -/
def processIpfixSet (timeSec sourceId : UInt32) (packet : Memory)
    (ipfixPacketLength offset : ℕ) : Collect ℕ := do
  rejectIf (offset ≥ ipfixPacketLength)
  rejectIf (offset + 4 > ipfixPacketLength)
  let setId ← packet.readNtohs offset
  let setLength ← packet.readNtohs (offset + 2)
  rejectIf (offset + setLength.toNat > ipfixPacketLength)
  processIpfixSetOfId context timeSec sourceId (packet.shift offset) setId setLength
  return offset + setLength.toNat

/-- `process_ipfix_sets`. -/
def processIpfixSets (timeSec sourceId : UInt32) (packet : Memory) (ipfixPacketLength : ℕ) :
    (fuel setSequenceNumber offset : ℕ) → Collect Unit
  | 0, _, _ => liftM (Except.error Fault.outOfFuel)
  | fuel + 1, setSequenceNumber, offset => do
      rejectIf (setSequenceNumber + 1 > setsPerPacketMaximumNumber)
      let offset ← processIpfixSet context timeSec sourceId packet ipfixPacketLength offset
      if offset = ipfixPacketLength then pure ()
      else
        processIpfixSets timeSec sourceId packet ipfixPacketLength fuel (setSequenceNumber + 1)
          offset

/-- `process_ipfix_packet`. -/
def processIpfixPacket (packet : Memory) (udpPacketLength : ℕ) : Collect Unit := do
  rejectIf (udpPacketLength < 16)
  let ipfixPacketLength ← packet.readNtohs 2
  rejectIf (udpPacketLength < ipfixPacketLength.toNat)
  let timeSec ← packet.readNtohl 4
  let sourceId ← packet.readNtohl 12
  processIpfixSets context timeSec sourceId packet ipfixPacketLength.toNat
    (setsPerPacketMaximumNumber + 1) 0 16

end FastNetMon
