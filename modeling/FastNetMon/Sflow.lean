/-
FastNetMon/Sflow.lean

Parsing sFlow datagrams (`libsflow.cpp`, `sflow_collector.cpp`).

A datagram holds samples and a sample holds records; each of them begins with its
kind and its length.  First the samples of the datagram are listed, then each one is
processed: a flow sample is handed to the core as one packet, filled from all its
records, unless one of them is turned down.  Lengths are read as signed numbers, and
the limits they are compared with are unsigned.
-/
import FastNetMon.PacketParser

namespace FastNetMon

open Memory

/-- `size_t` of an `int32_t`. -/
def sizeT (n : Int32) : UInt64 := n.toInt64.toUInt64

/-- `get_int_value_by_32bit_shift`. -/
def getIntValueBy32bitShift (m : Memory) (payloadPtr shift : ℕ) : Except Fault Int32 := do
  let word ← m.readNtohl (payloadPtr + shift * 4)
  return word.toInt32

/-- `max_udp_packet_size`. -/
def maxUdpPacketSize : UInt32 := 65535

/-! ### Headers -/

/-- `sflow_packet_header_unified_accessor`, without the texts of addresses. -/
structure SflowPacketHeader where
  sflowVersion : Int32
  agentIpVersion : Int32
  subAgentId : Int32
  datagramSequenceNumber : Int32
  deviceUptime : Int32
  datagramSamplesCount : Int32
  originalPayloadLength : ℕ

/-- `sflow_packet_header_v4_t` and `sflow_packet_header_v6_t`, with an address of
`addressLength` bytes. -/
def readSflowPacketHeader (m : Memory) (payloadPtr addressLength : ℕ) :
    Except Fault SflowPacketHeader := do
  let sflowVersion ← m.readNtohl payloadPtr
  let agentIpVersion ← m.readNtohl (payloadPtr + 4)
  let _ ← m.readBytes (payloadPtr + 8) addressLength
  let subAgentId ← m.readNtohl (payloadPtr + 8 + addressLength)
  let datagramSequenceNumber ← m.readNtohl (payloadPtr + 12 + addressLength)
  let deviceUptime ← m.readNtohl (payloadPtr + 16 + addressLength)
  let datagramSamplesCount ← m.readNtohl (payloadPtr + 20 + addressLength)
  return {
    sflowVersion := sflowVersion.toInt32
    agentIpVersion := agentIpVersion.toInt32
    subAgentId := subAgentId.toInt32
    datagramSequenceNumber := datagramSequenceNumber.toInt32
    deviceUptime := deviceUptime.toInt32
    datagramSamplesCount := datagramSamplesCount.toInt32
    originalPayloadLength := 24 + addressLength }

/-- `read_sflow_header`. -/
def readSflowHeader (m : Memory) (payloadPtr payloadLength : ℕ) :
    Except Fault SflowPacketHeader := do
  rejectIf (payloadLength = 0)
  rejectIf (payloadLength < 28)
  let sflowVersion ← getIntValueBy32bitShift m payloadPtr 0
  rejectIf (sflowVersion ≠ 5)
  let ipProtocolVersion ← getIntValueBy32bitShift m payloadPtr 1
  if ipProtocolVersion = 1 then readSflowPacketHeader m payloadPtr 4
  else if ipProtocolVersion = 2 then do
    rejectIf (payloadLength < 40)
    readSflowPacketHeader m payloadPtr 16
  else .error .rejected

/-- `split_32bit_integer_by_2_and_30_bits`. -/
def split32bitIntegerBy2And30Bits (originalData : UInt32) : UInt32 × UInt32 :=
  (originalData >>> 30, originalData &&& 0x3fffffff)

/-- `split_32bit_integer_by_8_and_24_bits`, with the mask of 28 bits that it uses. -/
def split32bitIntegerBy8And24Bits (originalData : UInt32) : UInt32 × UInt32 :=
  (originalData >>> 24, originalData &&& 0x0fffffff)

/-- `sflow_sample_header_unified_accessor_t`. -/
structure SflowSampleHeader where
  sampleSequenceNumber : UInt32
  sourceIdType : UInt32
  sourceIdIndex : UInt32
  samplingRate : UInt32
  samplePool : UInt32
  dropsCount : UInt32
  inputPortType : UInt32
  inputPortIndex : UInt32
  outputPortType : UInt32
  outputPortIndex : UInt32
  numberOfFlowRecords : UInt32
  originalPayloadLength : ℕ

/-- `read_sflow_sample_header_unified`. -/
def readSflowSampleHeaderUnified (m : Memory) (dataPointer dataLength : ℕ) (expanded : Bool) :
    Except Fault SflowSampleHeader :=
  if expanded then do
    rejectIf (dataLength < 44)
    let sampleSequenceNumber ← m.readNtohl dataPointer
    let sourceIdType ← m.readNtohl (dataPointer + 4)
    let sourceIdIndex ← m.readNtohl (dataPointer + 8)
    let samplingRate ← m.readNtohl (dataPointer + 12)
    let samplePool ← m.readNtohl (dataPointer + 16)
    let dropsCount ← m.readNtohl (dataPointer + 20)
    let inputPortType ← m.readNtohl (dataPointer + 24)
    let inputPortIndex ← m.readNtohl (dataPointer + 28)
    let outputPortType ← m.readNtohl (dataPointer + 32)
    let outputPortIndex ← m.readNtohl (dataPointer + 36)
    let numberOfFlowRecords ← m.readNtohl (dataPointer + 40)
    return ⟨sampleSequenceNumber, sourceIdType, sourceIdIndex, samplingRate, samplePool,
      dropsCount, inputPortType, inputPortIndex, outputPortType, outputPortIndex,
      numberOfFlowRecords, 44⟩
  else do
    rejectIf (dataLength < 32)
    let sampleSequenceNumber ← m.readNtohl dataPointer
    let sourceIdWithIdType ← m.readNtohl (dataPointer + 4)
    let samplingRate ← m.readNtohl (dataPointer + 8)
    let samplePool ← m.readNtohl (dataPointer + 12)
    let dropsCount ← m.readNtohl (dataPointer + 16)
    let inputPort ← m.readNtohl (dataPointer + 20)
    let outputPort ← m.readNtohl (dataPointer + 24)
    let numberOfFlowRecords ← m.readNtohl (dataPointer + 28)
    let (inputPortType, inputPortIndex) := split32bitIntegerBy2And30Bits inputPort
    let (outputPortType, outputPortIndex) := split32bitIntegerBy2And30Bits outputPort
    let (sourceIdType, sourceIdIndex) := split32bitIntegerBy8And24Bits sourceIdWithIdType
    return ⟨sampleSequenceNumber, sourceIdType, sourceIdIndex, samplingRate, samplePool,
      dropsCount, inputPortType, inputPortIndex, outputPortType, outputPortIndex,
      numberOfFlowRecords, 32⟩

/-! ### Lists of samples and records -/

/-- `record_tuple_t`. -/
structure RecordTuple where
  elementType : Int32
  dataPtr : ℕ
  elementLength : Int32

/-- `get_records`: the list of `numberOfFlowRecords` records. -/
def getRecords (m : Memory) (currentPacketEnd : ℕ) :
    (numberOfFlowRecords flowRecordStart : ℕ) → Except Fault (List RecordTuple)
  | 0, flowRecordStart => do
      let packetPadding : ℤ := currentPacketEnd - flowRecordStart
      rejectIf (packetPadding < 0)
      return []
  | numberOfFlowRecords + 1, flowRecordStart => do
      rejectIf ((currentPacketEnd : ℤ) - flowRecordStart < 8)
      let elementType ← getIntValueBy32bitShift m flowRecordStart 0
      let elementLength ← getIntValueBy32bitShift m flowRecordStart 1
      -- the comparison takes the length as unsigned
      rejectIf (elementLength.toUInt32 > maxUdpPacketSize)
      let flowRecordDataPtr := flowRecordStart + 8
      let flowRecordEnd : ℤ := flowRecordDataPtr + elementLength.toInt
      rejectIf (flowRecordEnd > currentPacketEnd)
      let records ← getRecords m currentPacketEnd numberOfFlowRecords flowRecordEnd.toNat
      return ⟨elementType, flowRecordDataPtr, elementLength⟩ :: records

/-- `sample_tuple_t`. -/
structure SampleTuple where
  enterprise : Int32
  integerFormat : Int32
  dataBlockStart : ℕ
  sampleLength : UInt64

/-- `get_all_samples`: the list of `samplesCount` samples. -/
def getAllSamples (m : Memory) (totalPacketEnd : ℕ) :
    (samplesCount sampleStart : ℕ) → Except Fault (List SampleTuple)
  | 0, _ => .ok []
  | samplesCount + 1, sampleStart => do
      rejectIf ((totalPacketEnd : ℤ) - sampleStart < 8)
      let enterpriseWithFormat ← getIntValueBy32bitShift m sampleStart 0
      let sampleLength ← getIntValueBy32bitShift m sampleStart 1
      -- as in `get_records`
      rejectIf (sampleLength.toUInt32 > maxUdpPacketSize)
      let dataBlockStart := sampleStart + 8
      let thisSampleEnd : ℤ := dataBlockStart + sampleLength.toInt
      rejectIf (thisSampleEnd > totalPacketEnd)
      let samples ← getAllSamples m totalPacketEnd samplesCount thisSampleEnd.toNat
      return ⟨enterpriseWithFormat >>> 12, enterpriseWithFormat &&& 0xfff, dataBlockStart,
        sizeT sampleLength⟩ :: samples

/-- `counter_record_sample_t`. -/
structure CounterRecordSample where
  enterprise : UInt32
  format : UInt32
  length : UInt32
  pointer : ℕ

/-- `split_mixed_enterprise_and_format`. -/
def splitMixedEnterpriseAndFormat (enterpriseAndFormat : Int32) : Int32 × Int32 :=
  (enterpriseAndFormat >>> 12, enterpriseAndFormat &&& 0xfff)

/-- `get_all_counter_records`: the list of `numberOfRecords` records, which have to
fill the block. -/
def getAllCounterRecords (m : Memory) (dataBlockEnd : ℕ) :
    (numberOfRecords recordStart : ℕ) → Except Fault (List CounterRecordSample)
  | 0, recordStart => do
      rejectIf (recordStart ≠ dataBlockEnd)
      return []
  | numberOfRecords + 1, recordStart => do
      let payloadPtr := recordStart + 4 + 4
      rejectIf (payloadPtr ≥ dataBlockEnd)
      let enterpriseAndFormat ← getIntValueBy32bitShift m recordStart 0
      let recordLength ← getIntValueBy32bitShift m recordStart 1
      let recordLength := recordLength.toUInt32
      rejectIf (recordLength > maxUdpPacketSize)
      let currentRecordEnd := payloadPtr + recordLength.toNat
      rejectIf (currentRecordEnd > dataBlockEnd)
      let (enterprise, integerFormat) := splitMixedEnterpriseAndFormat enterpriseAndFormat
      let records ← getAllCounterRecords m dataBlockEnd numberOfRecords currentRecordEnd
      return ⟨enterprise.toUInt32, integerFormat.toUInt32, recordLength, payloadPtr⟩ :: records

/-! ### Flow samples -/

/-- `sflow_raw_protocol_header_t`, 16 bytes. -/
structure SflowRawProtocolHeader where
  headerProtocol : UInt32
  frameLengthBeforeSampling : UInt32
  numberOfBytesRemovedFromPacket : UInt32
  headerSize : UInt32

/-- The header at address `p`, in host byte order. -/
def readSflowRawProtocolHeader (m : Memory) (p : ℕ) : Except Fault SflowRawProtocolHeader := do
  let headerProtocol ← m.readNtohl p
  let frameLengthBeforeSampling ← m.readNtohl (p + 4)
  let numberOfBytesRemovedFromPacket ← m.readNtohl (p + 8)
  let headerSize ← m.readNtohl (p + 12)
  return ⟨headerProtocol, frameLengthBeforeSampling, numberOfBytesRemovedFromPacket, headerSize⟩

/-- What the collector takes from the configuration, the clock and the socket. -/
structure SflowContext where
  sflowReadPacketLengthFromIpHeader : Bool := false
  currentInaccurateTime : Int64 := 0
  clientIpv4Address : UInt32 := 0

variable (context : SflowContext)

/-- The choice of the parser for a sampled header. -/
def parseSampledHeader (m : Memory) (rawProtocolHeader : SflowRawProtocolHeader)
    (headerPayloadPointer : ℕ) (packet : ParsedPacket) : Parsed :=
  let parserOptions : ParserOptions :=
    { readPacketLengthFromIpHeader := context.sflowReadPacketLengthFromIpHeader }
  if rawProtocolHeader.headerProtocol = 1 then
    parseRawPacketToSimplePacketFull m headerPayloadPointer
      rawProtocolHeader.frameLengthBeforeSampling.toInt32 rawProtocolHeader.headerSize.toInt32
      packet parserOptions
  else if rawProtocolHeader.headerProtocol = 11 then
    parseRawIpv4PacketToSimplePacketFull m headerPayloadPointer
      rawProtocolHeader.frameLengthBeforeSampling.toInt32 rawProtocolHeader.headerSize.toInt32
      packet parserOptions
  else
    -- IPv6 without an Ethernet header, or something unusual
    .error .rejected

/-- The raw packet header record of a flow sample. -/
def processRawPacketHeader (m : Memory) (sampleHeader : SflowSampleHeader)
    (packet : ParsedPacket) (record : RecordTuple) : Except Fault ParsedPacket := do
  rejectIf (record.elementLength < 0)
  rejectIf (sizeT record.elementLength < 16)
  let rawProtocolHeader ← readSflowRawProtocolHeader m record.dataPtr
  let headerPayloadPointer := record.dataPtr + 16
  let availableHeaderPayloadLength := sizeT record.elementLength - 16
  rejectIf (rawProtocolHeader.headerSize.toUInt64 > availableHeaderPayloadLength)
  let (result, packet) ←
    parseSampledHeader context m rawProtocolHeader headerPayloadPointer packet
  rejectIf (result ≠ .success)
  return { packet with
    payloadPointer := some headerPayloadPointer
    payloadFullLength := rawProtocolHeader.frameLengthBeforeSampling
    capturedPayloadLength := rawProtocolHeader.headerSize.toInt32
    sampleRatio := sampleHeader.samplingRate
    inputInterface := sampleHeader.inputPortIndex
    outputInterface := sampleHeader.outputPortIndex
    forwardingStatus :=
      if sampleHeader.outputPortType = 1 then .dropped else packet.forwardingStatus }

/-- The extended gateway record of a flow sample. -/
def processExtendedGatewayData (m : Memory) (packet : ParsedPacket) (record : RecordTuple) :
    Except Fault ParsedPacket := do
  rejectIf (sizeT record.elementLength < 4)
  let nexthopAddressType ← m.readNtohl record.dataPtr
  if nexthopAddressType = 1 then do
    rejectIf (sizeT record.elementLength < 20)
    let routerAsn ← m.readNtohl (record.dataPtr + 8)
    let sourceAsn ← m.readNtohl (record.dataPtr + 12)
    return { packet with srcAsn := routerAsn, dstAsn := sourceAsn }
  else return packet

/-- The body of the loop over the records of a flow sample. -/
def processFlowRecord (m : Memory) (sampleHeader : SflowSampleHeader) (packet : ParsedPacket)
    (record : RecordTuple) : Except Fault ParsedPacket :=
  if record.elementType = 1 then processRawPacketHeader context m sampleHeader packet record
  else if record.elementType = 1003 then processExtendedGatewayData m packet record
  else .ok packet

/-- `process_sflow_flow_sample`; gives the packet that is handed to the core. -/
def processSflowFlowSample (m : Memory) (dataPointer dataLength : ℕ) (expanded : Bool) :
    Except Fault ParsedPacket := do
  let currentPacketEnd := dataPointer + dataLength
  let sampleHeader ← readSflowSampleHeaderUnified m dataPointer dataLength expanded
  rejectIf (sampleHeader.numberOfFlowRecords = 0)
  rejectIf (sampleHeader.numberOfFlowRecords > 256)
  let flowRecordZoneStart := dataPointer + sampleHeader.originalPayloadLength
  let records ← getRecords m currentPacketEnd sampleHeader.numberOfFlowRecords.toNat
    flowRecordZoneStart
  let packet : ParsedPacket :=
    { source := .sflow
      arrivalTime := context.currentInaccurateTime
      agentIpv4Address := context.clientIpv4Address }
  records.foldlM (processFlowRecord context m sampleHeader) packet

/-! ### Counter samples -/

/-- `sflow_counter_header_unified_accessor_t`. -/
structure SflowCounterHeader where
  sampleSequenceNumber : UInt32
  sourceIdType : UInt32
  sourceIdIndex : UInt32
  numberOfCounterRecords : UInt32
  originalPayloadLength : ℕ

/-- `read_sflow_counter_header`. -/
def readSflowCounterHeader (m : Memory) (dataPointer dataLength : ℕ) (expanded : Bool) :
    Except Fault SflowCounterHeader :=
  if expanded then do
    rejectIf (dataLength < 16)
    let sampleSequenceNumber ← m.readNtohl dataPointer
    let sourceIdType ← m.readNtohl (dataPointer + 4)
    let sourceIdIndex ← m.readNtohl (dataPointer + 8)
    let numberOfCounterRecords ← m.readNtohl (dataPointer + 12)
    return ⟨sampleSequenceNumber, sourceIdType, sourceIdIndex, numberOfCounterRecords, 16⟩
  else do
    rejectIf (dataLength < 12)
    let sampleSequenceNumber ← m.readNtohl dataPointer
    let sourceTypeWithId ← m.readNtohl (dataPointer + 4)
    let numberOfCounterRecords ← m.readNtohl (dataPointer + 8)
    let (sourceIdType, sourceIdIndex) := split32bitIntegerBy2And30Bits sourceTypeWithId
    return ⟨sampleSequenceNumber, sourceIdType, sourceIdIndex, numberOfCounterRecords, 12⟩

/-- The body of the loop over the records of a counter sample: generic interface
counters of the right length are read, to be printed. -/
def processCounterRecord (m : Memory) (counterRecord : CounterRecordSample) :
    Except Fault Unit :=
  if counterRecord.enterprise ≠ 0 then .ok ()
  else if counterRecord.format = 1 then
    if counterRecord.length ≠ 88 then .ok ()
    else do
      let _ ← m.readBytes counterRecord.pointer 88
      return ()
  else .ok ()

/-- `process_sflow_counter_sample`. -/
def processSflowCounterSample (m : Memory) (dataPointer dataLength : ℕ) (expanded : Bool) :
    Except Fault Unit := do
  let counterHeader ← readSflowCounterHeader m dataPointer dataLength expanded
  rejectIf (counterHeader.numberOfCounterRecords = 0)
  rejectIf (counterHeader.numberOfCounterRecords > 256)
  let records ← getAllCounterRecords m (dataPointer + dataLength)
    counterHeader.numberOfCounterRecords.toNat (dataPointer + counterHeader.originalPayloadLength)
  records.forM (processCounterRecord m)

/-! ### Datagrams -/

/-- `sflow_sample_type_t`. -/
inductive SflowSampleType
  | flowSample
  | counterSample
  | expandedFlowSample
  | expandedCounterSample
  | brokenType
deriving DecidableEq, Repr

/-- `sflow_sample_type_from_integer`. -/
def sflowSampleTypeFromInteger (formatAsInteger : Int32) : SflowSampleType :=
  if formatAsInteger = 1 then .flowSample
  else if formatAsInteger = 2 then .counterSample
  else if formatAsInteger = 3 then .expandedFlowSample
  else if formatAsInteger = 4 then .expandedCounterSample
  else .brokenType

/-- A sample that is turned down yields nothing, and the next one is processed. -/
def unlessRejected {α : Type} : Except Fault α → Except Fault (List α)
  | .ok a => .ok [a]
  | .error .rejected => .ok []
  | .error fault => .error fault

/-- The body of the loop over the samples of a datagram: the packets that one sample
hands to the core. -/
def processSample (m : Memory) (sample : SampleTuple) : Except Fault (List ParsedPacket) :=
  if sample.enterprise ≠ 0 then .ok []
  else
    match sflowSampleTypeFromInteger sample.integerFormat with
    | .flowSample => unlessRejected
        (processSflowFlowSample context m sample.dataBlockStart sample.sampleLength.toNat false)
    | .counterSample => do
        let _ ← unlessRejected
          (processSflowCounterSample m sample.dataBlockStart sample.sampleLength.toNat false)
        return []
    | .expandedFlowSample => unlessRejected
        (processSflowFlowSample context m sample.dataBlockStart sample.sampleLength.toNat true)
    | .expandedCounterSample => .ok []
    | .brokenType => .ok []

/-- The first part of `parse_sflow_v5_packet`: the samples of a datagram. -/
def readSflowSamples (m : Memory) (payloadPtr payloadLength : ℕ) :
    Except Fault (List SampleTuple) := do
  let totalPacketEnd := payloadPtr + payloadLength
  let header ← readSflowHeader m payloadPtr payloadLength
  rejectIf (header.datagramSamplesCount ≤ 0)
  rejectIf (header.datagramSamplesCount > 256)
  let samplesBlockStart := payloadPtr + header.originalPayloadLength
  getAllSamples m totalPacketEnd header.datagramSamplesCount.toInt.toNat samplesBlockStart

/-- The loop over the samples. -/
def processSamples (m : Memory) (samples : List SampleTuple) :
    Except Fault (List ParsedPacket) :=
  samples.foldlM (fun handed sample => do
    let packets ← processSample context m sample
    return handed ++ packets) []

/-- `parse_sflow_v5_packet`; gives the packets that are handed to the core. -/
def parseSflowV5Packet (m : Memory) (payloadPtr payloadLength : ℕ) :
    Except Fault (List ParsedPacket) :=
  match readSflowSamples m payloadPtr payloadLength with
  | .ok samples => processSamples context m samples
  | .error .rejected => .ok []
  | .error fault => .error fault

end FastNetMon
