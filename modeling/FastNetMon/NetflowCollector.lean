/-
FastNetMon/NetflowCollector.lean

What the collectors of NetFlow v9 and IPFIX share (`netflow_collector.cpp`,
`netflow_meta_info.hpp`).

A collector keeps templates, sampling rates and flow timeouts, and hands packets to
the core.  A record is decoded field by field: for each kind of field, a rule says
which lengths are taken and what the bytes change (`FieldRule`); a field with another
length is passed over.  Memories are seen from the pointer that the source passes.
-/
import FastNetMon.PacketParser
import FastNetMon.NetflowTemplate
import FastNetMon.Procedure

namespace FastNetMon

open Memory

/-! ### Numbers in fields -/

/-- The number that bytes in network order stand for. -/
def bigEndian (bs : List UInt8) : ℕ := bs.foldl (fun n b => n * 256 + b.toNat) 0

/-- The bytes of a variable of `width` bytes in memory. -/
def hostBytes (width n : ℕ) : List UInt8 :=
  (List.range width).map fun i => .ofNat (n / 256 ^ i)

/-- The value of a variable with these bytes in memory. -/
def ofHostBytes (bs : List UInt8) : ℕ := bs.foldr (fun b n => b.toNat + 256 * n) 0

/-- `BE_COPY` to a variable of `width` bytes, and `fast_ntoh` of it; bytes in front of
the copied ones stay. -/
def beCopy (width old : ℕ) (bs : List UInt8) : ℕ :=
  bigEndian ((hostBytes width old).take (width - bs.length) ++ bs)

/-- `memcpy` to a variable of `width` bytes; bytes behind the copied ones stay. -/
def memcpy (width old : ℕ) (bs : List UInt8) : ℕ :=
  ofHostBytes (bs ++ (hostBytes width old).drop bs.length)

/-! ### Fields -/

/-- `variable_length_encoding_t`. -/
inductive VariableLengthEncoding
  | unknown
  | singleByte
  | twoByte
deriving DecidableEq, Repr

/-- `netflow_meta_info_t`. -/
structure NetflowMetaInfo where
  selectedPackets : UInt64 := 0
  observedPackets : UInt64 := 0
  dataLinkFrameSize : UInt64 := 0
  nestedPacket : ParsedPacket := {}
  nestedPacketParsed : Bool := false
  ipNextHopIpv4 : UInt32 := 0
  ipNextHopIpv4Set : Bool := false
  bgpNextHopIpv4 : UInt32 := 0
  bgpNextHopIpv4Set : Bool := false
  bgpNextHopIpv6 : Vector UInt8 16 := Vector.replicate 16 0
  bgpNextHopIpv6Set : Bool := false
  receivedForwardingStatus : Bool := false
  bytesFromSourceToDestination : UInt64 := 0
  bytesFromDestinationToSource : UInt64 := 0
  packetsFromSourceToDestination : UInt64 := 0
  packetsFromDestinationToSource : UInt64 := 0
  flowId : UInt64 := 0
  natEvent : Bool := false
  variableFieldLengthEncoding : VariableLengthEncoding := .unknown
  variableFieldLength : UInt16 := 0
deriving DecidableEq

/-- A flow that is being decoded. -/
structure Flow where
  packet : ParsedPacket
  flowMeta : NetflowMetaInfo := {}
deriving DecidableEq

/-- How one kind of field is decoded: which lengths are taken, and what the bytes of the
field change. -/
structure FieldRule (σ : Type) where
  accepts : σ → ℕ → Bool
  store : List UInt8 → σ → σ

variable {σ : Type}

/-- Decode a field at the beginning of the memory. -/
def FieldRule.decode (rule : FieldRule σ) (m : Memory) (recordLength : ℕ) (s : σ) :
    Except Fault σ :=
  if rule.accepts s recordLength then do
    let bytes ← m.readBytes 0 recordLength
    return rule.store bytes s
  else .ok s

/-- A field of one of some lengths. -/
def FieldRule.ofLengths (lengths : List ℕ) (store : List UInt8 → σ → σ) : FieldRule σ where
  accepts _ recordLength := lengths.contains recordLength
  store := store

/-- A field that is not longer than the variable that it is copied to. -/
def FieldRule.upTo (width : ℕ) (store : List UInt8 → σ → σ) : FieldRule σ where
  accepts _ recordLength := recordLength ≤ width
  store := store

/-- A field that fills a part of the packet. -/
def onPacket (change : List UInt8 → ParsedPacket → ParsedPacket) (bytes : List UInt8)
    (flow : Flow) : Flow :=
  { flow with packet := change bytes flow.packet }

/-- A field that fills a part of the meta information. -/
def onMeta (change : List UInt8 → NetflowMetaInfo → NetflowMetaInfo) (bytes : List UInt8)
    (flow : Flow) : Flow :=
  { flow with flowMeta := change bytes flow.flowMeta }

/-- `forwarding_status_from_integer`. -/
def forwardingStatusFromInteger (forwardingStatusAsInteger : UInt8) : ForwardingStatus :=
  if forwardingStatusAsInteger = 0 then .unknown
  else if forwardingStatusAsInteger = 1 then .forwarded
  else if forwardingStatusAsInteger = 2 then .dropped
  else if forwardingStatusAsInteger = 3 then .consumed
  else .unknown

/-- A forwarding status; it is in the upper two bits of the last byte. -/
def storeForwardingStatus (bytes : List UInt8) (flow : Flow) : Flow :=
  { packet := { flow.packet with
      forwardingStatus := forwardingStatusFromInteger (bytes.getLast?.getD 0 / 64) }
    flowMeta := { flow.flowMeta with receivedForwardingStatus := true } }

/-- The fields that both protocols decode alike, by their numbers. -/
def sharedFieldRule : ℕ → Option (FieldRule Flow)
  -- IN_BYTES
  | 1 => some <| .upTo 8 <| onPacket fun bytes packet =>
      let length := .ofNat (beCopy 8 packet.length.toNat bytes)
      { packet with length, ipLength := length }
  -- IN_PACKETS
  | 2 => some <| .upTo 8 <| onPacket fun bytes packet =>
      { packet with numberOfPackets := .ofNat (beCopy 8 packet.numberOfPackets.toNat bytes) }
  -- IN_PROTOCOL
  | 4 => some <| .upTo 4 <| onPacket fun bytes packet =>
      { packet with protocol := .ofNat (beCopy 4 packet.protocol.toNat bytes) }
  -- L4_SRC_PORT
  | 7 => some <| .upTo 2 <| onPacket fun bytes packet =>
      { packet with sourcePort := .ofNat (beCopy 2 packet.sourcePort.toNat bytes) }
  -- IPV4_SRC_ADDR
  | 8 => some <| .upTo 4 <| onPacket fun bytes packet =>
      { packet with srcIp := .ofNat (memcpy 4 packet.srcIp.toNat bytes) }
  -- INPUT_SNMP
  | 10 => some <| .ofLengths [4, 2] <| onPacket fun bytes packet =>
      { packet with inputInterface := .ofNat (bigEndian bytes) }
  -- L4_DST_PORT
  | 11 => some <| .upTo 2 <| onPacket fun bytes packet =>
      { packet with destinationPort := .ofNat (beCopy 2 packet.destinationPort.toNat bytes) }
  -- IPV4_DST_ADDR
  | 12 => some <| .upTo 4 <| onPacket fun bytes packet =>
      { packet with dstIp := .ofNat (memcpy 4 packet.dstIp.toNat bytes) }
  -- OUTPUT_SNMP
  | 14 => some <| .ofLengths [4, 2] <| onPacket fun bytes packet =>
      { packet with outputInterface := .ofNat (bigEndian bytes) }
  -- IPV4_NEXT_HOP
  | 15 => some <| .ofLengths [4] <| onMeta fun bytes flowMeta =>
      { flowMeta with ipNextHopIpv4Set := true, ipNextHopIpv4 := .ofNat (ofHostBytes bytes) }
  -- SRC_AS
  | 16 => some <| .ofLengths [4, 2] <| onPacket fun bytes packet =>
      { packet with srcAsn := .ofNat (bigEndian bytes) }
  -- DST_AS
  | 17 => some <| .ofLengths [4, 2] <| onPacket fun bytes packet =>
      { packet with dstAsn := .ofNat (bigEndian bytes) }
  -- BGP_NEXT_HOP_IPV4_ADDRESS
  | 18 => some <| .ofLengths [4] <| onMeta fun bytes flowMeta =>
      { flowMeta with bgpNextHopIpv4Set := true, bgpNextHopIpv4 := .ofNat (ofHostBytes bytes) }
  -- LAST_SWITCHED
  | 21 => some <| .ofLengths [4] <| onPacket fun bytes packet =>
      { packet with flowEnd := .ofNat (bigEndian bytes) }
  -- FIRST_SWITCHED
  | 22 => some <| .ofLengths [4] <| onPacket fun bytes packet =>
      { packet with flowStart := .ofNat (bigEndian bytes) }
  -- IPV6_SRC_ADDR
  | 27 => some <| .ofLengths [16] <| onPacket fun bytes packet =>
      { packet with srcIpv6 := toVector 16 bytes, ipProtocolVersion := 6 }
  -- IPV6_DST_ADDR
  | 28 => some <| .ofLengths [16] <| onPacket fun bytes packet =>
      { packet with dstIpv6 := toVector 16 bytes, ipProtocolVersion := 6 }
  -- SOURCE_MAC_ADDRESS
  | 56 => some <| .ofLengths [6] <| onPacket fun bytes packet =>
      { packet with sourceMac := toVector 6 bytes }
  -- DESTINATION_MAC_ADDRESS
  | 80 => some <| .ofLengths [6] <| onPacket fun bytes packet =>
      { packet with destinationMac := toVector 6 bytes }
  -- PERMANENT_BYTES, TOTAL_BYTES
  | 85 => some <| .ofLengths [8] <| onPacket fun bytes packet =>
      { packet with length := .ofNat (bigEndian bytes), ipLength := .ofNat (bigEndian bytes) }
  -- PERMANENT_PACKETS, TOTAL_PACKETS
  | 86 => some <| .ofLengths [8] <| onPacket fun bytes packet =>
      { packet with numberOfPackets := .ofNat (bigEndian bytes) }
  -- START_MILLISECONDS
  | 152 => some <| .ofLengths [8] <| onPacket fun bytes packet =>
      { packet with flowStart := .ofNat (bigEndian bytes) }
  -- END_MILLISECONDS
  | 153 => some <| .ofLengths [8] <| onPacket fun bytes packet =>
      { packet with flowEnd := .ofNat (bigEndian bytes) }
  -- DATALINK_FRAME_SIZE
  | 312 => some <| .ofLengths [2] <| onMeta fun bytes flowMeta =>
      { flowMeta with dataLinkFrameSize := .ofNat (bigEndian bytes) }
  | _ => none

/-- The loop over the fields of a template; the memory is seen from the first field. -/
def forFields {α ε : Type} (step : Memory → TemplateRecord → α → Procedure σ ε α)
    (m : Memory) : List TemplateRecord → (offset : ℕ) → α → Procedure σ ε α
  | [], _, a => pure a
  | record :: records, offset, a => do
      let a ← step (m.shift offset) record a
      forFields step m records (offset + record.recordLength.toNat) a

/-! ### Packets -/

/-- `override_packet_fields_from_nested_packet`. -/
def overridePacketFieldsFromNestedPacket (packet nestedPacket : ParsedPacket) : ParsedPacket :=
  { packet with
    srcIp := nestedPacket.srcIp
    dstIp := nestedPacket.dstIp
    srcIpv6 := nestedPacket.srcIpv6
    dstIpv6 := nestedPacket.dstIpv6
    ipProtocolVersion := nestedPacket.ipProtocolVersion
    ttl := nestedPacket.ttl
    sourcePort := nestedPacket.sourcePort
    destinationPort := nestedPacket.destinationPort
    protocol := nestedPacket.protocol
    length := nestedPacket.length
    ipLength := nestedPacket.ipLength
    numberOfPackets := 1
    flags := nestedPacket.flags
    ipFragmented := nestedPacket.ipFragmented
    ipDontFragment := nestedPacket.ipDontFragment
    vlan := nestedPacket.vlan
    sourceMac := nestedPacket.sourceMac
    destinationMac := nestedPacket.destinationMac }

/-- `is_zero_ipv6_address`. -/
def isZeroIpv6Address (address : Vector UInt8 16) : Bool := address = Vector.replicate 16 0

/-- A packet with IPv4 addresses and two zero IPv6 addresses is one of IPv4. -/
def adjustProtocolVersion (packet : ParsedPacket) : ParsedPacket :=
  if packet.ipProtocolVersion = 6 ∧ isZeroIpv6Address packet.srcIpv6 ∧
      isZeroIpv6Address packet.dstIpv6 ∧ packet.srcIp ≠ 0 ∧ packet.dstIp ≠ 0 then
    { packet with ipProtocolVersion := 4 }
  else packet

/-- ICMP has no ports. -/
def clearIcmpPorts (packet : ParsedPacket) : ParsedPacket :=
  if packet.protocol = 1 then { packet with sourcePort := 0, destinationPort := 0 } else packet

/-! ### The state of a collector -/

/-- `device_timeouts_t`. -/
structure DeviceTimeouts where
  activeTimeout : Option UInt32 := some 0
  inactiveTimeout : Option UInt32 := some 0
deriving DecidableEq, Repr

/-- The variables of one collector, and the packets that it has handed to the core. -/
structure CollectorState where
  templates : TemplateTable := fun _ => none
  samplingRates : Text → Option UInt32 := fun _ => none
  deviceFlowTimeouts : Text → Option DeviceTimeouts := fun _ => none
  emitted : List ParsedPacket := []

/-- What a collector takes from the configuration, the clock and the socket. -/
structure NetflowContext where
  netflowSamplingRatio : UInt32 := 1
  currentInaccurateTime : Int64 := 0
  clientAddressInStringFormat : Text
  clientIpv4Address : UInt32 := 0

/-- `flows_per_packet_maximum_number`. -/
def flowsPerPacketMaximumNumber : ℕ := 256

/-- `sets_per_packet_maximum_number`. -/
def setsPerPacketMaximumNumber : ℕ := 256

/-- A procedure of a collector. -/
abbrev Collect (α : Type) := Procedure CollectorState Fault α

/-- `netflow_process_func_ptr`, for each of some packets. -/
def processFunc (packets : List ParsedPacket) : Collect Unit :=
  .modify fun s => { s with emitted := s.emitted ++ packets }

variable (context : NetflowContext)

/-- `add_update_peer_template` for a template of the client. -/
def storeTemplate (sourceId : UInt32) (fieldTemplate : Template) : Collect Unit :=
  .modify fun s => { s with
    templates := (addUpdatePeerTemplate s.templates sourceId fieldTemplate.templateId.toUInt32
      context.clientAddressInStringFormat fieldTemplate).table }

/-- The common part of the functions that update a sampling rate. -/
def updateSamplingRate (newSamplingRate : UInt32) : Collect Unit :=
  if newSamplingRate = 0 then pure ()
  else .modify fun s =>
    let client := context.clientAddressInStringFormat
    let updated := Function.update s.samplingRates client (some newSamplingRate)
    match s.samplingRates client with
    | none => { s with samplingRates := updated }
    | some oldSamplingRate =>
        if oldSamplingRate ≠ newSamplingRate then { s with samplingRates := updated } else s

/-- `update_device_flow_timeouts`. -/
def updateDeviceFlowTimeouts (deviceTimeouts : DeviceTimeouts) : Collect Unit :=
  if deviceTimeouts.activeTimeout = none ∧ deviceTimeouts.inactiveTimeout = none then pure ()
  else .modify fun s =>
    let client := context.clientAddressInStringFormat
    let updated := Function.update s.deviceFlowTimeouts client (some deviceTimeouts)
    match s.deviceFlowTimeouts client with
    | none => { s with deviceFlowTimeouts := updated }
    | some oldFlowTimeouts =>
        if oldFlowTimeouts = deviceTimeouts then s else { s with deviceFlowTimeouts := updated }

/-- The loop over the records of a set, which have the same length; the memory is seen
from the set. -/
def processRecords (m : Memory) (setLength totalLength : ℕ) (process : Memory → Collect Unit) :
    (left offset : ℕ) → Collect Unit
  | 0, _ => pure ()
  | left + 1, offset => do
      rejectIf (offset + totalLength > setLength)
      process (m.shift offset)
      processRecords m setLength totalLength process left (offset + totalLength)

/-- A packet before its fields are decoded, with the sampling rate of the exporter or
the configured one. -/
def freshPacket (timeSec : UInt32) : Collect ParsedPacket := do
  let s ← Procedure.get
  return {
    source := .netflow
    arrivalTime := context.currentInaccurateTime
    agentIpv4Address := context.clientIpv4Address
    numberOfPackets := 0
    tsSec := .ofNat timeSec.toNat
    ipProtocolVersion := 4
    sampleRatio := (s.samplingRates context.clientAddressInStringFormat).getD
      context.netflowSamplingRatio }

end FastNetMon
