/-
FastNetMon/PacketParser.lean

Parsing captured packets (`simple_packet_parser_ng.cpp`).

The first parser goes through the Ethernet header, at most three VLAN tags, the
IP header and the transport header, and fills the packet on its way; where it
stops early, the fields set so far stay.  Each header is compared with the end
of the capture before it is read.  The other two parsers are for captures that
begin with an IP header.
-/
import FastNetMon.Memory

namespace FastNetMon

open Memory

/-! ### Packets -/

/-- `source_t`. -/
inductive PacketSource
  | unknown
  | mirror
  | sflow
  | netflow
  | teraflow
deriving DecidableEq, Repr

/-- `forwarding_status_t`. -/
inductive ForwardingStatus
  | unknown
  | forwarded
  | dropped
  | consumed
deriving DecidableEq, Repr

/-- The bytes of an array; what is missing is zero. -/
def toVector (n : ℕ) (bs : List UInt8) : Vector UInt8 n := Vector.ofFn fun i => bs.getD i 0

/-- `simple_packet_t`, as the parsers and the flow collectors fill it; pointers are
addresses, and the two-letter countries are texts. -/
structure ParsedPacket where
  source : PacketSource := .unknown
  sampleRatio : UInt32 := 1
  srcIp : UInt32 := 0
  dstIp : UInt32 := 0
  srcIpv6 : Vector UInt8 16 := Vector.replicate 16 0
  dstIpv6 : Vector UInt8 16 := Vector.replicate 16 0
  sourceMac : Vector UInt8 6 := Vector.replicate 6 0
  destinationMac : Vector UInt8 6 := Vector.replicate 6 0
  srcAsn : UInt32 := 0
  dstAsn : UInt32 := 0
  srcCountry : List Char := []
  dstCountry : List Char := []
  inputInterface : UInt32 := 0
  outputInterface : UInt32 := 0
  ipProtocolVersion : UInt8 := 4
  ttl : UInt8 := 0
  sourcePort : UInt16 := 0
  destinationPort : UInt16 := 0
  protocol : UInt32 := 0
  length : UInt64 := 0
  ipLength : UInt64 := 0
  numberOfPackets : UInt64 := 1
  flags : UInt8 := 0
  tcpSequenceNumber : UInt32 := 0
  tcpAckNumber : UInt32 := 0
  tcpWindowSize : UInt16 := 0
  ipFragmented : Bool := false
  ipMoreFragments : Bool := false
  ipDontFragment : Bool := false
  ipFragmentOffset : UInt16 := 0
  icmpType : UInt8 := 0
  icmpCode : UInt8 := 0
  arrivalTime : Int64 := 0
  tsSec : Int64 := 0
  tsUsec : Int64 := 0
  payloadPointer : Option ℕ := none
  capturedPayloadLength : Int32 := 0
  payloadFullLength : UInt32 := 0
  l4PayloadPointer : Option ℕ := none
  l4PayloadLength : UInt32 := 0
  forwardingStatus : ForwardingStatus := .unknown
  vlan : UInt32 := 0
  flowStart : Int64 := 0
  flowEnd : Int64 := 0
  agentIpv4Address : UInt32 := 0
deriving DecidableEq

/-- `parser_code_t`. -/
inductive ParserCode
  | memoryViolation
  | notIpv4
  | success
  | brokenGre
  | noIpv6Support
  | noIpv6OptionsSupport
  | unknownEthertype
  | arp
  | tooManyNestedVlans
  | tooManyMplsTags
  | mpls
  | unknownTrafficInMpls
  | brokenPppoe
  | pppoeIpv6
  | malformedIpHeaderLength
deriving DecidableEq, Repr

/-- `parser_options_t`, the option that this parser looks at. -/
structure ParserOptions where
  readPacketLengthFromIpHeader : Bool := false

/-! ### Headers -/

/-- Bit `i` of a word. -/
def bitOf (word : UInt16) (i : ℕ) : Bool := word.toNat.testBit i

/-- `ethernet_header_t`, 14 bytes. -/
structure EthernetHeader where
  destinationMac : Vector UInt8 6
  sourceMac : Vector UInt8 6
  ethertype : UInt16

/-- The Ethernet header at address `p`. -/
def readEthernetHeader (m : Memory) (p : ℕ) : Except Fault EthernetHeader := do
  let destinationMac ← m.readBytes p 6
  let sourceMac ← m.readBytes (p + 6) 6
  let ethertype ← m.readNtohs (p + 12)
  return ⟨toVector 6 destinationMac, toVector 6 sourceMac, ethertype⟩

/-- `ipv4_header_t`, 20 bytes, the fields that are looked at. -/
structure Ipv4Header where
  ihl : UInt8
  totalLength : UInt16
  fragmentationDetails : UInt16
  ttl : UInt8
  protocol : UInt8
  sourceIp : UInt32
  destinationIp : UInt32

/-- The IPv4 header at address `p`. -/
def readIpv4Header (m : Memory) (p : ℕ) : Except Fault Ipv4Header := do
  let versionAndIhl ← m.read p
  let totalLength ← m.readNtohs (p + 2)
  let fragmentationDetails ← m.readNtohs (p + 6)
  let ttl ← m.read (p + 8)
  let protocol ← m.read (p + 9)
  let sourceIp ← m.read32 (p + 12)
  let destinationIp ← m.read32 (p + 16)
  return ⟨versionAndIhl % 16, totalLength, fragmentationDetails, ttl, protocol, sourceIp,
    destinationIp⟩

/-- `get_fragment_offset_bytes`. -/
def Ipv4Header.fragmentOffsetBytes (header : Ipv4Header) : UInt16 :=
  header.fragmentationDetails % 8192 * 8

/-- `get_more_fragments_flag`. -/
def Ipv4Header.moreFragmentsFlag (header : Ipv4Header) : Bool :=
  bitOf header.fragmentationDetails 13

/-- `get_dont_fragment_flag`. -/
def Ipv4Header.dontFragmentFlag (header : Ipv4Header) : Bool :=
  bitOf header.fragmentationDetails 14

/-- `is_fragmented`. -/
def Ipv4Header.isFragmented (header : Ipv4Header) : Bool :=
  header.moreFragmentsFlag || header.fragmentOffsetBytes != 0

/-- `ipv6_header_t`, 40 bytes, the fields that are looked at. -/
structure Ipv6Header where
  payloadLength : UInt16
  nextHeader : UInt8
  hopLimit : UInt8
  sourceAddress : Vector UInt8 16
  destinationAddress : Vector UInt8 16

/-- The IPv6 header at address `p`. -/
def readIpv6Header (m : Memory) (p : ℕ) : Except Fault Ipv6Header := do
  let payloadLength ← m.readNtohs (p + 4)
  let nextHeader ← m.read (p + 6)
  let hopLimit ← m.read (p + 7)
  let sourceAddress ← m.readBytes (p + 8) 16
  let destinationAddress ← m.readBytes (p + 24) 16
  return ⟨payloadLength, nextHeader, hopLimit, toVector 16 sourceAddress,
    toVector 16 destinationAddress⟩

/-- `tcp_header_t`, 20 bytes, the fields that are looked at. -/
structure TcpHeader where
  sourcePort : UInt16
  destinationPort : UInt16
  sequenceNumber : UInt32
  ackNumber : UInt32
  dataOffsetAndFlags : UInt16
  windowSize : UInt16

/-- The TCP header at address `p`. -/
def readTcpHeader (m : Memory) (p : ℕ) : Except Fault TcpHeader := do
  let sourcePort ← m.readNtohs p
  let destinationPort ← m.readNtohs (p + 2)
  let sequenceNumber ← m.readNtohl (p + 4)
  let ackNumber ← m.readNtohl (p + 8)
  let dataOffsetAndFlags ← m.readNtohs (p + 12)
  let windowSize ← m.readNtohs (p + 14)
  return ⟨sourcePort, destinationPort, sequenceNumber, ackNumber, dataOffsetAndFlags, windowSize⟩

/-- The flags as they are added up: FIN, SYN, RST, PSH, ACK, URG. -/
def TcpHeader.flags (header : TcpHeader) : UInt8 :=
  let flag := fun (i : ℕ) (value : UInt8) => if bitOf header.dataOffsetAndFlags i then value else 0
  flag 0 0x01 + flag 1 0x02 + flag 2 0x04 + flag 3 0x08 + flag 4 0x10 + flag 5 0x20

/-! ### Transport -/

/-- What a parser gives: its code, and the packet as far as it was filled. -/
abbrev Parsed := Except Fault (ParserCode × ParsedPacket)

/-- The last part of `parse_raw_packet_to_simple_packet_full`, with `localPointer`
behind the IP header. -/
def parseTransport (m : Memory) (localPointer : ℕ) (endPointer : ℤ) (protocol : UInt8)
    (packet : ParsedPacket) : Parsed :=
  if protocol = 6 then
    if localPointer + 20 > endPointer then
      -- a cropped header still has the ports
      if localPointer + 4 > endPointer then .ok (.memoryViolation, packet)
      else do
        let sourcePort ← m.readNtohs localPointer
        let destinationPort ← m.readNtohs (localPointer + 2)
        return (.success, { packet with sourcePort, destinationPort })
    else do
      let tcpHeader ← readTcpHeader m localPointer
      return (.success, { packet with
        sourcePort := tcpHeader.sourcePort
        destinationPort := tcpHeader.destinationPort
        tcpSequenceNumber := tcpHeader.sequenceNumber
        tcpAckNumber := tcpHeader.ackNumber
        tcpWindowSize := tcpHeader.windowSize
        flags := tcpHeader.flags })
  else if protocol = 1 ∨ protocol = 58 then
    if localPointer + 8 > endPointer then .ok (.memoryViolation, packet)
    else do
      let icmpType ← m.read localPointer
      let icmpCode ← m.read (localPointer + 1)
      return (.success, { packet with icmpType, icmpCode })
  else if protocol = 17 then
    if localPointer + 8 > endPointer then .ok (.memoryViolation, packet)
    else do
      let sourcePort ← m.readNtohs localPointer
      let destinationPort ← m.readNtohs (localPointer + 2)
      return (.success, { packet with
        sourcePort
        destinationPort
        l4PayloadPointer := some (localPointer + 8)
        l4PayloadLength := .ofInt (endPointer - (localPointer + 8)) })
  else .ok (.success, packet)

/-! ### Ethernet frames -/

variable (m : Memory) (pointer : ℕ) (lengthBeforeSampling : Int32) (endPointer : ℤ)
  (parserOptions : ParserOptions)

/-- The IPv4 branch of `parse_raw_packet_to_simple_packet_full` and what follows it. -/
def parseIpv4 (localPointer : ℕ) (packet : ParsedPacket) : Parsed :=
  if localPointer + 20 > endPointer then .ok (.memoryViolation, packet)
  else do
    let header ← readIpv4Header m localPointer
    let packet := { packet with
      srcIp := header.sourceIp
      dstIp := header.destinationIp
      ipProtocolVersion := 4
      ttl := header.ttl
      ipLength := header.totalLength.toUInt64
      ipDontFragment := header.dontFragmentFlag
      ipFragmented := header.isFragmented
      ipMoreFragments := header.moreFragmentsFlag
      ipFragmentOffset := header.fragmentOffsetBytes
      capturedPayloadLength := lengthBeforeSampling
      payloadFullLength := .ofInt lengthBeforeSampling.toInt
      payloadPointer := some pointer
      protocol := header.protocol.toUInt32
      length := if parserOptions.readPacketLengthFromIpHeader then header.totalLength.toUInt64
        else .ofInt lengthBeforeSampling.toInt }
    -- only the first fragment has a transport header
    if header.fragmentOffsetBytes ≠ 0 then return (.success, packet)
    else
      let ipHeaderLength := header.ihl * 4
      if localPointer + ipHeaderLength.toNat > endPointer then
        return (.malformedIpHeaderLength, packet)
      else
        parseTransport m (localPointer + ipHeaderLength.toNat) endPointer header.protocol packet

/-- The headers that extend an IPv6 header. -/
def isIpv6Option (protocol : UInt8) : Bool :=
  protocol == 0 || protocol == 43 || protocol == 44 || protocol == 60 || protocol == 51 ||
    protocol == 50

/-- The fragment header of an IPv6 packet, where parsing ends. -/
def parseIpv6Fragment (localPointer : ℕ) (packet : ParsedPacket) : Parsed :=
  if localPointer + 8 > endPointer then .ok (.memoryViolation, packet)
  else do
    let fragmentationAndFlags ← m.readNtohs (localPointer + 2)
    return (.success, { packet with
      ipFragmented := true
      ipMoreFragments := bitOf fragmentationAndFlags 0
      ipFragmentOffset := fragmentationAndFlags / 8 * 8 })

/-- The IPv6 branch of `parse_raw_packet_to_simple_packet_full` and what follows it. -/
def parseIpv6 (localPointer : ℕ) (packet : ParsedPacket) : Parsed :=
  if localPointer + 40 > endPointer then .ok (.memoryViolation, packet)
  else do
    let header ← readIpv6Header m localPointer
    let packet := { packet with
      srcIpv6 := header.sourceAddress
      dstIpv6 := header.destinationAddress
      ipProtocolVersion := 6
      ttl := header.hopLimit
      ipLength := header.payloadLength.toUInt64
      capturedPayloadLength := lengthBeforeSampling
      payloadFullLength := .ofInt lengthBeforeSampling.toInt
      payloadPointer := some pointer
      protocol := header.nextHeader.toUInt32
      length := if parserOptions.readPacketLengthFromIpHeader then header.payloadLength.toUInt64
        else .ofInt lengthBeforeSampling.toInt }
    if isIpv6Option header.nextHeader then
      if header.nextHeader = 44 then parseIpv6Fragment m endPointer (localPointer + 40) packet
      else return (.noIpv6OptionsSupport, packet)
    else parseTransport m (localPointer + 40) endPointer header.nextHeader packet

/-- The branches of `parse_raw_packet_to_simple_packet_full` on the ethertype. -/
def parseEthertype (ethertype : UInt16) (localPointer : ℕ) (packet : ParsedPacket) : Parsed :=
  if ethertype = 2048 then
    parseIpv4 m pointer lengthBeforeSampling endPointer parserOptions localPointer packet
  else if ethertype = 34525 then
    parseIpv6 m pointer lengthBeforeSampling endPointer parserOptions localPointer packet
  else if ethertype = 2054 then .ok (.arp, packet)
  else if ethertype = 34887 then .ok (.mpls, packet)
  else .ok (.unknownEthertype, packet)

/-- The loop over VLAN tags, of which `left` more may be stripped. -/
def stripVlans : (left : ℕ) → (ethertype : UInt16) → (localPointer : ℕ) → ParsedPacket → Parsed
  | left, ethertype, localPointer, packet =>
      if ethertype = 33024 then
        if localPointer + 4 > endPointer then .ok (.memoryViolation, packet)
        else do
          let vlanMetadata ← m.readNtohs localPointer
          -- the outermost tag is kept
          let packet := if left = 3 then { packet with vlan := (vlanMetadata % 4096).toUInt32 }
            else packet
          match left with
          | 0 => return (.tooManyNestedVlans, packet)
          | left + 1 => do
              let ethertype ← m.readNtohs (localPointer + 2)
              stripVlans left ethertype (localPointer + 4) packet
      else
        parseEthertype m pointer lengthBeforeSampling endPointer parserOptions ethertype
          localPointer packet

/-- `parse_raw_packet_to_simple_packet_full`. -/
def parseRawPacketToSimplePacketFull (m : Memory) (pointer : ℕ)
    (lengthBeforeSampling capturedLength : Int32) (packet : ParsedPacket)
    (parserOptions : ParserOptions) : Parsed :=
  let endPointer : ℤ := pointer + capturedLength.toInt
  if pointer + 14 > endPointer then .ok (.memoryViolation, packet)
  else do
    let header ← readEthernetHeader m pointer
    let packet := { packet with
      sourceMac := header.sourceMac
      destinationMac := header.destinationMac }
    stripVlans m pointer lengthBeforeSampling endPointer parserOptions 3 header.ethertype
      (pointer + 14) packet

/-! ### IP packets without an Ethernet header -/

/-- The last part of the parsers of IP packets.  A cropped TCP header is turned
down here, and ICMP for IPv6 is not known. -/
def parseRawTransport (m : Memory) (localPointer : ℕ) (endPointer : ℤ) (protocol : UInt8)
    (packet : ParsedPacket) : Parsed :=
  if protocol = 6 then
    if localPointer + 20 > endPointer then .ok (.memoryViolation, packet)
    else do
      let tcpHeader ← readTcpHeader m localPointer
      return (.success, { packet with
        sourcePort := tcpHeader.sourcePort
        destinationPort := tcpHeader.destinationPort
        flags := tcpHeader.flags
        tcpSequenceNumber := tcpHeader.sequenceNumber
        tcpAckNumber := tcpHeader.ackNumber
        tcpWindowSize := tcpHeader.windowSize })
  else if protocol = 17 then
    if localPointer + 8 > endPointer then .ok (.memoryViolation, packet)
    else do
      let sourcePort ← m.readNtohs localPointer
      let destinationPort ← m.readNtohs (localPointer + 2)
      return (.success, { packet with
        sourcePort
        destinationPort
        l4PayloadPointer := some (localPointer + 8)
        l4PayloadLength := .ofInt (endPointer - (localPointer + 8)) })
  else if protocol = 1 then
    if localPointer + 8 > endPointer then .ok (.memoryViolation, packet)
    else do
      let icmpType ← m.read localPointer
      let icmpCode ← m.read (localPointer + 1)
      return (.success, { packet with icmpType, icmpCode })
  else .ok (.success, packet)

/-- `parse_raw_ipv4_packet_to_simple_packet_full`. -/
def parseRawIpv4PacketToSimplePacketFull (m : Memory) (pointer : ℕ)
    (lengthBeforeSampling capturedLength : Int32) (packet : ParsedPacket)
    (parserOptions : ParserOptions) : Parsed :=
  let endPointer : ℤ := pointer + capturedLength.toInt
  if pointer + 20 > endPointer then .ok (.memoryViolation, packet)
  else do
    let header ← readIpv4Header m pointer
    -- neither the offset of a fragment nor the flag for more fragments is taken over
    let packet := { packet with
      srcIp := header.sourceIp
      dstIp := header.destinationIp
      ipProtocolVersion := 4
      ttl := header.ttl
      ipLength := header.totalLength.toUInt64
      ipDontFragment := header.dontFragmentFlag
      ipFragmented := header.isFragmented
      capturedPayloadLength := lengthBeforeSampling
      payloadFullLength := .ofInt lengthBeforeSampling.toInt
      payloadPointer := some pointer
      protocol := header.protocol.toUInt32
      length := if parserOptions.readPacketLengthFromIpHeader then header.totalLength.toUInt64
        else .ofInt lengthBeforeSampling.toInt }
    let ipHeaderLength := header.ihl * 4
    if pointer + ipHeaderLength.toNat > endPointer then
      return (.malformedIpHeaderLength, packet)
    else
      parseRawTransport m (pointer + ipHeaderLength.toNat) endPointer header.protocol packet

/-- `parse_raw_ipv6_packet_to_simple_packet_full`. -/
def parseRawIpv6PacketToSimplePacketFull (m : Memory) (pointer : ℕ)
    (lengthBeforeSampling capturedLength : Int32) (packet : ParsedPacket)
    (parserOptions : ParserOptions) : Parsed :=
  let endPointer : ℤ := pointer + capturedLength.toInt
  if pointer + 40 > endPointer then .ok (.memoryViolation, packet)
  else do
    let header ← readIpv6Header m pointer
    let packet := { packet with
      srcIpv6 := header.sourceAddress
      dstIpv6 := header.destinationAddress
      ipProtocolVersion := 6
      ttl := header.hopLimit
      ipLength := header.payloadLength.toUInt64
      capturedPayloadLength := lengthBeforeSampling
      payloadFullLength := .ofInt lengthBeforeSampling.toInt
      payloadPointer := some pointer
      protocol := header.nextHeader.toUInt32
      length := if parserOptions.readPacketLengthFromIpHeader then header.payloadLength.toUInt64
        else .ofInt lengthBeforeSampling.toInt }
    if isIpv6Option header.nextHeader then
      if header.nextHeader = 44 then parseIpv6Fragment m endPointer (pointer + 40) packet
      else return (.noIpv6OptionsSupport, packet)
    else parseRawTransport m (pointer + 40) endPointer header.nextHeader packet

end FastNetMon
