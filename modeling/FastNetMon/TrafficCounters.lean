/-
FastNetMon/TrafficCounters.lean

The path of a packet through the traffic counters (`process_packet`).

The lookup trees are functions from an address to its best-matching network.  IPv4 and IPv6
traffic have counters of their own: totals for each direction, and maps of counters for hosts
and for networks.  Statistics of the daemon, connection tracking and the packet buckets have
no part in these.
-/
import FastNetMon.CounterMap
import FastNetMon.FlowSpecEquality
import FastNetMon.Ipv6Announce
import FastNetMon.PacketParser

namespace FastNetMon

/-! ### Counters -/

/-- `traffic_counter_element_t`. -/
structure TrafficCounterElement where
  inBytes : UInt64 := 0
  outBytes : UInt64 := 0
  inPackets : UInt64 := 0
  outPackets : UInt64 := 0
deriving DecidableEq

/-- `subnet_counter_t`, what packets change of it. -/
structure SubnetCounter where
  lastUpdateTime : Int64 := 0
  total : TrafficCounterElement := {}
  tcp : TrafficCounterElement := {}
  udp : TrafficCounterElement := {}
  icmp : TrafficCounterElement := {}
  fragmented : TrafficCounterElement := {}
  tcpSyn : TrafficCounterElement := {}
  dropped : TrafficCounterElement := {}
deriving DecidableEq

instance : Inhabited SubnetCounter := ⟨{}⟩

/-- `single_counter_element_t`. -/
structure SingleCounterElement where
  bytes : UInt64 := 0
  packets : UInt64 := 0
deriving DecidableEq

/-- `in_packets += …` and `in_bytes += …`. -/
def TrafficCounterElement.addIncoming (element : TrafficCounterElement)
    (sampledNumberOfPackets sampledNumberOfBytes : UInt64) : TrafficCounterElement :=
  { element with
    inPackets := element.inPackets + sampledNumberOfPackets
    inBytes := element.inBytes + sampledNumberOfBytes }

/-- `out_packets += …` and `out_bytes += …`. -/
def TrafficCounterElement.addOutgoing (element : TrafficCounterElement)
    (sampledNumberOfPackets sampledNumberOfBytes : UInt64) : TrafficCounterElement :=
  { element with
    outPackets := element.outPackets + sampledNumberOfPackets
    outBytes := element.outBytes + sampledNumberOfBytes }

/-- The number of the FIN bit in the flags, from one, as for the other flags. -/
def TCP_FIN_FLAG_SHIFT : ℕ := 1
@[inherit_doc TCP_FIN_FLAG_SHIFT]
def TCP_SYN_FLAG_SHIFT : ℕ := 2
@[inherit_doc TCP_FIN_FLAG_SHIFT]
def TCP_RST_FLAG_SHIFT : ℕ := 3
@[inherit_doc TCP_FIN_FLAG_SHIFT]
def TCP_PSH_FLAG_SHIFT : ℕ := 4
@[inherit_doc TCP_FIN_FLAG_SHIFT]
def TCP_ACK_FLAG_SHIFT : ℕ := 5
@[inherit_doc TCP_FIN_FLAG_SHIFT]
def TCP_URG_FLAG_SHIFT : ℕ := 6

/-- `extract_bit_value`. -/
def extractBitValue (num : UInt8) (bit : ℕ) : Bool :=
  if 0 < bit ∧ bit ≤ 8 then num.toNat.testBit (bit - 1) else false

/-- `IpProtocolNumberIPV6_ICMP`. -/
def IpProtocolNumberIPV6_ICMP : UInt32 := 58

variable (currentInaccurateTime : Int64)

/-- What the two increment functions do, with what they add to each field. -/
def incrementCounters (add : TrafficCounterElement → TrafficCounterElement)
    (currentElement : SubnetCounter) (currentPacket : ParsedPacket) : SubnetCounter :=
  let counter := { currentElement with
    lastUpdateTime := currentInaccurateTime
    total := add currentElement.total }
  let counter :=
    if currentPacket.ipFragmented then { counter with fragmented := add counter.fragmented }
    else counter
  let counter :=
    if currentPacket.forwardingStatus = .dropped then { counter with dropped := add counter.dropped }
    else counter
  let counter :=
    if currentPacket.protocol = IpProtocol.TCP.asNumber.toUInt32 then
      let counter := { counter with tcp := add counter.tcp }
      if extractBitValue currentPacket.flags TCP_SYN_FLAG_SHIFT then
        { counter with tcpSyn := add counter.tcpSyn }
      else counter
    else if currentPacket.protocol = IpProtocol.UDP.asNumber.toUInt32 then
      { counter with udp := add counter.udp }
    else counter
  if currentPacket.ipProtocolVersion = 4 then
    if currentPacket.protocol = IpProtocol.ICMP.asNumber.toUInt32 then
      { counter with icmp := add counter.icmp }
    else counter
  else if currentPacket.ipProtocolVersion = 6 then
    if currentPacket.protocol = IpProtocolNumberIPV6_ICMP then
      { counter with icmp := add counter.icmp }
    else counter
  else counter

/-- `increment_incoming_counters`. -/
def incrementIncomingCounters (currentElement : SubnetCounter) (currentPacket : ParsedPacket)
    (sampledNumberOfPackets sampledNumberOfBytes : UInt64) : SubnetCounter :=
  incrementCounters currentInaccurateTime
    (·.addIncoming sampledNumberOfPackets sampledNumberOfBytes) currentElement currentPacket

/-- `increment_outgoing_counters`. -/
def incrementOutgoingCounters (currentElement : SubnetCounter) (currentPacket : ParsedPacket)
    (sampledNumberOfPackets sampledNumberOfBytes : UInt64) : SubnetCounter :=
  incrementCounters currentInaccurateTime
    (·.addOutgoing sampledNumberOfPackets sampledNumberOfBytes) currentElement currentPacket

/-! ### Directions -/

/-- The direction of a packet, and the network of ours that it goes to or comes from. -/
def directionBetween {α ν : Type} (lookup : α → Option ν) (src dst : α) (subnet : ν) :
    Direction × ν :=
  match lookup src, lookup dst with
  | some _, some _ => (.internal, subnet)
  | some sourceSubnet, none => (.outgoing, sourceSubnet)
  | none, some destinationSubnet => (.incoming, destinationSubnet)
  | none, none => (.other, subnet)

/-- `get_packet_direction`. -/
def getPacketDirection (lookupTree : UInt32 → Option SubnetCidrMask) (srcIp dstIp : UInt32) :
    Direction × SubnetCidrMask :=
  directionBetween lookupTree srcIp dstIp {}

/-- `get_packet_direction_ipv6`. -/
def getPacketDirectionIpv6 (lookupTree : In6Addr → Option SubnetIpv6CidrMask)
    (srcIpv6 dstIpv6 : In6Addr) : Direction × SubnetIpv6CidrMask :=
  directionBetween lookupTree srcIpv6 dstIpv6 {}

/-! ### The whitelist -/

/-- `uint8t_representation_of_tcp_flags_to_flow_spec`, from a flagset with no flags. -/
def uint8tRepresentationOfTcpFlagsToFlowSpec (tcpFlags : UInt8) : FlowSpecTcpFlagset where
  synFlag := extractBitValue tcpFlags TCP_SYN_FLAG_SHIFT
  finFlag := extractBitValue tcpFlags TCP_FIN_FLAG_SHIFT
  rstFlag := extractBitValue tcpFlags TCP_RST_FLAG_SHIFT
  pshFlag := extractBitValue tcpFlags TCP_PSH_FLAG_SHIFT
  ackFlag := extractBitValue tcpFlags TCP_ACK_FLAG_SHIFT
  urgFlag := extractBitValue tcpFlags TCP_URG_FLAG_SHIFT

/-- A lookup tree with one network, and whether it finds an address. -/
abbrev LookupTree32bit := SubnetCidrMask → UInt32 → Bool

/-- The comparison of an address of the packet with the prefix of a rule. -/
def ipMatches (lookupIp : LookupTree32bit) (ipv4Used : Bool) (ipv4 : SubnetCidrMask)
    (ipv6Used : Bool) (ipv6 : SubnetIpv6CidrMask) (ip : UInt32) (ipv6Address : In6Addr) : Bool :=
  if ipv4Used then
    if ipv4.cidrPrefixLength = 32 then ipv4 = ⟨ip, 32⟩ else lookupIp ipv4 ip
  else if ipv6Used then
    -- no boundary but /128 is supported
    if ipv6.cidrPrefixLength = 128 then ipv6 = ⟨ipv6Address, 128⟩ else false
  else true

/-- `filter_packet_by_flowspec_rule`. -/
def filterPacketByFlowspecRule (lookupIp : LookupTree32bit) (currentPacket : ParsedPacket)
    (flowAnnounce : FlowSpecRule) : Bool :=
  let sourcePortMatches := flowAnnounce.sourcePorts.isEmpty
    || flowAnnounce.sourcePorts.contains currentPacket.sourcePort
  let destinationPortMatches := flowAnnounce.destinationPorts.isEmpty
    || flowAnnounce.destinationPorts.contains currentPacket.destinationPort
  let protocolMatches := flowAnnounce.protocols.isEmpty
    || (currentPacket.protocol ≤ 255
      && flowAnnounce.protocols.contains ⟨currentPacket.protocol.toUInt8⟩)
  let sourceIpMatches := ipMatches lookupIp flowAnnounce.sourceSubnetIpv4Used
    flowAnnounce.sourceSubnetIpv4 flowAnnounce.sourceSubnetIpv6Used flowAnnounce.sourceSubnetIpv6
    currentPacket.srcIp currentPacket.srcIpv6
  let destinationIpMatches := ipMatches lookupIp flowAnnounce.destinationSubnetIpv4Used
    flowAnnounce.destinationSubnetIpv4 flowAnnounce.destinationSubnetIpv6Used
    flowAnnounce.destinationSubnetIpv6 currentPacket.dstIp currentPacket.dstIpv6
  let fragmentationFlagsMatches := flowAnnounce.fragmentationFlags.isEmpty
    || flowAnnounce.fragmentationFlags.any fun flag =>
      (flag = .dontFragment && currentPacket.ipDontFragment)
        || (flag = .isAFragment && currentPacket.ipFragmented)
  let tcpFlagsMatches := flowAnnounce.tcpFlags.isEmpty
    || flowAnnounce.tcpFlags.any
      (·.operatorEq (uint8tRepresentationOfTcpFlagsToFlowSpec currentPacket.flags))
  let packetSizeMatches := flowAnnounce.packetLengths.isEmpty
    -- the bound is not that of `uint16_t`
    || (currentPacket.length ≤ 65635
      && (flowAnnounce.packetLengths.contains currentPacket.length.toUInt16
        || flowAnnounce.packetLengths.contains currentPacket.ipLength.toUInt16))
  let vlanMatches := flowAnnounce.vlans.isEmpty
    || flowAnnounce.vlans.any fun vlan => vlan.toUInt32 = currentPacket.vlan
  sourcePortMatches && destinationPortMatches && sourceIpMatches && destinationIpMatches
    && packetSizeMatches && tcpFlagsMatches && fragmentationFlagsMatches && protocolMatches
    && vlanMatches

/-! ### Processing -/

/-- The counters of one version of the protocol. -/
structure FamilyCounters (κ ν : Type) where
  totalCounters : Direction → SingleCounterElement := fun _ => {}
  hostCounters : CounterMap κ SubnetCounter := []
  networkCounters : CounterMap ν SubnetCounter := []

/-- The counters that packets are counted in. -/
structure TrafficState where
  ipv4 : FamilyCounters UInt32 SubnetCidrMask := {}
  ipv6 : FamilyCounters SubnetIpv6CidrMask SubnetIpv6CidrMask := {}

/-- What the processing of packets takes from the configuration. -/
structure TrafficContext where
  lookupTreeIpv4 : UInt32 → Option SubnetCidrMask
  lookupTreeIpv6 : In6Addr → Option SubnetIpv6CidrMask
  lookupTree32bit : LookupTree32bit
  staticFlowspecBasedWhitelist : List FlowSpecRule
  processIncomingTraffic : Bool
  processOutgoingTraffic : Bool

variable (context : TrafficContext)

/-- `filter_packet_by_flowspec_rule_list` with the whitelist. -/
def filterPacketByWhitelist (currentPacket : ParsedPacket) : Bool :=
  context.staticFlowspecBasedWhitelist.any
    (filterPacketByFlowspecRule context.lookupTree32bit currentPacket)

/-- A direction that is switched off. -/
def skipsDirection (packetDirection : Direction) : Bool :=
  (packetDirection = .incoming && !context.processIncomingTraffic)
    || (packetDirection = .outgoing && !context.processOutgoingTraffic)

/-- `sampled_number_of_packets`. -/
def sampledNumberOfPackets (packet : ParsedPacket) : UInt64 :=
  packet.numberOfPackets * packet.sampleRatio.toUInt64

/-- `sampled_number_of_bytes`. -/
def sampledNumberOfBytes (packet : ParsedPacket) : UInt64 :=
  packet.length * packet.sampleRatio.toUInt64

variable {κ ν : Type}

/-- `total_counters[packet_direction]` with a packet added. -/
def FamilyCounters.addTotal (counters : FamilyCounters κ ν) (packetDirection : Direction)
    (packet : ParsedPacket) : FamilyCounters κ ν :=
  { counters with
    totalCounters := Function.update counters.totalCounters packetDirection
      { packets := (counters.totalCounters packetDirection).packets + sampledNumberOfPackets packet
        bytes := (counters.totalCounters packetDirection).bytes + sampledNumberOfBytes packet } }

/-- `increment_outgoing_counters_for_key` or `increment_incoming_counters_for_key` of the
host counters, as the direction says. -/
def FamilyCounters.addToHost [DecidableEq κ] (counters : FamilyCounters κ ν)
    (packetDirection : Direction) (source destination : κ) (packet : ParsedPacket) :
    FamilyCounters κ ν :=
  match packetDirection with
  | .outgoing => { counters with
      hostCounters := counters.hostCounters.modifyAt source fun counter =>
        incrementOutgoingCounters currentInaccurateTime counter packet
          (sampledNumberOfPackets packet) (sampledNumberOfBytes packet) }
  | .incoming => { counters with
      hostCounters := counters.hostCounters.modifyAt destination fun counter =>
        incrementIncomingCounters currentInaccurateTime counter packet
          (sampledNumberOfPackets packet) (sampledNumberOfBytes packet) }
  | .internal => counters
  | .other => counters

/-- The part of `process_ipv6_packet` that adds to the counter of the network; it makes one
for any packet. -/
def addToNetworkIpv6 (counters : FamilyCounters SubnetIpv6CidrMask SubnetIpv6CidrMask)
    (packetDirection : Direction) (ipv6CidrSubnet : SubnetIpv6CidrMask) (packet : ParsedPacket) :
    FamilyCounters SubnetIpv6CidrMask SubnetIpv6CidrMask :=
  { counters with
    networkCounters := counters.networkCounters.modifyAt ipv6CidrSubnet fun counter =>
      match packetDirection with
      | .outgoing => { counter with
          total := counter.total.addOutgoing (sampledNumberOfPackets packet)
            (sampledNumberOfBytes packet) }
      | .incoming => { counter with
          total := counter.total.addIncoming (sampledNumberOfPackets packet)
            (sampledNumberOfBytes packet) }
      | .internal => counter
      | .other => counter }

/-- The part of `process_packet` that adds to the counter of the network. -/
def addToNetworkIpv4 (counters : FamilyCounters UInt32 SubnetCidrMask)
    (packetDirection : Direction) (currentSubnet : SubnetCidrMask) (packet : ParsedPacket) :
    FamilyCounters UInt32 SubnetCidrMask :=
  match packetDirection with
  | .outgoing => { counters with
      networkCounters := counters.networkCounters.modifyAt currentSubnet fun counter =>
        incrementOutgoingCounters currentInaccurateTime counter packet
          (sampledNumberOfPackets packet) (sampledNumberOfBytes packet) }
  | .incoming => { counters with
      networkCounters := counters.networkCounters.modifyAt currentSubnet fun counter =>
        incrementIncomingCounters currentInaccurateTime counter packet
          (sampledNumberOfPackets packet) (sampledNumberOfBytes packet) }
  | .internal => counters
  | .other => counters

/-- `process_ipv6_packet`. -/
def processIpv6Packet (counters : FamilyCounters SubnetIpv6CidrMask SubnetIpv6CidrMask)
    (packet : ParsedPacket) : FamilyCounters SubnetIpv6CidrMask SubnetIpv6CidrMask :=
  let (packetDirection, ipv6CidrSubnet) :=
    getPacketDirectionIpv6 context.lookupTreeIpv6 packet.srcIpv6 packet.dstIpv6
  if skipsDirection context packetDirection then counters
  else
    let counters := counters.addTotal packetDirection packet
    let counters := addToNetworkIpv6 counters packetDirection ipv6CidrSubnet packet
    counters.addToHost currentInaccurateTime packetDirection ⟨packet.srcIpv6, 128⟩
      ⟨packet.dstIpv6, 128⟩ packet

/-- `process_packet` behind its branch for IPv6. -/
def processIpv4Packet (counters : FamilyCounters UInt32 SubnetCidrMask) (packet : ParsedPacket) :
    FamilyCounters UInt32 SubnetCidrMask :=
  let (packetDirection, currentSubnet) :=
    getPacketDirection context.lookupTreeIpv4 packet.srcIp packet.dstIp
  if (packetDirection = .incoming ∨ packetDirection = .outgoing)
      ∧ context.staticFlowspecBasedWhitelist.length > 0
      ∧ filterPacketByWhitelist context packet then counters
  else if skipsDirection context packetDirection then counters
  else
    let counters := addToNetworkIpv4 currentInaccurateTime counters packetDirection currentSubnet
      packet
    let counters := counters.addTotal packetDirection packet
    counters.addToHost currentInaccurateTime packetDirection packet.srcIp packet.dstIp packet

/-- `process_packet`. -/
def processPacket (s : TrafficState) (packet : ParsedPacket) : TrafficState :=
  if packet.ipProtocolVersion = 4 then
    { s with ipv4 := processIpv4Packet currentInaccurateTime context s.ipv4 packet }
  else if packet.ipProtocolVersion = 6 then
    { s with ipv6 := processIpv6Packet currentInaccurateTime context s.ipv6 packet }
  else s

/-- Packets one after the other, each at the time it comes in. -/
def processPackets (packets : List (Int64 × ParsedPacket)) : TrafficState :=
  packets.foldl (fun s arrival => processPacket arrival.1 context s arrival.2) {}

end FastNetMon
