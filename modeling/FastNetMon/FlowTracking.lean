/-
FastNetMon/FlowTracking.lean

Connection tracking (`SubnetVectorMapFlow`) beside the traffic counters.

The last part of `process_packet` counts a TCP or UDP packet for its flow: under the host of
ours, in the table of its side of the traffic and its protocol, at the key that packs the
remote address and both ports.  Once in a while `recalculate_speed` reads off the numbers of
flows of all hosts, zeroes the traffic counters, and after that clears the tables.

The tables have a mutex of their own, and so have the maps of hosts and of networks; the totals
are atomic.  A call of `process_packet` or `recalculate_speed` goes through these parts one after
the other, and the calls of different threads may get between each other at any of them.  A
section is what one call does to one part, and sections may come in any order.  Tracking is on.

Main results: the tables hold the flows of the packets since they were cleared, no more and no
fewer (`flowTables_run`); every counter is the tally of the packets since its own last reset, and
the totals agree with the hosts and networks as far as they are about the same packets, so always
if calls are not interleaved (`totals_agree_run`); where tables and host counters are about the
same packets, they agree (`flowTables_agree_with_counters`).
-/
import FastNetMon.Detection
import FastNetMon.LockSections
import FastNetMon.TrafficSections

namespace FastNetMon

open CounterMap

/-! ### Keys of flows -/

/-- `packed_conntrack_hash_t`. -/
structure PackedConntrackHash where
  oppositeIp : UInt32 := 0
  srcPort : UInt16 := 0
  dstPort : UInt16 := 0
deriving DecidableEq, Repr

/-- `convert_conntrack_hash_struct_to_integer`: the eight bytes of the structure, read as a
little-endian number. -/
def convertConntrackHashStructToInteger (structValue : PackedConntrackHash) : UInt64 :=
  UInt64.ofNat (structValue.oppositeIp.toNat + structValue.srcPort.toNat * 2 ^ 32
    + structValue.dstPort.toNat * 2 ^ 48)

/-- `convert_integer_to_conntrack_hash_struct`. -/
def convertIntegerToConntrackHashStruct (packedConnectionData : UInt64) : PackedConntrackHash where
  oppositeIp := UInt32.ofNat (packedConnectionData.toNat % 2 ^ 32)
  srcPort := UInt16.ofNat (packedConnectionData.toNat / 2 ^ 32 % 2 ^ 16)
  dstPort := UInt16.ofNat (packedConnectionData.toNat / 2 ^ 48)

/-- A packed flow is unpacked to itself. -/
@[simp] theorem convertIntegerToConntrackHashStruct_convert (flow : PackedConntrackHash) :
    convertIntegerToConntrackHashStruct (convertConntrackHashStructToInteger flow) = flow := by
  obtain ⟨oppositeIp, srcPort, dstPort⟩ := flow
  have hip := oppositeIp.toNat_lt
  have hsrc := srcPort.toNat_lt
  have hdst := dstPort.toNat_lt
  have hpacked : (convertConntrackHashStructToInteger ⟨oppositeIp, srcPort, dstPort⟩).toNat
      = oppositeIp.toNat + srcPort.toNat * 2 ^ 32 + dstPort.toNat * 2 ^ 48 := by
    rw [convertConntrackHashStructToInteger, UInt64.toNat_ofNat']
    dsimp only
    omega
  have hoppositeIp : (oppositeIp.toNat + srcPort.toNat * 2 ^ 32 + dstPort.toNat * 2 ^ 48) % 2 ^ 32
      = oppositeIp.toNat := by omega
  have hsrcPort : (oppositeIp.toNat + srcPort.toNat * 2 ^ 32 + dstPort.toNat * 2 ^ 48) / 2 ^ 32
      % 2 ^ 16 = srcPort.toNat := by omega
  have hdstPort : (oppositeIp.toNat + srcPort.toNat * 2 ^ 32 + dstPort.toNat * 2 ^ 48) / 2 ^ 48
      = dstPort.toNat := by omega
  rw [convertIntegerToConntrackHashStruct, hpacked, hoppositeIp, hsrcPort, hdstPort]
  simp

/-- Every key is that of a flow. -/
@[simp] theorem convertConntrackHashStructToInteger_convert (packedConnectionData : UInt64) :
    convertConntrackHashStructToInteger (convertIntegerToConntrackHashStruct packedConnectionData)
      = packedConnectionData := by
  have hbound := packedConnectionData.toNat_lt
  apply UInt64.toNat_inj.mp
  rw [convertIntegerToConntrackHashStruct, convertConntrackHashStructToInteger, UInt64.toNat_ofNat',
    UInt32.toNat_ofNat', UInt16.toNat_ofNat', UInt16.toNat_ofNat']
  omega

/-- Different flows have different keys. -/
theorem convertConntrackHashStructToInteger_injective :
    Function.Injective convertConntrackHashStructToInteger :=
  Function.LeftInverse.injective convertIntegerToConntrackHashStruct_convert

/-! ### Tables -/

/-- `conntrack_key_struct_t`; nothing sets or reads its time. -/
structure ConntrackKeyStruct where
  bytes : UInt64 := 0
  packets : UInt64 := 0
deriving DecidableEq

instance : Inhabited ConntrackKeyStruct := ⟨{}⟩

/-- `contrack_map_type`. -/
abbrev ContrackMap := CounterMap UInt64 ConntrackKeyStruct

/-- `conntrack_main_struct_t`; nothing fills the tables of ICMP and of other protocols. -/
structure ConntrackMainStruct where
  inTcp : ContrackMap := []
  inUdp : ContrackMap := []
  inIcmp : ContrackMap := []
  inOther : ContrackMap := []
  outTcp : ContrackMap := []
  outUdp : ContrackMap := []
  outIcmp : ContrackMap := []
  outOther : ContrackMap := []

instance : Inhabited ConntrackMainStruct := ⟨{}⟩

/-- `map_of_vector_counters_for_flow_t`, its hosts in host byte order. -/
abbrev MapOfVectorCountersForFlow := CounterMap UInt32 ConntrackMainStruct

/-- `packets += …` and `bytes += …`. -/
def ConntrackKeyStruct.add (sampledNumberOfPackets sampledNumberOfBytes : UInt64)
    (conntrackKeyStruct : ConntrackKeyStruct) : ConntrackKeyStruct where
  packets := conntrackKeyStruct.packets + sampledNumberOfPackets
  bytes := conntrackKeyStruct.bytes + sampledNumberOfBytes

/-- `init_incoming_flow_counting_structure`. -/
def initIncomingFlowCountingStructure (currentPacket : ParsedPacket) : PackedConntrackHash where
  oppositeIp := currentPacket.srcIp
  srcPort := currentPacket.sourcePort
  dstPort := currentPacket.destinationPort

/-- `init_outgoing_flow_counting_structure`. -/
def initOutgoingFlowCountingStructure (currentPacket : ParsedPacket) : PackedConntrackHash where
  oppositeIp := currentPacket.dstIp
  srcPort := currentPacket.sourcePort
  dstPort := currentPacket.destinationPort

/-- `increment_incoming_flow_counters`. -/
def incrementIncomingFlowCounters (flows : MapOfVectorCountersForFlow) (clientIp : UInt32)
    (currentPacket : ParsedPacket) (sampledNumberOfPackets sampledNumberOfBytes : UInt64) :
    MapOfVectorCountersForFlow :=
  let connectionTrackingHash :=
    convertConntrackHashStructToInteger (initIncomingFlowCountingStructure currentPacket)
  flows.modifyAt clientIp fun currentElementFlow =>
    if currentPacket.protocol = IpProtocol.TCP.asNumber.toUInt32 then
      { currentElementFlow with
        inTcp := currentElementFlow.inTcp.modifyAt connectionTrackingHash
          (ConntrackKeyStruct.add sampledNumberOfPackets sampledNumberOfBytes) }
    else if currentPacket.protocol = IpProtocol.UDP.asNumber.toUInt32 then
      { currentElementFlow with
        inUdp := currentElementFlow.inUdp.modifyAt connectionTrackingHash
          (ConntrackKeyStruct.add sampledNumberOfPackets sampledNumberOfBytes) }
    else currentElementFlow

/-- `increment_outgoing_flow_counters`. -/
def incrementOutgoingFlowCounters (flows : MapOfVectorCountersForFlow) (clientIp : UInt32)
    (currentPacket : ParsedPacket) (sampledNumberOfPackets sampledNumberOfBytes : UInt64) :
    MapOfVectorCountersForFlow :=
  let connectionTrackingHash :=
    convertConntrackHashStructToInteger (initOutgoingFlowCountingStructure currentPacket)
  flows.modifyAt clientIp fun currentElementFlow =>
    if currentPacket.protocol = IpProtocol.TCP.asNumber.toUInt32 then
      { currentElementFlow with
        outTcp := currentElementFlow.outTcp.modifyAt connectionTrackingHash
          (ConntrackKeyStruct.add sampledNumberOfPackets sampledNumberOfBytes) }
    else if currentPacket.protocol = IpProtocol.UDP.asNumber.toUInt32 then
      { currentElementFlow with
        outUdp := currentElementFlow.outUdp.modifyAt connectionTrackingHash
          (ConntrackKeyStruct.add sampledNumberOfPackets sampledNumberOfBytes) }
    else currentElementFlow

/-- `total_in_flows` and `total_out_flows`. -/
def ConntrackMainStruct.totalFlows (element : ConntrackMainStruct) : UInt64 × UInt64 :=
  (UInt64.ofNat element.inTcp.length + UInt64.ofNat element.inUdp.length
      + UInt64.ofNat element.inIcmp.length + UInt64.ofNat element.inOther.length,
    UInt64.ofNat element.outTcp.length + UInt64.ofNat element.outUdp.length
      + UInt64.ofNat element.outIcmp.length + UInt64.ofNat element.outOther.length)

/-- `increment_flow_counters`; `none` if there are no tables for the host.  The division by the
period is in floating point, and is a parameter. -/
def incrementFlowCounters (flows : MapOfVectorCountersForFlow) (perSecond : UInt64 → UInt64)
    (newSpeedElement : SpeedElement) (clientIp : UInt32) : Option SpeedElement :=
  if clientIp ∈ flows.keys then
    let (totalInFlows, totalOutFlows) := (flows.lookup clientIp).totalFlows
    some { newSpeedElement with
      inFlows := perSecond totalInFlows
      outFlows := perSecond totalOutFlows }
  else none

/-! ### Sections -/

variable (context : TrafficContext)

/-- The end of `process_packet`, behind its checks. -/
def trackConnection (flows : MapOfVectorCountersForFlow) (packet : ParsedPacket) :
    MapOfVectorCountersForFlow :=
  if packet.ipProtocolVersion ≠ 4 then flows
  else
    let (packetDirection, _) := getPacketDirection context.lookupTreeIpv4 packet.srcIp packet.dstIp
    if (packetDirection = .incoming ∨ packetDirection = .outgoing)
        ∧ context.staticFlowspecBasedWhitelist.length > 0
        ∧ filterPacketByWhitelist context packet then flows
    else if skipsDirection context packetDirection then flows
    else
      match packetDirection with
      | .outgoing => incrementOutgoingFlowCounters flows (byteSwap32 packet.srcIp) packet
          (sampledNumberOfPackets packet) (sampledNumberOfBytes packet)
      | .incoming => incrementIncomingFlowCounters flows (byteSwap32 packet.dstIp) packet
          (sampledNumberOfPackets packet) (sampledNumberOfBytes packet)
      | .internal => flows
      | .other => flows

/-- The counters and the tables. -/
structure TrackedTraffic where
  traffic : TrafficState := {}
  flows : MapOfVectorCountersForFlow := []

/-- The parts that are locked or atomic. -/
inductive TrafficPart
  | ipv4 (part : CounterPart)
  | ipv6 (part : CounterPart)
  | flows
deriving DecidableEq

/-- The calls of the threads. -/
inductive TrafficCall
  | processPacket (currentInaccurateTime : Int64) (packet : ParsedPacket)
  | recalculateSpeed

/-- A call with no other call in between. -/
def TrafficCall.run (call : TrafficCall) (s : TrackedTraffic) : TrackedTraffic :=
  match call with
  | .processPacket currentInaccurateTime packet =>
      { traffic := FastNetMon.processPacket currentInaccurateTime context s.traffic packet
        flows := trackConnection context s.flows packet }
  | .recalculateSpeed => { traffic := ⟨s.traffic.ipv4.zeroify, s.traffic.ipv6.zeroify⟩, flows := [] }

/-- The parts in the order of the source. -/
def TrafficCall.parts : TrafficCall → List TrafficPart
  | .processPacket _ packet =>
      if packet.ipProtocolVersion = 4 then
        (FamilyCounters.partsOfPacketIpv4 (packetDirection context packet)).map .ipv4 ++ [.flows]
      else if packet.ipProtocolVersion = 6 then
        (FamilyCounters.partsOfPacketIpv6 (packetDirection context packet)).map .ipv6
      else []
  | .recalculateSpeed =>
      [.ipv4 .networks, .ipv4 .hosts, .ipv6 .networks, .ipv6 .hosts, .flows]
        ++ totalParts.map .ipv4 ++ totalParts.map .ipv6
where
  totalParts : List CounterPart :=
    [.incoming, .outgoing, .internal, .other].flatMap fun direction =>
      [.total direction .bytes, .total direction .packets]

namespace TrackedTraffic

/-- The states agree at a part. -/
def SameAt (s s' : TrackedTraffic) : TrafficPart → Prop
  | .ipv4 part => s.traffic.ipv4.SameAt s'.traffic.ipv4 part
  | .ipv6 part => s.traffic.ipv6.SameAt s'.traffic.ipv6 part
  | .flows => s.flows = s'.flows

/-- The state with one part of another. -/
def put (s s' : TrackedTraffic) : TrafficPart → TrackedTraffic
  | .ipv4 part =>
      { s with traffic := { s.traffic with ipv4 := s.traffic.ipv4.put s'.traffic.ipv4 part } }
  | .ipv6 part =>
      { s with traffic := { s.traffic with ipv6 := s.traffic.ipv6.put s'.traffic.ipv6 part } }
  | .flows => { s with flows := s'.flows }

variable {s s' : TrackedTraffic} {part other : TrafficPart} {context : TrafficContext}

/-- To agree at one part is an equivalence. -/
theorem SameAt.equivalence (part : TrafficPart) :
    Equivalence fun s s' : TrackedTraffic => s.SameAt s' part := by
  cases part with
  | ipv4 part =>
      have h : Equivalence fun counters counters' : FamilyCounters UInt32 SubnetCidrMask =>
          counters.SameAt counters' part := FamilyCounters.SameAt.equivalence part
      exact ⟨fun _ => h.refl _, h.symm, h.trans⟩
  | ipv6 part =>
      have h : Equivalence fun counters counters' :
            FamilyCounters SubnetIpv6CidrMask SubnetIpv6CidrMask =>
          counters.SameAt counters' part := FamilyCounters.SameAt.equivalence part
      exact ⟨fun _ => h.refl _, h.symm, h.trans⟩
  | flows => exact ⟨fun _ => rfl, Eq.symm, Eq.trans⟩

/-- States that agree at every part are the same. -/
theorem eq_of_sameAt (h : ∀ part, s.SameAt s' part) : s = s' := by
  obtain ⟨⟨ipv4, ipv6⟩, flows⟩ := s
  obtain rfl : ipv4 = _ := FamilyCounters.eq_of_sameAt fun part => h (.ipv4 part)
  obtain rfl : ipv6 = _ := FamilyCounters.eq_of_sameAt fun part => h (.ipv6 part)
  obtain rfl : flows = _ := h .flows
  rfl

/-- Written back, a part is what it was written from. -/
theorem sameAt_put (part : TrafficPart) (s s' : TrackedTraffic) :
    (s.put s' part).SameAt s' part := by
  cases part with
  | ipv4 part => exact FamilyCounters.sameAt_put _ _ part
  | ipv6 part => exact FamilyCounters.sameAt_put _ _ part
  | flows => rfl

/-- Writing one part back leaves the other ones alone. -/
theorem sameAt_put_of_ne (s s' : TrackedTraffic) (h : other ≠ part) :
    (s.put s' part).SameAt s other := by
  cases part with
  | ipv4 part =>
      cases other with
      | ipv4 other => exact FamilyCounters.sameAt_put_of_ne _ _ fun heq => h (by rw [heq])
      | ipv6 other => exact .refl _ other
      | flows => rfl
  | ipv6 part =>
      cases other with
      | ipv4 other => exact .refl _ other
      | ipv6 other => exact FamilyCounters.sameAt_put_of_ne _ _ fun heq => h (by rw [heq])
      | flows => rfl
  | flows =>
      cases other with
      | ipv4 other => exact .refl _ other
      | ipv6 other => exact .refl _ other
      | flows => exact absurd rfl h

/-- What a call does to a part depends on this part. -/
theorem SameAt.run (h : s.SameAt s' part) (call : TrafficCall) :
    (call.run context s).SameAt (call.run context s') part := by
  cases call with
  | processPacket currentInaccurateTime packet =>
      cases part with
      | ipv4 part =>
          simp only [SameAt, TrafficCall.run, processPacket] at h ⊢
          split_ifs
          · exact h.processIpv4Packet packet
          · exact h
          · exact h
      | ipv6 part =>
          simp only [SameAt, TrafficCall.run, processPacket] at h ⊢
          split_ifs
          · exact h
          · exact h.processIpv6Packet packet
          · exact h
      | flows => exact congrArg (trackConnection context · packet) h
  | recalculateSpeed =>
      cases part with
      | ipv4 part => exact FamilyCounters.SameAt.zeroify h
      | ipv6 part => exact FamilyCounters.SameAt.zeroify h
      | flows => rfl

end TrackedTraffic

/-- The calls with the parts that they go through. -/
def lockedTraffic : LockedParts TrackedTraffic TrafficPart TrafficCall where
  run := TrafficCall.run context
  same part s s' := s.SameAt s' part
  put part s s' := s.put s' part
  equivalence := TrackedTraffic.SameAt.equivalence
  eq_of_same := TrackedTraffic.eq_of_sameAt
  same_put := TrackedTraffic.sameAt_put
  same_put_of_ne := TrackedTraffic.sameAt_put_of_ne
  same_run call h := h.run call

/-- What one call does to one part. -/
abbrev TrafficSection := TrafficPart × TrafficCall

/-- Sections in the order in which they are run. -/
def runSections (sections : List TrafficSection) : TrackedTraffic :=
  (lockedTraffic context).runSections {} sections

/-- The sections of a call. -/
def TrafficCall.sections (call : TrafficCall) : List TrafficSection :=
  (call.parts context).map (·, call)

namespace TrafficCall

/-- The packet that is counted. -/
def packet? : TrafficCall → Option ParsedPacket
  | processPacket _ packet => some packet
  | recalculateSpeed => none

/-- The counters are zeroed and the tables are cleared. -/
def resets : TrafficCall → Bool
  | processPacket _ _ => false
  | recalculateSpeed => true

end TrafficCall

/-- The packets since the last recalculation. -/
def packetsSinceReset (calls : List TrafficCall) : List ParsedPacket :=
  sinceReset TrafficCall.resets TrafficCall.packet? calls

/-- The packets that went into a part since its own last reset. -/
def packetsAt (part : TrafficPart) (sections : List TrafficSection) : List ParsedPacket :=
  packetsSinceReset (callsAt part sections)

/-- The packets that went into the tables since they were cleared. -/
def packetsTracked (sections : List TrafficSection) : List ParsedPacket :=
  packetsAt .flows sections

/-! ### What the tables hold -/

/-- The protocols that have flows. -/
inductive TrackedProtocol
  | tcp
  | udp
deriving DecidableEq

/-- The field of the host counters that counts the protocol. -/
def TrackedProtocol.field : TrackedProtocol → CounterField
  | tcp => .tcp
  | udp => .udp

/-- The table of a direction and a protocol. -/
def ConntrackMainStruct.table (element : ConntrackMainStruct) :
    TrafficSide → TrackedProtocol → ContrackMap
  | .incoming, .tcp => element.inTcp
  | .incoming, .udp => element.inUdp
  | .outgoing, .tcp => element.outTcp
  | .outgoing, .udp => element.outUdp

/-- The tables that stay empty. -/
def ConntrackMainStruct.untracked (element : ConntrackMainStruct) : ContrackMap :=
  element.inIcmp ++ element.inOther ++ element.outIcmp ++ element.outOther

/-- The packets or bytes of a flow. -/
def ConntrackKeyStruct.amount (element : ConntrackKeyStruct) : TrafficUnit → UInt64
  | .packets => element.packets
  | .bytes => element.bytes

/-- The counted packets of IPv4. -/
abbrev CountedPacketIpv4 := CountedPacket UInt32 SubnetCidrMask

namespace CountedPacket

/-- The flow of a packet: the remote address and the ports. -/
def flow (event : CountedPacketIpv4) : PackedConntrackHash :=
  match event.side with
  | .incoming => initIncomingFlowCountingStructure event.packet
  | .outgoing => initOutgoingFlowCountingStructure event.packet

/-- The key of the flow. -/
def flowKey (event : CountedPacketIpv4) : UInt64 :=
  convertConntrackHashStructToInteger event.flow

/-- The packet belongs to a table. -/
def inTable (host : UInt32) (side : TrafficSide) (protocol : TrackedProtocol)
    (event : CountedPacketIpv4) : Bool :=
  event.host = host && (event.side = side && countsAs protocol.field event.packet)

/-- The host in host byte order. -/
def clientIp (event : CountedPacketIpv4) : UInt32 := byteSwap32 event.host

end CountedPacket

/-- What a packet changes in the tables of its host. -/
structure CountsFlow (event : CountedPacketIpv4)
    (change : ConntrackMainStruct → ConntrackMainStruct) : Prop where
  table : ∀ element side protocol, (change element).table side protocol
    = if event.side = side ∧ countsAs protocol.field event.packet then
        (element.table side protocol).modifyAt event.flowKey
          (ConntrackKeyStruct.add (sampledNumberOfPackets event.packet)
            (sampledNumberOfBytes event.packet))
      else element.table side protocol
  untracked : ∀ element, (change element).untracked = element.untracked

/-- The tables hold the flows of some packets. -/
structure FlowsTallied (flows : MapOfVectorCountersForFlow) (events : List CountedPacketIpv4) :
    Prop where
  hosts : KeyedBy CountedPacket.clientIp flows events
  tables : ∀ host side protocol unit,
    Tallies CountedPacket.flowKey (fun element => element.amount unit) (CountedPacket.amount unit)
      ((flows.lookup (byteSwap32 host)).table side protocol)
      (events.filter (CountedPacket.inTable host side protocol))
  untracked : ∀ clientIp, (flows.lookup clientIp).untracked = []

/-- Swapping the bytes of an address loses nothing. -/
theorem byteSwap32_injective : Function.Injective byteSwap32 :=
  Function.LeftInverse.injective byteSwap32_byteSwap32

/-- A counted packet adds its own amount to the flow. -/
theorem ConntrackKeyStruct.amount_add (element : ConntrackKeyStruct) (event : CountedPacketIpv4)
    (unit : TrafficUnit) :
    (element.add (sampledNumberOfPackets event.packet)
      (sampledNumberOfBytes event.packet)).amount unit
        = element.amount unit + event.amount unit := by
  cases unit <;> rfl

namespace FlowsTallied

variable {flows : MapOfVectorCountersForFlow} {events : List CountedPacketIpv4}

theorem nil : FlowsTallied [] [] where
  hosts := .nil _
  tables host side protocol unit := by
    have hempty : ((lookup ([] : MapOfVectorCountersForFlow) (byteSwap32 host)).table side protocol)
        = [] := by
      cases side <;> cases protocol <;> rfl
    rw [hempty]
    exact .nil _ _ (by cases unit <;> rfl)
  untracked clientIp := rfl

/-- **A packet is counted for its flow**, in one table of one host. -/
theorem concat (h : FlowsTallied flows events) {event : CountedPacketIpv4}
    {change : ConntrackMainStruct → ConntrackMainStruct} (hchange : CountsFlow event change) :
    FlowsTallied (flows.modifyAt event.clientIp change) (events ++ [event]) where
  hosts := h.hosts.concat event change
  tables host side protocol unit := by
    have htable := h.tables host side protocol unit
    rw [lookup_modifyAt, List.filter_append]
    by_cases hhost : host = event.host
    · rw [hhost] at htable ⊢
      rw [show byteSwap32 event.host = event.clientIp from rfl] at htable ⊢
      rw [if_pos rfl, hchange.table]
      by_cases hin : event.side = side ∧ countsAs protocol.field event.packet = true
      · have hlast : [event].filter (CountedPacket.inTable event.host side protocol) = [event] := by
          simp [CountedPacket.inTable, hin.1, hin.2]
        rw [if_pos hin, hlast]
        refine htable.concat (by cases unit <;> rfl) fun counter => ?_
        exact counter.amount_add event unit
      · have hlast : [event].filter (CountedPacket.inTable event.host side protocol) = [] := by
          simpa [CountedPacket.inTable] using hin
        rw [if_neg hin, hlast, List.append_nil]
        exact htable
    -- tables of other hosts stay
    · have hother : byteSwap32 host ≠ event.clientIp := fun heq => hhost (byteSwap32_injective heq)
      have hlast : [event].filter (CountedPacket.inTable host side protocol) = [] := by
        simp [CountedPacket.inTable, Ne.symm hhost]
      rw [if_neg hother, hlast, List.append_nil]
      exact htable
  untracked clientIp := by
    rw [lookup_modifyAt]
    split
    · rw [hchange.untracked]
      exact h.untracked _
    · exact h.untracked clientIp

end FlowsTallied

/-! ### One packet -/

/-- The change of one table. -/
structure ChangesTable (event : CountedPacketIpv4) (protocol : TrackedProtocol)
    (change : ConntrackMainStruct → ConntrackMainStruct) : Prop where
  table : ∀ element side protocol', (change element).table side protocol'
    = if event.side = side ∧ protocol = protocol' then
        (element.table side protocol').modifyAt event.flowKey
          (ConntrackKeyStruct.add (sampledNumberOfPackets event.packet)
            (sampledNumberOfBytes event.packet))
      else element.table side protocol'
  untracked : ∀ element, (change element).untracked = element.untracked

/-- The branches over the protocol. -/
theorem countsFlow_of_changesTable {event : CountedPacketIpv4}
    {changeTcp changeUdp : ConntrackMainStruct → ConntrackMainStruct}
    (htcp : ChangesTable event .tcp changeTcp) (hudp : ChangesTable event .udp changeUdp) :
    CountsFlow event fun element =>
      if event.packet.protocol = IpProtocol.TCP.asNumber.toUInt32 then changeTcp element
      else if event.packet.protocol = IpProtocol.UDP.asNumber.toUInt32 then changeUdp element
      else element := by
  have hdistinct : IpProtocol.TCP.asNumber.toUInt32 ≠ IpProtocol.UDP.asNumber.toUInt32 := by decide
  constructor
  · intro element side protocol
    by_cases hisTcp : event.packet.protocol = IpProtocol.TCP.asNumber.toUInt32
    · rw [if_pos hisTcp, htcp.table]
      cases protocol <;> simp [TrackedProtocol.field, countsAs, hisTcp, hdistinct]
    · rw [if_neg hisTcp]
      by_cases hisUdp : event.packet.protocol = IpProtocol.UDP.asNumber.toUInt32
      · rw [if_pos hisUdp, hudp.table]
        cases protocol <;> simp [TrackedProtocol.field, countsAs, hisUdp, hdistinct.symm]
      · rw [if_neg hisUdp]
        cases protocol <;> simp [TrackedProtocol.field, countsAs, hisTcp, hisUdp]
  · intro element
    split_ifs
    · exact htcp.untracked element
    · exact hudp.untracked element
    · rfl

/-- An incoming packet changes the flow of its destination. -/
theorem incrementIncomingFlowCounters_eq (flows : MapOfVectorCountersForFlow)
    (packet : ParsedPacket) (network : SubnetCidrMask) : ∃ change,
      CountsFlow ⟨.incoming, packet.dstIp, network, packet⟩ change ∧
      incrementIncomingFlowCounters flows (byteSwap32 packet.dstIp) packet
        (sampledNumberOfPackets packet) (sampledNumberOfBytes packet)
          = flows.modifyAt (byteSwap32 packet.dstIp) change := by
  let event : CountedPacketIpv4 := ⟨.incoming, packet.dstIp, network, packet⟩
  let add := ConntrackKeyStruct.add (sampledNumberOfPackets packet) (sampledNumberOfBytes packet)
  have htcp : ChangesTable event .tcp fun element =>
      { element with inTcp := element.inTcp.modifyAt event.flowKey add } :=
    ⟨fun element side protocol => by cases side <;> cases protocol <;> rfl, fun element => rfl⟩
  have hudp : ChangesTable event .udp fun element =>
      { element with inUdp := element.inUdp.modifyAt event.flowKey add } :=
    ⟨fun element side protocol => by cases side <;> cases protocol <;> rfl, fun element => rfl⟩
  exact ⟨_, countsFlow_of_changesTable htcp hudp, rfl⟩

/-- An outgoing packet changes the flow of its source. -/
theorem incrementOutgoingFlowCounters_eq (flows : MapOfVectorCountersForFlow)
    (packet : ParsedPacket) (network : SubnetCidrMask) : ∃ change,
      CountsFlow ⟨.outgoing, packet.srcIp, network, packet⟩ change ∧
      incrementOutgoingFlowCounters flows (byteSwap32 packet.srcIp) packet
        (sampledNumberOfPackets packet) (sampledNumberOfBytes packet)
          = flows.modifyAt (byteSwap32 packet.srcIp) change := by
  let event : CountedPacketIpv4 := ⟨.outgoing, packet.srcIp, network, packet⟩
  let add := ConntrackKeyStruct.add (sampledNumberOfPackets packet) (sampledNumberOfBytes packet)
  have htcp : ChangesTable event .tcp fun element =>
      { element with outTcp := element.outTcp.modifyAt event.flowKey add } :=
    ⟨fun element side protocol => by cases side <;> cases protocol <;> rfl, fun element => rfl⟩
  have hudp : ChangesTable event .udp fun element =>
      { element with outUdp := element.outUdp.modifyAt event.flowKey add } :=
    ⟨fun element side protocol => by cases side <;> cases protocol <;> rfl, fun element => rfl⟩
  exact ⟨_, countsFlow_of_changesTable htcp hudp, rfl⟩

/-- The end of `process_packet` counts the packets that the counters count. -/
theorem trackConnection_cases (context : TrafficContext) (flows : MapOfVectorCountersForFlow)
    (packet : ParsedPacket) :
    (countedIpv4 context packet = none ∧ trackConnection context flows packet = flows) ∨
      ∃ event change, countedIpv4 context packet = some event ∧ CountsFlow event change ∧
        trackConnection context flows packet = flows.modifyAt event.clientIp change := by
  by_cases hversion : packet.ipProtocolVersion ≠ 4
  · exact .inl ⟨countedIpv4_of_ne hversion, if_pos hversion⟩
  unfold trackConnection countedIpv4
  rw [if_neg hversion]
  -- the counters ask the same questions in another order
  obtain ⟨packetDirection, currentSubnet⟩ :=
    getPacketDirection context.lookupTreeIpv4 packet.srcIp packet.dstIp
  by_cases hlisted : filterPacketByWhitelist context packet = true
  · have hlength := length_pos_of_filterPacketByWhitelist hlisted
    left
    refine ⟨if_pos (.inr (.inr hlisted)), ?_⟩
    cases packetDirection <;> simp [hlisted, hlength]
  by_cases hskips : skipsDirection context packetDirection = true
  · left
    refine ⟨if_pos (.inr (.inl hskips)), ?_⟩
    simp [hlisted, hskips]
  have hpasses : ¬ (packet.ipProtocolVersion ≠ 4 ∨ skipsDirection context packetDirection = true
      ∨ filterPacketByWhitelist context packet = true) := by
    rintro (h | h | h)
    · exact hversion h
    · exact hskips h
    · exact hlisted h
  cases packetDirection with
  | incoming =>
      obtain ⟨change, hchange, hflows⟩ := incrementIncomingFlowCounters_eq flows packet currentSubnet
      refine .inr ⟨_, change, if_neg hpasses, hchange, ?_⟩
      simp only [hlisted, hskips, Bool.false_eq_true, and_false, if_false]
      exact hflows
  | outgoing =>
      obtain ⟨change, hchange, hflows⟩ := incrementOutgoingFlowCounters_eq flows packet currentSubnet
      refine .inr ⟨_, change, if_neg hpasses, hchange, ?_⟩
      simp only [hlisted, hskips, Bool.false_eq_true, and_false, if_false]
      exact hflows
  | internal => exact .inl ⟨if_neg hpasses, by simp [hskips]⟩
  | other => exact .inl ⟨if_neg hpasses, by simp [hskips]⟩

/-! ### Runs -/

section

variable {κ ν : Type} [DecidableEq κ] [DecidableEq ν]
  {networkCounts : CounterField → ParsedPacket → Bool}

theorem SubnetCounter.amount_zeroify (field : CounterField) (side : TrafficSide)
    (unit : TrafficUnit) (counter : SubnetCounter) : counter.zeroify.amount field side unit = 0 := by
  cases field <;> cases side <;> cases unit <;> rfl

/-- Counters set to zero are the tally of no packets. -/
theorem FamilyCounters.tallied_zeroify (counters : FamilyCounters κ ν) :
    counters.zeroify.Tallied networkCounts [] where
  total_eq side unit := by cases unit <;> rfl
  hosts := ⟨fun k field side unit => lookup_changeAll_eq_zero
      (SubnetCounter.amount_default field side unit) (SubnetCounter.amount_zeroify field side unit)
      counters.hostCounters k,
    fun kind field side unit => keySum_changeAll_eq_zero
      (SubnetCounter.amount_zeroify field side unit) kind counters.hostCounters⟩
  networks := ⟨fun k field side unit => lookup_changeAll_eq_zero
      (SubnetCounter.amount_default field side unit) (SubnetCounter.amount_zeroify field side unit)
      counters.networkCounters k,
    fun kind field side unit => keySum_changeAll_eq_zero
      (SubnetCounter.amount_zeroify field side unit) kind counters.networkCounters⟩

end

/-- The state after some calls tallies the packets since the last recalculation. -/
structure TrackedTraffic.Tallied (context : TrafficContext) (s : TrackedTraffic)
    (calls : List TrafficCall) : Prop where
  ipv4 : s.traffic.ipv4.Tallied countsAs
    ((packetsSinceReset calls).filterMap (countedIpv4 context))
  ipv6 : s.traffic.ipv6.Tallied countsAsTotal
    ((packetsSinceReset calls).filterMap (countedIpv6 context))
  flows : FlowsTallied s.flows ((packetsSinceReset calls).filterMap (countedIpv4 context))

/-- **One call.** -/
theorem TrackedTraffic.Tallied.run {context : TrafficContext} {s : TrackedTraffic}
    {calls : List TrafficCall} (h : s.Tallied context calls) (next : TrafficCall) :
    (next.run context s).Tallied context (calls ++ [next]) := by
  cases next with
  | processPacket currentInaccurateTime packet =>
      have hpackets : packetsSinceReset (calls ++ [.processPacket currentInaccurateTime packet])
          = packetsSinceReset calls ++ [packet] := sinceReset_concat _ _ _ _
      obtain ⟨hipv4, hipv6⟩ := tallied_processPacket h.ipv4 h.ipv6 currentInaccurateTime packet
      refine ⟨?_, ?_, ?_⟩
      · rw [hpackets, filterMap_concat]
        exact hipv4
      · rw [hpackets, filterMap_concat]
        exact hipv6
      · rw [hpackets, filterMap_concat]
        show FlowsTallied (FastNetMon.trackConnection context s.flows packet) _
        -- a packet is tracked exactly if the counters count it
        rcases trackConnection_cases context s.flows packet with
          ⟨hnone, hsame⟩ | ⟨event, change, hsome, hchange, hflows⟩
        · rw [hnone, hsame]
          exact (List.append_nil _).symm ▸ h.flows
        · rw [hsome, hflows]
          exact h.flows.concat hchange
  | recalculateSpeed =>
      have hpackets : packetsSinceReset (calls ++ [.recalculateSpeed]) = [] :=
        sinceReset_concat _ _ _ _
      refine ⟨?_, ?_, ?_⟩
      · rw [hpackets]
        exact s.traffic.ipv4.tallied_zeroify
      · rw [hpackets]
        exact s.traffic.ipv6.tallied_zeroify
      · rw [hpackets]
        exact FlowsTallied.nil

variable (context : TrafficContext)

/-- Uninterrupted calls tally their packets. -/
theorem tallied_runCalls (calls : List TrafficCall) :
    ((lockedTraffic context).runCalls {} calls).Tallied context calls := by
  induction calls using List.reverseRecOn with
  | nil => exact ⟨FamilyCounters.Tallied.empty, FamilyCounters.Tallied.empty, FlowsTallied.nil⟩
  | append_singleton calls next ih =>
      rw [LockedParts.runCalls, List.foldl_append]
      exact ih.run next

/-- The packets that were counted in a part of the counters. -/
def eventsIpv4 (sections : List TrafficSection) (part : CounterPart) : List CountedPacketIpv4 :=
  (packetsAt (.ipv4 part) sections).filterMap (countedIpv4 context)

@[inherit_doc eventsIpv4]
def eventsIpv6 (sections : List TrafficSection) (part : CounterPart) :
    List (CountedPacket SubnetIpv6CidrMask SubnetIpv6CidrMask) :=
  (packetsAt (.ipv6 part) sections).filterMap (countedIpv6 context)

/-- Each part is what it is after the calls that had a section at it. -/
theorem sameAt_runSections (part : TrafficPart) (sections : List TrafficSection) :
    (runSections context sections).SameAt
      ((lockedTraffic context).runCalls {} (callsAt part sections)) part :=
  (lockedTraffic context).same_runSections part {} sections

/-- Any sections tally the IPv4 packets they counted. -/
theorem talliedBy_runSections_ipv4 (sections : List TrafficSection) :
    (runSections context sections).traffic.ipv4.TalliedBy countsAs
      (eventsIpv4 context sections) :=
  .of_sameAt (fun part => sameAt_runSections context (.ipv4 part) sections) fun part =>
    (tallied_runCalls context (callsAt (.ipv4 part) sections)).ipv4

/-- Any sections tally the IPv6 packets they counted. -/
theorem talliedBy_runSections_ipv6 (sections : List TrafficSection) :
    (runSections context sections).traffic.ipv6.TalliedBy countsAsTotal
      (eventsIpv6 context sections) :=
  .of_sameAt (fun part => sameAt_runSections context (.ipv6 part) sections) fun part =>
    (tallied_runCalls context (callsAt (.ipv6 part) sections)).ipv6

/-- The flow tables tally the packets whose tracking section was run. -/
theorem flowsTallied_runSections (sections : List TrafficSection) :
    FlowsTallied (runSections context sections).flows
      ((packetsTracked sections).filterMap (countedIpv4 context)) := by
  have hflows : (runSections context sections).flows = _ :=
    sameAt_runSections context .flows sections
  rw [hflows]
  exact (tallied_runCalls context (callsAt .flows sections)).flows

/-! ### Calls that are not interleaved -/

/-- A call enters no lock twice. -/
theorem nodup_parts (call : TrafficCall) : (call.parts context).Nodup := by
  cases call with
  | processPacket currentInaccurateTime packet =>
      rw [TrafficCall.parts]
      split_ifs
      · cases packetDirection context packet <;> decide
      · cases packetDirection context packet <;> decide
      · exact List.nodup_nil
  | recalculateSpeed =>
      rw [TrafficCall.parts]
      decide

variable {context}

theorem trackConnection_of_ne {packet : ParsedPacket} (h : packet.ipProtocolVersion ≠ 4)
    (flows : MapOfVectorCountersForFlow) : trackConnection context flows packet = flows :=
  if_pos h

/-- An IPv4 packet changes only the parts whose locks it takes. -/
theorem sameAt_run_of_ipv4 {packet : ParsedPacket} (hfour : packet.ipProtocolVersion = 4)
    {currentInaccurateTime : Int64} {part : TrafficPart}
    (h : part ∉ TrafficCall.parts context (.processPacket currentInaccurateTime packet))
    (s : TrackedTraffic) :
    s.SameAt (TrafficCall.run context (.processPacket currentInaccurateTime packet) s) part := by
  have hversion : packet.ipProtocolVersion ≠ 6 := by
    rw [hfour]
    decide
  rw [TrafficCall.parts, if_pos hfour, packetDirection, if_neg hversion] at h
  rw [TrafficCall.run, processPacket, if_pos hfour]
  cases part with
  | ipv4 part =>
      refine FamilyCounters.sameAt_processIpv4Packet s.traffic.ipv4 packet fun hmem => h ?_
      exact List.mem_append_left _ (List.mem_map_of_mem hmem)
  | ipv6 part => exact .refl _ part
  | flows => exact absurd (List.mem_append_right _ (List.mem_singleton_self _)) h

/-- An IPv6 packet changes only the parts whose locks it takes. -/
theorem sameAt_run_of_ipv6 {packet : ParsedPacket} (hsix : packet.ipProtocolVersion = 6)
    {currentInaccurateTime : Int64} {part : TrafficPart}
    (h : part ∉ TrafficCall.parts context (.processPacket currentInaccurateTime packet))
    (s : TrackedTraffic) :
    s.SameAt (TrafficCall.run context (.processPacket currentInaccurateTime packet) s) part := by
  have hversion : packet.ipProtocolVersion ≠ 4 := by
    rw [hsix]
    decide
  rw [TrafficCall.parts, if_neg hversion, if_pos hsix, packetDirection, if_pos hsix] at h
  rw [TrafficCall.run, processPacket, if_neg hversion, if_pos hsix]
  cases part with
  | ipv4 part => exact .refl _ part
  | ipv6 part =>
      refine FamilyCounters.sameAt_processIpv6Packet s.traffic.ipv6 packet fun hmem => h ?_
      exact List.mem_map_of_mem ((FamilyCounters.perm_partsOfPacket _).mem_iff.mpr hmem)
  | flows => exact (trackConnection_of_ne hversion s.flows).symm

/-- A call changes its parts only. -/
theorem sameAt_run_of_notMem {call : TrafficCall} {part : TrafficPart}
    (h : part ∉ call.parts context) (s : TrackedTraffic) : s.SameAt (call.run context s) part := by
  cases call with
  | processPacket currentInaccurateTime packet =>
      by_cases hfour : packet.ipProtocolVersion = 4
      · exact sameAt_run_of_ipv4 hfour h s
      by_cases hsix : packet.ipProtocolVersion = 6
      · exact sameAt_run_of_ipv6 hsix h s
      -- a packet of no version
      rw [TrafficCall.run, processPacket, if_neg hfour, if_neg hsix]
      cases part with
      | ipv4 part => exact .refl _ part
      | ipv6 part => exact .refl _ part
      | flows => exact (trackConnection_of_ne hfour s.flows).symm
  | recalculateSpeed =>
      refine absurd ?_ h
      rw [TrafficCall.parts]
      cases part with
      | ipv4 part =>
          cases part with
          | total direction unit => cases direction <;> cases unit <;> decide
          | _ => decide
      | ipv6 part =>
          cases part with
          | total direction unit => cases direction <;> cases unit <;> decide
          | _ => decide
      | flows => decide

variable (context)

/-- Calls one after the other. -/
theorem runSections_flatMap (calls : List TrafficCall) :
    runSections context (calls.flatMap (·.sections context))
      = (lockedTraffic context).runCalls {} calls :=
  LockedParts.runSections_of_calls (fun s call => LockedParts.runSections_of_call
    (nodup_parts context call) fun _ h => sameAt_run_of_notMem h s) {} calls

/-! ### Main results -/

/-- The different flows of some packets in a table. -/
def distinctFlows (events : List CountedPacketIpv4) (host : UInt32) (side : TrafficSide)
    (protocol : TrackedProtocol) : List PackedConntrackHash :=
  ((events.filter (CountedPacket.inTable host side protocol)).map CountedPacket.flow).dedup

/-- The number of different flows of a host on one side of the traffic, in 64 bits. -/
def flowCount (events : List CountedPacketIpv4) (host : UInt32) (side : TrafficSide) : UInt64 :=
  UInt64.ofNat ((distinctFlows events host side .tcp).length
    + (distinctFlows events host side .udp).length)

/-- The tables of a host hold the flows of some packets. -/
structure HoldsFlows (flows : MapOfVectorCountersForFlow) (events : List CountedPacketIpv4)
    (host : UInt32) : Prop where
  flows_eq : ∀ side protocol,
    (((flows.lookup (byteSwap32 host)).table side protocol).keys.map
      convertIntegerToConntrackHashStruct).Perm (distinctFlows events host side protocol)
  amount_eq : ∀ side protocol flow unit,
    (((flows.lookup (byteSwap32 host)).table side protocol).lookup
      (convertConntrackHashStructToInteger flow)).amount unit
        = tally (fun event => event.inTable host side protocol && event.flow = flow)
            (CountedPacket.amount unit) events
  speed_eq : ∀ perSecond element, incrementFlowCounters flows perSecond element (byteSwap32 host)
    = if ∃ event ∈ events, event.host = host then
        some { element with
          inFlows := perSecond (flowCount events host .incoming)
          outFlows := perSecond (flowCount events host .outgoing) }
      else none

/-- The distinct flows of a host are those of its packets. -/
theorem mem_distinctFlows {events : List CountedPacketIpv4} {host : UInt32} {side : TrafficSide}
    {protocol : TrackedProtocol} {flow : PackedConntrackHash} :
    flow ∈ distinctFlows events host side protocol ↔
      ∃ event ∈ events.filter (CountedPacket.inTable host side protocol), event.flow = flow := by
  rw [distinctFlows, List.mem_dedup, List.mem_map]

namespace FlowsTallied

variable {flows : MapOfVectorCountersForFlow} {events : List CountedPacketIpv4}

/-- The keys of a table are the distinct flows of its packets. -/
theorem perm_distinctFlows (h : FlowsTallied flows events) (host : UInt32) (side : TrafficSide)
    (protocol : TrackedProtocol) :
    (((flows.lookup (byteSwap32 host)).table side protocol).keys.map
      convertIntegerToConntrackHashStruct).Perm (distinctFlows events host side protocol) := by
  have htable := (h.tables host side protocol .packets).toKeyedBy
  have hinjective : Function.Injective convertIntegerToConntrackHashStruct :=
    Function.LeftInverse.injective convertConntrackHashStructToInteger_convert
  have hdistinct : (distinctFlows events host side protocol).Nodup := List.nodup_dedup _
  rw [List.perm_ext_iff_of_nodup (htable.nodup.map hinjective) hdistinct]
  intro flow
  rw [mem_distinctFlows, List.mem_map]
  constructor
  · rintro ⟨hash, hhash, rfl⟩
    obtain ⟨event, hevent, rfl⟩ := (htable.mem_keys hash).mp hhash
    exact ⟨event, hevent, (convertIntegerToConntrackHashStruct_convert event.flow).symm⟩
  · rintro ⟨event, hevent, rfl⟩
    exact ⟨event.flowKey, (htable.mem_keys _).mpr ⟨event, hevent, rfl⟩,
      convertIntegerToConntrackHashStruct_convert event.flow⟩

/-- A table has as many entries as there are distinct flows. -/
theorem length_table (h : FlowsTallied flows events) (host : UInt32) (side : TrafficSide)
    (protocol : TrackedProtocol) :
    ((flows.lookup (byteSwap32 host)).table side protocol).length
      = (distinctFlows events host side protocol).length := by
  rw [← (h.perm_distinctFlows host side protocol).length_eq, List.length_map, keys, List.length_map]

/-- The number of flows of a host, as it is reported, is that of its distinct flows. -/
theorem totalFlows_eq (h : FlowsTallied flows events) (host : UInt32) :
    (flows.lookup (byteSwap32 host)).totalFlows
      = (flowCount events host .incoming, flowCount events host .outgoing) := by
  have huntracked := h.untracked (byteSwap32 host)
  simp only [ConntrackMainStruct.untracked, List.append_eq_nil_iff] at huntracked
  obtain ⟨⟨⟨hinIcmp, hinOther⟩, houtIcmp⟩, houtOther⟩ := huntracked
  have hinTcp := h.length_table host .incoming .tcp
  have hinUdp := h.length_table host .incoming .udp
  have houtTcp := h.length_table host .outgoing .tcp
  have houtUdp := h.length_table host .outgoing .udp
  simp only [ConntrackMainStruct.table] at hinTcp hinUdp houtTcp houtUdp
  rw [ConntrackMainStruct.totalFlows, hinTcp, hinUdp, houtTcp, houtUdp, hinIcmp, hinOther,
    houtIcmp, houtOther, flowCount, flowCount, UInt64.ofNat_add, UInt64.ofNat_add]
  simp

/-- Exactly the hosts with a tracked packet have tables. -/
theorem mem_keys_clientIp (h : FlowsTallied flows events) (host : UInt32) :
    byteSwap32 host ∈ flows.keys ↔ ∃ event ∈ events, event.host = host := by
  rw [h.hosts.mem_keys]
  constructor
  · rintro ⟨event, hevent, hclient⟩
    exact ⟨event, hevent, byteSwap32_injective hclient⟩
  · rintro ⟨event, hevent, rfl⟩
    exact ⟨event, hevent, rfl⟩

/-- So the tables of a host hold what its packets say. -/
theorem holdsFlows (h : FlowsTallied flows events) (host : UInt32) :
    HoldsFlows flows events host where
  flows_eq := h.perm_distinctFlows host
  amount_eq side protocol flow unit := by
    rw [(h.tables host side protocol unit).counter_eq, tally_filter]
    refine tally_congr fun event _ => ?_
    rw [CountedPacket.flowKey]
    simp only [convertConntrackHashStructToInteger_injective.eq_iff]
  speed_eq perSecond element := by
    rw [incrementFlowCounters, h.totalFlows_eq]
    simp only [h.mem_keys_clientIp]

end FlowsTallied

/-- **The tables hold the flows.**  Whatever sections were run in whatever order, a table has an
entry for each flow of the packets that were tracked since the tables were cleared, and no
other; the entry counts the packets and bytes of its flow; and the number of flows that the
detection gets is that of the different flows, or none if the host had no packet. -/
theorem flowTables_run (context : TrafficContext) (sections : List TrafficSection)
    (host : UInt32) :
    HoldsFlows (runSections context sections).flows
      ((packetsTracked sections).filterMap (countedIpv4 context)) host :=
  (flowsTallied_runSections context sections).holdsFlows host

/-- **The counters across recalculations.**  Whatever sections were run in whatever order, each
part is the tally of the packets that went into it since its own last reset; the totals agree
with the hosts and the networks as far as they are about the same packets.  They always do
after calls with no others in between. -/
theorem totals_agree_run (context : TrafficContext) :
    (∀ sections : List TrafficSection,
      let traffic := (runSections context sections).traffic
      (traffic.ipv4.TalliedBy countsAs (eventsIpv4 context sections) ∧
        traffic.ipv6.TalliedBy countsAsTotal (eventsIpv6 context sections)) ∧
        traffic.ipv4.AgreeWhereSame (eventsIpv4 context sections) ∧
        traffic.ipv6.AgreeWhereSame (eventsIpv6 context sections)) ∧
    ∀ calls : List TrafficCall,
      let traffic := (runSections context (calls.flatMap (·.sections context))).traffic
      traffic.ipv4.TotalsAgree ∧ traffic.ipv6.TotalsAgree := by
  constructor
  · intro sections
    have hipv4 := talliedBy_runSections_ipv4 context sections
    have hipv6 := talliedBy_runSections_ipv6 context sections
    exact ⟨⟨hipv4, hipv6⟩, hipv4.agreeWhereSame partsCount_countsAs,
      hipv6.agreeWhereSame partsCount_countsAsTotal⟩
  · intro calls
    have h := tallied_runCalls context calls
    rw [← runSections_flatMap] at h
    exact ⟨h.ipv4.totalsAgree partsCount_countsAs, h.ipv6.totalsAgree partsCount_countsAsTotal⟩

/-- **The tables agree with the counters** when both are about the same packets: no packet is
between its host and its flow, and none came between the two resets of a recalculation.  The
flows of a host add up to its counter of the protocol. -/
theorem flowTables_agree_with_counters {context : TrafficContext} {sections : List TrafficSection}
    (hsame : (packetsAt (.ipv4 .hosts) sections).Perm (packetsTracked sections)) (host : UInt32)
    (side : TrafficSide) (protocol : TrackedProtocol) (unit : TrafficUnit) :
    keySum (fun _ => true) (fun element : ConntrackKeyStruct => element.amount unit)
        (((runSections context sections).flows.lookup (byteSwap32 host)).table side protocol)
      = ((runSections context sections).traffic.ipv4.hostCounters.lookup host).amount
          protocol.field side unit := by
  have hflows := flowsTallied_runSections context sections
  have hhosts := (talliedBy_runSections_ipv4 context sections).hosts
  rw [(hflows.tables host side protocol unit).sum_eq, hhosts.counter_eq, tally_filter]
  simp only [Bool.and_true]
  exact (tally_perm (hsame.filterMap _)).symm

/-- A packet, a recalculation, and another packet, which gets to the hosts and to the tables
while a second recalculation is between the networks and the hosts. -/
def sectionsOfUdp : List TrafficSection :=
  TrafficCall.sections documentationContext (.processPacket 0 listedTcpPacket)
    ++ TrafficCall.sections documentationContext .recalculateSpeed
    ++ [(.ipv4 .networks, .recalculateSpeed), (.ipv4 .hosts, .processPacket 1 freeUdpPacket),
      (.flows, .processPacket 1 freeUdpPacket)]

theorem flowTables_agree_with_counters_udp :
    keySum (fun _ => true) (fun element : ConntrackKeyStruct => element.amount .bytes)
        (((runSections documentationContext sectionsOfUdp).flows.lookup
          (byteSwap32 freeUdpPacket.dstIp)).table .incoming .udp)
      = ((runSections documentationContext sectionsOfUdp).traffic.ipv4.hostCounters.lookup
          freeUdpPacket.dstIp).amount .udp .incoming .bytes :=
  flowTables_agree_with_counters (List.Perm.refl _) freeUdpPacket.dstIp .incoming .udp .bytes

end FastNetMon
