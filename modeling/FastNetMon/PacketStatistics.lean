/-
FastNetMon/PacketStatistics.lean

The statistics of packets by the version of their protocol.

`process_packet` counts a packet among all packets and among those of its version, before it
looks at anything else of it.  `process_ipv6_packet` counts it among the IPv6 packets once
more, behind the return for a direction that is switched off.  So the IPv6 statistic holds
the IPv6 packets and, on top of them, those that are added to a traffic counter; the other
statistics are right.  Main result: after any packets the statistics are right exactly if the
number of packets that were counted twice is zero as a 64-bit number
(`packet_statistics_right_iff`).
-/
import FastNetMon.TrafficConservation

namespace FastNetMon

/-! ### The statistics -/

/-- `total_simple_packets_processed`, `total_ipv4_packets`, `total_ipv6_packets` and
`unknown_ip_version_packets`. -/
structure PacketStatistics where
  totalSimplePacketsProcessed : UInt64 := 0
  totalIpv4Packets : UInt64 := 0
  totalIpv6Packets : UInt64 := 0
  unknownIpVersionPackets : UInt64 := 0
deriving DecidableEq

variable (context : TrafficContext)

/-- What `process_ipv6_packet` does to the statistics. -/
def PacketStatistics.processIpv6Packet (statistics : PacketStatistics) (packet : ParsedPacket) :
    PacketStatistics :=
  let (packetDirection, _) :=
    getPacketDirectionIpv6 context.lookupTreeIpv6 packet.srcIpv6 packet.dstIpv6
  if skipsDirection context packetDirection then statistics
  else { statistics with totalIpv6Packets := statistics.totalIpv6Packets + 1 }

/-- What `process_packet` does to the statistics. -/
def PacketStatistics.processPacket (statistics : PacketStatistics) (packet : ParsedPacket) :
    PacketStatistics :=
  let statistics := { statistics with
    totalSimplePacketsProcessed := statistics.totalSimplePacketsProcessed + 1 }
  if packet.ipProtocolVersion = 4 then
    { statistics with totalIpv4Packets := statistics.totalIpv4Packets + 1 }
  else if packet.ipProtocolVersion = 6 then
    let statistics := { statistics with totalIpv6Packets := statistics.totalIpv6Packets + 1 }
    statistics.processIpv6Packet context packet
  else { statistics with unknownIpVersionPackets := statistics.unknownIpVersionPackets + 1 }

/-- The statistics after packets, from zero. -/
def packetStatistics (packets : List ParsedPacket) : PacketStatistics :=
  packets.foldl (PacketStatistics.processPacket context) {}

/-! ### What is counted -/

/-- A packet of version 4. -/
def isIpv4 (packet : ParsedPacket) : Bool := packet.ipProtocolVersion = 4

/-- A packet of version 6. -/
def isIpv6 (packet : ParsedPacket) : Bool := packet.ipProtocolVersion = 6

/-- A packet of neither version. -/
def isUnknownVersion (packet : ParsedPacket) : Bool := !isIpv4 packet && !isIpv6 packet

/-- An IPv6 packet of a direction that is not switched off. -/
def countedTwice (packet : ParsedPacket) : Bool :=
  isIpv6 packet && !skipsDirection context
    (getPacketDirectionIpv6 context.lookupTreeIpv6 packet.srcIpv6 packet.dstIpv6).1

/-- The packets that are counted twice are those that are added to the traffic counters. -/
theorem processIpv6Packet_totalCounters (currentInaccurateTime : Int64)
    (counters : FamilyCounters SubnetIpv6CidrMask SubnetIpv6CidrMask) {packet : ParsedPacket}
    (h : isIpv6 packet = true) :
    (processIpv6Packet currentInaccurateTime context counters packet).totalCounters
      = if countedTwice context packet then
          (counters.addTotal
            (getPacketDirectionIpv6 context.lookupTreeIpv6 packet.srcIpv6 packet.dstIpv6).1
            packet).totalCounters
        else counters.totalCounters := by
  rw [processIpv6Packet, countedTwice, h, Bool.true_and]
  rcases getPacketDirectionIpv6 context.lookupTreeIpv6 packet.srcIpv6 packet.dstIpv6 with
    ⟨packetDirection, ipv6CidrSubnet⟩
  cases hskips : skipsDirection context packetDirection with
  | true => simp only [if_true, Bool.not_true, Bool.false_eq_true, if_false, hskips]
  | false =>
    simp only [hskips, Bool.false_eq_true, if_false, Bool.not_false, if_true]
    cases packetDirection <;> rfl

/-! ### After any packets -/

/-- The statistics of packets that were counted by hand. -/
structure PacketStatistics.Counts (statistics : PacketStatistics) (all ipv4 ipv6 unknown : ℕ) :
    Prop where
  all : statistics.totalSimplePacketsProcessed = .ofNat all
  ipv4 : statistics.totalIpv4Packets = .ofNat ipv4
  ipv6 : statistics.totalIpv6Packets = .ofNat ipv6
  unknown : statistics.unknownIpVersionPackets = .ofNat unknown

theorem ofNat64_succ {n : UInt64} {k : ℕ} (h : n = .ofNat k) : n + 1 = .ofNat (k + 1) := by
  rw [h, UInt64.ofNat_add]
  rfl

/-- One packet. -/
theorem PacketStatistics.Counts.processPacket {statistics : PacketStatistics}
    {all ipv4 ipv6 unknown : ℕ} (h : statistics.Counts all ipv4 ipv6 unknown)
    (packet : ParsedPacket) :
    (statistics.processPacket context packet).Counts (all + 1)
      (ipv4 + if isIpv4 packet then 1 else 0)
      (ipv6 + ((if isIpv6 packet then 1 else 0) + if countedTwice context packet then 1 else 0))
      (unknown + if isUnknownVersion packet then 1 else 0) := by
  rw [PacketStatistics.processPacket, countedTwice, isUnknownVersion, isIpv4, isIpv6]
  by_cases hipv4 : packet.ipProtocolVersion = 4
  · have hipv6 : ¬ packet.ipProtocolVersion = 6 := by
      rw [hipv4]
      decide
    simp only [hipv4, if_true, decide_true, Bool.not_true, Bool.false_and]
    exact ⟨ofNat64_succ h.all, ofNat64_succ h.ipv4, h.ipv6, h.unknown⟩
  · simp only [hipv4, if_false, decide_false, Bool.not_false, Bool.true_and]
    by_cases hipv6 : packet.ipProtocolVersion = 6
    · simp only [hipv6, if_true, decide_true, Bool.true_and, PacketStatistics.processIpv6Packet]
      split
      · rename_i hskips
        simp only [hskips]
        exact ⟨ofNat64_succ h.all, h.ipv4, ofNat64_succ h.ipv6, h.unknown⟩
      · rename_i hskips
        rw [Bool.not_eq_true] at hskips
        simp only [hskips]
        exact ⟨ofNat64_succ h.all, h.ipv4, ofNat64_succ (ofNat64_succ h.ipv6), h.unknown⟩
    · simp only [hipv6, if_false, decide_false, Bool.not_false, if_true, Bool.false_and]
      exact ⟨ofNat64_succ h.all, h.ipv4, h.ipv6, ofNat64_succ h.unknown⟩

/-- Any packets: the IPv6 statistic holds those that are counted twice twice. -/
theorem counts_packetStatistics (packets : List ParsedPacket) :
    (packetStatistics context packets).Counts packets.length (packets.countP isIpv4)
      (packets.countP isIpv6 + packets.countP (countedTwice context))
      (packets.countP isUnknownVersion) := by
  induction packets using List.reverseRecOn with
  | nil => exact ⟨rfl, rfl, rfl, rfl⟩
  | append_singleton packets packet ih =>
    have h := ih.processPacket context packet
    rw [packetStatistics, List.foldl_append]
    simp only [List.length_append, List.countP_append, List.countP_singleton,
      List.length_singleton]
    rw [show packets.countP isIpv6 + (if isIpv6 packet then 1 else 0)
        + (packets.countP (countedTwice context) + if countedTwice context packet then 1 else 0)
      = packets.countP isIpv6 + packets.countP (countedTwice context)
        + ((if isIpv6 packet then 1 else 0) + if countedTwice context packet then 1 else 0) by omega]
    exact h

/-- A packet is of one version. -/
theorem versions_eq_one (packet : ParsedPacket) :
    (if isIpv4 packet then 1 else 0) + (if isIpv6 packet then 1 else 0)
      + (if isUnknownVersion packet then 1 else 0) = 1 := by
  rw [isUnknownVersion, isIpv4, isIpv6]
  by_cases hipv4 : packet.ipProtocolVersion = 4
  · simp [hipv4]
  · by_cases hipv6 : packet.ipProtocolVersion = 6
    · simp [hipv6]
    · simp [hipv4, hipv6]

theorem length_eq_countP (packets : List ParsedPacket) :
    packets.length
      = packets.countP isIpv4 + packets.countP isIpv6 + packets.countP isUnknownVersion := by
  induction packets with
  | nil => rfl
  | cons packet packets ih =>
    have hone := versions_eq_one packet
    simp only [List.length_cons, List.countP_cons, ih]
    omega

/-! ### When they are right -/

/-- Every packet is counted once: among all packets, and among those of its version. -/
structure PacketStatistics.Right (statistics : PacketStatistics) (packets : List ParsedPacket) :
    Prop where
  sum : statistics.totalSimplePacketsProcessed
    = statistics.totalIpv4Packets + statistics.totalIpv6Packets
      + statistics.unknownIpVersionPackets
  ipv4 : statistics.totalIpv4Packets = .ofNat (packets.countP isIpv4)
  ipv6 : statistics.totalIpv6Packets = .ofNat (packets.countP isIpv6)
  unknown : statistics.unknownIpVersionPackets = .ofNat (packets.countP isUnknownVersion)

theorem ofNat64_add_eq_iff (n k : ℕ) : UInt64.ofNat (n + k) = .ofNat n ↔ 2 ^ 64 ∣ k := by
  rw [← UInt64.toNat_inj, UInt64.toNat_ofNat', UInt64.toNat_ofNat']
  omega

/-- **The statistics are right exactly if no packet is counted twice**, or as many as make
zero of 64 bits. -/
theorem packet_statistics_right_iff (packets : List ParsedPacket) :
    (packetStatistics context packets).Right packets ↔
      2 ^ 64 ∣ packets.countP (countedTwice context) := by
  have hcounts := counts_packetStatistics context packets
  constructor
  · intro hright
    exact (ofNat64_add_eq_iff _ _).mp (hcounts.ipv6.symm.trans hright.ipv6)
  · intro hnone
    have hipv6 := hcounts.ipv6.trans ((ofNat64_add_eq_iff _ _).mpr hnone)
    refine ⟨?_, hcounts.ipv4, hipv6, hcounts.unknown⟩
    rw [hcounts.all, hcounts.ipv4, hipv6, hcounts.unknown, length_eq_countP packets,
      UInt64.ofNat_add, UInt64.ofNat_add]

/-- **One IPv6 packet is two.** -/
theorem ipv6Packet_counted_twice :
    ¬ (packetStatistics documentationContext [listedIpv6Packet]).Right [listedIpv6Packet] := by
  intro hright
  exact absurd hright.ipv6 (by decide)

end FastNetMon
