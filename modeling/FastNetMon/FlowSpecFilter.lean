/-
FastNetMon/FlowSpecFilter.lean

What a FlowSpec rule asks of a packet, and what the filter of packets looks at (`filter.cpp`).

Each list of a rule is one criterion, and an empty list asks for nothing.  The filter compares
the prefixes, the ports, the protocol, the VLAN and the TCP flags in full.  It does not look at
the TTL, the AS numbers and the interfaces, it knows two of the five fragmentation flags, and
it compares lengths by their low 16 bits, up to a length of 65635.  Main result: the packets
for which these gaps show (`filterPacketByFlowspecRule_exact_iff`).
-/
import FastNetMon.FlowSpecEquality
import FastNetMon.PrefixEncoding
import FastNetMon.TrafficCounters

namespace FastNetMon

/-! ### The criteria of a rule -/

/-- A criterion of a rule: one of the listed values fits, if there are any. -/
def Asked {α : Type*} (listed : List α) (fits : α → Prop) : Prop :=
  listed = [] ∨ ∃ x ∈ listed, fits x

/-- The address is in the prefix. -/
def SubnetCidrMask.Contains (subnet : SubnetCidrMask) (ip : UInt32) : Prop :=
  AgreeOn (min subnet.cidrPrefixLength.toNat 32) (bytes32 subnet.subnetAddress) (bytes32 ip)

/-- The flag describes the fragmentation of the packet. -/
def FlowSpecFragmentationType.Describes (packet : ParsedPacket) :
    FlowSpecFragmentationType → Prop
  | dontFragment => packet.ipDontFragment = true
  | isAFragment => packet.ipFragmented = true
  | notAFragment => packet.ipFragmented = false
  | firstFragment => packet.ipMoreFragments = true ∧ packet.ipFragmentOffset = 0
  | lastFragment => packet.ipFragmentOffset ≠ 0 ∧ packet.ipMoreFragments = false

/-- The flags of a TCP header, with the bits in the order of the header. -/
def tcpFlagset (flags : UInt8) : FlowSpecTcpFlagset where
  finFlag := flags.toNat.testBit 0
  synFlag := flags.toNat.testBit 1
  rstFlag := flags.toNat.testBit 2
  pshFlag := flags.toNat.testBit 3
  ackFlag := flags.toNat.testBit 4
  urgFlag := flags.toNat.testBit 5

variable (rule : FlowSpecRule) (packet : ParsedPacket)

/-- The criteria that the filter compares in full. -/
structure MeetsComparedCriteria : Prop where
  source : rule.sourceSubnetIpv4Used = true → rule.sourceSubnetIpv4.Contains packet.srcIp
  destination : rule.destinationSubnetIpv4Used = true →
    rule.destinationSubnetIpv4.Contains packet.dstIp
  sourcePort : Asked rule.sourcePorts (· = packet.sourcePort)
  destinationPort : Asked rule.destinationPorts (· = packet.destinationPort)
  protocol : Asked rule.protocols (·.asNumber.toNat = packet.protocol.toNat)
  vlan : Asked rule.vlans (·.toNat = packet.vlan.toNat)
  tcpFlags : Asked rule.tcpFlags (· = tcpFlagset packet.flags)

/-- The criteria that the filter does not look at. -/
structure MeetsIgnoredCriteria : Prop where
  ttl : Asked rule.ttls (· = packet.ttl)
  sourceAsn : Asked rule.sourceAsns (· = packet.srcAsn)
  destinationAsn : Asked rule.destinationAsns (· = packet.dstAsn)
  inputInterface : Asked rule.inputInterfaces (· = packet.inputInterface)
  outputInterface : Asked rule.outputInterfaces (· = packet.outputInterface)

/-- The length of the packet or of its IP part is listed. -/
def MeetsPacketLengths : Prop :=
  Asked rule.packetLengths fun listed =>
    listed.toNat = packet.length.toNat ∨ listed.toNat = packet.ipLength.toNat

/-- A listed flag describes the packet. -/
def MeetsFragmentationFlags : Prop :=
  Asked rule.fragmentationFlags (·.Describes packet)

/-- The packet meets every criterion of the rule. -/
structure MeetsRule : Prop where
  compared : MeetsComparedCriteria rule packet
  ignored : MeetsIgnoredCriteria rule packet
  packetLengths : MeetsPacketLengths rule packet
  fragmentationFlags : MeetsFragmentationFlags rule packet

/-! ### Where the filter goes wrong -/

/-- No listed flag that the filter knows describes the packet. -/
def DescribedByUnknownFlagsOnly : Prop :=
  rule.fragmentationFlags ≠ [] ∧
    ∀ flag ∈ rule.fragmentationFlags, flag = .dontFragment ∨ flag = .isAFragment →
      ¬ flag.Describes packet

/-- The packet is too long for the filter and its IP length is listed. -/
def TooLongWithListedIpLength : Prop :=
  65635 < packet.length.toNat ∧
    ∃ listed ∈ rule.packetLengths, listed.toNat = packet.ipLength.toNat

/-- Neither length is listed and the low 16 bits of one of them are. -/
def OnlyTruncatedLengthListed : Prop :=
  packet.length.toNat ≤ 65635 ∧ ¬ MeetsPacketLengths rule packet ∧
    ∃ listed ∈ rule.packetLengths,
      listed.toNat = packet.length.toNat % 2 ^ 16 ∨ listed.toNat = packet.ipLength.toNat % 2 ^ 16

/-- The packet passes by the gaps of the filter: those by which it matches too much and
those by which it matches too little are not reached, or cancel out. -/
def PassesByGaps : Prop :=
  MeetsComparedCriteria rule packet → MeetsFragmentationFlags rule packet →
    (OnlyTruncatedLengthListed rule packet → DescribedByUnknownFlagsOnly rule packet) ∧
    (MeetsPacketLengths rule packet →
      (MeetsIgnoredCriteria rule packet ↔
        ¬ DescribedByUnknownFlagsOnly rule packet ∧ ¬ TooLongWithListedIpLength rule packet))

/-! ### The comparisons of the filter -/

theorem asked_iff_contains {α : Type*} [BEq α] [LawfulBEq α] (listed : List α) (x : α) :
    (listed.isEmpty || listed.contains x) = true ↔ Asked listed (· = x) := by
  simp [Asked]

theorem asked_iff_any {α : Type*} (listed : List α) (p : α → Bool) :
    (listed.isEmpty || listed.any p) = true ↔ Asked listed (p · = true) := by
  simp [Asked]

theorem asked_congr {α : Type*} {listed : List α} {p q : α → Prop} (h : ∀ x, p x ↔ q x) :
    Asked listed p ↔ Asked listed q := by
  rw [Asked, Asked, exists_congr fun x => and_congr_right fun _ => h x]

/-- A prefix of full length is an address. -/
theorem contains_of_full_length {subnet : SubnetCidrMask} (h : subnet.cidrPrefixLength = 32)
    (ip : UInt32) : subnet.Contains ip ↔ subnet = ⟨ip, 32⟩ := by
  have hagree := eq_iff_agreeOn (bytes32_length subnet.subnetAddress) (bytes32_length ip)
  rw [SubnetCidrMask.Contains, h]
  show AgreeOn (8 * 4) _ _ ↔ _
  rw [← hagree]
  constructor
  · intro hbytes
    obtain ⟨address, length⟩ := subnet
    exact congrArg₂ SubnetCidrMask.mk (bytes32_injective hbytes) h
  · rintro rfl
    rfl

theorem ipMatches_iff {lookupIp : LookupTree32bit}
    (hlookup : ∀ subnet ip, lookupIp subnet ip = true ↔ subnet.Contains ip) (ipv4Used : Bool)
    (ipv4 : SubnetCidrMask) (ipv6 : SubnetIpv6CidrMask) (ip : UInt32) (ipv6Address : In6Addr) :
    ipMatches lookupIp ipv4Used ipv4 false ipv6 ip ipv6Address = true ↔
      (ipv4Used = true → ipv4.Contains ip) := by
  cases ipv4Used
  · simp [ipMatches]
  · by_cases hfull : ipv4.cidrPrefixLength = 32
    · simp [ipMatches, hfull, contains_of_full_length hfull]
    · simp [ipMatches, hfull, hlookup]

theorem protocolMatches_iff :
    (rule.protocols.isEmpty
        || (decide (packet.protocol ≤ 255)
          && rule.protocols.contains ⟨packet.protocol.toUInt8⟩)) = true ↔
      Asked rule.protocols (·.asNumber.toNat = packet.protocol.toNat) := by
  have hprotocol : ∀ p : IpProtocol, p.asNumber.toNat = packet.protocol.toNat ↔
      packet.protocol ≤ 255 ∧ p = ⟨packet.protocol.toUInt8⟩ := by
    rintro ⟨p⟩
    have hp := p.toNat_lt
    rw [UInt32.le_iff_toNat_le, IpProtocol.mk.injEq, ← UInt8.toNat_inj, UInt32.toNat_toUInt8]
    show p.toNat = _ ↔ packet.protocol.toNat ≤ 255 ∧ _
    omega
  rw [asked_congr hprotocol]
  simp [Asked, and_comm]

theorem vlanMatches_iff :
    (rule.vlans.isEmpty || rule.vlans.any fun vlan => vlan.toUInt32 = packet.vlan) = true ↔
      Asked rule.vlans (·.toNat = packet.vlan.toNat) := by
  rw [asked_iff_any]
  refine asked_congr fun vlan => ?_
  rw [decide_eq_true_iff, ← UInt32.toNat_inj, UInt16.toNat_toUInt32]

theorem tcpFlagsMatches_iff :
    (rule.tcpFlags.isEmpty || rule.tcpFlags.any
        (·.operatorEq (uint8tRepresentationOfTcpFlagsToFlowSpec packet.flags))) = true ↔
      Asked rule.tcpFlags (· = tcpFlagset packet.flags) := by
  rw [asked_iff_any]
  exact asked_congr fun flagset => FlowSpecTcpFlagset.operatorEq_iff _ _

/-- The filter finds a flag that it knows. -/
theorem fragmentationFlagsMatches_iff :
    (rule.fragmentationFlags.isEmpty
        || rule.fragmentationFlags.any fun flag =>
          (flag = .dontFragment && packet.ipDontFragment)
            || (flag = .isAFragment && packet.ipFragmented)) = true ↔
      MeetsFragmentationFlags rule packet ∧ ¬ DescribedByUnknownFlagsOnly rule packet := by
  have hflag : ∀ flag : FlowSpecFragmentationType,
      ((flag = .dontFragment && packet.ipDontFragment)
        || (flag = .isAFragment && packet.ipFragmented)) = true ↔
      (flag = .dontFragment ∨ flag = .isAFragment) ∧ flag.Describes packet := by
    intro flag
    cases flag <;> simp [FlowSpecFragmentationType.Describes]
  rw [asked_iff_any, asked_congr hflag, MeetsFragmentationFlags, DescribedByUnknownFlagsOnly]
  constructor
  · rintro (hnil | ⟨flag, hmem, hknown, hdescribes⟩)
    · exact ⟨.inl hnil, fun hunknown => hunknown.1 hnil⟩
    · exact ⟨.inr ⟨flag, hmem, hdescribes⟩, fun hunknown =>
        hunknown.2 flag hmem hknown hdescribes⟩
  · rintro ⟨-, hknown⟩
    by_cases hnil : rule.fragmentationFlags = []
    · exact .inl hnil
    · refine .inr ?_
      by_contra hnone
      exact hknown ⟨hnil, fun flag hmem hflag hdescribes =>
        hnone ⟨flag, hmem, hflag, hdescribes⟩⟩

/-- The filter finds one of the lengths, or the low bits of one. -/
theorem packetSizeMatches_iff :
    (rule.packetLengths.isEmpty
        || (decide (packet.length ≤ 65635)
          && (rule.packetLengths.contains packet.length.toUInt16
            || rule.packetLengths.contains packet.ipLength.toUInt16))) = true ↔
      (MeetsPacketLengths rule packet ∧ ¬ TooLongWithListedIpLength rule packet) ∨
        OnlyTruncatedLengthListed rule packet := by
  have hshort : packet.length ≤ 65635 ↔ packet.length.toNat ≤ 65635 := UInt64.le_iff_toNat_le
  have hlow : ∀ w : UInt64, rule.packetLengths.contains w.toUInt16 = true ↔
      ∃ listed ∈ rule.packetLengths, listed.toNat = w.toNat % 2 ^ 16 := by
    intro w
    rw [List.contains_iff_mem]
    constructor
    · exact fun hmem => ⟨_, hmem, UInt64.toNat_toUInt16 w⟩
    · rintro ⟨listed, hmem, hlisted⟩
      rw [← UInt64.toNat_toUInt16, UInt16.toNat_inj] at hlisted
      exact hlisted ▸ hmem
  rw [Bool.or_eq_true, Bool.and_eq_true, Bool.or_eq_true, List.isEmpty_iff, decide_eq_true_iff,
    hlow, hlow, hshort]
  constructor
  · rintro (hnil | ⟨hle, hlisted⟩)
    · refine .inl ⟨.inl hnil, ?_⟩
      rintro ⟨-, listed, hmem, -⟩
      rw [hnil] at hmem
      exact List.not_mem_nil hmem
    · by_cases hmeets : MeetsPacketLengths rule packet
      · exact .inl ⟨hmeets, fun hlong => by have hlt := hlong.1; omega⟩
      · refine .inr ⟨hle, hmeets, ?_⟩
        obtain ⟨listed, hmem, hlength⟩ | ⟨listed, hmem, hlength⟩ := hlisted
        · exact ⟨listed, hmem, .inl hlength⟩
        · exact ⟨listed, hmem, .inr hlength⟩
  · rintro (⟨hnil | ⟨listed, hmem, hlength⟩, hlong⟩ | ⟨hle, -, listed, hmem, hlength⟩)
    · exact .inl hnil
    · -- a listed length is below 2^16, so that only the IP length can be listed for a long packet
      have hlisted := listed.toNat_lt
      have hle : packet.length.toNat ≤ 65635 := by
        by_contra hlt
        exact hlong ⟨by omega, listed, hmem, by omega⟩
      refine .inr ⟨hle, ?_⟩
      obtain hlength | hlength := hlength
      · exact .inl ⟨listed, hmem, by omega⟩
      · exact .inr ⟨listed, hmem, by omega⟩
    · refine .inr ⟨hle, ?_⟩
      obtain hlength | hlength := hlength
      · exact .inl ⟨listed, hmem, hlength⟩
      · exact .inr ⟨listed, hmem, hlength⟩

/-- What the filter answers. -/
theorem filterPacketByFlowspecRule_iff {lookupIp : LookupTree32bit}
    (hlookup : ∀ subnet ip, lookupIp subnet ip = true ↔ subnet.Contains ip)
    (hsource : rule.sourceSubnetIpv6Used = false)
    (hdestination : rule.destinationSubnetIpv6Used = false) :
    filterPacketByFlowspecRule lookupIp packet rule = true ↔
      MeetsComparedCriteria rule packet ∧
      (MeetsFragmentationFlags rule packet ∧ ¬ DescribedByUnknownFlagsOnly rule packet) ∧
      ((MeetsPacketLengths rule packet ∧ ¬ TooLongWithListedIpLength rule packet) ∨
        OnlyTruncatedLengthListed rule packet) := by
  simp only [filterPacketByFlowspecRule, hsource, hdestination, Bool.and_eq_true,
    asked_iff_contains, ipMatches_iff hlookup, packetSizeMatches_iff, tcpFlagsMatches_iff,
    fragmentationFlagsMatches_iff, protocolMatches_iff, vlanMatches_iff]
  constructor
  · rintro ⟨⟨⟨⟨⟨⟨⟨⟨hsourcePort, hdestinationPort⟩, hsource⟩, hdestination⟩, hlength⟩, hflags⟩,
      hfragment⟩, hprotocol⟩, hvlan⟩
    exact ⟨⟨hsource, hdestination, hsourcePort, hdestinationPort, hprotocol, hvlan, hflags⟩,
      hfragment, hlength⟩
  · rintro ⟨⟨hsource, hdestination, hsourcePort, hdestinationPort, hprotocol, hvlan, hflags⟩,
      hfragment, hlength⟩
    exact ⟨⟨⟨⟨⟨⟨⟨⟨hsourcePort, hdestinationPort⟩, hsource⟩, hdestination⟩, hlength⟩, hflags⟩,
      hfragment⟩, hprotocol⟩, hvlan⟩

/-- **Packets for which the filter is exact.**  The filter agrees with the rule exactly for
the packets that pass by its gaps. -/
theorem filterPacketByFlowspecRule_exact_iff {lookupIp : LookupTree32bit}
    (hlookup : ∀ subnet ip, lookupIp subnet ip = true ↔ subnet.Contains ip)
    (hsource : rule.sourceSubnetIpv6Used = false)
    (hdestination : rule.destinationSubnetIpv6Used = false) :
    (filterPacketByFlowspecRule lookupIp packet rule = true ↔ MeetsRule rule packet) ↔
      PassesByGaps rule packet := by
  have hmeets : MeetsRule rule packet ↔
      MeetsComparedCriteria rule packet ∧ MeetsIgnoredCriteria rule packet ∧
        MeetsPacketLengths rule packet ∧ MeetsFragmentationFlags rule packet :=
    ⟨fun ⟨h₁, h₂, h₃, h₄⟩ => ⟨h₁, h₂, h₃, h₄⟩, fun ⟨h₁, h₂, h₃, h₄⟩ => ⟨h₁, h₂, h₃, h₄⟩⟩
  have honly : OnlyTruncatedLengthListed rule packet → ¬ MeetsPacketLengths rule packet :=
    fun h => h.2.1
  rw [filterPacketByFlowspecRule_iff rule packet hlookup hsource hdestination, hmeets,
    PassesByGaps]
  tauto

/-- Prefix membership, computed. -/
def prefixLookup : LookupTree32bit := fun subnet ip =>
  (List.range (min subnet.cidrPrefixLength.toNat 32)).all fun i =>
    addressBit (bytes32 subnet.subnetAddress) i = addressBit (bytes32 ip) i

theorem prefixLookup_iff (subnet : SubnetCidrMask) (ip : UInt32) :
    prefixLookup subnet ip = true ↔ subnet.Contains ip := by
  simp [prefixLookup, SubnetCidrMask.Contains, AgreeOn]

/-- Traffic of one customer network, to be let through at any time. -/
def customerRule : FlowSpecRule :=
  { sourceSubnetIpv4 := ⟨0x0200c0, 24⟩
    sourceSubnetIpv4Used := true
    sourceAsns := [64500] }

/-- A packet from this network that comes in from another AS. -/
def spoofedPacket : ParsedPacket :=
  { srcIp := 0x010200c0, srcAsn := 64666, protocol := 17, length := 100 }

theorem filterPacketByFlowspecRule_exact_iff_customer :
    (filterPacketByFlowspecRule prefixLookup spoofedPacket customerRule = true ↔
      MeetsRule customerRule spoofedPacket) ↔ PassesByGaps customerRule spoofedPacket :=
  filterPacketByFlowspecRule_exact_iff customerRule spoofedPacket prefixLookup_iff rfl rfl

/-- The packet is let through in spite of its AS. -/
theorem filterPacketByFlowspecRule_ignores_asn :
    ¬ ∀ (lookupIp : LookupTree32bit) (rule : FlowSpecRule) (packet : ParsedPacket),
      (∀ subnet ip, lookupIp subnet ip = true ↔ subnet.Contains ip) →
      rule.sourceSubnetIpv6Used = false → rule.destinationSubnetIpv6Used = false →
      (filterPacketByFlowspecRule lookupIp packet rule = true ↔ MeetsRule rule packet) := by
  intro hexact
  have hmeets := (hexact prefixLookup customerRule spoofedPacket prefixLookup_iff rfl rfl).mp
    (by decide)
  obtain hnil | ⟨asn, hmem, hasn⟩ := hmeets.ignored.sourceAsn
  · exact List.cons_ne_nil _ _ hnil
  · rw [List.mem_singleton.mp hmem] at hasn
    exact absurd hasn (by decide)

end FastNetMon
