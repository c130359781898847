/-
FastNetMon/TrafficConservation.lean

Traffic is conserved between the counters.

A packet that is counted is counted once in each family of counters: in the total of its
direction, for its host and for its network (`CountedPacket`).  After any packets, every
counter is the tally of the packets that were counted in it (`FamilyCounters.Tallied`);
one packet keeps this (`Tallied.concat`, `Tallied.skip`), and so does any sequence
(`tallied_processPackets`).  Two counters agree if their tallies are over the same packets,
and one is at most another if its packets are among those of the other.  Main result:
`traffic_conservation`.
-/
import FastNetMon.TrafficCounters

namespace FastNetMon

open CounterMap

/-! ### What is counted -/

/-- The directions that hosts and networks have counters for. -/
inductive TrafficSide
  | incoming
  | outgoing
deriving DecidableEq

/-- The `direction_t` of a side. -/
def TrafficSide.direction : TrafficSide → Direction
  | incoming => .incoming
  | outgoing => .outgoing

/-- What is counted of the traffic. -/
inductive TrafficUnit
  | packets
  | bytes
deriving DecidableEq

/-- The fields of `subnet_counter_t` that packets are counted in. -/
inductive CounterField
  | total
  | tcp
  | udp
  | icmp
  | fragmented
  | tcpSyn
  | dropped
deriving DecidableEq

/-- The element of a field. -/
def SubnetCounter.element (counter : SubnetCounter) : CounterField → TrafficCounterElement
  | .total => counter.total
  | .tcp => counter.tcp
  | .udp => counter.udp
  | .icmp => counter.icmp
  | .fragmented => counter.fragmented
  | .tcpSyn => counter.tcpSyn
  | .dropped => counter.dropped

/-- The counter of a direction and a unit. -/
def TrafficCounterElement.amount (element : TrafficCounterElement) :
    TrafficSide → TrafficUnit → UInt64
  | .incoming, .packets => element.inPackets
  | .incoming, .bytes => element.inBytes
  | .outgoing, .packets => element.outPackets
  | .outgoing, .bytes => element.outBytes

/-- The counter of a field, a direction and a unit. -/
def SubnetCounter.amount (field : CounterField) (side : TrafficSide) (unit : TrafficUnit)
    (counter : SubnetCounter) : UInt64 :=
  (counter.element field).amount side unit

/-- The counter of a unit. -/
def SingleCounterElement.amount (element : SingleCounterElement) : TrafficUnit → UInt64
  | .packets => element.packets
  | .bytes => element.bytes

/-- What a packet stands for. -/
def sampledAmount (packet : ParsedPacket) : TrafficUnit → UInt64
  | .packets => sampledNumberOfPackets packet
  | .bytes => sampledNumberOfBytes packet

/-- The packets that are counted in a field. -/
def countsAs (field : CounterField) (packet : ParsedPacket) : Bool :=
  match field with
  | .total => true
  | .tcp => packet.protocol = IpProtocol.TCP.asNumber.toUInt32
  | .udp => packet.protocol = IpProtocol.UDP.asNumber.toUInt32
  | .icmp =>
      (packet.ipProtocolVersion = 4 && packet.protocol = IpProtocol.ICMP.asNumber.toUInt32)
        || (packet.ipProtocolVersion = 6 && packet.protocol = IpProtocolNumberIPV6_ICMP)
  | .fragmented => packet.ipFragmented
  | .tcpSyn =>
      packet.protocol = IpProtocol.TCP.asNumber.toUInt32
        && extractBitValue packet.flags TCP_SYN_FLAG_SHIFT
  | .dropped => packet.forwardingStatus = .dropped

/-- The network counters of IPv6 count the total only. -/
def countsAsTotal (field : CounterField) (_packet : ParsedPacket) : Bool := field = .total

/-- A packet that is counted. -/
structure CountedPacket (κ ν : Type) where
  side : TrafficSide
  host : κ
  network : ν
  packet : ParsedPacket

/-- What a counted packet stands for. -/
def CountedPacket.amount {κ ν : Type} (unit : TrafficUnit) (event : CountedPacket κ ν) : UInt64 :=
  sampledAmount event.packet unit

/-- A packet is counted if one of its ends is ours, and it is neither whitelisted nor of a
direction that is switched off. -/
def countedIpv4 (context : TrafficContext) (packet : ParsedPacket) :
    Option (CountedPacket UInt32 SubnetCidrMask) :=
  let (packetDirection, currentSubnet) :=
    getPacketDirection context.lookupTreeIpv4 packet.srcIp packet.dstIp
  if packet.ipProtocolVersion ≠ 4 ∨ skipsDirection context packetDirection
      ∨ filterPacketByWhitelist context packet then none
  else
    match packetDirection with
    | .incoming => some ⟨.incoming, packet.dstIp, currentSubnet, packet⟩
    | .outgoing => some ⟨.outgoing, packet.srcIp, currentSubnet, packet⟩
    | .internal => none
    | .other => none

@[inherit_doc countedIpv4]
def countedIpv6 (context : TrafficContext) (packet : ParsedPacket) :
    Option (CountedPacket SubnetIpv6CidrMask SubnetIpv6CidrMask) :=
  let (packetDirection, ipv6CidrSubnet) :=
    getPacketDirectionIpv6 context.lookupTreeIpv6 packet.srcIpv6 packet.dstIpv6
  if packet.ipProtocolVersion ≠ 6 ∨ skipsDirection context packetDirection then none
  else
    match packetDirection with
    | .incoming => some ⟨.incoming, ⟨packet.dstIpv6, 128⟩, ipv6CidrSubnet, packet⟩
    | .outgoing => some ⟨.outgoing, ⟨packet.srcIpv6, 128⟩, ipv6CidrSubnet, packet⟩
    | .internal => none
    | .other => none

/-! ### One counter -/

variable {currentInaccurateTime : Int64}

/-- What is added to an element for a packet of one side of the traffic. -/
def AddsPacket (side : TrafficSide) (packet : ParsedPacket)
    (add : TrafficCounterElement → TrafficCounterElement) : Prop :=
  ∀ element side' unit, (add element).amount side' unit
    = element.amount side' unit + if side = side' then sampledAmount packet unit else 0

theorem addsPacket_addIncoming (packet : ParsedPacket) :
    AddsPacket .incoming packet
      (·.addIncoming (sampledNumberOfPackets packet) (sampledNumberOfBytes packet)) := by
  intro element side unit
  cases side <;> cases unit <;>
    simp [TrafficCounterElement.addIncoming, TrafficCounterElement.amount, sampledAmount]

theorem addsPacket_addOutgoing (packet : ParsedPacket) :
    AddsPacket .outgoing packet
      (·.addOutgoing (sampledNumberOfPackets packet) (sampledNumberOfBytes packet)) := by
  intro element side unit
  cases side <;> cases unit <;>
    simp [TrafficCounterElement.addOutgoing, TrafficCounterElement.amount, sampledAmount]

/-- A packet is added to the fields that it counts as. -/
theorem element_incrementCounters (add : TrafficCounterElement → TrafficCounterElement)
    (counter : SubnetCounter) (packet : ParsedPacket) (field : CounterField) :
    (incrementCounters currentInaccurateTime add counter packet).element field
      = if countsAs field packet then add (counter.element field) else counter.element field := by
  cases field with
  | total =>
    simp only [SubnetCounter.element, incrementCounters, apply_ite SubnetCounter.total,
      ite_self, countsAs, if_true]
  | tcp =>
    simp only [SubnetCounter.element, incrementCounters, apply_ite SubnetCounter.tcp,
      ite_self, countsAs, decide_eq_true_eq]
  | udp =>
    simp only [SubnetCounter.element, incrementCounters, apply_ite SubnetCounter.udp,
      ite_self, countsAs, decide_eq_true_eq]
    by_cases htcp : packet.protocol = IpProtocol.TCP.asNumber.toUInt32
    · rw [if_pos htcp, htcp, if_neg (by decide)]
    · rw [if_neg htcp]
  | icmp =>
    simp only [SubnetCounter.element, incrementCounters, apply_ite SubnetCounter.icmp,
      ite_self, countsAs, Bool.or_eq_true, Bool.and_eq_true, decide_eq_true_eq]
    by_cases hipv4 : packet.ipProtocolVersion = 4
    · have hipv6 : ¬ (4 : UInt8) = 6 := by decide
      simp only [hipv4, hipv6, if_true, true_and, false_and, or_false]
    · simp only [hipv4, if_false, false_and, false_or, ite_and]
  | fragmented =>
    simp only [SubnetCounter.element, incrementCounters,
      apply_ite SubnetCounter.fragmented, ite_self, countsAs]
    rfl
  | tcpSyn =>
    simp only [SubnetCounter.element, incrementCounters, apply_ite SubnetCounter.tcpSyn,
      ite_self, countsAs, Bool.and_eq_true, decide_eq_true_eq, ite_and]
  | dropped =>
    simp only [SubnetCounter.element, incrementCounters, apply_ite SubnetCounter.dropped,
      ite_self, countsAs, decide_eq_true_eq]

/-! ### Tallies of the counters -/

variable {κ ν α : Type} [DecidableEq α]

/-- The counters of a map are the tallies of the packets that were counted for their keys,
in the fields that `counts` says. -/
structure CountersTallied (key : CountedPacket κ ν → α)
    (counts : CounterField → ParsedPacket → Bool) (map : CounterMap α SubnetCounter)
    (events : List (CountedPacket κ ν)) : Prop where
  counter_eq : ∀ k field side unit, (map.lookup k).amount field side unit
    = tally (fun event => key event = k && (event.side = side && counts field event.packet))
        (CountedPacket.amount unit) events
  sum_eq : ∀ kind field side unit, keySum kind (SubnetCounter.amount field side unit) map
    = tally (fun event => kind (key event) && (event.side = side && counts field event.packet))
        (CountedPacket.amount unit) events

/-- What a change of a counter adds for a counted packet. -/
def AddsEvent (counts : CounterField → ParsedPacket → Bool) (event : CountedPacket κ ν)
    (change : SubnetCounter → SubnetCounter) : Prop :=
  ∀ counter field side unit, (change counter).amount field side unit
    = counter.amount field side unit
      + if event.side = side ∧ counts field event.packet then event.amount unit else 0

variable {add : TrafficCounterElement → TrafficCounterElement} {side : TrafficSide} {host : κ}
  {network : ν} {packet : ParsedPacket}

/-- An increment adds the packet to all the fields that it counts as. -/
theorem AddsPacket.addsEvent (hadd : AddsPacket side packet add) :
    AddsEvent countsAs ⟨side, host, network, packet⟩ fun counter =>
      incrementCounters currentInaccurateTime add counter packet := by
  intro counter field side' unit
  rw [SubnetCounter.amount, SubnetCounter.amount, element_incrementCounters]
  by_cases hcounts : countsAs field packet
  · rw [if_pos hcounts, hadd]
    simp only [hcounts, and_true]
    rfl
  · rw [if_neg hcounts]
    simp [hcounts]

theorem AddsPacket.addsEvent_total (hadd : AddsPacket side packet add) :
    AddsEvent countsAsTotal ⟨side, host, network, packet⟩ fun counter =>
      { counter with total := add counter.total } := by
  intro counter field side' unit
  cases field with
  | total =>
    refine (hadd counter.total side' unit).trans ?_
    simp only [countsAsTotal, decide_true, and_true]
    rfl
  | _ => simp [SubnetCounter.amount, SubnetCounter.element, countsAsTotal]

@[simp] theorem SubnetCounter.amount_default (field : CounterField) (side : TrafficSide)
    (unit : TrafficUnit) : (default : SubnetCounter).amount field side unit = 0 := by
  cases field <;> cases side <;> cases unit <;> rfl

namespace CountersTallied

variable {key : CountedPacket κ ν → α} {counts : CounterField → ParsedPacket → Bool}
  {map : CounterMap α SubnetCounter} {events : List (CountedPacket κ ν)}
  {event : CountedPacket κ ν} {change : SubnetCounter → SubnetCounter}

theorem nil (key : CountedPacket κ ν → α) (counts : CounterField → ParsedPacket → Bool) :
    CountersTallied key counts [] [] where
  counter_eq _ field side unit := SubnetCounter.amount_default field side unit
  sum_eq _ _ _ _ := rfl

/-- A packet that is counted for its key. -/
theorem concat (h : CountersTallied key counts map events)
    (hchange : AddsEvent counts event change) :
    CountersTallied key counts (map.modifyAt (key event) change) (events ++ [event]) where
  counter_eq k field side unit := by
    rw [lookup_modifyAt, tally_concat, ← h.counter_eq]
    by_cases hk : k = key event
    · rw [if_pos hk, hchange, hk]
      simp
    · rw [if_neg hk]
      simp [Ne.symm hk]
  sum_eq kind field side unit := by
    rw [keySum_modifyAt kind (SubnetCounter.amount_default field side unit)
      (fun counter => hchange counter field side unit), tally_concat, ← h.sum_eq]
    by_cases hkind : kind (key event) <;> simp [hkind]

/-- A change that adds nothing, though it may make the counter. -/
theorem skip (h : CountersTallied key counts map events) (k : α)
    (hchange : ∀ counter field side unit,
      (change counter).amount field side unit = counter.amount field side unit) :
    CountersTallied key counts (map.modifyAt k change) events where
  counter_eq k' field side unit := by
    rw [lookup_modifyAt, ← h.counter_eq]
    by_cases hk : k' = k
    · rw [if_pos hk, hchange, hk]
    · rw [if_neg hk]
  sum_eq kind field side unit := by
    rw [keySum_modifyAt kind (SubnetCounter.amount_default field side unit)
      (fun counter => (hchange counter field side unit).trans (add_zero _).symm), ite_self,
      add_zero, h.sum_eq]

end CountersTallied

/-! ### Parts and wholes -/

/-- The counts of the protocols, of SYN packets, of fragments and of dropped packets are
within those that they are a part of. -/
structure SubnetCounter.PartsWithin (side : TrafficSide) (unit : TrafficUnit)
    (counter : SubnetCounter) : Prop where
  protocols : (counter.amount .tcp side unit).toNat + (counter.amount .udp side unit).toNat
    + (counter.amount .icmp side unit).toNat ≤ (counter.amount .total side unit).toNat
  tcpSyn : counter.amount .tcpSyn side unit ≤ counter.amount .tcp side unit
  fragmented : counter.amount .fragmented side unit ≤ counter.amount .total side unit
  dropped : counter.amount .dropped side unit ≤ counter.amount .total side unit

/-- Every packet counts in the total, and in one of the protocols at most. -/
structure PartsCount (counts : CounterField → ParsedPacket → Bool) : Prop where
  total : ∀ packet, counts .total packet = true
  tcp_udp : ∀ packet, ¬ (counts .tcp packet = true ∧ counts .udp packet = true)
  protocols_icmp : ∀ packet,
    ¬ ((counts .tcp packet || counts .udp packet) = true ∧ counts .icmp packet = true)
  tcpSyn : ∀ packet, counts .tcpSyn packet = true → counts .tcp packet = true

theorem partsCount_countsAs : PartsCount countsAs where
  total _ := rfl
  tcp_udp packet := by
    simp only [countsAs, decide_eq_true_eq]
    rintro ⟨htcp, hudp⟩
    rw [htcp] at hudp
    exact absurd hudp (by decide)
  protocols_icmp packet := by
    simp only [countsAs, Bool.or_eq_true, Bool.and_eq_true, decide_eq_true_eq]
    rintro ⟨htcp | hudp, ⟨-, hicmp⟩ | ⟨-, hicmp⟩⟩
    · exact absurd (htcp.symm.trans hicmp) (by decide)
    · exact absurd (htcp.symm.trans hicmp) (by decide)
    · exact absurd (hudp.symm.trans hicmp) (by decide)
    · exact absurd (hudp.symm.trans hicmp) (by decide)
  tcpSyn packet h := by
    simp only [countsAs, Bool.and_eq_true] at h
    exact h.1

theorem partsCount_countsAsTotal : PartsCount countsAsTotal where
  total _ := rfl
  tcp_udp _ h := absurd h.1 (by simp [countsAsTotal])
  protocols_icmp _ h := absurd h.2 (by simp [countsAsTotal])
  tcpSyn _ h := absurd h (by simp [countsAsTotal])

/-- The sum of what was counted for a key, with no bound. -/
def sumFor (key : CountedPacket κ ν → α) (events : List (CountedPacket κ ν)) (k : α)
    (side : TrafficSide) (unit : TrafficUnit) : ℕ :=
  tally (fun event => key event = k && event.side = side) (fun event => (event.amount unit).toNat)
    events

section PartsWithin

variable {key : CountedPacket κ ν → α} {counts : CounterField → ParsedPacket → Bool}
  {map : CounterMap α SubnetCounter} {events : List (CountedPacket κ ν)} {k : α}
  {side : TrafficSide} {unit : TrafficUnit}

/-- A sum that fits a counter is what the counter shows. -/
theorem CountersTallied.toNat_amount (h : CountersTallied key counts map events)
    (hfits : sumFor key events k side unit < 2 ^ 64) (field : CounterField) :
    ((map.lookup k).amount field side unit).toNat
      = tally (fun event => key event = k && (event.side = side && counts field event.packet))
          (fun event => (event.amount unit).toNat) events := by
  have hle : tally
      (fun event => key event = k && (event.side = side && counts field event.packet))
      (fun event => (event.amount unit).toNat) events ≤ sumFor key events k side unit := by
    refine tally_le fun event _ hevent => ?_
    simp only [Bool.and_eq_true] at hevent ⊢
    exact ⟨hevent.1, hevent.2.1⟩
  rw [h.counter_eq, toNat_tally, Nat.mod_eq_of_lt (hle.trans_lt hfits)]

/-- **Parts are within their wholes** in a counter that has not wrapped. -/
theorem CountersTallied.partsWithin (h : CountersTallied key counts map events)
    (hcounts : PartsCount counts) (hfits : sumFor key events k side unit < 2 ^ 64) :
    (map.lookup k).PartsWithin side unit := by
  have hpart : ∀ field field', (∀ packet, counts field packet = true → counts field' packet = true)
      → (map.lookup k).amount field side unit ≤ (map.lookup k).amount field' side unit := by
    intro field field' himp
    rw [UInt64.le_iff_toNat_le, h.toNat_amount hfits, h.toNat_amount hfits]
    refine tally_le fun event _ hevent => ?_
    simp only [Bool.and_eq_true] at hevent ⊢
    exact ⟨hevent.1, hevent.2.1, himp _ hevent.2.2⟩
  refine ⟨?_, hpart _ _ hcounts.tcpSyn, hpart _ _ fun packet _ => hcounts.total packet,
    hpart _ _ fun packet _ => hcounts.total packet⟩
  rw [h.toNat_amount hfits, h.toNat_amount hfits, h.toNat_amount hfits, h.toNat_amount hfits,
    tally_add, tally_add]
  · refine tally_le fun event _ hevent => ?_
    simp only [Bool.and_eq_true, Bool.or_eq_true] at hevent ⊢
    rcases hevent with (hevent | hevent) | hevent <;>
      exact ⟨hevent.1, hevent.2.1, hcounts.total _⟩
  · intro event _ hevent
    have hicmp := hcounts.protocols_icmp event.packet
    simp only [Bool.and_eq_true, Bool.or_eq_true] at hevent hicmp
    obtain ⟨htcp | hudp, hevent⟩ := hevent
    · exact hicmp ⟨.inl htcp.2.2, hevent.2.2⟩
    · exact hicmp ⟨.inr hudp.2.2, hevent.2.2⟩
  · intro event _ hevent
    simp only [Bool.and_eq_true] at hevent
    exact hcounts.tcp_udp event.packet ⟨hevent.1.2.2, hevent.2.2.2⟩

end PartsWithin

/-! ### The counters of a family -/

theorem amount_addTotal (counters : FamilyCounters κ ν) (packetDirection : Direction)
    (packet : ParsedPacket) (direction : Direction) (unit : TrafficUnit) :
    (((counters.addTotal packetDirection packet).totalCounters direction).amount unit)
      = (counters.totalCounters direction).amount unit
        + if direction = packetDirection then sampledAmount packet unit else 0 := by
  unfold FamilyCounters.addTotal
  dsimp only
  by_cases h : direction = packetDirection
  · rw [if_pos h, h, Function.update_self]
    cases unit <;> rfl
  · rw [if_neg h, Function.update_of_ne h, add_zero]

/-- The direction of a packet is that of its side of the traffic. -/
theorem TrafficSide.direction_injective : Function.Injective TrafficSide.direction := by
  intro side side' h
  cases side <;> cases side' <;> first | rfl | cases h

variable [DecidableEq κ] [DecidableEq ν] {networkCounts : CounterField → ParsedPacket → Bool}
  {counters : FamilyCounters κ ν} {events : List (CountedPacket κ ν)}

/-- The counters are the tallies of some counted packets.  Those of networks count the
fields that `networkCounts` says. -/
structure FamilyCounters.Tallied (networkCounts : CounterField → ParsedPacket → Bool)
    (counters : FamilyCounters κ ν) (events : List (CountedPacket κ ν)) : Prop where
  total_eq : ∀ side unit, (counters.totalCounters side.direction).amount unit
    = tally (fun event => event.side = side) (CountedPacket.amount unit) events
  hosts : CountersTallied CountedPacket.host countsAs counters.hostCounters events
  networks : CountersTallied CountedPacket.network networkCounts counters.networkCounters events

namespace FamilyCounters.Tallied

theorem empty : ({} : FamilyCounters κ ν).Tallied networkCounts [] where
  total_eq side unit := by cases unit <;> rfl
  hosts := CountersTallied.nil _ _
  networks := CountersTallied.nil _ _

/-- **A packet that is counted once in each of the counters.** -/
theorem concat (h : counters.Tallied networkCounts events) {event : CountedPacket κ ν}
    {changeHost changeNetwork : SubnetCounter → SubnetCounter}
    (hhost : AddsEvent countsAs event changeHost)
    (hnetwork : AddsEvent networkCounts event changeNetwork) :
    FamilyCounters.Tallied networkCounts
      { counters.addTotal event.side.direction event.packet with
        hostCounters := counters.hostCounters.modifyAt event.host changeHost
        networkCounters := counters.networkCounters.modifyAt event.network changeNetwork }
      (events ++ [event]) where
  total_eq side unit := by
    rw [tally_concat, ← h.total_eq]
    refine (amount_addTotal counters _ _ _ _).trans ?_
    simp only [TrafficSide.direction_injective.eq_iff, decide_eq_true_eq, eq_comm (b := side)]
    rfl
  hosts := h.hosts.concat hhost
  networks := h.networks.concat hnetwork

/-- A packet that is counted in no direction of ours. -/
theorem skip (h : counters.Tallied networkCounts events) {packetDirection : Direction}
    (hdirection : packetDirection = .internal ∨ packetDirection = .other)
    (packet : ParsedPacket) :
    (counters.addTotal packetDirection packet).Tallied networkCounts events where
  total_eq side unit := by
    have hside : side.direction ≠ packetDirection := by
      rcases hdirection with rfl | rfl <;> cases side <;> simp [TrafficSide.direction]
    rw [amount_addTotal, if_neg hside, add_zero, h.total_eq]
  hosts := h.hosts
  networks := h.networks

end FamilyCounters.Tallied

/-! ### One packet -/

variable {context : TrafficContext}

/-- A packet that the whitelist matches is dropped only if there is a whitelist. -/
theorem length_pos_of_filterPacketByWhitelist {packet : ParsedPacket}
    (h : filterPacketByWhitelist context packet = true) :
    context.staticFlowspecBasedWhitelist.length > 0 := by
  obtain ⟨rule, hrule, -⟩ := List.any_eq_true.mp h
  exact List.length_pos_of_mem hrule

theorem tallied_processIpv4Packet {counters : FamilyCounters UInt32 SubnetCidrMask}
    {events : List (CountedPacket UInt32 SubnetCidrMask)}
    (h : counters.Tallied countsAs events) {packet : ParsedPacket}
    (hversion : packet.ipProtocolVersion = 4) :
    (processIpv4Packet currentInaccurateTime context counters packet).Tallied countsAs
      (events ++ (countedIpv4 context packet).toList) := by
  unfold processIpv4Packet countedIpv4
  obtain ⟨packetDirection, currentSubnet⟩ :=
    getPacketDirection context.lookupTreeIpv4 packet.srcIp packet.dstIp
  cases packetDirection with
  | incoming =>
    by_cases hlisted : filterPacketByWhitelist context packet = true
    · have hlength := length_pos_of_filterPacketByWhitelist hlisted
      simpa [hlisted, hlength] using h
    · by_cases hskips : skipsDirection context .incoming = true
      · simpa [hlisted, hskips] using h
      · simp only [hlisted, hskips, hversion, Bool.false_eq_true, and_false, if_false, or_false,
          ne_eq, not_true_eq_false, Option.toList_some]
        have hadd := addsPacket_addIncoming packet
        exact h.concat hadd.addsEvent hadd.addsEvent
  | outgoing =>
    by_cases hlisted : filterPacketByWhitelist context packet = true
    · have hlength := length_pos_of_filterPacketByWhitelist hlisted
      simpa [hlisted, hlength] using h
    · by_cases hskips : skipsDirection context .outgoing = true
      · simpa [hlisted, hskips] using h
      · simp only [hlisted, hskips, hversion, Bool.false_eq_true, and_false, if_false, or_false,
          ne_eq, not_true_eq_false, Option.toList_some]
        have hadd := addsPacket_addOutgoing packet
        exact h.concat hadd.addsEvent hadd.addsEvent
  | internal =>
    have hskipped := h.skip (.inl rfl) packet
    simpa [skipsDirection, addToNetworkIpv4, FamilyCounters.addToHost] using hskipped
  | other =>
    have hskipped := h.skip (.inr rfl) packet
    simpa [skipsDirection, addToNetworkIpv4, FamilyCounters.addToHost] using hskipped

theorem tallied_processIpv6Packet
    {counters : FamilyCounters SubnetIpv6CidrMask SubnetIpv6CidrMask}
    {events : List (CountedPacket SubnetIpv6CidrMask SubnetIpv6CidrMask)}
    (h : counters.Tallied countsAsTotal events) {packet : ParsedPacket}
    (hversion : packet.ipProtocolVersion = 6) :
    (processIpv6Packet currentInaccurateTime context counters packet).Tallied countsAsTotal
      (events ++ (countedIpv6 context packet).toList) := by
  unfold processIpv6Packet countedIpv6
  obtain ⟨packetDirection, ipv6CidrSubnet⟩ :=
    getPacketDirectionIpv6 context.lookupTreeIpv6 packet.srcIpv6 packet.dstIpv6
  cases packetDirection with
  | incoming =>
    by_cases hskips : skipsDirection context .incoming = true
    · simpa [hskips] using h
    · simp only [hskips, hversion, Bool.false_eq_true, if_false, or_false, ne_eq,
        not_true_eq_false, Option.toList_some]
      have hadd := addsPacket_addIncoming packet
      exact h.concat hadd.addsEvent hadd.addsEvent_total
  | outgoing =>
    by_cases hskips : skipsDirection context .outgoing = true
    · simpa [hskips] using h
    · simp only [hskips, hversion, Bool.false_eq_true, if_false, or_false, ne_eq,
        not_true_eq_false, Option.toList_some]
      have hadd := addsPacket_addOutgoing packet
      exact h.concat hadd.addsEvent hadd.addsEvent_total
  | internal =>
    have hskipped := h.skip (.inl rfl) packet
    -- the packet leaves a counter of the network with no address
    have hnetworks := hskipped.networks.skip ipv6CidrSubnet fun counter _ _ _ => rfl
    simpa [skipsDirection, addToNetworkIpv6, FamilyCounters.addToHost] using
      { hskipped with networks := hnetworks }
  | other =>
    have hskipped := h.skip (.inr rfl) packet
    have hnetworks := hskipped.networks.skip ipv6CidrSubnet fun counter _ _ _ => rfl
    simpa [skipsDirection, addToNetworkIpv6, FamilyCounters.addToHost] using
      { hskipped with networks := hnetworks }

/-! ### Many packets -/

theorem processPackets_concat (context : TrafficContext) (packets : List (Int64 × ParsedPacket))
    (arrival : Int64 × ParsedPacket) : processPackets context (packets ++ [arrival])
      = processPacket arrival.1 context (processPackets context packets) arrival.2 := by
  rw [processPackets, List.foldl_append]
  rfl

/-- The packets that are counted among the IPv4 traffic. -/
def countedPacketsIpv4 (context : TrafficContext) (packets : List (Int64 × ParsedPacket)) :
    List (CountedPacket UInt32 SubnetCidrMask) :=
  packets.filterMap fun arrival => countedIpv4 context arrival.2

/-- The packets that are counted among the IPv6 traffic. -/
def countedPacketsIpv6 (context : TrafficContext) (packets : List (Int64 × ParsedPacket)) :
    List (CountedPacket SubnetIpv6CidrMask SubnetIpv6CidrMask) :=
  packets.filterMap fun arrival => countedIpv6 context arrival.2

theorem countedIpv4_of_ne {packet : ParsedPacket} (h : packet.ipProtocolVersion ≠ 4) :
    countedIpv4 context packet = none :=
  if_pos (.inl h)

theorem countedIpv6_of_ne {packet : ParsedPacket} (h : packet.ipProtocolVersion ≠ 6) :
    countedIpv6 context packet = none :=
  if_pos (.inl h)

/-- A packet is counted in the counters of its version. -/
theorem tallied_processPacket {s : TrafficState}
    {events : List (CountedPacket UInt32 SubnetCidrMask)}
    {eventsIpv6 : List (CountedPacket SubnetIpv6CidrMask SubnetIpv6CidrMask)}
    (hipv4 : s.ipv4.Tallied countsAs events) (hipv6 : s.ipv6.Tallied countsAsTotal eventsIpv6)
    (currentInaccurateTime : Int64) (packet : ParsedPacket) :
    (processPacket currentInaccurateTime context s packet).ipv4.Tallied countsAs
        (events ++ (countedIpv4 context packet).toList)
      ∧ (processPacket currentInaccurateTime context s packet).ipv6.Tallied countsAsTotal
        (eventsIpv6 ++ (countedIpv6 context packet).toList) := by
  rw [processPacket]
  by_cases hfour : packet.ipProtocolVersion = 4
  · have hsix : packet.ipProtocolVersion ≠ 6 := by
      rw [hfour]
      decide
    rw [if_pos hfour, countedIpv6_of_ne hsix]
    exact ⟨tallied_processIpv4Packet hipv4 hfour, by simpa using hipv6⟩
  · rw [if_neg hfour, countedIpv4_of_ne hfour]
    by_cases hsix : packet.ipProtocolVersion = 6
    · rw [if_pos hsix]
      exact ⟨by simpa using hipv4, tallied_processIpv6Packet hipv6 hsix⟩
    · rw [if_neg hsix, countedIpv6_of_ne hsix]
      exact ⟨by simpa using hipv4, by simpa using hipv6⟩

/-- After any packets the counters are the tallies of those that were counted. -/
theorem tallied_processPackets (context : TrafficContext)
    (packets : List (Int64 × ParsedPacket)) :
    (processPackets context packets).ipv4.Tallied countsAs (countedPacketsIpv4 context packets)
    ∧ (processPackets context packets).ipv6.Tallied countsAsTotal
        (countedPacketsIpv6 context packets) := by
  induction packets using List.reverseRecOn with
  | nil => exact ⟨FamilyCounters.Tallied.empty, FamilyCounters.Tallied.empty⟩
  | append_singleton packets arrival ih =>
    obtain ⟨time, packet⟩ := arrival
    obtain ⟨hipv4, hipv6⟩ := ih
    have hevents : countedPacketsIpv4 context (packets ++ [(time, packet)])
        = countedPacketsIpv4 context packets ++ (countedIpv4 context packet).toList :=
      filterMap_concat _ packets (time, packet)
    have hevents' : countedPacketsIpv6 context (packets ++ [(time, packet)])
        = countedPacketsIpv6 context packets ++ (countedIpv6 context packet).toList :=
      filterMap_concat _ packets (time, packet)
    rw [processPackets_concat, hevents, hevents']
    exact tallied_processPacket hipv4 hipv6 time packet

/-- The host of a counted packet is in its network. -/
theorem lookupTree_host_of_countedIpv4 {packet : ParsedPacket}
    {event : CountedPacket UInt32 SubnetCidrMask}
    (h : countedIpv4 context packet = some event) :
    context.lookupTreeIpv4 event.host = some event.network := by
  unfold countedIpv4 getPacketDirection directionBetween at h
  cases hsource : context.lookupTreeIpv4 packet.srcIp with
  | none =>
    cases hdestination : context.lookupTreeIpv4 packet.dstIp with
    | none => simp [hsource, hdestination] at h
    | some destinationSubnet =>
      simp only [hsource, hdestination, Option.ite_none_left_eq_some, Option.some.injEq] at h
      rw [← h.2, hdestination]
  | some sourceSubnet =>
    cases hdestination : context.lookupTreeIpv4 packet.dstIp with
    | none =>
      simp only [hsource, hdestination, Option.ite_none_left_eq_some, Option.some.injEq] at h
      rw [← h.2, hsource]
    | some destinationSubnet => simp [hsource, hdestination] at h

/-! ### Conservation -/

/-- The totals of each direction, of the hosts and of the networks agree. -/
def FamilyCounters.TotalsAgree (counters : FamilyCounters κ ν) : Prop :=
  ∀ side unit,
    (counters.totalCounters side.direction).amount unit
        = keySum (fun _ => true) (SubnetCounter.amount .total side unit) counters.hostCounters
    ∧ (counters.totalCounters side.direction).amount unit
        = keySum (fun _ => true) (SubnetCounter.amount .total side unit) counters.networkCounters

/-- The parts of each counter are within their wholes, if what was counted for it fits. -/
def FamilyCounters.PartsWithin (counters : FamilyCounters κ ν)
    (events : List (CountedPacket κ ν)) : Prop :=
  (∀ host side unit, sumFor CountedPacket.host events host side unit < 2 ^ 64
    → (counters.hostCounters.lookup host).PartsWithin side unit)
  ∧ ∀ network side unit, sumFor CountedPacket.network events network side unit < 2 ^ 64
    → (counters.networkCounters.lookup network).PartsWithin side unit

/-- What the counters have in common after some packets. -/
structure TrafficConserved (context : TrafficContext) (packets : List (Int64 × ParsedPacket)) :
    Prop where
  ipv4_totals : (processPackets context packets).ipv4.TotalsAgree
  ipv6_totals : (processPackets context packets).ipv6.TotalsAgree
  ipv4_networks : ∀ network field side unit,
    ((processPackets context packets).ipv4.networkCounters.lookup network).amount field side unit
      = keySum (fun host => context.lookupTreeIpv4 host = some network)
          (SubnetCounter.amount field side unit)
          (processPackets context packets).ipv4.hostCounters
  ipv4_parts : (processPackets context packets).ipv4.PartsWithin
    (countedPacketsIpv4 context packets)
  ipv6_parts : (processPackets context packets).ipv6.PartsWithin
    (countedPacketsIpv6 context packets)

theorem FamilyCounters.Tallied.totalsAgree (h : counters.Tallied networkCounts events)
    (hcounts : PartsCount networkCounts) : counters.TotalsAgree := by
  intro side unit
  rw [h.total_eq, h.hosts.sum_eq, h.networks.sum_eq]
  refine ⟨tally_congr fun event _ => ?_, tally_congr fun event _ => ?_⟩
  · simp [partsCount_countsAs.total]
  · simp [hcounts.total]

theorem FamilyCounters.Tallied.partsWithin (h : counters.Tallied networkCounts events)
    (hcounts : PartsCount networkCounts) : counters.PartsWithin events :=
  ⟨fun _ _ _ hfits => h.hosts.partsWithin partsCount_countsAs hfits,
    fun _ _ _ hfits => h.networks.partsWithin hcounts hfits⟩

theorem trafficConserved (context : TrafficContext) (packets : List (Int64 × ParsedPacket)) :
    TrafficConserved context packets := by
  obtain ⟨hipv4, hipv6⟩ := tallied_processPackets context packets
  refine ⟨hipv4.totalsAgree partsCount_countsAs, hipv6.totalsAgree partsCount_countsAsTotal,
    fun network field side unit => ?_, hipv4.partsWithin partsCount_countsAs,
    hipv6.partsWithin partsCount_countsAsTotal⟩
  rw [hipv4.networks.counter_eq, hipv4.hosts.sum_eq]
  refine tally_congr fun event hevent => ?_
  obtain ⟨arrival, -, harrival⟩ := List.mem_filterMap.mp hevent
  simp [lookupTree_host_of_countedIpv4 harrival]

/-! ### Packets that no host is charged for -/

/-- The direction that a packet is found to have. -/
def packetDirection (context : TrafficContext) (packet : ParsedPacket) : Direction :=
  if packet.ipProtocolVersion = 6 then
    (getPacketDirectionIpv6 context.lookupTreeIpv6 packet.srcIpv6 packet.dstIpv6).1
  else (getPacketDirection context.lookupTreeIpv4 packet.srcIp packet.dstIp).1

/-- Internal, foreign, whitelisted, or of a direction that is switched off. -/
def IsExempt (context : TrafficContext) (packet : ParsedPacket) : Prop :=
  packetDirection context packet = .internal ∨ packetDirection context packet = .other
    ∨ filterPacketByWhitelist context packet = true
    ∨ skipsDirection context (packetDirection context packet) = true

/-- An IPv6 packet of a direction that is counted, though the whitelist matches it. -/
def PassesWhitelist (context : TrafficContext) (packet : ParsedPacket) : Prop :=
  packet.ipProtocolVersion = 6 ∧ filterPacketByWhitelist context packet = true
    ∧ packetDirection context packet ≠ .internal ∧ packetDirection context packet ≠ .other
    ∧ skipsDirection context (packetDirection context packet) = false

/-- No host counter is made or changed. -/
def SameHosts (s s' : TrafficState) : Prop :=
  s'.ipv4.hostCounters = s.ipv4.hostCounters ∧ s'.ipv6.hostCounters = s.ipv6.hostCounters

theorem hostCounters_processIpv4Packet {counters : FamilyCounters UInt32 SubnetCidrMask}
    {packet : ParsedPacket} {direction : Direction} {currentSubnet : SubnetCidrMask}
    (hdirection : getPacketDirection context.lookupTreeIpv4 packet.srcIp packet.dstIp
      = (direction, currentSubnet))
    (h : direction = .internal ∨ direction = .other
      ∨ filterPacketByWhitelist context packet = true ∨ skipsDirection context direction = true) :
    (processIpv4Packet currentInaccurateTime context counters packet).hostCounters
      = counters.hostCounters := by
  unfold processIpv4Packet
  rw [hdirection]
  dsimp only
  split_ifs with hlisted hskips
  · rfl
  · rfl
  · cases direction with
    | internal => rfl
    | other => rfl
    | incoming =>
      rcases h with h | h | h | h
      · cases h
      · cases h
      · exact absurd ⟨.inl rfl, length_pos_of_filterPacketByWhitelist h, h⟩ hlisted
      · exact absurd h hskips
    | outgoing =>
      rcases h with h | h | h | h
      · cases h
      · cases h
      · exact absurd ⟨.inr rfl, length_pos_of_filterPacketByWhitelist h, h⟩ hlisted
      · exact absurd h hskips

theorem hostCounters_processIpv6Packet
    {counters : FamilyCounters SubnetIpv6CidrMask SubnetIpv6CidrMask} {packet : ParsedPacket}
    {direction : Direction} {ipv6CidrSubnet : SubnetIpv6CidrMask}
    (hdirection : getPacketDirectionIpv6 context.lookupTreeIpv6 packet.srcIpv6 packet.dstIpv6
      = (direction, ipv6CidrSubnet))
    (h : direction = .internal ∨ direction = .other ∨ skipsDirection context direction = true) :
    (processIpv6Packet currentInaccurateTime context counters packet).hostCounters
      = counters.hostCounters := by
  unfold processIpv6Packet
  rw [hdirection]
  dsimp only
  split_ifs with hskips
  · rfl
  · rcases h with rfl | rfl | h
    · rfl
    · rfl
    · exact absurd h hskips

/-- A counted IPv6 packet leaves a counter for its host. -/
theorem hostCounters_processIpv6Packet_ne_nil {packet : ParsedPacket} {direction : Direction}
    {ipv6CidrSubnet : SubnetIpv6CidrMask}
    (hdirection : getPacketDirectionIpv6 context.lookupTreeIpv6 packet.srcIpv6 packet.dstIpv6
      = (direction, ipv6CidrSubnet))
    (hinternal : direction ≠ .internal) (hother : direction ≠ .other)
    (hskips : skipsDirection context direction = false) :
    (processIpv6Packet currentInaccurateTime context {} packet).hostCounters ≠ [] := by
  unfold processIpv6Packet
  rw [hdirection]
  dsimp only
  rw [if_neg (by simp [hskips])]
  cases direction with
  | internal => exact absurd rfl hinternal
  | other => exact absurd rfl hother
  | incoming => exact List.cons_ne_nil _ _
  | outgoing => exact List.cons_ne_nil _ _

/-- An exempt packet changes no host counter, unless the whitelist lets it pass. -/
theorem sameHosts_processPacket {packet : ParsedPacket} (hexempt : IsExempt context packet)
    (hpasses : ¬ PassesWhitelist context packet) (s : TrafficState) :
    SameHosts s (processPacket currentInaccurateTime context s packet) := by
  unfold processPacket
  split_ifs with hfour hsix
  · have hversion : ¬ packet.ipProtocolVersion = 6 := by
      rw [hfour]
      decide
    rw [IsExempt, packetDirection, if_neg hversion] at hexempt
    exact ⟨hostCounters_processIpv4Packet Prod.mk.eta.symm hexempt, rfl⟩
  · rw [PassesWhitelist, packetDirection, if_pos hsix] at hpasses
    rw [IsExempt, packetDirection, if_pos hsix] at hexempt
    refine ⟨rfl, hostCounters_processIpv6Packet Prod.mk.eta.symm ?_⟩
    rcases hexempt with h | h | h | h
    · exact .inl h
    · exact .inr (.inl h)
    · by_contra hcounted
      push Not at hcounted
      exact hpasses ⟨hsix, h, hcounted.1, hcounted.2.1, by simpa using hcounted.2.2⟩
    · exact .inr (.inr h)
  · exact ⟨rfl, rfl⟩

/-- **Traffic is conserved**, after any packets and with any whitelist.  The packets that
no host is charged for change no host counter, but for the IPv6 packets that the whitelist
matches: these are counted like the others. -/
theorem traffic_conservation (context : TrafficContext) (packets : List (Int64 × ParsedPacket)) :
    TrafficConserved context packets
    ∧ ∀ packet, IsExempt context packet →
        ((∀ before time, SameHosts (processPackets context before)
            (processPackets context (before ++ [(time, packet)])))
          ↔ ¬ PassesWhitelist context packet) := by
  refine ⟨trafficConserved context packets, fun packet hexempt => ⟨fun hsame hpasses => ?_,
    fun hpasses before time => ?_⟩⟩
  · obtain ⟨hsix, -, hinternal, hother, hskips⟩ := hpasses
    rw [packetDirection, if_pos hsix] at hinternal hother hskips
    have hfour : ¬ packet.ipProtocolVersion = 4 := by
      rw [hsix]
      decide
    have hhosts := (hsame [] 0).2
    rw [processPackets_concat, processPacket, if_neg hfour, if_pos hsix] at hhosts
    exact hostCounters_processIpv6Packet_ne_nil Prod.mk.eta.symm hinternal hother hskips hhosts
  · rw [processPackets_concat]
    exact sameHosts_processPacket hexempt hpasses _

theorem documentationHost_size :
    #[(0x20 : UInt8), 0x01, 0x0d, 0xb8, 0, 0, 0, 0, 0, 0, 0, 0, 0, 0, 0, 1].size = 16 := rfl

/-- The address `2001:db8::1`. -/
def documentationHost : Vector UInt8 16 :=
  ⟨#[0x20, 0x01, 0x0d, 0xb8, 0, 0, 0, 0, 0, 0, 0, 0, 0, 0, 0, 1], documentationHost_size⟩

/-- `2001:db8::/32` is ours and so is `192.0.2.0/24`; all traffic to `2001:db8::1` is
whitelisted, and so is all TCP traffic. -/
def documentationContext : TrafficContext where
  lookupTreeIpv4 ip := if ip &&& 0xffffff = 0x0200c0 then some ⟨0x0200c0, 24⟩ else none
  lookupTreeIpv6 address :=
    if address.toList.take 4 = [0x20, 0x01, 0x0d, 0xb8] then
      some ⟨#v[0x20, 0x01, 0x0d, 0xb8, 0, 0, 0, 0, 0, 0, 0, 0, 0, 0, 0, 0], 32⟩
    else none
  lookupTree32bit network ip :=
    -- the leading bits, with the first byte of an address as its lowest
    (List.range network.cidrPrefixLength.toNat).all fun i =>
      network.subnetAddress.toNat.testBit (8 * (i / 8) + 7 - i % 8)
        = ip.toNat.testBit (8 * (i / 8) + 7 - i % 8)
  staticFlowspecBasedWhitelist := [
    { destinationSubnetIpv6 := ⟨documentationHost, 128⟩
      destinationSubnetIpv6Used := true },
    { protocols := [IpProtocol.TCP] }]
  processIncomingTraffic := true
  processOutgoingTraffic := true

/-- UDP to `192.0.2.1`. -/
def freeUdpPacket : ParsedPacket :=
  { dstIp := 0x010200c0, protocol := 17, length := 100 }

/-- TCP to `192.0.2.1`. -/
def listedTcpPacket : ParsedPacket :=
  { dstIp := 0x010200c0, protocol := 6, length := 100 }

/-- UDP to `2001:db8::1`. -/
def listedIpv6Packet : ParsedPacket :=
  { ipProtocolVersion := 6
    dstIpv6 := documentationHost
    protocol := 17, length := 100 }

theorem documentationTraffic_conserved :
    ((processPackets documentationContext [(0, freeUdpPacket)]).ipv4.hostCounters.lookup
        0x010200c0).PartsWithin .incoming .bytes
    ∧ SameHosts (processPackets documentationContext [(0, freeUdpPacket)])
        (processPackets documentationContext ([(0, freeUdpPacket)] ++ [(1, listedTcpPacket)])) := by
  have h := traffic_conservation documentationContext [(0, freeUdpPacket)]
  have hexempt : IsExempt documentationContext listedTcpPacket := .inr (.inr (.inl (by decide)))
  refine ⟨h.1.ipv4_parts.1 _ _ _ (by decide), (h.2 listedTcpPacket hexempt).mpr ?_ _ _⟩
  exact fun hpasses => absurd hpasses.1 (by decide)

/-- A whitelisted IPv6 packet makes a counter for its host. -/
theorem whitelistedIpv6_counted :
    IsExempt documentationContext listedIpv6Packet
    ∧ ¬ SameHosts (processPackets documentationContext [])
        (processPackets documentationContext ([] ++ [(0, listedIpv6Packet)])) := by
  refine ⟨.inr (.inr (.inl (by decide))), fun hsame => ?_⟩
  exact absurd hsame.2 (by decide)

end FastNetMon
