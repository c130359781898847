/-
FastNetMon/TrafficSections.lean

The traffic counters as parts with a lock each.

The counters of a version of the protocol are the map of its networks and the map of its
hosts, each under a mutex, and its totals, which are atomic numbers of one direction and one
unit each (`CounterPart`).  What `process_packet` and `recalculate_speed` do to a part depends
on this part only (`SameAt.processIpv4Packet` and its siblings), so that each part can have a
history of its own (`TalliedBy`).  Main result: the totals agree with the hosts and with the
networks as far as their histories are about the same packets (`TalliedBy.agreeWhereSame`).
-/
import FastNetMon.TrafficConservation

namespace FastNetMon

open CounterMap

/-! ### Parts -/

/-- The parts of the counters of one version of the protocol. -/
inductive CounterPart
  | networks
  | hosts
  | total (direction : Direction) (unit : TrafficUnit)
deriving DecidableEq

/-- An element with one of its numbers set. -/
def SingleCounterElement.setAmount (element : SingleCounterElement) (amount : UInt64) :
    TrafficUnit → SingleCounterElement
  | .packets => { element with packets := amount }
  | .bytes => { element with bytes := amount }

@[simp] theorem SingleCounterElement.amount_setAmount (element : SingleCounterElement)
    (amount : UInt64) (unit unit' : TrafficUnit) :
    (element.setAmount amount unit).amount unit'
      = if unit' = unit then amount else element.amount unit' := by
  cases unit <;> cases unit' <;> rfl

/-- A counter is known from its two amounts. -/
theorem SingleCounterElement.ext_amount {element element' : SingleCounterElement}
    (h : ∀ unit, element.amount unit = element'.amount unit) : element = element' := by
  obtain ⟨bytes, packets⟩ := element
  obtain rfl : bytes = _ := h .bytes
  obtain rfl : packets = _ := h .packets
  rfl

/-- `zeroify` of `subnet_counter_t`; the time stays. -/
def SubnetCounter.zeroify (counter : SubnetCounter) : SubnetCounter :=
  { lastUpdateTime := counter.lastUpdateTime }

namespace FamilyCounters

variable {κ ν : Type} {counters counters' : FamilyCounters κ ν} {part other : CounterPart}
  {context : TrafficContext} {currentInaccurateTime : Int64}

/-- What `recalculate_speed` does to the counters of one version of the protocol. -/
def zeroify (counters : FamilyCounters κ ν) : FamilyCounters κ ν where
  totalCounters := fun _ => {}
  hostCounters := counters.hostCounters.changeAll SubnetCounter.zeroify
  networkCounters := counters.networkCounters.changeAll SubnetCounter.zeroify

/-- The counters agree at a part. -/
def SameAt (counters counters' : FamilyCounters κ ν) : CounterPart → Prop
  | .networks => counters.networkCounters = counters'.networkCounters
  | .hosts => counters.hostCounters = counters'.hostCounters
  | .total direction unit =>
      (counters.totalCounters direction).amount unit
        = (counters'.totalCounters direction).amount unit

/-- The counters with one part of others. -/
def put (counters counters' : FamilyCounters κ ν) : CounterPart → FamilyCounters κ ν
  | .networks => { counters with networkCounters := counters'.networkCounters }
  | .hosts => { counters with hostCounters := counters'.hostCounters }
  | .total direction unit =>
      { counters with
        totalCounters := Function.update counters.totalCounters direction
          ((counters.totalCounters direction).setAmount
            ((counters'.totalCounters direction).amount unit) unit) }

/-- To agree at one part is an equivalence. -/
theorem SameAt.equivalence (part : CounterPart) :
    Equivalence fun counters counters' : FamilyCounters κ ν => counters.SameAt counters' part := by
  cases part with
  | networks => exact ⟨fun _ => rfl, Eq.symm, Eq.trans⟩
  | hosts => exact ⟨fun _ => rfl, Eq.symm, Eq.trans⟩
  | total direction unit => exact ⟨fun _ => rfl, Eq.symm, Eq.trans⟩

theorem SameAt.refl (counters : FamilyCounters κ ν) (part : CounterPart) :
    counters.SameAt counters part :=
  (SameAt.equivalence part).refl counters

/-- Counters that agree at every part are the same. -/
theorem eq_of_sameAt (h : ∀ part, counters.SameAt counters' part) : counters = counters' := by
  obtain ⟨totals, hosts, networks⟩ := counters
  obtain rfl : networks = _ := h .networks
  obtain rfl : hosts = _ := h .hosts
  obtain rfl : totals = _ := funext fun direction =>
    SingleCounterElement.ext_amount fun unit => h (.total direction unit)
  rfl

/-- Written back, a part is what it was written from. -/
theorem sameAt_put (counters counters' : FamilyCounters κ ν) (part : CounterPart) :
    (counters.put counters' part).SameAt counters' part := by
  cases part with
  | networks => rfl
  | hosts => rfl
  | total direction unit => simp [SameAt, put]

/-- Writing one part back leaves the other ones alone. -/
theorem sameAt_put_of_ne (counters counters' : FamilyCounters κ ν) (h : other ≠ part) :
    (counters.put counters' part).SameAt counters other := by
  cases part with
  | networks => cases other <;> first | exact absurd rfl h | rfl
  | hosts => cases other <;> first | exact absurd rfl h | rfl
  | total direction unit =>
      cases other with
      | networks => rfl
      | hosts => rfl
      | total direction' unit' =>
          rw [SameAt, put]
          dsimp only
          by_cases hdirection : direction' = direction
          · have hunit : unit' ≠ unit := fun hunit => h (by rw [hdirection, hunit])
            rw [hdirection, Function.update_self, SingleCounterElement.amount_setAmount,
              if_neg hunit]
          · rw [Function.update_of_ne hdirection]

/-! ### What happens to a part depends on this part -/

/-- Setting the totals to zero looks at each part for itself. -/
theorem SameAt.zeroify (h : counters.SameAt counters' part) :
    counters.zeroify.SameAt counters'.zeroify part := by
  cases part with
  | networks => exact congrArg (CounterMap.changeAll SubnetCounter.zeroify) h
  | hosts => exact congrArg (CounterMap.changeAll SubnetCounter.zeroify) h
  | total direction unit => rfl

/-- Counting in the total looks at each part for itself. -/
theorem SameAt.addTotal (h : counters.SameAt counters' part) (packetDirection : Direction)
    (packet : ParsedPacket) :
    (counters.addTotal packetDirection packet).SameAt (counters'.addTotal packetDirection packet)
      part := by
  cases part with
  | networks => exact h
  | hosts => exact h
  | total direction unit =>
      rw [SameAt] at h ⊢
      rw [amount_addTotal, amount_addTotal, h]

/-- Counting for a host looks at each part for itself. -/
theorem SameAt.addToHost [DecidableEq κ] (h : counters.SameAt counters' part)
    (packetDirection : Direction) (source destination : κ) (packet : ParsedPacket) :
    (counters.addToHost currentInaccurateTime packetDirection source destination packet).SameAt
      (counters'.addToHost currentInaccurateTime packetDirection source destination packet) part := by
  cases packetDirection with
  | incoming =>
      cases part with
      | hosts => exact congrArg (modifyAt · destination _) h
      | _ => exact h
  | outgoing =>
      cases part with
      | hosts => exact congrArg (modifyAt · source _) h
      | _ => exact h
  | internal => exact h
  | other => exact h

/-- Counting for an IPv4 network looks at each part for itself. -/
theorem SameAt.addToNetworkIpv4 {counters counters' : FamilyCounters UInt32 SubnetCidrMask}
    (h : counters.SameAt counters' part) (packetDirection : Direction) (subnet : SubnetCidrMask)
    (packet : ParsedPacket) :
    (addToNetworkIpv4 currentInaccurateTime counters packetDirection subnet packet).SameAt
      (addToNetworkIpv4 currentInaccurateTime counters' packetDirection subnet packet) part := by
  cases packetDirection with
  | incoming =>
      cases part with
      | networks => exact congrArg (modifyAt · subnet _) h
      | _ => exact h
  | outgoing =>
      cases part with
      | networks => exact congrArg (modifyAt · subnet _) h
      | _ => exact h
  | internal => exact h
  | other => exact h

/-- Counting for an IPv6 network looks at each part for itself. -/
theorem SameAt.addToNetworkIpv6
    {counters counters' : FamilyCounters SubnetIpv6CidrMask SubnetIpv6CidrMask}
    (h : counters.SameAt counters' part) (packetDirection : Direction)
    (subnet : SubnetIpv6CidrMask) (packet : ParsedPacket) :
    (addToNetworkIpv6 counters packetDirection subnet packet).SameAt
      (addToNetworkIpv6 counters' packetDirection subnet packet) part := by
  cases part with
  | networks => exact congrArg (modifyAt · subnet _) h
  | _ => exact h

/-- So does an IPv4 packet as a whole. -/
theorem SameAt.processIpv4Packet {counters counters' : FamilyCounters UInt32 SubnetCidrMask}
    (h : counters.SameAt counters' part) (packet : ParsedPacket) :
    (processIpv4Packet currentInaccurateTime context counters packet).SameAt
      (processIpv4Packet currentInaccurateTime context counters' packet) part := by
  unfold FastNetMon.processIpv4Packet
  obtain ⟨packetDirection, subnet⟩ :=
    getPacketDirection context.lookupTreeIpv4 packet.srcIp packet.dstIp
  dsimp only
  split_ifs
  · exact h
  · exact h
  · exact ((h.addToNetworkIpv4 packetDirection subnet packet).addTotal packetDirection
      packet).addToHost packetDirection packet.srcIp packet.dstIp packet

/-- So does an IPv6 packet as a whole. -/
theorem SameAt.processIpv6Packet
    {counters counters' : FamilyCounters SubnetIpv6CidrMask SubnetIpv6CidrMask}
    (h : counters.SameAt counters' part) (packet : ParsedPacket) :
    (processIpv6Packet currentInaccurateTime context counters packet).SameAt
      (processIpv6Packet currentInaccurateTime context counters' packet) part := by
  unfold FastNetMon.processIpv6Packet
  obtain ⟨packetDirection, subnet⟩ :=
    getPacketDirectionIpv6 context.lookupTreeIpv6 packet.srcIpv6 packet.dstIpv6
  dsimp only
  split_ifs
  · exact h
  · exact ((h.addTotal packetDirection packet).addToNetworkIpv6 packetDirection subnet
      packet).addToHost packetDirection _ _ packet

/-! ### The parts of a packet -/

/-- The parts that a packet of a direction is counted in, in the order of `process_packet`. -/
def partsOfPacketIpv4 (direction : Direction) : List CounterPart :=
  [.networks, .total direction .packets, .total direction .bytes, .hosts]

/-- The same in the order of `process_ipv6_packet`. -/
def partsOfPacketIpv6 (direction : Direction) : List CounterPart :=
  [.total direction .packets, .total direction .bytes, .networks, .hosts]

/-- The two families take the same locks, in another order. -/
theorem perm_partsOfPacket (direction : Direction) :
    (partsOfPacketIpv6 direction).Perm (partsOfPacketIpv4 direction) := by
  cases direction <;> decide

/-- A part that a packet is not counted in is a total of another direction. -/
theorem sameAt_of_addTotal {direction : Direction} (packet : ParsedPacket)
    (h : part ∉ partsOfPacketIpv4 direction)
    (htotal : counters'.totalCounters = (counters.addTotal direction packet).totalCounters) :
    counters.SameAt counters' part := by
  cases part with
  | networks => exact absurd List.mem_cons_self h
  | hosts => exact absurd (by simp [partsOfPacketIpv4]) h
  | total direction' unit =>
      have hdirection : direction' ≠ direction := by
        rintro rfl
        cases unit <;> simp [partsOfPacketIpv4] at h
      rw [SameAt, htotal, amount_addTotal, if_neg hdirection, add_zero]

/-- An IPv4 packet leaves the parts alone for which no lock is taken. -/
theorem sameAt_processIpv4Packet (counters : FamilyCounters UInt32 SubnetCidrMask)
    (packet : ParsedPacket)
    (h : part ∉ partsOfPacketIpv4
      (getPacketDirection context.lookupTreeIpv4 packet.srcIp packet.dstIp).1) :
    counters.SameAt (processIpv4Packet currentInaccurateTime context counters packet) part := by
  unfold FastNetMon.processIpv4Packet
  generalize getPacketDirection context.lookupTreeIpv4 packet.srcIp packet.dstIp = answer at h ⊢
  obtain ⟨packetDirection, subnet⟩ := answer
  dsimp only at h ⊢
  split_ifs
  · exact .refl counters part
  · exact .refl counters part
  · exact sameAt_of_addTotal packet h (by cases packetDirection <;> rfl)

/-- An IPv6 packet leaves the parts alone for which no lock is taken. -/
theorem sameAt_processIpv6Packet
    (counters : FamilyCounters SubnetIpv6CidrMask SubnetIpv6CidrMask) (packet : ParsedPacket)
    (h : part ∉ partsOfPacketIpv4
      (getPacketDirectionIpv6 context.lookupTreeIpv6 packet.srcIpv6 packet.dstIpv6).1) :
    counters.SameAt (processIpv6Packet currentInaccurateTime context counters packet) part := by
  unfold FastNetMon.processIpv6Packet
  generalize getPacketDirectionIpv6 context.lookupTreeIpv6 packet.srcIpv6 packet.dstIpv6 = answer
    at h ⊢
  obtain ⟨packetDirection, subnet⟩ := answer
  dsimp only at h ⊢
  split_ifs
  · exact .refl counters part
  · exact sameAt_of_addTotal packet h (by cases packetDirection <;> rfl)

/-! ### Histories -/

variable [DecidableEq κ] [DecidableEq ν] {networkCounts : CounterField → ParsedPacket → Bool}
  {events : CounterPart → List (CountedPacket κ ν)}

/-- Each part is the tally of packets of its own. -/
structure TalliedBy (networkCounts : CounterField → ParsedPacket → Bool)
    (counters : FamilyCounters κ ν) (events : CounterPart → List (CountedPacket κ ν)) : Prop where
  total_eq : ∀ side unit, (counters.totalCounters side.direction).amount unit
    = tally (fun event => event.side = side) (CountedPacket.amount unit)
        (events (.total side.direction unit))
  hosts : CountersTallied CountedPacket.host countsAs counters.hostCounters (events .hosts)
  networks : CountersTallied CountedPacket.network networkCounts counters.networkCounters
    (events .networks)

/-- Each part is what it is in counters that tally its packets. -/
theorem TalliedBy.of_sameAt {countersAt : CounterPart → FamilyCounters κ ν}
    (hsame : ∀ part, counters.SameAt (countersAt part) part)
    (htallied : ∀ part, (countersAt part).Tallied networkCounts (events part)) :
    counters.TalliedBy networkCounts events where
  total_eq side unit := by
    have htotal : (counters.totalCounters side.direction).amount unit = _ :=
      hsame (.total side.direction unit)
    rw [htotal]
    exact (htallied _).total_eq side unit
  hosts := by
    have hhosts : counters.hostCounters = _ := hsame .hosts
    rw [hhosts]
    exact (htallied .hosts).hosts
  networks := by
    have hnetworks : counters.networkCounters = _ := hsame .networks
    rw [hnetworks]
    exact (htallied .networks).networks

/-- The packets of one side of the traffic are the same, in any order. -/
def SamePackets (side : TrafficSide) (events events' : List (CountedPacket κ ν)) : Prop :=
  (events.filter (·.side = side)).Perm (events'.filter (·.side = side))

/-- The totals agree with the hosts and with the networks as far as their histories are about
the same packets. -/
def AgreeWhereSame (counters : FamilyCounters κ ν)
    (events : CounterPart → List (CountedPacket κ ν)) : Prop :=
  ∀ side unit,
    (SamePackets side (events (.total side.direction unit)) (events .hosts) →
      (counters.totalCounters side.direction).amount unit
        = keySum (fun _ => true) (SubnetCounter.amount .total side unit) counters.hostCounters) ∧
    (SamePackets side (events (.total side.direction unit)) (events .networks) →
      (counters.totalCounters side.direction).amount unit
        = keySum (fun _ => true) (SubnetCounter.amount .total side unit) counters.networkCounters)

omit [DecidableEq κ] [DecidableEq ν] in
/-- The same packets give the same tally, in whatever order they come. -/
theorem SamePackets.tally_eq {side : TrafficSide} {events events' : List (CountedPacket κ ν)}
    (h : SamePackets side events events') (unit : TrafficUnit) :
    tally (fun event => event.side = side) (CountedPacket.amount unit) events
      = tally (fun event => event.side = side) (CountedPacket.amount unit) events' := by
  have hfilter : ∀ events : List (CountedPacket κ ν),
      tally (fun event => event.side = side) (CountedPacket.amount unit) events
        = tally (fun _ => true) (CountedPacket.amount unit) (events.filter (·.side = side)) := by
    intro events
    rw [tally_filter]
    simp only [Bool.and_true]
  rw [hfilter, hfilter]
  exact tally_perm h

/-- Counters that are tallies agree wherever they are about the same packets. -/
theorem TalliedBy.agreeWhereSame (h : counters.TalliedBy networkCounts events)
    (hcounts : PartsCount networkCounts) : counters.AgreeWhereSame events := by
  intro side unit
  rw [h.total_eq, h.hosts.sum_eq, h.networks.sum_eq]
  refine ⟨fun hsame => (hsame.tally_eq unit).trans (tally_congr fun event _ => ?_),
    fun hsame => (hsame.tally_eq unit).trans (tally_congr fun event _ => ?_)⟩
  · simp [partsCount_countsAs.total]
  · simp [hcounts.total]

end FamilyCounters

end FastNetMon
