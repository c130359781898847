/-
FastNetMon/AttackInformation.lean

Direction, power and protocol of an attack (`fill_attack_information`).

The speeds of a host are 64-bit numbers.  The difference of its incoming and outgoing packets
is taken in `int`, where overflow wraps around, and the largest of the packet counters of TCP,
UDP and ICMP goes through an `unsigned int` before it is compared with the counters.  Main
result: the speeds for which direction and protocol are right in spite of that
(`fillAttackInformation_right_iff`).
-/
import FastNetMon.TrafficCounters

namespace FastNetMon

/-- `IPPROTO_ICMP`, as the `uint32_t` it is compared with. -/
def IPPROTO_ICMP : UInt32 := 1
/-- `IPPROTO_TCP`. -/
def IPPROTO_TCP : UInt32 := 6
/-- `IPPROTO_UDP`. -/
def IPPROTO_UDP : UInt32 := 17

/-! ### The code -/

/-- `attack_details_t`, the fields that `fill_attack_information` reads or sets. -/
structure AttackInformation extends AttackDetails where
  hostGroup : List Char := []
  parentHostGroup : List Char := []
  attackPower : UInt64 := 0
  maxAttackPower : UInt64 := 0
  trafficCounters : SubnetCounter := {}

/-- `my_max_on_defines`. -/
def myMaxOnDefines (a b : UInt64) : UInt64 := if a > b then a else b

/-- `get_max_used_protocol`; the maximum is kept in 32 bits. -/
def getMaxUsedProtocol (tcp udp icmp : UInt64) : UInt32 :=
  let max : UInt32 := (myMaxOnDefines (myMaxOnDefines udp tcp) icmp).toUInt32
  if max.toUInt64 = tcp then IPPROTO_TCP
  else if max.toUInt64 = udp then IPPROTO_UDP
  else if max.toUInt64 = icmp then IPPROTO_ICMP
  else 0

/-- `detect_attack_protocol`. -/
def detectAttackProtocol (speedElement : SubnetCounter) (attackDirection : Direction) : UInt32 :=
  if attackDirection = .incoming then
    getMaxUsedProtocol speedElement.tcp.inPackets speedElement.udp.inPackets
      speedElement.icmp.inPackets
  else
    getMaxUsedProtocol speedElement.tcp.outPackets speedElement.udp.outPackets
      speedElement.icmp.outPackets

/-- The heuristic for the direction, and the packet rate of that direction. -/
def detectAttackDirection (total : TrafficCounterElement) : Direction × UInt64 :=
  let inPps : Int32 := total.inPackets.toUInt32.toInt32
  let outPps : Int32 := total.outPackets.toUInt32.toInt32
  if (inPps - outPps).abs < 1000 then
    -- the rates of packets are close, so the bandwidth decides
    if total.inBytes > total.outBytes then (.incoming, total.inPackets)
    else (.outgoing, total.outPackets)
  else if total.inPackets > total.outPackets then (.incoming, total.inPackets)
  else (.outgoing, total.outPackets)

/-- `fill_attack_information`, at the time `now`. -/
def fillAttackInformation (currentAttack : AttackInformation)
    (hostGroupName parentHostGroupName : List Char) (unbanEnabled : Bool) (banTime : Int32)
    (now : Int) : AttackInformation :=
  let (dataDirection, pps) := detectAttackDirection currentAttack.trafficCounters.total
  { currentAttack with
    attackProtocol := detectAttackProtocol currentAttack.trafficCounters dataDirection
    hostGroup := hostGroupName
    parentHostGroup := parentHostGroupName
    banTimestamp := now
    banTime := banTime.toInt
    unbanEnabled := unbanEnabled
    attackDirection := dataDirection
    attackPower := pps
    maxAttackPower := pps }

/-! ### What it is for -/

/-- A direction of traffic as seen from the host. -/
inductive TrafficFlow
  | incoming
  | outgoing
deriving DecidableEq

namespace TrafficFlow

/-- The `direction_t` of a flow. -/
def direction : TrafficFlow → Direction
  | incoming => .incoming
  | outgoing => .outgoing

/-- The packet counter of a direction. -/
def packets (element : TrafficCounterElement) : TrafficFlow → UInt64
  | incoming => element.inPackets
  | outgoing => element.outPackets

/-- The direction of the larger rate. -/
def ofRates (incomingRate outgoingRate : ℕ) : TrafficFlow :=
  if incomingRate > outgoingRate then .incoming else .outgoing

theorem ofRates_eq_iff {a b a' b' : ℕ} : ofRates a b = ofRates a' b' ↔ (a > b ↔ a' > b') := by
  unfold ofRates
  by_cases h : a > b <;> by_cases h' : a' > b' <;> simp [h, h']

end TrafficFlow

/-- The protocols that an attack can have. -/
inductive AttackProtocol
  | tcp
  | udp
  | icmp
deriving DecidableEq

namespace AttackProtocol

/-- The protocol number that `attack_protocol` gets. -/
def number : AttackProtocol → UInt32
  | tcp => IPPROTO_TCP
  | udp => IPPROTO_UDP
  | icmp => IPPROTO_ICMP

/-- The counters of a protocol. -/
def counter (counters : SubnetCounter) : AttackProtocol → TrafficCounterElement
  | tcp => counters.tcp
  | udp => counters.udp
  | icmp => counters.icmp

end AttackProtocol

/-- The direction of the larger packet rate, over the integers; rates that are less than
1000 apart are decided by the bandwidth. -/
def dominantFlow (total : TrafficCounterElement) : TrafficFlow :=
  if |(total.inPackets.toNat : ℤ) - total.outPackets.toNat| < 1000 then
    .ofRates total.inBytes.toNat total.outBytes.toNat
  else .ofRates total.inPackets.toNat total.outPackets.toNat

/-- Direction, power and protocol of the attack are those of its traffic counters. -/
structure AttackInformation.RightlyFilled (attack : AttackInformation) : Prop where
  direction : attack.attackDirection = (dominantFlow attack.trafficCounters.total).direction
  power : attack.attackPower
    = (dominantFlow attack.trafficCounters.total).packets attack.trafficCounters.total
  protocol : ∃ protocol : AttackProtocol, attack.attackProtocol = protocol.number ∧
    ∀ other : AttackProtocol,
      (dominantFlow attack.trafficCounters.total).packets (other.counter attack.trafficCounters)
        ≤ (dominantFlow attack.trafficCounters.total).packets
          (protocol.counter attack.trafficCounters)

/-- Rates whose difference is large, but is taken for a small one after wrapping around. -/
def WrapsToSmall (total : TrafficCounterElement) : Prop :=
  1000 ≤ |(total.inPackets.toNat : ℤ) - total.outPackets.toNat| ∧
    ((total.inPackets.toNat - total.outPackets.toNat : ℤ) % 2 ^ 32 < 1000 ∨
      2 ^ 32 - 1000 < (total.inPackets.toNat - total.outPackets.toNat : ℤ) % 2 ^ 32 ∨
      (total.inPackets.toNat - total.outPackets.toNat : ℤ) % 2 ^ 32 = 2 ^ 31)

/-! ### The protocol -/

theorem toNat_myMaxOnDefines (a b : UInt64) :
    (myMaxOnDefines a b).toNat = max a.toNat b.toNat := by
  unfold myMaxOnDefines
  split <;> rename_i h <;> rw [gt_iff_lt, UInt64.lt_iff_toNat_lt] at h <;> omega

variable (count : AttackProtocol → UInt64)

/-- The largest of three counters. -/
def largestCount : ℕ := max (max (count .udp).toNat (count .tcp).toNat) (count .icmp).toNat

theorem le_largestCount (protocol : AttackProtocol) :
    (count protocol).toNat ≤ largestCount count := by
  rw [largestCount]
  cases protocol <;> omega

/-- The maximum as the code keeps it. -/
theorem toNat_max32 :
    (myMaxOnDefines (myMaxOnDefines (count .udp) (count .tcp))
      (count .icmp)).toUInt32.toUInt64.toNat = largestCount count % 2 ^ 32 := by
  rw [UInt32.toNat_toUInt64, UInt64.toNat_toUInt32, toNat_myMaxOnDefines, toNat_myMaxOnDefines,
    largestCount]

/-- The protocol that is found has the maximum as its counter. -/
theorem getMaxUsedProtocol_eq_number {protocol : AttackProtocol}
    (h : getMaxUsedProtocol (count .tcp) (count .udp) (count .icmp) = protocol.number) :
    (count protocol).toNat = largestCount count % 2 ^ 32 := by
  rw [← toNat_max32]
  simp only [getMaxUsedProtocol] at h
  split at h
  · rename_i htcp
    cases protocol with
    | tcp => rw [htcp]
    | udp | icmp => exact absurd h (by decide)
  · split at h
    · rename_i hudp
      cases protocol with
      | udp => rw [hudp]
      | tcp | icmp => exact absurd h (by decide)
    · split at h
      · rename_i hicmp
        cases protocol with
        | icmp => rw [hicmp]
        | tcp | udp => exact absurd h (by decide)
      · cases protocol <;> exact absurd h (by decide)

/-- Without truncation a protocol is found. -/
theorem exists_getMaxUsedProtocol (h : largestCount count < 2 ^ 32) :
    ∃ protocol : AttackProtocol,
      getMaxUsedProtocol (count .tcp) (count .udp) (count .icmp) = protocol.number := by
  have hmax := toNat_max32 count
  rw [Nat.mod_eq_of_lt h] at hmax
  simp only [getMaxUsedProtocol]
  split
  · exact ⟨.tcp, rfl⟩
  · rename_i htcp
    split
    · exact ⟨.udp, rfl⟩
    · rename_i hudp
      rw [if_pos]
      · exact ⟨.icmp, rfl⟩
      · rw [← UInt64.toNat_inj, hmax] at htcp hudp ⊢
        rw [largestCount] at htcp hudp ⊢
        omega

/-- The protocol is right exactly if no counter needs more than 32 bits. -/
theorem getMaxUsedProtocol_right_iff :
    (∃ protocol : AttackProtocol,
        getMaxUsedProtocol (count .tcp) (count .udp) (count .icmp) = protocol.number ∧
        ∀ other, count other ≤ count protocol) ↔
      ∀ protocol, (count protocol).toNat < 2 ^ 32 := by
  constructor
  · rintro ⟨protocol, hfound, hmaximal⟩ other
    have htruncated := getMaxUsedProtocol_eq_number count hfound
    have hle := UInt64.le_iff_toNat_le.mp (hmaximal other)
    exact hle.trans_lt (htruncated ▸ Nat.mod_lt _ (by decide))
  · intro hsmall
    have hlargest : largestCount count < 2 ^ 32 :=
      max_lt (max_lt (hsmall .udp) (hsmall .tcp)) (hsmall .icmp)
    obtain ⟨protocol, hfound⟩ := exists_getMaxUsedProtocol count hlargest
    refine ⟨protocol, hfound, fun other => UInt64.le_iff_toNat_le.mpr ?_⟩
    rw [getMaxUsedProtocol_eq_number count hfound, Nat.mod_eq_of_lt hlargest]
    exact le_largestCount count other

/-! ### The direction -/

theorem toInt_truncated (w : UInt64) : w.toUInt32.toInt32.toInt = (w.toNat : ℤ).bmod (2 ^ 32) := by
  show BitVec.toInt _ = _
  rw [BitVec.toInt_eq_toNat_bmod]
  show (w.toUInt32.toNat : ℤ).bmod (2 ^ 32) = _
  rw [UInt64.toNat_toUInt32, Int.natCast_mod]
  exact Int.emod_bmod _ _

/-- The absolute value of `-2^31` is that number itself. -/
theorem abs_lt_thousand_iff (x : Int32) :
    x.abs < 1000 ↔ |x.toInt| < 1000 ∨ x.toInt = -2 ^ 31 := by
  rw [Int32.lt_iff_toInt_lt, ← Int32.toInt_toBitVec]
  show BitVec.toInt (BitVec.abs x.toBitVec) < 1000 ↔ _
  rw [BitVec.toInt_abs_eq_natAbs, ← Int32.toInt_toBitVec, Int.natCast_natAbs]
  have hmin : (BitVec.intMin 32).toInt = -2 ^ 31 := by decide
  by_cases hx : x.toBitVec = BitVec.intMin 32
  · rw [if_pos hx, hx, hmin]
    decide
  · have hne : x.toBitVec.toInt ≠ -2 ^ 31 := fun h => hx (BitVec.eq_of_toInt_eq (h.trans hmin.symm))
    rw [if_neg hx, or_iff_left hne]

/-- The test of the code on the difference of the packet rates. -/
theorem abs_sub_lt_iff (inPackets outPackets : UInt64) :
    (inPackets.toUInt32.toInt32 - outPackets.toUInt32.toInt32).abs < 1000 ↔
      (inPackets.toNat - outPackets.toNat : ℤ) % 2 ^ 32 < 1000 ∨
      2 ^ 32 - 1000 < (inPackets.toNat - outPackets.toNat : ℤ) % 2 ^ 32 ∨
      (inPackets.toNat - outPackets.toNat : ℤ) % 2 ^ 32 = 2 ^ 31 := by
  rw [abs_lt_thousand_iff, Int32.toInt_sub, toInt_truncated, toInt_truncated,
    Int.bmod_sub_bmod, Int.sub_bmod_bmod, Int.bmod_def, abs_lt]
  omega

/-- A choice of the code between the directions is one by rates. -/
theorem ite_eq_ofRates (total : TrafficCounterElement) (a b : UInt64) :
    (if a > b then (Direction.incoming, total.inPackets)
      else (Direction.outgoing, total.outPackets))
      = ((TrafficFlow.ofRates a.toNat b.toNat).direction,
        (TrafficFlow.ofRates a.toNat b.toNat).packets total) := by
  unfold TrafficFlow.ofRates
  by_cases h : a > b
  · rw [if_pos h, if_pos (UInt64.lt_iff_toNat_lt.mp h)]
    rfl
  · rw [if_neg h, if_neg (mt UInt64.lt_iff_toNat_lt.mpr h)]
    rfl

/-- The direction that the code finds. -/
theorem detectAttackDirection_eq (total : TrafficCounterElement) :
    ∃ flow : TrafficFlow, detectAttackDirection total = (flow.direction, flow.packets total) ∧
      (flow = dominantFlow total ↔
        (WrapsToSmall total →
          (total.inBytes.toNat > total.outBytes.toNat ↔
            total.inPackets.toNat > total.outPackets.toNat))) := by
  have htest := abs_sub_lt_iff total.inPackets total.outPackets
  rw [WrapsToSmall, ← htest]
  unfold detectAttackDirection dominantFlow
  by_cases hwrapped :
      (total.inPackets.toUInt32.toInt32 - total.outPackets.toUInt32.toInt32).abs < 1000
  · refine ⟨.ofRates total.inBytes.toNat total.outBytes.toNat, ?_, ?_⟩
    · show (if _ then _ else _) = _
      rw [if_pos hwrapped, ite_eq_ofRates]
    · by_cases hclose : |(total.inPackets.toNat : ℤ) - total.outPackets.toNat| < 1000
      · rw [if_pos hclose]
        exact iff_of_true rfl fun hwraps => absurd hclose (not_lt.mpr hwraps.1)
      · rw [if_neg hclose, TrafficFlow.ofRates_eq_iff]
        exact ⟨fun h _ => h, fun h => h ⟨not_lt.mp hclose, hwrapped⟩⟩
  · refine ⟨.ofRates total.inPackets.toNat total.outPackets.toNat, ?_, ?_⟩
    · show (if _ then _ else _) = _
      rw [if_neg hwrapped, ite_eq_ofRates]
    · -- a small difference of the integers stays small
      have hfar : ¬ |(total.inPackets.toNat : ℤ) - total.outPackets.toNat| < 1000 := by
        rw [abs_lt]
        rw [htest] at hwrapped
        omega
      rw [if_neg hfar]
      exact iff_of_true rfl fun hwraps => absurd hwraps.2 hwrapped

theorem TrafficFlow.direction_injective {flow flow' : TrafficFlow}
    (h : flow.direction = flow'.direction) : flow = flow' := by
  cases flow <;> cases flow' <;> first | rfl | exact absurd h (by decide)

/-- The protocol is taken from the counters of the direction. -/
theorem detectAttackProtocol_direction (counters : SubnetCounter) (flow : TrafficFlow) :
    detectAttackProtocol counters flow.direction
      = getMaxUsedProtocol (flow.packets counters.tcp) (flow.packets counters.udp)
        (flow.packets counters.icmp) := by
  cases flow <;> rfl

/-! ### Main result -/

variable (currentAttack : AttackInformation) (hostGroupName parentHostGroupName : List Char)
  (unbanEnabled : Bool) (banTime : Int32) (now : Int)

/-- **When direction and protocol are right.**  The direction of an attack is right exactly
if the difference of the packet rates does not wrap around to a small one, or the bandwidth
gives the same direction, and then its protocol is right exactly if the packet rate of each
protocol in this direction fits into 32 bits. -/
theorem fillAttackInformation_right_iff :
    (fillAttackInformation currentAttack hostGroupName parentHostGroupName unbanEnabled banTime
        now).RightlyFilled ↔
      (WrapsToSmall currentAttack.trafficCounters.total →
        (currentAttack.trafficCounters.total.inBytes.toNat
            > currentAttack.trafficCounters.total.outBytes.toNat ↔
          currentAttack.trafficCounters.total.inPackets.toNat
            > currentAttack.trafficCounters.total.outPackets.toNat)) ∧
      ∀ protocol : AttackProtocol,
        ((dominantFlow currentAttack.trafficCounters.total).packets
          (protocol.counter currentAttack.trafficCounters)).toNat < 2 ^ 32 := by
  obtain ⟨flow, hflow, hdominant⟩ := detectAttackDirection_eq currentAttack.trafficCounters.total
  have hprotocol := getMaxUsedProtocol_right_iff fun protocol =>
    flow.packets (protocol.counter currentAttack.trafficCounters)
  rw [← hdominant]
  constructor
  · intro hright
    have hdirection := hright.direction
    have hfound := hright.protocol
    simp only [fillAttackInformation, hflow, detectAttackProtocol_direction] at hdirection hfound
    obtain rfl := TrafficFlow.direction_injective hdirection
    exact ⟨rfl, hprotocol.mp hfound⟩
  · rintro ⟨rfl, hsmall⟩
    have hfound := hprotocol.mpr hsmall
    refine ⟨?_, ?_, ?_⟩
    · simp only [fillAttackInformation, hflow]
    · simp only [fillAttackInformation, hflow]
    · simp only [fillAttackInformation, hflow, detectAttackProtocol_direction]
      exact hfound

/-- A flood of SYN packets, `2^32` of them in a second. -/
def synFlood : AttackInformation :=
  { trafficCounters :=
      { total := { inPackets := 0x100000000, inBytes := 0x4000000000 }
        tcp := { inPackets := 0x100000000, inBytes := 0x4000000000 } } }

/-- The flood is taken for UDP, of which there is none. -/
theorem fillAttackInformation_synFlood :
    ¬ ∀ (currentAttack : AttackInformation) (hostGroupName parentHostGroupName : List Char)
      (unbanEnabled : Bool) (banTime : Int32) (now : Int),
      (fillAttackInformation currentAttack hostGroupName parentHostGroupName unbanEnabled banTime
        now).RightlyFilled := by
  intro hright
  obtain ⟨protocol, hprotocol, hmaximal⟩ := (hright synFlood [] [] true 1900 0).protocol
  have hudp : (fillAttackInformation synFlood [] [] true 1900 0).attackProtocol
      = IPPROTO_UDP := by decide
  have htcp := hmaximal .tcp
  cases protocol with
  | udp => exact absurd htcp (by decide)
  | tcp | icmp => exact absurd (hudp.symm.trans hprotocol) (by decide)

end FastNetMon
