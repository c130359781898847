/-
FastNetMon/PortClassifier.lean

The port classifiers (`gobgp_flowspec_port_classifier.cpp`).

Both classifiers run over the samples and add up weights, with sums that stop at
the largest `uint64_t`.  The initial one looks for the one port that dominates an
attack; the one of the refresh lists every port with a large enough share, for each
protocol that is active.  The two loops over the samples are written separately in
the source, and so they are here.

`Counts` says what such a loop has added up after some samples; it holds at the
start, and one qualifying sample keeps it (`Counts.add`).
-/
import FastNetMon.OrderedMap
import FastNetMon.PacketParser
import FastNetMon.Types
import FastNetMon.WeightedKeys

namespace FastNetMon

open Std

/-- `simple_packet_t` with the direction that the analysis has found. -/
structure DirectedPacket extends ParsedPacket where
  packetDirection : Direction := .other
deriving DecidableEq

/-! ### Arithmetic -/

/-- `saturating_add`. -/
def saturatingAdd (first second : UInt64) : UInt64 :=
  if 18446744073709551615 - first < second then 18446744073709551615 else first + second

/-- `saturating_multiply`. -/
def saturatingMultiply (first second : UInt64) : UInt64 :=
  if first ≠ 0 ∧ second > 18446744073709551615 / first then 18446744073709551615
  else first * second

/-- `meets_dominance_percent`, with a threshold in place of a product. -/
def meetsDominancePercent (numerator denominator : UInt64) (percent : UInt8) : Bool :=
  if denominator = 0 then false
  else
    let denominatorHundreds := denominator / 100
    let denominatorRemainder := denominator % 100
    let threshold := denominatorHundreds * percent.toUInt64
      + (denominatorRemainder * percent.toUInt64 + 99) / 100
    numerator ≥ threshold

/-- The loop of `calculate_dominance_percent`, with so many candidates left. -/
def dominancePercentLoop (numerator denominator : UInt64) :
    (left : ℕ) → (candidate result : UInt8) → UInt8
  | 0, _, result => result
  | left + 1, candidate, result =>
      if !meetsDominancePercent numerator denominator candidate then result
      else dominancePercentLoop numerator denominator left (candidate + 1) candidate

/-- `calculate_dominance_percent`. -/
def calculateDominancePercent (numerator denominator : UInt64) : UInt8 :=
  dominancePercentLoop numerator denominator 100 1 0

/-- `is_tcp_or_udp_attack`. -/
def isTcpOrUdpAttack (attackProtocol : UInt32) : Bool :=
  attackProtocol = IpProtocol.TCP.asNumber.toUInt32
    || attackProtocol = IpProtocol.UDP.asNumber.toUInt32

/-! ### Results -/

/-- `gobgp_flowspec_port_classifier_reason_t`. -/
inductive PortClassifierReason
  | selected
  | portDetectionDisabled
  | notIncoming
  | unsupportedProtocol
  | noQualifyingSamples
  | insufficientSamples
  | belowDominance
  | ambiguousDominantPort
deriving DecidableEq

/-- `gobgp_flowspec_port_classifier_config_t`. -/
structure PortClassifierConfig where
  minSamples : UInt64 := 10
  dominancePercent : UInt8 := 70

/-- `gobgp_flowspec_port_classifier_result_t`. -/
structure PortClassifierResult where
  selectedDestinationPort : Option UInt16 := none
  qualifyingSampleCount : UInt64 := 0
  totalWeight : UInt64 := 0
  dominantPort : Option UInt16 := none
  dominantWeight : UInt64 := 0
  dominancePercent : UInt8 := 0
  reason : PortClassifierReason := .noQualifyingSamples
deriving DecidableEq

/-- `gobgp_flowspec_refresh_candidate_t`, as the classifier fills it. -/
structure RefreshCandidate where
  protocol : IpProtocol := .HOPOPT
  destinationPort : Option UInt16 := none
  portWeight : UInt64 := 0
  portSharePercent : UInt8 := 0
deriving DecidableEq

/-- `gobgp_flowspec_refresh_protocol_result_t`. -/
structure RefreshProtocolResult where
  protocol : IpProtocol := .HOPOPT
  qualifyingSampleCount : UInt64 := 0
  totalWeight : UInt64 := 0
  reason : PortClassifierReason := .noQualifyingSamples
  significantPorts : List RefreshCandidate := []
deriving DecidableEq

/-- What the loops over the samples add up. -/
structure PortWeights where
  qualifyingSampleCount : UInt64 := 0
  totalWeight : UInt64 := 0
  destinationPortWeights : ExtTreeMap UInt16 UInt64 := ∅

/-! ### The initial classifier -/

/-- One pass of the loop over the samples. -/
def countSample (victimIpv4 : UInt32) (currentAttack : AttackDetails) (weights : PortWeights)
    (packet : DirectedPacket) : PortWeights :=
  if packet.ipProtocolVersion ≠ 4 ∨ packet.packetDirection ≠ .incoming
      ∨ packet.dstIp ≠ victimIpv4 ∨ packet.protocol ≠ currentAttack.attackProtocol
      ∨ packet.destinationPort = 0 ∨ (packet.ipFragmented ∧ packet.ipFragmentOffset ≠ 0) then
    weights
  else
    let weight := saturatingMultiply packet.numberOfPackets packet.sampleRatio.toUInt64
    { qualifyingSampleCount := saturatingAdd weights.qualifyingSampleCount 1
      totalWeight := saturatingAdd weights.totalWeight weight
      destinationPortWeights := weights.destinationPortWeights.insert packet.destinationPort
        (saturatingAdd (weights.destinationPortWeights.getD packet.destinationPort 0) weight) }

/-- What the search for the dominant port knows. -/
structure DominanceSearch where
  dominantPort : Option UInt16 := none
  dominantWeight : UInt64 := 0
  tiedForDominance : Bool := false

/-- One pass of the search. -/
def searchDominant (search : DominanceSearch) (entry : UInt16 × UInt64) : DominanceSearch :=
  if search.dominantPort.isNone ∨ entry.2 > search.dominantWeight then
    { dominantPort := some entry.1, dominantWeight := entry.2, tiedForDominance := false }
  else if entry.2 = search.dominantWeight then { search with tiedForDominance := true }
  else search

/-- `classify_gobgp_flowspec_destination_port`. -/
def classifyGobgpFlowspecDestinationPort (victimIpv4 : UInt32) (currentAttack : AttackDetails)
    (packetSamples : List DirectedPacket) (classifierConfig : PortClassifierConfig) :
    PortClassifierResult :=
  if currentAttack.attackDirection ≠ .incoming then { reason := .notIncoming }
  else if !isTcpOrUdpAttack currentAttack.attackProtocol then { reason := .unsupportedProtocol }
  else
    let weights := packetSamples.foldl (countSample victimIpv4 currentAttack) {}
    let result : PortClassifierResult :=
      { qualifyingSampleCount := weights.qualifyingSampleCount, totalWeight := weights.totalWeight }
    if weights.destinationPortWeights.isEmpty ∨ weights.totalWeight = 0 then
      { result with reason := .noQualifyingSamples }
    else
      let search := weights.destinationPortWeights.toList.foldl searchDominant {}
      let result := { result with
        dominantPort := search.dominantPort
        dominantWeight := search.dominantWeight
        dominancePercent := calculateDominancePercent search.dominantWeight weights.totalWeight }
      if result.qualifyingSampleCount < classifierConfig.minSamples then
        { result with reason := .insufficientSamples }
      else if search.tiedForDominance then { result with reason := .ambiguousDominantPort }
      else if !meetsDominancePercent result.dominantWeight result.totalWeight
          classifierConfig.dominancePercent then
        { result with reason := .belowDominance }
      else { result with selectedDestinationPort := result.dominantPort, reason := .selected }

/-! ### The classifier of the refresh -/

/-- One pass of the loop over the samples. -/
def countRefreshSample (victimIpv4 : UInt32) (protocol : IpProtocol) (weights : PortWeights)
    (packet : DirectedPacket) : PortWeights :=
  if packet.ipProtocolVersion ≠ 4 ∨ packet.packetDirection ≠ .incoming
      ∨ packet.dstIp ≠ victimIpv4 ∨ packet.protocol ≠ protocol.asNumber.toUInt32
      ∨ packet.destinationPort = 0 ∨ (packet.ipFragmented ∧ packet.ipFragmentOffset ≠ 0) then
    weights
  else
    let weight := saturatingMultiply packet.numberOfPackets packet.sampleRatio.toUInt64
    { qualifyingSampleCount := saturatingAdd weights.qualifyingSampleCount 1
      totalWeight := saturatingAdd weights.totalWeight weight
      destinationPortWeights := weights.destinationPortWeights.insert packet.destinationPort
        (saturatingAdd (weights.destinationPortWeights.getD packet.destinationPort 0) weight) }

/-- The candidate for a port, if its share is large enough. -/
def significantPort (protocol : IpProtocol) (totalWeight : UInt64)
    (significantPortMinSharePercent : UInt8) (entry : UInt16 × UInt64) :
    Option RefreshCandidate :=
  if !meetsDominancePercent entry.2 totalWeight significantPortMinSharePercent then none
  else
    some {
      protocol
      destinationPort := some entry.1
      portWeight := entry.2
      portSharePercent := calculateDominancePercent entry.2 totalWeight }

/-- One pass of the loop over the active protocols. -/
def classifyRefreshProtocol (victimIpv4 : UInt32) (packetSamples : List DirectedPacket)
    (classifierConfig : PortClassifierConfig) (significantPortMinSharePercent : UInt8)
    (protocol : IpProtocol) : RefreshProtocolResult :=
  if protocol = .ICMP then { protocol, reason := .selected }
  else if protocol ≠ .TCP ∧ protocol ≠ .UDP then { protocol, reason := .unsupportedProtocol }
  else
    let weights := packetSamples.foldl (countRefreshSample victimIpv4 protocol) {}
    let result : RefreshProtocolResult :=
      { protocol
        qualifyingSampleCount := weights.qualifyingSampleCount
        totalWeight := weights.totalWeight }
    if weights.destinationPortWeights.isEmpty ∨ weights.totalWeight = 0 then
      { result with reason := .noQualifyingSamples }
    else if result.qualifyingSampleCount < classifierConfig.minSamples then
      { result with reason := .insufficientSamples }
    else
      let significantPorts := weights.destinationPortWeights.toList.filterMap
        (significantPort protocol weights.totalWeight significantPortMinSharePercent)
      { result with
        significantPorts
        reason := if significantPorts.isEmpty then .belowDominance else .selected }

/-- `classify_gobgp_flowspec_refresh_protocols`; the active protocols are in the order
of the set. -/
def classifyGobgpFlowspecRefreshProtocols (victimIpv4 : UInt32)
    (activeProtocols : List IpProtocol) (packetSamples : List DirectedPacket)
    (classifierConfig : PortClassifierConfig) (significantPortMinSharePercent : UInt8) :
    List RefreshProtocolResult :=
  activeProtocols.map
    (classifyRefreshProtocol victimIpv4 packetSamples classifierConfig
      significantPortMinSharePercent)

/-! ### Arithmetic without a bound -/

/-- The largest `uint64_t`. -/
def maxUInt64 : ℕ := 18446744073709551615

theorem saturatingAdd_toNat (first second : UInt64) :
    (saturatingAdd first second).toNat = min maxUInt64 (first.toNat + second.toNat) := by
  have h₁ := first.toNat_lt
  have h₂ := second.toNat_lt
  rw [saturatingAdd, maxUInt64]
  have hle : first ≤ 18446744073709551615 := by
    rw [UInt64.le_iff_toNat_le]
    simp
    omega
  have hsub : (18446744073709551615 - first).toNat = 18446744073709551615 - first.toNat := by
    rw [UInt64.toNat_sub_of_le _ _ hle]
    rfl
  split
  · rename_i h
    rw [UInt64.lt_iff_toNat_lt, hsub] at h
    have hmax : (18446744073709551615 : UInt64).toNat = 18446744073709551615 := rfl
    rw [hmax]
    omega
  · rename_i h
    rw [UInt64.lt_iff_toNat_lt, hsub] at h
    rw [UInt64.toNat_add]
    omega

theorem saturatingMultiply_toNat (first second : UInt64) :
    (saturatingMultiply first second).toNat = min maxUInt64 (first.toNat * second.toNat) := by
  have h₁ := first.toNat_lt
  have h₂ := second.toNat_lt
  rw [saturatingMultiply, maxUInt64]
  have hdiv : (18446744073709551615 / first).toNat = 18446744073709551615 / first.toNat := by
    rw [UInt64.toNat_div]
    rfl
  by_cases hzero : first = 0
  · subst hzero
    simp
  have hpos : 0 < first.toNat := by
    rcases Nat.eq_zero_or_pos first.toNat with h | h
    · exact absurd (UInt64.toNat_inj.mp h) hzero
    · exact h
  split
  · rename_i h
    have hgt := h.2
    rw [gt_iff_lt, UInt64.lt_iff_toNat_lt, hdiv, Nat.div_lt_iff_lt_mul hpos, Nat.mul_comm] at hgt
    have hmax : (18446744073709551615 : UInt64).toNat = 18446744073709551615 := rfl
    rw [hmax]
    omega
  · rename_i h
    have hle : second.toNat ≤ 18446744073709551615 / first.toNat := by
      rw [← hdiv, ← UInt64.le_iff_toNat_le]
      exact UInt64.not_lt.mp fun hlt => h ⟨hzero, hlt⟩
    have hmul : first.toNat * second.toNat ≤ 18446744073709551615 := by
      rw [Nat.mul_comm]
      exact (Nat.le_div_iff_mul_le hpos).mp hle
    rw [UInt64.toNat_mul, Nat.mod_eq_of_lt (by omega)]
    omega

/-- The comparison is that of the products. -/
theorem meetsDominancePercent_iff {numerator denominator : UInt64} {percent : UInt8}
    (hpercent : percent ≤ 100) :
    meetsDominancePercent numerator denominator percent = true ↔
      0 < denominator.toNat ∧ denominator.toNat * percent.toNat ≤ 100 * numerator.toNat := by
  have hle : percent.toNat ≤ 100 := UInt8.le_iff_toNat_le.mp hpercent
  have hlt := denominator.toNat_lt
  rw [meetsDominancePercent]
  split
  · rename_i h
    subst h
    simp
  · rename_i h
    have hpos : 0 < denominator.toNat := by
      rcases Nat.eq_zero_or_pos denominator.toNat with h' | h'
      · exact absurd (UInt64.toNat_inj.mp h') h
      · exact h'
    have hhundreds : (denominator / 100).toNat = denominator.toNat / 100 := by
      rw [UInt64.toNat_div]
      rfl
    have hremainder : (denominator % 100).toNat = denominator.toNat % 100 := by
      rw [UInt64.toNat_mod]
      rfl
    have hp : percent.toUInt64.toNat = percent.toNat := UInt8.toNat_toUInt64 percent
    have hq : denominator.toNat / 100 * percent.toNat ≤ denominator.toNat / 100 * 100 :=
      Nat.mul_le_mul_left _ hle
    have hr : denominator.toNat % 100 * percent.toNat ≤ denominator.toNat % 100 * 100 :=
      Nat.mul_le_mul_left _ hle
    have hthreshold : (denominator / 100 * percent.toUInt64
        + (denominator % 100 * percent.toUInt64 + 99) / 100).toNat
        = denominator.toNat / 100 * percent.toNat
          + (denominator.toNat % 100 * percent.toNat + 99) / 100 := by
      have h99 : (99 : UInt64).toNat = 99 := rfl
      have h100 : (100 : UInt64).toNat = 100 := rfl
      simp only [UInt64.toNat_add, UInt64.toNat_mul, UInt64.toNat_div, hhundreds, hremainder, hp,
        h99, h100]
      omega
    simp only [decide_eq_true_eq, ge_iff_le, UInt64.le_iff_toNat_le, hthreshold]
    have hsplit : denominator.toNat * percent.toNat
        = 100 * (denominator.toNat / 100 * percent.toNat)
          + denominator.toNat % 100 * percent.toNat := by
      conv_lhs => rw [← Nat.div_add_mod denominator.toNat 100]
      ring
    rw [hsplit]
    omega

/-- A candidate passes exactly if it is not above the quotient. -/
theorem meetsDominancePercent_iff_le {numerator denominator : UInt64} {candidate : UInt8}
    (hpos : 0 < candidate.toNat) (hcandidate : candidate ≤ 100) :
    meetsDominancePercent numerator denominator candidate = true ↔
      candidate.toNat ≤ 100 * numerator.toNat / denominator.toNat := by
  rw [meetsDominancePercent_iff hcandidate]
  rcases Nat.eq_zero_or_pos denominator.toNat with h | h
  · rw [h, Nat.div_zero]
    omega
  · rw [Nat.le_div_iff_mul_le h, Nat.mul_comm candidate.toNat]
    exact and_iff_right h

theorem dominancePercentLoop_toNat {numerator denominator : UInt64} (left : ℕ)
    {candidate result : UInt8} (hleft : candidate.toNat + left = 101)
    (hresult : result.toNat + 1 = candidate.toNat)
    (hle : result.toNat ≤ 100 * numerator.toNat / denominator.toNat) :
    (dominancePercentLoop numerator denominator left candidate result).toNat
      = min 100 (100 * numerator.toNat / denominator.toNat) := by
  induction left generalizing candidate result with
  | zero =>
    rw [dominancePercentLoop]
    omega
  | succ left ih =>
    have hcandidate : candidate ≤ 100 := by
      rw [UInt8.le_iff_toNat_le]
      simp
      omega
    have hiff : meetsDominancePercent numerator denominator candidate = true ↔ _ :=
      meetsDominancePercent_iff_le (by omega) hcandidate
    have hnext : (candidate + 1).toNat = candidate.toNat + 1 := by
      rw [UInt8.toNat_add]
      simp
      omega
    rw [dominancePercentLoop]
    by_cases hmeets : meetsDominancePercent numerator denominator candidate = true
    · rw [hmeets, Bool.not_true, if_neg (by decide)]
      exact ih (by omega) (by omega) (hiff.mp hmeets)
    · rw [Bool.eq_false_iff.mpr hmeets, Bool.not_false, if_pos rfl]
      have hnot := mt hiff.mpr hmeets
      omega

/-- The percentage is that of the unbounded numbers, and no more than 100. -/
theorem calculateDominancePercent_toNat (numerator denominator : UInt64) :
    (calculateDominancePercent numerator denominator).toNat
      = min 100 (100 * numerator.toNat / denominator.toNat) :=
  dominancePercentLoop_toNat 100 rfl rfl (Nat.zero_le _)

/-! ### What the loops over the samples count -/

/-- A sample that says something about the port of an attack on the victim. -/
def Qualifies (victimIpv4 protocol : UInt32) (packet : DirectedPacket) : Prop :=
  packet.ipProtocolVersion = 4 ∧ packet.packetDirection = .incoming ∧ packet.dstIp = victimIpv4 ∧
    packet.protocol = protocol ∧ packet.destinationPort ≠ 0 ∧
    ¬ (packet.ipFragmented = true ∧ packet.ipFragmentOffset ≠ 0)

instance (victimIpv4 protocol : UInt32) (packet : DirectedPacket) :
    Decidable (Qualifies victimIpv4 protocol packet) :=
  inferInstanceAs (Decidable (_ ∧ _))

/-- The samples that qualify. -/
def qualifying (victimIpv4 protocol : UInt32) (packetSamples : List DirectedPacket) :
    List DirectedPacket :=
  packetSamples.filter fun packet => Qualifies victimIpv4 protocol packet

/-- The weight of a sample. -/
def sampleWeight (packet : DirectedPacket) : ℕ :=
  min maxUInt64 (packet.numberOfPackets.toNat * packet.sampleRatio.toNat)

/-- The weight of a port in a list of samples. -/
def portWeight (samples : List DirectedPacket) (port : UInt16) : ℕ :=
  min maxUInt64 (weightOf (·.destinationPort) sampleWeight samples port)

/-- The weight of a list of samples. -/
def samplesWeight (samples : List DirectedPacket) : ℕ := min maxUInt64 (samples.map sampleWeight).sum

/-- What has been added up after some samples. -/
structure Counts (weights : PortWeights) (samples : List DirectedPacket) : Prop where
  count : weights.qualifyingSampleCount.toNat = min maxUInt64 samples.length
  total : weights.totalWeight.toNat = samplesWeight samples
  ports : ∀ port, (weights.destinationPortWeights[port]?).map UInt64.toNat
    = if port ∈ samples.map (·.destinationPort) then some (portWeight samples port) else none

theorem Counts.start : Counts {} [] where
  count := rfl
  total := rfl
  ports port := by simp

/-- The accumulators after a sample of the port. -/
def PortWeights.add (weights : PortWeights) (packet : DirectedPacket) : PortWeights :=
  let weight := saturatingMultiply packet.numberOfPackets packet.sampleRatio.toUInt64
  { qualifyingSampleCount := saturatingAdd weights.qualifyingSampleCount 1
    totalWeight := saturatingAdd weights.totalWeight weight
    destinationPortWeights := weights.destinationPortWeights.insert packet.destinationPort
      (saturatingAdd (weights.destinationPortWeights.getD packet.destinationPort 0) weight) }

theorem sampleWeight_eq (packet : DirectedPacket) :
    (saturatingMultiply packet.numberOfPackets packet.sampleRatio.toUInt64).toNat
      = sampleWeight packet := by
  rw [saturatingMultiply_toNat, UInt32.toNat_toUInt64, sampleWeight]

/-- A sample is added to what has been counted. -/
theorem Counts.add {weights : PortWeights} {samples : List DirectedPacket}
    (h : Counts weights samples) (packet : DirectedPacket) :
    Counts (weights.add packet) (samples ++ [packet]) where
  count := by
    rw [PortWeights.add, saturatingAdd_toNat, h.count, List.length_append]
    exact min_add_min _ _ _
  total := by
    rw [PortWeights.add, saturatingAdd_toNat, h.total, sampleWeight_eq, samplesWeight,
      samplesWeight, min_add_min, List.map_append, List.sum_append, List.map_singleton,
      List.sum_singleton]
  ports port := by
    have hport := h.ports port
    rw [PortWeights.add, ExtTreeMap.getElem?_insert]
    simp only [List.map_append, List.map_singleton, List.mem_append, List.mem_singleton]
    by_cases heq : packet.destinationPort = port
    · subst heq
      have hgetD : (weights.destinationPortWeights.getD packet.destinationPort 0).toNat
          = portWeight samples packet.destinationPort := by
        rw [ExtTreeMap.getD_eq_getD_getElem?]
        by_cases hmem : packet.destinationPort ∈ samples.map (·.destinationPort)
        · rw [if_pos hmem, Option.map_eq_some_iff] at hport
          obtain ⟨w, hw, hweight⟩ := hport
          rw [hw, Option.getD_some, hweight]
        · rw [if_neg hmem, Option.map_eq_none_iff] at hport
          rw [hport, Option.getD_none, portWeight, weightOf_of_notMem hmem]
          rfl
      rw [if_pos (by simp), if_pos (Or.inr rfl), Option.map_some, saturatingAdd_toNat, hgetD,
        sampleWeight_eq, portWeight, portWeight, weightOf_append_self, min_add_min]
    · rw [if_neg (by simpa using heq), hport, portWeight, portWeight,
        weightOf_append_of_ne samples heq]
      simp [Ne.symm heq]

/-- A pass of the initial classifier adds a sample exactly if it qualifies. -/
theorem countSample_eq (victimIpv4 : UInt32) (currentAttack : AttackDetails)
    (weights : PortWeights) (packet : DirectedPacket) :
    countSample victimIpv4 currentAttack weights packet
      = if Qualifies victimIpv4 currentAttack.attackProtocol packet then weights.add packet
        else weights := by
  by_cases hq : Qualifies victimIpv4 currentAttack.attackProtocol packet
  · rw [if_pos hq, countSample, if_neg]
    · rfl
    · rw [Qualifies] at hq
      tauto
  · rw [if_neg hq, countSample, if_pos]
    rw [Qualifies] at hq
    tauto

/-- So does a pass of the classifier of the refresh. -/
theorem countRefreshSample_eq (victimIpv4 : UInt32) (protocol : IpProtocol)
    (weights : PortWeights) (packet : DirectedPacket) :
    countRefreshSample victimIpv4 protocol weights packet
      = if Qualifies victimIpv4 protocol.asNumber.toUInt32 packet then weights.add packet
        else weights := by
  by_cases hq : Qualifies victimIpv4 protocol.asNumber.toUInt32 packet
  · rw [if_pos hq, countRefreshSample, if_neg]
    · rfl
    · rw [Qualifies] at hq
      tauto
  · rw [if_neg hq, countRefreshSample, if_pos]
    rw [Qualifies] at hq
    tauto

/-- A loop whose passes add the samples that qualify has counted them in the end. -/
theorem counts_foldl {pass : PortWeights → DirectedPacket → PortWeights}
    {victimIpv4 protocol : UInt32}
    (hpass : ∀ weights packet, pass weights packet
      = if Qualifies victimIpv4 protocol packet then weights.add packet else weights)
    (packetSamples : List DirectedPacket) :
    Counts (packetSamples.foldl pass {}) (qualifying victimIpv4 protocol packetSamples) := by
  have hrun : ∀ (weights : PortWeights) (samples : List DirectedPacket), Counts weights samples →
      Counts (packetSamples.foldl pass weights)
        (samples ++ qualifying victimIpv4 protocol packetSamples) := by
    induction packetSamples with
    | nil =>
      intro weights samples h
      rw [qualifying, List.filter_nil, List.append_nil]
      exact h
    | cons packet packetSamples ih =>
      intro weights samples h
      rw [List.foldl_cons, hpass, qualifying, List.filter_cons]
      by_cases hq : Qualifies victimIpv4 protocol packet
      · rw [if_pos hq, if_pos (decide_eq_true hq)]
        have hnext := ih _ _ (h.add packet)
        rw [List.append_assoc] at hnext
        exact hnext
      · rw [if_neg hq, if_neg (by simpa using hq)]
        exact ih _ _ h
  exact hrun {} [] Counts.start

/-- The accumulators are determined by the samples, in whichever order. -/
theorem Counts.ext {weights weights' : PortWeights} {samples samples' : List DirectedPacket}
    (h : Counts weights samples) (h' : Counts weights' samples') (hperm : samples.Perm samples') :
    weights = weights' := by
  obtain ⟨count, total, ports⟩ := weights
  obtain ⟨count', total', ports'⟩ := weights'
  have hcount : count = count' := by
    rw [← UInt64.toNat_inj, h.count, h'.count, hperm.length_eq]
  have htotal : total = total' := by
    rw [← UInt64.toNat_inj, h.total, h'.total, samplesWeight, samplesWeight,
      (hperm.map sampleWeight).sum_eq]
  have hports : ports = ports' := by
    apply ExtTreeMap.ext_getElem?
    intro port
    have hport : (ports[port]?).map UInt64.toNat = (ports'[port]?).map UInt64.toNat := by
      rw [h.ports port, h'.ports port, portWeight, portWeight, weightOf_perm hperm]
      simp only [(hperm.map (·.destinationPort)).mem_iff]
    exact Option.map_injective (fun _ _ heq => UInt64.toNat_inj.mp heq) hport
  rw [hcount, htotal, hports]

end FastNetMon
