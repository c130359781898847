/-
FastNetMon/RefreshClassifier.lean

The classifier of the refresh against its specification, and against the initial
classifier (`classify_gobgp_flowspec_refresh_protocols`).

Its loop counts the same samples as the initial one (`countRefreshSample_eq`), so that
the ports of a protocol are those with a large enough part of the same weights, in the
order of the map (`RefreshProtocolSpec`).  A port that the initial classifier selects
has at least the percentage that it reports.  Main result: `refresh_classifier_spec`.
-/
import FastNetMon.PortClassifierSpec

namespace FastNetMon

open Std

/-- When a port of a protocol is significant. -/
def Significant (victimIpv4 : UInt32) (protocol : IpProtocol) (packetSamples : List DirectedPacket)
    (classifierConfig : PortClassifierConfig) (sharePercent : UInt8) (port : UInt16) : Prop :=
  let samples := qualifying victimIpv4 protocol.asNumber.toUInt32 packetSamples
  classifierConfig.minSamples.toNat ≤ samples.length ∧ 0 < samplesWeight samples ∧
    samplesWeight samples * sharePercent.toNat ≤ 100 * portWeight samples port

/-- The significant ports of a result for TCP or UDP: just these, in ascending order, and
not too many if no sum has reached its cap. -/
def RefreshProtocolSpec (victimIpv4 : UInt32) (packetSamples : List DirectedPacket)
    (classifierConfig : PortClassifierConfig) (sharePercent : UInt8)
    (result : RefreshProtocolResult) : Prop :=
  ∃ ports : List UInt16, result.significantPorts.map (·.destinationPort) = ports.map some ∧
    ports.Pairwise (· < ·) ∧
    (∀ port, port ∈ ports ↔
      Significant victimIpv4 result.protocol packetSamples classifierConfig sharePercent port) ∧
    (((qualifying victimIpv4 result.protocol.asNumber.toUInt32 packetSamples).map
        sampleWeight).sum ≤ maxUInt64 → ports.length ≤ 100 / sharePercent.toNat)

/-! ### The ports of one protocol -/

/-- The ports with a large enough share, in the order of the map. -/
def significantKeys (weights : PortWeights) (sharePercent : UInt8) : List UInt16 :=
  (weights.destinationPortWeights.toList.filter fun entry =>
    meetsDominancePercent entry.2 weights.totalWeight sharePercent).map Prod.fst

theorem filterMap_significantPort (protocol : IpProtocol) (totalWeight : UInt64)
    (sharePercent : UInt8) (entries : List (UInt16 × UInt64)) :
    (entries.filterMap (significantPort protocol totalWeight sharePercent)).map
        (·.destinationPort)
      = ((entries.filter fun entry =>
          meetsDominancePercent entry.2 totalWeight sharePercent).map Prod.fst).map some := by
  induction entries with
  | nil => rfl
  | cons entry entries ih =>
    by_cases hmeets : meetsDominancePercent entry.2 totalWeight sharePercent = true
    · have hport : significantPort protocol totalWeight sharePercent entry = some
          ⟨protocol, some entry.1, entry.2, calculateDominancePercent entry.2 totalWeight⟩ := by
        rw [significantPort, hmeets]
        rfl
      rw [List.filterMap_cons_some hport, List.filter_cons, if_pos hmeets, List.map_cons, ih]
      rfl
    · have hport : significantPort protocol totalWeight sharePercent entry = none := by
        rw [significantPort, Bool.eq_false_iff.mpr hmeets]
        rfl
      rw [List.filterMap_cons_none hport, List.filter_cons, if_neg hmeets, ih]

theorem significantKeys_pairwise (weights : PortWeights) (sharePercent : UInt8) :
    (significantKeys weights sharePercent).Pairwise (· < ·) := by
  have hordered := ExtTreeMap.ordered_keys_toList (t := weights.destinationPortWeights)
  rw [significantKeys, List.pairwise_map]
  refine (hordered.filter _).imp ?_
  intro a b h
  exact Std.compare_eq_lt.mp h

theorem Counts.mem_significantKeys_iff {weights : PortWeights} {samples : List DirectedPacket}
    (h : Counts weights samples) {sharePercent : UInt8} (hpos : 0 < sharePercent.toNat)
    (hle : sharePercent ≤ 100) {port : UInt16} :
    port ∈ significantKeys weights sharePercent ↔ 0 < samplesWeight samples ∧
      samplesWeight samples * sharePercent.toNat ≤ 100 * portWeight samples port := by
  simp only [significantKeys, List.mem_map, List.mem_filter, Prod.exists, exists_and_right,
    exists_eq_right, meetsDominancePercent_iff hle, h.total]
  constructor
  · rintro ⟨w, hmem, htotal, hshare⟩
    rw [(h.mem_toList_iff.mp hmem).2] at hshare
    exact ⟨htotal, hshare⟩
  · rintro ⟨htotal, hshare⟩
    have hweight : portWeight samples port ≠ 0 := by
      intro hzero
      rw [hzero, Nat.mul_zero] at hshare
      exact absurd (Nat.mul_pos htotal hpos) (Nat.not_lt.mpr hshare)
    have hport := h.ports port
    rw [if_pos (not_imp_comm.mp portWeight_of_notMem hweight), Option.map_eq_some_iff] at hport
    obtain ⟨w, hw, heq⟩ := hport
    refine ⟨w, ExtTreeMap.mem_toList_iff_getElem?_eq_some.mpr hw, htotal, ?_⟩
    rw [heq]
    exact hshare

/-- Each significant port has its share, so there are no more than fit. -/
theorem Counts.significantKeys_length_le {weights : PortWeights} {samples : List DirectedPacket}
    (h : Counts weights samples) {sharePercent : UInt8} (hpos : 0 < sharePercent.toNat)
    (hle : sharePercent ≤ 100) (hsum : (samples.map sampleWeight).sum ≤ maxUInt64) :
    (significantKeys weights sharePercent).length ≤ 100 / sharePercent.toNat := by
  have hnodup : (significantKeys weights sharePercent).Nodup :=
    (significantKeys_pairwise weights sharePercent).imp fun hlt heq =>
      absurd (heq ▸ hlt) (UInt16.lt_irrefl _)
  have htotal : samplesWeight samples = (samples.map sampleWeight).sum := Nat.min_eq_right hsum
  rcases hkeys : significantKeys weights sharePercent with - | ⟨first, rest⟩
  · exact Nat.zero_le _
  rw [← hkeys]
  have hfirst : first ∈ significantKeys weights sharePercent ↔ _ :=
    h.mem_significantKeys_iff hpos hle
  rw [hkeys] at hfirst
  have hweight := (hfirst.mp List.mem_cons_self).1
  have hall : ∀ port ∈ significantKeys weights sharePercent,
      samplesWeight samples * sharePercent.toNat
        ≤ 100 * weightOf (·.destinationPort) sampleWeight samples port := by
    intro port hport
    have hshare := ((h.mem_significantKeys_iff hpos hle).mp hport).2
    have hcap : portWeight samples port
        = weightOf (·.destinationPort) sampleWeight samples port :=
      Nat.min_eq_right ((weightOf_le_sum samples port).trans hsum)
    rw [← hcap]
    exact hshare
  exact length_le_of_share hnodup (Nat.le_of_eq htotal.symm) hweight hpos hall

/-- The result for TCP or UDP. -/
theorem classifyRefreshProtocol_spec (victimIpv4 : UInt32) (packetSamples : List DirectedPacket)
    (classifierConfig : PortClassifierConfig) {sharePercent : UInt8}
    (hpos : 0 < sharePercent.toNat) (hle : sharePercent ≤ 100) {protocol : IpProtocol}
    (hprotocol : protocol = .TCP ∨ protocol = .UDP) :
    RefreshProtocolSpec victimIpv4 packetSamples classifierConfig sharePercent
      (classifyRefreshProtocol victimIpv4 packetSamples classifierConfig sharePercent protocol) := by
  have hcounts := counts_foldl (countRefreshSample_eq victimIpv4 protocol) packetSamples
  have hicmp : protocol ≠ .ICMP := by
    rcases hprotocol with rfl | rfl <;> decide
  have hsupported : ¬ (protocol ≠ .TCP ∧ protocol ≠ .UDP) := by tauto
  rw [classifyRefreshProtocol, if_neg hicmp, if_neg hsupported]
  generalize packetSamples.foldl (countRefreshSample victimIpv4 protocol) {} = weights at *
  simp only
  split
  · rename_i hempty
    refine ⟨[], rfl, .nil, ?_, fun _ => Nat.zero_le _⟩
    intro port
    refine ⟨fun h => absurd h (by simp), fun h => ?_⟩
    rcases hempty with hempty | hzero
    · rw [hcounts.not_isEmpty h.2.1] at hempty
      exact absurd hempty (by simp)
    · exact absurd (hcounts.total_eq_zero_iff.mp hzero) (Nat.ne_of_gt h.2.1)
  split
  · rename_i hfew
    refine ⟨[], rfl, .nil, ?_, fun _ => Nat.zero_le _⟩
    intro port
    refine ⟨fun h => absurd h (by simp), fun h => ?_⟩
    exact absurd h.1 (Nat.not_le.mpr ((hcounts.count_lt_iff _).mp hfew))
  · rename_i hmany
    have hcount := Nat.not_lt.mp (mt (hcounts.count_lt_iff _).mpr hmany)
    refine ⟨significantKeys weights sharePercent, filterMap_significantPort _ _ _ _,
      significantKeys_pairwise _ _, ?_, hcounts.significantKeys_length_le hpos hle⟩
    intro port
    rw [hcounts.mem_significantKeys_iff hpos hle, Significant]
    exact ⟨fun h => ⟨hcount, h.1, h.2⟩, fun h => h.2⟩

/-! ### The specification -/

/-- A sample of the protocol that is incoming and addressed to the victim. -/
def Concerns (victimIpv4 : UInt32) (protocol : IpProtocol) (packet : DirectedPacket) : Prop :=
  packet.protocol = protocol.asNumber.toUInt32 ∧ packet.dstIp = victimIpv4 ∧
    packet.packetDirection = .incoming

instance (victimIpv4 : UInt32) (protocol : IpProtocol) (packet : DirectedPacket) :
    Decidable (Concerns victimIpv4 protocol packet) :=
  inferInstanceAs (Decidable (_ ∧ _))

/-- Only samples that concern the protocol qualify. -/
theorem qualifying_filter_concerns (victimIpv4 : UInt32) (protocol : IpProtocol)
    (packetSamples : List DirectedPacket) :
    qualifying victimIpv4 protocol.asNumber.toUInt32
        (packetSamples.filter fun packet => Concerns victimIpv4 protocol packet)
      = qualifying victimIpv4 protocol.asNumber.toUInt32 packetSamples := by
  rw [qualifying, qualifying, List.filter_filter]
  refine List.filter_congr ?_
  intro packet _
  by_cases hq : Qualifies victimIpv4 protocol.asNumber.toUInt32 packet
  · have hconcerns : Concerns victimIpv4 protocol packet := ⟨hq.2.2.2.1, hq.2.2.1, hq.2.1⟩
    simp [hq, hconcerns]
  · simp [hq]

/-- The result for a protocol depends on no other samples. -/
theorem classifyRefreshProtocol_local {victimIpv4 : UInt32} {protocol : IpProtocol}
    {packetSamples packetSamples' : List DirectedPacket}
    (h : (packetSamples'.filter fun packet => Concerns victimIpv4 protocol packet)
      = packetSamples.filter fun packet => Concerns victimIpv4 protocol packet)
    (classifierConfig : PortClassifierConfig) (sharePercent : UInt8) :
    classifyRefreshProtocol victimIpv4 packetSamples' classifierConfig sharePercent protocol
      = classifyRefreshProtocol victimIpv4 packetSamples classifierConfig sharePercent protocol := by
  have hqualifying : qualifying victimIpv4 protocol.asNumber.toUInt32 packetSamples'
      = qualifying victimIpv4 protocol.asNumber.toUInt32 packetSamples := by
    rw [← qualifying_filter_concerns, h, qualifying_filter_concerns]
  have hcounts := counts_foldl (countRefreshSample_eq victimIpv4 protocol) packetSamples
  have hcounts' := counts_foldl (countRefreshSample_eq victimIpv4 protocol) packetSamples'
  simp only [classifyRefreshProtocol, hcounts'.ext hcounts (hqualifying ▸ List.Perm.refl _)]

theorem classifyRefreshProtocol_protocol (victimIpv4 : UInt32)
    (packetSamples : List DirectedPacket) (classifierConfig : PortClassifierConfig)
    (sharePercent : UInt8) (protocol : IpProtocol) :
    (classifyRefreshProtocol victimIpv4 packetSamples classifierConfig sharePercent
      protocol).protocol = protocol := by
  rw [classifyRefreshProtocol]
  split
  · rfl
  split
  · rfl
  simp only
  split
  · rfl
  split <;> rfl

/-- A protocol with the number of a TCP or UDP attack is TCP or UDP. -/
theorem tcp_or_udp_of_number {protocol : IpProtocol}
    (h : isTcpOrUdpAttack protocol.asNumber.toUInt32 = true) :
    protocol = .TCP ∨ protocol = .UDP := by
  obtain ⟨number⟩ := protocol
  rw [isTcpOrUdpAttack, Bool.or_eq_true, decide_eq_true_eq, decide_eq_true_eq] at h
  have hinj : ∀ a b : UInt8, a.toUInt32 = b.toUInt32 → a = b := by
    intro a b hab
    have hnat := congrArg UInt32.toNat hab
    rw [UInt8.toNat_toUInt32, UInt8.toNat_toUInt32] at hnat
    exact UInt8.toNat_inj.mp hnat
  rcases h with h | h
  · exact Or.inl (congrArg IpProtocol.mk (hinj _ _ h))
  · exact Or.inr (congrArg IpProtocol.mk (hinj _ _ h))

/-- A port that the initial classifier selects, with at least the share percentage, is
significant for its protocol. -/
theorem significant_of_selected {victimIpv4 : UInt32} {currentAttack : AttackDetails}
    {packetSamples : List DirectedPacket} {classifierConfig : PortClassifierConfig}
    {sharePercent : UInt8} {port : UInt16} {protocol : IpProtocol}
    (hselected : (classifyGobgpFlowspecDestinationPort victimIpv4 currentAttack packetSamples
      classifierConfig).selectedDestinationPort = some port)
    (hprotocol : protocol.asNumber.toUInt32 = currentAttack.attackProtocol)
    (hpercent : sharePercent ≤ (classifyGobgpFlowspecDestinationPort victimIpv4 currentAttack
        packetSamples classifierConfig).dominancePercent ∨
      sharePercent ≤ classifierConfig.dominancePercent ∧ classifierConfig.dominancePercent ≤ 100) :
    Significant victimIpv4 protocol packetSamples classifierConfig sharePercent port := by
  obtain ⟨hincoming, hattack, hpos⟩ := classify_selected hselected
  obtain ⟨dominant, -, hdominance, weight, total, hweight, htotal, hiff⟩ :=
    classify_of_weight classifierConfig hincoming hattack hpos
  obtain ⟨rfl, hcount, -, hmeets⟩ := (hiff port).mp hselected
  rw [Significant, hprotocol]
  refine ⟨hcount, hpos, ?_⟩
  rcases hpercent with hreported | ⟨hconfigured, hle⟩
  · rw [UInt8.le_iff_toNat_le, hdominance] at hreported
    rw [Nat.mul_comm]
    exact (Nat.le_div_iff_mul_le hpos).mp (hreported.trans (Nat.min_le_right _ _))
  · have hshare := ((meetsDominancePercent_iff hle).mp hmeets).2
    rw [hweight, htotal] at hshare
    exact (Nat.mul_le_mul_left _ (UInt8.le_iff_toNat_le.mp hconfigured)).trans hshare

/-- **The classifier of the refresh.**  There is one result for each active protocol; for
TCP and UDP it lists exactly the significant ports in ascending order, and no more than
`100 / sharePercent` of them if the sums do not reach their cap; samples of other
protocols, victims or directions change nothing of it; and a port that the initial
classifier selects with at least the share percentage is listed for its protocol. -/
theorem refresh_classifier_spec (victimIpv4 : UInt32) (activeProtocols : List IpProtocol)
    (packetSamples : List DirectedPacket) (classifierConfig : PortClassifierConfig)
    (sharePercent : UInt8) (hshare : 1 ≤ sharePercent ∧ sharePercent ≤ 100) :
    let results := classifyGobgpFlowspecRefreshProtocols victimIpv4 activeProtocols packetSamples
      classifierConfig sharePercent
    results.map (·.protocol) = activeProtocols ∧
    (∀ result ∈ results, result.protocol = .TCP ∨ result.protocol = .UDP →
      RefreshProtocolSpec victimIpv4 packetSamples classifierConfig sharePercent result) ∧
    (∀ (packetSamples' : List DirectedPacket) (i : ℕ) (protocol : IpProtocol),
      activeProtocols[i]? = some protocol →
      (packetSamples'.filter fun packet => Concerns victimIpv4 protocol packet)
        = packetSamples.filter (fun packet => Concerns victimIpv4 protocol packet) →
      (classifyGobgpFlowspecRefreshProtocols victimIpv4 activeProtocols packetSamples'
        classifierConfig sharePercent)[i]? = results[i]?) ∧
    (∀ (currentAttack : AttackDetails) (port : UInt16),
      let selection := classifyGobgpFlowspecDestinationPort victimIpv4 currentAttack packetSamples
        classifierConfig
      selection.selectedDestinationPort = some port →
      (sharePercent ≤ selection.dominancePercent ∨ sharePercent ≤ classifierConfig.dominancePercent
        ∧ classifierConfig.dominancePercent ≤ 100) →
      ∀ result ∈ results, result.protocol.asNumber.toUInt32 = currentAttack.attackProtocol →
        some port ∈ result.significantPorts.map (·.destinationPort)) := by
  intro results
  have hpos : 0 < sharePercent.toNat := UInt8.le_iff_toNat_le.mp hshare.1
  have hspec : ∀ result ∈ results, result.protocol = .TCP ∨ result.protocol = .UDP →
      RefreshProtocolSpec victimIpv4 packetSamples classifierConfig sharePercent result := by
    intro result hresult hprotocol
    obtain ⟨protocol, -, rfl⟩ := List.mem_map.mp hresult
    rw [classifyRefreshProtocol_protocol] at hprotocol
    exact classifyRefreshProtocol_spec _ _ _ hpos hshare.2 hprotocol
  refine ⟨?_, hspec, ?_, ?_⟩
  · simp only [results, classifyGobgpFlowspecRefreshProtocols, List.map_map, Function.comp_def,
      classifyRefreshProtocol_protocol, List.map_id']
  · intro packetSamples' i protocol hprotocol hsame
    simp only [results, classifyGobgpFlowspecRefreshProtocols, List.getElem?_map, hprotocol,
      Option.map_some, classifyRefreshProtocol_local hsame]
  · intro currentAttack port selection hselected hpercent result hresult hprotocol
    obtain ⟨-, hattack, -⟩ := classify_selected hselected
    rw [← hprotocol] at hattack
    obtain ⟨ports, hports, -, hmem, -⟩ := hspec result hresult (tcp_or_udp_of_number hattack)
    rw [hports]
    exact List.mem_map.mpr
      ⟨port, (hmem port).mpr (significant_of_selected hselected hprotocol hpercent), rfl⟩

/-- The port that the initial classifier selects is listed for UDP. -/
theorem samplesOfPort53_significant :
    ∃ result ∈ classifyGobgpFlowspecRefreshProtocols 1 [.UDP] samplesOfPort53 {} 20,
      result.protocol = .UDP ∧ some 53 ∈ result.significantPorts.map (·.destinationPort) := by
  have hspec := refresh_classifier_spec 1 [.UDP] samplesOfPort53 {} 20 (by decide)
  obtain ⟨result, hresult, hprotocol⟩ : ∃ result ∈
      classifyGobgpFlowspecRefreshProtocols 1 [.UDP] samplesOfPort53 {} 20,
      result.protocol = .UDP := List.mem_map.mp (hspec.1 ▸ List.mem_singleton_self _)
  refine ⟨result, hresult, hprotocol, ?_⟩
  obtain ⟨ports, hports, -, hmem, -⟩ := hspec.2.1 result hresult (Or.inr hprotocol)
  rw [hports]
  refine List.mem_map.mpr ⟨53, (hmem 53).mpr ?_, rfl⟩
  rw [hprotocol]
  exact ⟨by decide, by decide, by decide⟩

end FastNetMon
