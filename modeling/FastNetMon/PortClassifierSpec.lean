/-
FastNetMon/PortClassifierSpec.lean

The initial port classifier against its specification
(`classify_gobgp_flowspec_destination_port`).

The search for the dominant port keeps the port with the greatest weight so far, and
whether another one has the same (`Dominates`).  With what the loop over the samples
counts (`Counts`), the result is the one of the unbounded sums, capped
(`port_classifier_spec`), whatever the order of the samples.
-/
import FastNetMon.PortClassifier

namespace FastNetMon

open Std

/-! ### The search -/

/-- What the search knows of the entries it has seen. -/
def Dominates (search : DominanceSearch) (entries : List (UInt16 × UInt64)) : Prop :=
  match search.dominantPort with
  | none => entries = []
  | some port =>
      (port, search.dominantWeight) ∈ entries ∧ (∀ e ∈ entries, e.2 ≤ search.dominantWeight) ∧
        (search.tiedForDominance = true ↔
          ∃ e ∈ entries, e.1 ≠ port ∧ e.2 = search.dominantWeight)

/-- An entry with a port of its own. -/
theorem Dominates.next {search : DominanceSearch} {entries : List (UInt16 × UInt64)}
    (h : Dominates search entries) {entry : UInt16 × UInt64}
    (hnew : ∀ e ∈ entries, e.1 ≠ entry.1) :
    Dominates (searchDominant search entry) (entries ++ [entry]) := by
  obtain ⟨port?, weight, tied⟩ := search
  rw [Dominates] at h
  cases port? with
  | none =>
    obtain rfl : entries = [] := h
    simp [searchDominant, Dominates]
  | some port =>
    obtain ⟨hmem, hmax, htied⟩ := h
    simp only at hmem hmax htied
    by_cases hgt : entry.2 > weight
    · -- the entry is above all others
      rw [searchDominant, if_pos (Or.inr hgt)]
      refine ⟨by simp, ?_, ?_⟩
      · intro e he
        rcases List.mem_append.mp he with he | he
        · exact UInt64.le_of_lt (UInt64.lt_of_le_of_lt (hmax e he) hgt)
        · obtain rfl := List.mem_singleton.mp he
          exact UInt64.le_refl _
      · refine ⟨fun hfalse => absurd hfalse (by simp), ?_⟩
        rintro ⟨e, he, hport, hweight⟩
        rcases List.mem_append.mp he with he | he
        · have heq : e.2 = entry.2 := hweight
          exact absurd (heq ▸ hmax e he) (UInt64.not_le.mpr hgt)
        · exact absurd (congrArg Prod.fst (List.mem_singleton.mp he)) hport
    · have hle : entry.2 ≤ weight := UInt64.not_lt.mp hgt
      have hmax' : ∀ e ∈ entries ++ [entry], e.2 ≤ weight := by
        intro e he
        rcases List.mem_append.mp he with he | he
        · exact hmax e he
        · exact List.mem_singleton.mp he ▸ hle
      rw [searchDominant, if_neg (by simpa using hle)]
      by_cases heq : entry.2 = weight
      · -- another port has the same weight
        rw [if_pos heq]
        refine ⟨List.mem_append_left _ hmem, hmax', ?_⟩
        refine ⟨fun _ => ⟨entry, by simp, (hnew _ hmem).symm, heq⟩, fun _ => rfl⟩
      · rw [if_neg heq]
        refine ⟨List.mem_append_left _ hmem, hmax', htied.trans ?_⟩
        constructor
        · rintro ⟨e, he, hport, hweight⟩
          exact ⟨e, List.mem_append_left _ he, hport, hweight⟩
        · rintro ⟨e, he, hport, hweight⟩
          rcases List.mem_append.mp he with he | he
          · exact ⟨e, he, hport, hweight⟩
          · exact absurd (List.mem_singleton.mp he ▸ hweight) heq

/-- The search over entries with distinct ports. -/
theorem dominates_foldl {entries : List (UInt16 × UInt64)}
    (hnodup : (entries.map Prod.fst).Nodup) : Dominates (entries.foldl searchDominant {}) entries := by
  have hrun : ∀ (rest seen : List (UInt16 × UInt64)) (search : DominanceSearch),
      ((seen ++ rest).map Prod.fst).Nodup → Dominates search seen →
      Dominates (rest.foldl searchDominant search) (seen ++ rest) := by
    intro rest
    induction rest with
    | nil =>
      intro seen search _ h
      rw [List.append_nil]
      exact h
    | cons entry rest ih =>
      intro seen search hnodup h
      have hnew : ∀ e ∈ seen, e.1 ≠ entry.1 := by
        intro e he heq
        rw [List.map_append, List.nodup_append] at hnodup
        exact hnodup.2.2 _ (List.mem_map.mpr ⟨e, he, rfl⟩) _ (by simp) heq
      have hnext := ih (seen ++ [entry]) _ (by simpa using hnodup) (h.next hnew)
      simpa using hnext
  exact hrun entries [] {} hnodup rfl

/-! ### The weights of the ports -/

theorem Counts.mem_toList_iff {weights : PortWeights} {samples : List DirectedPacket}
    (h : Counts weights samples) {port : UInt16} {weight : UInt64} :
    (port, weight) ∈ weights.destinationPortWeights.toList ↔
      port ∈ samples.map (·.destinationPort) ∧ weight.toNat = portWeight samples port := by
  have hport := h.ports port
  rw [ExtTreeMap.mem_toList_iff_getElem?_eq_some]
  constructor
  · intro hweight
    rw [hweight, Option.map_some] at hport
    by_cases hmem : port ∈ samples.map (·.destinationPort)
    · rw [if_pos hmem] at hport
      exact ⟨hmem, Option.some.inj hport⟩
    · rw [if_neg hmem] at hport
      exact absurd hport (by simp)
  · rintro ⟨hmem, hweight⟩
    rw [if_pos hmem, Option.map_eq_some_iff] at hport
    obtain ⟨w, hw, heq⟩ := hport
    rw [hw, UInt64.toNat_inj.mp (heq.trans hweight.symm)]

theorem nodup_toList (m : ExtTreeMap UInt16 UInt64) : (m.toList.map Prod.fst).Nodup := by
  rw [ExtTreeMap.map_fst_toList_eq_keys]
  exact ExtTreeMap.nodup_keys

/-- A port without a sample has no weight. -/
theorem portWeight_of_notMem {samples : List DirectedPacket} {port : UInt16}
    (h : port ∉ samples.map (·.destinationPort)) : portWeight samples port = 0 := by
  rw [portWeight, weightOf_of_notMem h]
  rfl

/-- If there is any weight, some port has a sample. -/
theorem Counts.not_isEmpty {weights : PortWeights} {samples : List DirectedPacket}
    (h : Counts weights samples) (hpos : 0 < samplesWeight samples) :
    weights.destinationPortWeights.isEmpty = false := by
  cases samples with
  | nil => exact absurd hpos (by decide)
  | cons packet samples =>
    rw [Bool.eq_false_iff]
    intro hempty
    have hport := h.ports packet.destinationPort
    rw [ExtTreeMap.isEmpty_iff.mp hempty] at hport
    simp at hport

/-- If there is any weight, some port has one. -/
theorem exists_portWeight_pos {samples : List DirectedPacket} (hpos : 0 < samplesWeight samples) :
    ∃ port, 0 < portWeight samples port := by
  by_contra hnone
  have hzero : ∀ packet ∈ samples, sampleWeight packet = 0 := by
    intro packet hpacket
    by_contra hne
    apply hnone
    refine ⟨packet.destinationPort, ?_⟩
    have hmem : sampleWeight packet ∈ (samples.filter fun p : DirectedPacket =>
        p.destinationPort = packet.destinationPort).map sampleWeight :=
      List.mem_map.mpr ⟨packet, List.mem_filter.mpr ⟨hpacket, by simp⟩, rfl⟩
    have hle : sampleWeight packet
        ≤ weightOf (·.destinationPort) sampleWeight samples packet.destinationPort :=
      List.single_le_sum (fun _ _ => Nat.zero_le _) _ hmem
    rw [portWeight, maxUInt64]
    omega
  have hsum : (samples.map sampleWeight).sum = 0 := by
    rw [List.sum_eq_zero_iff]
    intro w hw
    obtain ⟨packet, hpacket, rfl⟩ := List.mem_map.mp hw
    exact hzero packet hpacket
  rw [samplesWeight, hsum] at hpos
  exact absurd hpos (by simp)

/-- What the search over the counted ports finds. -/
theorem Counts.search {weights : PortWeights} {samples : List DirectedPacket}
    (h : Counts weights samples) (hpos : 0 < samplesWeight samples) :
    let search := weights.destinationPortWeights.toList.foldl searchDominant {}
    ∃ port, search.dominantPort = some port ∧ search.dominantWeight.toNat = portWeight samples port ∧
      (∀ other, portWeight samples other ≤ portWeight samples port) ∧
      (search.tiedForDominance = false ↔
        ∀ other, other ≠ port → portWeight samples other < portWeight samples port) := by
  intro search
  have hdominates : Dominates search weights.destinationPortWeights.toList :=
    dominates_foldl (nodup_toList _)
  rw [Dominates] at hdominates
  cases hdominant : search.dominantPort with
  | none =>
    rw [hdominant] at hdominates
    have hempty := h.not_isEmpty hpos
    rw [ExtTreeMap.toList_eq_nil_iff.mp hdominates] at hempty
    exact absurd hempty (by simp)
  | some port =>
    rw [hdominant] at hdominates
    obtain ⟨hmem, hmax, htied⟩ := hdominates
    obtain ⟨-, hweight⟩ := h.mem_toList_iff.mp hmem
    have hle : ∀ other, portWeight samples other ≤ portWeight samples port := by
      intro other
      by_cases hother : other ∈ samples.map (·.destinationPort)
      · have hport := h.ports other
        rw [if_pos hother, Option.map_eq_some_iff] at hport
        obtain ⟨w, hw, heq⟩ := hport
        have hwmax := hmax (other, w) (ExtTreeMap.mem_toList_iff_getElem?_eq_some.mpr hw)
        rw [UInt64.le_iff_toNat_le] at hwmax
        rw [← heq, ← hweight]
        exact hwmax
      · rw [portWeight_of_notMem hother]
        exact Nat.zero_le _
    obtain ⟨some_port, hsome⟩ := exists_portWeight_pos hpos
    have hportPos : 0 < portWeight samples port := Nat.lt_of_lt_of_le hsome (hle some_port)
    refine ⟨port, rfl, hweight, hle, ?_⟩
    rw [← Bool.not_eq_true, htied]
    constructor
    · intro hnone other hother
      refine Nat.lt_of_le_of_ne (hle other) fun heq => hnone ?_
      have hmemOther : other ∈ samples.map (·.destinationPort) := by
        by_contra hnot
        rw [portWeight_of_notMem hnot] at heq
        omega
      exact ⟨(other, search.dominantWeight),
        h.mem_toList_iff.mpr ⟨hmemOther, hweight.trans heq.symm⟩, hother, rfl⟩
    · rintro hlt ⟨⟨other, w⟩, hentry, hother, hw⟩
      obtain ⟨-, hwOther⟩ := h.mem_toList_iff.mp hentry
      have hltOther := hlt other hother
      have heq : w = search.dominantWeight := hw
      rw [← hwOther, ← hweight, heq] at hltOther
      exact absurd hltOther (Nat.lt_irrefl _)

/-! ### The specification -/

/-- When a port is to be selected: the attack is an incoming one of TCP or UDP, enough
samples qualify, they have a weight, and the port alone has the greatest part of it, of
at least the percentage that is asked for. -/
def Selects (victimIpv4 : UInt32) (currentAttack : AttackDetails)
    (packetSamples : List DirectedPacket) (classifierConfig : PortClassifierConfig)
    (port : UInt16) : Prop :=
  let samples := qualifying victimIpv4 currentAttack.attackProtocol packetSamples
  currentAttack.attackDirection = .incoming ∧
    isTcpOrUdpAttack currentAttack.attackProtocol = true ∧
    classifierConfig.minSamples.toNat ≤ samples.length ∧ 0 < samplesWeight samples ∧
    (∀ other, other ≠ port → portWeight samples other < portWeight samples port) ∧
    samplesWeight samples * classifierConfig.dominancePercent.toNat
      ≤ 100 * portWeight samples port

/-- The number of samples is compared as it is, although it is capped. -/
theorem Counts.count_lt_iff {weights : PortWeights} {samples : List DirectedPacket}
    (h : Counts weights samples) (minSamples : UInt64) :
    weights.qualifyingSampleCount < minSamples ↔ samples.length < minSamples.toNat := by
  have hlt := minSamples.toNat_lt
  rw [UInt64.lt_iff_toNat_lt, h.count, maxUInt64]
  omega

theorem Counts.total_eq_zero_iff {weights : PortWeights} {samples : List DirectedPacket}
    (h : Counts weights samples) : weights.totalWeight = 0 ↔ samplesWeight samples = 0 := by
  rw [← h.total, ← UInt64.toNat_inj]
  rfl

/-- The result without any weight. -/
theorem classify_of_no_weight {victimIpv4 : UInt32} {currentAttack : AttackDetails}
    {packetSamples : List DirectedPacket} {classifierConfig : PortClassifierConfig}
    (hzero : samplesWeight (qualifying victimIpv4 currentAttack.attackProtocol packetSamples) = 0) :
    let result := classifyGobgpFlowspecDestinationPort victimIpv4 currentAttack packetSamples
      classifierConfig
    result.selectedDestinationPort = none ∧ result.dominancePercent = 0 := by
  have hcounts := counts_foldl (countSample_eq victimIpv4 currentAttack) packetSamples
  rw [classifyGobgpFlowspecDestinationPort]
  split
  · exact ⟨rfl, rfl⟩
  split
  · exact ⟨rfl, rfl⟩
  · rw [if_pos (Or.inr (hcounts.total_eq_zero_iff.mpr hzero))]
    exact ⟨rfl, rfl⟩

/-- The result of an incoming TCP or UDP attack with some weight. -/
theorem classify_of_weight {victimIpv4 : UInt32} {currentAttack : AttackDetails}
    {packetSamples : List DirectedPacket} (classifierConfig : PortClassifierConfig)
    (hincoming : currentAttack.attackDirection = .incoming)
    (hprotocol : isTcpOrUdpAttack currentAttack.attackProtocol = true)
    (hpos : 0 < samplesWeight
      (qualifying victimIpv4 currentAttack.attackProtocol packetSamples)) :
    let samples := qualifying victimIpv4 currentAttack.attackProtocol packetSamples
    let result := classifyGobgpFlowspecDestinationPort victimIpv4 currentAttack packetSamples
      classifierConfig
    ∃ port, (∀ other, portWeight samples other ≤ portWeight samples port) ∧
      result.dominancePercent.toNat
        = min 100 (100 * portWeight samples port / samplesWeight samples) ∧
      ∃ weight total : UInt64, weight.toNat = portWeight samples port ∧
        total.toNat = samplesWeight samples ∧
        ∀ selected, result.selectedDestinationPort = some selected ↔
          selected = port ∧ classifierConfig.minSamples.toNat ≤ samples.length ∧
            (∀ other, other ≠ port → portWeight samples other < portWeight samples port) ∧
            meetsDominancePercent weight total classifierConfig.dominancePercent = true := by
  intro samples result
  have hcounts : Counts (packetSamples.foldl (countSample victimIpv4 currentAttack) {}) samples :=
    counts_foldl (countSample_eq victimIpv4 currentAttack) packetSamples
  obtain ⟨port, hport, hweight, hle, htied⟩ := hcounts.search hpos
  have hnotEmpty : ¬ ((packetSamples.foldl (countSample victimIpv4 currentAttack)
      {}).destinationPortWeights.isEmpty = true ∨
      (packetSamples.foldl (countSample victimIpv4 currentAttack) {}).totalWeight = 0) := by
    rw [hcounts.not_isEmpty hpos, hcounts.total_eq_zero_iff]
    rintro (h | h)
    · exact absurd h (by simp)
    · exact absurd h (Nat.ne_of_gt hpos)
  simp only [result, classifyGobgpFlowspecDestinationPort]
  rw [if_neg (not_not_intro hincoming), hprotocol, Bool.not_true, if_neg (by decide),
    if_neg hnotEmpty]
  generalize packetSamples.foldl (countSample victimIpv4 currentAttack) {} = weights at *
  generalize weights.destinationPortWeights.toList.foldl searchDominant {} = search at *
  have hpercentEq := calculateDominancePercent_toNat search.dominantWeight weights.totalWeight
  rw [hcounts.total, hweight] at hpercentEq
  refine ⟨port, hle, ?_, search.dominantWeight, weights.totalWeight, hweight, hcounts.total, ?_⟩
  · split
    · exact hpercentEq
    split
    · exact hpercentEq
    split
    · exact hpercentEq
    · exact hpercentEq
  · intro selected
    split
    · rename_i hfew
      have hlt := (hcounts.count_lt_iff _).mp hfew
      refine ⟨fun h => absurd h (by simp), fun h => ?_⟩
      exact absurd h.2.1 (Nat.not_le.mpr hlt)
    rename_i hmany
    have hcount := Nat.not_lt.mp (mt (hcounts.count_lt_iff _).mpr hmany)
    split
    · rename_i htie
      refine ⟨fun h => absurd h (by simp), fun h => ?_⟩
      rw [htied.mpr h.2.2.1] at htie
      exact absurd htie (by simp)
    rename_i hnotie
    have halone := htied.mp (Bool.eq_false_iff.mpr hnotie)
    split
    · rename_i hbelow
      refine ⟨fun h => absurd h (by simp), fun h => ?_⟩
      rw [h.2.2.2] at hbelow
      exact absurd hbelow (by simp)
    · rename_i hnotBelow
      have hmeets : meetsDominancePercent search.dominantWeight weights.totalWeight
          classifierConfig.dominancePercent = true := by simpa using hnotBelow
      simp only [hport, Option.some.injEq]
      exact ⟨fun h => ⟨h.symm, hcount, halone, hmeets⟩, fun h => h.1.symm⟩

/-- An attack for which a port is selected is an incoming one of TCP or UDP, and its
samples have some weight. -/
theorem classify_selected {victimIpv4 : UInt32} {currentAttack : AttackDetails}
    {packetSamples : List DirectedPacket} {classifierConfig : PortClassifierConfig} {port : UInt16}
    (h : (classifyGobgpFlowspecDestinationPort victimIpv4 currentAttack packetSamples
      classifierConfig).selectedDestinationPort = some port) :
    currentAttack.attackDirection = .incoming ∧
      isTcpOrUdpAttack currentAttack.attackProtocol = true ∧
      0 < samplesWeight (qualifying victimIpv4 currentAttack.attackProtocol packetSamples) := by
  refine ⟨?_, ?_, ?_⟩
  · by_contra hincoming
    rw [classifyGobgpFlowspecDestinationPort, if_pos hincoming] at h
    exact absurd h (by simp)
  · by_contra hprotocol
    rw [Bool.not_eq_true] at hprotocol
    rw [classifyGobgpFlowspecDestinationPort, hprotocol] at h
    split at h
    · exact absurd h (by simp)
    · rw [Bool.not_false, if_pos rfl] at h
      exact absurd h (by simp)
  · refine Nat.pos_of_ne_zero fun hzero => ?_
    rw [(classify_of_no_weight hzero).1] at h
    exact absurd h (by simp)

/-- **The initial port classifier.**  A port is selected exactly if it is to be; the
percentage is that of the greatest weight, and no more than 100; and the result is the
same for the samples in any order. -/
theorem port_classifier_spec (victimIpv4 : UInt32) (currentAttack : AttackDetails)
    (packetSamples : List DirectedPacket) (classifierConfig : PortClassifierConfig)
    (hpercent : classifierConfig.dominancePercent ≤ 100) :
    (∀ port, (classifyGobgpFlowspecDestinationPort victimIpv4 currentAttack packetSamples
        classifierConfig).selectedDestinationPort = some port ↔
      Selects victimIpv4 currentAttack packetSamples classifierConfig port) ∧
    (currentAttack.attackDirection = .incoming →
      isTcpOrUdpAttack currentAttack.attackProtocol = true → ∀ port,
      let samples := qualifying victimIpv4 currentAttack.attackProtocol packetSamples
      (∀ other, portWeight samples other ≤ portWeight samples port) →
      (classifyGobgpFlowspecDestinationPort victimIpv4 currentAttack packetSamples
          classifierConfig).dominancePercent.toNat
        = min 100 (100 * portWeight samples port / samplesWeight samples)) ∧
    (∀ packetSamples', packetSamples.Perm packetSamples' →
      classifyGobgpFlowspecDestinationPort victimIpv4 currentAttack packetSamples' classifierConfig
        = classifyGobgpFlowspecDestinationPort victimIpv4 currentAttack packetSamples
          classifierConfig) := by
  refine ⟨?_, ?_, ?_⟩
  · intro port
    rw [Selects]
    constructor
    · intro hselected
      obtain ⟨hincoming, hprotocol, hpos⟩ := classify_selected hselected
      obtain ⟨dominant, -, -, weight, total, hweight, htotal, hiff⟩ :=
        classify_of_weight classifierConfig hincoming hprotocol hpos
      obtain ⟨rfl, hcount, halone, hmeets⟩ := (hiff port).mp hselected
      have hshare := ((meetsDominancePercent_iff hpercent).mp hmeets).2
      rw [hweight, htotal] at hshare
      exact ⟨hincoming, hprotocol, hcount, hpos, halone, hshare⟩
    · rintro ⟨hincoming, hprotocol, hcount, hpos, halone, hshare⟩
      obtain ⟨dominant, hle, -, weight, total, hweight, htotal, hiff⟩ :=
        classify_of_weight classifierConfig hincoming hprotocol hpos
      -- no other port has as much as the one that is alone at the top
      have heq : port = dominant := by
        by_contra hne
        exact absurd (hle port) (Nat.not_le.mpr (halone dominant (Ne.symm hne)))
      subst heq
      refine (hiff port).mpr ⟨rfl, hcount, halone, (meetsDominancePercent_iff hpercent).mpr ?_⟩
      rw [hweight, htotal]
      exact ⟨hpos, hshare⟩
  · intro hincoming hprotocol port samples hmax
    rcases Nat.eq_zero_or_pos (samplesWeight samples) with hzero | hpos
    · rw [(classify_of_no_weight hzero).2, hzero, Nat.div_zero]
      rfl
    · obtain ⟨dominant, hle, hdominance, -⟩ :=
        classify_of_weight classifierConfig hincoming hprotocol hpos
      have heq : portWeight samples dominant = portWeight samples port :=
        Nat.le_antisymm (hmax dominant) (hle port)
      rw [hdominance, heq]
  · intro packetSamples' hperm
    have h := counts_foldl (countSample_eq victimIpv4 currentAttack) packetSamples
    have h' := counts_foldl (countSample_eq victimIpv4 currentAttack) packetSamples'
    simp only [classifyGobgpFlowspecDestinationPort, h.ext h' (hperm.filter _)]

/-- Ten samples of one port and one of another. -/
def samplesOfPort53 : List DirectedPacket :=
  List.replicate 10 { dstIp := 1, protocol := 17, destinationPort := 53,
                      packetDirection := .incoming } ++
    [{ dstIp := 1, protocol := 17, destinationPort := 123, packetDirection := .incoming }]

/-- The port with most samples is selected with 90 percent. -/
theorem samplesOfPort53_selects :
    (classifyGobgpFlowspecDestinationPort 1 { attackDirection := .incoming, attackProtocol := 17 }
      samplesOfPort53 {}).selectedDestinationPort = some 53 := by
  refine ((port_classifier_spec 1 { attackDirection := .incoming, attackProtocol := 17 }
    samplesOfPort53 {} (by decide)).1 53).mpr ?_
  refine ⟨rfl, by decide, by decide, by decide, ?_, by decide⟩
  intro other hother
  by_cases hother' : other = 123
  · subst hother'
    decide
  · have hports : (qualifying 1 17 samplesOfPort53).map (·.destinationPort)
        = List.replicate 10 53 ++ [123] := by decide
    have hnot : other ∉ (qualifying 1 17 samplesOfPort53).map (·.destinationPort) := by
      rw [hports]
      simp [hother, hother']
    rw [portWeight_of_notMem hnot]
    decide

end FastNetMon
