/-
FastNetMon/DaemonClassifiers.lean

The daemon with the port classifiers of `gobgp_flowspec_port_classifier.cpp`.

The threads of the daemon take the two classifiers from their configuration.  Here they
are the modelled ones, on the packets of a bucket, with the options that
`fastnetmon_logic.cpp` passes on.  A refresh finds ports for TCP and UDP only, as the
workers take for granted (`protocol_of_significantPorts`).  Main result: a refresh worker
is started with just the significant ports of the active protocols
(`refreshProcess_classified`).
-/
import Mathlib
import FastNetMon.Daemon
import FastNetMon.RefreshClassifier

namespace FastNetMon

/-- The options of the classifiers. -/
structure ClassifierOptions where
  gobgpFlowspecPortMinSamples : UInt64 := 10
  gobgpFlowspecPortDominancePercent : UInt8 := 70
  gobgpFlowspecRefreshPortMinSharePercent : UInt8 := 20

/-- `classifier_config`. -/
def ClassifierOptions.classifierConfig (options : ClassifierOptions) : PortClassifierConfig where
  minSamples := options.gobgpFlowspecPortMinSamples
  dominancePercent := options.gobgpFlowspecPortDominancePercent

/-- Only TCP and UDP have significant ports. -/
theorem protocol_of_significantPorts {victimIpv4 : UInt32} {activeProtocols : List IpProtocol}
    {packetSamples : List DirectedPacket} {classifierConfig : PortClassifierConfig}
    {sharePercent : UInt8} :
    ∀ result ∈ classifyGobgpFlowspecRefreshProtocols victimIpv4 activeProtocols packetSamples
      classifierConfig sharePercent,
      result.significantPorts ≠ [] → result.protocol = .TCP ∨ result.protocol = .UDP := by
  intro result hresult hports
  obtain ⟨protocol, -, rfl⟩ := List.mem_map.mp hresult
  rw [classifyRefreshProtocol_protocol]
  rw [classifyRefreshProtocol] at hports
  split at hports
  · exact absurd rfl hports
  split at hports
  · exact absurd rfl hports
  · tauto

/-- A result, as the refresh worker acts on it. -/
def RefreshProtocolResult.forWorker (result : RefreshProtocolResult)
    (h : result.significantPorts ≠ [] → result.protocol = .TCP ∨ result.protocol = .UDP) :
    GobgpFlowspecRefreshProtocolResult where
  protocol := result.protocol
  significantPorts := result.significantPorts.map (·.destinationPort)
  ports_protocol hports := h (mt List.map_eq_nil_iff.mpr hports)

/-- The configuration with the two classifiers. -/
def DaemonConfiguration.withClassifiers (config : DaemonConfiguration)
    (options : ClassifierOptions) : DaemonConfiguration :=
  { config with
    classifyGobgpFlowspecDestinationPort := fun victimIpv4 currentAttack packetSamples =>
      (FastNetMon.classifyGobgpFlowspecDestinationPort victimIpv4 currentAttack
        (packetSamples.map SimplePacket.fields) options.classifierConfig).selectedDestinationPort
    classifyGobgpFlowspecRefreshProtocols := fun victimIpv4 activeProtocols packetSamples =>
      (FastNetMon.classifyGobgpFlowspecRefreshProtocols victimIpv4 activeProtocols
        (packetSamples.map SimplePacket.fields) options.classifierConfig
        options.gobgpFlowspecRefreshPortMinSharePercent).pmap
          RefreshProtocolResult.forWorker protocol_of_significantPorts }

variable {config : DaemonConfiguration} {options : ClassifierOptions}

/-- The results of the refresh classifier are those of the active protocols. -/
theorem withClassifiers_results (victimIpv4 : UInt32) (activeProtocols : List IpProtocol)
    (packetSamples : List SimplePacket) :
    let results := (config.withClassifiers options).classifyGobgpFlowspecRefreshProtocols
      victimIpv4 activeProtocols packetSamples
    results.map (·.protocol) = activeProtocols ∧
    ∀ result ∈ results, ∃ protocol, result.protocol = protocol ∧
      result.significantPorts = (classifyRefreshProtocol victimIpv4
        (packetSamples.map SimplePacket.fields) options.classifierConfig
        options.gobgpFlowspecRefreshPortMinSharePercent protocol).significantPorts.map
          (·.destinationPort) := by
  intro results
  constructor
  · simp only [results, DaemonConfiguration.withClassifiers, List.map_pmap,
      RefreshProtocolResult.forWorker, List.pmap_eq_map, classifyGobgpFlowspecRefreshProtocols,
      List.map_map, Function.comp_def, classifyRefreshProtocol_protocol, List.map_id']
  · intro result hresult
    obtain ⟨classified, hclassified, rfl⟩ := List.mem_pmap.mp hresult
    obtain ⟨protocol, -, rfl⟩ := List.mem_map.mp hclassified
    exact ⟨protocol, classifyRefreshProtocol_protocol _ _ _ _ _, rfl⟩

/-- The active protocols whose rules the refresh may change: without port detection they are
neither TCP nor UDP. -/
def DaemonConfiguration.refreshedProtocols (config : DaemonConfiguration)
    (snapshot : GobgpFlowspecProtocolAdmissionSnapshot) : List IpProtocol :=
  if config.gobgpFlowspecPortDetection then getGobgpFlowspecActiveProtocols snapshot
  else (getGobgpFlowspecActiveProtocols snapshot).filter fun protocol =>
    protocol ≠ .TCP ∧ protocol ≠ .UDP

/-- A refresh worker gets what the classifier says about these protocols. -/
theorem refreshManage_of_mem {snapshot : GobgpFlowspecProtocolAdmissionSnapshot}
    {victimIpv4 victim : UInt32} {packetSamples : List SimplePacket}
    {results : List GobgpFlowspecRefreshProtocolResult}
    (h : .flowspec (.refreshManage victim results) ∈
      gobgpFlowspecRefreshProcessIpv4Capture config (some snapshot) victimIpv4 packetSamples) :
    victim = victimIpv4 ∧ results = config.classifyGobgpFlowspecRefreshProtocols victimIpv4
      (config.refreshedProtocols snapshot) packetSamples := by
  simp only [gobgpFlowspecRefreshProcessIpv4Capture] at h
  split at h
  · cases h
  split at h
  · cases List.mem_singleton.mp h
  rw [← DaemonConfiguration.refreshedProtocols] at h
  split at h
  · cases List.mem_singleton.mp h
  · simpa using List.mem_singleton.mp h

/-- **What a refresh worker is started with.**  When a capture has been processed, a worker gets
one result for each active protocol, and for TCP and UDP it lists exactly the significant ports
of the captured packets, in ascending order. -/
theorem refreshProcess_classified {snapshot : GobgpFlowspecProtocolAdmissionSnapshot}
    {victimIpv4 victim : UInt32} {packetSamples : List SimplePacket}
    {results : List GobgpFlowspecRefreshProtocolResult}
    (hpos : 1 ≤ options.gobgpFlowspecRefreshPortMinSharePercent)
    (hle : options.gobgpFlowspecRefreshPortMinSharePercent ≤ 100)
    (h : .flowspec (.refreshManage victim results) ∈
      gobgpFlowspecRefreshProcessIpv4Capture (config.withClassifiers options) (some snapshot)
        victimIpv4 packetSamples) :
    victim = victimIpv4 ∧
    results.map (·.protocol) = config.refreshedProtocols snapshot ∧
    ∀ result ∈ results, result.protocol = .TCP ∨ result.protocol = .UDP →
      ∃ ports : List UInt16, result.significantPorts = ports.map some ∧
        ports.Pairwise (· < ·) ∧
        ∀ port, port ∈ ports ↔ Significant victimIpv4 result.protocol
          (packetSamples.map SimplePacket.fields) options.classifierConfig
          options.gobgpFlowspecRefreshPortMinSharePercent port := by
  obtain ⟨rfl, rfl⟩ := refreshManage_of_mem h
  obtain ⟨hprotocols, hresults⟩ := (@withClassifiers_results config options) victim
    (config.refreshedProtocols snapshot) packetSamples
  refine ⟨rfl, hprotocols, fun result hresult hprotocol => ?_⟩
  obtain ⟨protocol, hsame, hports⟩ := hresults result hresult
  rw [hsame] at hprotocol ⊢
  obtain ⟨ports, heq, hsorted, hmem, -⟩ := classifyRefreshProtocol_spec victim
    (packetSamples.map SimplePacket.fields) options.classifierConfig
    (UInt8.le_iff_toNat_le.mp hpos) hle hprotocol
  rw [classifyRefreshProtocol_protocol] at hmem
  exact ⟨ports, hports.trans heq, hsorted, hmem⟩

end FastNetMon
