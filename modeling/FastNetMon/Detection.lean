/-
FastNetMon/Detection.lean

From the speeds of a host to an attack (`speed_calculation_callback_local_ipv4`).

The settings of a host are those of the host group of its network, and its network is the
longest one in the tree.  Nine triggers are tried in a fixed order (`banTriggers`); hosts on
the whitelist are spared, and so are those that are captured or banned already.  Main
results: when an attack is detected and what is known of it
(`speedCalculationCallbackLocalIpv4_run`), and that an attack goes on as long as the speeds
that raised it (`attackIsFinished_run`).

The conversion of bytes to megabits is in floating point and is a parameter.
-/
import FastNetMon.AttackInformation
import FastNetMon.OwnNetworks
import FastNetMon.Texts

namespace FastNetMon

/-! ### Thresholds -/

/-- `attack_detection_threshold_type_t`. -/
inductive AttackDetectionThresholdType
  | unknown
  | packetsPerSecond
  | bytesPerSecond
  | flowsPerSecond
  | tcpPacketsPerSecond
  | udpPacketsPerSecond
  | icmpPacketsPerSecond
  | tcpBytesPerSecond
  | udpBytesPerSecond
  | icmpBytesPerSecond
  | tcpSynPacketsPerSecond
  | tcpSynBytesPerSecond
  | ipFragmentsPacketsPerSecond
  | ipFragmentsBytesPerSecond
deriving DecidableEq, Repr

/-- `ban_settings_t`. -/
structure BanSettings where
  enableBan : Bool := false
  enableBanIpv6 : Bool := false
  enableBanForPps : Bool := false
  enableBanForBandwidth : Bool := false
  enableBanForFlowsPerSecond : Bool := false
  enableBanForTcpPps : Bool := false
  enableBanForTcpBandwidth : Bool := false
  enableBanForUdpPps : Bool := false
  enableBanForUdpBandwidth : Bool := false
  enableBanForIcmpPps : Bool := false
  enableBanForIcmpBandwidth : Bool := false
  banThresholdTcpMbps : UInt32 := 0
  banThresholdTcpPps : UInt32 := 0
  banThresholdUdpMbps : UInt32 := 0
  banThresholdUdpPps : UInt32 := 0
  banThresholdIcmpMbps : UInt32 := 0
  banThresholdIcmpPps : UInt32 := 0
  banThresholdMbps : UInt32 := 0
  banThresholdFlows : UInt32 := 0
  banThresholdPps : UInt32 := 0
deriving DecidableEq, Repr

/-- The speeds of a host: `subnet_counter_t` with its flows. -/
structure SpeedElement extends SubnetCounter where
  inFlows : UInt64 := 0
  outFlows : UInt64 := 0

/-- `exceed_pps_speed`. -/
def exceedPpsSpeed (inCounter outCounter : UInt64) (threshold : UInt32) : Bool :=
  inCounter > threshold.toUInt64 || outCounter > threshold.toUInt64

/-- `exceed_flow_speed`. -/
def exceedFlowSpeed (inCounter outCounter : UInt64) (threshold : UInt32) : Bool :=
  inCounter > threshold.toUInt64 || outCounter > threshold.toUInt64

variable (convertSpeedToMbps : UInt64 → UInt64)

/-- `exceed_mbps_speed`. -/
def exceedMbpsSpeed (inCounter outCounter : UInt64) (thresholdMbps : UInt32) : Bool :=
  convertSpeedToMbps inCounter > thresholdMbps.toUInt64
    || convertSpeedToMbps outCounter > thresholdMbps.toUInt64

/-- `we_should_ban_this_entity`, with `attack_detection_source`; the direction stays unknown. -/
def weShouldBanThisEntity (averageSpeedElement : SpeedElement) (currentBanSettings : BanSettings) :
    Bool × AttackDetectionThresholdType :=
  if currentBanSettings.enableBanForPps
      && exceedPpsSpeed averageSpeedElement.total.inPackets averageSpeedElement.total.outPackets
        currentBanSettings.banThresholdPps then (true, .packetsPerSecond)
  else if currentBanSettings.enableBanForBandwidth
      && exceedMbpsSpeed convertSpeedToMbps averageSpeedElement.total.inBytes
        averageSpeedElement.total.outBytes currentBanSettings.banThresholdMbps then
    (true, .bytesPerSecond)
  else if currentBanSettings.enableBanForFlowsPerSecond
      && exceedFlowSpeed averageSpeedElement.inFlows averageSpeedElement.outFlows
        currentBanSettings.banThresholdFlows then (true, .flowsPerSecond)
  else if currentBanSettings.enableBanForTcpPps
      && exceedPpsSpeed averageSpeedElement.tcp.inPackets averageSpeedElement.tcp.outPackets
        currentBanSettings.banThresholdTcpPps then (true, .tcpPacketsPerSecond)
  else if currentBanSettings.enableBanForUdpPps
      && exceedPpsSpeed averageSpeedElement.udp.inPackets averageSpeedElement.udp.outPackets
        currentBanSettings.banThresholdUdpPps then (true, .udpPacketsPerSecond)
  else if currentBanSettings.enableBanForIcmpPps
      && exceedPpsSpeed averageSpeedElement.icmp.inPackets averageSpeedElement.icmp.outPackets
        currentBanSettings.banThresholdIcmpPps then (true, .icmpPacketsPerSecond)
  else if currentBanSettings.enableBanForTcpBandwidth
      && exceedMbpsSpeed convertSpeedToMbps averageSpeedElement.tcp.inBytes
        averageSpeedElement.tcp.outBytes currentBanSettings.banThresholdTcpMbps then
    (true, .tcpBytesPerSecond)
  else if currentBanSettings.enableBanForUdpBandwidth
      && exceedMbpsSpeed convertSpeedToMbps averageSpeedElement.udp.inBytes
        averageSpeedElement.udp.outBytes currentBanSettings.banThresholdUdpMbps then
    (true, .udpBytesPerSecond)
  else if currentBanSettings.enableBanForIcmpBandwidth
      && exceedMbpsSpeed convertSpeedToMbps averageSpeedElement.icmp.inBytes
        averageSpeedElement.icmp.outBytes currentBanSettings.banThresholdIcmpMbps then
    (true, .icmpBytesPerSecond)
  else (false, .unknown)

/-! ### Triggers -/

/-- A trigger: whether the settings switch it on, its threshold, and the speeds that are
compared with it. -/
structure BanTrigger where
  enabled : BanSettings → Bool
  threshold : BanSettings → UInt32
  speeds : SpeedElement → UInt64 × UInt64

/-- The triggers in the order in which they are tried. -/
def banTriggers : List (AttackDetectionThresholdType × BanTrigger) :=
  let mbps (element : TrafficCounterElement) :=
    (convertSpeedToMbps element.inBytes, convertSpeedToMbps element.outBytes)
  let pps (element : TrafficCounterElement) := (element.inPackets, element.outPackets)
  [(.packetsPerSecond, ⟨(·.enableBanForPps), (·.banThresholdPps), (pps ·.total)⟩),
    (.bytesPerSecond, ⟨(·.enableBanForBandwidth), (·.banThresholdMbps), (mbps ·.total)⟩),
    (.flowsPerSecond, ⟨(·.enableBanForFlowsPerSecond), (·.banThresholdFlows),
      fun element => (element.inFlows, element.outFlows)⟩),
    (.tcpPacketsPerSecond, ⟨(·.enableBanForTcpPps), (·.banThresholdTcpPps), (pps ·.tcp)⟩),
    (.udpPacketsPerSecond, ⟨(·.enableBanForUdpPps), (·.banThresholdUdpPps), (pps ·.udp)⟩),
    (.icmpPacketsPerSecond, ⟨(·.enableBanForIcmpPps), (·.banThresholdIcmpPps), (pps ·.icmp)⟩),
    (.tcpBytesPerSecond, ⟨(·.enableBanForTcpBandwidth), (·.banThresholdTcpMbps), (mbps ·.tcp)⟩),
    (.udpBytesPerSecond, ⟨(·.enableBanForUdpBandwidth), (·.banThresholdUdpMbps), (mbps ·.udp)⟩),
    (.icmpBytesPerSecond,
      ⟨(·.enableBanForIcmpBandwidth), (·.banThresholdIcmpMbps), (mbps ·.icmp)⟩)]

/-- A speed is above the threshold of a trigger that is switched on. -/
def BanTrigger.fires (trigger : BanTrigger) (settings : BanSettings) (element : SpeedElement) :
    Bool :=
  trigger.enabled settings
    && ((trigger.speeds element).1 > (trigger.threshold settings).toUInt64
      || (trigger.speeds element).2 > (trigger.threshold settings).toUInt64)

theorem elim_find?_cons {α β : Type} (p : α → Bool) (found : α → β) (notFound : β) (x : α)
    (xs : List α) : ((x :: xs).find? p).elim notFound found
      = if p x then found x else (xs.find? p).elim notFound found := by
  rw [List.find?_cons]
  cases p x <;> rfl

/-- **The first trigger that fires decides.** -/
theorem weShouldBanThisEntity_eq (element : SpeedElement) (settings : BanSettings) :
    weShouldBanThisEntity convertSpeedToMbps element settings =
      ((banTriggers convertSpeedToMbps).find? fun trigger => trigger.2.fires settings element).elim
        (false, .unknown) fun trigger => (true, trigger.1) := by
  simp only [banTriggers, elim_find?_cons]
  rfl

/-! ### Host groups -/

/-- What the detection takes from the configuration and from the trees. -/
structure DetectionContext where
  globalBanSettings : BanSettings
  subnetToHostGroups : SubnetCidrMask → Option Text
  hostGroupBanSettingsMap : Text → Option BanSettings
  lookupTreeIpv4 : PatriciaTree 4 UInt64
  whitelistTreeIpv4 : PatriciaTree 4 UInt64
  unbanEnabled : Bool := true
  globalBanTime : Int32 := 1800
  convertSpeedToMbps : UInt64 → UInt64

variable (context : DetectionContext)

/-- `get_ban_settings_for_this_subnet`, with the name of the host group. -/
def getBanSettingsForThisSubnet (subnet : SubnetCidrMask) : BanSettings × Text :=
  match context.subnetToHostGroups subnet with
  | none => (context.globalBanSettings, "global".toList)
  | some hostGroupName =>
      match context.hostGroupBanSettingsMap hostGroupName with
      | none => (context.globalBanSettings, hostGroupName)
      | some settings => (settings, hostGroupName)

/-! ### Detection -/

/-- `attack_details_t` at the end of the detection. -/
structure DetectedAttack extends AttackInformation where
  attackDetectionThreshold : AttackDetectionThresholdType := .unknown
  customerNetwork : SubnetCidrMask := {}

/-- `speed_calculation_callback_local_ipv4` up to the capture; the result is the attack that
is to be captured, if there is one.  What the storage of buckets and the ban list answer about
the host is given.  Outside, `none` is a failed assertion of a search. -/
def speedCalculationCallbackLocalIpv4 (clientIp : UInt32) (speedElement : SpeedElement)
    (weAlreadyHaveBucketsForThisIp thisIpIsAlreadyBanned : Bool) (now : Int) :
    Option (Option DetectedAttack) :=
  if !context.globalBanSettings.enableBan then some none
  else do
    let found ← lookupNetworkWhichIncludesIp context.lookupTreeIpv4 clientIp
    let customerSubnet := found.getD {}
    let (currentBanSettings, hostGroupName) := getBanSettingsForThisSubnet context customerSubnet
    if !currentBanSettings.enableBan then some none
    else
      let (shouldBlock, attackDetectionSource) :=
        weShouldBanThisEntity context.convertSpeedToMbps speedElement currentBanSettings
      if !shouldBlock then some none
      else do
        let inWhiteList ← lookupIp context.whitelistTreeIpv4 clientIp
        if inWhiteList then some none
        else if weAlreadyHaveBucketsForThisIp then some none
        else if thisIpIsAlreadyBanned then some none
        else
          let attackDetails : AttackInformation :=
            { trafficCounters := speedElement.toSubnetCounter }
          some (some { fillAttackInformation attackDetails hostGroupName [] context.unbanEnabled
              context.globalBanTime now with
            attackDetectionThreshold := attackDetectionSource
            customerNetwork := customerSubnet })

/-- `attack_is_finished` for IPv4; the average speed is missing if the host has no counters. -/
def attackIsFinished (clientIp : UInt32) (averageSpeedElement : Option SpeedElement) :
    Option Bool :=
  match averageSpeedElement with
  | none => some true
  | some averageSpeedElement => do
      let found ← lookupNetworkWhichIncludesIp context.lookupTreeIpv4 clientIp
      let (currentBanSettings, _) := getBanSettingsForThisSubnet context (found.getD {})
      let (shouldBlockStaticThresholds, _) :=
        weShouldBanThisEntity context.convertSpeedToMbps averageSpeedElement currentBanSettings
      some !shouldBlockStaticThresholds

/-- The settings for the hosts of a network: those of its host group. -/
def settingsOfNetwork (network : Option SubnetCidrMask) : BanSettings :=
  (getBanSettingsForThisSubnet context (network.getD {})).1

/-- The trigger that decides about a host of a network. -/
def triggerOfNetwork (network : Option SubnetCidrMask) (element : SpeedElement) :
    Option (AttackDetectionThresholdType × BanTrigger) :=
  (banTriggers context.convertSpeedToMbps).find? fun trigger =>
    trigger.2.fires (settingsOfNetwork context network) element

/-- The attack on a host of a network. -/
def attackOnHost (network : Option SubnetCidrMask) (speedElement : SpeedElement) (now : Int) :
    DetectedAttack :=
  { fillAttackInformation { trafficCounters := speedElement.toSubnetCounter }
      (getBanSettingsForThisSubnet context (network.getD {})).2 [] context.unbanEnabled
      context.globalBanTime now with
    attackDetectionThreshold := (weShouldBanThisEntity context.convertSpeedToMbps speedElement
      (settingsOfNetwork context network)).2
    customerNetwork := network.getD {} }

variable {context}
variable {subnets whitelist : List SubnetCidrMask}

theorem lookupNetworkWhichIncludesIp_eq {tree : PatriciaTree 4 UInt64}
    (htree : AnswersBy subnets tree) (ip : UInt32) :
    lookupNetworkWhichIncludesIp tree ip = some (networkOf tree ip) := by
  have hlookup := (htree ip).1
  rw [lookupIp, lookupNetwork] at hlookup
  rw [networkOf, lookupNetworkWhichIncludesIp, lookupNetworkWhichIncludes]
  rcases hsearch : patriciaSearchBest2 tree (ipv4Family.prefixForCheck ⟨ip, 32⟩) true with - | found
  · rw [hsearch] at hlookup
    cases hlookup
  · rfl

theorem AnswersBy.lookupIp_iff {tree : PatriciaTree 4 UInt64} (htree : AnswersBy subnets tree)
    (ip : UInt32) : ∃ found, lookupIp tree ip = some found ∧
      (found = true ↔ OwnAddress subnets ip) := by
  have hhost : (SubnetCidrMask.mk ip 32).cidrPrefixLength = 32 := rfl
  obtain ⟨found, hfound, hiff⟩ := lookupNetwork_host htree hhost
  exact ⟨found, hfound, hiff⟩

/-- The conditions for an attack on a host of a network. -/
structure UnderAttack (context : DetectionContext) (whitelist : List SubnetCidrMask)
    (network : Option SubnetCidrMask) (clientIp : UInt32) (element : SpeedElement) : Prop where
  globalBan : context.globalBanSettings.enableBan = true
  hostBan : (settingsOfNetwork context network).enableBan = true
  trigger : (triggerOfNetwork context network element).isSome
  notListed : ¬ OwnAddress whitelist clientIp

/-- What an attack says about its host. -/
structure DescribesHost (context : DetectionContext) (network : Option SubnetCidrMask)
    (element : SpeedElement) (attack : DetectedAttack) : Prop where
  threshold : (triggerOfNetwork context network element).map Prod.fst
    = some attack.attackDetectionThreshold
  network : attack.customerNetwork = network.getD {}
  hostGroup : attack.hostGroup = (getBanSettingsForThisSubnet context attack.customerNetwork).2
  counters : attack.trafficCounters = element.toSubnetCounter
  source : attack.attackDetectionSource = .automatic

theorem weShouldBanThisEntity_network (context : DetectionContext)
    (network : Option SubnetCidrMask) (element : SpeedElement) :
    weShouldBanThisEntity context.convertSpeedToMbps element (settingsOfNetwork context network) =
      ((triggerOfNetwork context network element).isSome,
        ((triggerOfNetwork context network element).map Prod.fst).getD .unknown) := by
  rw [weShouldBanThisEntity_eq, triggerOfNetwork]
  cases (banTriggers context.convertSpeedToMbps).find? _ with
  | none => rfl
  | some trigger => rfl

/-- The attack names the trigger that decided. -/
theorem describesHost_attackOnHost {network : Option SubnetCidrMask} {element : SpeedElement}
    (htrigger : (triggerOfNetwork context network element).isSome) (now : Int) :
    DescribesHost context network element (attackOnHost context network element now) := by
  obtain ⟨trigger, htrigger⟩ := Option.isSome_iff_exists.mp htrigger
  refine ⟨?_, rfl, rfl, rfl, rfl⟩
  have hban := weShouldBanThisEntity_network context network element
  rw [htrigger] at hban ⊢
  exact congrArg (fun decision => some decision.2) hban.symm

/-- The callback, with the answers of the trees put in. -/
theorem speedCalculationCallbackLocalIpv4_spec (context : DetectionContext)
    (htree : AnswersBy subnets context.lookupTreeIpv4)
    (hwhitelist : AnswersBy whitelist context.whitelistTreeIpv4) (clientIp : UInt32)
    (element : SpeedElement) (hasBucket isBanned : Bool) (now : Int) :
    let network := networkOf context.lookupTreeIpv4 clientIp
    ∃ result, speedCalculationCallbackLocalIpv4 context clientIp element hasBucket isBanned now
        = some result ∧
      (result.isSome ↔ UnderAttack context whitelist network clientIp element ∧
        hasBucket = false ∧ isBanned = false) ∧
      ∀ attack, result = some attack → DescribesHost context network element attack := by
  intro network
  -- every check that fails leaves the callback without an attack
  have hcalm : ∀ {result : Option (Option DetectedAttack)}, result = some none →
      ¬ (UnderAttack context whitelist network clientIp element ∧
        hasBucket = false ∧ isBanned = false) → ∃ attack, result = some attack ∧
        (attack.isSome ↔ UnderAttack context whitelist network clientIp element ∧
          hasBucket = false ∧ isBanned = false) ∧
        ∀ found, attack = some found → DescribesHost context network element found := by
    intro result hresult hnot
    refine ⟨none, hresult, iff_of_false Bool.false_ne_true hnot, ?_⟩
    intro found h
    cases h
  rw [speedCalculationCallbackLocalIpv4]
  by_cases hglobal : context.globalBanSettings.enableBan = true
  · rw [if_neg (by simp [hglobal]), lookupNetworkWhichIncludesIp_eq htree, Option.bind_eq_bind,
      Option.bind_some]
    by_cases hhost : (settingsOfNetwork context network).enableBan = true
    · have hon : ¬ (!(settingsOfNetwork context network).enableBan) = true := by simpa using hhost
      have hfires : (weShouldBanThisEntity context.convertSpeedToMbps element
          (settingsOfNetwork context network)).1
            = (triggerOfNetwork context network element).isSome :=
        congrArg Prod.fst (weShouldBanThisEntity_network context network element)
      by_cases htrigger : (triggerOfNetwork context network element).isSome = true
      · have hban : ¬ (!(weShouldBanThisEntity context.convertSpeedToMbps element
            (settingsOfNetwork context network)).1) = true := by
          rw [hfires, htrigger]
          exact Bool.false_ne_true
        obtain ⟨listed, hlisted, hown⟩ := hwhitelist.lookupIp_iff clientIp
        cases listed with
        | true =>
            have hlistedOwn : OwnAddress whitelist clientIp := hown.mp rfl
            apply hcalm ((if_neg hon).trans ((if_neg hban).trans _))
              fun h => h.1.notListed hlistedOwn
            rw [hlisted]
            rfl
        | false =>
            have hnot : ¬ OwnAddress whitelist clientIp := fun h => by cases hown.mpr h
            cases hasBucket with
            | true =>
                apply hcalm ((if_neg hon).trans ((if_neg hban).trans _)) fun h => by cases h.2.1
                rw [hlisted]
                rfl
            | false =>
                cases isBanned with
                | true =>
                    apply hcalm ((if_neg hon).trans ((if_neg hban).trans _))
                      fun h => by cases h.2.2
                    rw [hlisted]
                    rfl
                | false =>
                    refine ⟨some (attackOnHost context network element now), (if_neg hon).trans
                      ((if_neg hban).trans ?_),
                      iff_of_true rfl ⟨⟨hglobal, hhost, htrigger, hnot⟩, rfl, rfl⟩, ?_⟩
                    · rw [hlisted]
                      rfl
                    · intro attack h
                      obtain rfl := Option.some.inj h
                      exact describesHost_attackOnHost htrigger now
      · have hban : (!(weShouldBanThisEntity context.convertSpeedToMbps element
            (settingsOfNetwork context network)).1) = true := by
          rw [hfires]
          simpa using htrigger
        exact hcalm ((if_neg hon).trans (if_pos hban)) fun h => htrigger h.1.trigger
    · have hoff : (!(settingsOfNetwork context network).enableBan) = true := by simpa using hhost
      exact hcalm (if_pos hoff) fun h => hhost h.1.hostBan
  · exact hcalm (if_pos (by simpa using hglobal)) fun h => hglobal h.1.globalBan

theorem attackIsFinished_spec (context : DetectionContext)
    (htree : AnswersBy subnets context.lookupTreeIpv4)
    (clientIp : UInt32) (element : SpeedElement) :
    attackIsFinished context clientIp (some element) = some
      (triggerOfNetwork context (networkOf context.lookupTreeIpv4 clientIp) element).isNone := by
  have hban := weShouldBanThisEntity_network context (networkOf context.lookupTreeIpv4 clientIp)
    element
  rw [attackIsFinished, lookupNetworkWhichIncludesIp_eq htree, Option.bind_eq_bind,
    Option.bind_some]
  show some (!(weShouldBanThisEntity _ _ (settingsOfNetwork context _)).1) = _
  rw [hban, Option.not_isSome]

/-- The trees of a run are those of the configured networks. -/
def DetectionContext.withTrees (context : DetectionContext)
    (lookupTreeIpv4 whitelistTreeIpv4 : PatriciaTree 4 UInt64) : DetectionContext :=
  { context with lookupTreeIpv4, whitelistTreeIpv4 }

/-- The trees are not part of the conditions. -/
theorem underAttack_withTrees {tree whitelistTree : PatriciaTree 4 UInt64}
    {network : Option SubnetCidrMask} {clientIp : UInt32} {element : SpeedElement} :
    UnderAttack (context.withTrees tree whitelistTree) whitelist network clientIp element ↔
      UnderAttack context whitelist network clientIp element :=
  ⟨fun h => ⟨h.globalBan, h.hostBan, h.trigger, h.notListed⟩,
    fun h => ⟨h.globalBan, h.hostBan, h.trigger, h.notListed⟩⟩

/-- **When an attack is detected.**  The trees are built from any lists of own networks and of
whitelisted ones; then no search fails, and an attack on a host is to be captured if and only
if bans are on, both globally and for the group of its longest network, a trigger of this group
fires, no whitelisted network contains the host, it has no bucket and it is not banned. -/
theorem speedCalculationCallbackLocalIpv4_run (subnets whitelist : List SubnetCidrMask) :
    ∃ tree whitelistTree, subnets.foldlM (addSubnet ipv4Family) {} = some tree ∧
      whitelist.foldlM (addSubnet ipv4Family) {} = some whitelistTree ∧
      ∀ (context : DetectionContext) (clientIp : UInt32) (element : SpeedElement)
        (weAlreadyHaveBucketsForThisIp thisIpIsAlreadyBanned : Bool) (now : Int),
        ∃ network result, LongestNetwork subnets ⟨clientIp, 32⟩ network ∧
          speedCalculationCallbackLocalIpv4 (context.withTrees tree whitelistTree) clientIp element
            weAlreadyHaveBucketsForThisIp thisIpIsAlreadyBanned now = some result ∧
          (result.isSome ↔ UnderAttack context whitelist network clientIp element ∧
            weAlreadyHaveBucketsForThisIp = false ∧ thisIpIsAlreadyBanned = false) ∧
          ∀ attack, result = some attack → DescribesHost context network element attack := by
  obtain ⟨tree, hrun, htree⟩ := networkOf_spec subnets
  obtain ⟨whitelistTree, hwhitelistRun, hwhitelist⟩ := networkOf_spec whitelist
  refine ⟨tree, whitelistTree, hrun, hwhitelistRun, ?_⟩
  intro context clientIp element hasBucket isBanned now
  have hanswers : AnswersBy subnets (context.withTrees tree whitelistTree).lookupTreeIpv4 := htree
  obtain ⟨result, hresult, hattack, hdescribes⟩ := speedCalculationCallbackLocalIpv4_spec
    (context.withTrees tree whitelistTree) hanswers hwhitelist clientIp element hasBucket isBanned
    now
  refine ⟨networkOf tree clientIp, result, (htree clientIp).2, hresult,
    hattack.trans (and_congr_left' underAttack_withTrees), ?_⟩
  intro attack h
  have hdescription := hdescribes attack h
  exact ⟨hdescription.threshold, hdescription.network, hdescription.hostGroup,
    hdescription.counters, hdescription.source⟩

/-- No speed that a trigger looks at has dropped. -/
def NotSlower (convertSpeedToMbps : UInt64 → UInt64) (before element : SpeedElement) : Prop :=
  ∀ trigger ∈ banTriggers convertSpeedToMbps,
    (trigger.2.speeds before).1 ≤ (trigger.2.speeds element).1 ∧
      (trigger.2.speeds before).2 ≤ (trigger.2.speeds element).2

theorem BanTrigger.fires_of_le {trigger : BanTrigger} {settings : BanSettings}
    {before element : SpeedElement} (hin : (trigger.speeds before).1 ≤ (trigger.speeds element).1)
    (hout : (trigger.speeds before).2 ≤ (trigger.speeds element).2)
    (hfires : trigger.fires settings before = true) : trigger.fires settings element = true := by
  simp only [BanTrigger.fires, Bool.and_eq_true, Bool.or_eq_true, decide_eq_true_eq] at hfires ⊢
  obtain ⟨hon, habove | habove⟩ := hfires
  · exact ⟨hon, Or.inl (UInt64.lt_of_lt_of_le habove hin)⟩
  · exact ⟨hon, Or.inr (UInt64.lt_of_lt_of_le habove hout)⟩

/-- A trigger fires as long as no speed drops; it may be another one. -/
theorem triggerOfNetwork_isSome_of_notSlower {network : Option SubnetCidrMask}
    {before element : SpeedElement} (hspeeds : NotSlower context.convertSpeedToMbps before element)
    (hsome : (triggerOfNetwork context network before).isSome) :
    (triggerOfNetwork context network element).isSome := by
  rw [triggerOfNetwork, List.find?_isSome] at hsome ⊢
  obtain ⟨trigger, hmem, hfires⟩ := hsome
  exact ⟨trigger, hmem, BanTrigger.fires_of_le (hspeeds trigger hmem).1 (hspeeds trigger hmem).2
    hfires⟩

/-- **When an attack is over.**  It is when no trigger of the host's group fires any more; so
an attack that is detected is not over before a speed drops. -/
theorem attackIsFinished_run (subnets whitelist : List SubnetCidrMask) :
    ∃ tree whitelistTree, subnets.foldlM (addSubnet ipv4Family) {} = some tree ∧
      whitelist.foldlM (addSubnet ipv4Family) {} = some whitelistTree ∧
      ∀ (context : DetectionContext) (clientIp : UInt32) (element : SpeedElement), ∃ network,
        LongestNetwork subnets ⟨clientIp, 32⟩ network ∧
          attackIsFinished (context.withTrees tree whitelistTree) clientIp (some element)
            = some (triggerOfNetwork context network element).isNone ∧
          ∀ before hasBucket isBanned now attack,
            NotSlower context.convertSpeedToMbps before element →
            speedCalculationCallbackLocalIpv4 (context.withTrees tree whitelistTree) clientIp
              before hasBucket isBanned now = some (some attack) →
            attackIsFinished (context.withTrees tree whitelistTree) clientIp (some element)
              = some false := by
  obtain ⟨tree, hrun, htree⟩ := networkOf_spec subnets
  obtain ⟨whitelistTree, hwhitelistRun, hwhitelist⟩ := networkOf_spec whitelist
  refine ⟨tree, whitelistTree, hrun, hwhitelistRun, fun context clientIp element => ?_⟩
  have hanswers : AnswersBy subnets (context.withTrees tree whitelistTree).lookupTreeIpv4 := htree
  have hfinished : attackIsFinished (context.withTrees tree whitelistTree) clientIp (some element)
      = some (triggerOfNetwork context (networkOf tree clientIp) element).isNone :=
    attackIsFinished_spec (context.withTrees tree whitelistTree) hanswers clientIp element
  refine ⟨networkOf tree clientIp, (htree clientIp).2, hfinished, ?_⟩
  intro before hasBucket isBanned now attack hspeeds hattack
  obtain ⟨result, hresult, hunder, -⟩ := speedCalculationCallbackLocalIpv4_spec
    (context.withTrees tree whitelistTree) hanswers hwhitelist clientIp before hasBucket isBanned
    now
  obtain rfl : some attack = result := Option.some.inj (hattack.symm.trans hresult)
  -- what fired at a lower speed fires still
  have htrigger : (triggerOfNetwork context (networkOf tree clientIp) element).isSome = true :=
    triggerOfNetwork_isSome_of_notSlower hspeeds (hunder.mp rfl).1.trigger
  rw [hfinished, ← Option.not_isSome, htrigger]
  rfl

end FastNetMon
