/-
FastNetMon/OwnNetworks.lean

The daemon with its networks in Patricia trees.

A packet gets its direction from the trees that were filled with the networks, so the
direction and the network are those of the longest networks around its ends
(`getPacketDirection_run`), and whatever packets come in, nothing is added to the counter of a
host or a network outside (`processPackets_run`).  A flow spec rule is accepted if it is about
one of the hosts in these networks (`validateFlowSpec_run`); the packets that such a rule
matches are traffic of this host (`acceptedRule_traffic`).
-/
import FastNetMon.LookupNetworks
import FastNetMon.TrafficConservation

namespace FastNetMon

/-! ### Directions -/

/-- An address of ours. -/
def OwnAddress (subnets : List SubnetCidrMask) (ip : UInt32) : Prop :=
  ∃ subnet ∈ subnets, subnet.Contains ip

@[inherit_doc OwnAddress]
def OwnAddressIpv6 (subnets : List SubnetIpv6CidrMask) (address : In6Addr) : Prop :=
  ∃ subnet ∈ subnets, subnet.Contains address

/-- The search of `get_packet_direction`. -/
def networkOf (lookupTree : PatriciaTree 4 UInt64) (ip : UInt32) : Option SubnetCidrMask :=
  (lookupNetworkWhichIncludesIp lookupTree ip).join

/-- The search of `get_packet_direction_ipv6`. -/
def networkOfIpv6 (lookupTree : PatriciaTree 16 UInt64) (address : In6Addr) :
    Option SubnetIpv6CidrMask :=
  (lookupNetworkWhichIncludes ipv6Family lookupTree ⟨address, 128⟩).join

/-- The tree that the filter makes for the prefix of a rule, and asks for an address; `none` if
an assertion fails. -/
def treeOfRuleLookup (subnet : SubnetCidrMask) (ip : UInt32) : Option Bool := do
  lookupIp (← addSubnet ipv4Family ({} : PatriciaTree 4 UInt64) subnet) ip

/-- Its answer.  An assertion never fails (`treeOfRuleLookup_eq`). -/
def ruleLookup : LookupTree32bit := fun subnet ip => treeOfRuleLookup subnet ip = some true

theorem LongestNetwork.ownAddress {subnets : List SubnetCidrMask} {ip : UInt32}
    {net : SubnetCidrMask} (h : LongestNetwork subnets ⟨ip, 32⟩ (some net)) :
    OwnAddress subnets ip := by
  obtain ⟨⟨-, hcontains⟩, ⟨subnet, hsubnet, rfl⟩, -⟩ := h
  exact ⟨subnet, hsubnet, (contains_clipped subnet ip).mp hcontains⟩

theorem LongestNetwork.not_ownAddress {subnets : List SubnetCidrMask} {ip : UInt32}
    (h : LongestNetwork subnets ⟨ip, 32⟩ none) : ¬ OwnAddress subnets ip := by
  rintro ⟨subnet, hsubnet, hcontains⟩
  exact h subnet hsubnet ((includes_address subnet ip).mpr hcontains)

theorem LongestNetworkIpv6.ownAddress {subnets : List SubnetIpv6CidrMask} {address : In6Addr}
    {net : SubnetIpv6CidrMask} (h : LongestNetworkIpv6 subnets address (some net)) :
    OwnAddressIpv6 subnets address := by
  obtain ⟨hcontains, ⟨subnet, hsubnet, rfl⟩, -⟩ := h
  exact ⟨subnet, hsubnet, (contains_clipped_ipv6 subnet address).mp hcontains⟩

/-- The trees of IPv4 networks that the daemon fills. -/
theorem networkOf_spec (subnets : List SubnetCidrMask) :
    ∃ tree, subnets.foldlM (addSubnet ipv4Family) {} = some tree ∧ ∀ ip,
      lookupIp tree ip = some (networkOf tree ip).isSome ∧
      LongestNetwork subnets ⟨ip, 32⟩ (networkOf tree ip) := by
  obtain ⟨tree, hrun, hanswers⟩ := answers_ipv4 (δ := UInt64) subnets
  refine ⟨tree, hrun, fun ip => ?_⟩
  obtain ⟨found, hfound⟩ := hanswers ⟨ip, 32⟩ (le_refl 32)
  have hnetwork : networkOf tree ip = found := congrArg Option.join hfound.includes
  rw [hnetwork]
  exact ⟨hfound.network, hfound.longestNetwork (le_refl 32)⟩

theorem networkOfIpv6_spec {subnets : List SubnetIpv6CidrMask} {tree : PatriciaTree 16 UInt64}
    (hrun : subnets.foldlM (addSubnet ipv6Family) {} = some tree) (address : In6Addr) :
    LongestNetworkIpv6 subnets address (networkOfIpv6 tree address) := by
  have hread : ∀ subnet ∈ subnets, NoLeadingZeros subnet.subnetAddress := by
    intro subnet hsubnet
    by_contra hzeros
    rw [foldlM_addSubnet_eq_none hsubnet (ipv6Family_fromText_eq_none hzeros)] at hrun
    cases hrun
  obtain ⟨tree', hrun', hanswers⟩ := answers_ipv6 (δ := UInt64) hread
  obtain rfl : tree' = tree := Option.some.inj (hrun'.symm.trans hrun)
  obtain ⟨found, hfound⟩ := hanswers address
  have hnetwork : networkOfIpv6 tree' address = found := congrArg Option.join hfound.includes
  rw [hnetwork]
  exact hfound.longestNetworkIpv6

/-- A direction says what was found for the ends of the packet. -/
theorem directionBetween_spec {α ν : Type} (lookup : α → Option ν) (src dst : α) (subnet : ν) :
    match directionBetween lookup src dst subnet with
    | (.internal, found) => (lookup src).isSome ∧ (lookup dst).isSome ∧ found = subnet
    | (.outgoing, found) => lookup src = some found ∧ lookup dst = none
    | (.incoming, found) => lookup src = none ∧ lookup dst = some found
    | (.other, found) => lookup src = none ∧ lookup dst = none ∧ found = subnet := by
  rw [directionBetween]
  rcases lookup src with - | sourceSubnet <;> rcases lookup dst with - | destinationSubnet <;>
    simp

/-- **The direction of a packet**, for any networks that the tree was filled with: which ends
are ours, and the longest network around the one that is. -/
theorem getPacketDirection_run (subnets : List SubnetCidrMask) :
    ∃ tree, subnets.foldlM (addSubnet ipv4Family) {} = some tree ∧ ∀ srcIp dstIp,
      match getPacketDirection (networkOf tree) srcIp dstIp with
      | (.internal, subnet) => OwnAddress subnets srcIp ∧ OwnAddress subnets dstIp ∧ subnet = {}
      | (.outgoing, subnet) =>
        LongestNetwork subnets ⟨srcIp, 32⟩ (some subnet) ∧ ¬ OwnAddress subnets dstIp
      | (.incoming, subnet) =>
        ¬ OwnAddress subnets srcIp ∧ LongestNetwork subnets ⟨dstIp, 32⟩ (some subnet)
      | (.other, subnet) => ¬ OwnAddress subnets srcIp ∧ ¬ OwnAddress subnets dstIp ∧
          subnet = {} := by
  obtain ⟨tree, hrun, hspec⟩ := networkOf_spec subnets
  refine ⟨tree, hrun, fun srcIp dstIp => ?_⟩
  have hlongest : ∀ {ip found}, networkOf tree ip = found →
      LongestNetwork subnets ⟨ip, 32⟩ found := by
    rintro ip _ rfl
    exact (hspec ip).2
  have hown : ∀ {ip}, (networkOf tree ip).isSome → OwnAddress subnets ip := by
    intro ip hsome
    obtain ⟨net, hnet⟩ := Option.isSome_iff_exists.mp hsome
    exact (hlongest hnet).ownAddress
  have hcases := directionBetween_spec (networkOf tree) srcIp dstIp {}
  rw [getPacketDirection]
  generalize directionBetween (networkOf tree) srcIp dstIp {} = answer at hcases ⊢
  obtain ⟨packetDirection, subnet⟩ := answer
  cases packetDirection with
  | incoming => exact ⟨(hlongest hcases.1).not_ownAddress, hlongest hcases.2⟩
  | outgoing => exact ⟨hlongest hcases.1, (hlongest hcases.2).not_ownAddress⟩
  | internal => exact ⟨hown hcases.1, hown hcases.2.1, hcases.2.2⟩
  | other =>
      exact ⟨(hlongest hcases.1).not_ownAddress, (hlongest hcases.2.1).not_ownAddress, hcases.2.2⟩

/-! ### Counters -/

/-- The context of the daemon with its networks in the trees. -/
def TrafficContext.withTrees (context : TrafficContext) (treeIpv4 : PatriciaTree 4 UInt64)
    (treeIpv6 : PatriciaTree 16 UInt64) : TrafficContext :=
  { context with
    lookupTreeIpv4 := networkOf treeIpv4
    lookupTreeIpv6 := networkOfIpv6 treeIpv6
    lookupTree32bit := ruleLookup }

/-- One of the networks, as its tree keeps it. -/
def OwnNetwork (subnets : List SubnetCidrMask) (net : SubnetCidrMask) : Prop :=
  ∃ subnet ∈ subnets, net = subnet.clipped

/-- The counter of one of the networks, or the empty counter of the default network `::/128`,
which `process_ipv6_packet` makes if both ends of a packet are ours or none is. -/
def OwnNetworkIpv6 (subnets : List SubnetIpv6CidrMask)
    (entry : SubnetIpv6CidrMask × SubnetCounter) : Prop :=
  (∃ subnet ∈ subnets, entry.1 = subnet.clipped) ∨ entry = ({}, {})

/-- A host of ours. -/
def OwnHostIpv6 (subnets : List SubnetIpv6CidrMask) (host : SubnetIpv6CidrMask) : Prop :=
  host.cidrPrefixLength = 128 ∧ OwnAddressIpv6 subnets host.subnetAddress

/-- Only hosts and networks of ours have counters, but for an empty one. -/
structure OwnCounters (subnets : List SubnetCidrMask) (subnetsIpv6 : List SubnetIpv6CidrMask)
    (s : TrafficState) : Prop where
  hostIpv4 : ∀ entry ∈ s.ipv4.hostCounters, OwnAddress subnets entry.1
  networkIpv4 : ∀ entry ∈ s.ipv4.networkCounters, OwnNetwork subnets entry.1
  hostIpv6 : ∀ entry ∈ s.ipv6.hostCounters, OwnHostIpv6 subnetsIpv6 entry.1
  networkIpv6 : ∀ entry ∈ s.ipv6.networkCounters, OwnNetworkIpv6 subnetsIpv6 entry

variable {subnets : List SubnetCidrMask} {subnetsIpv6 : List SubnetIpv6CidrMask}
  {treeIpv4 : PatriciaTree 4 UInt64} {treeIpv6 : PatriciaTree 16 UInt64}

/-- One IPv4 packet. -/
theorem OwnCounters.processIpv4Packet {s : TrafficState} (hs : OwnCounters subnets subnetsIpv6 s)
    (htree : ∀ ip, LongestNetwork subnets ⟨ip, 32⟩ (networkOf treeIpv4 ip))
    (context : TrafficContext) (currentInaccurateTime : Int64) (packet : ParsedPacket) :
    OwnCounters subnets subnetsIpv6 { s with
      ipv4 := FastNetMon.processIpv4Packet currentInaccurateTime
        (context.withTrees treeIpv4 treeIpv6) s.ipv4 packet } := by
  have hlongest : ∀ {ip net}, networkOf treeIpv4 ip = some net →
      LongestNetwork subnets ⟨ip, 32⟩ (some net) := by
    intro ip net hnet
    rw [← hnet]
    exact htree ip
  have hcases := directionBetween_spec (networkOf treeIpv4) packet.srcIp packet.dstIp {}
  rw [FastNetMon.processIpv4Packet, getPacketDirection, TrafficContext.withTrees]
  dsimp only
  generalize directionBetween (networkOf treeIpv4) packet.srcIp packet.dstIp {} = answer at hcases ⊢
  obtain ⟨packetDirection, subnet⟩ := answer
  dsimp only
  split_ifs
  · exact hs
  · exact hs
  · cases packetDirection with
    | incoming =>
        have hfound := hlongest hcases.2
        exact { hs with
          hostIpv4 := CounterMap.forall_modifyAt (OwnAddress subnets) hs.hostIpv4
            hfound.ownAddress _
          networkIpv4 := CounterMap.forall_modifyAt (OwnNetwork subnets) hs.networkIpv4
            hfound.2.1 _ }
    | outgoing =>
        have hfound := hlongest hcases.1
        exact { hs with
          hostIpv4 := CounterMap.forall_modifyAt (OwnAddress subnets) hs.hostIpv4
            hfound.ownAddress _
          networkIpv4 := CounterMap.forall_modifyAt (OwnNetwork subnets) hs.networkIpv4
            hfound.2.1 _ }
    | internal => exact { hs with }
    | other => exact { hs with }

/-- One IPv6 packet. -/
theorem OwnCounters.processIpv6Packet {s : TrafficState} (hs : OwnCounters subnets subnetsIpv6 s)
    (htree : ∀ address, LongestNetworkIpv6 subnetsIpv6 address (networkOfIpv6 treeIpv6 address))
    (context : TrafficContext) (currentInaccurateTime : Int64) (packet : ParsedPacket) :
    OwnCounters subnets subnetsIpv6 { s with
      ipv6 := FastNetMon.processIpv6Packet currentInaccurateTime
        (context.withTrees treeIpv4 treeIpv6) s.ipv6 packet } := by
  have hlongest : ∀ {address net}, networkOfIpv6 treeIpv6 address = some net →
      LongestNetworkIpv6 subnetsIpv6 address (some net) := by
    intro address net hnet
    rw [← hnet]
    exact htree address
  have hcases := directionBetween_spec (networkOfIpv6 treeIpv6) packet.srcIpv6 packet.dstIpv6 {}
  rw [FastNetMon.processIpv6Packet, getPacketDirectionIpv6, TrafficContext.withTrees]
  dsimp only
  generalize directionBetween (networkOfIpv6 treeIpv6) packet.srcIpv6 packet.dstIpv6 {} = answer
    at hcases ⊢
  obtain ⟨packetDirection, subnet⟩ := answer
  dsimp only
  split_ifs
  · exact hs
  · cases packetDirection with
    | incoming =>
        have hfound := hlongest hcases.2
        have hhost : OwnHostIpv6 subnetsIpv6 ⟨packet.dstIpv6, 128⟩ := ⟨rfl, hfound.ownAddress⟩
        have hnetwork : ∀ counter, OwnNetworkIpv6 subnetsIpv6 (subnet, counter) :=
          fun _ => .inl hfound.2.1
        exact { hs with
          hostIpv6 := CounterMap.forall_modifyAt _ hs.hostIpv6 hhost _
          networkIpv6 := CounterMap.forall_mem_modifyAt hs.networkIpv6 (hnetwork _)
            fun _ _ => hnetwork _ }
    | outgoing =>
        have hfound := hlongest hcases.1
        have hhost : OwnHostIpv6 subnetsIpv6 ⟨packet.srcIpv6, 128⟩ := ⟨rfl, hfound.ownAddress⟩
        have hnetwork : ∀ counter, OwnNetworkIpv6 subnetsIpv6 (subnet, counter) :=
          fun _ => .inl hfound.2.1
        exact { hs with
          hostIpv6 := CounterMap.forall_modifyAt _ hs.hostIpv6 hhost _
          networkIpv6 := CounterMap.forall_mem_modifyAt hs.networkIpv6 (hnetwork _)
            fun _ _ => hnetwork _ }
    -- a counter of the default network is made, and nothing is added to it
    | internal =>
        have hempty : OwnNetworkIpv6 subnetsIpv6 (subnet, default) :=
          .inr (Prod.ext hcases.2.2 rfl)
        exact { hs with
          networkIpv6 := CounterMap.forall_mem_modifyAt hs.networkIpv6 hempty fun _ h => h }
    | other =>
        have hempty : OwnNetworkIpv6 subnetsIpv6 (subnet, default) :=
          .inr (Prod.ext hcases.2.2 rfl)
        exact { hs with
          networkIpv6 := CounterMap.forall_mem_modifyAt hs.networkIpv6 hempty fun _ h => h }

theorem ownCounters_processPackets
    (htree : ∀ ip, LongestNetwork subnets ⟨ip, 32⟩ (networkOf treeIpv4 ip))
    (htreeIpv6 : ∀ address, LongestNetworkIpv6 subnetsIpv6 address (networkOfIpv6 treeIpv6 address))
    (context : TrafficContext) (packets : List (Int64 × ParsedPacket)) :
    OwnCounters subnets subnetsIpv6
      (processPackets (context.withTrees treeIpv4 treeIpv6) packets) := by
  induction packets using List.reverseRecOn with
  | nil =>
      exact ⟨fun _ h => absurd h List.not_mem_nil, fun _ h => absurd h List.not_mem_nil,
        fun _ h => absurd h List.not_mem_nil, fun _ h => absurd h List.not_mem_nil⟩
  | append_singleton packets arrival ih =>
      rw [processPackets, List.foldl_append, List.foldl_cons, List.foldl_nil, processPacket]
      split_ifs
      · exact ih.processIpv4Packet htree context arrival.1 arrival.2
      · exact ih.processIpv6Packet htreeIpv6 context arrival.1 arrival.2
      · exact ih

/-- **No host and no network outside has traffic in a counter**, whatever packets come in and
when. -/
theorem processPackets_run (subnets : List SubnetCidrMask)
    (subnetsIpv6 : List SubnetIpv6CidrMask) :
    ∃ treeIpv4, subnets.foldlM (addSubnet ipv4Family) {} = some treeIpv4 ∧
      ∀ treeIpv6, subnetsIpv6.foldlM (addSubnet ipv6Family) {} = some treeIpv6 →
        ∀ (context : TrafficContext) (packets : List (Int64 × ParsedPacket)),
          OwnCounters subnets subnetsIpv6
            (processPackets (context.withTrees treeIpv4 treeIpv6) packets) := by
  obtain ⟨treeIpv4, hrun, hspec⟩ := networkOf_spec subnets
  refine ⟨treeIpv4, hrun, fun treeIpv6 hrunIpv6 context packets => ?_⟩
  exact ownCounters_processPackets (fun ip => (hspec ip).2) (networkOfIpv6_spec hrunIpv6) context
    packets

/-! ### Rules -/

/-- No assertion fails, and the tree of one network answers for this network. -/
theorem treeOfRuleLookup_spec (subnet : SubnetCidrMask) (ip : UInt32) :
    ∃ found, treeOfRuleLookup subnet ip = some found ∧ (found = true ↔ subnet.Contains ip) := by
  obtain ⟨tree, hrun, hspec⟩ := networkOf_spec [subnet]
  have hadd : addSubnet ipv4Family ({} : PatriciaTree 4 UInt64) subnet = some tree := by
    rw [← hrun, List.foldlM_cons]
    exact (bind_pure _).symm
  obtain ⟨hlookup, hlongest⟩ := hspec ip
  refine ⟨(networkOf tree ip).isSome, ?_, ?_⟩
  · rw [treeOfRuleLookup, hadd, Option.bind_eq_bind, Option.bind_some, hlookup]
  rcases hfound : networkOf tree ip with - | net
  · rw [hfound] at hlongest
    have hcontains : ¬ subnet.Contains ip := fun hcontains =>
      hlongest.not_ownAddress ⟨subnet, List.mem_cons_self, hcontains⟩
    simpa using hcontains
  · rw [hfound] at hlongest
    obtain ⟨own, hmem, hcontains⟩ := hlongest.ownAddress
    rw [List.mem_singleton.mp hmem] at hcontains
    simpa using hcontains

theorem treeOfRuleLookup_eq (subnet : SubnetCidrMask) (ip : UInt32) :
    treeOfRuleLookup subnet ip = some (ruleLookup subnet ip) := by
  obtain ⟨found, hfound, -⟩ := treeOfRuleLookup_spec subnet ip
  rw [ruleLookup, hfound]
  simp

theorem ruleLookup_iff (subnet : SubnetCidrMask) (ip : UInt32) :
    ruleLookup subnet ip = true ↔ subnet.Contains ip := by
  obtain ⟨found, hfound, hiff⟩ := treeOfRuleLookup_spec subnet ip
  rw [← hiff, ruleLookup, hfound]
  simp

/-- **The filter with the trees that it makes.**  No tree that
`filter_packet_by_flowspec_rule_list` makes fails an assertion, and a packet is let through
exactly if it meets what is compared of one of the IPv4 rules, up to the gaps of the
comparisons. -/
theorem filterPacketByWhitelist_trees (context : TrafficContext)
    (treeIpv4 : PatriciaTree 4 UInt64) (treeIpv6 : PatriciaTree 16 UInt64)
    (hrules : ∀ rule ∈ context.staticFlowspecBasedWhitelist,
      rule.sourceSubnetIpv6Used = false ∧ rule.destinationSubnetIpv6Used = false)
    (packet : ParsedPacket) :
    (∀ subnet ip, treeOfRuleLookup subnet ip
      = some ((context.withTrees treeIpv4 treeIpv6).lookupTree32bit subnet ip)) ∧
    (filterPacketByWhitelist (context.withTrees treeIpv4 treeIpv6) packet = true ↔
      ∃ rule ∈ context.staticFlowspecBasedWhitelist, MeetsComparedCriteria rule packet ∧
        (MeetsFragmentationFlags rule packet ∧ ¬ DescribedByUnknownFlagsOnly rule packet) ∧
        ((MeetsPacketLengths rule packet ∧ ¬ TooLongWithListedIpLength rule packet) ∨
          OnlyTruncatedLengthListed rule packet)) := by
  refine ⟨treeOfRuleLookup_eq, ?_⟩
  rw [filterPacketByWhitelist, List.any_eq_true]
  refine exists_congr fun rule => and_congr_right fun hrule => ?_
  obtain ⟨hsource, hdestination⟩ := hrules rule hrule
  exact filterPacketByFlowspecRule_iff rule packet ruleLookup_iff hsource hdestination

/-- A daemon that lets the traffic of one network through. -/
def whitelistContext : TrafficContext where
  lookupTreeIpv4 _ := none
  lookupTreeIpv6 _ := none
  lookupTree32bit := ruleLookup
  staticFlowspecBasedWhitelist :=
    [{ sourceSubnetIpv4 := ⟨0x0200c0, 24⟩, sourceSubnetIpv4Used := true }]
  processIncomingTraffic := true
  processOutgoingTraffic := true

/-- A UDP packet from `192.0.2.7`. -/
def packetFromNetwork : ParsedPacket := { srcIp := 0x070200c0, protocol := 17, length := 100 }

theorem filterPacketByWhitelist_trees_network :
    (∀ subnet ip, treeOfRuleLookup subnet ip
      = some ((whitelistContext.withTrees {} {}).lookupTree32bit subnet ip)) ∧
    (filterPacketByWhitelist (whitelistContext.withTrees {} {}) packetFromNetwork = true ↔
      ∃ rule ∈ whitelistContext.staticFlowspecBasedWhitelist,
        MeetsComparedCriteria rule packetFromNetwork ∧
        (MeetsFragmentationFlags rule packetFromNetwork ∧
          ¬ DescribedByUnknownFlagsOnly rule packetFromNetwork) ∧
        ((MeetsPacketLengths rule packetFromNetwork ∧
            ¬ TooLongWithListedIpLength rule packetFromNetwork) ∨
          OnlyTruncatedLengthListed rule packetFromNetwork)) :=
  filterPacketByWhitelist_trees whitelistContext {} {} (List.forall_mem_singleton.mpr ⟨rfl, rfl⟩)
    packetFromNetwork

/-- `reject_flow_spec_validation_if_slow_spec_length_exceeds_this_number`. -/
def rejectFlowSpecValidationIfSlowSpecLengthExceedsThisNumber : ℕ := 1500

/-- `validate_flow_spec_to_belong_to_patricia`: whether the rule is accepted, and what
`client_ip` is afterwards. -/
def validateFlowSpecToBelongToPatricia (flowSpecRule : FlowSpecRule)
    (lookupTreeIpv4 : PatriciaTree 4 UInt64) (clientIp : UInt32) : Option (Bool × UInt32) :=
  let sourceSubnet := flowSpecRule.sourceSubnetIpv4
  let destinationSubnet := flowSpecRule.destinationSubnetIpv4
  if !(flowSpecRule.sourceSubnetIpv4Used || flowSpecRule.destinationSubnetIpv4Used
      || flowSpecRule.sourceSubnetIpv6Used || flowSpecRule.destinationSubnetIpv6Used) then
    some (false, clientIp)
  else if flowSpecRule.sourceSubnetIpv4Used ∧ sourceSubnet.cidrPrefixLength ≠ 32 then
    some (false, clientIp)
  else if flowSpecRule.sourceSubnetIpv6Used
      ∧ flowSpecRule.sourceSubnetIpv6.cidrPrefixLength ≠ 128 then
    some (false, clientIp)
  else if flowSpecRule.destinationSubnetIpv4Used ∧ destinationSubnet.cidrPrefixLength ≠ 32 then
    some (false, clientIp)
  else if flowSpecRule.destinationSubnetIpv6Used
      ∧ flowSpecRule.destinationSubnetIpv6.cidrPrefixLength ≠ 128 then
    some (false, clientIp)
  -- IPv6 is not supported
  else if flowSpecRule.destinationSubnetIpv6Used || flowSpecRule.sourceSubnetIpv6Used then
    some (false, clientIp)
  else if flowSpecRule.destinationSubnetIpv4Used && flowSpecRule.sourceSubnetIpv4Used then do
    let weFoundDestinationSubnet ← lookupNetwork ipv4Family lookupTreeIpv4 destinationSubnet
    let weFoundSourceSubnet ← lookupNetwork ipv4Family lookupTreeIpv4 sourceSubnet
    if !weFoundDestinationSubnet && !weFoundSourceSubnet then some (false, clientIp)
    else
      let clientIp := if weFoundDestinationSubnet then destinationSubnet.subnetAddress else clientIp
      let clientIp := if weFoundSourceSubnet then sourceSubnet.subnetAddress else clientIp
      some (true, clientIp)
  else if flowSpecRule.destinationSubnetIpv4Used then do
    let weFoundThisSubnet ← lookupNetwork ipv4Family lookupTreeIpv4 destinationSubnet
    if !weFoundThisSubnet then some (false, clientIp)
    else some (true, destinationSubnet.subnetAddress)
  else if flowSpecRule.sourceSubnetIpv4Used then do
    let weFoundThisSubnet ← lookupNetwork ipv4Family lookupTreeIpv4 sourceSubnet
    if !weFoundThisSubnet then some (false, clientIp)
    else some (true, sourceSubnet.subnetAddress)
  else some (true, clientIp)

/-- `validate_flow_spec_ipv4`. -/
def validateFlowSpecIpv4 (flowSpecRule : FlowSpecRule) (clientIpAsInteger : UInt32) : Bool :=
  if !(flowSpecRule.sourceSubnetIpv4Used || flowSpecRule.destinationSubnetIpv4Used) then false
  else if flowSpecRule.packetLengths.any fun packetLength =>
      packetLength.toNat > rejectFlowSpecValidationIfSlowSpecLengthExceedsThisNumber then false
  else
    let clientSubnet : SubnetCidrMask := ⟨clientIpAsInteger, 32⟩
    (flowSpecRule.sourceSubnetIpv4Used && clientSubnet = flowSpecRule.sourceSubnetIpv4)
      || (flowSpecRule.destinationSubnetIpv4Used
        && clientSubnet = flowSpecRule.destinationSubnetIpv4)

/-- The rule is about IPv4 hosts. -/
structure HostRule (rule : FlowSpecRule) : Prop where
  sourceIpv6 : rule.sourceSubnetIpv6Used = false
  destinationIpv6 : rule.destinationSubnetIpv6Used = false
  source : rule.sourceSubnetIpv4Used = true → rule.sourceSubnetIpv4.cidrPrefixLength = 32
  destination : rule.destinationSubnetIpv4Used = true →
    rule.destinationSubnetIpv4.cidrPrefixLength = 32

/-- The host that a rule is accepted for: that of its source, if it is one of ours. -/
inductive ClientOf (subnets : List SubnetCidrMask) (rule : FlowSpecRule) : UInt32 → Prop
  | source (hused : rule.sourceSubnetIpv4Used = true)
      (hown : OwnAddress subnets rule.sourceSubnetIpv4.subnetAddress) :
      ClientOf subnets rule rule.sourceSubnetIpv4.subnetAddress
  | destination (hused : rule.destinationSubnetIpv4Used = true)
      (hown : OwnAddress subnets rule.destinationSubnetIpv4.subnetAddress)
      (hsource : ¬ (rule.sourceSubnetIpv4Used = true ∧
        OwnAddress subnets rule.sourceSubnetIpv4.subnetAddress)) :
      ClientOf subnets rule rule.destinationSubnetIpv4.subnetAddress

theorem ClientOf.ownAddress {rule : FlowSpecRule} {ip : UInt32} (h : ClientOf subnets rule ip) :
    OwnAddress subnets ip := by
  cases h with
  | source _ hown => exact hown
  | destination _ hown _ => exact hown

/-- A tree that answers by the networks. -/
def AnswersBy (subnets : List SubnetCidrMask) (tree : PatriciaTree 4 UInt64) : Prop :=
  ∀ ip, lookupIp tree ip = some (networkOf tree ip).isSome ∧
    LongestNetwork subnets ⟨ip, 32⟩ (networkOf tree ip)

/-- A tree answers for the address of a host. -/
theorem lookupNetwork_host {tree : PatriciaTree 4 UInt64} (htree : AnswersBy subnets tree)
    {host : SubnetCidrMask} (hhost : host.cidrPrefixLength = 32) :
    ∃ found, lookupNetwork ipv4Family tree host = some found ∧
      (found = true ↔ OwnAddress subnets host.subnetAddress) := by
  obtain ⟨hlookup, hlongest⟩ := htree host.subnetAddress
  refine ⟨(networkOf tree host.subnetAddress).isSome, ?_, ?_⟩
  · rw [← hlookup, lookupIp, ← hhost]
  · rcases hfound : networkOf tree host.subnetAddress with - | net
    · rw [hfound] at hlongest
      simpa using hlongest.not_ownAddress
    · rw [hfound] at hlongest
      simpa using hlongest.ownAddress

/-- Rules that are not about IPv4 hosts are turned down before any search. -/
theorem validateFlowSpec_of_not_hostRule {rule : FlowSpecRule} (hrule : ¬ HostRule rule)
    (tree : PatriciaTree 4 UInt64) (clientIp : UInt32) :
    validateFlowSpecToBelongToPatricia rule tree clientIp = some (false, clientIp) := by
  rw [validateFlowSpecToBelongToPatricia]
  by_cases hsourceIpv6 : rule.sourceSubnetIpv6Used = true
  · simp [hsourceIpv6]
  by_cases hdestinationIpv6 : rule.destinationSubnetIpv6Used = true
  · simp [hdestinationIpv6]
  by_cases hsource : rule.sourceSubnetIpv4Used = true ∧ rule.sourceSubnetIpv4.cidrPrefixLength ≠ 32
  · simp [hsource]
  by_cases hdestination : rule.destinationSubnetIpv4Used = true ∧
      rule.destinationSubnetIpv4.cidrPrefixLength ≠ 32
  · simp [hdestination]
  refine absurd ⟨Bool.eq_false_iff.mpr hsourceIpv6, Bool.eq_false_iff.mpr hdestinationIpv6,
    fun hused => ?_, fun hused => ?_⟩ hrule
  · by_contra hlength
    exact hsource ⟨hused, hlength⟩
  · by_contra hlength
    exact hdestination ⟨hused, hlength⟩

section HostRule

variable {rule : FlowSpecRule} {tree : PatriciaTree 4 UInt64} (hrule : HostRule rule)
  (clientIp : UInt32)
include hrule

theorem validateFlowSpec_of_both (hsource : rule.sourceSubnetIpv4Used = true)
    (hdestination : rule.destinationSubnetIpv4Used = true) {foundSource foundDestination : Bool}
    (hfoundSource : lookupNetwork ipv4Family tree rule.sourceSubnetIpv4 = some foundSource)
    (hfoundDestination : lookupNetwork ipv4Family tree rule.destinationSubnetIpv4
      = some foundDestination) :
    validateFlowSpecToBelongToPatricia rule tree clientIp = some (
      if foundSource then (true, rule.sourceSubnetIpv4.subnetAddress)
      else if foundDestination then (true, rule.destinationSubnetIpv4.subnetAddress)
      else (false, clientIp)) := by
  simp only [validateFlowSpecToBelongToPatricia, hrule.sourceIpv6, hrule.destinationIpv6, hsource,
    hdestination, hrule.source hsource, hrule.destination hdestination, hfoundSource,
    hfoundDestination]
  cases foundSource <;> cases foundDestination <;> rfl

theorem validateFlowSpec_of_source (hsource : rule.sourceSubnetIpv4Used = true)
    (hdestination : rule.destinationSubnetIpv4Used = false) {found : Bool}
    (hfound : lookupNetwork ipv4Family tree rule.sourceSubnetIpv4 = some found) :
    validateFlowSpecToBelongToPatricia rule tree clientIp = some (
      if found then (true, rule.sourceSubnetIpv4.subnetAddress) else (false, clientIp)) := by
  simp only [validateFlowSpecToBelongToPatricia, hrule.sourceIpv6, hrule.destinationIpv6, hsource,
    hdestination, hrule.source hsource, hfound]
  cases found <;> rfl

theorem validateFlowSpec_of_destination (hsource : rule.sourceSubnetIpv4Used = false)
    (hdestination : rule.destinationSubnetIpv4Used = true) {found : Bool}
    (hfound : lookupNetwork ipv4Family tree rule.destinationSubnetIpv4 = some found) :
    validateFlowSpecToBelongToPatricia rule tree clientIp = some (
      if found then (true, rule.destinationSubnetIpv4.subnetAddress) else (false, clientIp)) := by
  simp only [validateFlowSpecToBelongToPatricia, hrule.sourceIpv6, hrule.destinationIpv6, hsource,
    hdestination, hrule.destination hdestination, hfound]
  cases found <;> rfl

theorem validateFlowSpec_of_none (hsource : rule.sourceSubnetIpv4Used = false)
    (hdestination : rule.destinationSubnetIpv4Used = false) :
    validateFlowSpecToBelongToPatricia rule tree clientIp = some (false, clientIp) := by
  simp [validateFlowSpecToBelongToPatricia, hrule.sourceIpv6, hrule.destinationIpv6, hsource,
    hdestination]

end HostRule

/-- What the validation answers. -/
def Validated (subnets : List SubnetCidrMask) (rule : FlowSpecRule) (clientIp : UInt32) :
    Bool × UInt32 → Prop
  | (true, client) => HostRule rule ∧ ClientOf subnets rule client
  | (false, client) => client = clientIp ∧ ¬ (HostRule rule ∧ ∃ ip, ClientOf subnets rule ip)

theorem validated_ite {rule : FlowSpecRule} {clientIp client : UInt32} {found : Bool}
    (htrue : found = true → HostRule rule ∧ ClientOf subnets rule client)
    (hfalse : found = false → ¬ ∃ ip, ClientOf subnets rule ip) :
    Validated subnets rule clientIp (if found then (true, client) else (false, clientIp)) := by
  cases found with
  | true => exact htrue rfl
  | false => exact ⟨rfl, fun ⟨_, hclient⟩ => hfalse rfl hclient⟩

theorem validateFlowSpec_spec {tree : PatriciaTree 4 UInt64} (htree : AnswersBy subnets tree)
    (rule : FlowSpecRule) (clientIp : UInt32) : ∃ answer,
      validateFlowSpecToBelongToPatricia rule tree clientIp = some answer ∧
      Validated subnets rule clientIp answer := by
  by_cases hrule : HostRule rule
  · cases hsource : rule.sourceSubnetIpv4Used with
    | false =>
        cases hdestination : rule.destinationSubnetIpv4Used with
        | false =>
            refine ⟨_, validateFlowSpec_of_none hrule clientIp hsource hdestination, rfl, ?_⟩
            rintro ⟨-, ip, hclient⟩
            cases hclient <;> simp_all
        | true =>
            obtain ⟨found, hfound, hiff⟩ :=
              lookupNetwork_host htree (hrule.destination hdestination)
            refine ⟨_, validateFlowSpec_of_destination hrule clientIp hsource hdestination hfound,
              validated_ite (fun htrue => ⟨hrule, ?_⟩) fun hfalse => ?_⟩
            · exact .destination hdestination (hiff.mp htrue) (by simp [hsource])
            · rintro ⟨ip, hclient⟩
              cases hclient <;> simp_all
    | true =>
        obtain ⟨foundSource, hfoundSource, hiffSource⟩ :=
          lookupNetwork_host htree (hrule.source hsource)
        cases hdestination : rule.destinationSubnetIpv4Used with
        | false =>
            refine ⟨_, validateFlowSpec_of_source hrule clientIp hsource hdestination hfoundSource,
              validated_ite (fun htrue => ⟨hrule, ?_⟩) fun hfalse => ?_⟩
            · exact .source hsource (hiffSource.mp htrue)
            · rintro ⟨ip, hclient⟩
              cases hclient <;> simp_all
        | true =>
            obtain ⟨found, hfound, hiff⟩ :=
              lookupNetwork_host htree (hrule.destination hdestination)
            refine ⟨_, validateFlowSpec_of_both hrule clientIp hsource hdestination hfoundSource
              hfound, ?_⟩
            -- the source is asked first
            cases foundSource with
            | true => exact ⟨hrule, .source hsource (hiffSource.mp rfl)⟩
            | false =>
                refine validated_ite (fun htrue => ⟨hrule, ?_⟩) fun hfalse => ?_
                · exact .destination hdestination (hiff.mp htrue) fun h =>
                    absurd (hiffSource.mpr h.2) Bool.false_ne_true
                · rintro ⟨ip, hclient⟩
                  cases hclient <;> simp_all
  · exact ⟨_, validateFlowSpec_of_not_hostRule hrule tree clientIp, rfl, fun h => hrule h.1⟩

/-- **The validation of a rule**, for any networks: it fails no assertion, and accepts the rules
about IPv4 hosts of which one is ours.  The address that it returns is that of this host, and
it returns none with a rule that it does not accept. -/
theorem validateFlowSpec_run (subnets : List SubnetCidrMask) :
    ∃ tree, subnets.foldlM (addSubnet ipv4Family) {} = some tree ∧
      ∀ (rule : FlowSpecRule) (clientIp : UInt32), ∃ answer,
        validateFlowSpecToBelongToPatricia rule tree clientIp = some answer ∧
        Validated subnets rule clientIp answer := by
  obtain ⟨tree, hrun, htree⟩ := networkOf_spec subnets
  exact ⟨tree, hrun, validateFlowSpec_spec htree⟩

/-- The comparison with a host. -/
theorem ipMatches_host {lookupIp : LookupTree32bit} {ipv4 : SubnetCidrMask}
    (hhost : ipv4.cidrPrefixLength = 32) {ipv6Used : Bool} {ipv6 : SubnetIpv6CidrMask} {ip : UInt32}
    {ipv6Address : In6Addr}
    (hmatches : ipMatches lookupIp true ipv4 ipv6Used ipv6 ip ipv6Address = true) :
    ip = ipv4.subnetAddress := by
  rw [ipMatches, if_pos rfl, if_pos hhost, decide_eq_true_eq] at hmatches
  rw [hmatches]

/-- The packets that a rule for a client matches come from this client or go to it. -/
theorem ClientOf.of_filter {rule : FlowSpecRule} {client : UInt32} (hrule : HostRule rule)
    (hclient : ClientOf subnets rule client) {lookupIp : LookupTree32bit} {packet : ParsedPacket}
    (hmatches : filterPacketByFlowspecRule lookupIp packet rule = true) :
    packet.srcIp = client ∨ packet.dstIp = client := by
  simp only [filterPacketByFlowspecRule, Bool.and_eq_true] at hmatches
  obtain ⟨⟨⟨⟨⟨⟨⟨-, hsource⟩, hdestination⟩, -⟩, -⟩, -⟩, -⟩, -⟩ := hmatches
  cases hclient with
  | source hused hown =>
      rw [hused] at hsource
      exact .inl (ipMatches_host (hrule.source hused) hsource)
  | destination hused hown _ =>
      rw [hused] at hdestination
      exact .inr (ipMatches_host (hrule.destination hused) hdestination)

theorem not_other_of_ownAddress {tree : PatriciaTree 4 UInt64} (htree : AnswersBy subnets tree)
    {srcIp dstIp : UInt32} (hown : OwnAddress subnets srcIp ∨ OwnAddress subnets dstIp) :
    (getPacketDirection (networkOf tree) srcIp dstIp).1 ≠ .other := by
  have hcases := directionBetween_spec (networkOf tree) srcIp dstIp {}
  rw [getPacketDirection]
  generalize directionBetween (networkOf tree) srcIp dstIp {} = answer at hcases ⊢
  obtain ⟨packetDirection, subnet⟩ := answer
  rintro rfl
  have hnone : ∀ {ip}, networkOf tree ip = none → ¬ OwnAddress subnets ip := by
    intro ip hfound
    have hlongest := (htree ip).2
    rw [hfound] at hlongest
    exact hlongest.not_ownAddress
  rcases hown with hown | hown
  · exact hnone hcases.1 hown
  · exact hnone hcases.2.1 hown

theorem ClientOf.validateFlowSpecIpv4_iff {rule : FlowSpecRule} {client : UInt32}
    (hrule : HostRule rule) (hclient : ClientOf subnets rule client) :
    validateFlowSpecIpv4 rule client = true ↔ ∀ packetLength ∈ rule.packetLengths,
      packetLength.toNat ≤ rejectFlowSpecValidationIfSlowSpecLengthExceedsThisNumber := by
  have hany : (rule.packetLengths.any fun packetLength =>
      packetLength.toNat > rejectFlowSpecValidationIfSlowSpecLengthExceedsThisNumber) = true ↔
        ¬ ∀ packetLength ∈ rule.packetLengths,
          packetLength.toNat ≤ rejectFlowSpecValidationIfSlowSpecLengthExceedsThisNumber := by
    simp
  rw [validateFlowSpecIpv4]
  by_cases hlengths : ∀ packetLength ∈ rule.packetLengths,
      packetLength.toNat ≤ rejectFlowSpecValidationIfSlowSpecLengthExceedsThisNumber
  · rw [if_neg (fun h => hany.mp h hlengths)]
    cases hclient with
    | source hused hown =>
        have hhost := hrule.source hused
        refine iff_of_true ?_ hlengths
        simp [hused, ← hhost]
    | destination hused hown _ =>
        have hhost := hrule.destination hused
        refine iff_of_true ?_ hlengths
        simp [hused, ← hhost]
  · rw [if_pos (hany.mpr hlengths)]
    simp [hlengths]

/-- **An accepted rule is about traffic of its client.**  The packets that it matches come from
the client or go to it, and their direction is one of those that are counted or internal;
`validate_flow_spec_ipv4` accepts the rule for the same client, unless a length of it is too
large. -/
theorem acceptedRule_traffic (subnets : List SubnetCidrMask) :
    ∃ tree, subnets.foldlM (addSubnet ipv4Family) {} = some tree ∧
      ∀ (rule : FlowSpecRule) (clientIp client : UInt32),
        validateFlowSpecToBelongToPatricia rule tree clientIp = some (true, client) →
        (∀ packet, filterPacketByFlowspecRule ruleLookup packet rule = true →
          (packet.srcIp = client ∨ packet.dstIp = client) ∧
          (getPacketDirection (networkOf tree) packet.srcIp packet.dstIp).1 ≠ .other) ∧
        (validateFlowSpecIpv4 rule client = true ↔ ∀ packetLength ∈ rule.packetLengths,
          packetLength.toNat ≤ rejectFlowSpecValidationIfSlowSpecLengthExceedsThisNumber) := by
  obtain ⟨tree, hrun, htree⟩ := networkOf_spec subnets
  refine ⟨tree, hrun, fun rule clientIp client haccepted => ?_⟩
  obtain ⟨answer, hanswer, hvalidated⟩ := validateFlowSpec_spec htree rule clientIp
  obtain rfl : answer = (true, client) := Option.some.inj (hanswer.symm.trans haccepted)
  obtain ⟨hrule, hclient⟩ := hvalidated
  refine ⟨fun packet hmatches => ?_, hclient.validateFlowSpecIpv4_iff hrule⟩
  have hend := hclient.of_filter hrule hmatches
  refine ⟨hend, not_other_of_ownAddress htree (hend.imp (fun h => ?_) fun h => ?_)⟩
  · rw [h]
    exact hclient.ownAddress
  · rw [h]
    exact hclient.ownAddress

/-- A rule about short packets to one host. -/
def ruleToHost : FlowSpecRule :=
  { destinationSubnetIpv4 := ⟨0x070200c0, 32⟩
    destinationSubnetIpv4Used := true
    packetLengths := [100] }

/-- A UDP packet to `192.0.2.7`. -/
def packetToHost : ParsedPacket := { dstIp := 0x070200c0, protocol := 17, length := 100 }

/-- The rule is accepted for the host in its network, and matches the packet. -/
theorem acceptedRule_traffic_host :
    ∃ tree, [(⟨0x0200c0, 24⟩ : SubnetCidrMask)].foldlM (addSubnet ipv4Family) {} = some tree ∧
      validateFlowSpecToBelongToPatricia ruleToHost tree 0 = some (true, 0x070200c0) ∧
      filterPacketByFlowspecRule ruleLookup packetToHost ruleToHost = true ∧
      (getPacketDirection (networkOf tree) packetToHost.srcIp packetToHost.dstIp).1 ≠ .other ∧
      validateFlowSpecIpv4 ruleToHost 0x070200c0 = true := by
  obtain ⟨tree, hrun, htraffic⟩ := acceptedRule_traffic [⟨0x0200c0, 24⟩]
  have haccepted : validateFlowSpecToBelongToPatricia ruleToHost tree 0
      = some (true, 0x070200c0) := by
    obtain ⟨tree', hrun', htree⟩ := networkOf_spec [⟨0x0200c0, 24⟩]
    obtain rfl : tree' = tree := Option.some.inj (hrun'.symm.trans hrun)
    have hrule : HostRule ruleToHost := ⟨rfl, rfl, by decide, fun _ => rfl⟩
    have hown : OwnAddress [⟨0x0200c0, 24⟩] 0x070200c0 :=
      ⟨_, List.mem_singleton_self _, (prefixLookup_iff _ _).mp (by decide)⟩
    obtain ⟨found, hfound, hiff⟩ := lookupNetwork_host htree (hrule.destination rfl)
    obtain rfl : found = true := hiff.mpr hown
    exact validateFlowSpec_of_destination hrule 0 rfl rfl hfound
  have hmatches : filterPacketByFlowspecRule ruleLookup packetToHost ruleToHost = true := by decide
  obtain ⟨hpackets, hlengths⟩ := htraffic ruleToHost 0 0x070200c0 haccepted
  have hshort : ∀ packetLength ∈ ruleToHost.packetLengths,
      packetLength.toNat ≤ rejectFlowSpecValidationIfSlowSpecLengthExceedsThisNumber := by
    simp [ruleToHost, rejectFlowSpecValidationIfSlowSpecLengthExceedsThisNumber]
  exact ⟨tree, hrun, haccepted, hmatches, (hpackets packetToHost hmatches).2,
    hlengths.mpr hshort⟩

end FastNetMon
