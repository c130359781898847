/-
FastNetMon/FlowSpecJsonRoundTrip.lean

A rule that was read from a JSON document, written and read again.

Every list of such a rule is read back as it was, since each value that passed a
check on the way in passes it again; prefixes are, as far as their texts are
(`SubnetText`); and so is the action.  TCP flags are lost if TCP is not among the
protocols.  Main result: `json_round_trip`.
-/
import Mathlib
import FastNetMon.FlowSpecEquality
import FastNetMon.FlowSpecJson

namespace FastNetMon

/-! ### Texts of values -/

theorem readFragmentation_toString (flag : FlowSpecFragmentationType) :
    readFlowSpecFragmentationTypesFromString (flowSpecFragmentationFlagsToString flag)
      = some flag := by
  cases flag <;> decide

theorem readActionType_serialize (actionType : BgpFlowSpecActionType) :
    readFlowSpecActionTypeFromString (serializeActionType actionType) = some actionType := by
  cases actionType <;> decide

/-- A set with a flag is read back from its text. -/
theorem readTcpFlags_toString {flagset : FlowSpecTcpFlagset}
    (h : flagset.weHaveLeastOneFlagEnabled = true) :
    readFlowSpecTcpFlagsFromStrig (flowSpecTcpFlagsetToString flagset) = some flagset ∧
      flowSpecTcpFlagsetToString flagset ≠ [] := by
  have hall : ∀ syn ack fin psh rst urg : Bool,
      FlowSpecTcpFlagset.weHaveLeastOneFlagEnabled ⟨syn, ack, fin, psh, rst, urg⟩ = true →
      readFlowSpecTcpFlagsFromStrig (flowSpecTcpFlagsetToString ⟨syn, ack, fin, psh, rst, urg⟩)
        = some ⟨syn, ack, fin, psh, rst, urg⟩ ∧
      flowSpecTcpFlagsetToString ⟨syn, ack, fin, psh, rst, urg⟩ ≠ [] := by
    decide
  exact hall _ _ _ _ _ _ h

theorem setTcpFlag_enabled {flagset flagset' : FlowSpecTcpFlagset} {token : Text}
    (h : setTcpFlag flagset token = some flagset') : flagset'.weHaveLeastOneFlagEnabled = true := by
  rw [setTcpFlag] at h
  split at h
  · obtain rfl := Option.some.inj h
    simp [FlowSpecTcpFlagset.weHaveLeastOneFlagEnabled]
  split at h
  · obtain rfl := Option.some.inj h
    simp [FlowSpecTcpFlagset.weHaveLeastOneFlagEnabled]
  split at h
  · obtain rfl := Option.some.inj h
    simp [FlowSpecTcpFlagset.weHaveLeastOneFlagEnabled]
  split at h
  · obtain rfl := Option.some.inj h
    simp [FlowSpecTcpFlagset.weHaveLeastOneFlagEnabled]
  split at h
  · obtain rfl := Option.some.inj h
    simp [FlowSpecTcpFlagset.weHaveLeastOneFlagEnabled]
  split at h
  · obtain rfl := Option.some.inj h
    simp [FlowSpecTcpFlagset.weHaveLeastOneFlagEnabled]
  · exact absurd h (by simp)

/-- A set that was read has a flag. -/
theorem readTcpFlags_enabled {s : Text} {flagset : FlowSpecTcpFlagset}
    (h : readFlowSpecTcpFlagsFromStrig s = some flagset) :
    flagset.weHaveLeastOneFlagEnabled = true := by
  have hrun : ∀ (tokens : List Text) (start : FlowSpecTcpFlagset),
      start.weHaveLeastOneFlagEnabled = true → tokens.foldlM setTcpFlag start = some flagset →
      flagset.weHaveLeastOneFlagEnabled = true := by
    intro tokens
    induction tokens with
    | nil =>
      intro start hstart hfold
      obtain rfl : start = flagset := by simpa using hfold
      exact hstart
    | cons token tokens ih =>
      intro start _ hfold
      simp only [List.foldlM_cons, Option.bind_eq_bind, Option.bind_eq_some_iff] at hfold
      obtain ⟨next, hnext, hrest⟩ := hfold
      exact ih next (setTcpFlag_enabled hnext) hrest
  rw [readFlowSpecTcpFlagsFromStrig] at h
  have hne : splitCompress (· = '|') (toLowerCopy s) ≠ [] := splitTokens_ne_nil _ _
  obtain ⟨token, tokens, htokens⟩ := List.exists_cons_of_ne_nil hne
  rw [htokens] at h
  simp only [List.foldlM_cons, Option.bind_eq_bind, Option.bind_eq_some_iff] at h
  obtain ⟨next, hnext, hrest⟩ := h
  exact hrun tokens next (setTcpFlag_enabled hnext) hrest

/-! ### Lists -/

/-- Each element of a list that was read passed the check. -/
theorem mem_readList {α β : Type} {document : Json} {key : String} {get : Json → Option α}
    {check : α → Option β} {xs : List β} (h : readList document key get check = some xs) {x : β}
    (hx : x ∈ xs) : ∃ a, check a = some x := by
  have hmapM : ∀ (as : List α) (xs : List β), as.mapM check = some xs → x ∈ xs →
      ∃ a, check a = some x := by
    intro as
    induction as with
    | nil =>
      intro xs h hx
      obtain rfl : [] = xs := by simpa using h
      exact absurd hx (by simp)
    | cons a as ih =>
      intro xs h hx
      simp only [List.mapM_cons, Option.bind_eq_bind, Option.bind_eq_some_iff, Option.pure_def,
        Option.some.injEq] at h
      obtain ⟨y, hy, ys, hys, rfl⟩ := h
      rcases List.mem_cons.mp hx with rfl | hx
      · exact ⟨a, hy⟩
      · exact ih ys hys hx
  rw [readList] at h
  split at h
  · obtain rfl := Option.some.inj h
    exact absurd hx (by simp)
  · obtain ⟨as, -, has⟩ := Option.bind_eq_some_iff.mp h
    exact hmapM as xs has hx

/-- A list whose values convert back is read back. -/
theorem readList_listValue {α β : Type} {document : Json} {key : String} {get : Json → Option α}
    {check : α → Option β} {put : β → Json} {xs : List β}
    (hmember : document.member? key = listValue put xs)
    (h : ∀ x ∈ xs, (get (put x)).bind check = some x) :
    readList document key get check = some xs := by
  rw [readList, hmember, listValue]
  by_cases hxs : xs = []
  · rw [if_pos hxs, hxs]
  · rw [if_neg hxs]
    exact Json.getVector_map h

theorem checkPort_toNat (port : UInt16) :
    ((Json.ofNat32 port.toNat).getInt32).bind checkPort = some port := by
  have h := port.toNat_lt
  rw [Json.getInt32_ofNat32 (by omega), Option.bind_some, checkPort, if_pos, ofInt16_natCast,
    UInt16.ofNat_toNat]
  simp [validPort]
  omega

theorem checkVlan_toNat (vlan : UInt16) :
    ((Json.ofNat32 vlan.toNat).getInt32).bind checkVlan = some vlan := by
  have h := vlan.toNat_lt
  rw [Json.getInt32_ofNat32 (by omega), Option.bind_some, checkVlan, if_neg (by omega),
    ofInt16_natCast, UInt16.ofNat_toNat]

theorem checkPacketLength_toNat {packetLength : UInt16} (hle : packetLength.toNat ≤ 1500) :
    ((Json.ofNat32 packetLength.toNat).getInt32).bind checkPacketLength = some packetLength := by
  rw [Json.getInt32_ofNat32 (by omega), Option.bind_some, checkPacketLength, if_neg (by omega),
    if_neg (by omega), ofInt16_natCast, UInt16.ofNat_toNat]

theorem checkPacketLength_le {value : ℤ} {packetLength : UInt16}
    (h : checkPacketLength value = some packetLength) : packetLength.toNat ≤ 1500 := by
  rw [checkPacketLength] at h
  split at h
  · exact absurd h (by simp)
  split at h
  · exact absurd h (by simp)
  · obtain rfl := Option.some.inj h
    obtain ⟨n, rfl⟩ := Int.eq_ofNat_of_zero_le (show 0 ≤ value by omega)
    rw [ofInt16_natCast, UInt16.toNat_ofNat_of_lt' (by simp only [UInt16.size]; omega)]
    omega

theorem checkUInt32_toNat (value : UInt32) :
    ((Json.ofNat32 value.toNat).getInt64).bind checkUInt32 = some value := by
  have h := value.toNat_lt
  rw [Json.getInt64_ofNat32 (by omega), Option.bind_some, checkUInt32, if_neg (by omega),
    if_neg (by omega), ofInt32_natCast, UInt32.ofNat_toNat]

theorem fragmentationValue_eq (flags : List FlowSpecFragmentationType) :
    fragmentationValue flags = listValue (.string <| flowSpecFragmentationFlagsToString ·) flags := by
  have hne : ∀ flag, flowSpecFragmentationFlagsToString flag ≠ [] := by
    intro flag
    cases flag <;> decide
  rw [fragmentationValue, listValue, List.filter_eq_self.mpr, List.map_map]
  · rfl
  · simpa using fun flag _ => hne flag

theorem tcpFlagsValue_eq {protocols : List IpProtocol} {flags : List FlowSpecTcpFlagset}
    (h : ∀ flagset ∈ flags, flagset.weHaveLeastOneFlagEnabled = true) :
    tcpFlagsValue protocols flags = listValue (.string <| flowSpecTcpFlagsetToString ·)
      (if IpProtocol.TCP ∈ protocols then flags else []) := by
  rw [tcpFlagsValue, listValue]
  by_cases htcp : IpProtocol.TCP ∈ protocols
  · by_cases hflags : flags = []
    · simp [hflags]
    · have hfilter : (flags.map flowSpecTcpFlagsetToString).filter (· ≠ [])
          = flags.map flowSpecTcpFlagsetToString := by
        refine List.filter_eq_self.mpr fun text htext => ?_
        obtain ⟨flagset, hmem, rfl⟩ := List.mem_map.mp htext
        simpa using (readTcpFlags_toString (h flagset hmem)).2
      simp only [htcp, hflags, hfilter, ne_eq, not_false_eq_true, decide_true, and_self, if_true,
        if_false, List.map_map]
      rfl
  · simp [htcp]

/-! ### Prefixes -/

/-- `convert_ipv4_subnet_to_string` or `convert_ipv6_subnet_to_string`. -/
def AnyPrefix.text : AnyPrefix → Text
  | .ipv4 subnet => convertIpv4SubnetToString subnet
  | .ipv6 subnet => convertIpv6SubnetToString subnet

/-- The prefix is read back from its text. -/
def AnyPrefix.Readable : AnyPrefix → Prop
  | .ipv4 subnet => subnet.cidrPrefixLength.toNat ≤ 2147483647
  | .ipv6 subnet =>
      NoLeadingZeros subnet.subnetAddress ∧ subnet.cidrPrefixLength.toNat ≤ 2147483647

theorem colon_not_mem_convertIpv4 (subnet : SubnetCidrMask) :
    ':' ∉ convertIpv4SubnetToString subnet := by
  intro hmem
  rcases List.mem_append.mp hmem with hmem | hmem
  · exact absurd (mem_inetNtoa hmem) (by decide)
  · rcases List.mem_cons.mp hmem with hmem | hmem
    · exact absurd hmem (by decide)
    · exact absurd (isDigit_of_mem_decimal hmem) (by decide)

theorem readPrefix_text {document : Json} {key : String} {subnet : Option AnyPrefix}
    (hmember : document.member? key = subnet.map (.string ·.text))
    (h : ∀ p ∈ subnet, p.Readable) : readPrefix document key = some subnet := by
  rw [readPrefix, hmember]
  match subnet with
  | none => rfl
  | some (.ipv4 subnet) =>
    have hread := readIpv4_convert (h (.ipv4 subnet) rfl)
    simp only [Option.map_some, AnyPrefix.text, Json.getString, Option.bind_eq_bind,
      Option.bind_some, if_neg (colon_not_mem_convertIpv4 subnet), hread, Option.pure_def]
  | some (.ipv6 subnet) =>
    obtain ⟨haddress, hlength⟩ : (AnyPrefix.ipv6 subnet).Readable := h (.ipv6 subnet) rfl
    have hcolon : ':' ∈ convertIpv6SubnetToString subnet :=
      List.mem_append_left _ (colon_mem_printIpv6Address _)
    simp only [Option.map_some, AnyPrefix.text, Json.getString, Option.bind_eq_bind,
      Option.bind_some, if_pos hcolon, readIpv6_convert haddress hlength, Option.pure_def]

/-- An IPv4 prefix that was read has a length that fits an `int`. -/
theorem readPrefix_ipv4 {document : Json} {key : String} {subnet : SubnetCidrMask}
    (h : readPrefix document key = some (some (.ipv4 subnet))) :
    subnet.cidrPrefixLength.toNat ≤ 2147483647 := by
  rw [readPrefix] at h
  split at h
  · exact absurd h (by simp)
  · simp only [Option.bind_eq_bind, Option.bind_eq_some_iff] at h
    obtain ⟨text, -, h⟩ := h
    split at h
    · simp [Option.bind_eq_some_iff] at h
    · simp only [Option.bind_eq_some_iff, Option.pure_def, Option.some.injEq,
        AnyPrefix.ipv4.injEq] at h
      obtain ⟨_, hread, rfl⟩ := h
      exact readIpv4_length hread

/-! ### The action -/

/-- A rate that was read fits an `int32_t`. -/
theorem getInt32_lt {json : Json} {value : ℤ} (h : json.getInt32 = some value) :
    value < 2147483648 := by
  rw [Json.getInt32, Option.map_eq_some_iff] at h
  obtain ⟨number, -, rfl⟩ := h
  have hlt := Int.bmod_lt (x := number) (show 0 < 4294967296 by decide)
  omega

/-- What an action can be after it was read. -/
theorem readAction_spec {document : Json} {action : BgpFlowSpecAction}
    (h : readAction document = some action) :
    (action.actionType = .rateLimit ∧ action.rateLimit.toNat < 2147483648 ∧
      action = { actionType := .rateLimit, rateLimit := action.rateLimit }) ∨
    (action.actionType = .redirect ∧ action =
      { actionType := .redirect
        redirectAs := action.redirectAs
        redirectValue := action.redirectValue }) ∨
    (action.actionType ≠ .rateLimit ∧ action.actionType ≠ .redirect ∧
      action = { actionType := action.actionType }) := by
  simp only [readAction, Option.bind_eq_bind, Option.bind_eq_some_iff] at h
  obtain ⟨_, -, _, -, actionType, -, h⟩ := h
  split at h
  · rename_i hrate
    subst hrate
    split at h
    · obtain rfl := Option.some.inj h
      exact .inl ⟨rfl, by decide, rfl⟩
    · simp only [Option.bind_eq_some_iff, Option.ite_none_left_eq_some, Option.some.injEq] at h
      obtain ⟨_, -, rate, hget, hpos, rfl⟩ := h
      refine .inl ⟨rfl, ?_, rfl⟩
      have hlt := getInt32_lt hget
      obtain ⟨n, rfl⟩ := Int.eq_ofNat_of_zero_le (show 0 ≤ rate by omega)
      show (UInt32.ofInt (n : ℤ)).toNat < 2147483648
      rw [ofInt32_natCast, UInt32.toNat_ofNat_of_lt' (by simp only [UInt32.size]; omega)]
      omega
  split at h
  · rename_i hredirect
    subst hredirect
    simp only [Option.bind_eq_some_iff, Option.some.injEq] at h
    obtain ⟨_, -, _, -, _, -, _, -, _, -, rfl⟩ := h
    exact .inr (.inl ⟨rfl, rfl⟩)
  · rename_i hrate hredirect
    obtain rfl := Option.some.inj h
    exact .inr (.inr ⟨hrate, hredirect, rfl⟩)

/-- The action that was read is read back. -/
theorem readAction_actionValue {document written : Json} {action : BgpFlowSpecAction}
    (h : readAction document = some action)
    (htype : written.member? "action_type" = some (.string (serializeActionType action.actionType)))
    (hvalue : written.member? "action" = actionValue action) :
    readAction written = some action := by
  rw [readAction, htype]
  simp only [Json.getString, Option.bind_eq_bind, Option.bind_some, readActionType_serialize]
  rcases readAction_spec h with ⟨htype, hlt, hwhole⟩ | ⟨htype, hwhole⟩ | ⟨hrate, hredirect, hwhole⟩
  · have hrate : ∀ rate, Json.member? "rate" (.ofEntries [("rate", rate)]) = rate := by
      intro rate
      rw [Json.member?_ofEntries (by simp)]
      simp [List.lookup]
    rw [if_pos htype, hvalue, actionValue, if_pos htype]
    simp only [hrate]
    rw [Option.bind_some, Json.getInt32_ofNat32 (by omega), Option.bind_some, if_neg (by omega),
      ofInt32_natCast, UInt32.ofNat_toNat, htype, ← hwhole]
  · have has : ∀ as value, Json.member? "redirect_target_as" (.ofEntries
        [("redirect_target_as", as), ("redirect_target_value", value)]) = as := by
      intro as value
      rw [Json.member?_ofEntries (by simp)]
      simp [List.lookup]
    have htarget : ∀ as value, Json.member? "redirect_target_value" (.ofEntries
        [("redirect_target_as", as), ("redirect_target_value", value)]) = value := by
      intro as value
      rw [Json.member?_ofEntries (by simp)]
      simp [List.lookup]
    rw [if_neg (by rw [htype]; decide), if_pos htype, hvalue, actionValue,
      if_neg (by rw [htype]; decide), if_pos htype]
    simp only [has, htarget, Option.bind_some, Json.getUInt16_ofNat32, Json.getUInt32_ofNat32]
    rw [htype, ← hwhole]
  · rw [if_neg hrate, if_neg hredirect, ← hwhole]

/-! ### The whole rule -/

/-- What a document has for each part of the rule that it is read as, the action
apart. -/
structure ReadsAs (names : ProtocolNames) (document : Json) (source destination : Option AnyPrefix)
    (rule : FlowSpecRule) : Prop where
  sourcePrefix : readPrefix document "source_prefix" = some source
  destinationPrefix : readPrefix document "destination_prefix" = some destination
  destinationPorts :
    readList document "destination_ports" Json.getInt32 checkPort = some rule.destinationPorts
  sourcePorts : readList document "source_ports" Json.getInt32 checkPort = some rule.sourcePorts
  packetLengths :
    readList document "packet_lengths" Json.getInt32 checkPacketLength = some rule.packetLengths
  vlans : readList document "vlans" Json.getInt32 checkVlan = some rule.vlans
  sourceAsns : readList document "source_asns" Json.getInt64 checkUInt32 = some rule.sourceAsns
  destinationAsns :
    readList document "destination_asns" Json.getInt64 checkUInt32 = some rule.destinationAsns
  inputInterfaces :
    readList document "input_interfaces" Json.getInt64 checkUInt32 = some rule.inputInterfaces
  outputInterfaces :
    readList document "output_interfaces" Json.getInt64 checkUInt32 = some rule.outputInterfaces
  ttls : readList document "ttls" Json.getUInt8 some = some rule.ttls
  protocols :
    readList document "protocols" Json.getString names.readProtocolFromString = some rule.protocols
  ipv4Nexthops : readList document "ipv4_nexthops" Json.getString convertIpAsStringToUintSafe
    = some rule.ipv4Nexthops
  agentAddresses : readList document "agent_addresses" Json.getString convertIpAsStringToUintSafe
    = some rule.agentAddresses
  fragmentationFlags : readList document "fragmentation_flags" Json.getString
    readFlowSpecFragmentationTypesFromString = some rule.fragmentationFlags
  tcpFlags : readList document "tcp_flags" Json.getString readFlowSpecTcpFlagsFromStrig
    = some rule.tcpFlags
  prefixes : rule = { (({} : FlowSpecRule).setSource source).setDestination destination with
    destinationPorts := rule.destinationPorts
    sourcePorts := rule.sourcePorts
    packetLengths := rule.packetLengths
    vlans := rule.vlans
    sourceAsns := rule.sourceAsns
    destinationAsns := rule.destinationAsns
    inputInterfaces := rule.inputInterfaces
    outputInterfaces := rule.outputInterfaces
    ttls := rule.ttls
    protocols := rule.protocols
    ipv4Nexthops := rule.ipv4Nexthops
    agentAddresses := rule.agentAddresses
    fragmentationFlags := rule.fragmentationFlags
    tcpFlags := rule.tcpFlags
    action := rule.action }

theorem readMatchingPart_eq_some_iff {names : ProtocolNames} {document : Json}
    {rule : FlowSpecRule} :
    readMatchingPart names document {} = some rule ↔
      rule.action = {} ∧ ∃ source destination, ReadsAs names document source destination rule := by
  constructor
  · intro h
    obtain ⟨source, h₁, h⟩ := Option.bind_eq_some_iff.mp h
    obtain ⟨destination, h₂, h⟩ := Option.bind_eq_some_iff.mp h
    obtain ⟨destinationPorts, h₃, h⟩ := Option.bind_eq_some_iff.mp h
    obtain ⟨sourcePorts, h₄, h⟩ := Option.bind_eq_some_iff.mp h
    obtain ⟨packetLengths, h₅, h⟩ := Option.bind_eq_some_iff.mp h
    obtain ⟨vlans, h₆, h⟩ := Option.bind_eq_some_iff.mp h
    obtain ⟨sourceAsns, h₇, h⟩ := Option.bind_eq_some_iff.mp h
    obtain ⟨destinationAsns, h₈, h⟩ := Option.bind_eq_some_iff.mp h
    obtain ⟨inputInterfaces, h₉, h⟩ := Option.bind_eq_some_iff.mp h
    obtain ⟨outputInterfaces, h₁₀, h⟩ := Option.bind_eq_some_iff.mp h
    obtain ⟨ttls, h₁₁, h⟩ := Option.bind_eq_some_iff.mp h
    obtain ⟨protocols, h₁₂, h⟩ := Option.bind_eq_some_iff.mp h
    obtain ⟨ipv4Nexthops, h₁₃, h⟩ := Option.bind_eq_some_iff.mp h
    obtain ⟨agentAddresses, h₁₄, h⟩ := Option.bind_eq_some_iff.mp h
    obtain ⟨fragmentationFlags, h₁₅, h⟩ := Option.bind_eq_some_iff.mp h
    obtain ⟨tcpFlags, h₁₆, h⟩ := Option.bind_eq_some_iff.mp h
    obtain rfl := Option.some.inj h
    -- the rule that the prefixes are set in has no lists yet
    rcases source with _ | _ | _ <;> rcases destination with _ | _ | _ <;>
      exact ⟨rfl, _, _, h₁, h₂, h₃, h₄, h₅, h₆, h₇, h₈, h₉, h₁₀, h₁₁, h₁₂, h₁₃, h₁₄, h₁₅, h₁₆, rfl⟩
  · rintro ⟨haction, source, destination, h⟩
    rw [readMatchingPart]
    simp only [h.sourcePrefix, h.destinationPrefix, h.destinationPorts, h.sourcePorts,
      h.packetLengths, h.vlans, h.sourceAsns, h.destinationAsns, h.inputInterfaces,
      h.outputInterfaces, h.ttls, h.protocols, h.ipv4Nexthops, h.agentAddresses,
      h.fragmentationFlags, h.tcpFlags, Option.bind_eq_bind, Option.bind_some, Option.pure_def]
    have hprefixes := h.prefixes
    rw [haction] at hprefixes
    refine congrArg some ?_
    rcases source with _ | _ | _ <;> rcases destination with _ | _ | _ <;> exact hprefixes.symm

/-- The written value under a key. -/
theorem member?_encode (names : ProtocolNames) (rule : FlowSpecRule) (addUuid : Bool)
    (key : String) : (encodeFlowSpecToJsonRaw names rule addUuid).member? key
      = ((documentEntries names rule addUuid).lookup key).join := by
  refine Json.member?_ofEntries ?_ key
  rw [documentEntries]
  simp

/-- The prefixes of the rule that a document was read as are written as they were
read. -/
theorem prefixValue_setPrefixes (source destination : Option AnyPrefix) :
    let rule := (({} : FlowSpecRule).setSource source).setDestination destination
    prefixValue rule.sourceSubnetIpv4Used rule.sourceSubnetIpv4 rule.sourceSubnetIpv6Used
        rule.sourceSubnetIpv6 = source.map (.string ·.text) ∧
      prefixValue rule.destinationSubnetIpv4Used rule.destinationSubnetIpv4
        rule.destinationSubnetIpv6Used rule.destinationSubnetIpv6
          = destination.map (.string ·.text) := by
  rcases source with _ | _ | _ <;> rcases destination with _ | _ | _ <;> exact ⟨rfl, rfl⟩

/-- The IPv6 prefixes of a rule that are used are read back from their texts. -/
def FlowSpecRule.Ipv6Readable (rule : FlowSpecRule) : Prop :=
  (rule.sourceSubnetIpv6Used = true → (AnyPrefix.ipv6 rule.sourceSubnetIpv6).Readable) ∧
    (rule.destinationSubnetIpv6Used = true →
      (AnyPrefix.ipv6 rule.destinationSubnetIpv6).Readable)

/-- The rule without its TCP flags if TCP is not among its protocols. -/
def FlowSpecRule.dropTcpFlags (rule : FlowSpecRule) : FlowSpecRule :=
  { rule with tcpFlags := if IpProtocol.TCP ∈ rule.protocols then rule.tcpFlags else [] }

/-- Protocol names are read back, in small letters. -/
def ProtocolNames.ReadBack (names : ProtocolNames) : Prop :=
  ∀ s p, names.readProtocolFromString s = some p →
    names.readProtocolFromString (toLowerCopy (names.getIpProtocolName p)) = some p

/-- The written document has each part of the rule. -/
theorem readsAs_encode {names : ProtocolNames} {document : Json}
    {source destination : Option AnyPrefix} {rule : FlowSpecRule} (addUuid : Bool)
    (hnames : names.ReadBack) (h : ReadsAs names document source destination rule)
    (hsource : ∀ p ∈ source, p.Readable) (hdestination : ∀ p ∈ destination, p.Readable) :
    ReadsAs names (encodeFlowSpecToJsonRaw names rule addUuid) source destination
      rule.dropTcpFlags where
  sourcePrefix := by
    refine readPrefix_text ?_ hsource
    rw [member?_encode, h.prefixes]
    exact (prefixValue_setPrefixes source destination).1
  destinationPrefix := by
    refine readPrefix_text ?_ hdestination
    rw [member?_encode, h.prefixes]
    exact (prefixValue_setPrefixes source destination).2
  destinationPorts := readList_listValue (member?_encode ..) fun x _ => checkPort_toNat x
  sourcePorts := readList_listValue (member?_encode ..) fun x _ => checkPort_toNat x
  packetLengths := readList_listValue (member?_encode ..) fun x hx => by
    obtain ⟨_, hcheck⟩ := mem_readList h.packetLengths hx
    exact checkPacketLength_toNat (checkPacketLength_le hcheck)
  vlans := readList_listValue (member?_encode ..) fun x _ => checkVlan_toNat x
  sourceAsns := readList_listValue (member?_encode ..) fun x _ => checkUInt32_toNat x
  destinationAsns := readList_listValue (member?_encode ..) fun x _ => checkUInt32_toNat x
  inputInterfaces := readList_listValue (member?_encode ..) fun x _ => checkUInt32_toNat x
  outputInterfaces := readList_listValue (member?_encode ..) fun x _ => checkUInt32_toNat x
  ttls := readList_listValue (member?_encode ..) fun x _ => by
    rw [Json.getUInt8_ofNat32, Option.bind_some]
  protocols := readList_listValue (member?_encode ..) fun x hx => by
    obtain ⟨name, hread⟩ := mem_readList h.protocols hx
    exact hnames name x hread
  ipv4Nexthops := readList_listValue (member?_encode ..) fun x _ => inetAton_inetNtoa x
  agentAddresses := readList_listValue (member?_encode ..) fun x _ => inetAton_inetNtoa x
  fragmentationFlags := by
    refine readList_listValue ((member?_encode ..).trans (fragmentationValue_eq _)) fun flag _ => ?_
    exact readFragmentation_toString flag
  tcpFlags := by
    have henabled : ∀ flagset ∈ rule.tcpFlags, flagset.weHaveLeastOneFlagEnabled = true := by
      intro flagset hmem
      obtain ⟨_, hread⟩ := mem_readList h.tcpFlags hmem
      exact readTcpFlags_enabled hread
    refine readList_listValue ((member?_encode ..).trans (tcpFlagsValue_eq henabled)) ?_
    intro flagset hmem
    rw [FlowSpecRule.dropTcpFlags] at hmem
    split at hmem
    · exact (readTcpFlags_toString (henabled flagset hmem)).1
    · exact absurd hmem (by simp)
  prefixes := congrArg FlowSpecRule.dropTcpFlags h.prefixes

theorem ReadsAs.setAction {names : ProtocolNames} {document : Json}
    {source destination : Option AnyPrefix} {rule : FlowSpecRule}
    (h : ReadsAs names document source destination rule) (action : BgpFlowSpecAction) :
    ReadsAs names document source destination { rule with action } :=
  { h with prefixes := congrArg (fun rule : FlowSpecRule => { rule with action }) h.prefixes }

/-- A prefix that was read is read back, unless it is an IPv6 prefix that is not. -/
theorem ReadsAs.readable {names : ProtocolNames} {document : Json}
    {source destination : Option AnyPrefix} {rule : FlowSpecRule}
    (h : ReadsAs names document source destination rule) (hipv6 : rule.Ipv6Readable) :
    (∀ p ∈ source, p.Readable) ∧ (∀ p ∈ destination, p.Readable) := by
  rw [FlowSpecRule.Ipv6Readable, h.prefixes] at hipv6
  constructor
  · rintro (subnet | subnet) rfl
    · exact readPrefix_ipv4 h.sourcePrefix
    · rcases destination with _ | _ | _ <;> exact hipv6.1 rfl
  · rintro (subnet | subnet) rfl
    · exact readPrefix_ipv4 h.destinationPrefix
    · exact hipv6.2 rfl

/-- **A rule that was read is read back from the document that is written for
it**, except for TCP flags without TCP among the protocols. -/
theorem json_round_trip {names : ProtocolNames} (hnames : names.ReadBack) {document : Json}
    {rule : FlowSpecRule} (addUuid : Bool)
    (hread : readFlowSpecFromJsonToNativeFormat names document {} true = some rule)
    (hipv6 : rule.Ipv6Readable) :
    readFlowSpecFromJsonToNativeFormat names (encodeFlowSpecToJsonRaw names rule addUuid) {} true
      = some rule.dropTcpFlags := by
  obtain ⟨matching, hmatching, hread⟩ := Option.bind_eq_some_iff.mp hread
  rw [if_pos rfl] at hread
  obtain ⟨action, haction, hread⟩ := Option.bind_eq_some_iff.mp hread
  obtain rfl := Option.some.inj hread
  obtain ⟨hdefault, source, destination, hparts⟩ := readMatchingPart_eq_some_iff.mp hmatching
  have hrule := hparts.setAction action
  obtain ⟨hsource, hdestination⟩ := hrule.readable hipv6
  have hwritten := readsAs_encode addUuid hnames hrule hsource hdestination
  have haction' := readAction_actionValue haction
    (member?_encode names { matching with action } addUuid "action_type")
    (member?_encode names { matching with action } addUuid "action")
  rw [readFlowSpecFromJsonToNativeFormat,
    readMatchingPart_eq_some_iff.mpr ⟨rfl, source, destination, hwritten.setAction {}⟩]
  simp only [Option.bind_eq_bind, Option.bind_some, if_true, haction', Option.pure_def]
  rfl

/-- The names of two protocols. -/
def shortNames : ProtocolNames where
  readProtocolFromString s :=
    if toLowerCopy s = "tcp".toList then some .TCP
    else if toLowerCopy s = "udp".toList then some .UDP
    else none
  getIpProtocolName
    | .TCP => "TCP".toList
    | _ => "UDP".toList

theorem shortNames_readBack : shortNames.ReadBack := by
  intro s p h
  simp only [shortNames] at h
  split at h
  · obtain rfl := Option.some.inj h
    decide
  · obtain ⟨-, h⟩ := Option.ite_none_right_eq_some.mp h
    obtain rfl := Option.some.inj h
    decide

/-- A document that limits the rate of TCP packets with certain flags. -/
def tcpDocument : Json := .object
  [("source_prefix", .string "10.0.0.0/24".toList),
    ("destination_prefix", .string "2001:db8::1/64".toList),
    ("destination_ports", .array [.ofNat32 80, .ofNat32 443]),
    ("vlans", .array [.ofNat32 7]),
    ("ttls", .array [.ofNat32 64]),
    ("protocols", .array [.string "TCP".toList]),
    ("tcp_flags", .array [.string "syn|ack".toList, .string "RST".toList]),
    ("action_type", .string "rate-limit".toList),
    ("action", .object [("rate", .ofNat32 1000)])]

/-- The rule that this document describes. -/
def tcpDocumentRule : FlowSpecRule :=
  { sourceSubnetIpv4 := ⟨0x0000000a, 24⟩
    sourceSubnetIpv4Used := true
    destinationSubnetIpv6 := ⟨#v[0x20, 0x01, 0x0d, 0xb8, 0, 0, 0, 0, 0, 0, 0, 0, 0, 0, 0, 1], 64⟩
    destinationSubnetIpv6Used := true
    destinationPorts := [80, 443]
    vlans := [7]
    ttls := [64]
    protocols := [.TCP]
    tcpFlags := [{ synFlag := true, ackFlag := true }, { rstFlag := true }]
    action := { actionType := .rateLimit, rateLimit := 1000 } }

theorem read_tcpDocument : readFlowSpecFromJsonToNativeFormat shortNames tcpDocument {} true
    = some tcpDocumentRule := by
  decide +kernel

/-- The rule of this document is read back as it is. -/
theorem tcpDocument_round_trips :
    readFlowSpecFromJsonToNativeFormat shortNames
      (encodeFlowSpecToJsonRaw shortNames tcpDocumentRule true) {} true = some tcpDocumentRule :=
  (json_round_trip shortNames_readBack true read_tcpDocument
    ⟨fun h => absurd h (by decide), fun _ => ⟨by unfold NoLeadingZeros; decide, by decide⟩⟩).trans
    (by decide)

/-- A document with TCP flags that does not name the protocol. -/
def flagsDocument : Json := .object
  [("tcp_flags", .array [.string "syn".toList]), ("action_type", .string "discard".toList)]

/-- **TCP flags without the protocol are lost**, so that the rule that is read back
is not equal to the rule that was written. -/
theorem flagsDocument_not_round_trips :
    ¬ ∀ (names : ProtocolNames), names.ReadBack → ∀ (document : Json) (rule : FlowSpecRule)
      (addUuid : Bool),
      readFlowSpecFromJsonToNativeFormat names document {} true = some rule →
      ∃ rule', readFlowSpecFromJsonToNativeFormat names (encodeFlowSpecToJsonRaw names rule addUuid)
        {} true = some rule' ∧ rule'.operatorEq rule = true := by
  intro h
  obtain ⟨rule', hread, heq⟩ := h shortNames shortNames_readBack flagsDocument
    { tcpFlags := [{ synFlag := true }], action := { actionType := .discard } } false
    (by decide +kernel)
  have hlost : readFlowSpecFromJsonToNativeFormat shortNames
      (encodeFlowSpecToJsonRaw shortNames
        { tcpFlags := [{ synFlag := true }], action := { actionType := .discard } } false) {} true
      = some { action := { actionType := .discard } } := by
    decide +kernel
  obtain rfl := Option.some.inj (hlost.symm.trans hread)
  exact absurd heq (by decide)

end FastNetMon
