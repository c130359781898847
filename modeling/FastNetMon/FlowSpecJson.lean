/-
FastNetMon/FlowSpecJson.lean

Rules as JSON documents (`read_flow_spec_from_json_to_native_format`,
`encode_flow_spec_to_json_raw`).

The reader takes each key that the document has, converts and checks its value,
and turns the document down at the first value that does not fit.  The writer
emits a key for each list that is not empty and each prefix that is used, with
one exception: TCP flags are emitted only if the rule has the protocol TCP.

The names of protocols are a parameter of both sides (`ProtocolNames`).
-/
import FastNetMon.Json
import FastNetMon.SubnetText

namespace FastNetMon

/-! ### Values as texts -/

/-- `read_protocol_from_string` and `get_ip_protocol_name`. -/
structure ProtocolNames where
  readProtocolFromString : Text → Option IpProtocol
  getIpProtocolName : IpProtocol → Text

/-- `boost::algorithm::to_lower_copy`. -/
def toLowerCopy (s : Text) : Text := s.map Char.toLower

/-- `read_flow_spec_fragmentation_types_from_string`. -/
def readFlowSpecFragmentationTypesFromString (s : Text) : Option FlowSpecFragmentationType :=
  let s := toLowerCopy s
  if s = "dont-fragment".toList then some .dontFragment
  else if s = "is-fragment".toList then some .isAFragment
  else if s = "first-fragment".toList then some .firstFragment
  else if s = "last-fragment".toList then some .lastFragment
  else if s = "not-a-fragment".toList then some .notAFragment
  else none

/-- `flow_spec_fragmentation_flags_to_string`. -/
def flowSpecFragmentationFlagsToString : FlowSpecFragmentationType → Text
  | .dontFragment => "dont-fragment".toList
  | .isAFragment => "is-fragment".toList
  | .firstFragment => "first-fragment".toList
  | .lastFragment => "last-fragment".toList
  | .notAFragment => "not-a-fragment".toList

/-- One pass of the loop of `read_flow_spec_tcp_flags_from_strig`. -/
def setTcpFlag (flagset : FlowSpecTcpFlagset) (token : Text) : Option FlowSpecTcpFlagset :=
  if token = "syn".toList then some { flagset with synFlag := true }
  else if token = "ack".toList then some { flagset with ackFlag := true }
  else if token = "fin".toList then some { flagset with finFlag := true }
  else if token = "urgent".toList then some { flagset with urgFlag := true }
  else if token = "push".toList then some { flagset with pshFlag := true }
  else if token = "rst".toList then some { flagset with rstFlag := true }
  else none

/-- `read_flow_spec_tcp_flags_from_strig`. -/
def readFlowSpecTcpFlagsFromStrig (s : Text) : Option FlowSpecTcpFlagset :=
  (splitCompress (· = '|') (toLowerCopy s)).foldlM setTcpFlag {}

/-- `flow_spec_tcp_flagset_to_string`. -/
def flowSpecTcpFlagsetToString (flagset : FlowSpecTcpFlagset) : Text :=
  let output :=
    (if flagset.synFlag then ["syn".toList] else []) ++
    (if flagset.ackFlag then ["ack".toList] else []) ++
    (if flagset.finFlag then ["fin".toList] else []) ++
    (if flagset.rstFlag then ["rst".toList] else []) ++
    (if flagset.urgFlag then ["urgent".toList] else []) ++
    (if flagset.pshFlag then ["push".toList] else [])
  ['|'].intercalate output

/-- `read_flow_spec_action_type_from_string`. -/
def readFlowSpecActionTypeFromString (s : Text) : Option BgpFlowSpecActionType :=
  if s = "accept".toList then some .accept
  else if s = "discard".toList then some .discard
  else if s = "rate-limit".toList then some .rateLimit
  else if s = "redirect".toList then some .redirect
  else if s = "redirect-vrf".toList then some .redirectVrf
  else if s = "mark".toList then some .mark
  else none

/-- `serialize_action_type`. -/
def serializeActionType : BgpFlowSpecActionType → Text
  | .accept => "accept".toList
  | .discard => "discard".toList
  | .rateLimit => "rate-limit".toList
  | .redirect => "redirect".toList
  | .redirectVrf => "redirect-vrf".toList
  | .mark => "mark".toList

/-! ### The reader -/

/-- A prefix of either family; the text of an IPv6 prefix has a colon. -/
inductive AnyPrefix
  | ipv4 (subnet : SubnetCidrMask)
  | ipv6 (subnet : SubnetIpv6CidrMask)

/-- The prefix under a key, if the document has it. -/
def readPrefix (document : Json) (key : String) : Option (Option AnyPrefix) :=
  match document.member? key with
  | none => some none
  | some value => do
      let text ← value.getString
      if ':' ∈ text then
        return some (.ipv6 (← readIpv6SubnetFromString text))
      else
        return some (.ipv4 (← convertSubnetFromStringToBinaryWithCidrFormatSafe text))

/-- `set_source_subnet_ipv4` or `set_source_subnet_ipv6`. -/
def FlowSpecRule.setSource (rule : FlowSpecRule) : Option AnyPrefix → FlowSpecRule
  | none => rule
  | some (.ipv4 subnet) => { rule with sourceSubnetIpv4 := subnet, sourceSubnetIpv4Used := true }
  | some (.ipv6 subnet) => { rule with sourceSubnetIpv6 := subnet, sourceSubnetIpv6Used := true }

/-- `set_destination_subnet_ipv4` or `set_destination_subnet_ipv6`. -/
def FlowSpecRule.setDestination (rule : FlowSpecRule) : Option AnyPrefix → FlowSpecRule
  | none => rule
  | some (.ipv4 subnet) =>
      { rule with destinationSubnetIpv4 := subnet, destinationSubnetIpv4Used := true }
  | some (.ipv6 subnet) =>
      { rule with destinationSubnetIpv6 := subnet, destinationSubnetIpv6Used := true }

/-- The list under a key, if the document has it: each value is converted, and
then each of them is checked. -/
def readList {α β : Type} (document : Json) (key : String) (get : Json → Option α)
    (check : α → Option β) : Option (List β) :=
  match document.member? key with
  | none => some []
  | some value => (value.getVector get).bind (List.mapM check)

/-- `valid_port`. -/
def validPort (port : ℤ) : Bool := port ≥ 0 && port ≤ 65535

/-- A port of the document, if it is one. -/
def checkPort (port : ℤ) : Option UInt16 := if validPort port then some (.ofInt port) else none

/-- A packet length of the document, at most 1500. -/
def checkPacketLength (packetLength : ℤ) : Option UInt16 :=
  if packetLength < 0 then none
  else if packetLength > 1500 then none
  else some (.ofInt packetLength)

/-- Only a negative VLAN is turned down. -/
def checkVlan (vlan : ℤ) : Option UInt16 := if vlan < 0 then none else some (.ofInt vlan)

/-- The check of AS numbers and interfaces. -/
def checkUInt32 (value : ℤ) : Option UInt32 :=
  if value < 0 then none
  else if value > 4294967295 then none
  else some (.ofInt value)

/-- The action of a document. -/
def readAction (document : Json) : Option BgpFlowSpecAction := do
  let actionAsString ← (← document.member? "action_type").getString
  let actionType ← readFlowSpecActionTypeFromString actionAsString
  if actionType = .rateLimit then
    match document.member? "action" with
    -- zero is assumed without an argument
    | none => some { actionType }
    | some jsonActionDoc => do
        let rate ← (← jsonActionDoc.member? "rate").getInt32
        if rate < 0 then none else some { actionType, rateLimit := .ofInt rate }
  else if actionType = .redirect then do
    let jsonActionDoc ← document.member? "action"
    let redirectAs ← (← jsonActionDoc.member? "redirect_target_as").getUInt16
    let redirectValue ← (← jsonActionDoc.member? "redirect_target_value").getUInt32
    some { actionType, redirectAs, redirectValue }
  else some { actionType }

variable (names : ProtocolNames)

/-- The part of `read_flow_spec_from_json_to_native_format` in front of the
action. -/
def readMatchingPart (document : Json) (rule : FlowSpecRule) : Option FlowSpecRule := do
  let rule := rule.setSource (← readPrefix document "source_prefix")
  let rule := rule.setDestination (← readPrefix document "destination_prefix")
  let destinationPorts ← readList document "destination_ports" Json.getInt32 checkPort
  let sourcePorts ← readList document "source_ports" Json.getInt32 checkPort
  let packetLengths ← readList document "packet_lengths" Json.getInt32 checkPacketLength
  let vlans ← readList document "vlans" Json.getInt32 checkVlan
  let sourceAsns ← readList document "source_asns" Json.getInt64 checkUInt32
  let destinationAsns ← readList document "destination_asns" Json.getInt64 checkUInt32
  let inputInterfaces ← readList document "input_interfaces" Json.getInt64 checkUInt32
  let outputInterfaces ← readList document "output_interfaces" Json.getInt64 checkUInt32
  let ttls ← readList document "ttls" Json.getUInt8 some
  let protocols ← readList document "protocols" Json.getString names.readProtocolFromString
  let ipv4Nexthops ← readList document "ipv4_nexthops" Json.getString convertIpAsStringToUintSafe
  let agentAddresses ←
    readList document "agent_addresses" Json.getString convertIpAsStringToUintSafe
  let fragmentationFlags ←
    readList document "fragmentation_flags" Json.getString readFlowSpecFragmentationTypesFromString
  let tcpFlags ← readList document "tcp_flags" Json.getString readFlowSpecTcpFlagsFromStrig
  return { rule with
    destinationPorts := rule.destinationPorts ++ destinationPorts
    sourcePorts := rule.sourcePorts ++ sourcePorts
    packetLengths := rule.packetLengths ++ packetLengths
    vlans := rule.vlans ++ vlans
    sourceAsns := rule.sourceAsns ++ sourceAsns
    destinationAsns := rule.destinationAsns ++ destinationAsns
    inputInterfaces := rule.inputInterfaces ++ inputInterfaces
    outputInterfaces := rule.outputInterfaces ++ outputInterfaces
    ttls := rule.ttls ++ ttls
    protocols := rule.protocols ++ protocols
    ipv4Nexthops := rule.ipv4Nexthops ++ ipv4Nexthops
    agentAddresses := rule.agentAddresses ++ agentAddresses
    fragmentationFlags := rule.fragmentationFlags ++ fragmentationFlags
    tcpFlags := rule.tcpFlags ++ tcpFlags }

/-- `read_flow_spec_from_json_to_native_format`, from the parsed document on. -/
def readFlowSpecFromJsonToNativeFormat (document : Json) (rule : FlowSpecRule)
    (requireAction : Bool) : Option FlowSpecRule := do
  let rule ← readMatchingPart names document rule
  if requireAction then
    let action ← readAction document
    return { rule with action }
  else return rule

/-! ### The writer -/

/-- `boost::uuids::to_string`. -/
def uuidText (uuid : Vector UInt8 16) : Text :=
  let part := fun (start count : ℕ) => ((uuid.toList.drop start).take count).flatMap hexByte
  part 0 4 ++ '-' :: part 4 2 ++ '-' :: part 6 2 ++ '-' :: part 8 2 ++ '-' :: part 10 6

/-- The value of a list, unless it is empty. -/
def listValue {α : Type} (put : α → Json) (xs : List α) : Option Json :=
  if xs = [] then none else some (.array (xs.map put))

/-- The prefix of a rule; IPv4 goes first. -/
def prefixValue (ipv4Used : Bool) (ipv4 : SubnetCidrMask) (ipv6Used : Bool)
    (ipv6 : SubnetIpv6CidrMask) : Option Json :=
  if ipv4Used then some (.string (convertIpv4SubnetToString ipv4))
  else if ipv6Used then some (.string (convertIpv6SubnetToString ipv6))
  else none

/-- The fragmentation flags; a flag without a text is passed over. -/
def fragmentationValue (flags : List FlowSpecFragmentationType) : Option Json :=
  if flags = [] then none
  else some (.array
    (((flags.map flowSpecFragmentationFlagsToString).filter (· ≠ [])).map .string))

/-- The TCP flags, if TCP is among the protocols; a set without a text is passed
over. -/
def tcpFlagsValue (protocols : List IpProtocol) (flags : List FlowSpecTcpFlagset) : Option Json :=
  let weHaveTcpProtocolInList := decide (IpProtocol.TCP ∈ protocols)
  if flags ≠ [] ∧ weHaveTcpProtocolInList then
    some (.array (((flags.map flowSpecTcpFlagsetToString).filter (· ≠ [])).map .string))
  else none

/-- The arguments of an action, if it has any. -/
def actionValue (action : BgpFlowSpecAction) : Option Json :=
  if action.actionType = .rateLimit then
    some (.ofEntries [("rate", some (.ofNat32 action.rateLimit.toNat))])
  else if action.actionType = .redirect then
    some (.ofEntries
      [("redirect_target_as", some (.ofNat32 action.redirectAs.toNat)),
        ("redirect_target_value", some (.ofNat32 action.redirectValue.toNat))])
  else none

/-- The keys of a document and their values. -/
def documentEntries (rule : FlowSpecRule) (addUuid : Bool) : List (String × Option Json) :=
  [("uuid", if addUuid then some (.string (uuidText rule.announceUuid)) else none),
    ("source_prefix", prefixValue rule.sourceSubnetIpv4Used rule.sourceSubnetIpv4
      rule.sourceSubnetIpv6Used rule.sourceSubnetIpv6),
    ("destination_prefix", prefixValue rule.destinationSubnetIpv4Used rule.destinationSubnetIpv4
      rule.destinationSubnetIpv6Used rule.destinationSubnetIpv6),
    ("destination_ports", listValue (.ofNat32 ·.toNat) rule.destinationPorts),
    ("source_ports", listValue (.ofNat32 ·.toNat) rule.sourcePorts),
    ("packet_lengths", listValue (.ofNat32 ·.toNat) rule.packetLengths),
    ("source_asns", listValue (.ofNat32 ·.toNat) rule.sourceAsns),
    ("destination_asns", listValue (.ofNat32 ·.toNat) rule.destinationAsns),
    ("input_interfaces", listValue (.ofNat32 ·.toNat) rule.inputInterfaces),
    ("output_interfaces", listValue (.ofNat32 ·.toNat) rule.outputInterfaces),
    ("vlans", listValue (.ofNat32 ·.toNat) rule.vlans),
    ("ttls", listValue (.ofNat32 ·.toNat) rule.ttls),
    ("protocols", listValue (.string <| toLowerCopy <| names.getIpProtocolName ·) rule.protocols),
    ("ipv4_nexthops", listValue (.string <| convertIpAsUintToString ·) rule.ipv4Nexthops),
    ("agent_addresses", listValue (.string <| convertIpAsUintToString ·) rule.agentAddresses),
    ("fragmentation_flags", fragmentationValue rule.fragmentationFlags),
    ("tcp_flags", tcpFlagsValue rule.protocols rule.tcpFlags),
    ("action_type", some (.string (serializeActionType rule.action.actionType))),
    ("action", actionValue rule.action)]

/-- `encode_flow_spec_to_json_raw`. -/
def encodeFlowSpecToJsonRaw (rule : FlowSpecRule) (addUuid : Bool) : Json :=
  .ofEntries (documentEntries names rule addUuid)

end FastNetMon
