/-
FastNetMon/Types.lean

The data types shared by the FlowSpec actions, the ban list and the packet
buckets: protocols, prefixes, FlowSpec rules and attack details, with the
field defaults of the C++ classes.

Fixed-width integers are Lean's own (`uint32_t` is `UInt32` and so on), a
`std::vector` is a list, and a `std::string` that carries raw bytes (the UUID
of a GoBGP path) is a list of bytes.  `ip_protocol_t` names all 256 values of
its `uint8_t`, so it is a wrapped byte, with names for the protocols that the
modelled code mentions.
-/
import Mathlib.Data.List.Basic
import Mathlib.Order.Defs.LinearOrder

namespace FastNetMon

/-- Raw bytes held in a `std::string`. -/
abbrev ByteString := List UInt8

/-! ### Protocols and prefixes -/

/-- `ip_protocol_t`. -/
structure IpProtocol where
  asNumber : UInt8
deriving DecidableEq, Repr, Inhabited

namespace IpProtocol

/-- `ip_protocol_t::HOPOPT`. -/
def HOPOPT : IpProtocol := ⟨0⟩
/-- `ip_protocol_t::ICMP`. -/
def ICMP : IpProtocol := ⟨1⟩
/-- `ip_protocol_t::TCP`. -/
def TCP : IpProtocol := ⟨6⟩
/-- `ip_protocol_t::UDP`. -/
def UDP : IpProtocol := ⟨17⟩

end IpProtocol

/-- `subnet_cidr_mask_t`; the address is kept in network byte order. -/
structure SubnetCidrMask where
  subnetAddress : UInt32 := 0
  cidrPrefixLength : UInt32 := 0
deriving DecidableEq, Repr, Inhabited

/-- `subnet_ipv6_cidr_mask_t`, the address as its sixteen bytes. -/
structure SubnetIpv6CidrMask where
  subnetAddress : Vector UInt8 16 := Vector.replicate 16 0
  cidrPrefixLength : UInt32 := 128
deriving DecidableEq, Repr, Inhabited

/-! ### FlowSpec rules -/

/-- `flow_spec_tcp_flagset_t`. -/
structure FlowSpecTcpFlagset where
  synFlag : Bool := false
  ackFlag : Bool := false
  finFlag : Bool := false
  pshFlag : Bool := false
  rstFlag : Bool := false
  urgFlag : Bool := false
deriving DecidableEq, Repr, Inhabited

/-- `flow_spec_fragmentation_types_t`. -/
inductive FlowSpecFragmentationType
  | dontFragment
  | isAFragment
  | firstFragment
  | lastFragment
  | notAFragment
deriving DecidableEq, Repr

/-- `bgp_flow_spec_action_types_t`. -/
inductive BgpFlowSpecActionType
  | discard
  | accept
  | rateLimit
  | redirect
  | redirectVrf
  | mark
deriving DecidableEq, Repr

/-- `bgp_flow_spec_action_t`. -/
structure BgpFlowSpecAction where
  actionType : BgpFlowSpecActionType := .accept
  rateLimit : UInt32 := 0
  redirectAs : UInt16 := 0
  redirectValue : UInt32 := 0
  redirectRtAs : UInt32 := 0
  redirectRtValue : UInt32 := 0
deriving DecidableEq, Repr

/-- `flow_spec_rule_t`. -/
structure FlowSpecRule where
  sourceSubnetIpv4 : SubnetCidrMask := {}
  sourceSubnetIpv4Used : Bool := false
  sourceSubnetIpv6 : SubnetIpv6CidrMask := {}
  sourceSubnetIpv6Used : Bool := false
  destinationSubnetIpv4 : SubnetCidrMask := {}
  destinationSubnetIpv4Used : Bool := false
  destinationSubnetIpv6 : SubnetIpv6CidrMask := {}
  destinationSubnetIpv6Used : Bool := false
  agentAddresses : List UInt32 := []
  sourcePorts : List UInt16 := []
  destinationPorts : List UInt16 := []
  packetLengths : List UInt16 := []
  vlans : List UInt16 := []
  ttls : List UInt8 := []
  sourceAsns : List UInt32 := []
  destinationAsns : List UInt32 := []
  inputInterfaces : List UInt32 := []
  outputInterfaces : List UInt32 := []
  ipv4Nexthops : List UInt32 := []
  protocols : List IpProtocol := []
  fragmentationFlags : List FlowSpecFragmentationType := []
  tcpFlags : List FlowSpecTcpFlagset := []
  setMatchBitForTcpFlags : Bool := false
  setMatchBitForFragmentationFlags : Bool := false
  action : BgpFlowSpecAction := {}
  announceUuid : Vector UInt8 16 := Vector.replicate 16 0
deriving DecidableEq, Repr

/-! ### Attacks -/

/-- `direction_t`. -/
inductive Direction
  | incoming
  | outgoing
  | internal
  | other
deriving DecidableEq, Repr

/-- `attack_detection_source_t`. -/
inductive AttackDetectionSource
  | automatic
  | manual
  | other
deriving DecidableEq, Repr

/-- `attack_details_t`, the fields that decide about actions and unban. -/
structure AttackDetails where
  attackDirection : Direction := .other
  attackProtocol : UInt32 := 0
  banTimestamp : Int := 0
  unbanEnabled : Bool := true
  banTime : Int := 0
  attackDetectionSource : AttackDetectionSource := .automatic
deriving DecidableEq, Repr

end FastNetMon
