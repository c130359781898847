/-
FastNetMon/FlowSpecAnnounce.lean

The BGP attributes of a FlowSpec announce: the action of a rule as an extended
community, and the attribute lists for a BGP session
(`build_attributes_for_flowspec_announce`) and for GoBGP, which gets the NLRI
separately (`build_attributes_for_gobgp_flowspec_announce`).

An empty list of attributes is how both functions report that the rule cannot
be announced.
-/
import FastNetMon.MpAttribute

namespace FastNetMon

/-! ### Extended communities -/

/-- The type of communities for an IPv4 address. -/
def EXTENDED_COMMUNITY_TRANSITIVE_IPV4_ADDRESS_SPECIFIC : UInt8 := 0x01
/-- The type of the rate, redirect and marking communities. -/
def EXTENDED_COMMUNITY_TRANSITIVE_EXPEREMENTAL : UInt8 := 0x80
/-- The type of redirects to a four-byte AS. -/
def EXTENDED_COMMUNITY_TRANSITIVE_EXPEREMENTAL_PART_3 : UInt8 := 0x82

/-- The subtype of a rate limit. -/
def FLOW_SPEC_EXTENDED_COMMUNITY_SUBTYPE_TRAFFIC_RATE : UInt8 := 6
/-- The subtype of a redirect to a two-byte AS. -/
def FLOW_SPEC_EXTENDED_COMMUNITY_SUBTYPE_REDIRECT_AS_TWO_BYTE : UInt8 := 8
/-- The subtype of a DSCP marking. -/
def FLOW_SPEC_EXTENDED_COMMUNITY_SUBTYPE_TRAFFIC_REMARKING : UInt8 := 9

/-- The subtype of a redirect to an IPv4 next hop. -/
def BGP_IPV4_EXTENDED_COMMUNITY_SUBTYPE_FLOW_SPEC_REDIRECT_IPv4 : UInt8 := 0x0c

/-- `bgp_extended_community_element_flow_spec_rate_t` in network byte order;
`rateLimit` is the bit pattern of the rate. -/
def flowSpecRateElement (rateLimit : UInt32) : ByteString :=
  [EXTENDED_COMMUNITY_TRANSITIVE_EXPEREMENTAL, FLOW_SPEC_EXTENDED_COMMUNITY_SUBTYPE_TRAFFIC_RATE,
    0, 0] ++ bytes32 (byteSwap32 rateLimit)

/-- `bgp_extended_community_element_flow_spec_redirect_2_octet_as_4_octet_value_t_t`
and `bgp_extended_community_element_flow_spec_redirect_rt_as_2byte_t`, which
have the same layout and the same type bytes. -/
def flowSpecRedirectElement (redirectAs : UInt16) (redirectValue : UInt32) : ByteString :=
  [EXTENDED_COMMUNITY_TRANSITIVE_EXPEREMENTAL,
    FLOW_SPEC_EXTENDED_COMMUNITY_SUBTYPE_REDIRECT_AS_TWO_BYTE]
    ++ bytes16 (byteSwap16 redirectAs) ++ bytes32 (byteSwap32 redirectValue)

/-- `bgp_extended_community_element_flow_spec_redirect_rt_as_4byte_t`. -/
def flowSpecRedirectRtAs4byteElement (routeTargetAs : UInt32) (routeTargetValue : UInt16) :
    ByteString :=
  [EXTENDED_COMMUNITY_TRANSITIVE_EXPEREMENTAL_PART_3,
    FLOW_SPEC_EXTENDED_COMMUNITY_SUBTYPE_REDIRECT_AS_TWO_BYTE]
    ++ bytes32 (byteSwap32 routeTargetAs) ++ bytes16 (byteSwap16 routeTargetValue)

/-- `bgp_extended_community_element_flow_spec_ipv4_next_hop_t`; the address is
in network byte order already. -/
def flowSpecIpv4NextHopElement (nextHopIpv4 : UInt32) : ByteString :=
  [EXTENDED_COMMUNITY_TRANSITIVE_IPV4_ADDRESS_SPECIFIC,
    BGP_IPV4_EXTENDED_COMMUNITY_SUBTYPE_FLOW_SPEC_REDIRECT_IPv4]
    ++ bytes32 nextHopIpv4 ++ bytes16 0

/-- An extended community attribute with a single element of eight bytes:
`bgp_extended_community_attribute_t` and the element, in a buffer of that size. -/
def extendedCommunityAttribute (element : ByteString) : ByteString :=
  let header : ByteString :=
    [BgpAttributeFlags.toByte { transitiveBit := true, optionalBit := true },
      BGP_ATTRIBUTE_EXTENDED_COMMUNITY, 8]
  (((DynamicBinaryBuffer.ofSize (3 + 8)).append header).append element).data

/-- `encode_bgp_flow_spec_redirect_rt_as_extended_attribute`. -/
def encodeBgpFlowSpecRedirectRtAsExtendedAttribute (action : BgpFlowSpecAction) :
    Option ByteString :=
  let routeTargetAs := action.redirectRtAs
  let routeTargetValue := action.redirectRtValue
  if routeTargetAs ≤ 65535 then
    some (extendedCommunityAttribute
      (flowSpecRedirectElement routeTargetAs.toUInt16 routeTargetValue))
  else if routeTargetValue > 65535 then none
  else
    some (extendedCommunityAttribute
      (flowSpecRedirectRtAs4byteElement routeTargetAs routeTargetValue.toUInt16))

/-- `encode_bgp_flow_spec_action_as_extended_attribute`. -/
def encodeBgpFlowSpecActionAsExtendedAttribute (action : BgpFlowSpecAction) :
    Option ByteString :=
  match action.actionType with
  | .discard => some (extendedCommunityAttribute (flowSpecRateElement (float32OfNat 0)))
  | .rateLimit =>
      some (extendedCommunityAttribute (flowSpecRateElement (float32OfNat action.rateLimit.toNat)))
  | .redirect =>
      some (extendedCommunityAttribute
        (flowSpecRedirectElement action.redirectAs action.redirectValue))
  | .redirectVrf => encodeBgpFlowSpecRedirectRtAsExtendedAttribute action
  | .accept | .mark => none

/-- `encode_bgp_flow_spec_next_hop_as_extended_attribute`. -/
def encodeBgpFlowSpecNextHopAsExtendedAttribute (nextHopIpv4 : UInt32) : ByteString :=
  extendedCommunityAttribute (flowSpecIpv4NextHopElement nextHopIpv4)

/-! ### Attribute lists -/

/-- `bgp_attribute_origin`, with the value `BGP_ORIGIN_INCOMPLETE`. -/
def bgpAttributeOrigin : ByteString :=
  [BgpAttributeFlags.toByte { transitiveBit := true }, BGP_ATTRIBUTE_ORIGIN, 1, 2]

/-- `bgp_attribute_next_hop_ipv4`. -/
def bgpAttributeNextHopIpv4 (nextHop : UInt32) : ByteString :=
  [BgpAttributeFlags.toByte { transitiveBit := true }, BGP_ATTRIBUTE_NEXT_HOP, 4] ++ bytes32 nextHop

/-- `build_attributes_for_flowspec_announce`. -/
def buildAttributesForFlowspecAnnounce (behind : ℕ → UInt8) (rule : FlowSpecRule) :
    List ByteString :=
  match encodeBgpFlowSpecElementsIntoBgpMpAttribute behind rule true with
  | none => []
  | some mpAttribute =>
      if rule.action.actionType = .accept then
        -- the default action needs no community; the first next hop is added if there is one
        match rule.ipv4Nexthops with
        | [] => [bgpAttributeOrigin, mpAttribute]
        | nextHop :: _ =>
            [bgpAttributeOrigin, mpAttribute, encodeBgpFlowSpecNextHopAsExtendedAttribute nextHop]
      else
        match encodeBgpFlowSpecActionAsExtendedAttribute rule.action with
        | none => []
        | some extendedAttributes => [bgpAttributeOrigin, mpAttribute, extendedAttributes]

/-- `build_attributes_for_gobgp_flowspec_announce`. -/
def buildAttributesForGobgpFlowspecAnnounce (rule : FlowSpecRule) : List ByteString :=
  let origin := bgpAttributeOrigin
  let nextHopCarrier := bgpAttributeNextHopIpv4 0
  let actionType := rule.action.actionType
  if actionType = .discard then
    match encodeBgpFlowSpecActionAsExtendedAttribute rule.action with
    | none => []
    | some discard => [origin, nextHopCarrier, discard]
  else if actionType = .redirectVrf then
    match encodeBgpFlowSpecRedirectRtAsExtendedAttribute rule.action with
    | none => []
    | some redirectRt => [origin, nextHopCarrier, redirectRt]
  else if actionType ≠ .redirect ∧ actionType ≠ .accept then []
  else
    match rule.ipv4Nexthops with
    | [nextHop] => [origin, nextHopCarrier, encodeBgpFlowSpecNextHopAsExtendedAttribute nextHop]
    | _ => []

/-! ### Their layout -/

/-- An element of eight bytes fills the buffer exactly. -/
theorem extendedCommunityAttribute_eq {element : ByteString} (h : element.length = 8) :
    extendedCommunityAttribute element = [0xC0, 16, 8] ++ element := by
  have hflags : BgpAttributeFlags.toByte { transitiveBit := true, optionalBit := true } = 0xC0 := by
    decide
  simp [extendedCommunityAttribute, DynamicBinaryBuffer.append, DynamicBinaryBuffer.ofSize, h,
    hflags, BGP_ATTRIBUTE_EXTENDED_COMMUNITY]

@[simp] theorem flowSpecRateElement_length (rateLimit : UInt32) :
    (flowSpecRateElement rateLimit).length = 8 := rfl

@[simp] theorem flowSpecRedirectElement_length (redirectAs : UInt16) (redirectValue : UInt32) :
    (flowSpecRedirectElement redirectAs redirectValue).length = 8 := rfl

@[simp] theorem flowSpecRedirectRtAs4byteElement_length (routeTargetAs : UInt32)
    (routeTargetValue : UInt16) :
    (flowSpecRedirectRtAs4byteElement routeTargetAs routeTargetValue).length = 8 := rfl

@[simp] theorem flowSpecIpv4NextHopElement_length (nextHopIpv4 : UInt32) :
    (flowSpecIpv4NextHopElement nextHopIpv4).length = 8 := rfl

/-- The redirect elements of two AS and value pairs differ if the pairs do. -/
theorem flowSpecRedirectElement_injective {a a' : UInt16} {v v' : UInt32}
    (h : flowSpecRedirectElement a v = flowSpecRedirectElement a' v') : a = a' ∧ v = v' := by
  obtain ⟨hfront, hvalue⟩ := List.append_inj h rfl
  obtain ⟨-, has⟩ := List.append_inj hfront rfl
  constructor
  · rw [← byteSwap16_byteSwap16 a, bytes16_injective has, byteSwap16_byteSwap16]
  · rw [← byteSwap32_byteSwap32 v, bytes32_injective hvalue, byteSwap32_byteSwap32]

end FastNetMon
