/-
FastNetMon/WireIdentity.lean

The identity of a rule in the lifecycle and on the wire.

The lifecycle knows the rules it has announced by their keys, GoBGP knows them
by the bytes of their NLRI.  For the rules that the workers build, `keyBytes`
gives the NLRI of a key, and it is injective on their keys
(`keyBytes_injective`); the action of a rule appears in neither.
-/
import FastNetMon.RuleKey
import FastNetMon.FlowSpecAnnounce
import FastNetMon.Texts

namespace FastNetMon

open Std

/-! ### Route targets -/

/-- `parse_uint32_strict`: decimal digits only, at least one, and the number
fits 32 bits. -/
def parseUint32Strict (value : Text) : Option UInt32 :=
  if value = [] then none
  else if value.all Char.isDigit ∧ Nat.ofDigitChars 10 value 0 < 2 ^ 32 then
    some (.ofNat (Nat.ofDigitChars 10 value 0))
  else none

/-- `parse_gobgp_flowspec_redirect_rt`: two numbers around a single colon, of
which one fits 16 bits. -/
def parseGobgpFlowspecRedirectRt (routeTarget : Text) : Option (UInt32 × UInt32) := do
  let separator ← routeTarget.findIdx? (· = ':')
  -- `rfind` finds the same place
  if ':' ∈ routeTarget.drop (separator + 1) then none
  let asn ← parseUint32Strict (routeTarget.take separator)
  let value ← parseUint32Strict (routeTarget.drop (separator + 1))
  if asn ≤ 65535 ∨ value ≤ 65535 then some (asn, value) else none

/-- An accepted route target fits one of the two forms on the wire. -/
theorem parseGobgpFlowspecRedirectRt_fits {routeTarget : Text} {asn value : UInt32}
    (h : parseGobgpFlowspecRedirectRt routeTarget = some (asn, value)) :
    asn ≤ 65535 ∨ value ≤ 65535 := by
  simp only [parseGobgpFlowspecRedirectRt, Option.bind_eq_bind, Option.bind_eq_some_iff] at h
  obtain ⟨s, -, h⟩ := h
  split at h
  · exact absurd h (by simp)
  simp only [Option.bind_eq_some_iff, Option.ite_none_right_eq_some] at h
  obtain ⟨a, -, v, -, hfit, heq⟩ := h
  obtain ⟨rfl, rfl⟩ := Prod.mk.inj (Option.some.inj heq)
  exact hfit

/-! ### Built rules -/

/-- What a worker builds a rule from: the victim, the attack, the optional
port and the configured action, whose route target was read from `routeTarget`
if the action needs one. -/
structure RuleRequest where
  victimIpv4 : UInt32
  currentAttack : AttackDetails
  destinationPort : Option UInt16
  actionType : BgpFlowSpecActionType
  redirectIpv4 : UInt32
  routeTarget : Text
  redirectRtAs : UInt32
  redirectRtValue : UInt32
  supported : actionType = .redirect ∨ actionType = .discard ∨ actionType = .redirectVrf
  accepted : actionType = .redirectVrf →
    parseGobgpFlowspecRedirectRt routeTarget = some (redirectRtAs, redirectRtValue)

/-- The rule for a request. -/
def RuleRequest.rule (request : RuleRequest) : FlowSpecRule :=
  buildGobgpFlowspecIpv4Rule request.victimIpv4 request.currentAttack request.redirectIpv4
    request.destinationPort request.actionType request.redirectRtAs request.redirectRtValue

/-- The key of the rule for a request. -/
def RuleRequest.key (request : RuleRequest) : GobgpFlowspecRuleKey :=
  builtRuleKey request.victimIpv4 request.currentAttack.attackProtocol request.destinationPort

theorem RuleRequest.buildKey (request : RuleRequest) :
    buildGobgpFlowspecRuleKey request.rule = some request.key :=
  buildGobgpFlowspecRuleKey_build _ _ _ _ _ _ _

/-! ### Keys on the wire -/

/-- A key of a built rule: what is absent has its default, and a port comes
with its protocol. -/
structure GobgpFlowspecRuleKey.Canonical (k : GobgpFlowspecRuleKey) : Prop where
  protocol : k.protocolPresent = false → k.protocol = .HOPOPT
  port : k.destinationPortPresent = false → k.destinationPort = 0
  port_protocol : k.destinationPortPresent = true → k.protocolPresent = true

/-- The NLRI of a key. -/
def keyBytes (k : GobgpFlowspecRuleKey) : ByteString :=
  [1, 32] ++ bytes32 k.destinationIpv4
    ++ (if k.protocolPresent then [3, 0x81, k.protocol.asNumber] else [])
    ++ (if k.destinationPortPresent then [5, 0x91] ++ (bytes16 k.destinationPort).reverse else [])

theorem protocolOnly_canonical (v : UInt32) (p : IpProtocol) :
    (GobgpFlowspecRuleKey.protocolOnly v p).Canonical :=
  ⟨nofun, fun _ => rfl, nofun⟩

theorem portRule_canonical (v : UInt32) (p : IpProtocol) (port : UInt16) :
    (GobgpFlowspecRuleKey.portRule v p port).Canonical :=
  ⟨nofun, nofun, fun _ => rfl⟩

theorem builtRuleKey_canonical (v n : UInt32) (port : Option UInt16) :
    (builtRuleKey v n port).Canonical := by
  have helim : ∀ p, (port.elim (GobgpFlowspecRuleKey.protocolOnly v p)
      (GobgpFlowspecRuleKey.portRule v p)).Canonical := by
    intro p
    cases port with
    | none => exact protocolOnly_canonical v p
    | some port => exact portRule_canonical v p port
  unfold builtRuleKey
  split
  · exact helim .TCP
  split
  · exact helim .UDP
  split
  · exact protocolOnly_canonical v .ICMP
  · exact ⟨fun _ => rfl, fun _ => rfl, nofun⟩

/-- The NLRI of a rule that names one address, optionally one protocol and one
port. -/
theorem nlriBytes_of_fields (behind : ℕ → UInt8) {rule : FlowSpecRule} {v : UInt32}
    (hdestination : rule.destinationSubnetIpv4 = ⟨v, 32⟩)
    (hused : rule.destinationSubnetIpv4Used = true) (hsource : rule.sourceSubnetIpv4Used = false)
    (hsourcePorts : rule.sourcePorts = []) (hflags : rule.tcpFlags = [])
    (hlengths : rule.packetLengths = []) (hfragments : rule.fragmentationFlags = []) :
    nlriBytes behind rule = [1, 32] ++ bytes32 v
      ++ componentBytes .ipProtocol encodeProtocol rule.protocols
      ++ componentBytes .destinationPort encodeTwoByteValue rule.destinationPorts := by
  have hprefix : prefixBytes behind .destinationPrefix true ⟨v, 32⟩ = [1, 32] ++ bytes32 v := by
    have hlength : prefixByteLength (32 : UInt32).toNat = 4 := by decide
    simp only [prefixBytes, if_true, and_netmask_32, hlength]
    rw [bytesAt_of_le_four behind v (by omega), List.take_of_length_le (by simp)]
    rfl
  rw [nlriBytes, hdestination, hused, hsource, hsourcePorts, hflags, hlengths, hfragments, hprefix]
  simp [prefixBytes, componentBytes, componentPieces]

/-- **The NLRI of a built rule is that of its key.** -/
theorem nlriBytes_rule (behind : ℕ → UInt8) (request : RuleRequest) :
    nlriBytes behind request.rule = keyBytes request.key := by
  have hprotocol : ∀ p, componentBytes .ipProtocol encodeProtocol [p] = [3, 0x81, p.asNumber] :=
    fun p => rfl
  have hport : ∀ port, componentBytes .destinationPort encodeTwoByteValue [port]
      = [5, 0x91] ++ (bytes16 port).reverse := by
    intro port
    rw [← bytes16_byteSwap16]
    rfl
  have hnone : componentBytes .ipProtocol encodeProtocol [] = [] := rfl
  have hnoport : componentBytes .destinationPort encodeTwoByteValue [] = [] := rfl
  rw [RuleRequest.rule, RuleRequest.key, buildGobgpFlowspecIpv4Rule, builtRuleKey]
  split
  · rw [nlriBytes_of_fields behind (v := request.victimIpv4) rfl rfl rfl rfl rfl rfl rfl]
    cases request.destinationPort <;>
      simp [keyBytes, GobgpFlowspecRuleKey.protocolOnly, GobgpFlowspecRuleKey.portRule, hprotocol,
        hport, hnoport]
  split
  · rw [nlriBytes_of_fields behind (v := request.victimIpv4) rfl rfl rfl rfl rfl rfl rfl]
    cases request.destinationPort <;>
      simp [keyBytes, GobgpFlowspecRuleKey.protocolOnly, GobgpFlowspecRuleKey.portRule, hprotocol,
        hport, hnoport]
  split
  · rw [nlriBytes_of_fields behind (v := request.victimIpv4) rfl rfl rfl rfl rfl rfl rfl]
    simp [keyBytes, GobgpFlowspecRuleKey.protocolOnly, hprotocol, hnoport]
  · rw [nlriBytes_of_fields behind (v := request.victimIpv4) rfl rfl rfl rfl rfl rfl rfl]
    simp [keyBytes, hnone, hnoport]

/-- **Different keys have different NLRI.** -/
theorem keyBytes_injective {k k' : GobgpFlowspecRuleKey} (hk : k.Canonical) (hk' : k'.Canonical)
    (h : keyBytes k = keyBytes k') : k = k' := by
  obtain ⟨v, pp, p, op, o⟩ := k
  obtain ⟨v', pp', p', op', o'⟩ := k'
  obtain ⟨hp, ho, hop⟩ := hk
  obtain ⟨hp', ho', hop'⟩ := hk'
  simp only [keyBytes, List.append_assoc] at h hp ho hop hp' ho' hop'
  obtain ⟨-, hafter⟩ := List.append_inj h rfl
  obtain ⟨hv, hrest⟩ := List.append_inj hafter rfl
  clear h hafter
  obtain rfl := bytes32_injective hv
  cases pp with
  | false =>
    obtain rfl : op = false := by simpa using mt hop
    cases pp' with
    | true => simp at hrest
    | false =>
      obtain rfl : op' = false := by simpa using mt hop'
      rw [hp rfl, hp' rfl, ho rfl, ho' rfl]
  | true =>
    cases pp' with
    | false =>
      obtain rfl : op' = false := by simpa using mt hop'
      simp at hrest
    | true =>
      obtain ⟨hnumber, hports⟩ := List.append_inj hrest rfl
      obtain rfl : p = p' := by
        obtain ⟨n⟩ := p
        obtain ⟨n'⟩ := p'
        simpa using hnumber
      cases op <;> cases op'
      · rw [ho rfl, ho' rfl]
      · simp at hports
      · simp at hports
      · have hport : (bytes16 o).reverse = (bytes16 o').reverse := by simpa using hports
        rw [bytes16_injective (List.reverse_injective hport)]

/-! ### Identity -/

/-- A built rule has no TCP flags. -/
theorem RuleRequest.rule_tcpFlags (request : RuleRequest) : request.rule.tcpFlags = [] := by
  rw [RuleRequest.rule, buildGobgpFlowspecIpv4Rule]
  (repeat' split) <;> rfl

/-- The action and the next hops of a built rule. -/
theorem RuleRequest.rule_action (request : RuleRequest) :
    request.rule.action = { actionType := request.actionType, redirectRtAs := request.redirectRtAs,
                            redirectRtValue := request.redirectRtValue } ∧
    request.rule.ipv4Nexthops
      = if request.actionType = .redirect then [request.redirectIpv4] else [] := by
  rw [RuleRequest.rule, buildGobgpFlowspecIpv4Rule]
  (repeat' split) <;> exact ⟨rfl, rfl⟩

theorem keyBytes_length_le (k : GobgpFlowspecRuleKey) : (keyBytes k).length ≤ 13 := by
  rw [keyBytes]
  split <;> split <;> simp

/-- The encoder gives the NLRI of the key. -/
theorem encode_rule (behind : ℕ → UInt8) (request : RuleRequest) :
    encodeBgpFlowSpecElementsAsMpNlri behind request.rule = some (keyBytes request.key) := by
  have hlength := keyBytes_length_le request.key
  rw [encodeBgpFlowSpecElementsAsMpNlri_eq_some_iff, ← nlriBytes_length behind, nlriBytes_rule]
  refine ⟨?_, by omega, rfl⟩
  rintro ⟨flagset, hmem, -⟩
  rw [request.rule_tcpFlags] at hmem
  exact absurd hmem (by simp)

/-- The extended community of the action of a request: the next hop as it is, the route
target in network byte order with two or four bytes for the AS, or a rate of zero. -/
def RuleRequest.communityBytes (request : RuleRequest) : ByteString :=
  if request.actionType = .redirect then
    [0x01, 0x0c] ++ bytes32 request.redirectIpv4 ++ [0, 0]
  else if request.actionType = .redirectVrf then
    if request.redirectRtAs ≤ 65535 then
      [0x80, 8] ++ (bytes16 request.redirectRtAs.toUInt16).reverse
        ++ (bytes32 request.redirectRtValue).reverse
    else
      [0x82, 8] ++ (bytes32 request.redirectRtAs).reverse
        ++ (bytes16 request.redirectRtValue.toUInt16).reverse
  else [0x80, 6, 0, 0, 0, 0, 0, 0]

/-- The origin, the next hop that stands in for the NLRI, and the community of an action. -/
def gobgpAttributes (communityBytes : ByteString) : List ByteString :=
  [[0x40, 1, 1, 2], [0x40, 3, 4, 0, 0, 0, 0], [0xc0, 16, 8] ++ communityBytes]

/-- GoBGP gets these three attributes for a built rule. -/
theorem RuleRequest.buildAttributes_eq (request : RuleRequest) :
    buildAttributesForGobgpFlowspecAnnounce request.rule
      = gobgpAttributes request.communityBytes := by
  obtain ⟨haction, hnexthops⟩ := request.rule_action
  rw [buildAttributesForGobgpFlowspecAnnounce, haction, hnexthops]
  rcases request.supported with htype | htype | htype
  · have hbytes : request.communityBytes = flowSpecIpv4NextHopElement request.redirectIpv4 := by
      rw [RuleRequest.communityBytes, if_pos htype]
      rfl
    rw [htype, hbytes]
    show [bgpAttributeOrigin, bgpAttributeNextHopIpv4 0,
      extendedCommunityAttribute (flowSpecIpv4NextHopElement request.redirectIpv4)] = _
    rw [extendedCommunityAttribute_eq (flowSpecIpv4NextHopElement_length _)]
    rfl
  · have hbytes : request.communityBytes = flowSpecRateElement (float32OfNat 0) := by
      rw [RuleRequest.communityBytes, if_neg (by simp [htype]), if_neg (by simp [htype])]
      rfl
    rw [htype, hbytes]
    show [bgpAttributeOrigin, bgpAttributeNextHopIpv4 0,
      extendedCommunityAttribute (flowSpecRateElement (float32OfNat 0))] = _
    rw [extendedCommunityAttribute_eq (flowSpecRateElement_length _)]
    rfl
  · -- the route target fits one of the two forms
    have hfits := parseGobgpFlowspecRedirectRt_fits (request.accepted htype)
    rw [RuleRequest.communityBytes, htype, if_neg (by simp), if_pos rfl]
    simp only [reduceCtorEq, if_false, if_true, encodeBgpFlowSpecRedirectRtAsExtendedAttribute]
    by_cases has : request.redirectRtAs ≤ 65535
    · rw [if_pos has, if_pos has, ← bytes16_byteSwap16, ← bytes32_byteSwap32]
      show [_, _, extendedCommunityAttribute (flowSpecRedirectElement _ _)] = _
      rw [extendedCommunityAttribute_eq (flowSpecRedirectElement_length _ _)]
      rfl
    · have hvalue : ¬ request.redirectRtValue > 65535 := by
        rw [gt_iff_lt, UInt32.not_lt]
        exact hfits.resolve_left has
      rw [if_neg has, if_neg hvalue, if_neg has, ← bytes16_byteSwap16, ← bytes32_byteSwap32]
      show [_, _, extendedCommunityAttribute (flowSpecRedirectRtAs4byteElement _ _)] = _
      rw [extendedCommunityAttribute_eq (flowSpecRedirectRtAs4byteElement_length _ _)]
      rfl

/-- `operator<` on keys. -/
def GobgpFlowspecRuleKey.lt (k k' : GobgpFlowspecRuleKey) : Prop := compare k k' = .lt

/-- **Lifecycle identity is wire identity.**  Every built rule has a key, a
short NLRI and three attributes, whose bytes are given; two built rules have
the same key exactly if they have the same NLRI; and `operator<` orders the
keys strictly and totally, with equality as its equivalence. -/
theorem lifecycle_identity_is_wire_identity (behind : ℕ → UInt8) :
    (∀ request : RuleRequest,
      (∃ k, buildGobgpFlowspecRuleKey request.rule = some k) ∧
      (∃ nlri, encodeBgpFlowSpecElementsAsMpNlri behind request.rule = some nlri ∧
        nlri.length < 240) ∧
      (buildAttributesForGobgpFlowspecAnnounce request.rule).length = 3 ∧
      buildAttributesForGobgpFlowspecAnnounce request.rule
        = gobgpAttributes request.communityBytes) ∧
    (∀ request request' : RuleRequest,
      buildGobgpFlowspecRuleKey request.rule = buildGobgpFlowspecRuleKey request'.rule ↔
        encodeBgpFlowSpecElementsAsMpNlri behind request.rule
          = encodeBgpFlowSpecElementsAsMpNlri behind request'.rule) ∧
    (∀ k, ¬ GobgpFlowspecRuleKey.lt k k) ∧
    (∀ k₁ k₂ k₃, GobgpFlowspecRuleKey.lt k₁ k₂ → GobgpFlowspecRuleKey.lt k₂ k₃ →
      GobgpFlowspecRuleKey.lt k₁ k₃) ∧
    (∀ k₁ k₂, k₁ = k₂ ↔ ¬ GobgpFlowspecRuleKey.lt k₁ k₂ ∧ ¬ GobgpFlowspecRuleKey.lt k₂ k₁) := by
  refine ⟨?_, ?_, ?_, ?_, ?_⟩
  · intro request
    have hattributes := request.buildAttributes_eq
    refine ⟨⟨_, request.buildKey⟩, ⟨_, encode_rule behind request, ?_⟩, ?_, hattributes⟩
    · exact (keyBytes_length_le _).trans_lt (by omega)
    · rw [hattributes]
      rfl
  · intro request request'
    rw [request.buildKey, request'.buildKey, encode_rule, encode_rule, Option.some.injEq,
      Option.some.injEq]
    constructor
    · intro h
      rw [h]
    · exact keyBytes_injective (builtRuleKey_canonical _ _ _) (builtRuleKey_canonical _ _ _)
  · intro k hk
    rw [GobgpFlowspecRuleKey.lt, compare_self] at hk
    exact absurd hk (by simp)
  · intro k₁ k₂ k₃ h₁₂ h₂₃
    exact TransCmp.lt_trans h₁₂ h₂₃
  · intro k₁ k₂
    constructor
    · rintro rfl
      rw [GobgpFlowspecRuleKey.lt, compare_self]
      exact ⟨by simp, by simp⟩
    · rintro ⟨h₁₂, h₂₁⟩
      have hgt : ¬ compare k₁ k₂ = .gt := fun h => h₂₁ (OrientedCmp.lt_of_gt h)
      apply LawfulEqOrd.eq_of_compare
      rw [GobgpFlowspecRuleKey.lt] at h₁₂
      cases hc : compare k₁ k₂ with
      | lt => exact absurd hc h₁₂
      | eq => rfl
      | gt => exact absurd hc hgt

/-- A rule for port 53 of one victim, announced with an action of the caller. -/
def dnsRequest (actionType : BgpFlowSpecActionType)
    (supported : actionType = .redirect ∨ actionType = .discard ∨ actionType = .redirectVrf) :
    RuleRequest where
  victimIpv4 := 0x0100007f
  currentAttack := { attackProtocol := 17 }
  destinationPort := some 53
  actionType := actionType
  redirectIpv4 := 0
  routeTarget := "65000:100000".toList
  redirectRtAs := 65000
  redirectRtValue := 100000
  supported := supported
  accepted := fun _ => by decide

/-- Discarding and redirecting the same traffic is one route to GoBGP. -/
theorem dnsRequest_same_route :
    encodeBgpFlowSpecElementsAsMpNlri (fun _ => 0) (dnsRequest .discard (by decide)).rule
      = encodeBgpFlowSpecElementsAsMpNlri (fun _ => 0)
          (dnsRequest .redirectVrf (by decide)).rule :=
  ((lifecycle_identity_is_wire_identity fun _ => 0).2.1 _ _).mp rfl

end FastNetMon
