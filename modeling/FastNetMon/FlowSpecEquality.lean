/-
FastNetMon/FlowSpecEquality.lean

Equality of rules (`operator==` on `bgp_flow_spec_action_t` and
`flow_spec_rule_t`) against the announces of equal rules.

The equality leaves out the UUID, the two match-bit options, and the prefixes
that are not used.  Of an action it compares the type, the rate of a rate limit
and the route target of a redirect to a VRF; the AS and the value of a plain
redirect are not compared, although they are announced.  Main result: equal rules
are announced equally exactly if this does not show (`announcedEqually_iff`).
-/
import FastNetMon.FlowSpecAnnounce

namespace FastNetMon

/-! ### Equality -/

/-- `operator==(flow_spec_tcp_flagset_t, flow_spec_tcp_flagset_t)`. -/
def FlowSpecTcpFlagset.operatorEq (lhs rhs : FlowSpecTcpFlagset) : Bool :=
  lhs.synFlag == rhs.synFlag && lhs.ackFlag == rhs.ackFlag && lhs.rstFlag == rhs.rstFlag &&
    lhs.pshFlag == rhs.pshFlag && lhs.urgFlag == rhs.urgFlag && lhs.finFlag == rhs.finFlag

/-- `operator==(bgp_flow_spec_action_t, bgp_flow_spec_action_t)`. -/
def BgpFlowSpecAction.operatorEq (lhs rhs : BgpFlowSpecAction) : Bool :=
  if lhs.actionType ≠ rhs.actionType then false
  else if lhs.actionType = .rateLimit then lhs.rateLimit == rhs.rateLimit
  else if lhs.actionType = .redirectVrf then
    lhs.redirectRtAs == rhs.redirectRtAs && lhs.redirectRtValue == rhs.redirectRtValue
  else true

/-- The comparison of a prefix and of whether it is used; two prefixes that are
not used are equal. -/
def prefixesEqual {α : Type} [DecidableEq α] (lhsUsed rhsUsed : Bool) (lhs rhs : α) : Bool :=
  if lhsUsed ≠ rhsUsed then false
  else if lhsUsed then decide (lhs = rhs)
  else true

/-- `operator==(flow_spec_rule_t, flow_spec_rule_t)`. -/
def FlowSpecRule.operatorEq (lhs rhs : FlowSpecRule) : Bool :=
  prefixesEqual lhs.sourceSubnetIpv4Used rhs.sourceSubnetIpv4Used
    lhs.sourceSubnetIpv4 rhs.sourceSubnetIpv4 &&
  prefixesEqual lhs.sourceSubnetIpv6Used rhs.sourceSubnetIpv6Used
    lhs.sourceSubnetIpv6 rhs.sourceSubnetIpv6 &&
  prefixesEqual lhs.destinationSubnetIpv4Used rhs.destinationSubnetIpv4Used
    lhs.destinationSubnetIpv4 rhs.destinationSubnetIpv4 &&
  prefixesEqual lhs.destinationSubnetIpv6Used rhs.destinationSubnetIpv6Used
    lhs.destinationSubnetIpv6 rhs.destinationSubnetIpv6 &&
  lhs.action.operatorEq rhs.action &&
  lhs.sourcePorts == rhs.sourcePorts &&
  lhs.destinationPorts == rhs.destinationPorts &&
  lhs.packetLengths == rhs.packetLengths &&
  lhs.vlans == rhs.vlans &&
  lhs.ttls == rhs.ttls &&
  lhs.ipv4Nexthops == rhs.ipv4Nexthops &&
  lhs.agentAddresses == rhs.agentAddresses &&
  lhs.sourceAsns == rhs.sourceAsns &&
  lhs.destinationAsns == rhs.destinationAsns &&
  lhs.inputInterfaces == rhs.inputInterfaces &&
  lhs.outputInterfaces == rhs.outputInterfaces &&
  lhs.protocols == rhs.protocols &&
  lhs.tcpFlags.isEqv rhs.tcpFlags FlowSpecTcpFlagset.operatorEq &&
  lhs.fragmentationFlags == rhs.fragmentationFlags

theorem FlowSpecTcpFlagset.operatorEq_iff (lhs rhs : FlowSpecTcpFlagset) :
    lhs.operatorEq rhs = true ↔ lhs = rhs := by
  obtain ⟨syn, ack, fin, psh, rst, urg⟩ := lhs
  obtain ⟨syn', ack', fin', psh', rst', urg'⟩ := rhs
  simp only [operatorEq, Bool.and_eq_true, beq_iff_eq, mk.injEq]
  constructor
  · rintro ⟨⟨⟨⟨⟨hsyn, hack⟩, hrst⟩, hpsh⟩, hurg⟩, hfin⟩
    exact ⟨hsyn, hack, hfin, hpsh, hrst, hurg⟩
  · rintro ⟨hsyn, hack, hfin, hpsh, hrst, hurg⟩
    exact ⟨⟨⟨⟨⟨hsyn, hack⟩, hrst⟩, hpsh⟩, hurg⟩, hfin⟩

/-- Lists that are equal element by element are equal. -/
theorem isEqv_iff_eq {α : Type} {eqv : α → α → Bool} (h : ∀ a b, eqv a b = true ↔ a = b)
    (as bs : List α) : as.isEqv bs eqv = true ↔ as = bs := by
  induction as generalizing bs with
  | nil => cases bs <;> simp
  | cons a as ih =>
    cases bs with
    | nil => simp
    | cons b bs => rw [List.isEqv_cons_cons, Bool.and_eq_true, h, ih, List.cons.injEq]

theorem prefixesEqual_iff {α : Type} [DecidableEq α] {lhsUsed rhsUsed : Bool} {lhs rhs : α} :
    prefixesEqual lhsUsed rhsUsed lhs rhs = true ↔
      lhsUsed = rhsUsed ∧ (lhsUsed = true → lhs = rhs) := by
  rw [prefixesEqual]
  cases lhsUsed <;> cases rhsUsed <;> simp

theorem BgpFlowSpecAction.operatorEq_iff {lhs rhs : BgpFlowSpecAction} :
    lhs.operatorEq rhs = true ↔ lhs.actionType = rhs.actionType ∧
      (lhs.actionType = .rateLimit → lhs.rateLimit = rhs.rateLimit) ∧
      (lhs.actionType = .redirectVrf →
        lhs.redirectRtAs = rhs.redirectRtAs ∧ lhs.redirectRtValue = rhs.redirectRtValue) := by
  rw [operatorEq]
  split
  · rename_i hne
    simp [hne]
  rename_i heq
  rw [not_not] at heq
  split
  · rename_i hrate
    simp [heq.symm, hrate]
  split
  · rename_i hvrf
    simp [heq.symm, hvrf]
  · rename_i hrate hvrf
    simp [heq.symm, hrate, hvrf]

/-- What equal rules have in common, as far as it is announced. -/
structure SameMatch (r₁ r₂ : FlowSpecRule) : Prop where
  source : r₁.sourceSubnetIpv4Used = r₂.sourceSubnetIpv4Used ∧
    (r₁.sourceSubnetIpv4Used = true → r₁.sourceSubnetIpv4 = r₂.sourceSubnetIpv4)
  destination : r₁.destinationSubnetIpv4Used = r₂.destinationSubnetIpv4Used ∧
    (r₁.destinationSubnetIpv4Used = true → r₁.destinationSubnetIpv4 = r₂.destinationSubnetIpv4)
  protocols : r₁.protocols = r₂.protocols
  sourcePorts : r₁.sourcePorts = r₂.sourcePorts
  destinationPorts : r₁.destinationPorts = r₂.destinationPorts
  packetLengths : r₁.packetLengths = r₂.packetLengths
  tcpFlags : r₁.tcpFlags = r₂.tcpFlags
  fragmentationFlags : r₁.fragmentationFlags = r₂.fragmentationFlags
  nexthops : r₁.ipv4Nexthops = r₂.ipv4Nexthops

theorem FlowSpecRule.operatorEq_spec {r₁ r₂ : FlowSpecRule} (h : r₁.operatorEq r₂ = true) :
    SameMatch r₁ r₂ ∧ r₁.action.operatorEq r₂.action = true := by
  simp only [operatorEq, Bool.and_eq_true, prefixesEqual_iff, beq_iff_eq,
    isEqv_iff_eq FlowSpecTcpFlagset.operatorEq_iff] at h
  obtain ⟨⟨⟨⟨⟨⟨⟨⟨⟨⟨⟨⟨⟨⟨⟨⟨⟨⟨hsource, -⟩, hdestination⟩, -⟩, haction⟩, hsourcePorts⟩,
    hdestinationPorts⟩, hlengths⟩, -⟩, -⟩, hnexthops⟩, -⟩, -⟩, -⟩, -⟩, -⟩, hprotocols⟩, hflags⟩,
    hfragmentation⟩ := h
  exact ⟨⟨hsource, hdestination, hprotocols, hsourcePorts, hdestinationPorts, hlengths, hflags,
    hfragmentation, hnexthops⟩, haction⟩

/-! ### Announces of equal rules -/

variable {behind : ℕ → UInt8} {r₁ r₂ : FlowSpecRule}

/-- The two match-bit options are the same. -/
def SameMatchBits (r₁ r₂ : FlowSpecRule) : Prop :=
  r₁.setMatchBitForTcpFlags = r₂.setMatchBitForTcpFlags ∧
    r₁.setMatchBitForFragmentationFlags = r₂.setMatchBitForFragmentationFlags

theorem prefixBytes_congr {type : FlowSpecEntity} {used used' : Bool} {subnet subnet' : SubnetCidrMask}
    (h : used = used' ∧ (used = true → subnet = subnet')) :
    prefixBytes behind type used subnet = prefixBytes behind type used' subnet' := by
  obtain ⟨rfl, hsubnet⟩ := h
  rw [prefixBytes, prefixBytes]
  split
  · rename_i hused
    rw [hsubnet hused]
  · rfl

/-- The matching parts are encoded to the same bytes. -/
theorem SameMatch.nlriBytes_eq (h : SameMatch r₁ r₂) (hbits : SameMatchBits r₁ r₂) :
    nlriBytes behind r₁ = nlriBytes behind r₂ := by
  rw [nlriBytes, nlriBytes, prefixBytes_congr h.source, prefixBytes_congr h.destination, h.protocols,
    h.sourcePorts, h.destinationPorts, h.packetLengths, h.tcpFlags, h.fragmentationFlags, hbits.1,
    hbits.2]

/-- The MP_REACH attributes are the same. -/
theorem SameMatch.mpAttribute_eq (h : SameMatch r₁ r₂) (hbits : SameMatchBits r₁ r₂) :
    encodeBgpFlowSpecElementsIntoBgpMpAttribute behind r₁ true
      = encodeBgpFlowSpecElementsIntoBgpMpAttribute behind r₂ true := by
  have hbytes : nlriBytes behind r₁ = nlriBytes behind r₂ := h.nlriBytes_eq hbits
  have hlength : nlriLength r₁ = nlriLength r₂ := by
    rw [← nlriBytes_length behind, ← nlriBytes_length behind, hbytes]
  have hempty : HasEmptyFlagset r₁ ↔ HasEmptyFlagset r₂ := by
    rw [HasEmptyFlagset, HasEmptyFlagset, h.tcpFlags]
  refine Option.ext fun attr => ?_
  rw [encodeBgpFlowSpecElementsIntoBgpMpAttribute_eq_some_iff,
    encodeBgpFlowSpecElementsIntoBgpMpAttribute_eq_some_iff, MpEncodable, MpEncodable, mpPreamble,
    mpPreamble, hbytes, hlength, hempty]

/-- The communities of equal actions are the same, except for those of redirects
with different AS or value. -/
theorem encodeAction_eq_iff {a₁ a₂ : BgpFlowSpecAction} (h : a₁.operatorEq a₂ = true) :
    encodeBgpFlowSpecActionAsExtendedAttribute a₁ = encodeBgpFlowSpecActionAsExtendedAttribute a₂ ↔
      (a₁.actionType = .redirect →
        a₁.redirectAs = a₂.redirectAs ∧ a₁.redirectValue = a₂.redirectValue) := by
  obtain ⟨htype, hrate, hvrf⟩ := BgpFlowSpecAction.operatorEq_iff.mp h
  rw [encodeBgpFlowSpecActionAsExtendedAttribute, encodeBgpFlowSpecActionAsExtendedAttribute,
    ← htype]
  cases hkind : a₁.actionType with
  | discard => simp
  | accept => simp
  | rateLimit => simp [hrate hkind]
  | redirect =>
    rw [extendedCommunityAttribute_eq (flowSpecRedirectElement_length _ _),
      extendedCommunityAttribute_eq (flowSpecRedirectElement_length _ _), Option.some.injEq,
      List.append_cancel_left_eq]
    constructor
    · intro helement _
      exact flowSpecRedirectElement_injective helement
    · intro hsame
      rw [(hsame rfl).1, (hsame rfl).2]
  | redirectVrf =>
    simp [encodeBgpFlowSpecRedirectRtAsExtendedAttribute, (hvrf hkind).1, (hvrf hkind).2]
  | mark => simp

/-- Both announces of the rules are the same. -/
def AnnouncedEqually (behind : ℕ → UInt8) (r₁ r₂ : FlowSpecRule) : Prop :=
  buildAttributesForFlowspecAnnounce behind r₁ = buildAttributesForFlowspecAnnounce behind r₂ ∧
    buildAttributesForGobgpFlowspecAnnounce r₁ = buildAttributesForGobgpFlowspecAnnounce r₂

/-- The attributes for GoBGP do not depend on the AS and the value of a
redirect. -/
theorem buildAttributesForGobgp_eq (h : r₁.operatorEq r₂ = true) :
    buildAttributesForGobgpFlowspecAnnounce r₁ = buildAttributesForGobgpFlowspecAnnounce r₂ := by
  obtain ⟨hmatch, haction⟩ := FlowSpecRule.operatorEq_spec h
  obtain ⟨htype, -, hvrf⟩ := BgpFlowSpecAction.operatorEq_iff.mp haction
  rw [buildAttributesForGobgpFlowspecAnnounce, buildAttributesForGobgpFlowspecAnnounce, ← htype,
    ← hmatch.nexthops]
  split
  · rename_i hdiscard
    rw [(encodeAction_eq_iff haction).mpr fun hredirect => absurd (hdiscard.symm.trans hredirect)
      (by decide)]
  split
  · rename_i hkind
    have hcommunity : encodeBgpFlowSpecRedirectRtAsExtendedAttribute r₁.action
        = encodeBgpFlowSpecRedirectRtAsExtendedAttribute r₂.action := by
      rw [encodeBgpFlowSpecRedirectRtAsExtendedAttribute,
        encodeBgpFlowSpecRedirectRtAsExtendedAttribute, (hvrf hkind).1, (hvrf hkind).2]
    rw [hcommunity]
  · rfl

/-- **Equal rules are announced equally exactly if they are no redirects, or
redirects to the same AS and value, or not announced at all.** -/
theorem announcedEqually_iff (behind : ℕ → UInt8) (r₁ r₂ : FlowSpecRule)
    (heq : r₁.operatorEq r₂ = true) (hbits : SameMatchBits r₁ r₂) :
    AnnouncedEqually behind r₁ r₂ ↔
      r₁.action.actionType ≠ .redirect ∨
        (r₁.action.redirectAs = r₂.action.redirectAs ∧
          r₁.action.redirectValue = r₂.action.redirectValue) ∨
        ¬ MpEncodable r₁ true := by
  obtain ⟨hmatch, haction⟩ := FlowSpecRule.operatorEq_spec heq
  obtain ⟨htype, -, -⟩ := BgpFlowSpecAction.operatorEq_iff.mp haction
  have hcommunity := encodeAction_eq_iff haction
  rw [AnnouncedEqually, and_iff_left (buildAttributesForGobgp_eq heq),
    buildAttributesForFlowspecAnnounce, buildAttributesForFlowspecAnnounce,
    ← hmatch.mpAttribute_eq hbits, ← htype, ← hmatch.nexthops]
  have hclosed := encodeBgpFlowSpecElementsIntoBgpMpAttribute_eq_some_iff behind r₁ true
  cases hmp : encodeBgpFlowSpecElementsIntoBgpMpAttribute behind r₁ true with
  | none =>
    refine iff_of_true rfl (.inr (.inr fun hyes => ?_))
    have hsome := (hclosed _).mpr ⟨hyes, rfl⟩
    exact absurd (hmp.symm.trans hsome) (by simp)
  | some attr =>
    have hyes : MpEncodable r₁ true := ((hclosed attr).mp hmp).1
    simp only [hyes, not_true, or_false]
    split
    · rename_i haccept
      refine iff_of_true rfl (.inl ?_)
      rw [haccept]
      decide
    · rw [← imp_iff_not_or, ← hcommunity]
      cases encodeBgpFlowSpecActionAsExtendedAttribute r₁.action <;>
        cases encodeBgpFlowSpecActionAsExtendedAttribute r₂.action <;> simp

/-- A redirect to an AS and a value. -/
def redirectTo (redirectAs : UInt16) (redirectValue : UInt32) : FlowSpecRule :=
  { destinationPorts := [80]
    action := { actionType := .redirect, redirectAs, redirectValue } }

/-- **Redirects to different AS are equal but announced differently.** -/
theorem redirectTo_not_announced_equally : ¬ ∀ (behind : ℕ → UInt8) (r₁ r₂ : FlowSpecRule),
    r₁.operatorEq r₂ = true → SameMatchBits r₁ r₂ → AnnouncedEqually behind r₁ r₂ := by
  intro h
  have hmine := (h (fun _ => 0) (redirectTo 65000 100) (redirectTo 65001 100) (by decide)
    ⟨rfl, rfl⟩).1
  exact absurd hmine (by decide)

/-- A redirect is announced as one that differs in its UUID only. -/
theorem redirectTo_announced_equally :
    (redirectTo 65000 100).operatorEq
        { redirectTo 65000 100 with announceUuid := Vector.replicate 16 7 } = true ∧
      SameMatchBits (redirectTo 65000 100)
        { redirectTo 65000 100 with announceUuid := Vector.replicate 16 7 } ∧
      AnnouncedEqually (fun _ => 0) (redirectTo 65000 100)
        { redirectTo 65000 100 with announceUuid := Vector.replicate 16 7 } :=
  ⟨by decide, ⟨rfl, rfl⟩, (announcedEqually_iff (fun _ => 0) (redirectTo 65000 100) _ (by decide)
    ⟨rfl, rfl⟩).mpr (.inr (.inl ⟨rfl, rfl⟩))⟩

end FastNetMon
