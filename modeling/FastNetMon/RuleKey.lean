/-
FastNetMon/RuleKey.lean

The rules that FastNetMon announces for a victim and their identity in the
lifecycle (`gobgp_flowspec_rule_builder.cpp` and the first part of
`gobgp_flowspec_lifecycle.cpp`).

A rule matches a single IPv4 victim, optionally one protocol and, for TCP and
UDP, optionally one destination port; its key keeps exactly these.  Keys are
ordered lexicographically, as `std::tie` compares them, so that a `std::map`
over keys is an `ExtTreeMap` over `compare`.

Main results: the key of a built rule in closed form
(`buildGobgpFlowspecRuleKey_build`), from which the shape of every key that
the workers use follows (`build_key_destinationIpv4`, `build_key_port`).
-/
import Mathlib
import FastNetMon.Types

namespace FastNetMon

open Std

/-! ### Keys and their order -/

/-- `gobgp_flowspec_rule_key_t`. -/
structure GobgpFlowspecRuleKey where
  destinationIpv4 : UInt32 := 0
  protocolPresent : Bool := false
  protocol : IpProtocol := .HOPOPT
  destinationPortPresent : Bool := false
  destinationPort : UInt16 := 0
deriving DecidableEq, Repr, Inhabited

instance : Ord IpProtocol where
  compare := compareOn IpProtocol.asNumber

instance : TransOrd IpProtocol :=
  inferInstanceAs <| TransCmp (compareOn IpProtocol.asNumber)

instance : LawfulEqOrd IpProtocol where
  eq_of_compare {a b} h := by
    have : a.asNumber = b.asNumber := LawfulEqOrd.eq_of_compare h
    cases a
    cases b
    simp_all

/-- `operator<` on keys compares the tuple of the five fields. -/
instance : Ord GobgpFlowspecRuleKey where
  compare := compareLex (compareOn (·.destinationIpv4)) <|
    compareLex (compareOn (·.protocolPresent)) <|
    compareLex (compareOn (·.protocol)) <|
    compareLex (compareOn (·.destinationPortPresent)) (compareOn (·.destinationPort))

instance : TransOrd GobgpFlowspecRuleKey :=
  inferInstanceAs <| TransCmp (compareLex _ _)

instance : LawfulEqOrd GobgpFlowspecRuleKey where
  eq_of_compare {a b} h := by
    obtain ⟨hd, hpp, hp, hop, ho⟩ : a.destinationIpv4 = b.destinationIpv4 ∧
        a.protocolPresent = b.protocolPresent ∧ a.protocol = b.protocol ∧
        a.destinationPortPresent = b.destinationPortPresent ∧
        a.destinationPort = b.destinationPort := by
      change compareLex _ _ a b = .eq at h
      simpa only [compareLex, compareOn, Ordering.then_eq_eq,
        LawfulEqCmp.compare_eq_iff_eq] using h
    cases a
    cases b
    simp_all

namespace GobgpFlowspecRuleKey

/-- The key names a port of protocol `p` of victim `v`. -/
def isPortRule (v : UInt32) (p : IpProtocol) (k : GobgpFlowspecRuleKey) : Bool :=
  k.destinationIpv4 == v && k.protocolPresent && k.protocol == p && k.destinationPortPresent

/-- The key names the whole protocol `p` of victim `v`. -/
def isProtocolOnly (v : UInt32) (p : IpProtocol) (k : GobgpFlowspecRuleKey) : Bool :=
  k.destinationIpv4 == v && k.protocolPresent && k.protocol == p && !k.destinationPortPresent

/-- The key of the protocol-only rule of `(v, p)`. -/
def protocolOnly (v : UInt32) (p : IpProtocol) : GobgpFlowspecRuleKey :=
  { destinationIpv4 := v, protocolPresent := true, protocol := p }

/-- The key of the rule of port `port` of `(v, p)`. -/
def portRule (v : UInt32) (p : IpProtocol) (port : UInt16) : GobgpFlowspecRuleKey :=
  { destinationIpv4 := v, protocolPresent := true, protocol := p,
    destinationPortPresent := true, destinationPort := port }

end GobgpFlowspecRuleKey

/-! ### Building a rule and its key -/

/-- `build_gobgp_flowspec_ipv4_rule`. -/
def buildGobgpFlowspecIpv4Rule (victimIpv4 : UInt32) (currentAttack : AttackDetails)
    (redirectIpv4 : UInt32) (destinationPort : Option UInt16 := none)
    (actionType : BgpFlowSpecActionType := .redirect)
    (redirectRtAs : UInt32 := 0) (redirectRtValue : UInt32 := 0) : FlowSpecRule :=
  let rule : FlowSpecRule :=
    { destinationSubnetIpv4 := ⟨victimIpv4, 32⟩
      destinationSubnetIpv4Used := true
      action := { actionType, redirectRtAs, redirectRtValue }
      ipv4Nexthops := if actionType = .redirect then [redirectIpv4] else [] }
  -- the switch over `attack_protocol`: 6, 17 and 1 are TCP, UDP and ICMP
  if currentAttack.attackProtocol = 6 then
    { rule with protocols := [.TCP], destinationPorts := destinationPort.toList }
  else if currentAttack.attackProtocol = 17 then
    { rule with protocols := [.UDP], destinationPorts := destinationPort.toList }
  else if currentAttack.attackProtocol = 1 then
    { rule with protocols := [.ICMP] }
  else rule

/-- `build_gobgp_flowspec_rule_key`: a rule has a key only if it names a single
address, at most one protocol and at most one port, the port only together
with the protocol. -/
def buildGobgpFlowspecRuleKey (flowSpecRule : FlowSpecRule) : Option GobgpFlowspecRuleKey :=
  if !flowSpecRule.destinationSubnetIpv4Used
      || flowSpecRule.destinationSubnetIpv4.cidrPrefixLength != 32
      || flowSpecRule.protocols.length > 1 || flowSpecRule.destinationPorts.length > 1 then
    none
  else
    let ruleKey : GobgpFlowspecRuleKey :=
      { destinationIpv4 := flowSpecRule.destinationSubnetIpv4.subnetAddress }
    let ruleKey := match flowSpecRule.protocols with
      | [] => ruleKey
      | protocol :: _ => { ruleKey with protocolPresent := true, protocol }
    match flowSpecRule.destinationPorts with
    | [] => some ruleKey
    | destinationPort :: _ =>
        if !ruleKey.protocolPresent then none
        else some { ruleKey with destinationPortPresent := true, destinationPort }

/-- A rule with a key is about the address in that key. -/
theorem buildGobgpFlowspecRuleKey_destinationIpv4 {rule : FlowSpecRule}
    {k : GobgpFlowspecRuleKey} (h : buildGobgpFlowspecRuleKey rule = some k) :
    k.destinationIpv4 = rule.destinationSubnetIpv4.subnetAddress := by
  unfold buildGobgpFlowspecRuleKey at h
  split at h
  · cases h
  · rcases hp : rule.protocols with - | ⟨p, ps⟩ <;>
      rcases hd : rule.destinationPorts with - | ⟨d, ds⟩ <;>
      simp only [hp, hd, Option.some.injEq] at h
    · rw [← h]
    · simp at h
    · rw [← h]
    · simp only [Bool.not_true, Bool.false_eq_true, if_false, Option.some.injEq] at h
      rw [← h]

/-- The protocol and port that the rule for an attack on protocol `n` names. -/
def builtRuleKey (victimIpv4 : UInt32) (attackProtocol : UInt32)
    (destinationPort : Option UInt16) : GobgpFlowspecRuleKey :=
  if attackProtocol = 6 then
    destinationPort.elim (.protocolOnly victimIpv4 .TCP) (.portRule victimIpv4 .TCP)
  else if attackProtocol = 17 then
    destinationPort.elim (.protocolOnly victimIpv4 .UDP) (.portRule victimIpv4 .UDP)
  else if attackProtocol = 1 then .protocolOnly victimIpv4 .ICMP
  else { destinationIpv4 := victimIpv4 }

/-- **Every built rule has a key**, whatever the action and its parameters. -/
theorem buildGobgpFlowspecRuleKey_build (v : UInt32) (attack : AttackDetails)
    (redirectIpv4 : UInt32) (port : Option UInt16) (action : BgpFlowSpecActionType)
    (rtAs rtValue : UInt32) :
    buildGobgpFlowspecRuleKey
        (buildGobgpFlowspecIpv4Rule v attack redirectIpv4 port action rtAs rtValue)
      = some (builtRuleKey v attack.attackProtocol port) := by
  unfold buildGobgpFlowspecIpv4Rule builtRuleKey
  by_cases h6 : attack.attackProtocol = 6
  · cases port <;> simp [h6, buildGobgpFlowspecRuleKey, GobgpFlowspecRuleKey.protocolOnly,
      GobgpFlowspecRuleKey.portRule]
  by_cases h17 : attack.attackProtocol = 17
  · cases port <;> simp [h17, buildGobgpFlowspecRuleKey, GobgpFlowspecRuleKey.protocolOnly,
      GobgpFlowspecRuleKey.portRule]
  by_cases h1 : attack.attackProtocol = 1
  · simp [h1, buildGobgpFlowspecRuleKey, GobgpFlowspecRuleKey.protocolOnly]
  · simp [h6, h17, h1, buildGobgpFlowspecRuleKey]

@[simp] theorem builtRuleKey_destinationIpv4 (v n : UInt32) (port : Option UInt16) :
    (builtRuleKey v n port).destinationIpv4 = v := by
  unfold builtRuleKey
  cases port <;> (repeat' split) <;> rfl

/-- Without a port the key is protocol-only or names no protocol at all. -/
@[simp] theorem builtRuleKey_none_destinationPortPresent (v n : UInt32) :
    (builtRuleKey v n none).destinationPortPresent = false := by
  unfold builtRuleKey
  (repeat' split) <;> rfl

end FastNetMon
