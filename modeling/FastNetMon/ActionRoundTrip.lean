/-
FastNetMon/ActionRoundTrip.lean

The action of a rule after a round trip through the attributes of its announce
(`build_attributes_for_flowspec_announce`, then
`decode_native_flow_spec_announce_from_binary_encoded_atributes`).

A redirect to a VRF is written in one of two forms.  The form with a two-byte AS
has the bytes of a plain redirect and is decoded as one; the form with a
four-byte AS has a type that the decoder passes over, so that the default action
stays.  Main result: the action comes back exactly for the other two actions,
provided that the decoder accepts the MP_REACH attribute (`actionRoundTrips_iff`).
-/
import FastNetMon.AttributeDecode
import FastNetMon.NlriRoundTrip

namespace FastNetMon

open Memory

/-! ### The action attribute -/

/-- An extended community attribute with one element is decoded by the branch
for communities. -/
theorem decodeAttribute_extendedCommunity (rule : FlowSpecRule) {element : ByteString}
    (h : element.length = 8) :
    decodeAttribute rule (extendedCommunityAttribute element)
      = decodeExtendedCommunity (ofBytes ([0xC0, 16, 8] ++ element)) 3 8 rule := by
  have hparse : parseRawBgpAttribute (ofBytes ([0xC0, 16, 8] ++ element))
      ([0xC0, 16, 8] ++ element).length = .ok ⟨0xC0, 16, 1, 8, 3⟩ := by
    rw [List.length_append, h]
    rfl
  rw [extendedCommunityAttribute_eq h, decodeAttribute, hparse]
  rfl

/-- A discard comes back. -/
theorem decodeAttribute_discard (rule : FlowSpecRule) :
    decodeAttribute rule (extendedCommunityAttribute (flowSpecRateElement (float32OfNat 0)))
      = .ok { rule with action := { actionType := .discard } } := by
  rw [decodeAttribute_extendedCommunity rule (flowSpecRateElement_length _)]
  rfl

/-- A redirect comes back with its AS and value. -/
theorem decodeAttribute_redirect (rule : FlowSpecRule) (redirectAs : UInt16)
    (redirectValue : UInt32) :
    decodeAttribute rule
        (extendedCommunityAttribute (flowSpecRedirectElement redirectAs redirectValue))
      = .ok { rule with action := { actionType := .redirect, redirectAs, redirectValue } } := by
  rw [decodeAttribute_extendedCommunity rule (flowSpecRedirectElement_length _ _)]
  have hheld : (ofBytes ([0xC0, 16, 8] ++ flowSpecRedirectElement redirectAs redirectValue)).Holds 5
      (bytes16 (byteSwap16 redirectAs) ++ bytes32 (byteSwap32 redirectValue)) :=
    holds_ofBytes_iff.mpr (List.prefix_refl _)
  obtain ⟨has, hvalue⟩ := holds_append.mp hheld
  have hhigh : (ofBytes ([0xC0, 16, 8] ++ flowSpecRedirectElement redirectAs redirectValue)).read 3
      = .ok EXTENDED_COMMUNITY_TRANSITIVE_EXPEREMENTAL := rfl
  have hlow : (ofBytes ([0xC0, 16, 8] ++ flowSpecRedirectElement redirectAs redirectValue)).read 4
      = .ok FLOW_SPEC_EXTENDED_COMMUNITY_SUBTYPE_REDIRECT_AS_TWO_BYTE := rfl
  have hread16 := has.read16
  have hread32 : (ofBytes ([0xC0, 16, 8]
      ++ flowSpecRedirectElement redirectAs redirectValue)).read32 7
        = .ok (byteSwap32 redirectValue) := Holds.read32 hvalue
  rw [decodeExtendedCommunity, rejectIf_of_not (by decide), rejectIf_of_not (by decide), ok_bind,
    ok_bind, hhigh, ok_bind, if_pos rfl, hlow, ok_bind, if_neg (by decide), if_pos rfl, hread16,
    ok_bind]
  simp only [Nat.reduceAdd, hread32, ok_bind, byteSwap16_byteSwap16, byteSwap32_byteSwap32]
  rfl

/-- A redirect to a route target with a four-byte AS is passed over. -/
theorem decodeAttribute_redirectRtAs4byte (rule : FlowSpecRule) (routeTargetAs : UInt32)
    (routeTargetValue : UInt16) :
    decodeAttribute rule
        (extendedCommunityAttribute (flowSpecRedirectRtAs4byteElement routeTargetAs routeTargetValue))
      = .ok rule := by
  rw [decodeAttribute_extendedCommunity rule (flowSpecRedirectRtAs4byteElement_length _ _)]
  rfl

/-! ### The MP_REACH attribute -/

/-- The bytes are those of acceptable components. -/
def AcceptableNlri (bs : ByteString) : Prop :=
  ∃ ws : List WireComponent, bs = componentsBytes ws ∧ (∀ w ∈ ws, w.WellFormed) ∧
    FitTogether {} ws

/-- The components do not touch the action. -/
theorem applyAll_action {rule rule' : FlowSpecRule} {ws : List WireComponent}
    (h : applyAll rule ws = .ok rule') : rule'.action = rule.action := by
  induction ws generalizing rule with
  | nil =>
    obtain rfl : rule = rule' := by simpa [applyAll] using h
    rfl
  | cons w ws ih =>
    simp only [applyAll, List.foldlM_cons, bind_eq_ok_iff] at h
    obtain ⟨next, hnext, hrest⟩ := h
    rw [ih hrest]
    cases w with
    | sourcePrefix cidr address =>
      simp only [WireComponent.apply, bind_eq_ok_iff, pure_eq_ok_iff] at hnext
      obtain ⟨-, -, rfl⟩ := hnext
      rfl
    | destinationPrefix cidr address =>
      simp only [WireComponent.apply, bind_eq_ok_iff, pure_eq_ok_iff] at hnext
      obtain ⟨-, -, rfl⟩ := hnext
      rfl
    | list kind items => exact (ListKind.add_frame hnext).2.2

/-- The decoder on an attribute with the length byte `n` in front of `nlri`. -/
theorem decodeAttribute_mpAttribute_iff {attributeLength n : UInt8} {nlri : ByteString}
    (hlen : attributeLength.toNat ≤ 6 + nlri.length) (hn : n < 240)
    (hroom : n.toNat ≤ nlri.length) {rule' : FlowSpecRule} :
    decodeAttribute {} ((bgpAttributeMultiprotocolExtensions attributeLength
        ++ bgpMpExtFlowSpecHeader) ++ n :: nlri) = .ok rule' ↔
      ∃ ws : List WireComponent, nlri.take n.toNat = componentsBytes ws ∧
        (∀ w ∈ ws, w.WellFormed) ∧ applyAll {} ws = .ok rule' := by
  obtain ⟨attr, hattr⟩ : ∃ attr, (bgpAttributeMultiprotocolExtensions attributeLength
      ++ bgpMpExtFlowSpecHeader) ++ n :: nlri = attr := ⟨_, rfl⟩
  have hlength : attr.length = 9 + nlri.length := by
    rw [← hattr]
    simp [bgpAttributeMultiprotocolExtensions, bgpMpExtFlowSpecHeader]
    omega
  have hdrop : attr.drop 9 = nlri := by
    rw [← hattr]
    rfl
  have hbytes : ∀ i b, ((bgpAttributeMultiprotocolExtensions attributeLength
      ++ bgpMpExtFlowSpecHeader) ++ n :: nlri)[i]? = some b → (ofBytes attr).read i = .ok b := by
    intro i b h
    rw [← hattr]
    exact read_eq_ok_iff.mpr h
  have hparse : parseRawBgpAttribute (ofBytes attr) attr.length
      = .ok ⟨0x80, 14, 1, attributeLength.toNat, 3⟩ := by
    rw [parseRawBgpAttribute, rejectIf_of_not (by omega), ok_bind, hbytes 0 0x80 rfl, ok_bind,
      hbytes 1 14 rfl, ok_bind]
    have hfield : (if (BgpAttributeFlags.ofByte 0x80).extendedLengthBit = true then 2 else 1) = 1 :=
      by decide
    simp only [hfield]
    rw [rejectIf_of_not (by omega), ok_bind, readAttributeValueLength, if_pos rfl,
      hbytes 2 attributeLength rfl, ok_bind, pure_bind, rejectIf_of_not (by omega)]
    rfl
  have hafi : (ofBytes attr).read16 3 = .ok (ofBytes16 0 1) := by
    rw [Memory.read16, hbytes 3 0 rfl, hbytes 4 1 rfl]
    rfl
  have hnat : n.toUInt32.toNat = n.toNat := n.toNat_toUInt32
  have hbyte := n.toNat_lt
  rw [hattr, decodeAttribute_of_mpReach hparse rfl,
    decodeMpReachNlri_eq hafi (hbytes 5 133 rfl) (hbytes 8 n rfl) hn, flowSpecDecodeNlriValue, hnat]
  simp only [bind_eq_ok_iff, pure_eq_ok_iff]
  constructor
  · rintro ⟨d, hdecode, rfl⟩
    obtain ⟨ws, hwf, hheld, hend, happly, -⟩ :=
      (decodeComponents_eq_ok_iff (by omega) (by omega) (by omega)).mp hdecode
    refine ⟨ws, ?_, hwf, happly⟩
    rw [holds_ofBytes_iff, hdrop] at hheld
    rw [List.prefix_iff_eq_take.mp hheld, show (componentsBytes ws).length = n.toNat by omega]
  · rintro ⟨ws, htake, hwf, happly⟩
    have hcount : (componentsBytes ws).length = n.toNat := by
      rw [← htake, List.length_take, min_eq_left hroom]
    refine ⟨⟨rule', 9 + n.toNat, components 9 ws⟩, ?_, rfl⟩
    refine (decodeComponents_eq_ok_iff (by omega) (by omega) (by omega)).mpr
      ⟨ws, hwf, ?_, by omega, happly, rfl, rfl⟩
    rw [holds_ofBytes_iff, hdrop, ← htake]
    exact List.take_prefix _ _

/-! ### The round trip -/

variable (behind : ℕ → UInt8) (rule : FlowSpecRule)

/-- The matching part as far as the length byte counts it. -/
def countedNlri : ByteString := (nlriBytes behind rule).take (nlriLength rule % 256)

/-- The attribute of a rule is decoded exactly if the bytes that it counts are
acceptable. -/
theorem decodeAttribute_mpAttribute (hencode : MpEncodable rule true) {rule' : FlowSpecRule} :
    decodeAttribute {} (mpPreamble true rule ++ .ofNat (nlriLength rule) :: nlriBytes behind rule)
        = .ok rule' ↔
      ∃ ws : List WireComponent, countedNlri behind rule = componentsBytes ws ∧
        (∀ w ∈ ws, w.WellFormed) ∧ applyAll {} ws = .ok rule' := by
  have hlength := nlriBytes_length behind rule
  have hn : (UInt8.ofNat (nlriLength rule)).toNat = nlriLength rule % 256 := UInt8.toNat_ofNat'
  have ha : (UInt8.ofNat (5 + 1 + nlriLength rule)).toNat = (5 + 1 + nlriLength rule) % 256 :=
    UInt8.toNat_ofNat'
  have hmod := Nat.mod_le (nlriLength rule) 256
  have hmod' := Nat.mod_le (5 + 1 + nlriLength rule) 256
  rw [mpPreamble, if_pos rfl, decodeAttribute_mpAttribute_iff (by omega) _ (by omega), hn,
    countedNlri]
  rw [UInt8.lt_iff_toNat_lt, hn]
  exact hencode.2.1

/-- The decoded action is the one that was announced: it has the same type, and
the same AS and value or the same route target if the type has one. -/
def SameAction (announced decoded : BgpFlowSpecAction) : Prop :=
  decoded.actionType = announced.actionType ∧
  (announced.actionType = .redirect →
    decoded.redirectAs = announced.redirectAs ∧ decoded.redirectValue = announced.redirectValue) ∧
  (announced.actionType = .redirectVrf →
    decoded.redirectRtAs = announced.redirectRtAs ∧
      decoded.redirectRtValue = announced.redirectRtValue)

/-- Whenever attributes are built for the rule, they are decoded to its
action. -/
def ActionRoundTrips : Prop :=
  buildAttributesForFlowspecAnnounce behind rule ≠ [] →
    ∃ rule', decodeNativeFlowSpecAnnounceFromBinaryEncodedAtributes
        (buildAttributesForFlowspecAnnounce behind rule) {} = .ok rule' ∧
      SameAction rule.action rule'.action

/-- The action has a community that the encoder can write. -/
def ActionEncodable (action : BgpFlowSpecAction) : Prop :=
  action.actionType = .redirectVrf → action.redirectRtAs ≤ 65535 ∨ action.redirectRtValue ≤ 65535

/-- A rule within the limits of the decoder whose matching part is shorter than
240 bytes is acceptable. -/
theorem acceptableNlri_countedNlri (hlimits : WithinLimits rule) (hflags : ¬ HasEmptyFlagset rule)
    (hlength : nlriLength rule < 240) : AcceptableNlri (countedNlri behind rule) := by
  refine ⟨ruleComponents rule, ?_, ruleComponents_wellFormed hlimits,
    (applyAll_ok_iff _ _).mp ⟨_, applyAll_ruleComponents hlimits hflags⟩⟩
  rw [componentsBytes_ruleComponents behind hlimits, countedNlri, Nat.mod_eq_of_lt (by omega),
    ← nlriBytes_length behind, List.take_length]

/-- The encoder of actions fails exactly on route targets that fit neither
form. -/
theorem encodeAction_eq_none_iff {action : BgpFlowSpecAction}
    (htype : action.actionType = .discard ∨ action.actionType = .redirect ∨
      action.actionType = .redirectVrf) :
    encodeBgpFlowSpecActionAsExtendedAttribute action = none ↔ ¬ ActionEncodable action := by
  rw [encodeBgpFlowSpecActionAsExtendedAttribute, ActionEncodable]
  rcases htype with htype | htype | htype
  · simp [htype]
  · simp [htype]
  · simp only [htype, encodeBgpFlowSpecRedirectRtAsExtendedAttribute, true_imp_iff]
    split
    · rename_i hsmall
      simp [hsmall]
    · rename_i hlarge
      split
      · rename_i hvalue
        simpa [hlarge] using hvalue
      · rename_i hvalue
        simpa [hlarge] using hvalue

/-- The attributes of an announce with one of the three actions. -/
theorem buildAttributes_eq (htype : rule.action.actionType ≠ .accept) :
    buildAttributesForFlowspecAnnounce behind rule =
      match encodeBgpFlowSpecActionAsExtendedAttribute rule.action with
      | none => []
      | some extendedAttributes =>
          if MpEncodable rule true then
            [bgpAttributeOrigin,
              mpPreamble true rule ++ .ofNat (nlriLength rule) :: nlriBytes behind rule,
              extendedAttributes]
          else [] := by
  have hclosed := encodeBgpFlowSpecElementsIntoBgpMpAttribute_eq_some_iff behind rule true
  rw [buildAttributesForFlowspecAnnounce]
  cases hmp : encodeBgpFlowSpecElementsIntoBgpMpAttribute behind rule true with
  | none =>
    have hno : ¬ MpEncodable rule true := by
      intro h
      have hsome := (hclosed _).mpr ⟨h, rfl⟩
      exact absurd (hmp.symm.trans hsome) (by simp)
    cases encodeBgpFlowSpecActionAsExtendedAttribute rule.action <;> simp [hno]
  | some attr =>
    obtain ⟨hyes, rfl⟩ := (hclosed attr).mp hmp
    simp only [if_neg htype]
    cases encodeBgpFlowSpecActionAsExtendedAttribute rule.action <;> simp [hyes]

/-- The run of the decoder over an announce. -/
theorem decodeAnnounce_eq_ok_iff {mpAttribute extendedAttributes : ByteString}
    {rule' : FlowSpecRule} :
    decodeNativeFlowSpecAnnounceFromBinaryEncodedAtributes
        [bgpAttributeOrigin, mpAttribute, extendedAttributes] {} = .ok rule' ↔
      ∃ next, decodeAttribute {} mpAttribute = .ok next ∧
        decodeAttribute next extendedAttributes = .ok rule' := by
  have horigin : decodeAttribute {} bgpAttributeOrigin = .ok {} := by decide
  rw [decodeNativeFlowSpecAnnounceFromBinaryEncodedAtributes]
  simp only [List.foldlM_cons, List.foldlM_nil, horigin, ok_bind, bind_eq_ok_iff, pure_eq_ok_iff,
    exists_eq_right]

/-- The community of a redirect to a VRF is not decoded to one. -/
theorem decodeAttribute_redirectVrf_ne {action : BgpFlowSpecAction} {attr : ByteString}
    (hencode : encodeBgpFlowSpecRedirectRtAsExtendedAttribute action = some attr)
    {next rule' : FlowSpecRule} (hnext : next.action.actionType ≠ .redirectVrf)
    (hdecode : decodeAttribute next attr = .ok rule') :
    rule'.action.actionType ≠ .redirectVrf := by
  rw [encodeBgpFlowSpecRedirectRtAsExtendedAttribute] at hencode
  split at hencode
  · obtain rfl := Option.some.inj hencode
    rw [decodeAttribute_redirect, Except.ok.injEq] at hdecode
    rw [← hdecode]
    intro h
    exact BgpFlowSpecActionType.noConfusion h
  · split at hencode
    · exact absurd hencode (by simp)
    · obtain rfl := Option.some.inj hencode
      rw [decodeAttribute_redirectRtAs4byte, Except.ok.injEq] at hdecode
      rwa [← hdecode]

/-- **The action comes back exactly if it is not a redirect to a VRF and the
counted bytes of the matching part are acceptable**, unless there is no announce
at all. -/
theorem actionRoundTrips_iff
    (htype : rule.action.actionType = .discard ∨ rule.action.actionType = .redirect ∨
      rule.action.actionType = .redirectVrf) :
    ActionRoundTrips behind rule ↔
      ¬ MpEncodable rule true ∨ ¬ ActionEncodable rule.action ∨
        (rule.action.actionType ≠ .redirectVrf ∧ AcceptableNlri (countedNlri behind rule)) := by
  have haccept : rule.action.actionType ≠ .accept := by
    rintro h
    rw [h] at htype
    exact absurd htype (by decide)
  rw [ActionRoundTrips, buildAttributes_eq behind rule haccept,
    ← encodeAction_eq_none_iff htype]
  cases hencode : encodeBgpFlowSpecActionAsExtendedAttribute rule.action with
  | none => simp
  | some extendedAttributes =>
    by_cases hmp : MpEncodable rule true
    · simp only [hmp, if_true, ne_eq, reduceCtorEq, not_false_eq_true, true_imp_iff, not_true,
        false_or, decodeAnnounce_eq_ok_iff, decodeAttribute_mpAttribute behind rule hmp]
      constructor
      · rintro ⟨rule', ⟨next, ⟨ws, hbytes, hwf, happly⟩, hdecode⟩, hsame, -, -⟩
        refine ⟨?_, ws, hbytes, hwf, (applyAll_ok_iff _ _).mp ⟨next, happly⟩⟩
        intro hvrf
        rw [encodeBgpFlowSpecActionAsExtendedAttribute, hvrf] at hencode
        have hnext : next.action.actionType ≠ .redirectVrf := by
          rw [applyAll_action happly]
          decide
        exact decodeAttribute_redirectVrf_ne hencode hnext hdecode (hsame.trans hvrf)
      · rintro ⟨hvrf, ws, hbytes, hwf, hfit⟩
        obtain ⟨next, happly⟩ := (applyAll_ok_iff _ _).mpr hfit
        rcases htype with htype | htype | htype
        · rw [encodeBgpFlowSpecActionAsExtendedAttribute, htype] at hencode
          obtain rfl := Option.some.inj hencode
          refine ⟨_, ⟨next, ⟨ws, hbytes, hwf, happly⟩, decodeAttribute_discard next⟩, ?_⟩
          simp [SameAction, htype]
        · rw [encodeBgpFlowSpecActionAsExtendedAttribute, htype] at hencode
          obtain rfl := Option.some.inj hencode
          refine ⟨_, ⟨next, ⟨ws, hbytes, hwf, happly⟩, decodeAttribute_redirect next _ _⟩, ?_⟩
          simp [SameAction, htype]
        · exact absurd htype hvrf
    · simp [hmp]

/-- A rule with a destination port and a redirect. -/
def redirectRule : FlowSpecRule :=
  { destinationPorts := [80]
    action := { actionType := .redirect, redirectAs := 65000, redirectValue := 100 } }

/-- Its action comes back. -/
theorem redirectRule_round_trips :
    (redirectRule.action.actionType = .discard ∨ redirectRule.action.actionType = .redirect ∨
      redirectRule.action.actionType = .redirectVrf) ∧ ActionRoundTrips (fun _ => 0) redirectRule := by
  refine ⟨by decide, (actionRoundTrips_iff (fun _ => 0) redirectRule (by decide)).mpr
    (.inr (.inr ⟨by decide, ?_⟩))⟩
  refine acceptableNlri_countedNlri _ _ ?_ (by decide) (by decide)
  refine ⟨fun h => absurd h (by decide), fun h => absurd h (by decide), ?_, ?_, ?_, ?_, ?_, ?_⟩
  all_goals decide

/-- The same rule with a redirect to the VRF of the route target. -/
def redirectVrfRule : FlowSpecRule :=
  { destinationPorts := [80]
    action := { actionType := .redirectVrf, redirectRtAs := 65000, redirectRtValue := 100 } }

/-- **A redirect to a VRF does not come back.** -/
theorem redirectVrfRule_not_round_trips : ¬ ∀ (behind : ℕ → UInt8) (rule : FlowSpecRule),
    (rule.action.actionType = .discard ∨ rule.action.actionType = .redirect ∨
      rule.action.actionType = .redirectVrf) → nlriBytes behind rule ≠ [] →
    ActionRoundTrips behind rule := by
  intro h
  have hmine := h (fun _ => 0) redirectVrfRule (by decide) (by decide) (by decide)
  obtain ⟨rule', hdecode, htype, -⟩ := hmine
  have hredirect : decodeNativeFlowSpecAnnounceFromBinaryEncodedAtributes
      (buildAttributesForFlowspecAnnounce (fun _ => 0) redirectVrfRule) {}
        = .ok redirectRule := by decide
  obtain rfl := Except.ok.inj (hredirect.symm.trans hdecode)
  exact absurd htype (by decide)

end FastNetMon
