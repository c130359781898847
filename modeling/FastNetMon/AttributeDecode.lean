/-
FastNetMon/AttributeDecode.lean

Decoding a FlowSpec announce from its BGP attributes
(`decode_native_flow_spec_announce_from_binary_encoded_atributes`).

Each attribute is a byte string of its own; a read behind its last byte is a
read outside.  The attribute header is checked against the number of bytes.
The body of an MP_REACH attribute is not: neither its fixed part nor the NLRI
length byte is compared with what is left.  Main result: the decoder stays
inside exactly if no attribute that it reaches has a body of that kind
(`staysInside_iff`).
-/
import FastNetMon.NlriTruncated
import FastNetMon.FlowSpecAnnounce

namespace FastNetMon

open Memory

/-! ### Attribute headers -/

/-- `bgp_attibute_common_header_t`. -/
structure BgpAttibuteCommonHeader where
  attributeFlags : UInt8
  attributeType : UInt8
  lengthOfLengthField : ℕ
  attributeValueLength : ℕ
  attributeBodyShift : ℕ
deriving DecidableEq, Repr

/-- The length of the attribute value, from a field of one or two bytes. -/
def readAttributeValueLength (m : Memory) (lengthOfLengthField : ℕ) : Except Fault ℕ :=
  if lengthOfLengthField = 1 then do
    let length ← m.read 2
    return length.toNat
  else do
    let length ← m.read16 2
    return (byteSwap16 length).toNat

/-- `parse_raw_bgp_attribute`. -/
def parseRawBgpAttribute (m : Memory) (len : ℕ) : Except Fault BgpAttibuteCommonHeader := do
  rejectIf (len < 2)
  let attributeFlags ← m.read 0
  let attributeType ← m.read 1
  let lengthOfLengthField :=
    if (BgpAttributeFlags.ofByte attributeFlags).extendedLengthBit then 2 else 1
  rejectIf (len < 2 + lengthOfLengthField)
  let attributeValueLength ← readAttributeValueLength m lengthOfLengthField
  rejectIf (len < 2 + lengthOfLengthField + attributeValueLength)
  return { attributeFlags, attributeType, lengthOfLengthField, attributeValueLength,
           attributeBodyShift := 2 + lengthOfLengthField }

/-! ### Attribute bodies -/

/-- The action of a traffic rate community. -/
def rateAction (rate : UInt32) : BgpFlowSpecAction :=
  if float32ToInt rate = 0 then { actionType := .discard }
  else { actionType := .rateLimit, rateLimit := .ofInt (float32ToInt rate) }

/-- The branch for `BGP_ATTRIBUTE_EXTENDED_COMMUNITY`; the body is at `shift`.
Traffic remarking is only printed, and other communities are ignored. -/
def decodeExtendedCommunity (m : Memory) (shift valueLength : ℕ) (rule : FlowSpecRule) :
    Except Fault FlowSpecRule := do
  rejectIf (valueLength % 8 ≠ 0)
  rejectIf (valueLength / 8 ≠ 1)
  let typeHight ← m.read shift
  if typeHight = EXTENDED_COMMUNITY_TRANSITIVE_EXPEREMENTAL then
    let typeLow ← m.read (shift + 1)
    if typeLow = FLOW_SPEC_EXTENDED_COMMUNITY_SUBTYPE_TRAFFIC_RATE then
      let rate := byteSwap32 (← m.read32 (shift + 4))
      rejectIf (float32IsNegative rate)
      return { rule with action := rateAction rate }
    else if typeLow = FLOW_SPEC_EXTENDED_COMMUNITY_SUBTYPE_REDIRECT_AS_TWO_BYTE then
      let redirectAs := byteSwap16 (← m.read16 (shift + 2))
      let redirectValue := byteSwap32 (← m.read32 (shift + 4))
      return { rule with action := { actionType := .redirect, redirectAs, redirectValue } }
    else if typeLow = FLOW_SPEC_EXTENDED_COMMUNITY_SUBTYPE_TRAFFIC_REMARKING then
      let _ ← m.readBytes (shift + 2) 6
      return rule
    else return rule
  else return rule

/-- The branch for `BGP_ATTRIBUTE_MP_REACH_NLRI`; the body is at `shift`. -/
def decodeMpReachNlri (m : Memory) (shift : ℕ) (rule : FlowSpecRule) :
    Except Fault FlowSpecRule := do
  let afiIdentifier := byteSwap16 (← m.read16 shift)
  rejectIf (afiIdentifier ≠ AFI_IP)
  let safiIdentifier ← m.read (shift + 2)
  rejectIf (safiIdentifier ≠ SAFI_FLOW_SPEC_UNICAST)
  let nlriValueLength ← m.read (shift + 5)
  rejectIf (nlriValueLength ≥ 240)
  let decoded ← flowSpecDecodeNlriValue m (shift + 6) nlriValueLength.toUInt32 rule
  return decoded.rule

/-- One pass of the loop: one attribute. -/
def decodeAttribute (rule : FlowSpecRule) (attr : ByteString) : Except Fault FlowSpecRule := do
  let m := ofBytes attr
  let header ← parseRawBgpAttribute m attr.length
  if header.attributeType = BGP_ATTRIBUTE_EXTENDED_COMMUNITY then
    decodeExtendedCommunity m header.attributeBodyShift header.attributeValueLength rule
  else if header.attributeType = BGP_ATTRIBUTE_MP_REACH_NLRI then
    decodeMpReachNlri m header.attributeBodyShift rule
  else return rule

/-- `decode_native_flow_spec_announce_from_binary_encoded_atributes`. -/
def decodeNativeFlowSpecAnnounceFromBinaryEncodedAtributes (binaryAttributes : List ByteString)
    (rule : FlowSpecRule) : Except Fault FlowSpecRule :=
  binaryAttributes.foldlM decodeAttribute rule

/-! ### The safe parts -/

theorem readAttributeValueLength_clean {m : Memory} {len lengthOfLengthField : ℕ}
    (hread : m.Readable 0 len) (hfield : lengthOfLengthField = 1 ∨ lengthOfLengthField = 2)
    (hlen : 2 + lengthOfLengthField ≤ len) :
    Clean (readAttributeValueLength m lengthOfLengthField) := by
  rw [readAttributeValueLength]
  split
  · obtain ⟨b, hb, -⟩ := hread.read (p := 2) (by omega) (by omega)
    rw [hb]
    exact clean_pure _
  · obtain ⟨w, hw⟩ := hread.read16 (p := 2) (by omega) (by omega)
    rw [hw]
    exact clean_pure _

/-- The header is parsed inside the attribute, and a header that is accepted
describes a body inside it. -/
theorem parseRawBgpAttribute_spec (attr : ByteString) :
    Clean (parseRawBgpAttribute (ofBytes attr) attr.length) ∧
    ∀ header, parseRawBgpAttribute (ofBytes attr) attr.length = .ok header →
      header.attributeBodyShift + header.attributeValueLength ≤ attr.length := by
  have hread := readable_ofBytes attr
  have hfield : ∀ b : UInt8, (if (BgpAttributeFlags.ofByte b).extendedLengthBit then 2 else 1) = 1 ∨
      (if (BgpAttributeFlags.ofByte b).extendedLengthBit then 2 else 1) = 2 := by
    intro b
    split <;> simp
  constructor
  · rw [parseRawBgpAttribute]
    refine Clean.bind (clean_rejectIf _) fun _ hlen => ?_
    rw [rejectIf_eq_ok_iff] at hlen
    obtain ⟨flags, hflags, -⟩ := hread.read (p := 0) (by omega) (by omega)
    obtain ⟨type, htype, -⟩ := hread.read (p := 1) (by omega) (by omega)
    rw [hflags, htype, ok_bind, ok_bind]
    refine Clean.bind (clean_rejectIf _) fun _ hfits => ?_
    rw [rejectIf_eq_ok_iff, not_lt] at hfits
    exact Clean.bind (readAttributeValueLength_clean hread (hfield flags) hfits) fun _ _ =>
      Clean.bind (clean_rejectIf _) fun _ _ => clean_pure _
  · intro header hheader
    simp only [parseRawBgpAttribute, bind_eq_ok_iff, rejectIf_eq_ok_iff, exists_const,
      pure_eq_ok_iff] at hheader
    obtain ⟨-, flags, -, type, -, -, valueLength, -, hfits, rfl⟩ := hheader
    exact not_lt.mp hfits

/-- The header of an attribute with a length of one byte. -/
theorem parseRawBgpAttribute_cons {flags type length : UInt8} {value : ByteString}
    (hshort : (BgpAttributeFlags.ofByte flags).extendedLengthBit = false)
    (hlength : length.toNat ≤ value.length) :
    parseRawBgpAttribute (ofBytes (flags :: type :: length :: value))
        (flags :: type :: length :: value).length
      = .ok ⟨flags, type, 1, length.toNat, 3⟩ := by
  have hflags : (ofBytes (flags :: type :: length :: value)).read 0 = .ok flags := rfl
  have htype : (ofBytes (flags :: type :: length :: value)).read 1 = .ok type := rfl
  have hvalue : (ofBytes (flags :: type :: length :: value)).read 2 = .ok length := rfl
  simp only [List.length_cons]
  rw [parseRawBgpAttribute, rejectIf_of_not (by omega), ok_bind, hflags, ok_bind, htype, ok_bind]
  simp only [hshort, Bool.false_eq_true, if_false]
  rw [rejectIf_of_not (by omega), ok_bind, readAttributeValueLength, if_pos rfl, hvalue, ok_bind]
  change (rejectIf (value.length + 1 + 1 + 1 < 2 + 1 + length.toNat) >>= _) = _
  rw [rejectIf_of_not (by omega)]
  rfl

/-- The community is decoded inside the body. -/
theorem decodeExtendedCommunity_clean {m : Memory} {shift valueLength : ℕ} {rule : FlowSpecRule}
    (hread : m.Readable shift (shift + valueLength)) :
    Clean (decodeExtendedCommunity m shift valueLength rule) := by
  rw [decodeExtendedCommunity]
  refine Clean.bind (clean_rejectIf _) fun _ hmod => Clean.bind (clean_rejectIf _) fun _ hdiv => ?_
  rw [rejectIf_eq_ok_iff] at hmod hdiv
  have hlen : valueLength = 8 := by omega
  subst hlen
  obtain ⟨high, hhigh, -⟩ := hread.read (p := shift) (by omega) (by omega)
  obtain ⟨low, hlow, -⟩ := hread.read (p := shift + 1) (by omega) (by omega)
  obtain ⟨as, has⟩ := hread.read16 (p := shift + 2) (by omega) (by omega)
  obtain ⟨value, hvalue⟩ := hread.read32 (p := shift + 4) (by omega) (by omega)
  obtain ⟨printed, hprinted⟩ := Readable.readBytes (m := m) (p := shift + 2) (n := 6)
    (hread.mono (by omega) (by omega))
  rw [hhigh, ok_bind]
  split
  · rw [hlow, ok_bind]
    split
    · rw [hvalue, ok_bind]
      exact Clean.bind (clean_rejectIf _) fun _ _ => clean_pure _
    split
    · rw [has, hvalue]
      exact clean_pure _
    split
    · rw [hprinted]
      exact clean_pure _
    · exact clean_pure _
  · exact clean_pure _

/-! ### The MP_REACH body -/

/-- The bodies that the decoder reads past.  The fields are read in the order
AFI, SAFI, NLRI length, NLRI; a body is read past if it ends in front of the
next field while the fields before it are as expected. -/
def OverrunsMpBody (rule : FlowSpecRule) : ByteString → Prop
  | [] => True
  | [_] => True
  | afiHigh :: afiLow :: rest => byteSwap16 (ofBytes16 afiHigh afiLow) = AFI_IP ∧
      match rest with
      | [] => True
      | safi :: rest => safi = SAFI_FLOW_SPEC_UNICAST ∧
          match rest with
          | _ :: _ :: nlriValueLength :: nlri => nlriValueLength < 240 ∧
              nlri.length < nlriValueLength.toNat ∧
              UnfinishedNlri rule nlriValueLength.toNat nlri
          | _ => True

variable {m : Memory} {shift : ℕ} {rule : FlowSpecRule} {body : ByteString}

/-- The decoder behind the fixed part of the body. -/
theorem flowSpecDecodeNlriValue_eq_outOfBounds_iff {p : ℕ} {nlri : ByteString}
    (hends : m.Ends p nlri) (length : UInt8) :
    flowSpecDecodeNlriValue m p length.toUInt32 rule = .error .outOfBounds ↔
      nlri.length < length.toNat ∧ UnfinishedNlri rule length.toNat nlri := by
  have hbyte := length.toNat_lt
  have hnat : length.toUInt32.toNat = length.toNat := length.toNat_toUInt32
  rw [flowSpecDecodeNlriValue, hnat]
  rcases Nat.lt_or_ge nlri.length length.toNat with hshort | hlong
  · rw [decodeComponents_eq_outOfBounds_iff hends (by omega) (by omega) (by omega),
      Nat.add_sub_cancel_left]
    exact ⟨fun h => ⟨hshort, h⟩, fun h => h.2⟩
  · have hclean : Clean (decodeComponents m (p + length.toNat) (length.toNat + 1) rule p) :=
      decodeComponents_clean (hends.1.readable.mono le_rfl (by omega)) (by omega) (by omega)
        (by omega)
    constructor
    · intro h
      rw [h] at hclean
      exact absurd hclean (by decide)
    · rintro ⟨hshort, -⟩
      omega

/-- **The body of an MP_REACH attribute is read past exactly if it is of that
kind.** -/
theorem decodeMpReachNlri_eq_outOfBounds_iff (hends : m.Ends shift body) :
    decodeMpReachNlri m shift rule = .error .outOfBounds ↔ OverrunsMpBody rule body := by
  simp only [decodeMpReachNlri, bind_eq_outOfBounds_iff, rejectIf_ne_outOfBounds, false_or,
    rejectIf_eq_ok_iff, exists_const, pure_ne_outOfBounds, and_false, or_false, hends.read16_iff,
    exists_false, not_not, ge_iff_le, UInt8.not_le]
  -- the body is cut at the fields that are read
  rcases body with _ | ⟨afiHigh, _ | ⟨afiLow, rest⟩⟩
  · simp [OverrunsMpBody]
  · simp [OverrunsMpBody]
  · simp only [ends_cons] at hends
    obtain ⟨hhigh, hlow, hrest⟩ := hends
    have hafi : m.read16 shift = .ok (ofBytes16 afiHigh afiLow) := by
      rw [Memory.read16, read_eq_ok_iff.mpr hhigh, read_eq_ok_iff.mpr hlow]
      rfl
    have hlength : ¬ (afiHigh :: afiLow :: rest).length < 2 := by simp
    rw [add_assoc] at hrest
    simp only [hlength, hafi, false_or, Except.ok.injEq, exists_eq_left', hrest.read_iff,
      OverrunsMpBody]
    refine and_congr_right fun _ => ?_
    rcases rest with _ | ⟨safi, rest⟩
    · simp
    · rw [ends_cons] at hrest
      simp only [read_eq_ok_iff.mpr hrest.1, reduceCtorEq, false_or, Except.ok.injEq,
        exists_eq_left']
      refine and_congr_right fun _ => ?_
      have hrest := hrest.2
      rcases rest with _ | ⟨_, _ | ⟨_, _ | ⟨nlriValueLength, nlri⟩⟩⟩
      · have hread := (hrest.read_add_iff 2).mpr (by simp)
        simp [hread]
      · have hread := (hrest.read_add_iff 2).mpr (by simp)
        simp [hread]
      · have hread := (hrest.read_add_iff 2).mpr (by simp)
        simp [hread]
      · simp only [ends_cons, add_assoc, Nat.reduceAdd] at hrest
        obtain ⟨-, -, hbyte, hnlri⟩ := hrest
        simp only [read_eq_ok_iff.mpr hbyte, reduceCtorEq, false_or, Except.ok.injEq,
          exists_eq_left', flowSpecDecodeNlriValue_eq_outOfBounds_iff hnlri]

/-- The branch for a body with the expected AFI, SAFI and length byte. -/
theorem decodeMpReachNlri_eq {n : UInt8} (hafi : m.read16 shift = .ok (ofBytes16 0 1))
    (hsafi : m.read (shift + 2) = .ok SAFI_FLOW_SPEC_UNICAST) (hn : m.read (shift + 5) = .ok n)
    (hlt : n < 240) : decodeMpReachNlri m shift rule = do
      let decoded ← flowSpecDecodeNlriValue m (shift + 6) n.toUInt32 rule
      return decoded.rule := by
  have hswap : ¬ byteSwap16 (ofBytes16 0 1) ≠ AFI_IP := by decide
  have hbyte : ¬ n ≥ 240 := by simpa using hlt
  rw [decodeMpReachNlri, hafi, ok_bind]
  simp only [rejectIf_of_not hswap, hsafi, hn, ok_bind, rejectIf_of_not hbyte]
  rw [rejectIf_of_not (by decide), ok_bind]

theorem decodeMpReachNlri_ne_outOfFuel (m : Memory) (shift : ℕ) (rule : FlowSpecRule) :
    decodeMpReachNlri m shift rule ≠ .error .outOfFuel := by
  rw [decodeMpReachNlri]
  refine bind_ne_outOfFuel (read16_ne_outOfFuel m _) fun _ _ =>
    bind_ne_outOfFuel (clean_rejectIf _).ne_outOfFuel fun _ _ =>
    bind_ne_outOfFuel (read_ne_outOfFuel m _) fun _ _ =>
    bind_ne_outOfFuel (clean_rejectIf _).ne_outOfFuel fun _ _ =>
    bind_ne_outOfFuel (read_ne_outOfFuel m _) fun length _ =>
    bind_ne_outOfFuel (clean_rejectIf _).ne_outOfFuel fun _ _ =>
    bind_ne_outOfFuel ?_ fun _ _ => (clean_pure _).ne_outOfFuel
  have hbyte := length.toNat_lt
  have hnat : length.toUInt32.toNat = length.toNat := length.toNat_toUInt32
  rw [flowSpecDecodeNlriValue, hnat]
  exact decodeComponents_ne_outOfFuel (by omega) (by omega) (by omega)

/-! ### Attributes -/

/-- The attribute is an MP_REACH attribute whose body is read past. -/
def OverrunsMpReach (rule : FlowSpecRule) (attr : ByteString) : Prop :=
  ∃ header, parseRawBgpAttribute (ofBytes attr) attr.length = .ok header ∧
    header.attributeType = BGP_ATTRIBUTE_MP_REACH_NLRI ∧
    OverrunsMpBody rule (attr.drop header.attributeBodyShift)

/-- **One attribute is decoded inside its bytes exactly if it is not of that
kind.** -/
theorem decodeAttribute_clean_iff (rule : FlowSpecRule) (attr : ByteString) :
    Clean (decodeAttribute rule attr) ↔ ¬ OverrunsMpReach rule attr := by
  obtain ⟨hclean, hspec⟩ := parseRawBgpAttribute_spec attr
  rw [decodeAttribute, OverrunsMpReach]
  cases hparse : parseRawBgpAttribute (ofBytes attr) attr.length with
  | error e =>
    rw [hparse] at hclean
    obtain rfl : e = .rejected := hclean
    simp
  | ok header =>
    have hbody := hspec header hparse
    simp only [ok_bind, Except.ok.injEq, exists_eq_left']
    split
    · rename_i htype
      have hread : (ofBytes attr).Readable header.attributeBodyShift
          (header.attributeBodyShift + header.attributeValueLength) :=
        (readable_ofBytes attr).mono (Nat.zero_le _) hbody
      refine iff_of_true (decodeExtendedCommunity_clean hread) ?_
      rintro ⟨hmp, -⟩
      exact absurd (htype.symm.trans hmp) (by decide)
    split
    · rename_i htype
      rw [clean_iff (decodeMpReachNlri_ne_outOfFuel _ _ _), ne_eq,
        decodeMpReachNlri_eq_outOfBounds_iff (ends_ofBytes_drop (by omega))]
      simp [htype]
    · rename_i htype
      exact iff_of_true (clean_pure _) fun h => htype h.1

/-- The branch that an MP_REACH attribute takes. -/
theorem decodeAttribute_of_mpReach {attr : ByteString} {header : BgpAttibuteCommonHeader}
    (hparse : parseRawBgpAttribute (ofBytes attr) attr.length = .ok header)
    (htype : header.attributeType = BGP_ATTRIBUTE_MP_REACH_NLRI) (rule : FlowSpecRule) :
    decodeAttribute rule attr
      = decodeMpReachNlri (ofBytes attr) header.attributeBodyShift rule := by
  rw [decodeAttribute, hparse, ok_bind, if_neg (by rw [htype]; decide), if_pos htype]

/-- An MP_REACH attribute that ends in front of its NLRI length byte, or whose
length byte is greater than the number of bytes behind it. -/
def ShortMpReach (attr : ByteString) : Prop :=
  ∃ header, parseRawBgpAttribute (ofBytes attr) attr.length = .ok header ∧
    header.attributeType = BGP_ATTRIBUTE_MP_REACH_NLRI ∧
    ∀ length nlri, attr.drop (header.attributeBodyShift + 5) = length :: nlri →
      nlri.length < length.toNat

/-- Such an attribute is not accepted. -/
theorem ShortMpReach.decodeAttribute_ne_ok {attr : ByteString} (h : ShortMpReach attr)
    (rule rule' : FlowSpecRule) : decodeAttribute rule attr ≠ .ok rule' := by
  obtain ⟨header, hparse, htype, hshort⟩ := h
  have hbody := (parseRawBgpAttribute_spec attr).2 header hparse
  intro hdecode
  rw [decodeAttribute_of_mpReach hparse htype] at hdecode
  simp only [decodeMpReachNlri, bind_eq_ok_iff, read_eq_ok_iff] at hdecode
  obtain ⟨-, -, -, -, -, -, -, -, length, hlength, -, -, decoded, hnlri, -⟩ := hdecode
  -- the length byte is there, so the bytes behind it are too few
  have hlt : header.attributeBodyShift + 5 < attr.length :=
    (List.getElem?_eq_some_iff.mp hlength).1
  have hdrop : attr.drop (header.attributeBodyShift + 5)
      = length :: attr.drop (header.attributeBodyShift + 6) := by
    rw [List.drop_eq_getElem_cons hlt, (List.getElem?_eq_some_iff.mp hlength).2]
  have hbyte := length.toNat_lt
  have hnat : length.toUInt32.toNat = length.toNat := length.toNat_toUInt32
  have hfew := hshort length _ hdrop
  rw [flowSpecDecodeNlriValue, hnat] at hnlri
  exact decodeComponents_ne_ok (ends_ofBytes_drop (by omega)) (by omega) (by omega) (by omega) _
    hnlri

/-! ### The list of attributes -/

/-- The decoder reads only inside the attributes, and turns the list down if it
holds an MP_REACH attribute that is too short. -/
def StaysInside (binaryAttributes : List ByteString) (rule : FlowSpecRule) : Prop :=
  let result := decodeNativeFlowSpecAnnounceFromBinaryEncodedAtributes binaryAttributes rule
  Clean result ∧ ∀ attr ∈ binaryAttributes, ShortMpReach attr → result = .error .rejected

/-- An attribute is reached if the ones before it are accepted; it is then
decoded with the rule that they leave. -/
def ReachesAttribute (binaryAttributes : List ByteString) (rule : FlowSpecRule) (attr : ByteString)
    (rule' : FlowSpecRule) : Prop :=
  ∃ front back, binaryAttributes = front ++ attr :: back ∧
    decodeNativeFlowSpecAnnounceFromBinaryEncodedAtributes front rule = .ok rule'

theorem reachesAttribute_cons {attr attr' : ByteString} {attrs : List ByteString}
    {rule rule' : FlowSpecRule} :
    ReachesAttribute (attr :: attrs) rule attr' rule' ↔ (attr' = attr ∧ rule' = rule) ∨
      ∃ next, decodeAttribute rule attr = .ok next ∧ ReachesAttribute attrs next attr' rule' := by
  constructor
  · rintro ⟨front, back, hsplit, hfront⟩
    cases front with
    | nil =>
      obtain ⟨rfl, -⟩ : attr = attr' ∧ attrs = back := by simpa using hsplit
      obtain rfl : rule = rule' := by
        simpa [decodeNativeFlowSpecAnnounceFromBinaryEncodedAtributes] using hfront
      exact .inl ⟨rfl, rfl⟩
    | cons a front =>
      obtain ⟨rfl, rfl⟩ : attr = a ∧ attrs = front ++ attr' :: back := by simpa using hsplit
      simp only [decodeNativeFlowSpecAnnounceFromBinaryEncodedAtributes, List.foldlM_cons,
        bind_eq_ok_iff] at hfront
      obtain ⟨next, hnext, hrest⟩ := hfront
      exact .inr ⟨next, hnext, front, back, rfl, hrest⟩
  · rintro (⟨rfl, rfl⟩ | ⟨next, hnext, front, back, rfl, hrest⟩)
    · exact ⟨[], attrs, rfl, rfl⟩
    · refine ⟨attr :: front, back, rfl, ?_⟩
      rw [decodeNativeFlowSpecAnnounceFromBinaryEncodedAtributes, List.foldlM_cons, hnext]
      exact hrest

/-- A run over the attributes is clean if every attribute that is reached is. -/
theorem decodeAtributes_clean_iff (binaryAttributes : List ByteString) (rule : FlowSpecRule) :
    Clean (decodeNativeFlowSpecAnnounceFromBinaryEncodedAtributes binaryAttributes rule) ↔
      ∀ attr rule', ReachesAttribute binaryAttributes rule attr rule' → ¬ OverrunsMpReach rule' attr := by
  induction binaryAttributes generalizing rule with
  | nil =>
    refine iff_of_true (clean_pure _) ?_
    rintro attr rule' ⟨front, back, hsplit, -⟩
    exact absurd hsplit (by simp)
  | cons attr attrs ih =>
    simp only [reachesAttribute_cons]
    rw [decodeNativeFlowSpecAnnounceFromBinaryEncodedAtributes, List.foldlM_cons]
    constructor
    · rintro hclean attr' rule' (⟨rfl, rfl⟩ | ⟨next, hnext, hreach⟩)
      · refine (decodeAttribute_clean_iff rule' attr').mp ?_
        cases hdecode : decodeAttribute rule' attr' with
        | ok next => exact clean_ok _
        | error e =>
          rw [hdecode] at hclean
          exact hclean
      · rw [hnext] at hclean
        exact (ih next).mp hclean attr' rule' hreach
    · intro hnone
      refine Clean.bind ((decodeAttribute_clean_iff rule attr).mpr
        (hnone attr rule (.inl ⟨rfl, rfl⟩))) fun next hnext => ?_
      exact (ih next).mpr fun attr' rule' hreach => hnone attr' rule' (.inr ⟨next, hnext, hreach⟩)

theorem decodeAtributes_ne_ok {attr : ByteString} (h : ShortMpReach attr)
    {binaryAttributes : List ByteString} (hmem : attr ∈ binaryAttributes)
    (rule rule' : FlowSpecRule) :
    decodeNativeFlowSpecAnnounceFromBinaryEncodedAtributes binaryAttributes rule ≠ .ok rule' := by
  induction binaryAttributes generalizing rule with
  | nil => exact absurd hmem (by simp)
  | cons a attrs ih =>
    intro hdecode
    simp only [decodeNativeFlowSpecAnnounceFromBinaryEncodedAtributes, List.foldlM_cons,
      bind_eq_ok_iff] at hdecode
    obtain ⟨next, hnext, hrest⟩ := hdecode
    rcases List.mem_cons.mp hmem with rfl | hmem
    · exact h.decodeAttribute_ne_ok rule next hnext
    · exact ih hmem next hrest

/-- **The decoder stays inside the attributes exactly if it reaches no MP_REACH
attribute with a body that it reads past.** -/
theorem staysInside_iff (binaryAttributes : List ByteString) (rule : FlowSpecRule) :
    StaysInside binaryAttributes rule ↔
      ∀ attr rule', ReachesAttribute binaryAttributes rule attr rule' → ¬ OverrunsMpReach rule' attr := by
  rw [← decodeAtributes_clean_iff, StaysInside]
  refine and_iff_left_of_imp fun hclean attr hmem hshort => ?_
  cases hdecode : decodeNativeFlowSpecAnnounceFromBinaryEncodedAtributes binaryAttributes rule with
  | ok rule' => exact absurd hdecode (decodeAtributes_ne_ok hshort hmem rule rule')
  | error e =>
    rw [hdecode] at hclean
    rw [show e = .rejected from hclean]

/-- An MP_REACH attribute that consists of its header, AFI and SAFI only. -/
def mpReachWithoutNlri : ByteString := [0x80, 14, 3, 0, 1, 133]

/-- **The decoder reads behind such an attribute.** -/
theorem mpReachWithoutNlri_not_inside : ¬ ∀ (binaryAttributes : List ByteString)
    (rule : FlowSpecRule), StaysInside binaryAttributes rule := by
  intro h
  have hclean := (h [mpReachWithoutNlri] {}).1
  exact absurd hclean (by decide)

end FastNetMon
