/-
FastNetMon/MpAttribute.lean

The MP_REACH_NLRI attribute of a FlowSpec announce
(`encode_bgp_flow_spec_elements_into_bgp_mp_attribute`) and its two length
fields.

The length of the matching part goes into an `uint8_t` before it is compared
with 240, so that a matching part of 256 bytes or more is judged by its length
modulo 256.  Main results: the attribute in closed form
(`encodeBgpFlowSpecElementsIntoBgpMpAttribute_eq_some_iff`), and exactly when
its length fields are honest (`honestLengths_iff`).
-/
import FastNetMon.NlriEncode

namespace FastNetMon

/-! ### Attribute headers -/

instance neZeroSixteen : NeZero 16 := ⟨by decide⟩

/-- `bgp_attribute_flags`, with its four unnamed low bits. -/
structure BgpAttributeFlags where
  unused : Fin 16 := 0
  extendedLengthBit : Bool := false
  partialBit : Bool := false
  transitiveBit : Bool := false
  optionalBit : Bool := false
deriving DecidableEq, Repr

namespace BgpAttributeFlags

/-- The byte of the bit field. -/
def toByte (flags : BgpAttributeFlags) : UInt8 :=
  .ofNat (flags.unused + 16 * flags.extendedLengthBit.toNat + 32 * flags.partialBit.toNat
    + 64 * flags.transitiveBit.toNat + 128 * flags.optionalBit.toNat)

/-- The bit field of a byte. -/
def ofByte (b : UInt8) : BgpAttributeFlags where
  unused := ⟨b.toNat % 16, Nat.mod_lt _ (by decide)⟩
  extendedLengthBit := b.toNat / 16 % 2 == 1
  partialBit := b.toNat / 32 % 2 == 1
  transitiveBit := b.toNat / 64 % 2 == 1
  optionalBit := b.toNat / 128 % 2 == 1

end BgpAttributeFlags

/-- `BGP_ATTRIBUTES_TYPES`, the types that FlowSpec announces carry. -/
def BGP_ATTRIBUTE_ORIGIN : UInt8 := 1
@[inherit_doc BGP_ATTRIBUTE_ORIGIN]
def BGP_ATTRIBUTE_NEXT_HOP : UInt8 := 3
@[inherit_doc BGP_ATTRIBUTE_ORIGIN]
def BGP_ATTRIBUTE_MP_REACH_NLRI : UInt8 := 14
@[inherit_doc BGP_ATTRIBUTE_ORIGIN]
def BGP_ATTRIBUTE_EXTENDED_COMMUNITY : UInt8 := 16

/-- `AFI_IP`. -/
def AFI_IP : UInt16 := 1
/-- `SAFI_FLOW_SPEC_UNICAST`. -/
def SAFI_FLOW_SPEC_UNICAST : UInt8 := 133

/-- `bgp_mp_ext_flow_spec_header_t` after the conversion to network byte order:
AFI, SAFI, the length of the next hop and the reserved byte. -/
def bgpMpExtFlowSpecHeader : ByteString :=
  bytes16 (byteSwap16 AFI_IP) ++ [SAFI_FLOW_SPEC_UNICAST, 0, 0]

/-- `bgp_attribute_multiprotocol_extensions_t`. -/
def bgpAttributeMultiprotocolExtensions (attributeLength : UInt8) : ByteString :=
  [BgpAttributeFlags.toByte { optionalBit := true }, BGP_ATTRIBUTE_MP_REACH_NLRI, attributeLength]

/-! ### The attribute -/

variable (behind : ℕ → UInt8)

/-- `encode_bgp_flow_spec_elements_into_bgp_mp_attribute`. -/
def encodeBgpFlowSpecElementsIntoBgpMpAttribute (rule : FlowSpecRule) (addPreamble : Bool) :
    Option ByteString := do
  let mpNlri ← encodeBgpFlowSpecElementsAsMpNlri behind rule
  let nlriLength : UInt8 := .ofNat mpNlri.length
  if nlriLength ≥ 240 then none
  let attributeLength : UInt8 := .ofNat (5 + 1 + mpNlri.length)
  let buffer := DynamicBinaryBuffer.ofSize 2048
  let buffer :=
    if addPreamble then
      (buffer.append (bgpAttributeMultiprotocolExtensions attributeLength)).append
        bgpMpExtFlowSpecHeader
    else buffer
  ((buffer.append [nlriLength]).append mpNlri).result

/-- What stands in front of the NLRI length byte. -/
def mpPreamble (addPreamble : Bool) (rule : FlowSpecRule) : ByteString :=
  if addPreamble then
    bgpAttributeMultiprotocolExtensions (.ofNat (5 + 1 + nlriLength rule))
      ++ bgpMpExtFlowSpecHeader
  else []

@[simp] theorem mpPreamble_length (addPreamble : Bool) (rule : FlowSpecRule) :
    (mpPreamble addPreamble rule).length = if addPreamble then 8 else 0 := by
  cases addPreamble <;> rfl

/-- The rules for which the attribute is made: no empty flag set, the length
byte below 240, and enough room in the buffer. -/
def MpEncodable (rule : FlowSpecRule) (addPreamble : Bool) : Prop :=
  ¬ HasEmptyFlagset rule ∧ nlriLength rule % 256 < 240 ∧
    (if addPreamble then 9 else 1) + nlriLength rule ≤ 2048

instance (rule : FlowSpecRule) (addPreamble : Bool) : Decidable (MpEncodable rule addPreamble) :=
  inferInstanceAs (Decidable (_ ∧ _ ∧ _))

/-- The buffer of the attribute, with the length byte `n` and the attribute
length `a`. -/
theorem mpBuffer_result (addPreamble : Bool) (mpNlri : ByteString) (n a : UInt8) :
    (((if addPreamble then
        ((DynamicBinaryBuffer.ofSize 2048).append (bgpAttributeMultiprotocolExtensions a)).append
          bgpMpExtFlowSpecHeader
      else DynamicBinaryBuffer.ofSize 2048).append [n]).append mpNlri).result
    = if (if addPreamble then 9 else 1) + mpNlri.length ≤ 2048 then
        some ((if addPreamble then bgpAttributeMultiprotocolExtensions a ++ bgpMpExtFlowSpecHeader
          else []) ++ n :: mpNlri)
      else none := by
  cases addPreamble
  · have h := DynamicBinaryBuffer.result_appendAll_ofSize 2048 [[n], mpNlri]
    simpa [DynamicBinaryBuffer.appendAll, add_comm] using h
  · have h := DynamicBinaryBuffer.result_appendAll_ofSize 2048
      [bgpAttributeMultiprotocolExtensions a, bgpMpExtFlowSpecHeader, [n], mpNlri]
    have hlength : (List.flatten [bgpAttributeMultiprotocolExtensions a, bgpMpExtFlowSpecHeader,
        [n], mpNlri]).length = 9 + mpNlri.length := by
      simp [bgpAttributeMultiprotocolExtensions, bgpMpExtFlowSpecHeader]
      omega
    rw [hlength] at h
    simpa [DynamicBinaryBuffer.appendAll] using h

/-- **The attribute in closed form.** -/
theorem encodeBgpFlowSpecElementsIntoBgpMpAttribute_eq_some_iff (rule : FlowSpecRule)
    (addPreamble : Bool) (attr : ByteString) :
    encodeBgpFlowSpecElementsIntoBgpMpAttribute behind rule addPreamble = some attr ↔
      MpEncodable rule addPreamble ∧
        attr = mpPreamble addPreamble rule ++ .ofNat (nlriLength rule)
          :: nlriBytes behind rule := by
  have hbyte : ∀ n : ℕ, (UInt8.ofNat n ≥ 240) ↔ 240 ≤ n % 256 := by
    intro n
    rw [ge_iff_le, UInt8.le_iff_toNat_le, UInt8.toNat_ofNat']
    rfl
  rw [encodeBgpFlowSpecElementsIntoBgpMpAttribute, encodeBgpFlowSpecElementsAsMpNlri_eq,
    nlriBytes_length, MpEncodable]
  by_cases hempty : HasEmptyFlagset rule
  · simp [hempty]
  by_cases hfit : nlriLength rule ≤ 2048
  · simp only [hempty, not_false_eq_true, hfit, and_self, if_true, Option.bind_eq_bind,
      Option.bind_some, nlriBytes_length, hbyte, mpBuffer_result, true_and, mpPreamble]
    by_cases hlen : 240 ≤ nlriLength rule % 256
    · simp [hlen]
    · simp only [hlen, if_false]
      by_cases hall : (if addPreamble then 9 else 1) + nlriLength rule ≤ 2048
      · simp only [hall, if_true, Option.some.injEq, not_le.mp hlen, and_true, true_and]
        exact eq_comm
      · simp [hall]
  · simp only [hempty, not_false_eq_true, hfit, and_false, if_false, Option.bind_eq_bind,
      Option.bind_none, reduceCtorEq, true_and, false_iff]
    cases addPreamble <;> simp <;> omega

/-! ### Honest length fields -/

/-- The length fields say how many bytes follow: the NLRI length byte counts
the encoding of the rule, the attribute length byte, if there is one, the rest
of the attribute; and a matching part of 240 bytes or more is turned down. -/
def HonestLengths (rule : FlowSpecRule) (addPreamble : Bool) : Prop :=
  (∀ attr,
    encodeBgpFlowSpecElementsIntoBgpMpAttribute behind rule addPreamble = some attr →
      (∃ header nlriLengthByte, attr = header ++ nlriLengthByte :: nlriBytes behind rule ∧
        header.length = (if addPreamble then 8 else 0) ∧
        nlriLengthByte.toNat = (nlriBytes behind rule).length ∧ nlriLengthByte < 240) ∧
      (addPreamble → ∃ attributeLength, attr[2]? = some attributeLength ∧
        attributeLength.toNat = (attr.drop 3).length)) ∧
  (240 ≤ nlriLength rule →
    encodeBgpFlowSpecElementsIntoBgpMpAttribute behind rule addPreamble = none)

/-- **The length fields are honest exactly for rules that need less than 240
bytes and for rules that are turned down anyway**, for their length modulo 256,
for the room in the buffer or for an empty flag set. -/
theorem honestLengths_iff (rule : FlowSpecRule) (addPreamble : Bool) :
    HonestLengths behind rule addPreamble ↔
      nlriLength rule < 240 ∨ 240 ≤ nlriLength rule % 256 ∨
        2048 < (if addPreamble then 9 else 1) + nlriLength rule ∨ HasEmptyFlagset rule := by
  have hclosed := encodeBgpFlowSpecElementsIntoBgpMpAttribute_eq_some_iff behind rule addPreamble
  constructor
  · rintro ⟨-, hlarge⟩
    by_contra hno
    simp only [not_or, not_lt, not_le] at hno
    obtain ⟨h240, hmod, hroom, hempty⟩ := hno
    have hsome := (hclosed _).mpr ⟨⟨hempty, hmod, hroom⟩, rfl⟩
    rw [hlarge h240] at hsome
    exact absurd hsome (by simp)
  · intro hwhen
    have hsmall : ∀ attr,
        encodeBgpFlowSpecElementsIntoBgpMpAttribute behind rule addPreamble = some attr →
        nlriLength rule < 240 := by
      intro attr h
      obtain ⟨⟨hempty, hmod, hroom⟩, -⟩ := (hclosed attr).mp h
      rcases hwhen with h | h | h | h
      · exact h
      · omega
      · omega
      · exact absurd h hempty
    refine ⟨?_, ?_⟩
    · intro attr h
      have hlt := hsmall attr h
      obtain ⟨-, rfl⟩ := (hclosed attr).mp h
      have hbyte : (UInt8.ofNat (nlriLength rule)).toNat = nlriLength rule := by
        rw [UInt8.toNat_ofNat', Nat.mod_eq_of_lt (by omega)]
      refine ⟨⟨mpPreamble addPreamble rule, .ofNat (nlriLength rule), rfl, mpPreamble_length _ _,
        ?_, ?_⟩, ?_⟩
      · rw [hbyte, nlriBytes_length]
      · rw [UInt8.lt_iff_toNat_lt, hbyte]
        exact hlt
      · intro hp
        refine ⟨.ofNat (5 + 1 + nlriLength rule), ?_, ?_⟩
        · rw [hp]
          rfl
        · rw [hp, UInt8.toNat_ofNat', Nat.mod_eq_of_lt (by omega), List.length_drop,
            List.length_append, List.length_cons, mpPreamble_length, nlriBytes_length, if_pos rfl]
          omega
    · intro hlarge
      rcases henc : encodeBgpFlowSpecElementsIntoBgpMpAttribute behind rule addPreamble with
        - | attr
      · rfl
      · exact absurd (hsmall attr henc) (by omega)

/-- A rule for a hundred destination ports. -/
def hundredPorts : FlowSpecRule :=
  { destinationPorts := List.replicate 100 80 }

/-- **A hundred ports are announced with a wrong length.**  They need 301
bytes, and the attribute says 45. -/
theorem hundredPorts_not_honest : ¬ ∀ (behind : ℕ → UInt8) (rule : FlowSpecRule)
    (addPreamble : Bool), HonestLengths behind rule addPreamble := by
  intro h
  have hmine := (h (fun _ => 0) hundredPorts true).2 (by decide)
  have hsome := (encodeBgpFlowSpecElementsIntoBgpMpAttribute_eq_some_iff (fun _ => 0)
    hundredPorts true _).mpr ⟨by decide, rfl⟩
  rw [hmine] at hsome
  exact absurd hsome (by simp)

end FastNetMon
