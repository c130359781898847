/-
FastNetMon/RouteTarget.lean

Route targets of the configuration (`parse_gobgp_flowspec_redirect_rt`).

A route target is two decimal numbers with a colon between them, of which one at
least fits 16 bits.  That is exactly what can be announced: the community has six
bytes for the two of them, and its first byte says which of the two takes four.
Main result: `route_target_configuration`.
-/
import FastNetMon.WireIdentity

namespace FastNetMon

/-! ### What it accepts -/

/-- The decimal digits of a number. -/
def IsDecimal (s : Text) (n : ℕ) : Prop :=
  s ≠ [] ∧ (∀ c ∈ s, c.isDigit = true) ∧ Nat.ofDigitChars 10 s 0 = n

/-- A text that says a route target. -/
def IsRouteTarget (s : Text) (asn value : ℕ) : Prop :=
  (∃ d₁ d₂, s = d₁ ++ ':' :: d₂ ∧ IsDecimal d₁ asn ∧ IsDecimal d₂ value) ∧
    asn < 2 ^ 32 ∧ value < 2 ^ 32 ∧ (asn ≤ 65535 ∨ value ≤ 65535)

theorem parseUint32Strict_eq_some_iff {s : Text} {n : UInt32} :
    parseUint32Strict s = some n ↔ IsDecimal s n.toNat := by
  rw [parseUint32Strict, IsDecimal]
  constructor
  · intro h
    split at h
    · exact absurd h (by simp)
    rename_i hne
    split at h
    · rename_i hdigits
      obtain ⟨hall, hlt⟩ := hdigits
      rw [← Option.some.inj h, UInt32.toNat_ofNat_of_lt' hlt]
      exact ⟨hne, List.all_eq_true.mp hall, rfl⟩
    · exact absurd h (by simp)
  · rintro ⟨hne, hall, hn⟩
    have hdigits : s.all Char.isDigit ∧ Nat.ofDigitChars 10 s 0 < 2 ^ 32 :=
      ⟨List.all_eq_true.mpr hall, hn ▸ n.toNat_lt⟩
    rw [if_neg hne, if_pos hdigits, hn, UInt32.ofNat_toNat]

theorem findIdx?_front {c : Char} {s t : Text} (h : c ∉ s) :
    (s ++ c :: t).findIdx? (· = c) = some s.length := by
  induction s with
  | nil => simp [List.findIdx?_cons]
  | cons d s ih =>
    have hne : d ≠ c := fun heq => h (heq ▸ List.mem_cons_self)
    have hrest := ih fun hmem => h (List.mem_cons_of_mem d hmem)
    rw [List.cons_append, List.findIdx?_cons, decide_eq_false hne, hrest]
    rfl

/-- A decimal number has no colon in it. -/
theorem IsDecimal.colon_notMem {s : Text} {n : ℕ} (h : IsDecimal s n) : ':' ∉ s := by
  intro hmem
  exact absurd (h.2.1 ':' hmem) (by decide)

theorem drop_front (c : Char) (s t : Text) : (s ++ c :: t).drop (s.length + 1) = t := by
  rw [← List.drop_drop, List.drop_left, List.drop_one, List.tail_cons]

theorem uInt32_le_65535_iff {n : UInt32} : n ≤ 65535 ↔ n.toNat ≤ 65535 := UInt32.le_iff_toNat_le

/-- The parser accepts exactly the route targets. -/
theorem parseRedirectRt_eq_some_iff {s : Text} {asn value : UInt32} :
    parseGobgpFlowspecRedirectRt s = some (asn, value) ↔
      IsRouteTarget s asn.toNat value.toNat := by
  rw [parseGobgpFlowspecRedirectRt, IsRouteTarget]
  constructor
  · intro h
    obtain ⟨separator, hfind, h⟩ := Option.bind_eq_some_iff.mp h
    split at h
    · exact absurd h (by simp)
    obtain ⟨asn', hasn, h⟩ := Option.bind_eq_some_iff.mp h
    obtain ⟨value', hvalue, h⟩ := Option.bind_eq_some_iff.mp h
    split at h
    · rename_i hor
      obtain ⟨rfl, rfl⟩ := Prod.mk.inj (Option.some.inj h)
      have hmem : ':' ∈ s := by
        obtain ⟨hlt, heq, -⟩ := List.findIdx?_eq_some_iff_getElem.mp hfind
        exact of_decide_eq_true heq ▸ List.getElem_mem hlt
      obtain ⟨d₁, d₂, rfl, hnot⟩ := List.eq_append_cons_of_mem hmem
      rw [findIdx?_front hnot] at hfind
      obtain rfl := Option.some.inj hfind
      rw [List.take_left, parseUint32Strict_eq_some_iff] at hasn
      rw [drop_front, parseUint32Strict_eq_some_iff] at hvalue
      exact ⟨⟨d₁, d₂, rfl, hasn, hvalue⟩, asn'.toNat_lt, value'.toNat_lt,
        hor.imp uInt32_le_65535_iff.mp uInt32_le_65535_iff.mp⟩
    · exact absurd h (by simp)
  · rintro ⟨⟨d₁, d₂, rfl, h₁, h₂⟩, -, -, hor⟩
    have hfind := findIdx?_front (t := d₂) h₁.colon_notMem
    have hor' : asn ≤ 65535 ∨ value ≤ 65535 :=
      hor.imp uInt32_le_65535_iff.mpr uInt32_le_65535_iff.mpr
    simp only [hfind, drop_front, h₂.colon_notMem, if_false, List.take_left,
      parseUint32Strict_eq_some_iff.mpr h₁, parseUint32Strict_eq_some_iff.mpr h₂,
      Option.bind_eq_bind, Option.bind_some, if_pos hor']

/-! ### The community -/

/-- The eight bytes of the community of an action. -/
def redirectRtCommunity (action : BgpFlowSpecAction) : ByteString :=
  if action.redirectRtAs ≤ 65535 then
    flowSpecRedirectElement action.redirectRtAs.toUInt16 action.redirectRtValue
  else flowSpecRedirectRtAs4byteElement action.redirectRtAs action.redirectRtValue.toUInt16

/-- The AS and the value that a route target community says: after the two bytes of
the type, two and four bytes or four and two, most significant byte first. -/
def readRouteTarget : ByteString → Option (ℕ × ℕ)
  | [typeHigh, typeLow, b₂, b₃, b₄, b₅, b₆, b₇] =>
      if typeLow ≠ 0x08 then none
      else if typeHigh = 0x80 then
        some (Nat.ofDigits 256 [b₃.toNat, b₂.toNat],
          Nat.ofDigits 256 [b₇.toNat, b₆.toNat, b₅.toNat, b₄.toNat])
      else if typeHigh = 0x82 then
        some (Nat.ofDigits 256 [b₅.toNat, b₄.toNat, b₃.toNat, b₂.toNat],
          Nat.ofDigits 256 [b₇.toNat, b₆.toNat])
      else none
  | _ => none

/-- A pair that the parser accepts. -/
def Configured (asn value : UInt32) : Prop :=
  ∃ s, parseGobgpFlowspecRedirectRt s = some (asn, value)

theorem Configured.fits {asn value : UInt32} (h : Configured asn value) :
    asn ≤ 65535 ∨ value ≤ 65535 := by
  obtain ⟨s, hs⟩ := h
  exact parseGobgpFlowspecRedirectRt_fits hs

/-- Each accepted pair is encoded. -/
theorem encodeRedirectRt_of_configured {action : BgpFlowSpecAction}
    (h : Configured action.redirectRtAs action.redirectRtValue) :
    encodeBgpFlowSpecRedirectRtAsExtendedAttribute action
      = some ([0xC0, 16, 8] ++ redirectRtCommunity action) := by
  simp only [encodeBgpFlowSpecRedirectRtAsExtendedAttribute, redirectRtCommunity]
  split
  · rw [extendedCommunityAttribute_eq (flowSpecRedirectElement_length _ _)]
  · rename_i hbig
    have hvalue : ¬ action.redirectRtValue > 65535 := by
      rw [gt_iff_lt, UInt32.not_lt]
      exact h.fits.resolve_left hbig
    rw [if_neg hvalue, extendedCommunityAttribute_eq (flowSpecRedirectRtAs4byteElement_length _ _)]

theorem readRouteTarget_as2byte (asn : UInt16) (value : UInt32) :
    readRouteTarget (flowSpecRedirectElement asn value) = some (asn.toNat, value.toNat) := by
  have hasn := asn.toNat_lt
  have hvalue := value.toNat_lt
  have hbytes : flowSpecRedirectElement asn value
      = [0x80, 0x08, byteOf16 asn 1, byteOf16 asn 0, byteOf32 value 3, byteOf32 value 2,
        byteOf32 value 1, byteOf32 value 0] := by
    rw [flowSpecRedirectElement, bytes16_byteSwap16, bytes32_byteSwap32]
    rfl
  rw [hbytes, readRouteTarget, if_neg (by decide), if_pos rfl, Option.some.injEq, Prod.mk.injEq]
  simp only [Nat.ofDigits_cons, Nat.ofDigits_nil, toNat_byteOf16, toNat_byteOf32]
  omega

theorem readRouteTarget_as4byte (asn : UInt32) (value : UInt16) :
    readRouteTarget (flowSpecRedirectRtAs4byteElement asn value)
      = some (asn.toNat, value.toNat) := by
  have hasn := asn.toNat_lt
  have hvalue := value.toNat_lt
  have hbytes : flowSpecRedirectRtAs4byteElement asn value
      = [0x82, 0x08, byteOf32 asn 3, byteOf32 asn 2, byteOf32 asn 1, byteOf32 asn 0,
        byteOf16 value 1, byteOf16 value 0] := by
    rw [flowSpecRedirectRtAs4byteElement, bytes16_byteSwap16, bytes32_byteSwap32]
    rfl
  rw [hbytes, readRouteTarget, if_neg (by decide), if_neg (by decide), if_pos rfl,
    Option.some.injEq, Prod.mk.injEq]
  simp only [Nat.ofDigits_cons, Nat.ofDigits_nil, toNat_byteOf16, toNat_byteOf32]
  omega

theorem uInt32_toUInt16_toNat {n : UInt32} (h : n ≤ 65535) : n.toUInt16.toNat = n.toNat := by
  rw [UInt32.toNat_toUInt16, Nat.mod_eq_of_lt]
  have hle := uInt32_le_65535_iff.mp h
  omega

/-- An accepted pair is read back from its community. -/
theorem readRouteTarget_community {action : BgpFlowSpecAction}
    (h : Configured action.redirectRtAs action.redirectRtValue) :
    readRouteTarget (redirectRtCommunity action)
      = some (action.redirectRtAs.toNat, action.redirectRtValue.toNat) := by
  rw [redirectRtCommunity]
  split
  · rename_i hsmall
    rw [readRouteTarget_as2byte, uInt32_toUInt16_toNat hsmall]
  · rename_i hbig
    rw [readRouteTarget_as4byte, uInt32_toUInt16_toNat (h.fits.resolve_left hbig)]

theorem redirectRtCommunity_length (action : BgpFlowSpecAction) :
    (redirectRtCommunity action).length = 8 := by
  rw [redirectRtCommunity]
  split <;> rfl

/-- **Route targets.**  The parser accepts exactly the texts `D1:D2` of two decimal
numbers below 2^32 of which one is at most 65535, and gives these numbers; each pair
that it accepts is encoded, as eight bytes behind the header of the attribute from
which the pair is read back; and so pairs that differ have bytes that differ. -/
theorem route_target_configuration :
    (∀ s asn value, parseGobgpFlowspecRedirectRt s = some (asn, value) ↔
      IsRouteTarget s asn.toNat value.toNat) ∧
    (∀ action : BgpFlowSpecAction, Configured action.redirectRtAs action.redirectRtValue →
      ∃ community, community.length = 8 ∧
        encodeBgpFlowSpecRedirectRtAsExtendedAttribute action
          = some ([0xC0, 16, 8] ++ community) ∧
        readRouteTarget community
          = some (action.redirectRtAs.toNat, action.redirectRtValue.toNat)) ∧
    (∀ action action' : BgpFlowSpecAction,
      Configured action.redirectRtAs action.redirectRtValue →
      Configured action'.redirectRtAs action'.redirectRtValue →
      encodeBgpFlowSpecRedirectRtAsExtendedAttribute action
        = encodeBgpFlowSpecRedirectRtAsExtendedAttribute action' →
      action.redirectRtAs = action'.redirectRtAs ∧
        action.redirectRtValue = action'.redirectRtValue) := by
  refine ⟨fun s asn value => parseRedirectRt_eq_some_iff, ?_, ?_⟩
  · intro action h
    exact ⟨redirectRtCommunity action, redirectRtCommunity_length action,
      encodeRedirectRt_of_configured h, readRouteTarget_community h⟩
  · intro action action' h h' heq
    rw [encodeRedirectRt_of_configured h, encodeRedirectRt_of_configured h',
      Option.some.injEq] at heq
    have hcommunity := List.append_cancel_left heq
    have hread := readRouteTarget_community h
    rw [hcommunity, readRouteTarget_community h', Option.some.injEq, Prod.mk.injEq,
      UInt32.toNat_inj, UInt32.toNat_inj] at hread
    exact ⟨hread.1.symm, hread.2.symm⟩

/-- A route target with a four-byte AS. -/
theorem route_target_65666_666 :
    parseGobgpFlowspecRedirectRt "65666:666".toList = some (65666, 666) ∧
      ∃ community, community.length = 8 ∧
        encodeBgpFlowSpecRedirectRtAsExtendedAttribute
          { redirectRtAs := 65666, redirectRtValue := 666 } = some ([0xC0, 16, 8] ++ community) ∧
        readRouteTarget community = some (65666, 666) :=
  have h : parseGobgpFlowspecRedirectRt "65666:666".toList = some (65666, 666) := by decide
  ⟨h, route_target_configuration.2.1 { redirectRtAs := 65666, redirectRtValue := 666 } ⟨_, h⟩⟩

end FastNetMon
