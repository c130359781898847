/-
FastNetMon/NlriRoundTrip.lean

Decoding what the encoder wrote.

The encoding of a rule is the bytes of a sequence of components
(`ruleComponents`): one for each prefix that is used and one for each list that
is not empty.  They are well-formed if prefixes have at most 32 bits and lists
at most a hundred elements, so the decoder accepts them, and their effect on an
empty rule gives the matching part back (`decodedRule`), with masked addresses.
-/
import FastNetMon.NlriEncode
import FastNetMon.NlriSafety

namespace FastNetMon

open Memory

/-! ### Lists as elements -/

/-- The element that the reader makes of an encoded value. -/
abbrev ItemElement (α : Type) := α → Bool → FlowSpecEnumerableElement

/-- The element of a protocol, in one byte. -/
def protocolElement : ItemElement IpProtocol := fun protocol last =>
  { oneByteValue := protocol.asNumber, twoByteValue := protocol.asNumber.toUInt16, valueLength := 1,
    operatorByte := { equal := true, endOfList := last } }

/-- The element of a port or a packet length, in two bytes. -/
def twoByteElement : ItemElement UInt16 := fun value last =>
  { twoByteValue := value, operatorByte := { bitShiftLen := 1, equal := true, endOfList := last } }

/-- The element of a byte of flags; the match bit is read as the equal bit. -/
def flagsElement {α : Type} (toByte : α → UInt8) (setMatchBit : Bool) : ItemElement α :=
  fun flags last =>
    { oneByteValue := toByte flags, twoByteValue := (toByte flags).toUInt16, valueLength := 1,
      operatorByte := { equal := setMatchBit, endOfList := last } }

/-- The elements of an encoded list. -/
def elementsOf {α : Type} (element : ItemElement α) : List α → List FlowSpecEnumerableElement
  | [] => []
  | x :: xs => element x xs.isEmpty :: elementsOf element xs

/-- What an encoder of values and an element have in common. -/
structure Matches {α : Type} (encode : ItemEncoder α) (element : ItemElement α) : Prop where
  wellFormed : ∀ x last, (element x last).WellFormed
  endOfList : ∀ x last, (element x last).operatorByte.endOfList = last
  bytes : ∀ x last, (encode x last).flatten = (element x last).bytes

/-- Protocols are encoded as the elements they are read as. -/
theorem matches_protocol : Matches encodeProtocol protocolElement where
  wellFormed _ _ := ⟨rfl, rfl, rfl, .inl ⟨rfl, rfl, rfl⟩⟩
  endOfList _ _ := rfl
  bytes _ _ := rfl

/-- So are values of two bytes, as ports and lengths are. -/
theorem matches_twoByteValue : Matches encodeTwoByteValue twoByteElement where
  wellFormed _ _ := ⟨rfl, rfl, rfl, .inr ⟨rfl, rfl, rfl⟩⟩
  endOfList _ _ := rfl
  bytes value last := by
    have htwo : (twoByteElement value last).operatorByte.getValueLength = 2 := rfl
    rw [FlowSpecEnumerableElement.bytes, htwo, if_neg (by decide)]
    exact congrArg _ (bytes16_byteSwap16 value)

/-- So are TCP flags. -/
theorem matches_tcpFlags (setMatchBit : Bool) :
    Matches (encodeTcpFlags setMatchBit) (flagsElement returnInOneByteEncoding setMatchBit) where
  wellFormed _ _ := ⟨rfl, rfl, rfl, .inl ⟨rfl, rfl, rfl⟩⟩
  endOfList _ _ := rfl
  bytes _ _ := rfl

/-- So are fragmentation flags. -/
theorem matches_fragmentation (setMatchBit : Bool) :
    Matches (encodeFragmentation setMatchBit) (flagsElement fragmentationEntity setMatchBit) where
  wellFormed _ _ := ⟨rfl, rfl, rfl, .inl ⟨rfl, rfl, rfl⟩⟩
  endOfList _ _ := rfl
  bytes _ _ := rfl

variable {α : Type} {encode : ItemEncoder α} {element : ItemElement α}

/-- The loop writes the bytes of the elements. -/
theorem Matches.itemsBytes (h : Matches encode element) (xs : List α) :
    itemsBytes (elementsOf element xs) = (listPieces encode xs).flatten := by
  induction xs with
  | nil => rfl
  | cons x xs ih => rw [elementsOf, itemsBytes_cons, ih, listPieces, List.flatten_append, h.bytes]

/-- A list that is not too long has the shape that the reader accepts. -/
theorem Matches.listShape (h : Matches encode element) {xs : List α} {passes : ℕ}
    (hne : xs ≠ []) (hlen : xs.length ≤ passes) : ListShape passes (elementsOf element xs) := by
  induction xs generalizing passes with
  | nil => exact absurd rfl hne
  | cons x xs ih =>
    obtain ⟨passes, rfl⟩ : ∃ n, passes = n + 1 := by
      rw [List.length_cons] at hlen
      exact ⟨passes - 1, by omega⟩
    refine ⟨h.wellFormed x _, ?_⟩
    rw [h.endOfList]
    cases xs with
    | nil => rfl
    | cons y ys => exact ih (by simp) (by simpa using hlen)

/-- The values of the elements. -/
theorem map_elementsOf {β : Type} (f : FlowSpecEnumerableElement → β) (g : α → β)
    (hfg : ∀ x last, f (element x last) = g x) (xs : List α) :
    (elementsOf element xs).map f = xs.map g := by
  induction xs with
  | nil => rfl
  | cons x xs ih => rw [elementsOf, List.map_cons, List.map_cons, hfg, ih]

/-! ### Rules as components -/

/-- The component of a list: none if the list is empty. -/
def listComponent (kind : ListKind) (element : ItemElement α) (xs : List α) :
    List WireComponent :=
  if xs.length > 0 then [.list kind (elementsOf element xs)] else []

/-- The address bytes of an encoded prefix. -/
def addressBytes (subnet : SubnetCidrMask) : ByteString :=
  (bytes32 (subnet.subnetAddress &&& convertCidrToBinaryNetmask subnet.cidrPrefixLength)).take
    (prefixByteLength subnet.cidrPrefixLength.toNat)

/-- The components of a rule. -/
def ruleComponents (rule : FlowSpecRule) : List WireComponent :=
  (if rule.destinationSubnetIpv4Used then
      [.destinationPrefix rule.destinationSubnetIpv4.cidrPrefixLength.toUInt8
        (addressBytes rule.destinationSubnetIpv4)] else [])
    ++ (if rule.sourceSubnetIpv4Used then
      [.sourcePrefix rule.sourceSubnetIpv4.cidrPrefixLength.toUInt8
        (addressBytes rule.sourceSubnetIpv4)] else [])
    ++ listComponent .ipProtocol protocolElement rule.protocols
    ++ listComponent .destinationPort twoByteElement rule.destinationPorts
    ++ listComponent .sourcePort twoByteElement rule.sourcePorts
    ++ listComponent .tcpFlags (flagsElement returnInOneByteEncoding rule.setMatchBitForTcpFlags)
        rule.tcpFlags
    ++ listComponent .packetLength twoByteElement rule.packetLengths
    ++ listComponent .fragment
        (flagsElement fragmentationEntity rule.setMatchBitForFragmentationFlags)
        rule.fragmentationFlags

/-- Components are encoded one after the other. -/
theorem componentsBytes_append (ws ws' : List WireComponent) :
    componentsBytes (ws ++ ws') = componentsBytes ws ++ componentsBytes ws' :=
  List.flatMap_append

/-- A list is encoded as its one component, or as nothing if it is empty. -/
theorem Matches.componentBytes (h : Matches encode element) (kind : ListKind) (xs : List α) :
    componentsBytes (listComponent kind element xs) = componentBytes kind.entity encode xs := by
  rw [listComponent, FastNetMon.componentBytes, componentPieces]
  split
  · rw [componentsBytes_cons, componentsBytes_nil, List.append_nil, WireComponent.bytes,
      WireComponent.body, h.itemsBytes]
    rfl
  · rfl

/-- A prefix of at most 32 bits. -/
def FitsIpv4 (subnet : SubnetCidrMask) : Prop := subnet.cidrPrefixLength ≤ 32

variable {subnet : SubnetCidrMask}

theorem FitsIpv4.toNat_le (h : FitsIpv4 subnet) : subnet.cidrPrefixLength.toNat ≤ 32 :=
  UInt32.le_iff_toNat_le.mp h

/-- A prefix length that fits loses nothing in its byte. -/
theorem FitsIpv4.toUInt8_toNat (h : FitsIpv4 subnet) :
    subnet.cidrPrefixLength.toUInt8.toNat = subnet.cidrPrefixLength.toNat := by
  have := h.toNat_le
  rw [UInt32.toNat_toUInt8, Nat.mod_eq_of_lt (by omega)]

theorem FitsIpv4.toUInt8_toUInt32 (h : FitsIpv4 subnet) :
    subnet.cidrPrefixLength.toUInt8.toUInt32 = subnet.cidrPrefixLength := by
  apply UInt32.toNat_inj.mp
  rw [UInt8.toNat_toUInt32, h.toUInt8_toNat]

/-- The bytes of a prefix that fits do not depend on what stands behind the
address. -/
theorem FitsIpv4.bytesAt (h : FitsIpv4 subnet) (behind : ℕ → UInt8) :
    bytesAt behind (subnet.subnetAddress &&& convertCidrToBinaryNetmask subnet.cidrPrefixLength)
      (prefixByteLength subnet.cidrPrefixLength.toNat) = addressBytes subnet :=
  bytesAt_of_le_four behind _ (prefixByteLength_le_four h.toNat_le)

/-- The address bytes give the masked prefix back. -/
theorem FitsIpv4.subnetOfBytes (h : FitsIpv4 subnet) :
    subnetOfBytes subnet.cidrPrefixLength.toUInt8 (addressBytes subnet)
      = ⟨subnet.subnetAddress &&& convertCidrToBinaryNetmask subnet.cidrPrefixLength,
          subnet.cidrPrefixLength⟩ := by
  have hbyte : ∀ i, i < 4 → (addressBytes subnet).getD i 0 = byteOf32
      (subnet.subnetAddress &&& convertCidrToBinaryNetmask subnet.cidrPrefixLength) i := by
    intro i hi
    rw [addressBytes, List.getD_eq_getElem?_getD, List.getElem?_take]
    split
    · interval_cases i <;> rfl
    · rename_i hge
      rw [byteOf32_and, byteOf32_netmask_eq_zero h hi (by omega), UInt8.and_zero]
      rfl
  rw [FastNetMon.subnetOfBytes, hbyte 0 (by omega), hbyte 1 (by omega), hbyte 2 (by omega),
    hbyte 3 (by omega), ofBytes32_bytes, h.toUInt8_toUInt32, UInt32.and_assoc, UInt32.and_self]

/-! ### The round trip -/

/-- The conditions on a rule: prefixes of at most 32 bits, lists of at most a
hundred elements. -/
structure WithinLimits (rule : FlowSpecRule) : Prop where
  destination : rule.destinationSubnetIpv4Used → FitsIpv4 rule.destinationSubnetIpv4
  source : rule.sourceSubnetIpv4Used → FitsIpv4 rule.sourceSubnetIpv4
  protocols : rule.protocols.length ≤ 100
  destinationPorts : rule.destinationPorts.length ≤ 100
  sourcePorts : rule.sourcePorts.length ≤ 100
  tcpFlags : rule.tcpFlags.length ≤ 100
  packetLengths : rule.packetLengths.length ≤ 100
  fragmentationFlags : rule.fragmentationFlags.length ≤ 100

/-- A prefix with the address bits behind its length cleared. -/
def SubnetCidrMask.masked (subnet : SubnetCidrMask) : SubnetCidrMask :=
  { subnet with
    subnetAddress := subnet.subnetAddress &&& convertCidrToBinaryNetmask subnet.cidrPrefixLength }

/-- The matching part of a rule as the decoder gives it back: the prefixes that
are used, masked, and the lists. -/
def decodedRule (rule : FlowSpecRule) : FlowSpecRule where
  destinationSubnetIpv4Used := rule.destinationSubnetIpv4Used
  destinationSubnetIpv4 :=
    if rule.destinationSubnetIpv4Used then rule.destinationSubnetIpv4.masked else {}
  sourceSubnetIpv4Used := rule.sourceSubnetIpv4Used
  sourceSubnetIpv4 := if rule.sourceSubnetIpv4Used then rule.sourceSubnetIpv4.masked else {}
  protocols := rule.protocols
  destinationPorts := rule.destinationPorts
  sourcePorts := rule.sourcePorts
  tcpFlags := rule.tcpFlags
  packetLengths := rule.packetLengths
  fragmentationFlags := rule.fragmentationFlags

variable {rule : FlowSpecRule}

/-- The encoding of a rule is the bytes of its components. -/
theorem componentsBytes_ruleComponents (behind : ℕ → UInt8) (h : WithinLimits rule) :
    componentsBytes (ruleComponents rule) = nlriBytes behind rule := by
  have hdestination : componentsBytes (if rule.destinationSubnetIpv4Used then
      [.destinationPrefix rule.destinationSubnetIpv4.cidrPrefixLength.toUInt8
        (addressBytes rule.destinationSubnetIpv4)] else [])
      = prefixBytes behind .destinationPrefix rule.destinationSubnetIpv4Used
          rule.destinationSubnetIpv4 := by
    rw [prefixBytes]
    split
    · rename_i hused
      rw [(h.destination hused).bytesAt]
      simp [WireComponent.bytes, WireComponent.body, WireComponent.type]
    · rfl
  have hsource : componentsBytes (if rule.sourceSubnetIpv4Used then
      [.sourcePrefix rule.sourceSubnetIpv4.cidrPrefixLength.toUInt8
        (addressBytes rule.sourceSubnetIpv4)] else [])
      = prefixBytes behind .sourcePrefix rule.sourceSubnetIpv4Used rule.sourceSubnetIpv4 := by
    rw [prefixBytes]
    split
    · rename_i hused
      rw [(h.source hused).bytesAt]
      simp [WireComponent.bytes, WireComponent.body, WireComponent.type]
    · rfl
  simp only [ruleComponents, componentsBytes_append, hdestination, hsource, nlriBytes,
    matches_protocol.componentBytes, matches_twoByteValue.componentBytes,
    (matches_tcpFlags _).componentBytes, (matches_fragmentation _).componentBytes]
  rfl

/-- The address takes the bytes that its prefix length needs. -/
theorem addressBytes_length (h : FitsIpv4 subnet) :
    (addressBytes subnet).length = prefixByteLength subnet.cidrPrefixLength.toUInt8.toNat := by
  rw [addressBytes, List.length_take, bytes32_length, h.toUInt8_toNat]
  exact min_eq_left (prefixByteLength_le_four h.toNat_le)

theorem FitsIpv4.toUInt8_le (h : FitsIpv4 subnet) : subnet.cidrPrefixLength.toUInt8 ≤ 32 := by
  rw [UInt8.le_iff_toNat_le, h.toUInt8_toNat]
  exact h.toNat_le

/-- A list of at most 100 values is a well formed component. -/
theorem Matches.listComponent_wellFormed (h : Matches encode element) {kind : ListKind}
    {xs : List α} (hlen : xs.length ≤ 100) :
    ∀ w ∈ listComponent kind element xs, w.WellFormed := by
  intro w hw
  rw [listComponent] at hw
  split at hw
  · rename_i hpos
    obtain rfl := List.mem_singleton.mp hw
    exact h.listShape (List.length_pos_iff.mp hpos) hlen
  · exact absurd hw (by simp)

/-- The components of a rule are well-formed. -/
theorem ruleComponents_wellFormed (h : WithinLimits rule) :
    ∀ w ∈ ruleComponents rule, w.WellFormed := by
  intro w hw
  simp only [ruleComponents, List.mem_append] at hw
  rcases hw with ((((((hw | hw) | hw) | hw) | hw) | hw) | hw) | hw
  · split at hw
    · rename_i hused
      obtain rfl := List.mem_singleton.mp hw
      exact ⟨(h.destination hused).toUInt8_le, addressBytes_length (h.destination hused)⟩
    · exact absurd hw (by simp)
  · split at hw
    · rename_i hused
      obtain rfl := List.mem_singleton.mp hw
      exact ⟨(h.source hused).toUInt8_le, addressBytes_length (h.source hused)⟩
    · exact absurd hw (by simp)
  · exact matches_protocol.listComponent_wellFormed h.protocols w hw
  · exact matches_twoByteValue.listComponent_wellFormed h.destinationPorts w hw
  · exact matches_twoByteValue.listComponent_wellFormed h.sourcePorts w hw
  · exact (matches_tcpFlags _).listComponent_wellFormed h.tcpFlags w hw
  · exact matches_twoByteValue.listComponent_wellFormed h.packetLengths w hw
  · exact (matches_fragmentation _).listComponent_wellFormed h.fragmentationFlags w hw

/-- Components are applied one after the other. -/
theorem applyAll_append (r : FlowSpecRule) (ws ws' : List WireComponent) :
    applyAll r (ws ++ ws') = applyAll r ws >>= fun r' => applyAll r' ws' :=
  List.foldlM_append

@[simp] theorem applyAll_singleton (r : FlowSpecRule) (w : WireComponent) :
    applyAll r [w] = w.apply r := by
  rw [applyAll, List.foldlM_cons]
  exact bind_pure (w.apply r)

/-- The effect of a list component, from its effect on a list that is not
empty. -/
theorem applyAll_listComponent {kind : ListKind} {xs : List α} {r : FlowSpecRule}
    {f : List α → FlowSpecRule} (hnil : f [] = r)
    (hadd : kind.add r (elementsOf element xs) = .ok (f xs)) :
    applyAll r (listComponent kind element xs) = .ok (f xs) := by
  cases xs with
  | nil => exact congrArg Except.ok hnil.symm
  | cons x xs =>
    rw [listComponent, if_pos (by simp), applyAll_singleton]
    exact hadd

/-- What no element has, no list has. -/
theorem any_elementsOf_eq_false {P : FlowSpecEnumerableElement → Bool}
    (hP : ∀ x last, P (element x last) = false) (xs : List α) :
    (elementsOf element xs).any P = false := by
  induction xs with
  | nil => rfl
  | cons x xs ih => rw [elementsOf, List.any_cons, hP, ih, Bool.or_false]

/-- The protocols are read back behind those of the rule. -/
theorem applyAll_protocols (r : FlowSpecRule) (xs : List IpProtocol) :
    applyAll r (listComponent .ipProtocol protocolElement xs)
      = .ok { r with protocols := r.protocols ++ xs } := by
  refine applyAll_listComponent (f := fun xs => { r with protocols := r.protocols ++ xs })
    (by simp) ?_
  have hbyte : ∀ b : UInt8, ¬ b.toUInt16 > 255 := by
    intro b
    have := b.toNat_lt
    rw [gt_iff_lt, UInt16.lt_iff_toNat_lt, UInt8.toNat_toUInt16]
    simp only [UInt16.reduceToNat]
    omega
  have hmap : (elementsOf protocolElement xs).map
      (fun e => (⟨e.twoByteValue.toUInt8⟩ : IpProtocol)) = xs := by
    rw [map_elementsOf _ id fun p _ => by simp [protocolElement], List.map_id]
  rw [ListKind.add, addProtocols, rejectIf_of_not]
  · rw [ok_bind, hmap]
    rfl
  · rw [any_elementsOf_eq_false fun p last => by simpa [protocolElement] using hbyte p.asNumber]
    exact Bool.false_ne_true

theorem map_twoByteValue_elementsOf (xs : List UInt16) :
    (elementsOf twoByteElement xs).map (·.twoByteValue) = xs := by
  have hvalue : ∀ x last, (twoByteElement x last).twoByteValue = id x := fun _ _ => rfl
  rw [map_elementsOf _ id hvalue, List.map_id]

/-- The destination ports are read back behind those of the rule. -/
theorem applyAll_destinationPorts (r : FlowSpecRule) (xs : List UInt16) :
    applyAll r (listComponent .destinationPort twoByteElement xs)
      = .ok { r with destinationPorts := r.destinationPorts ++ xs } := by
  refine applyAll_listComponent
    (f := fun xs => { r with destinationPorts := r.destinationPorts ++ xs }) (by simp) ?_
  rw [ListKind.add, addDestinationPorts, map_twoByteValue_elementsOf]
  rfl

/-- The source ports are read back behind those of the rule. -/
theorem applyAll_sourcePorts (r : FlowSpecRule) (xs : List UInt16) :
    applyAll r (listComponent .sourcePort twoByteElement xs)
      = .ok { r with sourcePorts := r.sourcePorts ++ xs } := by
  refine applyAll_listComponent
    (f := fun xs => { r with sourcePorts := r.sourcePorts ++ xs }) (by simp) ?_
  rw [ListKind.add, addSourcePorts, map_twoByteValue_elementsOf]
  rfl

/-- The packet lengths are read back behind those of the rule. -/
theorem applyAll_packetLengths (r : FlowSpecRule) (xs : List UInt16) :
    applyAll r (listComponent .packetLength twoByteElement xs)
      = .ok { r with packetLengths := r.packetLengths ++ xs } := by
  refine applyAll_listComponent
    (f := fun xs => { r with packetLengths := r.packetLengths ++ xs }) (by simp) ?_
  rw [ListKind.add, addPacketLengths, map_twoByteValue_elementsOf]
  rfl

/-- The TCP flags are read back, each set having at least one flag. -/
theorem applyAll_tcpFlags (r : FlowSpecRule) (setMatchBit : Bool) (xs : List FlowSpecTcpFlagset)
    (hxs : ∀ flagset ∈ xs, flagset.weHaveLeastOneFlagEnabled = true) :
    applyAll r (listComponent .tcpFlags (flagsElement returnInOneByteEncoding setMatchBit) xs)
      = .ok { r with tcpFlags := r.tcpFlags ++ xs } := by
  refine applyAll_listComponent (f := fun xs => { r with tcpFlags := r.tcpFlags ++ xs })
    (by simp) ?_
  have hmap : (elementsOf (flagsElement returnInOneByteEncoding setMatchBit) xs).map
      (fun e => convertOneByteEncodingToFlowset e.oneByteValue) = xs := by
    rw [map_elementsOf _ id fun flags _ => convertOneByteEncodingToFlowset_return flags, List.map_id]
  rw [ListKind.add, addTcpFlags, rejectIf_of_not]
  · rw [ok_bind, hmap, List.filter_eq_self.mpr hxs]
    rfl
  · rw [any_elementsOf_eq_false fun _ _ => by simp [flagsElement]]
    exact Bool.false_ne_true

/-- The fragmentation flags are read back behind those of the rule. -/
theorem applyAll_fragmentationFlags (r : FlowSpecRule) (setMatchBit : Bool)
    (xs : List FlowSpecFragmentationType) :
    applyAll r (listComponent .fragment (flagsElement fragmentationEntity setMatchBit) xs)
      = .ok { r with fragmentationFlags := r.fragmentationFlags ++ xs } := by
  refine applyAll_listComponent
    (f := fun xs => { r with fragmentationFlags := r.fragmentationFlags ++ xs }) (by simp) ?_
  have hmap : (elementsOf (flagsElement fragmentationEntity setMatchBit) xs).flatMap
      (fun e => fragmentationFlagsOf e.oneByteValue) = xs := by
    rw [List.flatMap_def, map_elementsOf _ (fun flag => [flag])
      fun flag _ => fragmentationFlagsOf_entity flag, ← List.flatMap_def]
    exact List.flatMap_singleton' xs
  rw [ListKind.add, addFragmentationFlags, rejectIf_of_not]
  · rw [ok_bind, hmap]
    rfl
  · rw [any_elementsOf_eq_false fun _ _ => by simp [flagsElement]]
    exact Bool.false_ne_true

/-- The effect of the prefix components on an empty rule. -/
theorem applyAll_prefixes (h : WithinLimits rule) :
    applyAll {} ((if rule.destinationSubnetIpv4Used then
      [.destinationPrefix rule.destinationSubnetIpv4.cidrPrefixLength.toUInt8
        (addressBytes rule.destinationSubnetIpv4)] else [])
    ++ (if rule.sourceSubnetIpv4Used then
      [.sourcePrefix rule.sourceSubnetIpv4.cidrPrefixLength.toUInt8
        (addressBytes rule.sourceSubnetIpv4)] else []))
      = .ok { destinationSubnetIpv4Used := rule.destinationSubnetIpv4Used
              destinationSubnetIpv4 :=
                if rule.destinationSubnetIpv4Used then rule.destinationSubnetIpv4.masked else {}
              sourceSubnetIpv4Used := rule.sourceSubnetIpv4Used
              sourceSubnetIpv4 :=
                if rule.sourceSubnetIpv4Used then rule.sourceSubnetIpv4.masked else {} } := by
  have hdestination := fun hused => (h.destination hused).subnetOfBytes
  have hsource := fun hused => (h.source hused).subnetOfBytes
  rw [applyAll_append]
  cases hd : rule.destinationSubnetIpv4Used <;> cases hs : rule.sourceSubnetIpv4Used
  · rfl
  · simp only [Bool.false_eq_true, if_false, if_true, applyAll_singleton, WireComponent.apply,
      hsource hs]
    rfl
  · simp only [Bool.false_eq_true, if_false, if_true, applyAll_singleton, WireComponent.apply,
      hdestination hd]
    rfl
  · simp only [if_true, applyAll_singleton, WireComponent.apply, hsource hs, hdestination hd]
    rfl

/-- The effect of the components of a rule on an empty rule. -/
theorem applyAll_ruleComponents (h : WithinLimits rule) (hflags : ¬ HasEmptyFlagset rule) :
    applyAll {} (ruleComponents rule) = .ok (decodedRule rule) := by
  have hnonempty : ∀ flagset ∈ rule.tcpFlags, flagset.weHaveLeastOneFlagEnabled = true := by
    intro flagset hmem
    by_contra hno
    exact hflags ⟨flagset, hmem, by simpa using hno⟩
  rw [ruleComponents]
  simp only [applyAll_append _ _ (listComponent _ _ _), applyAll_prefixes h, ok_bind,
    applyAll_protocols, applyAll_destinationPorts, applyAll_sourcePorts,
    applyAll_tcpFlags _ _ _ hnonempty, applyAll_packetLengths, applyAll_fragmentationFlags,
    List.nil_append, decodedRule]

/-- **What the encoder wrote is decoded to the same matching part.** -/
theorem nlri_round_trip (behind : ℕ → UInt8) (rule : FlowSpecRule) (h : WithinLimits rule)
    (nlri : ByteString) (hencode : encodeBgpFlowSpecElementsAsMpNlri behind rule = some nlri) :
    ∃ d, flowSpecDecodeNlriValue (ofBytes nlri) 0 (.ofNat nlri.length) {} = .ok d ∧
      d.position = nlri.length ∧ d.rule = decodedRule rule := by
  obtain ⟨hflags, hlen, rfl⟩ := (encodeBgpFlowSpecElementsAsMpNlri_eq_some_iff behind).mp hencode
  rw [← nlriBytes_length behind] at hlen
  refine ⟨⟨decodedRule rule, (nlriBytes behind rule).length, components 0 (ruleComponents rule)⟩,
    ?_, rfl, rfl⟩
  exact (flowSpecDecodeNlriValue_eq_ok_iff (by omega)).mpr ⟨ruleComponents rule,
    (componentsBytes_ruleComponents behind h).symm, ruleComponents_wellFormed h,
    applyAll_ruleComponents h hflags, rfl, rfl⟩

/-- A rule with every kind of component. -/
def fullRule : FlowSpecRule :=
  { destinationSubnetIpv4 := ⟨0x7f00000a, 12⟩
    destinationSubnetIpv4Used := true
    sourceSubnetIpv4 := ⟨0x01020304, 32⟩
    sourceSubnetIpv4Used := true
    protocols := [.TCP]
    destinationPorts := [80, 443]
    sourcePorts := [53]
    tcpFlags := [{ synFlag := true }, { ackFlag := true, finFlag := true }]
    packetLengths := [777]
    fragmentationFlags := [.isAFragment, .notAFragment]
    setMatchBitForTcpFlags := true }

/-- The round trip of that rule. -/
theorem fullRule_round_trip : WithinLimits fullRule ∧
    ∃ nlri, encodeBgpFlowSpecElementsAsMpNlri (fun _ => 0) fullRule = some nlri ∧
    ∃ d, flowSpecDecodeNlriValue (ofBytes nlri) 0 (.ofNat nlri.length) {} = .ok d ∧
      d.position = nlri.length ∧ d.rule = decodedRule fullRule := by
  have hlimits : WithinLimits fullRule := by
    refine ⟨fun _ => ?_, fun _ => ?_, ?_, ?_, ?_, ?_, ?_, ?_⟩
    · exact (by decide : (12 : UInt32) ≤ 32)
    · exact (by decide : (32 : UInt32) ≤ 32)
    all_goals decide
  have hencode := (encodeBgpFlowSpecElementsAsMpNlri_eq_some_iff fun _ => 0).mpr
    ⟨(by decide : ¬ HasEmptyFlagset fullRule), by decide, rfl⟩
  exact ⟨hlimits, _, hencode, nlri_round_trip (fun _ => 0) fullRule hlimits _ hencode⟩

end FastNetMon
