/-
FastNetMon/NlriSafety.lean

The NLRI decoder on arbitrary bytes.

The decoder ends on every input and reads only the bytes it was given; if it
succeeds, the components it read follow each other from the first byte to the
last.  A list that it accepts ends with the end-of-list bit unless the reader
cut it off after a hundred elements; the rest of the list is then read as the
next components.  Main result: all is well exactly on the bytes that do not hold
such a list in an otherwise acceptable matching part (`decodesSafely_iff`).
-/
import FastNetMon.NlriGrammar

namespace FastNetMon

open Memory

/-! ### The lists that are accepted -/

/-- A list ends with its first element that has the end-of-list bit. -/
def EndsProperly (items : List FlowSpecEnumerableElement) : Prop :=
  ∃ front last, items = front ++ [last] ∧ last.operatorByte.endOfList = true ∧
    ∀ e ∈ front, e.operatorByte.endOfList = false

/-- A list that the reader leaves after a hundred elements. -/
def CutOff (items : List FlowSpecEnumerableElement) : Prop :=
  items.length = 100 ∧ ∀ e ∈ items, e.operatorByte.endOfList = false

/-- An accepted list ends properly or uses up all the passes. -/
theorem ListShape.ends {passes : ℕ} {items : List FlowSpecEnumerableElement}
    (h : ListShape passes items) :
    EndsProperly items ∨
      items.length = passes ∧ ∀ e ∈ items, e.operatorByte.endOfList = false := by
  induction passes generalizing items with
  | zero =>
    obtain rfl : items = [] := h
    exact .inr ⟨rfl, by simp⟩
  | succ passes ih =>
    cases items with
    | nil => exact absurd h (by simp [ListShape])
    | cons e items =>
      obtain ⟨-, htail⟩ := h
      split at htail
      · rename_i heol
        subst htail
        exact .inl ⟨[], e, rfl, heol, by simp⟩
      · rename_i heol
        have heol : e.operatorByte.endOfList = false := by simpa using heol
        rcases ih htail with ⟨front, last, rfl, hlast, hfront⟩ | ⟨hlen, hall⟩
        · exact .inl ⟨e :: front, last, rfl, hlast, by simpa [heol] using hfront⟩
        · exact .inr ⟨by rw [List.length_cons, hlen], by simpa [heol] using hall⟩

theorem CutOff.not_endsProperly {items : List FlowSpecEnumerableElement} (h : CutOff items) :
    ¬ EndsProperly items := by
  rintro ⟨front, last, rfl, hlast, -⟩
  exact absurd hlast (by simp [h.2 last (by simp)])

/-- The same element over and over has the shape that uses up the passes. -/
theorem listShape_replicate {e : FlowSpecEnumerableElement} (hwf : e.WellFormed)
    (heol : e.operatorByte.endOfList = false) (n : ℕ) : ListShape n (List.replicate n e) := by
  induction n with
  | zero => rfl
  | succ n ih =>
    rw [List.replicate_succ, ListShape, heol]
    exact ⟨hwf, ih⟩

/-! ### The components that fit together -/

/-- The values that the rule has room for: protocol numbers below 256, flags in
one byte. -/
def ListKind.Supports : ListKind → List FlowSpecEnumerableElement → Prop
  | ipProtocol, items => ∀ e ∈ items, e.twoByteValue ≤ 255
  | tcpFlags, items => ∀ e ∈ items, e.valueLength = 1
  | fragment, items => ∀ e ∈ items, e.valueLength = 1
  | _, _ => True

namespace WireComponent

/-- The component is a source prefix. -/
def isSourcePrefix : WireComponent → Bool
  | sourcePrefix _ _ => true
  | _ => false

/-- The component is a destination prefix. -/
def isDestinationPrefix : WireComponent → Bool
  | destinationPrefix _ _ => true
  | _ => false

end WireComponent

/-- The components can be added to a rule: no second prefix of a kind, and
supported values. -/
def FitTogether (rule : FlowSpecRule) (ws : List WireComponent) : Prop :=
  rule.sourceSubnetIpv4Used.toNat + ws.countP WireComponent.isSourcePrefix ≤ 1 ∧
  rule.destinationSubnetIpv4Used.toNat + ws.countP WireComponent.isDestinationPrefix ≤ 1 ∧
  ∀ kind items, WireComponent.list kind items ∈ ws → kind.Supports items

theorem ListKind.add_ok_iff (kind : ListKind) (rule : FlowSpecRule)
    (items : List FlowSpecEnumerableElement) :
    (∃ rule', kind.add rule items = .ok rule') ↔ kind.Supports items := by
  cases kind with
  | ipProtocol =>
    simp only [ListKind.add, addProtocols, bind_eq_ok_iff, rejectIf_eq_ok_iff, pure_eq_ok_iff,
      exists_const, exists_and_left, exists_eq', and_true, ListKind.Supports]
    simp
  | tcpFlags =>
    simp only [ListKind.add, addTcpFlags, bind_eq_ok_iff, rejectIf_eq_ok_iff, pure_eq_ok_iff,
      exists_const, exists_and_left, exists_eq', and_true, ListKind.Supports]
    simp
  | fragment =>
    simp only [ListKind.add, addFragmentationFlags, bind_eq_ok_iff, rejectIf_eq_ok_iff,
      pure_eq_ok_iff, exists_const, exists_and_left, exists_eq', and_true, ListKind.Supports]
    simp
  | packetLength => simp [ListKind.add, addPacketLengths, ListKind.Supports]
  | sourcePort => simp [ListKind.add, addSourcePorts, ListKind.Supports]
  | destinationPort => simp [ListKind.add, addDestinationPorts, ListKind.Supports]

/-- Lists leave the prefixes and the action of the rule alone. -/
theorem ListKind.add_frame {kind : ListKind} {rule rule' : FlowSpecRule}
    {items : List FlowSpecEnumerableElement} (h : kind.add rule items = .ok rule') :
    rule'.sourceSubnetIpv4Used = rule.sourceSubnetIpv4Used ∧
      rule'.destinationSubnetIpv4Used = rule.destinationSubnetIpv4Used ∧
      rule'.action = rule.action := by
  cases kind with
  | ipProtocol =>
    simp only [ListKind.add, addProtocols, bind_eq_ok_iff, pure_eq_ok_iff] at h
    obtain ⟨-, -, rfl⟩ := h
    exact ⟨rfl, rfl, rfl⟩
  | tcpFlags =>
    simp only [ListKind.add, addTcpFlags, bind_eq_ok_iff, pure_eq_ok_iff] at h
    obtain ⟨-, -, rfl⟩ := h
    exact ⟨rfl, rfl, rfl⟩
  | fragment =>
    simp only [ListKind.add, addFragmentationFlags, bind_eq_ok_iff, pure_eq_ok_iff] at h
    obtain ⟨-, -, rfl⟩ := h
    exact ⟨rfl, rfl, rfl⟩
  | packetLength =>
    obtain rfl := pure_eq_ok_iff.mp h
    exact ⟨rfl, rfl, rfl⟩
  | sourcePort =>
    obtain rfl := pure_eq_ok_iff.mp h
    exact ⟨rfl, rfl, rfl⟩
  | destinationPort =>
    obtain rfl := pure_eq_ok_iff.mp h
    exact ⟨rfl, rfl, rfl⟩

/-- Components fit together if the first has an effect and the others fit the
rule after it. -/
theorem fitTogether_cons (rule : FlowSpecRule) (w : WireComponent) (ws : List WireComponent) :
    FitTogether rule (w :: ws) ↔ ∃ rule', w.apply rule = .ok rule' ∧ FitTogether rule' ws := by
  cases w with
  | sourcePrefix cidr address =>
    simp only [WireComponent.apply, bind_eq_ok_iff, rejectIf_eq_ok_iff, pure_eq_ok_iff,
      exists_const, FitTogether, List.countP_cons, WireComponent.isSourcePrefix,
      WireComponent.isDestinationPrefix, List.mem_cons, reduceCtorEq, false_or]
    cases hused : rule.sourceSubnetIpv4Used <;>
      simp [FlowSpecRule.setSourceSubnetIpv4, add_comm]
  | destinationPrefix cidr address =>
    simp only [WireComponent.apply, bind_eq_ok_iff, rejectIf_eq_ok_iff, pure_eq_ok_iff,
      exists_const, FitTogether, List.countP_cons, WireComponent.isSourcePrefix,
      WireComponent.isDestinationPrefix, List.mem_cons, reduceCtorEq, false_or]
    cases hused : rule.destinationSubnetIpv4Used <;>
      simp [FlowSpecRule.setDestinationSubnetIpv4, add_comm]
  | list kind items =>
    simp only [FitTogether, List.countP_cons, WireComponent.isSourcePrefix,
      WireComponent.isDestinationPrefix, Bool.false_eq_true, if_false, add_zero, List.mem_cons,
      WireComponent.list.injEq, WireComponent.apply]
    constructor
    · rintro ⟨hsrc, hdst, hall⟩
      obtain ⟨rule', hadd⟩ := (kind.add_ok_iff rule items).mpr (hall kind items (.inl ⟨rfl, rfl⟩))
      obtain ⟨hs, hd, -⟩ := ListKind.add_frame hadd
      exact ⟨rule', hadd, by rwa [hs], by rwa [hd], fun k i h => hall k i (.inr h)⟩
    · rintro ⟨rule', hadd, hsrc, hdst, hall⟩
      obtain ⟨hs, hd, -⟩ := ListKind.add_frame hadd
      refine ⟨by rwa [← hs], by rwa [← hd], ?_⟩
      rintro k i (⟨rfl, rfl⟩ | h)
      · exact (ListKind.add_ok_iff _ rule _).mp ⟨rule', hadd⟩
      · exact hall k i h

/-- **Components have an effect exactly if they fit together.** -/
theorem applyAll_ok_iff (rule : FlowSpecRule) (ws : List WireComponent) :
    (∃ rule', applyAll rule ws = .ok rule') ↔ FitTogether rule ws := by
  induction ws generalizing rule with
  | nil =>
    simp only [applyAll, List.foldlM_nil, pure_eq_ok_iff, exists_eq', FitTogether, List.countP_nil]
    simp [Bool.toNat_le]
  | cons w ws ih =>
    rw [fitTogether_cons]
    simp only [applyAll, List.foldlM_cons, bind_eq_ok_iff] at ih ⊢
    constructor
    · rintro ⟨r, rule', happly, hrest⟩
      exact ⟨rule', happly, (ih rule').mp ⟨r, hrest⟩⟩
    · rintro ⟨rule', happly, hfit⟩
      obtain ⟨r, hrest⟩ := (ih rule').mpr hfit
      exact ⟨r, rule', happly, hrest⟩

/-! ### Safety -/

/-- The components follow each other from `p` to `q`. -/
def Tiles : ℕ → ℕ → List NlriComponent → Prop
  | p, q, [] => p = q
  | p, q, c :: cs => c.start = p ∧ p < c.stop ∧ Tiles c.stop q cs

/-- The decoder on the bytes `data`: it ends without reading outside; if it
succeeds, it has read all of them as components, and each list component stands
in the bytes with its elements and ends properly. -/
def DecodesSafely (data : ByteString) (rule : FlowSpecRule) : Prop :=
  let result := flowSpecDecodeNlriValue (ofBytes data) 0 (.ofNat data.length) rule
  Clean result ∧ ∀ d, result = .ok d → d.position = data.length ∧
    Tiles 0 data.length d.components ∧
    ∀ c ∈ d.components, ∀ items, c.items = some items →
      (ofBytes data).Holds c.start (c.type :: itemsBytes items) ∧
      c.stop = c.start + 1 + (itemsBytes items).length ∧ EndsProperly items

/-- The bytes are those of acceptable components, one of which is a list of a
hundred elements without an end. -/
def HoldsCutOffList (data : ByteString) (rule : FlowSpecRule) : Prop :=
  ∃ ws : List WireComponent, data = componentsBytes ws ∧ (∀ w ∈ ws, w.WellFormed) ∧
    FitTogether rule ws ∧ ∃ kind items, WireComponent.list kind items ∈ ws ∧ CutOff items

/-- Such bytes are at least 201 in number. -/
theorem HoldsCutOffList.length_le {data : ByteString} {rule : FlowSpecRule}
    (h : HoldsCutOffList data rule) : 201 ≤ data.length := by
  obtain ⟨ws, rfl, -, -, kind, items, hmem, hlen, -⟩ := h
  have helement : ∀ e : FlowSpecEnumerableElement, 2 ≤ e.bytes.length := by
    intro e
    rw [FlowSpecEnumerableElement.bytes]
    split <;> simp
  have hitems : 2 * items.length ≤ (itemsBytes items).length := by
    clear hmem hlen
    induction items with
    | nil => simp
    | cons e items ih =>
      have := helement e
      rw [itemsBytes_cons, List.length_append, List.length_cons]
      omega
  have hpart : (WireComponent.list kind items).bytes.length ≤ (componentsBytes ws).length := by
    rw [componentsBytes, List.length_flatMap]
    exact List.single_le_sum (by simp) _ (List.mem_map_of_mem hmem)
  rw [WireComponent.bytes_length, WireComponent.body] at hpart
  omega

theorem tiles_components (ws : List WireComponent) (p : ℕ) :
    Tiles p (p + (componentsBytes ws).length) (components p ws) := by
  induction ws generalizing p with
  | nil => rfl
  | cons w ws ih =>
    refine ⟨rfl, ?_, ?_⟩
    · simp only [WireComponent.component]
      omega
    · have h := ih (p + w.bytes.length)
      rw [componentsBytes_cons, List.length_append, ← add_assoc]
      rw [show (w.component p).stop = p + w.bytes.length by
        simp only [WireComponent.component, WireComponent.bytes_length]; omega]
      exact h

/-- Each note of the decoder is about a component that stands at its address. -/
theorem mem_components {m : Memory} {ws : List WireComponent} {p : ℕ} {c : NlriComponent}
    (hheld : m.Holds p (componentsBytes ws)) (hc : c ∈ components p ws) :
    ∃ w ∈ ws, ∃ q, c = w.component q ∧ m.Holds q w.bytes := by
  induction ws generalizing p with
  | nil => exact absurd hc (by simp [components])
  | cons w ws ih =>
    rw [componentsBytes_cons, holds_append] at hheld
    rw [components, List.mem_cons] at hc
    rcases hc with rfl | hc
    · exact ⟨w, by simp, p, rfl, hheld.1⟩
    · obtain ⟨w', hw', q, hq, hheld'⟩ := ih hheld.2 hc
      exact ⟨w', by simp [hw'], q, hq, hheld'⟩

/-- Each component is noted by the decoder. -/
theorem exists_mem_components {ws : List WireComponent} {w : WireComponent} (hw : w ∈ ws) (p : ℕ) :
    ∃ q, w.component q ∈ components p ws := by
  induction ws generalizing p with
  | nil => exact absurd hw (by simp)
  | cons w' ws ih =>
    rcases List.mem_cons.mp hw with rfl | hw
    · exact ⟨p, by simp [components]⟩
    · obtain ⟨q, hq⟩ := ih hw (p + w'.bytes.length)
      exact ⟨q, List.mem_cons_of_mem _ hq⟩

/-- The decoder on a whole byte string, in terms of the grammar. -/
theorem flowSpecDecodeNlriValue_eq_ok_iff {data : ByteString} (hlen : data.length < 2 ^ 32)
    {rule : FlowSpecRule} {d : DecodedNlri} :
    flowSpecDecodeNlriValue (ofBytes data) 0 (.ofNat data.length) rule = .ok d ↔
      ∃ ws : List WireComponent, data = componentsBytes ws ∧ (∀ w ∈ ws, w.WellFormed) ∧
        applyAll rule ws = .ok d.rule ∧ d.position = data.length ∧
        d.components = components 0 ws := by
  have hnat : (UInt32.ofNat data.length).toNat = data.length := by
    rw [UInt32.toNat_ofNat', Nat.mod_eq_of_lt hlen]
  rw [flowSpecDecodeNlriValue, hnat, Nat.zero_add,
    decodeComponents_eq_ok_iff (Nat.zero_le _) (by omega) (by omega)]
  constructor
  · rintro ⟨ws, hwf, hheld, hlength, happly, hposition, hcomponents⟩
    exact ⟨ws, (eq_of_holds_ofBytes hheld (by omega)).symm, hwf, happly, hposition, hcomponents⟩
  · rintro ⟨ws, rfl, hwf, happly, hposition, hcomponents⟩
    exact ⟨ws, hwf, holds_ofBytes _, by omega, happly, hposition, hcomponents⟩

/-- The decoder ends on every byte string and reads only its bytes. -/
theorem flowSpecDecodeNlriValue_clean {data : ByteString} (hlen : data.length < 2 ^ 32)
    (rule : FlowSpecRule) :
    Clean (flowSpecDecodeNlriValue (ofBytes data) 0 (.ofNat data.length) rule) := by
  have hnat : (UInt32.ofNat data.length).toNat = data.length := by
    rw [UInt32.toNat_ofNat', Nat.mod_eq_of_lt hlen]
  rw [flowSpecDecodeNlriValue, hnat, Nat.zero_add]
  exact decodeComponents_clean (readable_ofBytes data) (Nat.zero_le _) (by omega) (by omega)

/-- **The decoder is safe exactly on the bytes without a list that it cuts
off.** -/
theorem decodesSafely_iff (data : ByteString) (hlen : data.length < 2 ^ 32)
    (rule : FlowSpecRule) : DecodesSafely data rule ↔ ¬ HoldsCutOffList data rule := by
  constructor
  · rintro ⟨-, hsafe⟩ ⟨ws, hdata, hwf, hfit, kind, items, hmem, hcut⟩
    obtain ⟨rule', happly⟩ := (applyAll_ok_iff rule ws).mpr hfit
    obtain ⟨-, -, hlists⟩ := hsafe ⟨rule', data.length, components 0 ws⟩
      ((flowSpecDecodeNlriValue_eq_ok_iff hlen).mpr ⟨ws, hdata, hwf, happly, rfl, rfl⟩)
    obtain ⟨q, hq⟩ := exists_mem_components hmem 0
    exact hcut.not_endsProperly (hlists _ hq items rfl).2.2
  · intro hno
    refine ⟨flowSpecDecodeNlriValue_clean hlen rule, ?_⟩
    intro d hd
    obtain ⟨ws, hdata, hwf, happly, hposition, hcomponents⟩ :=
      (flowSpecDecodeNlriValue_eq_ok_iff hlen).mp hd
    have htiles := tiles_components ws 0
    rw [← hdata, Nat.zero_add, ← hcomponents] at htiles
    refine ⟨hposition, htiles, ?_⟩
    intro c hc items hitems
    rw [hcomponents] at hc
    obtain ⟨w, hw, q, rfl, hheld⟩ := mem_components (m := ofBytes data)
      (by rw [← hdata]; exact holds_ofBytes data) hc
    cases w with
    | sourcePrefix cidr address => exact absurd hitems (by simp [WireComponent.component,
        WireComponent.items?])
    | destinationPrefix cidr address => exact absurd hitems (by simp [WireComponent.component,
        WireComponent.items?])
    | list kind items' =>
      obtain rfl : items' = items := by simpa [WireComponent.component, WireComponent.items?]
        using hitems
      refine ⟨hheld, rfl, ?_⟩
      rcases (hwf _ hw : ListShape 100 items').ends with hends | hcut
      · exact hends
      · exact absurd ⟨ws, hdata, hwf, (applyAll_ok_iff rule ws).mp ⟨_, happly⟩, kind, items', hw,
          hcut⟩ hno

/-- Port 80 in one byte, without the end-of-list bit. -/
def onePort : FlowSpecEnumerableElement :=
  { oneByteValue := 80, twoByteValue := 80, valueLength := 1, operatorByte := { equal := true } }

/-- A list of a hundred ports without an end. -/
def endlessPorts : ByteString := 5 :: (List.replicate 100 [1, 80]).flatten

/-- **A list without an end is accepted.**  The decoder takes the hundred
elements and succeeds. -/
theorem endlessPorts_not_safe : ¬ ∀ (data : ByteString) (rule : FlowSpecRule),
    data.length < 2 ^ 32 → DecodesSafely data rule := by
  intro h
  have hlength : endlessPorts.length < 2 ^ 32 := by
    rw [endlessPorts, List.length_cons, List.length_flatten, List.map_replicate,
      List.sum_replicate]
    norm_num
  have hbytes : endlessPorts
      = componentsBytes [.list .destinationPort (List.replicate 100 onePort)] := by
    rw [componentsBytes_cons, componentsBytes_nil, List.append_nil, WireComponent.bytes,
      WireComponent.body, itemsBytes, List.flatMap_def, List.map_replicate]
    rfl
  refine (decodesSafely_iff endlessPorts hlength {}).mp (h endlessPorts {} hlength) ?_
  refine ⟨[.list .destinationPort (List.replicate 100 onePort)], hbytes, ?_, ?_, .destinationPort,
    List.replicate 100 onePort, by simp, by simp, ?_⟩
  · intro w hw
    obtain rfl := List.mem_singleton.mp hw
    exact listShape_replicate (by decide) rfl 100
  · refine ⟨by decide, by decide, ?_⟩
    intro kind items hmem
    obtain ⟨rfl, rfl⟩ : kind = .destinationPort ∧ items = List.replicate 100 onePort := by
      simpa using hmem
    trivial
  · intro e he
    rw [List.eq_of_mem_replicate he]
    rfl

/-- Two ports, the second with the end-of-list bit, are decoded safely. -/
theorem two_ports_safe :
    [5, 0x01, 80, 0x81, 90].length < 2 ^ 32 ∧ DecodesSafely [5, 0x01, 80, 0x81, 90] {} :=
  ⟨by decide, (decodesSafely_iff [5, 0x01, 80, 0x81, 90] (by decide) {}).mpr
    fun h => absurd h.length_le (by decide)⟩

end FastNetMon
