/-
FastNetMon/NlriGrammar.lean

What the NLRI decoder accepts, as a grammar.

A matching part is a sequence of components; a component is a prefix or a list
of elements, and each has its bytes (`WireComponent.bytes`), its conditions
(`WireComponent.WellFormed`) and its effect on a rule (`WireComponent.apply`).
A list has at most a hundred elements; the end-of-list bit ends it, and only a
list of a hundred may lack it.

Main result: the decoder accepts exactly the bytes of well-formed components,
and it does not go wrong on any others (`decodeComponents_eq_ok_iff`,
`decodeComponents_clean`).  The first is stated for a memory that holds the
bytes at some address, so that it also covers an NLRI inside an attribute.
-/
import FastNetMon.NlriDecode

namespace FastNetMon

open Memory

/-! ### Elements -/

namespace FlowSpecEnumerableElement

/-- The bytes of an element: its operator byte and its value, most significant
byte first. -/
def bytes (e : FlowSpecEnumerableElement) : ByteString :=
  e.operatorByte.toByte ::
    (if e.operatorByte.getValueLength = 1 then [e.oneByteValue] else (bytes16 e.twoByteValue).reverse)

/-- The operator bits that the reader allows, and the fields as it fills them. -/
structure WellFormed (e : FlowSpecEnumerableElement) : Prop where
  lessThan : e.operatorByte.lessThan = false
  greaterThan : e.operatorByte.greaterThan = false
  andBit : e.operatorByte.andBit = false
  value : (e.operatorByte.getValueLength = 1 ∧ e.twoByteValue = e.oneByteValue.toUInt16 ∧
      e.valueLength = 1) ∨
    (e.operatorByte.getValueLength = 2 ∧ e.oneByteValue = 0 ∧ e.valueLength = 0)

instance (e : FlowSpecEnumerableElement) : Decidable e.WellFormed :=
  decidable_of_iff (e.operatorByte.lessThan = false ∧ e.operatorByte.greaterThan = false ∧
    e.operatorByte.andBit = false ∧
    ((e.operatorByte.getValueLength = 1 ∧ e.twoByteValue = e.oneByteValue.toUInt16 ∧
      e.valueLength = 1) ∨
    (e.operatorByte.getValueLength = 2 ∧ e.oneByteValue = 0 ∧ e.valueLength = 0)))
    ⟨fun ⟨h₁, h₂, h₃, h₄⟩ => ⟨h₁, h₂, h₃, h₄⟩, fun ⟨h₁, h₂, h₃, h₄⟩ => ⟨h₁, h₂, h₃, h₄⟩⟩

theorem WellFormed.bytes_length {e : FlowSpecEnumerableElement} (h : e.WellFormed) :
    e.bytes.length = e.size := by
  rw [bytes, size]
  rcases h.value with ⟨hlen, -, -⟩ | ⟨hlen, -, -⟩ <;> simp [hlen]

end FlowSpecEnumerableElement

variable {m : Memory} {packetEnd p : ℕ}

/-- **The elements that one pass of the list reader accepts.** -/
theorem readElement_eq_ok_iff (hp : p ≤ packetEnd) (hfar : packetEnd - p < 2 ^ 64)
    {e : FlowSpecEnumerableElement} :
    readElement m packetEnd p = .ok e ↔
      e.WellFormed ∧ m.Holds p e.bytes ∧ p + e.size ≤ packetEnd := by
  rw [readElement]
  simp only [pointerDifference_of_le hp hfar, bind_eq_ok_iff, rejectIf_eq_ok_iff, read_eq_ok_iff,
    exists_const]
  constructor
  · rintro ⟨-, b, hb, hcompare, hand, hlength, hroom, hread⟩
    have hless : (BgpFlowSpecOperatorByte.ofByte b).lessThan = false ∧
        (BgpFlowSpecOperatorByte.ofByte b).greaterThan = false := by simpa using hcompare
    split at hread
    · rename_i hone
      simp only [bind_eq_ok_iff, read_eq_ok_iff, pure_eq_ok_iff] at hread
      obtain ⟨v, hv, rfl⟩ := hread
      refine ⟨⟨hless.1, hless.2, by simpa using hand, .inl ⟨hone, rfl, rfl⟩⟩, ?_, ?_⟩
      · simpa [FlowSpecEnumerableElement.bytes, hone, Holds] using ⟨hb, hv⟩
      · simp only [FlowSpecEnumerableElement.size]
        omega
    · rename_i hnot
      have htwo : (BgpFlowSpecOperatorByte.ofByte b).getValueLength = 2 := by
        by_contra h
        exact hlength ⟨h, hnot⟩
      simp only [bind_eq_ok_iff, read16_eq_ok_iff, pure_eq_ok_iff] at hread
      obtain ⟨v, hv, rfl⟩ := hread
      refine ⟨⟨hless.1, hless.2, by simpa using hand, .inr ⟨htwo, rfl, rfl⟩⟩, ?_, ?_⟩
      · simpa [FlowSpecEnumerableElement.bytes, htwo, Holds] using ⟨hb, hv⟩
      · simp only [FlowSpecEnumerableElement.size]
        omega
  · obtain ⟨one, two, len, op⟩ := e
    rintro ⟨⟨hless, hgreater, hand, hvalue⟩, hheld, hroom⟩
    simp only [FlowSpecEnumerableElement.bytes, FlowSpecEnumerableElement.size] at *
    refine ⟨by omega, op.toByte, hheld.1, ?_, ?_, ?_, ?_, ?_⟩
    · simp [hless, hgreater]
    · simp [hand]
    · rcases hvalue with ⟨h, -, -⟩ | ⟨h, -, -⟩ <;> simp [h]
    · simp only [BgpFlowSpecOperatorByte.ofByte_toByte]
      omega
    · simp only [BgpFlowSpecOperatorByte.ofByte_toByte]
      rcases hvalue with ⟨h, rfl, rfl⟩ | ⟨h, rfl, rfl⟩
      · rw [if_pos h] at hheld ⊢
        simp only [bind_eq_ok_iff, read_eq_ok_iff, pure_eq_ok_iff]
        exact ⟨one, hheld.2.1, rfl⟩
      · rw [if_neg (by omega)] at hheld ⊢
        simp only [bind_eq_ok_iff, read16_eq_ok_iff, pure_eq_ok_iff]
        refine ⟨byteSwap16 two, ?_, by rw [byteSwap16_byteSwap16]⟩
        rw [bytes16_byteSwap16]
        exact hheld.2

/-- One pass of the list reader stays inside the readable bytes. -/
theorem readElement_clean (hread : m.Readable p packetEnd) (hp : p ≤ packetEnd)
    (hfar : packetEnd - p < 2 ^ 64) : Clean (readElement m packetEnd p) := by
  rw [readElement, pointerDifference_of_le hp hfar]
  refine Clean.bind (clean_rejectIf _) fun _ hroom => ?_
  rw [rejectIf_eq_ok_iff] at hroom
  obtain ⟨b, hb, -⟩ := hread.read le_rfl (by omega)
  rw [hb, ok_bind]
  refine Clean.bind (clean_rejectIf _) fun _ _ => Clean.bind (clean_rejectIf _) fun _ _ =>
    Clean.bind (clean_rejectIf _) fun _ hlength => Clean.bind (clean_rejectIf _) fun _ hvalue => ?_
  rw [rejectIf_eq_ok_iff] at hlength hvalue
  split
  · rename_i hone
    obtain ⟨v, hv, -⟩ := hread.read (p := p + 1) (by omega) (by omega)
    rw [hv]
    exact clean_pure _
  · have htwo : (BgpFlowSpecOperatorByte.ofByte b).getValueLength = 2 := by
      by_contra h
      exact hlength ⟨h, by assumption⟩
    obtain ⟨v, hv⟩ := hread.read16 (p := p + 1) (by omega) (by omega)
    rw [hv]
    exact clean_pure _

/-! ### Lists -/

/-- The lists that the reader accepts in `passes` passes: every element but the
last lacks the end-of-list bit, and the last one has it or is the last pass. -/
def ListShape : ℕ → List FlowSpecEnumerableElement → Prop
  | 0, items => items = []
  | _ + 1, [] => False
  | passes + 1, e :: items =>
      e.WellFormed ∧ if e.operatorByte.endOfList then items = [] else ListShape passes items

/-- The bytes of a list of elements. -/
def itemsBytes (items : List FlowSpecEnumerableElement) : ByteString :=
  items.flatMap FlowSpecEnumerableElement.bytes

@[simp] theorem itemsBytes_nil : itemsBytes [] = [] := rfl

@[simp] theorem itemsBytes_cons (e : FlowSpecEnumerableElement)
    (items : List FlowSpecEnumerableElement) :
    itemsBytes (e :: items) = e.bytes ++ itemsBytes items := rfl

/-- **The lists that the reader accepts.** -/
theorem readElements_eq_ok_iff {passes : ℕ} (hp : p ≤ packetEnd) (hfar : packetEnd - p < 2 ^ 64)
    {items : List FlowSpecEnumerableElement} {stop : ℕ} :
    readElements m packetEnd passes p = .ok (items, stop) ↔
      ListShape passes items ∧ m.Holds p (itemsBytes items) ∧
        stop = p + (itemsBytes items).length ∧ stop ≤ packetEnd := by
  induction passes generalizing p items with
  | zero =>
    simp only [readElements, Except.ok.injEq, Prod.mk.injEq, ListShape]
    constructor
    · rintro ⟨rfl, rfl⟩
      exact ⟨rfl, trivial, rfl, hp⟩
    · rintro ⟨rfl, -, rfl, -⟩
      exact ⟨rfl, rfl⟩
  | succ passes ih =>
    simp only [readElements, bind_eq_ok_iff, readElement_eq_ok_iff hp hfar]
    constructor
    · rintro ⟨e, ⟨hwf, hheld, hroom⟩, hrest⟩
      split at hrest
      · rename_i heol
        obtain ⟨rfl, rfl⟩ := Prod.mk.inj (pure_eq_ok_iff.mp hrest)
        refine ⟨⟨hwf, by rw [if_pos heol]⟩, by simpa using hheld, ?_, hroom⟩
        simp [hwf.bytes_length]
      · rename_i heol
        simp only [bind_eq_ok_iff] at hrest
        obtain ⟨⟨items', stop'⟩, hitems, hpure⟩ := hrest
        obtain ⟨rfl, rfl⟩ : e :: items' = items ∧ stop' = stop := by simpa using hpure
        obtain ⟨hshape, hheld', hstop, hend⟩ := (ih hroom (by omega)).mp hitems
        refine ⟨⟨hwf, by rw [if_neg heol]; exact hshape⟩, ?_, ?_, hend⟩
        · rw [itemsBytes_cons, holds_append, hwf.bytes_length]
          exact ⟨hheld, hheld'⟩
        · rw [itemsBytes_cons, List.length_append, hwf.bytes_length]
          omega
    · rintro ⟨hshape, hheld, hstop, hend⟩
      cases items with
      | nil => exact absurd hshape (by simp [ListShape])
      | cons e items =>
        obtain ⟨hwf, htail⟩ := hshape
        rw [itemsBytes_cons, holds_append, hwf.bytes_length] at hheld
        rw [itemsBytes_cons, List.length_append, hwf.bytes_length] at hstop
        refine ⟨e, ⟨hwf, hheld.1, by omega⟩, ?_⟩
        split
        · rename_i heol
          rw [if_pos heol] at htail
          subst htail
          rw [pure_eq_ok_iff]
          simpa using hstop.symm
        · rename_i heol
          rw [if_neg heol] at htail
          have hitems := (ih (p := p + e.size) (by omega) (by omega)).mpr
            ⟨htail, hheld.2, by omega, hend⟩
          rw [hitems]
          rfl

/-- The list reader stays inside the readable bytes. -/
theorem readElements_clean {passes : ℕ} (hread : m.Readable p packetEnd) (hp : p ≤ packetEnd)
    (hfar : packetEnd - p < 2 ^ 64) : Clean (readElements m packetEnd passes p) := by
  induction passes generalizing p with
  | zero => exact clean_ok _
  | succ passes ih =>
    rw [readElements]
    refine Clean.bind (readElement_clean hread hp hfar) fun e he => ?_
    obtain ⟨-, -, hroom⟩ := (readElement_eq_ok_iff hp hfar).mp he
    split
    · exact clean_pure _
    · exact Clean.bind (ih (hread.mono (by omega) le_rfl) hroom (by omega)) fun _ _ => clean_pure _

/-! ### Prefixes -/

/-- The prefix that the decoder makes of a length byte and the address bytes. -/
def subnetOfBytes (cidr : UInt8) (address : ByteString) : SubnetCidrMask :=
  ⟨ofBytes32 (address.getD 0 0) (address.getD 1 0) (address.getD 2 0) (address.getD 3 0)
    &&& convertCidrToBinaryNetmask cidr.toUInt32, cidr.toUInt32⟩

/-- **The prefixes that the decoder accepts.** -/
theorem decodeBgpSubnetEncodingIpv4_eq_ok_iff {len n : ℕ} {subnet : SubnetCidrMask} :
    decodeBgpSubnetEncodingIpv4 m len p = .ok (subnet, n) ↔
      ∃ (cidr : UInt8) (address : ByteString), cidr ≤ 32 ∧
        address.length = prefixByteLength cidr.toNat ∧ m.Holds p (cidr :: address) ∧
        n = address.length + 1 ∧ n ≤ len ∧ subnet = subnetOfBytes cidr address := by
  rw [decodeBgpSubnetEncodingIpv4]
  simp only [bind_eq_ok_iff, rejectIf_eq_ok_iff, read_eq_ok_iff, exists_const, pure_eq_ok_iff,
    Prod.mk.injEq, gt_iff_lt, UInt8.not_lt, not_lt]
  constructor
  · rintro ⟨-, cidr, hcidr, hle, hlen, address, hcopy, hsubnet, rfl⟩
    obtain ⟨hheld, haddress⟩ := holds_of_readBytes hcopy
    exact ⟨cidr, address, hle, haddress, ⟨hcidr, hheld⟩, by rw [haddress], hlen, hsubnet.symm⟩
  · rintro ⟨cidr, address, hle, haddress, ⟨hcidr, hheld⟩, rfl, hlen, rfl⟩
    refine ⟨by omega, cidr, hcidr, hle, by omega, address, ?_, rfl, by rw [haddress]⟩
    rw [← haddress]
    exact hheld.readBytes

/-- The prefix decoder stays inside the readable bytes. -/
theorem decodeBgpSubnetEncodingIpv4_clean {len : ℕ} (hread : m.Readable p (p + len)) :
    Clean (decodeBgpSubnetEncodingIpv4 m len p) := by
  rw [decodeBgpSubnetEncodingIpv4]
  refine Clean.bind (clean_rejectIf _) fun _ hlen => ?_
  rw [rejectIf_eq_ok_iff] at hlen
  obtain ⟨cidr, hcidr, -⟩ := hread.read le_rfl (by omega)
  rw [hcidr, ok_bind]
  refine Clean.bind (clean_rejectIf _) fun _ _ => Clean.bind (clean_rejectIf _) fun _ hroom => ?_
  rw [rejectIf_eq_ok_iff] at hroom
  obtain ⟨address, haddress⟩ := Readable.readBytes (m := m) (p := p + 1)
    (n := prefixByteLength cidr.toNat) (hread.mono (by omega) (by omega))
  rw [haddress]
  exact clean_pure _

/-! ### Components -/

/-- The list components. -/
inductive ListKind
  | ipProtocol
  | tcpFlags
  | fragment
  | packetLength
  | sourcePort
  | destinationPort
deriving DecidableEq, Repr

/-- The type on the wire. -/
def ListKind.entity : ListKind → FlowSpecEntity
  | ipProtocol => .ipProtocol
  | tcpFlags => .tcpFlags
  | fragment => .fragment
  | packetLength => .packetLength
  | sourcePort => .sourcePort
  | destinationPort => .destinationPort

/-- What the decoder adds to the rule. -/
def ListKind.add :
    ListKind → FlowSpecRule → List FlowSpecEnumerableElement → Except Fault FlowSpecRule
  | ipProtocol => addProtocols
  | tcpFlags => addTcpFlags
  | fragment => addFragmentationFlags
  | packetLength => addPacketLengths
  | sourcePort => addSourcePorts
  | destinationPort => addDestinationPorts

/-- A component of a matching part. -/
inductive WireComponent
  | sourcePrefix (cidr : UInt8) (address : ByteString)
  | destinationPrefix (cidr : UInt8) (address : ByteString)
  | list (kind : ListKind) (items : List FlowSpecEnumerableElement)
deriving DecidableEq, Repr

namespace WireComponent

/-- The type byte of a component. -/
def type : WireComponent → UInt8
  | sourcePrefix _ _ => FlowSpecEntity.sourcePrefix.toByte
  | destinationPrefix _ _ => FlowSpecEntity.destinationPrefix.toByte
  | list kind _ => kind.entity.toByte

/-- The bytes behind the type. -/
def body : WireComponent → ByteString
  | sourcePrefix cidr address => cidr :: address
  | destinationPrefix cidr address => cidr :: address
  | list _ items => itemsBytes items

/-- The bytes of a component. -/
def bytes (w : WireComponent) : ByteString := w.type :: w.body

/-- The elements of a list component. -/
def items? : WireComponent → Option (List FlowSpecEnumerableElement)
  | list _ items => some items
  | _ => none

/-- The conditions on a component by itself. -/
def WellFormed : WireComponent → Prop
  | sourcePrefix cidr address => cidr ≤ 32 ∧ address.length = prefixByteLength cidr.toNat
  | destinationPrefix cidr address => cidr ≤ 32 ∧ address.length = prefixByteLength cidr.toNat
  | list _ items => ListShape 100 items

/-- The effect of a component on a rule; a second prefix of the same kind and
values that a list does not support are turned down. -/
def apply (rule : FlowSpecRule) : WireComponent → Except Fault FlowSpecRule
  | sourcePrefix cidr address => do
      rejectIf rule.sourceSubnetIpv4Used
      return rule.setSourceSubnetIpv4 (subnetOfBytes cidr address)
  | destinationPrefix cidr address => do
      rejectIf rule.destinationSubnetIpv4Used
      return rule.setDestinationSubnetIpv4 (subnetOfBytes cidr address)
  | list kind items => kind.add rule items

/-- What the decoder notes about a component at address `p`. -/
def component (p : ℕ) (w : WireComponent) : NlriComponent :=
  { type := w.type, start := p, stop := p + 1 + w.body.length, items := w.items? }

@[simp] theorem bytes_length (w : WireComponent) : w.bytes.length = 1 + w.body.length := by
  rw [bytes, List.length_cons, add_comm]

end WireComponent

/-! ### The decoder against the grammar -/

theorem decodeListComponent_eq_ok_iff {rule rule' : FlowSpecRule} {type : UInt8}
    {add : FlowSpecRule → List FlowSpecEnumerableElement → Except Fault FlowSpecRule}
    {c : NlriComponent} (hp : p < packetEnd) (hfar : packetEnd - p < 2 ^ 32) :
    decodeListComponent m packetEnd rule p type add = .ok (rule', c) ↔
      ∃ items, ListShape 100 items ∧ m.Holds (p + 1) (itemsBytes items) ∧
        p + 1 + (itemsBytes items).length ≤ packetEnd ∧ add rule items = .ok rule' ∧
        c = { type, start := p, stop := p + 1 + (itemsBytes items).length,
              items := some items } := by
  simp only [decodeListComponent, bind_eq_ok_iff, Prod.exists, pure_eq_ok_iff, Prod.mk.injEq]
  constructor
  · rintro ⟨items, stop, hread, r, hadd, rfl, rfl⟩
    obtain ⟨hshape, hheld, rfl, hend⟩ := (readElements_eq_ok_iff hp (by omega)).mp hread
    exact ⟨items, hshape, hheld, hend, hadd, rfl⟩
  · rintro ⟨items, hshape, hheld, hend, hadd, rfl⟩
    exact ⟨items, _, (readElements_eq_ok_iff hp (by omega)).mpr ⟨hshape, hheld, rfl, hend⟩, rule',
      hadd, rfl, rfl⟩

theorem decodePrefixComponent_eq_ok_iff {rule rule' : FlowSpecRule} {type : UInt8}
    {used : FlowSpecRule → Bool} {set : FlowSpecRule → SubnetCidrMask → FlowSpecRule}
    {c : NlriComponent} (hp : p < packetEnd) (hfar : packetEnd - p < 2 ^ 32) :
    decodePrefixComponent m packetEnd rule p type used set = .ok (rule', c) ↔
      ∃ (cidr : UInt8) (address : ByteString), (cidr ≤ 32 ∧
        address.length = prefixByteLength cidr.toNat) ∧ m.Holds (p + 1) (cidr :: address) ∧
        p + 1 + (cidr :: address).length ≤ packetEnd ∧ used rule = false ∧
        set rule (subnetOfBytes cidr address) = rule' ∧
        c = { type, start := p, stop := p + 1 + (cidr :: address).length } := by
  simp only [decodePrefixComponent, bind_eq_ok_iff, Prod.exists, pure_eq_ok_iff, Prod.mk.injEq,
    rejectIf_eq_ok_iff, exists_const, pointerDifference_of_le hp.le (by omega : _ < 2 ^ 64),
    Nat.mod_eq_of_lt hfar, decodeBgpSubnetEncodingIpv4_eq_ok_iff, Bool.not_eq_true]
  constructor
  · rintro ⟨hused, -, subnet, n, ⟨cidr, address, hle, haddress, hheld, rfl, hlen, rfl⟩, hset, rfl⟩
    refine ⟨cidr, address, ⟨hle, haddress⟩, hheld, ?_, hused, hset, rfl⟩
    rw [List.length_cons]
    omega
  · rintro ⟨cidr, address, ⟨hle, haddress⟩, hheld, hend, hused, hset, rfl⟩
    rw [List.length_cons] at hend
    exact ⟨hused, by omega, _, _, ⟨cidr, address, hle, haddress, hheld, rfl, by omega, rfl⟩, hset,
      rfl⟩

/-- **The components that one pass of the decoder accepts.** -/
theorem decodeComponent_eq_ok_iff {rule rule' : FlowSpecRule} {c : NlriComponent}
    (hp : p < packetEnd) (hfar : packetEnd - p < 2 ^ 32) :
    decodeComponent m packetEnd rule p = .ok (rule', c) ↔
      ∃ w : WireComponent, w.WellFormed ∧ m.Holds p w.bytes ∧ p + 1 + w.body.length ≤ packetEnd ∧
        w.apply rule = .ok rule' ∧ c = w.component p := by
  simp only [decodeComponent, bind_eq_ok_iff, read_eq_ok_iff]
  constructor
  · rintro ⟨b, hb, hdecode⟩
    have hlist : ∀ kind : ListKind, b = kind.entity.toByte →
        decodeListComponent m packetEnd rule p b kind.add = .ok (rule', c) →
        ∃ w : WireComponent, w.WellFormed ∧ m.Holds p w.bytes ∧
          p + 1 + w.body.length ≤ packetEnd ∧ w.apply rule = .ok rule' ∧ c = w.component p := by
      rintro kind rfl h
      obtain ⟨items, hshape, hheld, hend, hadd, rfl⟩ :=
        (decodeListComponent_eq_ok_iff hp hfar).mp h
      exact ⟨.list kind items, hshape, ⟨hb, hheld⟩, hend, hadd, rfl⟩
    split at hdecode
    · rename_i htype
      subst htype
      obtain ⟨cidr, address, hwf, hheld, hend, hused, rfl, rfl⟩ :=
        (decodePrefixComponent_eq_ok_iff hp hfar).mp hdecode
      refine ⟨.sourcePrefix cidr address, hwf, ⟨hb, hheld⟩, hend, ?_, rfl⟩
      rw [WireComponent.apply, rejectIf_of_not (by simp [hused])]
      rfl
    split at hdecode
    · rename_i htype
      subst htype
      obtain ⟨cidr, address, hwf, hheld, hend, hused, rfl, rfl⟩ :=
        (decodePrefixComponent_eq_ok_iff hp hfar).mp hdecode
      refine ⟨.destinationPrefix cidr address, hwf, ⟨hb, hheld⟩, hend, ?_, rfl⟩
      rw [WireComponent.apply, rejectIf_of_not (by simp [hused])]
      rfl
    split at hdecode
    · exact absurd hdecode (by simp [throw, throwThe, MonadExceptOf.throw])
    split at hdecode
    · exact hlist .ipProtocol (by assumption) hdecode
    split at hdecode
    · exact hlist .tcpFlags (by assumption) hdecode
    split at hdecode
    · exact hlist .fragment (by assumption) hdecode
    split at hdecode
    · exact hlist .packetLength (by assumption) hdecode
    split at hdecode
    · exact hlist .sourcePort (by assumption) hdecode
    split at hdecode
    · exact hlist .destinationPort (by assumption) hdecode
    · exact absurd hdecode (by simp [throw, throwThe, MonadExceptOf.throw])
  · rintro ⟨w, hwf, ⟨htype, hheld⟩, hend, happly, rfl⟩
    refine ⟨w.type, htype, ?_⟩
    cases w with
    | sourcePrefix cidr address =>
      simp only [WireComponent.apply, bind_eq_ok_iff, rejectIf_eq_ok_iff, exists_const,
        pure_eq_ok_iff, Bool.not_eq_true] at happly
      exact (decodePrefixComponent_eq_ok_iff hp hfar).mpr
        ⟨cidr, address, hwf, hheld, hend, happly.1, happly.2, rfl⟩
    | destinationPrefix cidr address =>
      simp only [WireComponent.apply, bind_eq_ok_iff, rejectIf_eq_ok_iff, exists_const,
        pure_eq_ok_iff, Bool.not_eq_true] at happly
      exact (decodePrefixComponent_eq_ok_iff hp hfar).mpr
        ⟨cidr, address, hwf, hheld, hend, happly.1, happly.2, rfl⟩
    | list kind items =>
      have hdecode : decodeListComponent m packetEnd rule p kind.entity.toByte kind.add
          = .ok (rule', (WireComponent.list kind items).component p) :=
        (decodeListComponent_eq_ok_iff hp hfar).mpr ⟨items, hwf, hheld, hend, happly, rfl⟩
      cases kind <;> exact hdecode

/-! ### Cleanness -/

theorem ListKind.add_clean (kind : ListKind) (rule : FlowSpecRule)
    (items : List FlowSpecEnumerableElement) : Clean (kind.add rule items) := by
  cases kind with
  | ipProtocol => exact Clean.bind (clean_rejectIf _) fun _ _ => clean_pure _
  | tcpFlags => exact Clean.bind (clean_rejectIf _) fun _ _ => clean_pure _
  | fragment => exact Clean.bind (clean_rejectIf _) fun _ _ => clean_pure _
  | packetLength => exact clean_pure _
  | sourcePort => exact clean_pure _
  | destinationPort => exact clean_pure _

/-- One pass of the decoder stays inside the readable bytes. -/
theorem decodeComponent_clean {rule : FlowSpecRule} (hread : m.Readable p packetEnd)
    (hp : p < packetEnd) (hfar : packetEnd - p < 2 ^ 32) :
    Clean (decodeComponent m packetEnd rule p) := by
  have hlist : ∀ (kind : ListKind) (type : UInt8),
      Clean (decodeListComponent m packetEnd rule p type kind.add) := by
    intro kind type
    refine Clean.bind (readElements_clean (hread.mono (by omega) le_rfl) hp (by omega))
      fun r _ => Clean.bind (kind.add_clean _ _) fun _ _ => clean_pure _
  have hprefix : ∀ (type : UInt8) (used : FlowSpecRule → Bool)
      (set : FlowSpecRule → SubnetCidrMask → FlowSpecRule),
      Clean (decodePrefixComponent m packetEnd rule p type used set) := by
    intro type used set
    rw [decodePrefixComponent, pointerDifference_of_le hp.le (by omega), Nat.mod_eq_of_lt hfar]
    refine Clean.bind (clean_rejectIf _) fun _ _ => Clean.bind (clean_rejectIf _) fun _ _ =>
      Clean.bind (decodeBgpSubnetEncodingIpv4_clean (hread.mono (by omega) (by omega)))
        fun _ _ => clean_pure _
  obtain ⟨b, hb, -⟩ := hread.read le_rfl hp
  rw [decodeComponent, hb, ok_bind]
  split
  · exact hprefix _ _ _
  split
  · exact hprefix _ _ _
  split
  · exact clean_rejected
  split
  · exact hlist .ipProtocol _
  split
  · exact hlist .tcpFlags _
  split
  · exact hlist .fragment _
  split
  · exact hlist .packetLength _
  split
  · exact hlist .sourcePort _
  split
  · exact hlist .destinationPort _
  · exact clean_rejected

/-! ### Whole matching parts -/

/-- The bytes of a sequence of components. -/
def componentsBytes (ws : List WireComponent) : ByteString := ws.flatMap WireComponent.bytes

@[simp] theorem componentsBytes_nil : componentsBytes [] = [] := rfl

@[simp] theorem componentsBytes_cons (w : WireComponent) (ws : List WireComponent) :
    componentsBytes (w :: ws) = w.bytes ++ componentsBytes ws := rfl

/-- The effect of a sequence of components. -/
def applyAll (rule : FlowSpecRule) (ws : List WireComponent) : Except Fault FlowSpecRule :=
  ws.foldlM WireComponent.apply rule

/-- What the decoder notes about components that follow each other from `p` on. -/
def components (p : ℕ) : List WireComponent → List NlriComponent
  | [] => []
  | w :: ws => w.component p :: components (p + w.bytes.length) ws

/-- **What the decoder accepts.**  With enough passes it succeeds exactly on
the bytes of well-formed components that fit together, and stops at the end. -/
theorem decodeComponents_eq_ok_iff {fuel : ℕ} {rule : FlowSpecRule} {d : DecodedNlri}
    (hp : p ≤ packetEnd) (hfar : packetEnd - p < 2 ^ 32) (hfuel : packetEnd - p < fuel) :
    decodeComponents m packetEnd fuel rule p = .ok d ↔
      ∃ ws : List WireComponent, (∀ w ∈ ws, w.WellFormed) ∧ m.Holds p (componentsBytes ws) ∧
        p + (componentsBytes ws).length = packetEnd ∧ applyAll rule ws = .ok d.rule ∧
        d.position = packetEnd ∧ d.components = components p ws := by
  induction fuel generalizing p rule d with
  | zero => omega
  | succ fuel ih =>
    rw [decodeComponents]
    rcases hp.eq_or_lt with rfl | hlt
    · simp only [lt_irrefl, if_false, pure_eq_ok_iff]
      constructor
      · rintro rfl
        exact ⟨[], by simp, trivial, by simp, rfl, rfl, rfl⟩
      · rintro ⟨ws, -, -, hlen, happly, hposition, hcomponents⟩
        obtain rfl : ws = [] := by
          cases ws with
          | nil => rfl
          | cons w ws => simp at hlen
        obtain ⟨r, q, cs⟩ := d
        obtain rfl : rule = r := by simpa [applyAll] using happly
        obtain rfl : q = p := hposition
        obtain rfl : cs = [] := hcomponents
        rfl
    · simp only [hlt, if_true, bind_eq_ok_iff, Prod.exists, pure_eq_ok_iff,
        decodeComponent_eq_ok_iff hlt hfar]
      constructor
      · rintro ⟨rule', c, ⟨w, hwf, hheld, hend, happly, rfl⟩, d', hd', rfl⟩
        obtain ⟨ws, hwfs, hheld', hlen, happly', hposition, hcomponents⟩ :=
          (ih (p := (w.component p).stop) hend (by simp only [WireComponent.component]; omega)
            (by simp only [WireComponent.component]; omega)).mp hd'
        have hstop : (w.component p).stop = p + w.bytes.length := by
          simp only [WireComponent.component, WireComponent.bytes_length]
          omega
        rw [hstop] at hheld' hlen hcomponents
        refine ⟨w :: ws, ?_, ?_, ?_, ?_, hposition, ?_⟩
        · intro w' hw'
          rcases List.mem_cons.mp hw' with rfl | hmem
          · exact hwf
          · exact hwfs w' hmem
        · rw [componentsBytes_cons, holds_append]
          exact ⟨hheld, hheld'⟩
        · rw [componentsBytes_cons, List.length_append]
          omega
        · rw [applyAll, List.foldlM_cons, happly]
          exact happly'
        · simp only [components, hcomponents]
      · rintro ⟨ws, hwfs, hheld, hlen, happly, hposition, hcomponents⟩
        cases ws with
        | nil =>
          simp only [componentsBytes_nil, List.length_nil] at hlen
          omega
        | cons w ws =>
          rw [componentsBytes_cons, holds_append] at hheld
          rw [componentsBytes_cons, List.length_append, WireComponent.bytes_length] at hlen
          rw [applyAll, List.foldlM_cons, bind_eq_ok_iff] at happly
          obtain ⟨rule', hfirst, hrest⟩ := happly
          have hstop : (w.component p).stop = p + w.bytes.length := by
            simp only [WireComponent.component, WireComponent.bytes_length]
            omega
          refine ⟨rule', w.component p, ⟨w, hwfs w (by simp), hheld.1, by omega, hfirst, rfl⟩,
            ⟨d.rule, d.position, components (p + w.bytes.length) ws⟩, ?_, ?_⟩
          · rw [hstop]
            refine (ih (by simp only [WireComponent.bytes_length]; omega)
              (by simp only [WireComponent.bytes_length]; omega)
              (by simp only [WireComponent.bytes_length]; omega)).mpr
              ⟨ws, fun w' hw' => hwfs w' (by simp [hw']), hheld.2, ?_, hrest, hposition, rfl⟩
            rw [WireComponent.bytes_length]
            omega
          · obtain ⟨r, q, cs⟩ := d
            simp only [components] at hcomponents
            simp only [hcomponents]

/-- The decoder stays inside the readable bytes and ends by itself. -/
theorem decodeComponents_clean {fuel : ℕ} {rule : FlowSpecRule}
    (hread : m.Readable p packetEnd) (hp : p ≤ packetEnd) (hfar : packetEnd - p < 2 ^ 32)
    (hfuel : packetEnd - p < fuel) : Clean (decodeComponents m packetEnd fuel rule p) := by
  induction fuel generalizing p rule with
  | zero => omega
  | succ fuel ih =>
    rw [decodeComponents]
    rcases hp.eq_or_lt with rfl | hlt
    · simp
    · rw [if_pos hlt]
      refine Clean.bind (decodeComponent_clean hread hlt hfar) fun r hr => ?_
      obtain ⟨w, -, -, hend, -, hcomponent⟩ := (decodeComponent_eq_ok_iff hlt hfar).mp hr
      have hstop : r.2.stop = p + 1 + w.body.length := by rw [hcomponent]; rfl
      refine Clean.bind (ih (hread.mono (by omega) le_rfl) (by omega) (by omega) (by omega))
        fun _ _ => clean_pure _

end FastNetMon
