/-
FastNetMon/NlriTruncated.lean

The NLRI decoder on bytes that are fewer than it was told.

The decoder trusts the number of bytes that its caller gives.  If there are
fewer, it either turns the bytes down because of something it has seen, or it
goes on until it reads behind them.  The second happens exactly on unfinished
matching parts: acceptable components followed by the start of one more
(`UnfinishedNlri`).  Main result: `decodeComponents_eq_outOfBounds_iff`.
-/
import FastNetMon.NlriSafety

namespace FastNetMon

open Memory

/-! ### The start of a component

`room` is the number of bytes that the decoder believes to have from here on. -/

/-- The operators that the list reader goes on with. -/
def BgpFlowSpecOperatorByte.Supported (op : BgpFlowSpecOperatorByte) : Prop :=
  op.lessThan = false ∧ op.greaterThan = false ∧ op.andBit = false ∧
    (op.getValueLength = 1 ∨ op.getValueLength = 2)

/-- Nothing of an element, or its operator and too few bytes of its value. -/
def UnfinishedElement (room : ℕ) (bs : ByteString) : Prop :=
  bs = [] ∨ ∃ (op : BgpFlowSpecOperatorByte) (value : ByteString), bs = op.toByte :: value ∧
    op.Supported ∧ 1 + op.getValueLength ≤ room ∧ value.length < op.getValueLength

/-- Elements that do not end the list, then an unfinished one. -/
def UnfinishedList : (passes room : ℕ) → ByteString → Prop
  | 0, _, _ => False
  | passes + 1, room, bs => UnfinishedElement room bs ∨
      ∃ (e : FlowSpecEnumerableElement) (rest : ByteString), bs = e.bytes ++ rest ∧ e.WellFormed ∧
        e.operatorByte.endOfList = false ∧ UnfinishedList passes (room - e.size) rest

/-- Nothing of a prefix, or its length and too few bytes of its address. -/
def UnfinishedPrefix (room : ℕ) (bs : ByteString) : Prop :=
  bs = [] ∨ ∃ (cidr : UInt8) (address : ByteString), bs = cidr :: address ∧ cidr ≤ 32 ∧
    prefixByteLength cidr.toNat + 1 ≤ room ∧ address.length < prefixByteLength cidr.toNat

/-- Nothing of a component, or its type and an unfinished body. -/
def UnfinishedComponent (rule : FlowSpecRule) (room : ℕ) (bs : ByteString) : Prop :=
  bs = [] ∨ ∃ (type : UInt8) (body : ByteString), bs = type :: body ∧
    (type = FlowSpecEntity.sourcePrefix.toByte ∧ rule.sourceSubnetIpv4Used = false ∧
        UnfinishedPrefix (room - 1) body ∨
      type = FlowSpecEntity.destinationPrefix.toByte ∧ rule.destinationSubnetIpv4Used = false ∧
        UnfinishedPrefix (room - 1) body ∨
      ∃ kind : ListKind, type = kind.entity.toByte ∧ UnfinishedList 100 (room - 1) body)

/-- Acceptable components, then an unfinished one. -/
def UnfinishedNlri (rule : FlowSpecRule) (room : ℕ) (bs : ByteString) : Prop :=
  ∃ (ws : List WireComponent) (rest : ByteString) (rule' : FlowSpecRule),
    bs = componentsBytes ws ++ rest ∧ (∀ w ∈ ws, w.WellFormed) ∧ applyAll rule ws = .ok rule' ∧
    UnfinishedComponent rule' (room - (componentsBytes ws).length) rest

/-! ### The decoder on them -/

variable {m : Memory} {packetEnd p : ℕ} {bs : ByteString}

/-- An element is read past the end exactly if its value is cut short. -/
theorem readElement_eq_outOfBounds_iff (hends : m.Ends p bs) (hroom : p + bs.length < packetEnd)
    (hfar : packetEnd - p < 2 ^ 64) :
    readElement m packetEnd p = .error .outOfBounds ↔ UnfinishedElement (packetEnd - p) bs := by
  rw [readElement, UnfinishedElement]
  simp only [pointerDifference_of_le (by omega : p ≤ packetEnd) hfar, bind_eq_outOfBounds_iff,
    rejectIf_ne_outOfBounds, false_or, rejectIf_eq_ok_iff, exists_const, hends.read_iff,
    read_eq_ok_iff]
  cases bs with
  | nil => simp only [true_or, and_true, iff_true]; omega
  | cons b value =>
    rw [ends_cons] at hends
    obtain ⟨hb, hvalue⟩ := hends
    simp only [reduceCtorEq, false_or, hb, Option.some.injEq, exists_eq_left', List.cons.injEq]
    constructor
    · rintro ⟨-, hcompare, hand, hlength, hspace, hread⟩
      have hless : (BgpFlowSpecOperatorByte.ofByte b).lessThan = false ∧
          (BgpFlowSpecOperatorByte.ofByte b).greaterThan = false := by simpa using hcompare
      refine ⟨.ofByte b, value, ⟨by simp, rfl⟩, ⟨hless.1, hless.2, by simpa using hand, ?_⟩,
        by omega, ?_⟩
      · omega
      · split at hread
        · rename_i hone
          simp only [bind_eq_outOfBounds_iff, hvalue.read_iff, pure_ne_outOfBounds, and_false,
            exists_false, or_false] at hread
          rw [hread, hone]
          decide
        · simp only [bind_eq_outOfBounds_iff, hvalue.read16_iff, pure_ne_outOfBounds, and_false,
            exists_false, or_false] at hread
          omega
    · rintro ⟨op, v, ⟨rfl, rfl⟩, ⟨hless, hgreater, hand, hlength⟩, hspace, hshort⟩
      simp only [BgpFlowSpecOperatorByte.ofByte_toByte]
      refine ⟨by omega, by simp [hless, hgreater], by simp [hand], by omega, by omega, ?_⟩
      rcases hlength with hone | htwo
      · rw [if_pos hone, bind_eq_outOfBounds_iff, hvalue.read_iff]
        exact .inl (List.length_eq_zero_iff.mp (by omega))
      · rw [if_neg (by omega), bind_eq_outOfBounds_iff, hvalue.read16_iff]
        exact .inl (by omega)

/-- A list is read past the end exactly if one of its elements is cut short. -/
theorem readElements_eq_outOfBounds_iff {passes : ℕ} (hends : m.Ends p bs)
    (hroom : p + bs.length < packetEnd) (hfar : packetEnd - p < 2 ^ 64) :
    readElements m packetEnd passes p = .error .outOfBounds ↔
      UnfinishedList passes (packetEnd - p) bs := by
  induction passes generalizing p bs with
  | zero => simp [readElements, UnfinishedList]
  | succ passes ih =>
    simp only [readElements, UnfinishedList, bind_eq_outOfBounds_iff,
      readElement_eq_outOfBounds_iff hends hroom hfar,
      readElement_eq_ok_iff (by omega : p ≤ packetEnd) hfar]
    refine or_congr_right ⟨?_, ?_⟩
    · rintro ⟨e, ⟨hwf, hheld, hfits⟩, hread⟩
      obtain ⟨rest, rfl⟩ := hends.eq_append hheld
      rw [ends_append, hwf.bytes_length] at hends
      rw [List.length_append, hwf.bytes_length] at hroom
      split at hread
      · exact absurd hread (pure_ne_outOfBounds _)
      · rename_i heol
        simp only [bind_eq_outOfBounds_iff, pure_ne_outOfBounds, and_false, exists_false,
          or_false] at hread
        rw [ih hends.2 (by omega) (by omega), Nat.sub_add_eq] at hread
        exact ⟨e, rest, rfl, hwf, by simpa using heol, hread⟩
    · rintro ⟨e, rest, rfl, hwf, heol, hrest⟩
      rw [ends_append, hwf.bytes_length] at hends
      rw [List.length_append, hwf.bytes_length] at hroom
      refine ⟨e, ⟨hwf, hends.1, by omega⟩, ?_⟩
      rw [if_neg (by simp [heol]), bind_eq_outOfBounds_iff]
      rw [ih hends.2 (by omega) (by omega), Nat.sub_add_eq]
      exact .inl hrest

/-- A prefix is read past the end exactly if its bytes are cut short. -/
theorem decodeBgpSubnetEncodingIpv4_eq_outOfBounds_iff {len : ℕ} (hends : m.Ends p bs)
    (hroom : bs.length < len) :
    decodeBgpSubnetEncodingIpv4 m len p = .error .outOfBounds ↔ UnfinishedPrefix len bs := by
  rw [decodeBgpSubnetEncodingIpv4, UnfinishedPrefix]
  simp only [bind_eq_outOfBounds_iff, rejectIf_ne_outOfBounds, false_or, rejectIf_eq_ok_iff,
    exists_const, hends.read_iff, read_eq_ok_iff, pure_ne_outOfBounds, and_false, or_false]
  cases bs with
  | nil => simp only [true_or, and_true, iff_true]; omega
  | cons cidr address =>
    rw [ends_cons] at hends
    obtain ⟨hcidr, haddress⟩ := hends
    simp only [reduceCtorEq, false_or, hcidr, Option.some.injEq, exists_eq_left', List.cons.injEq,
      haddress.readBytes_iff, gt_iff_lt, UInt8.not_lt, not_lt]
    constructor
    · rintro ⟨-, hle, hlen, hshort⟩
      exact ⟨cidr, address, ⟨rfl, rfl⟩, hle, hlen, hshort⟩
    · rintro ⟨c, a, ⟨rfl, rfl⟩, hle, hlen, hshort⟩
      exact ⟨by omega, hle, hlen, hshort⟩

theorem decodePrefixComponent_eq_outOfBounds_iff {rule : FlowSpecRule} {type : UInt8}
    {used : FlowSpecRule → Bool} {set : FlowSpecRule → SubnetCidrMask → FlowSpecRule}
    (hends : m.Ends (p + 1) bs) (hroom : p + 1 + bs.length < packetEnd)
    (hfar : packetEnd - p < 2 ^ 32) :
    decodePrefixComponent m packetEnd rule p type used set = .error .outOfBounds ↔
      used rule = false ∧ UnfinishedPrefix (packetEnd - p - 1) bs := by
  simp only [decodePrefixComponent, bind_eq_outOfBounds_iff, rejectIf_ne_outOfBounds, false_or,
    rejectIf_eq_ok_iff, exists_const, pure_ne_outOfBounds, and_false, or_false,
    pointerDifference_of_le (by omega : p ≤ packetEnd) (by omega : _ < 2 ^ 64),
    Nat.mod_eq_of_lt hfar, Bool.not_eq_true,
    decodeBgpSubnetEncodingIpv4_eq_outOfBounds_iff hends
      (by omega : bs.length < packetEnd - p - 1)]
  have hlen : ¬ packetEnd - p < 2 := by omega
  simp [hlen]

/-- Storing the elements reads no memory. -/
theorem ListKind.add_ne_outOfBounds (kind : ListKind) (rule : FlowSpecRule)
    (items : List FlowSpecEnumerableElement) : kind.add rule items ≠ .error .outOfBounds := by
  intro h
  have hclean := kind.add_clean rule items
  rw [h] at hclean
  exact absurd hclean (by decide)

theorem decodeListComponent_eq_outOfBounds_iff {rule : FlowSpecRule} {type : UInt8}
    (kind : ListKind) (hends : m.Ends (p + 1) bs) (hroom : p + 1 + bs.length < packetEnd)
    (hfar : packetEnd - p < 2 ^ 32) :
    decodeListComponent m packetEnd rule p type kind.add = .error .outOfBounds ↔
      UnfinishedList 100 (packetEnd - p - 1) bs := by
  simp only [decodeListComponent, readOneOrMoreValuesEncodedWithOperatorByte,
    bind_eq_outOfBounds_iff, pure_ne_outOfBounds, and_false, exists_false, or_false,
    kind.add_ne_outOfBounds, readElements_eq_outOfBounds_iff hends hroom (by omega)]
  rw [Nat.sub_add_eq]

/-- **One pass of the decoder reads outside exactly on an unfinished
component.** -/
theorem decodeComponent_eq_outOfBounds_iff {rule : FlowSpecRule} (hends : m.Ends p bs)
    (hroom : p + bs.length < packetEnd) (hfar : packetEnd - p < 2 ^ 32) :
    decodeComponent m packetEnd rule p = .error .outOfBounds ↔
      UnfinishedComponent rule (packetEnd - p) bs := by
  simp only [decodeComponent, UnfinishedComponent, bind_eq_outOfBounds_iff, hends.read_iff,
    read_eq_ok_iff]
  cases bs with
  | nil => simp
  | cons b body =>
    rw [ends_cons] at hends
    rw [List.length_cons] at hroom
    have hbyPrefix := fun used set => (@decodePrefixComponent_eq_outOfBounds_iff _ _ _ _ rule b
        used set) hends.2 (by omega : _ < packetEnd) hfar
    have hlist := fun kind => (@decodeListComponent_eq_outOfBounds_iff _ _ _ _ rule b) kind
      hends.2 (by omega : _ < packetEnd) hfar
    simp only [reduceCtorEq, false_or, hends.1, Option.some.injEq, exists_eq_left',
      List.cons.injEq]
    constructor
    · intro hdecode
      refine ⟨b, body, ⟨rfl, rfl⟩, ?_⟩
      split at hdecode
      · exact .inl ⟨by assumption, (hbyPrefix _ _).mp hdecode⟩
      split at hdecode
      · exact .inr (.inl ⟨by assumption, (hbyPrefix _ _).mp hdecode⟩)
      refine .inr (.inr ?_)
      split at hdecode
      · exact absurd hdecode (by simp [throw, throwThe, MonadExceptOf.throw])
      split at hdecode
      · exact ⟨.ipProtocol, by assumption, (hlist .ipProtocol).mp hdecode⟩
      split at hdecode
      · exact ⟨.tcpFlags, by assumption, (hlist .tcpFlags).mp hdecode⟩
      split at hdecode
      · exact ⟨.fragment, by assumption, (hlist .fragment).mp hdecode⟩
      split at hdecode
      · exact ⟨.packetLength, by assumption, (hlist .packetLength).mp hdecode⟩
      split at hdecode
      · exact ⟨.sourcePort, by assumption, (hlist .sourcePort).mp hdecode⟩
      split at hdecode
      · exact ⟨.destinationPort, by assumption, (hlist .destinationPort).mp hdecode⟩
      · exact absurd hdecode (by simp [throw, throwThe, MonadExceptOf.throw])
    · rintro ⟨t, body', ⟨rfl, rfl⟩, ⟨rfl, hused, hbody⟩ | ⟨rfl, hused, hbody⟩ | ⟨kind, rfl, hbody⟩⟩
      · exact (hbyPrefix _ _).mpr ⟨hused, hbody⟩
      · exact (hbyPrefix _ _).mpr ⟨hused, hbody⟩
      · have hdecode := (hlist kind).mpr hbody
        cases kind <;> exact hdecode

/-- **The decoder reads outside exactly on an unfinished matching part.** -/
theorem decodeComponents_eq_outOfBounds_iff {fuel : ℕ} {rule : FlowSpecRule} (hends : m.Ends p bs)
    (hroom : p + bs.length < packetEnd) (hfar : packetEnd - p < 2 ^ 32)
    (hfuel : packetEnd - p < fuel) :
    decodeComponents m packetEnd fuel rule p = .error .outOfBounds ↔
      UnfinishedNlri rule (packetEnd - p) bs := by
  induction fuel generalizing p bs rule with
  | zero => omega
  | succ fuel ih =>
    have hp : p < packetEnd := by omega
    simp only [decodeComponents, if_pos hp, bind_eq_outOfBounds_iff, pure_ne_outOfBounds, and_false,
      exists_false, or_false, Prod.exists, decodeComponent_eq_outOfBounds_iff hends hroom hfar,
      decodeComponent_eq_ok_iff hp hfar]
    constructor
    · rintro (hunfinished | ⟨rule', c, ⟨w, hwf, hheld, hend, happly, rfl⟩, hrest⟩)
      · exact ⟨[], bs, rule, rfl, by simp, rfl, hunfinished⟩
      · obtain ⟨rest, rfl⟩ := hends.eq_append hheld
        rw [ends_append] at hends
        simp only [List.length_append, WireComponent.bytes_length] at hends hroom
        rw [show (w.component p).stop = p + (1 + w.body.length) by
          simp only [WireComponent.component]; omega] at hrest
        obtain ⟨ws, rest, rule'', rfl, hwfs, happlies, hunfinished⟩ :=
          (ih hends.2 (by omega) (by omega) (by omega)).mp hrest
        refine ⟨w :: ws, rest, rule'', by simp, ?_, ?_, ?_⟩
        · simpa using ⟨hwf, hwfs⟩
        · rw [applyAll, List.foldlM_cons, happly]
          exact happlies
        · rw [componentsBytes_cons, List.length_append, WireComponent.bytes_length, Nat.sub_add_eq]
          rwa [Nat.sub_add_eq] at hunfinished
    · rintro ⟨ws, rest, rule'', rfl, hwfs, happlies, hunfinished⟩
      cases ws with
      | nil =>
        obtain rfl : rule = rule'' := by simpa [applyAll] using happlies
        exact .inl hunfinished
      | cons w ws =>
        rw [componentsBytes_cons, List.append_assoc] at hends hroom
        rw [ends_append] at hends
        simp only [List.length_append, WireComponent.bytes_length] at hends hroom
        simp only [applyAll, List.foldlM_cons, bind_eq_ok_iff] at happlies
        obtain ⟨rule', happly, happlies⟩ := happlies
        refine .inr ⟨rule', w.component p, ⟨w, hwfs w (by simp), hends.1, by omega, happly, rfl⟩, ?_⟩
        rw [show (w.component p).stop = p + (1 + w.body.length) by
          simp only [WireComponent.component]; omega]
        refine (ih hends.2 (by simp; omega) (by omega) (by omega)).mpr
          ⟨ws, rest, rule'', rfl, fun w' hw' => hwfs w' (by simp [hw']), happlies, ?_⟩
        rw [componentsBytes_cons, List.length_append, WireComponent.bytes_length,
          Nat.sub_add_eq] at hunfinished
        rwa [Nat.sub_add_eq]

/-! ### The decoder ends in any case -/

/-- Reading one element takes no fuel. -/
theorem readElement_ne_outOfFuel (m : Memory) (packetEnd p : ℕ) :
    readElement m packetEnd p ≠ .error .outOfFuel := by
  rw [readElement]
  refine bind_ne_outOfFuel (clean_rejectIf _).ne_outOfFuel fun _ _ =>
    bind_ne_outOfFuel (read_ne_outOfFuel m p) fun b _ =>
    bind_ne_outOfFuel (clean_rejectIf _).ne_outOfFuel fun _ _ =>
    bind_ne_outOfFuel (clean_rejectIf _).ne_outOfFuel fun _ _ =>
    bind_ne_outOfFuel (clean_rejectIf _).ne_outOfFuel fun _ _ =>
    bind_ne_outOfFuel (clean_rejectIf _).ne_outOfFuel fun _ _ => ?_
  split
  · exact bind_ne_outOfFuel (read_ne_outOfFuel m _) fun _ _ => (clean_pure _).ne_outOfFuel
  · exact bind_ne_outOfFuel (read16_ne_outOfFuel m _) fun _ _ => (clean_pure _).ne_outOfFuel

/-- The passes of a list are counted by the code itself. -/
theorem readElements_ne_outOfFuel (m : Memory) (packetEnd passes p : ℕ) :
    readElements m packetEnd passes p ≠ .error .outOfFuel := by
  induction passes generalizing p with
  | zero => simp [readElements]
  | succ passes ih =>
    rw [readElements]
    refine bind_ne_outOfFuel (readElement_ne_outOfFuel m packetEnd p) fun e _ => ?_
    split
    · exact (clean_pure _).ne_outOfFuel
    · exact bind_ne_outOfFuel (ih _) fun _ _ => (clean_pure _).ne_outOfFuel

theorem decodeListComponent_ne_outOfFuel (m : Memory) (packetEnd : ℕ) (rule : FlowSpecRule) (p : ℕ)
    (type : UInt8) (kind : ListKind) :
    decodeListComponent m packetEnd rule p type kind.add ≠ .error .outOfFuel :=
  bind_ne_outOfFuel (readElements_ne_outOfFuel m packetEnd 100 (p + 1)) fun _ _ =>
    bind_ne_outOfFuel (kind.add_clean rule _).ne_outOfFuel fun _ _ => (clean_pure _).ne_outOfFuel

theorem decodePrefixComponent_ne_outOfFuel (m : Memory) (packetEnd : ℕ) (rule : FlowSpecRule)
    (p : ℕ) (type : UInt8) (used : FlowSpecRule → Bool)
    (set : FlowSpecRule → SubnetCidrMask → FlowSpecRule) :
    decodePrefixComponent m packetEnd rule p type used set ≠ .error .outOfFuel := by
  have hsubnet : ∀ len q, decodeBgpSubnetEncodingIpv4 m len q ≠ .error .outOfFuel := fun len q =>
    bind_ne_outOfFuel (clean_rejectIf _).ne_outOfFuel fun _ _ =>
    bind_ne_outOfFuel (read_ne_outOfFuel m q) fun _ _ =>
    bind_ne_outOfFuel (clean_rejectIf _).ne_outOfFuel fun _ _ =>
    bind_ne_outOfFuel (clean_rejectIf _).ne_outOfFuel fun _ _ =>
    bind_ne_outOfFuel (readBytes_ne_outOfFuel m _ _) fun _ _ => (clean_pure _).ne_outOfFuel
  exact bind_ne_outOfFuel (clean_rejectIf _).ne_outOfFuel fun _ _ =>
    bind_ne_outOfFuel (clean_rejectIf _).ne_outOfFuel fun _ _ =>
    bind_ne_outOfFuel (hsubnet _ _) fun _ _ => (clean_pure _).ne_outOfFuel

theorem decodeComponent_ne_outOfFuel (m : Memory) (packetEnd : ℕ) (rule : FlowSpecRule) (p : ℕ) :
    decodeComponent m packetEnd rule p ≠ .error .outOfFuel := by
  have hlist := fun type => decodeListComponent_ne_outOfFuel m packetEnd rule p type
  have hbyPrefix := decodePrefixComponent_ne_outOfFuel m packetEnd rule p
  rw [decodeComponent]
  refine bind_ne_outOfFuel (read_ne_outOfFuel m p) fun b _ => ?_
  split
  · exact hbyPrefix _ _ _
  split
  · exact hbyPrefix _ _ _
  split
  · exact clean_rejected.ne_outOfFuel
  split
  · exact hlist _ .ipProtocol
  split
  · exact hlist _ .tcpFlags
  split
  · exact hlist _ .fragment
  split
  · exact hlist _ .packetLength
  split
  · exact hlist _ .sourcePort
  split
  · exact hlist _ .destinationPort
  · exact clean_rejected.ne_outOfFuel

/-- Fuel above the number of bytes is enough, since every component takes at least one. -/
theorem decodeComponents_ne_outOfFuel {fuel : ℕ} {rule : FlowSpecRule} (hp : p ≤ packetEnd)
    (hfar : packetEnd - p < 2 ^ 32) (hfuel : packetEnd - p < fuel) :
    decodeComponents m packetEnd fuel rule p ≠ .error .outOfFuel := by
  induction fuel generalizing p rule with
  | zero => omega
  | succ fuel ih =>
    rw [decodeComponents]
    split
    · rename_i hlt
      refine bind_ne_outOfFuel (decodeComponent_ne_outOfFuel m packetEnd rule p) ?_
      rintro ⟨rule', c⟩ hdecode
      obtain ⟨w, -, -, hend, -, rfl⟩ := (decodeComponent_eq_ok_iff hlt hfar).mp hdecode
      refine bind_ne_outOfFuel (ih ?_ ?_ ?_) fun _ _ => (clean_pure _).ne_outOfFuel
      all_goals simp only [WireComponent.component]; omega
    · exact (clean_pure _).ne_outOfFuel

/-- Bytes that are too few are not accepted. -/
theorem decodeComponents_ne_ok {fuel : ℕ} {rule : FlowSpecRule} (hends : m.Ends p bs)
    (hroom : p + bs.length < packetEnd) (hfar : packetEnd - p < 2 ^ 32)
    (hfuel : packetEnd - p < fuel) (d : DecodedNlri) :
    decodeComponents m packetEnd fuel rule p ≠ .ok d := by
  intro hdecode
  obtain ⟨ws, -, hheld, hlength, -⟩ :=
    (decodeComponents_eq_ok_iff (by omega) hfar hfuel).mp hdecode
  obtain ⟨rest, rfl⟩ := hends.eq_append hheld
  rw [List.length_append] at hroom
  omega

end FastNetMon
