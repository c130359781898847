/-
FastNetMon/ReducedSize.lean

Numbers that are exported with fewer bytes than they have.

The bytes of such a field are copied to the end of the variable, which is then brought from
network order into the order of the host.  The bytes in front of them stay, so that the result
is the number in the field only if they were zero; what stood there is what an earlier field
of the same type left, in the order of the host.  Main result: `reducedSize_iff`.
-/
import FastNetMon.IpfixBounds
import FastNetMon.NetflowV9Bounds

namespace FastNetMon

open Memory Procedure

/-! ### Numbers and their bytes -/

theorem bigEndian_concat (bs : List UInt8) (b : UInt8) :
    bigEndian (bs ++ [b]) = bigEndian bs * 256 + b.toNat := by
  rw [bigEndian, List.foldl_append]
  rfl

theorem bigEndian_append (bs cs : List UInt8) :
    bigEndian (bs ++ cs) = bigEndian bs * 256 ^ cs.length + bigEndian cs := by
  induction cs using List.reverseRecOn with
  | nil =>
    rw [List.append_nil, List.length_nil, Nat.pow_zero, Nat.mul_one]
    rfl
  | append_singleton cs c ih =>
    rw [← List.append_assoc, bigEndian_concat, bigEndian_concat, ih, List.length_append,
      List.length_singleton, Nat.pow_succ]
    ring

theorem bigEndian_lt (bs : List UInt8) : bigEndian bs < 256 ^ bs.length := by
  induction bs using List.reverseRecOn with
  | nil => exact Nat.one_pos
  | append_singleton bs b ih =>
    have hb : b.toNat < 256 := b.toNat_lt
    rw [bigEndian_concat, List.length_append, List.length_singleton, Nat.pow_succ]
    omega

theorem bigEndian_eq_zero_iff {bs : List UInt8} : bigEndian bs = 0 ↔ ∀ b ∈ bs, b = 0 := by
  induction bs using List.reverseRecOn with
  | nil => exact iff_of_true rfl (by simp)
  | append_singleton bs b ih =>
    have hzero : b.toNat = 0 ↔ b = 0 := @UInt8.toNat_inj b 0
    rw [bigEndian_concat, Nat.add_eq_zero_iff, hzero, List.forall_mem_append, ← ih,
      List.forall_mem_singleton]
    refine and_congr_left fun _ => ?_
    omega

@[simp] theorem length_hostBytes (width n : ℕ) : (hostBytes width n).length = width := by
  rw [hostBytes, List.length_map, List.length_range]

theorem hostBytes_succ (width n : ℕ) :
    hostBytes (width + 1) n = .ofNat n :: hostBytes width (n / 256) := by
  rw [hostBytes, List.range_succ_eq_map, List.map_cons, List.map_map, Nat.pow_zero, Nat.div_one]
  refine congrArg _ (List.map_congr_left fun i _ => ?_)
  show UInt8.ofNat (n / 256 ^ (i + 1)) = UInt8.ofNat (n / 256 / 256 ^ i)
  rw [Nat.div_div_eq_div_mul, Nat.pow_succ, Nat.mul_comm]

/-- The bytes of a number in memory are those in network order, backwards. -/
theorem hostBytes_bigEndian (bs : List UInt8) :
    hostBytes bs.length (bigEndian bs) = bs.reverse := by
  induction bs using List.reverseRecOn with
  | nil => rfl
  | append_singleton bs b ih =>
    have hb : b.toNat < 256 := b.toNat_lt
    have hdiv : (bigEndian bs * 256 + b.toNat) / 256 = bigEndian bs := by omega
    have hlast : UInt8.ofNat (bigEndian bs * 256 + b.toNat) = b := by
      refine UInt8.toNat_inj.mp ?_
      rw [UInt8.toNat_ofNat']
      omega
    rw [List.length_append, List.length_singleton, bigEndian_concat, hostBytes_succ, hdiv, hlast,
      ih, List.reverse_append, List.reverse_singleton, List.singleton_append]

/-! ### Copies at the end of a variable -/

section Copies

variable {width : ℕ}

theorem length_copied {bytes : List UInt8} (h : bytes.length ≤ width) (old : ℕ) :
    ((hostBytes width old).take (width - bytes.length) ++ bytes).length = width := by
  rw [List.length_append, List.length_take, length_hostBytes]
  omega

theorem beCopy_lt {bytes : List UInt8} (h : bytes.length ≤ width) (old : ℕ) :
    beCopy width old bytes < 256 ^ width := by
  have hlt := bigEndian_lt ((hostBytes width old).take (width - bytes.length) ++ bytes)
  rwa [length_copied h] at hlt

/-- A copy is the number that is copied exactly if there were zeros in front of it. -/
theorem beCopy_eq_iff (bytes : List UInt8) (old : ℕ) :
    beCopy width old bytes = bigEndian bytes ↔
      ∀ i < width - bytes.length, (hostBytes width old)[i]? = some 0 := by
  rw [beCopy, bigEndian_append]
  have hpos : 0 < 256 ^ bytes.length := Nat.pow_pos (by omega)
  have hfront : bigEndian ((hostBytes width old).take (width - bytes.length)) * 256 ^ bytes.length
      + bigEndian bytes = bigEndian bytes ↔
        bigEndian ((hostBytes width old).take (width - bytes.length)) = 0 := by
    rw [Nat.add_eq_right, Nat.mul_eq_zero]
    exact or_iff_left hpos.ne'
  rw [hfront, bigEndian_eq_zero_iff]
  constructor
  · intro h i hi
    have hlt : i < (hostBytes width old).length := by
      rw [length_hostBytes]
      omega
    rw [List.getElem?_eq_getElem hlt]
    refine congrArg some (h _ (List.mem_take_iff_getElem.mpr ⟨i, by omega, rfl⟩))
  · intro h b hb
    obtain ⟨i, hi, rfl⟩ := List.mem_take_iff_getElem.mp hb
    have hzero := h i (by omega)
    rw [List.getElem?_eq_getElem (by omega)] at hzero
    exact Option.some_injective _ hzero

/-- What the copies of some fields leave in a variable; the last field comes first. -/
def copies (width : ℕ) (values : List (List UInt8)) : ℕ :=
  values.foldr (fun bytes old => beCopy width old bytes) 0

/-- Byte `i` of a variable, counted from its low end, is zero after the copies of some fields,
the last one first: it is a byte of the last field, if this is long enough, and else it was at
the other end of the variable before. -/
def ZeroAt (width : ℕ) : List (List UInt8) → ℕ → Prop
  | [], _ => True
  | bytes :: earlier, i =>
      if i < bytes.length then bytes.reverse[i]? = some 0 else ZeroAt width earlier (width - 1 - i)

/-- There are zeros in front of the last of some fields, which comes first. -/
def FrontIsZero (width : ℕ) : List (List UInt8) → Prop
  | [] => True
  | bytes :: earlier => ∀ i < width - bytes.length, ZeroAt width earlier i

/-- The number in the last field, which comes first. -/
def lastNumber : List (List UInt8) → ℕ
  | [] => 0
  | bytes :: _ => bigEndian bytes

/-- The bytes of a variable come from the fields that were copied to it. -/
theorem hostBytes_copies {values : List (List UInt8)} (h : ∀ bytes ∈ values, bytes.length ≤ width)
    {i : ℕ} (hi : i < width) :
    (hostBytes width (copies width values))[i]? = some 0 ↔ ZeroAt width values i := by
  induction values generalizing i with
  | nil =>
    refine iff_of_true ?_ trivial
    show (hostBytes width 0)[i]? = some 0
    rw [hostBytes, List.getElem?_map, List.getElem?_range hi]
    exact congrArg some (congrArg UInt8.ofNat (Nat.zero_div _))
  | cons bytes earlier ih =>
    have hlength := h bytes List.mem_cons_self
    have hhost : hostBytes width (copies width (bytes :: earlier)) = bytes.reverse
        ++ ((hostBytes width (copies width earlier)).take (width - bytes.length)).reverse := by
      have hreverse := hostBytes_bigEndian
        ((hostBytes width (copies width earlier)).take (width - bytes.length) ++ bytes)
      rw [length_copied hlength, List.reverse_append] at hreverse
      exact hreverse
    rw [hhost, ZeroAt]
    by_cases hlow : i < bytes.length
    · rw [if_pos hlow, List.getElem?_append_left (by rwa [List.length_reverse])]
    · have hfront : ((hostBytes width (copies width earlier)).take (width - bytes.length)).length
          = width - bytes.length := by
        rw [List.length_take, length_hostBytes]
        omega
      rw [if_neg hlow, List.getElem?_append_right (by rw [List.length_reverse]; omega),
        List.length_reverse, List.getElem?_reverse (by omega), hfront,
        List.getElem?_take_of_lt (by omega)]
      have hindex : width - bytes.length - 1 - (i - bytes.length) = width - 1 - i := by omega
      rw [hindex]
      exact ih (fun bytes hmem => h bytes (List.mem_cons_of_mem _ hmem)) (by omega)

/-- **When the last field is what the copies leave.** -/
theorem copies_eq_iff {values : List (List UInt8)} (h : ∀ bytes ∈ values, bytes.length ≤ width) :
    copies width values = lastNumber values ↔ FrontIsZero width values := by
  cases values with
  | nil => exact iff_of_true rfl trivial
  | cons bytes earlier =>
    show beCopy width (copies width earlier) bytes = bigEndian bytes ↔ _
    rw [beCopy_eq_iff, FrontIsZero]
    refine forall_congr' fun i => forall_congr' fun hi => ?_
    exact hostBytes_copies (fun bytes hmem => h bytes (List.mem_cons_of_mem _ hmem)) (by omega)

end Copies

/-! ### Numbers of a flow -/

/-- The numbers of a flow that may be exported at reduced size. -/
inductive ReducedNumber
  | bytes
  | packets
  | protocol
  | sourcePort
  | destinationPort
deriving DecidableEq, Repr

namespace ReducedNumber

/-- The type of the fields that carry the number. -/
def recordType : ReducedNumber → ℕ
  | bytes => 1
  | packets => 2
  | protocol => 4
  | sourcePort => 7
  | destinationPort => 11

/-- The bytes of its variable. -/
def width : ReducedNumber → ℕ
  | bytes => 8
  | packets => 8
  | protocol => 4
  | sourcePort => 2
  | destinationPort => 2

/-- The number in a packet. -/
def ofPacket (packet : ParsedPacket) : ReducedNumber → ℕ
  | bytes => packet.length.toNat
  | packets => packet.numberOfPackets.toNat
  | protocol => packet.protocol.toNat
  | sourcePort => packet.sourcePort.toNat
  | destinationPort => packet.destinationPort.toNat

/-- What a field of some type makes of the number. -/
def after (number : ReducedNumber) (recordType : ℕ) (bytes : List UInt8) (old : ℕ) : ℕ :=
  if recordType = number.recordType ∧ bytes.length ≤ number.width then
    beCopy number.width old bytes
  else old

/-- The field carries the number, and is not too long for it. -/
def Carries (number : ReducedNumber) (field : ℕ × List UInt8) : Prop :=
  field.1 = number.recordType ∧ field.2.length ≤ number.width

instance (number : ReducedNumber) : DecidablePred number.Carries :=
  fun field => inferInstanceAs (Decidable (field.1 = _ ∧ field.2.length ≤ _))

/-- The bytes of the fields that carry the number, the last one first. -/
def values (number : ReducedNumber) (fields : List (ℕ × List UInt8)) : List (List UInt8) :=
  (fields.filter (number.Carries ·)).reverse.map Prod.snd

end ReducedNumber

/-- The other ways to set one of the numbers: the permanent and total counters, and the ports
of UDP and TCP. -/
def setsOtherwise : List ℕ := [85, 86, 180, 181, 182, 183]

/-- What a rule makes of a flow. -/
def FieldRule.apply (rule : FieldRule Flow) (bytes : List UInt8) (flow : Flow) : Flow :=
  if rule.accepts flow bytes.length then rule.store bytes flow else flow

variable {number : ReducedNumber} {recordType : ℕ} {rule : FieldRule Flow}

/-- A field that carries a number. -/
theorem apply_upTo {change : List UInt8 → ParsedPacket → ParsedPacket} {bytes : List UInt8}
    {flow : Flow} (hchange : bytes.length ≤ number.width →
      number.ofPacket (change bytes flow.packet)
        = beCopy number.width (number.ofPacket flow.packet) bytes) :
    number.ofPacket (FieldRule.apply (.upTo number.width (onPacket change)) bytes flow).packet
      = number.after number.recordType bytes (number.ofPacket flow.packet) := by
  rw [FieldRule.apply, ReducedNumber.after]
  show number.ofPacket (if decide (bytes.length ≤ number.width) = true then _ else flow).packet = _
  by_cases hlength : bytes.length ≤ number.width
  · rw [if_pos (decide_eq_true hlength), if_pos ⟨rfl, hlength⟩]
    exact hchange hlength
  · rw [if_neg (fun h => hlength (of_decide_eq_true h)), if_neg fun h => hlength h.2]

/-- A field that carries something else. -/
theorem apply_keeps {bytes : List UInt8} {flow : Flow} (htype : recordType ≠ number.recordType)
    (hstore : number.ofPacket (rule.store bytes flow).packet = number.ofPacket flow.packet) :
    number.ofPacket (rule.apply bytes flow).packet
      = number.after recordType bytes (number.ofPacket flow.packet) := by
  have hafter : number.after recordType bytes (number.ofPacket flow.packet)
      = number.ofPacket flow.packet := if_neg fun h => htype h.1
  rw [hafter, FieldRule.apply]
  split
  · exact hstore
  · rfl

theorem sharedFieldRule_number (h : sharedFieldRule recordType = some rule)
    (hkind : recordType ∉ setsOtherwise) (bytes : List UInt8) (flow : Flow) :
    number.ofPacket (rule.apply bytes flow).packet
      = number.after recordType bytes (number.ofPacket flow.packet) := by
  by_cases htype : recordType = number.recordType
  · subst htype
    cases number <;> cases h
    · exact (@apply_upTo .bytes) fun hlength => UInt64.toNat_ofNat_of_lt (beCopy_lt hlength _)
    · exact (@apply_upTo .packets) fun hlength => UInt64.toNat_ofNat_of_lt (beCopy_lt hlength _)
    · exact (@apply_upTo .protocol) fun hlength => UInt32.toNat_ofNat_of_lt (beCopy_lt hlength _)
    · exact (@apply_upTo .sourcePort) fun hlength => UInt16.toNat_ofNat_of_lt (beCopy_lt hlength _)
    · exact (@apply_upTo .destinationPort) fun hlength =>
        UInt16.toNat_ofNat_of_lt (beCopy_lt hlength _)
  · refine apply_keeps htype ?_
    rw [sharedFieldRule.eq_def] at h
    -- the rules for the numbers themselves, and for other ways to set them, are no such rules
    split at h
    all_goals cases h
    all_goals first
      | exact absurd (by decide) hkind
      | skip
    all_goals cases number
    all_goals first
      | exact (htype rfl).elim
      | simp only [FieldRule.upTo, FieldRule.ofLengths, onPacket, onMeta, ReducedNumber.ofPacket]

theorem netflow9FieldRule_number (h : netflow9FieldRule recordType = some rule)
    (hkind : recordType ∉ setsOtherwise) (bytes : List UInt8) (flow : Flow) :
    number.ofPacket (rule.apply bytes flow).packet
      = number.after recordType bytes (number.ofPacket flow.packet) := by
  rw [netflow9FieldRule.eq_def] at h
  split at h
  all_goals first
    | exact sharedFieldRule_number h hkind bytes flow
    | (cases h
       refine apply_keeps ?_ ?_
       · cases number <;> decide
       · cases number <;> simp only [FieldRule.upTo, FieldRule.ofLengths,
           storeForwardingStatus, onPacket, onMeta, ReducedNumber.ofPacket])

theorem ipfixFieldRule_number (h : ipfixFieldRule recordType = some rule)
    (hkind : recordType ∉ setsOtherwise) (bytes : List UInt8) (flow : Flow) :
    number.ofPacket (rule.apply bytes flow).packet
      = number.after recordType bytes (number.ofPacket flow.packet) := by
  rw [ipfixFieldRule.eq_def] at h
  split at h
  all_goals first
    | exact sharedFieldRule_number h hkind bytes flow
    | exact absurd (by decide) hkind
    | (cases h
       refine apply_keeps ?_ ?_
       · cases number <;> decide
       · cases number <;> simp only [FieldRule.ofLengths,
           storeForwardingStatus, onPacket, onMeta, ReducedNumber.ofPacket])

/-! ### Fields of a record -/

/-- The fields of a record from an offset on, with the bytes that each of them takes. -/
def FieldsAt (m : Memory) (lengthAt : TemplateRecord → ℕ → Option ℕ) :
    (offset : ℕ) → List (TemplateRecord × List UInt8) → Prop
  | _, [] => True
  | offset, (record, bytes) :: fields =>
      lengthAt record offset = some bytes.length ∧ m.Holds offset bytes ∧
        FieldsAt m lengthAt (offset + bytes.length) fields

/-- The length of a field of NetFlow v9 is that of the template. -/
def netflow9LengthAt (record : TemplateRecord) (_ : ℕ) : Option ℕ :=
  some record.recordLength.toNat

/-- A field of IPFIX may carry its length. -/
def ipfixLengthAt (m : Memory) (setMaximumLength : ℕ) (record : TemplateRecord) (offset : ℕ) :
    Option ℕ :=
  match ipfixFieldLength m setMaximumLength record offset { packet := {} } with
  | .ok (recordLength, _) => some recordLength.toNat
  | .error _ => none

/-- The types of some fields, and their bytes. -/
def typedFields (fields : List (TemplateRecord × List UInt8)) : List (ℕ × List UInt8) :=
  fields.map fun field => (field.1.recordType.toNat, field.2)

/-- No field sets one of the numbers otherwise. -/
def SetsPlainly (fields : List (TemplateRecord × List UInt8)) : Prop :=
  ∀ field ∈ fields, field.1.recordType.toNat ∉ setsOtherwise

namespace ReducedNumber

/-- What some fields make of the number, one after the other. -/
def afterAll (number : ReducedNumber) (fields : List (ℕ × List UInt8)) (old : ℕ) : ℕ :=
  fields.foldl (fun old field => number.after field.1 field.2 old) old

theorem afterAll_eq_copies (number : ReducedNumber) (fields : List (ℕ × List UInt8)) :
    number.afterAll fields 0 = copies number.width (number.values fields) := by
  induction fields using List.reverseRecOn with
  | nil => rfl
  | append_singleton fields field ih =>
    rw [afterAll, List.foldl_append, values, List.filter_append, List.reverse_append,
      List.map_append]
    show number.after field.1 field.2 (number.afterAll fields 0) = _
    rw [ih, after]
    by_cases hfield : number.Carries field
    · have hcarries : (decide <| number.Carries field) = true := decide_eq_true hfield
      rw [if_pos (show field.1 = _ ∧ _ from hfield), List.filter_singleton, hcarries]
      rfl
    · have hcarries : (decide <| number.Carries field) = false := decide_eq_false hfield
      rw [if_neg (show ¬ (field.1 = _ ∧ _) from hfield), List.filter_singleton, hcarries]
      rfl

theorem length_le_of_mem_values {fields : List (ℕ × List UInt8)} {bytes : List UInt8}
    (h : bytes ∈ number.values fields) : bytes.length ≤ number.width := by
  obtain ⟨field, hfield, rfl⟩ := List.mem_map.mp h
  have hfilter := (List.mem_filter.mp (List.mem_reverse.mp hfield)).2
  exact (of_decide_eq_true hfilter).2

/-- **When some fields leave the number in the last one of them.** -/
theorem afterAll_eq_iff (number : ReducedNumber) (fields : List (ℕ × List UInt8)) :
    number.afterAll fields 0 = lastNumber (number.values fields) ↔
      FrontIsZero number.width (number.values fields) := by
  rw [afterAll_eq_copies]
  exact copies_eq_iff fun bytes hmem => length_le_of_mem_values hmem

end ReducedNumber

/-! ### NetFlow v9 -/

variable {m : Memory} {offset : ℕ} {bytes : List UInt8}

theorem FieldRule.apply_of_decode {flow flow' : Flow}
    (hbytes : m.readBytes 0 bytes.length = .ok bytes)
    (h : rule.decode m bytes.length flow = .ok flow') : rule.apply bytes flow = flow' := by
  rw [decode] at h
  rw [apply]
  split at h
  · rename_i haccepts
    rw [hbytes] at h
    rw [if_pos haccepts]
    exact Except.ok.inj h
  · rename_i haccepts
    rw [if_neg haccepts]
    exact Except.ok.inj h

theorem netflow9DecodeField_number {record : TemplateRecord} {flow flow' : Flow}
    (hlength : record.recordLength.toNat = bytes.length)
    (hbytes : m.readBytes 0 bytes.length = .ok bytes)
    (hkind : record.recordType.toNat ∉ setsOtherwise)
    (h : netflow9DecodeField m record flow = .ok flow') :
    number.ofPacket flow'.packet
      = number.after record.recordType.toNat bytes (number.ofPacket flow.packet) := by
  have hother (htype : record.recordType.toNat ≠ number.recordType) :
      number.after record.recordType.toNat bytes (number.ofPacket flow.packet)
        = number.ofPacket flow.packet := if_neg fun h => htype h.1
  rw [netflow9DecodeField] at h
  split at h
  · rename_i hsection
    rw [hother (by rw [hsection]; cases number <;> decide)]
    simp only [netflow9PacketSection, bind_eq_ok_iff] at h
    obtain ⟨parsed, -, h⟩ := h
    split at h <;> (obtain rfl := pure_eq_ok_iff.mp h; rfl)
  · split at h
    · rename_i rule hrule
      rw [hlength] at h
      rw [← FieldRule.apply_of_decode hbytes h]
      exact netflow9FieldRule_number hrule hkind bytes flow
    · rename_i hrule
      obtain rfl := Except.ok.inj h
      refine (hother fun htype => ?_).symm
      rw [htype] at hrule
      cases number <;> cases hrule

theorem keeps_any {α : Type} (p : Collect α) :
    Keeps (fun _ => True) (fun _ => True) p fun _ => True := by
  intro s _
  refine ⟨trivial, ?_⟩
  split <;> trivial

/-- What the fields of a record of NetFlow v9 make of a number. -/
theorem keeps_netflow9Fields {context : NetflowContext}
    {fields : List (TemplateRecord × List UInt8)} {flow : Flow}
    (h : FieldsAt m netflow9LengthAt offset fields) (hkinds : SetsPlainly fields) :
    Keeps (fun _ => True) (fun _ => True)
      (forFields (netflow9RecordToFlow context) m (fields.map Prod.fst) offset flow) fun flow' =>
        number.ofPacket flow'.packet
          = number.afterAll (typedFields fields) (number.ofPacket flow.packet) := by
  induction fields generalizing offset flow with
  | nil => exact keeps_pure rfl
  | cons field fields ih =>
    obtain ⟨record, bytes⟩ := field
    obtain ⟨hlength, hbytes, hrest⟩ := h
    have hlength : record.recordLength.toNat = bytes.length := Option.some_injective _ hlength
    rw [List.map_cons, forFields]
    have hfield : Keeps (fun _ => True) (fun _ => True)
        (netflow9RecordToFlow context (m.shift offset) record flow) fun flow' =>
          number.ofPacket flow'.packet
            = number.after record.recordType.toNat bytes (number.ofPacket flow.packet) := by
      refine Keeps.bind (keeps_liftM (fun flow' hflow' => ?_) fun _ _ => trivial) fun flow' hflow =>
        (keeps_any _).bind fun samplingRate _ => (keeps_any _).bind fun _ _ => keeps_pure hflow
      refine netflow9DecodeField_number hlength ?_ (hkinds _ List.mem_cons_self) hflow'
      rw [readBytes_shift]
      exact hbytes.readBytes
    refine hfield.bind fun flow' hflow => ?_
    have hrest := @ih _ flow' hrest fun field hmem => hkinds field (List.mem_cons_of_mem _ hmem)
    rw [hflow, ← hlength] at hrest
    exact hrest

/-! ### IPFIX -/

/-- The length of a field does not depend on the flow, nor the packet on the length. -/
theorem ipfixFieldLength_cases {setMaximumLength : ℕ} {record : TemplateRecord} {flow : Flow}
    {field : UInt32 × Flow}
    (h : ipfixFieldLength m setMaximumLength record offset flow = .ok field) :
    ipfixLengthAt m setMaximumLength record offset = some field.1.toNat ∧
      field.2.packet = flow.packet := by
  rw [ipfixFieldLength] at h
  rw [ipfixLengthAt, ipfixFieldLength]
  split at h
  · rename_i hvariable
    simp only [bind_eq_ok_iff, pure_eq_ok_iff] at h
    obtain ⟨info, hinfo, rfl⟩ := h
    rw [if_pos hvariable, hinfo]
    exact ⟨rfl, rfl⟩
  · rename_i hfixed
    obtain rfl := Except.ok.inj h
    rw [if_neg hfixed]
    exact ⟨rfl, rfl⟩

theorem ipfixFrameSection_packet {flow flow' : Flow} (h : ipfixFrameSection m flow = .ok flow') :
    flow'.packet = flow.packet := by
  rw [ipfixFrameSection] at h
  dsimp only at h
  split at h
  · obtain rfl := Except.ok.inj h
    rfl
  · simp only [bind_eq_ok_iff] at h
    obtain ⟨parsed, -, h⟩ := h
    split at h <;> (obtain rfl := pure_eq_ok_iff.mp h; rfl)

theorem ipfixRecordToFlow_number {type recordLength : UInt32} {flow flow' : Flow}
    (hlength : recordLength.toNat = bytes.length)
    (hbytes : m.readBytes 0 bytes.length = .ok bytes) (hkind : type.toNat ∉ setsOtherwise)
    (h : ipfixRecordToFlow m type recordLength flow = .ok flow') :
    number.ofPacket flow'.packet = number.after type.toNat bytes (number.ofPacket flow.packet) := by
  have hother (htype : type.toNat ≠ number.recordType) :
      number.after type.toNat bytes (number.ofPacket flow.packet)
        = number.ofPacket flow.packet := if_neg fun h => htype h.1
  rw [ipfixRecordToFlow] at h
  split at h
  · rename_i hsection
    rw [hother (by rw [hsection]; cases number <;> decide), ipfixFrameSection_packet h]
  · split at h
    · rename_i rule hrule
      rw [hlength] at h
      rw [← FieldRule.apply_of_decode hbytes h]
      exact ipfixFieldRule_number hrule hkind bytes flow
    · rename_i hrule
      obtain rfl := Except.ok.inj h
      refine (hother fun htype => ?_).symm
      rw [htype] at hrule
      cases number <;> cases hrule

/-- What the fields of a record of IPFIX make of a number. -/
theorem ipfixFields_number {setMaximumLength : ℕ} {fields : List (TemplateRecord × List UInt8)}
    {flow : Flow} {decoded : Flow × ℕ}
    (h : FieldsAt m (ipfixLengthAt m setMaximumLength) offset fields) (hkinds : SetsPlainly fields)
    (hrun : ipfixFields m setMaximumLength (fields.map Prod.fst) offset flow = .ok decoded) :
    number.ofPacket decoded.1.packet
      = number.afterAll (typedFields fields) (number.ofPacket flow.packet) := by
  induction fields generalizing offset flow with
  | nil =>
    obtain rfl := Except.ok.inj hrun
    rfl
  | cons field fields ih =>
    obtain ⟨record, bytes⟩ := field
    obtain ⟨hlength, hbytes, hrest⟩ := h
    simp only [List.map_cons, ipfixFields, bind_eq_ok_iff, rejectIf_eq_ok_iff] at hrun
    obtain ⟨⟨recordLength, noted⟩, hfield, -, -, next, hnext, hrun⟩ := hrun
    obtain ⟨hlength', hpacket⟩ := ipfixFieldLength_cases hfield
    have hlength : recordLength.toNat = bytes.length :=
      Option.some_injective _ (hlength'.symm.trans hlength)
    have hread : (m.shift offset).readBytes 0 bytes.length = .ok bytes := by
      rw [readBytes_shift]
      exact hbytes.readBytes
    have hstep := @ipfixRecordToFlow_number number _ _ _ _ _ _ hlength hread
      (hkinds _ List.mem_cons_self) hnext
    have hkinds' : SetsPlainly fields :=
      fun field hmem => hkinds field (List.mem_cons_of_mem _ hmem)
    rw [← hlength] at hrest
    rw [ih hrest hkinds' hrun, hstep, hpacket]
    rfl

/-! ### Main result -/

/-- The numbers of a packet before its fields are decoded are zero. -/
theorem ofPacket_freshPacket {context : NetflowContext} {timeSec : UInt32} {s s' : CollectorState}
    {packet : ParsedPacket} (h : freshPacket context timeSec s = (s', .ok packet)) :
    number.ofPacket packet = 0 := by
  cases h
  cases number <;> rfl

/-- **When reduced-size numbers are decoded exactly.**  In a record of NetFlow v9 or IPFIX in
which nothing else sets it, a number is that of the last field of its type that is not too long,
and zero without one, exactly if the earlier fields of the type left zeros in front of it. -/
theorem reducedSize_iff (context : NetflowContext) (timeSec : UInt32) (m : Memory)
    (fields : List (TemplateRecord × List UInt8)) (hkinds : SetsPlainly fields)
    {s s' : CollectorState} {packet : ParsedPacket}
    (hfresh : freshPacket context timeSec s = (s', .ok packet)) (number : ReducedNumber) :
    (FieldsAt m netflow9LengthAt 0 fields → ∀ flow,
      (forFields (netflow9RecordToFlow context) m (fields.map Prod.fst) 0 { packet } s').2
        = .ok flow →
      (number.ofPacket flow.packet = lastNumber (number.values (typedFields fields)) ↔
        FrontIsZero number.width (number.values (typedFields fields)))) ∧
    ∀ setMaximumLength, FieldsAt m (ipfixLengthAt m setMaximumLength) 0 fields → ∀ decoded,
      ipfixFields m setMaximumLength (fields.map Prod.fst) 0 { packet } = .ok decoded →
      (number.ofPacket decoded.1.packet = lastNumber (number.values (typedFields fields)) ↔
        FrontIsZero number.width (number.values (typedFields fields))) := by
  have hzero : number.ofPacket packet = 0 := ofPacket_freshPacket hfresh
  refine ⟨fun hfields flow hrun => ?_, fun setMaximumLength hfields decoded hrun => ?_⟩
  · have hkeeps :=
      (@keeps_netflow9Fields number m 0 context fields { packet } hfields hkinds s' trivial).2
    rw [hrun] at hkeeps
    rw [show number.ofPacket flow.packet = _ from hkeeps, hzero]
    exact number.afterAll_eq_iff _
  · rw [ipfixFields_number hfields hkinds hrun, hzero]
    exact number.afterAll_eq_iff _

/-- A counter of four bytes, and then one of two bytes. -/
def twoCounters : List (TemplateRecord × List UInt8) :=
  [({ recordType := 1, recordLength := 4 }, [0, 0, 0, 5]),
    ({ recordType := 1, recordLength := 2 }, [0, 1])]

theorem setsPlainly_twoCounters : SetsPlainly twoCounters := by
  rw [SetsPlainly]
  decide

/-- A counter of four bytes alone is decoded exactly. -/
theorem reducedSize_iff_oneCounter :
    ∃ packet flow, freshPacket exporter 0 {} = ({}, .ok packet) ∧
      (forFields (netflow9RecordToFlow exporter) (ofBytes [0, 0, 0, 5])
        [{ recordType := 1, recordLength := 4 }] 0 { packet } {}).2 = .ok flow ∧
      ReducedNumber.bytes.ofPacket flow.packet = 5 := by
  have hfields : FieldsAt (ofBytes [0, 0, 0, 5]) netflow9LengthAt 0 (twoCounters.take 1) :=
    ⟨rfl, holds_ofBytes [0, 0, 0, 5], trivial⟩
  have hplain : SetsPlainly (twoCounters.take 1) :=
    fun field hmem => setsPlainly_twoCounters field (List.mem_of_mem_take hmem)
  obtain ⟨packet, hfresh⟩ : ∃ packet, freshPacket exporter 0 {} = ({}, .ok packet) := ⟨_, rfl⟩
  refine ⟨packet, _, hfresh, rfl, ?_⟩
  have hexact := (reducedSize_iff exporter 0 _ (twoCounters.take 1) hplain hfresh .bytes).1 hfields
  exact (hexact _ rfl).mpr fun _ _ => trivial

/-- The first byte of the second counter is not the first one of the result. -/
theorem reducedSize_fails_twoCounters :
    ¬ ∀ (context : NetflowContext) (timeSec : UInt32) (m : Memory)
      (fields : List (TemplateRecord × List UInt8)), SetsPlainly fields →
      ∀ (s s' : CollectorState) (packet : ParsedPacket),
      freshPacket context timeSec s = (s', .ok packet) → ∀ number : ReducedNumber,
      FieldsAt m netflow9LengthAt 0 fields → ∀ flow,
      (forFields (netflow9RecordToFlow context) m (fields.map Prod.fst) 0 { packet } s').2
        = .ok flow →
      number.ofPacket flow.packet = lastNumber (number.values (typedFields fields)) := by
  intro hexact
  have hfields : FieldsAt (ofBytes [0, 0, 0, 5, 0, 1]) netflow9LengthAt 0 twoCounters :=
    ⟨rfl, holds_ofBytes_iff.mpr (by decide), rfl, holds_ofBytes_iff.mpr (by decide), trivial⟩
  have hnumber := hexact exporter 0 _ twoCounters setsPlainly_twoCounters {} {} _ rfl .bytes
    hfields _ rfl
  exact absurd hnumber (by decide)

end FastNetMon
