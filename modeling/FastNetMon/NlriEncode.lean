/-
FastNetMon/NlriEncode.lean

Encoding the matching part of a FlowSpec rule
(`encode_bgp_flow_spec_elements_as_mp_nlri`, `encode_bgp_subnet_encoding`).

The encoder appends the components in a fixed order to a buffer of 2048 bytes;
a list is its type byte followed by one operator byte and one value for each
element, with the end-of-list bit in the last operator byte.  A TCP flag set
without flags makes the encoder return early.

`behind` stands for the bytes in memory behind the four bytes of the address
variable: a prefix longer than 32 bits makes the encoder copy these as well.

Main results: the encoder succeeds exactly on rules without an empty flag set
whose encoding fits the buffer, and then gives `nlriBytes`
(`encodeBgpFlowSpecElementsAsMpNlri_eq`); the length of that encoding in terms
of the lists of the rule (`nlriBytes_length`).
-/
import FastNetMon.BinaryBuffer
import FastNetMon.FlowSpecWire

namespace FastNetMon

variable (behind : ℕ → UInt8)

/-! ### Prefixes -/

/-- The first `n` bytes at the address of a 32-bit variable. -/
def bytesAt (w : UInt32) (n : ℕ) : ByteString :=
  (bytes32 w ++ (List.range (n - 4)).map behind).take n

/-- `encode_bgp_subnet_encoding`. -/
def encodeBgpSubnetEncoding (subnet : SubnetCidrMask) : DynamicBinaryBuffer :=
  let prefixBitLength := subnet.cidrPrefixLength
  let byteLength := prefixByteLength prefixBitLength.toNat
  let buffer := DynamicBinaryBuffer.ofSize (1 + byteLength)
  let buffer := buffer.append [prefixBitLength.toUInt8]
  let subnetAddress := subnet.subnetAddress &&& convertCidrToBinaryNetmask prefixBitLength
  buffer.append (bytesAt behind subnetAddress byteLength)

/-! ### Lists -/

/-- What a list loop appends for one element; the flag says whether it is the
last one, `std::distance(itr, end) == 1`. -/
abbrev ItemEncoder (α : Type) := α → Bool → List ByteString

/-- The loop over the protocols. -/
def encodeProtocol : ItemEncoder IpProtocol := fun protocol last =>
  let op : BgpFlowSpecOperatorByte := { bitShiftLen := 0, equal := true, endOfList := last }
  [[op.toByte], [protocol.asNumber]]

/-- The loops over destination ports, source ports and packet lengths. -/
def encodeTwoByteValue : ItemEncoder UInt16 := fun value last =>
  let op : BgpFlowSpecOperatorByte := { bitShiftLen := 1, equal := true, endOfList := last }
  [[op.toByte], bytes16 (byteSwap16 value)]

/-- The loop over the TCP flags. -/
def encodeTcpFlags (setMatchBit : Bool) : ItemEncoder FlowSpecTcpFlagset := fun flagset last =>
  let op : BgpFlowSpecBitmaskOperatorByte :=
    { bitShiftLen := 0, endOfList := last, matchBit := setMatchBit }
  [[op.toByte], [returnInOneByteEncoding flagset]]

/-- The loop over the fragmentation flags. -/
def encodeFragmentation (setMatchBit : Bool) : ItemEncoder FlowSpecFragmentationType :=
  fun flag last =>
    let op : BgpFlowSpecBitmaskOperatorByte :=
      { bitShiftLen := 0, endOfList := last, matchBit := setMatchBit }
    [[op.toByte], [fragmentationEntity flag]]

/-- The pieces that a list loop appends. -/
def listPieces {α : Type} (encode : ItemEncoder α) : List α → List ByteString
  | [] => []
  | x :: xs => encode x xs.isEmpty ++ listPieces encode xs

/-- A list component: nothing for an empty list, else the type and the loop. -/
def componentPieces {α : Type} (type : FlowSpecEntity) (encode : ItemEncoder α) (xs : List α) :
    List ByteString :=
  if xs.length > 0 then [type.toByte] :: listPieces encode xs else []

/-! ### The encoder -/

/-- `encode_bgp_flow_spec_elements_as_mp_nlri`. -/
def encodeBgpFlowSpecElementsAsMpNlri (rule : FlowSpecRule) : Option ByteString :=
  let buffer := DynamicBinaryBuffer.ofSize 2048
  let buffer :=
    if rule.destinationSubnetIpv4Used then
      (buffer.append [FlowSpecEntity.destinationPrefix.toByte]).append
        (encodeBgpSubnetEncoding behind rule.destinationSubnetIpv4).data
    else buffer
  let buffer :=
    if rule.sourceSubnetIpv4Used then
      (buffer.append [FlowSpecEntity.sourcePrefix.toByte]).append
        (encodeBgpSubnetEncoding behind rule.sourceSubnetIpv4).data
    else buffer
  let buffer := buffer.appendAll (componentPieces .ipProtocol encodeProtocol rule.protocols)
  let buffer :=
    buffer.appendAll (componentPieces .destinationPort encodeTwoByteValue rule.destinationPorts)
  let buffer := buffer.appendAll (componentPieces .sourcePort encodeTwoByteValue rule.sourcePorts)
  -- the loop over the flags returns `false` at the first set without flags
  if rule.tcpFlags.any (!·.weHaveLeastOneFlagEnabled) then none
  else
    let buffer := buffer.appendAll
      (componentPieces .tcpFlags (encodeTcpFlags rule.setMatchBitForTcpFlags) rule.tcpFlags)
    let buffer :=
      buffer.appendAll (componentPieces .packetLength encodeTwoByteValue rule.packetLengths)
    let buffer := buffer.appendAll (componentPieces .fragment
      (encodeFragmentation rule.setMatchBitForFragmentationFlags) rule.fragmentationFlags)
    buffer.result

/-! ### Its closed form -/

/-- The bytes of a prefix component. -/
def prefixBytes (type : FlowSpecEntity) (used : Bool) (subnet : SubnetCidrMask) : ByteString :=
  if used then
    type.toByte :: subnet.cidrPrefixLength.toUInt8 ::
      bytesAt behind (subnet.subnetAddress &&& convertCidrToBinaryNetmask subnet.cidrPrefixLength)
        (prefixByteLength subnet.cidrPrefixLength.toNat)
  else []

/-- The bytes of a list component. -/
def componentBytes {α : Type} (type : FlowSpecEntity) (encode : ItemEncoder α) (xs : List α) :
    ByteString :=
  (componentPieces type encode xs).flatten

/-- The encoding of a rule, whatever its length. -/
def nlriBytes (rule : FlowSpecRule) : ByteString :=
  prefixBytes behind .destinationPrefix rule.destinationSubnetIpv4Used rule.destinationSubnetIpv4
    ++ prefixBytes behind .sourcePrefix rule.sourceSubnetIpv4Used rule.sourceSubnetIpv4
    ++ componentBytes .ipProtocol encodeProtocol rule.protocols
    ++ componentBytes .destinationPort encodeTwoByteValue rule.destinationPorts
    ++ componentBytes .sourcePort encodeTwoByteValue rule.sourcePorts
    ++ componentBytes .tcpFlags (encodeTcpFlags rule.setMatchBitForTcpFlags) rule.tcpFlags
    ++ componentBytes .packetLength encodeTwoByteValue rule.packetLengths
    ++ componentBytes .fragment (encodeFragmentation rule.setMatchBitForFragmentationFlags)
        rule.fragmentationFlags

/-- Some TCP flag set of the rule has no flag. -/
def HasEmptyFlagset (rule : FlowSpecRule) : Prop :=
  ∃ flagset ∈ rule.tcpFlags, flagset.weHaveLeastOneFlagEnabled = false

instance (rule : FlowSpecRule) : Decidable (HasEmptyFlagset rule) :=
  inferInstanceAs (Decidable (∃ flagset ∈ rule.tcpFlags, _ = false))

@[simp] theorem bytesAt_length (w : UInt32) (n : ℕ) : (bytesAt behind w n).length = n := by
  rw [bytesAt, List.length_take, List.length_append, bytes32_length, List.length_map,
    List.length_range]
  omega

/-- The first four bytes do not depend on what stands behind the variable. -/
theorem bytesAt_of_le_four (w : UInt32) {n : ℕ} (h : n ≤ 4) :
    bytesAt behind w n = (bytes32 w).take n := by
  rw [bytesAt, List.take_append_of_le_length (by rw [bytes32_length]; exact h)]

/-- The bytes that `encode_bgp_subnet_encoding` leaves in its buffer. -/
theorem encodeBgpSubnetEncoding_data (subnet : SubnetCidrMask) :
    (encodeBgpSubnetEncoding behind subnet).data
      = subnet.cidrPrefixLength.toUInt8 ::
        bytesAt behind
          (subnet.subnetAddress &&& convertCidrToBinaryNetmask subnet.cidrPrefixLength)
          (prefixByteLength subnet.cidrPrefixLength.toNat) := by
  simp [encodeBgpSubnetEncoding, DynamicBinaryBuffer.ofSize, DynamicBinaryBuffer.append]

/-- A prefix component appends the bytes of that component. -/
theorem appendPrefix (buffer : DynamicBinaryBuffer) (type : FlowSpecEntity) (used : Bool)
    (subnet : SubnetCidrMask) :
    (if used then
        (buffer.append [type.toByte]).append (encodeBgpSubnetEncoding behind subnet).data
      else buffer)
      = buffer.appendAll
          (if used then [[type.toByte], (encodeBgpSubnetEncoding behind subnet).data]
            else []) := by
  cases used <;> rfl

theorem prefixPieces_flatten (type : FlowSpecEntity) (used : Bool) (subnet : SubnetCidrMask) :
    (if used then [[type.toByte], (encodeBgpSubnetEncoding behind subnet).data]
        else []).flatten = prefixBytes behind type used subnet := by
  cases used <;> simp [prefixBytes, encodeBgpSubnetEncoding_data]

/-- **The encoder in closed form.** -/
theorem encodeBgpFlowSpecElementsAsMpNlri_eq (rule : FlowSpecRule) :
    encodeBgpFlowSpecElementsAsMpNlri behind rule
      = if ¬ HasEmptyFlagset rule ∧ (nlriBytes behind rule).length ≤ 2048 then
          some (nlriBytes behind rule)
        else none := by
  have hany : rule.tcpFlags.any (!·.weHaveLeastOneFlagEnabled) = true ↔ HasEmptyFlagset rule := by
    simp [HasEmptyFlagset]
  rw [encodeBgpFlowSpecElementsAsMpNlri]
  simp only [hany, appendPrefix, ← DynamicBinaryBuffer.appendAll_append]
  by_cases hempty : HasEmptyFlagset rule
  · simp [hempty]
  · rw [if_neg hempty, DynamicBinaryBuffer.result_appendAll_ofSize]
    simp only [List.flatten_append, prefixPieces_flatten, ← componentBytes.eq_1, hempty,
      not_false_eq_true, true_and, nlriBytes]

/-! ### Its length -/

/-- The length of a prefix component. -/
def prefixLength (used : Bool) (subnet : SubnetCidrMask) : ℕ :=
  if used then 2 + prefixByteLength subnet.cidrPrefixLength.toNat else 0

/-- The length of a list component whose elements take `n` bytes each. -/
def componentLength {α : Type} (n : ℕ) (xs : List α) : ℕ :=
  if xs.length > 0 then 1 + n * xs.length else 0

/-- The number of bytes that the matching part of a rule needs. -/
def nlriLength (rule : FlowSpecRule) : ℕ :=
  prefixLength rule.destinationSubnetIpv4Used rule.destinationSubnetIpv4
    + prefixLength rule.sourceSubnetIpv4Used rule.sourceSubnetIpv4
    + componentLength 2 rule.protocols
    + componentLength 3 rule.destinationPorts
    + componentLength 3 rule.sourcePorts
    + componentLength 2 rule.tcpFlags
    + componentLength 3 rule.packetLengths
    + componentLength 2 rule.fragmentationFlags

theorem prefixBytes_length (type : FlowSpecEntity) (used : Bool) (subnet : SubnetCidrMask) :
    (prefixBytes behind type used subnet).length = prefixLength used subnet := by
  cases used
  · rfl
  · simp only [prefixBytes, prefixLength, if_true, List.length_cons, bytesAt_length]
    omega

theorem listPieces_length {α : Type} {encode : ItemEncoder α} {n : ℕ}
    (hn : ∀ x last, (encode x last).flatten.length = n) (xs : List α) :
    (listPieces encode xs).flatten.length = n * xs.length := by
  induction xs with
  | nil => rfl
  | cons x xs ih =>
    rw [listPieces, List.flatten_append, List.length_append, hn, ih, List.length_cons]
    ring

theorem componentBytes_length {α : Type} {encode : ItemEncoder α} {n : ℕ}
    (hn : ∀ x last, (encode x last).flatten.length = n) (type : FlowSpecEntity) (xs : List α) :
    (componentBytes type encode xs).length = componentLength n xs := by
  rw [componentBytes, componentPieces, componentLength]
  split
  · rw [List.flatten_cons, List.length_append, listPieces_length hn, List.length_singleton]
  · rfl

/-- **The length of an encoding depends on the list lengths and the prefix
lengths only.** -/
theorem nlriBytes_length (rule : FlowSpecRule) :
    (nlriBytes behind rule).length = nlriLength rule := by
  simp only [nlriBytes, List.length_append, prefixBytes_length, nlriLength]
  rw [componentBytes_length (n := 2) fun _ _ => rfl, componentBytes_length (n := 3) fun _ _ => rfl,
    componentBytes_length (n := 3) fun _ _ => rfl, componentBytes_length (n := 2) fun _ _ => rfl,
    componentBytes_length (n := 3) fun _ _ => rfl, componentBytes_length (n := 2) fun _ _ => rfl]

/-- The encoder succeeds exactly on rules without an empty flag set that need
at most 2048 bytes. -/
theorem encodeBgpFlowSpecElementsAsMpNlri_eq_some_iff {rule : FlowSpecRule} {bytes : ByteString} :
    encodeBgpFlowSpecElementsAsMpNlri behind rule = some bytes ↔
      ¬ HasEmptyFlagset rule ∧ nlriLength rule ≤ 2048 ∧ bytes = nlriBytes behind rule := by
  rw [encodeBgpFlowSpecElementsAsMpNlri_eq, nlriBytes_length]
  split
  · rename_i h
    simp only [Option.some.injEq, h, not_false_eq_true, true_and]
    exact eq_comm
  · rename_i h
    simp only [reduceCtorEq, false_iff]
    rintro ⟨h₁, h₂, -⟩
    exact h ⟨h₁, h₂⟩

end FastNetMon
