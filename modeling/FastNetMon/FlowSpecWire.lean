/-
FastNetMon/FlowSpecWire.lean

The pieces of the FlowSpec wire format that the encoders and the decoders
share: the operator bytes with their bit fields, the one-byte forms of TCP
flags and fragmentation flags, the component types, netmasks.

A bit field is laid out from the least significant bit on, as the compiler
does on a little-endian machine.  Values of the structures are written to the
wire with `toByte` and read from it with `ofByte`; the decoder reads both
kinds of operator byte through the first of the two structures.
-/
import FastNetMon.Types
import FastNetMon.Octets
import FastNetMon.Float32

namespace FastNetMon

/-! ### Component types -/

/-- `FLOW_SPEC_ENTITY_TYPES`. -/
inductive FlowSpecEntity
  | destinationPrefix
  | sourcePrefix
  | ipProtocol
  | port
  | destinationPort
  | sourcePort
  | icmpType
  | icmpCode
  | tcpFlags
  | packetLength
  | dscp
  | fragment
deriving DecidableEq, Repr

/-- The number of a component type on the wire. -/
def FlowSpecEntity.toByte : FlowSpecEntity → UInt8
  | destinationPrefix => 1
  | sourcePrefix => 2
  | ipProtocol => 3
  | port => 4
  | destinationPort => 5
  | sourcePort => 6
  | icmpType => 7
  | icmpCode => 8
  | tcpFlags => 9
  | packetLength => 10
  | dscp => 11
  | fragment => 12

/-! ### Operator bytes -/

instance neZeroFour : NeZero 4 := ⟨by decide⟩

/-- `bgp_flow_spec_operator_byte_t`. -/
structure BgpFlowSpecOperatorByte where
  equal : Bool := false
  greaterThan : Bool := false
  lessThan : Bool := false
  reserved : Bool := false
  bitShiftLen : Fin 4 := 0
  andBit : Bool := false
  endOfList : Bool := false
deriving DecidableEq, Repr

namespace BgpFlowSpecOperatorByte

/-- The byte of the bit field. -/
def toByte (op : BgpFlowSpecOperatorByte) : UInt8 :=
  .ofNat (op.equal.toNat + 2 * op.greaterThan.toNat + 4 * op.lessThan.toNat
    + 8 * op.reserved.toNat + 16 * op.bitShiftLen + 64 * op.andBit.toNat
    + 128 * op.endOfList.toNat)

/-- The bit field of a byte. -/
def ofByte (b : UInt8) : BgpFlowSpecOperatorByte where
  equal := b.toNat % 2 == 1
  greaterThan := b.toNat / 2 % 2 == 1
  lessThan := b.toNat / 4 % 2 == 1
  reserved := b.toNat / 8 % 2 == 1
  bitShiftLen := ⟨b.toNat / 16 % 4, Nat.mod_lt _ (by decide)⟩
  andBit := b.toNat / 64 % 2 == 1
  endOfList := b.toNat / 128 % 2 == 1

/-- `get_value_length`. -/
def getValueLength (op : BgpFlowSpecOperatorByte) : ℕ := 2 ^ op.bitShiftLen.val

@[simp] theorem ofByte_toByte (op : BgpFlowSpecOperatorByte) : ofByte op.toByte = op := by
  obtain ⟨e, g, l, r, n, a, t⟩ := op
  cases e <;> cases g <;> cases l <;> cases r <;> cases a <;> cases t <;> fin_cases n <;> rfl

@[simp] theorem toByte_ofByte (b : UInt8) : (ofByte b).toByte = b := by
  have hbit : ∀ n : ℕ, (n % 2 == 1).toNat = n % 2 := by
    intro n
    rcases Nat.mod_two_eq_zero_or_one n with h | h <;> simp [h]
  have hb := b.toNat_lt
  apply UInt8.toNat_inj.mp
  simp only [toByte, ofByte, hbit, UInt8.toNat_ofNat']
  omega

end BgpFlowSpecOperatorByte

/-- `bgp_flow_spec_bitmask_operator_byte_t`. -/
structure BgpFlowSpecBitmaskOperatorByte where
  matchBit : Bool := false
  notBit : Bool := false
  reserved2 : Bool := false
  reserved1 : Bool := false
  bitShiftLen : Fin 4 := 0
  andBit : Bool := false
  endOfList : Bool := false
deriving DecidableEq, Repr

namespace BgpFlowSpecBitmaskOperatorByte

/-- The same bits, read through the other structure. -/
def asOperatorByte (op : BgpFlowSpecBitmaskOperatorByte) : BgpFlowSpecOperatorByte where
  equal := op.matchBit
  greaterThan := op.notBit
  lessThan := op.reserved2
  reserved := op.reserved1
  bitShiftLen := op.bitShiftLen
  andBit := op.andBit
  endOfList := op.endOfList

/-- The byte of the bit field. -/
def toByte (op : BgpFlowSpecBitmaskOperatorByte) : UInt8 := op.asOperatorByte.toByte

end BgpFlowSpecBitmaskOperatorByte

/-! ### Flags in one byte -/

/-- `we_have_least_one_flag_enabled`. -/
def FlowSpecTcpFlagset.weHaveLeastOneFlagEnabled (flagset : FlowSpecTcpFlagset) : Bool :=
  flagset.synFlag || flagset.finFlag || flagset.urgFlag || flagset.ackFlag || flagset.pshFlag
    || flagset.rstFlag

/-- `return_in_one_byte_encoding`: the bits from 0 on are fin, syn, rst, psh,
ack, urg, ece and cwr. -/
def returnInOneByteEncoding (flagset : FlowSpecTcpFlagset) : UInt8 :=
  .ofNat (flagset.finFlag.toNat + 2 * flagset.synFlag.toNat + 4 * flagset.rstFlag.toNat
    + 8 * flagset.pshFlag.toNat + 16 * flagset.ackFlag.toNat + 32 * flagset.urgFlag.toNat)

/-- `convert_one_byte_encoding_to_flowset`. -/
def convertOneByteEncodingToFlowset (b : UInt8) : FlowSpecTcpFlagset where
  finFlag := b.toNat % 2 == 1
  synFlag := b.toNat / 2 % 2 == 1
  rstFlag := b.toNat / 4 % 2 == 1
  pshFlag := b.toNat / 8 % 2 == 1
  ackFlag := b.toNat / 16 % 2 == 1
  urgFlag := b.toNat / 32 % 2 == 1

/-- TCP flags come back from their one-byte form. -/
@[simp] theorem convertOneByteEncodingToFlowset_return (flagset : FlowSpecTcpFlagset) :
    convertOneByteEncodingToFlowset (returnInOneByteEncoding flagset) = flagset := by
  obtain ⟨s, a, f, p, r, u⟩ := flagset
  cases s <;> cases a <;> cases f <;> cases p <;> cases r <;> cases u <;> rfl

/-- `bgp_flow_spec_fragmentation_entity_t` as the encoder fills it. -/
def fragmentationEntity : FlowSpecFragmentationType → UInt8
  | .dontFragment => 1
  | .isAFragment => 2
  | .firstFragment => 4
  | .lastFragment => 8
  | .notAFragment => 0

/-- The flags that the decoder takes from a fragmentation byte, in the order in
which it looks for them. -/
def fragmentationFlagsOf (b : UInt8) : List FlowSpecFragmentationType :=
  let lastFragment := b.toNat / 8 % 2 == 1
  let firstFragment := b.toNat / 4 % 2 == 1
  let isFragment := b.toNat / 2 % 2 == 1
  let dontFragment := b.toNat % 2 == 1
  (if lastFragment then [.lastFragment] else [])
    ++ (if firstFragment then [.firstFragment] else [])
    ++ (if isFragment then [.isAFragment] else [])
    ++ (if dontFragment then [.dontFragment] else [])
    ++ (if !lastFragment && !firstFragment && !isFragment && !dontFragment then [.notAFragment]
        else [])

/-- A fragmentation flag comes back from its byte. -/
@[simp] theorem fragmentationFlagsOf_entity (flag : FlowSpecFragmentationType) :
    fragmentationFlagsOf (fragmentationEntity flag) = [flag] := by
  cases flag <;> rfl

/-! ### Prefixes -/

/-- `convert_cidr_to_binary_netmask`.  The shift count is taken modulo 32, as
the machine does where the source leaves it undefined. -/
def convertCidrToBinaryNetmask (cidr : UInt32) : UInt32 :=
  if cidr = 0 then 0 else byteSwap32 (0xFFFFFFFF <<< (32 - cidr))

/-- `ceil(float(cidr) / 8)`: the bytes that hold a prefix of `cidr` bits. -/
def prefixByteLength (cidr : ℕ) : ℕ := (roundToFloat cidr + 7) / 8

theorem prefixByteLength_of_lt {cidr : ℕ} (h : cidr < 2 ^ 24) :
    prefixByteLength cidr = (cidr + 7) / 8 := by
  rw [prefixByteLength, roundToFloat_of_lt h]

/-- A prefix of an IPv4 address takes at most four bytes. -/
theorem prefixByteLength_le_four {cidr : ℕ} (h : cidr ≤ 32) : prefixByteLength cidr ≤ 4 := by
  rw [prefixByteLength_of_lt (by omega)]
  omega

/-- The netmask has no bits in the bytes behind the prefix. -/
theorem byteOf32_netmask_eq_zero {cidr : UInt32} (h : cidr ≤ 32) {i : ℕ} (hi : i < 4)
    (hlen : prefixByteLength cidr.toNat ≤ i) :
    byteOf32 (convertCidrToBinaryNetmask cidr) i = 0 := by
  have key : ∀ c : Fin 33, ∀ i : Fin 4, (c.val + 7) / 8 ≤ i.val →
      byteOf32 (convertCidrToBinaryNetmask (.ofNat c.val)) i = 0 := by decide
  have hle : cidr.toNat ≤ 32 := UInt32.le_iff_toNat_le.mp h
  rw [prefixByteLength_of_lt (by omega)] at hlen
  have := key ⟨cidr.toNat, by omega⟩ ⟨i, hi⟩ hlen
  rwa [UInt32.ofNat_toNat] at this

/-- The netmask of a single address keeps every bit. -/
theorem and_netmask_32 (a : UInt32) : a &&& convertCidrToBinaryNetmask 32 = a := by
  have h : convertCidrToBinaryNetmask 32 = -1 := by decide
  rw [h, UInt32.and_neg_one]

end FastNetMon
