/-
FastNetMon/NlriDecode.lean

Decoding the matching part of a FlowSpec rule (`flow_spec_decode_nlri_value`,
`read_one_or_more_values_encoded_with_operator_byte`,
`decode_bgp_subnet_encoding_ipv4`).

The decoder walks a pointer over the bytes that the caller names by their
address and their number.  Differences of pointers are 64-bit numbers that the
source compares without a sign (`pointerDifference`).  The list reader takes at
most a hundred elements; if none of them had the end-of-list bit, it stops there
and still succeeds.

Besides the rule, the model returns where the decoder stopped and, for each
component, the span and the list elements it was read from.
-/
import FastNetMon.Memory
import FastNetMon.FlowSpecWire

namespace FastNetMon

/-- `end - p` for pointers, as the unsigned number it is compared as. -/
def pointerDifference (packetEnd p : ℕ) : ℕ :=
  if p ≤ packetEnd then (packetEnd - p) % 2 ^ 64 else 2 ^ 64 - (p - packetEnd) % 2 ^ 64

theorem pointerDifference_of_le {packetEnd p : ℕ} (h : p ≤ packetEnd)
    (hlt : packetEnd - p < 2 ^ 64) : pointerDifference packetEnd p = packetEnd - p := by
  rw [pointerDifference, if_pos h, Nat.mod_eq_of_lt hlt]

/-! ### Prefixes -/

/-- `decode_bgp_subnet_encoding_ipv4`: the prefix and the number of bytes read. -/
def decodeBgpSubnetEncodingIpv4 (m : Memory) (len value : ℕ) :
    Except Fault (SubnetCidrMask × ℕ) := do
  rejectIf (len = 0)
  let prefixCidrLength ← m.read value
  rejectIf (prefixCidrLength > 32)
  let byteLength := prefixByteLength prefixCidrLength.toNat
  let fullNlriLength := byteLength + 1
  rejectIf (len < fullNlriLength)
  -- the bytes that are not copied stay zero
  let copied ← m.readBytes (value + 1) byteLength
  let prefixIpv4 := ofBytes32 (copied.getD 0 0) (copied.getD 1 0) (copied.getD 2 0)
    (copied.getD 3 0)
  let netmask := convertCidrToBinaryNetmask prefixCidrLength.toUInt32
  return (⟨prefixIpv4 &&& netmask, prefixCidrLength.toUInt32⟩, fullNlriLength)

/-! ### Lists -/

/-- `flow_spec_enumerable_lement`. -/
structure FlowSpecEnumerableElement where
  oneByteValue : UInt8 := 0
  twoByteValue : UInt16 := 0
  valueLength : ℕ := 0
  operatorByte : BgpFlowSpecOperatorByte := {}
deriving DecidableEq, Repr

/-- One pass of the loop: the element at `p`. -/
def readElement (m : Memory) (packetEnd p : ℕ) : Except Fault FlowSpecEnumerableElement := do
  rejectIf (pointerDifference packetEnd p < 1)
  let op := BgpFlowSpecOperatorByte.ofByte (← m.read p)
  rejectIf (op.lessThan || op.greaterThan)
  rejectIf (op.andBit)
  rejectIf (op.getValueLength ≠ 2 ∧ op.getValueLength ≠ 1)
  rejectIf (pointerDifference packetEnd p < 1 + op.getValueLength)
  if op.getValueLength = 1 then
    let oneByteValue ← m.read (p + 1)
    return { oneByteValue, twoByteValue := oneByteValue.toUInt16, valueLength := 1,
             operatorByte := op }
  else
    let twoByteValue ← m.read16 (p + 1)
    return { twoByteValue := byteSwap16 twoByteValue, operatorByte := op }

/-- The number of bytes an element takes. -/
def FlowSpecEnumerableElement.size (element : FlowSpecEnumerableElement) : ℕ :=
  1 + element.operatorByte.getValueLength

/-- The loop of `read_one_or_more_values_encoded_with_operator_byte`: the
elements from `p` on, and the pointer behind them. -/
def readElements (m : Memory) (packetEnd : ℕ) :
    (passes p : ℕ) → Except Fault (List FlowSpecEnumerableElement × ℕ)
  | 0, p => .ok ([], p)
  | passes + 1, p => do
      let element ← readElement m packetEnd p
      if element.operatorByte.endOfList then return ([element], p + element.size)
      else
        let (elements, stop) ← readElements m packetEnd passes (p + element.size)
        return (element :: elements, stop)

/-- `read_one_or_more_values_encoded_with_operator_byte`. -/
def readOneOrMoreValuesEncodedWithOperatorByte (m : Memory) (start packetEnd : ℕ) :
    Except Fault (List FlowSpecEnumerableElement × ℕ) :=
  readElements m packetEnd 100 start

/-! ### Adding list elements to a rule -/

/-- Protocol numbers above 255 are turned down. -/
def addProtocols (rule : FlowSpecRule) (items : List FlowSpecEnumerableElement) :
    Except Fault FlowSpecRule := do
  rejectIf (items.any (·.twoByteValue > 255))
  return { rule with
    protocols := rule.protocols ++ items.map (⟨·.twoByteValue.toUInt8⟩) }

/-- Only one-byte TCP flags are supported; a set without flags is not added. -/
def addTcpFlags (rule : FlowSpecRule) (items : List FlowSpecEnumerableElement) :
    Except Fault FlowSpecRule := do
  rejectIf (items.any (·.valueLength ≠ 1))
  return { rule with
    tcpFlags := rule.tcpFlags ++ (items.map (convertOneByteEncodingToFlowset ·.oneByteValue)).filter
      (·.weHaveLeastOneFlagEnabled) }

/-- Only one-byte fragmentation flags are supported. -/
def addFragmentationFlags (rule : FlowSpecRule) (items : List FlowSpecEnumerableElement) :
    Except Fault FlowSpecRule := do
  rejectIf (items.any (·.valueLength ≠ 1))
  return { rule with
    fragmentationFlags :=
      rule.fragmentationFlags ++ items.flatMap (fragmentationFlagsOf ·.oneByteValue) }

/-- Packet lengths: all of them are added. -/
def addPacketLengths (rule : FlowSpecRule) (items : List FlowSpecEnumerableElement) :
    Except Fault FlowSpecRule :=
  return { rule with packetLengths := rule.packetLengths ++ items.map (·.twoByteValue) }

/-- Source ports: all of them are added. -/
def addSourcePorts (rule : FlowSpecRule) (items : List FlowSpecEnumerableElement) :
    Except Fault FlowSpecRule :=
  return { rule with sourcePorts := rule.sourcePorts ++ items.map (·.twoByteValue) }

/-- Destination ports: all of them are added. -/
def addDestinationPorts (rule : FlowSpecRule) (items : List FlowSpecEnumerableElement) :
    Except Fault FlowSpecRule :=
  return { rule with destinationPorts := rule.destinationPorts ++ items.map (·.twoByteValue) }

/-! ### The decoder -/

/-- A component that the decoder has read: its type, the span of bytes it came
from, and its elements if it is a list. -/
structure NlriComponent where
  type : UInt8
  start : ℕ
  stop : ℕ
  items : Option (List FlowSpecEnumerableElement) := none
deriving DecidableEq, Repr

/-- A list component: skip the type, read the elements, add them. -/
def decodeListComponent (m : Memory) (packetEnd : ℕ) (rule : FlowSpecRule) (p : ℕ) (type : UInt8)
    (add : FlowSpecRule → List FlowSpecEnumerableElement → Except Fault FlowSpecRule) :
    Except Fault (FlowSpecRule × NlriComponent) := do
  let (items, stop) ← readOneOrMoreValuesEncodedWithOperatorByte m (p + 1) packetEnd
  let rule ← add rule items
  return (rule, { type, start := p, stop, items := some items })

/-- A prefix component: only one of its type, at least two bytes. -/
def decodePrefixComponent (m : Memory) (packetEnd : ℕ) (rule : FlowSpecRule) (p : ℕ) (type : UInt8)
    (used : FlowSpecRule → Bool) (set : FlowSpecRule → SubnetCidrMask → FlowSpecRule) :
    Except Fault (FlowSpecRule × NlriComponent) := do
  rejectIf (used rule)
  let fieldLength := pointerDifference packetEnd p % 2 ^ 32
  rejectIf (fieldLength < 2)
  let (extractedPrefix, parsedNlriLength) ←
    decodeBgpSubnetEncodingIpv4 m (fieldLength - 1) (p + 1)
  return (set rule extractedPrefix, { type, start := p, stop := p + 1 + parsedNlriLength })

/-- `set_source_subnet_ipv4`. -/
def FlowSpecRule.setSourceSubnetIpv4 (rule : FlowSpecRule) (subnet : SubnetCidrMask) :
    FlowSpecRule :=
  { rule with sourceSubnetIpv4 := subnet, sourceSubnetIpv4Used := true }

/-- `set_destination_subnet_ipv4`. -/
def FlowSpecRule.setDestinationSubnetIpv4 (rule : FlowSpecRule) (subnet : SubnetCidrMask) :
    FlowSpecRule :=
  { rule with destinationSubnetIpv4 := subnet, destinationSubnetIpv4Used := true }

/-- One pass of the loop of `flow_spec_decode_nlri_value`: the component at `p`.
`FLOW_SPEC_ENTITY_PORT` and the types without a branch are turned down. -/
def decodeComponent (m : Memory) (packetEnd : ℕ) (rule : FlowSpecRule) (p : ℕ) :
    Except Fault (FlowSpecRule × NlriComponent) := do
  let currentType ← m.read p
  if currentType = FlowSpecEntity.sourcePrefix.toByte then
    decodePrefixComponent m packetEnd rule p currentType (·.sourceSubnetIpv4Used)
      (·.setSourceSubnetIpv4 ·)
  else if currentType = FlowSpecEntity.destinationPrefix.toByte then
    decodePrefixComponent m packetEnd rule p currentType (·.destinationSubnetIpv4Used)
      (·.setDestinationSubnetIpv4 ·)
  else if currentType = FlowSpecEntity.port.toByte then throw .rejected
  else if currentType = FlowSpecEntity.ipProtocol.toByte then
    decodeListComponent m packetEnd rule p currentType addProtocols
  else if currentType = FlowSpecEntity.tcpFlags.toByte then
    decodeListComponent m packetEnd rule p currentType addTcpFlags
  else if currentType = FlowSpecEntity.fragment.toByte then
    decodeListComponent m packetEnd rule p currentType addFragmentationFlags
  else if currentType = FlowSpecEntity.packetLength.toByte then
    decodeListComponent m packetEnd rule p currentType addPacketLengths
  else if currentType = FlowSpecEntity.sourcePort.toByte then
    decodeListComponent m packetEnd rule p currentType addSourcePorts
  else if currentType = FlowSpecEntity.destinationPort.toByte then
    decodeListComponent m packetEnd rule p currentType addDestinationPorts
  else throw .rejected

/-- What a successful decoder leaves: the rule, its pointer, and the components
in the order in which it read them. -/
structure DecodedNlri where
  rule : FlowSpecRule
  position : ℕ
  components : List NlriComponent
deriving DecidableEq

/-- The loop of `flow_spec_decode_nlri_value`. -/
def decodeComponents (m : Memory) (packetEnd : ℕ) :
    (fuel : ℕ) → FlowSpecRule → ℕ → Except Fault DecodedNlri
  | 0, _, _ => .error .outOfFuel
  | fuel + 1, rule, p => do
      if p < packetEnd then
        let (rule, component) ← decodeComponent m packetEnd rule p
        let decoded ← decodeComponents m packetEnd fuel rule component.stop
        return { decoded with components := component :: decoded.components }
      else return ⟨rule, p, []⟩

/-- `flow_spec_decode_nlri_value`.  A warning is all that follows if the
pointer is not at the end after the loop. -/
def flowSpecDecodeNlriValue (m : Memory) (dataPtr : ℕ) (dataLength : UInt32)
    (rule : FlowSpecRule) : Except Fault DecodedNlri :=
  decodeComponents m (dataPtr + dataLength.toNat) (dataLength.toNat + 1) rule dataPtr

end FastNetMon
