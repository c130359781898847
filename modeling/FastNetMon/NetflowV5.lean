/-
FastNetMon/NetflowV5.lean

The collector of NetFlow v5 (`netflow_v5_collector.cpp`).

A datagram is a header and up to 30 flows of the same layout; nothing is kept from one
datagram to the next.  The sampling rate stands in the header, below two bits of the
sampling mode, and one of 0 counts as 1: the ratio of every packet is between 1 and
`2 ^ 14 - 1` (`netflow5SamplingRatio_mem`).
-/
import FastNetMon.PacketParser
import FastNetMon.NetflowCollector

namespace FastNetMon

open Memory Procedure

/-! ### Headers and flows -/

/-- `clear_bit_value`; bits are counted from 1. -/
def clearBitValue (num : UInt16) (bit : ℕ) : UInt16 :=
  if 0 < bit ∧ bit ≤ 16 then num &&& ~~~(.ofNat (2 ^ (bit - 1))) else num

/-- The sampling ratio of the flows of a datagram with this sampling rate in its header. -/
def netflow5SamplingRatio (samplingRate : UInt16) : UInt16 :=
  let cleared := clearBitValue (clearBitValue samplingRate 15) 16
  -- sampling is not enabled on the device
  if cleared = 0 then 1 else cleared

/-- `netflow5_header_t`, 24 bytes, as far as it is used. -/
structure Netflow5Header where
  flows : UInt16
  timeSec : UInt32
  timeNanosec : UInt32
  samplingRate : UInt16
deriving DecidableEq, Repr

/-- The header of a datagram that starts at address 0. -/
def readNetflow5Header (m : Memory) : Except Fault Netflow5Header := do
  let flows ← m.readNtohs 2
  let timeSec ← m.readNtohl 8
  let timeNanosec ← m.readNtohl 12
  let samplingRate ← m.readNtohs 22
  return ⟨flows, timeSec, timeNanosec, samplingRate⟩

/-- `NETFLOW5_MAXFLOWS`. -/
def netflow5MaxFlows : ℕ := 30

/-- `NETFLOW5_PACKET_SIZE`. -/
def netflow5PacketSize (nflows : ℕ) : ℕ := 24 + nflows * 48

/-- The protocol of a flow and its TCP flags, for the protocols that are told apart. -/
def netflow5Protocol (protocol tcpFlags : UInt8) (packet : ParsedPacket) : ParsedPacket :=
  if protocol = 1 then { packet with protocol := 1 }
  else if protocol = 6 then { packet with protocol := 6, flags := tcpFlags }
  else if protocol = 17 then { packet with protocol := 17 }
  else packet

variable (context : NetflowContext)

/-- `netflow5_flow_t`, 48 bytes, converted to a packet; the memory is seen from the flow. -/
def netflow5FlowToPacket (header : Netflow5Header) (m : Memory) : Except Fault ParsedPacket := do
  let srcIp ← m.read32 0
  let dstIp ← m.read32 4
  let inputInterface ← m.readNtohs 12
  let outputInterface ← m.readNtohs 14
  let flowPackets ← m.readNtohl 16
  let flowOctets ← m.readNtohl 20
  let sourcePort ← m.readNtohs 32
  let destinationPort ← m.readNtohs 34
  let tcpFlags ← m.read 37
  let protocol ← m.read 38
  let srcAsn ← m.readNtohs 40
  let dstAsn ← m.readNtohs 42
  return netflow5Protocol protocol tcpFlags {
    source := .netflow
    arrivalTime := context.currentInaccurateTime
    agentIpv4Address := context.clientIpv4Address
    srcIp, dstIp
    tsSec := .ofNat header.timeSec.toNat
    tsUsec := .ofNat header.timeNanosec.toNat
    srcAsn := srcAsn.toUInt32
    dstAsn := dstAsn.toUInt32
    inputInterface := inputInterface.toUInt32
    outputInterface := outputInterface.toUInt32
    length := flowOctets.toUInt64
    ipLength := flowOctets.toUInt64
    numberOfPackets := flowPackets.toUInt64
    sampleRatio := (netflow5SamplingRatio header.samplingRate).toUInt32
    sourcePort, destinationPort
    ipProtocolVersion := 4 }

/-! ### Datagrams -/

/-- The body of the loop over the flows; the packets that were handed over are the state. -/
def processNetflow5Flow (header : Netflow5Header) (packet : Memory) (packetLength i : ℕ) :
    Procedure (List ParsedPacket) Fault Unit := do
  let offset := netflow5PacketSize i
  rejectIf (offset + 48 > packetLength)
  let currentPacket ← netflow5FlowToPacket context header (packet.shift offset)
  modify fun handed => handed ++ [currentPacket]

/-- `process_netflow_packet_v5`. -/
def processNetflowPacketV5 (packet : Memory) (packetLength : ℕ) :
    Procedure (List ParsedPacket) Fault Unit := do
  rejectIf (packetLength < 24)
  let header ← readNetflow5Header packet
  let numberOfFlows := header.flows.toNat
  rejectIf (numberOfFlows = 0 ∨ numberOfFlows > netflow5MaxFlows)
  (List.range numberOfFlows).forM (processNetflow5Flow context header packet packetLength)

/-! ### The sampling ratio -/

/-- The two upper bits are cleared. -/
theorem toNat_clearBits (samplingRate : UInt16) :
    (clearBitValue (clearBitValue samplingRate 15) 16).toNat = samplingRate.toNat % 2 ^ 14 := by
  rw [clearBitValue, clearBitValue, if_pos (by decide), if_pos (by decide), UInt16.and_assoc]
  show (samplingRate &&& (0x3fff : UInt16)).toNat = _
  rw [UInt16.toNat_and]
  exact Nat.and_two_pow_sub_one_eq_mod _ 14

/-- A ratio of at least 1, and below the bits of the mode. -/
theorem netflow5SamplingRatio_mem (samplingRate : UInt16) :
    1 ≤ (netflow5SamplingRatio samplingRate).toNat ∧
      (netflow5SamplingRatio samplingRate).toNat < 2 ^ 14 := by
  have hclear := toNat_clearBits samplingRate
  rw [netflow5SamplingRatio]
  split
  · decide
  · rename_i hne
    have hpos : (clearBitValue (clearBitValue samplingRate 15) 16).toNat ≠ 0 := fun hzero =>
      hne (UInt16.toNat_inj.mp hzero)
    omega

theorem netflow5FlowToPacket_sampleRatio {header : Netflow5Header} {m : Memory}
    {packet : ParsedPacket} (h : netflow5FlowToPacket context header m = .ok packet) :
    packet.sampleRatio.toNat = (netflow5SamplingRatio header.samplingRate).toNat := by
  simp only [netflow5FlowToPacket, bind_eq_ok_iff, pure_eq_ok_iff] at h
  obtain ⟨_, -, _, -, _, -, _, -, _, -, _, -, _, -, _, -, _, -, _, -, _, -, _, -, rfl⟩ := h
  rw [netflow5Protocol]
  split
  · exact UInt16.toNat_toUInt32 _
  · split
    · exact UInt16.toNat_toUInt32 _
    · split <;> exact UInt16.toNat_toUInt32 _

/-- What the packets of a datagram keep, if every packet with a usable ratio does. -/
theorem preserves_processNetflowPacketV5 {I : List ParsedPacket → Prop}
    (h : ∀ handed packet, 1 ≤ packet.sampleRatio → I handed → I (handed ++ [packet]))
    (packet : Memory) (packetLength : ℕ) :
    Preserves I (processNetflowPacketV5 context packet packetLength) := by
  refine (preserves_liftM _).bind fun _ => (preserves_liftM _).bind fun header =>
    (preserves_liftM _).bind fun _ => keeps_forM fun i _ => ?_
  refine (preserves_liftM _).bind fun _ => Keeps.bind (Q := fun packet => 1 ≤ packet.sampleRatio)
    (keeps_liftM (fun packet hpacket => ?_) fun _ _ => trivial) fun current hratio => ?_
  · rw [UInt32.le_iff_toNat_le, netflow5FlowToPacket_sampleRatio context hpacket]
    exact (netflow5SamplingRatio_mem header.samplingRate).1
  · exact keeps_modify fun handed => h handed current hratio

end FastNetMon
