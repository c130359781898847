/-
FastNetMon/PacketParserBounds.lean

The packet parsers stay inside the capture.

Every header is compared with the end of the capture before it is read, so a
parser ends with a code wherever the bytes between its pointer and the end of
the capture can be read.  A layer-4 payload that it sets begins behind the UDP
header and ends with the capture (`PayloadPlaced`).

`parseRawPacket_inside`, `parseRawIpv4Packet_inside` and
`parseRawIpv6Packet_inside` say so of a capture anywhere in memory.  Main result:
in a memory that holds the capture and nothing else, the three parsers end with a
code (`packet_parsers_stay_inside`).
-/
import FastNetMon.PacketParser
import FastNetMon.ReaderExtension

namespace FastNetMon

open Memory

variable {m : Memory} {lo p : ℕ} {n : ℕ}

/-! ### Headers -/

theorem Memory.Readable.readEthernetHeader (h : m.Readable lo n) (hlo : lo ≤ p)
    (hhi : p + 14 ≤ n) : ∃ header, readEthernetHeader m p = .ok header := by
  obtain ⟨destination, hdestination⟩ := (h.mono hlo (by omega)).readBytes (p := p) (n := 6)
  obtain ⟨source, hsource⟩ :=
    (h.mono (by omega) (by omega)).readBytes (p := p + 6) (n := 6)
  obtain ⟨ethertype, hethertype⟩ := h.readNtohs (p := p + 12) (by omega) (by omega)
  exact ⟨_, by rw [FastNetMon.readEthernetHeader, hdestination, ok_bind, hsource, ok_bind,
    hethertype]; rfl⟩

theorem Memory.Readable.readIpv4Header (h : m.Readable lo n) (hlo : lo ≤ p)
    (hhi : p + 20 ≤ n) : ∃ header, readIpv4Header m p = .ok header := by
  obtain ⟨versionAndIhl, h₁, -⟩ := h.read (p := p) (by omega) (by omega)
  obtain ⟨totalLength, h₂⟩ := h.readNtohs (p := p + 2) (by omega) (by omega)
  obtain ⟨fragmentation, h₃⟩ := h.readNtohs (p := p + 6) (by omega) (by omega)
  obtain ⟨ttl, h₄, -⟩ := h.read (p := p + 8) (by omega) (by omega)
  obtain ⟨protocol, h₅, -⟩ := h.read (p := p + 9) (by omega) (by omega)
  obtain ⟨source, h₆⟩ := h.read32 (p := p + 12) (by omega) (by omega)
  obtain ⟨destination, h₇⟩ := h.read32 (p := p + 16) (by omega) (by omega)
  exact ⟨_, by rw [FastNetMon.readIpv4Header, h₁, ok_bind, h₂, ok_bind, h₃, ok_bind, h₄,
    ok_bind, h₅, ok_bind, h₆, ok_bind, h₇]; rfl⟩

theorem Memory.Readable.readIpv6Header (h : m.Readable lo n) (hlo : lo ≤ p)
    (hhi : p + 40 ≤ n) : ∃ header, readIpv6Header m p = .ok header := by
  obtain ⟨payloadLength, h₁⟩ := h.readNtohs (p := p + 4) (by omega) (by omega)
  obtain ⟨nextHeader, h₂, -⟩ := h.read (p := p + 6) (by omega) (by omega)
  obtain ⟨hopLimit, h₃, -⟩ := h.read (p := p + 7) (by omega) (by omega)
  obtain ⟨source, h₄⟩ := (h.mono (by omega) (by omega)).readBytes (p := p + 8) (n := 16)
  obtain ⟨destination, h₅⟩ := (h.mono (by omega) (by omega)).readBytes (p := p + 24) (n := 16)
  exact ⟨_, by rw [FastNetMon.readIpv6Header, h₁, ok_bind, h₂, ok_bind, h₃, ok_bind, h₄,
    ok_bind, h₅]; rfl⟩

theorem Memory.Readable.readTcpHeader (h : m.Readable lo n) (hlo : lo ≤ p)
    (hhi : p + 20 ≤ n) : ∃ header, readTcpHeader m p = .ok header := by
  obtain ⟨sourcePort, h₁⟩ := h.readNtohs (p := p) (by omega) (by omega)
  obtain ⟨destinationPort, h₂⟩ := h.readNtohs (p := p + 2) (by omega) (by omega)
  obtain ⟨sequenceNumber, h₃⟩ := h.readNtohl (p := p + 4) (by omega) (by omega)
  obtain ⟨ackNumber, h₄⟩ := h.readNtohl (p := p + 8) (by omega) (by omega)
  obtain ⟨flags, h₅⟩ := h.readNtohs (p := p + 12) (by omega) (by omega)
  obtain ⟨windowSize, h₆⟩ := h.readNtohs (p := p + 14) (by omega) (by omega)
  exact ⟨_, by rw [FastNetMon.readTcpHeader, h₁, ok_bind, h₂, ok_bind, h₃, ok_bind, h₄,
    ok_bind, h₅, ok_bind, h₆]; rfl⟩

/-! ### The payload -/

/-- The layer-4 payload of `packet` is that of `before`, or it was set to the
bytes from behind a UDP header up to the end of the capture at `n`. -/
def PayloadPlaced (m : Memory) (lo n : ℕ) (before packet : ParsedPacket) : Prop :=
  packet.l4PayloadPointer = before.l4PayloadPointer ∧
      packet.l4PayloadLength = before.l4PayloadLength ∨
    ∃ udpHeader, lo ≤ udpHeader ∧ packet.protocol = 17 ∧
      m.readNtohs udpHeader = .ok packet.sourcePort ∧
      m.readNtohs (udpHeader + 2) = .ok packet.destinationPort ∧
      packet.l4PayloadPointer = some (udpHeader + 8) ∧
      udpHeader + 8 + packet.l4PayloadLength.toNat = n

theorem toInt_toInt32 {size : UInt32} (h : size.toNat < 2 ^ 31) : size.toInt32.toInt = size.toNat := by
  have hcast : size.toInt32.toInt = size.toBitVec.toInt := rfl
  rw [hcast, BitVec.toInt_eq_toNat_of_lt]
  · rfl
  · simp only [UInt32.toNat_toBitVec]
    omega

/-- A parser that ends with a code, the layer-4 payload being placed as it should. -/
def Inside (m : Memory) (lo n : ℕ) (before : ParsedPacket) (parsed : Parsed) : Prop :=
  ∃ code packet, parsed = .ok (code, packet) ∧ PayloadPlaced m lo n before packet

variable {packet before : ParsedPacket} {code : ParserCode}

theorem payloadPlaced_of_eq (hpointer : packet.l4PayloadPointer = before.l4PayloadPointer)
    (hlength : packet.l4PayloadLength = before.l4PayloadLength) :
    PayloadPlaced m lo n before packet :=
  .inl ⟨hpointer, hlength⟩

theorem inside_ok (hpointer : packet.l4PayloadPointer = before.l4PayloadPointer)
    (hlength : packet.l4PayloadLength = before.l4PayloadLength) :
    Inside m lo n before (.ok (code, packet)) :=
  ⟨code, packet, rfl, payloadPlaced_of_eq hpointer hlength⟩

/-- A parser may go on with a packet that has the payload of the one before. -/
theorem Inside.of_eq {parsed : Parsed} (h : Inside m lo n packet parsed)
    (hpointer : packet.l4PayloadPointer = before.l4PayloadPointer)
    (hlength : packet.l4PayloadLength = before.l4PayloadLength) :
    Inside m lo n before parsed := by
  obtain ⟨code, result, hparsed, hplaced⟩ := h
  refine ⟨code, result, hparsed, ?_⟩
  rwa [PayloadPlaced, hpointer, hlength] at hplaced

/-- The length of the payload is a number of 32 bits. -/
theorem payload_length {udpHeader : ℕ} (hudp : udpHeader + 8 ≤ n) (hn : n < 2 ^ 31) :
    udpHeader + 8 + (UInt32.ofInt ((n : ℤ) - (udpHeader + 8))).toNat = n := by
  have hint : (n : ℤ) - (udpHeader + 8) = ((n - (udpHeader + 8) : ℕ) : ℤ) := by omega
  rw [hint, UInt32.ofInt, UInt32.toNat_ofNat_of_lt']
  · omega
  · simp only [UInt32.size]
    omega

/-! ### Transport -/

/-- The UDP part of both transport parsers. -/
theorem inside_udp {localPointer : ℕ} (h : m.Readable lo n) (hlo : lo ≤ localPointer)
    (hhi : localPointer + 8 ≤ n) (hn : n < 2 ^ 31) (hprotocol : packet.protocol = 17) :
    Inside m lo n packet (do
      let sourcePort ← m.readNtohs localPointer
      let destinationPort ← m.readNtohs (localPointer + 2)
      return (.success, { packet with
        sourcePort
        destinationPort
        l4PayloadPointer := some (localPointer + 8)
        l4PayloadLength := .ofInt ((n : ℤ) - (localPointer + 8)) })) := by
  obtain ⟨sourcePort, hsource⟩ := h.readNtohs (p := localPointer) hlo (by omega)
  obtain ⟨destinationPort, hdestination⟩ :=
    h.readNtohs (p := localPointer + 2) (by omega) (by omega)
  rw [hsource, ok_bind, hdestination, ok_bind]
  exact ⟨_, _, rfl, .inr ⟨localPointer, hlo, hprotocol, hsource, hdestination, rfl,
    payload_length hhi hn⟩⟩

/-- The ICMP part of both transport parsers. -/
theorem inside_icmp {localPointer : ℕ} (h : m.Readable lo n) (hlo : lo ≤ localPointer)
    (hhi : localPointer + 8 ≤ n) :
    Inside m lo n packet (do
      let icmpType ← m.read localPointer
      let icmpCode ← m.read (localPointer + 1)
      return (.success, { packet with icmpType, icmpCode })) := by
  obtain ⟨icmpType, htype, -⟩ := h.read (p := localPointer) hlo (by omega)
  obtain ⟨icmpCode, hcode, -⟩ := h.read (p := localPointer + 1) (by omega) (by omega)
  rw [htype, ok_bind, hcode, ok_bind]
  exact inside_ok rfl rfl

theorem parseTransport_inside {localPointer : ℕ} {protocol : UInt8} (h : m.Readable lo n)
    (hlo : lo ≤ localPointer) (hn : n < 2 ^ 31) (hprotocol : packet.protocol = protocol.toUInt32) :
    Inside m lo n packet (parseTransport m localPointer n protocol packet) := by
  rw [parseTransport]
  split
  · split
    · split
      · exact inside_ok rfl rfl
      · rename_i hports
        obtain ⟨sourcePort, hsource⟩ := h.readNtohs (p := localPointer) hlo (by omega)
        obtain ⟨destinationPort, hdestination⟩ :=
          h.readNtohs (p := localPointer + 2) (by omega) (by omega)
        rw [hsource, ok_bind, hdestination, ok_bind]
        exact inside_ok rfl rfl
    · rename_i hheader
      obtain ⟨header, hread⟩ := h.readTcpHeader hlo (by omega)
      rw [hread, ok_bind]
      exact inside_ok rfl rfl
  · split
    · split
      · exact inside_ok rfl rfl
      · exact inside_icmp h hlo (by omega)
    · split
      · split
        · exact inside_ok rfl rfl
        · rename_i hudp _
          exact inside_udp h hlo (by omega) hn (by rw [hprotocol, hudp]; rfl)
      · exact inside_ok rfl rfl

theorem parseRawTransport_inside {localPointer : ℕ} {protocol : UInt8} (h : m.Readable lo n)
    (hlo : lo ≤ localPointer) (hn : n < 2 ^ 31) (hprotocol : packet.protocol = protocol.toUInt32) :
    Inside m lo n packet (parseRawTransport m localPointer n protocol packet) := by
  rw [parseRawTransport]
  split
  · split
    · exact inside_ok rfl rfl
    · rename_i hheader
      obtain ⟨header, hread⟩ := h.readTcpHeader hlo (by omega)
      rw [hread, ok_bind]
      exact inside_ok rfl rfl
  · split
    · split
      · exact inside_ok rfl rfl
      · rename_i hudp _
        exact inside_udp h hlo (by omega) hn (by rw [hprotocol, hudp]; rfl)
    · split
      · split
        · exact inside_ok rfl rfl
        · exact inside_icmp h hlo (by omega)
      · exact inside_ok rfl rfl

/-! ### Network headers -/

variable {pointer : ℕ} {lengthBeforeSampling : Int32} {parserOptions : ParserOptions}

theorem parseIpv4_inside {localPointer : ℕ} (h : m.Readable lo n) (hlo : lo ≤ localPointer)
    (hn : n < 2 ^ 31) :
    Inside m lo n packet
      (parseIpv4 m pointer lengthBeforeSampling n parserOptions localPointer packet) := by
  rw [parseIpv4]
  split
  · exact inside_ok rfl rfl
  · obtain ⟨header, hread⟩ := h.readIpv4Header hlo (by omega)
    rw [hread, ok_bind]
    dsimp only
    split
    · exact inside_ok rfl rfl
    · split
      · exact inside_ok rfl rfl
      · exact (parseTransport_inside h (by omega) hn rfl).of_eq rfl rfl

theorem parseIpv6Fragment_inside {localPointer : ℕ} (h : m.Readable lo n)
    (hlo : lo ≤ localPointer) :
    Inside m lo n packet (parseIpv6Fragment m n localPointer packet) := by
  rw [parseIpv6Fragment]
  split
  · exact inside_ok rfl rfl
  · obtain ⟨flags, hread⟩ := h.readNtohs (p := localPointer + 2) (by omega) (by omega)
    rw [hread, ok_bind]
    exact inside_ok rfl rfl

theorem parseIpv6_inside {localPointer : ℕ} (h : m.Readable lo n) (hlo : lo ≤ localPointer)
    (hn : n < 2 ^ 31) :
    Inside m lo n packet
      (parseIpv6 m pointer lengthBeforeSampling n parserOptions localPointer packet) := by
  rw [parseIpv6]
  split
  · exact inside_ok rfl rfl
  · obtain ⟨header, hread⟩ := h.readIpv6Header hlo (by omega)
    rw [hread, ok_bind]
    dsimp only
    split
    · split
      · exact (parseIpv6Fragment_inside h (by omega)).of_eq rfl rfl
      · exact inside_ok rfl rfl
    · exact (parseTransport_inside h (by omega) hn rfl).of_eq rfl rfl

/-! ### Ethernet frames -/

theorem parseEthertype_inside {ethertype : UInt16} {localPointer : ℕ} (h : m.Readable lo n)
    (hlo : lo ≤ localPointer) (hn : n < 2 ^ 31) :
    Inside m lo n packet (parseEthertype m pointer lengthBeforeSampling n parserOptions
      ethertype localPointer packet) := by
  rw [parseEthertype]
  split
  · exact parseIpv4_inside h hlo hn
  · split
    · exact parseIpv6_inside h hlo hn
    · split
      · exact inside_ok rfl rfl
      · split <;> exact inside_ok rfl rfl

/-- The loop ends whatever tags the capture holds: each turn strips one of at most three. -/
theorem stripVlans_inside {left : ℕ} {ethertype : UInt16} {localPointer : ℕ}
    (h : m.Readable lo n) (hlo : lo ≤ localPointer) (hn : n < 2 ^ 31) :
    Inside m lo n packet (stripVlans m pointer lengthBeforeSampling n parserOptions left
      ethertype localPointer packet) := by
  induction left generalizing ethertype localPointer packet with
  | zero =>
    rw [stripVlans]
    split
    · split
      · exact inside_ok rfl rfl
      · obtain ⟨metadata, hread⟩ := h.readNtohs (p := localPointer) hlo (by omega)
        rw [hread, ok_bind]
        exact inside_ok rfl rfl
    · exact parseEthertype_inside h hlo hn
  | succ left ih =>
    rw [stripVlans]
    split
    · split
      · exact inside_ok rfl rfl
      · obtain ⟨metadata, hread⟩ := h.readNtohs (p := localPointer) hlo (by omega)
        obtain ⟨next, hnext⟩ := h.readNtohs (p := localPointer + 2) (by omega) (by omega)
        rw [hread, ok_bind]
        dsimp only
        rw [hnext, ok_bind]
        refine (ih (by omega)).of_eq ?_ ?_
        · split <;> rfl
        · split <;> rfl
    · exact parseEthertype_inside h hlo hn

variable {capturedLength : Int32}

/-- The Ethernet parser ends with a code where the capture can be read. -/
theorem parseRawPacket_inside (h : m.Readable pointer n) (hn : n < 2 ^ 31)
    (hcaptured : (pointer : ℤ) + capturedLength.toInt = n) :
    Inside m pointer n packet (parseRawPacketToSimplePacketFull m pointer lengthBeforeSampling
      capturedLength packet parserOptions) := by
  rw [parseRawPacketToSimplePacketFull]
  simp only [hcaptured]
  split
  · exact inside_ok rfl rfl
  · obtain ⟨header, hread⟩ := h.readEthernetHeader le_rfl (by omega)
    rw [hread, ok_bind]
    exact (stripVlans_inside h (by omega) hn).of_eq rfl rfl

/-- The IPv4 parser ends with a code where the capture can be read. -/
theorem parseRawIpv4Packet_inside (h : m.Readable pointer n) (hn : n < 2 ^ 31)
    (hcaptured : (pointer : ℤ) + capturedLength.toInt = n) :
    Inside m pointer n packet (parseRawIpv4PacketToSimplePacketFull m pointer
      lengthBeforeSampling capturedLength packet parserOptions) := by
  rw [parseRawIpv4PacketToSimplePacketFull]
  simp only [hcaptured]
  split
  · exact inside_ok rfl rfl
  · obtain ⟨header, hread⟩ := h.readIpv4Header le_rfl (by omega)
    rw [hread, ok_bind]
    split
    · exact inside_ok rfl rfl
    · exact (parseRawTransport_inside h (by omega) hn rfl).of_eq rfl rfl

/-- The IPv6 parser ends with a code where the capture can be read. -/
theorem parseRawIpv6Packet_inside (h : m.Readable pointer n) (hn : n < 2 ^ 31)
    (hcaptured : (pointer : ℤ) + capturedLength.toInt = n) :
    Inside m pointer n packet (parseRawIpv6PacketToSimplePacketFull m pointer
      lengthBeforeSampling capturedLength packet parserOptions) := by
  rw [parseRawIpv6PacketToSimplePacketFull]
  simp only [hcaptured]
  split
  · exact inside_ok rfl rfl
  · obtain ⟨header, hread⟩ := h.readIpv6Header le_rfl (by omega)
    rw [hread, ok_bind]
    split
    · split
      · exact (parseIpv6Fragment_inside h (by omega)).of_eq rfl rfl
      · exact inside_ok rfl rfl
    · exact (parseRawTransport_inside h (by omega) hn rfl).of_eq rfl rfl

/-! ### Every buffer -/

/-- **The parsers stay inside the capture.**  No byte but those of the buffer can
be read here, so a parser that ends with a code read none outside it. -/
theorem packet_parsers_stay_inside (buffer : List UInt8) (hn : buffer.length < 2 ^ 31)
    (lengthBeforeSampling : Int32) (packet : ParsedPacket) (parserOptions : ParserOptions) :
    let m := ofBytes buffer
    let n := buffer.length
    Inside m 0 n packet (parseRawPacketToSimplePacketFull m 0 lengthBeforeSampling (.ofNat n)
        packet parserOptions) ∧
      Inside m 0 n packet (parseRawIpv4PacketToSimplePacketFull m 0 lengthBeforeSampling
        (.ofNat n) packet parserOptions) ∧
      Inside m 0 n packet (parseRawIpv6PacketToSimplePacketFull m 0 lengthBeforeSampling
        (.ofNat n) packet parserOptions) := by
  have hread := readable_ofBytes buffer
  have hcaptured : ((0 : ℕ) : ℤ) + (Int32.ofNat buffer.length).toInt = buffer.length := by
    rw [Int32.toInt_ofNat_of_lt hn, Nat.cast_zero, zero_add]
  exact ⟨parseRawPacket_inside hread hn hcaptured, parseRawIpv4Packet_inside hread hn hcaptured,
    parseRawIpv6Packet_inside hread hn hcaptured⟩

/-- A frame with a VLAN tag around a UDP packet that has one byte of payload. -/
def taggedUdpFrame : List UInt8 :=
  [1, 1, 1, 1, 1, 1, 2, 2, 2, 2, 2, 2, 0x81, 0, 0, 7, 8, 0,
    0x45, 0, 0, 29, 0, 0, 0, 0, 64, 17, 0, 0, 10, 0, 0, 1, 10, 0, 0, 2,
    0, 53, 0x30, 0x39, 0, 9, 0, 0, 0xff]

theorem taggedUdpFrame_inside :
    Inside (ofBytes taggedUdpFrame) 0 47 {} (parseRawPacketToSimplePacketFull
      (ofBytes taggedUdpFrame) 0 47 47 {} {}) :=
  (packet_parsers_stay_inside taggedUdpFrame (by decide) 47 {} {}).1

/-! ### Larger memories -/

section Extends

variable {m' : Memory}

@[gcongr] theorem agrees_readEthernetHeader (h : m.Extends m') (p : ℕ) :
    Agrees (readEthernetHeader m p) (readEthernetHeader m' p) := by
  unfold readEthernetHeader
  gcongr

@[gcongr] theorem agrees_readIpv4Header (h : m.Extends m') (p : ℕ) :
    Agrees (readIpv4Header m p) (readIpv4Header m' p) := by
  unfold readIpv4Header
  gcongr

@[gcongr] theorem agrees_readIpv6Header (h : m.Extends m') (p : ℕ) :
    Agrees (readIpv6Header m p) (readIpv6Header m' p) := by
  unfold readIpv6Header
  gcongr

@[gcongr] theorem agrees_readTcpHeader (h : m.Extends m') (p : ℕ) :
    Agrees (readTcpHeader m p) (readTcpHeader m' p) := by
  unfold readTcpHeader
  gcongr

@[gcongr] theorem agrees_parseTransport (h : m.Extends m') (localPointer : ℕ) (endPointer : ℤ)
    (protocol : UInt8) (packet : ParsedPacket) :
    Agrees (parseTransport m localPointer endPointer protocol packet)
      (parseTransport m' localPointer endPointer protocol packet) := by
  unfold parseTransport
  gcongr

@[gcongr] theorem agrees_parseRawTransport (h : m.Extends m') (localPointer : ℕ) (endPointer : ℤ)
    (protocol : UInt8) (packet : ParsedPacket) :
    Agrees (parseRawTransport m localPointer endPointer protocol packet)
      (parseRawTransport m' localPointer endPointer protocol packet) := by
  unfold parseRawTransport
  gcongr

@[gcongr] theorem agrees_parseIpv6Fragment (h : m.Extends m') (endPointer : ℤ) (localPointer : ℕ)
    (packet : ParsedPacket) :
    Agrees (parseIpv6Fragment m endPointer localPointer packet)
      (parseIpv6Fragment m' endPointer localPointer packet) := by
  unfold parseIpv6Fragment
  gcongr

@[gcongr] theorem agrees_parseEthertype (h : m.Extends m') (pointer : ℕ)
    (lengthBeforeSampling : Int32) (endPointer : ℤ) (parserOptions : ParserOptions)
    (ethertype : UInt16) (localPointer : ℕ) (packet : ParsedPacket) :
    Agrees
      (parseEthertype m pointer lengthBeforeSampling endPointer parserOptions ethertype localPointer
        packet)
      (parseEthertype m' pointer lengthBeforeSampling endPointer parserOptions ethertype
        localPointer packet) := by
  unfold parseEthertype parseIpv4 parseIpv6
  dsimp only
  gcongr

@[gcongr] theorem agrees_stripVlans (h : m.Extends m') (pointer : ℕ)
    (lengthBeforeSampling : Int32) (endPointer : ℤ) (parserOptions : ParserOptions) (left : ℕ)
    (ethertype : UInt16) (localPointer : ℕ) (packet : ParsedPacket) :
    Agrees
      (stripVlans m pointer lengthBeforeSampling endPointer parserOptions left ethertype
        localPointer packet)
      (stripVlans m' pointer lengthBeforeSampling endPointer parserOptions left ethertype
        localPointer packet) := by
  induction left generalizing ethertype localPointer packet with
  | zero =>
    unfold stripVlans
    dsimp only
    gcongr
  | succ left ih =>
    unfold stripVlans
    dsimp only
    gcongr
    apply ih

/-- The parsers do in a larger memory what they do in a smaller one. -/
@[gcongr] theorem agrees_parseRawPacketToSimplePacketFull (h : m.Extends m') (pointer : ℕ)
    (lengthBeforeSampling capturedLength : Int32) (packet : ParsedPacket)
    (parserOptions : ParserOptions) :
    Agrees
      (parseRawPacketToSimplePacketFull m pointer lengthBeforeSampling capturedLength packet
        parserOptions)
      (parseRawPacketToSimplePacketFull m' pointer lengthBeforeSampling capturedLength packet
        parserOptions) := by
  unfold parseRawPacketToSimplePacketFull
  dsimp only
  gcongr

@[inherit_doc agrees_parseRawPacketToSimplePacketFull, gcongr]
theorem agrees_parseRawIpv4PacketToSimplePacketFull (h : m.Extends m') (pointer : ℕ)
    (lengthBeforeSampling capturedLength : Int32) (packet : ParsedPacket)
    (parserOptions : ParserOptions) :
    Agrees
      (parseRawIpv4PacketToSimplePacketFull m pointer lengthBeforeSampling capturedLength packet
        parserOptions)
      (parseRawIpv4PacketToSimplePacketFull m' pointer lengthBeforeSampling capturedLength packet
        parserOptions) := by
  unfold parseRawIpv4PacketToSimplePacketFull
  dsimp only
  gcongr

end Extends

end FastNetMon
