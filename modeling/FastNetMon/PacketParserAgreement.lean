/-
FastNetMon/PacketParserAgreement.lean

What the parser of Ethernet frames and the parsers of IP packets make of one packet.

The header grammar is written out once in the first parser and again in each of
the other two, and these differ in three places: the fields of a fragment, TCP
headers of which only the ports were captured, and ICMP for IPv6.  Main result:
the exact packets on which the parsers agree (`parsers_agree_iff`).
-/
import FastNetMon.PacketParserBounds

namespace FastNetMon

open Memory

/-! ### What is compared -/

/-- The fields of a packet that are read from its headers. -/
structure HeaderFields where
  srcIp : UInt32
  dstIp : UInt32
  srcIpv6 : Vector UInt8 16
  dstIpv6 : Vector UInt8 16
  ipProtocolVersion : UInt8
  protocol : UInt32
  ttl : UInt8
  ipLength : UInt64
  ipFragmented : Bool
  ipMoreFragments : Bool
  ipDontFragment : Bool
  ipFragmentOffset : UInt16
  sourcePort : UInt16
  destinationPort : UInt16
  flags : UInt8
  tcpSequenceNumber : UInt32
  tcpAckNumber : UInt32
  tcpWindowSize : UInt16
  icmpType : UInt8
  icmpCode : UInt8
deriving DecidableEq

/-- These fields of a packet. -/
def ParsedPacket.headerFields (packet : ParsedPacket) : HeaderFields where
  srcIp := packet.srcIp
  dstIp := packet.dstIp
  srcIpv6 := packet.srcIpv6
  dstIpv6 := packet.dstIpv6
  ipProtocolVersion := packet.ipProtocolVersion
  protocol := packet.protocol
  ttl := packet.ttl
  ipLength := packet.ipLength
  ipFragmented := packet.ipFragmented
  ipMoreFragments := packet.ipMoreFragments
  ipDontFragment := packet.ipDontFragment
  ipFragmentOffset := packet.ipFragmentOffset
  sourcePort := packet.sourcePort
  destinationPort := packet.destinationPort
  flags := packet.flags
  tcpSequenceNumber := packet.tcpSequenceNumber
  tcpAckNumber := packet.tcpAckNumber
  tcpWindowSize := packet.tcpWindowSize
  icmpType := packet.icmpType
  icmpCode := packet.icmpCode

/-- The code and the header fields that a parser gives. -/
def Parsed.outcome (parsed : Parsed) : Except Fault (ParserCode × HeaderFields) :=
  parsed.map fun result => (result.1, result.2.headerFields)

@[simp] theorem outcome_ok (code : ParserCode) (packet : ParsedPacket) :
    Parsed.outcome (.ok (code, packet)) = .ok (code, packet.headerFields) := rfl

/-! ### Headers at another address -/

variable {m : Memory} {d p : ℕ}

theorem readIpv4Header_shift : readIpv4Header (m.shift d) p = readIpv4Header m (d + p) := by
  simp only [readIpv4Header, read_shift, readNtohs_shift, read32_shift, Nat.add_assoc]

theorem readIpv6Header_shift : readIpv6Header (m.shift d) p = readIpv6Header m (d + p) := by
  simp only [readIpv6Header, read_shift, readNtohs_shift, readBytes_shift, Nat.add_assoc]

theorem readTcpHeader_shift : readTcpHeader (m.shift d) p = readTcpHeader m (d + p) := by
  simp only [readTcpHeader, readNtohs_shift, readNtohl_shift, Nat.add_assoc]

/-! ### Transport -/

/-- What stands behind the IP header is parsed alike: a captured TCP header is
complete or has not even the ports, and an ICMP header for IPv6 is complete and
begins with two zeros, which is what the field values of a fresh packet are. -/
def TransportAgrees (protocol : UInt8) (rest : List UInt8) : Prop :=
  (protocol = 6 → rest.length < 4 ∨ 20 ≤ rest.length) ∧
    (protocol = 58 → 8 ≤ rest.length ∧ [0, 0] <+: rest)

instance (protocol : UInt8) (rest : List UInt8) : Decidable (TransportAgrees protocol rest) :=
  inferInstanceAs (Decidable (_ ∧ _))

variable {packet packet' : ParsedPacket} {protocol : UInt8} {n localPointer : ℕ}

/-- For TCP the two parsers agree unless 4 to 19 bytes are left for the header. -/
theorem parseTransport_tcp_iff (h : m.Readable d (d + n))
    (hfields : packet.headerFields = packet'.headerFields) (hlocal : localPointer ≤ n) :
    (parseTransport m (d + localPointer) (d + n : ℕ) 6 packet).outcome
        = (parseRawTransport (m.shift d) localPointer n 6 packet').outcome ↔
      n - localPointer < 4 ∨ 20 ≤ n - localPointer := by
  rw [parseTransport, parseRawTransport, if_pos rfl, if_pos rfl]
  by_cases hfull : localPointer + 20 ≤ n
  · obtain ⟨header, hheader⟩ := h.readTcpHeader (p := d + localPointer) (by omega) (by omega)
    rw [if_neg (by omega), if_neg (by omega), readTcpHeader_shift, hheader, ok_bind, ok_bind]
    refine iff_of_true ?_ (.inr (by omega))
    exact congrArg (fun fields : HeaderFields => Except.ok (ParserCode.success,
      { fields with
        sourcePort := header.sourcePort
        destinationPort := header.destinationPort
        tcpSequenceNumber := header.sequenceNumber
        tcpAckNumber := header.ackNumber
        tcpWindowSize := header.windowSize
        flags := header.flags })) hfields
  · rw [if_pos (by omega)]
    by_cases hports : localPointer + 4 ≤ n
    · obtain ⟨sourcePort, hsource⟩ := h.readNtohs (p := d + localPointer) (by omega) (by omega)
      obtain ⟨destinationPort, hdestination⟩ :=
        h.readNtohs (p := d + localPointer + 2) (by omega) (by omega)
      rw [if_neg (by omega), hsource, ok_bind, hdestination, ok_bind, if_pos (by omega)]
      exact iff_of_false (fun heq => by cases heq) (by omega)
    · rw [if_pos (by omega), if_pos (by omega), outcome_ok, outcome_ok, hfields]
      exact iff_of_true rfl (.inl (by omega))

/-- For ICMPv6 they agree exactly if the header is complete, with type and code zero. -/
theorem parseTransport_icmpv6_iff (h : m.Readable d (d + n))
    (hfields : packet.headerFields = packet'.headerFields) (htype : packet'.icmpType = 0)
    (hcode : packet'.icmpCode = 0) :
    (parseTransport m (d + localPointer) (d + n : ℕ) 58 packet).outcome
        = (parseRawTransport (m.shift d) localPointer n 58 packet').outcome ↔
      localPointer + 8 ≤ n ∧ (m.shift d).Holds localPointer [0, 0] := by
  rw [parseTransport, if_neg (by decide), if_pos (.inr rfl), parseRawTransport]
  have hraw : ∀ parsed parsed' parsed'' : Parsed, (if (58 : UInt8) = 6 then parsed
      else if (58 : UInt8) = 17 then parsed' else if (58 : UInt8) = 1 then parsed''
      else .ok (.success, packet')) = .ok (.success, packet') := by
    intro _ _ _
    rw [if_neg (by decide), if_neg (by decide), if_neg (by decide)]
  rw [hraw]
  by_cases hfull : localPointer + 8 ≤ n
  · obtain ⟨icmpType, hreadType, hmemType⟩ :=
      h.read (p := d + localPointer) (by omega) (by omega)
    obtain ⟨icmpCode, hreadCode, hmemCode⟩ :=
      h.read (p := d + localPointer + 1) (by omega) (by omega)
    rw [if_neg (by omega), hreadType, ok_bind, hreadCode, ok_bind]
    have hleft : Parsed.outcome (return (.success, { packet with icmpType, icmpCode }))
        = .ok (.success, { packet'.headerFields with icmpType, icmpCode }) := by
      rw [← hfields]
      rfl
    rw [hleft, outcome_ok]
    simp only [Except.ok.injEq, Prod.mk.injEq, true_and, hfull, Holds, Memory.shift, hmemType,
      Nat.add_assoc] at hmemCode ⊢
    rw [hmemCode]
    simp only [ParsedPacket.headerFields, HeaderFields.mk.injEq, true_and, htype, hcode,
      Option.some.injEq, and_true]
  · rw [if_pos (by omega), outcome_ok, outcome_ok]
    exact iff_of_false (fun heq => by cases heq) (fun hboth => hfull hboth.1)

/-- The other protocols are parsed alike. -/
theorem parseTransport_other (h : m.Readable d (d + n))
    (hfields : packet.headerFields = packet'.headerFields) (htcp : protocol ≠ 6)
    (hicmpv6 : protocol ≠ 58) :
    (parseTransport m (d + localPointer) (d + n : ℕ) protocol packet).outcome
      = (parseRawTransport (m.shift d) localPointer n protocol packet').outcome := by
  rw [parseTransport, parseRawTransport, if_neg htcp, if_neg htcp]
  by_cases hicmp : protocol = 1
  · have hudp : protocol ≠ 17 := by
      rw [hicmp]
      decide
    rw [if_pos (.inl hicmp : protocol = 1 ∨ protocol = 58), if_neg hudp, if_pos hicmp]
    by_cases hfull : localPointer + 8 ≤ n
    · obtain ⟨icmpType, htype, -⟩ := h.read (p := d + localPointer) (by omega) (by omega)
      obtain ⟨icmpCode, hcode, -⟩ := h.read (p := d + localPointer + 1) (by omega) (by omega)
      rw [if_neg (by omega), if_neg (by omega), read_shift, read_shift, ← Nat.add_assoc, htype,
        ok_bind, ok_bind, hcode, ok_bind, ok_bind]
      exact congrArg (fun fields : HeaderFields =>
        Except.ok (ParserCode.success, { fields with icmpType, icmpCode })) hfields
    · rw [if_pos (by omega), if_pos (by omega), outcome_ok, outcome_ok, hfields]
  · have hnone : ¬ (protocol = 1 ∨ protocol = 58) := by
      rintro (h₁ | h₁)
      · exact hicmp h₁
      · exact hicmpv6 h₁
    rw [if_neg hnone]
    by_cases hudp : protocol = 17
    · rw [if_pos hudp, if_pos hudp]
      by_cases hfull : localPointer + 8 ≤ n
      · obtain ⟨sourcePort, hsource⟩ :=
          h.readNtohs (p := d + localPointer) (by omega) (by omega)
        obtain ⟨destinationPort, hdestination⟩ :=
          h.readNtohs (p := d + localPointer + 2) (by omega) (by omega)
        rw [if_neg (by omega), if_neg (by omega), readNtohs_shift, readNtohs_shift,
          ← Nat.add_assoc, hsource, ok_bind, ok_bind, hdestination, ok_bind, ok_bind]
        exact congrArg (fun fields : HeaderFields =>
          Except.ok (ParserCode.success, { fields with sourcePort, destinationPort })) hfields
      · rw [if_pos (by omega), if_pos (by omega), outcome_ok, outcome_ok, hfields]
    · rw [if_neg hudp, if_neg hudp, if_neg hicmp, outcome_ok, outcome_ok, hfields]

/-- When both transport parsers make the same of what stands behind the IP header. -/
theorem parseTransport_iff {bs : List UInt8} (h : m.Readable d (d + bs.length))
    (hbs : m.shift d = ofBytes bs) (hfields : packet.headerFields = packet'.headerFields)
    (htype : packet'.icmpType = 0) (hcode : packet'.icmpCode = 0)
    (hlocal : localPointer ≤ bs.length) :
    (parseTransport m (d + localPointer) (d + bs.length : ℕ) protocol packet).outcome
        = (parseRawTransport (ofBytes bs) localPointer bs.length protocol packet').outcome ↔
      TransportAgrees protocol (bs.drop localPointer) := by
  rw [← hbs, TransportAgrees, List.length_drop]
  by_cases htcp : protocol = 6
  · subst htcp
    rw [parseTransport_tcp_iff h hfields hlocal]
    simp
  · by_cases hicmpv6 : protocol = 58
    · subst hicmpv6
      rw [parseTransport_icmpv6_iff h hfields htype hcode, hbs, holds_ofBytes_iff]
      constructor
      · exact fun ⟨hlength, hzeros⟩ => ⟨by simp, fun _ => ⟨by omega, hzeros⟩⟩
      · exact fun ⟨_, hboth⟩ => ⟨by have := (hboth rfl).1; omega, (hboth rfl).2⟩
    · rw [parseTransport_other h hfields htcp hicmpv6]
      simp [htcp, hicmpv6]

/-! ### Fragments -/

/-- Parsing the transport header leaves the fields of a fragment alone. -/
theorem parseTransport_fragment {endPointer : ℤ} {code : ParserCode} {result : ParsedPacket}
    (h : parseTransport m localPointer endPointer protocol packet = .ok (code, result)) :
    result.ipMoreFragments = packet.ipMoreFragments ∧
      result.ipFragmentOffset = packet.ipFragmentOffset := by
  rw [parseTransport] at h
  repeat' split at h
  all_goals
    simp only [bind_eq_ok_iff, pure_eq_ok_iff, Except.ok.injEq, Prod.mk.injEq] at h
    grind

@[inherit_doc parseTransport_fragment]
theorem parseRawTransport_fragment {endPointer : ℤ} {code : ParserCode} {result : ParsedPacket}
    (h : parseRawTransport m localPointer endPointer protocol packet = .ok (code, result)) :
    result.ipMoreFragments = packet.ipMoreFragments ∧
      result.ipFragmentOffset = packet.ipFragmentOffset := by
  rw [parseRawTransport] at h
  repeat' split at h
  all_goals
    simp only [bind_eq_ok_iff, pure_eq_ok_iff, Except.ok.injEq, Prod.mk.injEq] at h
    grind

/-- Parsers that disagree on the fields of a fragment disagree. -/
theorem outcome_ne {parsed parsed' : Parsed} {code code' : ParserCode}
    (h : parsed = .ok (code, packet)) (h' : parsed' = .ok (code', packet'))
    (hfragment : packet.ipMoreFragments ≠ packet'.ipMoreFragments ∨
      packet.ipFragmentOffset ≠ packet'.ipFragmentOffset) :
    parsed.outcome ≠ parsed'.outcome := by
  rw [h, h', outcome_ok, outcome_ok]
  intro heq
  have hfields := (Prod.mk.inj (Except.ok.inj heq)).2
  rcases hfragment with hmore | hoffset
  · exact hmore (congrArg HeaderFields.ipMoreFragments hfields)
  · exact hoffset (congrArg HeaderFields.ipFragmentOffset hfields)

/-! ### Frames -/

/-- An untagged Ethernet frame. -/
def ethernetFrame (destination source : Vector UInt8 6) (ethertype : UInt16)
    (payload : List UInt8) : List UInt8 :=
  destination.toList ++ source.toList ++ bytes16 (byteSwap16 ethertype) ++ payload

variable {destination source : Vector UInt8 6} {ethertype : UInt16} {payload : List UInt8}

/-- A frame has 14 bytes in front of its payload. -/
theorem length_ethernetFrame :
    (ethernetFrame destination source ethertype payload).length = 14 + payload.length := by
  simp only [ethernetFrame, List.length_append, Vector.length_toList, bytes16_length]

/-- From address 14 on, the frame is its payload. -/
theorem shift_ethernetFrame :
    (ofBytes (ethernetFrame destination source ethertype payload)).shift 14 = ofBytes payload := by
  have h := shift_ofBytes_append
    (destination.toList ++ source.toList ++ bytes16 (byteSwap16 ethertype)) payload
  rw [List.length_append, List.length_append, Vector.length_toList, Vector.length_toList] at h
  exact h

/-- The type of a frame is read back. -/
theorem readEthernetHeader_frame :
    ∃ header, readEthernetHeader
        (ofBytes (ethernetFrame destination source ethertype payload)) 0 = .ok header ∧
      header.ethertype = ethertype := by
  have hframe := holds_ofBytes (ethernetFrame destination source ethertype payload)
  rw [ethernetFrame, holds_append, holds_append, holds_append] at hframe
  obtain ⟨⟨⟨hdestination, hsource⟩, hethertype⟩, -⟩ := hframe
  simp only [List.length_append, Vector.length_toList, Nat.zero_add] at hsource hethertype
  have hd := hdestination.readBytes
  have hs := hsource.readBytes
  rw [Vector.length_toList] at hd hs
  refine ⟨⟨toVector 6 destination.toList, toVector 6 source.toList, ethertype⟩, ?_, rfl⟩
  rw [readEthernetHeader, ethernetFrame, hd, ok_bind, hs, ok_bind, Memory.readNtohs,
    read16_eq_ok_iff.mpr hethertype, ok_bind, byteSwap16_byteSwap16]
  rfl

variable {lengthBeforeSampling lengthBeforeSampling' : Int32} {parserOptions : ParserOptions}

/-- In an untagged frame, the Ethernet header is followed by the packet. -/
theorem parseRawPacket_frame (hethertype : ethertype ≠ 33024)
    (hlength : 14 + payload.length < 2 ^ 31) :
    ∃ start : ParsedPacket, start.headerFields = packet.headerFields ∧
      parseRawPacketToSimplePacketFull
          (ofBytes (ethernetFrame destination source ethertype payload)) 0 lengthBeforeSampling
          (.ofNat (14 + payload.length)) packet parserOptions
        = parseEthertype (ofBytes (ethernetFrame destination source ethertype payload)) 0
          lengthBeforeSampling (14 + payload.length : ℕ) parserOptions ethertype 14 start := by
  obtain ⟨header, hheader, htype⟩ := (@readEthernetHeader_frame destination source ethertype
      payload)
  refine ⟨{ packet with
    sourceMac := header.sourceMac, destinationMac := header.destinationMac }, rfl, ?_⟩
  rw [parseRawPacketToSimplePacketFull]
  simp only [Int32.toInt_ofNat_of_lt hlength, Nat.cast_zero, zero_add]
  rw [if_neg (by omega), hheader, ok_bind, stripVlans, if_neg (by rwa [htype]), htype]

/-! ### IPv4 -/

/-- The IPv4 packets on which the parsers agree: too short for a header; or not a
fragment, and the header is cut short or followed by what is parsed alike. -/
def Ipv4ParsersAgree (bs : List UInt8) : Prop :=
  ∀ header, readIpv4Header (ofBytes bs) 0 = .ok header →
    header.isFragmented = false ∧
      ((header.ihl * 4).toNat ≤ bs.length →
        TransportAgrees header.protocol (bs.drop (header.ihl * 4).toNat))

/-- A packet is whole if it is the first fragment and the last. -/
theorem isFragmented_eq_false_iff {header : Ipv4Header} :
    header.isFragmented = false ↔
      header.moreFragmentsFlag = false ∧ header.fragmentOffsetBytes = 0 := by
  simp [Ipv4Header.isFragmented]

/-- No header is read from fewer than 20 bytes. -/
theorem readIpv4Header_ne_ok {bs : List UInt8} (h : bs.length < 20) (header : Ipv4Header) :
    readIpv4Header (ofBytes bs) 0 ≠ .ok header := by
  intro hread
  simp only [readIpv4Header, bind_eq_ok_iff] at hread
  obtain ⟨_, -, _, -, _, -, _, -, _, -, _, -, word, hword, -⟩ := hread
  simp only [Memory.read32, bind_eq_ok_iff, read_eq_ok_iff] at hword
  obtain ⟨_, -, _, -, _, -, b, hb, -⟩ := hword
  have hnone : (ofBytes bs) 19 = none := List.getElem?_eq_none (by omega)
  exact absurd hb (by rw [show 0 + 16 + 3 = 19 from rfl, hnone]; simp)

/-- The parts behind the IPv4 header, the packets being filled from the header. -/
theorem ipv4Tail_iff {bs : List UInt8} {header : Ipv4Header} {left right : ParsedPacket}
    (h : m.Readable d (d + bs.length)) (hbs : m.shift d = ofBytes bs) (hlength : d + bs.length < 2 ^ 31)
    (hmore : left.ipMoreFragments = header.moreFragmentsFlag)
    (hoffset : left.ipFragmentOffset = header.fragmentOffsetBytes)
    (hleft : left.protocol = header.protocol.toUInt32)
    (hright : right.protocol = header.protocol.toUInt32)
    (hfresh : right.ipMoreFragments = false ∧ right.ipFragmentOffset = 0 ∧ right.icmpType = 0 ∧
      right.icmpCode = 0)
    (hfields : header.moreFragmentsFlag = false → header.fragmentOffsetBytes = 0 →
      left.headerFields = right.headerFields) :
    Parsed.outcome (if header.fragmentOffsetBytes ≠ 0 then return (.success, left)
        else if ((d + (header.ihl * 4).toNat : ℕ) : ℤ) > (d + bs.length : ℕ) then
          return (.malformedIpHeaderLength, left)
        else parseTransport m (d + (header.ihl * 4).toNat) (d + bs.length : ℕ) header.protocol left)
      = Parsed.outcome (if (((header.ihl * 4).toNat : ℕ) : ℤ) > bs.length then
          return (.malformedIpHeaderLength, right)
        else parseRawTransport (ofBytes bs) (header.ihl * 4).toNat bs.length header.protocol
          right) ↔
      (header.moreFragmentsFlag = false ∧ header.fragmentOffsetBytes = 0) ∧
        ((header.ihl * 4).toNat ≤ bs.length →
          TransportAgrees header.protocol (bs.drop (header.ihl * 4).toNat)) := by
  obtain ⟨hmore', hoffset', htype, hcode⟩ := hfresh
  obtain ⟨code, result, hresult, hkept⟩ : ∃ code result,
      (if (((header.ihl * 4).toNat : ℕ) : ℤ) > bs.length then
          return (.malformedIpHeaderLength, right)
        else parseRawTransport (ofBytes bs) (header.ihl * 4).toNat bs.length header.protocol
          right : Parsed) = .ok (code, result) ∧
        result.ipMoreFragments = false ∧ result.ipFragmentOffset = 0 := by
    split
    · exact ⟨_, _, rfl, hmore', hoffset'⟩
    · obtain ⟨code, result, hresult, -⟩ := parseRawTransport_inside (readable_ofBytes bs)
        (Nat.zero_le _) (by omega) hright
      obtain ⟨h₁, h₂⟩ := parseRawTransport_fragment hresult
      exact ⟨code, result, hresult, h₁.trans hmore', h₂.trans hoffset'⟩
  by_cases hzero : header.fragmentOffsetBytes = 0
  · rw [if_neg (by simp [hzero])]
    by_cases hflag : header.moreFragmentsFlag = false
    · -- not a fragment
      have hsame := hfields hflag hzero
      by_cases hihl : (header.ihl * 4).toNat ≤ bs.length
      · rw [if_neg (by omega), if_neg (by omega),
          parseTransport_iff h hbs hsame htype hcode hihl]
        exact ⟨fun hagree => ⟨⟨hflag, hzero⟩, fun _ => hagree⟩, fun hboth => hboth.2 hihl⟩
      · rw [if_pos (by omega), if_pos (by omega)]
        refine iff_of_true ?_ ⟨⟨hflag, hzero⟩, fun hle => absurd hle hihl⟩
        exact congrArg (fun fields => Except.ok (ParserCode.malformedIpHeaderLength, fields)) hsame
    · -- the first fragment
      refine iff_of_false ?_ fun hboth => hflag hboth.1.1
      obtain ⟨code', result', hresult', hmore''⟩ : ∃ code' result',
          (if ((d + (header.ihl * 4).toNat : ℕ) : ℤ) > (d + bs.length : ℕ) then
              return (.malformedIpHeaderLength, left)
            else parseTransport m (d + (header.ihl * 4).toNat) (d + bs.length : ℕ)
              header.protocol left : Parsed) = .ok (code', result') ∧
            result'.ipMoreFragments = header.moreFragmentsFlag := by
        split
        · exact ⟨_, _, rfl, hmore⟩
        · obtain ⟨code', result', hresult', -⟩ := parseTransport_inside h
            (Nat.le_add_right d (header.ihl * 4).toNat) hlength hleft
          exact ⟨code', result', hresult', (parseTransport_fragment hresult').1.trans hmore⟩
      refine outcome_ne hresult' hresult (.inl ?_)
      rw [hmore'', hkept.1]
      exact hflag
  · -- a later fragment
    rw [if_pos hzero]
    refine iff_of_false ?_ fun hboth => hzero hboth.1.2
    refine outcome_ne rfl hresult (.inr ?_)
    rw [hoffset, hkept.2]
    exact hzero

/-- The two parsers agree on an IPv4 packet exactly under the condition on its bytes. -/
theorem parseIpv4_iff {bs : List UInt8} {start : ParsedPacket} (h : m.Readable d (d + bs.length))
    (hbs : m.shift d = ofBytes bs) (hlength : d + bs.length < 2 ^ 31)
    (hstart : start.headerFields = ({} : ParsedPacket).headerFields) :
    (parseIpv4 m 0 lengthBeforeSampling (d + bs.length : ℕ) parserOptions d start).outcome
        = (parseRawIpv4PacketToSimplePacketFull (ofBytes bs) 0 lengthBeforeSampling'
            (.ofNat bs.length) {} parserOptions).outcome ↔
      Ipv4ParsersAgree bs := by
  rw [parseIpv4, parseRawIpv4PacketToSimplePacketFull]
  simp only [Int32.toInt_ofNat_of_lt (show bs.length < 2 ^ 31 by omega), Nat.cast_zero, zero_add]
  by_cases hshort : bs.length < 20
  · rw [if_pos (by omega), if_pos (by omega), outcome_ok, outcome_ok, hstart]
    exact iff_of_true rfl fun header hheader =>
      absurd hheader (readIpv4Header_ne_ok hshort header)
  · obtain ⟨header, hheader⟩ := h.readIpv4Header le_rfl (by omega)
    have hheader' : readIpv4Header (ofBytes bs) 0 = .ok header := by
      rw [← hbs, readIpv4Header_shift, Nat.add_zero, hheader]
    rw [if_neg (by omega), if_neg (by omega), hheader, hheader', ok_bind, ok_bind]
    have hagree : Ipv4ParsersAgree bs ↔ header.isFragmented = false ∧
        ((header.ihl * 4).toNat ≤ bs.length →
          TransportAgrees header.protocol (bs.drop (header.ihl * 4).toNat)) := by
      simp only [Ipv4ParsersAgree, hheader', Except.ok.injEq, forall_eq']
    rw [hagree, isFragmented_eq_false_iff]
    refine ipv4Tail_iff h hbs hlength rfl rfl rfl rfl ⟨rfl, rfl, rfl, rfl⟩ fun hmore hoffset => ?_
    show ({ start.headerFields with
      srcIp := header.sourceIp
      dstIp := header.destinationIp
      ipProtocolVersion := 4
      ttl := header.ttl
      ipLength := header.totalLength.toUInt64
      ipDontFragment := header.dontFragmentFlag
      ipFragmented := header.isFragmented
      ipMoreFragments := header.moreFragmentsFlag
      ipFragmentOffset := header.fragmentOffsetBytes
      protocol := header.protocol.toUInt32 } : HeaderFields) = _
    rw [hstart, hmore, hoffset]
    rfl

/-! ### IPv6 -/

/-- The IPv6 packets on which the parsers agree: too short for a header, or what
stands behind it is an option or is parsed alike. -/
def Ipv6ParsersAgree (bs : List UInt8) : Prop :=
  ∀ header, readIpv6Header (ofBytes bs) 0 = .ok header →
    isIpv6Option header.nextHeader = false → TransportAgrees header.nextHeader (bs.drop 40)

/-- No header is read from fewer than 40 bytes. -/
theorem readIpv6Header_ne_ok {bs : List UInt8} (h : bs.length < 40) (header : Ipv6Header) :
    readIpv6Header (ofBytes bs) 0 ≠ .ok header := by
  intro hread
  simp only [readIpv6Header, bind_eq_ok_iff] at hread
  obtain ⟨_, -, _, -, _, -, _, -, destination, hdestination, -⟩ := hread
  obtain ⟨hheld, hlength⟩ := holds_of_readBytes hdestination
  have hprefix := (holds_ofBytes_iff.mp hheld).length_le
  rw [List.length_drop] at hprefix
  omega

/-- The fragment header is handled alike. -/
theorem parseIpv6Fragment_outcome {bs : List UInt8} (h : m.Readable d (d + bs.length))
    (hbs : m.shift d = ofBytes bs) (hfields : packet.headerFields = packet'.headerFields) :
    (parseIpv6Fragment m (d + bs.length : ℕ) (d + 40) packet).outcome
      = (parseIpv6Fragment (ofBytes bs) bs.length 40 packet').outcome := by
  rw [← hbs, parseIpv6Fragment, parseIpv6Fragment]
  by_cases hfull : 48 ≤ bs.length
  · obtain ⟨flags, hflags⟩ := h.readNtohs (p := d + 40 + 2) (by omega) (by omega)
    rw [if_neg (by omega), if_neg (by omega), readNtohs_shift, ← Nat.add_assoc, hflags, ok_bind,
      ok_bind]
    exact congrArg (fun fields : HeaderFields => Except.ok (ParserCode.success,
      { fields with
        ipFragmented := true
        ipMoreFragments := bitOf flags 0
        ipFragmentOffset := flags / 8 * 8 })) hfields
  · rw [if_pos (by omega), if_pos (by omega), outcome_ok, outcome_ok, hfields]

/-- The two parsers agree on an IPv6 packet exactly under the condition on its bytes. -/
theorem parseIpv6_iff {bs : List UInt8} {start : ParsedPacket} (h : m.Readable d (d + bs.length))
    (hbs : m.shift d = ofBytes bs) (hlength : d + bs.length < 2 ^ 31)
    (hstart : start.headerFields = ({} : ParsedPacket).headerFields) :
    (parseIpv6 m 0 lengthBeforeSampling (d + bs.length : ℕ) parserOptions d start).outcome
        = (parseRawIpv6PacketToSimplePacketFull (ofBytes bs) 0 lengthBeforeSampling'
            (.ofNat bs.length) {} parserOptions).outcome ↔
      Ipv6ParsersAgree bs := by
  rw [parseIpv6, parseRawIpv6PacketToSimplePacketFull]
  simp only [Int32.toInt_ofNat_of_lt (show bs.length < 2 ^ 31 by omega), Nat.cast_zero, zero_add]
  by_cases hshort : bs.length < 40
  · rw [if_pos (by omega), if_pos (by omega), outcome_ok, outcome_ok, hstart]
    exact iff_of_true rfl fun header hheader =>
      absurd hheader (readIpv6Header_ne_ok hshort header)
  · obtain ⟨header, hheader⟩ := h.readIpv6Header le_rfl (by omega)
    have hheader' : readIpv6Header (ofBytes bs) 0 = .ok header := by
      rw [← hbs, readIpv6Header_shift, Nat.add_zero, hheader]
    rw [if_neg (by omega), if_neg (by omega), hheader, hheader', ok_bind, ok_bind]
    have hagree : Ipv6ParsersAgree bs ↔ (isIpv6Option header.nextHeader = false →
        TransportAgrees header.nextHeader (bs.drop 40)) := by
      simp only [Ipv6ParsersAgree, hheader', Except.ok.injEq, forall_eq']
    rw [hagree]
    have hfields := congrArg (fun fields : HeaderFields => { fields with
      srcIpv6 := header.sourceAddress
      dstIpv6 := header.destinationAddress
      ipProtocolVersion := 6
      ttl := header.hopLimit
      ipLength := header.payloadLength.toUInt64
      protocol := header.nextHeader.toUInt32 }) hstart
    cases hoption : isIpv6Option header.nextHeader with
    | true =>
      rw [if_pos rfl, if_pos rfl]
      refine iff_of_true ?_ (fun hfalse => by cases hfalse)
      by_cases hfragment : header.nextHeader = 44
      · rw [if_pos hfragment, if_pos hfragment]
        exact parseIpv6Fragment_outcome h hbs hfields
      · rw [if_neg hfragment, if_neg hfragment]
        exact congrArg (fun fields => Except.ok (ParserCode.noIpv6OptionsSupport, fields)) hfields
    | false =>
      rw [if_neg Bool.false_ne_true, if_neg Bool.false_ne_true]
      refine (parseTransport_iff h hbs hfields rfl rfl (by omega)).trans ?_
      simp

/-! ### Every packet -/

/-- **Where the parsers agree.**  The frame parser and the parser of bare packets
give one code and the same header fields exactly on these packets. -/
theorem parsers_agree_iff (destination source : Vector UInt8 6) (packet : List UInt8)
    (hlength : 14 + packet.length < 2 ^ 31) (lengthBeforeSampling lengthBeforeSampling' : Int32)
    (parserOptions : ParserOptions) :
    ((parseRawPacketToSimplePacketFull (ofBytes (ethernetFrame destination source 2048 packet)) 0
          lengthBeforeSampling (.ofNat (14 + packet.length)) {} parserOptions).outcome
        = (parseRawIpv4PacketToSimplePacketFull (ofBytes packet) 0 lengthBeforeSampling'
          (.ofNat packet.length) {} parserOptions).outcome ↔
      Ipv4ParsersAgree packet) ∧
    ((parseRawPacketToSimplePacketFull (ofBytes (ethernetFrame destination source 34525 packet)) 0
          lengthBeforeSampling (.ofNat (14 + packet.length)) {} parserOptions).outcome
        = (parseRawIpv6PacketToSimplePacketFull (ofBytes packet) 0 lengthBeforeSampling'
          (.ofNat packet.length) {} parserOptions).outcome ↔
      Ipv6ParsersAgree packet) := by
  have hreadable : ∀ ethertype, (ofBytes (ethernetFrame destination source ethertype packet)).Readable
      14 (14 + packet.length) := by
    intro ethertype
    have hread := readable_ofBytes (ethernetFrame destination source ethertype packet)
    rw [length_ethernetFrame] at hread
    exact hread.mono (by omega) le_rfl
  constructor
  · obtain ⟨start, hstart, hframe⟩ := (@parseRawPacket_frame {} destination source 2048 packet
      lengthBeforeSampling parserOptions)
      (by decide) hlength
    rw [hframe, parseEthertype, if_pos rfl]
    exact parseIpv4_iff (hreadable 2048) shift_ethernetFrame hlength hstart
  · obtain ⟨start, hstart, hframe⟩ := (@parseRawPacket_frame {} destination source 34525 packet
      lengthBeforeSampling parserOptions)
      (by decide) hlength
    rw [hframe, parseEthertype, if_neg (by decide), if_pos rfl]
    exact parseIpv6_iff (hreadable 34525) shift_ethernetFrame hlength hstart

/-- A UDP packet that is no fragment. -/
def udpPacket : List UInt8 :=
  [0x45, 0, 0, 28, 0, 0, 0, 0, 64, 17, 0, 0, 10, 0, 0, 1, 10, 0, 0, 2,
    0, 53, 0x30, 0x39, 0, 8, 0, 0]

theorem udpPacket_parsers_agree :
    (parseRawPacketToSimplePacketFull
        (ofBytes (ethernetFrame (.replicate 6 1) (.replicate 6 2) 2048 udpPacket)) 0 42 42 {}
        {}).outcome
      = (parseRawIpv4PacketToSimplePacketFull (ofBytes udpPacket) 0 28 28 {} {}).outcome :=
  (parsers_agree_iff (.replicate 6 1) (.replicate 6 2) udpPacket (by decide) 42 28 {}).1.mpr
    fun header hheader => by
      obtain rfl := Except.ok.inj hheader
      decide

/-- A later fragment of a UDP packet: what stands behind the header is payload. -/
def laterFragment : List UInt8 :=
  [0x45, 0, 0, 28, 0, 0, 0, 185, 64, 17, 0, 0, 10, 0, 0, 1, 10, 0, 0, 2,
    0, 53, 0x30, 0x39, 0, 8, 0, 0]

/-- The frame parser leaves the ports at zero, the other one takes them from the payload. -/
theorem laterFragment_parsers_disagree :
    (parseRawPacketToSimplePacketFull
        (ofBytes (ethernetFrame (.replicate 6 1) (.replicate 6 2) 2048 laterFragment)) 0 42 42 {}
        {}).outcome
      ≠ (parseRawIpv4PacketToSimplePacketFull (ofBytes laterFragment) 0 28 28 {} {}).outcome := by
  decide

end FastNetMon
