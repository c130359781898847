/-
FastNetMon/TransportPlacement.lean

Where the parsers take the transport header of an IPv4 packet from.

Both parsers go to the end of the IP header by its IHL, which they compare with the end of the
capture and not with the 20 bytes that every header has, so that a header that claims to be
shorter is read as its own payload.  The parser of bare packets also looks for a transport
header in fragments that have none.  Main result: the buffers in which the transport header is
behind the IP header (`transport_behind_header_iff`).
-/
import FastNetMon.PacketParserBounds

namespace FastNetMon

open Memory

/-! ### Transport headers -/

/-- The fields of a packet that come from a transport header. -/
structure TransportFields where
  sourcePort : UInt16
  destinationPort : UInt16
  flags : UInt8
  tcpSequenceNumber : UInt32
  tcpAckNumber : UInt32
  tcpWindowSize : UInt16
  icmpType : UInt8
  icmpCode : UInt8
  l4PayloadPointer : Option ℕ
  l4PayloadLength : UInt32

/-- These fields of a packet. -/
def ParsedPacket.transportFields (packet : ParsedPacket) : TransportFields where
  sourcePort := packet.sourcePort
  destinationPort := packet.destinationPort
  flags := packet.flags
  tcpSequenceNumber := packet.tcpSequenceNumber
  tcpAckNumber := packet.tcpAckNumber
  tcpWindowSize := packet.tcpWindowSize
  icmpType := packet.icmpType
  icmpCode := packet.icmpCode
  l4PayloadPointer := packet.l4PayloadPointer
  l4PayloadLength := packet.l4PayloadLength

/-- The fields were read from a transport header at address `t`. -/
inductive TransportReadAt (m : Memory) (t : ℕ) (endPointer : ℤ) (before : TransportFields) :
    TransportFields → Prop
  | ports {sourcePort destinationPort : UInt16} (hsource : m.readNtohs t = .ok sourcePort)
      (hdestination : m.readNtohs (t + 2) = .ok destinationPort) :
      TransportReadAt m t endPointer before { before with sourcePort, destinationPort }
  | tcp {header : TcpHeader} (hheader : readTcpHeader m t = .ok header) :
      TransportReadAt m t endPointer before { before with
        sourcePort := header.sourcePort
        destinationPort := header.destinationPort
        flags := header.flags
        tcpSequenceNumber := header.sequenceNumber
        tcpAckNumber := header.ackNumber
        tcpWindowSize := header.windowSize }
  | icmp {icmpType icmpCode : UInt8} (htype : m.read t = .ok icmpType)
      (hcode : m.read (t + 1) = .ok icmpCode) :
      TransportReadAt m t endPointer before { before with icmpType, icmpCode }
  | udp {sourcePort destinationPort : UInt16} (hsource : m.readNtohs t = .ok sourcePort)
      (hdestination : m.readNtohs (t + 2) = .ok destinationPort) :
      TransportReadAt m t endPointer before { before with
        sourcePort
        destinationPort
        l4PayloadPointer := some (t + 8)
        l4PayloadLength := .ofInt (endPointer - (t + 8)) }

variable {m : Memory} {lo n t : ℕ} {protocol : UInt8}

/-- What is read is not what was there before, if that is chosen so. -/
theorem TransportReadAt.ne {endPointer : ℤ} {before after : TransportFields}
    (h : TransportReadAt m t endPointer before after)
    (hport : ∀ port, m.readNtohs t = .ok port → before.sourcePort ≠ port)
    (htype : ∀ icmpType, m.read t = .ok icmpType → before.icmpType ≠ icmpType) :
    after ≠ before := by
  intro heq
  cases h with
  | ports hsource => exact hport _ hsource (congrArg TransportFields.sourcePort heq).symm
  | udp hsource => exact hport _ hsource (congrArg TransportFields.sourcePort heq).symm
  | icmp hicmp => exact htype _ hicmp (congrArg TransportFields.icmpType heq).symm
  | tcp hheader =>
    simp only [readTcpHeader, bind_eq_ok_iff] at hheader
    obtain ⟨sourcePort, hsource, _, -, _, -, _, -, _, -, _, -, hreturn⟩ := hheader
    have hsame := (congrArg TransportFields.sourcePort heq).symm
    obtain rfl := Except.ok.inj hreturn
    exact hport _ hsource hsame

/-- What a parser makes of a transport header at address `t` of which it needs `required`
bytes, if it knows the protocol. -/
inductive TransportOutcome (m : Memory) (t n : ℕ) (packet : ParsedPacket) :
    (required : Option ℕ) → Parsed → Prop
  | unknown : TransportOutcome m t n packet none (.ok (.success, packet))
  | captured {k : ℕ} {after : ParsedPacket} (hk : t + k ≤ n)
      (hversion : after.ipProtocolVersion = packet.ipProtocolVersion)
      (hread : TransportReadAt m t n packet.transportFields after.transportFields) :
      TransportOutcome m t n packet (some k) (.ok (.success, after))
  | cropped {k : ℕ} (hk : n < t + k) :
      TransportOutcome m t n packet (some k) (.ok (.memoryViolation, packet))

/-- The bytes of a transport header that the parser of Ethernet frames needs. -/
def frameTransportLength (protocol : UInt8) : Option ℕ :=
  if protocol = 6 then some 4
  else if protocol = 1 ∨ protocol = 58 ∨ protocol = 17 then some 8
  else none

/-- The bytes of a transport header that the parser of bare packets needs. -/
def rawTransportLength (protocol : UInt8) : Option ℕ :=
  if protocol = 6 then some 20
  else if protocol = 17 ∨ protocol = 1 then some 8
  else none

variable {packet : ParsedPacket}

/-- Reading the ports of UDP. -/
theorem outcome_udp (h : m.Readable lo n) (hlo : lo ≤ t) :
    TransportOutcome m t n packet (some 8)
      (if (t + 8 : ℤ) > n then .ok (.memoryViolation, packet)
        else do
          let sourcePort ← m.readNtohs t
          let destinationPort ← m.readNtohs (t + 2)
          return (.success, { packet with
            sourcePort
            destinationPort
            l4PayloadPointer := some (t + 8)
            l4PayloadLength := .ofInt (n - (t + 8)) })) := by
  by_cases hfull : t + 8 ≤ n
  · obtain ⟨sourcePort, hsource⟩ := h.readNtohs (p := t) hlo (by omega)
    obtain ⟨destinationPort, hdestination⟩ := h.readNtohs (p := t + 2) (by omega) (by omega)
    rw [if_neg (by omega), hsource, ok_bind, hdestination, ok_bind]
    exact .captured hfull rfl (.udp hsource hdestination)
  · rw [if_pos (by omega)]
    exact .cropped (by omega)

/-- Reading the type and the code of ICMP. -/
theorem outcome_icmp (h : m.Readable lo n) (hlo : lo ≤ t) :
    TransportOutcome m t n packet (some 8)
      (if (t + 8 : ℤ) > n then .ok (.memoryViolation, packet)
        else do
          let icmpType ← m.read t
          let icmpCode ← m.read (t + 1)
          return (.success, { packet with icmpType, icmpCode })) := by
  by_cases hfull : t + 8 ≤ n
  · obtain ⟨icmpType, htype, -⟩ := h.read (p := t) hlo (by omega)
    obtain ⟨icmpCode, hcode, -⟩ := h.read (p := t + 1) (by omega) (by omega)
    rw [if_neg (by omega), htype, ok_bind, hcode, ok_bind]
    exact .captured hfull rfl (.icmp htype hcode)
  · rw [if_pos (by omega)]
    exact .cropped (by omega)

theorem outcome_parseTransport (h : m.Readable lo n) (hlo : lo ≤ t) :
    TransportOutcome m t n packet (frameTransportLength protocol)
      (parseTransport m t n protocol packet) := by
  rw [frameTransportLength, parseTransport]
  by_cases htcp : protocol = 6
  · rw [if_pos htcp, if_pos htcp]
    by_cases hfull : t + 20 ≤ n
    · obtain ⟨header, hheader⟩ := h.readTcpHeader hlo hfull
      rw [if_neg (by omega), hheader, ok_bind]
      exact .captured (by omega) rfl (.tcp hheader)
    · rw [if_pos (by omega)]
      by_cases hports : t + 4 ≤ n
      · obtain ⟨sourcePort, hsource⟩ := h.readNtohs (p := t) hlo (by omega)
        obtain ⟨destinationPort, hdestination⟩ := h.readNtohs (p := t + 2) (by omega) (by omega)
        rw [if_neg (by omega), hsource, ok_bind, hdestination, ok_bind]
        exact .captured hports rfl (.ports hsource hdestination)
      · rw [if_pos (by omega)]
        exact .cropped (by omega)
  · rw [if_neg htcp, if_neg htcp]
    by_cases hicmp : protocol = 1 ∨ protocol = 58
    · rw [if_pos hicmp, if_pos (by tauto)]
      exact outcome_icmp h hlo
    · rw [if_neg hicmp]
      by_cases hudp : protocol = 17
      · rw [if_pos hudp, if_pos (by tauto)]
        exact outcome_udp h hlo
      · rw [if_neg hudp, if_neg (by tauto)]
        exact .unknown

theorem outcome_parseRawTransport (h : m.Readable lo n) (hlo : lo ≤ t) :
    TransportOutcome m t n packet (rawTransportLength protocol)
      (parseRawTransport m t n protocol packet) := by
  rw [rawTransportLength, parseRawTransport]
  by_cases htcp : protocol = 6
  · rw [if_pos htcp, if_pos htcp]
    by_cases hfull : t + 20 ≤ n
    · obtain ⟨header, hheader⟩ := h.readTcpHeader hlo hfull
      rw [if_neg (by omega), hheader, ok_bind]
      exact .captured hfull rfl (.tcp hheader)
    · rw [if_pos (by omega)]
      exact .cropped (by omega)
  · rw [if_neg htcp, if_neg htcp]
    by_cases hudp : protocol = 17
    · rw [if_pos hudp, if_pos (.inl hudp)]
      exact outcome_udp h hlo
    · rw [if_neg hudp]
      by_cases hicmp : protocol = 1
      · rw [if_pos hicmp, if_pos (.inr hicmp)]
        exact outcome_icmp h hlo
      · rw [if_neg hicmp, if_neg (by tauto)]
        exact .unknown

/-! ### IPv4 headers -/

/-- A parser sets fields that come from a transport header. -/
def SetsTransport (parse : ParsedPacket → Parsed) : Prop :=
  ∃ packet after, parse packet = .ok (.success, after) ∧
    after.transportFields ≠ packet.transportFields

/-- What a parser reads from a transport header is behind the IPv4 header, which is that of no
later fragment and has its 20 bytes. -/
def TransportBehindHeader (m : Memory) (n : ℕ) (headerAt : Option ℕ)
    (parse : ParsedPacket → Parsed) : Prop :=
  ∀ packet after, parse packet = .ok (.success, after) → after.ipProtocolVersion = 4 →
    SetsTransport parse →
    ∃ q header, headerAt = some q ∧ readIpv4Header m q = .ok header ∧ 5 ≤ header.ihl ∧
      header.fragmentOffsetBytes = 0 ∧
      TransportReadAt m (q + 4 * header.ihl.toNat) n packet.transportFields
        after.transportFields

/-- A parser of IPv4 packets gets to the transport header: the packet is no later fragment,
if the parser asks for that, and enough was captured. -/
def ReachesTransport (skipsFragments : Bool) (required : UInt8 → Option ℕ)
    (header : Ipv4Header) (q n : ℕ) : Prop :=
  (skipsFragments = true → header.fragmentOffsetBytes = 0) ∧
    ∃ k, required header.protocol = some k ∧ q + 4 * header.ihl.toNat + k ≤ n

/-- What a parser of IPv4 packets makes of a header at address `q`. -/
def ParsesIpv4 (m : Memory) (n : ℕ) (skipsFragments : Bool) (required : UInt8 → Option ℕ)
    (header : Ipv4Header) (q : ℕ) (parse : ParsedPacket → Parsed) : Prop :=
  ∀ packet, ∃ filled : ParsedPacket, filled.transportFields = packet.transportFields ∧
    filled.ipProtocolVersion = 4 ∧
    if skipsFragments = true ∧ header.fragmentOffsetBytes ≠ 0 then
      parse packet = .ok (.success, filled)
    else if q + 4 * header.ihl.toNat > n then
      parse packet = .ok (.malformedIpHeaderLength, filled)
    else
      TransportOutcome m (q + 4 * header.ihl.toNat) n filled (required header.protocol)
        (parse packet)

variable {skipsFragments : Bool} {required : UInt8 → Option ℕ} {header : Ipv4Header} {q : ℕ}
  {parse : ParsedPacket → Parsed}

/-- A parser that gets to the transport header reads it. -/
theorem ParsesIpv4.captured (h : ParsesIpv4 m n skipsFragments required header q parse)
    (hreach : ReachesTransport skipsFragments required header q n) (packet : ParsedPacket) :
    ∃ after, parse packet = .ok (.success, after) ∧ after.ipProtocolVersion = 4 ∧
      TransportReadAt m (q + 4 * header.ihl.toNat) n packet.transportFields
        after.transportFields := by
  obtain ⟨hfirst, k, hk, hroom⟩ := hreach
  obtain ⟨filled, hfields, hversion, hparse⟩ := h packet
  rw [if_neg fun hskip => hskip.2 (hfirst hskip.1), if_neg (by omega), hk] at hparse
  rw [← hfields]
  generalize parse packet = parsed at hparse ⊢
  cases hparse with
  | captured _ hsame hread => exact ⟨_, rfl, hsame.trans hversion, hread⟩
  | cropped hcropped => omega

/-- A parser that does not get to the transport header leaves its fields alone. -/
theorem ParsesIpv4.unchanged (h : ParsesIpv4 m n skipsFragments required header q parse)
    (hreach : ¬ ReachesTransport skipsFragments required header q n) {packet after : ParsedPacket}
    (hparse : parse packet = .ok (.success, after)) :
    after.transportFields = packet.transportFields := by
  obtain ⟨filled, hfields, -, houtcome⟩ := h packet
  rw [hparse] at houtcome
  rw [← hfields]
  split at houtcome
  · cases houtcome
    rfl
  · rename_i hfirst
    split at houtcome
    · cases houtcome
    · generalize hk : required header.protocol = needed at houtcome
      cases houtcome with
      | unknown => rfl
      | captured hroom =>
        refine absurd ⟨fun hskip => ?_, _, hk, hroom⟩ hreach
        by_contra hoffset
        exact hfirst ⟨hskip, hoffset⟩

/-- A parser that gets to the transport header sets fields. -/
theorem ParsesIpv4.setsTransport (h : ParsesIpv4 m n skipsFragments required header q parse)
    (hreach : ReachesTransport skipsFragments required header q n) : SetsTransport parse := by
  -- the packet has other values in its fields than the header
  let t := q + 4 * header.ihl.toNat
  let packet : ParsedPacket :=
    { sourcePort := (m.readNtohs t).toOption.elim 0 (· + 1)
      icmpType := (m.read t).toOption.elim 0 (· + 1) }
  obtain ⟨after, hparse, -, hread⟩ := h.captured hreach packet
  refine ⟨packet, after, hparse, hread.ne (fun port hport => ?_) fun icmpType htype => ?_⟩
  · show (m.readNtohs t).toOption.elim 0 (· + 1) ≠ port
    rw [hport]
    simp [Except.toOption]
  · show (m.read t).toOption.elim 0 (· + 1) ≠ icmpType
    rw [htype]
    simp [Except.toOption]

/-- Where the transport header is behind the IPv4 header. -/
theorem ParsesIpv4.behind_iff (h : ParsesIpv4 m n skipsFragments required header q parse)
    (hheader : readIpv4Header m q = .ok header) :
    TransportBehindHeader m n (some q) parse ↔
      (ReachesTransport skipsFragments required header q n →
        5 ≤ header.ihl ∧ header.fragmentOffsetBytes = 0) := by
  constructor
  · intro hbehind hreach
    obtain ⟨after, hparse, hversion, -⟩ := h.captured hreach {}
    obtain ⟨q', header', hq, hheader', hihl, hoffset, -⟩ :=
      hbehind {} after hparse hversion (h.setsTransport hreach)
    obtain rfl := Option.some.inj hq
    obtain rfl := Except.ok.inj (hheader.symm.trans hheader')
    exact ⟨hihl, hoffset⟩
  · intro hcondition packet after hparse _ hsets
    by_cases hreach : ReachesTransport skipsFragments required header q n
    · obtain ⟨hihl, hoffset⟩ := hcondition hreach
      obtain ⟨after', hparse', -, hread⟩ := h.captured hreach packet
      obtain ⟨-, rfl⟩ := Prod.mk.inj (Except.ok.inj (hparse.symm.trans hparse'))
      exact ⟨q, header, rfl, hheader, hihl, hoffset, hread⟩
    · obtain ⟨packet', after', hparse', hne⟩ := hsets
      exact absurd (h.unchanged hreach hparse') hne

/-- An IHL has four bits, so that four times of it fit into a byte. -/
theorem toNat_ihl_mul (hheader : readIpv4Header m q = .ok header) :
    (header.ihl * 4).toNat = 4 * header.ihl.toNat := by
  simp only [readIpv4Header, bind_eq_ok_iff] at hheader
  obtain ⟨versionAndIhl, -, _, -, _, -, _, -, _, -, _, -, _, -, hreturn⟩ := hheader
  obtain rfl := Except.ok.inj hreturn
  have hmod : (versionAndIhl % 16).toNat = versionAndIhl.toNat % 16 := UInt8.toNat_mod _ _
  rw [UInt8.toNat_mul]
  show (versionAndIhl % 16).toNat * 4 % 2 ^ 8 = 4 * (versionAndIhl % 16).toNat
  omega

variable {pointer : ℕ} {lengthBeforeSampling : Int32} {parserOptions : ParserOptions}

theorem parsesIpv4_parseIpv4 (h : m.Readable lo n) (hlo : lo ≤ q) (hroom : q + 20 ≤ n)
    (hheader : readIpv4Header m q = .ok header) :
    ParsesIpv4 m n true frameTransportLength header q
      (parseIpv4 m pointer lengthBeforeSampling n parserOptions q) := by
  intro packet
  rw [parseIpv4, if_neg (by omega), hheader, ok_bind]
  extract_lets filled
  refine ⟨filled, rfl, rfl, ?_⟩
  rw [toNat_ihl_mul hheader]
  by_cases hoffset : header.fragmentOffsetBytes = 0
  · rw [if_neg fun hskip => hskip.2 hoffset, if_neg (not_not_intro hoffset)]
    by_cases hend : q + 4 * header.ihl.toNat > n
    · rw [if_pos hend, if_pos (by omega)]
      rfl
    · rw [if_neg hend, if_neg (by omega)]
      exact outcome_parseTransport h (by omega)
  · rw [if_pos ⟨rfl, hoffset⟩, if_pos hoffset]
    rfl

theorem parsesIpv4_parseRawIpv4Packet {buffer : List UInt8} (hn : buffer.length < 2 ^ 31)
    (hroom : 20 ≤ buffer.length) (hheader : readIpv4Header (ofBytes buffer) 0 = .ok header)
    (lengthBeforeSampling : Int32) (parserOptions : ParserOptions) :
    ParsesIpv4 (ofBytes buffer) buffer.length false rawTransportLength header 0 fun packet =>
      parseRawIpv4PacketToSimplePacketFull (ofBytes buffer) 0 lengthBeforeSampling
        (.ofNat buffer.length) packet parserOptions := by
  intro packet
  simp only [parseRawIpv4PacketToSimplePacketFull, Int32.toInt_ofNat_of_lt hn, Nat.cast_zero,
    zero_add]
  rw [if_neg (by omega), hheader, ok_bind]
  refine ⟨{ packet with
    srcIp := header.sourceIp
    dstIp := header.destinationIp
    ipProtocolVersion := 4
    ttl := header.ttl
    ipLength := header.totalLength.toUInt64
    ipDontFragment := header.dontFragmentFlag
    ipFragmented := header.isFragmented
    capturedPayloadLength := lengthBeforeSampling
    payloadFullLength := .ofInt lengthBeforeSampling.toInt
    payloadPointer := some 0
    protocol := header.protocol.toUInt32
    length := if parserOptions.readPacketLengthFromIpHeader then header.totalLength.toUInt64
      else .ofInt lengthBeforeSampling.toInt }, rfl, rfl, ?_⟩
  rw [toNat_ihl_mul hheader, if_neg fun hskip => Bool.false_ne_true hskip.1]
  by_cases hend : 4 * header.ihl.toNat > buffer.length
  · rw [if_pos hend, if_pos (by omega)]
    rfl
  · rw [if_neg hend, if_neg (show ¬ ((4 * header.ihl.toNat : ℕ) : ℤ) > buffer.length by omega)]
    exact outcome_parseRawTransport (readable_ofBytes buffer) (Nat.zero_le _)

/-! ### Ethernet frames -/

/-- The address of the IPv4 header behind at most `left` VLAN tags. -/
def ipv4HeaderBehindTags (m : Memory) : (left : ℕ) → (ethertype : UInt16) → (p : ℕ) → Option ℕ
  | left, ethertype, p =>
      if ethertype = 33024 then
        match left with
        | 0 => none
        | left + 1 =>
            match m.readNtohs (p + 2) with
            | .ok next => ipv4HeaderBehindTags m left next (p + 4)
            | .error _ => none
      else if ethertype = 2048 then some p
      else none

/-- The address of the IPv4 header of an Ethernet frame that has one. -/
def frameIpv4Header (m : Memory) (pointer : ℕ) : Option ℕ :=
  match m.readNtohs (pointer + 12) with
  | .ok ethertype => ipv4HeaderBehindTags m 3 ethertype (pointer + 14)
  | .error _ => none

/-- A parser goes on with the IPv4 header at the given address, or with no IPv4 packet. -/
def GoesToIpv4 (m : Memory) (pointer n : ℕ) (lengthBeforeSampling : Int32)
    (parserOptions : ParserOptions) (headerAt : Option ℕ) (parse : ParsedPacket → Parsed) :
    Prop :=
  match headerAt with
  | some q => ∀ packet, ∃ start : ParsedPacket, start.transportFields = packet.transportFields ∧
      parse packet = parseIpv4 m pointer lengthBeforeSampling n parserOptions q start
  | none => ∀ packet after, parse packet = .ok (.success, after) → after.ipProtocolVersion = 6

variable {lengthBeforeSampling : Int32} {buffer : List UInt8}

/-- A parser that first fills other fields goes to the same place. -/
theorem GoesToIpv4.comp {headerAt : Option ℕ}
    (h : GoesToIpv4 m pointer n lengthBeforeSampling parserOptions headerAt parse)
    {parse' : ParsedPacket → Parsed} (fill : ParsedPacket → ParsedPacket)
    (hfill : ∀ packet, (fill packet).transportFields = packet.transportFields)
    (hparse : ∀ packet, parse' packet = parse (fill packet)) :
    GoesToIpv4 m pointer n lengthBeforeSampling parserOptions headerAt parse' := by
  cases headerAt with
  | none =>
    intro packet after hafter
    exact h (fill packet) after ((hparse packet).symm.trans hafter)
  | some q =>
    intro packet
    obtain ⟨start, hstart, hrun⟩ := h (fill packet)
    exact ⟨start, hstart.trans (hfill packet), (hparse packet).trans hrun⟩

theorem parseTransport_version (h : m.Readable lo n) (hlo : lo ≤ t) {code : ParserCode}
    {packet after : ParsedPacket}
    (hparse : parseTransport m t n protocol packet = .ok (code, after)) :
    after.ipProtocolVersion = packet.ipProtocolVersion := by
  have houtcome : TransportOutcome m t n packet _ (parseTransport m t n protocol packet) :=
    outcome_parseTransport h hlo
  rw [hparse] at houtcome
  generalize frameTransportLength protocol = needed at houtcome
  cases houtcome with
  | captured _ hversion => exact hversion
  | unknown | cropped => rfl

/-- IPv6 packets keep the version that was set for them. -/
theorem parseIpv6_version (h : m.Readable lo n) (hlo : lo ≤ q) {packet after : ParsedPacket}
    (hparse : parseIpv6 m pointer lengthBeforeSampling n parserOptions q packet
      = .ok (.success, after)) : after.ipProtocolVersion = 6 := by
  rw [parseIpv6] at hparse
  split at hparse
  · cases hparse
  · rename_i hroom
    obtain ⟨header, hheader⟩ := h.readIpv6Header hlo (by omega)
    rw [hheader, ok_bind] at hparse
    dsimp only at hparse
    split at hparse
    · split at hparse
      · rw [parseIpv6Fragment] at hparse
        split at hparse
        · cases hparse
        · simp only [bind_eq_ok_iff] at hparse
          obtain ⟨_, -, hreturn⟩ := hparse
          obtain ⟨-, rfl⟩ := Prod.mk.inj (Except.ok.inj hreturn)
          rfl
      · cases hparse
    · exact parseTransport_version h (by omega) hparse

theorem ipv4HeaderBehindTags_of_untagged {ethertype : UInt16} (htagged : ethertype ≠ 33024)
    (left : ℕ) : ipv4HeaderBehindTags m left ethertype q
      = if ethertype = 2048 then some q else none := by
  cases left <;> rw [ipv4HeaderBehindTags, if_neg htagged]

/-- The next header of a frame. -/
theorem goesToIpv4_parseEthertype (h : m.Readable lo n) (hlo : lo ≤ q) (ethertype : UInt16)
    (htagged : ethertype ≠ 33024) (left : ℕ) :
    GoesToIpv4 m pointer n lengthBeforeSampling parserOptions
      (ipv4HeaderBehindTags m left ethertype q)
      (parseEthertype m pointer lengthBeforeSampling n parserOptions ethertype q) := by
  rw [ipv4HeaderBehindTags_of_untagged htagged]
  by_cases hipv4 : ethertype = 2048
  · rw [if_pos hipv4]
    intro packet
    exact ⟨packet, rfl, by rw [parseEthertype, if_pos hipv4]⟩
  · rw [if_neg hipv4]
    intro packet after hparse
    rw [parseEthertype, if_neg hipv4] at hparse
    split at hparse
    · exact parseIpv6_version h hlo hparse
    · split at hparse
      · cases hparse
      · split at hparse <;> cases hparse

theorem readNtohs_ofBytes_le {word : UInt16} (h : (ofBytes buffer).readNtohs t = .ok word) :
    t + 2 ≤ buffer.length := by
  simp only [Memory.readNtohs, bind_eq_ok_iff] at h
  obtain ⟨word', hread, -⟩ := h
  have hprefix := (holds_ofBytes_iff.mp (read16_eq_ok_iff.mp hread)).length_le
  rw [List.length_drop, bytes16_length] at hprefix
  omega

/-- The loop over the tags: each turn strips one of them. -/
theorem goesToIpv4_stripVlans (left : ℕ) (ethertype : UInt16) :
    GoesToIpv4 (ofBytes buffer) pointer buffer.length lengthBeforeSampling parserOptions
      (ipv4HeaderBehindTags (ofBytes buffer) left ethertype t)
      (stripVlans (ofBytes buffer) pointer lengthBeforeSampling buffer.length parserOptions left
        ethertype t) := by
  have hreadable := readable_ofBytes buffer
  induction left generalizing ethertype t with
  | zero =>
    by_cases htagged : ethertype = 33024
    · rw [ipv4HeaderBehindTags, if_pos htagged]
      intro packet after hparse
      rw [stripVlans, if_pos htagged] at hparse
      split at hparse
      · cases hparse
      · obtain ⟨metadata, hread⟩ := hreadable.readNtohs (p := t) (by omega) (by omega)
        rw [hread, ok_bind] at hparse
        cases hparse
    · refine (goesToIpv4_parseEthertype hreadable (Nat.zero_le t) ethertype htagged 0).comp id
        (fun _ => rfl) fun packet => ?_
      rw [stripVlans, if_neg htagged]
      rfl
  | succ left ih =>
    by_cases htagged : ethertype = 33024
    · rw [ipv4HeaderBehindTags, if_pos htagged]
      by_cases hroom : t + 4 ≤ buffer.length
      · obtain ⟨metadata, hread⟩ := hreadable.readNtohs (p := t) (by omega) (by omega)
        obtain ⟨next, hnext⟩ := hreadable.readNtohs (p := t + 2) (by omega) (by omega)
        rw [hnext]
        -- the outermost tag is kept
        refine (ih (t := t + 4) next).comp
          (fun packet => if left + 1 = 3 then { packet with vlan := (metadata % 4096).toUInt32 }
            else packet) (fun packet => ?_) fun packet => ?_
        · split <;> rfl
        · rw [stripVlans, if_pos htagged, if_neg (by omega), hread, ok_bind]
          dsimp only
          rw [hnext, ok_bind]
      · have hnone : (match (ofBytes buffer).readNtohs (t + 2) with
            | .ok next => ipv4HeaderBehindTags (ofBytes buffer) left next (t + 4)
            | .error _ => none) = none := by
          split
          · rename_i next hnext
            have hle := readNtohs_ofBytes_le hnext
            omega
          · rfl
        rw [hnone]
        intro packet after hparse
        rw [stripVlans, if_pos htagged, if_pos (by omega)] at hparse
        cases hparse
    · refine (goesToIpv4_parseEthertype hreadable (Nat.zero_le t) ethertype htagged
        (left + 1)).comp id (fun _ => rfl) fun packet => ?_
      rw [stripVlans, if_neg htagged]
      rfl

theorem goesToIpv4_parseRawPacket (hn : buffer.length < 2 ^ 31) :
    GoesToIpv4 (ofBytes buffer) 0 buffer.length lengthBeforeSampling parserOptions
      (frameIpv4Header (ofBytes buffer) 0) fun packet =>
      parseRawPacketToSimplePacketFull (ofBytes buffer) 0 lengthBeforeSampling
        (.ofNat buffer.length) packet parserOptions := by
  have hreadable := readable_ofBytes buffer
  simp only [parseRawPacketToSimplePacketFull, Int32.toInt_ofNat_of_lt hn, Nat.cast_zero, zero_add]
  rw [frameIpv4Header]
  by_cases hroom : 14 ≤ buffer.length
  · obtain ⟨header, hheader⟩ := hreadable.readEthernetHeader (p := 0) le_rfl (by omega)
    have hethertype : (ofBytes buffer).readNtohs (0 + 12) = .ok header.ethertype := by
      have hread := hheader
      simp only [readEthernetHeader, bind_eq_ok_iff] at hread
      obtain ⟨_, -, _, -, ethertype, hethertype, hreturn⟩ := hread
      obtain rfl := Except.ok.inj hreturn
      exact hethertype
    rw [hethertype]
    refine (goesToIpv4_stripVlans (t := 14) 3 header.ethertype).comp
      (fun packet => { packet with
        sourceMac := header.sourceMac
        destinationMac := header.destinationMac }) (fun _ => rfl) fun packet => ?_
    rw [if_neg (by omega), hheader, ok_bind]
  · have hnone : (match (ofBytes buffer).readNtohs (0 + 12) with
        | .ok ethertype => ipv4HeaderBehindTags (ofBytes buffer) 3 ethertype (0 + 14)
        | .error _ => none) = none := by
      split
      · rename_i ethertype hethertype
        have hle := readNtohs_ofBytes_le hethertype
        omega
      · rfl
    rw [hnone]
    intro packet after hparse
    beta_reduce at hparse
    rw [if_pos (by omega)] at hparse
    cases hparse

/-! ### Main result -/

theorem readIpv4Header_ofBytes_le (h : readIpv4Header (ofBytes buffer) q = .ok header) :
    q + 20 ≤ buffer.length := by
  simp only [readIpv4Header, bind_eq_ok_iff] at h
  obtain ⟨_, -, _, -, _, -, _, -, _, -, _, -, destination, hread, -⟩ := h
  simp only [Memory.read32, bind_eq_ok_iff, read_eq_ok_iff] at hread
  obtain ⟨_, -, _, -, _, -, b, hb, -⟩ := hread
  by_contra hshort
  have hnone : (ofBytes buffer) (q + 16 + 3) = none := List.getElem?_eq_none (by omega)
  exact Option.some_ne_none b (hb.symm.trans hnone)

/-- A parser that does not succeed reads nothing. -/
theorem behind_of_ne {headerAt : Option ℕ}
    (h : ∀ packet after, parse packet ≠ .ok (.success, after)) :
    TransportBehindHeader m n headerAt parse :=
  fun packet after hparse => absurd hparse (h packet after)

/-- A parser that goes on with an IPv4 header parses it. -/
theorem GoesToIpv4.parsesIpv4
    (h : GoesToIpv4 m pointer n lengthBeforeSampling parserOptions (some q) parse)
    (hreadable : m.Readable lo n) (hlo : lo ≤ q) (hroom : q + 20 ≤ n)
    (hheader : readIpv4Header m q = .ok header) :
    ParsesIpv4 m n true frameTransportLength header q parse := by
  intro packet
  obtain ⟨start, hstart, hparse⟩ := h packet
  obtain ⟨filled, hfilled, hversion, houtcome⟩ :=
    @parsesIpv4_parseIpv4 m lo n header q pointer lengthBeforeSampling parserOptions hreadable hlo
      hroom hheader start
  rw [← hparse] at houtcome
  exact ⟨filled, hfilled.trans hstart, hversion, houtcome⟩

/-- **Where the transport header is behind the IPv4 header.**  The frame parser takes
transport fields from behind the header exactly if the header is long enough wherever a
transport header is looked for, and so does the parser of bare packets if the packet is no
later fragment either. -/
theorem transport_behind_header_iff (buffer : List UInt8) (hn : buffer.length < 2 ^ 31)
    (lengthBeforeSampling : Int32) (parserOptions : ParserOptions) :
    (TransportBehindHeader (ofBytes buffer) buffer.length (frameIpv4Header (ofBytes buffer) 0)
        (fun packet => parseRawPacketToSimplePacketFull (ofBytes buffer) 0 lengthBeforeSampling
          (.ofNat buffer.length) packet parserOptions) ↔
      ∀ q header, frameIpv4Header (ofBytes buffer) 0 = some q →
        readIpv4Header (ofBytes buffer) q = .ok header →
        ReachesTransport true frameTransportLength header q buffer.length → 5 ≤ header.ihl) ∧
    (TransportBehindHeader (ofBytes buffer) buffer.length (some 0)
        (fun packet => parseRawIpv4PacketToSimplePacketFull (ofBytes buffer) 0
          lengthBeforeSampling (.ofNat buffer.length) packet parserOptions) ↔
      ∀ header, readIpv4Header (ofBytes buffer) 0 = .ok header →
        ReachesTransport false rawTransportLength header 0 buffer.length →
        5 ≤ header.ihl ∧ header.fragmentOffsetBytes = 0) := by
  have hreadable := readable_ofBytes buffer
  constructor
  · have hgoes : GoesToIpv4 (ofBytes buffer) 0 buffer.length lengthBeforeSampling parserOptions
        _ _ := goesToIpv4_parseRawPacket hn
    generalize frameIpv4Header (ofBytes buffer) 0 = headerAt at hgoes ⊢
    cases headerAt with
    | none =>
      refine iff_of_true (fun packet after hparse hversion => ?_)
        fun q header hnone => by cases hnone
      rw [hgoes packet after hparse] at hversion
      exact absurd hversion (by decide)
    | some q =>
      by_cases hroom : q + 20 ≤ buffer.length
      · obtain ⟨header, hheader⟩ := hreadable.readIpv4Header (Nat.zero_le q) hroom
        rw [(hgoes.parsesIpv4 hreadable (Nat.zero_le q) hroom hheader).behind_iff hheader]
        constructor
        · intro hcondition q' header' hq hheader' hreach
          obtain rfl := Option.some.inj hq
          obtain rfl := Except.ok.inj (hheader.symm.trans hheader')
          exact (hcondition hreach).1
        · exact fun hcondition hreach => ⟨hcondition q header rfl hheader hreach, hreach.1 rfl⟩
      · refine iff_of_true (behind_of_ne fun packet after hparse => ?_)
          fun q' header hq hheader => ?_
        · obtain ⟨start, -, hrun⟩ := hgoes packet
          have hcropped := hparse.symm.trans hrun
          rw [parseIpv4, if_pos (by omega)] at hcropped
          cases hcropped
        · obtain rfl := Option.some.inj hq
          exact absurd (readIpv4Header_ofBytes_le hheader) hroom
  · by_cases hroom : 20 ≤ buffer.length
    · obtain ⟨header, hheader⟩ := hreadable.readIpv4Header (p := 0) le_rfl (by omega)
      rw [(parsesIpv4_parseRawIpv4Packet hn hroom hheader lengthBeforeSampling
        parserOptions).behind_iff hheader]
      constructor
      · intro hcondition header' hheader'
        obtain rfl := Except.ok.inj (hheader.symm.trans hheader')
        exact hcondition
      · exact fun hcondition => hcondition header hheader
    · refine iff_of_true (behind_of_ne fun packet after hparse => ?_) fun header hheader => ?_
      · simp only [parseRawIpv4PacketToSimplePacketFull, Int32.toInt_ofNat_of_lt hn, Nat.cast_zero,
          zero_add] at hparse
        rw [if_pos (by omega)] at hparse
        cases hparse
      · have hle := readIpv4Header_ofBytes_le hheader
        omega

/-- A UDP packet from port 53. -/
def plainPacket : List UInt8 :=
  [0x45, 0, 0, 28, 0, 0, 0, 0, 64, 17, 0, 0, 10, 0, 0, 1, 10, 0, 0, 2,
    0, 53, 0x30, 0x39, 0, 8, 0, 0]

theorem transport_behind_header_iff_plainPacket :
    TransportBehindHeader (ofBytes plainPacket) plainPacket.length (some 0) fun packet =>
      parseRawIpv4PacketToSimplePacketFull (ofBytes plainPacket) 0 28
        (.ofNat plainPacket.length) packet {} :=
  (transport_behind_header_iff plainPacket (by decide) 28 {}).2.mpr fun header hheader _ => by
    obtain rfl := Except.ok.inj hheader
    decide

/-- A packet whose header claims to be four words long. -/
def forgedPacket : List UInt8 :=
  [0x44, 0, 0, 28, 0, 0, 0, 0, 64, 17, 0, 0, 10, 0, 0, 1, 0, 80, 0, 2,
    0, 53, 0x30, 0x39, 0, 8, 0, 0]

/-- The source port of the packet is taken from its destination address. -/
theorem transport_inside_header_forgedPacket :
    ¬ ∀ (buffer : List UInt8) (lengthBeforeSampling : Int32) (parserOptions : ParserOptions),
      buffer.length < 2 ^ 31 →
      TransportBehindHeader (ofBytes buffer) buffer.length (frameIpv4Header (ofBytes buffer) 0)
        (fun packet => parseRawPacketToSimplePacketFull (ofBytes buffer) 0 lengthBeforeSampling
          (.ofNat buffer.length) packet parserOptions) ∧
      TransportBehindHeader (ofBytes buffer) buffer.length (some 0)
        (fun packet => parseRawIpv4PacketToSimplePacketFull (ofBytes buffer) 0
          lengthBeforeSampling (.ofNat buffer.length) packet parserOptions) := by
  intro hbehind
  have hraw := (hbehind forgedPacket 28 {} (by decide)).2
  obtain ⟨header, hheader⟩ : ∃ header, readIpv4Header (ofBytes forgedPacket) 0 = .ok header :=
    ⟨_, rfl⟩
  have hihl := ((parsesIpv4_parseRawIpv4Packet (by decide) (by decide) hheader 28 {}).behind_iff
    hheader).mp hraw
  obtain rfl := Except.ok.inj hheader
  exact absurd (hihl ⟨by decide, 8, rfl, by decide⟩).1 (by decide)

end FastNetMon
