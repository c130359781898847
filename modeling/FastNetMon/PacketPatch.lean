/-
FastNetMon/PacketPatch.lean

What the packet parsers write into a packet, whatever stands in it before.

A parser does not look at the packet that it fills: its code, and the function by which it
changes the packet, depend on the capture only (`Patches`).  Where it succeeds, the addresses
and the length are those of the capture, and the ports are either those of the capture or left
as they were (`HeaderPatch`).  Main results: this holds of both parsers that the sFlow
collector uses.
-/
import FastNetMon.PacketParser

namespace FastNetMon

open Memory

/-! ### Parsers that change packets -/

/-- A parser fails for any packet, or changes any packet by one function, of which `good`
says what it does. -/
def Patches (good : ParserCode → (ParsedPacket → ParsedPacket) → Prop)
    (parse : ParsedPacket → Parsed) : Prop :=
  (∃ fault, ∀ packet, parse packet = .error fault) ∨
    ∃ code patch, good code patch ∧ ∀ packet, parse packet = .ok (code, patch packet)

variable {good good' : ParserCode → (ParsedPacket → ParsedPacket) → Prop}
  {parse : ParsedPacket → Parsed}

theorem patches_of_ok {code : ParserCode} {patch : ParsedPacket → ParsedPacket}
    (h : good code patch) (hparse : ∀ packet, parse packet = .ok (code, patch packet)) :
    Patches good parse :=
  .inr ⟨code, patch, h, hparse⟩

theorem patches_of_error {fault : Fault} (h : ∀ packet, parse packet = .error fault) :
    Patches good parse :=
  .inl ⟨fault, h⟩

/-- A parser that reads a value first. -/
theorem patches_bind {α : Type} (read : Except Fault α) {rest : α → ParsedPacket → Parsed}
    (h : ∀ a, read = .ok a → Patches good (rest a)) :
    Patches good fun packet => read >>= fun a => rest a packet := by
  cases read with
  | error fault => exact patches_of_error fun _ => rfl
  | ok a => exact h a rfl

/-- A parser that looks at the capture first. -/
theorem patches_ite {c : Prop} [Decidable c] {parse parse' : ParsedPacket → Parsed}
    (h : c → Patches good parse) (h' : ¬ c → Patches good parse') :
    Patches good fun packet => if c then parse packet else parse' packet := by
  by_cases hc : c
  · simpa only [if_pos hc] using h hc
  · simpa only [if_neg hc] using h' hc

/-- A parser that fills other fields first. -/
theorem Patches.comp (h : Patches good parse) (fill : ParsedPacket → ParsedPacket)
    (hgood : ∀ code patch, good code patch → good' code fun packet => patch (fill packet)) :
    Patches good' fun packet => parse (fill packet) := by
  obtain ⟨fault, hfault⟩ | ⟨code, patch, hpatch, hparse⟩ := h
  · exact patches_of_error fun packet => hfault (fill packet)
  · exact patches_of_ok (hgood code patch hpatch) fun packet => hparse (fill packet)

/-! ### The fields of a header -/

/-- The two ports of a packet. -/
def ParsedPacket.ports (packet : ParsedPacket) : UInt16 × UInt16 :=
  (packet.sourcePort, packet.destinationPort)

/-- Two packets of the same version have the same addresses. -/
def SameAddresses (packet packet' : ParsedPacket) : Prop :=
  packet.ipProtocolVersion = packet'.ipProtocolVersion ∧
    (packet.ipProtocolVersion = 4 → packet.srcIp = packet'.srcIp ∧ packet.dstIp = packet'.dstIp) ∧
    (packet.ipProtocolVersion = 6 →
      packet.srcIpv6 = packet'.srcIpv6 ∧ packet.dstIpv6 = packet'.dstIpv6)

/-- The ports are left alone, or set to fixed values. -/
def PatchesPorts (patch : ParsedPacket → ParsedPacket) : Prop :=
  (∀ packet, (patch packet).ports = packet.ports) ∨
    ∃ ports, ∀ packet, (patch packet).ports = ports

/-- The function does not change what an IP header sets. -/
def KeepsHeader (patch : ParsedPacket → ParsedPacket) : Prop :=
  ∀ packet, (patch packet).ipProtocolVersion = packet.ipProtocolVersion ∧
    (patch packet).srcIp = packet.srcIp ∧ (patch packet).dstIp = packet.dstIp ∧
    (patch packet).srcIpv6 = packet.srcIpv6 ∧ (patch packet).dstIpv6 = packet.dstIpv6 ∧
    (patch packet).length = packet.length ∧
    (patch packet).payloadPointer = packet.payloadPointer ∧
    (patch packet).capturedPayloadLength = packet.capturedPayloadLength

/-- What a transport header changes. -/
structure TransportPatch (patch : ParsedPacket → ParsedPacket) : Prop where
  keeps : KeepsHeader patch
  ports : PatchesPorts patch

/-- What the header of a packet that starts at `pointer` changes, with the length from before
sampling. -/
structure HeaderPatch (pointer : ℕ) (parserOptions : ParserOptions) (lengthBeforeSampling : Int32)
    (patch : ParsedPacket → ParsedPacket) : Prop where
  payload : ∀ packet, (patch packet).payloadPointer = some pointer ∧
    (patch packet).capturedPayloadLength = lengthBeforeSampling
  addresses : ∀ packet packet', SameAddresses (patch packet) (patch packet')
  length : ∀ packet packet', (patch packet).length = (patch packet').length
  lengthBeforeSampling : parserOptions.readPacketLengthFromIpHeader = false →
    ∀ packet, (patch packet).length = .ofInt lengthBeforeSampling.toInt
  ports : PatchesPorts patch

theorem transportPatch_id : TransportPatch id :=
  ⟨fun _ => ⟨rfl, rfl, rfl, rfl, rfl, rfl, rfl, rfl⟩, .inl fun _ => rfl⟩

/-! ### Transport -/

/-- A parser of transport headers. -/
abbrev PatchesTransport : (ParsedPacket → Parsed) → Prop :=
  Patches fun _ patch => TransportPatch patch

theorem patchesTransport_stop (code : ParserCode) :
    PatchesTransport fun packet => .ok (code, packet) :=
  patches_of_ok transportPatch_id fun _ => rfl

/-- Fixed ports are set. -/
theorem patchesTransport_ports (sourcePort destinationPort : UInt16)
    {patch : ParsedPacket → ParsedPacket} (hkeeps : KeepsHeader patch)
    (hports : ∀ packet, (patch packet).ports = (sourcePort, destinationPort)) :
    PatchesTransport fun packet => .ok (.success, patch packet) :=
  patches_of_ok ⟨hkeeps, .inr ⟨_, hports⟩⟩ fun _ => rfl

theorem patchesTransport_tcp (m : Memory) (localPointer : ℕ)
    (patch : TcpHeader → ParsedPacket → ParsedPacket)
    (hkeeps : ∀ header, KeepsHeader (patch header))
    (hports : ∀ header packet,
      (patch header packet).ports = (header.sourcePort, header.destinationPort)) :
    PatchesTransport fun packet => do
      let tcpHeader ← readTcpHeader m localPointer
      return (.success, patch tcpHeader packet) :=
  patches_bind _ fun header _ => patchesTransport_ports _ _ (hkeeps header) (hports header)

theorem patchesTransport_udp (m : Memory) (localPointer : ℕ)
    (patch : UInt16 → UInt16 → ParsedPacket → ParsedPacket)
    (hkeeps : ∀ source destination, KeepsHeader (patch source destination))
    (hports : ∀ source destination packet,
      (patch source destination packet).ports = (source, destination)) :
    PatchesTransport fun packet => do
      let sourcePort ← m.readNtohs localPointer
      let destinationPort ← m.readNtohs (localPointer + 2)
      return (.success, patch sourcePort destinationPort packet) :=
  patches_bind _ fun source _ => patches_bind _ fun destination _ =>
    patchesTransport_ports _ _ (hkeeps source destination) (hports source destination)

theorem patchesTransport_icmp (m : Memory) (localPointer : ℕ)
    (patch : UInt8 → UInt8 → ParsedPacket → ParsedPacket)
    (hkeeps : ∀ icmpType icmpCode, KeepsHeader (patch icmpType icmpCode))
    (hports : ∀ icmpType icmpCode packet, (patch icmpType icmpCode packet).ports = packet.ports) :
    PatchesTransport fun packet => do
      let icmpType ← m.read localPointer
      let icmpCode ← m.read (localPointer + 1)
      return (.success, patch icmpType icmpCode packet) :=
  patches_bind _ fun icmpType _ => patches_bind _ fun icmpCode _ =>
    patches_of_ok ⟨hkeeps icmpType icmpCode, .inl (hports icmpType icmpCode)⟩ fun _ => rfl

theorem patchesTransport_parseTransport (m : Memory) (localPointer : ℕ) (endPointer : ℤ)
    (protocol : UInt8) :
    PatchesTransport (parseTransport m localPointer endPointer protocol) := by
  show PatchesTransport fun packet => parseTransport m localPointer endPointer protocol packet
  unfold parseTransport
  refine patches_ite (fun _ => ?tcp) fun _ => patches_ite (fun _ => ?icmp) fun _ =>
    patches_ite (fun _ => ?udp) fun _ => patchesTransport_stop _
  case tcp =>
    refine patches_ite (fun _ => patches_ite (fun _ => patchesTransport_stop _) fun _ => ?_)
      fun _ => ?_
    · exact patchesTransport_udp m localPointer _
        (fun _ _ _ => ⟨rfl, rfl, rfl, rfl, rfl, rfl, rfl, rfl⟩) fun _ _ _ => rfl
    · exact patchesTransport_tcp m localPointer _
        (fun _ _ => ⟨rfl, rfl, rfl, rfl, rfl, rfl, rfl, rfl⟩) fun _ _ => rfl
  case icmp =>
    exact patches_ite (fun _ => patchesTransport_stop _) fun _ =>
      patchesTransport_icmp m localPointer _
        (fun _ _ _ => ⟨rfl, rfl, rfl, rfl, rfl, rfl, rfl, rfl⟩) fun _ _ _ => rfl
  case udp =>
    exact patches_ite (fun _ => patchesTransport_stop _) fun _ =>
      patchesTransport_udp m localPointer _
        (fun _ _ _ => ⟨rfl, rfl, rfl, rfl, rfl, rfl, rfl, rfl⟩) fun _ _ _ => rfl

theorem patchesTransport_parseRawTransport (m : Memory) (localPointer : ℕ) (endPointer : ℤ)
    (protocol : UInt8) :
    PatchesTransport (parseRawTransport m localPointer endPointer protocol) := by
  show PatchesTransport fun packet => parseRawTransport m localPointer endPointer protocol packet
  unfold parseRawTransport
  refine patches_ite (fun _ => ?tcp) fun _ => patches_ite (fun _ => ?udp) fun _ =>
    patches_ite (fun _ => ?icmp) fun _ => patchesTransport_stop _
  case tcp =>
    exact patches_ite (fun _ => patchesTransport_stop _) fun _ =>
      patchesTransport_tcp m localPointer _ (fun _ _ => ⟨rfl, rfl, rfl, rfl, rfl, rfl, rfl, rfl⟩)
        fun _ _ => rfl
  case udp =>
    exact patches_ite (fun _ => patchesTransport_stop _) fun _ =>
      patchesTransport_udp m localPointer _
        (fun _ _ _ => ⟨rfl, rfl, rfl, rfl, rfl, rfl, rfl, rfl⟩) fun _ _ _ => rfl
  case icmp =>
    exact patches_ite (fun _ => patchesTransport_stop _) fun _ =>
      patchesTransport_icmp m localPointer _
        (fun _ _ _ => ⟨rfl, rfl, rfl, rfl, rfl, rfl, rfl, rfl⟩) fun _ _ _ => rfl

/-! ### Packet headers -/

variable (m : Memory) (pointer : ℕ) (lengthBeforeSampling : Int32) (endPointer : ℤ)
  (parserOptions : ParserOptions)

/-- A parser of packets; nothing is asked of a packet that is turned down. -/
abbrev PatchesHeader : (ParsedPacket → Parsed) → Prop :=
  Patches fun code patch =>
    code = .success → HeaderPatch pointer parserOptions lengthBeforeSampling patch

variable {pointer parserOptions lengthBeforeSampling} in
theorem patchesHeader_stop {code : ParserCode} (h : code ≠ .success) :
    PatchesHeader pointer lengthBeforeSampling parserOptions fun packet => .ok (code, packet) :=
  patches_of_ok (fun hcode => absurd hcode h) fun _ => rfl

variable {pointer parserOptions lengthBeforeSampling} in
/-- A transport header behind an IP header that was read. -/
theorem HeaderPatch.comp {fill patch : ParsedPacket → ParsedPacket}
    (hfill : HeaderPatch pointer parserOptions lengthBeforeSampling fill)
    (hpatch : TransportPatch patch) :
    HeaderPatch pointer parserOptions lengthBeforeSampling fun packet => patch (fill packet) := by
  refine ⟨fun packet => ?_, fun packet packet' => ?_, fun packet packet' => ?_,
    fun hoption packet => ?_, ?_⟩
  · obtain ⟨-, -, -, -, -, -, hpointer, hcaptured⟩ := hpatch.keeps (fill packet)
    rw [hpointer, hcaptured]
    exact hfill.payload packet
  · obtain ⟨hversion, hsrc, hdst, hsrc6, hdst6, -⟩ := hpatch.keeps (fill packet)
    obtain ⟨hversion', hsrc', hdst', hsrc6', hdst6', -⟩ := hpatch.keeps (fill packet')
    have hsame := hfill.addresses packet packet'
    rw [SameAddresses] at hsame ⊢
    rwa [hversion, hversion', hsrc, hsrc', hdst, hdst', hsrc6, hsrc6', hdst6, hdst6']
  · obtain ⟨-, -, -, -, -, hlength, -⟩ := hpatch.keeps (fill packet)
    obtain ⟨-, -, -, -, -, hlength', -⟩ := hpatch.keeps (fill packet')
    rw [hlength, hlength']
    exact hfill.length packet packet'
  · obtain ⟨-, -, -, -, -, hlength, -⟩ := hpatch.keeps (fill packet)
    rw [hlength]
    exact hfill.lengthBeforeSampling hoption packet
  · obtain hkept | ⟨ports, hset⟩ := hpatch.ports
    · obtain hkept' | ⟨ports, hset⟩ := hfill.ports
      · exact .inl fun packet => (hkept (fill packet)).trans (hkept' packet)
      · exact .inr ⟨ports, fun packet => (hkept (fill packet)).trans (hset packet)⟩
    · exact .inr ⟨ports, fun packet => hset (fill packet)⟩

variable {pointer parserOptions lengthBeforeSampling} in
/-- The rest of a parser that has filled a packet from its IP header. -/
theorem patchesHeader_fill {rest : ParsedPacket → Parsed} (hrest : PatchesTransport rest)
    {fill : ParsedPacket → ParsedPacket}
    (hfill : HeaderPatch pointer parserOptions lengthBeforeSampling fill) :
    PatchesHeader pointer lengthBeforeSampling parserOptions fun packet => rest (fill packet) :=
  hrest.comp fill fun _ _ hpatch _ => hfill.comp hpatch

theorem patchesHeader_parseIpv4 (localPointer : ℕ) :
    PatchesHeader pointer lengthBeforeSampling parserOptions
      (parseIpv4 m pointer lengthBeforeSampling endPointer parserOptions localPointer) := by
  show PatchesHeader _ _ _ fun packet =>
    parseIpv4 m pointer lengthBeforeSampling endPointer parserOptions localPointer packet
  unfold parseIpv4
  refine patches_ite (fun _ => patchesHeader_stop (by decide)) fun _ =>
    patches_bind _ fun header _ => ?_
  refine patchesHeader_fill (patches_ite (fun _ => patchesTransport_stop _) fun _ =>
    patches_ite (fun _ => patchesTransport_stop _) fun _ =>
      patchesTransport_parseTransport m _ endPointer header.protocol) ?_
  exact ⟨fun _ => ⟨rfl, rfl⟩,
    fun _ _ => ⟨rfl, fun _ => ⟨rfl, rfl⟩,
      fun h => absurd (show (4 : UInt8) = 6 from h) (by decide)⟩,
    fun _ _ => rfl, fun hoption _ => if_neg (by rw [hoption]; decide),
    .inl fun _ => rfl⟩

theorem patchesTransport_parseIpv6Fragment (localPointer : ℕ) :
    PatchesTransport (parseIpv6Fragment m endPointer localPointer) := by
  show PatchesTransport fun packet => parseIpv6Fragment m endPointer localPointer packet
  unfold parseIpv6Fragment
  refine patches_ite (fun _ => patchesTransport_stop _) fun _ => patches_bind _ fun word _ => ?_
  refine patches_of_ok ?_ fun packet => rfl
  exact ⟨fun _ => ⟨rfl, rfl, rfl, rfl, rfl, rfl, rfl, rfl⟩, .inl fun _ => rfl⟩

theorem patchesHeader_parseIpv6 (localPointer : ℕ) :
    PatchesHeader pointer lengthBeforeSampling parserOptions
      (parseIpv6 m pointer lengthBeforeSampling endPointer parserOptions localPointer) := by
  show PatchesHeader _ _ _ fun packet =>
    parseIpv6 m pointer lengthBeforeSampling endPointer parserOptions localPointer packet
  unfold parseIpv6
  refine patches_ite (fun _ => patchesHeader_stop (by decide)) fun _ =>
    patches_bind _ fun header _ => ?_
  refine patchesHeader_fill (patches_ite (fun _ =>
    patches_ite (fun _ => patchesTransport_parseIpv6Fragment m endPointer _) fun _ =>
      patchesTransport_stop _) fun _ =>
      patchesTransport_parseTransport m _ endPointer header.nextHeader) ?_
  exact ⟨fun _ => ⟨rfl, rfl⟩,
    fun _ _ => ⟨rfl, fun h => absurd (show (6 : UInt8) = 4 from h) (by decide),
      fun _ => ⟨rfl, rfl⟩⟩,
    fun _ _ => rfl, fun hoption _ => if_neg (by rw [hoption]; decide),
    .inl fun _ => rfl⟩

theorem patchesHeader_parseEthertype (ethertype : UInt16) (localPointer : ℕ) :
    PatchesHeader pointer lengthBeforeSampling parserOptions
      (parseEthertype m pointer lengthBeforeSampling endPointer parserOptions ethertype
        localPointer) := by
  show PatchesHeader _ _ _ fun packet => parseEthertype m pointer lengthBeforeSampling endPointer
    parserOptions ethertype localPointer packet
  unfold parseEthertype
  refine patches_ite (fun _ => patchesHeader_parseIpv4 ..) fun _ =>
    patches_ite (fun _ => patchesHeader_parseIpv6 ..) fun _ =>
      patches_ite (fun _ => patchesHeader_stop (by decide)) fun _ =>
        patches_ite (fun _ => patchesHeader_stop (by decide)) fun _ =>
          patchesHeader_stop (by decide)

variable {pointer parserOptions lengthBeforeSampling} in
/-- A parser that first sets fields that no IP header sets. -/
theorem PatchesHeader.comp {parse : ParsedPacket → Parsed}
    (h : PatchesHeader pointer lengthBeforeSampling parserOptions parse)
    (fill : ParsedPacket → ParsedPacket) (hports : ∀ packet, (fill packet).ports = packet.ports) :
    PatchesHeader pointer lengthBeforeSampling parserOptions fun packet => parse (fill packet) := by
  refine Patches.comp h fill fun code patch hpatch hcode => ?_
  have hheader := hpatch hcode
  refine ⟨fun _ => hheader.payload _, fun _ _ => hheader.addresses _ _,
    fun _ _ => hheader.length _ _, fun hoption _ => hheader.lengthBeforeSampling hoption _, ?_⟩
  obtain hkept | ⟨ports, hset⟩ := hheader.ports
  · exact .inl fun packet => (hkept (fill packet)).trans (hports packet)
  · exact .inr ⟨ports, fun packet => hset (fill packet)⟩

/-- The loop over VLAN tags, by induction on the number of tags that may be stripped. -/
theorem patchesHeader_stripVlans (left : ℕ) (ethertype : UInt16) (localPointer : ℕ) :
    PatchesHeader pointer lengthBeforeSampling parserOptions
      (stripVlans m pointer lengthBeforeSampling endPointer parserOptions left ethertype
        localPointer) := by
  show PatchesHeader _ _ _ fun packet => stripVlans m pointer lengthBeforeSampling endPointer
    parserOptions left ethertype localPointer packet
  induction left generalizing ethertype localPointer with
  | zero =>
    unfold stripVlans
    refine patches_ite (fun _ => patches_ite (fun _ => patchesHeader_stop (by decide)) fun _ =>
      patches_bind _ fun metadata _ => ?_) fun _ => patchesHeader_parseEthertype ..
    exact patches_of_ok (fun hcode => absurd hcode (by decide)) fun packet => rfl
  | succ left ih =>
    unfold stripVlans
    refine patches_ite (fun _ => patches_ite (fun _ => patchesHeader_stop (by decide)) fun _ =>
      patches_bind _ fun metadata _ => ?_) fun _ => patchesHeader_parseEthertype ..
    refine PatchesHeader.comp (patches_bind _ fun next _ => ih next (localPointer + 4)) _
      fun packet => ?_
    split <;> rfl

/-! ### Main results -/

/-- **The frame parser writes what the capture holds.** -/
theorem patchesHeader_parseRawPacket (capturedLength : Int32) :
    PatchesHeader pointer lengthBeforeSampling parserOptions fun packet =>
      parseRawPacketToSimplePacketFull m pointer lengthBeforeSampling capturedLength packet
        parserOptions := by
  unfold parseRawPacketToSimplePacketFull
  refine patches_ite (fun _ => patchesHeader_stop (by decide)) fun _ =>
    patches_bind _ fun header _ => ?_
  exact PatchesHeader.comp (patchesHeader_stripVlans m pointer lengthBeforeSampling _
    parserOptions 3 header.ethertype (pointer + 14)) _ fun _ => rfl

/-- **The parser of bare packets writes what the capture holds.** -/
theorem patchesHeader_parseRawIpv4Packet (capturedLength : Int32) :
    PatchesHeader pointer lengthBeforeSampling parserOptions fun packet =>
      parseRawIpv4PacketToSimplePacketFull m pointer lengthBeforeSampling capturedLength packet
        parserOptions := by
  unfold parseRawIpv4PacketToSimplePacketFull
  refine patches_ite (fun _ => patchesHeader_stop (by decide)) fun _ =>
    patches_bind _ fun header _ => ?_
  refine patchesHeader_fill (patches_ite (fun _ => patchesTransport_stop _) fun _ =>
    patchesTransport_parseRawTransport m _ _ header.protocol) ?_
  exact ⟨fun _ => ⟨rfl, rfl⟩,
    fun _ _ => ⟨rfl, fun _ => ⟨rfl, rfl⟩,
      fun h => absurd (show (4 : UInt8) = 6 from h) (by decide)⟩,
    fun _ _ => rfl, fun hoption _ => if_neg (by rw [hoption]; decide),
    .inl fun _ => rfl⟩

end FastNetMon
