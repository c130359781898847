/-
FastNetMon/PcapStorage.lean

Dumps of packets in the pcap format.

A storage (`packet_storage_t`) is a buffer with the file header, to which headers and payloads
of packets are appended as long as there is space; its readers are `pcap_reader` and
`pcap_roller_t`.  The header of a packet is written before it is known whether the payload
fits, so that a storage may end with a header alone.

Main results: a dump reads back as the packets that were taken, at least as many as the buffer
was made for (`pcap_roundTrip`); the readers agree on every file of which the stack holds a
packet (`pcapReader_eq_roller`); what is read from any file is in the file (`pcapRoller_sound`).

`pcap_roller_t` reads into memory of the heap and `pcap_reader` into an array of `snaplen` bytes
on the stack; the file says how many these are, and if the stack does not hold them, what
`pcap_reader` does is undefined.  The clock is an argument of each packet, and the success of
`malloc` one of `allocate_buffer`.  The buffer of `pcap_roller_t` can be allocated, files can be
opened, and `read` returns less than it is asked for only at the end of a file.
-/
import FastNetMon.Octets

namespace FastNetMon

/-! ### Headers -/

/-- `fastnetmon_pcap_file_header_t`. -/
structure PcapFileHeader where
  magic : UInt32 := 0
  versionMajor : UInt16 := 0
  versionMinor : UInt16 := 0
  thiszone : UInt32 := 0
  sigfigs : UInt32 := 0
  snaplen : UInt32 := 0
  linktype : UInt32 := 0
deriving DecidableEq, Repr

/-- `fastnetmon_pcap_pkthdr_t`. -/
structure PcapPkthdr where
  tsSec : UInt32 := 0
  tsUsec : UInt32 := 0
  inclLen : UInt32 := 0
  origLen : UInt32 := 0
deriving DecidableEq, Repr

/-- The word at an offset; bytes that are missing are zero. -/
def word16At (bytes : List UInt8) (offset : ℕ) : UInt16 :=
  ofBytes16 (bytes.getD offset 0) (bytes.getD (offset + 1) 0)

@[inherit_doc word16At]
def word32At (bytes : List UInt8) (offset : ℕ) : UInt32 :=
  ofBytes32 (bytes.getD offset 0) (bytes.getD (offset + 1) 0) (bytes.getD (offset + 2) 0)
    (bytes.getD (offset + 3) 0)

namespace PcapFileHeader

/-- The packed structure in memory. -/
def bytes (header : PcapFileHeader) : List UInt8 :=
  bytes32 header.magic ++ bytes16 header.versionMajor ++ bytes16 header.versionMinor
    ++ bytes32 header.thiszone ++ bytes32 header.sigfigs ++ bytes32 header.snaplen
    ++ bytes32 header.linktype

/-- What `read` leaves in a structure of zeros. -/
def ofBytes (bytes : List UInt8) : PcapFileHeader where
  magic := word32At bytes 0
  versionMajor := word16At bytes 4
  versionMinor := word16At bytes 6
  thiszone := word32At bytes 8
  sigfigs := word32At bytes 12
  snaplen := word32At bytes 16
  linktype := word32At bytes 20

@[simp] theorem length_bytes (header : PcapFileHeader) : header.bytes.length = 24 := rfl

@[simp] theorem ofBytes_bytes (header : PcapFileHeader) : ofBytes header.bytes = header := by
  obtain ⟨magic, versionMajor, versionMinor, thiszone, sigfigs, snaplen, linktype⟩ := header
  simp [ofBytes, word32At, word16At, bytes, bytes32, bytes16]

/-- Twenty-four bytes are those of some header. -/
theorem bytes_ofBytes {bs : List UInt8} (hlength : bs.length = 24) : (ofBytes bs).bytes = bs := by
  match bs, hlength with
  | [b₀, b₁, b₂, b₃, b₄, b₅, b₆, b₇, b₈, b₉, b₁₀, b₁₁, b₁₂, b₁₃, b₁₄, b₁₅, b₁₆, b₁₇, b₁₈, b₁₉, b₂₀,
      b₂₁, b₂₂, b₂₃], _ =>
    simp [ofBytes, word32At, word16At, bytes]

end PcapFileHeader

namespace PcapPkthdr

/-- The structure in memory. -/
def bytes (header : PcapPkthdr) : List UInt8 :=
  bytes32 header.tsSec ++ bytes32 header.tsUsec ++ bytes32 header.inclLen
    ++ bytes32 header.origLen

@[inherit_doc PcapFileHeader.ofBytes]
def ofBytes (bytes : List UInt8) : PcapPkthdr where
  tsSec := word32At bytes 0
  tsUsec := word32At bytes 4
  inclLen := word32At bytes 8
  origLen := word32At bytes 12

@[simp] theorem length_bytes (header : PcapPkthdr) : header.bytes.length = 16 := rfl

@[simp] theorem ofBytes_bytes (header : PcapPkthdr) : ofBytes header.bytes = header := by
  obtain ⟨tsSec, tsUsec, inclLen, origLen⟩ := header
  simp [ofBytes, word32At, bytes, bytes32]

/-- Sixteen bytes are those of some header. -/
theorem bytes_ofBytes {bs : List UInt8} (hlength : bs.length = 16) : (ofBytes bs).bytes = bs := by
  match bs, hlength with
  | [b₀, b₁, b₂, b₃, b₄, b₅, b₆, b₇, b₈, b₉, b₁₀, b₁₁, b₁₂, b₁₃, b₁₄, b₁₅], _ =>
    simp [ofBytes, word32At, bytes]

end PcapPkthdr

/-! ### The storage -/

/-- The magic number of a file in the byte order of the host. -/
def pcapMagic : UInt32 := 0xa1b2c3d4

/-- `fill_pcap_header`. -/
def fillPcapHeader (snapLength : UInt32) : PcapFileHeader where
  magic := pcapMagic
  versionMajor := 2
  versionMinor := 4
  thiszone := 0
  sigfigs := 0
  snaplen := snapLength
  linktype := 1

/-- A packet to be stored: its captured bytes, its real length, and the time. -/
structure CapturedPacket where
  tsSec : UInt32
  tsUsec : UInt32
  realPacketLength : UInt32
  payload : List UInt8
  length_lt : payload.length < 2 ^ 32

namespace CapturedPacket

variable (packet : CapturedPacket)

/-- The number of bytes that are stored. -/
def capturedLength : UInt32 := UInt32.ofNat packet.payload.length

/-- `pcap_packet_header`. -/
def header : PcapPkthdr where
  tsSec := packet.tsSec
  tsUsec := packet.tsUsec
  inclLen := packet.capturedLength
  origLen := packet.realPacketLength

@[simp] theorem toNat_capturedLength : packet.capturedLength.toNat = packet.payload.length :=
  UInt32.toNat_ofNat_of_lt' packet.length_lt

/-- The packet as it stands in a dump. -/
def record : List UInt8 := packet.header.bytes ++ packet.payload

@[simp] theorem length_record : packet.record.length = 16 + packet.payload.length := by
  simp [record]

end CapturedPacket

/-- `packet_storage_t`; `memory` is what was written so far. -/
structure PacketStorage where
  memory : List UInt8 := []
  bufferSize : ℕ := 0
  maxCapturedPacketSize : UInt32 := 1500

namespace PacketStorage

variable (s : PacketStorage)

/-- `we_have_free_space_for_x_bytes`. -/
def weHaveFreeSpaceForXBytes (length : ℕ) : Bool := s.memory.length + length ≤ s.bufferSize

/-- `write_binary_data`. -/
def writeBinaryData (data : List UInt8) : Bool × PacketStorage :=
  if s.weHaveFreeSpaceForXBytes data.length then (true, { s with memory := s.memory ++ data })
  else (false, s)

/-- `allocate_buffer`, its sizes in 64 bits; it writes the file header.  `malloc` tells whether
there is memory of a size. -/
def allocateBuffer (malloc : ℕ → Bool) (bufferSizeInPackets : UInt32) : Bool × PacketStorage :=
  if bufferSizeInPackets = 0 then (false, s)
  else
    let memorySizeInBytes :=
      (bufferSizeInPackets.toNat * (s.maxCapturedPacketSize.toNat + 16) + 24) % 2 ^ 64
    if malloc memorySizeInBytes then
      PacketStorage.writeBinaryData { s with memory := [], bufferSize := memorySizeInBytes }
        (fillPcapHeader s.maxCapturedPacketSize).bytes
    else (false, s)

/-- `write_packet`. -/
def writePacket (packet : CapturedPacket) : Bool × PacketStorage :=
  if packet.capturedLength > s.maxCapturedPacketSize then (false, s)
  else
    let (written, s) := s.writeBinaryData packet.header.bytes
    if !written then (false, s) else s.writeBinaryData packet.payload

/-- Packets are written until one of them is refused: those that were taken, and the storage. -/
def writePackets (s : PacketStorage) : List CapturedPacket → List CapturedPacket × PacketStorage
  | [] => ([], s)
  | packet :: packets =>
      let (written, s) := s.writePacket packet
      if written then
        let (taken, s) := s.writePackets packets
        (packet :: taken, s)
      else ([], s)

end PacketStorage

/-! ### The readers -/

/-- `pcap_packet_information_t`. -/
structure PcapPacketInformation where
  tsSec : UInt32 := 0
  tsUsec : UInt32 := 0
  inclLen : UInt32 := 0
  origLen : UInt32 := 0
  data : List UInt8 := []
deriving DecidableEq, Repr

namespace PcapPacketInformation

variable (information : PcapPacketInformation)

/-- The arguments of the callback of `pcap_reader`. -/
def arguments : List UInt8 × UInt32 × UInt32 :=
  (information.data, information.origLen, information.inclLen)

/-- The header that was in front of the data. -/
def header : PcapPkthdr where
  tsSec := information.tsSec
  tsUsec := information.tsUsec
  inclLen := information.inclLen
  origLen := information.origLen

/-- The packet as it stands in the file. -/
def bytes : List UInt8 := information.header.bytes ++ information.data

end PcapPacketInformation

/-- Both byte orders pass; the fields are read in the order of the host. -/
def knownMagic (magic : UInt32) : Bool := magic = pcapMagic || magic = 0xd4c3b2a1

theorem knownMagic_pcapMagic : knownMagic pcapMagic = true := by decide

/-- The loop of `pcap_reader`: what it returns, and the calls of the callback. -/
def readPackets (snaplen : UInt32) (file : List UInt8) :
    Int × List (List UInt8 × UInt32 × UInt32) :=
  if (file.take 16).length ≠ 16 then (0, [])
  else
    let pcapPacketHeader := PcapPkthdr.ofBytes (file.take 16)
    if pcapPacketHeader.inclLen > snaplen then (-4, [])
    else
      let packetBuffer := (file.drop 16).take pcapPacketHeader.inclLen.toNat
      if packetBuffer.length ≠ pcapPacketHeader.inclLen.toNat then (-3, [])
      else
        let (result, calls) :=
          readPackets snaplen ((file.drop 16).drop pcapPacketHeader.inclLen.toNat)
        (result, (packetBuffer, pcapPacketHeader.origLen, pcapPacketHeader.inclLen) :: calls)
termination_by file.length
decreasing_by
  rename_i hheader _ _
  rw [List.length_take] at hheader
  rw [List.length_drop, List.length_drop]
  omega

/-- `pcap_reader` on the contents of a file: what it returns, and the calls of the callback.  A
file header that is cut off is not refused.  `none` if the stack does not hold its buffer. -/
def pcapReader (stackSize : ℕ) (file : List UInt8) :
    Option (Int × List (List UInt8 × UInt32 × UInt32)) :=
  let pcapHeader := PcapFileHeader.ofBytes (file.take 24)
  if knownMagic pcapHeader.magic then
    if pcapHeader.snaplen.toNat ≤ stackSize then
      some (readPackets pcapHeader.snaplen (file.drop 24))
    else none
  else some (-2, [])

/-- `pcap_roller_t`: the file header, and the rest of the file. -/
structure PcapRoller where
  pcapHeader : PcapFileHeader
  file : List UInt8
deriving DecidableEq, Repr

namespace PcapRoller

/-- `open`. -/
def openFile (file : List UInt8) : Option PcapRoller :=
  let pcapHeader := PcapFileHeader.ofBytes (file.take 24)
  if (file.take 24).length ≠ 24 then none
  else if knownMagic pcapHeader.magic then some ⟨pcapHeader, file.drop 24⟩
  else none

/-- `read_next`; what it reads before it fails is gone. -/
def readNext (roller : PcapRoller) : Option PcapPacketInformation × PcapRoller :=
  let packetHeader := roller.file.take 16
  let roller := { roller with file := roller.file.drop 16 }
  if packetHeader.length ≠ 16 then (none, roller)
  else
    let pcapPacketHeader := PcapPkthdr.ofBytes packetHeader
    if pcapPacketHeader.inclLen > roller.pcapHeader.snaplen then (none, roller)
    else
      let packetBuffer := roller.file.take pcapPacketHeader.inclLen.toNat
      let roller := { roller with file := roller.file.drop pcapPacketHeader.inclLen.toNat }
      if packetBuffer.length ≠ pcapPacketHeader.inclLen.toNat then (none, roller)
      else
        (some
          { tsSec := pcapPacketHeader.tsSec
            tsUsec := pcapPacketHeader.tsUsec
            inclLen := pcapPacketHeader.inclLen
            origLen := pcapPacketHeader.origLen
            data := packetBuffer }, roller)

/-- A packet that is read is cut off the file, its header first. -/
theorem readNext_eq_some {roller rest : PcapRoller} {information : PcapPacketInformation}
    (h : roller.readNext = (some information, rest)) :
    rest.pcapHeader = roller.pcapHeader ∧ roller.file = information.bytes ++ rest.file ∧
      information.data.length = information.inclLen.toNat ∧
      information.inclLen ≤ roller.pcapHeader.snaplen := by
  simp only [readNext] at h
  split at h
  · cases h
  rename_i hheader
  split at h
  · cases h
  rename_i hlong
  split at h
  · cases h
  rename_i hpayload
  obtain ⟨hinformation, rfl⟩ := Prod.mk.inj h
  obtain rfl := Option.some.inj hinformation
  have hbytes := PcapPkthdr.bytes_ofBytes (not_not.mp hheader)
  refine ⟨rfl, ?_, not_not.mp hpayload, UInt32.not_lt.mp hlong⟩
  show roller.file = (PcapPkthdr.ofBytes (roller.file.take 16)).bytes ++ _ ++ _
  rw [hbytes, List.append_assoc, List.take_append_drop, List.take_append_drop]

/-- A packet that was read has taken bytes of the file. -/
theorem readNext_length {roller rest : PcapRoller} {information : PcapPacketInformation}
    (h : roller.readNext = (some information, rest)) : rest.file.length < roller.file.length := by
  obtain ⟨-, hfile, -⟩ := readNext_eq_some h
  rw [hfile, List.length_append, PcapPacketInformation.bytes, List.length_append,
    PcapPkthdr.length_bytes]
  omega

/-- Packets are read until `read_next` fails. -/
def readAll (roller : PcapRoller) : List PcapPacketInformation :=
  match _h : roller.readNext with
  | (none, _) => []
  | (some information, rest) => information :: rest.readAll
termination_by roller.file.length
decreasing_by exact readNext_length _h

end PcapRoller

/-! ### The readers agree -/

/-- What `pcap_reader` returns at the place where `read_next` fails. -/
theorem readPackets_of_none {roller : PcapRoller} (h : roller.readNext.1 = none) :
    ∃ result, readPackets roller.pcapHeader.snaplen roller.file = (result, []) ∧ result ≠ -2 ∧
      (result = 0 ↔ roller.file.length < 16) := by
  have hlength : (roller.file.take 16).length ≠ 16 ↔ roller.file.length < 16 := by
    rw [List.length_take]
    omega
  rw [readPackets]
  by_cases hheader : (roller.file.take 16).length ≠ 16
  · exact ⟨0, if_pos hheader, by decide, iff_of_true rfl (hlength.mp hheader)⟩
  have hlong : ¬ roller.file.length < 16 := mt hlength.mpr hheader
  rw [if_neg hheader]
  by_cases hsnaplen : (PcapPkthdr.ofBytes (roller.file.take 16)).inclLen > roller.pcapHeader.snaplen
  · exact ⟨-4, if_pos hsnaplen, by decide, iff_of_false (by decide) hlong⟩
  by_cases hpayload : ((roller.file.drop 16).take
      (PcapPkthdr.ofBytes (roller.file.take 16)).inclLen.toNat).length
        ≠ (PcapPkthdr.ofBytes (roller.file.take 16)).inclLen.toNat
  · exact ⟨-3, (if_neg hsnaplen).trans (if_pos hpayload), by decide,
      iff_of_false (by decide) hlong⟩
  -- otherwise `read_next` would not have failed
  obtain ⟨information, rest, hread⟩ : ∃ information rest,
      roller.readNext = (some information, rest) :=
    ⟨_, _, (if_neg hheader).trans ((if_neg hsnaplen).trans (if_neg hpayload))⟩
  rw [hread] at h
  cases h

/-- After a packet the other reader goes on behind it. -/
theorem readPackets_of_some {roller rest : PcapRoller} {information : PcapPacketInformation}
    (h : roller.readNext = (some information, rest)) :
    readPackets roller.pcapHeader.snaplen roller.file
      = ((readPackets rest.pcapHeader.snaplen rest.file).1,
        information.arguments :: (readPackets rest.pcapHeader.snaplen rest.file).2) := by
  rw [readPackets]
  simp only [PcapRoller.readNext] at h
  split at h
  · cases h
  rename_i hheader
  split at h
  · cases h
  rename_i hsnaplen
  split at h
  · cases h
  rename_i hpayload
  obtain ⟨hinformation, rfl⟩ := Prod.mk.inj h
  obtain rfl := Option.some.inj hinformation
  rw [if_neg hheader]
  exact (if_neg hsnaplen).trans (if_neg hpayload)

/-- The packets of the two readers, and what is left of the file. -/
structure ReadersAgree (roller : PcapRoller) : Prop where
  calls : (readPackets roller.pcapHeader.snaplen roller.file).2
    = roller.readAll.map PcapPacketInformation.arguments
  result : (readPackets roller.pcapHeader.snaplen roller.file).1 ≠ -2
  sound : ∃ rest, roller.file = roller.readAll.flatMap PcapPacketInformation.bytes ++ rest ∧
    ((readPackets roller.pcapHeader.snaplen roller.file).1 = 0 ↔ rest.length < 16)
  sized : ∀ information ∈ roller.readAll, information.data.length = information.inclLen.toNat ∧
    information.inclLen ≤ roller.pcapHeader.snaplen

/-- Both readers see the same packets from any place on. -/
theorem readersAgree (roller : PcapRoller) : ReadersAgree roller := by
  -- by induction on the file, packet by packet
  induction roller using PcapRoller.readAll.induct with
  | case1 roller rest h =>
      have hall : roller.readAll = [] := by
        rw [PcapRoller.readAll, h]
      obtain ⟨result, hreader, hresult, hzero⟩ := readPackets_of_none (congrArg Prod.fst h)
      refine ⟨by rw [hreader, hall]; rfl, by rw [hreader]; exact hresult,
        ⟨roller.file, ?_, by rw [hreader]; exact hzero⟩, ?_⟩
      · rw [hall]
        rfl
      · rw [hall]
        intro information hmem
        cases hmem
  | case2 roller information rest h ih =>
      have hall : roller.readAll = information :: rest.readAll := by
        rw [PcapRoller.readAll, h]
      have hreader := readPackets_of_some h
      obtain ⟨hheader, hfile, hdata, hsnaplen⟩ := PcapRoller.readNext_eq_some h
      obtain ⟨left, hleft, hzero⟩ := ih.sound
      refine ⟨?_, by rw [hreader]; exact ih.result, ⟨left, ?_, by rw [hreader]; exact hzero⟩, ?_⟩
      · rw [hreader, hall, List.map_cons, ih.calls]
      · rw [hall, List.flatMap_cons, List.append_assoc, ← hleft, hfile]
      · rw [hall, ← hheader]
        exact List.forall_mem_cons.mpr ⟨⟨hdata, hheader ▸ hsnaplen⟩, ih.sized⟩

/-- A written header is read back. -/
theorem openFile_bytes {pcapHeader : PcapFileHeader} (hmagic : knownMagic pcapHeader.magic = true)
    (file : List UInt8) :
    PcapRoller.openFile (pcapHeader.bytes ++ file) = some ⟨pcapHeader, file⟩ := by
  have htake : (pcapHeader.bytes ++ file).take 24 = pcapHeader.bytes := List.take_left' rfl
  have hdrop : (pcapHeader.bytes ++ file).drop 24 = file := List.drop_left' rfl
  have hheader : ¬ pcapHeader.bytes.length ≠ 24 := not_not.mpr pcapHeader.length_bytes
  rw [PcapRoller.openFile, htake, hdrop, PcapFileHeader.ofBytes_bytes, if_neg hheader,
    if_pos hmagic]

/-- A file that is opened has the magic, and what follows its header is read. -/
theorem openFile_eq_some {file : List UInt8} {roller : PcapRoller}
    (h : PcapRoller.openFile file = some roller) :
    file = roller.pcapHeader.bytes ++ roller.file ∧
      ∀ stackSize, pcapReader stackSize file =
        if roller.pcapHeader.snaplen.toNat ≤ stackSize then
          some (readPackets roller.pcapHeader.snaplen roller.file)
        else none := by
  rw [PcapRoller.openFile] at h
  split at h
  · cases h
  rename_i hlength
  split at h
  · rename_i hmagic
    obtain rfl := Option.some.inj h
    refine ⟨?_, fun _ => if_pos hmagic⟩
    rw [PcapFileHeader.bytes_ofBytes (not_not.mp hlength), List.take_append_drop]
  · cases h

/-- The other reader dies only of a snap length that the stack does not hold. -/
theorem pcapReader_eq_none {stackSize : ℕ} {file : List UInt8}
    (h : pcapReader stackSize file = none) :
    stackSize < (PcapFileHeader.ofBytes (file.take 24)).snaplen.toNat := by
  rw [pcapReader] at h
  by_contra hstack
  split at h
  · rw [if_pos (not_lt.mp hstack)] at h
    cases h
  · cases h

/-- Of a file that the roller does not open, the other reader yields nothing. -/
theorem openFile_eq_none {file : List UInt8} (h : PcapRoller.openFile file = none)
    {stackSize : ℕ} {answer : Int × List (List UInt8 × UInt32 × UInt32)}
    (hreader : pcapReader stackSize file = some answer) :
    answer.2 = [] ∧ (24 ≤ file.length → answer.1 = -2) := by
  have hlength : (file.take 24).length ≠ 24 ↔ ¬ 24 ≤ file.length := by
    rw [List.length_take]
    omega
  rw [PcapRoller.openFile] at h
  rw [pcapReader] at hreader
  split at h
  · rename_i hshort
    have hnothing : file.drop 24 = [] :=
      List.drop_eq_nil_of_le (not_le.mp (hlength.mp hshort)).le
    have hread : ∀ snaplen, readPackets snaplen (file.drop 24) = (0, []) := by
      intro snaplen
      rw [hnothing, readPackets]
      rfl
    refine ⟨?_, fun hlong => absurd hlong (hlength.mp hshort)⟩
    split at hreader
    · rw [hread, Option.ite_none_right_eq_some] at hreader
      rw [← Option.some.inj hreader.2]
    · rw [← Option.some.inj hreader]
  · split at h
    · cases h
    · rename_i hmagic
      rw [if_neg hmagic] at hreader
      rw [← Option.some.inj hreader]
      exact ⟨rfl, fun _ => rfl⟩

/-! ### Writing and reading -/

/-- What a reader gets of a packet. -/
def CapturedPacket.information (packet : CapturedPacket) : PcapPacketInformation where
  tsSec := packet.tsSec
  tsUsec := packet.tsUsec
  inclLen := packet.capturedLength
  origLen := packet.realPacketLength
  data := packet.payload

theorem readNext_record {pcapHeader : PcapFileHeader} {packet : CapturedPacket}
    (hfits : packet.capturedLength ≤ pcapHeader.snaplen) (rest : List UInt8) :
    PcapRoller.readNext ⟨pcapHeader, packet.record ++ rest⟩
      = (some packet.information, ⟨pcapHeader, rest⟩) := by
  have htake : (packet.record ++ rest).take 16 = packet.header.bytes := by
    rw [CapturedPacket.record, List.append_assoc]
    exact List.take_left' rfl
  have hdrop : (packet.record ++ rest).drop 16 = packet.payload ++ rest := by
    rw [CapturedPacket.record, List.append_assoc]
    exact List.drop_left' rfl
  have hheader : ¬ packet.header.bytes.length ≠ 16 := not_not.mpr packet.header.length_bytes
  have hlength : packet.header.inclLen.toNat = packet.payload.length := packet.toNat_capturedLength
  have hsnaplen : ¬ packet.header.inclLen > pcapHeader.snaplen := UInt32.not_lt.mpr hfits
  rw [PcapRoller.readNext]
  dsimp only
  rw [htake, hdrop, PcapPkthdr.ofBytes_bytes, if_neg hheader, if_neg hsnaplen, hlength,
    List.take_left' rfl, List.drop_left' rfl, if_neg (not_not.mpr rfl)]
  rfl

/-- Records are read back one after the other, and then what follows them. -/
theorem readAll_records {pcapHeader : PcapFileHeader} {packets : List CapturedPacket}
    (hfits : ∀ packet ∈ packets, packet.capturedLength ≤ pcapHeader.snaplen) (rest : List UInt8) :
    PcapRoller.readAll ⟨pcapHeader, packets.flatMap CapturedPacket.record ++ rest⟩
        = packets.map CapturedPacket.information ++ PcapRoller.readAll ⟨pcapHeader, rest⟩ ∧
      (readPackets pcapHeader.snaplen (packets.flatMap CapturedPacket.record ++ rest)).1
        = (readPackets pcapHeader.snaplen rest).1 := by
  induction packets with
  | nil => exact ⟨rfl, rfl⟩
  | cons packet packets ih =>
      obtain ⟨hpacket, hpackets⟩ := List.forall_mem_cons.mp hfits
      obtain ⟨ihAll, ihResult⟩ := ih hpackets
      have hread := readNext_record hpacket (packets.flatMap CapturedPacket.record ++ rest)
      have hreader := congrArg Prod.fst (readPackets_of_some hread)
      rw [List.flatMap_cons, List.append_assoc]
      refine ⟨?_, ?_⟩
      · rw [PcapRoller.readAll, hread]
        show packet.information :: PcapRoller.readAll _ = _
        rw [ihAll]
        rfl
      · rw [← ihResult]
        exact hreader

/-! ### Writing -/

/-- What becomes of a packet: it is taken, it is refused, or only its header is written. -/
inductive PacketStorage.Writes (s : PacketStorage) (packet : CapturedPacket) :
    Bool × PacketStorage → Prop
  | taken (hsize : packet.capturedLength ≤ s.maxCapturedPacketSize)
      (hroom : s.memory.length + packet.record.length ≤ s.bufferSize) :
      s.Writes packet (true, { s with memory := s.memory ++ packet.record })
  | refused (hfull : packet.capturedLength ≤ s.maxCapturedPacketSize →
      s.bufferSize < s.memory.length + packet.record.length) : s.Writes packet (false, s)
  | headerOnly (hsize : packet.capturedLength ≤ s.maxCapturedPacketSize)
      (hpayload : packet.payload ≠ [])
      (hfull : s.bufferSize < s.memory.length + packet.record.length) :
      s.Writes packet (false, { s with memory := s.memory ++ packet.header.bytes })

theorem PacketStorage.writeBinaryData_of_le {s : PacketStorage} {data : List UInt8}
    (h : s.memory.length + data.length ≤ s.bufferSize) :
    s.writeBinaryData data = (true, { s with memory := s.memory ++ data }) :=
  if_pos (decide_eq_true h)

theorem PacketStorage.writeBinaryData_of_lt {s : PacketStorage} {data : List UInt8}
    (h : s.bufferSize < s.memory.length + data.length) : s.writeBinaryData data = (false, s) :=
  if_neg (mt of_decide_eq_true (not_le.mpr h))

theorem PacketStorage.writes_writePacket (s : PacketStorage) (packet : CapturedPacket) :
    s.Writes packet (s.writePacket packet) := by
  have hrecord := packet.length_record
  rw [writePacket]
  by_cases hsize : packet.capturedLength > s.maxCapturedPacketSize
  · rw [if_pos hsize]
    exact .refused fun hfits => absurd hsize (UInt32.not_lt.mpr hfits)
  have hfits := UInt32.not_lt.mp hsize
  rw [if_neg hsize]
  by_cases hheader : s.memory.length + packet.header.bytes.length ≤ s.bufferSize
  · rw [writeBinaryData_of_le hheader]
    show s.Writes packet
      (PacketStorage.writeBinaryData { s with memory := s.memory ++ packet.header.bytes } _)
    have hlength : (s.memory ++ packet.header.bytes).length = s.memory.length + 16 :=
      List.length_append
    by_cases hroom : (s.memory ++ packet.header.bytes).length + packet.payload.length
        ≤ s.bufferSize
    · rw [writeBinaryData_of_le hroom]
      show s.Writes packet (true, { s with memory := s.memory ++ _ ++ _ })
      rw [List.append_assoc]
      exact .taken hfits (by omega)
    · -- the header is written already
      rw [writeBinaryData_of_lt (not_le.mp hroom)]
      refine .headerOnly hfits ?_ (by omega)
      intro hnil
      rw [hnil, List.length_append] at hroom
      exact hroom hheader
  · rw [writeBinaryData_of_lt (not_le.mp hheader)]
    rw [PcapPkthdr.length_bytes] at hheader
    exact .refused fun _ => by omega

/-- What can follow the records of a dump: nothing, or the header of a packet that did not fit. -/
def LeftBehind (maxCapturedPacketSize : UInt32) (tail : List UInt8) : Prop :=
  tail = [] ∨ ∃ packet : CapturedPacket, packet.capturedLength ≤ maxCapturedPacketSize ∧
    packet.payload ≠ [] ∧ tail = packet.header.bytes

/-- The packets `taken` of `packets` are in the storage `dump` that was `s` before: as many as
there is room for, up to one that is too large. -/
structure PacketStorage.Wrote (s : PacketStorage) (packets taken : List CapturedPacket)
    (dump : PacketStorage) : Prop where
  memory : ∃ tail, LeftBehind s.maxCapturedPacketSize tail ∧
    dump.memory = s.memory ++ taken.flatMap CapturedPacket.record ++ tail
  taken : ∀ early, early <+: taken ↔ early <+: packets ∧
    (∀ packet ∈ early, packet.capturedLength ≤ s.maxCapturedPacketSize) ∧
    s.memory.length + (early.flatMap CapturedPacket.record).length ≤ s.bufferSize

/-- A packet that is not taken is the end. -/
theorem PacketStorage.wrote_stopped {s dump : PacketStorage} {packet : CapturedPacket}
    {packets : List CapturedPacket} {tail : List UInt8} (hinside : s.memory.length ≤ s.bufferSize)
    (hfull : packet.capturedLength ≤ s.maxCapturedPacketSize →
      s.bufferSize < s.memory.length + packet.record.length)
    (htail : LeftBehind s.maxCapturedPacketSize tail) (hdump : dump.memory = s.memory ++ tail) :
    s.Wrote (packet :: packets) [] dump := by
  refine ⟨⟨tail, htail, ?_⟩, fun early => ?_⟩
  · rw [List.flatMap_nil, List.append_nil]
    exact hdump
  rw [List.prefix_nil]
  constructor
  · rintro rfl
    exact ⟨List.nil_prefix, by simp, hinside⟩
  · rintro ⟨hearly, hsize, hroom⟩
    cases early with
    | nil => rfl
    | cons first early =>
        obtain ⟨rfl, -⟩ := List.cons_prefix_cons.mp hearly
        have := hfull (hsize first List.mem_cons_self)
        rw [List.flatMap_cons, List.length_append] at hroom
        omega

theorem PacketStorage.wrote_writePackets (packets : List CapturedPacket) {s : PacketStorage}
    (hinside : s.memory.length ≤ s.bufferSize) :
    s.Wrote packets (s.writePackets packets).1 (s.writePackets packets).2 := by
  -- the storage changes with each packet
  induction packets generalizing s with
  | nil =>
      refine ⟨⟨[], .inl rfl, by simp [writePackets]⟩, fun early => ?_⟩
      show early <+: [] ↔ _
      rw [List.prefix_nil]
      constructor
      · rintro rfl
        exact ⟨rfl, by simp, hinside⟩
      · rintro ⟨hearly, -⟩
        exact hearly
  | cons packet packets ih =>
      have hwrites := s.writes_writePacket packet
      rw [writePackets]
      generalize s.writePacket packet = result at hwrites
      cases hwrites with
      | taken hsize hroom =>
          rw [← List.length_append] at hroom
          obtain ⟨⟨tail, htail, hmemory⟩, htaken⟩ :=
            ih (s := { s with memory := s.memory ++ packet.record }) hroom
          dsimp only at htaken
          refine ⟨⟨tail, htail, hmemory.trans ?_⟩, fun early => ?_⟩
          · show _ = s.memory ++ (packet :: _).flatMap CapturedPacket.record ++ tail
            rw [List.flatMap_cons, ← List.append_assoc s.memory]
          show early <+: packet :: _ ↔ _
          cases early with
          | nil =>
              exact iff_of_true List.nil_prefix ⟨List.nil_prefix, by simp, hinside⟩
          | cons first early =>
              rw [List.cons_prefix_cons, List.cons_prefix_cons, htaken early,
                List.forall_mem_cons, List.flatMap_cons, List.length_append, List.length_append]
              constructor
              · rintro ⟨rfl, hearly, hsizes, hrest⟩
                exact ⟨⟨rfl, hearly⟩, ⟨hsize, hsizes⟩, by omega⟩
              · rintro ⟨⟨rfl, hearly⟩, ⟨-, hsizes⟩, hrest⟩
                exact ⟨rfl, hearly, hsizes, by omega⟩
      | refused hfull =>
          exact wrote_stopped hinside hfull (.inl rfl) (List.append_nil _).symm
      | headerOnly hsize hpayload hfull =>
          exact wrote_stopped hinside (fun _ => hfull) (.inr ⟨packet, hsize, hpayload, rfl⟩) rfl

/-- The size that `allocate_buffer` asks for, as a number. -/
def PacketStorage.requestedSize (s : PacketStorage) (bufferSizeInPackets : UInt32) : ℕ :=
  bufferSizeInPackets.toNat * (s.maxCapturedPacketSize.toNat + 16) + 24

theorem PacketStorage.allocateBuffer_spec (s : PacketStorage) (malloc : ℕ → Bool)
    (bufferSizeInPackets : UInt32) :
    match s.allocateBuffer malloc bufferSizeInPackets with
    | (false, _) => bufferSizeInPackets = 0 ∨ 2 ^ 64 ≤ s.requestedSize bufferSizeInPackets ∨
        malloc (s.requestedSize bufferSizeInPackets) = false
    | (true, allocated) => allocated.memory = (fillPcapHeader s.maxCapturedPacketSize).bytes ∧
        allocated.maxCapturedPacketSize = s.maxCapturedPacketSize ∧
        allocated.memory.length ≤ allocated.bufferSize ∧
        (s.requestedSize bufferSizeInPackets < 2 ^ 64 →
          allocated.bufferSize = s.requestedSize bufferSizeInPackets) := by
  by_cases hzero : bufferSizeInPackets = 0
  · rw [allocateBuffer, if_pos hzero]
    exact .inl hzero
  rw [allocateBuffer, if_neg hzero]
  have hleast : 24 ≤ s.requestedSize bufferSizeInPackets := Nat.le_add_left 24 _
  have hwrap : s.requestedSize bufferSizeInPackets < 2 ^ 64 →
      s.requestedSize bufferSizeInPackets % 2 ^ 64 = s.requestedSize bufferSizeInPackets :=
    Nat.mod_eq_of_lt
  rw [← requestedSize]
  -- only a size that wraps around is too small for the file header
  generalize s.requestedSize bufferSizeInPackets % 2 ^ 64 = size at hwrap ⊢
  by_cases hmalloc : malloc size = true
  swap
  · rw [if_neg hmalloc]
    refine .inr (or_iff_not_imp_left.mpr fun hsmall => ?_)
    rw [hwrap (not_le.mp hsmall)] at hmalloc
    exact Bool.eq_false_iff.mpr hmalloc
  rw [if_pos hmalloc]
  rcases le_or_gt 24 size with hroom | hroom
  · rw [writeBinaryData_of_le]
    · refine ⟨List.nil_append _, rfl, ?_, hwrap⟩
      show ([] ++ (fillPcapHeader s.maxCapturedPacketSize).bytes).length ≤ size
      rw [List.nil_append, PcapFileHeader.length_bytes]
      exact hroom
    · exact hroom
  · rw [writeBinaryData_of_lt]
    · refine .inr (.inl (not_lt.mp fun hsmall => ?_))
      rw [hwrap hsmall] at hroom
      exact hroom.not_ge hleast
    · exact hroom

/-- Packets of the largest size fit as often as the buffer was made for. -/
theorem length_records_le {maxCapturedPacketSize : UInt32} {packets : List CapturedPacket}
    (hsize : ∀ packet ∈ packets, packet.capturedLength ≤ maxCapturedPacketSize) :
    (packets.flatMap CapturedPacket.record).length
      ≤ packets.length * (maxCapturedPacketSize.toNat + 16) := by
  induction packets with
  | nil => exact Nat.zero_le _
  | cons packet packets ih =>
      obtain ⟨hpacket, hpackets⟩ := List.forall_mem_cons.mp hsize
      have hlength := UInt32.le_iff_toNat_le.mp hpacket
      rw [packet.toNat_capturedLength] at hlength
      rw [List.flatMap_cons, List.length_append, packet.length_record, List.length_cons,
        Nat.succ_mul]
      have := ih hpackets
      omega

/-! ### Reading a dump -/

/-- Nothing is read of what is left behind. -/
theorem read_leftBehind {pcapHeader : PcapFileHeader} {tail : List UInt8}
    (htail : LeftBehind pcapHeader.snaplen tail) :
    PcapRoller.readAll ⟨pcapHeader, tail⟩ = [] ∧
      (readPackets pcapHeader.snaplen tail).1 = if tail = [] then 0 else -3 := by
  rcases htail with rfl | ⟨packet, hsize, hpayload, rfl⟩
  · refine ⟨?_, ?_⟩
    · rw [PcapRoller.readAll]
      rfl
    · rw [readPackets]
      rfl
  · have htake : packet.header.bytes.take 16 = packet.header.bytes := rfl
    have hdrop : packet.header.bytes.drop 16 = [] := rfl
    have hheader : ¬ packet.header.bytes.length ≠ 16 := not_not.mpr packet.header.length_bytes
    have hsnaplen : ¬ packet.header.inclLen > pcapHeader.snaplen := UInt32.not_lt.mpr hsize
    -- the header is there, and nothing of the payload
    have hmissing : (List.take packet.header.inclLen.toNat ([] : List UInt8)).length
        ≠ packet.header.inclLen.toNat := by
      rw [List.take_nil, List.length_nil]
      show 0 ≠ packet.capturedLength.toNat
      rw [packet.toNat_capturedLength]
      exact (List.length_pos_iff.mpr hpayload).ne
    refine ⟨?_, ?_⟩
    · rw [PcapRoller.readAll, PcapRoller.readNext]
      dsimp only
      rw [htake, hdrop, PcapPkthdr.ofBytes_bytes, if_neg hheader, if_neg hsnaplen,
        if_pos hmissing]
    · rw [readPackets, htake, hdrop, PcapPkthdr.ofBytes_bytes, if_neg hheader]
      dsimp only
      rw [if_neg hsnaplen, if_pos hmissing]
      rfl

/-- Both readers get the packets back from the dump, `pcap_reader` if the stack holds one of the
largest size.  Its result says whether the header of another packet follows them. -/
structure ReadsBack (maxCapturedPacketSize : UInt32) (packets : List CapturedPacket)
    (dump : List UInt8) : Prop where
  roller : (PcapRoller.openFile dump).map PcapRoller.readAll
    = some (packets.map CapturedPacket.information)
  reader : ∀ stackSize, maxCapturedPacketSize.toNat ≤ stackSize → ∃ result,
    pcapReader stackSize dump
        = some (result, packets.map fun packet => packet.information.arguments) ∧
      (result = 0 ∧ dump.length = 24 + (packets.flatMap CapturedPacket.record).length ∨
        result = -3 ∧ dump.length = 24 + (packets.flatMap CapturedPacket.record).length + 16)

theorem readsBack_records {maxCapturedPacketSize : UInt32} {packets : List CapturedPacket}
    (hsize : ∀ packet ∈ packets, packet.capturedLength ≤ maxCapturedPacketSize)
    {tail : List UInt8} (htail : LeftBehind maxCapturedPacketSize tail) :
    ReadsBack maxCapturedPacketSize packets ((fillPcapHeader maxCapturedPacketSize).bytes
      ++ packets.flatMap CapturedPacket.record ++ tail) := by
  rw [List.append_assoc]
  have hopen := @openFile_bytes (fillPcapHeader maxCapturedPacketSize) knownMagic_pcapMagic
    (packets.flatMap CapturedPacket.record ++ tail)
  obtain ⟨hall, hresult⟩ := @readAll_records (fillPcapHeader maxCapturedPacketSize) _ hsize tail
  obtain ⟨hnothing, hleft⟩ := @read_leftBehind (fillPcapHeader maxCapturedPacketSize) _ htail
  rw [hnothing, List.append_nil] at hall
  obtain ⟨-, hreader⟩ := openFile_eq_some hopen
  refine ⟨?_, fun stackSize hstack => ?_⟩
  · rw [hopen, Option.map_some, hall]
  refine ⟨if tail = [] then 0 else -3, ?_, ?_⟩
  · rw [hreader]
    refine (if_pos hstack).trans (congrArg some (Prod.ext ?_ ?_))
    · exact hresult.trans hleft
    · rw [(readersAgree _).calls, hall, List.map_map]
      rfl
  · rw [List.length_append, List.length_append, PcapFileHeader.length_bytes]
    rcases htail with rfl | ⟨packet, -, -, rfl⟩
    · exact .inl ⟨rfl, rfl⟩
    · exact .inr ⟨rfl, by rw [PcapPkthdr.length_bytes, Nat.add_assoc]⟩

/-! ### Main results -/

/-- **The two readers agree on every file** with packets that the stack holds.  `pcap_reader`
calls back with the packets that `pcap_roller_t` yields until it stops; on a file with a whole
header it refuses the magic if and only if the other does not open the file. -/
theorem pcapReader_eq_roller (stackSize : ℕ) (file : List UInt8) :
    match pcapReader stackSize file with
    | none => stackSize < (PcapFileHeader.ofBytes (file.take 24)).snaplen.toNat
    | some (result, calls) =>
        calls = ((PcapRoller.openFile file).elim [] PcapRoller.readAll).map
          PcapPacketInformation.arguments ∧
        (24 ≤ file.length → (result = -2 ↔ PcapRoller.openFile file = none)) := by
  rcases hreader : pcapReader stackSize file with - | ⟨result, calls⟩
  · exact pcapReader_eq_none hreader
  rcases hopen : PcapRoller.openFile file with - | roller
  · obtain ⟨hcalls, hresult⟩ := openFile_eq_none hopen hreader
    exact ⟨hcalls, fun hlong => iff_of_true (hresult hlong) rfl⟩
  · obtain ⟨-, hread⟩ := openFile_eq_some hopen
    have hagree := readersAgree roller
    rw [hread, Option.ite_none_right_eq_some] at hreader
    have hpackets : readPackets roller.pcapHeader.snaplen roller.file = (result, calls) :=
      Option.some.inj hreader.2
    refine ⟨?_, fun _ => iff_of_false ?_ (by simp)⟩
    · rw [Option.elim_some, ← hagree.calls, hpackets]
    · have hresult := hagree.result
      rw [hpackets] at hresult
      exact hresult

/-- **What is read is in the file**: after the file header come the packets that were read, each
with its header and as long as this says, and no longer than the limit of the file.  If the
stack holds its buffer, `pcap_reader` returns 0 if and only if less than a header is left behind
them. -/
theorem pcapRoller_sound {file : List UInt8} {roller : PcapRoller}
    (h : PcapRoller.openFile file = some roller) :
    (∃ rest, file = roller.pcapHeader.bytes
        ++ roller.readAll.flatMap PcapPacketInformation.bytes ++ rest ∧
      ∀ stackSize answer, pcapReader stackSize file = some answer →
        (answer.1 = 0 ↔ rest.length < 16)) ∧
      ∀ information ∈ roller.readAll, information.data.length = information.inclLen.toNat ∧
        information.inclLen ≤ roller.pcapHeader.snaplen := by
  obtain ⟨hfile, hreader⟩ := openFile_eq_some h
  have hagree := readersAgree roller
  obtain ⟨rest, hrest, hzero⟩ := hagree.sound
  refine ⟨⟨rest, ?_, fun stackSize answer hanswer => ?_⟩, hagree.sized⟩
  · rw [List.append_assoc, ← hrest]
    exact hfile
  · rw [hreader, Option.ite_none_right_eq_some] at hanswer
    rw [← Option.some.inj hanswer.2]
    exact hzero

/-- A packet of which two bytes were captured. -/
def shortPacket : CapturedPacket where
  tsSec := 10
  tsUsec := 0
  realPacketLength := 60
  payload := [69, 0]
  length_lt := by decide

/-- The packet is read from a file that has another byte behind it. -/
theorem pcapRoller_sound_shortPacket : ∃ roller : PcapRoller,
    shortPacket.information ∈ roller.readAll ∧
      ∀ information ∈ roller.readAll, information.data.length = information.inclLen.toNat ∧
        information.inclLen ≤ roller.pcapHeader.snaplen := by
  have hopen := @openFile_bytes (fillPcapHeader 1500) knownMagic_pcapMagic
    ([shortPacket].flatMap CapturedPacket.record ++ [0])
  have hsize : ∀ packet ∈ [shortPacket], packet.capturedLength ≤ (fillPcapHeader 1500).snaplen := by
    decide
  refine ⟨_, ?_, (pcapRoller_sound hopen).2⟩
  rw [(readAll_records hsize [0]).1]
  exact List.mem_cons_self

/-- **A dump reads back.**  A buffer is made for any number of packets but zero, unless its size
overflows or there is no memory of this size.  It takes packets as far as there is room, up to
one that is too large: so many as it was made for at least.  Both readers get these packets back
with their lengths, `pcap_roller_t` also with their times. -/
theorem pcap_roundTrip (s : PacketStorage) (malloc : ℕ → Bool) (bufferSizeInPackets : UInt32)
    (packets : List CapturedPacket) :
    match s.allocateBuffer malloc bufferSizeInPackets with
    | (false, _) => bufferSizeInPackets = 0 ∨ 2 ^ 64 ≤ s.requestedSize bufferSizeInPackets ∨
        malloc (s.requestedSize bufferSizeInPackets) = false
    | (true, allocated) => ∃ taken, (allocated.writePackets packets).1 = taken ∧
        taken <+: packets ∧
        ReadsBack s.maxCapturedPacketSize taken (allocated.writePackets packets).2.memory ∧
        (s.requestedSize bufferSizeInPackets < 2 ^ 64 → ∀ early, early <+: packets →
          early.length ≤ bufferSizeInPackets.toNat →
          (∀ packet ∈ early, packet.capturedLength ≤ s.maxCapturedPacketSize) →
          early <+: taken) := by
  have hallocate := s.allocateBuffer_spec malloc bufferSizeInPackets
  split at hallocate
  · exact hallocate
  · rename_i allocated _
    obtain ⟨hmemory, hmax, hinside, hbuffer⟩ := hallocate
    obtain ⟨⟨tail, htail, hdump⟩, htaken⟩ := PacketStorage.wrote_writePackets packets hinside
    obtain ⟨hpref, hsize, -⟩ := (htaken _).mp (List.prefix_refl _)
    refine ⟨_, rfl, hpref, ?_, fun hsmall early hearly hcount hsizes => ?_⟩
    · rw [hdump, hmemory]
      rw [hmax] at htail hsize
      exact readsBack_records hsize htail
    -- room was asked for packets of the largest size
    · refine (htaken early).mpr ⟨hearly, hmax.symm ▸ hsizes, ?_⟩
      have hroom := (length_records_le hsizes).trans (Nat.mul_le_mul_right _ hcount)
      rw [hbuffer hsmall, hmemory, PcapFileHeader.length_bytes, PacketStorage.requestedSize]
      omega

end FastNetMon
