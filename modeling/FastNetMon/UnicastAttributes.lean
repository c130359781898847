/-
FastNetMon/UnicastAttributes.lean

The attributes of unicast announces (`IPv4UnicastAnnounce::get_attributes` and
`AnnounceUnicastPrefixLowLevelIPv6`) and their decoder
(`decode_attributes_to_ipv4_announce`).

The AS_PATH and COMMUNITY attributes hold a list behind a length of one byte, and their
buffers are sized from that byte.  A list of 64 elements or more wraps it around: the buffer
is too small, and turns elements away.  Only the AS_PATH of an IPv4 announce is checked
against this.  The source pushes copies of the buffers, which lose the mark of a failure;
here a buffer stays as it was filled.  Main result: exactly which announces have well-formed
attributes that are read back (`unicast_attributes_well_formed`).
-/
import FastNetMon.Ipv6Announce

namespace FastNetMon

open Memory

/-! ### Attributes -/

/-- The type of the AS path. -/
def BGP_ATTRIBUTE_AS_PATH : UInt8 := 2
/-- The type of the communities. -/
def BGP_ATTRIBUTE_COMMUNITY : UInt8 := 8

/-- `BGP_ORIGIN_TYPES`.  Any value of the underlying type is one. -/
abbrev BgpOriginTypes := UInt8

/-- The origin of routes of neither an IGP nor an EGP. -/
def BGP_ORIGIN_INCOMPLETE : BgpOriginTypes := 2

/-- `IPv4UnicastAnnounce`, without the fields that no attribute has. -/
structure IPv4UnicastAnnounce where
  nextHop : UInt32 := 0
  origin : BgpOriginTypes := BGP_ORIGIN_INCOMPLETE
  communityList : List BgpCommunityAttributeElement := []
  asPathAsns : List UInt32 := []
deriving DecidableEq

/-- A buffer of the size of the one object in it. -/
def objectBuffer (bytes : ByteString) : DynamicBinaryBuffer :=
  (DynamicBinaryBuffer.ofSize bytes.length).append bytes

/-- `bgp_attribute_origin`. -/
def bgpAttributeOriginOf (origin : BgpOriginTypes) : ByteString :=
  [BgpAttributeFlags.toByte { transitiveBit := true }, BGP_ATTRIBUTE_ORIGIN, 1, origin]

/-- An AS number in network byte order. -/
def asnBytes (asn : UInt32) : ByteString := bytes32 (byteSwap32 asn)

/-- A community in network byte order. -/
def BgpCommunityAttributeElement.bytes (element : BgpCommunityAttributeElement) : ByteString :=
  bytes16 (byteSwap16 element.asnNumber) ++ bytes16 (byteSwap16 element.communityNumber)

/-- The AS_PATH attribute as both announces fill it: the header, the header of the segment
and the AS numbers. -/
def asPathBuffer (asPathAsns : List UInt32) : DynamicBinaryBuffer :=
  let attributeLength : UInt8 := .ofNat (2 + asPathAsns.length * 4)
  let buffer := DynamicBinaryBuffer.ofSize (3 + attributeLength.toNat)
  let buffer := buffer.append [BgpAttributeFlags.toByte { transitiveBit := true },
    BGP_ATTRIBUTE_AS_PATH, attributeLength]
  let buffer := buffer.append [2, .ofNat asPathAsns.length]
  buffer.appendAll (asPathAsns.map asnBytes)

/-- The COMMUNITY attribute as both announces fill it. -/
def communitiesBuffer (communityList : List BgpCommunityAttributeElement) :
    DynamicBinaryBuffer :=
  let attributeLength : UInt8 := .ofNat (communityList.length * 4)
  let buffer := DynamicBinaryBuffer.ofSize (3 + attributeLength.toNat)
  let buffer := buffer.append
    [BgpAttributeFlags.toByte { transitiveBit := true, optionalBit := true },
      BGP_ATTRIBUTE_COMMUNITY, attributeLength]
  buffer.appendAll (communityList.map BgpCommunityAttributeElement.bytes)

/-- `IPv4UnicastAnnounce::get_attributes`. -/
def IPv4UnicastAnnounce.getAttributes (announce : IPv4UnicastAnnounce) :
    Option (List DynamicBinaryBuffer) := do
  let asPath ←
    if announce.asPathAsns.length > 0 then
      if 2 + announce.asPathAsns.length * 4 > 255 then none
      else some [asPathBuffer announce.asPathAsns]
    else some []
  let communities :=
    if announce.communityList = [] then [] else [communitiesBuffer announce.communityList]
  return objectBuffer (bgpAttributeOriginOf announce.origin) ::
    (asPath ++ objectBuffer (bgpAttributeNextHopIpv4 announce.nextHop) :: communities)

/-- `AnnounceUnicastPrefixLowLevelIPv6`: the NLRI and the attributes that it hands to
`AnnounceCommonPrefix`. -/
def announceUnicastPrefixLowLevelIPv6 (behind : ℕ → UInt8) (announce : IPv6UnicastAnnounce) :
    Option (DynamicBinaryBuffer × List DynamicBinaryBuffer) := do
  let ipv6Nlri ← encodeIpv6Prefix behind announce.announcedPrefix (.ofSize 256)
  let mpReach ← encodeIpv6AnnouncesIntoBgpMpReachAttribute behind announce
  let asPath :=
    if announce.asPathAsns.length > 0 then [asPathBuffer announce.asPathAsns] else []
  let communities :=
    if announce.communityList = [] then [] else [communitiesBuffer announce.communityList]
  return (ipv6Nlri, (DynamicBinaryBuffer.ofSize 2048).append mpReach
    :: objectBuffer (bgpAttributeOriginOf BGP_ORIGIN_INCOMPLETE) :: (asPath ++ communities))

/-! ### The decoder -/

/-- The loop over the communities of an attribute. -/
def readCommunities (m : Memory) : (numberOfCommunities p : ℕ) →
    Except Fault (List BgpCommunityAttributeElement)
  | 0, _ => .ok []
  | numberOfCommunities + 1, p => do
      let asnNumber ← m.readNtohs p
      let communityNumber ← m.readNtohs (p + 2)
      let others ← readCommunities m numberOfCommunities (p + 4)
      return ⟨asnNumber, communityNumber⟩ :: others

/-- `decode_attributes_to_ipv4_announce`.  Other attributes are only logged. -/
def decodeAttributesToIpv4Announce (m : Memory) (len : ℕ) (announce : IPv4UnicastAnnounce) :
    Except Fault IPv4UnicastAnnounce := do
  let header ← parseRawBgpAttribute m len
  let shift := 2 + header.lengthOfLengthField
  if header.attributeType = BGP_ATTRIBUTE_ORIGIN then
    rejectIf (header.attributeValueLength ≠ 1)
    let origin ← m.read shift
    return { announce with origin }
  else if header.attributeType = BGP_ATTRIBUTE_NEXT_HOP then
    if header.attributeValueLength = 4 then
      let nextHop ← m.read32 shift
      return { announce with nextHop }
    else if header.attributeValueLength = 16 then return announce
    else Except.error Fault.rejected
  else if header.attributeType = BGP_ATTRIBUTE_COMMUNITY then
    rejectIf (header.attributeValueLength % 4 ≠ 0)
    let communities ← readCommunities m (header.attributeValueLength / 4) shift
    return { announce with communityList := announce.communityList ++ communities }
  else return announce

/-- Decode the attributes one after the other. -/
def decodeAttributes (attributes : List DynamicBinaryBuffer) (announce : IPv4UnicastAnnounce) :
    Except Fault IPv4UnicastAnnounce :=
  attributes.foldlM (fun announce buffer =>
    decodeAttributesToIpv4Announce (ofBytes buffer.data) buffer.data.length announce) announce

/-! ### Buffers that are filled -/

@[simp] theorem objectBuffer_data (bytes : ByteString) : (objectBuffer bytes).data = bytes := by
  simp [objectBuffer, DynamicBinaryBuffer.append, DynamicBinaryBuffer.ofSize]

@[simp] theorem objectBuffer_errorsOccured (bytes : ByteString) :
    (objectBuffer bytes).errorsOccured = false := by
  simp [objectBuffer, DynamicBinaryBuffer.append, DynamicBinaryBuffer.ofSize]

@[simp] theorem asnBytes_length (asn : UInt32) : (asnBytes asn).length = 4 := rfl

@[simp] theorem BgpCommunityAttributeElement.bytes_length
    (element : BgpCommunityAttributeElement) : element.bytes.length = 4 := rfl

/-- Pieces of one length have the sum of their lengths. -/
theorem flatten_map_length {α : Type} (encode : α → ByteString) {n : ℕ}
    (h : ∀ a, (encode a).length = n) (xs : List α) :
    (xs.map encode).flatten.length = n * xs.length := by
  induction xs with
  | nil => rfl
  | cons x xs ih =>
    rw [List.map_cons, List.flatten_cons, List.length_append, ih, h, List.length_cons]
    ring

variable {asPathAsns : List UInt32} {communityList : List BgpCommunityAttributeElement}

/-- The pieces of an AS_PATH attribute. -/
def asPathPieces (asPathAsns : List UInt32) : List ByteString :=
  [BgpAttributeFlags.toByte { transitiveBit := true }, BGP_ATTRIBUTE_AS_PATH,
      .ofNat (2 + asPathAsns.length * 4)] ::
    [2, .ofNat asPathAsns.length] :: asPathAsns.map asnBytes

/-- The pieces of a COMMUNITY attribute. -/
def communitiesPieces (communityList : List BgpCommunityAttributeElement) : List ByteString :=
  [BgpAttributeFlags.toByte { transitiveBit := true, optionalBit := true },
      BGP_ATTRIBUTE_COMMUNITY, .ofNat (communityList.length * 4)] ::
    communityList.map BgpCommunityAttributeElement.bytes

/-- The AS path has five bytes of header and four for each ASN. -/
theorem asPathPieces_length (asPathAsns : List UInt32) :
    (asPathPieces asPathAsns).flatten.length = 5 + 4 * asPathAsns.length := by
  rw [asPathPieces, List.flatten_cons, List.flatten_cons, List.length_append, List.length_append,
    flatten_map_length asnBytes asnBytes_length]
  simp only [List.length_cons, List.length_nil]
  omega

/-- The communities have three bytes of header and four for each of them. -/
theorem communitiesPieces_length (communityList : List BgpCommunityAttributeElement) :
    (communitiesPieces communityList).flatten.length = 3 + 4 * communityList.length := by
  rw [communitiesPieces, List.flatten_cons, List.length_append,
    flatten_map_length _ BgpCommunityAttributeElement.bytes_length]
  simp only [List.length_cons, List.length_nil]

/-- The AS numbers of a path fit its buffer exactly if there are at most 63. -/
theorem asPathBuffer_errorsOccured :
    (asPathBuffer asPathAsns).errorsOccured = false ↔ asPathAsns.length ≤ 63 := by
  have hfit := DynamicBinaryBuffer.appendAll_errorsOccured
    (.ofSize (3 + (UInt8.ofNat (2 + asPathAsns.length * 4)).toNat)) (asPathPieces asPathAsns)
  rw [asPathPieces_length, UInt8.toNat_ofNat'] at hfit
  refine hfit.trans ?_
  simp only [DynamicBinaryBuffer.ofSize, List.length_nil, true_and]
  omega

/-- Up to 63 ASNs the buffer holds all pieces. -/
theorem asPathBuffer_data (h : asPathAsns.length ≤ 63) :
    (asPathBuffer asPathAsns).data = (asPathPieces asPathAsns).flatten :=
  DynamicBinaryBuffer.appendAll_data
    (.ofSize (3 + (UInt8.ofNat (2 + asPathAsns.length * 4)).toNat)) (asPathPieces asPathAsns)
    (asPathBuffer_errorsOccured.mpr h)

/-- More than 63 communities do not fit the buffer. -/
theorem communitiesBuffer_errorsOccured :
    (communitiesBuffer communityList).errorsOccured = false ↔ communityList.length ≤ 63 := by
  have hfit := DynamicBinaryBuffer.appendAll_errorsOccured
    (.ofSize (3 + (UInt8.ofNat (communityList.length * 4)).toNat))
    (communitiesPieces communityList)
  rw [communitiesPieces_length, UInt8.toNat_ofNat'] at hfit
  refine hfit.trans ?_
  simp only [DynamicBinaryBuffer.ofSize, List.length_nil, true_and]
  omega

/-- Up to 63 communities the buffer holds all pieces. -/
theorem communitiesBuffer_data (h : communityList.length ≤ 63) :
    (communitiesBuffer communityList).data = (communitiesPieces communityList).flatten :=
  DynamicBinaryBuffer.appendAll_data
    (.ofSize (3 + (UInt8.ofNat (communityList.length * 4)).toNat))
    (communitiesPieces communityList) (communitiesBuffer_errorsOccured.mpr h)

/-! ### Well-formed attributes -/

/-- The length byte of an attribute is the number of bytes behind it. -/
def HonestLength (bytes : ByteString) : Prop :=
  ∃ flags type length value, bytes = flags :: type :: length :: value ∧
    length.toNat = value.length

/-- A buffer that turned nothing away and has an honest length. -/
def WellFormedBuffer (buffer : DynamicBinaryBuffer) : Prop :=
  buffer.errorsOccured = false ∧ HonestLength buffer.data

/-- The buffer of an AS_PATH attribute is well formed, and its segment has all the AS
numbers, as the length of the segment says. -/
def WellFormedAsPath (asPathAsns : List UInt32) (buffer : DynamicBinaryBuffer) : Prop :=
  WellFormedBuffer buffer ∧ buffer.data[1]? = some BGP_ATTRIBUTE_AS_PATH ∧
    ∃ header type segmentLength asns, buffer.data = header ++ type :: segmentLength :: asns ∧ header.length = 3 ∧
    segmentLength.toNat = asPathAsns.length ∧ asns.length = 4 * asPathAsns.length

/-- The buffer of a COMMUNITY attribute is well formed and has all the communities. -/
def WellFormedCommunities (communityList : List BgpCommunityAttributeElement)
    (buffer : DynamicBinaryBuffer) : Prop :=
  WellFormedBuffer buffer ∧ buffer.data[1]? = some BGP_ATTRIBUTE_COMMUNITY ∧
    buffer.data.length = 3 + 4 * communityList.length

/-- A well-formed AS_PATH attribute has at most 63 AS numbers. -/
theorem WellFormedAsPath.length_le {buffer : DynamicBinaryBuffer}
    (h : WellFormedAsPath asPathAsns buffer) : asPathAsns.length ≤ 63 := by
  obtain ⟨⟨-, flags, type, length, value, hdata, hlength⟩, -, header, _, _, asns, hsegment, hheader,
    -, hasns⟩ := h
  have hbyte := length.toNat_lt
  have hsize := congrArg List.length (hdata.symm.trans hsegment)
  simp only [List.length_cons, List.length_append] at hsize
  omega

/-- A well formed attribute has at most 63 communities, for its length is one byte. -/
theorem WellFormedCommunities.length_le {buffer : DynamicBinaryBuffer}
    (h : WellFormedCommunities communityList buffer) : communityList.length ≤ 63 := by
  obtain ⟨⟨-, flags, type, length, value, hdata, hlength⟩, -, hsize⟩ := h
  have hbyte := length.toNat_lt
  rw [hdata] at hsize
  simp only [List.length_cons] at hsize
  omega

/-- Up to 63 ASNs the buffer is a well formed AS path. -/
theorem wellFormedAsPath_asPathBuffer (h : asPathAsns.length ≤ 63) :
    WellFormedAsPath asPathAsns (asPathBuffer asPathAsns) := by
  have hasns := flatten_map_length asnBytes asnBytes_length asPathAsns
  rw [WellFormedAsPath, WellFormedBuffer, asPathBuffer_data h]
  refine ⟨⟨asPathBuffer_errorsOccured.mpr h, _, _, _,
    2 :: .ofNat asPathAsns.length :: (asPathAsns.map asnBytes).flatten, rfl, ?_⟩, rfl,
    _, _, _, (asPathAsns.map asnBytes).flatten, rfl, rfl, ?_, hasns⟩
  · rw [UInt8.toNat_ofNat_of_lt' (by simp only [UInt8.size]; omega), List.length_cons,
      List.length_cons, hasns]
    omega
  · exact UInt8.toNat_ofNat_of_lt' (by simp only [UInt8.size]; omega)

/-- Up to 63 communities the buffer is a well formed attribute of them. -/
theorem wellFormedCommunities_communitiesBuffer (h : communityList.length ≤ 63) :
    WellFormedCommunities communityList (communitiesBuffer communityList) := by
  have helements := flatten_map_length _ BgpCommunityAttributeElement.bytes_length communityList
  have hlength := communitiesPieces_length communityList
  rw [WellFormedCommunities, WellFormedBuffer, communitiesBuffer_data h]
  refine ⟨⟨communitiesBuffer_errorsOccured.mpr h, _, _, _,
    (communityList.map BgpCommunityAttributeElement.bytes).flatten, rfl, ?_⟩, rfl, hlength⟩
  rw [UInt8.toNat_ofNat_of_lt' (by simp only [UInt8.size]; omega), helements]
  omega

theorem wellFormedBuffer_objectBuffer {flags type length : UInt8} {value : ByteString}
    (h : length.toNat = value.length) :
    WellFormedBuffer (objectBuffer (flags :: type :: length :: value)) :=
  ⟨objectBuffer_errorsOccured _, _, _, _, _, objectBuffer_data _, h⟩

/-! ### Reading the attributes back -/

variable {m : Memory}

/-- The decoder reads the communities written one after the other. -/
theorem readCommunities_of_holds {p : ℕ}
    (h : m.Holds p (communityList.map BgpCommunityAttributeElement.bytes).flatten) :
    readCommunities m communityList.length p = .ok communityList := by
  induction communityList generalizing p with
  | nil => rfl
  | cons first communityList ih =>
    rw [List.map_cons, List.flatten_cons] at h
    obtain ⟨hfirst, hrest⟩ := holds_append.mp h
    obtain ⟨hasn, hnumber⟩ := holds_append.mp hfirst
    rw [bytes16_length] at hnumber
    rw [first.bytes_length] at hrest
    rw [List.length_cons, readCommunities, hasn.readNtohs, ok_bind, hnumber.readNtohs, ok_bind,
      ih hrest]
    rfl

variable (start : IPv4UnicastAnnounce)

/-- A list of attributes with a filled buffer in front. -/
theorem decodeAttributes_cons {buffer : DynamicBinaryBuffer} {buffers : List DynamicBinaryBuffer}
    {announce : IPv4UnicastAnnounce}
    (h : decodeAttributesToIpv4Announce (ofBytes buffer.data) buffer.data.length start
      = .ok announce) :
    decodeAttributes (buffer :: buffers) start = decodeAttributes buffers announce := by
  rw [decodeAttributes, List.foldlM_cons, h]
  rfl

/-- The origin is decoded to itself. -/
theorem decode_origin (origin : BgpOriginTypes) :
    decodeAttributesToIpv4Announce (ofBytes (bgpAttributeOriginOf origin))
      (bgpAttributeOriginOf origin).length start = .ok { start with origin } := by
  have hparse := (@parseRawBgpAttribute_cons (BgpAttributeFlags.toByte { transitiveBit := true })
    BGP_ATTRIBUTE_ORIGIN 1 [origin]) (by decide) (Nat.le_refl 1)
  rw [decodeAttributesToIpv4Announce, bgpAttributeOriginOf, hparse]
  rfl

/-- The next hop is decoded to itself. -/
theorem decode_nextHop (nextHop : UInt32) :
    decodeAttributesToIpv4Announce (ofBytes (bgpAttributeNextHopIpv4 nextHop))
      (bgpAttributeNextHopIpv4 nextHop).length start = .ok { start with nextHop } := by
  have hattr : bgpAttributeNextHopIpv4 nextHop
      = BgpAttributeFlags.toByte { transitiveBit := true } :: BGP_ATTRIBUTE_NEXT_HOP :: 4
        :: bytes32 nextHop := rfl
  have hheld : (ofBytes (BgpAttributeFlags.toByte { transitiveBit := true }
      :: BGP_ATTRIBUTE_NEXT_HOP :: 4 :: bytes32 nextHop)).Holds (2 + 1) (bytes32 nextHop) :=
    holds_ofBytes_iff.mpr (List.prefix_refl _)
  have hfour : (4 : UInt8).toNat ≤ (bytes32 nextHop).length := Nat.le_refl 4
  rw [hattr, decodeAttributesToIpv4Announce, parseRawBgpAttribute_cons (by decide) hfour, ok_bind]
  dsimp only
  rw [if_neg (by decide), if_pos rfl, if_pos (by decide), hheld.read32]
  rfl

/-- The AS path is stepped over. -/
theorem decode_asPath (h : asPathAsns.length ≤ 63) :
    decodeAttributesToIpv4Announce (ofBytes (asPathBuffer asPathAsns).data)
      (asPathBuffer asPathAsns).data.length start = .ok start := by
  have hasns := flatten_map_length asnBytes asnBytes_length asPathAsns
  have hattr : (asPathPieces asPathAsns).flatten
      = BgpAttributeFlags.toByte { transitiveBit := true } :: BGP_ATTRIBUTE_AS_PATH
        :: .ofNat (2 + asPathAsns.length * 4)
        :: 2 :: .ofNat asPathAsns.length :: (asPathAsns.map asnBytes).flatten := rfl
  have hlength : (UInt8.ofNat (2 + asPathAsns.length * 4)).toNat
      ≤ (2 :: .ofNat asPathAsns.length :: (asPathAsns.map asnBytes).flatten : ByteString).length := by
    rw [UInt8.toNat_ofNat_of_lt' (by simp only [UInt8.size]; omega), List.length_cons,
      List.length_cons, hasns]
    omega
  rw [asPathBuffer_data h, hattr, decodeAttributesToIpv4Announce,
    parseRawBgpAttribute_cons (by decide) hlength, ok_bind]
  dsimp only
  rw [if_neg (by decide), if_neg (by decide), if_neg (by decide)]
  rfl

/-- The communities are decoded to themselves, behind those read before. -/
theorem decode_communities (h : communityList.length ≤ 63) :
    decodeAttributesToIpv4Announce (ofBytes (communitiesBuffer communityList).data)
        (communitiesBuffer communityList).data.length start
      = .ok { start with communityList := start.communityList ++ communityList } := by
  have helements := flatten_map_length _ BgpCommunityAttributeElement.bytes_length communityList
  have hattr : (communitiesPieces communityList).flatten
      = BgpAttributeFlags.toByte { transitiveBit := true, optionalBit := true }
        :: BGP_ATTRIBUTE_COMMUNITY :: .ofNat (communityList.length * 4)
        :: (communityList.map BgpCommunityAttributeElement.bytes).flatten := rfl
  generalize hvalue : (communityList.map BgpCommunityAttributeElement.bytes).flatten = value
    at helements hattr
  have hbyte : (UInt8.ofNat (communityList.length * 4)).toNat = communityList.length * 4 :=
    UInt8.toNat_ofNat_of_lt' (by simp only [UInt8.size]; omega)
  have hheld : (ofBytes (BgpAttributeFlags.toByte { transitiveBit := true, optionalBit := true }
      :: BGP_ATTRIBUTE_COMMUNITY :: UInt8.ofNat (communityList.length * 4) :: value)).Holds (2 + 1)
      (communityList.map BgpCommunityAttributeElement.bytes).flatten := by
    rw [hvalue]
    exact holds_ofBytes_iff.mpr (List.prefix_refl _)
  rw [communitiesBuffer_data h, hattr, decodeAttributesToIpv4Announce,
    parseRawBgpAttribute_cons (by decide) (by omega), ok_bind]
  dsimp only
  rw [if_neg (by decide), if_neg (by decide), if_pos rfl, hbyte, rejectIf_of_not (by omega),
    ok_bind, Nat.mul_div_cancel _ (by decide), readCommunities_of_holds hheld, ok_bind]
  rfl

/-- Attributes are decoded one after the other. -/
theorem decodeAttributes_append (buffers buffers' : List DynamicBinaryBuffer) :
    decodeAttributes (buffers ++ buffers') start
      = decodeAttributes buffers start >>= decodeAttributes buffers' := by
  rw [decodeAttributes, List.foldlM_append]
  rfl

theorem decodeAttributes_asPath (h : asPathAsns.length ≤ 63) :
    decodeAttributes (if asPathAsns = [] then [] else [asPathBuffer asPathAsns]) start
      = .ok start := by
  split
  · rfl
  · exact decodeAttributes_cons start (decode_asPath start h)

theorem decodeAttributes_communities (h : communityList.length ≤ 63) :
    decodeAttributes (if communityList = [] then [] else [communitiesBuffer communityList]) start
      = .ok { start with communityList := start.communityList ++ communityList } := by
  split
  · rename_i hnil
    rw [hnil, List.append_nil]
    rfl
  · exact decodeAttributes_cons start (decode_communities start h)

/-! ### Main result -/

variable {announce : IPv4UnicastAnnounce}

/-- What `get_attributes` makes of a short AS path. -/
theorem getAttributes_eq (announce : IPv4UnicastAnnounce) :
    announce.getAttributes =
      if announce.asPathAsns.length ≤ 63 then
        some (objectBuffer (bgpAttributeOriginOf announce.origin) ::
          ((if announce.asPathAsns = [] then [] else [asPathBuffer announce.asPathAsns]) ++
            objectBuffer (bgpAttributeNextHopIpv4 announce.nextHop) ::
              if announce.communityList = [] then []
              else [communitiesBuffer announce.communityList]))
      else none := by
  rw [IPv4UnicastAnnounce.getAttributes]
  cases hpath : announce.asPathAsns with
  | nil => rfl
  | cons asn asPathAsns =>
    have hpos : (asn :: asPathAsns).length > 0 := Nat.succ_pos _
    rw [if_pos hpos, if_neg (List.cons_ne_nil asn asPathAsns)]
    by_cases h : (asn :: asPathAsns).length ≤ 63
    · rw [if_pos h, if_neg (by omega)]
      rfl
    · rw [if_neg h, if_pos (by omega)]
      rfl

/-- The attributes of an announce are well formed, and the announce is read back. -/
def Ipv4AttributesWellFormed (announce : IPv4UnicastAnnounce) : Prop :=
  ∀ buffers, announce.getAttributes = some buffers →
    (∀ buffer ∈ buffers, WellFormedBuffer buffer) ∧
    (announce.asPathAsns ≠ [] → ∃ buffer ∈ buffers, WellFormedAsPath announce.asPathAsns buffer) ∧
    ∀ start, ∃ decoded, decodeAttributes buffers start = .ok decoded ∧
      decoded.origin = announce.origin ∧ decoded.nextHop = announce.nextHop ∧
      decoded.communityList = start.communityList ++ announce.communityList

/-- The AS_PATH and COMMUNITY attributes of an IPv6 announce are well formed. -/
def Ipv6AttributesWellFormed (behind : ℕ → UInt8) (announce : IPv6UnicastAnnounce) : Prop :=
  ∀ ipv6Nlri buffers, announceUnicastPrefixLowLevelIPv6 behind announce = some (ipv6Nlri, buffers) →
    (announce.asPathAsns ≠ [] → ∃ buffer ∈ buffers, WellFormedAsPath announce.asPathAsns buffer) ∧
    (announce.communityList ≠ [] →
      ∃ buffer ∈ buffers, WellFormedCommunities announce.communityList buffer)

/-- Short lists give well formed attributes, whichever optional ones are present. -/
theorem ipv4AttributesWellFormed_of_short (hpath : announce.asPathAsns.length ≤ 63)
    (hcommunities : announce.communityList.length ≤ 63) : Ipv4AttributesWellFormed announce := by
  intro buffers hbuffers
  rw [getAttributes_eq, if_pos hpath] at hbuffers
  obtain rfl := Option.some.inj hbuffers
  have horigin : WellFormedBuffer (objectBuffer (bgpAttributeOriginOf announce.origin)) :=
    wellFormedBuffer_objectBuffer rfl
  have hnextHop : WellFormedBuffer (objectBuffer (bgpAttributeNextHopIpv4 announce.nextHop)) :=
    wellFormedBuffer_objectBuffer rfl
  refine ⟨?_, ?_, fun start => ?_⟩
  · intro buffer hmem
    rw [List.mem_cons, List.mem_append, List.mem_cons] at hmem
    rcases hmem with rfl | hmem | rfl | hmem
    · exact horigin
    · split at hmem
      · cases hmem
      · obtain rfl := List.mem_singleton.mp hmem
        exact (wellFormedAsPath_asPathBuffer hpath).1
    · exact hnextHop
    · split at hmem
      · cases hmem
      · obtain rfl := List.mem_singleton.mp hmem
        exact (wellFormedCommunities_communitiesBuffer hcommunities).1
  · intro hne
    refine ⟨asPathBuffer announce.asPathAsns, ?_, wellFormedAsPath_asPathBuffer hpath⟩
    rw [if_neg hne]
    exact List.mem_cons_of_mem _ (List.mem_append_left _ List.mem_cons_self)
  · refine ⟨{ start with
      origin := announce.origin
      nextHop := announce.nextHop
      communityList := start.communityList ++ announce.communityList }, ?_, rfl, rfl, rfl⟩
    rw [decodeAttributes_cons start (by rw [objectBuffer_data]; exact decode_origin start _),
      decodeAttributes_append, decodeAttributes_asPath _ hpath, ok_bind,
      decodeAttributes_cons _ (by rw [objectBuffer_data]; exact decode_nextHop _ _),
      decodeAttributes_communities _ hcommunities]

/-- Two buffers of an IPv6 announce are filled from its lists. -/
theorem announceUnicastPrefixLowLevelIPv6_eq (behind : ℕ → UInt8)
    (announce : IPv6UnicastAnnounce) :
    ∃ ipv6Nlri mpReach, announceUnicastPrefixLowLevelIPv6 behind announce = some (ipv6Nlri,
      mpReach :: objectBuffer (bgpAttributeOriginOf BGP_ORIGIN_INCOMPLETE) ::
        ((if announce.asPathAsns = [] then [] else [asPathBuffer announce.asPathAsns]) ++
          if announce.communityList = [] then []
          else [communitiesBuffer announce.communityList])) := by
  have hroom : (DynamicBinaryBuffer.ofSize 256).data.length + 33
      ≤ (DynamicBinaryBuffer.ofSize 256).internalStorageSize := by decide
  rw [announceUnicastPrefixLowLevelIPv6, encodeIpv6Prefix_of_room behind _ hroom,
    encodeIpv6Announces_eq]
  cases announce.asPathAsns with
  | nil => exact ⟨_, _, rfl⟩
  | cons asn asPathAsns => exact ⟨_, _, rfl⟩

theorem ipv6AttributesWellFormed_iff (behind : ℕ → UInt8) (announce : IPv6UnicastAnnounce) :
    Ipv6AttributesWellFormed behind announce ↔
      announce.asPathAsns.length ≤ 63 ∧ announce.communityList.length ≤ 63 := by
  obtain ⟨ipv6Nlri, mpReach, heq⟩ := announceUnicastPrefixLowLevelIPv6_eq behind announce
  constructor
  · intro h
    obtain ⟨hpath, hcommunities⟩ := h _ _ heq
    constructor
    · by_cases hne : announce.asPathAsns = []
      · rw [hne]
        exact Nat.zero_le 63
      · obtain ⟨buffer, -, hbuffer⟩ := hpath hne
        exact hbuffer.length_le
    · by_cases hne : announce.communityList = []
      · rw [hne]
        exact Nat.zero_le 63
      · obtain ⟨buffer, -, hbuffer⟩ := hcommunities hne
        exact hbuffer.length_le
  · rintro ⟨hpath, hcommunities⟩ nlri buffers hbuffers
    rw [heq, Option.some.injEq, Prod.mk.injEq] at hbuffers
    obtain ⟨-, rfl⟩ := hbuffers
    constructor
    · intro hne
      refine ⟨asPathBuffer announce.asPathAsns, ?_, wellFormedAsPath_asPathBuffer hpath⟩
      rw [if_neg hne]
      exact List.mem_cons_of_mem _ (List.mem_cons_of_mem _ List.mem_cons_self)
    · intro hne
      refine ⟨communitiesBuffer announce.communityList, ?_,
        wellFormedCommunities_communitiesBuffer hcommunities⟩
      rw [if_neg hne]
      exact List.mem_cons_of_mem _ (List.mem_cons_of_mem _
        (List.mem_append_right _ List.mem_cons_self))

/-- The attributes of an IPv4 announce are well formed exactly if its AS path is turned down
or it has at most 63 communities. -/
theorem ipv4AttributesWellFormed_iff (announce : IPv4UnicastAnnounce) :
    Ipv4AttributesWellFormed announce ↔
      announce.asPathAsns.length > 63 ∨ announce.communityList.length ≤ 63 := by
  constructor
  · intro h
    by_contra hno
    rw [not_or, not_lt, not_le] at hno
    obtain ⟨hpath, hcommunities⟩ := hno
    obtain ⟨hfilled, -, -⟩ := h _ (by rw [getAttributes_eq, if_pos hpath])
    have hne : announce.communityList ≠ [] := by
      intro hnil
      rw [hnil] at hcommunities
      exact absurd hcommunities (by decide)
    have hmem : communitiesBuffer announce.communityList ∈
        objectBuffer (bgpAttributeOriginOf announce.origin) ::
          ((if announce.asPathAsns = [] then [] else [asPathBuffer announce.asPathAsns]) ++
            objectBuffer (bgpAttributeNextHopIpv4 announce.nextHop) ::
              if announce.communityList = [] then []
              else [communitiesBuffer announce.communityList]) := by
      rw [if_neg hne]
      exact List.mem_cons_of_mem _ (List.mem_append_right _
        (List.mem_cons_of_mem _ List.mem_cons_self))
    -- the communities do not fit a buffer that is sized from one byte
    have hfits := communitiesBuffer_errorsOccured.mp (hfilled _ hmem).1
    omega
  · intro hwhen
    by_cases hpath : announce.asPathAsns.length ≤ 63
    · exact ipv4AttributesWellFormed_of_short hpath (hwhen.resolve_left (by omega))
    · intro buffers hbuffers
      rw [getAttributes_eq, if_neg hpath] at hbuffers
      cases hbuffers

/-- **The announces whose attributes are well formed.**  `get_attributes` turns down an AS
path of more than 63 numbers; otherwise its attributes are well formed and read back exactly
if there are at most 63 communities.  The AS_PATH and COMMUNITY attributes of an IPv6
announce are well formed exactly if there are at most 63 of both. -/
theorem unicast_attributes_well_formed (behind : ℕ → UInt8) :
    (∀ announce : IPv4UnicastAnnounce, Ipv4AttributesWellFormed announce ↔
      announce.asPathAsns.length > 63 ∨ announce.communityList.length ≤ 63) ∧
    ∀ announce : IPv6UnicastAnnounce, Ipv6AttributesWellFormed behind announce ↔
      announce.asPathAsns.length ≤ 63 ∧ announce.communityList.length ≤ 63 :=
  ⟨ipv4AttributesWellFormed_iff, ipv6AttributesWellFormed_iff behind⟩

/-- **64 communities are lost.**  Their length wraps to zero, and none of them is in the
attribute. -/
theorem sixtyFourCommunities_not_well_formed :
    ¬ Ipv4AttributesWellFormed { communityList := List.replicate 64 ⟨65001, 666⟩ } ∧
      (communitiesBuffer (List.replicate 64 ⟨65001, 666⟩)).data = [0xc0, 8, 0] ∧
      ¬ Ipv6AttributesWellFormed (fun _ => 0) { asPathAsns := List.replicate 64 65001 } := by
  refine ⟨?_, by decide +kernel, ?_⟩
  · rw [ipv4AttributesWellFormed_iff]
    decide
  · rw [ipv6AttributesWellFormed_iff]
    decide

end FastNetMon
