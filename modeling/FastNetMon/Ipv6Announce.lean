/-
FastNetMon/Ipv6Announce.lean

IPv6 unicast announces in MP_REACH_NLRI attributes: the encoder
(`encode_ipv6_announces_into_bgp_mp_reach_attribute`) and the decoder
(`decode_ipv6_announce_from_binary_encoded_atributes`).

An attribute is the used part of its buffer, so that a read behind it is a read outside.
A copy into an address is a fault of the same kind if it has more than sixteen bytes; the
decoder is clean if it does neither.  The decoder takes the used size for an `int`, which
is never more than the size (`usedSizeAsInt_le`).  Main result: the decoder is clean on any
attributes and reads what the encoder writes (`ipv6_announce_decoder`).
-/
import FastNetMon.AttributeDecode

namespace FastNetMon

open Memory

/-! ### Addresses -/

/-- `in6_addr`, its sixteen bytes. -/
abbrev In6Addr := Vector UInt8 16

/-- The first bytes of an address replaced. -/
def In6Addr.copy (address : In6Addr) (copied : ByteString) : Except Fault In6Addr :=
  if h : copied.length ≤ 16 then
    .ok ⟨(copied ++ address.toList.drop copied.length).toArray, by
      rw [List.size_toArray, List.length_append, List.length_drop, Vector.length_toList]
      omega⟩
  else .error .outOfBounds

/-- `memcpy(&address, p, count)`. -/
def In6Addr.memcpy (address : In6Addr) (m : Memory) (p count : ℕ) : Except Fault In6Addr := do
  let copied ← m.readBytes p count
  In6Addr.copy address copied

/-- A value-initialised address. -/
def In6Addr.zero : In6Addr := Vector.replicate 16 0

/-- The first `n` bytes at an address, with those behind it if `n` is more than sixteen. -/
def In6Addr.bytesAt (behind : ℕ → UInt8) (address : In6Addr) (n : ℕ) : ByteString :=
  (address.toList ++ (List.range (n - 16)).map behind).take n

/-- `bgp_community_attribute_element_t`. -/
structure BgpCommunityAttributeElement where
  asnNumber : UInt16 := 0
  communityNumber : UInt16 := 0
deriving DecidableEq

/-- `IPv6UnicastAnnounce`, without the fields that no attribute has. -/
structure IPv6UnicastAnnounce where
  nextHop : SubnetIpv6CidrMask := {}
  announcedPrefix : SubnetIpv6CidrMask := {}
  communityList : List BgpCommunityAttributeElement := []
  asPathAsns : List UInt32 := []
deriving DecidableEq

/-- `AFI_IP6`. -/
def AFI_IP6 : UInt16 := 2
/-- `SAFI_UNICAST`. -/
def SAFI_UNICAST : UInt8 := 1

/-! ### The encoder -/

/-- An append whose result is checked. -/
def DynamicBinaryBuffer.appendChecked (buffer : DynamicBinaryBuffer) (bytes : ByteString) :
    Option DynamicBinaryBuffer :=
  if buffer.data.length + bytes.length > buffer.internalStorageSize then none
  else some (buffer.append bytes)

variable (behind : ℕ → UInt8)

/-- `encode_ipv6_prefix`. -/
def encodeIpv6Prefix (subnet : SubnetIpv6CidrMask) (dynamicBuffer : DynamicBinaryBuffer) :
    Option DynamicBinaryBuffer := do
  let prefixLength := subnet.cidrPrefixLength.toUInt8
  let dynamicBuffer ← dynamicBuffer.appendChecked [prefixLength]
  let byteLength := prefixByteLength prefixLength.toNat
  dynamicBuffer.appendChecked (In6Addr.bytesAt behind subnet.subnetAddress byteLength)

/-- `bgp_mp_reach_short_header_t` in network byte order, with the length of the next hop. -/
def bgpMpReachShortHeader : ByteString := bytes16 (byteSwap16 AFI_IP6) ++ [SAFI_UNICAST, 16]

/-- `encode_ipv6_announces_into_bgp_mp_reach_attribute_internal`. -/
def encodeIpv6AnnouncesIntoBgpMpReachAttributeInternal (ipv6Announce : IPv6UnicastAnnounce) :
    Option DynamicBinaryBuffer :=
  let buffer := DynamicBinaryBuffer.ofSize 2048
  let buffer := buffer.append bgpMpReachShortHeader
  let buffer := buffer.append ipv6Announce.nextHop.subnetAddress.toList
  let buffer := buffer.append [0]
  encodeIpv6Prefix behind ipv6Announce.announcedPrefix buffer

/-- `encode_ipv6_announces_into_bgp_mp_reach_attribute`. -/
def encodeIpv6AnnouncesIntoBgpMpReachAttribute (ipv6Announce : IPv6UnicastAnnounce) :
    Option ByteString := do
  let mpNlri ← encodeIpv6AnnouncesIntoBgpMpReachAttributeInternal behind ipv6Announce
  let attributeLength : UInt8 := .ofNat mpNlri.data.length
  let buffer := DynamicBinaryBuffer.ofSize 2048
  let buffer := buffer.append (bgpAttributeMultiprotocolExtensions attributeLength)
  (buffer.append mpNlri.data).result

/-! ### The decoder -/

/-- A used size as the `int` it is passed as. -/
def usedSizeAsInt (n : ℕ) : ℤ := (n : ℤ).bmod (2 ^ 32)

/-- What follows the global address of a next hop of 32 bytes, a link-local address, is read
into the same variable. -/
def readLinkLocalNextHop (m : Memory) (p : ℕ) (lengthOfNextHop : UInt8) (nextHop : In6Addr) :
    Except Fault In6Addr :=
  if lengthOfNextHop = 32 then In6Addr.memcpy nextHop m p 16 else .ok nextHop

/-- `decode_mp_reach_attribute_to_ipv6_announce`.  The source converts the AFI in place, in
a copy of the attribute, and does not read these two bytes again. -/
def decodeMpReachAttributeToIpv6Announce (m : Memory) (length : ℤ)
    (header : BgpAttibuteCommonHeader) (ipv6Announce : IPv6UnicastAnnounce) :
    Except Fault IPv6UnicastAnnounce := do
  let shift := header.attributeBodyShift
  rejectIf ((shift + 4 : ℕ) > length)
  let afiIdentifier := byteSwap16 (← m.read16 shift)
  let safiIdentifier ← m.read (shift + 2)
  rejectIf (¬ (afiIdentifier = AFI_IP6 ∧ safiIdentifier = SAFI_UNICAST))
  let lengthOfNextHop ← m.read (shift + 3)
  rejectIf (lengthOfNextHop ≠ 16 ∧ lengthOfNextHop ≠ 32)
  rejectIf ((shift + 4 + lengthOfNextHop.toNat : ℕ) > length)
  let nextHop ← In6Addr.zero.memcpy m (shift + 4) 16
  let ipv6Announce := { ipv6Announce with nextHop := ⟨nextHop, 128⟩ }
  let _linkLocal ← readLinkLocalNextHop m (shift + 4 + 16) lengthOfNextHop nextHop
  rejectIf ((shift + 4 + lengthOfNextHop.toNat + 1 : ℕ) > length)
  let _snpaBit ← m.read (shift + 4 + lengthOfNextHop.toNat)
  rejectIf ((shift + 4 + lengthOfNextHop.toNat + 1 + 1 : ℕ) > length)
  let prefixLength ← m.read (shift + 4 + lengthOfNextHop.toNat + 1)
  rejectIf (prefixLength > 128)
  let numberOfBytes := prefixByteLength prefixLength.toNat
  rejectIf ((shift + 4 + lengthOfNextHop.toNat + 1 + 1 + numberOfBytes : ℕ) > length)
  let address ← In6Addr.zero.memcpy m (shift + 4 + lengthOfNextHop.toNat + 1 + 1) numberOfBytes
  return { ipv6Announce with announcedPrefix := ⟨address, prefixLength.toUInt32⟩ }

/-- One pass of the loop: one attribute. -/
def decodeIpv6Attribute (ipv6Announce : IPv6UnicastAnnounce) (binaryAttribute : ByteString) :
    Except Fault IPv6UnicastAnnounce := do
  let m := ofBytes binaryAttribute
  let header ← parseRawBgpAttribute m binaryAttribute.length
  if header.attributeType = BGP_ATTRIBUTE_MP_REACH_NLRI then
    decodeMpReachAttributeToIpv6Announce m (usedSizeAsInt binaryAttribute.length) header
      ipv6Announce
  else return ipv6Announce

/-- `decode_ipv6_announce_from_binary_encoded_atributes`. -/
def decodeIpv6AnnounceFromBinaryEncodedAtributes (binaryAttributes : List ByteString)
    (ipv6Announce : IPv6UnicastAnnounce) : Except Fault IPv6UnicastAnnounce :=
  binaryAttributes.foldlM decodeIpv6Attribute ipv6Announce

/-! ### The decoder stays inside -/

/-- A wrapped number is never above the number. -/
theorem natCast_bmod_le (n modulus : ℕ) : (n : ℤ).bmod modulus ≤ n := by
  have hmod : ((n % modulus : ℕ) : ℤ) ≤ n := Int.ofNat_le.mpr (Nat.mod_le n modulus)
  rw [Int.natCast_mod] at hmod
  rw [Int.bmod_def]
  split
  · exact hmod
  · exact (Int.sub_le_self _ (Int.natCast_nonneg _)).trans hmod

/-- So the length as an `int` is at most the length. -/
theorem usedSizeAsInt_le (n : ℕ) : usedSizeAsInt n ≤ n := natCast_bmod_le n (2 ^ 32)

/-- The used size of a small buffer is not changed. -/
theorem usedSizeAsInt_of_lt {n : ℕ} (h : n < 2 ^ 31) : usedSizeAsInt n = n :=
  Int.bmod_eq_of_le (by omega) (by omega)

/-- A copy of at most sixteen bytes. -/
theorem In6Addr.clean_copy (address : In6Addr) {copied : ByteString} (h : copied.length ≤ 16) :
    Clean (In6Addr.copy address copied) := by
  rw [In6Addr.copy, dif_pos h]
  exact clean_ok _

variable {m : Memory} {n : ℕ}

/-- A copy into an address is clean if source and target have room. -/
theorem Memory.Readable.clean_memcpy (h : m.Readable 0 n) (address : In6Addr) {p count : ℕ}
    (hfits : p + count ≤ n) (hcount : count ≤ 16) :
    Clean (In6Addr.memcpy address m p count) := by
  refine (h.clean_readBytes (Nat.zero_le p) hfits).bind fun copied hcopied => ?_
  exact In6Addr.clean_copy address (by rw [(holds_of_readBytes hcopied).2]; exact hcount)

theorem Memory.Readable.clean_read16 (h : m.Readable 0 n) {p : ℕ} (hfits : p + 2 ≤ n) :
    Clean (m.read16 p) := by
  obtain ⟨w, hw⟩ := h.read16 (Nat.zero_le p) (by omega)
  rw [hw]
  trivial

/-- The number of bytes of an IPv6 prefix. -/
theorem prefixByteLength_le_sixteen {prefixLength : UInt8} (h : ¬ prefixLength > 128) :
    prefixByteLength prefixLength.toNat ≤ 16 := by
  have hle : prefixLength.toNat ≤ 128 := UInt8.le_iff_toNat_le.mp (UInt8.not_lt.mp h)
  rw [prefixByteLength_of_lt (by omega)]
  omega

/-- The attribute is decoded inside its bytes. -/
theorem decodeMpReachAttributeToIpv6Announce_clean (h : m.Readable 0 n) {length : ℤ}
    (hlength : length ≤ n) (header : BgpAttibuteCommonHeader)
    (ipv6Announce : IPv6UnicastAnnounce) :
    Clean (decodeMpReachAttributeToIpv6Announce m length header ipv6Announce) := by
  refine (clean_rejectIf _).bind fun _ hheader => ?_
  rw [rejectIf_eq_ok_iff] at hheader
  refine (h.clean_read16 (by omega)).bind fun afi _ => ?_
  refine (h.clean_read (Nat.zero_le _) (by omega)).bind fun safi _ => ?_
  refine (clean_rejectIf _).bind fun _ _ => ?_
  refine (h.clean_read (Nat.zero_le _) (by omega)).bind fun lengthOfNextHop _ => ?_
  refine (clean_rejectIf _).bind fun _ hsupported => ?_
  rw [rejectIf_eq_ok_iff] at hsupported
  refine (clean_rejectIf _).bind fun _ hnextHop => ?_
  rw [rejectIf_eq_ok_iff] at hnextHop
  -- both lengths leave room for the global address
  have hglobal : 16 ≤ lengthOfNextHop.toNat := by
    by_cases h16 : lengthOfNextHop = 16
    · rw [h16]
      decide
    · rw [not_not.mp fun h32 => hsupported ⟨h16, h32⟩]
      decide
  refine (h.clean_memcpy _ (by omega) le_rfl).bind fun nextHop _ => ?_
  refine Clean.bind ?_ fun linkLocal _ => ?_
  · rw [readLinkLocalNextHop]
    split
    · rename_i h32
      have hlinkLocal : lengthOfNextHop.toNat = 32 := by rw [h32]; decide
      exact h.clean_memcpy _ (by omega) le_rfl
    · exact clean_ok _
  refine (clean_rejectIf _).bind fun _ hsnpa => ?_
  rw [rejectIf_eq_ok_iff] at hsnpa
  refine (h.clean_read (Nat.zero_le _) (by omega)).bind fun snpaBit _ => ?_
  refine (clean_rejectIf _).bind fun _ hprefixLength => ?_
  rw [rejectIf_eq_ok_iff] at hprefixLength
  refine (h.clean_read (Nat.zero_le _) (by omega)).bind fun prefixLength _ => ?_
  refine (clean_rejectIf _).bind fun _ hle => ?_
  rw [rejectIf_eq_ok_iff] at hle
  refine (clean_rejectIf _).bind fun _ haddress => ?_
  rw [rejectIf_eq_ok_iff] at haddress
  exact (h.clean_memcpy _ (by omega) (prefixByteLength_le_sixteen hle)).bind fun _ _ =>
    clean_pure _

/-- The decoder is clean on one attribute. -/
theorem decodeIpv6Attribute_clean (ipv6Announce : IPv6UnicastAnnounce)
    (binaryAttribute : ByteString) :
    Clean (decodeIpv6Attribute ipv6Announce binaryAttribute) := by
  have hsize := usedSizeAsInt_le binaryAttribute.length
  rw [decodeIpv6Attribute]
  generalize usedSizeAsInt binaryAttribute.length = length at hsize
  refine (parseRawBgpAttribute_spec binaryAttribute).1.bind fun header _ => ?_
  split
  · exact decodeMpReachAttributeToIpv6Announce_clean (readable_ofBytes binaryAttribute) hsize
      header ipv6Announce
  · exact clean_pure _

/-- All attributes are decoded inside their bytes. -/
theorem decodeIpv6AnnounceFromBinaryEncodedAtributes_clean (binaryAttributes : List ByteString)
    (ipv6Announce : IPv6UnicastAnnounce) :
    Clean (decodeIpv6AnnounceFromBinaryEncodedAtributes binaryAttributes ipv6Announce) := by
  rw [decodeIpv6AnnounceFromBinaryEncodedAtributes]
  induction binaryAttributes generalizing ipv6Announce with
  | nil => exact clean_pure _
  | cons first binaryAttributes ih =>
    rw [List.foldlM_cons]
    exact (decodeIpv6Attribute_clean ipv6Announce first).bind fun announce _ => ih announce

/-! ### What the encoder writes -/

variable {behind : ℕ → UInt8} {ipv6Announce : IPv6UnicastAnnounce}

/-- The bytes of the prefix of an announce. -/
def prefixAddressBytes (subnet : SubnetIpv6CidrMask) : ByteString :=
  subnet.subnetAddress.toList.take (prefixByteLength subnet.cidrPrefixLength.toNat)

/-- A prefix of at most 128 bits. -/
def FitsIpv6 (subnet : SubnetIpv6CidrMask) : Prop := subnet.cidrPrefixLength ≤ 128

variable {subnet : SubnetIpv6CidrMask}

theorem FitsIpv6.toNat_le (h : FitsIpv6 subnet) : subnet.cidrPrefixLength.toNat ≤ 128 :=
  UInt32.le_iff_toNat_le.mp h

/-- A prefix length that fits loses nothing in its byte. -/
theorem FitsIpv6.toUInt8_toNat (h : FitsIpv6 subnet) :
    subnet.cidrPrefixLength.toUInt8.toNat = subnet.cidrPrefixLength.toNat := by
  have hle := h.toNat_le
  rw [UInt32.toNat_toUInt8, Nat.mod_eq_of_lt (by omega)]

/-- A prefix that fits takes at most 16 bytes. -/
theorem FitsIpv6.prefixByteLength_le (h : FitsIpv6 subnet) :
    prefixByteLength subnet.cidrPrefixLength.toNat ≤ 16 := by
  have hle := h.toNat_le
  rw [prefixByteLength_of_lt (by omega)]
  omega

/-- The address takes the bytes that its prefix length needs. -/
theorem FitsIpv6.prefixAddressBytes_length (h : FitsIpv6 subnet) :
    (prefixAddressBytes subnet).length = prefixByteLength subnet.cidrPrefixLength.toNat := by
  rw [prefixAddressBytes, List.length_take, Vector.length_toList]
  exact min_eq_left h.prefixByteLength_le

/-- What fits the buffer is appended. -/
theorem DynamicBinaryBuffer.appendChecked_of_le {buffer : DynamicBinaryBuffer}
    {bytes : ByteString} (h : buffer.data.length + bytes.length ≤ buffer.internalStorageSize) :
    buffer.appendChecked bytes = some (buffer.append bytes) := by
  rw [appendChecked, if_neg (by omega)]

theorem In6Addr.bytesAt_length (address : In6Addr) (n : ℕ) :
    (In6Addr.bytesAt behind address n).length = n := by
  rw [In6Addr.bytesAt, List.length_take, List.length_append, Vector.length_toList,
    List.length_map, List.length_range]
  omega

/-- The first sixteen bytes do not depend on what stands behind the address. -/
theorem FitsIpv6.bytesAt (h : FitsIpv6 subnet) : In6Addr.bytesAt behind subnet.subnetAddress
    (prefixByteLength subnet.cidrPrefixLength.toNat) = prefixAddressBytes subnet := by
  have hle := h.prefixByteLength_le
  rw [In6Addr.bytesAt, List.take_append_of_le_length (by rw [Vector.length_toList]; exact hle)]
  rfl

/-- A prefix in a buffer with room for the longest one. -/
theorem encodeIpv6Prefix_of_room (behind : ℕ → UInt8) (subnet : SubnetIpv6CidrMask)
    {buffer : DynamicBinaryBuffer} (hroom : buffer.data.length + 33 ≤ buffer.internalStorageSize) :
    encodeIpv6Prefix behind subnet buffer = some (buffer.appendAll
      [[subnet.cidrPrefixLength.toUInt8], In6Addr.bytesAt behind subnet.subnetAddress
        (prefixByteLength subnet.cidrPrefixLength.toUInt8.toNat)]) := by
  have hbyte := subnet.cidrPrefixLength.toUInt8.toNat_lt
  have hfirst : buffer.data.length + [subnet.cidrPrefixLength.toUInt8].length
      ≤ buffer.internalStorageSize := by
    rw [List.length_singleton]
    omega
  have hdata : (buffer.append [subnet.cidrPrefixLength.toUInt8]).data.length
      = buffer.data.length + 1 := by
    rw [DynamicBinaryBuffer.append, dif_neg (by omega)]
    exact List.length_append
  rw [encodeIpv6Prefix]
  dsimp only
  rw [DynamicBinaryBuffer.appendChecked_of_le hfirst]
  refine DynamicBinaryBuffer.appendChecked_of_le ?_
  rw [hdata, In6Addr.bytesAt_length, DynamicBinaryBuffer.append_internalStorageSize,
    prefixByteLength_of_lt (by omega)]
  omega

/-- The pieces of the value of the attribute of an announce. -/
def mpReachPieces (behind : ℕ → UInt8) (ipv6Announce : IPv6UnicastAnnounce) : List ByteString :=
  [bgpMpReachShortHeader, ipv6Announce.nextHop.subnetAddress.toList, [0],
    [ipv6Announce.announcedPrefix.cidrPrefixLength.toUInt8],
    In6Addr.bytesAt behind ipv6Announce.announcedPrefix.subnetAddress
      (prefixByteLength ipv6Announce.announcedPrefix.cidrPrefixLength.toUInt8.toNat)]

/-- The attribute has 22 bytes in front of the prefix. -/
theorem mpReachPieces_length (behind : ℕ → UInt8) (ipv6Announce : IPv6UnicastAnnounce) :
    (mpReachPieces behind ipv6Announce).flatten.length = 22
      + prefixByteLength ipv6Announce.announcedPrefix.cidrPrefixLength.toUInt8.toNat := by
  simp only [mpReachPieces, bgpMpReachShortHeader, List.flatten_cons, List.flatten_nil,
    List.length_append, bytes16_length, Vector.length_toList, In6Addr.bytesAt_length,
    List.length_cons, List.length_nil]
  omega

/-- The pieces for a prefix that fits. -/
theorem mpReachPieces_of_fits (behind : ℕ → UInt8) (h : FitsIpv6 ipv6Announce.announcedPrefix) :
    mpReachPieces behind ipv6Announce
      = [bgpMpReachShortHeader, ipv6Announce.nextHop.subnetAddress.toList, [0],
          [ipv6Announce.announcedPrefix.cidrPrefixLength.toUInt8],
          prefixAddressBytes ipv6Announce.announcedPrefix] := by
  rw [mpReachPieces, h.toUInt8_toNat, h.bytesAt]

/-- No prefix length of one byte takes more than 32 bytes. -/
theorem prefixByteLength_toNat_le (prefixLength : UInt8) :
    prefixByteLength prefixLength.toNat ≤ 32 := by
  have hbyte := prefixLength.toNat_lt
  rw [prefixByteLength_of_lt (by omega)]
  omega

/-- So the pieces always fit the buffer. -/
theorem encodeIpv6AnnouncesInternal_eq (behind : ℕ → UInt8) (ipv6Announce : IPv6UnicastAnnounce) :
    encodeIpv6AnnouncesIntoBgpMpReachAttributeInternal behind ipv6Announce
      = some ((DynamicBinaryBuffer.ofSize 2048).appendAll (mpReachPieces behind ipv6Announce)) := by
  have hfront : ((DynamicBinaryBuffer.ofSize 2048).appendAll [bgpMpReachShortHeader,
      ipv6Announce.nextHop.subnetAddress.toList, [0]]).errorsOccured = false := by
    rw [DynamicBinaryBuffer.appendAll_errorsOccured]
    simp [DynamicBinaryBuffer.ofSize, bgpMpReachShortHeader]
  have hdata := DynamicBinaryBuffer.appendAll_data _ _ hfront
  have hroom : ((DynamicBinaryBuffer.ofSize 2048).appendAll [bgpMpReachShortHeader,
      ipv6Announce.nextHop.subnetAddress.toList, [0]]).data.length + 33
      ≤ ((DynamicBinaryBuffer.ofSize 2048).appendAll [bgpMpReachShortHeader,
        ipv6Announce.nextHop.subnetAddress.toList, [0]]).internalStorageSize := by
    rw [hdata]
    simp [DynamicBinaryBuffer.ofSize, bgpMpReachShortHeader]
  exact encodeIpv6Prefix_of_room behind ipv6Announce.announcedPrefix hroom

/-- The attribute of an announce. -/
theorem encodeIpv6Announces_eq (behind : ℕ → UInt8) (ipv6Announce : IPv6UnicastAnnounce) :
    encodeIpv6AnnouncesIntoBgpMpReachAttribute behind ipv6Announce
      = some (bgpAttributeMultiprotocolExtensions
            (.ofNat (mpReachPieces behind ipv6Announce).flatten.length)
          ++ (mpReachPieces behind ipv6Announce).flatten) := by
  have hlength := mpReachPieces_length behind ipv6Announce
  have hle := prefixByteLength_toNat_le
    ipv6Announce.announcedPrefix.cidrPrefixLength.toUInt8
  have hok : ((DynamicBinaryBuffer.ofSize 2048).appendAll
      (mpReachPieces behind ipv6Announce)).errorsOccured = false := by
    rw [DynamicBinaryBuffer.appendAll_errorsOccured, hlength]
    simp only [DynamicBinaryBuffer.ofSize, List.length_nil, true_and]
    omega
  have hdata : ((DynamicBinaryBuffer.ofSize 2048).appendAll
      (mpReachPieces behind ipv6Announce)).data = (mpReachPieces behind ipv6Announce).flatten :=
    DynamicBinaryBuffer.appendAll_data _ _ hok
  rw [encodeIpv6AnnouncesIntoBgpMpReachAttribute, encodeIpv6AnnouncesInternal_eq]
  simp only [Option.bind_eq_bind, Option.bind_some, hdata]
  have hresult := DynamicBinaryBuffer.result_appendAll_ofSize 2048
    [bgpAttributeMultiprotocolExtensions
        (.ofNat (mpReachPieces behind ipv6Announce).flatten.length),
      (mpReachPieces behind ipv6Announce).flatten]
  rw [if_pos] at hresult
  · simpa [DynamicBinaryBuffer.appendAll] using hresult
  · simp only [List.flatten_cons, List.flatten_nil, List.length_append, hlength, List.length_nil,
      bgpAttributeMultiprotocolExtensions, List.length_cons]
    omega

/-! ### Reading it back -/

/-- The first bytes of an address, the others zero. -/
def In6Addr.ofFirst (bytes : ByteString) : In6Addr := Vector.ofFn fun i => bytes.getD i 0

/-- What is copied over the zero address becomes its first bytes. -/
theorem In6Addr.zero_copy {copied : ByteString} (h : copied.length ≤ 16) :
    In6Addr.zero.copy copied = .ok (In6Addr.ofFirst copied) := by
  rw [In6Addr.copy, dif_pos h]
  refine congrArg Except.ok (Vector.ext fun i hi => ?_)
  simp only [In6Addr.ofFirst, Vector.getElem_ofFn, Vector.getElem_mk, List.getElem_toArray,
    List.getElem_append, List.getD_eq_getElem?_getD]
  split
  · rename_i hlt
    rw [List.getElem?_eq_getElem hlt, Option.getD_some]
  · rename_i hge
    rw [List.getElem?_eq_none (by omega), Option.getD_none]
    have hzero : In6Addr.zero.toList = List.replicate 16 0 := rfl
    simp only [hzero, List.getElem_drop, List.getElem_replicate]

/-- The decoder copies the bytes that are held. -/
theorem In6Addr.memcpy_of_holds {bytes : ByteString} {p : ℕ} (h : m.Holds p bytes)
    (hle : bytes.length ≤ 16) :
    In6Addr.zero.memcpy m p bytes.length = .ok (In6Addr.ofFirst bytes) := by
  rw [In6Addr.memcpy, h.readBytes, ok_bind, In6Addr.zero_copy hle]

/-- Sixteen bytes are the address. -/
theorem In6Addr.ofFirst_toList (address : In6Addr) :
    In6Addr.ofFirst address.toList = address := by
  refine Vector.ext fun i hi => ?_
  simp only [In6Addr.ofFirst, Vector.getElem_ofFn, List.getD_eq_getElem?_getD]
  rw [List.getElem?_eq_getElem (by rw [Vector.length_toList]; exact hi), Option.getD_some,
    Vector.getElem_toList]

/-- The decoder on the value of the attribute of an announce. -/
theorem decodeMpReachAttribute_of_holds {header : BgpAttibuteCommonHeader}
    (h : FitsIpv6 ipv6Announce.announcedPrefix)
    (hheld : m.Holds header.attributeBodyShift (mpReachPieces behind ipv6Announce).flatten)
    {length : ℤ} (hlength : (header.attributeBodyShift
      + (mpReachPieces behind ipv6Announce).flatten.length : ℕ) ≤ length)
    (start : IPv6UnicastAnnounce) :
    decodeMpReachAttributeToIpv6Announce m length header start = .ok { start with
      nextHop := ⟨ipv6Announce.nextHop.subnetAddress, 128⟩
      announcedPrefix := ⟨In6Addr.ofFirst (prefixAddressBytes ipv6Announce.announcedPrefix),
        ipv6Announce.announcedPrefix.cidrPrefixLength⟩ } := by
  have hle := h.prefixByteLength_le
  have hbits := h.toNat_le
  have hbyte := h.toUInt8_toNat
  rw [mpReachPieces_length, hbyte] at hlength
  rw [mpReachPieces_of_fits behind h] at hheld
  simp only [List.flatten_cons, List.flatten_nil, List.append_nil] at hheld
  obtain ⟨hhead, hheld⟩ := holds_append.mp hheld
  obtain ⟨hafi, hsafi, hnextHopLength⟩ := holds_append.mp hhead
  obtain ⟨hnextHop, hheld⟩ := holds_append.mp hheld
  obtain ⟨hreserved, hheld⟩ := holds_append.mp hheld
  obtain ⟨hprefixLength, haddress⟩ := holds_append.mp hheld
  have hheadLength : bgpMpReachShortHeader.length = 4 := rfl
  rw [hheadLength] at hnextHop hreserved hprefixLength haddress
  rw [Vector.length_toList] at hreserved hprefixLength haddress
  rw [List.length_singleton] at hprefixLength haddress
  rw [List.length_singleton] at haddress
  have hcopied : In6Addr.zero.memcpy m (header.attributeBodyShift + 4) 16
      = .ok ipv6Announce.nextHop.subnetAddress := by
    have hcopy := In6Addr.memcpy_of_holds hnextHop (by rw [Vector.length_toList])
    rwa [Vector.length_toList, In6Addr.ofFirst_toList] at hcopy
  have hprefixCopied : In6Addr.zero.memcpy m (header.attributeBodyShift + 4 + 16 + 1 + 1)
      (prefixByteLength ipv6Announce.announcedPrefix.cidrPrefixLength.toNat)
      = .ok (In6Addr.ofFirst (prefixAddressBytes ipv6Announce.announcedPrefix)) := by
    rw [← h.prefixAddressBytes_length] at hle ⊢
    exact In6Addr.memcpy_of_holds haddress hle
  have hnumber : (16 : UInt8).toNat = 16 := rfl
  have hsmall : ¬ ipv6Announce.announcedPrefix.cidrPrefixLength.toUInt8 > 128 := by
    rw [gt_iff_lt, UInt8.not_lt, UInt8.le_iff_toNat_le, hbyte]
    exact hbits
  have hback : ipv6Announce.announcedPrefix.cidrPrefixLength.toUInt8.toUInt32
      = ipv6Announce.announcedPrefix.cidrPrefixLength := by
    apply UInt32.toNat_inj.mp
    rw [UInt8.toNat_toUInt32, hbyte]
  have hread16 := hafi.read16
  have hreadSafi : m.read (header.attributeBodyShift + 2) = .ok SAFI_UNICAST :=
    read_eq_ok_iff.mpr hsafi
  have hreadNextHopLength : m.read (header.attributeBodyShift + 3) = .ok 16 :=
    hnextHopLength.read
  rw [decodeMpReachAttributeToIpv6Announce, rejectIf_of_not (by omega), ok_bind, hread16,
    ok_bind, hreadSafi, ok_bind, rejectIf_of_not (by rw [byteSwap16_byteSwap16]; decide), ok_bind,
    hreadNextHopLength, ok_bind, rejectIf_of_not (by decide), ok_bind, hnumber,
    rejectIf_of_not (by omega), ok_bind, hcopied, ok_bind, readLinkLocalNextHop,
    if_neg (by decide), ok_bind, rejectIf_of_not (by omega), ok_bind, hreserved.read, ok_bind,
    rejectIf_of_not (by omega), ok_bind, hprefixLength.read, ok_bind, rejectIf_of_not hsmall,
    ok_bind, hbyte]
  dsimp only
  rw [rejectIf_of_not (by omega), ok_bind, hprefixCopied, ok_bind, hback]
  rfl
/-- The announce that is read back: the next hop and the first bytes of the prefix. -/
def IPv6UnicastAnnounce.readBack (start ipv6Announce : IPv6UnicastAnnounce) :
    IPv6UnicastAnnounce where
  nextHop := ⟨ipv6Announce.nextHop.subnetAddress, 128⟩
  announcedPrefix := ⟨In6Addr.ofFirst (prefixAddressBytes ipv6Announce.announcedPrefix),
    ipv6Announce.announcedPrefix.cidrPrefixLength⟩
  communityList := start.communityList
  asPathAsns := start.asPathAsns

/-- **The attribute of an announce is read back.** -/
theorem decodeIpv6Announce_encode (behind : ℕ → UInt8)
    (h : FitsIpv6 ipv6Announce.announcedPrefix) :
    ∃ attr, encodeIpv6AnnouncesIntoBgpMpReachAttribute behind ipv6Announce = some attr ∧
      ∀ start, decodeIpv6AnnounceFromBinaryEncodedAtributes [attr] start
        = .ok (IPv6UnicastAnnounce.readBack start ipv6Announce) := by
  refine ⟨_, encodeIpv6Announces_eq behind ipv6Announce, fun start => ?_⟩
  have hlength := mpReachPieces_length behind ipv6Announce
  have hle := prefixByteLength_toNat_le
    ipv6Announce.announcedPrefix.cidrPrefixLength.toUInt8
  generalize hvalue : (mpReachPieces behind ipv6Announce).flatten = value at hlength
  have hbyte : (UInt8.ofNat value.length).toNat = value.length :=
    UInt8.toNat_ofNat_of_lt' (by simp only [UInt8.size]; omega)
  have hparse := (@parseRawBgpAttribute_cons (BgpAttributeFlags.toByte { optionalBit := true })
    BGP_ATTRIBUTE_MP_REACH_NLRI (.ofNat value.length) value) (by decide) (by omega)
  have hattr : bgpAttributeMultiprotocolExtensions (.ofNat value.length) ++ value
      = BgpAttributeFlags.toByte { optionalBit := true } :: BGP_ATTRIBUTE_MP_REACH_NLRI
        :: .ofNat value.length :: value := rfl
  have hheld : (ofBytes (BgpAttributeFlags.toByte { optionalBit := true }
      :: BGP_ATTRIBUTE_MP_REACH_NLRI :: UInt8.ofNat value.length :: value)).Holds 3 value :=
    holds_ofBytes_iff.mpr (List.prefix_refl value)
  have hsize : usedSizeAsInt (value.length + 1 + 1 + 1) = (value.length + 1 + 1 + 1 : ℕ) :=
    usedSizeAsInt_of_lt (by omega)
  have hone : decodeIpv6Attribute start (BgpAttributeFlags.toByte { optionalBit := true }
      :: BGP_ATTRIBUTE_MP_REACH_NLRI :: .ofNat value.length :: value)
      = .ok (IPv6UnicastAnnounce.readBack start ipv6Announce) := by
    rw [decodeIpv6Attribute, hparse, ok_bind, if_pos rfl]
    simp only [List.length_cons]
    rw [hsize]
    subst hvalue
    exact decodeMpReachAttribute_of_holds h hheld (by dsimp only; omega) start
  rw [decodeIpv6AnnounceFromBinaryEncodedAtributes, hattr, List.foldlM_cons, hone]
  rfl

/-- **The decoder of IPv6 announces is bounded, and reads what the encoder writes.**  On any
attributes it reads their bytes only, and copies at most sixteen bytes into an address.  The
attribute of an announce whose prefix has at most 128 bits gives its next hop and the length
of its prefix. -/
theorem ipv6_announce_decoder (behind : ℕ → UInt8) :
    (∀ binaryAttributes start,
      Clean (decodeIpv6AnnounceFromBinaryEncodedAtributes binaryAttributes start)) ∧
    ∀ ipv6Announce : IPv6UnicastAnnounce, FitsIpv6 ipv6Announce.announcedPrefix →
      ∃ attr, encodeIpv6AnnouncesIntoBgpMpReachAttribute behind ipv6Announce = some attr ∧
        ∀ start, ∃ decoded,
          decodeIpv6AnnounceFromBinaryEncodedAtributes [attr] start = .ok decoded ∧
          decoded.nextHop = ⟨ipv6Announce.nextHop.subnetAddress, 128⟩ ∧
          decoded.announcedPrefix.cidrPrefixLength
            = ipv6Announce.announcedPrefix.cidrPrefixLength := by
  refine ⟨decodeIpv6AnnounceFromBinaryEncodedAtributes_clean, fun ipv6Announce h => ?_⟩
  obtain ⟨attr, hattr, hdecode⟩ := decodeIpv6Announce_encode behind h
  exact ⟨attr, hattr, fun start => ⟨_, hdecode start, rfl, rfl⟩⟩

/-- An announce of a network of 44 bits. -/
def documentationAnnounce : IPv6UnicastAnnounce where
  nextHop := ⟨In6Addr.ofFirst [0x20, 0x01, 0x0d, 0xb8], 128⟩
  announcedPrefix := ⟨In6Addr.ofFirst [0x20, 0x01, 0x0d, 0xb8, 0x12, 0x30], 44⟩

theorem documentationAnnounce_decoded :
    ∃ attr, encodeIpv6AnnouncesIntoBgpMpReachAttribute (fun _ => 0) documentationAnnounce
        = some attr ∧
      ∀ start, ∃ decoded,
        decodeIpv6AnnounceFromBinaryEncodedAtributes [attr] start = .ok decoded ∧
        decoded.nextHop = ⟨documentationAnnounce.nextHop.subnetAddress, 128⟩ ∧
        decoded.announcedPrefix.cidrPrefixLength = 44 :=
  (ipv6_announce_decoder fun _ => 0).2 documentationAnnounce
    (show (44 : UInt32) ≤ 128 by decide)

end FastNetMon
