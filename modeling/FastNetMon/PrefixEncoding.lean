/-
FastNetMon/PrefixEncoding.lean

Prefixes on the wire, bit by bit.

Bit 0 of an address is the first one on the wire.  A prefix is encoded canonically if its
bytes depend on the bits inside its length only, and if it is read back with the others
cleared.  The IPv4 encoder masks the address and does so.  The IPv6 encoder copies whole
bytes, and neither it nor its decoder masks the last one; the bits between the length of the
prefix and the end of that byte are announced as they are.  Main result: the encodings are
canonical, for IPv6 exactly where these bits are clear (`bgp_prefixes_canonical`).
-/
import FastNetMon.Ipv6Announce
import FastNetMon.NlriRoundTrip

namespace FastNetMon

open Memory

/-! ### Bits of an address -/

/-- Bit `i` of an address, the first one on the wire being bit 0. -/
def addressBit (bytes : ByteString) (i : ℕ) : Bool :=
  (bytes.getD (i / 8) 0).toNat.testBit (7 - i % 8)

/-- Two addresses agree on their first bits. -/
def AgreeOn (length : ℕ) (bytes bytes' : ByteString) : Prop :=
  ∀ i < length, addressBit bytes i = addressBit bytes' i

theorem byte_eq_of_testBit {b c : UInt8} (h : ∀ j < 8, b.toNat.testBit j = c.toNat.testBit j) :
    b = c := by
  apply UInt8.toNat_inj.mp
  refine Nat.eq_of_testBit_eq fun j => ?_
  by_cases hj : j < 8
  · exact h j hj
  · have hpow : 2 ^ 8 ≤ 2 ^ j := Nat.pow_le_pow_right (by omega) (by omega)
    rw [Nat.testBit_lt_two_pow (b.toNat_lt.trans_le hpow),
      Nat.testBit_lt_two_pow (c.toNat_lt.trans_le hpow)]

/-- Bytes are equal exactly if their bits are. -/
theorem eq_iff_agreeOn {bytes bytes' : ByteString} {n : ℕ} (h : bytes.length = n)
    (h' : bytes'.length = n) : bytes = bytes' ↔ AgreeOn (8 * n) bytes bytes' := by
  constructor
  · rintro rfl i -
    rfl
  · intro hagree
    refine List.ext_getElem (h.trans h'.symm) fun k hk hk' => byte_eq_of_testBit fun j hj => ?_
    have hbit := hagree (8 * k + (7 - j)) (by omega)
    have hbyte : (8 * k + (7 - j)) / 8 = k := by omega
    have hplace : 7 - (8 * k + (7 - j)) % 8 = j := by omega
    simpa only [addressBit, hbyte, hplace, List.getD_eq_getElem?_getD,
      List.getElem?_eq_getElem hk, List.getElem?_eq_getElem hk', Option.getD_some] using hbit

/-- The bits of the first bytes. -/
theorem addressBit_take (bytes : ByteString) (n i : ℕ) :
    addressBit (bytes.take n) i = (decide (i < 8 * n) && addressBit bytes i) := by
  rw [addressBit, addressBit, List.getD_eq_getElem?_getD, List.getElem?_take]
  by_cases h : i < 8 * n
  · rw [if_pos (by omega), decide_eq_true h, Bool.true_and, List.getD_eq_getElem?_getD]
  · rw [if_neg (by omega), decide_eq_false h, Option.getD_none, Bool.false_and]
    exact Nat.zero_testBit _

/-- The first bytes of two addresses are equal exactly if their bits are. -/
theorem take_eq_take_iff {bytes bytes' : ByteString} {n : ℕ} (h : n ≤ bytes.length)
    (h' : n ≤ bytes'.length) : bytes.take n = bytes'.take n ↔ AgreeOn (8 * n) bytes bytes' := by
  have hlength : (bytes.take n).length = n := List.length_take_of_le h
  have hlength' : (bytes'.take n).length = n := List.length_take_of_le h'
  rw [eq_iff_agreeOn hlength hlength']
  refine forall₂_congr fun i hi => ?_
  rw [addressBit_take, addressBit_take, decide_eq_true hi, Bool.true_and, Bool.true_and]

/-! ### IPv4 -/

/-- The bits of a masked address. -/
theorem addressBit_and (address netmask : UInt32) {i : ℕ} (hi : i < 32) :
    addressBit (bytes32 (address &&& netmask)) i
      = (addressBit (bytes32 address) i && addressBit (bytes32 netmask) i) := by
  have hbyte : ∀ w : UInt32, (bytes32 w).getD (i / 8) 0 = byteOf32 w (i / 8) := by
    intro w
    have hk : i / 8 < 4 := by omega
    interval_cases i / 8 <;> rfl
  rw [addressBit, addressBit, addressBit, hbyte, hbyte, hbyte, byteOf32_and, UInt8.toNat_and,
    Nat.testBit_and]

/-- The bits of a netmask. -/
theorem addressBit_netmask {cidr : UInt32} (h : cidr ≤ 32) {i : ℕ} (hi : i < 32) :
    addressBit (bytes32 (convertCidrToBinaryNetmask cidr)) i = decide (i < cidr.toNat) := by
  have key : ∀ c : Fin 33, ∀ i : Fin 32,
      addressBit (bytes32 (convertCidrToBinaryNetmask (.ofNat c.val))) i.val
        = decide (i.val < c.val) := by decide +kernel
  have hle : cidr.toNat ≤ 32 := UInt32.le_iff_toNat_le.mp h
  have hbit := key ⟨cidr.toNat, by omega⟩ ⟨i, hi⟩
  rwa [UInt32.ofNat_toNat] at hbit

/-- The bits of a masked prefix. -/
theorem addressBit_masked {subnet : SubnetCidrMask} (h : FitsIpv4 subnet) {i : ℕ} (hi : i < 32) :
    addressBit (bytes32 subnet.masked.subnetAddress) i
      = (decide (i < subnet.cidrPrefixLength.toNat)
        && addressBit (bytes32 subnet.subnetAddress) i) := by
  rw [SubnetCidrMask.masked, addressBit_and _ _ hi, addressBit_netmask h hi, Bool.and_comm]

variable {behind : ℕ → UInt8}

theorem FitsIpv4.encoded {subnet : SubnetCidrMask} (h : FitsIpv4 subnet) :
    (encodeBgpSubnetEncoding behind subnet).data
      = subnet.cidrPrefixLength.toUInt8 :: addressBytes subnet := by
  rw [encodeBgpSubnetEncoding_data, h.bytesAt]

/-- The prefix is read back with its length, and the bits behind it cleared. -/
def CanonicalIpv4 (behind : ℕ → UInt8) (subnet : SubnetCidrMask) : Prop :=
  ∃ decoded parsed, decodeBgpSubnetEncodingIpv4
      (ofBytes (encodeBgpSubnetEncoding behind subnet).data)
      (encodeBgpSubnetEncoding behind subnet).data.length 0 = .ok (decoded, parsed) ∧
    decoded.cidrPrefixLength = subnet.cidrPrefixLength ∧
    ∀ i < 32, addressBit (bytes32 decoded.subnetAddress) i
      = (decide (i < subnet.cidrPrefixLength.toNat)
        && addressBit (bytes32 subnet.subnetAddress) i)

theorem canonicalIpv4 (behind : ℕ → UInt8) {subnet : SubnetCidrMask} (h : FitsIpv4 subnet) :
    CanonicalIpv4 behind subnet := by
  have hlength := addressBytes_length h
  refine ⟨subnet.masked, _, decodeBgpSubnetEncodingIpv4_eq_ok_iff.mpr
    ⟨subnet.cidrPrefixLength.toUInt8, addressBytes subnet, h.toUInt8_le, hlength, ?_, rfl, ?_,
      h.subnetOfBytes.symm⟩, rfl, fun i hi => addressBit_masked h hi⟩
  · rw [h.encoded]
    exact holds_ofBytes _
  · rw [h.encoded, List.length_cons]

/-- Two prefixes of one length have the same bytes exactly if they agree on their bits. -/
theorem encodedIpv4_eq_iff {subnet subnet' : SubnetCidrMask} (h : FitsIpv4 subnet)
    (hlength : subnet.cidrPrefixLength = subnet'.cidrPrefixLength) :
    (encodeBgpSubnetEncoding behind subnet).data = (encodeBgpSubnetEncoding behind subnet').data ↔
      AgreeOn subnet.cidrPrefixLength.toNat (bytes32 subnet.subnetAddress)
        (bytes32 subnet'.subnetAddress) := by
  have h' : FitsIpv4 subnet' := by
    rw [FitsIpv4, ← hlength]
    exact h
  have hle := h.toNat_le
  have hfour := prefixByteLength_le_four hle
  have hcover : subnet.cidrPrefixLength.toNat
      ≤ 8 * prefixByteLength subnet.cidrPrefixLength.toNat := by
    rw [prefixByteLength_of_lt (by omega)]
    omega
  have htake : addressBytes subnet = addressBytes subnet' ↔
      AgreeOn (8 * prefixByteLength subnet.cidrPrefixLength.toNat)
        (bytes32 subnet.masked.subnetAddress) (bytes32 subnet'.masked.subnetAddress) := by
    have hself : addressBytes subnet' = (bytes32 subnet'.masked.subnetAddress).take
        (prefixByteLength subnet.cidrPrefixLength.toNat) := by
      rw [hlength]
      rfl
    rw [hself]
    exact take_eq_take_iff hfour hfour
  rw [h.encoded, h'.encoded, ← hlength, List.cons_inj_right, htake]
  constructor
  · intro hagree i hi
    have hbit := hagree i (by omega)
    rwa [addressBit_masked h (by omega), addressBit_masked h' (by omega), ← hlength,
      decide_eq_true hi, Bool.true_and, Bool.true_and] at hbit
  · intro hagree i hi
    rw [addressBit_masked h (by omega), addressBit_masked h' (by omega), ← hlength]
    by_cases hin : i < subnet.cidrPrefixLength.toNat
    · rw [hagree i hin]
    · rw [decide_eq_false hin, Bool.false_and, Bool.false_and]

/-! ### IPv6 -/

/-- The prefix of an announce is read back with its length, and the bits behind it cleared. -/
def CanonicalIpv6 (behind : ℕ → UInt8) (ipv6Announce : IPv6UnicastAnnounce) : Prop :=
  ∃ attr, encodeIpv6AnnouncesIntoBgpMpReachAttribute behind ipv6Announce = some attr ∧
    ∀ start, ∃ decoded,
      decodeIpv6AnnounceFromBinaryEncodedAtributes [attr] start = .ok decoded ∧
      decoded.announcedPrefix.cidrPrefixLength = ipv6Announce.announcedPrefix.cidrPrefixLength ∧
      ∀ i < 128, addressBit decoded.announcedPrefix.subnetAddress.toList i
        = (decide (i < ipv6Announce.announcedPrefix.cidrPrefixLength.toNat)
          && addressBit ipv6Announce.announcedPrefix.subnetAddress.toList i)

/-- The bits between the length of a prefix and the end of its last byte are clear. -/
def LastByteClear (subnet : SubnetIpv6CidrMask) : Prop :=
  ∀ i, subnet.cidrPrefixLength.toNat ≤ i →
    i < 8 * prefixByteLength subnet.cidrPrefixLength.toNat →
    addressBit subnet.subnetAddress.toList i = false

theorem addressBit_ofFirst (bytes : ByteString) {i : ℕ} (hi : i < 128) :
    addressBit (In6Addr.ofFirst bytes).toList i = addressBit bytes i := by
  have hk : i / 8 < (In6Addr.ofFirst bytes).toList.length := by
    rw [Vector.length_toList]
    omega
  rw [addressBit, addressBit, List.getD_eq_getElem?_getD, List.getElem?_eq_getElem hk,
    Option.getD_some, Vector.getElem_toList]
  simp only [In6Addr.ofFirst, Vector.getElem_ofFn]

variable {ipv6Announce : IPv6UnicastAnnounce} {subnet subnet' : SubnetIpv6CidrMask}

theorem canonicalIpv6_iff (h : FitsIpv6 ipv6Announce.announcedPrefix) :
    CanonicalIpv6 behind ipv6Announce ↔ LastByteClear ipv6Announce.announcedPrefix := by
  obtain ⟨attr, hattr, hdecode⟩ := decodeIpv6Announce_encode behind h
  have hle := h.toNat_le
  have hbyteLength := h.prefixByteLength_le
  have hcover : ipv6Announce.announcedPrefix.cidrPrefixLength.toNat
      ≤ 8 * prefixByteLength ipv6Announce.announcedPrefix.cidrPrefixLength.toNat := by
    rw [prefixByteLength_of_lt (by omega)]
    omega
  have hbit : ∀ start, ∀ i < 128,
      addressBit (IPv6UnicastAnnounce.readBack start ipv6Announce).announcedPrefix.subnetAddress.toList
        i = (decide (i < 8 * prefixByteLength ipv6Announce.announcedPrefix.cidrPrefixLength.toNat)
        && addressBit ipv6Announce.announcedPrefix.subnetAddress.toList i) := by
    intro start i hi
    rw [IPv6UnicastAnnounce.readBack, addressBit_ofFirst _ hi, prefixAddressBytes,
      addressBit_take]
  constructor
  · rintro ⟨attr', hattr', hdecode'⟩ i hge hlt
    obtain rfl : attr = attr' := Option.some.inj (hattr.symm.trans hattr')
    obtain ⟨decoded, hdecoded, -, hbits⟩ := hdecode' {}
    obtain rfl : IPv6UnicastAnnounce.readBack {} ipv6Announce = decoded :=
      Except.ok.inj ((hdecode {}).symm.trans hdecoded)
    have hclear := hbits i (by omega)
    rwa [hbit {} i (by omega), decide_eq_true hlt, decide_eq_false (by omega), Bool.true_and,
      Bool.false_and] at hclear
  · intro hclear
    refine ⟨attr, hattr, fun start => ⟨_, hdecode start, rfl, fun i hi => ?_⟩⟩
    rw [hbit start i hi]
    by_cases hin : i < ipv6Announce.announcedPrefix.cidrPrefixLength.toNat
    · rw [decide_eq_true hin, decide_eq_true (by omega)]
    · by_cases hlast : i < 8 * prefixByteLength
          ipv6Announce.announcedPrefix.cidrPrefixLength.toNat
      · rw [hclear i (by omega) hlast, Bool.and_false, Bool.and_false]
      · rw [decide_eq_false hin, decide_eq_false hlast]

/-- Two announces of one next hop and one length have the same attribute exactly if the
bytes of their prefixes agree. -/
theorem encodedIpv6_eq_iff (nextHop : SubnetIpv6CidrMask) (h : FitsIpv6 subnet)
    (hlength : subnet.cidrPrefixLength = subnet'.cidrPrefixLength) :
    encodeIpv6AnnouncesIntoBgpMpReachAttribute behind { nextHop, announcedPrefix := subnet }
        = encodeIpv6AnnouncesIntoBgpMpReachAttribute behind { nextHop, announcedPrefix := subnet' } ↔
      AgreeOn (8 * prefixByteLength subnet.cidrPrefixLength.toNat) subnet.subnetAddress.toList
        subnet'.subnetAddress.toList := by
  have h' : FitsIpv6 subnet' := by
    rw [FitsIpv6, ← hlength]
    exact h
  have hroom : prefixByteLength subnet.cidrPrefixLength.toNat
      ≤ subnet.subnetAddress.toList.length := by
    rw [Vector.length_toList]
    exact h.prefixByteLength_le
  have hroom' : prefixByteLength subnet.cidrPrefixLength.toNat
      ≤ subnet'.subnetAddress.toList.length := by
    rw [Vector.length_toList]
    exact h.prefixByteLength_le
  rw [encodeIpv6Announces_eq, encodeIpv6Announces_eq, mpReachPieces_length, mpReachPieces_length,
    mpReachPieces_of_fits behind h, mpReachPieces_of_fits behind h', ← take_eq_take_iff hroom hroom',
    Option.some.injEq]
  simp only [← hlength, prefixAddressBytes, List.flatten_cons, List.flatten_nil,
    List.append_cancel_left_eq, List.append_nil]

/-- **Prefixes on the wire.**  An IPv4 prefix is read back with the bits behind its length
cleared, and prefixes of one length have the same bytes exactly if they agree on their bits.
For IPv6 the first holds exactly if the rest of the last byte is clear, and the second exactly
if prefixes that agree on their bits agree on the rest of that byte as well. -/
theorem bgp_prefixes_canonical (behind : ℕ → UInt8) :
    (∀ subnet, FitsIpv4 subnet → CanonicalIpv4 behind subnet) ∧
    (∀ subnet subnet' : SubnetCidrMask, FitsIpv4 subnet →
      subnet.cidrPrefixLength = subnet'.cidrPrefixLength →
      ((encodeBgpSubnetEncoding behind subnet).data
          = (encodeBgpSubnetEncoding behind subnet').data ↔
        AgreeOn subnet.cidrPrefixLength.toNat (bytes32 subnet.subnetAddress)
          (bytes32 subnet'.subnetAddress))) ∧
    (∀ ipv6Announce : IPv6UnicastAnnounce, FitsIpv6 ipv6Announce.announcedPrefix →
      (CanonicalIpv6 behind ipv6Announce ↔ LastByteClear ipv6Announce.announcedPrefix)) ∧
    ∀ nextHop subnet subnet' : SubnetIpv6CidrMask, FitsIpv6 subnet →
      subnet.cidrPrefixLength = subnet'.cidrPrefixLength →
      ((encodeIpv6AnnouncesIntoBgpMpReachAttribute behind { nextHop, announcedPrefix := subnet }
          = encodeIpv6AnnouncesIntoBgpMpReachAttribute behind { nextHop, announcedPrefix := subnet' } ↔
        AgreeOn subnet.cidrPrefixLength.toNat subnet.subnetAddress.toList
          subnet'.subnetAddress.toList) ↔
      (AgreeOn subnet.cidrPrefixLength.toNat subnet.subnetAddress.toList
          subnet'.subnetAddress.toList →
        AgreeOn (8 * prefixByteLength subnet.cidrPrefixLength.toNat)
          subnet.subnetAddress.toList subnet'.subnetAddress.toList)) := by
  refine ⟨fun _ h => canonicalIpv4 behind h, fun _ _ h hlength => encodedIpv4_eq_iff h hlength,
    fun _ h => canonicalIpv6_iff h, fun nextHop subnet subnet' h hlength => ?_⟩
  have hle := h.toNat_le
  have hcover : subnet.cidrPrefixLength.toNat
      ≤ 8 * prefixByteLength subnet.cidrPrefixLength.toNat := by
    rw [prefixByteLength_of_lt (by omega)]
    omega
  rw [encodedIpv6_eq_iff nextHop h hlength]
  constructor
  · intro hiff
    exact hiff.mpr
  · intro hagree
    exact ⟨fun hwhole i hi => hwhole i (hi.trans_le hcover), hagree⟩

/-- A network of 44 bits, written with the address of a host in it. -/
def hostPrefix : SubnetIpv6CidrMask :=
  ⟨In6Addr.ofFirst [0x20, 0x01, 0x0d, 0xb8, 0x12, 0x3f], 44⟩

theorem documentationAnnounce_canonical :
    CanonicalIpv6 (fun _ => 0) documentationAnnounce ↔
      LastByteClear documentationAnnounce.announcedPrefix :=
  (bgp_prefixes_canonical fun _ => 0).2.2.1 documentationAnnounce
    (show (44 : UInt32) ≤ 128 by decide)

/-- **Host bits are announced.**  The prefix is not read back as the network, and the network
itself has other bytes. -/
theorem hostPrefix_not_canonical :
    ¬ CanonicalIpv6 (fun _ => 0) { announcedPrefix := hostPrefix } ∧
      AgreeOn 44 hostPrefix.subnetAddress.toList
        documentationAnnounce.announcedPrefix.subnetAddress.toList ∧
      encodeIpv6AnnouncesIntoBgpMpReachAttribute (fun _ => 0) { announcedPrefix := hostPrefix }
        ≠ encodeIpv6AnnouncesIntoBgpMpReachAttribute (fun _ => 0)
            { announcedPrefix := documentationAnnounce.announcedPrefix } := by
  have hfits : FitsIpv6 hostPrefix := show (44 : UInt32) ≤ 128 by decide
  refine ⟨?_, ?_, ?_⟩
  · rw [canonicalIpv6_iff hfits]
    intro hclear
    exact absurd (hclear 44 (by decide) (by decide)) (by decide)
  · intro i hi
    interval_cases i <;> rfl
  · intro heq
    have hlength : hostPrefix.cidrPrefixLength
        = documentationAnnounce.announcedPrefix.cidrPrefixLength := rfl
    exact absurd ((encodedIpv6_eq_iff {} hfits hlength).mp heq 44 (by decide)) (by decide)

end FastNetMon
