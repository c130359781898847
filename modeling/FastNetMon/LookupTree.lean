/-
FastNetMon/LookupTree.lean

The lookup trees for networks (`ip_lookup_tree.hpp`, `ip_lookup_tree_with_payload.hpp`).

A network goes into a tree by way of its text, and an address is searched for as it is.
What the wrappers of both address families do is written once, for a family of networks
(`SubnetFamily`).  `none` is an abort, as in the Patricia tree.
-/
import FastNetMon.PatriciaSearch
import FastNetMon.AddressText
import FastNetMon.FlowSpecFilter

namespace FastNetMon

/-! ### Reading a prefix -/

/-- The loop over the digits in `my_inet_pton`. -/
def octetLoop : Text → ℕ → Option (ℕ × Text)
  | [], val => some (val, [])
  | c :: src, val =>
    if c.isDigit then
      let val := val * 10 + (c.toNat - '0'.toNat)
      if val > 255 then none else octetLoop src val
    else some (val, c :: src)

/-- The loop over the octets in `my_inet_pton` for IPv4, when there can be `left` more; the
octets that are not given are zero. -/
def myInetPtonLoop : (left : ℕ) → Text → Option (List UInt8)
  | 0, src =>
    if src.head?.any Char.isDigit then do
      let (val, src) ← octetLoop src 0
      if src = [] then some [.ofNat val] else none
    else none
  | left + 1, src =>
    if src.head?.any Char.isDigit then do
      let (val, src) ← octetLoop src 0
      if src = [] then some (.ofNat val :: List.replicate (left + 1) 0)
      else if src.head? = some '.' then do
        let bytes ← myInetPtonLoop left src.tail
        some (.ofNat val :: bytes)
      else none
    else none

/-- The bytes of an IPv4 address in memory. -/
def inAddr (address : UInt32) : Vector UInt8 4 :=
  #v[byteOf32 address 0, byteOf32 address 1, byteOf32 address 2, byteOf32 address 3]

/-- `add.sin.s_addr`. -/
def sAddr (add : Vector UInt8 4) : UInt32 := ofBytes32 add[0] add[1] add[2] add[3]

/-- The length of a prefix in `ascii2prefix`.  A negative length is one that is too large,
because `bitlen` has no sign. -/
def asciiBitlen (maxbitlen : ℕ) (string : Text) : ℕ :=
  if '/' ∈ string then
    let bitlen := atol ((string.dropWhile (· ≠ '/')).drop 1)
    if 0 ≤ bitlen ∧ bitlen ≤ maxbitlen then bitlen.toNat else maxbitlen
  else maxbitlen

/-- `ascii2prefix` for IPv4. -/
def ascii2prefixIpv4 (string : Text) : Option (Prefix 4) := do
  let string := cStr string
  let sin ← myInetPtonLoop 3 (string.takeWhile (· ≠ '/'))
  some ⟨asciiBitlen 32 string, Vector.ofFn fun i => sin.getD i.val 0⟩

/-! ### Networks are read back -/

/-- More digits never make a number smaller. -/
theorem le_ofDigitChars (val : ℕ) (digits : Text) : val ≤ Nat.ofDigitChars 10 digits val := by
  rw [Nat.ofDigitChars_eq_ofDigitChars_zero]
  calc val = 1 * val := (Nat.one_mul val).symm
    _ ≤ 10 ^ digits.length * val := Nat.mul_le_mul_right val (Nat.one_le_pow _ _ (by decide))
    _ ≤ _ := Nat.le_add_right _ _

/-- The loop over the digits of an octet reads their number, as long as it fits one byte. -/
theorem octetLoop_digits {digits : Text} (hdigits : ∀ c ∈ digits, c.isDigit = true) {s : Text}
    (hs : ∀ c ∈ s.head?, c.isDigit = false) {val : ℕ}
    (hval : Nat.ofDigitChars 10 digits val ≤ 255) :
    octetLoop (digits ++ s) val = some (Nat.ofDigitChars 10 digits val, s) := by
  induction digits generalizing val with
  | nil =>
      rw [Nat.ofDigitChars_nil, List.nil_append]
      cases s with
      | nil => rfl
      | cons c s => rw [octetLoop, if_neg (by simp [hs c rfl])]
  | cons c digits ih =>
      rw [Nat.ofDigitChars_cons, Nat.mul_comm 10 val] at hval ⊢
      have hstep := le_ofDigitChars (val * 10 + (c.toNat - '0'.toNat)) digits
      rw [List.cons_append, octetLoop, if_pos (hdigits c List.mem_cons_self)]
      simp only
      rw [if_neg (by omega)]
      exact ih (fun c hc => hdigits c (List.mem_cons_of_mem _ hc)) hval

/-- In particular it reads back a printed octet. -/
theorem octetLoop_decimal {n : ℕ} (hn : n < 256) {s : Text}
    (hs : ∀ c ∈ s.head?, c.isDigit = false) : octetLoop (decimal n ++ s) 0 = some (n, s) := by
  have hdigits := ofDigitChars_decimal n
  rw [octetLoop_digits (fun c hc => isDigit_of_mem_decimal hc) hs (by omega), hdigits]

theorem myInetPtonLoop_dot {n left : ℕ} (hn : n < 256) (s : Text) :
    myInetPtonLoop (left + 1) (decimal n ++ '.' :: s)
      = (myInetPtonLoop left s).map (.ofNat n :: ·) := by
  rw [myInetPtonLoop, if_pos (decimal_append_head n _), octetLoop_decimal hn (by simp),
    Option.bind_eq_bind, Option.bind_some]
  simp only
  rw [if_neg (List.cons_ne_nil _ _), if_pos (by simp), List.tail_cons]
  cases myInetPtonLoop left s <;> rfl

theorem myInetPtonLoop_last {n : ℕ} (hn : n < 256) :
    myInetPtonLoop 0 (decimal n) = some [.ofNat n] := by
  have hhead := decimal_append_head n []
  have hloop := octetLoop_decimal hn (s := []) (by simp)
  rw [List.append_nil] at hhead hloop
  rw [myInetPtonLoop, if_pos hhead, hloop]
  rfl

/-- A printed IPv4 address is read back as its four bytes. -/
theorem myInetPtonLoop_inetNtoa (w : UInt32) :
    myInetPtonLoop 3 (inetNtoa w) = some (bytes32 w) := by
  have hbyte : ∀ i, (byteOf32 w i).toNat < 256 := fun i => UInt8.toNat_lt _
  rw [inetNtoa, myInetPtonLoop_dot (hbyte 0), myInetPtonLoop_dot (hbyte 1),
    myInetPtonLoop_dot (hbyte 2), myInetPtonLoop_last (hbyte 3)]
  simp [bytes32]

/-- A slash and a number behind a text without a slash. -/
theorem asciiBitlen_decimal (maxbitlen : ℕ) {n : ℕ} (hn : n < 2 ^ 63) {front : Text}
    (hfront : ∀ c ∈ front, c ≠ '/') :
    asciiBitlen maxbitlen (front ++ '/' :: decimal n) = min n maxbitlen ∧
      (front ++ '/' :: decimal n).takeWhile (· ≠ '/') = front := by
  have hall : ∀ c ∈ front, decide (c ≠ '/') = true := fun c hc => decide_eq_true (hfront c hc)
  have hdrop : ((front ++ '/' :: decimal n).dropWhile (· ≠ '/')).drop 1 = decimal n := by
    rw [List.dropWhile_append_of_pos hall, List.dropWhile_cons_of_neg (by decide), List.drop_one,
      List.tail_cons]
  constructor
  · rw [asciiBitlen, if_pos (by simp), hdrop, atol_decimal hn]
    simp only [Int.toNat_natCast]
    split <;> omega
  · rw [List.takeWhile_append_of_pos hall, List.takeWhile_cons_of_neg (by decide),
      List.append_nil]

theorem sAddr_inAddr (address : UInt32) : sAddr (inAddr address) = address :=
  ofBytes32_bytes address

/-- A printed subnet has no zero byte in it. -/
theorem cStr_slash_decimal {front : Text} (hfront : ∀ c ∈ front, c ≠ '\x00') (n : ℕ) :
    cStr (front ++ '/' :: decimal n) = front ++ '/' :: decimal n := by
  refine cStr_of_all fun c hc => ?_
  rcases List.mem_append.mp hc with hc | hc
  · exact hfront c hc
  · rcases List.mem_cons.mp hc with rfl | hc
    · decide
    · rintro rfl
      exact absurd (isDigit_of_mem_decimal hc) (by decide)

/-- **An IPv4 network reaches its lookup tree**, with a length of at most 32. -/
theorem ascii2prefix_convertIpv4Subnet (subnet : SubnetCidrMask) :
    ascii2prefixIpv4 (convertIpv4SubnetToString subnet)
      = some ⟨min subnet.cidrPrefixLength.toNat 32, inAddr subnet.subnetAddress⟩ := by
  have hfront : ∀ c ∈ inetNtoa subnet.subnetAddress, c ≠ '/' ∧ c ≠ '\x00' := by
    intro c hc
    rcases mem_inetNtoa hc with hdigit | rfl
    · constructor <;> rintro rfl <;> exact absurd hdigit (by decide)
    · decide
  have hlt := subnet.cidrPrefixLength.toNat_lt
  obtain ⟨hbitlen, htake⟩ := asciiBitlen_decimal 32
    (show subnet.cidrPrefixLength.toNat < 2 ^ 63 by omega) fun c hc => (hfront c hc).1
  have hsin : Vector.ofFn (fun i : Fin 4 => (bytes32 subnet.subnetAddress).getD i.val 0)
      = inAddr subnet.subnetAddress := by
    refine Vector.ext fun i hi => ?_
    interval_cases i <;> rfl
  rw [ascii2prefixIpv4, convertIpv4SubnetToString, convertIpAsUintToString,
    cStr_slash_decimal fun c hc => (hfront c hc).2]
  simp only [htake, hbitlen, myInetPtonLoop_inetNtoa, Option.bind_eq_bind, Option.bind_some, hsin]

/-! ### The wrappers -/

/-- How the networks of an address family go into a tree and come out of it: the prefix that is
read from the text of a network, the prefix to search for, and the network of a prefix. -/
structure SubnetFamily (size : ℕ) (ν : Type) where
  fromText : ν → Option (Prefix size)
  prefixForCheck : ν → Prefix size
  ofPrefix : Prefix size → ν

/-- The IPv4 networks: `lookup_tree_32bit_t`. -/
def ipv4Family : SubnetFamily 4 SubnetCidrMask where
  fromText subnet := ascii2prefixIpv4 (convertIpv4SubnetToString subnet)
  prefixForCheck subnet := ⟨subnet.cidrPrefixLength.toNat % 2 ^ 16, inAddr subnet.subnetAddress⟩
  ofPrefix pfx := ⟨sAddr pfx.add, .ofNat pfx.bitlen⟩

/-- The IPv6 networks: `lookup_tree_128bit_t`. -/
def ipv6Family : SubnetFamily 16 SubnetIpv6CidrMask where
  fromText subnet := (ascii2prefixIpv6 (convertIpv6SubnetToString subnet)).map
    fun (sin6, bitlen) => ⟨bitlen, sin6⟩
  prefixForCheck subnet := ⟨subnet.cidrPrefixLength.toNat % 2 ^ 16, subnet.subnetAddress⟩
  ofPrefix pfx := ⟨pfx.add, .ofNat pfx.bitlen⟩

/-- A printed IPv4 subnet is read back, its length cut at 32. -/
theorem ipv4Family_fromText (subnet : SubnetCidrMask) : ipv4Family.fromText subnet
    = some ⟨min subnet.cidrPrefixLength.toNat 32, inAddr subnet.subnetAddress⟩ :=
  ascii2prefix_convertIpv4Subnet subnet

theorem ascii2prefixIpv6_eq (string : Text) : ascii2prefixIpv6 string
    = (readIpv6HostFromString ((cStr string).takeWhile (· ≠ '/'))).map
        fun sin6 => (sin6, asciiBitlen 128 (cStr string)) := rfl

/-- A printed IPv6 subnet is read back as its printed address is, its length cut at 128. -/
theorem ipv6Family_fromText_eq (subnet : SubnetIpv6CidrMask) : ipv6Family.fromText subnet
    = (readIpv6HostFromString (printIpv6Address subnet.subnetAddress)).map
        fun sin6 => ⟨min subnet.cidrPrefixLength.toNat 128, sin6⟩ := by
  have hfront : ∀ c ∈ printIpv6Address subnet.subnetAddress, c ≠ '/' ∧ c ≠ '\x00' := by
    intro c hc
    rcases mem_printIpv6Address hc with rfl | ⟨n, hn, rfl⟩
    · decide
    · exact ⟨(digitChar_ne n hn).2.2, (digitChar_ne n hn).2.1⟩
  have hlt := subnet.cidrPrefixLength.toNat_lt
  obtain ⟨hbitlen, htake⟩ := asciiBitlen_decimal 128
    (show subnet.cidrPrefixLength.toNat < 2 ^ 63 by omega) fun c hc => (hfront c hc).1
  show (ascii2prefixIpv6 (convertIpv6SubnetToString subnet)).map _ = _
  rw [ascii2prefixIpv6_eq, convertIpv6SubnetToString,
    cStr_slash_decimal fun c hc => (hfront c hc).2, htake, hbitlen, Option.map_map]
  rfl

/-- **An IPv6 network reaches its lookup tree** if its address does not start with two zero
groups. -/
theorem ipv6Family_fromText {subnet : SubnetIpv6CidrMask}
    (h : NoLeadingZeros subnet.subnetAddress) : ipv6Family.fromText subnet
      = some ⟨min subnet.cidrPrefixLength.toNat 128, subnet.subnetAddress⟩ := by
  rw [ipv6Family_fromText_eq, readIpv6Host_print h]
  rfl

/-- Else it does not. -/
theorem ipv6Family_fromText_eq_none {subnet : SubnetIpv6CidrMask}
    (h : ¬ NoLeadingZeros subnet.subnetAddress) : ipv6Family.fromText subnet = none := by
  rw [ipv6Family_fromText_eq, readIpv6HostFromString, inetPton6_of_leadingZeros h]
  rfl

variable {size : ℕ} {δ ν : Type} [Zero δ] [DecidableEq δ] (family : SubnetFamily size ν)

/-- `add_subnet`: a text that is not read as a prefix fails an assertion in
`patricia_lookup`. -/
def addSubnet (patriciaTree : PatriciaTree size δ) (subnet : ν) : Option (PatriciaTree size δ) := do
  let pfx ← family.fromText subnet
  patriciaStep patriciaTree (.makeAndLookup pfx)

/-- `add_subnet_with_payload_inline`. -/
def addSubnetWithPayloadInline (patriciaTree : PatriciaTree size δ) (subnet : ν)
    (objectToStore : δ) : Option (PatriciaTree size δ) := do
  let pfx ← family.fromText subnet
  patriciaStep patriciaTree (.makeAndLookupWithData pfx objectToStore)

/-- `load_inline`. -/
def loadInline (patriciaTree anotherTree : PatriciaTree size δ) : Option (PatriciaTree size δ) := do
  let loaded ← patriciaProcess anotherTree
    (fun (patriciaTree : Option (PatriciaTree size δ)) pfx data => do
      addSubnetWithPayloadInline family (← patriciaTree) (family.ofPrefix pfx) data)
    (some patriciaTree)
  loaded

omit [DecidableEq δ]

/-- `lookup_network`. -/
def lookupNetwork (patriciaTree : PatriciaTree size δ) (subnet : ν) : Option Bool :=
  (patriciaSearchBest2 patriciaTree (family.prefixForCheck subnet) true).map Option.isSome

/-- `lookup_network_which_includes_ip` with the network of the address. -/
def lookupNetworkWhichIncludes (patriciaTree : PatriciaTree size δ) (subnet : ν) :
    Option (Option ν) :=
  (patriciaSearchBest2 patriciaTree (family.prefixForCheck subnet) true).map fun found =>
    found.bind fun fields => fields.pfx.map family.ofPrefix

/-- `lookup_value_inline_for_subnet`. -/
def lookupValueInlineForSubnet (patriciaTree : PatriciaTree size δ) (subnet : ν) :
    Option (Option δ) :=
  (patriciaSearchBest2 patriciaTree (family.prefixForCheck subnet) true).map
    (·.map PatriciaFields.data)

/-- `lookup_value_inline_for_subnet_exact_match`. -/
def lookupValueInlineForSubnetExactMatch (patriciaTree : PatriciaTree size δ) (subnet : ν) :
    Option (Option δ) :=
  (patriciaSearchExact patriciaTree (family.prefixForCheck subnet)).map
    (·.map PatriciaFields.data)

section Ipv4

variable (patriciaTree : PatriciaTree 4 δ)

/-- `lookup_tree_32bit_t::lookup_ip`, and `ip_belongs_to_patricia_tree`. -/
def lookupIp (ipAddress : UInt32) : Option Bool :=
  lookupNetwork ipv4Family patriciaTree ⟨ipAddress, 32⟩

/-- `lookup_network_which_includes_ip`, and
`lookup_ip_in_integer_form_inpatricia_and_return_subnet_if_found`. -/
def lookupNetworkWhichIncludesIp (ipAddress : UInt32) : Option (Option SubnetCidrMask) :=
  lookupNetworkWhichIncludes ipv4Family patriciaTree ⟨ipAddress, 32⟩

end Ipv4

/-- `lookup_tree_128bit_t::lookup_ip`, and `ip_belongs_to_patricia_tree_ipv6`. -/
def lookupIpv6 (patriciaTree : PatriciaTree 16 δ) (clientIpv6Address : In6Addr) : Option Bool :=
  lookupNetwork ipv6Family patriciaTree ⟨clientIpv6Address, 128⟩

end FastNetMon
