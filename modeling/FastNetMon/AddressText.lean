/-
FastNetMon/AddressText.lean

IPv6 addresses through their texts.

`print_ipv6_address` replaces the first run of zero groups by one colon.  Behind a group,
whose own colon stays, this makes the two colons of a short form.  At the front of an address
there is no such group: the text starts with a single colon, and `inet_pton` takes none.  So
the text is one of an address, and of that address, exactly if the address does not start
with two zero groups (`ipv6_text_survives_iff`).  The lookup trees take their networks from
such texts (`ascii2prefix`), and get no network from the others.
-/
import FastNetMon.SubnetText

namespace FastNetMon

/-! ### A run at the front -/

/-- The text of an address that starts with two zero groups starts with one colon. -/
theorem printIpv6Address_of_leadingZeros {address : Vector UInt8 16}
    (h : ¬ NoLeadingZeros address) :
    ∃ back, printIpv6Address address = ':' :: groupsText back (lastGroup address) := by
  rw [NoLeadingZeros, not_not] at h
  obtain ⟨h₀, h₁⟩ := h
  have hgroups : frontGroups address = (0, 0) :: (0, 0) :: (frontGroups address).drop 2 := by
    rw [frontGroups, h₀, h₁]
    rfl
  have hrun := (isPrefixOf_zeroRun (frontGroups address) (lastGroup address)).mpr ⟨_, hgroups⟩
  obtain ⟨-, back, -, hdrop, -⟩ := dropZeroGroups_groups (frontGroups address) (lastGroup address)
  refine ⟨back, ?_⟩
  rw [printIpv6Address]
  -- the run is found at the first character
  obtain ⟨c, s, htext, -⟩ := Group.text_cons (0, 0)
    (':' :: groupsText ((0, 0) :: (frontGroups address).drop 2) (lastGroup address))
  have hcons : groupsText (frontGroups address) (lastGroup address) = c :: s := by
    rw [hgroups, groupsText_cons]
    exact htext
  rw [hcons] at hrun hdrop ⊢
  rw [compressZeros, if_pos hrun, hdrop]

theorem groupsText_head (gs : List Group) (last : Group) :
    ∃ c s, groupsText gs last = c :: s ∧ c ≠ ':' ∧ c ≠ '\x00' := by
  have hfirst : ∀ (g : Group) (s : Text), ∃ c t, g.text ++ s = c :: t ∧ c ≠ ':' ∧ c ≠ '\x00' := by
    intro g s
    have hlt := g.1.toNat_lt
    have hne := digitChar_ne (g.1.toNat / 16) (by omega)
    exact ⟨_, _, rfl, hne.1, hne.2.1⟩
  cases gs with
  | nil =>
    have hlast := hfirst last []
    rwa [List.append_nil] at hlast
  | cons g gs =>
    rw [groupsText_cons]
    exact hfirst g _

/-- A colon that another character follows starts no address. -/
theorem inetPton6_singleColon {c : Char} (s : Text) (hcolon : c ≠ ':') (hnull : c ≠ '\x00') :
    inetPton6 (':' :: c :: s) = none := by
  have hstr : cStr (':' :: c :: s) = ':' :: c :: cStr s := by
    rw [cStr, List.takeWhile_cons_of_pos (by decide), List.takeWhile_cons_of_pos (by simp [hnull]),
      cStr]
  rw [inetPton6, hstr, skipLeadingColon, if_neg (by simp), if_pos (by simp),
    if_neg (by simpa using hcolon)]
  rfl

theorem inetPton6_of_leadingZeros {address : Vector UInt8 16} (h : ¬ NoLeadingZeros address) :
    inetPton6 (printIpv6Address address) = none := by
  obtain ⟨back, htext⟩ := printIpv6Address_of_leadingZeros h
  obtain ⟨c, s, hcons, hcolon, hnull⟩ := groupsText_head back (lastGroup address)
  rw [htext, hcons, inetPton6_singleColon s hcolon hnull]

/-! ### Printing and reading -/

/-- A text that `inet_pton` takes for an IPv6 address. -/
def IsIpv6Text (s : Text) : Prop := (inetPton6 s).isSome = true

theorem isIpv6Text_of_read {s : Text} {address : Vector UInt8 16}
    (h : readIpv6HostFromString s = some address) : IsIpv6Text s := by
  rw [readIpv6HostFromString, Option.bind_eq_bind, Option.bind_eq_some_iff] at h
  obtain ⟨bytes, hbytes, -⟩ := h
  rw [IsIpv6Text, hbytes]
  rfl

/-- **An address survives printing exactly if it does not start with two zero groups.** -/
theorem ipv6_text_survives_iff (address : Vector UInt8 16) :
    (IsIpv6Text (printIpv6Address address) ∧
        readIpv6HostFromString (printIpv6Address address) = some address) ↔
      NoLeadingZeros address := by
  constructor
  · rintro ⟨hvalid, -⟩
    by_contra hzeros
    rw [IsIpv6Text, inetPton6_of_leadingZeros hzeros] at hvalid
    exact absurd hvalid (by decide)
  · intro hzeros
    have hread := readIpv6Host_print hzeros
    exact ⟨isIpv6Text_of_read hread, hread⟩

theorem ipv6Loopback_size : #[(0 : UInt8), 0, 0, 0, 0, 0, 0, 0, 0, 0, 0, 0, 0, 0, 0, 1].size = 16 :=
  rfl

/-- The address `::1`. -/
def ipv6Loopback : Vector UInt8 16 :=
  ⟨#[0, 0, 0, 0, 0, 0, 0, 0, 0, 0, 0, 0, 0, 0, 0, 1], ipv6Loopback_size⟩

/-- **The loopback address is printed as `:0001`**, which is not read back. -/
theorem ipv6Loopback_not_survives :
    ¬ (IsIpv6Text (printIpv6Address ipv6Loopback) ∧
      readIpv6HostFromString (printIpv6Address ipv6Loopback) = some ipv6Loopback) := by
  rintro ⟨hvalid, -⟩
  have htext : printIpv6Address ipv6Loopback = ":0001".toList := by decide
  rw [htext] at hvalid
  exact absurd hvalid (by unfold IsIpv6Text; decide)

/-! ### Networks of the lookup trees -/

/-- `atol`. -/
def atol (s : Text) : ℤ :=
  let number : Text → ℤ := fun s => ((leadingNumber s).getD 0 : ℕ)
  let value := match s.dropWhile isSpace with
    | '-' :: s => -number s
    | '+' :: s => number s
    | s => number s
  max (-2 ^ 63) (min value (2 ^ 63 - 1))

/-- `ascii2prefix` for IPv6: the address and the length.  A negative length is one that is too
large, because `bitlen` has no sign. -/
def ascii2prefixIpv6 (string : Text) : Option (Vector UInt8 16 × ℕ) :=
  let string := cStr string
  let bitlen :=
    if '/' ∈ string then
      let bitlen := atol ((string.dropWhile (· ≠ '/')).drop 1)
      if 0 ≤ bitlen ∧ bitlen ≤ 128 then bitlen.toNat else 128
    else 128
  (readIpv6HostFromString (string.takeWhile (· ≠ '/'))).map fun sin6 => (sin6, bitlen)

theorem atol_decimal {n : ℕ} (h : n < 2 ^ 63) : atol (decimal n) = n := by
  obtain ⟨c, s, hcs⟩ := List.exists_cons_of_ne_nil (decimal_ne_nil n)
  have hdigit : c.isDigit = true := isDigit_of_mem_decimal (n := n) (by rw [hcs]; simp)
  have hnumber := leadingNumber_decimal n [] (by simp)
  rw [List.append_nil, hcs] at hnumber
  rw [hcs, atol, List.dropWhile_cons_of_neg (by simp [isSpace_of_isDigit hdigit])]
  split
  · rename_i heq
    obtain rfl := (List.cons.inj heq).1
    exact absurd hdigit (by decide)
  · rename_i heq
    obtain rfl := (List.cons.inj heq).1
    exact absurd hdigit (by decide)
  · simp only [hnumber, Option.getD_some]
    omega

end FastNetMon
