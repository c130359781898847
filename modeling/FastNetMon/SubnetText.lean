/-
FastNetMon/SubnetText.lean

Subnets as texts (`convert_ipv4_subnet_to_string`,
`convert_subnet_from_string_to_binary_with_cidr_format_safe`,
`convert_ipv6_subnet_to_string`, `read_ipv6_subnet_from_string`).

An IPv4 subnet that was read from a text is read back from its own text
(`readIpv4_convert`).  The text of an IPv6 address is made by replacing the first
run of zero groups by a single colon; the colon of the group in front makes it
two, so that the text is read back if the run does not start the address
(`readIpv6_convert`).
-/
import FastNetMon.InternetText
import FastNetMon.Types

namespace FastNetMon

/-! ### IPv4 -/

/-- `convert_ip_as_uint_to_string`. -/
def convertIpAsUintToString (ipAsInteger : UInt32) : Text := inetNtoa ipAsInteger

/-- `convert_ip_as_string_to_uint_safe`. -/
def convertIpAsStringToUintSafe (ip : Text) : Option UInt32 := inetAton ip

/-- `convert_ipv4_subnet_to_string`. -/
def convertIpv4SubnetToString (subnet : SubnetCidrMask) : Text :=
  convertIpAsUintToString subnet.subnetAddress ++ '/' :: decimal subnet.cidrPrefixLength.toNat

/-- `\d+` at the front of a text. -/
def skipNumber (s : Text) : Option Text :=
  if s.head?.any Char.isDigit then some (s.dropWhile Char.isDigit) else none

/-- A character at the front of a text. -/
def skipChar (c : Char) (s : Text) : Option Text :=
  if s.head? = some c then some s.tail else none

/-- `is_cidr_subnet`: four numbers with dots between them, a slash, a number. -/
def isCidrSubnet (subnet : Text) : Bool :=
  (do
    let s ← skipNumber (cStr subnet)
    let s ← skipNumber (← skipChar '.' s)
    let s ← skipNumber (← skipChar '.' s)
    let s ← skipNumber (← skipChar '.' s)
    skipNumber (← skipChar '/' s)) == some []

/-- `convert_subnet_from_string_to_binary_with_cidr_format_safe`. -/
def convertSubnetFromStringToBinaryWithCidrFormatSafe (subnetCidr : Text) : Option SubnetCidrMask :=
  if subnetCidr = [] then none
  else if !isCidrSubnet subnetCidr then none
  else
    match splitCompress (· = '/') subnetCidr with
    | [address, length] => do
        let subnetAsInt ← convertIpAsStringToUintSafe address
        let cidr ← stoi length
        some ⟨subnetAsInt, .ofInt cidr⟩
    | _ => none

theorem skipNumber_eq_some {s t : Text} (h : skipNumber s = some t) :
    ∃ c digits, s = (c :: digits) ++ t ∧ ∀ d ∈ c :: digits, d.isDigit = true := by
  rw [skipNumber, Option.ite_none_right_eq_some] at h
  obtain ⟨hhead, hdrop⟩ := h
  obtain rfl := Option.some.inj hdrop
  cases s with
  | nil => exact absurd hhead (by simp)
  | cons c s =>
    have hc : c.isDigit = true := by simpa using hhead
    refine ⟨c, s.takeWhile Char.isDigit, ?_, ?_⟩
    · rw [List.cons_append, List.dropWhile_cons_of_pos hc, List.takeWhile_append_dropWhile]
    · intro d hd
      rcases List.mem_cons.mp hd with rfl | hd
      · exact hc
      · exact List.mem_takeWhile_imp hd

theorem skipChar_eq_some {c : Char} {s t : Text} (h : skipChar c s = some t) : s = c :: t := by
  rw [skipChar, Option.ite_none_right_eq_some] at h
  obtain ⟨hhead, htail⟩ := h
  obtain rfl := Option.some.inj htail
  cases s with
  | nil => exact absurd hhead (by simp)
  | cons d s => rw [Option.some.inj hhead, List.tail_cons]

theorem skipNumber_decimal (n : ℕ) {s : Text} (h : ∀ c ∈ s.head?, c.isDigit = false) :
    skipNumber (decimal n ++ s) = some s := by
  rw [skipNumber, if_pos (decimal_append_head n s),
    List.dropWhile_append_of_pos fun c hc => isDigit_of_mem_decimal hc]
  cases s with
  | nil => rfl
  | cons c s => rw [List.dropWhile_cons_of_neg (by simp [h c rfl])]

theorem skipChar_cons (c : Char) (s : Text) : skipChar c (c :: s) = some s := by
  rw [skipChar, if_pos List.head?_cons, List.tail_cons]

/-- A subnet has no slash in front of its slash, and a digit behind it. -/
theorem isCidrSubnet_spec {subnet : Text} (h : isCidrSubnet subnet = true) :
    ∃ address c length, cStr subnet = address ++ '/' :: c :: length ∧ '/' ∉ address ∧
      c.isDigit = true := by
  simp only [isCidrSubnet, beq_iff_eq, Option.bind_eq_bind, Option.bind_eq_some_iff] at h
  obtain ⟨s₁, h₁, t₁, ht₁, s₂, h₂, t₂, ht₂, s₃, h₃, t₃, ht₃, s₄, h₄, t₄, ht₄, h₅⟩ := h
  obtain ⟨c₁, d₁, hs₁, hd₁⟩ := skipNumber_eq_some h₁
  obtain ⟨c₂, d₂, hs₂, hd₂⟩ := skipNumber_eq_some h₂
  obtain ⟨c₃, d₃, hs₃, hd₃⟩ := skipNumber_eq_some h₃
  obtain ⟨c₄, d₄, hs₄, hd₄⟩ := skipNumber_eq_some h₄
  obtain ⟨c₅, d₅, hs₅, hd₅⟩ := skipNumber_eq_some h₅
  rw [skipChar_eq_some ht₁, hs₂, skipChar_eq_some ht₂, hs₃, skipChar_eq_some ht₃, hs₄,
    skipChar_eq_some ht₄, hs₅] at hs₁
  have hslash : ∀ {c : Char} {d : Text}, (∀ x ∈ c :: d, x.isDigit = true) → '/' ∉ c :: d := by
    intro c d hd hmem
    exact absurd (hd '/' hmem) (by decide)
  refine ⟨(c₁ :: d₁) ++ '.' :: ((c₂ :: d₂) ++ '.' :: ((c₃ :: d₃) ++ '.' :: (c₄ :: d₄))), c₅, d₅,
    by simpa using hs₁, ?_, hd₅ c₅ (by simp)⟩
  have hdot : '/' ≠ '.' := by decide
  have hstep : ∀ {d s : Text}, '/' ∉ d → '/' ∉ s → '/' ∉ d ++ '.' :: s := by
    intro d s hd hs hmem
    rcases List.mem_append.mp hmem with h | h
    · exact hd h
    · exact (List.mem_cons.mp h).elim hdot hs
  exact hstep (hslash hd₁) (hstep (hslash hd₂) (hstep (hslash hd₃) (hslash hd₄)))

/-- The prefix length of a subnet that was read is at most that of an `int`. -/
theorem readIpv4_length {subnetCidr : Text} {subnet : SubnetCidrMask}
    (h : convertSubnetFromStringToBinaryWithCidrFormatSafe subnetCidr = some subnet) :
    subnet.cidrPrefixLength.toNat ≤ 2147483647 := by
  rw [convertSubnetFromStringToBinaryWithCidrFormatSafe] at h
  split at h
  · exact absurd h (by simp)
  split at h
  · exact absurd h (by simp)
  rename_i hcidr
  obtain ⟨address, c, length, hstr, hslash, hdigit⟩ := isCidrSubnet_spec (by simpa using hcidr)
  -- the second token starts with a digit
  obtain ⟨rest, hrest⟩ : ∃ rest, subnetCidr = address ++ '/' :: (c :: length ++ rest) := by
    obtain ⟨rest, hwhole⟩ : ∃ rest, cStr subnetCidr ++ rest = subnetCidr :=
      ⟨_, List.takeWhile_append_dropWhile⟩
    refine ⟨rest, ?_⟩
    rw [← hwhole, hstr]
    simp
  have hc : (decide (c = '/')) = false := by
    rw [decide_eq_false_iff_not]
    rintro rfl
    exact absurd hdigit (by decide)
  obtain ⟨token, tokens, htoken⟩ :=
    (@splitTokens_head (· = '/') _ (length ++ rest)) hc true
  have hsplit : splitCompress (· = '/') subnetCidr = address :: (c :: token) :: tokens := by
    rw [hrest, splitCompress, splitTokens_append, List.cons_append, htoken]
    · intro d hd
      rw [decide_eq_false_iff_not]
      rintro rfl
      exact hslash hd
    · decide
  rw [hsplit] at h
  cases tokens with
  | cons _ _ => exact absurd h (by simp)
  | nil =>
    simp only [Option.bind_eq_bind, Option.bind_eq_some_iff] at h
    obtain ⟨subnetAsInt, -, cidr, hcidr, hsubnet⟩ := h
    obtain rfl := Option.some.inj hsubnet
    obtain ⟨hlow, hhigh⟩ := stoi_nonneg hdigit hcidr
    obtain ⟨n, rfl⟩ := Int.eq_ofNat_of_zero_le hlow
    show (UInt32.ofInt (n : ℤ)).toNat ≤ 2147483647
    rw [ofInt32_natCast, UInt32.toNat_ofNat_of_lt' (by simp only [UInt32.size]; omega)]
    omega

/-- **An IPv4 subnet is read back from its text.** -/
theorem readIpv4_convert {subnet : SubnetCidrMask}
    (h : subnet.cidrPrefixLength.toNat ≤ 2147483647) :
    convertSubnetFromStringToBinaryWithCidrFormatSafe (convertIpv4SubnetToString subnet)
      = some subnet := by
  have hnodigit : ∀ (d : Char) (s : Text), d.isDigit = false →
      ∀ c ∈ (d :: s).head?, c.isDigit = false := by
    rintro d s hd c hc
    obtain rfl : d = c := by simpa using hc
    exact hd
  have haddress : ∀ c ∈ inetNtoa subnet.subnetAddress, (decide (c = '/')) = false := by
    intro c hc
    rw [decide_eq_false_iff_not]
    rintro rfl
    exact absurd (mem_inetNtoa hc) (by decide)
  have hlength : ∀ c ∈ decimal subnet.cidrPrefixLength.toNat, (decide (c = '/')) = false := by
    intro c hc
    rw [decide_eq_false_iff_not]
    rintro rfl
    exact absurd (isDigit_of_mem_decimal hc) (by decide)
  have hstr : cStr (convertIpv4SubnetToString subnet) = convertIpv4SubnetToString subnet := by
    refine cStr_of_all fun c hc => ?_
    rintro rfl
    rcases List.mem_append.mp hc with hc | hc
    · exact absurd (mem_inetNtoa hc) (by decide)
    · rcases List.mem_cons.mp hc with hc | hc
      · exact absurd hc (by decide)
      · exact absurd (isDigit_of_mem_decimal hc) (by decide)
  have hcidr : isCidrSubnet (convertIpv4SubnetToString subnet) = true := by
    rw [isCidrSubnet, hstr, convertIpv4SubnetToString, convertIpAsUintToString, inetNtoa]
    have hend := skipNumber_decimal subnet.cidrPrefixLength.toNat (s := []) (by simp)
    rw [List.append_nil] at hend
    simp only [List.append_assoc, List.cons_append]
    rw [skipNumber_decimal _ (hnodigit '.' _ (by decide))]
    simp only [Option.bind_eq_bind, Option.bind_some, skipChar_cons]
    rw [skipNumber_decimal _ (hnodigit '.' _ (by decide))]
    simp only [Option.bind_some, skipChar_cons]
    rw [skipNumber_decimal _ (hnodigit '.' _ (by decide))]
    simp only [Option.bind_some, skipChar_cons]
    rw [skipNumber_decimal _ (hnodigit '/' _ (by decide))]
    simp only [Option.bind_some, skipChar_cons, hend]
    rfl
  have hne : convertIpv4SubnetToString subnet ≠ [] := by
    simp [convertIpv4SubnetToString]
  rw [convertSubnetFromStringToBinaryWithCidrFormatSafe, if_neg hne, if_neg (by simp [hcidr]),
    convertIpv4SubnetToString, convertIpAsUintToString, splitCompress_pair haddress hlength (by decide)]
  simp only [convertIpAsStringToUintSafe, inetAton_inetNtoa, stoi_decimal h, Option.bind_eq_bind,
    Option.bind_some, ofInt32_natCast, UInt32.ofNat_toNat]

/-! ### IPv6 -/

/-- Two zero groups, each with the colon behind it. -/
def zeroRun : Text := "0000:0000:".toList

/-- All zero groups at the front of a text. -/
def dropZeroGroups : Text → Text
  | '0' :: '0' :: '0' :: '0' :: ':' :: s => dropZeroGroups s
  | s => s

/-- `regex_replace` of the first match of `(0000:){2,}` by a colon. -/
def compressZeros : Text → Text
  | [] => []
  | c :: s =>
      if zeroRun.isPrefixOf (c :: s) then ':' :: dropZeroGroups (c :: s)
      else c :: compressZeros s

/-- The eight groups of an address: seven, and the last one. -/
def frontGroups (address : Vector UInt8 16) : List Group :=
  [(address[0], address[1]), (address[2], address[3]), (address[4], address[5]),
    (address[6], address[7]), (address[8], address[9]), (address[10], address[11]),
    (address[12], address[13])]

@[inherit_doc frontGroups]
def lastGroup (address : Vector UInt8 16) : Group := (address[14], address[15])

/-- `print_ipv6_address`. -/
def printIpv6Address (address : Vector UInt8 16) : Text :=
  compressZeros (groupsText (frontGroups address) (lastGroup address))

/-- `convert_ipv6_subnet_to_string`. -/
def convertIpv6SubnetToString (subnet : SubnetIpv6CidrMask) : Text :=
  printIpv6Address subnet.subnetAddress ++ '/' :: decimal subnet.cidrPrefixLength.toNat

/-- `read_ipv6_host_from_string`. -/
def readIpv6HostFromString (host : Text) : Option (Vector UInt8 16) := do
  let bytes ← inetPton6 host
  if h : bytes.toArray.size = 16 then some ⟨bytes.toArray, h⟩ else none

/-- `read_ipv6_subnet_from_string`. -/
def readIpv6SubnetFromString (subnet : Text) : Option SubnetIpv6CidrMask :=
  match splitCompress (· = '/') subnet with
  | [address, length] => do
      let cidr ← stoi length
      let subnetAddress ← readIpv6HostFromString address
      some ⟨subnetAddress, .ofInt cidr⟩
  | _ => none

/-! ### The text of an IPv6 address -/

theorem groupsText_cons (g : Group) (gs : List Group) (last : Group) :
    groupsText (g :: gs) last = g.text ++ ':' :: groupsText gs last := by
  simp [groupsText]

theorem digitChar_eq_zero : ∀ n < 16, Nat.digitChar n = '0' ↔ n = 0 := by decide

/-- The four digits of a group are zeros if the group is zero. -/
theorem text_eq_zeros_iff (g : Group) : g.text = ['0', '0', '0', '0'] ↔ g = (0, 0) := by
  obtain ⟨a, b⟩ := g
  have ha := a.toNat_lt
  have hb := b.toNat_lt
  simp only [Group.text, hexByte, List.cons_append, List.nil_append, List.cons.injEq, and_true,
    Prod.mk.injEq, digitChar_eq_zero _ (by omega : a.toNat / 16 < 16),
    digitChar_eq_zero _ (by omega : a.toNat % 16 < 16),
    digitChar_eq_zero _ (by omega : b.toNat / 16 < 16),
    digitChar_eq_zero _ (by omega : b.toNat % 16 < 16), ← UInt8.toNat_inj]
  simp only [UInt8.toNat_ofNat, Nat.zero_mod]
  omega

/-- A group is four characters that are not colons. -/
theorem text_eq (g : Group) : ∃ a b c d, g.text = [a, b, c, d] ∧ a ≠ ':' ∧ b ≠ ':' ∧ c ≠ ':' ∧
    d ≠ ':' := by
  have h₁ := g.1.toNat_lt
  have h₂ := g.2.toNat_lt
  exact ⟨_, _, _, _, rfl, (digitChar_ne _ (by omega)).1, (digitChar_ne _ (by omega)).1,
    (digitChar_ne _ (by omega)).1, (digitChar_ne _ (by omega)).1⟩

/-- The zero groups at the front are dropped. -/
theorem dropZeroGroups_groups (gs : List Group) (last : Group) :
    ∃ n back, gs = List.replicate n (0, 0) ++ back ∧
      dropZeroGroups (groupsText gs last) = groupsText back last ∧
      (∀ g ∈ back.head?, g ≠ (0, 0)) := by
  induction gs with
  | nil =>
    refine ⟨0, [], rfl, ?_, by simp⟩
    obtain ⟨a, b, c, d, htext, -⟩ := text_eq last
    rw [groupsText, List.flatMap_nil, List.nil_append, htext, dropZeroGroups]
    simp
  | cons g gs ih =>
    by_cases hg : g = (0, 0)
    · obtain ⟨n, back, rfl, hdrop, hback⟩ := ih
      refine ⟨n + 1, back, by rw [hg]; rfl, ?_, hback⟩
      rw [groupsText_cons, (text_eq_zeros_iff g).mpr hg]
      exact hdrop
    · refine ⟨0, g :: gs, rfl, ?_, by simpa using hg⟩
      obtain ⟨a, b, c, d, htext, -⟩ := text_eq g
      have hne : ¬ (a = '0' ∧ b = '0' ∧ c = '0' ∧ d = '0') := by
        rintro ⟨rfl, rfl, rfl, rfl⟩
        exact hg ((text_eq_zeros_iff g).mp htext)
      rw [groupsText_cons, htext, dropZeroGroups.eq_def]
      split
      · rename_i heq
        obtain ⟨ha, hb, hc, hd, -⟩ : a = '0' ∧ b = '0' ∧ c = '0' ∧ d = '0' ∧ _ := by
          simpa using heq
        exact absurd ⟨ha, hb, hc, hd⟩ hne
      · rfl

/-- A zero group with its colon at the front of a text. -/
theorem isPrefixOf_zeroGroup (rest : Text) (g : Group) (s : Text) :
    ('0' :: '0' :: '0' :: '0' :: ':' :: rest).isPrefixOf (g.text ++ ':' :: s) = true ↔
      g = (0, 0) ∧ rest.isPrefixOf s = true := by
  obtain ⟨a, b, c, d, htext, -⟩ := text_eq g
  rw [← text_eq_zeros_iff, htext]
  simp only [List.cons_append, List.nil_append, List.isPrefixOf_cons_cons, Bool.and_eq_true,
    beq_iff_eq, List.cons.injEq, and_true, true_and]
  constructor
  · rintro ⟨ha, hb, hc, hd, hrest⟩
    exact ⟨⟨ha.symm, hb.symm, hc.symm, hd.symm⟩, hrest⟩
  · rintro ⟨⟨ha, hb, hc, hd⟩, hrest⟩
    exact ⟨ha.symm, hb.symm, hc.symm, hd.symm, hrest⟩

theorem isPrefixOf_last (rest : Text) (g : Group) :
    ('0' :: '0' :: '0' :: '0' :: ':' :: rest).isPrefixOf g.text = false := by
  obtain ⟨a, b, c, d, htext, -⟩ := text_eq g
  rw [htext]
  simp only [List.isPrefixOf, Bool.and_false]

/-- Two zero groups stand at the front of a text of groups if they are the
first two groups, and not the last one. -/
theorem isPrefixOf_zeroRun (gs : List Group) (last : Group) :
    zeroRun.isPrefixOf (groupsText gs last) = true ↔ ∃ gs', gs = (0, 0) :: (0, 0) :: gs' := by
  have hrun : zeroRun = '0' :: '0' :: '0' :: '0' :: ':' :: ['0', '0', '0', '0', ':'] := rfl
  match gs with
  | [] =>
    have hlast : groupsText [] last = last.text := rfl
    rw [hlast, hrun, isPrefixOf_last]
    simp
  | [g] =>
    have hlast : groupsText [] last = last.text := rfl
    rw [groupsText_cons, hlast, hrun, isPrefixOf_zeroGroup, isPrefixOf_last]
    simp
  | g :: g' :: gs =>
    rw [groupsText_cons, groupsText_cons, hrun, isPrefixOf_zeroGroup, isPrefixOf_zeroGroup]
    simp

/-- The characters inside a group do not start two zero groups. -/
theorem compressZeros_text (g : Group) (s : Text)
    (h : zeroRun.isPrefixOf (g.text ++ ':' :: s) = false) :
    compressZeros (g.text ++ ':' :: s) = g.text ++ ':' :: compressZeros s := by
  obtain ⟨a, b, c, d, htext, ha, hb, hc, hd⟩ := text_eq g
  have hrun : zeroRun = '0' :: '0' :: '0' :: '0' :: ':' :: ['0', '0', '0', '0', ':'] := rfl
  rw [htext] at h ⊢
  simp only [List.cons_append, List.nil_append] at h ⊢
  rw [compressZeros, if_neg (by simp [h]), compressZeros, if_neg (by simp [hrun]), compressZeros,
    if_neg (by simp [hrun]), compressZeros, if_neg (by simp [hrun]), compressZeros,
    if_neg (by simp [hrun])]

/-- The last group stays. -/
theorem compressZeros_last (g : Group) : compressZeros g.text = g.text := by
  obtain ⟨a, b, c, d, htext, -⟩ := text_eq g
  have hrun : zeroRun = '0' :: '0' :: '0' :: '0' :: ':' :: ['0', '0', '0', '0', ':'] := rfl
  rw [htext, compressZeros, if_neg (by simp [hrun]), compressZeros, if_neg (by simp [hrun]),
    compressZeros, if_neg (by simp [hrun]), compressZeros, if_neg (by simp [hrun]), compressZeros]

/-- **The text of groups has at most one run of two or more zero groups
replaced.** -/
theorem compressZeros_groups (gs : List Group) (last : Group) :
    compressZeros (groupsText gs last) = groupsText gs last ∨
      ∃ (front : List Group) (n : ℕ) (back : List Group),
        gs = front ++ List.replicate (n + 2) (0, 0) ++ back ∧
        compressZeros (groupsText gs last)
          = front.flatMap (fun g => g.text ++ [':']) ++ ':' :: groupsText back last := by
  induction gs with
  | nil =>
    refine .inl ?_
    rw [groupsText, List.flatMap_nil, List.nil_append, compressZeros_last]
  | cons g gs ih =>
    by_cases hrun : zeroRun.isPrefixOf (groupsText (g :: gs) last) = true
    · right
      obtain ⟨gs', hgs'⟩ := (isPrefixOf_zeroRun _ _).mp hrun
      obtain ⟨n, back, hsplit, hdrop, hback⟩ := dropZeroGroups_groups (g :: gs) last
      -- the run has at least two groups
      obtain ⟨n, rfl⟩ : ∃ k, n = k + 2 := by
        rcases n with _ | _ | k
        · rw [hgs'] at hsplit
          have hhead : back = (0, 0) :: (0, 0) :: gs' := by simpa using hsplit.symm
          exact absurd rfl (hback (0, 0) (by rw [hhead]; rfl))
        · rw [hgs'] at hsplit
          have hhead : back = (0, 0) :: gs' := by simpa using hsplit.symm
          exact absurd rfl (hback (0, 0) (by rw [hhead]; rfl))
        · exact ⟨k, rfl⟩
      refine ⟨[], n, back, hsplit, ?_⟩
      obtain ⟨a, b, c, d, htext, -⟩ := text_eq g
      have hcons : groupsText (g :: gs) last = a :: (b :: c :: d :: ':' :: groupsText gs last) := by
        rw [groupsText_cons, htext]
        rfl
      rw [hcons] at hrun hdrop ⊢
      rw [compressZeros, if_pos hrun, hdrop]
      rfl
    · rw [Bool.not_eq_true] at hrun
      rw [groupsText_cons] at hrun ⊢
      rw [compressZeros_text g _ hrun]
      rcases ih with hsame | ⟨front, n, back, rfl, hcompressed⟩
      · exact .inl (by rw [hsame])
      · refine .inr ⟨g :: front, n, back, by simp, ?_⟩
        rw [hcompressed, List.flatMap_cons]
        simp

/-- The address does not start with two zero groups. -/
def NoLeadingZeros (address : Vector UInt8 16) : Prop :=
  ¬ ((address[0], address[1]) = ((0, 0) : Group) ∧ (address[2], address[3]) = ((0, 0) : Group))

/-- The groups of an address are its bytes. -/
theorem groups_bytes (address : Vector UInt8 16) :
    (frontGroups address ++ [lastGroup address]).flatMap Group.bytes = address.toList := by
  obtain ⟨⟨bytes⟩, hlength⟩ := address
  match bytes, hlength with
  | [_, _, _, _, _, _, _, _, _, _, _, _, _, _, _, _], _ => rfl

/-- **An IPv6 address is read back from its text if it does not start with two
zero groups.** -/
theorem readIpv6Host_print {address : Vector UInt8 16} (h : NoLeadingZeros address) :
    readIpv6HostFromString (printIpv6Address address) = some address := by
  have hread : inetPton6 (printIpv6Address address) = some address.toList := by
    rw [printIpv6Address, ← groups_bytes]
    rcases compressZeros_groups (frontGroups address) (lastGroup address) with
      hsame | ⟨front, n, back, hsplit, hcompressed⟩
    · rw [hsame]
      exact inetPton6_groups rfl _
    · have hcount : front.length + (n + 2) + back.length = 7 := by
        have hlength := congrArg List.length hsplit
        simp only [List.length_append, List.length_replicate] at hlength
        exact hlength.symm
      have hfront : front ≠ [] := by
        rintro rfl
        refine h ?_
        rw [frontGroups, List.nil_append, List.replicate_succ, List.replicate_succ,
          List.cons_append, List.cons_append, List.cons.injEq, List.cons.injEq] at hsplit
        exact ⟨hsplit.1, hsplit.2.1⟩
      have hzeros : (List.replicate (n + 2) ((0, 0) : Group)).flatMap Group.bytes
          = List.replicate (14 - 2 * (front.length + back.length)) 0 := by
        rw [show 14 - 2 * (front.length + back.length) = 2 * (n + 2) by omega]
        clear hcount hcompressed hsplit
        generalize n + 2 = k
        induction k with
        | zero => rfl
        | succ k ih =>
          rw [List.replicate_succ, List.flatMap_cons, ih, Nat.mul_succ, Nat.add_comm,
            List.replicate_add]
          rfl
      rw [hcompressed, inetPton6_compressed hfront (by omega), hsplit, ← hzeros]
      simp [List.flatMap_append]
  rw [readIpv6HostFromString, hread]
  obtain ⟨⟨bytes⟩, hlength⟩ := address
  simp only [Option.bind_eq_bind, Option.bind_some]
  exact dif_pos hlength

theorem mem_printIpv6Address {address : Vector UInt8 16} {c : Char}
    (h : c ∈ printIpv6Address address) : c = ':' ∨ ∃ n < 16, c = Nat.digitChar n := by
  rw [printIpv6Address] at h
  rcases compressZeros_groups (frontGroups address) (lastGroup address) with
    hsame | ⟨front, n, back, -, hcompressed⟩
  · rw [hsame] at h
    exact mem_groupsText h
  · rw [hcompressed, List.mem_append, List.mem_flatMap, List.mem_cons] at h
    rcases h with ⟨g, -, hg⟩ | rfl | h
    · rcases List.mem_append.mp hg with hg | hg
      · exact .inr (mem_text hg)
      · exact .inl (List.mem_singleton.mp hg)
    · exact .inl rfl
    · exact mem_groupsText h

/-- The text of an address has a colon. -/
theorem colon_mem_printIpv6Address (address : Vector UInt8 16) : ':' ∈ printIpv6Address address := by
  rw [printIpv6Address]
  rcases compressZeros_groups (frontGroups address) (lastGroup address) with
    hsame | ⟨front, n, back, -, hcompressed⟩
  · rw [hsame, frontGroups, groupsText_cons]
    simp
  · rw [hcompressed]
    simp

/-- **An IPv6 subnet is read back from its text** if its address is, and its
length fits an `int`. -/
theorem readIpv6_convert {subnet : SubnetIpv6CidrMask} (haddress : NoLeadingZeros subnet.subnetAddress)
    (hlength : subnet.cidrPrefixLength.toNat ≤ 2147483647) :
    readIpv6SubnetFromString (convertIpv6SubnetToString subnet) = some subnet := by
  have hfront : ∀ c ∈ printIpv6Address subnet.subnetAddress, (decide (c = '/')) = false := by
    intro c hc
    rw [decide_eq_false_iff_not]
    rcases mem_printIpv6Address hc with rfl | ⟨n, hn, rfl⟩
    · decide
    · exact (digitChar_ne n hn).2.2
  have hback : ∀ c ∈ decimal subnet.cidrPrefixLength.toNat, (decide (c = '/')) = false := by
    intro c hc
    rw [decide_eq_false_iff_not]
    rintro rfl
    exact absurd (isDigit_of_mem_decimal hc) (by decide)
  rw [readIpv6SubnetFromString, convertIpv6SubnetToString,
    splitCompress_pair hfront hback (by decide)]
  simp only [stoi_decimal hlength, readIpv6Host_print haddress, ofInt32_natCast, UInt32.ofNat_toNat,
    Option.bind_eq_bind, Option.bind_some]

end FastNetMon
