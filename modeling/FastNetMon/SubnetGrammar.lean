/-
FastNetMon/SubnetGrammar.lean

IPv4 subnets of the configuration
(`convert_subnet_from_string_to_binary_with_cidr_format_safe`).

The regular expression sees the text up to its first null character and asks for four numbers
and a length; `inet_aton` takes the numbers, a leading zero meaning octal, and bounds them;
`std::stoi` takes the length, and bounds it by the range of an `int` only.  What is accepted is
described by `AcceptedSubnet` (`readIpv4_eq_some_iff`).  Main result: every subnet that a text
is accepted for can be masked and encoded exactly if its length is at most 32 and the text
has no null character (`accepted_subnets_usable_iff`).
-/
import FastNetMon.PrefixEncoding
import FastNetMon.SubnetText
import FastNetMon.TextGrammar

namespace FastNetMon

open Memory

/-! ### The regular expression -/

theorem skipNumber_eq_some_iff {s t : Text} (ht : ∀ c ∈ t.head?, c.isDigit = false) :
    skipNumber s = some t ↔ ∃ digits, IsDigits digits ∧ s = digits ++ t := by
  constructor
  · intro h
    obtain ⟨c, digits, hs, hdigits⟩ := skipNumber_eq_some h
    exact ⟨c :: digits, ⟨List.cons_ne_nil c digits, hdigits⟩, hs⟩
  · rintro ⟨digits, hdigits, rfl⟩
    obtain ⟨c, digits', rfl, hc⟩ := hdigits.exists_cons
    rw [skipNumber, if_pos (by simpa using hc), List.dropWhile_append_of_pos hdigits.2]
    cases t with
    | nil => rfl
    | cons d t => rw [List.dropWhile_cons_of_neg (by simp [ht d rfl])]

/-- A number behind which a character stands. -/
theorem skipNumber_skipChar_iff {d : Char} (hd : d.isDigit = false) {s t : Text} :
    ((skipNumber s).bind (skipChar d)) = some t ↔
      ∃ digits, IsDigits digits ∧ s = digits ++ d :: t := by
  rw [Option.bind_eq_some_iff]
  constructor
  · rintro ⟨u, hu, ht⟩
    obtain rfl := skipChar_eq_some ht
    exact (skipNumber_eq_some_iff (by simpa using hd)).mp hu
  · intro h
    exact ⟨d :: t, (skipNumber_eq_some_iff (by simpa using hd)).mpr h, skipChar_cons d t⟩

/-- Four numbers with dots between them, a slash and a number. -/
def cidrText (a b c d length : Text) : Text :=
  a ++ '.' :: (b ++ '.' :: (c ++ '.' :: (d ++ '/' :: length)))

/-- **What the regular expression matches.** -/
theorem isCidrSubnet_iff {subnet : Text} :
    isCidrSubnet subnet = true ↔ ∃ a b c d length, cStr subnet = cidrText a b c d length ∧
      IsDigits a ∧ IsDigits b ∧ IsDigits c ∧ IsDigits d ∧ IsDigits length := by
  have hdot : '.'.isDigit = false := by decide
  have hslash : '/'.isDigit = false := by decide
  have hchain : isCidrSubnet subnet = true ↔ ∃ s₁ s₂ s₃ s₄,
      (skipNumber (cStr subnet)).bind (skipChar '.') = some s₁ ∧
      (skipNumber s₁).bind (skipChar '.') = some s₂ ∧
      (skipNumber s₂).bind (skipChar '.') = some s₃ ∧
      (skipNumber s₃).bind (skipChar '/') = some s₄ ∧ skipNumber s₄ = some [] := by
    simp only [isCidrSubnet, beq_iff_eq, Option.bind_eq_bind, Option.bind_eq_some_iff]
    constructor
    · rintro ⟨t₁, h₁, s₁, hs₁, t₂, h₂, s₂, hs₂, t₃, h₃, s₃, hs₃, t₄, h₄, s₄, hs₄, h₅⟩
      exact ⟨s₁, s₂, s₃, s₄, ⟨t₁, h₁, hs₁⟩, ⟨t₂, h₂, hs₂⟩, ⟨t₃, h₃, hs₃⟩, ⟨t₄, h₄, hs₄⟩, h₅⟩
    · rintro ⟨s₁, s₂, s₃, s₄, ⟨t₁, h₁, hs₁⟩, ⟨t₂, h₂, hs₂⟩, ⟨t₃, h₃, hs₃⟩, ⟨t₄, h₄, hs₄⟩, h₅⟩
      exact ⟨t₁, h₁, s₁, hs₁, t₂, h₂, s₂, hs₂, t₃, h₃, s₃, hs₃, t₄, h₄, s₄, hs₄, h₅⟩
  have hlast : ∀ s, skipNumber s = some [] ↔ IsDigits s := by
    intro s
    rw [skipNumber_eq_some_iff (by simp)]
    constructor
    · rintro ⟨digits, hdigits, rfl⟩
      rwa [List.append_nil]
    · intro h
      exact ⟨s, h, (List.append_nil s).symm⟩
  rw [hchain]
  simp only [skipNumber_skipChar_iff hdot, skipNumber_skipChar_iff hslash, hlast, cidrText]
  constructor
  · rintro ⟨s₁, s₂, s₃, s₄, ⟨a, ha, hs⟩, ⟨b, hb, rfl⟩, ⟨c, hc, rfl⟩, ⟨d, hd, rfl⟩, hlength⟩
    exact ⟨a, b, c, d, s₄, hs, ha, hb, hc, hd, hlength⟩
  · rintro ⟨a, b, c, d, length, hs, ha, hb, hc, hd, hlength⟩
    exact ⟨_, _, _, length, ⟨a, ha, hs⟩, ⟨b, hb, rfl⟩, ⟨c, hc, rfl⟩, ⟨d, hd, rfl⟩, hlength⟩

/-! ### `inet_aton` -/

/-- An octal digit. -/
def isOctalDigit (c : Char) : Bool := c.isDigit && c < '8'

/-- The number that `inet_aton` takes digits for: a leading zero means octal. -/
def inetOctet (digits : Text) : ℕ :=
  if digits.head? = some '0' then Nat.ofDigitChars 8 digits 0 else Nat.ofDigitChars 10 digits 0

/-- Digits that `inet_aton` takes for one of four parts. -/
structure IsOctet (digits : Text) : Prop where
  isDigits : IsDigits digits
  octal : digits.head? = some '0' → ∀ c ∈ digits, isOctalDigit c = true
  le : inetOctet digits ≤ 255

/-- Digits behind which something else stands, as `strtoul` reads them. -/
theorem strtoul_digits {digits t : Text} (h : IsDigits digits)
    (ht : ∀ c ∈ t.head?, c.isDigit = false ∧ c ≠ 'x' ∧ c ≠ 'X') :
    strtoul (digits ++ t) = if digits.head? = some '0' then
        (Nat.ofDigitChars 8 (digits.takeWhile isOctalDigit) 0,
          digits.dropWhile isOctalDigit ++ t)
      else (Nat.ofDigitChars 10 digits 0, t) := by
  have htake : ∀ p : Char → Bool, (∀ c ∈ t.head?, p c = false) →
      t.takeWhile p = [] ∧ t.dropWhile p = t := by
    intro p hp
    cases t with
    | nil => exact ⟨rfl, rfl⟩
    | cons c t =>
      have hc : ¬ p c = true := by simp [hp c rfl]
      exact ⟨List.takeWhile_cons_of_neg hc, List.dropWhile_cons_of_neg hc⟩
  obtain ⟨c, digits', rfl, hc⟩ := h.exists_cons
  rw [strtoul, List.cons_append, List.head?_cons, List.head?_cons]
  by_cases hzero : some c = some '0'
  · rw [if_pos hzero, if_pos hzero]
    -- no digit is the x of a hexadecimal number
    have hx : ¬ (((c :: (digits' ++ t))[1]? = some 'x' ∨ (c :: (digits' ++ t))[1]? = some 'X') ∧
        (c :: (digits' ++ t))[2]?.any (fun c => (hexValue c).isSome)) := by
      rintro ⟨hx, -⟩
      rw [List.getElem?_cons_succ] at hx
      cases digits' with
      | nil =>
        rw [List.nil_append, ← List.head?_eq_getElem?] at hx
        exact hx.elim (fun hx => (ht 'x' hx).2.1 rfl) (fun hx => (ht 'X' hx).2.2 rfl)
      | cons d digits' =>
        have hd : d.isDigit = true := h.2 d (by simp)
        rw [List.cons_append, List.getElem?_cons_zero] at hx
        rcases hx with hx | hx <;> obtain rfl := Option.some.inj hx <;>
          exact absurd hd (by decide)
    rw [if_neg hx]
    obtain ⟨htaken, hdropped⟩ := htake isOctalDigit fun d hd => by
      rw [isOctalDigit, (ht d hd).1, Bool.false_and]
    have hoctal : (fun c : Char => c.isDigit && decide (c < '8')) = isOctalDigit := rfl
    rw [hoctal, ← List.cons_append, List.takeWhile_append, List.dropWhile_append, htaken, hdropped]
    by_cases hall : ((c :: digits').takeWhile isOctalDigit).length = (c :: digits').length
    · have hself : (c :: digits').takeWhile isOctalDigit = c :: digits' :=
        (List.takeWhile_prefix _).eq_of_length hall
      have hnil : (c :: digits').dropWhile isOctalDigit = [] :=
        List.dropWhile_eq_nil_iff.mpr (List.takeWhile_eq_self_iff.mp hself)
      rw [if_pos hall, hself, hnil]
      simp
    · rw [if_neg hall]
      have hne : (c :: digits').dropWhile isOctalDigit ≠ [] := by
        intro hnil
        exact hall (congrArg List.length
          (List.takeWhile_eq_self_iff.mpr (List.dropWhile_eq_nil_iff.mp hnil)))
      rw [if_neg (by simpa using hne)]
  · rw [if_neg hzero, if_neg hzero]
    obtain ⟨htaken, hdropped⟩ := htake Char.isDigit fun d hd => (ht d hd).1
    rw [← List.cons_append, List.takeWhile_append_of_pos h.2, List.dropWhile_append_of_pos h.2,
      htaken, hdropped, List.append_nil]

theorem IsDigits.head_isDigit {digits : Text} (h : IsDigits digits) (t : Text) :
    (digits ++ t).head?.any Char.isDigit = true := by
  obtain ⟨d, digits', rfl, hd⟩ := h.exists_cons
  simpa using hd

/-- What digits are the number of, and what `strtoul` leaves. -/
theorem strtoul_octet {digits t : Text} (h : IsDigits digits)
    (hoctal : digits.head? = some '0' → ∀ c ∈ digits, isOctalDigit c = true)
    (ht : ∀ c ∈ t.head?, c.isDigit = false ∧ c ≠ 'x' ∧ c ≠ 'X') :
    strtoul (digits ++ t) = (inetOctet digits, t) := by
  rw [strtoul_digits h ht, inetOctet]
  by_cases hzero : digits.head? = some '0'
  · have hall := hoctal hzero
    rw [if_pos hzero, if_pos hzero, List.takeWhile_eq_self_iff.mpr hall,
      List.dropWhile_eq_nil_iff.mpr hall, List.nil_append]
  · rw [if_neg hzero, if_neg hzero]

/-- An octal number with a digit that is none: `inet_aton` stops in front of it. -/
theorem inetAtonPart_not_octal {digits t : Text} (h : IsDigits digits)
    (hoctal : ¬ (digits.head? = some '0' → ∀ c ∈ digits, isOctalDigit c = true))
    (ht : ∀ c ∈ t.head?, c.isDigit = false ∧ c ≠ 'x' ∧ c ≠ 'X') (left front : ℕ)
    (next : ℕ → Text → Option ℕ) : inetAtonPart left front next (digits ++ t) = none := by
  obtain ⟨hzero, hnot⟩ := Classical.not_imp.mp hoctal
  have hne : digits.dropWhile isOctalDigit ≠ [] := fun hnil =>
    hnot (List.dropWhile_eq_nil_iff.mp hnil)
  obtain ⟨c, rest, hrest⟩ := List.exists_cons_of_ne_nil hne
  have hc : c.isDigit = true :=
    h.2 c ((List.dropWhile_sublist isOctalDigit).subset (by simp [hrest]))
  rw [inetAtonPart, if_pos (h.head_isDigit t), strtoul_digits h ht, if_pos hzero, hrest]
  simp only [List.cons_append, List.head?_cons]
  have hdot : ¬ some c = some '.' := by
    intro heq
    obtain rfl := Option.some.inj heq
    exact absurd hc (by decide)
  have hspace : ¬ ((some c).all isSpace = true ∧
      Nat.ofDigitChars 8 (digits.takeWhile isOctalDigit) 0 < 256 ^ (left + 1)) := by
    rintro ⟨hall, -⟩
    rw [Option.all_some, isSpace_of_isDigit hc] at hall
    exact Bool.false_ne_true hall
  rw [if_neg hdot]
  split
  · rfl
  · exact if_neg hspace

/-- A part of an address with a dot behind it. -/
theorem inetAtonParts_dot_iff {digits : Text} (h : IsDigits digits) (t : Text) (left front v : ℕ) :
    inetAtonParts (left + 1) front (digits ++ '.' :: t) = some v ↔
      IsOctet digits ∧ inetAtonParts left (front * 256 + inetOctet digits) t = some v := by
  have ht : ∀ c ∈ ('.' :: t).head?, c.isDigit = false ∧ c ≠ 'x' ∧ c ≠ 'X' := by simp
  by_cases hoctal : digits.head? = some '0' → ∀ c ∈ digits, isOctalDigit c = true
  · rw [inetAtonParts, inetAtonPart, if_pos (h.head_isDigit ('.' :: t)), strtoul_octet h hoctal ht]
    simp only [List.head?_cons, List.tail_cons, if_true]
    constructor
    · intro hsome
      split at hsome
      · exact absurd hsome (by simp)
      split at hsome
      · exact absurd hsome (by simp)
      · rename_i hle
        exact ⟨⟨h, hoctal, by omega⟩, hsome⟩
    · rintro ⟨hoctet, hsome⟩
      have hle := hoctet.le
      rw [if_neg (by omega), if_neg (by omega)]
      exact hsome
  · rw [inetAtonParts, inetAtonPart_not_octal h hoctal ht]
    constructor
    · intro hsome
      exact absurd hsome (by simp)
    · rintro ⟨hoctet, -⟩
      exact absurd hoctet.octal hoctal

/-- The last part of an address. -/
theorem inetAtonParts_last_iff {digits : Text} (h : IsDigits digits) (front v : ℕ) :
    inetAtonParts 0 front digits = some v ↔
      IsOctet digits ∧ front * 256 + inetOctet digits = v := by
  have ht : ∀ c ∈ ([] : Text).head?, c.isDigit = false ∧ c ≠ 'x' ∧ c ≠ 'X' := by simp
  by_cases hoctal : digits.head? = some '0' → ∀ c ∈ digits, isOctalDigit c = true
  · have hhead := h.head_isDigit []
    have hstrtoul := strtoul_octet h hoctal ht
    rw [List.append_nil] at hhead hstrtoul
    rw [inetAtonParts, inetAtonPart, if_pos hhead, hstrtoul]
    simp only [List.head?_nil, Option.all_none, true_and, zero_add, pow_one]
    constructor
    · intro hsome
      split at hsome
      · exact absurd hsome (by simp)
      split at hsome
      · rename_i hdot
        exact absurd hdot (by simp)
      split at hsome
      · rename_i hlt
        exact ⟨⟨h, hoctal, by omega⟩, Option.some.inj hsome⟩
      · exact absurd hsome (by simp)
    · rintro ⟨hoctet, hv⟩
      have hle := hoctet.le
      rw [if_neg (by omega), if_neg (by simp), if_pos (by omega), hv]
  · have hnone := inetAtonPart_not_octal h hoctal ht 0 front fun _ _ => none
    rw [List.append_nil] at hnone
    rw [inetAtonParts, hnone]
    constructor
    · intro hsome
      exact absurd hsome (by simp)
    · rintro ⟨hoctet, -⟩
      exact absurd hoctet.octal hoctal

/-- The address in front of the slash. -/
def addressText (a b c d : Text) : Text := a ++ '.' :: (b ++ '.' :: (c ++ '.' :: d))

theorem mem_addressText {a b c d : Text} (ha : IsDigits a) (hb : IsDigits b) (hc : IsDigits c)
    (hd : IsDigits d) {x : Char} (hx : x ∈ addressText a b c d) : x.isDigit = true ∨ x = '.' := by
  simp only [addressText, List.mem_append, List.mem_cons] at hx
  rcases hx with hx | hx | hx | hx | hx | hx | hx
  · exact .inl (ha.2 x hx)
  · exact .inr hx
  · exact .inl (hb.2 x hx)
  · exact .inr hx
  · exact .inl (hc.2 x hx)
  · exact .inr hx
  · exact .inl (hd.2 x hx)

/-- The word of four bytes, the first one lowest. -/
def octetsWord (a b c d : Text) : UInt32 :=
  byteSwap32 (.ofNat (((inetOctet a * 256 + inetOctet b) * 256 + inetOctet c) * 256 + inetOctet d))

/-- **What `inet_aton` takes of four numbers.** -/
theorem inetAton_iff {a b c d : Text} (ha : IsDigits a) (hb : IsDigits b) (hc : IsDigits c)
    (hd : IsDigits d) {w : UInt32} :
    inetAton (addressText a b c d) = some w ↔
      (IsOctet a ∧ IsOctet b ∧ IsOctet c ∧ IsOctet d) ∧ octetsWord a b c d = w := by
  have hstr : cStr (addressText a b c d) = addressText a b c d := by
    refine cStr_of_all ?_
    rintro x hx rfl
    exact absurd (mem_addressText ha hb hc hd hx) (by decide)
  rw [inetAton, hstr, Option.map_eq_some_iff, addressText]
  simp only [inetAtonParts_dot_iff ha, inetAtonParts_dot_iff hb, inetAtonParts_dot_iff hc,
    inetAtonParts_last_iff hd, zero_mul, zero_add]
  constructor
  · rintro ⟨v, ⟨hoa, hob, hoc, hod, rfl⟩, rfl⟩
    exact ⟨⟨hoa, hob, hoc, hod⟩, rfl⟩
  · rintro ⟨⟨hoa, hob, hoc, hod⟩, rfl⟩
    exact ⟨_, ⟨hoa, hob, hoc, hod, rfl⟩, rfl⟩

/-! ### What is accepted -/

/-- A text that is accepted: four numbers that `inet_aton` takes, a length that `std::stoi`
takes, and whatever comes behind a null character. -/
structure AcceptedSubnet where
  a : Text
  b : Text
  c : Text
  d : Text
  length : Text
  rest : Text
  isOctet_a : IsOctet a
  isOctet_b : IsOctet b
  isOctet_c : IsOctet c
  isOctet_d : IsOctet d
  isDigits_length : IsDigits length
  length_le : Nat.ofDigitChars 10 length 0 ≤ 2147483647
  rest_head : ∀ x ∈ rest.head?, x = '\x00'
  slash_notMem : '/' ∉ rest

namespace AcceptedSubnet

variable (t : AcceptedSubnet)

/-- The text itself. -/
def text : Text := cidrText t.a t.b t.c t.d (t.length ++ t.rest)

/-- The length as a number. -/
def prefixLength : ℕ := Nat.ofDigitChars 10 t.length 0

/-- The network that is read from it. -/
def subnet : SubnetCidrMask := ⟨octetsWord t.a t.b t.c t.d, .ofNat t.prefixLength⟩

end AcceptedSubnet

theorem cidrText_eq (a b c d length : Text) :
    cidrText a b c d length = addressText a b c d ++ '/' :: length := by
  simp [cidrText, addressText]

theorem cidrText_append (a b c d length rest : Text) :
    cidrText a b c d length ++ rest = cidrText a b c d (length ++ rest) := by
  simp [cidrText]

/-- The length that `std::stoi` takes: the digits in front of the null character. -/
theorem stoi_length_iff {length rest : Text} (h : IsDigits length)
    (hrest : ∀ x ∈ rest.head?, x = '\x00') {n : ℤ} :
    stoi (length ++ rest) = some n ↔
      Nat.ofDigitChars 10 length 0 ≤ 2147483647 ∧ (Nat.ofDigitChars 10 length 0 : ℤ) = n := by
  have htake : (length ++ rest).takeWhile Char.isDigit = length := by
    rw [List.takeWhile_append_of_pos h.2]
    cases rest with
    | nil => simp
    | cons x rest =>
      obtain rfl := hrest x rfl
      simp
  have hnumber : leadingNumber (length ++ rest) = some (Nat.ofDigitChars 10 length 0) := by
    rw [leadingNumber, htake, if_neg h.1]
  obtain ⟨x, digits, rfl, hx⟩ := h.exists_cons
  rw [List.cons_append] at hnumber ⊢
  rw [stoi_of_isDigit hx, hnumber, Option.bind_some, Option.ite_none_right_eq_some,
    Option.some.injEq]

/-- A text and what stands behind its first null character. -/
theorem exists_rest (s : Text) :
    ∃ rest, s = cStr s ++ rest ∧ ∀ x ∈ rest.head?, x = '\x00' := by
  refine ⟨s.dropWhile (· ≠ '\x00'), List.takeWhile_append_dropWhile.symm, ?_⟩
  intro x hx
  have hhead := List.head?_dropWhile_not (fun x : Char => decide (x ≠ '\x00')) s
  rw [Option.mem_def.mp hx] at hhead
  simpa using hhead

/-- The two tokens of a text that the regular expression matches. -/
theorem split_cidrText {a b c d length rest : Text} (ha : IsDigits a) (hb : IsDigits b)
    (hc : IsDigits c) (hd : IsDigits d) (hlength : IsDigits length) {token token' : Text} :
    splitCompress (· = '/') (cidrText a b c d (length ++ rest)) = [token, token'] ↔
      '/' ∉ rest ∧ token = addressText a b c d ∧ token' = length ++ rest := by
  have haddress : ∀ x ∈ addressText a b c d, decide (x = '/') = false := by
    intro x hx
    rw [decide_eq_false_iff_not]
    rintro rfl
    exact absurd (mem_addressText ha hb hc hd hx) (by decide)
  have hdigits : ∀ x ∈ length, decide (x = '/') = false := by
    intro x hx
    rw [decide_eq_false_iff_not]
    rintro rfl
    exact absurd (hlength.2 _ hx) (by decide)
  have hslash : ∀ {s : Text}, '/' ∉ s ↔ ∀ x ∈ s, decide (x = '/') = false := by
    intro s
    simp only [decide_eq_false_iff_not]
    exact ⟨fun h x hx heq => h (heq ▸ hx), fun h hx => h _ hx rfl⟩
  rw [cidrText_eq, splitCompress, splitTokens_append haddress (by decide)]
  constructor
  · intro h
    obtain ⟨rfl, hsingle⟩ := List.cons.inj h
    obtain ⟨delimiters, hlengthRest, hdelimiters, htoken'⟩ := splitTokens_eq_singleton hsingle
    -- the length starts with a digit, which is no slash
    obtain rfl : delimiters = [] := by
      obtain ⟨x, digits, rfl, hx⟩ := hlength.exists_cons
      cases delimiters with
      | nil => rfl
      | cons y delimiters =>
        obtain rfl : y = '/' := of_decide_eq_true (hdelimiters y List.mem_cons_self)
        obtain rfl := (List.cons.inj hlengthRest).1
        exact absurd hx (by decide)
    rw [List.nil_append] at hlengthRest
    refine ⟨hslash.mpr fun x hx => htoken' x ?_, rfl, hlengthRest.symm⟩
    rw [← hlengthRest]
    exact List.mem_append_right length hx
  · rintro ⟨hrest, rfl, rfl⟩
    rw [splitTokens_of_all]
    intro x hx
    rcases List.mem_append.mp hx with hx | hx
    · exact hdigits x hx
    · exact hslash.mp hrest x hx

/-- **What is accepted, and for which subnet.** -/
theorem readIpv4_eq_some_iff {s : Text} {subnet : SubnetCidrMask} :
    convertSubnetFromStringToBinaryWithCidrFormatSafe s = some subnet ↔
      ∃ t : AcceptedSubnet, t.text = s ∧ t.subnet = subnet := by
  rw [convertSubnetFromStringToBinaryWithCidrFormatSafe]
  constructor
  · intro h
    split at h
    · exact absurd h (by simp)
    split at h
    · exact absurd h (by simp)
    rename_i hcidr
    obtain ⟨a, b, c, d, length, hstr, ha, hb, hc, hd, hlength⟩ :=
      isCidrSubnet_iff.mp (by simpa using hcidr)
    obtain ⟨rest, hs, hrest⟩ := exists_rest s
    rw [hstr, cidrText_append] at hs
    split at h
    · rename_i token token' hsplit
      rw [hs, split_cidrText ha hb hc hd hlength] at hsplit
      obtain ⟨hslash, rfl, rfl⟩ := hsplit
      simp only [Option.bind_eq_bind, Option.bind_eq_some_iff, convertIpAsStringToUintSafe] at h
      obtain ⟨w, hw, n, hn, hsubnet⟩ := h
      obtain rfl := Option.some.inj hsubnet
      obtain ⟨⟨hoa, hob, hoc, hod⟩, rfl⟩ := (inetAton_iff ha hb hc hd).mp hw
      obtain ⟨hle, rfl⟩ := (stoi_length_iff hlength hrest).mp hn
      refine ⟨⟨a, b, c, d, length, rest, hoa, hob, hoc, hod, hlength, hle, hrest, hslash⟩,
        hs.symm, ?_⟩
      rw [AcceptedSubnet.subnet, ofInt32_natCast]
      rfl
    · exact absurd h (by simp)
  · rintro ⟨t, rfl, rfl⟩
    have ha := t.isOctet_a.isDigits
    have hb := t.isOctet_b.isDigits
    have hc := t.isOctet_c.isDigits
    have hd := t.isOctet_d.isDigits
    have hne : t.text ≠ [] := by
      rw [AcceptedSubnet.text, cidrText]
      simp
    have hstr : cStr t.text = cidrText t.a t.b t.c t.d t.length := by
      have hall : ∀ x ∈ cidrText t.a t.b t.c t.d t.length, decide (x ≠ '\x00') = true := by
        intro x hx
        rw [decide_eq_true_eq]
        rintro rfl
        rw [cidrText_eq, List.mem_append, List.mem_cons] at hx
        rcases hx with hx | hx | hx
        · exact absurd (mem_addressText ha hb hc hd hx) (by decide)
        · exact absurd hx (by decide)
        · exact absurd (t.isDigits_length.2 _ hx) (by decide)
      rw [AcceptedSubnet.text, ← cidrText_append, cStr, List.takeWhile_append_of_pos hall]
      have hrest := t.rest_head
      cases hr : t.rest with
      | nil => simp
      | cons x rest =>
        rw [hr] at hrest
        simp [hrest x rfl]
    have hcidr : isCidrSubnet t.text = true :=
      isCidrSubnet_iff.mpr ⟨_, _, _, _, _, hstr, ha, hb, hc, hd, t.isDigits_length⟩
    have hsplit : splitCompress (· = '/') (cidrText t.a t.b t.c t.d (t.length ++ t.rest))
        = [addressText t.a t.b t.c t.d, t.length ++ t.rest] :=
      (split_cidrText ha hb hc hd t.isDigits_length).mpr ⟨t.slash_notMem, rfl, rfl⟩
    have haddress := (inetAton_iff ha hb hc hd).mpr
      ⟨⟨t.isOctet_a, t.isOctet_b, t.isOctet_c, t.isOctet_d⟩, rfl⟩
    have hlength := (stoi_length_iff t.isDigits_length t.rest_head).mpr ⟨t.length_le, rfl⟩
    rw [if_neg hne, if_neg (by simp [hcidr]), AcceptedSubnet.text, hsplit]
    simp only [convertIpAsStringToUintSafe, haddress, hlength, Option.bind_eq_bind,
      Option.bind_some, ofInt32_natCast]
    rfl

/-! ### What it is used for -/

/-- The count of the shift in `convert_cidr_to_binary_netmask`. -/
def netmaskShift (cidr : UInt32) : UInt32 := 32 - cidr

theorem convertCidrToBinaryNetmask_eq {cidr : UInt32} (h : cidr ≠ 0) :
    convertCidrToBinaryNetmask cidr = byteSwap32 (0xFFFFFFFF <<< netmaskShift cidr) := by
  rw [convertCidrToBinaryNetmask, if_neg h, netmaskShift]

/-- Numbers of an address that are read in decimal, with leading zeros or without. -/
def decimalOctet (digits : Text) : ℕ := Nat.ofDigitChars 10 digits 0

/-- The text has the form `a.b.c.d/n` with numbers of at most 255, read as `octet` says, and a
length of at most 32, and the subnet is this address with this length. -/
def SaysSubnet (octet : Text → ℕ) (s : Text) (subnet : SubnetCidrMask) : Prop :=
  ∃ a b c d length, s = cidrText a b c d length ∧
    (IsDigits a ∧ IsDigits b ∧ IsDigits c ∧ IsDigits d ∧ IsDigits length) ∧
    (octet a ≤ 255 ∧ octet b ≤ 255 ∧ octet c ≤ 255 ∧ octet d ≤ 255) ∧
    Nat.ofDigitChars 10 length 0 ≤ 32 ∧
    (bytes32 subnet.subnetAddress).map UInt8.toNat = [octet a, octet b, octet c, octet d] ∧
    subnet.cidrPrefixLength.toNat = Nat.ofDigitChars 10 length 0

/-- A text that says the subnet it is accepted for, which can be masked and encoded. -/
structure Usable (behind : ℕ → UInt8) (octet : Text → ℕ) (s : Text) (subnet : SubnetCidrMask) :
    Prop where
  form : SaysSubnet octet s subnet
  shift_le : subnet.cidrPrefixLength ≠ 0 → netmaskShift subnet.cidrPrefixLength ≤ 31
  decodes : ∃ decoded parsed, decodeBgpSubnetEncodingIpv4
    (ofBytes (encodeBgpSubnetEncoding behind subnet).data)
    (encodeBgpSubnetEncoding behind subnet).data.length 0 = .ok (decoded, parsed)

variable {behind : ℕ → UInt8} {octet : Text → ℕ}

/-- Digits in front of one character are determined by the whole. -/
theorem digits_append_inj {x y s t : Text} {p : Char} (hx : IsDigits x) (hy : IsDigits y)
    (hp : p.isDigit = false) (h : x ++ p :: s = y ++ p :: t) : x = y ∧ s = t := by
  have htake : ∀ {x s : Text}, IsDigits x → (x ++ p :: s).takeWhile Char.isDigit = x := by
    intro x s hx
    rw [List.takeWhile_append_of_pos hx.2, List.takeWhile_cons_of_neg (by simp [hp]),
      List.append_nil]
  have hxy : x = y := by rw [← htake hx (s := s), h, htake hy]
  subst hxy
  exact ⟨rfl, (List.cons.inj (List.append_cancel_left h)).2⟩

theorem cidrText_inj {a b c d s a' b' c' d' s' : Text} (ha : IsDigits a) (hb : IsDigits b)
    (hc : IsDigits c) (hd : IsDigits d) (ha' : IsDigits a') (hb' : IsDigits b')
    (hc' : IsDigits c') (hd' : IsDigits d') (h : cidrText a b c d s = cidrText a' b' c' d' s') :
    (a = a' ∧ b = b' ∧ c = c' ∧ d = d') ∧ s = s' := by
  have hdot : '.'.isDigit = false := by decide
  obtain ⟨haa, h⟩ := digits_append_inj ha ha' hdot h
  obtain ⟨hbb, h⟩ := digits_append_inj hb hb' hdot h
  obtain ⟨hcc, h⟩ := digits_append_inj hc hc' hdot h
  obtain ⟨hdd, h⟩ := digits_append_inj hd hd' (by decide) h
  exact ⟨⟨haa, hbb, hcc, hdd⟩, h⟩

/-- The bytes of an address are its numbers. -/
theorem bytes_octetsWord {a b c d : Text} (ha : inetOctet a ≤ 255) (hb : inetOctet b ≤ 255)
    (hc : inetOctet c ≤ 255) (hd : inetOctet d ≤ 255) :
    (bytes32 (octetsWord a b c d)).map UInt8.toNat
      = [inetOctet a, inetOctet b, inetOctet c, inetOctet d] := by
  have hlt : ((inetOctet a * 256 + inetOctet b) * 256 + inetOctet c) * 256 + inetOctet d
      < UInt32.size := by
    simp only [UInt32.size]
    omega
  rw [octetsWord, bytes32_byteSwap32, bytes32]
  simp only [List.reverse_cons, List.reverse_nil, List.nil_append, List.cons_append, List.map_cons,
    List.map_nil, toNat_byteOf32, UInt32.toNat_ofNat_of_lt' hlt, List.cons.injEq, and_true]
  omega

namespace AcceptedSubnet

variable (t : AcceptedSubnet)

theorem subnet_length : t.subnet.cidrPrefixLength.toNat = t.prefixLength := by
  have hle := t.length_le
  rw [subnet, UInt32.toNat_ofNat_of_lt' (by simp only [UInt32.size, prefixLength]; omega)]

/-- The numbers of the address read as `octet` says are those that `inet_aton` takes. -/
def AgreesOn (octet : Text → ℕ) : Prop :=
  octet t.a = inetOctet t.a ∧ octet t.b = inetOctet t.b ∧ octet t.c = inetOctet t.c ∧
    octet t.d = inetOctet t.d

/-- A text that says its subnet has nothing behind a null character, and a length that fits. -/
theorem of_saysSubnet {t : AcceptedSubnet} (h : SaysSubnet octet t.text t.subnet) :
    t.rest = [] ∧ t.prefixLength ≤ 32 ∧ t.AgreesOn octet := by
  obtain ⟨a, b, c, d, length, htext, ⟨ha, hb, hc, hd, hlength⟩, -, hle, hbytes, hprefix⟩ := h
  obtain ⟨⟨haa, hbb, hcc, hdd⟩, hrest⟩ := cidrText_inj t.isOctet_a.isDigits t.isOctet_b.isDigits
    t.isOctet_c.isDigits t.isOctet_d.isDigits ha hb hc hd htext
  refine ⟨?_, ?_, ?_⟩
  · cases hr : t.rest with
    | nil => rfl
    | cons x rest =>
      have hx : x = '\x00' := t.rest_head x (by simp [hr])
      have hmem : x ∈ length := by
        rw [← hrest, hr]
        simp
      rw [hx] at hmem
      exact absurd (hlength.2 _ hmem) (by decide)
  · rw [← t.subnet_length, hprefix]
    exact hle
  · rw [subnet, bytes_octetsWord t.isOctet_a.le t.isOctet_b.le t.isOctet_c.le t.isOctet_d.le,
      ← haa, ← hbb, ← hcc, ← hdd] at hbytes
    simp only [List.cons.injEq, and_true] at hbytes
    exact ⟨hbytes.1.symm, hbytes.2.1.symm, hbytes.2.2.1.symm, hbytes.2.2.2.symm⟩

/-- An accepted text whose length fits is usable. -/
theorem usable {t : AcceptedSubnet} (hrest : t.rest = []) (hle : t.prefixLength ≤ 32)
    (hagrees : t.AgreesOn octet) : Usable behind octet t.text t.subnet := by
  obtain ⟨ha, hb, hc, hd⟩ := hagrees
  have hfits : FitsIpv4 t.subnet := by
    rw [FitsIpv4, UInt32.le_iff_toNat_le, t.subnet_length]
    exact hle
  refine ⟨⟨t.a, t.b, t.c, t.d, t.length, ?_, ⟨t.isOctet_a.isDigits, t.isOctet_b.isDigits,
    t.isOctet_c.isDigits, t.isOctet_d.isDigits, t.isDigits_length⟩, ?_, hle, ?_,
    t.subnet_length⟩, ?_, ?_⟩
  · rw [text, hrest, List.append_nil]
  · rw [ha, hb, hc, hd]
    exact ⟨t.isOctet_a.le, t.isOctet_b.le, t.isOctet_c.le, t.isOctet_d.le⟩
  · rw [ha, hb, hc, hd]
    exact bytes_octetsWord t.isOctet_a.le t.isOctet_b.le t.isOctet_c.le t.isOctet_d.le
  · intro hne
    have hlow := hfits.toNat_le
    have hpos : 0 < t.subnet.cidrPrefixLength.toNat := by
      rw [Nat.pos_iff_ne_zero]
      intro hzero
      exact hne (UInt32.toNat_inj.mp hzero)
    rw [UInt32.le_iff_toNat_le, netmaskShift, UInt32.toNat_sub_of_le _ _ hfits]
    simp only [UInt32.toNat_ofNat]
    omega
  · obtain ⟨decoded, parsed, hdecoded, -⟩ := canonicalIpv4 behind hfits
    exact ⟨decoded, parsed, hdecoded⟩

end AcceptedSubnet

/-- What is accepted is usable, its numbers read as `octet` says. -/
theorem usable_iff (behind : ℕ → UInt8) (octet : Text → ℕ) (s : Text) :
    (∀ subnet, convertSubnetFromStringToBinaryWithCidrFormatSafe s = some subnet →
        Usable behind octet s subnet) ↔
      ∀ t : AcceptedSubnet, t.text = s →
        t.rest = [] ∧ t.prefixLength ≤ 32 ∧ t.AgreesOn octet := by
  constructor
  · rintro h t rfl
    exact AcceptedSubnet.of_saysSubnet (h _ (readIpv4_eq_some_iff.mpr ⟨t, rfl, rfl⟩)).form
  · intro h subnet hsubnet
    obtain ⟨t, rfl, rfl⟩ := readIpv4_eq_some_iff.mp hsubnet
    obtain ⟨hrest, hle, hagrees⟩ := h t rfl
    exact AcceptedSubnet.usable hrest hle hagrees

/-! ### Leading zeros -/

theorem ofDigitChars_octal_le (digits : Text) :
    Nat.ofDigitChars 8 digits 0 ≤ Nat.ofDigitChars 10 digits 0 := by
  induction digits using List.reverseRecOn with
  | nil => exact le_rfl
  | append_singleton digits c ih =>
    simp only [Nat.ofDigitChars_append, Nat.ofDigitChars_cons, Nat.ofDigitChars_nil]
    omega

/-- An octal number is the decimal one with the same digits if it has one digit. -/
theorem ofDigitChars_octal_eq_iff {digits : Text} (h : ∀ c ∈ digits, isOctalDigit c = true) :
    Nat.ofDigitChars 8 digits 0 = Nat.ofDigitChars 10 digits 0 ↔
      Nat.ofDigitChars 10 digits 0 < 8 := by
  induction digits using List.reverseRecOn with
  | nil => decide
  | append_singleton digits c _ =>
    have hle := ofDigitChars_octal_le digits
    have hc := h c (by simp)
    rw [isOctalDigit, Bool.and_eq_true, decide_eq_true_eq, Char.lt_def] at hc
    have hlt : c.toNat - '0'.toNat < 8 := by
      have htoNat : c.toNat < '8'.toNat := hc.2
      have height : '8'.toNat = '0'.toNat + 8 := by decide
      have hzero : '0'.toNat = 48 := by decide
      omega
    simp only [Nat.ofDigitChars_append, Nat.ofDigitChars_cons, Nat.ofDigitChars_nil]
    omega

/-- No number of the address that is 8 or more starts with a zero. -/
def AcceptedSubnet.NoOctal (t : AcceptedSubnet) : Prop :=
  ∀ digits ∈ [t.a, t.b, t.c, t.d], digits.head? = some '0' → decimalOctet digits < 8

theorem decimalOctet_eq_iff {digits : Text} (h : IsOctet digits) :
    decimalOctet digits = inetOctet digits ↔
      (digits.head? = some '0' → decimalOctet digits < 8) := by
  rw [inetOctet, decimalOctet]
  by_cases hzero : digits.head? = some '0'
  · rw [if_pos hzero, eq_comm, ofDigitChars_octal_eq_iff (h.octal hzero)]
    simp [hzero]
  · rw [if_neg hzero]
    simp [hzero]

theorem AcceptedSubnet.agreesOn_decimalOctet_iff (t : AcceptedSubnet) :
    t.AgreesOn decimalOctet ↔ t.NoOctal := by
  rw [AgreesOn, NoOctal, decimalOctet_eq_iff t.isOctet_a, decimalOctet_eq_iff t.isOctet_b,
    decimalOctet_eq_iff t.isOctet_c, decimalOctet_eq_iff t.isOctet_d]
  simp only [List.forall_mem_cons, List.not_mem_nil, false_imp_iff, implies_true, and_true]

/-- **Accepted subnets are usable exactly if their length fits**, and nothing stands behind a
null character.  That is so with the numbers of the address in the notation of `inet_aton`;
read in decimal, a number of 8 or more must not start with a zero either. -/
theorem accepted_subnets_usable_iff (behind : ℕ → UInt8) (s : Text) :
    ((∀ subnet, convertSubnetFromStringToBinaryWithCidrFormatSafe s = some subnet →
        Usable behind inetOctet s subnet) ↔
      ∀ t : AcceptedSubnet, t.text = s → t.rest = [] ∧ t.prefixLength ≤ 32) ∧
    ((∀ subnet, convertSubnetFromStringToBinaryWithCidrFormatSafe s = some subnet →
        Usable behind decimalOctet s subnet) ↔
      ∀ t : AcceptedSubnet, t.text = s → t.rest = [] ∧ t.prefixLength ≤ 32 ∧ t.NoOctal) := by
  constructor
  · rw [usable_iff]
    refine forall₂_congr fun t _ => ?_
    simp [AcceptedSubnet.AgreesOn]
  · rw [usable_iff]
    refine forall₂_congr fun t _ => ?_
    rw [t.agreesOn_decimalOctet_iff]

/-- **A length of 33 is accepted.** -/
theorem longPrefix_accepted :
    convertSubnetFromStringToBinaryWithCidrFormatSafe "10.0.0.1/33".toList
        = some ⟨0x0100000a, 33⟩ ∧
      ¬ Usable (fun _ => 0) inetOctet "10.0.0.1/33".toList ⟨0x0100000a, 33⟩ ∧
      ¬ Usable (fun _ => 0) decimalOctet "10.0.0.1/33".toList ⟨0x0100000a, 33⟩ := by
  have hshift : ∀ octet, ¬ Usable (fun _ => 0) octet "10.0.0.1/33".toList ⟨0x0100000a, 33⟩ :=
    fun octet husable => absurd (husable.shift_le (by decide)) (by decide)
  exact ⟨by decide +kernel, hshift inetOctet, hshift decimalOctet⟩

end FastNetMon
