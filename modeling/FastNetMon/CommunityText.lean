/-
FastNetMon/CommunityText.lean

BGP communities of the configuration (`read_bgp_community_from_string`).

A community is two decimal numbers of 16 bits with a colon between them.  The reader splits
its text at colons, of which several count as one, and gives both tokens to `std::stoi`, which
skips white space and a sign and ignores what stands behind the digits.  So it takes more than
communities (`CommunityText`): exactly what can be cut into such parts
(`readBgpCommunity_accepts_iff`).  Main result: it is strict about a text exactly if the text
cannot be cut so, or only with nothing but digits and one colon
(`community_strict_iff`).  The parser of route targets takes the strict form only.
-/
import FastNetMon.Ipv6Announce
import FastNetMon.RouteTarget
import FastNetMon.TextGrammar

namespace FastNetMon

/-! ### The reader -/

/-- `convert_string_to_positive_integer_safe`: whether it is one, and the value behind its
reference. -/
def convertStringToPositiveIntegerSafe (line : Text) (value : ℤ) : Bool × ℤ :=
  match stoi line with
  | none => (false, value)
  | some tempValue => if tempValue ≥ 0 then (true, tempValue) else (false, value)

/-- `UINT16_MAX`, as the integer that both halves are compared with. -/
def UINT16_MAX : ℤ := 65535

/-- `read_bgp_community_from_string`: its result, and the element behind its reference. -/
def readBgpCommunityFromString (communityAsString : Text)
    (element : BgpCommunityAttributeElement) : Bool × BgpCommunityAttributeElement :=
  match splitCompress (· = ':') communityAsString with
  | [asn, communityNumber] =>
      let (asnParsed, asnAsInteger) := convertStringToPositiveIntegerSafe asn 0
      if !asnParsed then (false, element)
      else
        let (communityNumberParsed, communityNumberAsInteger) :=
          convertStringToPositiveIntegerSafe communityNumber 0
        if !communityNumberParsed then (false, element)
        else if asnAsInteger < 0 ∨ communityNumberAsInteger < 0 then (false, element)
        else if asnAsInteger > UINT16_MAX then (false, element)
        else if communityNumberAsInteger > UINT16_MAX then (false, element)
        else
          (true, { asnNumber := .ofInt asnAsInteger
                   communityNumber := .ofInt communityNumberAsInteger })
  | _ => (false, element)

/-! ### What it takes -/

/-- A number that fits 16 bits, at the front of a text without colons. -/
structure CommunityPart extends NumberText where
  colon_notMem : ':' ∉ toNumberText.text
  value_nonneg : 0 ≤ toNumberText.value
  value_le : toNumberText.value ≤ UINT16_MAX

/-- Two of them, with one colon or more between them. -/
structure CommunityText where
  asn : CommunityPart
  moreColons : ℕ
  communityNumber : CommunityPart

namespace CommunityText

variable (t : CommunityText)

/-- The text itself. -/
def text : Text :=
  t.asn.text ++ ':' :: (List.replicate t.moreColons ':' ++ t.communityNumber.text)

/-- There is nothing but the digits and one colon. -/
def Tidy : Prop := t.moreColons = 0 ∧ t.asn.Tidy ∧ t.communityNumber.Tidy

/-- The community that it stands for. -/
def element : BgpCommunityAttributeElement where
  asnNumber := .ofInt t.asn.value
  communityNumber := .ofInt t.communityNumber.value

end CommunityText

theorem convertStringToPositiveInteger_eq_true_iff {line : Text} {value : ℤ} :
    convertStringToPositiveIntegerSafe line 0 = (true, value) ↔
      stoi line = some value ∧ 0 ≤ value := by
  rw [convertStringToPositiveIntegerSafe]
  cases stoi line with
  | none => simp
  | some n =>
    simp only [Option.some.injEq]
    split
    · rename_i hn
      constructor
      · intro h
        obtain rfl := (Prod.mk.inj h).2
        exact ⟨rfl, hn⟩
      · rintro ⟨rfl, -⟩
        rfl
    · rename_i hn
      constructor
      · intro h
        exact absurd (Prod.mk.inj h).1 (by decide)
      · rintro ⟨rfl, hnonneg⟩
        exact absurd hnonneg hn

/-- A token that the reader takes. -/
theorem exists_communityPart_iff {token : Text} {value : ℤ} :
    (convertStringToPositiveIntegerSafe token 0 = (true, value) ∧ ':' ∉ token ∧
        value ≤ UINT16_MAX) ↔
      ∃ part : CommunityPart, part.text = token ∧ part.value = value := by
  rw [convertStringToPositiveInteger_eq_true_iff, stoi_eq_some_iff]
  constructor
  · rintro ⟨⟨⟨t, rfl, rfl, -⟩, hnonneg⟩, hcolon, hle⟩
    exact ⟨⟨t, hcolon, hnonneg, hle⟩, rfl, rfl⟩
  · rintro ⟨part, rfl, rfl⟩
    have hnonneg := part.value_nonneg
    have hle := part.value_le
    rw [UINT16_MAX] at hle
    exact ⟨⟨⟨part.toNumberText, rfl, rfl, by omega, by omega⟩, hnonneg⟩, part.colon_notMem,
      part.value_le⟩

/-- What the reader stores for a text that it takes. -/
theorem readBgpCommunity_text (t : CommunityText) (element : BgpCommunityAttributeElement) :
    readBgpCommunityFromString t.text element = (true, t.element) := by
  have hsplit : splitCompress (· = ':') t.text = [t.asn.text, t.communityNumber.text] := by
    refine splitCompress_eq_pair_iff.mpr ⟨':', _, rfl, by decide, ?_, ?_, ?_⟩
    · intro c hc
      rw [List.eq_of_mem_replicate hc]
      decide
    · rintro c hc
      rw [decide_eq_false_iff_not]
      rintro rfl
      exact t.asn.colon_notMem hc
    · rintro c hc
      rw [decide_eq_false_iff_not]
      rintro rfl
      exact t.communityNumber.colon_notMem hc
  obtain ⟨hasn, -, hasnLe⟩ := exists_communityPart_iff.mpr ⟨t.asn, rfl, rfl⟩
  obtain ⟨hnumber, -, hnumberLe⟩ := exists_communityPart_iff.mpr ⟨t.communityNumber, rfl, rfl⟩
  have hasnNonneg := t.asn.value_nonneg
  have hnumberNonneg := t.communityNumber.value_nonneg
  rw [readBgpCommunityFromString, hsplit]
  simp only [hasn, hnumber, Bool.not_true, Bool.false_eq_true, if_false]
  rw [if_neg (by omega), if_neg (by omega), if_neg (by omega)]
  rfl

/-- The reader leaves the element as it was, or takes a community. -/
theorem readBgpCommunity_cases (s : Text) (element : BgpCommunityAttributeElement) :
    readBgpCommunityFromString s element = (false, element) ∨ ∃ t : CommunityText, t.text = s := by
  rw [readBgpCommunityFromString]
  split
  · rename_i asn communityNumber hsplit
    obtain ⟨d, delimiters, rfl, hd, hdelimiters, hasnColon, hnumberColon⟩ :=
      splitCompress_eq_pair_iff.mp hsplit
    obtain rfl : d = ':' := of_decide_eq_true hd
    have hreplicate : delimiters = List.replicate delimiters.length ':' :=
      List.eq_replicate_iff.mpr ⟨rfl, fun c hc => of_decide_eq_true (hdelimiters c hc)⟩
    rcases hasn : convertStringToPositiveIntegerSafe asn 0 with ⟨_ | _, asnValue⟩
    · exact .inl rfl
    rcases hnumber : convertStringToPositiveIntegerSafe communityNumber 0 with ⟨_ | _, numberValue⟩
    · exact .inl rfl
    simp only [Bool.not_true, Bool.false_eq_true, if_false]
    by_cases hnegative : asnValue < 0 ∨ numberValue < 0
    · exact .inl (if_pos hnegative)
    by_cases hasnLe : asnValue > UINT16_MAX
    · exact .inl (by rw [if_neg hnegative, if_pos hasnLe])
    by_cases hnumberLe : numberValue > UINT16_MAX
    · exact .inl (by rw [if_neg hnegative, if_neg hasnLe, if_pos hnumberLe])
    · obtain ⟨asnPart, rfl, -⟩ := exists_communityPart_iff.mp
        ⟨hasn, fun hmem => absurd (hasnColon ':' hmem) (by decide), not_lt.mp hasnLe⟩
      obtain ⟨numberPart, rfl, -⟩ := exists_communityPart_iff.mp
        ⟨hnumber, fun hmem => absurd (hnumberColon ':' hmem) (by decide), not_lt.mp hnumberLe⟩
      exact .inr ⟨⟨asnPart, delimiters.length, numberPart⟩, by
        rw [CommunityText.text, ← hreplicate]⟩
  · exact .inl rfl

/-- **What the reader takes.** -/
theorem readBgpCommunity_accepts_iff {s : Text} {element : BgpCommunityAttributeElement} :
    (readBgpCommunityFromString s element).1 = true ↔ ∃ t : CommunityText, t.text = s := by
  constructor
  · intro h
    rcases readBgpCommunity_cases s element with hrejected | htext
    · rw [hrejected] at h
      exact absurd h Bool.false_ne_true
    · exact htext
  · rintro ⟨t, rfl⟩
    rw [readBgpCommunity_text]

/-- A rejected text leaves the element as it was. -/
theorem readBgpCommunity_rejected {s : Text} {element : BgpCommunityAttributeElement}
    (h : (readBgpCommunityFromString s element).1 = false) :
    (readBgpCommunityFromString s element).2 = element := by
  rcases readBgpCommunity_cases s element with hrejected | ⟨t, rfl⟩
  · rw [hrejected]
  · rw [readBgpCommunity_text] at h
    exact absurd h.symm Bool.false_ne_true

/-! ### Communities -/

/-- A text that says a community. -/
def IsCommunity (s : Text) (asn communityNumber : ℕ) : Prop :=
  (∃ d₁ d₂, s = d₁ ++ ':' :: d₂ ∧ IsDecimal d₁ asn ∧ IsDecimal d₂ communityNumber) ∧
    asn ≤ 65535 ∧ communityNumber ≤ 65535

/-- The reader takes a text exactly if it says a community, and stores this community;
otherwise it stores nothing. -/
structure StrictAbout (s : Text) (element : BgpCommunityAttributeElement) : Prop where
  accepts : (readBgpCommunityFromString s element).1 = true ↔
    ∃ asn communityNumber, IsCommunity s asn communityNumber
  stores : ∀ asn communityNumber, IsCommunity s asn communityNumber →
    (readBgpCommunityFromString s element).2.asnNumber.toNat = asn ∧
      (readBgpCommunityFromString s element).2.communityNumber.toNat = communityNumber
  unchanged : (readBgpCommunityFromString s element).1 = false →
    (readBgpCommunityFromString s element).2 = element

theorem IsDecimal.isDigits {s : Text} {n : ℕ} (h : IsDecimal s n) : IsDigits s := ⟨h.1, h.2.1⟩

/-- A decimal number as a part of a community. -/
def communityPart {s : Text} {n : ℕ} (h : IsDecimal s n) (hle : n ≤ 65535) : CommunityPart where
  toNumberText := .ofDigits h.isDigits
  colon_notMem := by
    rw [NumberText.ofDigits_text]
    exact h.colon_notMem
  value_nonneg := by
    rw [NumberText.ofDigits_value]
    exact Int.natCast_nonneg _
  value_le := by
    rw [NumberText.ofDigits_value, h.2.2, UINT16_MAX]
    exact Int.ofNat_le.mpr hle

theorem communityPart_text {s : Text} {n : ℕ} (h : IsDecimal s n) (hle : n ≤ 65535) :
    (communityPart h hle).text = s := NumberText.ofDigits_text h.isDigits

theorem communityPart_value {s : Text} {n : ℕ} (h : IsDecimal s n) (hle : n ≤ 65535) :
    (communityPart h hle).value = n := by
  rw [communityPart, NumberText.ofDigits_value, h.2.2]

theorem ofInt16_toNat {n : ℕ} (h : n ≤ 65535) : (UInt16.ofInt (n : ℤ)).toNat = n := by
  rw [ofInt16_natCast, UInt16.toNat_ofNat_of_lt' (by simp only [UInt16.size]; omega)]

/-- A community is taken, and stored. -/
theorem readBgpCommunity_of_isCommunity {s : Text} {asn communityNumber : ℕ}
    (h : IsCommunity s asn communityNumber) (element : BgpCommunityAttributeElement) :
    readBgpCommunityFromString s element
      = (true, ⟨.ofInt asn, .ofInt communityNumber⟩) := by
  obtain ⟨⟨d₁, d₂, rfl, h₁, h₂⟩, hasn, hnumber⟩ := h
  have htext := readBgpCommunity_text ⟨communityPart h₁ hasn, 0, communityPart h₂ hnumber⟩ element
  rw [CommunityText.element, CommunityText.text, communityPart_text, communityPart_text,
    communityPart_value, communityPart_value] at htext
  exact htext

/-- The parts of a community have nothing but their digits. -/
theorem tidy_of_isCommunity {t : CommunityText} {asn communityNumber : ℕ}
    (h : IsCommunity t.text asn communityNumber) : t.Tidy := by
  obtain ⟨⟨d₁, d₂, htext, h₁, h₂⟩, -⟩ := h
  have hmem : ∀ c ∈ t.text, c ≠ ':' → c.isDigit = true := by
    intro c hc hne
    rw [htext] at hc
    rcases List.mem_append.mp hc with hc | hc
    · exact h₁.2.1 c hc
    · rcases List.mem_cons.mp hc with rfl | hc
      · exact absurd rfl hne
      · exact h₂.2.1 c hc
  have hpart : ∀ part : CommunityPart, (∀ c ∈ part.text, c ∈ t.text) → part.Tidy := by
    intro part hsub
    refine part.tidy_of_all fun c hc => hmem c (hsub c hc) ?_
    rintro rfl
    exact part.colon_notMem hc
  refine ⟨?_, hpart t.asn ?_, hpart t.communityNumber ?_⟩
  · -- there is one colon
    have hcount := congrArg (List.count ':') htext
    simp only [CommunityText.text, List.count_append, List.count_cons_self,
      List.count_replicate_self, List.count_eq_zero_of_not_mem t.asn.colon_notMem,
      List.count_eq_zero_of_not_mem t.communityNumber.colon_notMem,
      List.count_eq_zero_of_not_mem h₁.colon_notMem,
      List.count_eq_zero_of_not_mem h₂.colon_notMem] at hcount
    omega
  · intro c hc
    simp [CommunityText.text, hc]
  · intro c hc
    simp [CommunityText.text, hc]

/-- A tidy text says a community. -/
theorem isCommunity_of_tidy {t : CommunityText} (h : t.Tidy) :
    ∃ asn communityNumber, IsCommunity t.text asn communityNumber := by
  obtain ⟨hcolons, hasn, hnumber⟩ := h
  have hbound : ∀ {part : CommunityPart}, part.Tidy →
      Nat.ofDigitChars 10 part.digits 0 ≤ 65535 := by
    intro part hpart
    have hle := part.value_le
    rw [hpart.value_eq, UINT16_MAX] at hle
    omega
  refine ⟨_, _, ⟨t.asn.digits, t.communityNumber.digits, ?_,
    ⟨t.asn.isDigits.1, t.asn.isDigits.2, rfl⟩,
    ⟨t.communityNumber.isDigits.1, t.communityNumber.isDigits.2, rfl⟩⟩, hbound hasn, hbound hnumber⟩
  rw [CommunityText.text, hcolons, hasn.text_eq, hnumber.text_eq]
  rfl

/-- **The reader is strict about a text exactly if nothing in it is skipped**: no white space,
no sign, no text behind the digits and no colon but the first, in any way to cut it into the
parts that the reader takes. -/
theorem community_strict_iff (s : Text) (element : BgpCommunityAttributeElement) :
    StrictAbout s element ↔ ∀ t : CommunityText, t.text = s → t.Tidy := by
  constructor
  · rintro hstrict t rfl
    obtain ⟨asn, communityNumber, h⟩ :=
      hstrict.accepts.mp (readBgpCommunity_accepts_iff.mpr ⟨t, rfl⟩)
    exact tidy_of_isCommunity h
  · intro htidy
    refine ⟨⟨?_, ?_⟩, ?_, readBgpCommunity_rejected⟩
    · intro haccepts
      obtain ⟨t, rfl⟩ := readBgpCommunity_accepts_iff.mp haccepts
      exact isCommunity_of_tidy (htidy t rfl)
    · rintro ⟨asn, communityNumber, h⟩
      rw [readBgpCommunity_of_isCommunity h]
    · intro asn communityNumber h
      rw [readBgpCommunity_of_isCommunity h]
      exact ⟨ofInt16_toNat h.2.1, ofInt16_toNat h.2.2⟩

/-- **A text with more than a community in it is taken for one.** -/
theorem looseCommunity_accepted :
    ¬ StrictAbout "65001:666x".toList {} := by
  intro hstrict
  obtain ⟨asn, communityNumber, ⟨d₁, d₂, htext, h₁, h₂⟩, -⟩ :=
    hstrict.accepts.mp (by decide)
  have hx : 'x' ∈ d₁ ++ ':' :: d₂ := by
    rw [← htext]
    decide
  rcases List.mem_append.mp hx with hmem | hmem
  · exact absurd (h₁.2.1 'x' hmem) (by decide)
  · rcases List.mem_cons.mp hmem with heq | hmem
    · exact absurd heq (by decide)
    · exact absurd (h₂.2.1 'x' hmem) (by decide)

end FastNetMon
