/-
FastNetMon/TextGrammar.lean

The texts that `std::stoi` and `boost::split` accept, as grammars.

`std::stoi` takes white space, a sign and digits, and leaves what stands behind the digits;
a text that it takes is one of these parts, and its number is that of the sign and the digits
(`stoi_eq_some_iff`).  `boost::split` with `token_compress_on` gives two tokens exactly for
two texts without delimiters around one delimiter or more (`splitCompress_eq_pair_iff`).
-/
import FastNetMon.Texts

namespace FastNetMon

/-! ### Numbers -/

/-- At least one decimal digit, and nothing else. -/
def IsDigits (s : Text) : Prop := s ≠ [] ∧ ∀ c ∈ s, c.isDigit = true

theorem IsDigits.exists_cons {s : Text} (h : IsDigits s) :
    ∃ c t, s = c :: t ∧ c.isDigit = true := by
  obtain ⟨c, t, rfl⟩ := List.exists_cons_of_ne_nil h.1
  exact ⟨c, t, rfl, h.2 c List.mem_cons_self⟩

theorem isDigits_takeWhile {s : Text} (h : s.takeWhile Char.isDigit ≠ []) :
    IsDigits (s.takeWhile Char.isDigit) :=
  ⟨h, fun _ hc => List.mem_takeWhile_imp hc⟩

/-- The value of a sign and a number. -/
def signed (sign : Text) (n : ℕ) : ℤ := if sign = ['-'] then -(n : ℤ) else n

/-- A text with a number at its front. -/
structure NumberText where
  space : Text
  sign : Text
  digits : Text
  rest : Text
  isSpace_space : ∀ c ∈ space, isSpace c = true
  sign_mem : sign ∈ [[], ['+'], ['-']]
  isDigits : IsDigits digits
  rest_head : ∀ c ∈ rest.head?, c.isDigit = false

namespace NumberText

variable (t : NumberText)

/-- The text itself. -/
def text : Text := t.space ++ (t.sign ++ (t.digits ++ t.rest))

/-- The number that `std::stoi` reads. -/
def value : ℤ := signed t.sign (Nat.ofDigitChars 10 t.digits 0)

/-- The text is its digits. -/
def Tidy : Prop := t.space = [] ∧ t.sign = [] ∧ t.rest = []

/-- The text of digits. -/
def ofDigits {s : Text} (h : IsDigits s) : NumberText where
  space := []
  sign := []
  digits := s
  rest := []
  isSpace_space _ hc := absurd hc List.not_mem_nil
  sign_mem := List.mem_cons_self
  isDigits := h
  rest_head _ hc := absurd hc (Option.not_mem_none _)

@[simp] theorem ofDigits_text {s : Text} (h : IsDigits s) : (ofDigits h).text = s :=
  List.append_nil s

@[simp] theorem ofDigits_value {s : Text} (h : IsDigits s) :
    (ofDigits h).value = Nat.ofDigitChars 10 s 0 := rfl

theorem leadingNumber_digits :
    leadingNumber (t.digits ++ t.rest) = some (Nat.ofDigitChars 10 t.digits 0) := by
  have htake : (t.digits ++ t.rest).takeWhile Char.isDigit = t.digits := by
    rw [List.takeWhile_append_of_pos t.isDigits.2]
    have hrest := t.rest_head
    cases hr : t.rest with
    | nil => simp
    | cons c s =>
      rw [hr] at hrest
      simp [hrest c rfl]
  rw [leadingNumber, htake, if_neg t.isDigits.1]

/-- A text of digits and nothing but digits is tidy. -/
theorem tidy_of_all (h : ∀ c ∈ t.text, c.isDigit = true) : t.Tidy := by
  have hmem : ∀ c, c ∈ t.space ∨ c ∈ t.sign ∨ c ∈ t.rest → c.isDigit = true := by
    intro c hc
    refine h c ?_
    simp only [text, List.mem_append]
    tauto
  refine ⟨?_, ?_, ?_⟩
  · cases hspace : t.space with
    | nil => rfl
    | cons c s =>
      have hc : c ∈ t.space := by simp [hspace]
      exact absurd (t.isSpace_space c hc) (by simp [isSpace_of_isDigit (hmem c (.inl hc))])
  · have hsign := t.sign_mem
    simp only [List.mem_cons, List.not_mem_nil, or_false] at hsign
    rcases hsign with hsign | hsign | hsign
    · exact hsign
    · exact absurd (hmem '+' (.inr (.inl (by simp [hsign])))) (by decide)
    · exact absurd (hmem '-' (.inr (.inl (by simp [hsign])))) (by decide)
  · cases hrest : t.rest with
    | nil => rfl
    | cons c s =>
      have hc : c.isDigit = false := t.rest_head c (by simp [hrest])
      exact absurd (hmem c (.inr (.inr (by simp [hrest])))) (by simp [hc])

theorem Tidy.text_eq {t : NumberText} (h : t.Tidy) : t.text = t.digits := by
  rw [text, h.1, h.2.1, h.2.2, List.nil_append, List.nil_append, List.append_nil]

theorem Tidy.value_eq {t : NumberText} (h : t.Tidy) :
    t.value = Nat.ofDigitChars 10 t.digits 0 := by
  rw [value, h.2.1, signed, if_neg (by simp)]

end NumberText

/-- The range of an `int`. -/
def FitsInt (n : ℤ) : Prop := -2147483648 ≤ n ∧ n ≤ 2147483647

instance (n : ℤ) : Decidable (FitsInt n) := inferInstanceAs (Decidable (_ ∧ _))

/-- Behind white space and a sign, `std::stoi` looks for digits. -/
theorem stoi_eq {s sign t : Text} (h : s.dropWhile isSpace = sign ++ t)
    (hsign : sign = ['-'] ∨ sign = ['+'] ∨ sign = [] ∧ ∀ c ∈ t.head?, c ≠ '-' ∧ c ≠ '+') :
    stoi s = (leadingNumber t).bind fun n =>
      if FitsInt (signed sign n) then some (signed sign n) else none := by
  rw [stoi, h]
  rcases hsign with rfl | rfl | ⟨rfl, hhead⟩
  · cases hn : leadingNumber t <;> simp [hn, signed, FitsInt]
  · cases hn : leadingNumber t <;> simp [hn, signed, FitsInt]
  · rw [List.nil_append]
    split
    · exact absurd rfl (hhead '-' rfl).1
    · exact absurd rfl (hhead '+' rfl).2
    · cases leadingNumber t <;> simp [signed, FitsInt]

theorem stoi_text (t : NumberText) (h : FitsInt t.value) : stoi t.text = some t.value := by
  obtain ⟨c, s, hdigits, hc⟩ := t.isDigits.exists_cons
  have hspaceless : ∀ c ∈ (t.sign ++ (t.digits ++ t.rest)).head?, isSpace c = false := by
    have hsign := t.sign_mem
    simp only [List.mem_cons, List.not_mem_nil, or_false] at hsign
    rcases hsign with hsign | hsign | hsign <;> rw [hsign]
    · simpa [hdigits] using isSpace_of_isDigit hc
    · simp [isSpace]
    · simp [isSpace]
  have hdrop : t.text.dropWhile isSpace = t.sign ++ (t.digits ++ t.rest) := by
    rw [NumberText.text, List.dropWhile_append_of_pos t.isSpace_space]
    cases hs : t.sign ++ (t.digits ++ t.rest) with
    | nil => rfl
    | cons d s =>
      rw [hs] at hspaceless
      rw [List.dropWhile_cons_of_neg (by simp [hspaceless d rfl])]
  have hsign : t.sign = ['-'] ∨ t.sign = ['+'] ∨
      t.sign = [] ∧ ∀ c ∈ (t.digits ++ t.rest).head?, c ≠ '-' ∧ c ≠ '+' := by
    have hmem := t.sign_mem
    simp only [List.mem_cons, List.not_mem_nil, or_false] at hmem
    rcases hmem with hmem | hmem | hmem
    · refine .inr (.inr ⟨hmem, ?_⟩)
      rw [hdigits]
      rintro d hd
      obtain rfl : c = d := by simpa using hd
      constructor <;> rintro rfl <;> exact absurd hc (by decide)
    · exact .inr (.inl hmem)
    · exact .inl hmem
  rw [stoi_eq hdrop hsign, t.leadingNumber_digits, Option.bind_some]
  exact if_pos h

/-- A number at the front of a text, behind white space and a sign. -/
theorem exists_numberText {space sign s : Text} {n : ℕ} (hspace : ∀ c ∈ space, isSpace c = true)
    (hsign : sign ∈ [[], ['+'], ['-']]) (h : leadingNumber s = some n) :
    ∃ t : NumberText, t.text = space ++ (sign ++ s) ∧ t.value = signed sign n := by
  rw [leadingNumber] at h
  split at h
  · exact absurd h (by simp)
  · rename_i hdigits
    obtain rfl := Option.some.inj h
    refine ⟨⟨space, sign, s.takeWhile Char.isDigit, s.dropWhile Char.isDigit, hspace, hsign,
      isDigits_takeWhile hdigits, ?_⟩, ?_, rfl⟩
    · intro c hc
      have hhead := List.head?_dropWhile_not Char.isDigit s
      rw [Option.mem_def.mp hc] at hhead
      simpa using hhead
    · rw [NumberText.text, List.takeWhile_append_dropWhile]

/-- The sign of a text behind its white space. -/
theorem exists_sign (s : Text) : ∃ sign t, s = sign ++ t ∧ sign ∈ [[], ['+'], ['-']] ∧
    (sign = ['-'] ∨ sign = ['+'] ∨ sign = [] ∧ ∀ c ∈ t.head?, c ≠ '-' ∧ c ≠ '+') := by
  cases s with
  | nil => exact ⟨[], [], rfl, by simp, by simp⟩
  | cons c s =>
    by_cases hminus : c = '-'
    · exact ⟨['-'], s, by rw [hminus]; rfl, by simp, .inl rfl⟩
    by_cases hplus : c = '+'
    · exact ⟨['+'], s, by rw [hplus]; rfl, by simp, .inr (.inl rfl)⟩
    · exact ⟨[], c :: s, rfl, by simp, .inr (.inr ⟨rfl, by simp [hminus, hplus]⟩)⟩

/-- **What `std::stoi` takes.** -/
theorem stoi_eq_some_iff {s : Text} {n : ℤ} :
    stoi s = some n ↔ ∃ t : NumberText, t.text = s ∧ t.value = n ∧ FitsInt n := by
  constructor
  · intro h
    obtain ⟨sign, t, hdrop, hmem, hsign⟩ := exists_sign (s.dropWhile isSpace)
    rw [stoi_eq hdrop hsign, Option.bind_eq_some_iff] at h
    obtain ⟨k, hnumber, h⟩ := h
    obtain ⟨hfits, hn⟩ := Option.ite_none_right_eq_some.mp h
    obtain rfl := Option.some.inj hn
    have hspace : ∀ c ∈ s.takeWhile isSpace, isSpace c = true := fun c hc =>
      List.mem_takeWhile_imp hc
    obtain ⟨number, htext, hvalue⟩ := exists_numberText hspace hmem hnumber
    refine ⟨number, ?_, hvalue, hfits⟩
    rw [htext, ← hdrop, List.takeWhile_append_dropWhile]
  · rintro ⟨t, rfl, rfl, hfits⟩
    exact stoi_text t hfits

/-! ### Tokens -/

variable {isDelimiter : Char → Bool}

/-- Delimiters behind a delimiter make no token. -/
theorem splitTokens_skip {delimiters s : Text} (h : ∀ c ∈ delimiters, isDelimiter c = true) :
    splitTokens isDelimiter true (delimiters ++ s) = splitTokens isDelimiter true s := by
  induction delimiters with
  | nil => rfl
  | cons c delimiters ih =>
    rw [List.cons_append, splitTokens, if_pos (h c List.mem_cons_self), if_pos rfl]
    exact ih fun d hd => h d (List.mem_cons_of_mem c hd)

/-- A text is one token, or a token in front of a delimiter. -/
theorem split_first (isDelimiter : Char → Bool) (s : Text) :
    (∀ c ∈ s, isDelimiter c = false) ∨
      ∃ token d t, s = token ++ d :: t ∧ (∀ c ∈ token, isDelimiter c = false) ∧
        isDelimiter d = true := by
  induction s with
  | nil => exact .inl fun c hc => absurd hc List.not_mem_nil
  | cons c s ih =>
    cases hc : isDelimiter c with
    | true => exact .inr ⟨[], c, s, rfl, fun _ hmem => absurd hmem List.not_mem_nil, hc⟩
    | false =>
      rcases ih with hall | ⟨token, d, t, rfl, htoken, hd⟩
      · exact .inl (List.forall_mem_cons.mpr ⟨hc, hall⟩)
      · exact .inr ⟨c :: token, d, t, rfl, List.forall_mem_cons.mpr ⟨hc, htoken⟩, hd⟩

/-- One token, behind a delimiter: more delimiters, and a text without any. -/
theorem splitTokens_eq_singleton {s token : Text}
    (h : splitTokens isDelimiter true s = [token]) :
    ∃ delimiters, s = delimiters ++ token ∧ (∀ c ∈ delimiters, isDelimiter c = true) ∧
      ∀ c ∈ token, isDelimiter c = false := by
  induction s with
  | nil =>
    obtain rfl : [] = token := (List.cons.inj h).1
    exact ⟨[], rfl, by simp, by simp⟩
  | cons c s ih =>
    cases hc : isDelimiter c with
    | true =>
      rw [splitTokens, if_pos hc, if_pos rfl] at h
      obtain ⟨delimiters, rfl, hdelimiters, htoken⟩ := ih h
      exact ⟨c :: delimiters, rfl, List.forall_mem_cons.mpr ⟨hc, hdelimiters⟩, htoken⟩
    | false =>
      have hsame : splitTokens isDelimiter true (c :: s) = splitTokens isDelimiter false (c :: s) := by
        rw [splitTokens, splitTokens, if_neg (by simp [hc]), if_neg (by simp [hc])]
      rcases split_first isDelimiter (c :: s) with hall | ⟨first, d, t, hs, hfirst, hd⟩
      · rw [splitTokens_of_all hall] at h
        obtain rfl := (List.cons.inj h).1
        exact ⟨[], rfl, by simp, hall⟩
      · rw [hsame, hs, splitTokens_append hfirst hd] at h
        exact absurd (List.cons.inj h).2 (splitTokens_ne_nil true t)

/-- **Two tokens.** -/
theorem splitCompress_eq_pair_iff {s token token' : Text} :
    splitCompress isDelimiter s = [token, token'] ↔
      ∃ d delimiters, s = token ++ d :: (delimiters ++ token') ∧ isDelimiter d = true ∧
        (∀ c ∈ delimiters, isDelimiter c = true) ∧
        (∀ c ∈ token, isDelimiter c = false) ∧ ∀ c ∈ token', isDelimiter c = false := by
  constructor
  · intro h
    rw [splitCompress] at h
    rcases split_first isDelimiter s with hall | ⟨first, d, t, rfl, hfirst, hd⟩
    · rw [splitTokens_of_all hall] at h
      exact absurd (List.cons.inj h).2 (by simp)
    · rw [splitTokens_append hfirst hd] at h
      obtain ⟨rfl, hrest⟩ := List.cons.inj h
      obtain ⟨delimiters, rfl, hdelimiters, htoken'⟩ := splitTokens_eq_singleton hrest
      exact ⟨d, delimiters, rfl, hd, hdelimiters, hfirst, htoken'⟩
  · rintro ⟨d, delimiters, rfl, hd, hdelimiters, htoken, htoken'⟩
    rw [splitCompress, splitTokens_append htoken hd, splitTokens_skip hdelimiters,
      splitTokens_of_all htoken']

end FastNetMon
