/-
FastNetMon/Texts.lean

Texts, and numbers in them.

A text is the list of its characters.  Numbers are written in decimal
(`decimal`) and read as `std::stoi` does (`stoi`): leading white space, a sign,
digits, and anything behind them, provided that the number fits an `int`.
`splitCompress` is `boost::split` with `token_compress_on`.
-/
import Mathlib.Data.List.TakeWhile
import Mathlib.Tactic

namespace FastNetMon

/-- The text held in a `std::string`. -/
abbrev Text := List Char

/-- The text that a C function sees: up to the first null character. -/
def cStr (s : Text) : Text := s.takeWhile (· ≠ '\x00')

/-! ### Decimal numbers -/

/-- A number in decimal. -/
def decimal (n : ℕ) : Text := Nat.toDigits 10 n

theorem isDigit_of_mem_decimal {n : ℕ} {c : Char} (h : c ∈ decimal n) : c.isDigit = true :=
  Nat.isDigit_of_mem_toDigits (b := 10) (by decide) (by decide) h

theorem decimal_ne_nil (n : ℕ) : decimal n ≠ [] := by
  rw [decimal]
  exact Nat.toDigits_ne_nil

theorem ofDigitChars_decimal (n : ℕ) : Nat.ofDigitChars 10 (decimal n) 0 = n :=
  Nat.ofDigitChars_toDigits (b := 10) (by decide) (by decide)

/-- `isspace`. -/
def isSpace (c : Char) : Bool :=
  c = ' ' || c = '\t' || c = '\n' || c = '\x0b' || c = '\x0c' || c = '\x0d'

/-- The number that the digits at the front of a text stand for. -/
def leadingNumber (s : Text) : Option ℕ :=
  let digits := s.takeWhile Char.isDigit
  if digits = [] then none else some (Nat.ofDigitChars 10 digits 0)

/-- `std::stoi`, without its exceptions. -/
def stoi (s : Text) : Option ℤ := do
  let s := s.dropWhile isSpace
  let value : ℤ ← match s with
    | '-' :: s => (leadingNumber s).map fun n => -(n : ℤ)
    | '+' :: s => (leadingNumber s).map fun n => (n : ℤ)
    | s => (leadingNumber s).map fun n => (n : ℤ)
  if -2147483648 ≤ value ∧ value ≤ 2147483647 then some value else none

theorem isSpace_of_isDigit {c : Char} (h : c.isDigit = true) : isSpace c = false := by
  rw [isSpace]
  have hne : ∀ d : Char, d.isDigit = false → c ≠ d := by
    rintro d hd rfl
    exact absurd (h.symm.trans hd) (by decide)
  simp [hne ' ' (by decide), hne '\t' (by decide), hne '\n' (by decide), hne '\x0b' (by decide),
    hne '\x0c' (by decide), hne '\x0d' (by decide)]

/-- A text that starts with a digit has neither white space nor a sign. -/
theorem stoi_of_isDigit {c : Char} {s : Text} (h : c.isDigit = true) :
    stoi (c :: s) = (leadingNumber (c :: s)).bind fun n =>
      if n ≤ 2147483647 then some (n : ℤ) else none := by
  have hspace := isSpace_of_isDigit h
  have hminus : c ≠ '-' := by
    rintro rfl
    exact absurd h (by decide)
  have hplus : c ≠ '+' := by
    rintro rfl
    exact absurd h (by decide)
  rw [stoi, List.dropWhile_cons_of_neg (by simp [hspace])]
  simp only
  split
  · rename_i heq
    exact absurd (List.cons.inj heq).1 hminus
  · rename_i heq
    exact absurd (List.cons.inj heq).1 hplus
  · cases leadingNumber (c :: s) with
    | none => rfl
    | some n => simp

/-- Such a text gives a number that is not negative. -/
theorem stoi_nonneg {c : Char} {s : Text} {value : ℤ} (h : c.isDigit = true)
    (hvalue : stoi (c :: s) = some value) : 0 ≤ value ∧ value ≤ 2147483647 := by
  rw [stoi_of_isDigit h, Option.bind_eq_some_iff] at hvalue
  obtain ⟨n, -, hn⟩ := hvalue
  split at hn
  · obtain rfl := Option.some.inj hn
    omega
  · exact absurd hn (by simp)

theorem takeWhile_isDigit_decimal (n : ℕ) (s : Text) (h : ∀ c ∈ s.head?, c.isDigit = false) :
    (decimal n ++ s).takeWhile Char.isDigit = decimal n := by
  rw [List.takeWhile_append_of_pos fun c hc => isDigit_of_mem_decimal hc]
  cases s with
  | nil => simp
  | cons c s => simp [h c rfl]

theorem leadingNumber_decimal (n : ℕ) (s : Text) (h : ∀ c ∈ s.head?, c.isDigit = false) :
    leadingNumber (decimal n ++ s) = some n := by
  rw [leadingNumber, takeWhile_isDigit_decimal n s h, if_neg (decimal_ne_nil n),
    ofDigitChars_decimal]

/-- A number is read as it was written. -/
theorem stoi_decimal {n : ℕ} (h : n ≤ 2147483647) : stoi (decimal n) = some (n : ℤ) := by
  obtain ⟨c, s, hcs⟩ := List.exists_cons_of_ne_nil (decimal_ne_nil n)
  have hdigit : c.isDigit = true := isDigit_of_mem_decimal (n := n) (by rw [hcs]; simp)
  have hnumber := leadingNumber_decimal n [] (by simp)
  rw [List.append_nil, hcs] at hnumber
  rw [hcs, stoi_of_isDigit hdigit, hnumber, Option.bind_some, if_pos h]

/-! ### Numbers as words -/

theorem ofInt8_natCast (n : ℕ) : UInt8.ofInt (n : ℤ) = .ofNat n := by
  rw [UInt8.ofInt]
  apply UInt8.toNat_inj.mp
  simp
  omega

theorem ofInt16_natCast (n : ℕ) : UInt16.ofInt (n : ℤ) = .ofNat n := by
  rw [UInt16.ofInt]
  apply UInt16.toNat_inj.mp
  simp
  omega

theorem ofInt32_natCast (n : ℕ) : UInt32.ofInt (n : ℤ) = .ofNat n := by
  rw [UInt32.ofInt]
  apply UInt32.toNat_inj.mp
  simp
  omega

/-! ### Splitting -/

/-- The tokens of a text; `skip` says that a delimiter was just read, so that
more of them belong to it. -/
def splitTokens (isDelimiter : Char → Bool) : (skip : Bool) → Text → List Text
  | _, [] => [[]]
  | skip, c :: s =>
      if isDelimiter c then
        if skip then splitTokens isDelimiter true s else [] :: splitTokens isDelimiter true s
      else
        match splitTokens isDelimiter false s with
        | token :: tokens => (c :: token) :: tokens
        | [] => [[c]]

/-- `boost::split` with `token_compress_on`. -/
def splitCompress (isDelimiter : Char → Bool) (s : Text) : List Text :=
  splitTokens isDelimiter false s

variable {isDelimiter : Char → Bool}

theorem splitTokens_ne_nil (skip : Bool) (s : Text) : splitTokens isDelimiter skip s ≠ [] := by
  induction s generalizing skip with
  | nil => simp [splitTokens]
  | cons c s ih =>
    rw [splitTokens]
    split
    · split
      · exact ih true
      · simp
    · split <;> simp

/-- A text without delimiters is one token. -/
theorem splitTokens_of_all {s : Text} (h : ∀ c ∈ s, isDelimiter c = false) (skip : Bool) :
    splitTokens isDelimiter skip s = [s] := by
  induction s generalizing skip with
  | nil => rfl
  | cons c s ih =>
    rw [splitTokens, if_neg (by simp [h c (by simp)]),
      ih (fun d hd => h d (List.mem_cons_of_mem _ hd)) false]

/-- What stands in front of the first delimiter is the first token. -/
theorem splitTokens_append {s t : Text} {d : Char} (h : ∀ c ∈ s, isDelimiter c = false)
    (hd : isDelimiter d = true) :
    splitTokens isDelimiter false (s ++ d :: t) = s :: splitTokens isDelimiter true t := by
  induction s with
  | nil => rw [List.nil_append, splitTokens, if_pos hd, if_neg Bool.false_ne_true]
  | cons c s ih =>
    rw [List.cons_append, splitTokens, if_neg (by simp [h c (by simp)]),
      ih fun c' hc' => h c' (List.mem_cons_of_mem _ hc')]

/-- Two texts without delimiters around one delimiter. -/
theorem splitCompress_pair {s t : Text} {d : Char} (hs : ∀ c ∈ s, isDelimiter c = false)
    (ht : ∀ c ∈ t, isDelimiter c = false) (hd : isDelimiter d = true) :
    splitCompress isDelimiter (s ++ d :: t) = [s, t] := by
  rw [splitCompress, splitTokens_append hs hd, splitTokens_of_all ht]

/-- A text that does not start with a delimiter gives a first token that starts
with the same character. -/
theorem splitTokens_head {c : Char} {s : Text} (h : isDelimiter c = false) (skip : Bool) :
    ∃ token tokens, splitTokens isDelimiter skip (c :: s) = (c :: token) :: tokens := by
  rw [splitTokens, if_neg (by simp [h])]
  cases splitTokens isDelimiter false s with
  | nil => exact ⟨[], [], rfl⟩
  | cons token tokens => exact ⟨token, tokens, rfl⟩

end FastNetMon
