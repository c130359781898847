/-
FastNetMon/Json.lean

JSON values and the conversions of the JSON library.

A number is unsigned, signed, or a `double`: one with a fraction or an exponent, and
also an integer that 64 bits do not hold.  The conversion to an integer type drops
the fraction and wraps around.  `bool` converts to the integer types except to
`int64_t`, which has a conversion of its own.

An object that is put together from optional members has each member that is
present (`member?_ofEntries`), and a list of values that each convert back
converts back (`getVector_map`).
-/
import FastNetMon.Texts

namespace FastNetMon

/-- A JSON value, as the parser builds it. -/
inductive Json
  | null
  | boolean (b : Bool)
  | numberUnsigned (n : UInt64)
  | numberInteger (n : Int64)
  | numberFloat (value : ℚ)
  | string (s : Text)
  | array (values : List Json)
  | object (members : List (String × Json))

namespace Json

/-! ### Conversions -/

/-- The member of an object under a key, which says both what `contains` and
what `operator[]` gives. -/
def member? (key : String) : Json → Option Json
  | object members => members.lookup key
  | _ => none

/-- `get<std::string>()`. -/
def getString : Json → Option Text
  | string s => some s
  | _ => none

/-- The number that is converted to an integer type. -/
def getNumber : Json → Option ℤ
  | numberUnsigned n => some n.toNat
  | numberInteger n => some n.toInt
  | numberFloat value => some (value.num.tdiv value.den)
  | _ => none

/-- The number or the truth value that is converted to an integer type. -/
def getArithmetic : Json → Option ℤ
  | boolean b => some b.toNat
  | json => json.getNumber

/-- `get<int32_t>()`. -/
def getInt32 (json : Json) : Option ℤ := json.getArithmetic.map (Int.bmod · 4294967296)

/-- `get<int64_t>()`. -/
def getInt64 (json : Json) : Option ℤ := json.getNumber.map (Int.bmod · 18446744073709551616)

/-- `get<uint8_t>()`. -/
def getUInt8 (json : Json) : Option UInt8 := json.getArithmetic.map .ofInt

/-- `get<uint16_t>()`. -/
def getUInt16 (json : Json) : Option UInt16 := json.getArithmetic.map .ofInt

/-- `get<uint32_t>()`. -/
def getUInt32 (json : Json) : Option UInt32 := json.getArithmetic.map .ofInt

/-- `get<std::vector<T>>()`. -/
def getVector {α : Type} (get : Json → Option α) : Json → Option (List α)
  | array values => values.mapM get
  | _ => none

/-- An unsigned number that fits 32 bits. -/
def ofNat32 (n : ℕ) : Json := numberUnsigned (.ofNat n)

/-- The object with those members that are present. -/
def ofEntries (entries : List (String × Option Json)) : Json :=
  object (entries.filterMap fun entry => entry.2.map fun value => (entry.1, value))

/-! ### What was put in comes out -/

/-- A 32 bit number is read back as itself. -/
theorem getArithmetic_ofNat32 {n : ℕ} (h : n < 2 ^ 32) :
    (ofNat32 n).getArithmetic = some (n : ℤ) := by
  rw [ofNat32, getArithmetic, getNumber, UInt64.toNat_ofNat_of_lt' (by simp only [UInt64.size]; omega)]
  simp

theorem getInt32_ofNat32 {n : ℕ} (h : n < 2 ^ 31) : (ofNat32 n).getInt32 = some (n : ℤ) := by
  rw [getInt32, getArithmetic_ofNat32 (by omega), Option.map_some,
    Int.bmod_eq_of_le (by omega) (by omega)]

theorem getInt64_ofNat32 {n : ℕ} (h : n < 2 ^ 32) : (ofNat32 n).getInt64 = some (n : ℤ) := by
  have hnumber : (ofNat32 n).getNumber = some (n : ℤ) := getArithmetic_ofNat32 h
  rw [getInt64, hnumber, Option.map_some, Int.bmod_eq_of_le (by omega) (by omega)]

theorem getUInt8_ofNat32 (b : UInt8) : (ofNat32 b.toNat).getUInt8 = some b := by
  have h := b.toNat_lt
  rw [getUInt8, getArithmetic_ofNat32 (by omega), Option.map_some, ofInt8_natCast,
    UInt8.ofNat_toNat]

theorem getUInt16_ofNat32 (w : UInt16) : (ofNat32 w.toNat).getUInt16 = some w := by
  have h := w.toNat_lt
  rw [getUInt16, getArithmetic_ofNat32 (by omega), Option.map_some, ofInt16_natCast,
    UInt16.ofNat_toNat]

theorem getUInt32_ofNat32 (w : UInt32) : (ofNat32 w.toNat).getUInt32 = some w := by
  rw [getUInt32, getArithmetic_ofNat32 w.toNat_lt, Option.map_some, ofInt32_natCast,
    UInt32.ofNat_toNat]

/-- A member of an object that was put together. -/
theorem member?_ofEntries {entries : List (String × Option Json)}
    (hnodup : (entries.map Prod.fst).Nodup) (key : String) :
    (ofEntries entries).member? key = (entries.lookup key).join := by
  rw [ofEntries, member?]
  induction entries with
  | nil => rfl
  | cons entry entries ih =>
    obtain ⟨k, value?⟩ := entry
    rw [List.map_cons, List.nodup_cons] at hnodup
    have hrest := ih hnodup.2
    cases value? with
    | none =>
      rw [List.filterMap_cons_none (by rfl), hrest, List.lookup_cons]
      by_cases hk : key = k
      · subst hk
        have habsent : entries.lookup key = none := by
          rw [List.lookup_eq_none_iff]
          intro entry hentry
          rw [bne_iff_ne]
          rintro rfl
          exact hnodup.1 (List.mem_map.mpr ⟨entry, hentry, rfl⟩)
        rw [habsent, beq_self_eq_true]
        rfl
      · rw [beq_eq_false_iff_ne.mpr hk]
    | some value =>
      rw [List.filterMap_cons_some (by rfl), List.lookup_cons, List.lookup_cons, hrest]
      by_cases hk : key = k
      · subst hk
        rw [beq_self_eq_true]
        rfl
      · rw [beq_eq_false_iff_ne.mpr hk]

/-- Values that convert back one by one convert back as a list. -/
theorem getVector_map {α β : Type} {get : Json → Option α} {check : α → Option β} {put : β → Json}
    {xs : List β} (h : ∀ x ∈ xs, (get (put x)).bind check = some x) :
    (getVector get (array (xs.map put))).bind (List.mapM check) = some xs := by
  rw [getVector]
  induction xs with
  | nil => rfl
  | cons x xs ih =>
    obtain ⟨a, hget, hcheck⟩ := Option.bind_eq_some_iff.mp (h x (by simp))
    obtain ⟨as, hgets, hchecks⟩ :=
      Option.bind_eq_some_iff.mp (ih fun y hy => h y (List.mem_cons_of_mem _ hy))
    rw [List.map_cons, List.mapM_cons, hget, Option.bind_eq_bind, Option.bind_some, hgets]
    simp [List.mapM_cons, hcheck, hchecks]

end Json

end FastNetMon
