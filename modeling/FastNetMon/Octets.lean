/-
FastNetMon/Octets.lean

Words and the bytes they occupy in the memory of a little-endian machine.

`bytes16 w` and `bytes32 w` are the object representations of a word, first
byte first, and `ofBytes16`, `ofBytes32` read a word back from its bytes.  The
byte order conversions of the C library reverse the bytes; `htons` and `ntohs`
are the same function, and so are `htonl` and `ntohl`.

Main results: reading back what was stored (`ofBytes16_bytes`,
`bytes16_ofBytes16` and their 32-bit forms), the bytes of a converted word
(`bytes16_byteSwap16`, `bytes32_byteSwap32`), and that `&` works byte by byte
(`byteOf32_and`).
-/
import Mathlib.Data.Nat.Bitwise
import Mathlib.Tactic

namespace FastNetMon

/-! ### Words from bytes -/

/-- The 16-bit word stored as `b₀ b₁`. -/
def ofBytes16 (b₀ b₁ : UInt8) : UInt16 :=
  .ofNat (b₀.toNat + 2 ^ 8 * b₁.toNat)

/-- The 32-bit word stored as `b₀ b₁ b₂ b₃`. -/
def ofBytes32 (b₀ b₁ b₂ b₃ : UInt8) : UInt32 :=
  .ofNat (b₀.toNat + 2 ^ 8 * b₁.toNat + 2 ^ 16 * b₂.toNat + 2 ^ 24 * b₃.toNat)

/-- Byte `i` of a word, counted from the first byte in memory. -/
def byteOf16 (w : UInt16) (i : ℕ) : UInt8 :=
  .ofNat (w.toNat / 2 ^ (8 * i))

@[inherit_doc byteOf16]
def byteOf32 (w : UInt32) (i : ℕ) : UInt8 :=
  .ofNat (w.toNat / 2 ^ (8 * i))

/-- The bytes of a 16-bit word in memory. -/
def bytes16 (w : UInt16) : List UInt8 :=
  [byteOf16 w 0, byteOf16 w 1]

/-- The bytes of a 32-bit word in memory. -/
def bytes32 (w : UInt32) : List UInt8 :=
  [byteOf32 w 0, byteOf32 w 1, byteOf32 w 2, byteOf32 w 3]

@[simp] theorem bytes16_length (w : UInt16) : (bytes16 w).length = 2 := rfl

@[simp] theorem bytes32_length (w : UInt32) : (bytes32 w).length = 4 := rfl

/-- A word is the sum of its bytes. -/
theorem toNat_ofBytes16 (b₀ b₁ : UInt8) :
    (ofBytes16 b₀ b₁).toNat = b₀.toNat + 2 ^ 8 * b₁.toNat := by
  have h₀ := b₀.toNat_lt
  have h₁ := b₁.toNat_lt
  rw [ofBytes16, UInt16.toNat_ofNat_of_lt']
  simp only [UInt16.size]
  omega

/-- A double word is the sum of its bytes. -/
theorem toNat_ofBytes32 (b₀ b₁ b₂ b₃ : UInt8) :
    (ofBytes32 b₀ b₁ b₂ b₃).toNat
      = b₀.toNat + 2 ^ 8 * b₁.toNat + 2 ^ 16 * b₂.toNat + 2 ^ 24 * b₃.toNat := by
  have h₀ := b₀.toNat_lt
  have h₁ := b₁.toNat_lt
  have h₂ := b₂.toNat_lt
  have h₃ := b₃.toNat_lt
  rw [ofBytes32, UInt32.toNat_ofNat_of_lt']
  simp only [UInt32.size]
  omega

/-- A byte of a word is a digit of its number. -/
theorem toNat_byteOf16 (w : UInt16) (i : ℕ) :
    (byteOf16 w i).toNat = w.toNat / 2 ^ (8 * i) % 2 ^ 8 := by
  rw [byteOf16, UInt8.toNat_ofNat']

/-- A byte of a double word is a digit of its number. -/
theorem toNat_byteOf32 (w : UInt32) (i : ℕ) :
    (byteOf32 w i).toNat = w.toNat / 2 ^ (8 * i) % 2 ^ 8 := by
  rw [byteOf32, UInt8.toNat_ofNat']

/-! ### Storing and reading back -/

/-- A 16-bit word is the word of its bytes. -/
@[simp] theorem ofBytes16_bytes (w : UInt16) : ofBytes16 (byteOf16 w 0) (byteOf16 w 1) = w := by
  have hw := w.toNat_lt
  apply UInt16.toNat_inj.mp
  simp only [toNat_ofBytes16, toNat_byteOf16]
  omega

/-- A 32-bit word is the word of its bytes. -/
@[simp] theorem ofBytes32_bytes (w : UInt32) :
    ofBytes32 (byteOf32 w 0) (byteOf32 w 1) (byteOf32 w 2) (byteOf32 w 3) = w := by
  have hw := w.toNat_lt
  apply UInt32.toNat_inj.mp
  simp only [toNat_ofBytes32, toNat_byteOf32]
  omega

/-- The bytes of a 16-bit word that was read are the bytes read. -/
@[simp] theorem bytes16_ofBytes16 (b₀ b₁ : UInt8) : bytes16 (ofBytes16 b₀ b₁) = [b₀, b₁] := by
  have h₀ := b₀.toNat_lt
  have h₁ := b₁.toNat_lt
  simp only [bytes16, List.cons.injEq, and_true, ← UInt8.toNat_inj, toNat_byteOf16,
    toNat_ofBytes16]
  omega

/-- The bytes of a 32-bit word that was read are the bytes read. -/
@[simp] theorem bytes32_ofBytes32 (b₀ b₁ b₂ b₃ : UInt8) :
    bytes32 (ofBytes32 b₀ b₁ b₂ b₃) = [b₀, b₁, b₂, b₃] := by
  have h₀ := b₀.toNat_lt
  have h₁ := b₁.toNat_lt
  have h₂ := b₂.toNat_lt
  have h₃ := b₃.toNat_lt
  simp only [bytes32, List.cons.injEq, and_true, ← UInt8.toNat_inj, toNat_byteOf32,
    toNat_ofBytes32]
  omega

/-- A word is known from its bytes. -/
theorem bytes16_injective {v w : UInt16} (h : bytes16 v = bytes16 w) : v = w := by
  simp only [bytes16, List.cons.injEq, and_true] at h
  rw [← ofBytes16_bytes v, ← ofBytes16_bytes w, h.1, h.2]

/-- A double word is known from its bytes. -/
theorem bytes32_injective {v w : UInt32} (h : bytes32 v = bytes32 w) : v = w := by
  simp only [bytes32, List.cons.injEq, and_true] at h
  obtain ⟨h₀, h₁, h₂, h₃⟩ := h
  rw [← ofBytes32_bytes v, ← ofBytes32_bytes w, h₀, h₁, h₂, h₃]

/-! ### Byte order conversion -/

/-- `htons` and `ntohs`. -/
def byteSwap16 (w : UInt16) : UInt16 :=
  ofBytes16 (byteOf16 w 1) (byteOf16 w 0)

/-- `htonl` and `ntohl`. -/
def byteSwap32 (w : UInt32) : UInt32 :=
  ofBytes32 (byteOf32 w 3) (byteOf32 w 2) (byteOf32 w 1) (byteOf32 w 0)

/-- Swapping reverses the bytes of a word. -/
@[simp] theorem bytes16_byteSwap16 (w : UInt16) :
    bytes16 (byteSwap16 w) = (bytes16 w).reverse := by
  rw [byteSwap16, bytes16_ofBytes16]
  rfl

/-- Swapping reverses the bytes of a double word. -/
@[simp] theorem bytes32_byteSwap32 (w : UInt32) :
    bytes32 (byteSwap32 w) = (bytes32 w).reverse := by
  rw [byteSwap32, bytes32_ofBytes32]
  rfl

@[simp] theorem byteSwap16_byteSwap16 (w : UInt16) : byteSwap16 (byteSwap16 w) = w := by
  apply bytes16_injective
  rw [bytes16_byteSwap16, bytes16_byteSwap16, List.reverse_reverse]

@[simp] theorem byteSwap32_byteSwap32 (w : UInt32) : byteSwap32 (byteSwap32 w) = w := by
  apply bytes32_injective
  rw [bytes32_byteSwap32, bytes32_byteSwap32, List.reverse_reverse]

/-! ### Masks -/

/-- Each byte of `v & w` is the `&` of the bytes. -/
theorem byteOf32_and (v w : UInt32) (i : ℕ) :
    byteOf32 (v &&& w) i = byteOf32 v i &&& byteOf32 w i := by
  apply UInt8.toNat_inj.mp
  rw [UInt8.toNat_and, toNat_byteOf32, toNat_byteOf32, toNat_byteOf32, UInt32.toNat_and,
    Nat.and_div_two_pow, Nat.and_mod_two_pow]

end FastNetMon
