/-
FastNetMon/Memory.lean

Readable memory and programs that read it.

A memory gives the byte at an address, or nothing where the address lies
outside every object the program may read.  A reader is a program in
`Except Fault`: it ends with a value, is turned down (`rejected`, the source
returns `false`), reads outside (`outOfBounds`), or runs out of the steps that
the model grants a loop (`outOfFuel`).

`Holds m p bs` says that the bytes `bs` stand at address `p`.  Reading is
described by it in both directions: what is held is what a read returns
(`Holds.read`, `Holds.readBytes`), and a read that succeeds shows what is held
(`holds_of_read`, `holds_of_readBytes`).
-/
import Mathlib.Data.List.Basic
import FastNetMon.Octets

namespace FastNetMon

/-! ### Memory -/

/-- The ways in which a reader does not return a value. -/
inductive Fault
  | rejected
  | outOfBounds
  | outOfFuel
deriving DecidableEq, Repr

instance {α : Type*} [DecidableEq α] : DecidableEq (Except Fault α)
  | .ok a, .ok b => decidable_of_iff (a = b) (by simp)
  | .error e, .error f => decidable_of_iff (e = f) (by simp)
  | .ok _, .error _ => isFalse (by simp)
  | .error _, .ok _ => isFalse (by simp)

/-- The readable bytes by their addresses. -/
abbrev Memory := ℕ → Option UInt8

namespace Memory

/-- The memory that holds exactly `bs`, from address 0 on. -/
def ofBytes (bs : List UInt8) : Memory := fun i => bs[i]?

/-- The part of a memory with addresses in `[lo, hi)`. -/
def window (m : Memory) (lo hi : ℕ) : Memory := fun i => if lo ≤ i ∧ i < hi then m i else none

/-- Read one byte. -/
def read (m : Memory) (p : ℕ) : Except Fault UInt8 :=
  match m p with
  | some b => .ok b
  | none => .error .outOfBounds

/-- Read a 16-bit word, `*(uint16_t*)p`. -/
def read16 (m : Memory) (p : ℕ) : Except Fault UInt16 := do
  let b₀ ← m.read p
  let b₁ ← m.read (p + 1)
  return ofBytes16 b₀ b₁

/-- Read a 32-bit word, `*(uint32_t*)p`. -/
def read32 (m : Memory) (p : ℕ) : Except Fault UInt32 := do
  let b₀ ← m.read p
  let b₁ ← m.read (p + 1)
  let b₂ ← m.read (p + 2)
  let b₃ ← m.read (p + 3)
  return ofBytes32 b₀ b₁ b₂ b₃

/-- `ntohs` of the word at an address. -/
def readNtohs (m : Memory) (p : ℕ) : Except Fault UInt16 := do
  let word ← m.read16 p
  return byteSwap16 word

/-- `ntohl` of the word at an address. -/
def readNtohl (m : Memory) (p : ℕ) : Except Fault UInt32 := do
  let word ← m.read32 p
  return byteSwap32 word

/-- Copy `n` bytes, as `memcpy` from `p` does. -/
def readBytes (m : Memory) (p : ℕ) : ℕ → Except Fault (List UInt8)
  | 0 => .ok []
  | n + 1 => do
      let b ← m.read p
      let bs ← m.readBytes (p + 1) n
      return b :: bs

/-- The memory as it is seen from the pointer `p`. -/
def shift (m : Memory) (p : ℕ) : Memory := fun i => m (p + i)

/-- Every address in `[lo, hi)` can be read. -/
def Readable (m : Memory) (lo hi : ℕ) : Prop := ∀ i, lo ≤ i → i < hi → ∃ b, m i = some b

/-- The bytes `bs` stand at address `p`. -/
def Holds (m : Memory) (p : ℕ) : List UInt8 → Prop
  | [] => True
  | b :: bs => m p = some b ∧ m.Holds (p + 1) bs

end Memory

open Memory

variable {m : Memory} {p lo hi : ℕ} {b : UInt8} {bs cs : List UInt8}

/-! ### Binding readers -/

/-- A sequence succeeds if both parts do. -/
@[simp] theorem bind_eq_ok_iff {ε α β : Type} {x : Except ε α} {f : α → Except ε β}
    {r : β} : (x >>= f) = .ok r ↔ ∃ a, x = .ok a ∧ f a = .ok r := by
  cases x with
  | error e => simp [bind, Except.bind]
  | ok a => simp [bind, Except.bind]

@[simp] theorem ok_bind {ε α β : Type} (a : α) (f : α → Except ε β) :
    ((Except.ok a : Except ε α) >>= f) = f a := rfl

@[simp] theorem error_bind {ε α β : Type} (e : ε) (f : α → Except ε β) :
    ((Except.error e : Except ε α) >>= f) = .error e := rfl

/-- `if (c) return false;` -/
def rejectIf (c : Prop) [Decidable c] : Except Fault Unit :=
  if c then .error .rejected else .ok ()

/-- The check passes if its condition fails. -/
@[simp] theorem rejectIf_eq_ok_iff {c : Prop} [Decidable c] {u : Unit} :
    rejectIf c = .ok u ↔ ¬ c := by
  rw [rejectIf]
  split <;> simp_all

/-- A check that passes. -/
theorem rejectIf_of_not {c : Prop} [Decidable c] (h : ¬ c) : rejectIf c = .ok () := by
  rw [rejectIf, if_neg h]

/-- A check that rejects. -/
theorem rejectIf_of {c : Prop} [Decidable c] (h : c) : rejectIf c = .error .rejected := by
  rw [rejectIf, if_pos h]

@[simp] theorem pure_eq_ok_iff {α : Type} {a b : α} :
    (pure a : Except Fault α) = .ok b ↔ a = b := by
  simp [pure, Except.pure]

/-- A reader ends with a value or is turned down; it neither reads outside nor
runs out of steps. -/
def Clean {α : Type*} : Except Fault α → Prop
  | .ok _ => True
  | .error f => f = .rejected

instance {α : Type*} (r : Except Fault α) : Decidable (Clean r) :=
  match r with
  | .ok _ => isTrue trivial
  | .error f => inferInstanceAs (Decidable (f = .rejected))

@[simp] theorem clean_ok {α : Type*} (a : α) : Clean (.ok a) := trivial

@[simp] theorem clean_rejected {α : Type*} : Clean (.error .rejected : Except Fault α) := rfl

@[simp] theorem clean_pure {α : Type} (a : α) : Clean (pure a : Except Fault α) := trivial

@[simp] theorem clean_rejectIf (c : Prop) [Decidable c] : Clean (rejectIf c) := by
  rw [rejectIf]
  split <;> trivial

/-- Readers are clean one after the other. -/
theorem Clean.bind {α β : Type} {x : Except Fault α} {f : α → Except Fault β} (hx : Clean x)
    (hf : ∀ a, x = .ok a → Clean (f a)) : Clean (x >>= f) := by
  cases x with
  | error e => exact hx
  | ok a => exact hf a rfl

/-! ### Reading what is held -/

/-- A byte is read where there is one. -/
theorem read_eq_ok_iff : m.read p = .ok b ↔ m p = some b := by
  rw [Memory.read]
  cases m p <;> simp

/-- A part of what is readable is readable. -/
theorem Memory.Readable.mono {lo' hi' : ℕ} (h : m.Readable lo hi) (hlo : lo ≤ lo')
    (hhi : hi' ≤ hi) : m.Readable lo' hi' :=
  fun i h₁ h₂ => h i (hlo.trans h₁) (h₂.trans_le hhi)

/-- A byte of a readable part can be read. -/
theorem Memory.Readable.read (h : m.Readable lo hi) (hlo : lo ≤ p) (hhi : p < hi) :
    ∃ b, m.read p = .ok b ∧ m p = some b := by
  obtain ⟨b, hb⟩ := h p hlo hhi
  exact ⟨b, read_eq_ok_iff.mpr hb, hb⟩

/-- A buffer is readable from end to end. -/
theorem readable_ofBytes (bs : List UInt8) : (ofBytes bs).Readable 0 bs.length := by
  intro i _ hi
  exact ⟨bs[i], List.getElem?_eq_getElem hi⟩

/-- The first byte that is held is read. -/
theorem Memory.Holds.read (h : m.Holds p (b :: bs)) : m.read p = .ok b :=
  read_eq_ok_iff.mpr h.1

/-- Two parts are held if the second one is held behind the first one. -/
theorem holds_append : m.Holds p (bs ++ cs) ↔ m.Holds p bs ∧ m.Holds (p + bs.length) cs := by
  induction bs generalizing p with
  | nil => simp [Holds]
  | cons b bs ih =>
    simp only [List.cons_append, Holds, List.length_cons, ih, and_assoc]
    rw [show p + 1 + bs.length = p + (bs.length + 1) by omega]

/-- A prefix that is held at the start of a memory is a prefix of its bytes. -/
theorem holds_ofBytes_iff : (ofBytes bs).Holds p cs ↔ cs <+: bs.drop p := by
  induction cs generalizing p with
  | nil => simp [Holds]
  | cons c cs ih =>
    rw [Holds, ih, ofBytes]
    constructor
    · rintro ⟨hc, t, ht⟩
      obtain ⟨hp, hget⟩ := List.getElem?_eq_some_iff.mp hc
      refine ⟨t, ?_⟩
      rw [List.drop_eq_getElem_cons hp, hget, List.cons_append, ht]
    · rintro ⟨t, ht⟩
      have hp : p < bs.length := by
        by_contra hge
        rw [List.drop_eq_nil_of_le (by omega)] at ht
        exact absurd ht (by simp)
      rw [List.drop_eq_getElem_cons hp, List.cons_append, List.cons.injEq] at ht
      exact ⟨by rw [List.getElem?_eq_getElem hp, ← ht.1], t, ht.2⟩

/-- A memory holds its own bytes. -/
theorem holds_ofBytes (bs : List UInt8) : (ofBytes bs).Holds 0 bs :=
  holds_ofBytes_iff.mpr (List.prefix_refl bs)

/-- What is held over a whole memory is that memory's bytes. -/
theorem eq_of_holds_ofBytes (h : (ofBytes bs).Holds 0 cs) (hlen : cs.length = bs.length) :
    cs = bs :=
  (holds_ofBytes_iff.mp h).eq_of_length hlen

/-- What is held is readable. -/
theorem Memory.Holds.readable (h : m.Holds p bs) : m.Readable p (p + bs.length) := by
  induction bs generalizing p with
  | nil =>
    intro i h₁ h₂
    exact absurd h₂ (by simpa using h₁)
  | cons b bs ih =>
    intro i h₁ h₂
    rcases h₁.eq_or_lt with rfl | hlt
    · exact ⟨b, h.1⟩
    · exact ih h.2 i hlt (by simp only [List.length_cons] at h₂; omega)

/-! ### Copies -/

/-- Copying what is held. -/
theorem Memory.Holds.readBytes (h : m.Holds p bs) : m.readBytes p bs.length = .ok bs := by
  induction bs generalizing p with
  | nil => rfl
  | cons b bs ih =>
    rw [List.length_cons, Memory.readBytes, read_eq_ok_iff.mpr h.1, ih h.2]
    rfl

/-- A copy that succeeds shows what is held. -/
theorem holds_of_readBytes {n : ℕ} (h : m.readBytes p n = .ok bs) :
    m.Holds p bs ∧ bs.length = n := by
  induction n generalizing p bs with
  | zero =>
    obtain rfl : [] = bs := by simpa [Memory.readBytes] using h
    exact ⟨trivial, rfl⟩
  | succ n ih =>
    simp only [Memory.readBytes, bind_eq_ok_iff] at h
    obtain ⟨b, hb, cs, hcs, hbs⟩ := h
    obtain rfl : b :: cs = bs := pure_eq_ok_iff.mp hbs
    obtain ⟨hheld, hlen⟩ := ih hcs
    exact ⟨⟨read_eq_ok_iff.mp hb, hheld⟩, by rw [List.length_cons, hlen]⟩

/-- A readable range can be copied. -/
theorem Memory.Readable.readBytes {n : ℕ} (h : m.Readable p (p + n)) :
    ∃ bs, m.readBytes p n = .ok bs := by
  induction n generalizing p with
  | zero => exact ⟨[], rfl⟩
  | succ n ih =>
    obtain ⟨b, hb, -⟩ := h.read le_rfl (by omega)
    obtain ⟨bs, hbs⟩ := ih (p := p + 1) (h.mono (by omega) (by omega))
    exact ⟨b :: bs, by rw [Memory.readBytes, hb, hbs]; rfl⟩

/-- A word is read where its bytes are held. -/
theorem read16_eq_ok_iff {w : UInt16} :
    m.read16 p = .ok w ↔ m.Holds p (bytes16 w) := by
  simp only [Memory.read16, bind_eq_ok_iff, read_eq_ok_iff, bytes16, Holds, and_true]
  constructor
  · rintro ⟨b₀, h₀, b₁, h₁, hw⟩
    obtain rfl : ofBytes16 b₀ b₁ = w := pure_eq_ok_iff.mp hw
    have hb := bytes16_ofBytes16 b₀ b₁
    simp only [bytes16, List.cons.injEq, and_true] at hb
    rw [hb.1, hb.2]
    exact ⟨h₀, h₁⟩
  · rintro ⟨h₀, h₁⟩
    exact ⟨_, h₀, _, h₁, by rw [ofBytes16_bytes]; rfl⟩

/-- Two readable bytes can be read as a word. -/
theorem Memory.Readable.read16 (h : m.Readable lo hi) (hlo : lo ≤ p) (hhi : p + 1 < hi) :
    ∃ w, m.read16 p = .ok w := by
  obtain ⟨b₀, h₀, -⟩ := h.read hlo (by omega)
  obtain ⟨b₁, h₁, -⟩ := h.read (p := p + 1) (by omega) hhi
  exact ⟨ofBytes16 b₀ b₁, by rw [Memory.read16, h₀, h₁]; rfl⟩

/-- A word in the order of the host. -/
theorem Memory.Holds.read16 {w : UInt16} (h : m.Holds p (bytes16 w)) : m.read16 p = .ok w :=
  read16_eq_ok_iff.mpr h

/-- A word of 32 bits in the order of the host. -/
theorem Memory.Holds.read32 {w : UInt32} (h : m.Holds p (bytes32 w)) : m.read32 p = .ok w := by
  obtain ⟨h₀, h₁, h₂, h₃, -⟩ := h
  rw [Memory.read32, read_eq_ok_iff.mpr h₀, read_eq_ok_iff.mpr h₁, read_eq_ok_iff.mpr h₂,
    read_eq_ok_iff.mpr h₃]
  simp only [ok_bind, ofBytes32_bytes]
  rfl

/-- Four readable bytes can be read as a word. -/
theorem Memory.Readable.read32 (h : m.Readable lo hi) (hlo : lo ≤ p) (hhi : p + 3 < hi) :
    ∃ w, m.read32 p = .ok w := by
  obtain ⟨b₀, h₀, -⟩ := h.read hlo (by omega)
  obtain ⟨b₁, h₁, -⟩ := h.read (p := p + 1) (by omega) (by omega)
  obtain ⟨b₂, h₂, -⟩ := h.read (p := p + 2) (by omega) (by omega)
  obtain ⟨b₃, h₃, -⟩ := h.read (p := p + 3) (by omega) hhi
  exact ⟨ofBytes32 b₀ b₁ b₂ b₃, by rw [Memory.read32, h₀, h₁, h₂, h₃]; rfl⟩

/-- A word of a readable part can be read. -/
theorem Memory.Readable.readNtohs (h : m.Readable lo hi) (hlo : lo ≤ p) (hhi : p + 1 < hi) :
    ∃ w, m.readNtohs p = .ok w := by
  obtain ⟨w, hw⟩ := h.read16 hlo hhi
  exact ⟨byteSwap16 w, by rw [Memory.readNtohs, hw]; rfl⟩

/-- A word of 32 bits of a readable part can be read. -/
theorem Memory.Readable.readNtohl (h : m.Readable lo hi) (hlo : lo ≤ p) (hhi : p + 3 < hi) :
    ∃ w, m.readNtohl p = .ok w := by
  obtain ⟨w, hw⟩ := h.read32 hlo hhi
  exact ⟨byteSwap32 w, by rw [Memory.readNtohl, hw]; rfl⟩

/-- A word in network byte order. -/
theorem Memory.Holds.readNtohs {w : UInt16} (h : m.Holds p (bytes16 (byteSwap16 w))) :
    m.readNtohs p = .ok w := by
  rw [Memory.readNtohs, h.read16]
  exact congrArg Except.ok (byteSwap16_byteSwap16 w)

/-- A word of 32 bits in network byte order. -/
theorem Memory.Holds.readNtohl {w : UInt32} (h : m.Holds p (bytes32 (byteSwap32 w))) :
    m.readNtohl p = .ok w := by
  rw [Memory.readNtohl, h.read32]
  exact congrArg Except.ok (byteSwap32_byteSwap32 w)

/-- A read inside is clean. -/
theorem Memory.Readable.clean_read (h : m.Readable lo hi) (hlo : lo ≤ p) (hhi : p + 1 ≤ hi) :
    Clean (m.read p) := by
  obtain ⟨b, hb, -⟩ := h.read hlo hhi
  rw [hb]
  trivial

theorem Memory.Readable.clean_readNtohs (h : m.Readable lo hi) (hlo : lo ≤ p) (hhi : p + 2 ≤ hi) :
    Clean (m.readNtohs p) := by
  obtain ⟨w, hw⟩ := h.readNtohs hlo hhi
  rw [hw]
  trivial

theorem Memory.Readable.clean_readNtohl (h : m.Readable lo hi) (hlo : lo ≤ p) (hhi : p + 4 ≤ hi) :
    Clean (m.readNtohl p) := by
  obtain ⟨w, hw⟩ := h.readNtohl hlo hhi
  rw [hw]
  trivial

theorem Memory.Readable.clean_readBytes {n : ℕ} (h : m.Readable lo hi) (hlo : lo ≤ p)
    (hhi : p + n ≤ hi) : Clean (m.readBytes p n) := by
  obtain ⟨bs, hbs⟩ := (h.mono hlo hhi).readBytes
  rw [hbs]
  trivial

/-! ### Pointers into a memory -/

@[simp] theorem shift_zero (m : Memory) : m.shift 0 = m := by
  funext i
  rw [shift, Nat.zero_add]

/-- Two shifts are one. -/
@[simp] theorem shift_shift (m : Memory) (p q : ℕ) : (m.shift p).shift q = m.shift (p + q) := by
  funext i
  rw [shift, shift, shift, Nat.add_assoc]

/-- A shifted memory is read at the sum of both addresses. -/
@[simp] theorem read_shift (m : Memory) (p q : ℕ) : (m.shift p).read q = m.read (p + q) := rfl

@[simp] theorem read16_shift (m : Memory) (p q : ℕ) :
    (m.shift p).read16 q = m.read16 (p + q) := rfl

@[simp] theorem read32_shift (m : Memory) (p q : ℕ) :
    (m.shift p).read32 q = m.read32 (p + q) := rfl

@[simp] theorem readNtohs_shift (m : Memory) (p q : ℕ) :
    (m.shift p).readNtohs q = m.readNtohs (p + q) := rfl

@[simp] theorem readNtohl_shift (m : Memory) (p q : ℕ) :
    (m.shift p).readNtohl q = m.readNtohl (p + q) := rfl

@[simp] theorem readBytes_shift (m : Memory) (p q n : ℕ) :
    (m.shift p).readBytes q n = m.readBytes (p + q) n := by
  induction n generalizing q with
  | zero => rfl
  | succ n ih =>
    rw [Memory.readBytes, Memory.readBytes, read_shift, ih, Nat.add_assoc]

/-- Behind the first part of a buffer stands the second. -/
theorem shift_ofBytes_append (bs cs : List UInt8) :
    (ofBytes (bs ++ cs)).shift bs.length = ofBytes cs := by
  funext i
  rw [shift, ofBytes, ofBytes, List.getElem?_append_right (Nat.le_add_right _ _),
    Nat.add_sub_cancel_left]

/-- A shift moves what is readable. -/
theorem Memory.Readable.shift (h : m.Readable lo hi) (q : ℕ) :
    (m.shift q).Readable (lo - q) (hi - q) := by
  intro i h₁ h₂
  exact h (q + i) (by omega) (by omega)

/-! ### Reading past the end

`Ends m p bs` says that `bs` is all there is from address `p` on.  A reader then
goes outside exactly if it asks for more. -/

/-- The bytes `bs` stand at address `p`, and nothing behind them can be read. -/
def Memory.Ends (m : Memory) (p : ℕ) (bs : List UInt8) : Prop :=
  m.Holds p bs ∧ ∀ i, p + bs.length ≤ i → m i = none

/-- A sequence leaves the memory in its first part, or in the second one after the first. -/
theorem bind_eq_outOfBounds_iff {α β : Type} {x : Except Fault α} {f : α → Except Fault β} :
    (x >>= f) = .error .outOfBounds ↔
      x = .error .outOfBounds ∨ ∃ a, x = .ok a ∧ f a = .error .outOfBounds := by
  cases x with
  | error e => simp
  | ok a => simp

@[simp] theorem rejectIf_ne_outOfBounds (c : Prop) [Decidable c] :
    rejectIf c ≠ .error .outOfBounds := by
  rw [rejectIf]
  split <;> simp

@[simp] theorem pure_ne_outOfBounds {α : Type} (a : α) :
    (pure a : Except Fault α) ≠ .error .outOfBounds := by
  simp [pure, Except.pure]

/-- Readers that have enough steps one after the other. -/
theorem bind_ne_outOfFuel {α β : Type} {x : Except Fault α} {f : α → Except Fault β}
    (hx : x ≠ .error .outOfFuel) (hf : ∀ a, x = .ok a → f a ≠ .error .outOfFuel) :
    (x >>= f) ≠ .error .outOfFuel := by
  cases x with
  | error e => simpa using hx
  | ok a => exact hf a rfl

/-- A fault of a program that does not run out of fuel is another one. -/
theorem fault_ne_outOfFuel {α : Type*} {x : Except Fault α} {fault : Fault}
    (h : x ≠ .error .outOfFuel) (hx : x = .error fault) : fault ≠ .outOfFuel := by
  rintro rfl
  exact h hx

/-- A clean program does not run out of fuel. -/
theorem Clean.ne_outOfFuel {α : Type} {x : Except Fault α} (h : Clean x) :
    x ≠ .error .outOfFuel := by
  rintro rfl
  exact absurd h (by simp [Clean])

/-- Reads need no fuel. -/
theorem read_ne_outOfFuel (m : Memory) (p : ℕ) : m.read p ≠ .error .outOfFuel := by
  rw [Memory.read]
  cases m p <;> simp

theorem read16_ne_outOfFuel (m : Memory) (p : ℕ) : m.read16 p ≠ .error .outOfFuel :=
  bind_ne_outOfFuel (read_ne_outOfFuel m p) fun _ _ =>
    bind_ne_outOfFuel (read_ne_outOfFuel m (p + 1)) fun _ _ => (clean_pure _).ne_outOfFuel

theorem readBytes_ne_outOfFuel (m : Memory) (p n : ℕ) : m.readBytes p n ≠ .error .outOfFuel := by
  induction n generalizing p with
  | zero => simp [Memory.readBytes]
  | succ n ih =>
    exact bind_ne_outOfFuel (read_ne_outOfFuel m p) fun _ _ =>
      bind_ne_outOfFuel (ih (p + 1)) fun _ _ => (clean_pure _).ne_outOfFuel

/-- A reader that is not clean but has enough steps reads outside. -/
theorem clean_iff {α : Type} {x : Except Fault α} (h : x ≠ .error .outOfFuel) :
    Clean x ↔ x ≠ .error .outOfBounds := by
  cases x with
  | ok a => simp
  | error e => cases e <;> simp_all [Clean]

/-- A read is out of bounds where there is no byte. -/
theorem read_eq_outOfBounds_iff : m.read p = .error .outOfBounds ↔ m p = none := by
  rw [Memory.read]
  cases m p <;> simp

/-- From any address on, a buffer ends with the rest of its bytes. -/
theorem ends_ofBytes_drop (h : p ≤ bs.length) : (ofBytes bs).Ends p (bs.drop p) := by
  refine ⟨holds_ofBytes_iff.mpr (List.prefix_refl _), ?_⟩
  intro i hi
  rw [List.length_drop] at hi
  rw [ofBytes, List.getElem?_eq_none]
  omega

/-- A memory ends with two parts if it holds the first and ends with the second. -/
theorem ends_append : m.Ends p (bs ++ cs) ↔ m.Holds p bs ∧ m.Ends (p + bs.length) cs := by
  rw [Memory.Ends, holds_append, Memory.Ends, List.length_append, ← add_assoc, and_assoc]

theorem ends_cons : m.Ends p (b :: bs) ↔ m p = some b ∧ m.Ends (p + 1) bs := by
  rw [← List.singleton_append, ends_append]
  simp [Holds]

/-- What is held stands at the front of what there is. -/
theorem Memory.Ends.eq_append (h : m.Ends p bs) (hcs : m.Holds p cs) : ∃ ds, bs = cs ++ ds := by
  induction cs generalizing p bs with
  | nil => exact ⟨bs, rfl⟩
  | cons c cs ih =>
    cases bs with
    | nil =>
      have hnone : m p = none := h.2 p (by simp)
      exact absurd hcs.1 (by simp [hnone])
    | cons b bs =>
      rw [ends_cons] at h
      obtain ⟨ds, rfl⟩ := ih h.2 hcs.2
      obtain rfl : b = c := Option.some.inj (h.1.symm.trans hcs.1)
      exact ⟨ds, rfl⟩

/-- A read at the end is out of bounds. -/
theorem Memory.Ends.read_iff (h : m.Ends p bs) : m.read p = .error .outOfBounds ↔ bs = [] := by
  rw [read_eq_outOfBounds_iff]
  cases bs with
  | nil => simpa using h.2 p
  | cons b bs => simp [(ends_cons.mp h).1]

/-- A memory that ends with some bytes ends with fewer of them further on. -/
theorem Memory.Ends.drop (h : m.Ends p bs) {n : ℕ} (hn : n ≤ bs.length) :
    m.Ends (p + n) (bs.drop n) := by
  rw [← List.take_append_drop n bs, ends_append, List.length_take, min_eq_left hn] at h
  exact h.2

/-- A read is out of bounds from the end on. -/
theorem Memory.Ends.read_add_iff (h : m.Ends p bs) (n : ℕ) :
    m.read (p + n) = .error .outOfBounds ↔ bs.length ≤ n := by
  rcases Nat.lt_or_ge n bs.length with hlt | hge
  · rw [(h.drop hlt.le).read_iff, List.drop_eq_nil_iff]
  · rw [read_eq_outOfBounds_iff]
    exact ⟨fun _ => hge, fun _ => h.2 _ (by omega)⟩

/-- A word needs two bytes. -/
theorem Memory.Ends.read16_iff (h : m.Ends p bs) :
    m.read16 p = .error .outOfBounds ↔ bs.length < 2 := by
  simp only [Memory.read16, bind_eq_outOfBounds_iff, h.read_iff, read_eq_ok_iff,
    pure_ne_outOfBounds, and_false, exists_false, or_false]
  cases bs with
  | nil => simp
  | cons b bs =>
    rw [ends_cons] at h
    simp only [h.2.read_iff, h.1, reduceCtorEq, false_or, Option.some.injEq, exists_eq_left']
    cases bs <;> simp

/-- A span needs all of its bytes. -/
theorem Memory.Ends.readBytes_iff (h : m.Ends p bs) (n : ℕ) :
    m.readBytes p n = .error .outOfBounds ↔ bs.length < n := by
  induction n generalizing p bs with
  | zero => simp [Memory.readBytes]
  | succ n ih =>
    simp only [Memory.readBytes, bind_eq_outOfBounds_iff, h.read_iff, read_eq_ok_iff,
      pure_ne_outOfBounds, and_false, exists_false, or_false]
    cases bs with
    | nil => simp
    | cons b bs =>
      rw [ends_cons] at h
      simp [h.1, ih h.2]

end FastNetMon
