/-
FastNetMon/ReaderExtension.lean

Readers in a larger memory.

A memory extends another one if it holds all that the other holds.  A reader that
stays inside the smaller memory does the same in the larger one (`Agrees`).  The
lemmas for this relation are tagged, so that `gcongr` proves it along the text of a
reader.  With a window in place of the smaller memory, it says that a reader depends
on the bytes of the window only (`Agrees.eq_of_window`).
-/
import FastNetMon.Memory

namespace FastNetMon

open Memory

/-! ### Extensions -/

/-- What is held in `m` is held in `m'`. -/
def Memory.Extends (m m' : Memory) : Prop := ∀ i b, m i = some b → m' i = some b

/-- The second reader ends as the first one does, unless that one reads outside. -/
def Agrees {α : Type*} (x y : Except Fault α) : Prop := x = .error .outOfBounds ∨ x = y

variable {m m' : Memory} {lo hi p : ℕ}

@[refl] theorem Agrees.refl {α : Type*} (x : Except Fault α) : Agrees x x := .inr rfl

/-- A clean result is the same in both memories. -/
theorem Agrees.eq {α : Type*} {x y : Except Fault α} (h : Agrees x y) (hx : Clean x) : y = x := by
  rcases h with rfl | rfl
  · exact absurd hx (by simp [Clean])
  · rfl

/-- Two steps that agree, followed by steps that agree, agree. -/
@[gcongr] theorem Agrees.bind {α β : Type} {x y : Except Fault α} {f g : α → Except Fault β}
    (h : Agrees x y) (hf : ∀ a, Agrees (f a) (g a)) : Agrees (x >>= f) (y >>= g) := by
  rcases h with rfl | rfl
  · exact .inl rfl
  · cases x with
    | error e => exact .inr rfl
    | ok a => exact hf a

/-- A test on values both sides have is taken alike. -/
@[gcongr] theorem Agrees.ite {α : Type*} {c : Prop} [Decidable c] {x y x' y' : Except Fault α}
    (h : Agrees x y) (h' : Agrees x' y') : Agrees (if c then x else x') (if c then y else y') := by
  split
  · exact h
  · exact h'

/-! ### Reads -/

/-- A single byte read in the smaller memory is the byte of the larger one. -/
@[gcongr] theorem agrees_read (h : m.Extends m') (p : ℕ) : Agrees (m.read p) (m'.read p) := by
  rw [Memory.read, Memory.read]
  cases hm : m p with
  | none => exact .inl rfl
  | some b => rw [h p b hm]

@[gcongr] theorem agrees_read16 (h : m.Extends m') (p : ℕ) : Agrees (m.read16 p) (m'.read16 p) := by
  unfold Memory.read16
  gcongr

@[gcongr] theorem agrees_read32 (h : m.Extends m') (p : ℕ) : Agrees (m.read32 p) (m'.read32 p) := by
  unfold Memory.read32
  gcongr

@[gcongr] theorem agrees_readNtohs (h : m.Extends m') (p : ℕ) :
    Agrees (m.readNtohs p) (m'.readNtohs p) := by
  unfold Memory.readNtohs
  gcongr

@[gcongr] theorem agrees_readNtohl (h : m.Extends m') (p : ℕ) :
    Agrees (m.readNtohl p) (m'.readNtohl p) := by
  unfold Memory.readNtohl
  gcongr

/-- Reading a run of bytes agrees, byte by byte. -/
@[gcongr] theorem agrees_readBytes (h : m.Extends m') (p n : ℕ) :
    Agrees (m.readBytes p n) (m'.readBytes p n) := by
  induction n generalizing p with
  | zero => rfl
  | succ n ih =>
    rw [Memory.readBytes, Memory.readBytes]
    gcongr with b
    exact ih (p + 1)

@[gcongr] theorem Memory.Extends.shift (h : m.Extends m') (q : ℕ) :
    (m.shift q).Extends (m'.shift q) :=
  fun i b hb => h (q + i) b hb

/-! ### Windows -/

/-- A memory extends each of its windows. -/
theorem extends_window (m : Memory) (lo hi : ℕ) : (m.window lo hi).Extends m := by
  intro i b hb
  rw [window] at hb
  split at hb
  · exact hb
  · exact absurd hb (by simp)

/-- What is readable stays readable in the window around it. -/
theorem Memory.Readable.window (h : m.Readable lo hi) : (m.window lo hi).Readable lo hi := by
  intro i hlo hhi
  obtain ⟨b, hb⟩ := h i hlo hhi
  exact ⟨b, by rw [Memory.window, if_pos ⟨hlo, hhi⟩, hb]⟩

/-- The memory with zero bytes where nothing could be read. -/
def Memory.padded (m : Memory) : Memory := fun i => some ((m i).getD 0)

/-- Filling the unmapped addresses only adds bytes. -/
theorem extends_padded (m : Memory) : m.Extends m.padded := by
  intro i b hb
  rw [Memory.padded, hb]
  rfl

/-- Every address of a padded memory is readable. -/
theorem readable_padded (m : Memory) (lo hi : ℕ) : m.padded.Readable lo hi :=
  fun _ _ _ => ⟨_, rfl⟩

/-- Whether there are enough steps can be seen in a memory that is readable everywhere. -/
theorem Agrees.ne_outOfFuel {α : Type*} {x y : Except Fault α} (h : Agrees x y)
    (hy : y ≠ .error .outOfFuel) : x ≠ .error .outOfFuel := by
  rcases h with rfl | rfl
  · simp
  · exact hy

/-- A reader that stays in a window does not look at the rest. -/
theorem Agrees.eq_of_window {α : Type*} {f : Memory → Except Fault α}
    (hf : ∀ {m m'}, m.Extends m' → Agrees (f m) (f m')) (h : Clean (f (m.window lo hi))) :
    f m = f (m.window lo hi) :=
  (hf (extends_window m lo hi)).eq h

end FastNetMon
