/-
FastNetMon/Flowset.lean

Flowsets as they are sent.

A flowset of NetFlow v9 and a set of IPFIX look alike: an id, the length with the header,
and a body.  A list of them fills the rest of a datagram.
-/
import FastNetMon.ReaderExtension

namespace FastNetMon

open Memory

/-- A flowset that can be sent. -/
structure Flowset where
  id : UInt16
  body : List UInt8
  body_length : body.length + 4 < 65536
deriving DecidableEq

namespace Flowset

/-- The length in the header. -/
def length (f : Flowset) : UInt16 := .ofNat (f.body.length + 4)

/-- The bytes of a flowset. -/
def bytes (f : Flowset) : List UInt8 :=
  bytes16 (byteSwap16 f.id) ++ (bytes16 (byteSwap16 f.length) ++ f.body)

/-- The length of a set counts its header. -/
theorem toNat_length (f : Flowset) : f.length.toNat = f.body.length + 4 := by
  rw [length, UInt16.toNat_ofNat', Nat.mod_eq_of_lt f.body_length]

/-- A set takes as many bytes as it says. -/
@[simp] theorem length_bytes (f : Flowset) : f.bytes.length = f.length.toNat := by
  rw [f.toNat_length, bytes]
  simp only [List.length_append, bytes16_length]
  omega

/-- No set is shorter than its header. -/
theorem four_le_length (f : Flowset) : 4 ≤ f.length.toNat := by
  rw [f.toNat_length]
  exact Nat.le_add_left 4 _

end Flowset

/-- The bytes of some flowsets. -/
def flowsetsBytes (fs : List Flowset) : List UInt8 := fs.flatMap Flowset.bytes

@[simp] theorem flowsetsBytes_nil : flowsetsBytes [] = [] := rfl

@[simp] theorem flowsetsBytes_cons (f : Flowset) (fs : List Flowset) :
    flowsetsBytes (f :: fs) = f.bytes ++ flowsetsBytes fs := rfl

@[simp] theorem flowsetsBytes_append (fs gs : List Flowset) :
    flowsetsBytes (fs ++ gs) = flowsetsBytes fs ++ flowsetsBytes gs := List.flatMap_append

/-- Only no sets at all take no bytes. -/
theorem length_flowsetsBytes_eq_zero {fs : List Flowset} (h : (flowsetsBytes fs).length = 0) :
    fs = [] := by
  cases fs with
  | nil => rfl
  | cons f fs =>
    have hfour := f.four_le_length
    rw [flowsetsBytes_cons, List.length_append, Flowset.length_bytes] at h
    omega

/-! ### Reading the header -/

variable {m : Memory} {p : ℕ}

/-- The first word of a set is its id. -/
theorem Memory.Holds.readNtohs_id {f : Flowset} (h : m.Holds p f.bytes) :
    m.readNtohs p = .ok f.id :=
  (holds_append.mp h).1.readNtohs

/-- The second word of a set is its length. -/
theorem Memory.Holds.readNtohs_length {f : Flowset} (h : m.Holds p f.bytes) :
    m.readNtohs (p + 2) = .ok f.length :=
  (holds_append.mp (holds_append.mp h).2).1.readNtohs

/-- What is seen from a flowset in a datagram. -/
theorem holds_of_shift_eq {bs cs : List UInt8} (h : m.shift p = ofBytes (bs ++ cs)) :
    m.Holds p bs := by
  have hheld : (m.shift p).Holds 0 bs := by
    rw [h]
    exact (holds_append.mp (holds_ofBytes (bs ++ cs))).1
  have hmove : ∀ (bs : List UInt8) (q : ℕ), (m.shift p).Holds q bs → m.Holds (p + q) bs := by
    intro bs
    induction bs with
    | nil => exact fun _ _ => trivial
    | cons b bs ih =>
      intro q hq
      exact ⟨hq.1, by simpa [Nat.add_assoc] using ih (q + 1) hq.2⟩
  exact hmove bs 0 hheld

/-- Behind the first of two parts stands the second. -/
theorem shift_of_append {bs cs : List UInt8} (h : m.shift p = ofBytes (bs ++ cs)) :
    m.shift (p + bs.length) = ofBytes cs := by
  rw [← shift_shift, h, shift_ofBytes_append]

/-- What is appended to a buffer extends it. -/
theorem extends_ofBytes_append (bs cs : List UInt8) :
    (ofBytes bs).Extends (ofBytes (bs ++ cs)) := by
  intro i b hb
  obtain ⟨hi, hget⟩ := List.getElem?_eq_some_iff.mp hb
  rw [ofBytes, List.getElem?_append_left hi]
  exact hb

end FastNetMon
