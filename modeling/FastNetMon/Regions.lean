/-
FastNetMon/Regions.lean

Regions that follow each other.

A region is a piece of memory behind a header of fixed size.  A list of regions is
laid out in an interval if the header of each begins where the region before it
ends, and the last one ends in the interval (`Consecutive`).  Such regions lie in
the interval and do not overlap.
-/
import Mathlib.Data.List.Basic
import Mathlib.Tactic

namespace FastNetMon

/-- A piece of memory. -/
structure Region where
  start : ℕ
  length : ℕ
deriving DecidableEq, Repr

/-- The first address behind a region. -/
def Region.stop (region : Region) : ℕ := region.start + region.length

/-- The regions follow each other from `lo` on, each behind a header of `header`
bytes, and end by `hi`. -/
def Consecutive (header lo hi : ℕ) : List Region → Prop
  | [] => lo ≤ hi
  | region :: regions =>
      region.start = lo + header ∧ Consecutive header region.stop hi regions

variable {header lo hi : ℕ} {region : Region} {regions : List Region}

theorem Consecutive.le (h : Consecutive header lo hi regions) : lo ≤ hi := by
  induction regions generalizing lo with
  | nil => exact h
  | cons region regions ih =>
    have hstop := ih h.2
    have hstart := h.1
    rw [Region.stop] at hstop
    omega

/-- Every region lies in the interval, with its header. -/
theorem Consecutive.inside (h : Consecutive header lo hi regions) (hmem : region ∈ regions) :
    lo + header ≤ region.start ∧ region.stop ≤ hi := by
  induction regions generalizing lo with
  | nil => cases hmem
  | cons first regions ih =>
    rcases List.mem_cons.mp hmem with rfl | hmem
    · exact ⟨h.1.ge, h.2.le⟩
    · have hlater := ih h.2 hmem
      have hstart := h.1
      rw [Region.stop] at hlater
      omega

/-- The regions do not overlap. -/
theorem Consecutive.pairwise (h : Consecutive header lo hi regions) :
    regions.Pairwise fun earlier later => earlier.stop + header ≤ later.start := by
  induction regions generalizing lo with
  | nil => exact .nil
  | cons first regions ih =>
    refine List.Pairwise.cons (fun later hmem => ?_) (ih h.2)
    exact (h.2.inside hmem).1

/-- Regions of bounded length do not reach far. -/
theorem Consecutive.stop_le {bound : ℕ} (h : Consecutive header lo hi regions)
    (hbound : ∀ region ∈ regions, region.length ≤ bound) (hmem : region ∈ regions) :
    region.stop ≤ lo + regions.length * (header + bound) := by
  induction regions generalizing lo with
  | nil => cases hmem
  | cons first regions ih =>
    have hstart := h.1
    have hfirst := hbound first List.mem_cons_self
    have hstop : first.stop ≤ lo + (header + bound) := by
      rw [Region.stop]
      omega
    rw [List.length_cons, Nat.add_mul, Nat.one_mul]
    rcases List.mem_cons.mp hmem with rfl | hmem
    · omega
    · have hlater := ih h.2 (fun region hregion => hbound region (List.mem_cons_of_mem _ hregion))
        hmem
      omega

end FastNetMon
