/-
FastNetMon/LockSections.lean

Calls that take the locks of a state one after the other.

The state has parts with a lock each, and what a call does to a part depends on this part
only.  A section is what one call does to one part; the sections of calls of several threads
may come in any order.

Main results: at each part, sections in any order do what the calls would do that have a
section at this part (`same_runSections`), so that each part has a history of its own; and
the sections of calls with none in between are the calls (`runSections_of_calls`).
-/
import Mathlib.Data.List.Induction
import Mathlib.Data.List.Nodup

namespace FastNetMon

/-- A system of calls `C` on states `S` with parts `P`: `same p s t` says that the states agree
at a part, and `put p s t` is `s` with this part of `t`. -/
structure LockedParts (S P C : Type*) where
  run : C → S → S
  same : P → S → S → Prop
  put : P → S → S → S
  equivalence : ∀ p, Equivalence (same p)
  eq_of_same : ∀ {s t}, (∀ p, same p s t) → s = t
  same_put : ∀ p s t, same p (put p s t) t
  same_put_of_ne : ∀ {p q} s t, q ≠ p → same q (put p s t) s
  same_run : ∀ {p s t} c, same p s t → same p (run c s) (run c t)

variable {S P C : Type*}

/-- The calls that have a section at a part. -/
def callsAt [DecidableEq P] (p : P) (sections : List (P × C)) : List C :=
  (sections.filter (·.1 = p)).map Prod.snd

namespace LockedParts

variable (M : LockedParts S P C)

/-- What a call does to one part. -/
def runSection (s : S) (part : P × C) : S := M.put part.1 s (M.run part.2 s)

/-- Sections in the order in which they get their locks. -/
def runSections (s : S) (sections : List (P × C)) : S := sections.foldl M.runSection s

/-- Calls one after the other. -/
def runCalls (s : S) (calls : List C) : S := calls.foldl (fun s c => M.run c s) s

variable {M} {p q : P} {s t u : S} {c : C} {sections : List (P × C)}

theorem same_refl (p : P) (s : S) : M.same p s s := (M.equivalence p).refl s

theorem same_trans (h : M.same p s t) (h' : M.same p t u) : M.same p s u :=
  (M.equivalence p).trans h h'

/-- A section at a part is its call there, and nothing elsewhere. -/
theorem same_runSection [DecidableEq P] (part : P × C) (h : M.same p s t) :
    M.same p (M.runSection s part) (M.runCalls t (callsAt p [part])) := by
  by_cases hp : part.1 = p
  · have hcalls : callsAt p [part] = [part.2] := by simp [callsAt, hp]
    rw [hcalls, runSection, hp]
    exact same_trans (M.same_put p s _) (M.same_run part.2 h)
  · have hcalls : callsAt p [part] = [] := by simp [callsAt, hp]
    rw [hcalls]
    exact same_trans (M.same_put_of_ne s _ (Ne.symm hp)) h

variable (M) in
/-- **Each part has a history of its own.** -/
theorem same_runSections [DecidableEq P] (p : P) (s : S) (sections : List (P × C)) :
    M.same p (M.runSections s sections) (M.runCalls s (callsAt p sections)) := by
  induction sections using List.reverseRecOn with
  | nil => exact same_refl p s
  | append_singleton sections part ih =>
      have hcalls : M.runCalls s (callsAt p (sections ++ [part]))
          = M.runCalls (M.runCalls s (callsAt p sections)) (callsAt p [part]) := by
        rw [callsAt, List.filter_append, List.map_append, runCalls, List.foldl_append]
        rfl
      rw [hcalls, runSections, List.foldl_append]
      exact same_runSection part ih

/-- The sections of one call, each part once. -/
theorem callsAt_of_call [DecidableEq P] {parts : List P} (hparts : parts.Nodup) (p : P) (c : C) :
    callsAt p (parts.map (·, c)) = if p ∈ parts then [c] else [] := by
  induction parts with
  | nil => rfl
  | cons q parts ih =>
      obtain ⟨hq, hparts⟩ := List.nodup_cons.mp hparts
      have hrest := ih hparts
      rw [callsAt] at hrest ⊢
      by_cases hp : q = p
      · rw [← hp] at hrest ⊢
        simp [hrest, hq]
      · simp [hrest, hp, Ne.symm hp]

/-- **The sections of one call are the call**, if it changes nothing but its parts. -/
theorem runSections_of_call [DecidableEq P] {parts : List P} (hparts : parts.Nodup)
    (hothers : ∀ p, p ∉ parts → M.same p s (M.run c s)) :
    M.runSections s (parts.map (·, c)) = M.run c s := by
  refine M.eq_of_same fun p => ?_
  have h := M.same_runSections p s (parts.map (·, c))
  rw [callsAt_of_call hparts] at h
  by_cases hp : p ∈ parts
  · rwa [if_pos hp] at h
  · rw [if_neg hp] at h
    exact same_trans h (hothers p hp)

theorem runSections_of_calls {sectionsOf : C → List (P × C)}
    (hcall : ∀ s c, M.runSections s (sectionsOf c) = M.run c s) (s : S) (calls : List C) :
    M.runSections s (calls.flatMap sectionsOf) = M.runCalls s calls := by
  induction calls generalizing s with
  | nil => rfl
  | cons c calls ih =>
      rw [List.flatMap_cons, runSections, List.foldl_append]
      exact (ih _).trans (congrArg (M.runCalls · calls) (hcall s c))

end LockedParts

end FastNetMon
