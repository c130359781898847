/-
FastNetMon/Locality.lean

Operations that concern one component of a shared state.

A state of type `S` is cut into components by restrictions: `cut v s` is the
state that keeps of `s` what belongs to `v`.  An operation is local to `v` if
it does on `cut v s` exactly what it does on `s`, and leaves the component of
every other index alone.  Where the components determine the state, two
operations local to different indices commute, with the same results in either
order (`LocalTo.commute`).

Steps that may read components of each other are taken in any order, if no step
reads what another one writes: a component that has one writer at most is the same
in the end (`get_foldl_perm`).
-/
import Mathlib.Data.List.Perm.Basic

namespace FastNetMon

variable {V S R R' : Type*}

/-- `op` reads and writes only the component `v`. -/
structure LocalTo (cut : V → S → S) (v : V) (op : S → R × S) : Prop where
  /-- running on the component is running on the whole state, seen there -/
  on_cut : ∀ s, op (cut v s) = ((op s).1, cut v (op s).2)
  /-- every other component stays as it is -/
  frame : ∀ s u, u ≠ v → cut u (op s).2 = cut u s

variable {cut : V → S → S} {u v : V} {f : S → R × S} {g : S → R' × S}

/-- States with the same component get the same result from a local operation. -/
theorem LocalTo.result_eq (h : LocalTo cut v f) {s t : S} (hst : cut v s = cut v t) :
    (f s).1 = (f t).1 := by
  have hs := congrArg Prod.fst (h.on_cut s)
  have ht := congrArg Prod.fst (h.on_cut t)
  rw [hst] at hs
  exact hs.symm.trans ht

/-- States with the same component have the same component afterwards. -/
theorem LocalTo.cut_eq (h : LocalTo cut v f) {s t : S} (hst : cut v s = cut v t) :
    cut v (f s).2 = cut v (f t).2 := by
  have hs := congrArg Prod.snd (h.on_cut s)
  have ht := congrArg Prod.snd (h.on_cut t)
  rw [hst] at hs
  exact hs.symm.trans ht

/-- An operation on another component does not change the result. -/
theorem LocalTo.result_frame (hf : LocalTo cut u f) (hg : LocalTo cut v g) (huv : u ≠ v) (s : S) :
    (f (g s).2).1 = (f s).1 :=
  hf.result_eq (hg.frame s u huv)

/-- **Operations local to different components commute.** -/
theorem LocalTo.commute (hext : ∀ {s t : S}, (∀ w, cut w s = cut w t) → s = t)
    (hf : LocalTo cut u f) (hg : LocalTo cut v g) (huv : u ≠ v) (s : S) :
    (f (g s).2).2 = (g (f s).2).2 := by
  refine hext fun w => ?_
  by_cases hwu : w = u
  · subst hwu
    rw [hg.frame _ w huv]
    exact hf.cut_eq (hg.frame s w huv)
  · rw [hf.frame _ w hwu]
    by_cases hwv : w = v
    · subst hwv
      exact hg.cut_eq (hf.frame s w hwu).symm
    · rw [hg.frame _ w hwv, hg.frame _ w hwv, hf.frame _ w hwu]

/-! ### Steps in any order -/

section Writers

variable {σ ι φ : Type*} {C : ι → Type*} (get : ∀ i, σ → C i) (step : φ → σ → σ)

/-- A step writes a component that it changes in some state. -/
def Writes (x : φ) (i : ι) : Prop := ∃ a, get i (step x a) ≠ get i a

/-- What a step leaves in a component depends on that component and on those it reads. -/
def ReadsOnly (x : φ) (reads : List ι) : Prop :=
  ∀ a b, (∀ r ∈ reads, get r a = get r b) → ∀ i, get i a = get i b →
    get i (step x a) = get i (step x b)

variable {get step} {i : ι} {xs ys : List φ}

/-- What no step writes stays. -/
theorem get_foldl_of_not_writes (h : ∀ x ∈ xs, ¬ Writes get step x i) (a : σ) :
    get i (xs.foldl (fun a x => step x a) a) = get i a := by
  induction xs generalizing a with
  | nil => rfl
  | cons x xs ih =>
    rw [List.foldl_cons, ih fun y hy => h y (List.mem_cons_of_mem _ hy)]
    by_contra hne
    exact h x List.mem_cons_self ⟨a, hne⟩

/-- What one step writes is what it makes of the first state. -/
theorem get_foldl_of_writer {x : φ} {reads : List ι} (hx : x ∈ xs) (hnodup : xs.Nodup)
    (hreads : ReadsOnly get step x reads)
    (happart : ∀ y ∈ xs, y ≠ x → ∀ r ∈ reads, ¬ Writes get step y r)
    (honly : ∀ y ∈ xs, y ≠ x → ¬ Writes get step y i) (a : σ) :
    get i (xs.foldl (fun a x => step x a) a) = get i (step x a) := by
  -- in front of the writer and behind it, nothing writes what counts
  obtain ⟨before, after, rfl⟩ := List.append_of_mem hx
  have hbefore : ∀ y ∈ before, y ≠ x := by
    rintro y hy rfl
    exact (List.nodup_append.mp hnodup).2.2 y hy y List.mem_cons_self rfl
  have hafter : ∀ y ∈ after, y ≠ x := by
    rintro y hy rfl
    exact (List.nodup_cons.mp (List.nodup_append.mp hnodup).2.1).1 hy
  have hmem : ∀ y ∈ before, y ∈ before ++ x :: after :=
    fun y hy => List.mem_append_left _ hy
  rw [List.foldl_append, List.foldl_cons, get_foldl_of_not_writes fun y hy =>
    honly y (List.mem_append_right _ (List.mem_cons_of_mem _ hy)) (hafter y hy)]
  refine hreads _ _ (fun r hr => ?_) i ?_
  · exact get_foldl_of_not_writes (fun y hy => happart y (hmem y hy) (hbefore y hy) r hr) a
  · exact get_foldl_of_not_writes (fun y hy => honly y (hmem y hy) (hbefore y hy)) a

/-- **The order of steps.**  If no step reads what another one writes, a component with one
writer at most is the same after the steps in any order. -/
theorem get_foldl_perm (hperm : xs.Perm ys) (hnodup : xs.Nodup) {reads : φ → List ι}
    (hreads : ∀ x ∈ xs, ReadsOnly get step x (reads x))
    (happart : ∀ x ∈ xs, ∀ y ∈ xs, y ≠ x → ∀ r ∈ reads x, ¬ Writes get step y r)
    (honly : ∀ x ∈ xs, ∀ y ∈ xs, y ≠ x → ¬ (Writes get step x i ∧ Writes get step y i)) (a : σ) :
    get i (xs.foldl (fun a x => step x a) a) = get i (ys.foldl (fun a x => step x a) a) := by
  have hmem : ∀ y, y ∈ ys → y ∈ xs := fun y => hperm.mem_iff.mpr
  by_cases hwriter : ∃ x ∈ xs, Writes get step x i
  · obtain ⟨x, hx, hwrites⟩ := hwriter
    have hsole : ∀ y ∈ xs, y ≠ x → ¬ Writes get step y i :=
      fun y hy hne hy' => honly x hx y hy hne ⟨hwrites, hy'⟩
    rw [get_foldl_of_writer hx hnodup (hreads x hx) (happart x hx) hsole,
      get_foldl_of_writer (hperm.mem_iff.mp hx) (hperm.nodup_iff.mp hnodup) (hreads x hx)
        (fun y hy => happart x hx y (hmem y hy)) fun y hy => hsole y (hmem y hy)]
  · have hnone : ∀ x ∈ xs, ¬ Writes get step x i := fun x hx hw => hwriter ⟨x, hx, hw⟩
    rw [get_foldl_of_not_writes hnone, get_foldl_of_not_writes fun y hy => hnone y (hmem y hy)]

end Writers

end FastNetMon
