/-
FastNetMon/Threads.lean

Pools of threads over a shared state.

A thread is the list of the instructions it still has to run.  An instruction
runs in one step: it reads an input (what the environment answers, `ρ`) and
the shared state `σ`, and it is replaced by the instructions that it expands
to, while new threads may be forked.  A critical section of the source is one
instruction; everything between two instructions may be interleaved.

A step of a pool is an event: some thread runs its next instruction on some
input, or the environment starts a thread for a job.

Main results: a step takes one instruction out of the bag of all pending
instructions and puts its successors in (`Machine.step_cases`), in whatever
order the threads run; what is pending and later is not has been run
(`Machine.exists_run_of_mem`); the rule for what instructions hand on
(`Machine.invariant_of_runs`).
-/
import Mathlib.Algebra.BigOperators.Group.Multiset.Basic
import Mathlib.Algebra.Order.BigOperators.Group.Multiset
import Mathlib.Algebra.Order.Group.Multiset
import Mathlib.Algebra.Order.Ring.Nat
import Mathlib.Data.List.Perm.Basic
import FastNetMon.Transition

namespace FastNetMon

/-- A shared state and the threads that run over it. -/
@[ext] structure Pool (σ ι : Type*) where
  shared : σ
  threads : List (List ι)

/-- What happens next: a job is started, or a thread runs its next instruction. -/
inductive PoolEvent (J ρ : Type*)
  | start (job : J)
  | run (thread : ℕ) (input : ρ)

/-- The programs of the jobs, and what one instruction does: the next shared
state, the instructions it expands to and the threads it forks.  `none` is an
input that the environment does not give, or a lock that is not free. -/
structure Machine (σ ι ρ J : Type*) where
  program : J → List ι
  exec : ι → ρ → σ → Option (σ × List ι × List (List ι))

variable {σ ι ρ J : Type*}

namespace Pool

/-- All instructions that are still to be run, in no order. -/
def pending (w : Pool σ ι) : Multiset ι := (w.threads.flatten : Multiset ι)

/-- The instruction that thread `n` runs next. -/
def next (w : Pool σ ι) (n : ℕ) : Option ι := (w.threads[n]?).bind List.head?

/-- What thread `n` still has to run. -/
def thread (w : Pool σ ι) (n : ℕ) : List ι := (w.threads[n]?).getD []

end Pool

/-! ### Weights -/

/-- The total weight of a bag of instructions. -/
def load (f : ι → ℕ) (B : Multiset ι) : ℕ := (B.map f).sum

section Load

variable {f : ι → ℕ} {B : Multiset ι} {i : ι}

@[simp] theorem load_zero : load f 0 = 0 := rfl

@[simp] theorem load_cons : load f (i ::ₘ B) = f i + load f B := by simp [load]

@[simp] theorem load_singleton : load f {i} = f i := by simp [load]

@[simp] theorem load_add (A B : Multiset ι) : load f (A + B) = load f A + load f B := by
  simp [load]

@[simp] theorem load_coe_nil : load f (([] : List ι) : Multiset ι) = 0 := rfl

@[simp] theorem load_coe_cons (l : List ι) :
    load f ((i :: l : List ι) : Multiset ι) = f i + load f (l : Multiset ι) := by
  rw [← Multiset.cons_coe, load_cons]

/-- The load of a thread is the sum over its instructions. -/
theorem load_coe (l : List ι) : load f (l : Multiset ι) = (l.map f).sum := by simp [load]

/-- Instructions without weight have no load. -/
theorem load_eq_zero (h : ∀ i ∈ B, f i = 0) : load f B = 0 := by
  refine Multiset.sum_eq_zero fun n hn => ?_
  obtain ⟨i, hi, rfl⟩ := Multiset.mem_map.mp hn
  exact h i hi

/-- Larger weights give a larger load. -/
theorem load_le_load {g : ι → ℕ} (h : ∀ i, f i ≤ g i) : load f B ≤ load g B :=
  Multiset.sum_map_le_sum_map _ _ fun i _ => h i

/-- One instruction weighs no more than all. -/
theorem le_load (hi : i ∈ B) : f i ≤ load f B := by
  obtain ⟨C, rfl⟩ := Multiset.exists_cons_of_mem hi
  rw [load_cons]
  exact Nat.le_add_right _ _

/-- One thread weighs no more than all that is pending. -/
theorem load_thread_le_pending (w : Pool σ ι) (n : ℕ) :
    load f (w.thread n : Multiset ι) ≤ load f w.pending := by
  unfold Pool.thread Pool.pending
  rcases hn : w.threads[n]? with - | t
  · exact Nat.zero_le _
  · have ht : t ∈ w.threads := List.mem_of_getElem? hn
    rw [load_coe, load_coe, List.map_flatten, List.sum_flatten, Option.getD_some]
    exact List.single_le_sum (by simp) _ (by
      rw [List.map_map]
      exact List.mem_map.mpr ⟨t, ht, rfl⟩)

end Load

namespace Machine

/-- One step of a pool. -/
def step (M : Machine σ ι ρ J) (w : Pool σ ι) : PoolEvent J ρ → Option (Pool σ ι)
  | .start job => some { w with threads := w.threads ++ [M.program job] }
  | .run n input =>
      match w.threads[n]? with
      | some (i :: rest) =>
          (M.exec i input w.shared).map fun r =>
            { shared := r.1, threads := w.threads.set n (r.2.1 ++ rest) ++ r.2.2 }
      | _ => none

variable {M : Machine σ ι ρ J} {w w' : Pool σ ι}

/-- A new job adds its program to what is pending, and nothing else. -/
theorem step_start {job : J} (h : M.step w (.start job) = some w') :
    w'.shared = w.shared ∧ w'.pending = w.pending + (M.program job : Multiset ι) := by
  obtain rfl : { w with threads := w.threads ++ [M.program job] } = w' := by
    simpa [step] using h
  simp [Pool.pending]

/-- A step of thread `n` runs the first instruction of that thread. -/
theorem step_run {n : ℕ} {input : ρ} (h : M.step w (.run n input) = some w') :
    ∃ i rest s new forked, w.threads[n]? = some (i :: rest) ∧
      M.exec i input w.shared = some (s, new, forked) ∧
      w' = { shared := s, threads := w.threads.set n (new ++ rest) ++ forked } := by
  simp only [step] at h
  split at h
  · rename_i i rest ht
    rcases he : M.exec i input w.shared with - | ⟨s, new, forked⟩
    · simp [he] at h
    · refine ⟨i, rest, s, new, forked, ht, he, ?_⟩
      rw [he] at h
      exact (Option.some.inj h).symm
  · cases h

/-- Running the first instruction of a thread swaps it for its successors in
the bag of pending instructions. -/
theorem pending_set (s : σ) (new : List ι) (forked : List (List ι)) {n : ℕ} {i : ι}
    {rest : List ι} (ht : w.threads[n]? = some (i :: rest)) :
    ∃ B : Multiset ι, w.pending = i ::ₘ B ∧
      ({ shared := s, threads := w.threads.set n (new ++ rest) ++ forked } : Pool σ ι).pending
        = (new : Multiset ι) + (forked.flatten : Multiset ι) + B := by
  obtain ⟨hn, ht⟩ := List.getElem?_eq_some_iff.mp ht
  refine ⟨((rest ++ (w.threads.eraseIdx n).flatten : List ι) : Multiset ι), ?_, ?_⟩
  · have hperm := (List.getElem_cons_eraseIdx_perm hn).flatten
    rw [ht] at hperm
    exact (Multiset.coe_eq_coe.mpr hperm).symm
  · have hperm := (List.set_perm_cons_eraseIdx hn (new ++ rest)).flatten
    have hset : ((w.threads.set n (new ++ rest)).flatten : Multiset ι)
        = (new : Multiset ι) + ((rest ++ (w.threads.eraseIdx n).flatten : List ι) : Multiset ι) := by
      rw [Multiset.coe_add, ← List.append_assoc]
      exact Multiset.coe_eq_coe.mpr hperm
    show ((w.threads.set n (new ++ rest) ++ forked).flatten : Multiset ι) = _
    rw [List.flatten_append, ← Multiset.coe_add, hset]
    exact add_right_comm _ _ _

/-- **A step, seen on the bag of pending instructions.** -/
theorem step_cases {e : PoolEvent J ρ} (h : M.step w e = some w') :
    (∃ job, e = .start job ∧ w'.shared = w.shared ∧
        w'.pending = w.pending + (M.program job : Multiset ι)) ∨
      ∃ n input i new forked B, e = .run n input ∧ w.next n = some i ∧
        M.exec i input w.shared = some (w'.shared, new, forked) ∧ w.pending = i ::ₘ B ∧
        w'.pending = (new : Multiset ι) + (forked.flatten : Multiset ι) + B := by
  cases e with
  | start job => exact .inl ⟨job, rfl, step_start h⟩
  | run n input =>
      obtain ⟨i, rest, s, new, forked, ht, he, rfl⟩ := step_run h
      obtain ⟨B, hB, hB'⟩ := pending_set s new forked ht
      exact .inr ⟨n, input, i, new, forked, B, rfl, by simp [Pool.next, ht], he, hB, hB'⟩

/-- Jobs and forks that weigh nothing leave it to a thread's own instructions to
make it heavier. -/
theorem load_thread_le {f : ι → ℕ} {e : PoolEvent J ρ} {n : ℕ} (h : M.step w e = some w')
    (hprogram : ∀ job, load f (M.program job : Multiset ι) = 0)
    (hfork : ∀ {i input s s' new forked}, M.exec i input s = some (s', new, forked) →
      load f (forked.flatten : Multiset ι) = 0)
    (hrun : ∀ {input i new forked}, e = .run n input → w.next n = some i →
      M.exec i input w.shared = some (w'.shared, new, forked) →
      load f (new : Multiset ι) ≤ f i) :
    load f (w'.thread n : Multiset ι) ≤ load f (w.thread n : Multiset ι) := by
  have happend : ∀ (ts forked : List (List ι)), load f (forked.flatten : Multiset ι) = 0 →
      load f (((ts ++ forked)[n]?).getD [] : Multiset ι)
        ≤ load f ((ts[n]?).getD [] : Multiset ι) := by
    intro ts forked hzero
    rw [List.getElem?_append]
    split
    · exact le_rfl
    · rcases hm : forked[n - ts.length]? with - | t
      · exact Nat.zero_le _
      · have hle := load_thread_le_pending (f := f) (⟨(), forked⟩ : Pool Unit ι) (n - ts.length)
        rw [Pool.thread, hm] at hle
        exact (hle.trans hzero.le).trans (Nat.zero_le _)
  cases e with
  | start job =>
      obtain rfl : { w with threads := w.threads ++ [M.program job] } = w' := by
        simpa [step] using h
      exact happend _ _ (by simpa using hprogram job)
  | run m input =>
      obtain ⟨i, rest, s, new, forked, ht, he, rfl⟩ := step_run h
      refine (happend _ _ (hfork he)).trans ?_
      by_cases hmn : m = n
      · subst hmn
        have hle := hrun rfl (by simp [Pool.next, ht]) he
        have hlt : m < w.threads.length := (List.getElem?_eq_some_iff.mp ht).1
        rw [Pool.thread, ht, List.getElem?_set_self hlt, Option.getD_some, Option.getD_some,
          load_coe_cons, ← Multiset.coe_add, load_add]
        omega
      · rw [List.getElem?_set_ne hmn]
        exact le_rfl

/-- A pending instruction that is gone at the end of a run was run at some point. -/
theorem exists_run_of_mem {C : Pool σ ι → PoolEvent J ρ → Prop}
    {es : List (PoolEvent J ρ)} {i : ι} (h : Runs M.step C w es w') (hi : i ∈ w.pending)
    (hno : i ∉ w'.pending) :
    ∃ es₁ n input es₂ u u', es = es₁ ++ .run n input :: es₂ ∧ Runs M.step C w es₁ u ∧
      u.next n = some i ∧ C u (.run n input) ∧ M.step u (.run n input) = some u' ∧
      Runs M.step C u' es₂ w' := by
  induction h with
  | refl => exact absurd hi hno
  | @head s s' t e es hC hs hr ih =>
      rcases step_cases hs with ⟨job, -, -, hp⟩ | ⟨n, input, j, new, forked, B, rfl, hj, -, hp, hp'⟩
      · have hi' : i ∈ s'.pending := by
          rw [hp]
          exact Multiset.mem_add.mpr (.inl hi)
        obtain ⟨es₁, n, input, es₂, u, u', rfl, h₁, hrest⟩ := ih hi' hno
        exact ⟨e :: es₁, n, input, es₂, u, u', rfl, .head hC hs h₁, hrest⟩
      · by_cases hij : i = j
        · subst hij
          exact ⟨[], n, input, es, s, s', rfl, .refl s, hj, hC, hs, hr⟩
        · have hi' : i ∈ s'.pending := by
            rw [hp] at hi
            rw [hp']
            exact Multiset.mem_add.mpr (.inr ((Multiset.mem_cons.mp hi).resolve_left hij))
          obtain ⟨es₁, n', input', es₂, u, u', rfl, h₁, hrest⟩ := ih hi' hno
          exact ⟨_ :: es₁, n', input', es₂, u, u', rfl, .head hC hs h₁, hrest⟩

/-! ### What is handed on -/

/-- **Invariant rule for threads.**  A property of the shared state and one of the instructions:
an instruction that has its property, run in a state that has its own, keeps the state's and
hands its own on to what it expands to and to what it forks. -/
theorem invariant_of_runs {I : σ → Prop} {T : ι → Prop}
    {C : Pool σ ι → PoolEvent J ρ → Prop} {es : List (PoolEvent J ρ)}
    (hprogram : ∀ {u job}, C u (.start job) → ∀ i ∈ M.program job, T i)
    (hexec : ∀ {i input s s' new forked}, I s → T i → M.exec i input s = some (s', new, forked) →
      I s' ∧ ∀ j ∈ (new : Multiset ι) + (forked.flatten : Multiset ι), T j)
    (h : Runs M.step C w es w') (hshared : I w.shared) (hpending : ∀ i ∈ w.pending, T i) :
    I w'.shared ∧ ∀ i ∈ w'.pending, T i := by
  refine h.invariant (I := fun u => I u.shared ∧ ∀ i ∈ u.pending, T i) ?_ ⟨hshared, hpending⟩
  rintro u e u' ⟨hshared, hpending⟩ hC hs
  rcases step_cases hs with ⟨job, rfl, hsh, hp⟩ | ⟨n, input, i, new, forked, B, -, -, he, hp, hp'⟩
  · refine ⟨hsh ▸ hshared, fun i hi => ?_⟩
    rw [hp] at hi
    rcases Multiset.mem_add.mp hi with hi | hi
    · exact hpending i hi
    · exact hprogram hC i hi
  · have hi : T i := hpending i (hp ▸ Multiset.mem_cons_self i B)
    obtain ⟨hshared', hnew⟩ := hexec hshared hi he
    refine ⟨hshared', fun j hj => ?_⟩
    rw [hp'] at hj
    rcases Multiset.mem_add.mp hj with hj | hj
    · exact hnew j hj
    · exact hpending j (hp ▸ Multiset.mem_cons_of_mem hj)

end Machine

end FastNetMon
