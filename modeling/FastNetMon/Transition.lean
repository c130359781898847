/-
FastNetMon/Transition.lean

Event-driven transition systems over arbitrary states and events.

A system is a partial step function `step : S → E → Option S`: `step s e` is
the state after event `e`, or `none` where `e` cannot happen in `s`.  Every
concurrent model of this development is of this shape, the nondeterminism of
scheduling and of the environment sitting in the choice of the event.

`Runs step C s es t` says that `es` leads from `s` to `t` and that every step
of it meets the condition `C` on the state before the step and the event.
The plain runs are those of the trivial condition `Always`.

Main results: the invariant rule (`Runs.invariant`), the rule that moves a run
along a simulation (`Runs.simulate`), the invariant rule for what a run emits
(`Runs.trace_invariant`), and that a run is computed by the fold `runEvents`
(`runs_iff_runEvents`), through which a concrete run is evaluated, also one
under a condition (`runs_restrictTo`).
-/
import Mathlib.Logic.Relation
import Mathlib.Data.List.Basic

namespace FastNetMon

variable {S T E : Type*}

/-- The condition that every step meets. -/
def Always (_ : S) (_ : E) : Prop := True

/-- `Runs step C s es t`: the events `es` lead from `s` to `t`, each of them
taken in a state in which `C` allows it. -/
inductive Runs (step : S → E → Option S) (C : S → E → Prop) : S → List E → S → Prop
  | refl (s : S) : Runs step C s [] s
  | head {s s' t : S} {e : E} {es : List E} (hC : C s e) (hs : step s e = some s')
      (hr : Runs step C s' es t) : Runs step C s (e :: es) t

/-- Some run under `C` leads from `s` to `t`. -/
def Reaches (step : S → E → Option S) (C : S → E → Prop) (s t : S) : Prop :=
  ∃ es, Runs step C s es t

variable {step : S → E → Option S} {C D : S → E → Prop} {s t u : S} {e : E} {es fs : List E}

/-! ### Composition -/

theorem Runs.append (h : Runs step C s es t) (h' : Runs step C t fs u) :
    Runs step C s (es ++ fs) u := by
  induction h with
  | refl => exact h'
  | head hC hs _ ih => exact .head hC hs (ih h')

theorem Runs.tail (h : Runs step C s es t) (hC : C t e) (hs : step t e = some u) :
    Runs step C s (es ++ [e]) u :=
  h.append (.head hC hs (.refl u))

theorem Runs.mono (hCD : ∀ s e, C s e → D s e) (h : Runs step C s es t) :
    Runs step D s es t := by
  induction h with
  | refl => exact .refl _
  | head hC hs _ ih => exact .head (hCD _ _ hC) hs ih

/-- The steps of a run are its events. -/
theorem Runs.events (h : Runs step C s es t) : Runs step (fun _ e => e ∈ es) s es t := by
  induction h with
  | refl => exact .refl _
  | @head s s' t e es _ hs _ ih =>
      refine .head (List.mem_cons_self ..) hs (ih.mono fun _ e he => ?_)
      exact List.mem_cons_of_mem _ he

/-- A run splits at every point of its event list. -/
theorem Runs.split (h : Runs step C s (es ++ fs) u) :
    ∃ t, Runs step C s es t ∧ Runs step C t fs u := by
  induction es generalizing s with
  | nil => exact ⟨s, .refl s, h⟩
  | cons e es ih =>
      cases h with
      | head hC hs hr =>
          obtain ⟨t, h₁, h₂⟩ := ih hr
          exact ⟨t, .head hC hs h₁, h₂⟩

/-- The events of a run determine its end. -/
theorem Runs.end_eq (h : Runs step C s es t) (h' : Runs step D s es u) : t = u := by
  induction h with
  | refl =>
      cases h'
      rfl
  | head _ hs _ ih =>
      cases h' with
      | head _ hs' hr' =>
          obtain rfl := Option.some.inj (hs.symm.trans hs')
          exact ih hr'

/-! ### The invariant rule -/

/-- **Invariant rule.**  A property that holds at the start and is preserved by
every step that meets `C` holds at the end of every run under `C`. -/
theorem Runs.invariant {I : S → Prop}
    (hstep : ∀ {s e s'}, I s → C s e → step s e = some s' → I s')
    (h : Runs step C s es t) (hs : I s) : I t := by
  induction h with
  | refl => exact hs
  | head hC hst _ ih => exact ih (hstep hs hC hst)

theorem Reaches.refl (s : S) : Reaches step C s s := ⟨[], .refl s⟩

theorem Reaches.trans (h : Reaches step C s t) (h' : Reaches step C t u) :
    Reaches step C s u := by
  obtain ⟨es, h⟩ := h
  obtain ⟨fs, h'⟩ := h'
  exact ⟨es ++ fs, h.append h'⟩

theorem Reaches.invariant {I : S → Prop}
    (hstep : ∀ {s e s'}, I s → C s e → step s e = some s' → I s')
    (h : Reaches step C s t) (hs : I s) : I t := by
  obtain ⟨es, h⟩ := h
  exact h.invariant hstep hs

/-! ### Simulation -/

/-- A map that carries every step to finitely many steps of a relation carries
every run to finitely many steps. -/
theorem Runs.simulate {R : T → T → Prop} {f : S → T}
    (hstep : ∀ {s e s'}, C s e → step s e = some s' → Relation.ReflTransGen R (f s) (f s'))
    (h : Runs step C s es t) : Relation.ReflTransGen R (f s) (f t) := by
  induction h with
  | refl => exact .refl
  | head hC hs _ ih => exact (hstep hC hs).trans ih

/-! ### What a run emits -/

section Trace

variable {O : Type*} {emit : S → E → Option O}

/-- What the steps of a run emit, in order. -/
def trace (step : S → E → Option S) (emit : S → E → Option O) : S → List E → List O
  | _, [] => []
  | s, e :: es => (emit s e).toList ++ (step s e).elim [] fun s' => trace step emit s' es

/-- Invariant rule for states together with what was emitted so far. -/
theorem Runs.trace_invariant {I : S → List O → Prop}
    (hstep : ∀ {s o e s'}, I s o → C s e → step s e = some s' → I s' (o ++ (emit s e).toList))
    (h : Runs step C s es t) (hs : I s []) : I t (trace step emit s es) := by
  suffices hall : ∀ o, I s o → I t (o ++ trace step emit s es) from hall [] hs
  clear hs
  induction h with
  | refl =>
      intro o ho
      rwa [trace, List.append_nil]
  | @head s s' t e es hC hst _ ih =>
      intro o ho
      rw [trace, hst, Option.elim_some, ← List.append_assoc]
      exact ih _ (hstep ho hC hst)

end Trace

/-! ### Evaluating a run -/

/-- The state after a list of events, `none` as soon as one cannot happen. -/
def runEvents (step : S → E → Option S) (s : S) (es : List E) : Option S :=
  es.foldlM step s

theorem runs_iff_runEvents : Runs step Always s es t ↔ runEvents step s es = some t := by
  induction es generalizing s with
  | nil =>
      constructor
      · intro h
        cases h
        rfl
      · intro h
        obtain rfl : s = t := by simpa [runEvents] using h
        exact .refl s
  | cons e es ih =>
      constructor
      · intro h
        cases h with
        | head _ hs hr =>
            have := ih.mp hr
            simpa [runEvents, hs] using this
      · intro h
        rcases hs : step s e with - | s'
        · simp [runEvents, hs] at h
        · refine .head trivial hs (ih.mpr ?_)
          simpa [runEvents, hs] using h

/-- The steps that meet a condition that can be checked. -/
def restrictTo (step : S → E → Option S) (C : S → E → Prop) [∀ s e, Decidable (C s e)]
    (s : S) (e : E) : Option S :=
  if C s e then step s e else none

theorem runs_restrictTo [∀ s e, Decidable (C s e)] :
    Runs (restrictTo step C) Always s es t → Runs step C s es t := by
  intro h
  induction h with
  | refl => exact .refl _
  | head _ hs _ ih =>
      unfold restrictTo at hs
      split at hs
      · rename_i hC
        exact .head hC hs ih
      · cases hs

end FastNetMon
