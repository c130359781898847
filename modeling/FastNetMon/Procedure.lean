/-
FastNetMon/Procedure.lean

Procedures: programs that change a state and may fail.

What a procedure did to the state before it failed stays done.  Two things are said
of procedures.  `Keeps` is the rule for invariants: from a state with the invariant a
procedure ends in one, with a value or an error as described.  `Follows` compares a
procedure that reads a memory with the same procedure in a larger memory, as `Agrees`
does for readers; its lemmas are tagged for `gcongr` as well.
-/
import FastNetMon.ReaderExtension

namespace FastNetMon

/-- A program that changes a state of type `σ`, and ends with a value or an error. -/
def Procedure (σ ε α : Type) := σ → σ × Except ε α

namespace Procedure

variable {σ ε α β : Type}

/-- Run two procedures one after the other. -/
def bind (p : Procedure σ ε α) (f : α → Procedure σ ε β) : Procedure σ ε β := fun s =>
  match p s with
  | (s', .ok a) => f a s'
  | (s', .error e) => (s', .error e)

instance : Monad (Procedure σ ε) where
  pure a := fun s => (s, .ok a)
  bind := Procedure.bind

/-- A program without a state. -/
def lift (x : Except ε α) : Procedure σ ε α := fun s => (s, x)

instance : MonadLift (Except ε) (Procedure σ ε) := ⟨lift⟩

/-- Look at the state. -/
def get : Procedure σ ε σ := fun s => (s, .ok s)

/-- Change the state. -/
def modify (f : σ → σ) : Procedure σ ε Unit := fun s => (f s, .ok ())

/-! ### Running -/

@[simp] theorem pure_run (a : α) (s : σ) : (pure a : Procedure σ ε α) s = (s, .ok a) := rfl

@[simp] theorem liftM_run (x : Except ε α) (s : σ) :
    (liftM x : Procedure σ ε α) s = (s, x) := rfl

@[simp] theorem get_run (s : σ) : (get : Procedure σ ε σ) s = (s, .ok s) := rfl

@[simp] theorem modify_run (f : σ → σ) (s : σ) :
    (modify f : Procedure σ ε Unit) s = (f s, .ok ()) := rfl

/-- What follows runs in the state that was reached, unless there was a failure. -/
theorem bind_run (p : Procedure σ ε α) (f : α → Procedure σ ε β) (s : σ) :
    (p >>= f) s = match p s with
      | (s', .ok a) => f a s'
      | (s', .error e) => (s', .error e) := rfl

/-- A procedure that succeeds hands over its state and its result. -/
theorem bind_of_ok {p : Procedure σ ε α} {f : α → Procedure σ ε β} {s s' : σ} {a : α}
    (h : p s = (s', .ok a)) : (p >>= f) s = f a s' := by
  rw [bind_run, h]

/-- After a failure nothing runs. -/
theorem bind_of_error {p : Procedure σ ε α} {f : α → Procedure σ ε β} {s s' : σ} {e : ε}
    (h : p s = (s', .error e)) : (p >>= f) s = (s', .error e) := by
  rw [bind_run, h]

@[simp] theorem liftM_ok_bind (a : α) (f : α → Procedure σ ε β) :
    ((liftM (Except.ok a : Except ε α) : Procedure σ ε α) >>= f) = f a := rfl

@[simp] theorem liftM_error_bind (e : ε) (f : α → Procedure σ ε β) :
    ((liftM (Except.error e : Except ε α) : Procedure σ ε α) >>= f)
      = liftM (Except.error e : Except ε β) := rfl

@[simp] theorem pure_bind (a : α) (f : α → Procedure σ ε β) :
    ((pure a : Procedure σ ε α) >>= f) = f a := rfl

/-- To return the result of a procedure adds nothing to it. -/
@[simp] theorem bind_pure (p : Procedure σ ε α) : (p >>= pure) = p := by
  funext s
  rw [bind_run]
  split
  · rename_i hp
    exact hp.symm
  · rename_i hp
    exact hp.symm

/-- Sequences may be bracketed either way. -/
theorem bind_assoc {γ : Type} (p : Procedure σ ε α) (f : α → Procedure σ ε β)
    (g : β → Procedure σ ε γ) : (p >>= f) >>= g = p >>= fun a => f a >>= g := by
  funext s
  rw [bind_run, bind_run, bind_run]
  rcases p s with ⟨s', a | e⟩ <;> rfl

/-! ### Invariants -/

/-- From a state with `I` the procedure ends in a state with `I`, and with a value that
satisfies `Q` or an error that satisfies `E`. -/
def Keeps (I : σ → Prop) (E : ε → Prop) (p : Procedure σ ε α) (Q : α → Prop) : Prop :=
  ∀ s, I s → I (p s).1 ∧
    match (p s).2 with
    | .ok a => Q a
    | .error e => E e

variable {I : σ → Prop} {E : ε → Prop} {p : Procedure σ ε α} {Q Q' : α → Prop}

/-- The rule of `pure`. -/
theorem keeps_pure {a : α} (h : Q a) : Keeps I E (pure a) Q :=
  fun _ hs => ⟨hs, h⟩

/-- The rule of sequences: the second part starts with what the first one has reached. -/
theorem Keeps.bind {R : β → Prop} {f : α → Procedure σ ε β} (hp : Keeps I E p Q)
    (hf : ∀ a, Q a → Keeps I E (f a) R) : Keeps I E (p >>= f) R := by
  intro s hs
  have h := hp s hs
  rw [bind_run]
  revert h
  rcases p s with ⟨s', e | a⟩
  · exact id
  · exact fun h => hf a h.2 s' h.1

/-- The rule of readers, which leave the state alone. -/
theorem keeps_liftM {x : Except ε α} (hok : ∀ a, x = .ok a → Q a)
    (herror : ∀ e, x = .error e → E e) : Keeps I E (liftM x : Procedure σ ε α) Q := by
  intro s hs
  refine ⟨hs, ?_⟩
  rw [liftM_run]
  cases x with
  | ok a => exact hok a rfl
  | error e => exact herror e rfl

/-- What is read is the state, with its invariant. -/
theorem keeps_get : Keeps I E (get : Procedure σ ε σ) I :=
  fun _ hs => ⟨hs, hs⟩

/-- The rule of updates. -/
theorem keeps_modify {f : σ → σ} (h : ∀ s, I s → I (f s)) :
    Keeps I E (modify f : Procedure σ ε Unit) fun _ => True :=
  fun s hs => ⟨h s hs, trivial⟩

/-- The rule of consequence. -/
theorem Keeps.mono (hp : Keeps I E p Q) (h : ∀ a, Q a → Q' a) : Keeps I E p Q' := by
  intro s hs
  obtain ⟨hI, hend⟩ := hp s hs
  refine ⟨hI, ?_⟩
  revert hend
  cases (p s).2 with
  | ok a => exact h a
  | error e => exact id

/-- The rule of branches. -/
theorem keeps_ite {c : Prop} [Decidable c] {q : Procedure σ ε α} (hp : c → Keeps I E p Q)
    (hq : ¬ c → Keeps I E q Q) : Keeps I E (if c then p else q) Q := by
  split
  · exact hp ‹c›
  · exact hq ‹¬ c›

/-- The rule for a loop over a list. -/
theorem keeps_forM {f : α → Procedure σ ε Unit} {xs : List α}
    (h : ∀ a ∈ xs, Keeps I E (f a) fun _ => True) : Keeps I E (xs.forM f) fun _ => True := by
  induction xs with
  | nil => exact keeps_pure trivial
  | cons a xs ih =>
    rw [List.forM]
    exact (h a List.mem_cons_self).bind fun _ _ =>
      ih fun a hmem => h a (List.mem_cons_of_mem _ hmem)

/-- The procedure keeps an invariant, however it ends. -/
abbrev Preserves (I : σ → Prop) (p : Procedure σ ε α) : Prop :=
  Keeps I (fun _ => True) p fun _ => True

/-- What is known of the value and of the error may be added. -/
theorem Preserves.keeps (hp : Preserves I p) (hok : ∀ s a, (p s).2 = .ok a → Q a)
    (herror : ∀ s e, (p s).2 = .error e → E e) : Keeps I E p Q := by
  intro s hs
  refine ⟨(hp s hs).1, ?_⟩
  cases hend : (p s).2 with
  | ok a => exact hok s a hend
  | error e => exact herror s e hend

theorem preserves_pure (a : α) : Preserves I (pure a : Procedure σ ε α) := keeps_pure trivial

/-- A reader preserves every invariant. -/
theorem preserves_liftM (x : Except ε α) : Preserves I (liftM x : Procedure σ ε α) :=
  keeps_liftM (fun _ _ => trivial) fun _ _ => trivial

/-- An invariant is preserved by a sequence of procedures that preserve it. -/
theorem Preserves.bind {f : α → Procedure σ ε β} (hp : Preserves I p)
    (hf : ∀ a, Preserves I (f a)) : Preserves I (p >>= f) :=
  Keeps.bind hp fun a _ => hf a

theorem preserves_get : Preserves I (get : Procedure σ ε σ) := keeps_get.mono fun _ _ => trivial

/-- An invariant is preserved by a branch of procedures that preserve it. -/
theorem preserves_ite {c : Prop} [Decidable c] {q : Procedure σ ε α} (hp : Preserves I p)
    (hq : Preserves I q) : Preserves I (if c then p else q) :=
  keeps_ite (fun _ => hp) fun _ => hq

/-- The procedure ends with a value from every state. -/
abbrev Succeeds (p : Procedure σ ε α) : Prop :=
  Keeps (fun _ => True) (fun _ => False) p fun _ => True

/-- A procedure that succeeds gives a result in every state. -/
theorem Succeeds.run (h : Succeeds p) (s : σ) : ∃ a, (p s).2 = .ok a := by
  have hend := (h s trivial).2
  revert hend
  cases (p s).2 with
  | ok a => exact fun _ => ⟨a, rfl⟩
  | error e => exact False.elim

/-- What is preserved without failures is kept with any claim about them. -/
theorem Preserves.keeps_of_succeeds (hp : Preserves I p) (h : Succeeds p) :
    Keeps I E p fun _ => True := by
  refine hp.keeps (fun _ _ _ => trivial) fun s e herror => ?_
  obtain ⟨a, ha⟩ := h.run s
  rw [ha] at herror
  cases herror

/-- A reader that succeeds. -/
theorem succeeds_liftM {x : Except ε α} (h : ∃ a, x = .ok a) :
    Succeeds (liftM x : Procedure σ ε α) := by
  obtain ⟨a, rfl⟩ := h
  exact keeps_liftM (fun _ _ => trivial) fun _ herror => by cases herror

theorem succeeds_pure (a : α) : Succeeds (pure a : Procedure σ ε α) := keeps_pure trivial

theorem succeeds_modify (f : σ → σ) : Succeeds (modify f : Procedure σ ε Unit) :=
  keeps_modify fun _ _ => trivial

theorem succeeds_get : Succeeds (get : Procedure σ ε σ) := keeps_get.mono fun _ _ => trivial

/-- A sequence of procedures that succeed. -/
theorem Succeeds.bind {f : α → Procedure σ ε β} (hp : Succeeds p) (hf : ∀ a, Succeeds (f a)) :
    Succeeds (p >>= f) :=
  Keeps.bind hp fun a _ => hf a

end Procedure

/-! ### Larger memories -/

/-- The second procedure does what the first one does, unless that one reads outside. -/
def Follows {σ α : Type} (p q : Procedure σ Fault α) : Prop :=
  ∀ s, (p s).2 = .error .outOfBounds ∨ p s = q s

variable {σ α β : Type} {m m' : Memory}

@[refl] theorem Follows.refl (p : Procedure σ Fault α) : Follows p p := fun _ => .inr rfl

/-- Sequences follow each other part by part. -/
@[gcongr] theorem Follows.bind {p q : Procedure σ Fault α} {f g : α → Procedure σ Fault β}
    (h : Follows p q) (hf : ∀ a, Follows (f a) (g a)) : Follows (p >>= f) (q >>= g) := by
  intro s
  rw [Procedure.bind_run, Procedure.bind_run]
  rcases h s with houtside | heq
  · left
    rcases hp : p s with ⟨s', e | a⟩
    · rw [hp] at houtside
      obtain rfl := Except.error.inj houtside
      rfl
    · rw [hp] at houtside
      cases houtside
  · rw [← heq]
    rcases p s with ⟨s', e | a⟩
    · exact .inr rfl
    · exact hf a s'

/-- Readers that agree, in a procedure. -/
@[gcongr] theorem Follows.liftM {x y : Except Fault α} (h : Agrees x y) :
    Follows (liftM x : Procedure σ Fault α) (liftM y) := by
  intro s
  rcases h with rfl | rfl
  · exact .inl rfl
  · exact .inr rfl

/-- Branches on the same condition follow each other. -/
@[gcongr] theorem Follows.ite {c : Prop} [Decidable c] {p q p' q' : Procedure σ Fault α}
    (h : Follows p q) (h' : Follows p' q') :
    Follows (if c then p else p') (if c then q else q') := by
  split
  · exact h
  · exact h'

/-- A procedure that never fails does the same in a larger memory. -/
theorem Follows.eq_of_succeeds {p q : Procedure σ Fault α} (h : Follows p q)
    (hp : Procedure.Succeeds p) : q = p := by
  funext s
  obtain ⟨a, ha⟩ := hp.run s
  exact ((h s).resolve_left (by simp [ha])).symm

/-- A procedure that stays inside does the same in a larger memory. -/
theorem Follows.eq {p q : Procedure σ Fault α} {s : σ} (h : Follows p q)
    (hinside : (p s).2 ≠ .error .outOfBounds) : q s = p s :=
  ((h s).resolve_left hinside).symm

end FastNetMon
