/-
FastNetMon/CounterMap.lean

Maps of counters that are made on demand, for arbitrary keys and counters.

`modifyAt` is `map[key]` followed by a change of the counter; a key that is new starts with
the default counter.  What is counted is an additive function of the counters.  Two views
of a map are given: the counter of one key (`lookup_modifyAt`), and the sum over the keys
of some kind (`keySum_modifyAt`).

A tally is the sum of the amounts of some events in a list.  It takes one event more with
the list (`tally_concat`), and in `uint64_t` it is the tally in numbers modulo `2 ^ 64`
(`toNat_tally`).

A map tallies events (`Tallies`) if its keys are those of the events, each once, and its
counters are the tallies for their keys; one more event keeps this (`Tallies.concat`).  What
happened since the last reset of something is `sinceReset`.
-/
import Mathlib.Algebra.BigOperators.Group.List.Basic
import Mathlib.Data.UInt
import Mathlib.Tactic

namespace FastNetMon

variable {κ M A : Type*}

/-- A map, its entries in any order. -/
abbrev CounterMap (κ M : Type*) := List (κ × M)

namespace CounterMap

/-- The sum of what the counters of some keys count. -/
def keySum [Zero A] [Add A] (kind : κ → Bool) (count : M → A) (map : CounterMap κ M) : A :=
  ((map.filter fun entry => kind entry.1).map fun entry => count entry.2).sum

theorem keySum_cons [AddCommMonoid A] (kind : κ → Bool) (count : M → A) (entry : κ × M)
    (map : CounterMap κ M) :
    keySum kind count (entry :: map)
      = (if kind entry.1 then count entry.2 else 0) + keySum kind count map := by
  rw [keySum, keySum]
  by_cases h : kind entry.1 <;> simp [h]

/-- The keys of a map. -/
def keys (map : CounterMap κ M) : List κ := map.map Prod.fst

/-- All counters changed. -/
def changeAll (change : M → M) (map : CounterMap κ M) : CounterMap κ M :=
  map.map fun entry => (entry.1, change entry.2)

theorem keySum_changeAll_eq_zero [AddCommMonoid A] {count : M → A} {change : M → M}
    (hchange : ∀ counter, count (change counter) = 0) (kind : κ → Bool) (map : CounterMap κ M) :
    keySum kind count (changeAll change map) = 0 := by
  induction map with
  | nil => rfl
  | cons entry map ih =>
    show keySum kind count ((entry.1, change entry.2) :: changeAll change map) = 0
    rw [keySum_cons, ih, hchange, ite_self, add_zero]

variable [DecidableEq κ] [Inhabited M]

/-- The counter of a key; one that is not there would be made with the default. -/
def lookup : CounterMap κ M → κ → M
  | [], _ => default
  | entry :: map, key => if entry.1 = key then entry.2 else lookup map key

/-- `map[key]`, and the counter changed. -/
def modifyAt : CounterMap κ M → κ → (M → M) → CounterMap κ M
  | [], key, change => [(key, change default)]
  | entry :: map, key, change =>
      if entry.1 = key then (entry.1, change entry.2) :: map
      else entry :: modifyAt map key change

@[simp] theorem lookup_nil (key : κ) : lookup ([] : CounterMap κ M) key = default := rfl

/-- A change of one counter leaves the others alone. -/
theorem lookup_modifyAt (map : CounterMap κ M) (key key' : κ) (change : M → M) :
    lookup (modifyAt map key change) key'
      = if key' = key then change (lookup map key) else lookup map key' := by
  induction map with
  | nil =>
    by_cases h : key' = key
    · rw [if_pos h]
      exact if_pos h.symm
    · rw [if_neg h]
      exact if_neg (Ne.symm h)
  | cons entry map ih =>
    rw [modifyAt, lookup, lookup]
    by_cases hentry : entry.1 = key
    · rw [if_pos hentry, if_pos hentry, lookup]
      dsimp only
      by_cases h : key' = key
      · rw [if_pos h, if_pos (hentry.trans h.symm)]
      · have hother : ¬ entry.1 = key' := fun heq => h (heq.symm.trans hentry)
        rw [if_neg h, if_neg hother, if_neg hother]
    · rw [if_neg hentry, if_neg hentry, lookup, ih]
      by_cases h : key' = key
      · rw [if_pos h, if_pos h, if_neg (fun heq => hentry (heq.trans h))]
      · rw [if_neg h, if_neg h]

/-- What holds of the counters, holds of a new one and is kept by the change holds of all
counters afterwards. -/
theorem forall_mem_modifyAt {P : κ × M → Prop} {map : CounterMap κ M}
    (hmap : ∀ entry ∈ map, P entry) {key : κ} {change : M → M}
    (hnew : P (key, change default))
    (hchange : ∀ counter, P (key, counter) → P (key, change counter)) :
    ∀ entry ∈ modifyAt map key change, P entry := by
  induction map with
  | nil => exact List.forall_mem_singleton.mpr hnew
  | cons first map ih =>
    rw [List.forall_mem_cons] at hmap
    rw [modifyAt]
    split
    · rename_i hkey
      have hfirst : P (key, first.2) := by
        rw [← hkey]
        exact hmap.1
      rw [hkey]
      exact List.forall_mem_cons.mpr ⟨hchange first.2 hfirst, hmap.2⟩
    · exact List.forall_mem_cons.mpr ⟨hmap.1, ih hmap.2⟩

/-- What holds of the keys and of a new one holds of all keys afterwards. -/
theorem forall_modifyAt (P : κ → Prop) {map : CounterMap κ M} (hmap : ∀ entry ∈ map, P entry.1)
    {key : κ} (hkey : P key) (change : M → M) : ∀ entry ∈ modifyAt map key change, P entry.1 :=
  forall_mem_modifyAt hmap hkey fun _ _ => hkey

theorem mem_keys_modifyAt {map : CounterMap κ M} {key k : κ} (change : M → M) :
    k ∈ keys (modifyAt map key change) ↔ k = key ∨ k ∈ keys map := by
  induction map with
  | nil => simp [keys, modifyAt]
  | cons entry map ih =>
    rw [keys] at ih
    rw [modifyAt]
    split
    · rename_i hentry
      simp only [keys, List.map_cons, List.mem_cons, hentry]
      tauto
    · simp only [keys, List.map_cons, List.mem_cons, ih]
      tauto

/-- A key that is there already is not made again. -/
theorem nodup_keys_modifyAt {map : CounterMap κ M} (hmap : (keys map).Nodup) (key : κ)
    (change : M → M) : (keys (modifyAt map key change)).Nodup := by
  induction map with
  | nil => exact List.nodup_singleton key
  | cons entry map ih =>
    obtain ⟨hentry, hrest⟩ := List.nodup_cons.mp hmap
    rw [modifyAt]
    split
    · exact hmap
    · rename_i hne
      refine List.nodup_cons.mpr ⟨fun hmem => ?_, ih hrest⟩
      rcases (mem_keys_modifyAt change).mp hmem with heq | hmem
      · exact hne heq
      · exact hentry hmem

/-- Counters that are all reset count nothing. -/
theorem lookup_changeAll_eq_zero [Zero A] {count : M → A} {change : M → M}
    (hdefault : count default = 0) (hchange : ∀ counter, count (change counter) = 0)
    (map : CounterMap κ M) (key : κ) : count (lookup (changeAll change map) key) = 0 := by
  induction map with
  | nil => exact hdefault
  | cons entry map ih =>
    show count (if entry.1 = key then change entry.2 else lookup (changeAll change map) key) = 0
    split
    · exact hchange entry.2
    · exact ih

variable [AddCommMonoid A] {count : M → A} {added : A} {change : M → M}

/-- A change that adds to a counter adds to the sums over its key. -/
theorem keySum_modifyAt (kind : κ → Bool) (hdefault : count default = 0)
    (hchange : ∀ counter, count (change counter) = count counter + added)
    (map : CounterMap κ M) (key : κ) :
    keySum kind count (modifyAt map key change)
      = keySum kind count map + if kind key then added else 0 := by
  induction map with
  | nil =>
    rw [modifyAt, keySum_cons, hchange, hdefault, zero_add, add_comm]
  | cons entry map ih =>
    rw [modifyAt, keySum_cons]
    by_cases hentry : entry.1 = key
    · rw [if_pos hentry, keySum_cons, hchange, hentry]
      by_cases h : kind key
      · rw [if_pos h, if_pos h, if_pos h, add_right_comm]
      · rw [if_neg h, if_neg h, if_neg h, add_zero]
    · rw [if_neg hentry, keySum_cons, ih, add_assoc]

end CounterMap

/-! ### Tallies -/

variable {ε : Type*}

/-- The sum of the amounts of the events that count. -/
def tally [Zero A] [Add A] (counts : ε → Bool) (amount : ε → A) (events : List ε) : A :=
  ((events.filter counts).map amount).sum

theorem tally_concat [AddCommMonoid A] (counts : ε → Bool) (amount : ε → A) (events : List ε)
    (event : ε) : tally counts amount (events ++ [event])
      = tally counts amount events + if counts event then amount event else 0 := by
  rw [tally, tally, List.filter_append, List.map_append, List.sum_append]
  by_cases h : counts event <;> simp [h]

theorem tally_congr [AddCommMonoid A] {counts counts' : ε → Bool} {amount : ε → A}
    {events : List ε} (h : ∀ event ∈ events, counts event = counts' event) :
    tally counts amount events = tally counts' amount events := by
  rw [tally, tally, List.filter_congr h]

/-- A tally in `uint64_t` wraps. -/
theorem toNat_tally (counts : ε → Bool) (amount : ε → UInt64) (events : List ε) :
    (tally counts amount events).toNat
      = tally counts (fun event => (amount event).toNat) events % 2 ^ 64 := by
  induction events using List.reverseRecOn with
  | nil => rfl
  | append_singleton events event ih =>
    rw [tally_concat, tally_concat, UInt64.toNat_add, ih]
    by_cases h : counts event
    · rw [if_pos h, if_pos h, Nat.mod_add_mod]
    · rw [if_neg h, if_neg h]
      simp

/-- What counts as less adds up to less. -/
theorem tally_le {counts counts' : ε → Bool} {amount : ε → ℕ} {events : List ε}
    (h : ∀ event ∈ events, counts event = true → counts' event = true) :
    tally counts amount events ≤ tally counts' amount events := by
  induction events using List.reverseRecOn with
  | nil => exact Nat.le_refl 0
  | append_singleton events event ih =>
    have hevent := h event (List.mem_append_right _ List.mem_cons_self)
    have hevents := ih fun event hmem => h event (List.mem_append_left _ hmem)
    rw [tally_concat, tally_concat]
    by_cases hcounts : counts event
    · rw [if_pos hcounts, if_pos (hevent hcounts)]
      exact Nat.add_le_add_right hevents _
    · rw [if_neg hcounts]
      exact hevents.trans (Nat.le_add_right _ _)

/-- The tallies of two kinds of events that exclude each other. -/
theorem tally_add {counts counts' : ε → Bool} {amount : ε → ℕ} {events : List ε}
    (h : ∀ event ∈ events, ¬ (counts event = true ∧ counts' event = true)) :
    tally counts amount events + tally counts' amount events
      = tally (fun event => counts event || counts' event) amount events := by
  induction events using List.reverseRecOn with
  | nil => rfl
  | append_singleton events event ih =>
    have hevent := h event (List.mem_append_right _ List.mem_cons_self)
    have hevents := ih fun event hmem => h event (List.mem_append_left _ hmem)
    rw [tally_concat, tally_concat, tally_concat, ← hevents]
    by_cases hcounts : counts event
    · by_cases hcounts' : counts' event
      · exact absurd ⟨hcounts, hcounts'⟩ hevent
      · simp only [hcounts, hcounts', if_true, Bool.true_or, Bool.false_eq_true, if_false]
        omega
    · by_cases hcounts' : counts' event
      · simp only [hcounts, hcounts', if_true, Bool.or_true, Bool.false_eq_true, if_false]
        omega
      · simp [hcounts, hcounts']

/-- The order of the events does not matter to a tally. -/
theorem tally_perm [AddCommMonoid A] {counts : ε → Bool} {amount : ε → A} {events events' : List ε}
    (h : events.Perm events') : tally counts amount events = tally counts amount events' :=
  ((h.filter counts).map amount).sum_eq

/-- A tally of some of the events. -/
theorem tally_filter [Zero A] [Add A] (counts among : ε → Bool) (amount : ε → A)
    (events : List ε) : tally counts amount (events.filter among)
      = tally (fun event => among event && counts event) amount events := by
  rw [tally, tally, List.filter_filter]
  simp only [Bool.and_comm]

/-! ### Maps that tally -/

namespace CounterMap

variable {key : ε → κ} {map : CounterMap κ M} {events : List ε}

/-- The keys of the map are those of the events. -/
structure KeyedBy (key : ε → κ) (map : CounterMap κ M) (events : List ε) : Prop where
  nodup : (keys map).Nodup
  mem_keys : ∀ k, k ∈ keys map ↔ ∃ event ∈ events, key event = k

namespace KeyedBy

theorem nil (key : ε → κ) : KeyedBy key ([] : CounterMap κ M) [] :=
  ⟨List.nodup_nil, fun k => by simp [keys]⟩

variable [DecidableEq κ] [Inhabited M]

theorem concat (h : KeyedBy key map events) (event : ε) (change : M → M) :
    KeyedBy key (map.modifyAt (key event) change) (events ++ [event]) where
  nodup := nodup_keys_modifyAt h.nodup _ _
  mem_keys k := by
    rw [mem_keys_modifyAt, h.mem_keys]
    simp only [List.mem_append, List.mem_singleton]
    constructor
    · rintro (rfl | ⟨old, hold, rfl⟩)
      · exact ⟨event, .inr rfl, rfl⟩
      · exact ⟨old, .inl hold, rfl⟩
    · rintro ⟨old, hold | rfl, rfl⟩
      · exact .inr ⟨old, hold, rfl⟩
      · exact .inl rfl

end KeyedBy

variable [DecidableEq κ] [Inhabited M]

/-- The map tallies the events: in the counter of each key, and in all of them together. -/
structure Tallies [AddCommMonoid A] (key : ε → κ) (count : M → A) (amount : ε → A)
    (map : CounterMap κ M) (events : List ε) : Prop extends KeyedBy key map events where
  counter_eq : ∀ k, count (map.lookup k) = tally (fun event => key event = k) amount events
  sum_eq : keySum (fun _ => true) count map = tally (fun _ => true) amount events

namespace Tallies

variable [AddCommMonoid A] {count : M → A} {amount : ε → A}

theorem nil (key : ε → κ) (amount : ε → A) (hdefault : count default = 0) :
    Tallies key count amount ([] : CounterMap κ M) [] where
  toKeyedBy := .nil key
  counter_eq _ := hdefault
  sum_eq := rfl

/-- **One more event**, counted for its key. -/
theorem concat (h : Tallies key count amount map events) {event : ε} {change : M → M}
    (hdefault : count default = 0)
    (hchange : ∀ counter, count (change counter) = count counter + amount event) :
    Tallies key count amount (map.modifyAt (key event) change) (events ++ [event]) where
  toKeyedBy := h.toKeyedBy.concat event change
  counter_eq k := by
    rw [lookup_modifyAt, tally_concat, ← h.counter_eq]
    by_cases hk : k = key event
    · rw [if_pos hk, hchange, hk]
      simp
    · rw [if_neg hk]
      simp [Ne.symm hk]
  sum_eq := by
    rw [keySum_modifyAt _ hdefault hchange, tally_concat, ← h.sum_eq]

end Tallies

end CounterMap

/-! ### Resets -/

theorem filterMap_concat {α β : Type*} (f : α → Option β) (xs : List α) (x : α) :
    (xs ++ [x]).filterMap f = xs.filterMap f ++ (f x).toList := by
  rw [List.filterMap_append]
  cases h : f x <;> simp [h]

/-- The items of the events since the last reset. -/
def sinceReset {β : Type*} (resets : ε → Bool) (item : ε → Option β) (events : List ε) : List β :=
  events.foldl (fun items event => if resets event then [] else items ++ (item event).toList) []

theorem sinceReset_concat {β : Type*} (resets : ε → Bool) (item : ε → Option β) (events : List ε)
    (event : ε) : sinceReset resets item (events ++ [event])
      = if resets event then [] else sinceReset resets item events ++ (item event).toList := by
  rw [sinceReset, List.foldl_append]
  rfl

end FastNetMon
