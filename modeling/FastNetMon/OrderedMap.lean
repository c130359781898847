/-
FastNetMon/OrderedMap.lean

Ordered maps with extensional equality, beyond the API of `ExtTreeMap`.

The models use `ExtTreeMap` for `std::map`: two maps with the same entries are
equal, and iteration is in key order.  This file adds what reasoning about
loops over such maps needs, for arbitrary keys and values:

* the entries of one key (`filter_toList`), since a loop that pushes one
  element per entry pushes at most one for each key;
* bounding the number of keys with a property after an update
  (`countP_keys_le`);
* filling a map from a list without overwriting (`insertAllIfNew`), which is
  what a loop of `emplace` calls does.
-/
import Mathlib

namespace FastNetMon

open Std

namespace OrderedMap

variable {κ α : Type*} [Ord κ] [TransOrd κ] [LawfulEqOrd κ]

/-! ### Entries and keys -/

omit [Ord κ] [TransOrd κ] [LawfulEqOrd κ] in
/-- In a list with distinct keys the entry of a key is the only one of that key. -/
theorem filter_eq_of_mem [DecidableEq κ] {l : List (κ × α)} {k : κ} {a : α}
    (hd : (l.map Prod.fst).Nodup) (hk : (k, a) ∈ l) :
    l.filter (fun e => e.1 == k) = [(k, a)] := by
  induction l with
  | nil => cases hk
  | cons e l ih =>
      rw [List.map_cons, List.nodup_cons] at hd
      obtain ⟨hnot, hd⟩ := hd
      rcases List.mem_cons.mp hk with rfl | hk
      · have hnone : l.filter (fun e => e.1 == k) = [] := by
          rw [List.filter_eq_nil_iff]
          intro e he hek
          exact hnot (List.mem_map.mpr ⟨e, he, by simpa using hek⟩)
        rw [List.filter_cons, hnone]
        simp
      · have hne : e.1 ≠ k := by
          rintro rfl
          exact hnot (List.mem_map.mpr ⟨_, hk, rfl⟩)
        rw [List.filter_cons, ih hd hk]
        simp [hne]

/-- The entries of the key `k`: at most one. -/
theorem filter_toList [DecidableEq κ] (m : ExtTreeMap κ α) (k : κ) :
    m.toList.filter (fun e => e.1 == k) = ((m[k]?).map fun a => (k, a)).toList := by
  rcases hk : m[k]? with - | a
  · rw [Option.map_none, Option.toList_none, List.filter_eq_nil_iff]
    rintro ⟨k', a⟩ hmem h
    obtain rfl : k' = k := by simpa using h
    rw [ExtTreeMap.mem_toList_iff_getElem?_eq_some, hk] at hmem
    cases hmem
  · have hd : (m.toList.map Prod.fst).Nodup := by
      rw [ExtTreeMap.map_fst_toList_eq_keys]
      exact ExtTreeMap.nodup_keys
    exact filter_eq_of_mem hd (ExtTreeMap.mem_toList_iff_getElem?_eq_some.mpr hk)

/-- Keys with a property after an update: those of before and at most the
given new ones. -/
theorem countP_keys_le {m m' : ExtTreeMap κ α} {q : κ → Bool} (extra : List κ)
    (h : ∀ k, q k = true → k ∈ m' → k ∈ m ∨ k ∈ extra) :
    m'.keys.countP q ≤ m.keys.countP q + extra.length := by
  rw [List.countP_eq_length_filter, List.countP_eq_length_filter, ← List.length_append]
  have hnodup : (m'.keys.filter q).Nodup := ExtTreeMap.nodup_keys.filter _
  refine (hnodup.subperm ?_).length_le
  intro k hk
  obtain ⟨hk, hq⟩ := List.mem_filter.mp hk
  rcases h k hq (ExtTreeMap.mem_keys.mp hk) with h | h
  · exact List.mem_append_left _ (List.mem_filter.mpr ⟨ExtTreeMap.mem_keys.mpr h, hq⟩)
  · exact List.mem_append_right _ h

/-! ### Filling a map without overwriting -/

/-- Insert the entries of a list in order, each only where the key is free. -/
def insertAllIfNew (m : ExtTreeMap κ α) (l : List (κ × α)) : ExtTreeMap κ α :=
  l.foldl (fun m e => m.insertIfNew e.1 e.2) m

theorem insertAllIfNew_getElem? [DecidableEq κ] (m : ExtTreeMap κ α) (l : List (κ × α)) (k : κ) :
    (insertAllIfNew m l)[k]? = (m[k]?).or ((l.find? (·.1 == k)).map Prod.snd) := by
  induction l generalizing m with
  | nil => simp [insertAllIfNew]
  | cons e l ih =>
      have hcons : insertAllIfNew m (e :: l) = insertAllIfNew (m.insertIfNew e.1 e.2) l := rfl
      rw [hcons, ih, ExtTreeMap.getElem?_insertIfNew]
      by_cases hk : e.1 = k
      · subst hk
        by_cases hm : e.1 ∈ m <;> simp [hm]
      · simp [hk]

/-- Looking a key up in the entries of a map. -/
theorem find?_toList [DecidableEq κ] (m : ExtTreeMap κ α) (k : κ) :
    (m.toList.find? (·.1 == k)).map Prod.snd = m[k]? := by
  rw [← List.head?_filter, filter_toList]
  cases m[k]? <;> rfl

theorem insertAllIfNew_toList_getElem? [DecidableEq κ] (m n : ExtTreeMap κ α) (k : κ) :
    (insertAllIfNew m n.toList)[k]? = (m[k]?).or n[k]? := by
  rw [insertAllIfNew_getElem?, find?_toList]

end OrderedMap

end FastNetMon
