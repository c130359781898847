/-
FastNetMon/WeightedKeys.lean

Weights of the keys of a list of items, for arbitrary items and keys.

`weightOf` is the sum of the weights of the items of one key.  The weights of
distinct keys add up to no more than the weight of all items (`sum_weightOf_le`),
so that no more than `100 / share` keys have a share of `share` percent each
(`length_le_of_share`).  A sum that stops at a cap is the capped sum
(`min_add_min`), in whichever order it is taken.
-/
import Mathlib.Algebra.BigOperators.Group.List.Basic
import Mathlib.Algebra.Order.BigOperators.Group.List
import Mathlib.Tactic

namespace FastNetMon

variable {α κ : Type*} [DecidableEq κ]

/-- The weight of a key: of the items of this key together. -/
def weightOf (key : α → κ) (weight : α → ℕ) (items : List α) (k : κ) : ℕ :=
  ((items.filter fun item => key item = k).map weight).sum

variable {key : α → κ} {weight : α → ℕ}

@[simp] theorem weightOf_nil (k : κ) : weightOf key weight [] k = 0 := rfl

theorem weightOf_append_self (items : List α) (item : α) :
    weightOf key weight (items ++ [item]) (key item)
      = weightOf key weight items (key item) + weight item := by
  simp [weightOf]

theorem weightOf_append_of_ne (items : List α) {item : α} {k : κ} (h : key item ≠ k) :
    weightOf key weight (items ++ [item]) k = weightOf key weight items k := by
  simp [weightOf, h]

theorem weightOf_perm {items items' : List α} (h : items.Perm items') (k : κ) :
    weightOf key weight items k = weightOf key weight items' k :=
  ((h.filter _).map _).sum_eq

/-- Only a key of some item has a weight. -/
theorem weightOf_of_notMem {items : List α} {k : κ} (h : k ∉ items.map key) :
    weightOf key weight items k = 0 := by
  have hnone : (items.filter fun item => key item = k) = [] := by
    rw [List.filter_eq_nil_iff]
    intro item hitem hkey
    exact h (List.mem_map.mpr ⟨item, hitem, of_decide_eq_true hkey⟩)
  rw [weightOf, hnone, List.map_nil, List.sum_nil]

/-- The weight of one key is no more than that of all items. -/
theorem weightOf_le_sum (items : List α) (k : κ) :
    weightOf key weight items k ≤ (items.map weight).sum :=
  (List.filter_sublist.map weight).sum_le_sum fun _ _ => Nat.zero_le _

/-- The weights of distinct keys add up to no more than that of all items. -/
theorem sum_weightOf_le {keys : List κ} (hnodup : keys.Nodup) (items : List α) :
    (keys.map (weightOf key weight items)).sum ≤ (items.map weight).sum := by
  induction keys generalizing items with
  | nil => exact Nat.zero_le _
  | cons k keys ih =>
    rw [List.nodup_cons] at hnodup
    -- the other keys only see the items that are not of this one
    have hothers : ∀ k' ∈ keys, weightOf key weight items k'
        = weightOf key weight (items.filter fun item => !decide (key item = k)) k' := by
      intro k' hk'
      have hne : k' ≠ k := by
        rintro rfl
        exact hnodup.1 hk'
      rw [weightOf, weightOf, List.filter_filter]
      refine congrArg (fun l => (List.map weight l).sum) (List.filter_congr ?_)
      intro item _
      by_cases hkey : key item = k' <;> simp [hkey, hne]
    have hsplit : (items.map weight).sum = weightOf key weight items k
        + ((items.filter fun item => !decide (key item = k)).map weight).sum := by
      rw [weightOf, ← List.sum_append, ← List.map_append]
      exact ((List.filter_append_perm _ items).map weight).sum_eq.symm
    rw [List.map_cons, List.sum_cons, List.map_congr_left hothers, hsplit]
    exact Nat.add_le_add_left (ih hnodup.2 _) _

/-- No more than `100 / share` distinct keys have `share` percent of a total that is at
least the weight of all items. -/
theorem length_le_of_share {keys : List κ} (hnodup : keys.Nodup) {items : List α}
    {total share : ℕ} (htotal : (items.map weight).sum ≤ total) (hpos : 0 < total)
    (hshare : 0 < share)
    (h : ∀ k ∈ keys, total * share ≤ 100 * weightOf key weight items k) :
    keys.length ≤ 100 / share := by
  have hsum : keys.length * (total * share)
      ≤ 100 * (keys.map (weightOf key weight items)).sum := by
    clear hnodup
    induction keys with
    | nil => simp
    | cons k keys ih =>
      have hk := h k List.mem_cons_self
      have hrest := ih fun k' hk' => h k' (List.mem_cons_of_mem k hk')
      rw [List.length_cons, List.map_cons, List.sum_cons, Nat.succ_mul, Nat.mul_add]
      omega
  have hle : (keys.map (weightOf key weight items)).sum ≤ (items.map weight).sum :=
    sum_weightOf_le hnodup items
  have htotal' : total * (keys.length * share) ≤ total * 100 :=
    calc total * (keys.length * share)
        = keys.length * (total * share) := by ring
      _ ≤ 100 * (keys.map (weightOf key weight items)).sum := hsum
      _ ≤ total * 100 := by
          rw [Nat.mul_comm]
          exact Nat.mul_le_mul_right 100 (hle.trans htotal)
  exact (Nat.le_div_iff_mul_le hshare).mpr (Nat.le_of_mul_le_mul_left htotal' hpos)

/-- A capped sum goes on as the capped sum. -/
theorem min_add_min (cap a b : ℕ) : min cap (min cap a + b) = min cap (a + b) := by
  omega

end FastNetMon
