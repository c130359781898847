/-
FastNetMon/RefreshPlan.lean

What a refresh plans (`begin_refresh_protocol_rules`).

The plan of a refresh depends on the requests only through the keys that are free and the
first request for each of them (`uniqueNewPortRules_getElem?`).  The specification speaks
of sets of keys: the port rules that are stored, and the new ones (`newPortRuleKeys`).
Main result: the five outcomes of the plan and what each of them stores
(`refresh_plan_spec`).
-/
import FastNetMon.Lifecycle

namespace FastNetMon

open Std

namespace GobgpFlowspecLifecycle

variable {l : GobgpFlowspecLifecycle} {v : UInt32} {p : IpProtocol}
  {k pk : GobgpFlowspecRuleKey} {po : GobgpFlowspecAnnounceRequest}
  {reqs reqs' : List GobgpFlowspecAnnounceRequest} {max : UInt64}

/-! ### New keys -/

/-- The keys of port rules of `(v, p)` that are requested and not stored. -/
def newPortRuleKeys (l : GobgpFlowspecLifecycle) (v : UInt32) (p : IpProtocol)
    (reqs : List GobgpFlowspecAnnounceRequest) : Finset GobgpFlowspecRuleKey :=
  (reqs.map (·.ruleKey)).toFinset.filter fun k => k.isPortRule v p = true ∧ l.rules[k]? = none

theorem mem_newPortRuleKeys : k ∈ l.newPortRuleKeys v p reqs ↔
    (∃ r ∈ reqs, r.ruleKey = k) ∧ k.isPortRule v p = true ∧ l.rules[k]? = none := by
  simp [newPortRuleKeys]

/-- For each new key, the plan has the first request for it. -/
theorem uniqueNewPortRules_getElem? :
    (l.uniqueNewPortRules pk reqs)[k]?
      = if k.isPortRule pk.destinationIpv4 pk.protocol = true ∧ l.rules[k]? = none then
          reqs.find? (·.ruleKey == k)
        else none := by
  simp only [uniqueNewPortRules, OrderedMap.insertAllIfNew_getElem?, ExtTreeMap.getElem?_empty,
    Option.none_or, List.find?_map, List.find?_filter, Option.map_map]
  split
  · rename_i hnew
    have hmap : (Prod.snd ∘ fun request : GobgpFlowspecAnnounceRequest =>
        (request.ruleKey, request)) = id := rfl
    rw [hmap, Option.map_id, id]
    congr 1
    funext r
    by_cases hr : r.ruleKey = k
    · simp [hr, hnew.1, hnew.2]
    · simp [hr]
  · rename_i hold
    rw [Option.map_eq_none_iff, List.find?_eq_none]
    intro r _ hr
    rw [decide_eq_true_eq, Bool.and_eq_true, Option.isNone_iff_eq_none, Function.comp_apply,
      beq_iff_eq] at hr
    obtain ⟨hfree, rfl⟩ := hr
    exact hold hfree

theorem mem_uniqueNewPortRules : k ∈ l.uniqueNewPortRules pk reqs ↔
    k ∈ l.newPortRuleKeys pk.destinationIpv4 pk.protocol reqs := by
  rw [← ExtTreeMap.isSome_getElem?_iff_mem, uniqueNewPortRules_getElem?, mem_newPortRuleKeys]
  split
  · rename_i hnew
    simp [hnew, List.find?_isSome]
  · rename_i hold
    exact iff_of_false (by simp) fun hnew => hold hnew.2

theorem keys_uniqueNewPortRules : (l.uniqueNewPortRules pk reqs).keys.toFinset
    = l.newPortRuleKeys pk.destinationIpv4 pk.protocol reqs := by
  ext k
  rw [List.mem_toFinset, ExtTreeMap.mem_keys, mem_uniqueNewPortRules]

theorem size_uniqueNewPortRules : (l.uniqueNewPortRules pk reqs).size
    = (l.newPortRuleKeys pk.destinationIpv4 pk.protocol reqs).card := by
  rw [← keys_uniqueNewPortRules, List.toFinset_card_of_nodup ExtTreeMap.nodup_keys,
    ExtTreeMap.length_keys]

/-- Only the order of requests with one key matters. -/
theorem uniqueNewPortRules_congr
    (h : ∀ k, reqs.filter (·.ruleKey == k) = reqs'.filter (·.ruleKey == k)) :
    l.uniqueNewPortRules pk reqs = l.uniqueNewPortRules pk reqs' := by
  refine ExtTreeMap.ext_getElem? fun k => ?_
  rw [uniqueNewPortRules_getElem?, uniqueNewPortRules_getElem?, ← List.head?_filter,
    ← List.head?_filter, h k]

/-! ### The outcomes -/

/-- What a plan for `(v, p)` and the rules behind it have to be. -/
structure RefreshPlanned (l : GobgpFlowspecLifecycle) (v : UInt32) (p : IpProtocol)
    (po : GobgpFlowspecAnnounceRequest) (reqs : List GobgpFlowspecAnnounceRequest)
    (max : UInt64) (plan : GobgpFlowspecRefreshProtocolPlan) (l' : GobgpFlowspecLifecycle) :
    Prop where
  withdrawInProgress : plan.action = .withdrawInProgress ↔ v ∈ l.victimsWithdrawRequested
  protocolOnlyCovers : plan.action = .protocolOnlyCovers ↔
    v ∉ l.victimsWithdrawRequested ∧ l.protocolCovered v p
  noNewPortRules : plan.action = .noNewPortRules ↔
    v ∉ l.victimsWithdrawRequested ∧ ¬ l.protocolCovered v p ∧
      ∀ r ∈ reqs, r.ruleKey.isPortRule v p = true → r.ruleKey ∈ l.rules
  escalateProtocolOnly : plan.action = .escalateProtocolOnly ↔
    v ∉ l.victimsWithdrawRequested ∧ ¬ l.protocolCovered v p ∧
      l.newPortRuleKeys v p reqs ≠ ∅ ∧
      l.portRuleCount v p + (l.newPortRuleKeys v p reqs).card > max.toNat
  addPortRules : plan.action = .addPortRules ↔
    v ∉ l.victimsWithdrawRequested ∧ ¬ l.protocolCovered v p ∧
      l.newPortRuleKeys v p reqs ≠ ∅ ∧
      l.portRuleCount v p + (l.newPortRuleKeys v p reqs).card ≤ max.toNat
  unchanged : plan.action ≠ .escalateProtocolOnly → plan.action ≠ .addPortRules →
    l' = l ∧ plan.announceRequests = []
  escalated : plan.action = .escalateProtocolOnly →
    plan.announceRequests = [po] ∧ po.ruleKey ∉ l.rules ∧
      ∀ k, l'.rules[k]?
        = if k = po.ruleKey then some (announcingRule po.flowSpecRule) else l.rules[k]?
  added : plan.action = .addPortRules →
    (plan.announceRequests.map (·.ruleKey)).Nodup ∧
      (plan.announceRequests.map (·.ruleKey)).toFinset = l.newPortRuleKeys v p reqs ∧
      (∀ r ∈ plan.announceRequests, r ∈ reqs ∧
        l'.rules[r.ruleKey]? = some (announcingRule r.flowSpecRule)) ∧
      ∀ k ∉ l.newPortRuleKeys v p reqs, l'.rules[k]? = l.rules[k]?
  fences : l'.victimsWithdrawRequested = l.victimsWithdrawRequested ∧
    l'.victimsRefreshInProgress = l.victimsRefreshInProgress

theorem newPortRuleKeys_eq_empty : l.newPortRuleKeys v p reqs = ∅ ↔
    ∀ r ∈ reqs, r.ruleKey.isPortRule v p = true → r.ruleKey ∈ l.rules := by
  rw [Finset.eq_empty_iff_forall_notMem]
  constructor
  · intro h r hr hport
    by_contra hfree
    exact h r.ruleKey (mem_newPortRuleKeys.mpr ⟨⟨r, hr, rfl⟩, hport,
      ExtTreeMap.getElem?_eq_none hfree⟩)
  · rintro h k hk
    obtain ⟨⟨r, hr, rfl⟩, hport, hfree⟩ := mem_newPortRuleKeys.mp hk
    exact absurd (h r hr hport) (by rw [← ExtTreeMap.isSome_getElem?_iff_mem, hfree]; simp)

theorem isProtocolOnly_iff :
    pk.isProtocolOnly v p = true ↔ pk.destinationIpv4 = v ∧ pk.protocolPresent = true ∧
      pk.protocol = p ∧ pk.destinationPortPresent = false := by
  simp [GobgpFlowspecRuleKey.isProtocolOnly, and_assoc]

/-- The plan for a request meets its specification. -/
theorem refreshPlanned (l : GobgpFlowspecLifecycle) (reqs : List GobgpFlowspecAnnounceRequest)
    (max : UInt64) (hpo : po.ruleKey.isProtocolOnly v p = true) :
    RefreshPlanned l v p po reqs max (l.beginRefreshProtocolRules po reqs max).1
      (l.beginRefreshProtocolRules po reqs max).2 := by
  have hkey := isProtocolOnly_iff.mp hpo
  obtain ⟨rfl, -, rfl, -⟩ := hkey
  unfold beginRefreshProtocolRules
  by_cases hf : po.ruleKey.destinationIpv4 ∈ l.victimsWithdrawRequested
  · rw [if_pos hf]
    constructor <;> simp [hf]
  have hcovers := countPortRules_eq_true_iff (l := l) po.ruleKey
  by_cases hc : (countPortRules po.ruleKey l.rules.keys 0).1 = true
  · have hcovered := hcovers.mp hc
    simp only [if_neg hf, if_pos hc]
    constructor <;> simp [hf, hcovered]
  have hfree : ¬ l.protocolCovered po.ruleKey.destinationIpv4 po.ruleKey.protocol :=
    mt hcovers.mpr hc
  have hcount : (countPortRules po.ruleKey l.rules.keys 0).2
      = l.portRuleCount po.ruleKey.destinationIpv4 po.ruleKey.protocol := by
    rw [countPortRules_snd po.ruleKey l.rules.keys 0 (by simpa using hc), Nat.zero_add]
    rfl
  have hsize : (l.uniqueNewPortRules po.ruleKey reqs).size = _ := size_uniqueNewPortRules
  have hempty : l.newPortRuleKeys po.ruleKey.destinationIpv4 po.ruleKey.protocol reqs = ∅ ↔ _ :=
    newPortRuleKeys_eq_empty
  simp only [if_neg hf, if_neg hc, hcount, hsize, Finset.card_eq_zero]
  by_cases hnew : l.newPortRuleKeys po.ruleKey.destinationIpv4 po.ruleKey.protocol reqs = ∅
  · rw [if_pos hnew]
    have hall := hempty.mp hnew
    exact {
      withdrawInProgress := by simp [hf]
      protocolOnlyCovers := by simp [hfree]
      noNewPortRules := iff_of_true rfl ⟨hf, hfree, hall⟩
      escalateProtocolOnly := by simp [hnew]
      addPortRules := by simp [hnew]
      unchanged := fun _ _ => ⟨rfl, rfl⟩
      escalated := by simp
      added := by simp
      fences := ⟨rfl, rfl⟩ }
  have hnotAll := mt hempty.mpr hnew
  rw [if_neg hnew]
  by_cases hmax : l.portRuleCount po.ruleKey.destinationIpv4 po.ruleKey.protocol
      + (l.newPortRuleKeys po.ruleKey.destinationIpv4 po.ruleKey.protocol reqs).card > max.toNat
  · rw [if_pos hmax]
    have hnotStored : po.ruleKey ∉ l.rules := fun hstored => hfree ⟨po.ruleKey, hpo, hstored⟩
    exact {
      withdrawInProgress := by simp [hf]
      protocolOnlyCovers := by simp [hfree]
      noNewPortRules := iff_of_false (by simp) fun h => hnotAll h.2.2
      escalateProtocolOnly := iff_of_true rfl ⟨hf, hfree, hnew, hmax⟩
      addPortRules := iff_of_false (by simp) fun h => absurd h.2.2.2 (by omega)
      unchanged := fun h => absurd rfl h
      escalated := fun _ => ⟨rfl, hnotStored, fun k => by
        rw [ExtTreeMap.getElem?_insertIfNew]
        by_cases hk : k = po.ruleKey
        · subst hk
          simp [hnotStored]
        · simp [hk, Ne.symm hk]⟩
      added := by simp
      fences := ⟨rfl, rfl⟩ }
  · rw [if_neg hmax]
    have hkeys : ((l.uniqueNewPortRules po.ruleKey reqs).toList.map (·.2)).map (·.ruleKey)
        = (l.uniqueNewPortRules po.ruleKey reqs).keys := by
      rw [List.map_map, ← ExtTreeMap.map_fst_toList_eq_keys]
      refine List.map_congr_left fun e he => ?_
      exact (uniqueNewPortRules_spec (ExtTreeMap.mem_toList_iff_getElem?_eq_some.mp he)).1
    exact {
      withdrawInProgress := by simp [hf]
      protocolOnlyCovers := by simp [hfree]
      noNewPortRules := iff_of_false (by simp) fun h => hnotAll h.2.2
      escalateProtocolOnly := iff_of_false (by simp) fun h => hmax h.2.2.2
      addPortRules := iff_of_true rfl ⟨hf, hfree, hnew, by omega⟩
      unchanged := fun _ h => absurd rfl h
      escalated := by simp
      added := fun _ => by
        dsimp only
        rw [hkeys]
        refine ⟨ExtTreeMap.nodup_keys, keys_uniqueNewPortRules, fun r hr => ?_, fun k hk => ?_⟩
        · obtain ⟨⟨k, r⟩, he, rfl⟩ := List.mem_map.mp hr
          have hfound := ExtTreeMap.mem_toList_iff_getElem?_eq_some.mp he
          obtain ⟨rfl, hmem, -, hfree⟩ := uniqueNewPortRules_spec hfound
          refine ⟨hmem, ?_⟩
          rw [announceAll_getElem?, hfree, hfound]
          rfl
        · rw [announceAll_getElem?, ExtTreeMap.getElem?_eq_none
            (a := k) (fun hmem => hk (mem_uniqueNewPortRules.mp hmem))]
          simp
      fences := ⟨rfl, rfl⟩ }

/-! ### A second call -/

/-- The requests count only through the new keys and their first requests. -/
theorem beginRefreshProtocolRules_congr
    (h : ∀ k, reqs.filter (·.ruleKey == k) = reqs'.filter (·.ruleKey == k)) :
    l.beginRefreshProtocolRules po reqs max = l.beginRefreshProtocolRules po reqs' max := by
  unfold beginRefreshProtocolRules
  simp only [uniqueNewPortRules_congr h]

/-- The rules of a plan are not planned again. -/
theorem beginRefreshProtocolRules_twice (hpo : po.ruleKey.isProtocolOnly v p = true) :
    let l' := (l.beginRefreshProtocolRules po reqs max).2
    (l'.beginRefreshProtocolRules po reqs max).2 = l' ∧
      (l'.beginRefreshProtocolRules po reqs max).1.announceRequests = [] := by
  intro l'
  have hfirst := refreshPlanned l reqs max hpo
  have hsecond := refreshPlanned l' reqs max hpo
  have hinserts : (l'.beginRefreshProtocolRules po reqs max).1.action ≠ .escalateProtocolOnly →
      (l'.beginRefreshProtocolRules po reqs max).1.action ≠ .addPortRules →
      (l'.beginRefreshProtocolRules po reqs max).2 = l' ∧
        (l'.beginRefreshProtocolRules po reqs max).1.announceRequests = [] := hsecond.unchanged
  by_cases hescalate :
      (l.beginRefreshProtocolRules po reqs max).1.action = .escalateProtocolOnly
  · -- the rule for the protocol covers now
    obtain ⟨-, -, hrules⟩ := hfirst.escalated hescalate
    have hcovered : l'.protocolCovered v p := by
      refine ⟨po.ruleKey, hpo, ?_⟩
      rw [← ExtTreeMap.isSome_getElem?_iff_mem, hrules, if_pos rfl]
      rfl
    exact hinserts (fun h => (hsecond.escalateProtocolOnly.mp h).2.1 hcovered)
      fun h => (hsecond.addPortRules.mp h).2.1 hcovered
  by_cases hadd : (l.beginRefreshProtocolRules po reqs max).1.action = .addPortRules
  · -- no request is for a free key now
    obtain ⟨-, hkeys, hadded, hold⟩ := hfirst.added hadd
    have hnone : l'.newPortRuleKeys v p reqs = ∅ := by
      rw [newPortRuleKeys_eq_empty]
      intro r hr hport
      rw [← ExtTreeMap.isSome_getElem?_iff_mem]
      by_cases hnew : r.ruleKey ∈ l.newPortRuleKeys v p reqs
      · have hlisted := hnew
        rw [← hkeys, List.mem_toFinset] at hlisted
        obtain ⟨r', hr', hkey⟩ := List.mem_map.mp hlisted
        have hstored := (hadded r' hr').2
        rw [hkey] at hstored
        exact Option.isSome_iff_exists.mpr ⟨_, hstored⟩
      · have hstored : r.ruleKey ∈ l.rules := by
          by_contra hfree
          exact hnew (mem_newPortRuleKeys.mpr
            ⟨⟨r, hr, rfl⟩, hport, ExtTreeMap.getElem?_eq_none hfree⟩)
        have hsame : l'.rules[r.ruleKey]? = l.rules[r.ruleKey]? := hold _ hnew
        rw [hsame, ExtTreeMap.isSome_getElem?_iff_mem]
        exact hstored
    exact hinserts (fun h => (hsecond.escalateProtocolOnly.mp h).2.2.1 hnone)
      fun h => (hsecond.addPortRules.mp h).2.2.1 hnone
  · have hsame : l' = l := (hfirst.unchanged hescalate hadd).1
    refine hinserts ?_ ?_
    · rw [hsame]
      exact hescalate
    · rw [hsame]
      exact hadd

end GobgpFlowspecLifecycle

/-! ### The plan -/

/-- **The plan of a refresh meets its specification**, it does not depend on the order of
requests for different keys, and a second call with the same arguments inserts nothing. -/
theorem refresh_plan_spec (l : GobgpFlowspecLifecycle) (v : UInt32) (p : IpProtocol)
    (po : GobgpFlowspecAnnounceRequest) (reqs : List GobgpFlowspecAnnounceRequest) (max : UInt64)
    (hpo : po.ruleKey.isProtocolOnly v p = true) :
    let result := l.beginRefreshProtocolRules po reqs max
    GobgpFlowspecLifecycle.RefreshPlanned l v p po reqs max result.1 result.2 ∧
      (∀ reqs', (∀ k, reqs.filter (·.ruleKey == k) = reqs'.filter (·.ruleKey == k)) →
        l.beginRefreshProtocolRules po reqs' max = result) ∧
      (result.2.beginRefreshProtocolRules po reqs max).2 = result.2 ∧
      (result.2.beginRefreshProtocolRules po reqs max).1.announceRequests = [] :=
  ⟨GobgpFlowspecLifecycle.refreshPlanned l reqs max hpo,
    fun _ h => (GobgpFlowspecLifecycle.beginRefreshProtocolRules_congr h).symm,
    GobgpFlowspecLifecycle.beginRefreshProtocolRules_twice hpo⟩

/-- A request for the whole of UDP, for a victim without rules. -/
def udpRequest : GobgpFlowspecAnnounceRequest := ⟨.protocolOnly 1 .UDP, {}⟩

theorem refresh_plan_spec_udp : GobgpFlowspecLifecycle.RefreshPlanned {} 1 .UDP udpRequest
    [⟨.portRule 1 .UDP 53, {}⟩, ⟨.portRule 1 .UDP 53, {}⟩, ⟨.portRule 2 .UDP 80, {}⟩] 1
    (GobgpFlowspecLifecycle.beginRefreshProtocolRules {} udpRequest
      [⟨.portRule 1 .UDP 53, {}⟩, ⟨.portRule 1 .UDP 53, {}⟩, ⟨.portRule 2 .UDP 80, {}⟩] 1).1
    (GobgpFlowspecLifecycle.beginRefreshProtocolRules {} udpRequest
      [⟨.portRule 1 .UDP 53, {}⟩, ⟨.portRule 1 .UDP 53, {}⟩, ⟨.portRule 2 .UDP 80, {}⟩] 1).2 :=
  (refresh_plan_spec {} 1 .UDP udpRequest _ 1 (by decide)).1

end FastNetMon
