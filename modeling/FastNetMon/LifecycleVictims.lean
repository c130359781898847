/-
FastNetMon/LifecycleVictims.lean

Victims do not interfere: the lifecycle is one shared map with two sets, but
every operation concerns a single destination address.

`forVictim v l` keeps of a lifecycle what belongs to `v`.  Each of the eleven
operations is local to its victim in the sense of `LocalTo`: it does on
`forVictim v l` exactly what it does on `l`, result included, and leaves the
part of every other victim alone (`LifecycleOp.localTo`).  This includes
`begin_refresh_protocol_rules` whatever foreign requests it is handed, because
it filters them by address before it looks anything up.

Main result: operations for different victims commute, with the same results
(`apply_commute`).
-/
import Mathlib
import FastNetMon.LifecycleInvariant
import FastNetMon.Locality

namespace FastNetMon

open Std

/-! ### The part of one victim -/

/-- The rules of one victim. -/
def rulesFor (v : UInt32) (m : RuleMap) : RuleMap :=
  m.filter fun k _ => k.destinationIpv4 == v

namespace GobgpFlowspecLifecycle

/-- What a lifecycle holds for `v`. -/
def forVictim (v : UInt32) (l : GobgpFlowspecLifecycle) : GobgpFlowspecLifecycle where
  rules := rulesFor v l.rules
  victimsWithdrawRequested := l.victimsWithdrawRequested.filter (· = v)
  victimsRefreshInProgress := l.victimsRefreshInProgress.filter (· = v)

end GobgpFlowspecLifecycle

open GobgpFlowspecLifecycle

variable {l l' : GobgpFlowspecLifecycle} {m m' : RuleMap} {u v : UInt32}
  {k : GobgpFlowspecRuleKey} {s : GobgpFlowspecRuleState}

/-- A victim's part of the rules answers for the keys of that victim only. -/
theorem rulesFor_getElem? (v : UInt32) (m : RuleMap) (k : GobgpFlowspecRuleKey) :
    (rulesFor v m)[k]? = if k.destinationIpv4 = v then m[k]? else none := by
  rw [rulesFor, ExtTreeMap.getElem?_filter']
  rcases m[k]? with - | s
  · simp
  · by_cases hk : k.destinationIpv4 = v <;> simp [hk]

@[simp] theorem rulesFor_getElem?_of_eq (hk : k.destinationIpv4 = v) :
    (rulesFor v m)[k]? = m[k]? := by
  rw [rulesFor_getElem?, if_pos hk]

/-- The part of a victim depends on the states of its own keys only. -/
theorem rulesFor_congr (h : ∀ k : GobgpFlowspecRuleKey, k.destinationIpv4 = v → m[k]? = m'[k]?) :
    rulesFor v m = rulesFor v m' := by
  refine ExtTreeMap.ext_getElem? fun k => ?_
  rw [rulesFor_getElem?, rulesFor_getElem?]
  split
  · rename_i hk
    exact h k hk
  · rfl

/-- The parts of two lifecycles agree if their entries for `v` do. -/
theorem forVictim_congr
    (hr : ∀ k : GobgpFlowspecRuleKey, k.destinationIpv4 = v → l.rules[k]? = l'.rules[k]?)
    (hf : v ∈ l.victimsWithdrawRequested ↔ v ∈ l'.victimsWithdrawRequested)
    (hc : v ∈ l.victimsRefreshInProgress ↔ v ∈ l'.victimsRefreshInProgress) :
    l.forVictim v = l'.forVictim v := by
  refine GobgpFlowspecLifecycle.ext (rulesFor_congr hr) ?_ ?_ <;>
    ext u <;> simp only [forVictim, Finset.mem_filter]
  · constructor <;> rintro ⟨hu, rfl⟩
    · exact ⟨hf.mp hu, rfl⟩
    · exact ⟨hf.mpr hu, rfl⟩
  · constructor <;> rintro ⟨hu, rfl⟩
    · exact ⟨hc.mp hu, rfl⟩
    · exact ⟨hc.mpr hu, rfl⟩

/-- The parts determine the lifecycle. -/
theorem lifecycle_ext_forVictim (h : ∀ v, l.forVictim v = l'.forVictim v) : l = l' := by
  have hrules : ∀ k : GobgpFlowspecRuleKey, l.rules[k]? = l'.rules[k]? := by
    intro k
    have := congrArg (fun l => l.rules[k]?) (h k.destinationIpv4)
    simpa [forVictim] using this
  have hfence : ∀ v, v ∈ l.victimsWithdrawRequested ↔ v ∈ l'.victimsWithdrawRequested := by
    intro v
    have := congrArg (fun l => v ∈ l.victimsWithdrawRequested) (h v)
    simpa [forVictim] using this
  have hrefresh : ∀ v, v ∈ l.victimsRefreshInProgress ↔ v ∈ l'.victimsRefreshInProgress := by
    intro v
    have := congrArg (fun l => v ∈ l.victimsRefreshInProgress) (h v)
    simpa [forVictim] using this
  exact GobgpFlowspecLifecycle.ext (ExtTreeMap.ext_getElem? hrules) (Finset.ext hfence)
    (Finset.ext hrefresh)

@[simp] theorem forVictim_rules : (l.forVictim v).rules = rulesFor v l.rules := rfl

@[simp] theorem mem_forVictim_victimsWithdrawRequested :
    v ∈ (l.forVictim v).victimsWithdrawRequested ↔ v ∈ l.victimsWithdrawRequested := by
  simp [forVictim]

@[simp] theorem mem_forVictim_victimsRefreshInProgress :
    v ∈ (l.forVictim v).victimsRefreshInProgress ↔ v ∈ l.victimsRefreshInProgress := by
  simp [forVictim]

/-! ### Updates of the rules, seen in the part of a victim -/

/-- A new state for a key of the victim is a new state in its part. -/
theorem rulesFor_insert (hk : k.destinationIpv4 = v) :
    rulesFor v (m.insert k s) = (rulesFor v m).insert k s := by
  refine ExtTreeMap.ext_getElem? fun k' => ?_
  rw [rulesFor_getElem?, ExtTreeMap.getElem?_insert, ExtTreeMap.getElem?_insert,
    rulesFor_getElem?]
  by_cases h : k = k'
  · subst h
    simp [hk]
  · simp [h]

/-- Erasing any key erases it from the part as well. -/
theorem rulesFor_erase :
    rulesFor v (m.erase k) = (rulesFor v m).erase k := by
  refine ExtTreeMap.ext_getElem? fun k' => ?_
  rw [rulesFor_getElem?, ExtTreeMap.getElem?_erase, ExtTreeMap.getElem?_erase,
    rulesFor_getElem?]
  by_cases h : k = k'
  · subst h
    simp
  · simp [h]

/-- The keys of a part are the victim's own. -/
theorem mem_rulesFor : k ∈ rulesFor v m ↔ k.destinationIpv4 = v ∧ k ∈ m := by
  rw [← ExtTreeMap.isSome_getElem?_iff_mem, rulesFor_getElem?]
  split <;> simp_all

/-- The part of a victim takes a key under the same test as the whole map. -/
theorem rulesFor_insertIfNew (hk : k.destinationIpv4 = v) :
    rulesFor v (m.insertIfNew k s) = (rulesFor v m).insertIfNew k s := by
  refine ExtTreeMap.ext_getElem? fun k' => ?_
  rw [rulesFor_getElem?, ExtTreeMap.getElem?_insertIfNew, ExtTreeMap.getElem?_insertIfNew,
    rulesFor_getElem?]
  by_cases h : k = k'
  · subst h
    simp [hk, mem_rulesFor]
  · simp [h]

/-- Whether a victim has rules is seen in its own part. -/
@[simp] theorem victimHasRulesLocked_forVictim :
    (l.forVictim v).victimHasRulesLocked v = l.victimHasRulesLocked v := by
  rw [Bool.eq_iff_iff, victimHasRulesLocked_iff, victimHasRulesLocked_iff]
  constructor
  · rintro ⟨k, hk, hmem⟩
    exact ⟨k, hk, (mem_rulesFor.mp hmem).2⟩
  · rintro ⟨k, hk, hmem⟩
    exact ⟨k, hk, mem_rulesFor.mpr ⟨hk, hmem⟩⟩

/-- The fence of a victim is lifted by its own rules and captures. -/
theorem clear_forVictim :
    (l.forVictim v).clearWithdrawFenceIfFinishedLocked v
      = (l.clearWithdrawFenceIfFinishedLocked v).forVictim v := by
  simp only [clearWithdrawFenceIfFinishedLocked, victimHasRulesLocked_forVictim,
    mem_forVictim_victimsRefreshInProgress]
  split
  · rfl
  · refine GobgpFlowspecLifecycle.ext rfl ?_ rfl
    ext u
    simp only [forVictim, Finset.mem_erase, Finset.mem_filter]
    tauto

/-- The loop of a withdrawal over rules of `v` runs on the part of `v`. -/
theorem withdrawMatching_forVictim (p : GobgpFlowspecRuleKey → Bool) :
    (l.forVictim v).withdrawMatching p = rulesFor v (l.withdrawMatching p) := by
  refine ExtTreeMap.ext_getElem? fun k => ?_
  rw [withdrawMatching_getElem?, rulesFor_getElem?, withdrawMatching_getElem?, forVictim_rules,
    rulesFor_getElem?]
  by_cases hk : k.destinationIpv4 = v <;> simp [hk]

/-- A withdrawal of rules of one victim starts the same ones in its part. -/
theorem startedRules_forVictim {p : GobgpFlowspecRuleKey → Bool} {start : WithdrawStart}
    (hp : ∀ k : GobgpFlowspecRuleKey, p k = true → k.destinationIpv4 = v) :
    (l.forVictim v).startedRules p start = l.startedRules p start := by
  have hmatch : (l.forVictim v).matchingRules p = l.matchingRules p := by
    rw [matchingRules, matchingRules, forVictim_rules, rulesFor, ExtTreeMap.toList_filter,
      List.filter_filter]
    refine List.filter_congr fun e _ => ?_
    by_cases h : p e.1 = true
    · simp [h, hp e.1 h]
    · simp [h]
  rw [startedRules, startedRules, hmatch]

/-- The requests of a withdrawal of one victim are read from its part. -/
theorem withdrawRequestsFor_forVictim {p : GobgpFlowspecRuleKey → Bool}
    (hp : ∀ k : GobgpFlowspecRuleKey, p k = true → k.destinationIpv4 = v) :
    (l.forVictim v).withdrawRequestsFor p = l.withdrawRequestsFor p := by
  rw [withdrawRequestsFor, withdrawRequestsFor, startedRules_forVictim hp]

theorem destinationIpv4_of_isPortRule {p : IpProtocol} (h : k.isPortRule v p = true) :
    k.destinationIpv4 = v := by
  simp_all [GobgpFlowspecRuleKey.isPortRule]

/-- Counting skips the rules of other victims. -/
theorem countPortRules_filter (pk : GobgpFlowspecRuleKey) (ks : List GobgpFlowspecRuleKey)
    (n : ℕ) :
    countPortRules pk (ks.filter (·.destinationIpv4 == pk.destinationIpv4)) n
      = countPortRules pk ks n := by
  induction ks generalizing n with
  | nil => rfl
  | cons k ks ih =>
      by_cases hk : k.destinationIpv4 = pk.destinationIpv4
      · rw [List.filter_cons_of_pos (by simpa using hk)]
        simp only [countPortRules, ih]
      · rw [List.filter_cons_of_neg (by simpa using hk), ih]
        simp [countPortRules, hk]

/-- Which port rules of a victim are new is seen in its part. -/
theorem uniqueNewPortRules_forVictim {pk : GobgpFlowspecRuleKey}
    {reqs : List GobgpFlowspecAnnounceRequest} (hv : pk.destinationIpv4 = v) :
    (l.forVictim v).uniqueNewPortRules pk reqs = l.uniqueNewPortRules pk reqs := by
  have hnew : ∀ r ∈ reqs,
      (r.ruleKey.isPortRule pk.destinationIpv4 pk.protocol
        && ((l.forVictim v).rules[r.ruleKey]?).isNone)
      = (r.ruleKey.isPortRule pk.destinationIpv4 pk.protocol
        && (l.rules[r.ruleKey]?).isNone) := by
    intro r _
    by_cases h : r.ruleKey.isPortRule pk.destinationIpv4 pk.protocol = true
    · have hd : r.ruleKey.destinationIpv4 = v := (destinationIpv4_of_isPortRule h).trans hv
      simp [hd]
    · simp [h]
  simp only [uniqueNewPortRules, List.filter_congr hnew]

/-- Announcing keys of one victim announces them in its part. -/
theorem announceAll_forVictim
    {requests : ExtTreeMap GobgpFlowspecRuleKey GobgpFlowspecAnnounceRequest}
    (h : ∀ k : GobgpFlowspecRuleKey, k ∈ requests → k.destinationIpv4 = v) :
    (l.forVictim v).announceAll requests = rulesFor v (l.announceAll requests) := by
  refine ExtTreeMap.ext_getElem? fun k => ?_
  rw [announceAll_getElem?, rulesFor_getElem?, announceAll_getElem?, forVictim_rules,
    rulesFor_getElem?]
  by_cases hk : k.destinationIpv4 = v
  · simp [hk]
  · have hnone : requests[k]? = none := ExtTreeMap.getElem?_eq_none fun hmem => hk (h k hmem)
    simp [hk, hnone]

/-! ### Every operation is local to its victim -/

/-- The victim an operation is called for. -/
def LifecycleOp.victim : LifecycleOp → UInt32
  | .beginAnnounce k _ | .beginRefreshAnnounce k _ | .failAnnounce k | .completeAnnounce k _
  | .completeWithdraw k _ _ | .beginProtocolOnlyEscalationCleanup k => k.destinationIpv4
  | .beginRefreshCapture v | .completeRefreshCapture v | .finishRefreshCapture v
  | .beginWithdrawForVictim v => v
  | .beginRefreshProtocolRules po _ _ => po.ruleKey.destinationIpv4

/-- A reservation answers and acts as it would on the part of its victim. -/
theorem reserveRule_forVictim (r : FlowSpecRule) :
    (l.forVictim k.destinationIpv4).reserveRule k r
      = ((l.reserveRule k r).1, (l.reserveRule k r).2.forVictim k.destinationIpv4) := by
  simp only [reserveRule, mem_forVictim_victimsWithdrawRequested, forVictim_rules,
    rulesFor_getElem?_of_eq]
  split_ifs
  · rfl
  · rfl
  · simp only [forVictim, rulesFor_insertIfNew]

/-- The start of a capture is decided by the part of its victim. -/
theorem beginRefreshCapture_forVictim :
    (l.forVictim v).beginRefreshCapture v
      = ((l.beginRefreshCapture v).1, (l.beginRefreshCapture v).2.forVictim v) := by
  simp only [beginRefreshCapture, mem_forVictim_victimsWithdrawRequested,
    mem_forVictim_victimsRefreshInProgress]
  split_ifs
  · rfl
  · simp only [forVictim, Finset.filter_insert, if_true]

/-- The end of a capture acts on the part of its victim. -/
theorem completeRefreshCapture_forVictim :
    (l.forVictim v).completeRefreshCapture v = (l.completeRefreshCapture v).forVictim v := by
  refine GobgpFlowspecLifecycle.ext rfl rfl ?_
  ext u
  simp only [forVictim, completeRefreshCapture, Finset.mem_erase, Finset.mem_filter]
  tauto

/-- Erasing a rule, with the fence it may lift, acts on the part of its victim. -/
theorem eraseRule_forVictim :
    (l.forVictim k.destinationIpv4).eraseRule k = (l.eraseRule k).forVictim k.destinationIpv4 := by
  rw [eraseRule, eraseRule, ← clear_forVictim]
  simp only [forVictim, rulesFor_erase]

/-- A failed AddPath acts on the part of its victim. -/
theorem failAnnounce_forVictim :
    (l.forVictim k.destinationIpv4).failAnnounce k
      = (l.failAnnounce k).forVictim k.destinationIpv4 := by
  unfold failAnnounce
  rw [forVictim_rules, rulesFor_getElem?_of_eq rfl]
  rcases l.rules[k]? with - | s
  · rfl
  · dsimp only
    split_ifs
    · exact eraseRule_forVictim
    · rfl

/-- An answered AddPath acts on the part of its victim, with the same answer. -/
theorem completeAnnounce_forVictim (uuid : ByteString) :
    (l.forVictim k.destinationIpv4).completeAnnounce k uuid
      = ((l.completeAnnounce k uuid).1,
        (l.completeAnnounce k uuid).2.forVictim k.destinationIpv4) := by
  unfold completeAnnounce
  rw [forVictim_rules, rulesFor_getElem?_of_eq rfl]
  rcases l.rules[k]? with - | s
  · rfl
  · dsimp only
    split_ifs
    · rfl
    · simp only [forVictim, rulesFor_insert]
    · simp only [forVictim, rulesFor_insert]
    · rfl

/-- An UNBAN acts on the part of its victim, with the same requests. -/
theorem beginWithdrawForVictim_forVictim :
    (l.forVictim v).beginWithdrawForVictim v
      = ((l.beginWithdrawForVictim v).1, (l.beginWithdrawForVictim v).2.forVictim v) := by
  have hp : ∀ k : GobgpFlowspecRuleKey, (k.destinationIpv4 == v) = true →
      k.destinationIpv4 = v := fun k => beq_iff_eq.mp
  simp only [beginWithdrawForVictim, ← clear_forVictim, withdrawRequestsFor_forVictim hp,
    startedRules_forVictim hp, withdrawMatching_forVictim]
  simp only [forVictim, Finset.filter_insert, if_true]

/-- An answered DeletePath acts on the part of its victim, with the same answer. -/
theorem completeWithdraw_forVictim (uuid : ByteString) (success : Bool) :
    (l.forVictim k.destinationIpv4).completeWithdraw k uuid success
      = ((l.completeWithdraw k uuid success).1,
        (l.completeWithdraw k uuid success).2.forVictim k.destinationIpv4) := by
  unfold completeWithdraw
  rw [forVictim_rules, rulesFor_getElem?_of_eq rfl]
  rcases l.rules[k]? with - | s
  · rfl
  · dsimp only
    split_ifs
    · rfl
    · rw [eraseRule_forVictim]
    · simp only [forVictim, rulesFor_insert]

/-- A refresh plans from the part of its victim. -/
theorem beginRefreshProtocolRules_forVictim (po : GobgpFlowspecAnnounceRequest)
    (reqs : List GobgpFlowspecAnnounceRequest) (max : UInt64) :
    (l.forVictim po.ruleKey.destinationIpv4).beginRefreshProtocolRules po reqs max
      = ((l.beginRefreshProtocolRules po reqs max).1,
        (l.beginRefreshProtocolRules po reqs max).2.forVictim po.ruleKey.destinationIpv4) := by
  have hkeys : countPortRules po.ruleKey
      (rulesFor po.ruleKey.destinationIpv4 l.rules).keys 0
        = countPortRules po.ruleKey l.rules.keys 0 := by
    rw [← countPortRules_filter, ← countPortRules_filter po.ruleKey l.rules.keys]
    congr 1
    rw [rulesFor, ExtTreeMap.keys_filter_key, List.filter_filter]
    exact List.filter_congr fun k _ => Bool.and_self _
  have hnew : ∀ k, k ∈ l.uniqueNewPortRules po.ruleKey reqs →
      k.destinationIpv4 = po.ruleKey.destinationIpv4 := by
    intro k hk
    obtain ⟨r, hr⟩ := Option.isSome_iff_exists.mp (ExtTreeMap.isSome_getElem?_iff_mem.mpr hk)
    exact destinationIpv4_of_isPortRule (uniqueNewPortRules_spec hr).2.2.1
  simp only [beginRefreshProtocolRules, mem_forVictim_victimsWithdrawRequested, forVictim_rules,
    hkeys, uniqueNewPortRules_forVictim, announceAll_forVictim hnew]
  split_ifs
  · rfl
  · rfl
  · rfl
  · simp only [forVictim, rulesFor_insertIfNew]
  · simp only [forVictim]

/-- The cleanup of an escalation plans from the part of its victim. -/
theorem beginProtocolOnlyEscalationCleanup_forVictim :
    (l.forVictim k.destinationIpv4).beginProtocolOnlyEscalationCleanup k
      = ((l.beginProtocolOnlyEscalationCleanup k).1,
        (l.beginProtocolOnlyEscalationCleanup k).2.forVictim k.destinationIpv4) := by
  unfold beginProtocolOnlyEscalationCleanup
  rw [forVictim_rules, rulesFor_getElem?_of_eq rfl]
  rcases l.rules[k]? with - | s
  · rfl
  · simp only [mem_forVictim_victimsWithdrawRequested]
    split_ifs
    · rfl
    · rw [withdrawRequestsFor_forVictim fun _ => destinationIpv4_of_isPortRule,
        withdrawMatching_forVictim]
      rfl

/-! ### Every operation leaves the other victims alone -/

/-- Rules that agree on the keys of `u` leave the part of `u` as it was. -/
theorem forVictim_with_rules
    (h : ∀ k : GobgpFlowspecRuleKey, k.destinationIpv4 = u → m[k]? = l.rules[k]?) :
    ({ l with rules := m } : GobgpFlowspecLifecycle).forVictim u = l.forVictim u :=
  forVictim_congr h Iff.rfl Iff.rfl

/-- A state written for another victim is not seen in the part of `u`. -/
theorem insert_frame (hu : u ≠ k.destinationIpv4) :
    ({ l with rules := l.rules.insert k s } : GobgpFlowspecLifecycle).forVictim u
      = l.forVictim u := by
  refine forVictim_with_rules fun k' hk' => ?_
  have hne : k ≠ k' := by
    rintro rfl
    exact hu hk'.symm
  simp [ExtTreeMap.getElem?_insert, hne]

theorem insertIfNew_frame (hu : u ≠ k.destinationIpv4) :
    ({ l with rules := l.rules.insertIfNew k s } : GobgpFlowspecLifecycle).forVictim u
      = l.forVictim u := by
  refine forVictim_with_rules fun k' hk' => ?_
  have hne : k ≠ k' := by
    rintro rfl
    exact hu hk'.symm
  simp [ExtTreeMap.getElem?_insertIfNew, hne]

/-- The fence of another victim is not in the part of `u`. -/
theorem clear_frame (hu : u ≠ v) :
    (l.clearWithdrawFenceIfFinishedLocked v).forVictim u = l.forVictim u :=
  forVictim_congr (fun k _ => by rw [clear_rules]) (mem_clear_of_ne hu) (by simp)

theorem eraseRule_frame (hu : u ≠ k.destinationIpv4) :
    (l.eraseRule k).forVictim u = l.forVictim u := by
  rw [eraseRule, clear_frame hu]
  refine forVictim_with_rules fun k' hk' => ?_
  have hne : k ≠ k' := by
    rintro rfl
    exact hu hk'.symm
  simp [ExtTreeMap.getElem?_erase, hne]

/-- A withdrawal that marks no key of `u` leaves the part of `u` as it was. -/
theorem withdrawMatching_frame {p : GobgpFlowspecRuleKey → Bool}
    (hp : ∀ k : GobgpFlowspecRuleKey, p k = true → k.destinationIpv4 ≠ u) :
    ({ l with rules := l.withdrawMatching p } : GobgpFlowspecLifecycle).forVictim u
      = l.forVictim u := by
  refine forVictim_with_rules fun k hk => ?_
  have hpk : ¬ p k = true := fun h => hp k h hk
  simp [withdrawMatching_getElem?, hpk]

theorem reserveRule_frame (r : FlowSpecRule) (hu : u ≠ k.destinationIpv4) :
    (l.reserveRule k r).2.forVictim u = l.forVictim u := by
  rcases l.reserveRule_cases k r with h | ⟨-, -, h⟩ <;> rw [h]
  exact insertIfNew_frame hu

theorem completeRefreshCapture_frame (hu : u ≠ v) :
    (l.completeRefreshCapture v).forVictim u = l.forVictim u :=
  forVictim_congr (fun _ _ => rfl) Iff.rfl (by simp [hu])

/-- An operation of one victim leaves the part of every other one as it was. -/
theorem apply_frame {op : LifecycleOp} (hu : u ≠ op.victim) :
    (op.apply l).2.forVictim u = l.forVictim u := by
  cases op with
  | beginAnnounce k r => exact reserveRule_frame r hu
  | beginRefreshAnnounce k r => exact reserveRule_frame r hu
  | beginRefreshCapture v =>
      rcases l.beginRefreshCapture_cases v with h | ⟨-, -, h⟩ <;>
        simp only [LifecycleOp.apply, h, Prod.map_snd, id]
      have hne : u ≠ v := hu
      exact forVictim_congr (fun _ _ => rfl) Iff.rfl (by simp [hne])
  | completeRefreshCapture v => exact completeRefreshCapture_frame hu
  | finishRefreshCapture v => exact (clear_frame hu).trans (completeRefreshCapture_frame hu)
  | failAnnounce k =>
      rcases l.failAnnounce_cases k with ⟨h, -⟩ | ⟨s, -, -, h⟩ <;>
        simp only [LifecycleOp.apply, h]
      exact eraseRule_frame hu
  | completeAnnounce k uuid =>
      rcases l.completeAnnounce_cases k uuid with
        ⟨h, -⟩ | ⟨s, -, -, -, h⟩ | ⟨s, -, -, -, -, h⟩ <;>
        simp only [LifecycleOp.apply, h, Prod.map_snd, id]
      · exact insert_frame hu
      · exact insert_frame hu
  | beginWithdrawForVictim v =>
      have hne : u ≠ v := hu
      refine forVictim_congr (fun k hk => ?_) ?_ ?_
      · have hkv : k.destinationIpv4 ≠ v := hk ▸ hne
        simp [LifecycleOp.apply, beginWithdrawForVictim_rules, withdrawMatching_getElem?, hkv]
      · simp [LifecycleOp.apply, mem_beginWithdrawForVictim, hne]
      · simp [LifecycleOp.apply, beginWithdrawForVictim_victimsRefreshInProgress]
  | completeWithdraw k uuid success =>
      rcases l.completeWithdraw_cases k uuid success with
        ⟨h, -⟩ | ⟨s, -, -, -, ⟨-, h⟩ | ⟨-, h⟩⟩ <;>
        simp only [LifecycleOp.apply, h, Prod.map_snd, id]
      · exact eraseRule_frame hu
      · exact insert_frame hu
  | beginRefreshProtocolRules po reqs max =>
      rcases l.beginRefreshProtocolRules_cases po reqs max with
        ⟨plan, -, -, h⟩ | ⟨-, -, plan, -, ⟨-, -, h⟩ | ⟨-, -, -, h⟩⟩ <;>
        simp only [LifecycleOp.apply, h, Prod.map_snd, id]
      · exact insertIfNew_frame hu
      · refine forVictim_with_rules fun k hk => ?_
        have hnone : (l.uniqueNewPortRules po.ruleKey reqs)[k]? = none := by
          rw [Option.eq_none_iff_forall_ne_some]
          intro r hr
          have := destinationIpv4_of_isPortRule (uniqueNewPortRules_spec hr).2.2.1
          exact hu (hk.symm.trans this)
        simp [announceAll_getElem?, hnone]
  | beginProtocolOnlyEscalationCleanup k =>
      rcases l.beginProtocolOnlyEscalationCleanup_cases k with h | ⟨s, -, -, -, h⟩ <;>
        simp only [LifecycleOp.apply, h, Prod.map_snd, id]
      refine withdrawMatching_frame fun k' hk' => ?_
      rw [destinationIpv4_of_isPortRule hk']
      exact fun h => hu h.symm

/-- **Every operation is local to its victim.** -/
theorem LifecycleOp.localTo (op : LifecycleOp) :
    LocalTo GobgpFlowspecLifecycle.forVictim op.victim op.apply where
  on_cut l := by
    cases op with
    | beginAnnounce k r =>
        simp only [apply, GobgpFlowspecLifecycle.beginAnnounce, victim,
          reserveRule_forVictim, Prod.map, id]
    | beginRefreshAnnounce k r =>
        simp only [apply, GobgpFlowspecLifecycle.beginRefreshAnnounce, victim,
          reserveRule_forVictim, Prod.map, id]
    | beginRefreshCapture v =>
        simp only [apply, victim, beginRefreshCapture_forVictim, Prod.map, id]
    | completeRefreshCapture v =>
        simp only [apply, victim, completeRefreshCapture_forVictim]
    | finishRefreshCapture v =>
        simp only [apply, victim, GobgpFlowspecLifecycle.finishRefreshCapture,
          completeRefreshCapture_forVictim, clear_forVictim]
    | failAnnounce k => simp only [apply, victim, failAnnounce_forVictim]
    | completeAnnounce k uuid =>
        simp only [apply, victim, completeAnnounce_forVictim, Prod.map, id]
    | beginWithdrawForVictim v =>
        simp only [apply, victim, beginWithdrawForVictim_forVictim, Prod.map, id]
    | completeWithdraw k uuid success =>
        simp only [apply, victim, completeWithdraw_forVictim, Prod.map, id]
    | beginRefreshProtocolRules po reqs max =>
        simp only [apply, victim, beginRefreshProtocolRules_forVictim, Prod.map, id]
    | beginProtocolOnlyEscalationCleanup k =>
        simp only [apply, victim, beginProtocolOnlyEscalationCleanup_forVictim, Prod.map, id]
  frame l u hu := apply_frame hu

/-! ### Non-interference -/

/-- Equal parts give the keys of their victim the same states. -/
theorem rules_eq_of_forVictim_eq
    (h : l.forVictim k.destinationIpv4 = l'.forVictim k.destinationIpv4) :
    l.rules[k]? = l'.rules[k]? := by
  have := congrArg (fun l => l.rules[k]?) h
  simpa using this

/-- **Victims do not interfere.**  In every state, two operations for different
victims give the same state and the same two results in either order, and
each leaves the rules, the fence and the reservation of every other victim
unchanged. -/
theorem apply_commute (l : GobgpFlowspecLifecycle) (a b : LifecycleOp)
    (hab : a.victim ≠ b.victim) :
    (b.apply (a.apply l).2).2 = (a.apply (b.apply l).2).2 ∧
    (a.apply l).1 = (a.apply (b.apply l).2).1 ∧
    (b.apply (a.apply l).2).1 = (b.apply l).1 ∧
    (∀ k : GobgpFlowspecRuleKey, k.destinationIpv4 ≠ a.victim →
      (a.apply l).2.rules[k]? = l.rules[k]?) ∧
    (∀ u, u ≠ a.victim →
      (u ∈ (a.apply l).2.victimsWithdrawRequested ↔ u ∈ l.victimsWithdrawRequested) ∧
      (u ∈ (a.apply l).2.victimsRefreshInProgress ↔ u ∈ l.victimsRefreshInProgress)) := by
  refine ⟨?_, ?_, ?_, fun k hk => ?_, fun u hu => ⟨?_, ?_⟩⟩
  · exact (b.localTo.commute lifecycle_ext_forVictim a.localTo hab.symm l)
  · exact (a.localTo.result_frame b.localTo hab l).symm
  · exact b.localTo.result_frame a.localTo hab.symm l
  · exact rules_eq_of_forVictim_eq (apply_frame hk)
  · have := congrArg (fun l => u ∈ l.victimsWithdrawRequested) (apply_frame (l := l) hu)
    simpa using this
  · have := congrArg (fun l => u ∈ l.victimsRefreshInProgress) (apply_frame (l := l) hu)
    simpa using this

/-- A lifecycle with a rule for UDP of the victim 1 and of the victim 2. -/
def twoVictims : GobgpFlowspecLifecycle where
  rules := (∅ : RuleMap).insertMany
    [(.protocolOnly 1 .UDP, { state := .installed, flowSpecRule := {}, addPathUuid := [1] }),
      (.protocolOnly 2 .UDP, { state := .installed, flowSpecRule := {}, addPathUuid := [2] })]

/-- A BAN of the victim 1 and an UNBAN of the victim 2, where both have rules: the rule of the
victim 2 is withdrawn in either order, and the BAN announces a rule in either order. -/
theorem apply_commute_ban_unban :
    let ban := LifecycleOp.beginAnnounce (.protocolOnly 1 .TCP) {}
    let unban := LifecycleOp.beginWithdrawForVictim 2
    (unban.apply (ban.apply twoVictims).2).2 = (ban.apply (unban.apply twoVictims).2).2 ∧
      (ban.apply twoVictims).1 = (ban.apply (unban.apply twoVictims).2).1 ∧
      (unban.apply (ban.apply twoVictims).2).1 = (unban.apply twoVictims).1 ∧
      ((unban.apply twoVictims).2.rules[GobgpFlowspecRuleKey.protocolOnly 2 .UDP]?).map (·.state)
        = some .withdrawing :=
  have hcommute := apply_commute twoVictims (.beginAnnounce (.protocolOnly 1 .TCP) {})
    (.beginWithdrawForVictim 2) (by decide)
  ⟨hcommute.1, hcommute.2.1, hcommute.2.2.1, by decide +kernel⟩

end FastNetMon
