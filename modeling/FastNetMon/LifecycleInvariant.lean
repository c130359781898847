/-
FastNetMon/LifecycleInvariant.lean

What holds of the lifecycle after any sequence of its public operations, with
any arguments and in any order.

`LifecycleOp` names the eleven operations that change the state and
`LifecycleOp.apply` runs one.  The heart of the file is `RuleChange`, the
list of all the ways in which an operation can change the entry of a key:
`apply_ruleChange` says there are no others, and every invariant that speaks
about one rule at a time is read off it.

Main results:

* announcing rules have no UUID, installed and withdrawing rules have one
  (`UuidsMatch`), and the rules of a fenced victim are all on their way out
  (`FencedWithdraws`), after every sequence;
* a fence is left with something pending that will clear it, unless
  `complete_refresh_capture` has ended the last reservation of a fenced victim
  and nobody has looked at its fence since (`FenceLeftBehind`).
-/
import Mathlib
import FastNetMon.Lifecycle
import FastNetMon.Transition

namespace FastNetMon

open Std

/-! ### Sequences of operations -/

/-- A call of a public operation. -/
inductive LifecycleOp
  | beginAnnounce (ruleKey : GobgpFlowspecRuleKey) (flowSpecRule : FlowSpecRule)
  | beginRefreshAnnounce (ruleKey : GobgpFlowspecRuleKey) (flowSpecRule : FlowSpecRule)
  | beginRefreshCapture (victimIpv4 : UInt32)
  | completeRefreshCapture (victimIpv4 : UInt32)
  | finishRefreshCapture (victimIpv4 : UInt32)
  | failAnnounce (ruleKey : GobgpFlowspecRuleKey)
  | completeAnnounce (ruleKey : GobgpFlowspecRuleKey) (addPathUuid : ByteString)
  | beginWithdrawForVictim (victimIpv4 : UInt32)
  | completeWithdraw (ruleKey : GobgpFlowspecRuleKey) (addPathUuid : ByteString) (success : Bool)
  | beginRefreshProtocolRules (protocolOnlyRequest : GobgpFlowspecAnnounceRequest)
      (portRuleRequests : List GobgpFlowspecAnnounceRequest) (maxPortRules : UInt64)
  | beginProtocolOnlyEscalationCleanup (protocolOnlyRuleKey : GobgpFlowspecRuleKey)

/-- What a call returns; `done` stands for `void`. -/
inductive LifecycleResult
  | done
  | accepted (result : Bool)
  | announceCompletion (result : GobgpFlowspecAnnounceCompletion)
  | withdrawStart (result : GobgpFlowspecWithdrawStartResult)
  | withdrawCompletion (result : GobgpFlowspecWithdrawCompletion)
  | refreshPlan (result : GobgpFlowspecRefreshProtocolPlan)
  | withdrawRequests (result : List GobgpFlowspecWithdrawRequest)
deriving DecidableEq

/-- Run one call. -/
def LifecycleOp.apply (op : LifecycleOp) (l : GobgpFlowspecLifecycle) :
    LifecycleResult × GobgpFlowspecLifecycle :=
  match op with
  | .beginAnnounce k r => (l.beginAnnounce k r).map .accepted id
  | .beginRefreshAnnounce k r => (l.beginRefreshAnnounce k r).map .accepted id
  | .beginRefreshCapture v => (l.beginRefreshCapture v).map .accepted id
  | .completeRefreshCapture v => (.done, l.completeRefreshCapture v)
  | .finishRefreshCapture v => (.done, l.finishRefreshCapture v)
  | .failAnnounce k => (.done, l.failAnnounce k)
  | .completeAnnounce k uuid => (l.completeAnnounce k uuid).map .announceCompletion id
  | .beginWithdrawForVictim v => (l.beginWithdrawForVictim v).map .withdrawStart id
  | .completeWithdraw k uuid success =>
      (l.completeWithdraw k uuid success).map .withdrawCompletion id
  | .beginRefreshProtocolRules po reqs max =>
      (l.beginRefreshProtocolRules po reqs max).map .refreshPlan id
  | .beginProtocolOnlyEscalationCleanup k =>
      (l.beginProtocolOnlyEscalationCleanup k).map .withdrawRequests id

/-- The lifecycle after a sequence of calls, from the empty one. -/
def lifecycleAfter (ops : List LifecycleOp) : GobgpFlowspecLifecycle :=
  ops.foldl (fun l op => (op.apply l).2) {}

/-- One call more. -/
@[simp] theorem lifecycleAfter_concat (ops : List LifecycleOp) (op : LifecycleOp) :
    lifecycleAfter (ops ++ [op]) = (op.apply (lifecycleAfter ops)).2 := by
  simp [lifecycleAfter]

/-! ### The ways an entry can change -/

/-- The keys at which an operation may make a new entry. -/
def LifecycleOp.reserves (op : LifecycleOp) (k : GobgpFlowspecRuleKey) : Prop :=
  match op with
  | .beginAnnounce j _ | .beginRefreshAnnounce j _ => j = k
  | .beginRefreshProtocolRules po reqs _ => k = po.ruleKey ∨
      (k.isPortRule po.ruleKey.destinationIpv4 po.ruleKey.protocol = true ∧
        ∃ r ∈ reqs, r.ruleKey = k)
  | _ => False

/-- The keys whose rules an operation starts to withdraw in the state `l`. -/
def LifecycleOp.withdraws (op : LifecycleOp) (l : GobgpFlowspecLifecycle)
    (k : GobgpFlowspecRuleKey) : Prop :=
  match op with
  | .beginWithdrawForVictim v => k.destinationIpv4 = v
  | .beginProtocolOnlyEscalationCleanup j =>
      k.isPortRule j.destinationIpv4 j.protocol = true ∧
        j.destinationIpv4 ∉ l.victimsWithdrawRequested ∧
        ∃ s, l.rules[j]? = some s ∧ s.state = .installed
  | _ => False

/-- `RuleChange op l k o o'`: run in the state `l`, the operation can take the
entry of `k` from `o` to `o'`. -/
inductive RuleChange (op : LifecycleOp) (l : GobgpFlowspecLifecycle) (k : GobgpFlowspecRuleKey) :
    Option GobgpFlowspecRuleState → Option GobgpFlowspecRuleState → Prop
  | same (o) : RuleChange op l k o o
  | reserve (r) (hf : k.destinationIpv4 ∉ l.victimsWithdrawRequested) (hr : op.reserves k) :
      RuleChange op l k none (some (announcingRule r))
  | fail {s} (ho : op = .failAnnounce k) (hs : s.awaitsPath) : RuleChange op l k (some s) none
  | install {s} {uuid : ByteString} (ho : op = .completeAnnounce k uuid)
      (hs : s.state = .announcing) (hu : uuid ≠ []) :
      RuleChange op l k (some s) (some { s with addPathUuid := uuid, state := .installed })
  | lateWithdraw {s} {uuid : ByteString} (ho : op = .completeAnnounce k uuid)
      (hs : s.state = .withdrawRequested) (hn : s.addPathUuid = []) (hu : uuid ≠ []) :
      RuleChange op l k (some s) (some { s with addPathUuid := uuid, state := .withdrawing })
  | startWithdraw (s) (hw : op.withdraws l k) :
      RuleChange op l k (some s) (some s.startWithdraw.1)
  | erase {s} (ho : op = .completeWithdraw k s.addPathUuid true) (hs : s.state = .withdrawing) :
      RuleChange op l k (some s) none
  | retry {s} (ho : op = .completeWithdraw k s.addPathUuid false)
      (hs : s.state = .withdrawing) :
      RuleChange op l k (some s) (some { s with state := .withdrawRequested })

variable {op : LifecycleOp} {l : GobgpFlowspecLifecycle} {v : UInt32}
  {k : GobgpFlowspecRuleKey} {o o' : Option GobgpFlowspecRuleState}

/-- A change of the entry `j` alone. -/
theorem ruleChange_insert {j : GobgpFlowspecRuleKey} {s : GobgpFlowspecRuleState}
    (h : j = k → RuleChange op l k (l.rules[j]?) (some s)) :
    RuleChange op l k (l.rules[k]?) ((l.rules.insert j s)[k]?) := by
  rw [ExtTreeMap.getElem?_insert]
  by_cases hk : j = k
  · subst hk
    simpa using h rfl
  · simpa [hk] using RuleChange.same _

/-- An erased key changes as its operation says, and no other key does. -/
theorem ruleChange_erase {j : GobgpFlowspecRuleKey}
    (h : j = k → RuleChange op l k (l.rules[j]?) none) :
    RuleChange op l k (l.rules[k]?) ((l.rules.erase j)[k]?) := by
  rw [ExtTreeMap.getElem?_erase]
  by_cases hk : j = k
  · subst hk
    simpa using h rfl
  · simpa [hk] using RuleChange.same _

/-- A reserved key changes as its operation says, and no other key does. -/
theorem ruleChange_insertIfNew {j : GobgpFlowspecRuleKey} {r : FlowSpecRule}
    (hf : j.destinationIpv4 ∉ l.victimsWithdrawRequested) (hr : op.reserves j) :
    RuleChange op l k (l.rules[k]?) ((l.rules.insertIfNew j (announcingRule r))[k]?) := by
  rw [ExtTreeMap.getElem?_insertIfNew]
  by_cases hk : j = k ∧ j ∉ l.rules
  · obtain ⟨rfl, hfree⟩ := hk
    have hnone : l.rules[j]? = none := ExtTreeMap.getElem?_eq_none hfree
    simpa [hfree, hnone] using RuleChange.reserve r hf hr
  · rw [if_neg (by simpa using hk)]
    exact RuleChange.same _

/-- A withdrawal changes the keys that it is about. -/
theorem ruleChange_withdrawMatching {p : GobgpFlowspecRuleKey → Bool}
    (hw : p k = true → op.withdraws l k) :
    RuleChange op l k (l.rules[k]?) ((l.withdrawMatching p)[k]?) := by
  rw [GobgpFlowspecLifecycle.withdrawMatching_getElem?]
  rcases l.rules[k]? with - | s
  · exact RuleChange.same none
  · by_cases hp : p k = true
    · simpa [hp] using RuleChange.startWithdraw s (hw hp)
    · simpa [hp] using RuleChange.same _

/-- A reservation changes its key at most. -/
theorem ruleChange_reserveRule {j : GobgpFlowspecRuleKey} (r : FlowSpecRule)
    (hr : op.reserves j) :
    RuleChange op l k (l.rules[k]?) ((l.reserveRule j r).2.rules[k]?) := by
  rcases l.reserveRule_cases j r with h | ⟨hf, -, h⟩
  · rw [h]
    exact RuleChange.same _
  · rw [h]
    exact ruleChange_insertIfNew hf hr

/-- **Every operation changes every entry in one of these ways.** -/
theorem apply_ruleChange (op : LifecycleOp) (l : GobgpFlowspecLifecycle)
    (k : GobgpFlowspecRuleKey) :
    RuleChange op l k (l.rules[k]?) ((op.apply l).2.rules[k]?) := by
  cases op with
  | beginAnnounce j r => exact ruleChange_reserveRule r rfl
  | beginRefreshAnnounce j r => exact ruleChange_reserveRule r rfl
  | beginRefreshCapture v =>
      rcases l.beginRefreshCapture_cases v with h | ⟨-, -, h⟩ <;>
        simpa [LifecycleOp.apply, h] using RuleChange.same _
  | completeRefreshCapture v => exact RuleChange.same _
  | finishRefreshCapture v => simpa [LifecycleOp.apply] using RuleChange.same _
  | failAnnounce j =>
      rcases l.failAnnounce_cases j with ⟨h, -⟩ | ⟨s, hj, hs, h⟩
      · simpa [LifecycleOp.apply, h] using RuleChange.same _
      · simp only [LifecycleOp.apply, h, GobgpFlowspecLifecycle.eraseRule_rules]
        exact ruleChange_erase fun hk => hj ▸ .fail (hk ▸ rfl) hs
  | completeAnnounce j uuid =>
      rcases l.completeAnnounce_cases j uuid with
        ⟨h, -⟩ | ⟨s, hj, hu, hs, h⟩ | ⟨s, hj, hu, hs, hn, h⟩
      · simpa [LifecycleOp.apply, h] using RuleChange.same _
      · simp only [LifecycleOp.apply, h, Prod.map_snd, id]
        exact ruleChange_insert fun hk => hj ▸ .install (hk ▸ rfl) hs hu
      · simp only [LifecycleOp.apply, h, Prod.map_snd, id]
        exact ruleChange_insert fun hk => hj ▸ .lateWithdraw (hk ▸ rfl) hs hn hu
  | beginWithdrawForVictim v =>
      simp only [LifecycleOp.apply, Prod.map_snd, id,
        GobgpFlowspecLifecycle.beginWithdrawForVictim_rules]
      exact ruleChange_withdrawMatching fun hp => by simpa [LifecycleOp.withdraws] using hp
  | completeWithdraw j uuid success =>
      rcases l.completeWithdraw_cases j uuid success with
        ⟨h, -⟩ | ⟨s, hj, hs, rfl, ⟨rfl, h⟩ | ⟨rfl, h⟩⟩
      · simpa [LifecycleOp.apply, h] using RuleChange.same _
      · simp only [LifecycleOp.apply, h, Prod.map_snd, id,
          GobgpFlowspecLifecycle.eraseRule_rules]
        exact ruleChange_erase fun hk => hj ▸ .erase (hk ▸ rfl) hs
      · simp only [LifecycleOp.apply, h, Prod.map_snd, id]
        exact ruleChange_insert fun hk => hj ▸ .retry (hk ▸ rfl) hs
  | beginRefreshProtocolRules po reqs max =>
      rcases l.beginRefreshProtocolRules_cases po reqs max with
        ⟨plan, -, -, h⟩ | ⟨hf, -, plan, -, ⟨-, -, h⟩ | ⟨-, -, -, h⟩⟩
      · simpa [LifecycleOp.apply, h] using RuleChange.same _
      · simp only [LifecycleOp.apply, h, Prod.map_snd, id]
        exact ruleChange_insertIfNew hf (.inl rfl)
      · simp only [LifecycleOp.apply, h, Prod.map_snd, id,
          GobgpFlowspecLifecycle.announceAll_getElem?]
        rcases hk : (l.uniqueNewPortRules po.ruleKey reqs)[k]? with - | r
        · simpa using RuleChange.same _
        · obtain ⟨hkey, hmem, hport, hfree⟩ :=
            GobgpFlowspecLifecycle.uniqueNewPortRules_spec hk
          have hv : k.destinationIpv4 = po.ruleKey.destinationIpv4 := by
            simp_all [GobgpFlowspecRuleKey.isPortRule]
          have hres : (LifecycleOp.beginRefreshProtocolRules po reqs max).reserves k :=
            .inr ⟨hport, r, hmem, hkey⟩
          simpa [hfree] using RuleChange.reserve r.flowSpecRule (hv ▸ hf) hres
  | beginProtocolOnlyEscalationCleanup j =>
      rcases l.beginProtocolOnlyEscalationCleanup_cases j with h | ⟨s, hj, hs, hf, h⟩
      · simpa [LifecycleOp.apply, h] using RuleChange.same _
      · simp only [LifecycleOp.apply, h, Prod.map_snd, id]
        exact ruleChange_withdrawMatching fun hp => ⟨hp, hf, s, hj, hs⟩

/-- A rule that is there was there before, or has just been reserved without a fence. -/
theorem RuleChange.isSome_before (h : RuleChange op l k o o') (ho' : o'.isSome = true) :
    (op.reserves k ∧ k.destinationIpv4 ∉ l.victimsWithdrawRequested) ∨ o.isSome = true := by
  cases h with
  | same => exact .inr ho'
  | reserve _ hf hr => exact .inl ⟨hr, hf⟩
  | fail | erase => cases ho'
  | install | lateWithdraw | startWithdraw | retry => exact .inr rfl

/-- A key stored after an operation was stored before, or the operation
reserves it for a victim that is not fenced. -/
theorem mem_of_mem_apply (op : LifecycleOp) (hk : k ∈ (op.apply l).2.rules) :
    (op.reserves k ∧ k.destinationIpv4 ∉ l.victimsWithdrawRequested) ∨ k ∈ l.rules := by
  rw [ExtTreeMap.mem_iff_isSome_getElem?] at hk ⊢
  exact (apply_ruleChange op l k).isSome_before hk

/-! ### Reservations for captures -/

/-- The reservations after an operation. -/
theorem mem_refresh_apply (op : LifecycleOp) :
    v ∈ (op.apply l).2.victimsRefreshInProgress ↔
      (op = .beginRefreshCapture v ∧ v ∉ l.victimsWithdrawRequested) ∨
        (v ∈ l.victimsRefreshInProgress ∧ op ≠ .completeRefreshCapture v ∧
          op ≠ .finishRefreshCapture v) := by
  cases op with
  | beginAnnounce j r =>
      rcases l.reserveRule_cases j r with h | ⟨-, -, h⟩ <;>
        simp [LifecycleOp.apply, GobgpFlowspecLifecycle.beginAnnounce, h]
  | beginRefreshAnnounce j r =>
      rcases l.reserveRule_cases j r with h | ⟨-, -, h⟩ <;>
        simp [LifecycleOp.apply, GobgpFlowspecLifecycle.beginRefreshAnnounce, h]
  | beginRefreshCapture u =>
      by_cases hu : v = u
      · subst hu
        by_cases hf : v ∈ l.victimsWithdrawRequested <;>
          by_cases hr : v ∈ l.victimsRefreshInProgress <;>
          simp [LifecycleOp.apply, GobgpFlowspecLifecycle.beginRefreshCapture, hf, hr]
      · rcases l.beginRefreshCapture_cases u with h | ⟨-, -, h⟩ <;>
          simp [LifecycleOp.apply, h, hu, Ne.symm hu]
  | completeRefreshCapture u =>
      by_cases hu : v = u <;> simp [LifecycleOp.apply, hu, eq_comm]
  | finishRefreshCapture u =>
      by_cases hu : v = u <;> simp [LifecycleOp.apply, hu, eq_comm]
  | failAnnounce j =>
      rcases l.failAnnounce_cases j with ⟨h, -⟩ | ⟨s, -, -, h⟩ <;> simp [LifecycleOp.apply, h]
  | completeAnnounce j uuid =>
      rcases l.completeAnnounce_cases j uuid with
        ⟨h, -⟩ | ⟨s, -, -, -, h⟩ | ⟨s, -, -, -, -, h⟩ <;> simp [LifecycleOp.apply, h]
  | beginWithdrawForVictim u =>
      simp [LifecycleOp.apply,
        GobgpFlowspecLifecycle.beginWithdrawForVictim_victimsRefreshInProgress]
  | completeWithdraw j uuid success =>
      rcases l.completeWithdraw_cases j uuid success with
        ⟨h, -⟩ | ⟨s, -, -, -, ⟨-, h⟩ | ⟨-, h⟩⟩ <;> simp [LifecycleOp.apply, h]
  | beginRefreshProtocolRules po reqs max =>
      rcases l.beginRefreshProtocolRules_cases po reqs max with
        ⟨plan, -, -, h⟩ | ⟨-, -, plan, -, ⟨-, -, h⟩ | ⟨-, -, -, h⟩⟩ <;>
        simp [LifecycleOp.apply, h]
  | beginProtocolOnlyEscalationCleanup j =>
      rcases l.beginProtocolOnlyEscalationCleanup_cases j with h | ⟨s, -, -, -, h⟩ <;>
        simp [LifecycleOp.apply, h]

/-! ### UUIDs -/

/-- The UUID a rule may carry in its state. -/
def GobgpFlowspecRuleState.uuidMatches (s : GobgpFlowspecRuleState) : Prop :=
  (s.state = .announcing → s.addPathUuid = []) ∧
    (s.state = .installed ∨ s.state = .withdrawing → s.addPathUuid ≠ [])

/-- Announcing rules have no UUID, installed and withdrawing rules have one. -/
def UuidsMatch (l : GobgpFlowspecLifecycle) : Prop :=
  ∀ (k : GobgpFlowspecRuleKey) (s : GobgpFlowspecRuleState), l.rules[k]? = some s → s.uuidMatches

/-- The start of a withdrawal keeps the UUID in step with the state. -/
theorem startWithdraw_uuidMatches {s : GobgpFlowspecRuleState} (h : s.uuidMatches) :
    s.startWithdraw.1.uuidMatches := by
  obtain ⟨state, r, uuid⟩ := s
  cases state <;> cases uuid <;>
    simp_all [GobgpFlowspecRuleState.uuidMatches, GobgpFlowspecRuleState.startWithdraw]

/-- So does every change of a rule. -/
theorem RuleChange.uuidMatches (h : RuleChange op l k o o') (ho : ∀ s, o = some s → s.uuidMatches) :
    ∀ s, o' = some s → s.uuidMatches := by
  cases h with
  | same => exact ho
  | reserve r _ _ =>
      rintro s ⟨⟩
      simp [GobgpFlowspecRuleState.uuidMatches, announcingRule]
  | fail => simp
  | install _ _ hu =>
      rintro s ⟨⟩
      simpa [GobgpFlowspecRuleState.uuidMatches] using hu
  | lateWithdraw _ _ _ hu =>
      rintro s ⟨⟩
      simpa [GobgpFlowspecRuleState.uuidMatches] using hu
  | startWithdraw s _ =>
      rintro s ⟨⟩
      exact startWithdraw_uuidMatches (ho s rfl)
  | erase => simp
  | retry =>
      rintro s ⟨⟩
      simp [GobgpFlowspecRuleState.uuidMatches]

/-- So does every operation. -/
theorem UuidsMatch.apply (h : UuidsMatch l) (op : LifecycleOp) : UuidsMatch (op.apply l).2 :=
  fun k => (apply_ruleChange op l k).uuidMatches (h k)

/-! ### Fenced victims -/

/-- The fence of `v` after an operation was there before, or the operation
starts a withdrawal for `v`. -/
theorem mem_fence_apply (op : LifecycleOp) (hne : op ≠ .beginWithdrawForVictim v)
    (h : v ∈ (op.apply l).2.victimsWithdrawRequested) : v ∈ l.victimsWithdrawRequested := by
  cases op with
  | beginAnnounce j r =>
      rcases l.reserveRule_cases j r with h' | ⟨-, -, h'⟩ <;>
        simpa [LifecycleOp.apply, GobgpFlowspecLifecycle.beginAnnounce, h'] using h
  | beginRefreshAnnounce j r =>
      rcases l.reserveRule_cases j r with h' | ⟨-, -, h'⟩ <;>
        simpa [LifecycleOp.apply, GobgpFlowspecLifecycle.beginRefreshAnnounce, h'] using h
  | beginRefreshCapture u =>
      rcases l.beginRefreshCapture_cases u with h' | ⟨-, -, h'⟩ <;>
        simpa [LifecycleOp.apply, h'] using h
  | completeRefreshCapture u => exact h
  | finishRefreshCapture u => exact (GobgpFlowspecLifecycle.mem_clear.mp h).1
  | failAnnounce j =>
      rcases l.failAnnounce_cases j with ⟨h', -⟩ | ⟨s, -, -, h'⟩
      · simpa [LifecycleOp.apply, h'] using h
      · simp only [LifecycleOp.apply, h'] at h
        exact (GobgpFlowspecLifecycle.mem_clear.mp h).1
  | completeAnnounce j uuid =>
      rcases l.completeAnnounce_cases j uuid with
        ⟨h', -⟩ | ⟨s, -, -, -, h'⟩ | ⟨s, -, -, -, -, h'⟩ <;>
        simpa [LifecycleOp.apply, h'] using h
  | beginWithdrawForVictim u =>
      have hv : v ≠ u := by
        rintro rfl
        exact hne rfl
      simpa [LifecycleOp.apply, GobgpFlowspecLifecycle.mem_beginWithdrawForVictim, hv] using h
  | completeWithdraw j uuid success =>
      rcases l.completeWithdraw_cases j uuid success with
        ⟨h', -⟩ | ⟨s, -, -, -, ⟨-, h'⟩ | ⟨-, h'⟩⟩
      · simpa [LifecycleOp.apply, h'] using h
      · simp only [LifecycleOp.apply, h', Prod.map_snd, id] at h
        exact (GobgpFlowspecLifecycle.mem_clear.mp h).1
      · simpa [LifecycleOp.apply, h'] using h
  | beginRefreshProtocolRules po reqs max =>
      rcases l.beginRefreshProtocolRules_cases po reqs max with
        ⟨plan, -, -, h'⟩ | ⟨-, -, plan, -, ⟨-, -, h'⟩ | ⟨-, -, -, h'⟩⟩ <;>
        simpa [LifecycleOp.apply, h'] using h
  | beginProtocolOnlyEscalationCleanup j =>
      rcases l.beginProtocolOnlyEscalationCleanup_cases j with h' | ⟨s, -, -, -, h'⟩ <;>
        simpa [LifecycleOp.apply, h'] using h

/-- A fence that is lifted has neither rules nor a capture behind it. -/
theorem clear_dropped {u : UInt32} (h : v ∈ l.victimsWithdrawRequested)
    (h' : v ∉ (l.clearWithdrawFenceIfFinishedLocked u).victimsWithdrawRequested) :
    (l.clearWithdrawFenceIfFinishedLocked u).victimHasRulesLocked v = false ∧
      v ∉ (l.clearWithdrawFenceIfFinishedLocked u).victimsRefreshInProgress := by
  rw [GobgpFlowspecLifecycle.mem_clear, not_and] at h'
  obtain ⟨rfl, hno⟩ := Classical.not_imp.mp (h' h)
  obtain ⟨hrules, hcap⟩ := not_or.mp hno
  exact ⟨by simpa [GobgpFlowspecLifecycle.victimHasRulesLocked] using hrules, by simpa using hcap⟩

/-- A fence falls only when no rule and no reservation of its victim is left. -/
theorem fence_dropped (op : LifecycleOp) (h : v ∈ l.victimsWithdrawRequested)
    (h' : v ∉ (op.apply l).2.victimsWithdrawRequested) :
    (op.apply l).2.victimHasRulesLocked v = false ∧
      v ∉ (op.apply l).2.victimsRefreshInProgress := by
  cases op with
  | beginAnnounce j r =>
      rcases l.reserveRule_cases j r with he | ⟨-, -, he⟩ <;>
        simp [LifecycleOp.apply, GobgpFlowspecLifecycle.beginAnnounce, he, h] at h'
  | beginRefreshAnnounce j r =>
      rcases l.reserveRule_cases j r with he | ⟨-, -, he⟩ <;>
        simp [LifecycleOp.apply, GobgpFlowspecLifecycle.beginRefreshAnnounce, he, h] at h'
  | beginRefreshCapture u =>
      rcases l.beginRefreshCapture_cases u with he | ⟨-, -, he⟩ <;>
        simp [LifecycleOp.apply, he, h] at h'
  | completeRefreshCapture u => exact absurd h h'
  | finishRefreshCapture u => exact clear_dropped (l := l.completeRefreshCapture u) h h'
  | failAnnounce j =>
      rcases l.failAnnounce_cases j with ⟨he, -⟩ | ⟨s, -, -, he⟩
      · simp [LifecycleOp.apply, he, h] at h'
      · simp only [LifecycleOp.apply, he] at h' ⊢
        exact clear_dropped (l := { l with rules := l.rules.erase j }) h h'
  | completeAnnounce j uuid =>
      rcases l.completeAnnounce_cases j uuid with
        ⟨he, -⟩ | ⟨s, -, -, -, he⟩ | ⟨s, -, -, -, -, he⟩ <;>
        simp [LifecycleOp.apply, he, h] at h'
  | beginWithdrawForVictim u => exact clear_dropped (Finset.mem_insert_of_mem h) h'
  | completeWithdraw j uuid success =>
      rcases l.completeWithdraw_cases j uuid success with
        ⟨he, -⟩ | ⟨s, -, -, -, ⟨-, he⟩ | ⟨-, he⟩⟩
      · simp [LifecycleOp.apply, he, h] at h'
      · simp only [LifecycleOp.apply, he, Prod.map_snd, id] at h' ⊢
        exact clear_dropped (l := { l with rules := l.rules.erase j }) h h'
      · simp [LifecycleOp.apply, he, h] at h'
  | beginRefreshProtocolRules po reqs max =>
      rcases l.beginRefreshProtocolRules_cases po reqs max with
        ⟨plan, -, -, he⟩ | ⟨-, -, plan, -, ⟨-, -, he⟩ | ⟨-, -, -, he⟩⟩ <;>
        simp [LifecycleOp.apply, he, h] at h'
  | beginProtocolOnlyEscalationCleanup j =>
      rcases l.beginProtocolOnlyEscalationCleanup_cases j with he | ⟨s, -, -, -, he⟩ <;>
        simp [LifecycleOp.apply, he, h] at h'

/-- The rule is on its way out. -/
def GobgpFlowspecRuleState.leaving (s : GobgpFlowspecRuleState) : Prop :=
  s.state = .withdrawRequested ∨ s.state = .withdrawing

instance (s : GobgpFlowspecRuleState) : Decidable s.leaving :=
  inferInstanceAs (Decidable (_ ∨ _))

/-- All rules of a fenced victim are on their way out. -/
def FencedWithdraws (l : GobgpFlowspecLifecycle) : Prop :=
  ∀ (k : GobgpFlowspecRuleKey) (s : GobgpFlowspecRuleState),
    k.destinationIpv4 ∈ l.victimsWithdrawRequested → l.rules[k]? = some s → s.leaving

/-- A rule whose withdrawal was started is leaving. -/
theorem startWithdraw_leaving (s : GobgpFlowspecRuleState) : s.startWithdraw.1.leaving := by
  obtain ⟨state, r, uuid⟩ := s
  cases state <;> cases uuid <;>
    simp [GobgpFlowspecRuleState.leaving, GobgpFlowspecRuleState.startWithdraw]

/-- Behind a fence a leaving rule stays leaving. -/
theorem RuleChange.leaving (h : RuleChange op l k o o')
    (hF : k.destinationIpv4 ∈ l.victimsWithdrawRequested) (ho : ∀ s, o = some s → s.leaving) :
    ∀ s, o' = some s → s.leaving := by
  cases h with
  | same => exact ho
  | reserve r hf _ => exact absurd hF hf
  | fail => simp
  | @install s uuid _ hs _ =>
      have := ho s rfl
      simp [GobgpFlowspecRuleState.leaving, hs] at this
  | lateWithdraw =>
      rintro s ⟨⟩
      exact .inr rfl
  | startWithdraw s _ =>
      rintro s ⟨⟩
      exact startWithdraw_leaving s
  | erase => simp
  | retry =>
      rintro s ⟨⟩
      exact .inl rfl

/-- So every operation keeps the rules behind a fence leaving. -/
theorem FencedWithdraws.apply (h : FencedWithdraws l) (op : LifecycleOp) :
    FencedWithdraws (op.apply l).2 := by
  intro k s hf hk
  by_cases hop : op = .beginWithdrawForVictim k.destinationIpv4
  · subst hop
    simp only [LifecycleOp.apply, Prod.map_snd, id,
      GobgpFlowspecLifecycle.beginWithdrawForVictim_rules,
      GobgpFlowspecLifecycle.withdrawMatching_getElem?, beq_self_eq_true, if_true,
      Option.map_eq_some_iff] at hk
    obtain ⟨s, -, rfl⟩ := hk
    exact startWithdraw_leaving s
  · have hf' := mem_fence_apply op hop hf
    exact (apply_ruleChange op l k).leaving hf' (fun s hs => h k s hf' hs) s hk

/-! ### What a fence waits for -/

/-- Something of `v` is left that will look at the fence when it ends. -/
def FencePending (l : GobgpFlowspecLifecycle) (v : UInt32) : Prop :=
  l.victimHasRulesLocked v = true ∨ v ∈ l.victimsRefreshInProgress

/-- Nothing that waits is lost where the entries of `v` stay and its
reservation stays. -/
theorem FencePending.mono {l' : GobgpFlowspecLifecycle} (h : FencePending l v)
    (hrules : ∀ k : GobgpFlowspecRuleKey, k.destinationIpv4 = v →
      k ∈ l.rules → k ∈ l'.rules)
    (hrefresh : v ∈ l.victimsRefreshInProgress → v ∈ l'.victimsRefreshInProgress) :
    FencePending l' v := by
  rcases h with h | h
  · obtain ⟨k, hv, hk⟩ := GobgpFlowspecLifecycle.victimHasRulesLocked_iff.mp h
    exact .inl (GobgpFlowspecLifecycle.victimHasRulesLocked_iff.mpr ⟨k, hv, hrules k hv hk⟩)
  · exact .inr (hrefresh h)

/-- Erasing a rule looks at the fence of its victim and leaves the others. -/
theorem FencePending.eraseRule {j : GobgpFlowspecRuleKey} (h : FencePending l v)
    (hf : v ∈ (l.eraseRule j).victimsWithdrawRequested) : FencePending (l.eraseRule j) v := by
  rw [GobgpFlowspecLifecycle.eraseRule, GobgpFlowspecLifecycle.mem_clear] at hf
  by_cases hv : v = j.destinationIpv4
  · subst hv
    simpa [FencePending, GobgpFlowspecLifecycle.eraseRule,
      GobgpFlowspecLifecycle.victimHasRulesLocked] using hf.2 rfl
  · refine h.mono (fun k hk hs => ?_) (fun hr => by simpa using hr)
    have hne : j ≠ k := by
      rintro rfl
      exact hv hk.symm
    simpa [hne] using hs

/-- **A fence keeps waiting for something**: every operation but
`complete_refresh_capture` preserves it. -/
theorem FencePending.apply (op : LifecycleOp) (hne : op ≠ .completeRefreshCapture v)
    (h : v ∈ l.victimsWithdrawRequested → FencePending l v)
    (hf : v ∈ (op.apply l).2.victimsWithdrawRequested) : FencePending (op.apply l).2 v := by
  by_cases hop : op = .beginWithdrawForVictim v
  · subst hop
    simp only [LifecycleOp.apply, Prod.map_snd, id,
      GobgpFlowspecLifecycle.mem_beginWithdrawForVictim, if_true] at hf
    refine FencePending.mono hf (fun k _ hs => ?_) (fun hr => ?_)
    · simpa [LifecycleOp.apply, GobgpFlowspecLifecycle.beginWithdrawForVictim_rules] using hs
    · simpa [LifecycleOp.apply,
        GobgpFlowspecLifecycle.beginWithdrawForVictim_victimsRefreshInProgress] using hr
  have hl := h (mem_fence_apply op hop hf)
  cases op with
  | beginAnnounce j r =>
      rcases l.reserveRule_cases j r with h' | ⟨-, -, h'⟩
      · simpa [LifecycleOp.apply, GobgpFlowspecLifecycle.beginAnnounce, h'] using hl
      · simp only [LifecycleOp.apply, GobgpFlowspecLifecycle.beginAnnounce, h', Prod.map_snd, id]
        exact hl.mono (fun k _ hs => by simp [hs]) id
  | beginRefreshAnnounce j r =>
      rcases l.reserveRule_cases j r with h' | ⟨-, -, h'⟩
      · simpa [LifecycleOp.apply, GobgpFlowspecLifecycle.beginRefreshAnnounce, h'] using hl
      · simp only [LifecycleOp.apply, GobgpFlowspecLifecycle.beginRefreshAnnounce, h',
          Prod.map_snd, id]
        exact hl.mono (fun k _ hs => by simp [hs]) id
  | beginRefreshCapture u =>
      rcases l.beginRefreshCapture_cases u with h' | ⟨-, -, h'⟩
      · simpa [LifecycleOp.apply, h'] using hl
      · simp only [LifecycleOp.apply, h', Prod.map_snd, id]
        exact hl.mono (fun k _ hs => hs) (Finset.mem_insert_of_mem)
  | completeRefreshCapture u =>
      have hv : v ≠ u := by
        rintro rfl
        exact hne rfl
      exact hl.mono (fun k _ hs => hs) (fun hr => Finset.mem_erase.mpr ⟨hv, hr⟩)
  | finishRefreshCapture u =>
      simp only [LifecycleOp.apply] at hf ⊢
      have hfin := (GobgpFlowspecLifecycle.mem_clear.mp hf).2
      by_cases hv : v = u
      · subst hv
        simpa [FencePending, GobgpFlowspecLifecycle.victimHasRulesLocked] using hfin rfl
      · exact hl.mono (fun k _ hs => by simpa using hs) (fun hr => by simpa [hv] using hr)
  | failAnnounce j =>
      simp only [LifecycleOp.apply] at hf ⊢
      rcases l.failAnnounce_cases j with ⟨h', -⟩ | ⟨s, -, -, h'⟩
      · rwa [h']
      · rw [h'] at hf ⊢
        exact hl.eraseRule hf
  | completeAnnounce j uuid =>
      rcases l.completeAnnounce_cases j uuid with
        ⟨h', -⟩ | ⟨s, -, -, -, h'⟩ | ⟨s, -, -, -, -, h'⟩
      · simpa [LifecycleOp.apply, h'] using hl
      · simp only [LifecycleOp.apply, h', Prod.map_snd, id]
        exact hl.mono (fun k _ hs => by simp [hs]) id
      · simp only [LifecycleOp.apply, h', Prod.map_snd, id]
        exact hl.mono (fun k _ hs => by simp [hs]) id
  | beginWithdrawForVictim u =>
      refine hl.mono (fun k _ hs => ?_) (fun hr => ?_)
      · simpa [LifecycleOp.apply, GobgpFlowspecLifecycle.beginWithdrawForVictim_rules] using hs
      · simpa [LifecycleOp.apply,
          GobgpFlowspecLifecycle.beginWithdrawForVictim_victimsRefreshInProgress] using hr
  | completeWithdraw j uuid success =>
      simp only [LifecycleOp.apply, Prod.map_snd, id] at hf ⊢
      rcases l.completeWithdraw_cases j uuid success with
        ⟨h', -⟩ | ⟨s, -, -, -, ⟨-, h'⟩ | ⟨-, h'⟩⟩
      · rwa [h']
      · rw [h'] at hf ⊢
        exact hl.eraseRule hf
      · rw [h']
        exact hl.mono (fun k _ hs => by simp [hs]) id
  | beginRefreshProtocolRules po reqs max =>
      rcases l.beginRefreshProtocolRules_cases po reqs max with
        ⟨plan, -, -, h'⟩ | ⟨-, -, plan, -, ⟨-, -, h'⟩ | ⟨-, -, -, h'⟩⟩
      · simpa [LifecycleOp.apply, h'] using hl
      · simp only [LifecycleOp.apply, h', Prod.map_snd, id]
        exact hl.mono (fun k _ hs => by simp [hs]) id
      · simp only [LifecycleOp.apply, h', Prod.map_snd, id]
        exact hl.mono (fun k _ hs => GobgpFlowspecLifecycle.mem_announceAll.mpr (.inl hs)) id
  | beginProtocolOnlyEscalationCleanup j =>
      rcases l.beginProtocolOnlyEscalationCleanup_cases j with h' | ⟨s, -, -, -, h'⟩
      · simpa [LifecycleOp.apply, h'] using hl
      · simp only [LifecycleOp.apply, h', Prod.map_snd, id]
        exact hl.mono (fun k _ hs => by simpa using hs) id

/-! ### After any sequence -/

/-- The fence of `v` was left behind: `complete_refresh_capture` took the last
thing it waited for, and neither `finish_refresh_capture` nor
`begin_withdraw_for_victim` has looked at it since. -/
def FenceLeftBehind (ops : List LifecycleOp) (v : UInt32) : Prop :=
  ∃ pre post, ops = pre ++ .completeRefreshCapture v :: post ∧
    v ∈ (lifecycleAfter pre).victimsWithdrawRequested ∧
    (lifecycleAfter pre).victimHasRulesLocked v = false ∧
    v ∈ (lifecycleAfter pre).victimsRefreshInProgress ∧
    ∀ op ∈ post, op ≠ .finishRefreshCapture v ∧ op ≠ .beginWithdrawForVictim v

/-- A fence that was left behind stays so under any other operation. -/
theorem FenceLeftBehind.concat {ops : List LifecycleOp} {op : LifecycleOp}
    (h : FenceLeftBehind ops v)
    (hop : op ≠ .finishRefreshCapture v ∧ op ≠ .beginWithdrawForVictim v) :
    FenceLeftBehind (ops ++ [op]) v := by
  obtain ⟨pre, post, rfl, hf, hr, hc, hpost⟩ := h
  refine ⟨pre, post ++ [op], by simp, hf, hr, hc, ?_⟩
  intro op' hop'
  rcases List.mem_append.mp hop' with hop' | hop'
  · exact hpost op' hop'
  · obtain rfl : op' = op := by simpa using hop'
    exact hop

/-- UUID and state are in step after any calls. -/
theorem lifecycleAfter_uuidsMatch (ops : List LifecycleOp) : UuidsMatch (lifecycleAfter ops) := by
  induction ops using List.reverseRecOn with
  | nil =>
      intro k s hk
      simp [lifecycleAfter] at hk
  | append_singleton ops op ih =>
      rw [lifecycleAfter_concat]
      exact ih.apply op

/-- After any calls a fence has something to wait for, or was left behind. -/
theorem lifecycleAfter_fence (ops : List LifecycleOp) (v : UInt32)
    (h : v ∈ (lifecycleAfter ops).victimsWithdrawRequested) :
    FencePending (lifecycleAfter ops) v ∨ FenceLeftBehind ops v := by
  induction ops using List.reverseRecOn with
  | nil => simp [lifecycleAfter] at h
  | append_singleton ops op ih =>
      rw [lifecycleAfter_concat] at h ⊢
      by_cases hend : op = .finishRefreshCapture v ∨ op = .beginWithdrawForVictim v
      · -- these two look at the fence themselves
        left
        rcases hend with rfl | rfl
        · have hfin := (GobgpFlowspecLifecycle.mem_clear.mp h).2 rfl
          simpa [FencePending, LifecycleOp.apply,
            GobgpFlowspecLifecycle.victimHasRulesLocked] using hfin
        · have hfin : FencePending (lifecycleAfter ops) v := by
            simpa [FencePending, LifecycleOp.apply,
              GobgpFlowspecLifecycle.mem_beginWithdrawForVictim] using h
          exact FencePending.apply _ (by simp) (fun _ => hfin) h
      · rw [not_or] at hend
        have hbefore := mem_fence_apply op hend.2 h
        rcases ih hbefore with hp | hp
        · by_cases hc : op = .completeRefreshCapture v
          · subst hc
            rcases hrules : (lifecycleAfter ops).victimHasRulesLocked v with - | -
            · have hcap := hp.resolve_left (by simp [hrules])
              exact .inr ⟨ops, [], rfl, hbefore, hrules, hcap, by simp⟩
            · exact .inl (.inl hrules)
          · exact .inl (FencePending.apply op hc (fun _ => hp) h)
        · exact .inr (hp.concat hend)

/-- **Fence and UUID invariants.**  After any sequence of operations with any
arguments: announcing rules have no UUID, installed and withdrawing rules have
one; a fenced victim has a rule, or has a reservation, or had its reservation
ended by `complete_refresh_capture` with its fence not looked at since; and a
`finish_refresh_capture` leaves the fence only to a victim with a rule. -/
theorem lifecycleAfter_invariant (ops : List LifecycleOp) :
    (∀ (k : GobgpFlowspecRuleKey) (s : GobgpFlowspecRuleState),
      (lifecycleAfter ops).rules[k]? = some s →
      (s.state = .announcing → s.addPathUuid = []) ∧
      (s.state = .installed ∨ s.state = .withdrawing → s.addPathUuid ≠ [])) ∧
    (∀ v ∈ (lifecycleAfter ops).victimsWithdrawRequested,
      (lifecycleAfter ops).victimHasRulesLocked v = true ∨
        v ∈ (lifecycleAfter ops).victimsRefreshInProgress ∨ FenceLeftBehind ops v) ∧
    (∀ v, v ∈ (lifecycleAfter (ops ++ [.finishRefreshCapture v])).victimsWithdrawRequested →
      (lifecycleAfter ops).victimHasRulesLocked v = true) := by
  refine ⟨fun k s hk => lifecycleAfter_uuidsMatch ops k s hk, fun v hv => ?_, fun v hv => ?_⟩
  · rcases lifecycleAfter_fence ops v hv with (h | h) | h
    · exact .inl h
    · exact .inr (.inl h)
    · exact .inr (.inr h)
  · rw [lifecycleAfter_concat] at hv
    rcases (GobgpFlowspecLifecycle.mem_clear.mp hv).2 rfl with h | h
    · exact h
    · simp at h

/-- A capture is reserved for the victim 1, its withdrawal starts, and the
capture is completed: the fence stays with nothing to wait for. -/
theorem complete_refresh_capture_leaves_fence :
    ¬ ∀ (ops : List LifecycleOp) (v : UInt32),
      v ∈ (lifecycleAfter ops).victimsWithdrawRequested →
        (lifecycleAfter ops).victimHasRulesLocked v = true ∨
          v ∈ (lifecycleAfter ops).victimsRefreshInProgress := by
  intro h
  have := h [.beginRefreshCapture 1, .beginWithdrawForVictim 1, .completeRefreshCapture 1] 1
    (by decide)
  revert this
  decide

end FastNetMon
