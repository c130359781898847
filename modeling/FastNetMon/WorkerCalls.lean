/-
FastNetMon/WorkerCalls.lean

The calls that the workers make: the shape of their arguments, and the
operation of the lifecycle behind each instruction.

Main results: an instruction changes the lifecycle by one of its operations or
not at all (`exec_lifecycle`), so that what all operations preserve, all
workers preserve; and what can follow an instruction (`exec_successor`), from
which it is read off that all instructions are well formed.
-/
import Mathlib
import FastNetMon.Workers

namespace FastNetMon

open Std

/-! ### Well-formed instructions -/

/-- The rule of the request has the key of the request. -/
def GobgpFlowspecAnnounceRequest.Keyed (r : GobgpFlowspecAnnounceRequest) : Prop :=
  buildGobgpFlowspecRuleKey r.flowSpecRule = some r.ruleKey

/-- The key stands for a whole protocol of its victim. -/
def GobgpFlowspecRuleKey.WholeProtocol (k : GobgpFlowspecRuleKey) : Prop :=
  k = .protocolOnly k.destinationIpv4 k.protocol

theorem GobgpFlowspecRuleKey.WholeProtocol.isProtocolOnly {k : GobgpFlowspecRuleKey}
    (h : k.WholeProtocol) : k.isProtocolOnly k.destinationIpv4 k.protocol = true := by
  rw [h]
  simp [GobgpFlowspecRuleKey.isProtocolOnly, GobgpFlowspecRuleKey.protocolOnly]

/-- The shape of the arguments with which the workers call: keys belong to
rules, cleanups are for whole protocols only, and the limit is the configured
one. -/
def FlowspecInstr.WellFormed (config : GobgpFlowspecConfiguration) : FlowspecInstr → Prop
  | .beginAnnounce r => r.Keyed
  | .beginRefreshAnnounce r => r.Keyed ∧ r.ruleKey.destinationPortPresent = false
  | .beginRefreshProtocolRules po reqs max =>
      po.Keyed ∧ po.ruleKey.destinationPortPresent = false ∧
        (reqs ≠ [] → po.ruleKey.WholeProtocol) ∧ (∀ r ∈ reqs, r.Keyed) ∧
        max = config.maxPortRulesPerProtocol
  | .addPath r cleanup => r.Keyed ∧ (cleanup = true → r.ruleKey.WholeProtocol)
  | .completeAnnounce r uuid cleanup =>
      r.Keyed ∧ uuid ≠ [] ∧ (cleanup = true → r.ruleKey.WholeProtocol)
  | .beginProtocolOnlyEscalationCleanup k => k.WholeProtocol
  | _ => True

variable {config : GobgpFlowspecConfiguration}

theorem announceRequest_eq_some {action : ConfiguredFlowspecAction} {v : UInt32}
    {attack : AttackDetails} {port : Option UInt16} {r : GobgpFlowspecAnnounceRequest}
    (h : action.announceRequest v attack port = some r) :
    r.Keyed ∧ r.ruleKey = builtRuleKey v attack.attackProtocol port := by
  simp only [ConfiguredFlowspecAction.announceRequest, buildGobgpFlowspecRuleKey_build,
    Option.map_some, Option.some.injEq] at h
  subst h
  exact ⟨buildGobgpFlowspecRuleKey_build _ _ _ _ _ _ _, rfl⟩

/-- The key of a refresh for TCP or UDP is that of the whole protocol. -/
theorem builtRuleKey_wholeProtocol {v : UInt32} {p : IpProtocol} (hp : p = .TCP ∨ p = .UDP) :
    (builtRuleKey v (refreshAttack p).attackProtocol none).WholeProtocol := by
  rcases hp with rfl | rfl <;> rfl

/-- The instructions of a refresh thread for `v`. -/
theorem mem_refreshThread {v : UInt32} {results : List GobgpFlowspecRefreshProtocolResult}
    {i : FlowspecInstr} (hi : i ∈ refreshThread config v results) :
    i = .finishRefreshCapture v ∨
      (∃ r, i = .beginRefreshAnnounce r ∧ r.Keyed ∧ r.ruleKey.destinationIpv4 = v ∧
        r.ruleKey.destinationPortPresent = false) ∨
      ∃ po reqs, i = .beginRefreshProtocolRules po reqs config.maxPortRulesPerProtocol ∧
        po.Keyed ∧ po.ruleKey.destinationIpv4 = v ∧
        po.ruleKey.destinationPortPresent = false ∧
        (reqs ≠ [] → po.ruleKey.WholeProtocol) ∧ ∀ r ∈ reqs, r.Keyed := by
  unfold refreshThread at hi
  split at hi
  · exact .inl (List.mem_singleton.mp hi)
  · rcases List.mem_append.mp hi with hi | hi
    · right
      obtain ⟨result, -, hi⟩ := List.mem_flatMap.mp hi
      unfold refreshProtocol at hi
      split at hi
      · simp at hi
      · rename_i po hpo
        obtain ⟨hkeyed, hkey⟩ := announceRequest_eq_some hpo
        have hv : po.ruleKey.destinationIpv4 = v := by
          rw [hkey]
          exact builtRuleKey_destinationIpv4 _ _ _
        have hport : po.ruleKey.destinationPortPresent = false := by
          rw [hkey]
          exact builtRuleKey_none_destinationPortPresent _ _
        split at hi
        · exact .inl ⟨po, List.mem_singleton.mp hi, hkeyed, hv, hport⟩
        · refine .inr ⟨po, _, List.mem_singleton.mp hi, hkeyed, hv, hport, fun hne => ?_,
            fun r hr => ?_⟩
          · -- requests for ports come from significant ports, which only TCP and UDP have
            have hports : result.significantPorts ≠ [] := by
              intro h
              exact hne (by rw [h]; rfl)
            rw [hkey]
            exact builtRuleKey_wholeProtocol (result.ports_protocol hports)
          · obtain ⟨port, -, hr⟩ := List.mem_filterMap.mp hr
            exact (announceRequest_eq_some hr).1
    · exact .inl (List.mem_singleton.mp hi)

/-- The program of a BAN or UNBAN worker: it gives up before any call, or its
first call is the one given here. -/
theorem gobgpBanManageIpv4_cases (config : GobgpFlowspecConfiguration) (v : UInt32)
    (isWithdrawal : Bool) (attack : AttackDetails) (port : Option UInt16) :
    gobgpBanManageIpv4 config v isWithdrawal attack port = [] ∨
      (isWithdrawal = true ∧
        gobgpBanManageIpv4 config v isWithdrawal attack port = [.beginWithdrawForVictim v]) ∨
      ∃ r : GobgpFlowspecAnnounceRequest, isWithdrawal = false ∧ r.Keyed ∧
        r.ruleKey = builtRuleKey v attack.attackProtocol port ∧
        gobgpBanManageIpv4 config v isWithdrawal attack port = [.beginAnnounce r] := by
  unfold gobgpBanManageIpv4 gobgpBanManageFlowspecIpv4
  cases config.gobgpFlowspec with
  | false => exact .inl rfl
  | true =>
      cases isWithdrawal with
      | true => exact .inr (.inl ⟨rfl, rfl⟩)
      | false =>
          rcases config.configuredAction with - | action
          · exact .inl rfl
          · rcases hr : action.announceRequest v attack port with - | r
            · exact .inl (by simp [hr])
            · obtain ⟨hkeyed, hkey⟩ := announceRequest_eq_some hr
              exact .inr (.inr ⟨r, rfl, hkeyed, hkey, by simp [hr]⟩)

/-- The first instruction of a job. -/
theorem mem_program {job : FlowspecJob} {i : FlowspecInstr} (hi : i ∈ job.program config) :
    (∃ r, i = .beginAnnounce r ∧ r.Keyed) ∨ (∃ v, i = .beginWithdrawForVictim v) ∨
      (∃ v results, i = .refreshManage v results) ∨ (∃ v, i = .beginRefreshCapture v) ∨
      ∃ v, i = .finishRefreshCapture v := by
  cases job with
  | banManage v isWithdrawal attack port =>
      rcases gobgpBanManageIpv4_cases config v isWithdrawal attack port with
        h | ⟨-, h⟩ | ⟨r, -, hr, -, h⟩ <;> rw [FlowspecJob.program, h] at hi
      · simp at hi
      · exact .inr (.inl ⟨v, List.mem_singleton.mp hi⟩)
      · exact .inl ⟨r, List.mem_singleton.mp hi, hr⟩
  | refreshManage v results =>
      exact .inr (.inr (.inl ⟨v, results, List.mem_singleton.mp hi⟩))
  | refreshBeginCapture v =>
      exact .inr (.inr (.inr (.inl ⟨v, List.mem_singleton.mp hi⟩)))
  | refreshCompleteCapture v =>
      exact .inr (.inr (.inr (.inr ⟨v, List.mem_singleton.mp hi⟩)))

theorem program_wellFormed {job : FlowspecJob} {i : FlowspecInstr}
    (hi : i ∈ job.program config) : i.WellFormed config := by
  rcases mem_program hi with ⟨r, rfl, hr⟩ | ⟨v, rfl⟩ | ⟨v, results, rfl⟩ | ⟨v, rfl⟩ | ⟨v, rfl⟩
  · exact hr
  all_goals trivial

/-! ### The calls behind the instructions -/

namespace FlowspecInstr

/-- The call of the lifecycle that an instruction makes, if it makes one. -/
def op? : FlowspecInstr → Option LifecycleOp
  | .beginAnnounce r => some (.beginAnnounce r.ruleKey r.flowSpecRule)
  | .beginRefreshAnnounce r => some (.beginRefreshAnnounce r.ruleKey r.flowSpecRule)
  | .beginRefreshProtocolRules po reqs max => some (.beginRefreshProtocolRules po reqs max)
  | .failAnnounce k => some (.failAnnounce k)
  | .completeAnnounce r uuid _ => some (.completeAnnounce r.ruleKey uuid)
  | .beginProtocolOnlyEscalationCleanup k => some (.beginProtocolOnlyEscalationCleanup k)
  | .beginWithdrawForVictim v => some (.beginWithdrawForVictim v)
  | .completeWithdraw w success => some (.completeWithdraw w.ruleKey w.addPathUuid success)
  | .beginRefreshCapture v => some (.beginRefreshCapture v)
  | .finishRefreshCapture v => some (.finishRefreshCapture v)
  | .addPath _ _ | .deletePath _ | .refreshManage _ _ => none

variable {i : FlowspecInstr} {reply : RpcReply} {s s' : FlowspecState}
  {new : List FlowspecInstr} {forked : List (List FlowspecInstr)}

/-- An instruction acts on the lifecycle by its call, or not at all. -/
theorem exec_lifecycle (h : i.exec config reply s = some (s', new, forked)) :
    (∃ op, i.op? = some op ∧ s'.lifecycle = (op.apply s.lifecycle).2) ∨
      (i.op? = none ∧ s'.lifecycle = s.lifecycle) := by
  cases i with
  | addPath r cleanup =>
      refine .inr ⟨rfl, ?_⟩
      obtain ⟨t, ht, he⟩ := Option.map_eq_some_iff.mp h
      obtain ⟨rfl, -⟩ := Prod.mk.inj he
      cases reply with
      | failed =>
          obtain rfl := Option.some.inj ht
          rfl
      | ok uuid =>
          simp only [FlowspecState.announceFlowSpecIPv4] at ht
          split at ht
          · cases ht
          · obtain rfl := Option.some.inj ht
            rfl
  | deletePath w =>
      refine .inr ⟨rfl, ?_⟩
      obtain ⟨rfl, -⟩ := Prod.mk.inj (Option.some.inj h)
      cases reply <;> rfl
  | refreshManage v results =>
      refine .inr ⟨rfl, ?_⟩
      obtain ⟨rfl, -⟩ := Prod.mk.inj (Option.some.inj h)
      rfl
  | _ =>
      refine .inl ⟨_, rfl, ?_⟩
      obtain ⟨rfl, -⟩ := Prod.mk.inj (Option.some.inj h)
      rfl

theorem fencedWithdraws_exec (h : i.exec config reply s = some (s', new, forked))
    (hf : FencedWithdraws s.lifecycle) : FencedWithdraws s'.lifecycle := by
  rcases exec_lifecycle h with ⟨op, -, he⟩ | ⟨-, he⟩
  · rw [he]
    exact hf.apply op
  · rwa [he]

/-- `Successor config l i j`: run in the state `l` of the lifecycle, `i` can lead
to `j`, in the same thread or in one that it forks. -/
inductive Successor (config : GobgpFlowspecConfiguration) (l : GobgpFlowspecLifecycle) :
    FlowspecInstr → FlowspecInstr → Prop
  | announce (r) : Successor config l (.beginAnnounce r) (.addPath r false)
  | refreshAnnounce (r) : Successor config l (.beginRefreshAnnounce r) (.addPath r false)
  | escalate (po) {reqs} (max) (hreqs : reqs ≠ []) :
      Successor config l (.beginRefreshProtocolRules po reqs max) (.addPath po true)
  | addPort (po) {reqs} (max) {r} (hr : r ∈ reqs)
      (hport : r.ruleKey.isPortRule po.ruleKey.destinationIpv4 po.ruleKey.protocol = true) :
      Successor config l (.beginRefreshProtocolRules po reqs max) (.addPath r false)
  | fail (r) (cleanup) : Successor config l (.addPath r cleanup) (.failAnnounce r.ruleKey)
  | complete (r) (cleanup) {uuid} (hne : uuid ≠ []) :
      Successor config l (.addPath r cleanup) (.completeAnnounce r uuid cleanup)
  | cleanup (r) (uuid) (hc : (l.completeAnnounce r.ruleKey uuid).1 = .installed) :
      Successor config l (.completeAnnounce r uuid true)
        (.beginProtocolOnlyEscalationCleanup r.ruleKey)
  | lateDelete (r) (uuid) (cleanup)
      (hc : (l.completeAnnounce r.ruleKey uuid).1 = .withdrawRequired) :
      Successor config l (.completeAnnounce r uuid cleanup)
        (.deletePath ⟨r.ruleKey, r.flowSpecRule, uuid⟩)
  | cleanupDelete {k w} (hw : w ∈ (l.beginProtocolOnlyEscalationCleanup k).1) :
      Successor config l (.beginProtocolOnlyEscalationCleanup k) (.deletePath w)
  | withdrawDelete {v w} (hw : w ∈ (l.beginWithdrawForVictim v).1.withdrawRequests) :
      Successor config l (.beginWithdrawForVictim v) (.deletePath w)
  | deleted (w) (success) : Successor config l (.deletePath w) (.completeWithdraw w success)
  | refreshSkipped (v) (results) :
      Successor config l (.refreshManage v results) (.finishRefreshCapture v)
  | refresh {v results j} (hj : j ∈ refreshThread config v results) :
      Successor config l (.refreshManage v results) j

/-- **What follows an instruction.** -/
theorem exec_successor (h : i.exec config reply s = some (s', new, forked)) {j : FlowspecInstr}
    (hj : j ∈ (new : Multiset FlowspecInstr) + (forked.flatten : Multiset FlowspecInstr)) :
    Successor config s.lifecycle i j := by
  cases i with
  | beginAnnounce r =>
      obtain ⟨-, rfl, rfl⟩ := by simpa [exec] using h
      split at hj
      · obtain rfl := by simpa using hj
        exact .announce r
      · simp at hj
  | beginRefreshAnnounce r =>
      obtain ⟨-, rfl, rfl⟩ := by simpa [exec] using h
      split at hj
      · obtain rfl := by simpa using hj
        exact .refreshAnnounce r
      · simp at hj
  | beginRefreshProtocolRules po reqs max =>
      obtain ⟨-, rfl, rfl⟩ := by simpa [exec] using h
      rw [List.flatten_nil, Multiset.coe_nil, add_zero, Multiset.mem_coe] at hj
      obtain ⟨r, hr, rfl⟩ := List.mem_map.mp hj
      rcases s.lifecycle.beginRefreshProtocolRules_cases po reqs max with
        ⟨plan, hplan, -, he⟩ | ⟨-, -, plan, hne, ⟨hact, hplan, he⟩ | ⟨hact, hplan, -, he⟩⟩
      · rw [he, hplan] at hr
        simp at hr
      · rw [he, hplan] at hr
        obtain rfl := List.mem_singleton.mp hr
        rw [he, hact]
        refine .escalate r max ?_
        -- an escalation has a new port rule to make, so there were requests
        rintro rfl
        exact hne rfl
      · rw [he, hplan] at hr
        obtain ⟨⟨k, r'⟩, hmem, rfl⟩ := List.mem_map.mp hr
        obtain ⟨hkey, hreq, hport, -⟩ := GobgpFlowspecLifecycle.uniqueNewPortRules_spec
          (ExtTreeMap.mem_toList_iff_getElem?_eq_some.mp hmem)
        rw [he, hact]
        exact .addPort po max hreq (hkey ▸ hport)
  | addPath r cleanup =>
      obtain ⟨t, -, he⟩ := Option.map_eq_some_iff.mp h
      obtain ⟨-, he⟩ := Prod.mk.inj he
      obtain ⟨rfl, rfl⟩ := Prod.mk.inj he
      obtain rfl := by simpa using hj
      cases reply with
      | failed => exact .fail r cleanup
      | ok uuid =>
          simp only [afterAddPath]
          split
          · exact .fail r cleanup
          · rename_i hu
            exact .complete r cleanup (by simpa using hu)
  | completeAnnounce r uuid cleanup =>
      obtain ⟨-, rfl, rfl⟩ := by simpa [exec] using h
      rcases hc : (s.lifecycle.completeAnnounce r.ruleKey uuid).1 with - | - | -
      · rw [hc] at hj
        cases cleanup with
        | true =>
            obtain rfl := by simpa [afterCompleteAnnounce] using hj
            exact .cleanup r uuid hc
        | false => simp [afterCompleteAnnounce] at hj
      · rw [hc] at hj
        obtain rfl := by simpa [afterCompleteAnnounce] using hj
        exact .lateDelete r uuid cleanup hc
      · rw [hc] at hj
        simp [afterCompleteAnnounce] at hj
  | beginProtocolOnlyEscalationCleanup k =>
      obtain ⟨-, rfl, rfl⟩ := by simpa [exec] using h
      obtain ⟨w, hw, rfl⟩ := by simpa using hj
      exact .cleanupDelete hw
  | beginWithdrawForVictim v =>
      obtain ⟨-, rfl, rfl⟩ := by simpa [exec] using h
      obtain ⟨w, hw, rfl⟩ := by simpa using hj
      exact .withdrawDelete hw
  | deletePath w =>
      obtain ⟨-, rfl, rfl⟩ := by simpa [exec] using h
      obtain rfl := by simpa using hj
      exact .deleted w _
  | refreshManage v results =>
      obtain ⟨-, he⟩ := Prod.mk.inj (Option.some.inj h)
      unfold gobgpFlowspecRefreshManageIpv4 at he
      split at he <;> obtain ⟨rfl, rfl⟩ := Prod.mk.inj he
      · obtain rfl := by simpa using hj
        exact .refreshSkipped v results
      · exact .refresh (by simpa using hj)
  | _ =>
      obtain ⟨-, rfl, rfl⟩ := by simpa [exec] using h
      simp at hj

/-- What follows a well-formed instruction is well formed. -/
theorem Successor.wellFormed {l : GobgpFlowspecLifecycle} {j : FlowspecInstr}
    (h : Successor config l i j) (hi : i.WellFormed config) : j.WellFormed config := by
  cases h with
  | announce r => exact ⟨hi, by simp⟩
  | refreshAnnounce r => exact ⟨hi.1, by simp⟩
  | escalate po max hreqs => exact ⟨hi.1, fun _ => hi.2.2.1 hreqs⟩
  | addPort po max hr => exact ⟨hi.2.2.2.1 _ hr, by simp⟩
  | complete r cleanup hne => exact ⟨hi.1, hne, hi.2⟩
  | cleanup r uuid => exact hi.2.2 rfl
  | refresh hj =>
      rcases mem_refreshThread hj with rfl | ⟨r, rfl, hr, -, hport⟩ |
        ⟨po, reqs, rfl, hpo, -, hport, hwhole, hreqs⟩
      · trivial
      · exact ⟨hr, hport⟩
      · exact ⟨hpo, hport, hwhole, hreqs, rfl⟩
  | fail | lateDelete | cleanupDelete | withdrawDelete | deleted | refreshSkipped => trivial

end FlowspecInstr

end FastNetMon
