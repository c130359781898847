/-
FastNetMon/Unban.lean

What UNBAN does to a victim.

`begin_withdraw_for_victim` raises the fence of the victim and marks all of
its rules.  From then on the rules only drain away: nothing is inserted under
the fence, every rule has a worker that will erase it, and whoever processes
the last reply drops the fence (`Draining`, `Drained`).

Main result: `unban_completes`, under all interleavings of workers.
-/
import Mathlib
import FastNetMon.Paths

namespace FastNetMon

open Std

variable {config : GobgpFlowspecConfiguration} {w w₁ w₂ : Pool FlowspecState FlowspecInstr}
  {i : FlowspecInstr} {reply : RpcReply} {s s' : FlowspecState} {new : List FlowspecInstr}
  {forked : List (List FlowspecInstr)} {B : Multiset FlowspecInstr}
  {token : GobgpFlowspecRuleKey → Option ByteString} {l : GobgpFlowspecLifecycle} {v : UInt32}
  {k : GobgpFlowspecRuleKey} {op : LifecycleOp}

/-! ### Draining -/

/-- The victim is fenced, and each of its rules is still in the hands of a
worker: none has come back from a failed DeletePath. -/
def Draining (l : GobgpFlowspecLifecycle) (v : UInt32) : Prop :=
  v ∈ l.victimsWithdrawRequested ∧
    ∀ (k : GobgpFlowspecRuleKey) (st : GobgpFlowspecRuleState), k.destinationIpv4 = v →
      l.rules[k]? = some st → st.state = .withdrawRequested → st.addPathUuid = []

/-- Nothing of the victim is left. -/
def Drained (l : GobgpFlowspecLifecycle) (v : UInt32) : Prop :=
  v ∉ l.victimsWithdrawRequested ∧ l.victimHasRulesLocked v = false ∧
    v ∉ l.victimsRefreshInProgress

theorem startWithdraw_uuid_eq_nil {st : GobgpFlowspecRuleState} (h : st.uuidMatches)
    (hs : st.startWithdraw.1.state = .withdrawRequested) :
    st.startWithdraw.1.addPathUuid = [] := by
  obtain ⟨state, r, uuid⟩ := st
  cases state <;> cases uuid <;>
    simp_all [GobgpFlowspecRuleState.uuidMatches, GobgpFlowspecRuleState.startWithdraw]

/-- An operation keeps a drain going, or ends it, unless it reports a failed
DeletePath of the victim. -/
theorem Draining.apply (h : Draining l v) (hu : UuidsMatch l)
    (hop : ∀ k uuid, k.destinationIpv4 = v → op ≠ .completeWithdraw k uuid false) :
    Draining (op.apply l).2 v ∨ Drained (op.apply l).2 v := by
  by_cases hf : v ∈ (op.apply l).2.victimsWithdrawRequested
  · refine .inl ⟨hf, fun k st hv hst hs => ?_⟩
    have hchange := apply_ruleChange op l k
    rw [hst] at hchange
    generalize ho : l.rules[k]? = o at hchange
    generalize ho' : some st = o' at hchange
    cases hchange with
    | same => exact h.2 k st hv (ho.trans ho'.symm) hs
    | reserve r hno => exact absurd (hv ▸ h.1) hno
    | fail | erase => cases ho'
    | install | lateWithdraw =>
        obtain rfl := Option.some.inj ho'
        cases hs
    | startWithdraw st₀ =>
        obtain rfl := Option.some.inj ho'
        exact startWithdraw_uuid_eq_nil (hu k st₀ ho) hs
    | retry hretry => exact absurd hretry (hop k _ hv)
  · exact .inr ⟨hf, fence_dropped op h.1 hf⟩

/-- What is drained stays so until something is begun for the victim. -/
theorem Drained.apply (h : Drained l v)
    (hres : ∀ k : GobgpFlowspecRuleKey, k.destinationIpv4 = v → ¬ op.reserves k)
    (hwd : op ≠ .beginWithdrawForVictim v) (hcap : op ≠ .beginRefreshCapture v) :
    Drained (op.apply l).2 v := by
  refine ⟨fun hf => h.1 (mem_fence_apply op hwd hf), ?_, fun hr => ?_⟩
  · rw [Bool.eq_false_iff]
    intro hyes
    obtain ⟨k, hk, hmem⟩ := GobgpFlowspecLifecycle.victimHasRulesLocked_iff.mp hyes
    rcases mem_of_mem_apply op hmem with ⟨hr, -⟩ | hmem
    · exact hres k hk hr
    · have hyes := GobgpFlowspecLifecycle.victimHasRulesLocked_iff.mpr ⟨k, hk, hmem⟩
      exact Bool.false_ne_true (h.2.1.symm.trans hyes)
  · rcases (mem_refresh_apply op).mp hr with ⟨hr, -⟩ | ⟨hr, -⟩
    · exact hcap hr
    · exact h.2.2 hr

/-- UNBAN starts a drain, or finds nothing to wait for. -/
theorem draining_beginWithdraw (hu : UuidsMatch l) :
    Draining (l.beginWithdrawForVictim v).2 v ∨ Drained (l.beginWithdrawForVictim v).2 v := by
  by_cases hf : v ∈ (l.beginWithdrawForVictim v).2.victimsWithdrawRequested
  · refine .inl ⟨hf, fun k st hv hst hs => ?_⟩
    rw [GobgpFlowspecLifecycle.beginWithdrawForVictim_rules,
      GobgpFlowspecLifecycle.withdrawMatching_getElem?] at hst
    obtain ⟨st₀, hst₀, rfl⟩ := Option.map_eq_some_iff.mp hst
    simp only [hv, beq_self_eq_true, if_true] at hs ⊢
    exact startWithdraw_uuid_eq_nil (hu k st₀ hst₀) hs
  · refine .inr ⟨hf, ?_⟩
    rw [GobgpFlowspecLifecycle.mem_beginWithdrawForVictim, if_pos rfl] at hf
    obtain ⟨hrules, hcap⟩ := not_or.mp hf
    refine ⟨?_, by rwa [GobgpFlowspecLifecycle.beginWithdrawForVictim_victimsRefreshInProgress]⟩
    rw [Bool.eq_false_iff]
    intro hyes
    obtain ⟨k, hk, hmem⟩ := GobgpFlowspecLifecycle.victimHasRulesLocked_iff.mp hyes
    rw [GobgpFlowspecLifecycle.beginWithdrawForVictim_rules,
      GobgpFlowspecLifecycle.mem_withdrawMatching] at hmem
    exact hrules (GobgpFlowspecLifecycle.victimHasRulesLocked_iff.mpr ⟨k, hk, hmem⟩)

/-! ### What is outstanding -/

/-- The victim whose rule or path an instruction is about. -/
def FlowspecInstr.servedVictim? (i : FlowspecInstr) : Option UInt32 :=
  i.key?.map (·.destinationIpv4)

/-- Something is still to be done for `v`: the reply to an AddPath or DeletePath
is to be processed, or a refresh reservation is to be finished. -/
def Outstanding (w : Pool FlowspecState FlowspecInstr) (v : UInt32) : Prop :=
  (∃ i ∈ w.pending, i.servedVictim? = some v) ∨
    v ∈ w.shared.lifecycle.victimsRefreshInProgress

instance (w : Pool FlowspecState FlowspecInstr) (v : UInt32) : Decidable (Outstanding w v) :=
  @instDecidableOr _ _ Multiset.decidableExistsMultiset inferInstance

theorem KeyPhase.uuidMatches {st : GobgpFlowspecRuleState} {b : Multiset FlowspecInstr}
    {P : Finset GobgpPath} {t : Option ByteString} (h : KeyPhase k (some st) b P t) :
    st.uuidMatches := by
  cases h with
  | adding _ ha hu | failing ha hu | completing _ ha hu =>
      refine ⟨fun _ => hu, fun hs => ?_⟩
      rcases ha with ha | ⟨ha, -⟩ <;> rcases hs with hs | hs <;> rw [hs] at ha <;> cases ha
  | held hs hne =>
      refine ⟨fun ha => ?_, fun _ => hne⟩
      rcases hs with hs | hs <;> rw [hs] at ha <;> cases ha
  | deleting hs hne | deleteFailed hs hne | deleted hs hne =>
      refine ⟨fun ha => ?_, fun _ => hne⟩
      rw [hs] at ha
      cases ha

/-- A rule that is neither installed nor waiting for a retry has a worker. -/
theorem KeyPhase.pending_of_leaving {st : GobgpFlowspecRuleState} {b : Multiset FlowspecInstr}
    {P : Finset GobgpPath} {t : Option ByteString} (h : KeyPhase k (some st) b P t)
    (hl : st.leaving) (hs : st.state = .withdrawRequested → st.addPathUuid = []) :
    ∃ i, b = {i} := by
  cases h with
  | adding | failing | completing | deleting | deleteFailed | deleted => exact ⟨_, rfl⟩
  | held hs' hne =>
      rcases hs' with hs' | hs'
      · rcases hl with hl | hl <;> rw [hs'] at hl <;> cases hl
      · exact absurd (hs hs') hne

namespace Coherent

theorem uuidsMatch (h : Coherent config s B token) : UuidsMatch s.lifecycle := by
  intro k st hst
  have hphase := h.phase k
  rw [hst] at hphase
  exact hphase.uuidMatches

/-- While a victim drains, every rule of it has a worker. -/
theorem pending_of_draining (h : Coherent config s B token) (hd : Draining s.lifecycle v)
    (hk : k.destinationIpv4 = v) (hmem : k ∈ s.lifecycle.rules) :
    ∃ i ∈ B, i.servedVictim? = some v := by
  obtain ⟨st, hst⟩ := Option.isSome_iff_exists.mp (ExtTreeMap.mem_iff_isSome_getElem?.mp hmem)
  have hphase := h.phase k
  rw [hst] at hphase
  have hl := h.fenced k st (hk ▸ hd.1) hst
  obtain ⟨i, hi⟩ := hphase.pending_of_leaving hl (hd.2 k st hk hst)
  have himem : i ∈ pendingAt B k := by
    rw [hi]
    exact Multiset.mem_singleton_self i
  obtain ⟨himem, hkey⟩ := mem_pendingAt.mp himem
  exact ⟨i, himem, by simp [FlowspecInstr.servedVictim?, hkey, hk]⟩

theorem rules_eq_none (hv : s.lifecycle.victimHasRulesLocked v = false)
    (hk : k.destinationIpv4 = v) : s.lifecycle.rules[k]? = none := by
  rcases ho : s.lifecycle.rules[k]? with - | st
  · rfl
  · have hyes := GobgpFlowspecLifecycle.victimHasRulesLocked_iff.mpr
      ⟨k, hk, ExtTreeMap.mem_iff_isSome_getElem?.mpr (by rw [ho]; rfl)⟩
    exact absurd (hv.symm.trans hyes) Bool.false_ne_true

/-- A victim without rules has no pending reply. -/
theorem not_served_of_no_rules (h : Coherent config s B token)
    (hv : s.lifecycle.victimHasRulesLocked v = false) :
    ∀ i ∈ B, i.servedVictim? ≠ some v := by
  intro i hi hserved
  obtain ⟨k, hkey, hk⟩ := Option.map_eq_some_iff.mp hserved
  have hphase := h.phase k
  rw [rules_eq_none hv hk] at hphase
  have himem := mem_pendingAt.mpr ⟨hi, hkey⟩
  generalize pendingAt B k = b, s.pathsAt k = P, token k = t at hphase himem
  cases hphase
  simp at himem

/-- A victim without rules has no path. -/
theorem no_path_of_no_rules (h : Coherent config s B token)
    (hv : s.lifecycle.victimHasRulesLocked v = false) :
    ∀ q ∈ s.paths, q.flowSpecRule.destinationSubnetIpv4.subnetAddress ≠ v := by
  intro q hq hdest
  obtain ⟨k, hk⟩ := h.pathKeyed q hq
  have hkv : k.destinationIpv4 = v :=
    (buildGobgpFlowspecRuleKey_destinationIpv4 hk).trans hdest
  have hphase := h.phase k
  rw [rules_eq_none hv hkv] at hphase
  have hmem := mem_pathsAt.mpr ⟨hq, hk⟩
  generalize pendingAt B k = b, s.pathsAt k = P, token k = t at hphase hmem
  cases hphase
  simp at hmem

end Coherent

/-- In every reachable state a fence has something to wait for. -/
theorem FlowspecReachable.fencePending (h : FlowspecReachable config w)
    (hv : v ∈ w.shared.lifecycle.victimsWithdrawRequested) :
    FencePending w.shared.lifecycle v := by
  refine (Coherent.reaches (J := fun s _ => ∀ v ∈ s.lifecycle.victimsWithdrawRequested,
    FencePending s.lifecycle v) (fun _ _ h => h) (fun {w n reply i s' new forked B token}
      _ _ _ _ he hJ v hv => ?_) h coherent_start ?_).2 v hv
  · rcases FlowspecInstr.exec_lifecycle he with ⟨op, hop, hl⟩ | ⟨-, hl⟩
    · rw [hl] at hv ⊢
      refine FencePending.apply op ?_ (hJ v) hv
      rintro rfl
      cases i <;> cases hop
    · rw [hl] at hv ⊢
      exact hJ v hv
  · intro v hv
    simp [flowspecStart] at hv

/-! ### UNBAN under all interleavings -/

/-- The reply to a DeletePath that a step passes to `complete_withdraw`, if it does. -/
def completeWithdrawCall (w : Pool FlowspecState FlowspecInstr) :
    PoolEvent FlowspecJob RpcReply → Option (GobgpFlowspecWithdrawRequest × Bool)
  | .start _ => none
  | .run n _ =>
      match w.next n with
      | some (.completeWithdraw request success) => some (request, success)
      | _ => none

/-- Something of `v` is outstanding, and the step does not report a failed
DeletePath for `v`. -/
def UnbanContinues (v : UInt32) (w : Pool FlowspecState FlowspecInstr)
    (e : PoolEvent FlowspecJob RpcReply) : Prop :=
  Outstanding w v ∧
    ∀ c ∈ completeWithdrawCall w e, c.1.ruleKey.destinationIpv4 = v → c.2 = true

instance (v : UInt32) (w : Pool FlowspecState FlowspecInstr)
    (e : PoolEvent FlowspecJob RpcReply) : Decidable (UnbanContinues v w e) :=
  inferInstanceAs (Decidable (Outstanding w v ∧ ∀ c ∈ completeWithdrawCall w e, _ → _))

/-- No operation makes a rule or a reservation for `v`. -/
def NothingInserted (l : GobgpFlowspecLifecycle) (v : UInt32) : Prop :=
  ∀ op : LifecycleOp,
    (∀ k : GobgpFlowspecRuleKey, k.destinationIpv4 = v → k ∉ l.rules →
      k ∉ (op.apply l).2.rules) ∧
    (v ∉ l.victimsRefreshInProgress → v ∉ (op.apply l).2.victimsRefreshInProgress)

theorem nothingInserted_of_fenced (h : v ∈ l.victimsWithdrawRequested) : NothingInserted l v := by
  intro op
  refine ⟨fun k hv hk hk' => ?_, fun hr hr' => ?_⟩
  · rcases mem_of_mem_apply op hk' with ⟨-, hf⟩ | hk'
    · exact hf (hv ▸ h)
    · exact hk hk'
  · rcases (mem_refresh_apply op).mp hr' with ⟨-, hf⟩ | ⟨hr', -⟩
    · exact hf h
    · exact hr hr'

theorem beginAnnounce_accepted (h : Drained l v) (hk : k.destinationIpv4 = v)
    (r : FlowSpecRule) : (l.beginAnnounce k r).1 = true := by
  have hnone := Coherent.rules_eq_none (s := { lifecycle := l }) h.2.1 hk
  have hf : k.destinationIpv4 ∉ l.victimsWithdrawRequested := hk ▸ h.1
  simp only [GobgpFlowspecLifecycle.beginAnnounce, GobgpFlowspecLifecycle.reserveRule, if_neg hf]
  rw [show l.rules[k]? = none from hnone]
  rfl

/-- The drain that UNBAN starts goes on, whatever the workers do, until nothing
is outstanding. -/
theorem draining_of_unban {n : ℕ} (hw : FlowspecReachable config w)
    (hnext : w.next n = some (.beginWithdrawForVictim v))
    (hstep : (flowspecMachine config).step w (.run n reply) = some w₁)
    (hrun : Reaches (flowspecMachine config).step (UnbanContinues v) w₁ w₂) :
    Draining w₂.shared.lifecycle v ∨ Drained w₂.shared.lifecycle v := by
  have hreach₁ : FlowspecReachable config w₁ := by
    obtain ⟨es, hw⟩ := hw
    exact ⟨_, hw.tail trivial hstep⟩
  have hJ₁ : Draining w₁.shared.lifecycle v ∨ Drained w₁.shared.lifecycle v := by
    obtain ⟨token, hco⟩ := hw.coherent
    obtain ⟨i, rest, s, new, forked, ht, he, rfl⟩ := Machine.step_run hstep
    obtain rfl : i = .beginWithdrawForVictim v := by simpa [Pool.next, ht] using hnext
    obtain ⟨rfl, -⟩ := Prod.mk.inj (Option.some.inj he)
    exact draining_beginWithdraw hco.uuidsMatch
  refine (Coherent.reaches (J := fun s _ => Draining s.lifecycle v ∨ Drained s.lifecycle v)
    (fun _ _ h => h) (fun {w n reply i s' new forked B token} hC hi hp hco he hJ => ?_) hrun
    hreach₁.coherent hJ₁).2
  -- the run goes on only while something is outstanding, so the drain has not ended
  have hd : Draining w.shared.lifecycle v := by
    refine hJ.resolve_right fun hdone => ?_
    rcases hC.1 with ⟨j, hj, hserved⟩ | hcap
    · rw [hp] at hj
      exact hco.not_served_of_no_rules hdone.2.1 j hj hserved
    · exact hdone.2.2 hcap
  rcases FlowspecInstr.exec_lifecycle he with ⟨op, hop, hl⟩ | ⟨-, hl⟩
  · rw [hl]
    refine hd.apply hco.uuidsMatch fun k uuid hk hfail => ?_
    subst hfail
    cases i with
    | completeWithdraw request success =>
        simp only [FlowspecInstr.op?, Option.some.injEq, LifecycleOp.completeWithdraw.injEq] at hop
        obtain ⟨hkey, -, rfl⟩ := hop
        have hsucc := hC.2 (request, false) (by simp [completeWithdrawCall, hi]) (by rw [hkey, hk])
        cases hsucc
    | _ => simp [FlowspecInstr.op?] at hop
  · rw [hl]
    exact .inl hd

/-- **UNBAN completeness.**  From any reachable state, after
`begin_withdraw_for_victim` for `v`, in every interleaving in which no
DeletePath for `v` fails: as long as a reply about `v` or a reservation of `v`
is outstanding, the fence is up and no operation inserts anything for `v`.
Once none is, GoBGP holds no path for `v`, `v` has no rule, its fence is
down, and `begin_announce` accepts any key of `v`. -/
theorem unban_completes {n : ℕ} {es : List (PoolEvent FlowspecJob RpcReply)}
    (hw : FlowspecReachable config w) (hnext : w.next n = some (.beginWithdrawForVictim v))
    (hstep : (flowspecMachine config).step w (.run n reply) = some w₁)
    (hrun : Runs (flowspecMachine config).step (UnbanContinues v) w₁ es w₂) :
    (Outstanding w₂ v → v ∈ w₂.shared.lifecycle.victimsWithdrawRequested ∧
      NothingInserted w₂.shared.lifecycle v) ∧
    (¬ Outstanding w₂ v →
      (∀ q ∈ w₂.shared.paths, q.flowSpecRule.destinationSubnetIpv4.subnetAddress ≠ v) ∧
      (∀ k : GobgpFlowspecRuleKey, k.destinationIpv4 = v →
        w₂.shared.lifecycle.rules[k]? = none) ∧
      v ∉ w₂.shared.lifecycle.victimsWithdrawRequested ∧
      ∀ (k : GobgpFlowspecRuleKey) (r : FlowSpecRule), k.destinationIpv4 = v →
        (w₂.shared.lifecycle.beginAnnounce k r).1 = true) := by
  have hreach₂ : FlowspecReachable config w₂ := by
    obtain ⟨es₀, hw⟩ := hw
    exact ⟨_, (hw.tail trivial hstep).append (hrun.mono fun _ _ _ => trivial)⟩
  obtain ⟨token, hco⟩ := hreach₂.coherent
  rcases draining_of_unban hw hnext hstep ⟨es, hrun⟩ with hd | hdone
  · have hout : Outstanding w₂ v := by
      rcases hreach₂.fencePending hd.1 with hrules | hcap
      · obtain ⟨k, hk, hmem⟩ := GobgpFlowspecLifecycle.victimHasRulesLocked_iff.mp hrules
        exact .inl (hco.pending_of_draining hd hk hmem)
      · exact .inr hcap
    exact ⟨fun _ => ⟨hd.1, nothingInserted_of_fenced hd.1⟩, fun h => absurd hout h⟩
  · have hout : ¬ Outstanding w₂ v := by
      rintro (⟨i, hi, hserved⟩ | hcap)
      · exact hco.not_served_of_no_rules hdone.2.1 i hi hserved
      · exact hdone.2.2 hcap
    refine ⟨fun h => absurd h hout, fun _ => ⟨hco.no_path_of_no_rules hdone.2.1, fun k hk =>
      Coherent.rules_eq_none hdone.2.1 hk, hdone.1, fun k r hk => beginAnnounce_accepted hdone hk r⟩⟩

/-- UNBAN begins while the AddPath of a BAN is in flight; the path is added,
deleted again, and the drain ends. -/
theorem unban_completes_during_addPath :
    ∃ w : Pool FlowspecState FlowspecInstr, (∀ q ∈ w.shared.paths,
        q.flowSpecRule.destinationSubnetIpv4.subnetAddress ≠ 1) ∧
      ∀ (k : GobgpFlowspecRuleKey) (r : FlowSpecRule), k.destinationIpv4 = 1 →
        (w.shared.lifecycle.beginAnnounce k r).1 = true := by
  let step := (flowspecMachine {}).step
  obtain ⟨w, hw, w₁, hw₁, w₂, hw₂, hout⟩ :
      ∃ w ∈ runEvents step flowspecStart
          [.start (.banManage 1 false { attackProtocol := 17 } none),
            .start (.banManage 1 true {} none), .run 0 .failed],
        ∃ w₁ ∈ step w (.run 1 .failed),
          ∃ w₂ ∈ runEvents (restrictTo step (UnbanContinues 1)) w₁
              [.run 0 (.ok [7]), .run 0 .failed, .run 0 (.ok []), .run 0 .failed],
            w.next 1 = some (.beginWithdrawForVictim 1) ∧ ¬ Outstanding w₂ 1 := by
    decide
  obtain ⟨hnext, hout⟩ := hout
  obtain ⟨hpath, -, -, hban⟩ := (unban_completes ⟨_, runs_iff_runEvents.mpr hw⟩ hnext hw₁
    (runs_restrictTo (runs_iff_runEvents.mpr hw₂))).2 hout
  exact ⟨w₂, hpath, hban⟩

end FastNetMon
