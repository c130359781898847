/-
FastNetMon/PortRuleCap.lean

The limit on the number of port rules.

A refresh plans new port rules only while they fit into the configured limit;
announcing rules count from their reservation on, and a rule that waits for
its withdrawal counts until its entry is erased.  BAN does not look at the
limit, so it has to be called with a port only for a victim without rules.
Under this condition the number of port rules of a victim and protocol stays
within the limit in every state of every interleaving (`port_rule_cap`).
-/
import Mathlib
import FastNetMon.WorkerInvariant

namespace FastNetMon

open Std

variable {l : GobgpFlowspecLifecycle} {v : UInt32} {p : IpProtocol} {k : GobgpFlowspecRuleKey}

/-! ### The number of port rules under one operation -/

/-- An operation that reserves no port of `(v, p)` adds none. -/
theorem portRuleCount_apply_le (op : LifecycleOp)
    (hop : ∀ k : GobgpFlowspecRuleKey, k.isPortRule v p = true → op.reserves k → k ∈ l.rules) :
    (op.apply l).2.portRuleCount v p ≤ l.portRuleCount v p := by
  refine OrderedMap.countP_keys_le [] fun k hq hk => ?_
  rcases mem_of_mem_apply op hk with ⟨hr, -⟩ | hk
  · exact .inl (hop k hq hr)
  · exact .inl hk

theorem portRuleCount_eq_zero (h : l.victimHasRulesLocked v = false) :
    l.portRuleCount v p = 0 := by
  rw [GobgpFlowspecLifecycle.portRuleCount, List.countP_eq_zero]
  intro k hk hport
  have hv : k.destinationIpv4 = v := by
    simp only [GobgpFlowspecRuleKey.isPortRule, Bool.and_eq_true, beq_iff_eq] at hport
    exact hport.1.1.1
  have hyes := GobgpFlowspecLifecycle.victimHasRulesLocked_iff.mpr
    ⟨k, hv, ExtTreeMap.mem_keys.mp hk⟩
  exact Bool.false_ne_true (h.symm.trans hyes)

/-- A BAN adds at most its own key. -/
theorem portRuleCount_beginAnnounce_le (k : GobgpFlowspecRuleKey) (r : FlowSpecRule) :
    ((LifecycleOp.beginAnnounce k r).apply l).2.portRuleCount v p
      ≤ l.portRuleCount v p + 1 := by
  refine OrderedMap.countP_keys_le [k] fun k' _ hk' => ?_
  rcases mem_of_mem_apply _ hk' with ⟨hr, -⟩ | hk'
  · exact .inr (List.mem_singleton.mpr (show k = k' from hr).symm)
  · exact .inl hk'

theorem isPortRule_iff {u : UInt32} {q : IpProtocol} (h : k.isPortRule v p = true) :
    k.isPortRule u q = true ↔ v = u ∧ p = q := by
  simp only [GobgpFlowspecRuleKey.isPortRule, Bool.and_eq_true, beq_iff_eq] at h ⊢
  obtain ⟨⟨⟨rfl, hpp⟩, rfl⟩, hport⟩ := h
  simp [hpp, hport]

/-- A refresh plan keeps the number of port rules within its limit. -/
theorem portRuleCount_beginRefreshProtocolRules_le {po : GobgpFlowspecAnnounceRequest}
    {reqs : List GobgpFlowspecAnnounceRequest} {max : UInt64}
    (hpo : po.ruleKey.destinationPortPresent = false) (h : l.portRuleCount v p ≤ max.toNat) :
    ((LifecycleOp.beginRefreshProtocolRules po reqs max).apply l).2.portRuleCount v p
      ≤ max.toNat := by
  have hnot : po.ruleKey.isPortRule v p = false := by
    simp [GobgpFlowspecRuleKey.isPortRule, hpo]
  by_cases hvp : v = po.ruleKey.destinationIpv4 ∧ p = po.ruleKey.protocol
  · obtain ⟨rfl, rfl⟩ := hvp
    rcases l.beginRefreshProtocolRules_cases po reqs max with
      ⟨plan, -, -, he⟩ | ⟨-, -, plan, -, ⟨-, -, he⟩ | ⟨-, -, hfit, he⟩⟩
    · simpa only [LifecycleOp.apply, he, Prod.map_snd, id] using h
    · refine Nat.le_trans ?_ h
      simp only [LifecycleOp.apply, he, Prod.map_snd, id]
      refine OrderedMap.countP_keys_le [] fun k hq hk => ?_
      rcases ExtTreeMap.mem_insertIfNew.mp hk with hk | hk
      · obtain rfl : po.ruleKey = k := by simpa using hk
        rw [hnot] at hq
        cases hq
      · exact .inl hk
    · -- the plan counts the rules that are stored and the ones it adds
      refine Nat.le_trans ?_ hfit
      simp only [LifecycleOp.apply, he, Prod.map_snd, id]
      rw [← ExtTreeMap.length_keys]
      refine OrderedMap.countP_keys_le _ fun k _ hk => ?_
      rcases GobgpFlowspecLifecycle.mem_announceAll.mp hk with hk | hk
      · exact .inl hk
      · exact .inr (ExtTreeMap.mem_keys.mpr hk)
  · refine Nat.le_trans (portRuleCount_apply_le _ fun k hk hr => ?_) h
    rcases hr with rfl | ⟨hport, -⟩
    · rw [hnot] at hk
      cases hk
    · exact absurd ((isPortRule_iff hk).mp hport) hvp

/-! ### The workers -/

variable {config : GobgpFlowspecConfiguration} {w w' : Pool FlowspecState FlowspecInstr}
  {i : FlowspecInstr} {reply : RpcReply} {s s' : FlowspecState} {new : List FlowspecInstr}
  {forked : List (List FlowspecInstr)}

/-- The request with which a step calls `begin_announce`, if it does. -/
def beginAnnounceCall (w : Pool FlowspecState FlowspecInstr) :
    PoolEvent FlowspecJob RpcReply → Option GobgpFlowspecAnnounceRequest
  | .start _ => none
  | .run n _ =>
      match w.next n with
      | some (.beginAnnounce r) => some r
      | _ => none

/-- `begin_announce` is called with a port only for a victim without rules. -/
def BansPortsFirst (w : Pool FlowspecState FlowspecInstr) (e : PoolEvent FlowspecJob RpcReply) :
    Prop :=
  ∀ r ∈ beginAnnounceCall w e, r.ruleKey.destinationPortPresent = true →
    w.shared.lifecycle.victimHasRulesLocked r.ruleKey.destinationIpv4 = false

instance (w : Pool FlowspecState FlowspecInstr) (e : PoolEvent FlowspecJob RpcReply) :
    Decidable (BansPortsFirst w e) :=
  inferInstanceAs (Decidable (∀ r ∈ beginAnnounceCall w e, _ → _))

/-- No victim and protocol has more port rules than `max`. -/
def PortRulesWithin (max : ℕ) (l : GobgpFlowspecLifecycle) : Prop :=
  ∀ v p, l.portRuleCount v p ≤ max

theorem PortRulesWithin.exec (hmax : 1 ≤ config.maxPortRulesPerProtocol)
    (hi : i.WellFormed config)
    (hban : ∀ r, i = .beginAnnounce r → r.ruleKey.destinationPortPresent = true →
      s.lifecycle.victimHasRulesLocked r.ruleKey.destinationIpv4 = false)
    (he : i.exec config reply s = some (s', new, forked))
    (h : PortRulesWithin config.maxPortRulesPerProtocol.toNat s.lifecycle) :
    PortRulesWithin config.maxPortRulesPerProtocol.toNat s'.lifecycle := by
  intro v p
  rcases FlowspecInstr.exec_lifecycle he with ⟨op, hop, hl⟩ | ⟨-, hl⟩
  · rw [hl]
    cases i with
    | beginAnnounce r =>
        obtain rfl := Option.some.inj hop
        by_cases hport : r.ruleKey.isPortRule v p = true
        · simp only [GobgpFlowspecRuleKey.isPortRule, Bool.and_eq_true, beq_iff_eq] at hport
          have hnone := hban r rfl hport.2
          rw [hport.1.1.1] at hnone
          have hle := portRuleCount_beginAnnounce_le (l := s.lifecycle) (v := v) (p := p)
            r.ruleKey r.flowSpecRule
          rw [portRuleCount_eq_zero hnone, Nat.zero_add] at hle
          exact Nat.le_trans hle hmax
        · refine Nat.le_trans (portRuleCount_apply_le _ fun k hk hr => ?_) (h v p)
          obtain rfl : r.ruleKey = k := hr
          exact absurd hk hport
    | beginRefreshAnnounce r =>
        obtain rfl := Option.some.inj hop
        refine Nat.le_trans (portRuleCount_apply_le _ fun k hk hr => ?_) (h v p)
        obtain rfl : r.ruleKey = k := hr
        simp [GobgpFlowspecRuleKey.isPortRule, hi.2] at hk
    | beginRefreshProtocolRules po reqs max =>
        obtain rfl := Option.some.inj hop
        obtain ⟨-, hpo, -, -, rfl⟩ := hi
        exact portRuleCount_beginRefreshProtocolRules_le hpo (h v p)
    | addPath | deletePath | refreshManage => cases hop
    | _ =>
        obtain rfl := Option.some.inj hop
        exact Nat.le_trans (portRuleCount_apply_le _ fun k _ hr => hr.elim) (h v p)
  · rw [hl]
    exact h v p

/-- A plan that reserves the rule for a whole protocol reserves no port of it. -/
theorem not_both_reserved_apply (op : LifecycleOp) (hk : k.isPortRule v p = true)
    (hk₀ : k ∉ l.rules) (hk₁ : k ∈ (op.apply l).2.rules)
    (hpo₀ : .protocolOnly v p ∉ l.rules) : .protocolOnly v p ∉ (op.apply l).2.rules := by
  intro hpo₁
  have hne : k ≠ .protocolOnly v p := by
    rintro rfl
    simp [GobgpFlowspecRuleKey.isPortRule, GobgpFlowspecRuleKey.protocolOnly] at hk
  obtain ⟨hkr, -⟩ := (mem_of_mem_apply op hk₁).resolve_right hk₀
  obtain ⟨hpor, -⟩ := (mem_of_mem_apply op hpo₁).resolve_right hpo₀
  cases op with
  | beginAnnounce j r | beginRefreshAnnounce j r =>
      exact hne ((show j = k from hkr).symm.trans hpor)
  | beginRefreshProtocolRules po reqs max =>
      rcases l.beginRefreshProtocolRules_cases po reqs max with
        ⟨plan, -, -, he⟩ | ⟨-, -, plan, -, ⟨-, -, he⟩ | ⟨-, -, -, he⟩⟩ <;>
        simp only [LifecycleOp.apply, he, Prod.map_snd, id] at hk₁ hpo₁
      · exact hk₀ hk₁
      · rcases ExtTreeMap.mem_insertIfNew.mp hk₁ with h₁ | h₁
        · rcases ExtTreeMap.mem_insertIfNew.mp hpo₁ with h₂ | h₂
          · exact hne (by simpa using (compare_eq_iff_eq.mp h₁).symm.trans (compare_eq_iff_eq.mp h₂))
          · exact hpo₀ h₂
        · exact hk₀ h₁
      · -- the new port rules all have a port
        rcases GobgpFlowspecLifecycle.mem_announceAll.mp hpo₁ with h₂ | h₂
        · exact hpo₀ h₂
        · obtain ⟨r, hr⟩ := ExtTreeMap.mem_iff_isSome_getElem?.mp h₂ |> Option.isSome_iff_exists.mp
          have hport := (GobgpFlowspecLifecycle.uniqueNewPortRules_spec hr).2.2.1
          simp [GobgpFlowspecRuleKey.isPortRule, GobgpFlowspecRuleKey.protocolOnly] at hport
  | _ => exact hkr

/-- **Port-rule cap.**  For every limit of at least one, in every state of every
interleaving in which BAN comes with a port only to victims without rules:
every victim and protocol has at most as many port rules, in whatever state,
as the limit says; and no step makes the rule for a whole protocol together
with new port rules of it. -/
theorem port_rule_cap (hmax : 1 ≤ config.maxPortRulesPerProtocol)
    (h : Reaches (flowspecMachine config).step BansPortsFirst flowspecStart w) :
    (∀ v p, w.shared.lifecycle.portRuleCount v p ≤ config.maxPortRulesPerProtocol.toNat) ∧
    ∀ e w', (flowspecMachine config).step w e = some w' →
      ∀ (v : UInt32) (p : IpProtocol) (k : GobgpFlowspecRuleKey), k.isPortRule v p = true →
        k ∉ w.shared.lifecycle.rules → k ∈ w'.shared.lifecycle.rules →
        .protocolOnly v p ∉ w.shared.lifecycle.rules →
        .protocolOnly v p ∉ w'.shared.lifecycle.rules := by
  have hcap := (Coherent.reaches
    (J := fun s _ => PortRulesWithin config.maxPortRulesPerProtocol.toNat s.lifecycle)
    (fun _ _ h => h) (fun hC hi _ hw he h => h.exec hmax
      (hw.wellFormed _ (Multiset.mem_cons_self _ _))
      (fun r hr => hC r (by simp [beginAnnounceCall, hi, hr])) he)
    h coherent_start ?_).2
  · refine ⟨hcap, fun e w' hs v p k hk hk₀ hk₁ hpo₀ => ?_⟩
    rcases Machine.step_cases hs with
      ⟨job, -, hsh, -⟩ | ⟨n, reply, i, new, forked, B, -, -, he, -, -⟩
    · rw [hsh] at hk₁
      exact absurd hk₁ hk₀
    · rcases FlowspecInstr.exec_lifecycle he with ⟨op, -, hl⟩ | ⟨-, hl⟩
      · rw [hl] at hk₁ ⊢
        exact not_both_reserved_apply op hk hk₀ hk₁ hpo₀
      · rw [hl] at hk₁
        exact absurd hk₁ hk₀
  · intro v p
    rw [portRuleCount_eq_zero rfl]
    exact Nat.zero_le _

/-- BAN with one port and a refresh that adds another fill the limit of two. -/
theorem port_rule_cap_filled :
    ∃ w : Pool FlowspecState FlowspecInstr, w.shared.lifecycle.portRuleCount 1 .UDP = 2 ∧
      ∀ v p, w.shared.lifecycle.portRuleCount v p ≤ 2 := by
  let config : GobgpFlowspecConfiguration := { maxPortRulesPerProtocol := 2 }
  obtain ⟨w, hw, hcount⟩ : ∃ w ∈ runEvents (restrictTo (flowspecMachine config).step
      BansPortsFirst) flowspecStart
      [.start (.banManage 1 false { attackProtocol := 17 } (some 53)), .run 0 .failed,
        .start (.refreshManage 1 [⟨.UDP, [some 80, some 53], fun _ => .inr rfl⟩]),
        .run 1 .failed, .run 2 .failed],
      w.shared.lifecycle.portRuleCount 1 .UDP = 2 := by decide
  have hreach := runs_restrictTo (runs_iff_runEvents.mpr hw)
  exact ⟨w, hcount, (port_rule_cap (show 1 ≤ config.maxPortRulesPerProtocol by decide) ⟨_, hreach⟩).1⟩

end FastNetMon
