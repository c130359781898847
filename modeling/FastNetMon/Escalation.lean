/-
FastNetMon/Escalation.lean

Make before break: while an escalation replaces the port rules of a protocol
by one rule for the whole protocol, the victim is never left uncovered.

Outside of a withdrawal of the whole victim, a port rule is on its way out
only if the rule for its protocol is installed.  This is an invariant of the
lifecycle under all operations, provided that cleanups are asked for with keys
of whole protocols (`EscalationCovered.apply`), which is how the workers call.

Main result: `escalation_make_before_break`, in every state of every
interleaving, together with what can start the withdrawal of a port rule and
what can lead to a cleanup.
-/
import Mathlib
import FastNetMon.WorkerInvariant

namespace FastNetMon

open Std

/-- The port rules of an unfenced victim are on their way out only under the
cover of the installed rule for their protocol. -/
def EscalationCovered (l : GobgpFlowspecLifecycle) : Prop :=
  ∀ (v : UInt32) (p : IpProtocol) (port : UInt16) (st : GobgpFlowspecRuleState),
    v ∉ l.victimsWithdrawRequested →
    l.rules[GobgpFlowspecRuleKey.portRule v p port]? = some st → st.leaving →
    ∃ st', l.rules[GobgpFlowspecRuleKey.protocolOnly v p]? = some st' ∧ st'.state = .installed

variable {l : GobgpFlowspecLifecycle} {v : UInt32} {p : IpProtocol} {port : UInt16}
  {k : GobgpFlowspecRuleKey} {op : LifecycleOp} {o o' : Option GobgpFlowspecRuleState}

/-! ### One operation -/

theorem RuleChange.leaving_before {st : GobgpFlowspecRuleState}
    (h : RuleChange op l k o (some st)) (hst : st.leaving) :
    op.withdraws l k ∨ ∃ st₀, o = some st₀ ∧ st₀.leaving := by
  generalize ho' : some st = o' at h
  cases h with
  | same => exact .inr ⟨st, ho'.symm, hst⟩
  | reserve r =>
      obtain rfl := Option.some.inj ho'
      rcases hst with hst | hst <;> cases hst
  | fail | erase => cases ho'
  | install =>
      obtain rfl := Option.some.inj ho'
      rcases hst with hst | hst <;> cases hst
  | lateWithdraw _ hs => exact .inr ⟨_, rfl, .inl hs⟩
  | startWithdraw st₀ hw => exact .inl hw
  | retry _ hs => exact .inr ⟨_, rfl, .inr hs⟩

theorem RuleChange.installed_after {st : GobgpFlowspecRuleState}
    (h : RuleChange op l k (some st) o') (hst : st.state = .installed) :
    op.withdraws l k ∨ o' = some st := by
  cases h with
  | same => exact .inr rfl
  | fail _ ha => rcases ha with ha | ⟨ha, -⟩ <;> rw [hst] at ha <;> cases ha
  | install _ hs | lateWithdraw _ hs | erase _ hs | retry _ hs =>
      rw [hst] at hs
      cases hs
  | startWithdraw st₀ hw => exact .inl hw

theorem isPortRule_portRule {u : UInt32} {q : IpProtocol} :
    (GobgpFlowspecRuleKey.portRule v p port).isPortRule u q = true ↔ v = u ∧ p = q := by
  simp [GobgpFlowspecRuleKey.isPortRule, GobgpFlowspecRuleKey.portRule]

theorem isPortRule_protocolOnly {u : UInt32} {q : IpProtocol} :
    (GobgpFlowspecRuleKey.protocolOnly v p).isPortRule u q = false := by
  simp [GobgpFlowspecRuleKey.isPortRule, GobgpFlowspecRuleKey.protocolOnly]

/-- A withdrawal of a victim with a rule leaves the victim fenced. -/
theorem fenced_of_beginWithdraw (hk : k ∈ l.rules) :
    k.destinationIpv4 ∈
      ((LifecycleOp.beginWithdrawForVictim k.destinationIpv4).apply l).2.victimsWithdrawRequested := by
  show k.destinationIpv4 ∈
    (l.beginWithdrawForVictim k.destinationIpv4).2.victimsWithdrawRequested
  rw [GobgpFlowspecLifecycle.mem_beginWithdrawForVictim, if_pos rfl]
  exact .inl (GobgpFlowspecLifecycle.victimHasRulesLocked_iff.mpr ⟨k, rfl, hk⟩)

/-- The installed rule for a protocol stays installed unless its victim is
withdrawn as a whole. -/
theorem installed_apply (op : LifecycleOp) {st : GobgpFlowspecRuleState}
    (hf : v ∉ (op.apply l).2.victimsWithdrawRequested)
    (hst : l.rules[GobgpFlowspecRuleKey.protocolOnly v p]? = some st)
    (hs : st.state = .installed) :
    (op.apply l).2.rules[GobgpFlowspecRuleKey.protocolOnly v p]? = some st := by
  have hchange := apply_ruleChange op l (.protocolOnly v p)
  rw [hst] at hchange
  rcases hchange.installed_after hs with hw | he
  · exfalso
    cases op with
    | beginWithdrawForVictim u =>
        obtain rfl : v = u := hw
        exact hf (fenced_of_beginWithdraw (k := .protocolOnly v p)
          (ExtTreeMap.mem_iff_isSome_getElem?.mpr (by rw [hst]; rfl)))
    | beginProtocolOnlyEscalationCleanup j =>
        have hport := hw.1
        rw [isPortRule_protocolOnly] at hport
        cases hport
    | _ => exact hw
  · exact he

/-- **One operation** keeps the cover. -/
theorem EscalationCovered.apply (h : EscalationCovered l) (op : LifecycleOp)
    (hop : ∀ j, op = .beginProtocolOnlyEscalationCleanup j → j.WholeProtocol) :
    EscalationCovered (op.apply l).2 := by
  intro v p port st hf hk hst
  have hf₀ : v ∉ l.victimsWithdrawRequested := by
    intro hf₀
    -- a fence does not fall while the victim has a rule
    have hno := (fence_dropped op hf₀ hf).1
    have hyes := GobgpFlowspecLifecycle.victimHasRulesLocked_iff.mpr
      ⟨.portRule v p port, rfl, ExtTreeMap.mem_iff_isSome_getElem?.mpr (by rw [hk]; rfl)⟩
    exact Bool.false_ne_true (hno.symm.trans hyes)
  have hchange := apply_ruleChange op l (.portRule v p port)
  rw [hk] at hchange
  rcases hchange.leaving_before hst with hw | ⟨st₀, hst₀, hl₀⟩
  · cases op with
    | beginWithdrawForVictim u =>
        obtain rfl : v = u := hw
        rcases ho : l.rules[GobgpFlowspecRuleKey.portRule v p port]? with - | st₀
        · rw [ho] at hchange
          cases hchange with
          | reserve => rcases hst with hst | hst <;> cases hst
        · exact absurd (fenced_of_beginWithdraw (k := .portRule v p port)
            (ExtTreeMap.mem_iff_isSome_getElem?.mpr (by rw [ho]; rfl))) hf
    | beginProtocolOnlyEscalationCleanup j =>
        obtain ⟨hport, -, st', hst', hs'⟩ := hw
        obtain ⟨hv, hp⟩ := isPortRule_portRule.mp hport
        have hj : j = .protocolOnly v p := by
          rw [hop j rfl, hv, hp]
        rw [hj] at hst'
        exact ⟨st', installed_apply _ hf hst' hs', hs'⟩
    | _ => exact hw.elim
  · obtain ⟨st', hst', hs'⟩ := h v p port st₀ hf₀ hst₀ hl₀
    exact ⟨st', installed_apply op hf hst' hs', hs'⟩

/-! ### The workers -/

variable {config : GobgpFlowspecConfiguration} {w w' : Pool FlowspecState FlowspecInstr}
  {i : FlowspecInstr} {reply : RpcReply} {s s' : FlowspecState} {new : List FlowspecInstr}
  {forked : List (List FlowspecInstr)} {B : Multiset FlowspecInstr}
  {token : GobgpFlowspecRuleKey → Option ByteString}

theorem EscalationCovered.exec (h : EscalationCovered s.lifecycle) (hi : i.WellFormed config)
    (he : i.exec config reply s = some (s', new, forked)) : EscalationCovered s'.lifecycle := by
  rcases FlowspecInstr.exec_lifecycle he with ⟨op, hop, hl⟩ | ⟨-, hl⟩
  · rw [hl]
    refine h.apply op fun j hj => ?_
    subst hj
    cases i with
    | beginProtocolOnlyEscalationCleanup k =>
        obtain rfl : k = j := by simpa [FlowspecInstr.op?] using hop
        exact hi
    | _ => simp [FlowspecInstr.op?] at hop
  · rwa [hl]

theorem FlowspecReachable.escalationCovered (h : FlowspecReachable config w) :
    EscalationCovered w.shared.lifecycle := by
  refine (Coherent.reaches (J := fun s _ => EscalationCovered s.lifecycle) (fun _ _ h => h)
    (fun _ _ _ hw he h => h.exec (hw.wellFormed _ (Multiset.mem_cons_self _ _)) he) h
    coherent_start ?_).2
  intro v p port st _ hk
  simp [flowspecStart] at hk

/-- The rule of `k` was not on its way out in `l` and is in `l'`. -/
def StartsToLeave (l l' : GobgpFlowspecLifecycle) (k : GobgpFlowspecRuleKey) : Prop :=
  (∃ st, l.rules[k]? = some st ∧ ¬ st.leaving) ∧ ∃ st, l'.rules[k]? = some st ∧ st.leaving

/-- What can start the withdrawal of a port rule: UNBAN, or a cleanup under the
installed rule for its protocol. -/
theorem startsToLeave_exec (hi : i.WellFormed config)
    (he : i.exec config reply s = some (s', new, forked))
    (hl : StartsToLeave s.lifecycle s'.lifecycle (.portRule v p port)) :
    i = .beginWithdrawForVictim v ∨
      (i = .beginProtocolOnlyEscalationCleanup (.protocolOnly v p) ∧
        v ∉ s.lifecycle.victimsWithdrawRequested ∧
        ∃ st, s.lifecycle.rules[GobgpFlowspecRuleKey.protocolOnly v p]? = some st ∧
          st.state = .installed) := by
  obtain ⟨⟨st, hst, hno⟩, st', hst', hl'⟩ := hl
  rcases FlowspecInstr.exec_lifecycle he with ⟨op, hop, hlc⟩ | ⟨-, hlc⟩
  · have hchange := apply_ruleChange op s.lifecycle (.portRule v p port)
    rw [← hlc, hst, hst'] at hchange
    rcases hchange.leaving_before hl' with hw | ⟨st₀, hst₀, hl₀⟩
    · cases i with
      | beginWithdrawForVictim u =>
          obtain rfl := Option.some.inj hop
          obtain rfl : v = u := hw
          exact .inl rfl
      | beginProtocolOnlyEscalationCleanup j =>
          obtain rfl := Option.some.inj hop
          obtain ⟨hport, hf, st₁, hst₁, hs₁⟩ := hw
          obtain ⟨hv, hp⟩ := isPortRule_portRule.mp hport
          have hj : j = .protocolOnly v p := by
            rw [hi, hv, hp]
          subst hj
          exact .inr ⟨rfl, hf, st₁, hst₁, hs₁⟩
      | addPath | deletePath | refreshManage => cases hop
      | _ =>
          obtain rfl := Option.some.inj hop
          exact hw.elim
    · obtain rfl := Option.some.inj hst₀
      exact absurd hl₀ hno
  · rw [hlc, hst] at hst'
    obtain rfl := Option.some.inj hst'
    exact absurd hl' hno

/-- What can lead to a cleanup: the completion of the AddPath of an escalation
that installs the rule, for a victim that is not fenced. -/
theorem cleanup_of_successor (hf : FencedWithdraws s.lifecycle)
    (he : i.exec config reply s = some (s', new, forked))
    (hs : FlowspecInstr.Successor config s.lifecycle i (.beginProtocolOnlyEscalationCleanup k)) :
    ∃ r uuid, i = .completeAnnounce r uuid true ∧ r.ruleKey = k ∧
      k.destinationIpv4 ∉ s.lifecycle.victimsWithdrawRequested ∧
      ∃ st, s'.lifecycle.rules[k]? = some st ∧ st.state = .installed := by
  generalize hj : FlowspecInstr.beginProtocolOnlyEscalationCleanup k = j at hs
  cases hs with
  | cleanup r uuid hc =>
      obtain rfl : k = r.ruleKey := by simpa using hj
      have hlc : s'.lifecycle = (s.lifecycle.completeAnnounce r.ruleKey uuid).2 :=
        congrArg FlowspecState.lifecycle (Prod.mk.inj (Option.some.inj he)).1.symm
      refine ⟨r, uuid, rfl, rfl, ?_⟩
      rcases s.lifecycle.completeAnnounce_cases r.ruleKey uuid with
        ⟨hca, -⟩ | ⟨st, hst, -, hs, hca⟩ | ⟨st, -, -, -, -, hca⟩
      · rw [hca] at hc
        cases hc
      · refine ⟨fun hfen => ?_, by simp [hlc, hca]⟩
        -- a rule that is still announcing has no fence above it
        rcases hf _ _ hfen hst with hl | hl <;> rw [hs] at hl <;> cases hl
      · rw [hca] at hc
        cases hc
  | refresh hmem =>
      rcases mem_refreshThread hmem with h | ⟨r, h, -⟩ | ⟨po, reqs, h, -⟩ <;>
        rw [← hj] at h <;> cases h
  | announce | refreshAnnounce | escalate | addPort | fail | complete | lateDelete |
    cleanupDelete | withdrawDelete | deleted | refreshSkipped => cases hj

/-- **Make before break.**  In every state of every interleaving: a port rule of
a victim that is not fenced is on its way out only if the rule for its
protocol is installed.  Moreover, in every step, the withdrawal of a port rule
is started by UNBAN, or by a cleanup while the victim is not fenced and the
rule for the protocol is installed; and a cleanup is only brought about by a
`complete_announce` that installs the rule of a victim that is not fenced, so
not by an AddPath that fails or that completes after UNBAN has begun. -/
theorem escalation_make_before_break (h : FlowspecReachable config w) :
    (∀ (v : UInt32) (p : IpProtocol) (port : UInt16) (st : GobgpFlowspecRuleState),
      v ∉ w.shared.lifecycle.victimsWithdrawRequested → p = .TCP ∨ p = .UDP →
      w.shared.lifecycle.rules[GobgpFlowspecRuleKey.portRule v p port]? = some st →
      st.state = .withdrawRequested ∨ st.state = .withdrawing →
      ∃ st', w.shared.lifecycle.rules[GobgpFlowspecRuleKey.protocolOnly v p]? = some st' ∧
        st'.state = .installed) ∧
    ∀ e w', (flowspecMachine config).step w e = some w' →
      (∀ v p port, StartsToLeave w.shared.lifecycle w'.shared.lifecycle (.portRule v p port) →
        ∃ n reply, e = .run n reply ∧ (w.next n = some (.beginWithdrawForVictim v) ∨
          (w.next n = some (.beginProtocolOnlyEscalationCleanup (.protocolOnly v p)) ∧
            v ∉ w.shared.lifecycle.victimsWithdrawRequested ∧
            ∃ st, w.shared.lifecycle.rules[GobgpFlowspecRuleKey.protocolOnly v p]? = some st ∧
              st.state = .installed))) ∧
      ∀ k, .beginProtocolOnlyEscalationCleanup k ∈ w'.pending →
        .beginProtocolOnlyEscalationCleanup k ∈ w.pending ∨
        ∃ n reply r uuid, e = .run n reply ∧ w.next n = some (.completeAnnounce r uuid true) ∧
          r.ruleKey = k ∧ k.destinationIpv4 ∉ w.shared.lifecycle.victimsWithdrawRequested ∧
          ∃ st, w'.shared.lifecycle.rules[k]? = some st ∧ st.state = .installed := by
  obtain ⟨token, hw⟩ := h.coherent
  refine ⟨fun v p port st hf _ hk hst => h.escalationCovered v p port st hf hk hst,
    fun e w' hs => ?_⟩
  rcases Machine.step_cases hs with
    ⟨job, rfl, hsh, hp⟩ | ⟨n, reply, i, new, forked, B, rfl, hi, he, hp, hp'⟩
  · refine ⟨fun v p port hl => ?_, fun k hk => ?_⟩
    · obtain ⟨⟨st, hst, hno⟩, st', hst', hl'⟩ := hl
      rw [hsh, hst] at hst'
      obtain rfl := Option.some.inj hst'
      exact absurd hl' hno
    · rw [hp] at hk
      rcases Multiset.mem_add.mp hk with hk | hk
      · exact .inl hk
      · rcases mem_program (Multiset.mem_coe.mp hk) with ⟨r, h, -⟩ | ⟨v, h⟩ | ⟨v, results, h⟩ |
          ⟨v, h⟩ | ⟨v, h⟩ <;> cases h
  · refine ⟨fun v p port hl => ⟨n, reply, rfl, ?_⟩, fun k hk => ?_⟩
    · have hwf := hw.wellFormed i (by rw [hp]; exact Multiset.mem_cons_self _ _)
      rcases startsToLeave_exec hwf he hl with rfl | ⟨rfl, hcase⟩
      · exact .inl hi
      · exact .inr ⟨hi, hcase⟩
    · rw [hp'] at hk
      rcases Multiset.mem_add.mp hk with hk | hk
      · obtain ⟨r, uuid, rfl, hr, hcase⟩ :=
          cleanup_of_successor hw.fenced he (FlowspecInstr.exec_successor he hk)
        exact .inr ⟨n, reply, r, uuid, rfl, hi, hr, hcase⟩
      · rw [hp]
        exact .inl (Multiset.mem_cons_of_mem hk)

/-- With room for one port rule, a refresh that finds a second port escalates;
its cleanup has begun, and the port rule is being withdrawn. -/
theorem escalation_covers_second_port :
    ∃ (w : Pool FlowspecState FlowspecInstr) (st st' : GobgpFlowspecRuleState),
      w.shared.lifecycle.rules[GobgpFlowspecRuleKey.portRule 1 .UDP 53]? = some st ∧
      st.state = .withdrawing ∧
      w.shared.lifecycle.rules[GobgpFlowspecRuleKey.protocolOnly 1 .UDP]? = some st' ∧
      st'.state = .installed := by
  obtain ⟨w, hw, hf, hport⟩ := exists_reachable_of_runEvents { maxPortRulesPerProtocol := 1 }
    (P := fun w => (1 : UInt32) ∉ w.shared.lifecycle.victimsWithdrawRequested ∧
      ∃ st ∈ w.shared.lifecycle.rules[GobgpFlowspecRuleKey.portRule 1 .UDP 53]?,
        st.state = .withdrawing)
    [.start (.banManage 1 false { attackProtocol := 17 } (some 53)), .run 0 .failed,
      .run 0 (.ok [1]), .run 0 .failed,
      .start (.refreshManage 1 [⟨.UDP, [some 80], fun _ => .inr rfl⟩]), .run 1 .failed,
      .run 2 .failed, .run 2 (.ok [2]), .run 2 .failed, .run 2 .failed] (by decide)
  obtain ⟨st, hst, hs⟩ := hport
  obtain ⟨st', hst', hs'⟩ :=
    (escalation_make_before_break hw).1 1 .UDP 53 st hf (.inr rfl) hst (.inr hs)
  exact ⟨w, st, st', hst, hs, hst', hs'⟩

end FastNetMon
