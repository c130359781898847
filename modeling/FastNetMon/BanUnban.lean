/-
FastNetMon/BanUnban.lean

A BAN beside an UNBAN of the same victim.

`begin_announce` refuses a victim whose withdrawal is not finished, and the
BAN worker treats the refusal as "already active".  So whether the BAN takes
effect depends on where its first call falls among the steps of the UNBAN
worker.  Take both workers in any interleaving, all RPCs succeeding, from any
state that workers can leave behind.  The BAN takes effect if and only if its
`begin_announce` comes after the `begin_withdraw_for_victim` of the UNBAN and
finds the fence down (`ban_beside_unban_iff`).

The proof follows the bag of pending instructions: until the UNBAN has begun,
after it with the BAN still to come, and then either the victim drains (the
BAN is lost) or its rule is on its way in (the BAN is won).
-/
import Mathlib
import FastNetMon.Unban

namespace FastNetMon

open Std

variable {config : GobgpFlowspecConfiguration} {w w₀ w₂ : Pool FlowspecState FlowspecInstr}
  {i : FlowspecInstr} {reply : RpcReply} {s s' : FlowspecState} {new : List FlowspecInstr}
  {forked : List (List FlowspecInstr)} {B D : Multiset FlowspecInstr}
  {token : GobgpFlowspecRuleKey → Option ByteString} {v : UInt32}
  {r : GobgpFlowspecAnnounceRequest}

/-! ### Workers whose RPCs succeed -/

/-- The instruction calls GoBGP. -/
def FlowspecInstr.isRpc : FlowspecInstr → Bool
  | .addPath _ _ | .deletePath _ => true
  | _ => false

/-- No new worker, and no RPC that fails. -/
def RpcsSucceed (w : Pool FlowspecState FlowspecInstr) :
    PoolEvent FlowspecJob RpcReply → Prop
  | .start _ => False
  | .run n reply => (w.next n).any FlowspecInstr.isRpc = true → reply ≠ .failed

instance (w : Pool FlowspecState FlowspecInstr) (e : PoolEvent FlowspecJob RpcReply) :
    Decidable (RpcsSucceed w e) :=
  match e with
  | .start _ => isFalse id
  | .run n reply =>
      inferInstanceAs (Decidable ((w.next n).any FlowspecInstr.isRpc = true → reply ≠ .failed))

/-- What a BAN or UNBAN worker has still to do after its first call, if its
RPCs succeed. -/
def FlowspecInstr.Following : FlowspecInstr → Prop
  | .addPath _ cleanup => cleanup = false
  | .completeAnnounce _ _ cleanup => cleanup = false
  | .deletePath _ => True
  | .completeWithdraw _ success => success = true
  | _ => False

theorem FlowspecInstr.Following.exec (hi : i.Following)
    (hr : i.isRpc = true → reply ≠ .failed)
    (he : i.exec config reply s = some (s', new, forked)) :
    ∀ j ∈ (new : Multiset FlowspecInstr) + (forked.flatten : Multiset FlowspecInstr),
      j.Following := by
  intro j hj
  cases i with
  | addPath r cleanup =>
      obtain ⟨t, -, heq⟩ := Option.map_eq_some_iff.mp he
      obtain ⟨-, hnew⟩ := Prod.mk.inj heq
      obtain ⟨rfl, rfl⟩ := Prod.mk.inj hnew
      obtain rfl := by simpa using hj
      cases reply with
      | failed => exact absurd rfl (hr rfl)
      | ok uuid =>
          rcases hu : uuid with - | ⟨b, bs⟩
          · subst hu
            simp [FlowspecInstr.exec, FlowspecState.announceFlowSpecIPv4] at he
          · exact hi
  | completeAnnounce r uuid cleanup =>
      obtain rfl : cleanup = false := hi
      cases FlowspecInstr.exec_successor he hj with
      | lateDelete => trivial
  | deletePath w =>
      obtain ⟨-, hnew⟩ := Prod.mk.inj (Option.some.inj he)
      obtain ⟨rfl, rfl⟩ := Prod.mk.inj hnew
      obtain rfl := by simpa using hj
      simpa [FlowspecInstr.Following] using hr rfl
  | completeWithdraw w success => cases FlowspecInstr.exec_successor he hj
  | _ => exact hi.elim

/-- The calls that follow neither reserve a rule nor begin a withdrawal or a capture. -/
theorem FlowspecInstr.Following.lifecycle (hi : i.Following)
    (he : i.exec config reply s = some (s', new, forked)) :
    s'.lifecycle = s.lifecycle ∨
      (∃ k uuid, s'.lifecycle = ((LifecycleOp.completeAnnounce k uuid).apply s.lifecycle).2) ∨
      ∃ k uuid, s'.lifecycle = ((LifecycleOp.completeWithdraw k uuid true).apply s.lifecycle).2 := by
  rcases FlowspecInstr.exec_lifecycle he with ⟨op, hop, hl⟩ | ⟨-, hl⟩
  · cases i with
    | completeAnnounce r uuid cleanup =>
        obtain rfl := Option.some.inj hop
        exact .inr (.inl ⟨_, _, hl⟩)
    | completeWithdraw w success =>
        obtain rfl : success = true := hi
        obtain rfl := Option.some.inj hop
        exact .inr (.inr ⟨_, _, hl⟩)
    | addPath | deletePath => cases hop
    | _ => exact hi.elim
  · exact .inl hl

/-! ### The BAN is lost -/

/-- The victim drains or is drained. -/
def Withdrawn (s : FlowspecState) (v : UInt32) : Prop :=
  Draining s.lifecycle v ∨ Drained s.lifecycle v

theorem Withdrawn.exec (h : Withdrawn s v) (hu : UuidsMatch s.lifecycle) (hi : i.Following)
    (he : i.exec config reply s = some (s', new, forked)) : Withdrawn s' v := by
  unfold Withdrawn
  rcases hi.lifecycle he with hl | ⟨k, uuid, hl⟩ | ⟨k, uuid, hl⟩ <;> rw [hl]
  · exact h
  · rcases h with h | h
    · exact h.apply hu (by simp)
    · exact .inr (h.apply (fun _ _ hr => hr) (by simp) (by simp))
  · rcases h with h | h
    · exact h.apply hu (by simp)
    · exact .inr (h.apply (fun _ _ hr => hr) (by simp) (by simp))

/-- UNBAN has not begun and BAN has, or UNBAN has begun and nothing can be
announced any more. -/
def BanLost (v : UInt32) (s : FlowspecState) (B : Multiset FlowspecInstr) : Prop :=
  (∃ D, B = .beginWithdrawForVictim v ::ₘ D ∧ ∀ i ∈ D, i.Following) ∨
    (Withdrawn s v ∧ ∀ i ∈ B, i.Following)

theorem following_add (hnew : ∀ i ∈ D, i.Following) (hB : ∀ i ∈ B, i.Following) :
    ∀ i ∈ D + B, i.Following := by
  intro i hi
  rcases Multiset.mem_add.mp hi with hi | hi
  · exact hnew i hi
  · exact hB i hi

/-- The first step of UNBAN. -/
theorem beginWithdraw_exec (hu : UuidsMatch s.lifecycle)
    (he : (FlowspecInstr.beginWithdrawForVictim v).exec config reply s
      = some (s', new, forked)) :
    Withdrawn s' v ∧
      ∀ j ∈ (new : Multiset FlowspecInstr) + (forked.flatten : Multiset FlowspecInstr),
        j.Following := by
  refine ⟨?_, fun j hj => ?_⟩
  · obtain ⟨rfl, -⟩ := Prod.mk.inj (Option.some.inj he)
    exact draining_beginWithdraw hu
  · cases FlowspecInstr.exec_successor he hj with
    | withdrawDelete => trivial

theorem BanLost.exec (h : BanLost v s (i ::ₘ B)) (hu : UuidsMatch s.lifecycle)
    (hr : i.isRpc = true → reply ≠ .failed)
    (he : i.exec config reply s = some (s', new, forked)) :
    BanLost v s' ((new : Multiset FlowspecInstr) + (forked.flatten : Multiset FlowspecInstr) + B) := by
  rcases h with ⟨D, hB, hD⟩ | ⟨hw, hB⟩
  · rcases Multiset.cons_eq_cons.mp hB with ⟨rfl, rfl⟩ | ⟨-, D', rfl, rfl⟩
    · obtain ⟨hw, hnew⟩ := beginWithdraw_exec hu he
      exact .inr ⟨hw, following_add hnew hD⟩
    · have hi := hD i (Multiset.mem_cons_self _ _)
      refine .inl ⟨_, Multiset.add_cons _ _ _, following_add (hi.exec hr he) fun j hj => ?_⟩
      exact hD j (Multiset.mem_cons_of_mem hj)
  · have hi := hB i (Multiset.mem_cons_self _ _)
    refine .inr ⟨hw.exec hu hi he, following_add (hi.exec hr he) fun j hj => ?_⟩
    exact hB j (Multiset.mem_cons_of_mem hj)

/-! ### The BAN is won -/

/-- The rule of the BAN is being announced or installed, and nobody withdraws it. -/
def BanWon (r : GobgpFlowspecAnnounceRequest) (s : FlowspecState)
    (B : Multiset FlowspecInstr) : Prop :=
  (∀ i ∈ B, i.Following) ∧
    ∃ st, s.lifecycle.rules[r.ruleKey]? = some st ∧
      (st.state = .announcing ∨ st.state = .installed)

/-- A rule that is announced or installed stays so unless it is withdrawn or
its AddPath fails. -/
theorem announced_apply {l : GobgpFlowspecLifecycle} {k : GobgpFlowspecRuleKey}
    (op : LifecycleOp) (hfail : op ≠ .failAnnounce k) (hw : ¬ op.withdraws l k)
    {st : GobgpFlowspecRuleState} (hst : l.rules[k]? = some st)
    (hs : st.state = .announcing ∨ st.state = .installed) :
    ∃ st', (op.apply l).2.rules[k]? = some st' ∧
      (st'.state = .announcing ∨ st'.state = .installed) := by
  have hchange := apply_ruleChange op l k
  rw [hst] at hchange
  generalize (op.apply l).2.rules[k]? = o at hchange
  cases hchange with
  | same => exact ⟨st, rfl, hs⟩
  | fail ho => exact absurd ho hfail
  | install => exact ⟨_, rfl, .inr rfl⟩
  | startWithdraw _ hw' => exact absurd hw' hw
  | lateWithdraw _ hs' | erase _ hs' | retry _ hs' =>
      rcases hs with hs | hs <;> rw [hs'] at hs <;> cases hs

theorem BanWon.exec (h : BanWon r s (i ::ₘ B)) (hr : i.isRpc = true → reply ≠ .failed)
    (he : i.exec config reply s = some (s', new, forked)) :
    BanWon r s' ((new : Multiset FlowspecInstr) + (forked.flatten : Multiset FlowspecInstr) + B) := by
  obtain ⟨hB, st, hst, hs⟩ := h
  have hi := hB i (Multiset.mem_cons_self _ _)
  refine ⟨following_add (hi.exec hr he) fun j hj => hB j (Multiset.mem_cons_of_mem hj), ?_⟩
  rcases hi.lifecycle he with hl | ⟨k, uuid, hl⟩ | ⟨k, uuid, hl⟩ <;> rw [hl]
  · exact ⟨st, hst, hs⟩
  · exact announced_apply _ (by simp) id hst hs
  · exact announced_apply _ (by simp) id hst hs

/-! ### Until the BAN begins -/

/-- The BAN is to begin, before or after the UNBAN. -/
def BanPending (v : UInt32) (r : GobgpFlowspecAnnounceRequest) (s : FlowspecState)
    (B : Multiset FlowspecInstr) : Prop :=
  ∃ D, B = .beginAnnounce r ::ₘ D ∧
    ((∃ D', D = .beginWithdrawForVictim v ::ₘ D' ∧ ∀ i ∈ D', i.Following) ∨
      (Withdrawn s v ∧ ∀ i ∈ D, i.Following))

theorem beginAnnounce_not_successor {l : GobgpFlowspecLifecycle}
    (h : FlowspecInstr.Successor config l i (.beginAnnounce r)) : False := by
  generalize hj : FlowspecInstr.beginAnnounce r = j at h
  cases h with
  | refresh hmem =>
      rcases mem_refreshThread hmem with h | ⟨r, h, -⟩ | ⟨po, reqs, h, -⟩ <;>
        rw [← hj] at h <;> cases h
  | announce | refreshAnnounce | escalate | addPort | fail | complete | cleanup | lateDelete |
    cleanupDelete | withdrawDelete | deleted | refreshSkipped => cases hj

/-- While the BAN is pending, everything else is what `BanLost` describes. -/
theorem banPending_iff {B : Multiset FlowspecInstr} :
    BanPending v r s (.beginAnnounce r ::ₘ B) ↔ BanLost v s B := by
  constructor
  · rintro ⟨D, hD, h⟩
    obtain rfl := (Multiset.cons_inj_right _).mp hD
    exact h
  · intro h
    exact ⟨B, rfl, h⟩

theorem not_mem_of_banLost (h : BanLost v s B) : .beginAnnounce r ∉ B := by
  intro hmem
  rcases h with ⟨D, rfl, hD⟩ | ⟨-, hB⟩
  · rcases Multiset.mem_cons.mp hmem with h | h
    · cases h
    · exact hD _ h
  · exact hB _ hmem

theorem banPending_exec (h : BanPending v r s (i ::ₘ B) ∨ .beginAnnounce r ∉ i ::ₘ B)
    (hu : UuidsMatch s.lifecycle) (hr : i.isRpc = true → reply ≠ .failed)
    (he : i.exec config reply s = some (s', new, forked)) :
    BanPending v r s' ((new : Multiset FlowspecInstr) + (forked.flatten : Multiset FlowspecInstr) + B) ∨
      .beginAnnounce r ∉
        (new : Multiset FlowspecInstr) + (forked.flatten : Multiset FlowspecInstr) + B := by
  have hnew : .beginAnnounce r ∉
      (new : Multiset FlowspecInstr) + (forked.flatten : Multiset FlowspecInstr) :=
    fun hmem => beginAnnounce_not_successor (FlowspecInstr.exec_successor he hmem)
  rcases h with ⟨D, hB, hD⟩ | hno
  · rcases Multiset.cons_eq_cons.mp hB with ⟨rfl, rfl⟩ | ⟨-, D', rfl, rfl⟩
    · refine .inr fun hmem => ?_
      rcases Multiset.mem_add.mp hmem with hmem | hmem
      · exact hnew hmem
      · exact not_mem_of_banLost hD hmem
    · -- another instruction runs: the rest is lost as before
      left
      rw [Multiset.add_cons, banPending_iff]
      exact BanLost.exec hD hu hr he
  · refine .inr fun hmem => ?_
    rcases Multiset.mem_add.mp hmem with hmem | hmem
    · exact hnew hmem
    · exact hno (Multiset.mem_cons_of_mem hmem)

/-! ### The two workers -/

/-- The first step of the BAN decides: it is won if the UNBAN has begun and the
fence is down, and lost otherwise. -/
theorem beginAnnounce_exec (h : BanLost v s B) (hk : r.ruleKey.destinationIpv4 = v)
    (he : (FlowspecInstr.beginAnnounce r).exec config reply s = some (s', new, forked)) :
    if .beginWithdrawForVictim v ∉ B ∧ v ∉ s.lifecycle.victimsWithdrawRequested then
      BanWon r s' ((new : Multiset FlowspecInstr) + (forked.flatten : Multiset FlowspecInstr) + B)
    else
      BanLost v s' ((new : Multiset FlowspecInstr) + (forked.flatten : Multiset FlowspecInstr) + B) := by
  have hnew : ∀ j ∈ (new : Multiset FlowspecInstr) + (forked.flatten : Multiset FlowspecInstr),
      j.Following := by
    intro j hj
    cases FlowspecInstr.exec_successor he hj with
    | announce => rfl
  rcases h with ⟨D, rfl, hD⟩ | ⟨hw, hB⟩
  · rw [if_neg (by simp)]
    exact .inl ⟨_, Multiset.add_cons _ _ _, following_add hnew hD⟩
  · have hnot : FlowspecInstr.beginWithdrawForVictim v ∉ B := fun hmem => hB _ hmem
    have hl : s'.lifecycle = (s.lifecycle.beginAnnounce r.ruleKey r.flowSpecRule).2 :=
      congrArg FlowspecState.lifecycle (Prod.mk.inj (Option.some.inj he)).1.symm
    by_cases hf : v ∈ s.lifecycle.victimsWithdrawRequested
    · rw [if_neg (fun h => h.2 hf)]
      have hrefuse : s.lifecycle.beginAnnounce r.ruleKey r.flowSpecRule = (false, s.lifecycle) :=
        if_pos (hk ▸ hf)
      rw [hrefuse] at hl
      refine .inr ⟨?_, following_add hnew hB⟩
      unfold Withdrawn
      rwa [hl]
    · rw [if_pos ⟨hnot, hf⟩]
      refine ⟨following_add hnew hB, announcingRule r.flowSpecRule, ?_, .inl rfl⟩
      have hdone : Drained s.lifecycle v := hw.resolve_left fun hd => hf hd.1
      have hfree := Coherent.rules_eq_none hdone.2.1 hk
      rcases s.lifecycle.reserveRule_cases r.ruleKey r.flowSpecRule with hno | ⟨-, -, hyes⟩
      · have hacc := beginAnnounce_accepted hdone hk r.flowSpecRule
        rw [show s.lifecycle.beginAnnounce r.ruleKey r.flowSpecRule = (false, s.lifecycle)
          from hno] at hacc
        cases hacc
      · rw [hl, show s.lifecycle.beginAnnounce r.ruleKey r.flowSpecRule = _ from hyes]
        show (s.lifecycle.rules.insertIfNew r.ruleKey _)[r.ruleKey]? = _
        rw [ExtTreeMap.getElem?_insertIfNew]
        have hmem : r.ruleKey ∉ s.lifecycle.rules := by simpa using hfree
        simp [hmem]

/-- GoBGP holds a path for the key, and the lifecycle has it as installed. -/
def TookEffect (s : FlowspecState) (k : GobgpFlowspecRuleKey) : Prop :=
  (∃ q ∈ s.paths, buildGobgpFlowspecRuleKey q.flowSpecRule = some k) ∧
    ∃ st, s.lifecycle.rules[k]? = some st ∧ st.state = .installed

theorem not_tookEffect_of_banLost (h : Coherent config s 0 token) (hl : BanLost v s 0)
    (hk : r.ruleKey.destinationIpv4 = v) : ¬ TookEffect s r.ruleKey := by
  rintro ⟨-, st, hst, -⟩
  rcases hl with ⟨D, hD, -⟩ | ⟨hd | hd, -⟩
  · exact Multiset.zero_ne_cons hD
  · obtain ⟨i, hi, -⟩ := h.pending_of_draining hd hk
      (ExtTreeMap.mem_iff_isSome_getElem?.mpr (by rw [hst]; rfl))
    simp at hi
  · rw [Coherent.rules_eq_none hd.2.1 hk] at hst
    cases hst

theorem tookEffect_of_banWon (h : Coherent config s 0 token) (hw : BanWon r s 0) :
    TookEffect s r.ruleKey := by
  obtain ⟨-, st, hst, hs⟩ := hw
  have hinst : st.state = .installed := by
    have hphase := h.phase r.ruleKey
    rw [hst, pendingAt_zero] at hphase
    generalize hb : (0 : Multiset FlowspecInstr) = b, s.pathsAt r.ruleKey = P,
      token r.ruleKey = t at hphase
    cases hphase with
    | held hs' =>
        rcases hs with hs | hs
        · rcases hs' with hs' | hs' <;> rw [hs] at hs' <;> cases hs'
        · exact hs
    | adding | failing | completing | deleting | deleteFailed | deleted => simp at hb
  exact ⟨⟨_, h.installed_mem_paths hst hinst, h.keyed _ st hst⟩, st, hst, hinst⟩

/-- A run of the two workers after the point at which the BAN begins. -/
theorem reaches_of_banLost {u : Pool FlowspecState FlowspecInstr}
    (hu : ∃ token, Coherent config u.shared u.pending token)
    (hl : BanLost v u.shared u.pending)
    (hrun : Reaches (flowspecMachine config).step RpcsSucceed u w₂) :
    BanLost v w₂.shared w₂.pending :=
  (Coherent.reaches (J := BanLost v) (fun _ hC _ => hC.elim)
    (fun hC hi _ hco he h => h.exec hco.uuidsMatch
      (fun hr => hC (by rw [hi]; exact hr)) he) hrun hu hl).2

theorem reaches_of_banWon {u : Pool FlowspecState FlowspecInstr}
    (hu : ∃ token, Coherent config u.shared u.pending token)
    (hw : BanWon r u.shared u.pending)
    (hrun : Reaches (flowspecMachine config).step RpcsSucceed u w₂) :
    BanWon r w₂.shared w₂.pending :=
  (Coherent.reaches (J := BanWon r) (fun _ hC _ => hC.elim)
    (fun hC hi _ _ he h => h.exec (fun hr => hC (by rw [hi]; exact hr)) he) hrun hu hw).2

/-- The two workers, just started. -/
theorem banPending_start {attack attack' : AttackDetails} {port port' : Option UInt16}
    (hidle : w.pending = 0)
    (hprog : gobgpBanManageIpv4 config v false attack port = [.beginAnnounce r])
    (hstart : Runs (flowspecMachine config).step Always w
      [.start (.banManage v true attack' port'), .start (.banManage v false attack port)] w₀) :
    w₀.pending = .beginAnnounce r ::ₘ {.beginWithdrawForVictim v} := by
  have hflow : config.gobgpFlowspec = true := by
    rcases h : config.gobgpFlowspec with - | -
    · simp [gobgpBanManageIpv4, h] at hprog
    · rfl
  have hunban : gobgpBanManageIpv4 config v true attack' port' = [.beginWithdrawForVictim v] := by
    simp [gobgpBanManageIpv4, gobgpBanManageFlowspecIpv4, hflow]
  cases hstart with
  | head _ h₁ hrest =>
      cases hrest with
      | head _ h₂ hnil =>
          cases hnil
          obtain ⟨-, hp₁⟩ := Machine.step_start h₁
          obtain ⟨-, hp₂⟩ := Machine.step_start h₂
          rw [hp₂, hp₁, hidle, zero_add]
          show (gobgpBanManageIpv4 config v true attack' port' : Multiset FlowspecInstr)
            + (gobgpBanManageIpv4 config v false attack port : Multiset FlowspecInstr) = _
          rw [hunban, hprog]
          exact Multiset.add_comm _ _

/-- **A BAN beside an UNBAN.**  In every interleaving of an UNBAN worker and a
BAN worker for the same victim that starts in a state left behind by any
workers and in which every RPC succeeds: when both have finished, the rule of
the BAN is installed and its path is in GoBGP if and only if its
`begin_announce` came after `begin_withdraw_for_victim` and found the fence
down.  Under the fence it is refused and inserts nothing. -/
theorem ban_beside_unban_iff {attack attack' : AttackDetails} {port port' : Option UInt16}
    {es : List (PoolEvent FlowspecJob RpcReply)}
    (hw : FlowspecReachable config w) (hidle : w.pending = 0)
    (hprog : gobgpBanManageIpv4 config v false attack port = [.beginAnnounce r])
    (hstart : Runs (flowspecMachine config).step Always w
      [.start (.banManage v true attack' port'), .start (.banManage v false attack port)] w₀)
    (hrun : Runs (flowspecMachine config).step RpcsSucceed w₀ es w₂) (hdone : w₂.pending = 0) :
    ∃ es₁ n reply es₂ u, es = es₁ ++ .run n reply :: es₂ ∧
      Runs (flowspecMachine config).step RpcsSucceed w₀ es₁ u ∧
      u.next n = some (.beginAnnounce r) ∧
      (v ∈ u.shared.lifecycle.victimsWithdrawRequested →
        u.shared.lifecycle.beginAnnounce r.ruleKey r.flowSpecRule
          = (false, u.shared.lifecycle)) ∧
      (TookEffect w₂.shared r.ruleKey ↔
        .beginWithdrawForVictim v ∉ u.pending ∧
          v ∉ u.shared.lifecycle.victimsWithdrawRequested) := by
  have hk : r.ruleKey.destinationIpv4 = v := by
    rcases gobgpBanManageIpv4_cases config v false attack port with
      h | ⟨h, -⟩ | ⟨r', -, -, hkey, h⟩
    · rw [h] at hprog
      cases hprog
    · cases h
    · rw [h] at hprog
      obtain rfl : r' = r := by simpa using hprog
      rw [hkey]
      exact builtRuleKey_destinationIpv4 _ _ _
  have hp₀ := banPending_start hidle hprog hstart
  have hreach₀ : FlowspecReachable config w₀ := by
    obtain ⟨es₀, hw⟩ := hw
    exact ⟨_, hw.append hstart⟩
  obtain ⟨es₁, n, reply, es₂, u, u', rfl, hrun₁, hnext, hC, hstep, hrun₂⟩ :=
    Machine.exists_run_of_mem (i := .beginAnnounce r) hrun (by simp [hp₀]) (by simp [hdone])
  refine ⟨es₁, n, reply, es₂, u, rfl, hrun₁, hnext, fun hf => if_pos (hk ▸ hf), ?_⟩
  -- up to the first step of the BAN
  obtain ⟨⟨token, hco⟩, hpend⟩ := Coherent.reaches
    (J := fun s B => BanPending v r s B ∨ .beginAnnounce r ∉ B) (fun _ hC _ => hC.elim)
    (fun hC hi _ hco he h => banPending_exec h hco.uuidsMatch
      (fun hr => hC (by rw [hi]; exact hr)) he) ⟨es₁, hrun₁⟩ hreach₀.coherent
    (.inl ⟨_, hp₀, .inl ⟨0, rfl, by simp⟩⟩)
  rcases Machine.step_cases hstep with
    ⟨job, h, -⟩ | ⟨n', reply', i, new, forked, B, h, hi, he, hp, hp'⟩
  · cases h
  obtain ⟨rfl, rfl⟩ := PoolEvent.run.inj h
  obtain rfl := Option.some.inj (hnext.symm.trans hi)
  rw [hp] at hpend hco ⊢
  have hl : BanLost v u.shared B :=
    banPending_iff.mp (hpend.resolve_right (by simp))
  -- after it
  have hexec : (FlowspecInstr.beginAnnounce r).exec config reply u.shared
      = some (u'.shared, new, forked) := he
  have hdecide := beginAnnounce_exec hl hk hexec
  rw [← hp'] at hdecide
  have hco' := hco.exec hexec
  rw [← hp'] at hco'
  have hreach₂ : ∃ token, Coherent config w₂.shared 0 token := by
    obtain ⟨es₀, hw₀⟩ := hreach₀
    have hall := hw₀.append (hrun.mono fun _ _ _ => trivial)
    have hco₂ : ∃ token, Coherent config w₂.shared w₂.pending token :=
      FlowspecReachable.coherent ⟨_, hall⟩
    rwa [hdone] at hco₂
  obtain ⟨token₂, hco₂⟩ := hreach₂
  have hmem : .beginWithdrawForVictim v ∉ (FlowspecInstr.beginAnnounce r ::ₘ B) ↔
      .beginWithdrawForVictim v ∉ B := by simp
  rw [hmem]
  by_cases hcond : .beginWithdrawForVictim v ∉ B ∧
      v ∉ u.shared.lifecycle.victimsWithdrawRequested
  · rw [if_pos hcond] at hdecide
    have hwon := reaches_of_banWon hco' hdecide ⟨es₂, hrun₂⟩
    rw [hdone] at hwon
    exact ⟨fun _ => hcond, fun _ => tookEffect_of_banWon hco₂ hwon⟩
  · rw [if_neg hcond] at hdecide
    have hlost := reaches_of_banLost hco' hdecide ⟨es₂, hrun₂⟩
    rw [hdone] at hlost
    exact ⟨fun h => absurd h (not_tookEffect_of_banLost hco₂ hlost hk),
      fun h => absurd h hcond⟩

/-- The request of a BAN of host 1 for a UDP flood. -/
def udpBan : GobgpFlowspecAnnounceRequest :=
  ⟨.protocolOnly 1 .UDP,
    buildGobgpFlowspecIpv4Rule 1 { attackProtocol := 17 } 0 none .discard 0 0⟩

/-- A BAN that follows the finished UNBAN takes effect. -/
theorem ban_after_unban_took_effect :
    ∃ w u : Pool FlowspecState FlowspecInstr, TookEffect w.shared udpBan.ruleKey ∧
      .beginWithdrawForVictim 1 ∉ u.pending ∧
      1 ∉ u.shared.lifecycle.victimsWithdrawRequested := by
  let step := (flowspecMachine {}).step
  obtain ⟨w, hw, w₀, hw₀, w₂, hw₂, hidle, hdone, hpath, st, hst, hs⟩ :
      ∃ w ∈ runEvents step flowspecStart
          [.start (.banManage 1 false { attackProtocol := 17 } none), .run 0 .failed,
            .run 0 (.ok [1]), .run 0 .failed],
        ∃ w₀ ∈ runEvents step w [.start (.banManage 1 true {} none),
            .start (.banManage 1 false { attackProtocol := 17 } none)],
          ∃ w₂ ∈ runEvents (restrictTo step RpcsSucceed) w₀
              [.run 1 .failed, .run 1 (.ok []), .run 1 .failed, .run 2 .failed,
                .run 2 (.ok [2]), .run 2 .failed],
            w.pending = 0 ∧ w₂.pending = 0 ∧
              (∃ q ∈ w₂.shared.paths,
                buildGobgpFlowspecRuleKey q.flowSpecRule = some udpBan.ruleKey) ∧
              ∃ st ∈ w₂.shared.lifecycle.rules[udpBan.ruleKey]?, st.state = .installed := by
    decide
  obtain ⟨-, -, -, -, u, -, -, -, -, hiff⟩ :=
    ban_beside_unban_iff (r := udpBan) ⟨_, runs_iff_runEvents.mpr hw⟩ hidle (by decide)
      (runs_iff_runEvents.mpr hw₀) (runs_restrictTo (runs_iff_runEvents.mpr hw₂)) hdone
  have heffect : TookEffect w₂.shared udpBan.ruleKey := ⟨hpath, st, hst, hs⟩
  exact ⟨w₂, u, heffect, hiff.mp heffect⟩

/-- A BAN that begins while the DeletePath of the UNBAN is under way is
refused, and when both have finished the victim has no rule. -/
theorem ban_under_fence_is_lost :
    ¬ ∀ (config : GobgpFlowspecConfiguration) (v : UInt32) (r : GobgpFlowspecAnnounceRequest)
        (attack attack' : AttackDetails) (port port' : Option UInt16)
        (w w₀ w₂ : Pool FlowspecState FlowspecInstr) (es : List (PoolEvent FlowspecJob RpcReply)),
      FlowspecReachable config w → w.pending = 0 →
      gobgpBanManageIpv4 config v false attack port = [.beginAnnounce r] →
      Runs (flowspecMachine config).step Always w
        [.start (.banManage v true attack' port'), .start (.banManage v false attack port)] w₀ →
      Runs (flowspecMachine config).step RpcsSucceed w₀ es w₂ → w₂.pending = 0 →
      TookEffect w₂.shared r.ruleKey := by
  intro hall
  let step := (flowspecMachine {}).step
  obtain ⟨w, hw, w₀, hw₀, w₂, hw₂, hidle, hdone, hnone⟩ :
      ∃ w ∈ runEvents step flowspecStart
          [.start (.banManage 1 false { attackProtocol := 17 } none), .run 0 .failed,
            .run 0 (.ok [1]), .run 0 .failed],
        ∃ w₀ ∈ runEvents step w [.start (.banManage 1 true {} none),
            .start (.banManage 1 false { attackProtocol := 17 } none)],
          ∃ w₂ ∈ runEvents (restrictTo step RpcsSucceed) w₀
              [.run 1 .failed, .run 2 .failed, .run 1 (.ok []), .run 1 .failed],
            w.pending = 0 ∧ w₂.pending = 0 ∧
              w₂.shared.lifecycle.rules[udpBan.ruleKey]? = none := by
    decide
  obtain ⟨-, st, hst, -⟩ := hall {} 1 udpBan _ _ none none w w₀ w₂ _
    ⟨_, runs_iff_runEvents.mpr hw⟩ hidle (by decide) (runs_iff_runEvents.mpr hw₀)
    (runs_restrictTo (runs_iff_runEvents.mpr hw₂)) hdone
  rw [hnone] at hst
  cases hst

end FastNetMon
