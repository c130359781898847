/-
FastNetMon/Unbanned.lean

What is left in GoBGP for a host that is not banned any more.

The paths of a host are taken down by an UNBAN: by the first instruction of
its worker (`beginWithdrawForVictim`), which fences the host until everything
is gone.  The fence is down again after that.  So a rule that is inserted for
the host is taken down later only if an UNBAN is still to come (`UnbanDue`):
its hook or the first instruction of its worker is pending, or the host is in
the ban list and no thread is about to remove it.

The scheduler and the workers do not look at this: they act on a copy of the
ban list, on a capture or on a ban that may be older.  If every rule of the
host is inserted while an UNBAN is due (`InsertsInTime`), nothing is left for
an unbanned host (`no_path_for_unbanned`); otherwise a path may stay
(`path_left_for_unbanned`).
-/
import Mathlib
import FastNetMon.BanListAgreement
import FastNetMon.BanUnban

namespace FastNetMon

open Std

variable {config : DaemonConfiguration} {w w' : Pool DaemonState DaemonInstr}
  {i : DaemonInstr} {input : DaemonInput} {s s' : DaemonState} {new : List DaemonInstr}
  {forked : List (List DaemonInstr)} {A B : Multiset DaemonInstr} {v : UInt32}

/-! ### Work for a host -/

/-- The victim that a worker's instruction is about. -/
def FlowspecInstr.victim : FlowspecInstr → UInt32
  | .beginAnnounce r | .beginRefreshAnnounce r | .addPath r _ | .completeAnnounce r _ _ =>
      r.ruleKey.destinationIpv4
  | .beginRefreshProtocolRules po _ _ => po.ruleKey.destinationIpv4
  | .failAnnounce k | .beginProtocolOnlyEscalationCleanup k => k.destinationIpv4
  | .deletePath r | .completeWithdraw r _ => r.ruleKey.destinationIpv4
  | .beginWithdrawForVictim u | .beginRefreshCapture u | .finishRefreshCapture u
  | .refreshManage u _ => u

namespace DaemonInstr

/-- A worker for the host has not finished, or is still to be started by the
hook of an unban. -/
def worksFor (v : UInt32) : DaemonInstr → Bool
  | .flowspec j => j.victim = v
  | .callBlackholeActionsPerHost .unban u _ _ => u = v
  | _ => false

/-- The instruction is, or leads to, the `begin_withdraw_for_victim` of the host. -/
def unbans (v : UInt32) : DaemonInstr → ℕ
  | .flowspec (.beginWithdrawForVictim u) => if u = v then 1 else 0
  | .callBlackholeActionsPerHost .unban u _ _ => if u = v then 1 else 0
  | _ => 0

/-- The instruction inserts a rule for the host: a key of the host that is not
stored before its call of the lifecycle is stored after it. -/
def Inserts (v : UInt32) (l : GobgpFlowspecLifecycle) : DaemonInstr → Prop
  | .flowspec j => ∃ op, j.op? = some op ∧
      ∃ k ∈ (op.apply l).2.rules, k.destinationIpv4 = v ∧ k ∉ l.rules
  | _ => False

@[inherit_doc FlowspecInstr.isRpc]
def isRpc : DaemonInstr → Bool
  | .flowspec j => j.isRpc
  | _ => false

end DaemonInstr

/-- An UNBAN of the host is still to come. -/
def UnbanDue (v : UInt32) (s : DaemonState) (B : Multiset DaemonInstr) : Prop :=
  load (DaemonInstr.unbans v) B ≠ 0 ∨
    (s.banListIpv4.isBlackholed v = true ∧ load (DaemonInstr.removals v) B = 0)

theorem FlowspecInstr.victim_of_servedVictim? {j : FlowspecInstr}
    (h : j.servedVictim? = some v) : j.victim = v := by
  cases j <;> first | exact Option.some.inj h | cases h

theorem DaemonInstr.unbanHooks_le_unbans (v : UInt32) (i : DaemonInstr) :
    i.unbanHooks v ≤ i.unbans v := by
  cases i with
  | callBlackholeActionsPerHost action u attack packets => cases action <;> exact le_rfl
  | _ => exact Nat.zero_le _

theorem DaemonInstr.unbans_eq_zero (h : i.worksFor v = false) : i.unbans v = 0 := by
  cases i with
  | flowspec j =>
      cases j with
      | beginWithdrawForVictim u => exact if_neg (of_decide_eq_false h)
      | _ => rfl
  | callBlackholeActionsPerHost action u attack packets =>
      cases action with
      | ban => rfl
      | unban => exact if_neg (of_decide_eq_false h)
  | _ => rfl

/-! ### An unban stays due -/

/-- An UNBAN that is due stays due until the worker begins to withdraw. -/
theorem UnbanDue.exec (h : UnbanDue v s (i ::ₘ B)) (he : BanListEffect v s i s' A)
    (hkeep : i.unbans v ≠ 0 → load (DaemonInstr.unbans v) A ≠ 0) : UnbanDue v s' (A + B) := by
  unfold UnbanDue at h ⊢
  simp only [load_cons, load_add] at h ⊢
  rcases h with hunbans | ⟨hlist, hremovals⟩
  · refine .inl ?_
    by_cases hi : i.unbans v = 0
    · omega
    · have hA := hkeep hi
      omega
  · cases he with
    | other _ hlist' hr _ _ => exact .inr ⟨hlist'.trans hlist, by omega⟩
    | ban attack packets _ hlist' hA =>
        subst hA
        simp only [load_singleton, DaemonInstr.removals]
        exact .inr ⟨hlist', by omega⟩
    | hook action attack packets _ hlist' hA =>
        rw [load_eq_zero fun j hj => (hA j hj).1]
        exact .inr ⟨hlist'.trans hlist, by omega⟩
    | remove hi =>
        subst hi
        simp only [DaemonInstr.removals, if_true] at hremovals
        omega
    | unban _ _ _ hu _ =>
        have hle := load_le_load (B := A) (DaemonInstr.unbanHooks_le_unbans v)
        exact .inl (by omega)

/-- The hook of an unban forks the worker, if FlowSpec is on. -/
theorem load_unbans_gobgpThread (attack : AttackDetails) (packets : List SimplePacket)
    (hon : config.gobgp = true ∧ config.gobgpFlowspec = true) :
    load (DaemonInstr.unbans v) ((([] : List DaemonInstr) : Multiset DaemonInstr)
      + ((gobgpThread config .unban v attack packets).flatten : Multiset DaemonInstr)) ≠ 0 := by
  simp [gobgpThread, hon, gobgpBanManageIpv4, gobgpBanManageFlowspecIpv4, DaemonInstr.unbans]

/-! ### The invariant -/

/-- What is known about a host in a run in which its rules are inserted in time. -/
structure Mitigated (config : DaemonConfiguration) (v : UInt32) (s : DaemonState)
    (B : Multiset DaemonInstr) : Prop where
  coherent : ∃ token, Coherent config.toGobgpFlowspecConfiguration s.flowspec (flowspecPart B) token
  workersOn : ∀ j, .flowspec j ∈ B → config.gobgp = true ∧ config.gobgpFlowspec = true
  deleted : ∀ r, .flowspec (.completeWithdraw r false) ∉ B
  due : s.flowspec.lifecycle.victimHasRulesLocked v = true →
    (config.gobgp = true ∧ config.gobgpFlowspec = true) ∧
      (UnbanDue v s B ∨ Draining s.flowspec.lifecycle v)

/-- A worker's instruction whose RPC does not fail leaves no failed withdrawal. -/
theorem FlowspecInstr.no_failed_withdrawal {config : GobgpFlowspecConfiguration}
    {j : FlowspecInstr} {reply : RpcReply} {s t : FlowspecState} {new : List FlowspecInstr}
    {forked : List (List FlowspecInstr)} (he : j.exec config reply s = some (t, new, forked))
    (hrpc : j.isRpc = true → reply ≠ .failed) (r : GobgpFlowspecWithdrawRequest) :
    .completeWithdraw r false ∉
      (new : Multiset FlowspecInstr) + (forked.flatten : Multiset FlowspecInstr) := by
  intro hmem
  generalize hj' : FlowspecInstr.completeWithdraw r false = j' at hmem
  cases exec_successor he hmem with
  | deleted q success =>
      obtain ⟨-, hnew⟩ := Prod.mk.inj (Option.some.inj he)
      obtain ⟨rfl, rfl⟩ := Prod.mk.inj hnew
      have hfalse : FlowspecInstr.completeWithdraw r false
          = .completeWithdraw q (decide (reply ≠ .failed)) := by
        simpa [← hj'] using hmem
      injection hfalse with _ hsuccess
      exact hrpc rfl (by simpa using hsuccess.symm)
  | refresh hmem =>
      rcases mem_refreshThread hmem with h | ⟨r, h, -⟩ | ⟨po, reqs, h, -⟩ <;>
        rw [← hj'] at h <;> cases h
  | announce | refreshAnnounce | escalate | addPort | fail | complete | cleanup | lateDelete |
    cleanupDelete | withdrawDelete | refreshSkipped => cases hj'

/-- An instruction of a worker follows another one, or is the first of a worker
that is started, and then FlowSpec is on. -/
theorem mem_flowspec_exec {j : FlowspecInstr}
    (he : i.exec config input s = some (s', new, forked))
    (hj : .flowspec j ∈ (new : Multiset DaemonInstr) + (forked.flatten : Multiset DaemonInstr)) :
    (∃ j₀ new forked, i = .flowspec j₀ ∧ j₀.exec config.toGobgpFlowspecConfiguration input.reply
        s.flowspec = some (s'.flowspec, new, forked) ∧
        j ∈ (new : Multiset FlowspecInstr) + (forked.flatten : Multiset FlowspecInstr)) ∨
      ((config.gobgp = true ∧ config.gobgpFlowspec = true) ∧
        ∃ job : FlowspecJob, j ∈ job.program config.toGobgpFlowspecConfiguration) := by
  have hpart := mem_flowspecPart.mpr hj
  have heffect := DaemonInstr.exec_flowspec he
  generalize flowspecPart ((new : Multiset DaemonInstr)
    + (forked.flatten : Multiset DaemonInstr)) = C at hpart heffect
  generalize s'.flowspec = t at heffect
  cases heffect with
  | run hi hx => exact .inl ⟨_, _, _, hi, hx, hpart⟩
  | start job _ hon => exact .inr ⟨hon j hpart, job, hpart⟩
  | call | skip => simp at hpart

/-- What the instruction does to the rules of the host: it begins to withdraw
them, is a call that keeps a drain going, or leaves the lifecycle alone. -/
theorem exec_lifecycle_daemon (he : i.exec config input s = some (s', new, forked)) :
    (∃ j op, i = .flowspec j ∧ j.op? = some op ∧
        s'.flowspec.lifecycle = (op.apply s.flowspec.lifecycle).2) ∨
      (∃ u, s'.flowspec.lifecycle = (LifecycleOp.apply (.beginRefreshCapture u)
          s.flowspec.lifecycle).2 ∨
        s'.flowspec.lifecycle = (LifecycleOp.apply (.finishRefreshCapture u)
          s.flowspec.lifecycle).2) ∨
      s'.flowspec.lifecycle = s.flowspec.lifecycle := by
  cases DaemonInstr.exec_effect he with
  | @worker j t new forked hj =>
      rcases FlowspecInstr.exec_lifecycle hj with ⟨op, hop, hl⟩ | ⟨-, hl⟩
      · exact .inl ⟨j, op, rfl, hop, hl⟩
      · exact .inr (.inr hl)
  | @captureBegun t details u => exact .inr (.inl ⟨u, .inl rfl⟩)
  | orphanedComplete u rest => exact .inr (.inl ⟨u, .inr rfl⟩)
  | captureComplete caller u => exact .inr (.inl ⟨u, .inr rfl⟩)
  | _ => exact .inr (.inr rfl)

namespace Mitigated

theorem coherent_exec (h : Mitigated config v s (i ::ₘ B))
    (he : i.exec config input s = some (s', new, forked)) :
    ∃ token, Coherent config.toGobgpFlowspecConfiguration s'.flowspec
      (flowspecPart ((new : Multiset DaemonInstr) + (forked.flatten : Multiset DaemonInstr) + B))
      token := by
  rw [flowspecPart_add]
  exact coherent_of_moves (DaemonInstr.exec_flowspec he).moves h.coherent

theorem workersOn_exec (h : Mitigated config v s (i ::ₘ B))
    (he : i.exec config input s = some (s', new, forked)) (j : FlowspecInstr)
    (hj : .flowspec j ∈
      (new : Multiset DaemonInstr) + (forked.flatten : Multiset DaemonInstr) + B) :
    config.gobgp = true ∧ config.gobgpFlowspec = true := by
  rcases Multiset.mem_add.mp hj with hj | hj
  · rcases mem_flowspec_exec he hj with ⟨j₀, _, _, rfl, -, -⟩ | ⟨hon, -⟩
    · exact h.workersOn j₀ (Multiset.mem_cons_self _ _)
    · exact hon
  · exact h.workersOn j (Multiset.mem_cons_of_mem hj)

theorem deleted_exec (h : Mitigated config v s (i ::ₘ B))
    (he : i.exec config input s = some (s', new, forked))
    (hrpc : i.isRpc = true → input.reply ≠ .failed) (r : GobgpFlowspecWithdrawRequest) :
    .flowspec (.completeWithdraw r false) ∉
      (new : Multiset DaemonInstr) + (forked.flatten : Multiset DaemonInstr) + B := by
  intro hmem
  rcases Multiset.mem_add.mp hmem with hmem | hmem
  · rcases mem_flowspec_exec he hmem with ⟨j₀, _, _, rfl, hx, hj⟩ | ⟨-, job, hj⟩
    · exact FlowspecInstr.no_failed_withdrawal hx hrpc r hj
    · cases program_key? hj
  · exact h.deleted r (Multiset.mem_cons_of_mem hmem)

/-- A drain goes on, or everything of the host is gone. -/
theorem draining_exec (h : Mitigated config v s (i ::ₘ B))
    (he : i.exec config input s = some (s', new, forked))
    (hd : Draining s.flowspec.lifecycle v) :
    Draining s'.flowspec.lifecycle v ∨ Drained s'.flowspec.lifecycle v := by
  obtain ⟨token, hco⟩ := h.coherent
  rcases exec_lifecycle_daemon he with ⟨j, op, rfl, hop, hl⟩ | ⟨u, hl | hl⟩ | hl <;> rw [hl]
  · refine hd.apply hco.uuidsMatch fun k uuid _ hwithdraw => ?_
    subst hwithdraw
    cases j with
    | completeWithdraw r success =>
        have hsuccess : success = false := by
          have hop' := Option.some.inj hop
          injection hop' with _ _ hsuccess
        subst hsuccess
        exact h.deleted r (Multiset.mem_cons_self _ _)
    | addPath | deletePath | refreshManage => cases hop
    | _ => cases Option.some.inj hop
  · exact hd.apply hco.uuidsMatch fun _ _ _ h => by cases h
  · exact hd.apply hco.uuidsMatch fun _ _ _ h => by cases h
  · exact .inl hd

/-- A rule of the host was there before, or is inserted now. -/
theorem hasRules_exec (he : i.exec config input s = some (s', new, forked))
    (hrules : s'.flowspec.lifecycle.victimHasRulesLocked v = true) :
    s.flowspec.lifecycle.victimHasRulesLocked v = true ∨
      i.Inserts v s.flowspec.lifecycle := by
  obtain ⟨k, hk, hmem⟩ := GobgpFlowspecLifecycle.victimHasRulesLocked_iff.mp hrules
  have hold : k ∈ s.flowspec.lifecycle.rules →
      s.flowspec.lifecycle.victimHasRulesLocked v = true := fun h =>
    GobgpFlowspecLifecycle.victimHasRulesLocked_iff.mpr ⟨k, hk, h⟩
  rcases exec_lifecycle_daemon he with ⟨j, op, rfl, hop, hl⟩ | ⟨u, hl | hl⟩ | hl <;> rw [hl] at hmem
  · by_cases hbefore : k ∈ s.flowspec.lifecycle.rules
    · exact .inl (hold hbefore)
    · exact .inr ⟨op, hop, k, hmem, hk, hbefore⟩
  · exact .inl (hold ((mem_of_mem_apply _ hmem).resolve_left fun h => h.1))
  · exact .inl (hold ((mem_of_mem_apply _ hmem).resolve_left fun h => h.1))
  · exact .inl (hold hmem)

/-- An UNBAN stays due, or its worker begins to withdraw now. -/
theorem due_exec (hon : config.gobgp = true ∧ config.gobgpFlowspec = true)
    (hu : ∃ token, Coherent config.toGobgpFlowspecConfiguration s.flowspec
      (flowspecPart (i ::ₘ B)) token)
    (he : i.exec config input s = some (s', new, forked)) (hdue : UnbanDue v s (i ::ₘ B)) :
    UnbanDue v s' ((new : Multiset DaemonInstr) + (forked.flatten : Multiset DaemonInstr) + B) ∨
      Draining s'.flowspec.lifecycle v ∨ Drained s'.flowspec.lifecycle v := by
  obtain ⟨token, hco⟩ := hu
  have heffect := DaemonInstr.exec_effect he
  by_cases hi : i = .flowspec (.beginWithdrawForVictim v)
  · subst hi
    cases heffect with
    | worker hx =>
        obtain ⟨rfl, -⟩ := Prod.mk.inj (Option.some.inj hx)
        exact .inr (draining_beginWithdraw hco.uuidsMatch)
    | detect hdetects => cases hdetects
  · refine .inl (hdue.exec heffect.banList fun hunbans => ?_)
    cases i with
    | flowspec j =>
        cases j with
        | beginWithdrawForVictim u =>
            have huv : u = v := by
              by_contra huv
              simp [DaemonInstr.unbans, huv] at hunbans
            exact absurd (huv ▸ rfl) hi
        | _ => exact absurd rfl hunbans
    | callBlackholeActionsPerHost action u attack packets =>
        cases action with
        | ban => exact absurd rfl hunbans
        | unban =>
            have huv : u = v := by
              by_contra huv
              simp [DaemonInstr.unbans, huv] at hunbans
            subst huv
            cases heffect with
            | hook => exact load_unbans_gobgpThread attack packets hon
            | detect hdetects => cases hdetects
    | _ => exact absurd rfl hunbans

/-- One instruction keeps the invariant. -/
theorem exec (h : Mitigated config v s (i ::ₘ B))
    (he : i.exec config input s = some (s', new, forked))
    (hrpc : i.isRpc = true → input.reply ≠ .failed)
    (hins : i.Inserts v s.flowspec.lifecycle → UnbanDue v s (i ::ₘ B)) :
    Mitigated config v s'
      ((new : Multiset DaemonInstr) + (forked.flatten : Multiset DaemonInstr) + B) := by
  refine ⟨h.coherent_exec he, h.workersOn_exec he, h.deleted_exec he hrpc, fun hrules => ?_⟩
  have hnotDrained : ¬ Drained s'.flowspec.lifecycle v := fun hdrained => by
    rw [hdrained.2.1] at hrules
    cases hrules
  obtain ⟨hon, hdue | hdraining⟩ : (config.gobgp = true ∧ config.gobgpFlowspec = true) ∧
      (UnbanDue v s (i ::ₘ B) ∨ Draining s.flowspec.lifecycle v) := by
    rcases hasRules_exec he hrules with hbefore | hinserts
    · exact h.due hbefore
    · refine ⟨?_, .inl (hins hinserts)⟩
      cases i with
      | flowspec j => exact h.workersOn j (Multiset.mem_cons_self _ _)
      | _ => exact absurd hinserts id
  · refine ⟨hon, ?_⟩
    rcases due_exec hon h.coherent he hdue with hdue | hdraining | hdrained
    · exact .inl hdue
    · exact .inr hdraining
    · exact absurd hdrained hnotDrained
  · exact ⟨hon, .inr ((h.draining_exec he hdraining).resolve_right hnotDrained)⟩

end Mitigated

/-! ### Runs -/

/-- No RPC fails. -/
def DaemonRpcsSucceed (w : Pool DaemonState DaemonInstr) :
    PoolEvent DaemonJob DaemonInput → Prop
  | .start _ => True
  | .run n input => ∀ i ∈ w.next n, i.isRpc = true → input.reply ≠ .failed

/-- A step that inserts a rule for the host is taken while an UNBAN of it is due. -/
def InsertsInTime (v : UInt32) (w : Pool DaemonState DaemonInstr) :
    PoolEvent DaemonJob DaemonInput → Prop
  | .start _ => True
  | .run n _ => ∀ i ∈ w.next n, i.Inserts v w.shared.flowspec.lifecycle →
      UnbanDue v w.shared w.pending

instance (w : Pool DaemonState DaemonInstr) (e : PoolEvent DaemonJob DaemonInput) :
    Decidable (DaemonRpcsSucceed w e) :=
  match e with
  | .start _ => isTrue trivial
  | .run n input =>
      inferInstanceAs (Decidable (∀ i ∈ w.next n, i.isRpc = true → input.reply ≠ .failed))

instance (v : UInt32) (l : GobgpFlowspecLifecycle) (i : DaemonInstr) :
    Decidable (i.Inserts v l) :=
  decidable_of_iff (((i.flowspec?.bind FlowspecInstr.op?).any fun op =>
      (op.apply l).2.rules.keys.any fun k => k.destinationIpv4 = v ∧ k ∉ l.rules) = true) (by
    cases i <;> simp [DaemonInstr.flowspec?, DaemonInstr.Inserts, Option.any_eq_true])

instance (v : UInt32) (s : DaemonState) (B : Multiset DaemonInstr) : Decidable (UnbanDue v s B) :=
  inferInstanceAs (Decidable (_ ∨ _))

instance (v : UInt32) (w : Pool DaemonState DaemonInstr) (e : PoolEvent DaemonJob DaemonInput) :
    Decidable (InsertsInTime v w e) :=
  match e with
  | .start _ => isTrue trivial
  | .run n _ =>
      inferInstanceAs (Decidable (∀ i ∈ w.next n, i.Inserts v w.shared.flowspec.lifecycle →
        UnbanDue v w.shared w.pending))

theorem Mitigated.start (h : Mitigated config v s B) (job : DaemonJob) :
    Mitigated config v s (B + (job.program : Multiset DaemonInstr)) := by
  have hnone : ∀ i ∈ (job.program : Multiset DaemonInstr), i.flowspec? = none :=
    fun i hi => flowspec?_program hi
  have hold : ∀ j, .flowspec j ∈ B + (job.program : Multiset DaemonInstr) → .flowspec j ∈ B := by
    intro j hj
    rcases Multiset.mem_add.mp hj with hj | hj
    · exact hj
    · cases hnone _ hj
  refine ⟨?_, fun j hj => h.workersOn j (hold j hj), fun r hr => h.deleted r (hold _ hr),
    fun hrules => ?_⟩
  · rw [flowspecPart_add, flowspecPart_eq_zero hnone, add_zero]
    exact h.coherent
  · obtain ⟨hon, hdue | hdraining⟩ := h.due hrules
    · refine ⟨hon, .inl ?_⟩
      have hremovals : load (DaemonInstr.removals v) (job.program : Multiset DaemonInstr) = 0 :=
        load_eq_zero fun i hi => (silent_program hi).1.1
      unfold UnbanDue at hdue ⊢
      rw [load_add, load_add, hremovals]
      rcases hdue with hunbans | hlist
      · exact .inl (by omega)
      · exact .inr hlist
    · exact ⟨hon, .inr hdraining⟩

theorem mitigated_of_run {capacity : UInt32} {es : List (PoolEvent DaemonJob DaemonInput)}
    (h : Runs (daemonMachine config).step (fun w e => DaemonRpcsSucceed w e ∧ InsertsInTime v w e)
      (daemonStart capacity) es w) : Mitigated config v w.shared w.pending := by
  refine h.invariant (I := fun w => Mitigated config v w.shared w.pending)
    (fun {w e w'} hw hC hs => ?_) ?_
  · rcases Machine.step_cases hs with
      ⟨job, rfl, hsh, hp⟩ | ⟨n, input, i, new, forked, B, rfl, hi, he, hp, hp'⟩
    · rw [hsh, hp]
      exact hw.start job
    · have hins := hC.2 i hi
      rw [hp] at hw hins
      rw [hp']
      exact hw.exec he (hC.1 i hi) hins
  · refine ⟨⟨_, coherent_start.choose_spec⟩, ?_, ?_, ?_⟩
    · intro j hj
      simp [daemonStart, Pool.pending] at hj
    · intro r hr
      simp [daemonStart, Pool.pending] at hr
    · intro hrules
      cases hrules

/-- **Nothing is left for an unbanned host.**  In every run in which RPCs succeed
and every rule of `v` is inserted while an UNBAN of `v` is due: in every state
in which `v` is not in the ban list and every worker for `v` has finished, GoBGP
holds no path to `v`. -/
theorem no_path_for_unbanned {capacity : UInt32} {es : List (PoolEvent DaemonJob DaemonInput)}
    (h : Runs (daemonMachine config).step (fun w e => DaemonRpcsSucceed w e ∧ InsertsInTime v w e)
      (daemonStart capacity) es w)
    (hlist : w.shared.banListIpv4.isBlackholed v = false)
    (hidle : ∀ i ∈ w.pending, i.worksFor v = false) :
    ∀ q ∈ w.shared.flowspec.paths, q.flowSpecRule.destinationSubnetIpv4.subnetAddress ≠ v := by
  have hmit := mitigated_of_run h
  obtain ⟨token, hco⟩ := hmit.coherent
  refine hco.no_path_of_no_rules ?_
  rw [Bool.eq_false_iff]
  intro hrules
  rcases (hmit.due hrules).2 with (hunbans | ⟨hlisted, -⟩) | hdraining
  · exact hunbans (load_eq_zero fun i hi => DaemonInstr.unbans_eq_zero (hidle i hi))
  · rw [hlist] at hlisted
    cases hlisted
  · obtain ⟨k, hk, hmem⟩ := GobgpFlowspecLifecycle.victimHasRulesLocked_iff.mp hrules
    obtain ⟨j, hj, hserved⟩ := hco.pending_of_draining hdraining hk hmem
    have hworks := hidle _ (mem_flowspecPart.mp hj)
    simp [DaemonInstr.worksFor, FlowspecInstr.victim_of_servedVictim? hserved] at hworks

/-- Host 1 is banned, its rule is announced, and the cleanup unbans it. -/
theorem no_path_after_ban_and_unban :
    ∃ (w : Pool DaemonState DaemonInstr) (es : List (PoolEvent DaemonJob DaemonInput)),
      Runs (daemonMachine {}).step (fun w e => DaemonRpcsSucceed w e ∧ InsertsInTime 1 w e)
        (daemonStart 1) es w ∧
      ∀ q ∈ w.shared.flowspec.paths,
        q.flowSpecRule.destinationSubnetIpv4.subnetAddress ≠ 1 := by
  let es : List (PoolEvent DaemonJob DaemonInput) :=
    banOne ++ [.run 3 {}, .run 3 { reply := .ok [1] }, .run 3 {},
      .start .executeUnbanOperationIpv4, .run 4 { now := 10 }, .run 4 {}, .run 4 {},
      .run 5 {}, .run 5 { reply := .ok [] }, .run 5 {}, .run 4 {}, .run 4 {}]
  obtain ⟨w, hw, hlist, hidle⟩ :
      ∃ w ∈ runEvents (restrictTo (daemonMachine {}).step
          fun w e => DaemonRpcsSucceed w e ∧ InsertsInTime 1 w e) (daemonStart 1) es,
        w.shared.banListIpv4.isBlackholed 1 = false ∧ w.pending = 0 := by
    decide
  have hrun := runs_restrictTo (runs_iff_runEvents.mpr hw)
  exact ⟨w, es, hrun, no_path_for_unbanned hrun hlist (by simp [hidle])⟩

/-- The scheduler has copied the ban list, the cleanup unbans host 1 and its
fence is down again; then the scheduler begins a capture of the host, and the
refresh worker announces a rule that nobody withdraws. -/
theorem path_left_for_unbanned :
    ¬ ∀ (config : DaemonConfiguration) (v capacity : UInt32)
        (es : List (PoolEvent DaemonJob DaemonInput)) (w : Pool DaemonState DaemonInstr),
      Runs (daemonMachine config).step DaemonRpcsSucceed (daemonStart capacity) es w →
      w.shared.banListIpv4.isBlackholed v = false →
      w.shared.packetBucketsIpv4Storage.weHaveBucketForThisIp v = false →
      (∀ i ∈ w.pending, i.worksFor v = false) →
      ∀ q ∈ w.shared.flowspec.paths,
        q.flowSpecRule.destinationSubnetIpv4.subnetAddress ≠ v := by
  intro hall
  let icmpFlood : DaemonInput :=
    { admissionSnapshot :=
        some { icmpInPps := 2000, icmpPpsEnabled := true, icmpPpsThreshold := 1000 } }
  let es : List (PoolEvent DaemonJob DaemonInput) :=
    banOne ++ [.run 3 {}, .run 3 { reply := .ok [1] }, .run 3 {},
      -- the scheduler copies the ban list
      .start .scheduleGobgpFlowspecRefreshCaptures, .run 4 { now := 10 }, .run 4 {},
      -- the unban, from its snapshot to the removal
      .start .executeUnbanOperationIpv4, .run 5 { now := 10 }, .run 5 {}, .run 5 {},
      .run 6 {}, .run 6 { reply := .ok [] }, .run 6 {}, .run 5 {}, .run 5 {},
      -- the scheduler goes on
      .run 4 icmpFlood, .run 4 { now := 10 }, .run 4 {},
      .start (.addPacketToStorage 1 {}), .run 7 {},
      .start .processFilledBucketsIpv4, .run 8 {}, .run 8 {}, .run 8 {}, .run 8 icmpFlood,
      .run 8 {}, .run 9 {}, .run 9 { reply := .ok [2] }, .run 9 {}, .run 9 {}]
  obtain ⟨w, hw, hlist, hbucket, hidle, q, hq, hdest⟩ :
      ∃ w ∈ runEvents (restrictTo (daemonMachine {}).step DaemonRpcsSucceed) (daemonStart 1) es,
        w.shared.banListIpv4.isBlackholed 1 = false ∧
          w.shared.packetBucketsIpv4Storage.weHaveBucketForThisIp 1 = false ∧ w.pending = 0 ∧
          ∃ q ∈ w.shared.flowspec.paths,
            q.flowSpecRule.destinationSubnetIpv4.subnetAddress = 1 := by
    decide
  exact hall {} 1 1 es w (runs_restrictTo (runs_iff_runEvents.mpr hw)) hlist hbucket
    (by simp [hidle]) q hq hdest

end FastNetMon
