/-
FastNetMon/BanListAgreement.lean

The ban list and the hooks that were called for a host.

A ban adds the host to the list and then calls its hook.  An unban decides on
what it has read, calls its hook and removes the host by its key, in one order
in `execute_unban_operation_ipv4` and in the other in `ExecuteUnBan`.  Neither
looks at the list again before it removes, so a ban in between is lost.

For one host `v`, what is under way is counted over all threads: removals that
are still to come (`removals`), hooks of unbans (`unbanHooks`) and of bans
(`banHooks`).  `BanListEffect` says how one instruction moves these counts, the
list and the last hook.

Main result: `ban_list_agrees`.  If bans and unbans of the host keep apart, the
list agrees with the last hook whenever nothing is under way, and no unban
removes an entry that was added after it was decided.  Otherwise a ban may be
lost (`ban_list_loses_ban`).
-/
import Mathlib
import FastNetMon.DaemonWorkers

namespace FastNetMon

open Std

variable {config : DaemonConfiguration} {w w' : Pool DaemonState DaemonInstr}
  {i : DaemonInstr} {input : DaemonInput} {s s' : DaemonState} {new : List DaemonInstr}
  {forked : List (List DaemonInstr)} {A B : Multiset DaemonInstr} {v : UInt32}

/-! ### What is under way -/

namespace DaemonInstr

/-- Removals of the host that are decided. -/
@[simp] def removals (v : UInt32) : DaemonInstr → ℕ
  | .removeFromBlackhole u => if u = v then 1 else 0
  | .unbanLoop _ _ banListItemsForErase => banListItemsForErase.count v
  | _ => 0

/-- Unbans of the host whose hook is still to be called. -/
@[simp] def unbanHooks (v : UInt32) : DaemonInstr → ℕ
  | .callBlackholeActionsPerHost .unban u _ _ => if u = v then 1 else 0
  | _ => 0

/-- Bans between `add_to_blackhole` and the hook. -/
@[simp] def banHooks (v : UInt32) : DaemonInstr → ℕ
  | .callBlackholeActionsPerHost .ban u _ _ => if u = v then 1 else 0
  | _ => 0

/-- `ExecuteUnBan` has found the host in the list, and is about to read its details. -/
@[simp] def lookups (v : UInt32) : DaemonInstr → ℕ
  | .unBanGetBlackholeDetails u => if u = v then 1 else 0
  | _ => 0

/-- An unban of the host is in progress. -/
def unbanning (v : UInt32) (i : DaemonInstr) : ℕ := i.removals v + i.unbanHooks v + i.lookups v

/-- The hook that the instruction calls for the host. -/
@[simp] def hookIssued (v : UInt32) : DaemonInstr → Option AttackAction
  | .callBlackholeActionsPerHost action u _ _ => if u = v then some action else none
  | _ => none

/-- The instruction is about to decide on an unban of the host. -/
@[simp] def decidesUnban (config : DaemonConfiguration) (v : UInt32) (s : DaemonState)
    (input : DaemonInput) : DaemonInstr → Bool
  | .unbanLoop currentTime ((u, details) :: _) _ =>
      u = v && details.weCouldUnbanThisIp config currentTime input.attackIsFinished
  | .unBanIsBlackholed u => u = v && s.banListIpv4.isBlackholed u
  | _ => false

/-- The instruction adds an entry for the host. -/
@[simp] def addsEntry (v : UInt32) : DaemonInstr → Bool
  | .addToBlackhole u _ _ => u = v
  | _ => false

/-- The instruction calls the hook of an unban of the host, or removes its entry. -/
@[simp] def effectsUnban (v : UInt32) : DaemonInstr → Bool
  | .callBlackholeActionsPerHost .unban u _ _ => u = v
  | .removeFromBlackhole u => u = v
  | _ => false

/-- The instruction has to do with the ban list in no way. -/
def Silent (v : UInt32) (i : DaemonInstr) : Prop :=
  i.removals v = 0 ∧ i.unbanHooks v = 0 ∧ i.banHooks v = 0 ∧ i.hookIssued v = none

theorem silent_of_detects (h : i.detects = true) : i.Silent v := by
  cases i <;> first | exact ⟨rfl, rfl, rfl, rfl⟩ | cases h

theorem silent_of_schedules (h : i.schedules = true) : i.Silent v := by
  cases i <;> first | exact ⟨rfl, rfl, rfl, rfl⟩ | cases h

theorem silent_flowspec (j : FlowspecInstr) : (DaemonInstr.flowspec j).Silent v :=
  ⟨rfl, rfl, rfl, rfl⟩

end DaemonInstr

/-- How an instruction `i` that leaves `A` behind moves the ban list, seen from
one host. -/
inductive BanListEffect (v : UInt32) (s : DaemonState) (i : DaemonInstr) (s' : DaemonState)
    (A : Multiset DaemonInstr) : Prop
  /-- nothing that concerns the host -/
  | other (hi : i.hookIssued v = none)
      (hlist : s'.banListIpv4.isBlackholed v = s.banListIpv4.isBlackholed v)
      (hr : load (DaemonInstr.removals v) A = i.removals v)
      (hu : load (DaemonInstr.unbanHooks v) A = i.unbanHooks v)
      (hb : load (DaemonInstr.banHooks v) A = i.banHooks v)
  | ban (attack packets) (hi : i = .addToBlackhole v attack packets)
      (hlist : s'.banListIpv4.isBlackholed v = true)
      (hA : A = {.callBlackholeActionsPerHost .ban v attack packets})
  | hook (action attack packets) (hi : i = .callBlackholeActionsPerHost action v attack packets)
      (hlist : s'.banListIpv4.isBlackholed v = s.banListIpv4.isBlackholed v)
      (hA : ∀ j ∈ A, j.Silent v)
  | remove (hi : i = .removeFromBlackhole v) (hlist : s'.banListIpv4.isBlackholed v = false)
      (hA : A = 0)
  /-- an unban is decided, or goes on after its decision -/
  | unban (hi : i.hookIssued v = none)
      (hlist : s'.banListIpv4.isBlackholed v = s.banListIpv4.isBlackholed v)
      (hr : load (DaemonInstr.removals v) A = i.removals v + 1)
      (hu : load (DaemonInstr.unbanHooks v) A = i.unbanHooks v + 1)
      (hb : load (DaemonInstr.banHooks v) A = i.banHooks v)

namespace BanListEffect

theorem of_silent (hi : i.Silent v)
    (hlist : s'.banListIpv4.isBlackholed v = s.banListIpv4.isBlackholed v)
    (hA : ∀ j ∈ A, j.Silent v) : BanListEffect v s i s' A := by
  obtain ⟨hr, hu, hb, hhook⟩ := hi
  refine .other hhook hlist ?_ ?_ ?_
  · rw [hr]
    exact load_eq_zero fun j hj => (hA j hj).1
  · rw [hu]
    exact load_eq_zero fun j hj => (hA j hj).2.1
  · rw [hb]
    exact load_eq_zero fun j hj => (hA j hj).2.2.1

end BanListEffect

/-- The removals after the loop of an unban are those it has collected. -/
theorem load_removals (erase : List UInt32) :
    load (DaemonInstr.removals v)
      ((erase.map .removeFromBlackhole : List DaemonInstr) : Multiset DaemonInstr)
      = erase.count v := by
  induction erase with
  | nil => rfl
  | cons u erase ih =>
      rw [List.map_cons, load_coe_cons, ih, List.count_cons, add_comm]
      simp

/-- **What an instruction can do to the ban list.** -/
theorem DaemonInstr.Effect.banList (h : Effect config input s i s' new forked) :
    BanListEffect v s i s'
      ((new : Multiset DaemonInstr) + (forked.flatten : Multiset DaemonInstr)) := by
  cases h with
  | worker he =>
      refine .of_silent (silent_flowspec _) rfl fun j hj => ?_
      rw [← List.map_flatten, Multiset.coe_add, ← List.map_append, Multiset.mem_coe] at hj
      obtain ⟨j, -, rfl⟩ := List.mem_map.mp hj
      exact silent_flowspec j
  | ban u attack packets =>
      by_cases huv : u = v
      · subst huv
        refine .ban attack packets rfl ?_ rfl
        exact BlackholeBanList.isBlackholed_addToBlackhole.mpr (.inl rfl)
      · refine .other rfl ?_ ?_ ?_ ?_
        · exact Bool.eq_iff_iff.mpr (BlackholeBanList.isBlackholed_addToBlackhole.trans (by simp [huv]))
        all_goals simp [huv]
  | hook action u attack packets =>
      have hA : ∀ j ∈ (([] : List DaemonInstr) : Multiset DaemonInstr)
          + ((gobgpThread config action u attack packets).flatten : Multiset DaemonInstr),
          j.Silent v := by
        intro j hj
        rcases (mem_gobgpThread hj).2 with ⟨-, rfl⟩ | ⟨r, rfl⟩ <;> exact silent_flowspec _
      by_cases huv : u = v
      · subst huv
        exact .hook action attack packets rfl rfl hA
      · refine .of_silent ?_ rfl hA
        cases action <;> simp [Silent, huv]
  | remove u =>
      by_cases huv : u = v
      · subst huv
        refine .remove rfl ?_ rfl
        rw [Bool.eq_false_iff]
        intro hlist
        exact (BlackholeBanList.isBlackholed_removeFromBlackhole.mp hlist).1 rfl
      · refine .other rfl ?_ ?_ ?_ ?_
        · exact Bool.eq_iff_iff.mpr
            (BlackholeBanList.isBlackholed_removeFromBlackhole.trans (by simp [huv]))
        all_goals simp [huv]
  | unbanDecided t u rest erase hready =>
      by_cases huv : u = v
      · subst huv
        exact .unban rfl rfl (by simp) (by simp) (by simp)
      · exact .other rfl rfl (by simp [huv]) (by simp [huv]) (by simp)
  | unbanRemovals t erase =>
      refine .other rfl rfl ?_ ?_ ?_
      · rw [List.flatten_nil, Multiset.coe_nil, add_zero, load_removals]
        rfl
      all_goals
        refine load_eq_zero fun j hj => ?_
        obtain ⟨u, -, rfl⟩ : ∃ u ∈ erase, removeFromBlackhole u = j := by simpa using hj
        rfl
  | @unBanDetails u attack hu =>
      by_cases huv : u = v
      · subst huv
        exact .unban rfl rfl (by simp) (by simp) (by simp)
      · exact .other rfl rfl (by simp [huv]) (by simp [huv]) (by simp)
  | detect hi hnew =>
      exact .of_silent (silent_of_detects hi) rfl fun j hj =>
        silent_of_detects (hnew j (by simpa using hj))
  | scheduleTurn t bans hnew =>
      exact .of_silent ⟨rfl, rfl, rfl, rfl⟩ rfl fun j hj =>
        silent_of_schedules (hnew j (by simpa using hj))
  | filledUnlock captures =>
      refine .of_silent ⟨rfl, rfl, rfl, rfl⟩ rfl fun j hj => ?_
      obtain ⟨u, packets, -, rfl⟩ := by simpa using hj
      exact ⟨rfl, rfl, rfl, rfl⟩
  | snapshot | unbanSkipped | unBanFound | unBanUnknown | unBanGone | detected | packet |
    orphanedLock | orphanedUnlock | orphanedRefresh | orphanedOther | orphanedComplete |
    orphanedErase | filledLock | filledRefresh | filledBan | filledErase | processOff |
    processComplete | processManage | scheduleOff | schedule | captureRefused | captureBegun |
    captureEnabled | captureNotEnabled | captureComplete => exact .other rfl rfl rfl rfl rfl

/-! ### Agreement of the list with the last hook -/

/-- The counts of removals, unban hooks and ban hooks that are under way, whether
the host is listed, and the last hook that was called for it. -/
structure Agreement (removals unbanHooks banHooks : ℕ) (listed : Bool)
    (last : Option AttackAction) : Prop where
  /-- between the entry and the hook of a ban, no unban has had an effect -/
  banning : banHooks ≠ 0 → listed = true ∧ (removals = 0 ↔ unbanHooks = 0)
  settled : banHooks = 0 → removals = 0 → unbanHooks = 0 → (listed = true ↔ last = some .ban)
  hooked : banHooks = 0 → removals ≠ 0 → unbanHooks = 0 → last ≠ some .ban
  removed : banHooks = 0 → removals = 0 → unbanHooks ≠ 0 → listed = false

namespace Agreement

variable {r u b : ℕ} {listed : Bool} {last : Option AttackAction}

theorem start : Agreement 0 0 0 false none :=
  ⟨fun h => absurd rfl h, fun _ _ _ => by simp, fun _ h => absurd rfl h, fun _ _ h => absurd rfl h⟩

theorem ban : Agreement 0 0 (b + 1) true last :=
  ⟨fun _ => ⟨rfl, Iff.rfl⟩, fun h => absurd h (Nat.succ_ne_zero b),
    fun h => absurd h (Nat.succ_ne_zero b), fun h => absurd h (Nat.succ_ne_zero b)⟩

theorem banHook (h : Agreement r u (b + 1) listed last) :
    Agreement r u b listed (some .ban) := by
  obtain ⟨hlisted, hiff⟩ := h.banning (Nat.succ_ne_zero b)
  refine ⟨fun _ => ⟨hlisted, hiff⟩, fun _ _ _ => ?_, fun _ hr hu => ?_, fun _ hr hu => ?_⟩
  · exact ⟨fun _ => rfl, fun _ => hlisted⟩
  · exact absurd (hiff.mpr hu) hr
  · exact absurd (hiff.mp hr) hu

theorem unbanHook (h : Agreement r (u + 1) 0 listed last) :
    Agreement r u 0 listed (some .unban) := by
  refine ⟨fun h => absurd rfl h, fun _ hr _ => ?_, fun _ _ _ => by simp, fun _ hr _ => ?_⟩
  · simp [h.removed rfl hr (Nat.succ_ne_zero u)]
  · exact h.removed rfl hr (Nat.succ_ne_zero u)

theorem remove (h : Agreement (r + 1) u 0 listed last) : Agreement r u 0 false last := by
  refine ⟨fun h => absurd rfl h, fun _ _ hu => ?_, fun _ _ hu => ?_, fun _ _ _ => rfl⟩
  · simp [h.hooked rfl (Nat.succ_ne_zero r) hu]
  · exact h.hooked rfl (Nat.succ_ne_zero r) hu

theorem unban (h : Agreement r u b listed last) : Agreement (r + 1) (u + 1) b listed last :=
  ⟨fun hb => ⟨(h.banning hb).1, by simp⟩, fun _ hr => absurd hr (Nat.succ_ne_zero r),
    fun _ _ hu => absurd hu (Nat.succ_ne_zero u), fun _ hr => absurd hr (Nat.succ_ne_zero r)⟩

end Agreement

/-- The agreement for the host `v`. -/
def AgreesAt (v : UInt32) (s : DaemonState) (B : Multiset DaemonInstr)
    (last : Option AttackAction) : Prop :=
  Agreement (load (DaemonInstr.removals v) B) (load (DaemonInstr.unbanHooks v) B)
    (load (DaemonInstr.banHooks v) B) (s.banListIpv4.isBlackholed v) last

/-- Bans and unbans of `v` keep apart: no entry is added while an unban is in
progress, and an unban has no effect between the entry and the hook of a ban. -/
def DaemonInstr.Apart (v : UInt32) (B : Multiset DaemonInstr) (i : DaemonInstr) : Prop :=
  (i.addsEntry v = true → load (DaemonInstr.unbanning v) B = 0) ∧
    (i.effectsUnban v = true → load (DaemonInstr.banHooks v) B = 0)

instance (v : UInt32) (B : Multiset DaemonInstr) (i : DaemonInstr) : Decidable (i.Apart v B) :=
  inferInstanceAs (Decidable (_ ∧ _))

theorem load_unbanning_eq_zero (h : load (DaemonInstr.unbanning v) B = 0) :
    load (DaemonInstr.removals v) B = 0 ∧ load (DaemonInstr.unbanHooks v) B = 0 ∧
      load (DaemonInstr.lookups v) B = 0 := by
  have hsum : load (DaemonInstr.unbanning v) B = load (DaemonInstr.removals v) B
      + load (DaemonInstr.unbanHooks v) B + load (DaemonInstr.lookups v) B := by
    unfold load
    rw [← Multiset.sum_map_add, ← Multiset.sum_map_add]
    rfl
  omega

/-- One instruction keeps the agreement. -/
theorem AgreesAt.exec {last : Option AttackAction} (h : AgreesAt v s (i ::ₘ B) last)
    (he : BanListEffect v s i s' A) (hapart : i.Apart v (i ::ₘ B)) :
    AgreesAt v s' (A + B) ((i.hookIssued v).or last) := by
  unfold AgreesAt at h ⊢
  simp only [load_cons, load_add] at h ⊢
  cases he with
  | other hi hlist hr hu hb =>
      rw [hlist, hr, hu, hb, hi]
      exact h
  | ban attack packets hi hlist hA =>
      subst hi hA
      obtain ⟨hr, hu, -⟩ := load_unbanning_eq_zero (hapart.1 (by simp))
      rw [load_cons] at hr hu
      simp only [hlist, load_singleton, DaemonInstr.removals, DaemonInstr.unbanHooks,
        DaemonInstr.banHooks, if_true, zero_add] at hr hu ⊢
      rw [hr, hu, add_comm]
      exact .ban
  | hook action attack packets hi hlist hA =>
      subst hi
      rw [hlist, load_eq_zero fun j hj => (hA j hj).1, load_eq_zero fun j hj => (hA j hj).2.1,
        load_eq_zero fun j hj => (hA j hj).2.2.1]
      cases action with
      | ban =>
          simp only [DaemonInstr.removals, DaemonInstr.unbanHooks, DaemonInstr.banHooks, if_true,
            zero_add, add_comm 1] at h
          simpa using h.banHook
      | unban =>
          have hb := hapart.2 (by simp)
          rw [load_cons] at hb
          rw [hb] at h
          simp only [DaemonInstr.banHooks, zero_add] at hb
          simp only [DaemonInstr.removals, DaemonInstr.unbanHooks, if_true, zero_add,
            add_comm 1] at h
          simpa [hb] using h.unbanHook
  | remove hi hlist hA =>
      subst hi hA
      have hb := hapart.2 (by simp)
      rw [load_cons] at hb
      rw [hb] at h
      simp only [DaemonInstr.banHooks, zero_add] at hb
      simp only [DaemonInstr.removals, DaemonInstr.unbanHooks, if_true, zero_add,
        add_comm 1] at h
      simpa [hlist, hb] using h.remove
  | unban hi hlist hr hu hb =>
      rw [hlist, hr, hu, hb, hi, add_right_comm, add_right_comm _ 1]
      exact h.unban

/-! ### Runs -/

section Events

variable (config : DaemonConfiguration) (v : UInt32)

/-- The hook that a step calls for the host. -/
def hookIssued (w : Pool DaemonState DaemonInstr) :
    PoolEvent DaemonJob DaemonInput → Option AttackAction
  | .start _ => none
  | .run n _ => (w.next n).bind (DaemonInstr.hookIssued v)

/-- Thread `n` decides on an unban of the host. -/
def unbanDecided (n : ℕ) (w : Pool DaemonState DaemonInstr) :
    PoolEvent DaemonJob DaemonInput → Option Unit
  | .start _ => none
  | .run m input =>
      if m = n ∧ (w.next m).any (DaemonInstr.decidesUnban config v w.shared input) = true
      then some () else none

/-- A step adds an entry for the host. -/
def entryAdded (w : Pool DaemonState DaemonInstr) :
    PoolEvent DaemonJob DaemonInput → Option Unit
  | .start _ => none
  | .run n _ => if (w.next n).any (DaemonInstr.addsEntry v) = true then some () else none

/-- The step keeps bans and unbans of the host apart. -/
def BansApart (w : Pool DaemonState DaemonInstr) : PoolEvent DaemonJob DaemonInput → Prop
  | .start _ => True
  | .run n _ => ∀ i ∈ w.next n, i.Apart v w.pending

instance (w : Pool DaemonState DaemonInstr) (e : PoolEvent DaemonJob DaemonInput) :
    Decidable (BansApart v w e) :=
  match e with
  | .start _ => isTrue trivial
  | .run n _ => inferInstanceAs (Decidable (∀ i ∈ w.next n, i.Apart v w.pending))

/-- In the state `w` at the end of the run `es`: if nothing is under way for the
host, it is in the ban list exactly if the last hook called for it was a ban;
and if a thread is about to remove it, no entry was added for it since that
thread last decided on an unban of it. -/
def BanListAgrees (capacity : UInt32) (es : List (PoolEvent DaemonJob DaemonInput))
    (w : Pool DaemonState DaemonInstr) : Prop :=
  (load (DaemonInstr.unbanning v) w.pending = 0 → load (DaemonInstr.banHooks v) w.pending = 0 →
    (w.shared.banListIpv4.isBlackholed v = true ↔
      (trace (daemonMachine config).step (hookIssued v) (daemonStart capacity) es).getLast?
        = some .ban)) ∧
  ∀ es₁ es₂ w₁ n, es = es₁ ++ es₂ →
    runEvents (daemonMachine config).step (daemonStart capacity) es₁ = some w₁ →
    w.next n = some (.removeFromBlackhole v) →
    trace (daemonMachine config).step (unbanDecided config v n) w₁ es₂ = [] →
    trace (daemonMachine config).step (entryAdded v) w₁ es₂ = []

end Events

/-- New jobs have nothing under way. -/
theorem silent_program {job : DaemonJob} (hi : i ∈ job.program) :
    i.Silent v ∧ i.lookups v = 0 := by
  cases job with
  | executeBan u ours =>
      cases ours with
      | false => cases hi
      | true =>
          obtain rfl := List.mem_singleton.mp hi
          exact ⟨⟨rfl, rfl, rfl, rfl⟩, rfl⟩
  | _ =>
      obtain rfl := List.mem_singleton.mp hi
      exact ⟨⟨rfl, rfl, rfl, rfl⟩, rfl⟩

theorem AgreesAt.start {last : Option AttackAction} (h : AgreesAt v s B last) (job : DaemonJob) :
    AgreesAt v s (B + (job.program : Multiset DaemonInstr)) last := by
  have hsilent : ∀ i ∈ (job.program : Multiset DaemonInstr), i.Silent v :=
    fun i hi => (silent_program hi).1
  have hr := load_eq_zero fun i hi => (hsilent i hi).1
  have hu := load_eq_zero fun i hi => (hsilent i hi).2.1
  have hb := load_eq_zero fun i hi => (hsilent i hi).2.2.1
  unfold AgreesAt at h ⊢
  simp only [load_add, hr, hu, hb, add_zero]
  exact h

theorem agreesAt_step {hooks : List AttackAction} {e : PoolEvent DaemonJob DaemonInput}
    (h : AgreesAt v w.shared w.pending hooks.getLast?) (hapart : BansApart v w e)
    (hs : (daemonMachine config).step w e = some w') :
    AgreesAt v w'.shared w'.pending (hooks ++ (hookIssued v w e).toList).getLast? := by
  rcases Machine.step_cases hs with
    ⟨job, rfl, hsh, hp⟩ | ⟨n, input, i, new, forked, B, rfl, hi, he, hp, hp'⟩
  · rw [hsh, hp, hookIssued, Option.toList_none, List.append_nil]
    exact h.start job
  · have hhook : hookIssued v w (.run n input) = i.hookIssued v := by simp [hookIssued, hi]
    have hlast : (hooks ++ (i.hookIssued v).toList).getLast?
        = (i.hookIssued v).or hooks.getLast? := by
      rcases i.hookIssued v with - | action <;> simp
    have happart := hapart i hi
    rw [hp] at h happart
    rw [hp', hhook, hlast]
    exact h.exec (DaemonInstr.exec_effect he).banList happart

/-! ### Removals that a thread has decided on -/

/-- Removals of the host that the thread will make unless it finds no entry. -/
def DaemonInstr.removalsDue (v : UInt32) (i : DaemonInstr) : ℕ := i.removals v + i.lookups v

namespace DaemonInstr

theorem Effect.load_removalsDue_forked (h : Effect config input s i s' new forked) :
    load (removalsDue v) (forked.flatten : Multiset DaemonInstr) = 0 := by
  cases h with
  | worker he =>
      rw [← List.map_flatten, load_map_flowspec]
      exact load_eq_zero fun _ _ => rfl
  | hook action u attack packets =>
      refine load_eq_zero fun j hj => ?_
      have hj' : j ∈ (([] : List DaemonInstr) : Multiset DaemonInstr)
          + ((gobgpThread config action u attack packets).flatten : Multiset DaemonInstr) :=
        Multiset.mem_add.mpr (.inr hj)
      rcases (mem_gobgpThread hj').2 with ⟨-, rfl⟩ | ⟨r, rfl⟩ <;> rfl
  | _ => rfl

/-- Only a decision makes removals due. -/
theorem Effect.load_removalsDue_le (h : Effect config input s i s' new forked)
    (hno : i.decidesUnban config v s input = false) :
    load (removalsDue v) (new : Multiset DaemonInstr) ≤ i.removalsDue v := by
  have hzero : ∀ {l : List DaemonInstr}, (∀ j ∈ l, j.removalsDue v = 0) →
      load (removalsDue v) (l : Multiset DaemonInstr) ≤ i.removalsDue v := fun hl => by
    rw [load_eq_zero fun j hj => hl j hj]
    exact Nat.zero_le _
  cases h with
  | worker he =>
      refine hzero fun j hj => ?_
      obtain ⟨j, -, rfl⟩ := List.mem_map.mp hj
      rfl
  | unbanDecided t u rest erase hready =>
      have huv : u ≠ v := by
        rintro rfl
        simp [hready] at hno
      simp [removalsDue, huv]
  | unbanSkipped | unBanGone => simp [removalsDue]
  | unbanRemovals t erase =>
      have hcount : load (removalsDue v)
          ((erase.map .removeFromBlackhole : List DaemonInstr) : Multiset DaemonInstr)
          = load (removals v)
            ((erase.map .removeFromBlackhole : List DaemonInstr) : Multiset DaemonInstr) := by
        rw [load_coe, load_coe, List.map_map, List.map_map]
        rfl
      rw [hcount, load_removals]
      simp [removalsDue]
  | @unBanFound u hu =>
      have huv : u ≠ v := by
        rintro rfl
        simp [hu] at hno
      simp [removalsDue, huv]
  | unBanDetails attack hu => simp [removalsDue]
  | detect hi hnew =>
      refine hzero fun j hj => ?_
      have hdetects := hnew j hj
      cases j <;> first | rfl | cases hdetects
  | scheduleTurn t bans hnew =>
      refine hzero fun j hj => ?_
      have hschedules := hnew j hj
      cases j <;> first | rfl | cases hschedules
  | filledUnlock captures =>
      refine hzero fun j hj => ?_
      obtain ⟨capture, -, rfl⟩ := List.mem_map.mp hj
      rfl
  | _ => exact hzero (by simp [removalsDue])

end DaemonInstr

theorem removalsDue_le_unbanning (i : DaemonInstr) : i.removalsDue v ≤ i.unbanning v := by
  unfold DaemonInstr.removalsDue DaemonInstr.unbanning
  omega

/-- The removals due in thread `n` grow only when it decides. -/
theorem thread_removalsDue_le {n : ℕ} {e : PoolEvent DaemonJob DaemonInput}
    (hs : (daemonMachine config).step w e = some w') (hno : unbanDecided config v n w e = none) :
    load (DaemonInstr.removalsDue v) (w'.thread n : Multiset DaemonInstr)
      ≤ load (DaemonInstr.removalsDue v) (w.thread n : Multiset DaemonInstr) := by
  refine Machine.load_thread_le hs (fun job => ?_) (fun he => ?_) fun {input i new forked} he hi hx => ?_
  · refine load_eq_zero fun i hi => ?_
    obtain ⟨hsilent, hlookups⟩ := silent_program hi
    rw [DaemonInstr.removalsDue, hsilent.1, hlookups]
  · exact (DaemonInstr.exec_effect he).load_removalsDue_forked
  · refine (DaemonInstr.exec_effect hx).load_removalsDue_le ?_
    subst he
    simpa [unbanDecided, hi] using hno

/-- While a removal is due in some thread, no entry is added. -/
theorem no_entry_added {n : ℕ} {es : List (PoolEvent DaemonJob DaemonInput)}
    (h : Runs (daemonMachine config).step (BansApart v) w es w')
    (hdecided : trace (daemonMachine config).step (unbanDecided config v n) w es = [])
    (hdue : 0 < load (DaemonInstr.removalsDue v) (w'.thread n : Multiset DaemonInstr)) :
    0 < load (DaemonInstr.removalsDue v) (w.thread n : Multiset DaemonInstr) ∧
      trace (daemonMachine config).step (entryAdded v) w es = [] := by
  induction h with
  | refl => exact ⟨hdue, rfl⟩
  | @head s s' t e es hC hs _ ih =>
      rw [trace, hs, Option.elim_some, List.append_eq_nil_iff] at hdecided
      obtain ⟨hno, hdecided⟩ := hdecided
      obtain ⟨hdue', hnone⟩ := ih hdecided hdue
      have hle := thread_removalsDue_le hs (by simpa using hno)
      refine ⟨by omega, ?_⟩
      rw [trace, hs, Option.elim_some, hnone, List.append_nil]
      have hunbanning : 0 < load (DaemonInstr.unbanning v) s.pending := by
        have h₁ := load_thread_le_pending (f := DaemonInstr.removalsDue v) s n
        have h₂ := load_le_load (B := s.pending) (removalsDue_le_unbanning (v := v))
        omega
      cases e with
      | start job => rfl
      | run m input =>
          have hadd : (s.next m).any (DaemonInstr.addsEntry v) = false := by
            rcases hm : s.next m with - | i
            · rfl
            · rw [Option.any_some, Bool.eq_false_iff]
              intro hi
              have hapart := (hC i hm).1 hi
              omega
          simp [entryAdded, hadd]

/-- **The ban list agrees with the hooks.**  In every run whose steps keep bans
and unbans of `v` apart, in every state: if nothing is under way for `v`, it is
in the ban list exactly if the last hook called for it was a ban, and no unban
removes an entry that was added after it was decided. -/
theorem ban_list_agrees {capacity : UInt32} {es : List (PoolEvent DaemonJob DaemonInput)}
    (h : Runs (daemonMachine config).step (BansApart v) (daemonStart capacity) es w) :
    BanListAgrees config v capacity es w := by
  refine ⟨fun hunbans hbans => ?_, fun es₁ es₂ w₁ n hes hw₁ hnext hdecided => ?_⟩
  · have hstart : AgreesAt v (daemonStart capacity).shared (daemonStart capacity).pending none :=
      Agreement.start
    have hagrees : AgreesAt v w.shared w.pending (trace (daemonMachine config).step
        (hookIssued v) (daemonStart capacity) es).getLast? :=
      h.trace_invariant (I := fun w hooks => AgreesAt v w.shared w.pending hooks.getLast?)
        agreesAt_step hstart
    obtain ⟨hr, hu, -⟩ := load_unbanning_eq_zero hunbans
    exact hagrees.settled hbans hr hu
  · subst hes
    obtain ⟨w₁', h₁, h₂⟩ := h.split
    obtain rfl : w₁' = w₁ := by
      have hsome := runs_iff_runEvents.mp (h₁.mono fun _ _ _ => trivial)
      exact Option.some.inj (hsome.symm.trans hw₁)
    refine (no_entry_added h₂ hdecided ?_).2
    obtain ⟨t, ht, hhead⟩ := Option.bind_eq_some_iff.mp hnext
    obtain ⟨rest, rfl⟩ : ∃ rest, t = .removeFromBlackhole v :: rest := by
      cases t with
      | nil => cases hhead
      | cons i rest =>
          obtain rfl := Option.some.inj hhead
          exact ⟨rest, rfl⟩
    rw [Pool.thread, ht, Option.getD_some, load_coe_cons]
    simp [DaemonInstr.removalsDue]

/-- Host 1 is detected, a packet of it is captured, and it is banned. -/
def banOne : List (PoolEvent DaemonJob DaemonInput) :=
  [.start (.speedCalculationCallbackLocalIpv4 1
      { attackProtocol := 17, attackDirection := .incoming }), .run 0 {}, .run 0 {}, .run 0 {},
    .start (.addPacketToStorage 1 {}), .run 1 {},
    .start .processFilledBucketsIpv4, .run 2 {}, .run 2 {}, .run 2 {}, .run 2 {}, .run 2 {},
    .run 2 {}]

/-- A ban that is over before the unban of the host begins. -/
theorem ban_list_agrees_ban_then_unban :
    ∃ (w : Pool DaemonState DaemonInstr) (es : List (PoolEvent DaemonJob DaemonInput)),
      trace (daemonMachine {}).step (hookIssued 1) (daemonStart 1) es = [.ban, .unban] ∧
      BanListAgrees {} 1 1 es w ∧ w.shared.banListIpv4.isBlackholed 1 = false := by
  let es : List (PoolEvent DaemonJob DaemonInput) :=
    banOne ++ [.start .executeUnbanOperationIpv4, .run 4 { now := 10 }, .run 4 {}, .run 4 {},
      .run 4 {}, .run 4 {}]
  obtain ⟨w, hw, hlist⟩ :
      ∃ w ∈ runEvents (restrictTo (daemonMachine {}).step (BansApart 1)) (daemonStart 1) es,
        w.shared.banListIpv4.isBlackholed 1 = false := by
    decide
  exact ⟨w, es, by decide, ban_list_agrees (runs_restrictTo (runs_iff_runEvents.mpr hw)), hlist⟩

/-- The cleanup decides to unban a host and calls its hook, the host is banned
again through the API, and then the cleanup removes it: the last hook was a
ban, nothing is under way, and the host is not in the list. -/
theorem ban_list_loses_ban :
    ¬ ∀ (config : DaemonConfiguration) (v capacity : UInt32)
        (es : List (PoolEvent DaemonJob DaemonInput)) (w : Pool DaemonState DaemonInstr),
      Runs (daemonMachine config).step Always (daemonStart capacity) es w →
      BanListAgrees config v capacity es w := by
  intro hall
  let es : List (PoolEvent DaemonJob DaemonInput) :=
    banOne ++ [.start .executeUnbanOperationIpv4, .run 4 { now := 10 }, .run 4 {}, .run 4 {},
      .start (.executeBan 1 true), .run 6 {}, .run 6 {}, .run 4 {}, .run 4 {}]
  obtain ⟨w, hw, hunbans, hbans, hlist⟩ :
      ∃ w ∈ runEvents (daemonMachine {}).step (daemonStart 1) es,
        load (DaemonInstr.unbanning 1) w.pending = 0 ∧
          load (DaemonInstr.banHooks 1) w.pending = 0 ∧
          w.shared.banListIpv4.isBlackholed 1 = false := by
    decide
  have hlast : (trace (daemonMachine {}).step (hookIssued 1) (daemonStart 1) es).getLast?
      = some .ban := by
    decide
  have hagrees := (hall {} 1 1 es w (runs_iff_runEvents.mpr hw)).1 hunbans hbans
  rw [hlist] at hagrees
  exact Bool.false_ne_true (hagrees.mpr hlast)

end FastNetMon
