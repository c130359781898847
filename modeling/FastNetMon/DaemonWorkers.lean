/-
FastNetMon/DaemonWorkers.lean

The daemon, seen by the FlowSpec workers.

What the daemon's threads do to the lifecycle and to GoBGP is what workers do:
they start workers, run their instructions, and make the two capture calls.
`FlowspecEffect` lists the ways in which one instruction of the daemon can do
so, and `exec_flowspec` says that these are all.

Main results: every run of the daemon is a sequence of moves of workers
(`daemon_simulates_workers`), so what was proved of the workers holds in the
daemon (`coherent_of_daemon_run`).
-/
import Mathlib
import FastNetMon.DaemonSteps
import FastNetMon.WorkerInvariant

namespace FastNetMon

open Std

variable {config : DaemonConfiguration} {w w' : Pool DaemonState DaemonInstr}
  {i : DaemonInstr} {input : DaemonInput} {s s' : DaemonState} {new : List DaemonInstr}
  {forked : List (List DaemonInstr)} {B : Multiset DaemonInstr}

/-! ### The workers' part of the bag -/

/-- The instruction of a FlowSpec worker, if it is one. -/
def DaemonInstr.flowspec? : DaemonInstr → Option FlowspecInstr
  | .flowspec i => some i
  | _ => none

/-- The instructions of workers in a bag of the daemon's instructions. -/
def flowspecPart (B : Multiset DaemonInstr) : Multiset FlowspecInstr :=
  B.filterMap DaemonInstr.flowspec?

/-- The workers' part of what is pending. -/
theorem mem_flowspecPart {j : FlowspecInstr} : j ∈ flowspecPart B ↔ .flowspec j ∈ B := by
  rw [flowspecPart, Multiset.mem_filterMap]
  constructor
  · rintro ⟨i, hi, hj⟩
    cases i with
    | flowspec i =>
        obtain rfl := Option.some.inj hj
        exact hi
    | _ => cases hj
  · intro h
    exact ⟨_, h, rfl⟩

theorem flowspecPart_add (A B : Multiset DaemonInstr) :
    flowspecPart (A + B) = flowspecPart A + flowspecPart B :=
  Multiset.filterMap_add _ _ _

/-- An instruction of a worker stays in the part. -/
theorem flowspecPart_cons_flowspec (j : FlowspecInstr) :
    flowspecPart (.flowspec j ::ₘ B) = j ::ₘ flowspecPart B :=
  Multiset.filterMap_cons_some _ _ _ rfl

/-- Any other instruction leaves it. -/
theorem flowspecPart_cons (h : i.flowspec? = none) :
    flowspecPart (i ::ₘ B) = flowspecPart B :=
  Multiset.filterMap_cons_none _ _ h

theorem flowspecPart_coe_map (l : List FlowspecInstr) :
    flowspecPart ((l.map .flowspec : List DaemonInstr) : Multiset DaemonInstr) = l := by
  rw [flowspecPart, Multiset.filterMap_coe, List.filterMap_map]
  have hsome : DaemonInstr.flowspec? ∘ DaemonInstr.flowspec = some := rfl
  rw [hsome, List.filterMap_some]

/-- Instructions of other threads have no such part. -/
theorem flowspecPart_eq_zero (h : ∀ i ∈ B, i.flowspec? = none) : flowspecPart B = 0 := by
  rw [Multiset.eq_zero_iff_forall_notMem]
  intro j hj
  have hnone := h _ (mem_flowspecPart.mp hj)
  cases hnone

/-! ### What an instruction of the daemon does to the workers -/

/-- `FlowspecEffect config i reply s s' new`: the instruction `i` takes the
workers' state from `s` to `s'` and leaves the workers' instructions `new`. -/
inductive FlowspecEffect (config : GobgpFlowspecConfiguration) (i : DaemonInstr)
    (reply : RpcReply) (s : FlowspecState) : FlowspecState → Multiset FlowspecInstr → Prop
  /-- a worker runs -/
  | run {j s' new forked} (hi : i = .flowspec j)
      (he : j.exec config reply s = some (s', new, forked)) :
      FlowspecEffect config i reply s s'
        ((new : Multiset FlowspecInstr) + (forked.flatten : Multiset FlowspecInstr))
  /-- a worker is started -/
  | start (job : FlowspecJob) (hi : i.flowspec? = none)
      (hon : ∀ j ∈ job.program config, config.gobgp = true ∧ config.gobgpFlowspec = true) :
      FlowspecEffect config i reply s s (job.program config : Multiset FlowspecInstr)
  /-- the lifecycle is called directly -/
  | call {j s'} (job : FlowspecJob) (hi : i.flowspec? = none) (hjob : job.program config = [j])
      (he : j.exec config reply s = some (s', [], [])) :
      FlowspecEffect config i reply s s' 0
  /-- nothing -/
  | skip (hi : i.flowspec? = none) : FlowspecEffect config i reply s s 0

/-- An instruction outside the workers that leaves their state alone does nothing to them. -/
theorem FlowspecEffect.of_eq {config : GobgpFlowspecConfiguration} {i : DaemonInstr}
    {reply : RpcReply} {s s' : FlowspecState} {B : Multiset DaemonInstr}
    (hi : i.flowspec? = none) (hs : s' = s) (hB : ∀ j ∈ B, j.flowspec? = none) :
    FlowspecEffect config i reply s s' (flowspecPart B) := by
  rw [hs, flowspecPart_eq_zero hB]
  exact .skip hi

/-- The workers are called only if flow spec rules are configured. -/
theorem gobgpFlowspec_of_mem_banManage {config : GobgpFlowspecConfiguration} {u : UInt32}
    {isWithdrawal : Bool} {attack : AttackDetails} {port : Option UInt16} {j : FlowspecInstr}
    (hj : j ∈ gobgpBanManageIpv4 config u isWithdrawal attack port) :
    config.gobgpFlowspec = true := by
  rcases hoff : config.gobgpFlowspec with - | -
  · rw [gobgpBanManageIpv4, hoff] at hj
    cases hj
  · rfl

/-- The hook forks one worker: UNBAN, or BAN if its rule has a key. -/
theorem mem_gobgpThread {action : AttackAction} {u : UInt32} {attack : AttackDetails}
    {packets : List SimplePacket} {j : DaemonInstr}
    (hj : j ∈ (([] : List DaemonInstr) : Multiset DaemonInstr)
      + ((gobgpThread config action u attack packets).flatten : Multiset DaemonInstr)) :
    (config.gobgp = true ∧ config.gobgpFlowspec = true) ∧
      ((action = .unban ∧ j = .flowspec (.beginWithdrawForVictim u)) ∨
        ∃ r : GobgpFlowspecAnnounceRequest, j = .flowspec (.beginAnnounce r)) := by
  rw [Multiset.coe_nil, zero_add, Multiset.mem_coe] at hj
  unfold gobgpThread at hj
  split at hj
  · rename_i hgobgp
    rw [List.flatten_singleton] at hj
    obtain ⟨j, hmem, rfl⟩ := List.mem_map.mp hj
    have hflowspec := gobgpFlowspec_of_mem_banManage hmem
    rcases gobgpBanManageIpv4_cases config.toGobgpFlowspecConfiguration u (action = .unban) attack
      _ with h | ⟨haction, h⟩ | ⟨r, -, -, -, h⟩ <;> rw [h] at hmem
    · cases hmem
    · obtain rfl := List.mem_singleton.mp hmem
      exact ⟨⟨hgobgp, hflowspec⟩, .inl ⟨of_decide_eq_true haction, rfl⟩⟩
    · obtain rfl := List.mem_singleton.mp hmem
      exact ⟨⟨hgobgp, hflowspec⟩, .inr ⟨r, rfl⟩⟩
  · cases hj

namespace DaemonInstr

/-- A weight on the instructions of workers, seen from the daemon. -/
theorem load_map_flowspec {f : DaemonInstr → ℕ} (l : List FlowspecInstr) :
    load f ((l.map .flowspec : List DaemonInstr) : Multiset DaemonInstr)
      = load (fun j => f (.flowspec j)) (l : Multiset FlowspecInstr) := by
  simp [load_coe, Function.comp_def]

/-- The load of what a worker leaves behind. -/
theorem load_worker {f : DaemonInstr → ℕ} (new : List FlowspecInstr)
    (forked : List (List FlowspecInstr)) :
    load f (((new.map .flowspec : List DaemonInstr) : Multiset DaemonInstr)
        + ((forked.map (List.map .flowspec)).flatten : List DaemonInstr))
      = load (fun j => f (.flowspec j))
          ((new : Multiset FlowspecInstr) + (forked.flatten : Multiset FlowspecInstr)) := by
  rw [load_add, ← List.map_flatten, load_map_flowspec, load_map_flowspec, load_add]

/-- What the worker of a ban or unban weighs. -/
theorem load_gobgpThread {f : DaemonInstr → ℕ} (action : AttackAction) (u : UInt32)
    (attack : AttackDetails) (packets : List SimplePacket)
    (hw : ∀ u, f (.flowspec (.beginWithdrawForVictim u)) = 0)
    (ha : ∀ r, f (.flowspec (.beginAnnounce r)) = 0) :
    load f ((([] : List DaemonInstr) : Multiset DaemonInstr)
      + ((gobgpThread config action u attack packets).flatten : Multiset DaemonInstr)) = 0 := by
  refine load_eq_zero fun i hi => ?_
  rcases (mem_gobgpThread hi).2 with ⟨-, rfl⟩ | ⟨r, rfl⟩
  · exact hw u
  · exact ha r

theorem flowspec?_of_detects (h : i.detects = true) : i.flowspec? = none := by
  cases i <;> first | rfl | cases h

theorem flowspec?_of_schedules (h : i.schedules = true) : i.flowspec? = none := by
  cases i <;> first | rfl | cases h

/-- Every instruction of the daemon is, for the workers, a step of theirs, a new job, a call or
nothing. -/
theorem exec_flowspec (he : i.exec config input s = some (s', new, forked)) :
    FlowspecEffect config.toGobgpFlowspecConfiguration i input.reply s.flowspec s'.flowspec
      (flowspecPart ((new : Multiset DaemonInstr) + (forked.flatten : Multiset DaemonInstr))) := by
  cases exec_effect he with
  | @worker j t new' forked' hj =>
      have hpart : flowspecPart
          (((new'.map .flowspec : List DaemonInstr) : Multiset DaemonInstr)
            + ((forked'.map (List.map .flowspec)).flatten : List DaemonInstr))
          = (new' : Multiset FlowspecInstr) + (forked'.flatten : Multiset FlowspecInstr) := by
        rw [flowspecPart_add, flowspecPart_coe_map, ← List.map_flatten, flowspecPart_coe_map]
      rw [hpart]
      exact .run rfl hj
  | hook action v attack packets =>
      unfold gobgpThread
      split
      · rename_i hgobgp
        rw [List.flatten_singleton, Multiset.coe_nil, zero_add, flowspecPart_coe_map]
        refine .start (.banManage v (action = .unban) attack _) rfl fun j hj => ⟨hgobgp, ?_⟩
        exact gobgpFlowspec_of_mem_banManage hj
      · exact .skip rfl
  | processManage v packets results hon =>
      simp only [DaemonConfiguration.refreshOff, Bool.or_eq_false_iff, Bool.not_eq_false'] at hon
      exact .start (.refreshManage v results) rfl fun _ _ => hon.1
  | captureBegun t details => exact .call (.refreshBeginCapture _) rfl rfl rfl
  | captureComplete caller v => exact .call (.refreshCompleteCapture v) rfl rfl rfl
  | orphanedComplete v rest => exact .call (.refreshCompleteCapture v) rfl rfl rfl
  | detect hi hnew =>
      exact .of_eq (flowspec?_of_detects hi) rfl fun j hj =>
        flowspec?_of_detects (hnew j (by simpa using hj))
  | scheduleTurn t bans hnew =>
      exact .of_eq rfl rfl fun j hj => flowspec?_of_schedules (hnew j (by simpa using hj))
  | unbanRemovals t erase =>
      refine .of_eq rfl rfl fun j hj => ?_
      obtain ⟨v, -, rfl⟩ : ∃ v ∈ erase, removeFromBlackhole v = j := by simpa using hj
      rfl
  | filledUnlock captures =>
      refine .of_eq rfl rfl fun j hj => ?_
      obtain ⟨v, packets, -, rfl⟩ := by simpa using hj
      rfl
  | ban | remove | snapshot | unbanDecided | unbanSkipped | unBanFound | unBanUnknown |
    unBanDetails | unBanGone | detected | packet | orphanedLock | orphanedUnlock |
    orphanedRefresh | orphanedOther | orphanedErase | filledLock | filledRefresh | filledBan |
    filledErase | processOff | processComplete | scheduleOff | schedule | captureRefused |
    captureEnabled | captureNotEnabled => exact .of_eq rfl rfl (by simp [flowspec?])

end DaemonInstr

/-! ### The daemon runs workers -/

/-- New jobs start no worker at once. -/
theorem flowspec?_program {job : DaemonJob} (hi : i ∈ job.program) : i.flowspec? = none := by
  cases job with
  | executeBan v ours =>
      cases ours with
      | false => cases hi
      | true =>
          obtain rfl := List.mem_singleton.mp hi
          rfl
  | _ =>
      obtain rfl := List.mem_singleton.mp hi
      rfl

/-- A move of workers, seen on their state and the bag of their instructions:
one is started, or an instruction of one is run. -/
inductive WorkerMove (config : GobgpFlowspecConfiguration) :
    FlowspecState × Multiset FlowspecInstr → FlowspecState × Multiset FlowspecInstr → Prop
  | start (s : FlowspecState) (B : Multiset FlowspecInstr) (job : FlowspecJob) :
      WorkerMove config (s, B) (s, B + (job.program config : Multiset FlowspecInstr))
  | run {s s' : FlowspecState} {i : FlowspecInstr} {reply : RpcReply} {new : List FlowspecInstr}
      {forked : List (List FlowspecInstr)} (B : Multiset FlowspecInstr)
      (he : i.exec config reply s = some (s', new, forked)) :
      WorkerMove config (s, i ::ₘ B)
        (s', (new : Multiset FlowspecInstr) + (forked.flatten : Multiset FlowspecInstr) + B)

/-- The workers in a pool of the daemon's threads. -/
def workers (w : Pool DaemonState DaemonInstr) : FlowspecState × Multiset FlowspecInstr :=
  (w.shared.flowspec, flowspecPart w.pending)

/-- An instruction of the daemon is at most two moves of workers. -/
theorem FlowspecEffect.moves {config : GobgpFlowspecConfiguration} {reply : RpcReply}
    {s s' : FlowspecState} {new : Multiset FlowspecInstr}
    (h : FlowspecEffect config i reply s s' new) :
    Relation.ReflTransGen (WorkerMove config) (s, flowspecPart (i ::ₘ B))
      (s', new + flowspecPart B) := by
  cases h with
  | run hi he =>
      rw [hi, flowspecPart_cons_flowspec]
      exact .single (.run _ he)
  | start job hi _ =>
      rw [flowspecPart_cons hi, add_comm]
      exact .single (.start _ _ job)
  | call job hi hjob he =>
      rw [flowspecPart_cons hi]
      refine (Relation.ReflTransGen.single (.start _ _ job)).tail ?_
      rw [hjob, add_comm, Multiset.coe_singleton, Multiset.singleton_add]
      exact .run _ he
  | skip hi =>
      rw [flowspecPart_cons hi, zero_add]

/-- **Every run of the daemon is a sequence of moves of workers.** -/
theorem daemon_simulates_workers {C : Pool DaemonState DaemonInstr → PoolEvent DaemonJob DaemonInput → Prop}
    {es : List (PoolEvent DaemonJob DaemonInput)} (h : Runs (daemonMachine config).step C w es w') :
    Relation.ReflTransGen (WorkerMove config.toGobgpFlowspecConfiguration)
      (workers w) (workers w') := by
  refine h.simulate fun {w e w'} _ hs => ?_
  unfold workers
  rcases Machine.step_cases hs with
    ⟨job, -, hsh, hp⟩ | ⟨n, input, i, new, forked, B, -, -, he, hp, hp'⟩
  · have hnone : flowspecPart (job.program : Multiset DaemonInstr) = 0 :=
      flowspecPart_eq_zero fun i hi => flowspec?_program hi
    rw [hsh, hp, flowspecPart_add, show flowspecPart ((daemonMachine config).program job) = 0
      from hnone, add_zero]
  · rw [hp, hp', flowspecPart_add]
    exact (DaemonInstr.exec_flowspec he).moves

/-- What was proved of the workers holds along their moves. -/
theorem coherent_of_moves {config : GobgpFlowspecConfiguration}
    {p p' : FlowspecState × Multiset FlowspecInstr}
    (h : Relation.ReflTransGen (WorkerMove config) p p')
    (hp : ∃ token, Coherent config p.1 p.2 token) : ∃ token, Coherent config p'.1 p'.2 token := by
  induction h with
  | refl => exact hp
  | tail _ hmove ih =>
      obtain ⟨token, ih⟩ := ih
      cases hmove with
      | start s B job => exact ⟨token, ih.start job⟩
      | run B he => exact ih.exec he

/-- So the invariant of the workers holds in every run of the daemon. -/
theorem coherent_of_daemon_run {C : Pool DaemonState DaemonInstr → PoolEvent DaemonJob DaemonInput → Prop}
    {capacity : UInt32} {es : List (PoolEvent DaemonJob DaemonInput)}
    (h : Runs (daemonMachine config).step C (daemonStart capacity) es w) :
    ∃ token, Coherent config.toGobgpFlowspecConfiguration w.shared.flowspec
      (flowspecPart w.pending) token :=
  coherent_of_moves (daemon_simulates_workers h) coherent_start

end FastNetMon
