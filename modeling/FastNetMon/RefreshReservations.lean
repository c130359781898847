/-
FastNetMon/RefreshReservations.lean

Who holds the refresh reservation of a victim.

A reservation is begun by the scheduler and passes from hand to hand: to the
bucket of the capture, to the local vector of the bucket processor, to the
refresh worker.  Each of them either hands it on or ends it with
`finish_refresh_capture`.  The holders of a reservation are counted
(`schedulerHolds`, `bucketHolds`, `captureHolds`, `workerHolds`), and the
invariant is that this count is one for the victims in
`victims_refresh_in_progress` and zero for all others (`Balanced`).

The critical sections of `packet_buckets_map_mutex` matter in two places:
`remove_orphaned_buckets` ends the reservation before it erases the bucket, and
`process_filled_buckets_ipv4` erases buckets that it looked at before.  So the
invariant also says that at most one thread is in such a section (`Sections`),
and that what it found out about its bucket still holds (`Marked`).

Main result: `refresh_reservations_matched`.
-/
import Mathlib
import FastNetMon.DaemonWorkers

namespace FastNetMon

open Std

variable {config : DaemonConfiguration} {w w' : Pool DaemonState DaemonInstr}
  {i : DaemonInstr} {input : DaemonInput} {s s' : DaemonState} {new : List DaemonInstr}
  {forked : List (List DaemonInstr)} {A B : Multiset DaemonInstr} {v : UInt32}

/-! ### Holders -/

/-- A refresh worker ends with `finish_refresh_capture`. -/
@[simp] def FlowspecInstr.finishes (v : UInt32) : FlowspecInstr → ℕ
  | .finishRefreshCapture u => if u = v then 1 else 0
  | _ => 0

/-- The result of a capture is about to be handed to a refresh worker. -/
@[simp] def FlowspecInstr.manages (v : UInt32) : FlowspecInstr → ℕ
  | .refreshManage u _ => if u = v then 1 else 0
  | _ => 0

namespace DaemonInstr

/-- The scheduler has begun a capture and not yet enabled it, or could not
enable it and is about to end the reservation. -/
@[simp] def schedulerHolds (v : UInt32) : DaemonInstr → ℕ
  | .refreshEnableCapture _ u _ => if u = v then 1 else 0
  | .refreshCompleteIpv4Capture .scheduler u => if u = v then 1 else 0
  | _ => 0

/-- A capture was taken out of the map, and is in `refresh_buckets` or processed. -/
@[simp] def captureHolds (v : UInt32) : DaemonInstr → ℕ
  | .filledLoop _ refreshBuckets => (refreshBuckets.map Prod.fst).count v
  | .filledErase _ _ refreshBuckets => (refreshBuckets.map Prod.fst).count v
  | .refreshProcessIpv4Capture u _ => if u = v then 1 else 0
  | .refreshCompleteIpv4Capture .captureProcessing u => if u = v then 1 else 0
  | .flowspec j => j.manages v
  | _ => 0

/-- A refresh worker runs. -/
@[simp] def workerHolds (v : UInt32) : DaemonInstr → ℕ
  | .flowspec j => j.finishes v
  | _ => 0

/-- The instruction belongs to a holder of the reservation, of whichever kind. -/
@[simp] def holds (v : UInt32) (i : DaemonInstr) : ℕ :=
  i.schedulerHolds v + i.captureHolds v + i.workerHolds v

theorem load_holds (B : Multiset DaemonInstr) :
    load (holds v) B = load (schedulerHolds v) B + load (captureHolds v) B
      + load (workerHolds v) B := by
  unfold load
  rw [← Multiset.sum_map_add, ← Multiset.sum_map_add]
  rfl

/-- `remove_orphaned_buckets` has ended the reservation and erases the bucket next. -/
@[simp] def erases (v : UInt32) : DaemonInstr → ℕ
  | .orphanedErase u _ => if u = v then 1 else 0
  | _ => 0

/-- The thread is in a critical section of `packet_buckets_map_mutex`. -/
def inSection : DaemonInstr → ℕ
  | .orphanedLoop _ | .orphanedComplete _ _ | .orphanedErase _ _ | .filledLoop _ _
  | .filledErase _ _ _ => 1
  | _ => 0

end DaemonInstr

namespace DaemonState

/-- There is a bucket of a refresh capture of the victim. -/
def hasRefreshBucket (s : DaemonState) (v : UInt32) : Prop :=
  s.packetBucketsIpv4Storage.patternOf v = some .flowSpecRefreshOnce

instance (s : DaemonState) (v : UInt32) : Decidable (s.hasRefreshBucket v) :=
  inferInstanceAs (Decidable (_ = _))

/-- The reservation of the victim. -/
def reserved (s : DaemonState) (v : UInt32) : ℕ :=
  if v ∈ s.flowspec.lifecycle.victimsRefreshInProgress then 1 else 0

/-- The bucket of a refresh capture holds the reservation, unless it is only
about to be erased. -/
def bucketHolds (s : DaemonState) (B : Multiset DaemonInstr) (v : UInt32) : ℕ :=
  if s.hasRefreshBucket v ∧ load (DaemonInstr.erases v) B = 0 then 1 else 0

end DaemonState

/-! ### Critical sections -/

/-- At most one thread is in a critical section, and then the mutex is held. -/
def Sections (s : DaemonState) (B : Multiset DaemonInstr) : Prop :=
  load DaemonInstr.inSection B = if s.packetBucketsMapMutexHeld then 1 else 0

namespace DaemonInstr

theorem erases_le_inSection (v : UInt32) (i : DaemonInstr) : i.erases v ≤ i.inSection := by
  cases i with
  | orphanedErase u rest =>
      show (if u = v then 1 else 0) ≤ 1
      split <;> simp
  | _ => exact Nat.zero_le _

theorem quiet_of_detects (h : i.detects = true) :
    i.inSection = 0 ∧ i.erases v = 0 ∧ i.holds v = 0 := by
  cases i <;> first | exact ⟨rfl, rfl, rfl⟩ | cases h

theorem quiet_of_schedules (h : i.schedules = true) :
    i.inSection = 0 ∧ i.erases v = 0 ∧ i.holds v = 0 := by
  cases i <;> first | exact ⟨rfl, rfl, rfl⟩ | cases h

/-- Sections are entered and left together with the mutex. -/
theorem Effect.load_inSection (h : Effect config input s i s' new forked)
    (hheld : i.inSection = 1 → s.packetBucketsMapMutexHeld = true) :
    load inSection ((new : Multiset DaemonInstr) + (forked.flatten : Multiset DaemonInstr))
        + (if s.packetBucketsMapMutexHeld then 1 else 0)
      = i.inSection + if s'.packetBucketsMapMutexHeld then 1 else 0 := by
  have hquiet : ∀ {l : List DaemonInstr}, (∀ j ∈ l, j.inSection = 0) →
      load inSection (l : Multiset DaemonInstr) = 0 := fun hl => load_eq_zero fun j hj => hl j hj
  cases h with
  | worker he =>
      have hzero : ∀ C : Multiset FlowspecInstr,
          load (fun j => (DaemonInstr.flowspec j).inSection) C = 0 :=
        fun C => load_eq_zero fun _ _ => rfl
      rw [load_worker, hzero]
      rfl
  | hook action u attack packets =>
      rw [load_gobgpThread _ _ _ _ (fun _ => rfl) fun _ => rfl]
      rfl
  | detect hi hnew =>
      rw [load_add, hquiet fun j hj => (quiet_of_detects (v := 0) (hnew j hj)).1,
        (quiet_of_detects (v := 0) hi).1]
      rfl
  | scheduleTurn t bans hnew =>
      rw [load_add, hquiet fun j hj => (quiet_of_schedules (v := 0) (hnew j hj)).1]
      rfl
  | unbanRemovals t erase =>
      rw [load_add, hquiet (by simp [inSection])]
      rfl
  | filledUnlock captures =>
      have hzero : load inSection ((captures.map fun capture =>
          refreshProcessIpv4Capture capture.1 capture.2 : List DaemonInstr)
            : Multiset DaemonInstr) = 0 := by
        refine hquiet fun j hj => ?_
        obtain ⟨capture, -, rfl⟩ := List.mem_map.mp hj
        rfl
      rw [load_add, hzero, hheld rfl]
      rfl
  | orphanedUnlock =>
      rw [hheld rfl]
      rfl
  | orphanedLock vs hfree | filledLock vs hfree => simp [inSection, hfree]
  | orphanedComplete | captureComplete =>
      rw [DaemonState.refreshComplete_packetBucketsMapMutexHeld]
      simp [inSection]
  | ban | remove | snapshot | unbanDecided | unbanSkipped | unBanFound | unBanUnknown |
    unBanDetails | unBanGone | detected | packet | orphanedRefresh | orphanedOther |
    orphanedErase | filledRefresh | filledBan | filledErase | processOff | processComplete |
    processManage | scheduleOff | schedule | captureRefused | captureBegun |
    captureEnabled | captureNotEnabled =>
      simp [inSection]

end DaemonInstr

namespace Sections

theorem held (h : Sections s (i ::ₘ B)) (hi : i.inSection = 1) :
    s.packetBucketsMapMutexHeld = true := by
  unfold Sections at h
  rw [load_cons, hi] at h
  rcases hs : s.packetBucketsMapMutexHeld with - | -
  · rw [hs] at h
    simp at h
  · rfl

theorem exec (h : Sections s (i ::ₘ B))
    (he : DaemonInstr.Effect config input s i s' new forked) :
    Sections s' ((new : Multiset DaemonInstr) + (forked.flatten : Multiset DaemonInstr) + B) := by
  have hload := he.load_inSection h.held
  unfold Sections at h ⊢
  rw [load_cons] at h
  rw [load_add]
  omega

/-- Nobody else is in a section while `i` is. -/
theorem others (h : Sections s (i ::ₘ B)) (hi : i.inSection = 1) :
    load DaemonInstr.inSection B = 0 := by
  have hheld := h.held hi
  unfold Sections at h
  rw [load_cons, hi, hheld, if_pos rfl] at h
  omega

/-- Nobody is in a section while the mutex is free. -/
theorem free (h : Sections s (i ::ₘ B)) (hs : s.packetBucketsMapMutexHeld = false) :
    load DaemonInstr.inSection B = 0 := by
  unfold Sections at h
  rw [load_cons, hs] at h
  simp at h
  omega

end Sections

/-- What the thread in a section found out about its bucket. -/
def DaemonInstr.Marked (s : DaemonState) : DaemonInstr → Prop
  | .orphanedComplete u _ => s.hasRefreshBucket u
  | .filledErase u _ _ => ¬ s.hasRefreshBucket u
  | _ => True

/-- Under the mutex, nobody outside the section touches the buckets. -/
theorem DaemonInstr.Effect.hasRefreshBucket_iff (h : Effect config input s i s' new forked)
    (hheld : s.packetBucketsMapMutexHeld = true) (hi : i.inSection = 0) :
    s'.hasRefreshBucket v ↔ s.hasRefreshBucket v := by
  cases h with
  | detected hfree | packet hfree | captureEnabled _ _ _ _ hfree =>
      rw [hheld] at hfree
      cases hfree
  | orphanedErase | filledErase | filledRefresh | orphanedRefresh | orphanedOther => cases hi
  | _ => exact Iff.rfl

theorem DaemonInstr.Effect.marked (h : Effect config input s i s' new forked) :
    ∀ j ∈ (new : Multiset DaemonInstr) + (forked.flatten : Multiset DaemonInstr), j.Marked s' := by
  intro j hj
  cases h with
  | orphanedRefresh u rest hu =>
      obtain rfl := by simpa using hj
      exact PacketBucketsStorage.patternOf_stopCollection.trans hu
  | filledBan u rest captures attack packets hu =>
      rcases (by simpa using hj) with rfl | rfl
      · trivial
      · exact hu
  | worker he =>
      rw [← List.map_flatten, Multiset.coe_add, ← List.map_append, Multiset.mem_coe] at hj
      obtain ⟨j, -, rfl⟩ := List.mem_map.mp hj
      trivial
  | hook action u attack packets =>
      rcases (mem_gobgpThread hj).2 with ⟨-, rfl⟩ | ⟨r, rfl⟩ <;> trivial
  | detect hi hnew =>
      have hdetects := hnew j (by simpa using hj)
      cases j <;> trivial
  | scheduleTurn t bans hnew =>
      have hschedules := hnew j (by simpa using hj)
      cases j <;> trivial
  | unbanRemovals t erase =>
      obtain ⟨u, -, rfl⟩ : ∃ u ∈ erase, removeFromBlackhole u = j := by simpa using hj
      trivial
  | filledUnlock captures =>
      obtain ⟨u, packets, -, rfl⟩ := by simpa using hj
      trivial
  | unbanDecided | unBanDetails => rcases (by simpa using hj) with rfl | rfl <;> trivial
  | ban | snapshot | unbanSkipped | unBanFound | orphanedLock | orphanedOther | orphanedComplete |
    orphanedErase | filledLock | filledRefresh | filledErase | processComplete | processManage |
    schedule | captureBegun | captureNotEnabled =>
      obtain rfl := by simpa using hj
      trivial
  | remove | unBanUnknown | unBanGone | detected | packet | orphanedUnlock | processOff |
    scheduleOff | captureRefused | captureEnabled | captureComplete => simp at hj

/-! ### Balance -/

/-- The reservation of the victim has exactly one holder, or there is none of both. -/
def Balanced (v : UInt32) (s : DaemonState) (B : Multiset DaemonInstr) : Prop :=
  load (DaemonInstr.holds v) B + s.bucketHolds B v = s.reserved v

namespace Balanced

theorem reserved_le_one (s : DaemonState) (v : UInt32) : s.reserved v ≤ 1 := by
  unfold DaemonState.reserved
  split <;> simp

/-- An instruction that leaves the buckets alone. -/
theorem same (h : Balanced v s (i ::ₘ B)) (hr : s'.hasRefreshBucket v ↔ s.hasRefreshBucket v)
    (hi : i.erases v = 0) (hA : load (DaemonInstr.erases v) A = 0)
    (hload : load (DaemonInstr.holds v) A + s.reserved v = i.holds v + s'.reserved v) :
    Balanced v s' (A + B) := by
  unfold Balanced DaemonState.bucketHolds at h ⊢
  simp only [load_cons, load_add, hi, hA, hr, zero_add] at h ⊢
  omega

/-- An instruction that neither holds anything nor leaves anything that does. -/
theorem quiet (h : Balanced v s (i ::ₘ B)) (hs : s'.hasRefreshBucket v ↔ s.hasRefreshBucket v)
    (hr : s'.reserved v = s.reserved v) (hi : i.erases v = 0 ∧ i.holds v = 0)
    (hA : ∀ j ∈ A, j.erases v = 0 ∧ j.holds v = 0) : Balanced v s' (A + B) := by
  refine h.same hs hi.1 (load_eq_zero fun j hj => (hA j hj).1) ?_
  rw [load_eq_zero fun j hj => (hA j hj).2, hi.2, hr]

/-- An instruction that runs while nobody else is about to erase the bucket. -/
theorem alone (h : Balanced v s (i ::ₘ B)) (hB : load (DaemonInstr.erases v) B = 0)
    (hload : load (DaemonInstr.holds v) A + s'.bucketHolds A v + s.reserved v
      = i.holds v + s.bucketHolds {i} v + s'.reserved v) :
    Balanced v s' (A + B) := by
  unfold Balanced DaemonState.bucketHolds at h ⊢
  unfold DaemonState.bucketHolds at hload
  simp only [load_cons, load_add, load_singleton, hB, add_zero] at h hload ⊢
  omega

end Balanced

/-! ### What the workers do to a reservation -/

/-- What an instruction of a worker holds. -/
@[simp] def FlowspecInstr.holds (v : UInt32) (j : FlowspecInstr) : ℕ := j.manages v + j.finishes v

theorem holds_flowspec (j : FlowspecInstr) : (DaemonInstr.flowspec j).holds v = j.holds v := by
  simp

namespace FlowspecInstr

variable {config : GobgpFlowspecConfiguration} {j : FlowspecInstr} {reply : RpcReply}
  {s t : FlowspecState} {new : List FlowspecInstr} {forked : List (List FlowspecInstr)}

/-- A refresh worker ends the reservation exactly once. -/
theorem load_holds_refreshThread (u : UInt32)
    (results : List GobgpFlowspecRefreshProtocolResult) :
    load (holds v) (refreshThread config u results : Multiset FlowspecInstr)
      = if u = v then 1 else 0 := by
  have hfinish : load (holds v) (([.finishRefreshCapture u] : List FlowspecInstr) :
      Multiset FlowspecInstr) = if u = v then 1 else 0 := by
    simp
  unfold refreshThread
  split
  · exact hfinish
  · rename_i action _
    have hturns : load (holds v) ((results.flatMap (refreshProtocol config action u) :
        List FlowspecInstr) : Multiset FlowspecInstr) = 0 := by
      refine load_eq_zero fun j hj => ?_
      obtain ⟨result, -, hj⟩ := List.mem_flatMap.mp hj
      unfold refreshProtocol at hj
      split at hj
      · cases hj
      · split at hj <;> (obtain rfl := List.mem_singleton.mp hj; rfl)
    rw [← Multiset.coe_add, load_add, hturns, zero_add]
    exact hfinish

/-- The first step of handing a capture over. -/
theorem load_holds_refreshManage (config : GobgpFlowspecConfiguration) (v u : UInt32)
    (results : List GobgpFlowspecRefreshProtocolResult) :
    load (holds v) (((gobgpFlowspecRefreshManageIpv4 config u results).1 : Multiset FlowspecInstr)
        + ((gobgpFlowspecRefreshManageIpv4 config u results).2.flatten : Multiset FlowspecInstr))
      = if u = v then 1 else 0 := by
  unfold gobgpFlowspecRefreshManageIpv4
  split
  · simp
  · rw [load_add, List.flatten_singleton, load_holds_refreshThread]
    exact zero_add _

/-- Only the call of the refresh manager is followed by something that holds. -/
theorem holds_of_successor {j' : FlowspecInstr} {l : GobgpFlowspecLifecycle}
    (h : Successor config l j j') (hj : ∀ u results, j ≠ .refreshManage u results) :
    j'.holds v = 0 := by
  cases h with
  | refreshSkipped u results | refresh => exact absurd rfl (hj _ _)
  | announce | refreshAnnounce | escalate | addPort | fail | complete | cleanup | lateDelete |
    cleanupDelete | withdrawDelete | deleted => rfl

/-- The reservations after a step of a worker that neither begins nor ends one. -/
theorem mem_refresh_exec (he : j.exec config reply s = some (t, new, forked))
    (hb : ∀ u, j ≠ .beginRefreshCapture u) (hf : j ≠ .finishRefreshCapture v) :
    v ∈ t.lifecycle.victimsRefreshInProgress ↔ v ∈ s.lifecycle.victimsRefreshInProgress := by
  rcases exec_lifecycle he with ⟨op, hop, hl⟩ | ⟨-, hl⟩
  · have hnb : op ≠ .beginRefreshCapture v := by
      rintro rfl
      cases j <;> simp_all [op?]
    have hnf : op ≠ .finishRefreshCapture v := by
      rintro rfl
      cases j <;> simp_all [op?]
    have hnc : op ≠ .completeRefreshCapture v := by
      rintro rfl
      cases j <;> simp_all [op?]
    rw [hl, mem_refresh_apply]
    simp [hnb, hnf, hnc]
  · rw [hl]

/-- A step of a worker hands on what it holds, or ends the reservation. -/
theorem load_holds_exec (he : j.exec config reply s = some (t, new, forked))
    (hb : ∀ u, j ≠ .beginRefreshCapture u)
    (hf : j = .finishRefreshCapture v → v ∈ s.lifecycle.victimsRefreshInProgress) :
    load (holds v) ((new : Multiset FlowspecInstr) + (forked.flatten : Multiset FlowspecInstr))
        + (if v ∈ s.lifecycle.victimsRefreshInProgress then 1 else 0)
      = j.holds v + if v ∈ t.lifecycle.victimsRefreshInProgress then 1 else 0 := by
  by_cases hmanage : ∃ u results, j = .refreshManage u results
  · obtain ⟨u, results, rfl⟩ := hmanage
    obtain ⟨rfl, hnew⟩ := Prod.mk.inj (Option.some.inj he)
    have hload := load_holds_refreshManage config v u results
    rw [hnew] at hload
    rw [hload]
    rfl
  · have hzero : load (holds v) ((new : Multiset FlowspecInstr)
        + (forked.flatten : Multiset FlowspecInstr)) = 0 := by
      refine load_eq_zero fun j' hj' => holds_of_successor (exec_successor he hj') ?_
      rintro u results rfl
      exact hmanage ⟨u, results, rfl⟩
    rw [hzero, zero_add]
    by_cases hfin : j = .finishRefreshCapture v
    · subst hfin
      obtain ⟨rfl, -⟩ := Prod.mk.inj (Option.some.inj he)
      have hgone : v ∉ (s.lifecycle.finishRefreshCapture v).victimsRefreshInProgress := by
        intro hmem
        have hmem' := (mem_refresh_apply (.finishRefreshCapture v)).mp hmem
        simp at hmem'
      rw [if_pos (hf rfl), if_neg hgone]
      simp
    · have hnone : j.holds v = 0 := by
        cases j with
        | refreshManage u results => exact absurd ⟨u, results, rfl⟩ hmanage
        | finishRefreshCapture u =>
            have hne : u ≠ v := fun h => hfin (h ▸ rfl)
            simp [hne]
        | _ => rfl
      rw [hnone, zero_add]
      simp only [mem_refresh_exec he hb hfin]

end FlowspecInstr

/-! ### The invariant -/

/-- Workers do not begin captures, and the scheduler runs only if refreshes are on. -/
def DaemonInstr.Scheduled (config : DaemonConfiguration) : DaemonInstr → Prop
  | .flowspec j => ∀ u, j ≠ .beginRefreshCapture u
  | i => i.schedules = true → config.refreshOff = false

/-- All that is known about reservations in a reachable state. -/
structure Reservations (config : DaemonConfiguration) (s : DaemonState)
    (B : Multiset DaemonInstr) : Prop where
  sections : Sections s B
  marked : ∀ i ∈ B, i.Marked s
  scheduled : ∀ i ∈ B, i.Scheduled config
  enabled : ∀ v ∈ s.flowspec.lifecycle.victimsRefreshInProgress, config.refreshOff = false
  balanced : ∀ v, Balanced v s B

theorem reserved_refreshComplete (s : DaemonState) (u v : UInt32) :
    (s.refreshCompleteIpv4Capture u).reserved v = if u = v then 0 else s.reserved v := by
  have hmem := mem_refresh_apply (v := v) (l := s.flowspec.lifecycle) (.finishRefreshCapture u)
  unfold DaemonState.reserved
  show (if v ∈ ((LifecycleOp.finishRefreshCapture u).apply s.flowspec.lifecycle).2.victimsRefreshInProgress
    then 1 else 0) = _
  by_cases huv : u = v
  · subst huv
    simp [hmem]
  · simp [hmem, huv]

theorem reserved_beginRefreshCapture {s : DaemonState} {u : UInt32}
    (hu : (s.flowspec.lifecycle.beginRefreshCapture u).1 = true) (v : UInt32) :
    { s with
      flowspec := { s.flowspec with
        lifecycle := (s.flowspec.lifecycle.beginRefreshCapture u).2 } : DaemonState }.reserved v
      = (if u = v then 1 else 0) + s.reserved v := by
  rcases s.flowspec.lifecycle.beginRefreshCapture_cases u with h | ⟨-, hnot, h⟩
  · rw [h] at hu
    cases hu
  · unfold DaemonState.reserved
    rw [h]
    by_cases huv : u = v
    · subst huv
      simp [hnot]
    · simp [huv, Ne.symm huv]

theorem reserved_eq_zero_of_begin {s : DaemonState} {u : UInt32}
    (hu : (s.flowspec.lifecycle.beginRefreshCapture u).1 = true) : s.reserved u = 0 := by
  rcases s.flowspec.lifecycle.beginRefreshCapture_cases u with h | ⟨-, hnot, -⟩
  · rw [h] at hu
    cases hu
  · simp [DaemonState.reserved, hnot]

theorem hasRefreshBucket_remove (s : DaemonState) (u v : UInt32) :
    { s with packetBucketsIpv4Storage :=
      s.packetBucketsIpv4Storage.removePacketCaptureForIp u : DaemonState }.hasRefreshBucket v
      ↔ u ≠ v ∧ s.hasRefreshBucket v := by
  simp [DaemonState.hasRefreshBucket, PacketBucketsStorage.patternOf_removePacketCaptureForIp]

theorem hasRefreshBucket_stop (s : DaemonState) (u v : UInt32) :
    { s with packetBucketsIpv4Storage :=
      s.packetBucketsIpv4Storage.stopCollection u : DaemonState }.hasRefreshBucket v
      ↔ s.hasRefreshBucket v := by
  simp [DaemonState.hasRefreshBucket, PacketBucketsStorage.patternOf_stopCollection]

theorem mem_of_reserved (h : s.reserved v = 1) :
    v ∈ s.flowspec.lifecycle.victimsRefreshInProgress := by
  by_contra hno
  simp [DaemonState.reserved, hno] at h

theorem holds_refreshComplete (caller : RefreshCompleteCaller) (u : UInt32) :
    (DaemonInstr.refreshCompleteIpv4Capture caller u).holds v = if u = v then 1 else 0 := by
  cases caller <;> simp

/-- Every capture in the local vector is processed once. -/
theorem load_holds_captures (captures : List (UInt32 × List SimplePacket)) :
    load (DaemonInstr.holds v) ((captures.map fun capture =>
        .refreshProcessIpv4Capture capture.1 capture.2 : List DaemonInstr) : Multiset DaemonInstr)
      = (captures.map Prod.fst).count v := by
  induction captures with
  | nil => rfl
  | cons capture captures ih =>
      rw [List.map_cons, load_coe_cons, ih, List.map_cons, List.count_cons, add_comm]
      simp

namespace Reservations

/-- Whoever holds the reservation of a victim has one. -/
theorem reserved_of_holds (h : Reservations config s (i ::ₘ B)) (hi : i.holds v = 1) :
    s.reserved v = 1 := by
  have hb := h.balanced v
  unfold Balanced at hb
  rw [load_cons, hi] at hb
  have hle := Balanced.reserved_le_one s v
  omega

/-- A bucket that is to be erased as orphaned still holds its reservation. -/
theorem reserved_of_orphanedComplete {u : UInt32} {rest : List UInt32}
    (h : Reservations config s (.orphanedComplete u rest ::ₘ B)) : s.reserved u = 1 := by
  have hmark : s.hasRefreshBucket u := h.marked _ (Multiset.mem_cons_self _ _)
  have hnone : load (DaemonInstr.erases u) (.orphanedComplete u rest ::ₘ B) = 0 := by
    have hle := load_le_load (B := B) (DaemonInstr.erases_le_inSection u)
    have hothers := h.sections.others rfl
    rw [load_cons]
    show 0 + _ = 0
    omega
  have hb := h.balanced u
  have hle := Balanced.reserved_le_one s u
  unfold Balanced at hb
  rw [DaemonState.bucketHolds, if_pos ⟨hmark, hnone⟩] at hb
  omega

/-- In a section, nobody else is about to erase a bucket. -/
theorem erases_of_inSection (h : Reservations config s (i ::ₘ B)) (hi : i.inSection = 1) :
    load (DaemonInstr.erases v) B = 0 := by
  have hle := load_le_load (B := B) (DaemonInstr.erases_le_inSection v)
  have hnone := h.sections.others hi
  omega

theorem erases_of_free (h : Reservations config s (i ::ₘ B))
    (hfree : s.packetBucketsMapMutexHeld = false) : load (DaemonInstr.erases v) B = 0 := by
  have hle := load_le_load (B := B) (DaemonInstr.erases_le_inSection v)
  have hnone := h.sections.free hfree
  omega

/-- A worker hands its reservation on, or ends it. -/
theorem balanced_worker {j : FlowspecInstr} {t : FlowspecState} {new : List FlowspecInstr}
    {forked : List (List FlowspecInstr)} (h : Reservations config s (.flowspec j ::ₘ B))
    (he : j.exec config.toGobgpFlowspecConfiguration input.reply s.flowspec
      = some (t, new, forked)) :
    Balanced v { s with flowspec := t }
      (((new.map .flowspec : List DaemonInstr) : Multiset DaemonInstr)
        + ((forked.map (List.map .flowspec)).flatten : List DaemonInstr) + B) := by
  have hload : load (FlowspecInstr.holds v) ((new : Multiset FlowspecInstr)
        + (forked.flatten : Multiset FlowspecInstr)) + s.reserved v
      = j.holds v + { s with flowspec := t : DaemonState }.reserved v := by
    refine FlowspecInstr.load_holds_exec he
      (h.scheduled _ (Multiset.mem_cons_self _ _)) fun hj => ?_
    exact mem_of_reserved (h.reserved_of_holds (by rw [hj]; simp))
  refine (h.balanced v).same Iff.rfl rfl ?_ ?_
  · rw [DaemonInstr.load_worker]
    exact load_eq_zero fun _ _ => rfl
  · rw [DaemonInstr.load_worker, holds_flowspec]
    simp only [holds_flowspec]
    exact hload

/-- A bucket of another kind is not counted, whether or not it is to be erased. -/
theorem balanced_orphanedOther {u : UInt32} {rest : List UInt32}
    (h : Reservations config s (.orphanedLoop (u :: rest) ::ₘ B)) (hu : ¬ s.hasRefreshBucket u) :
    Balanced v { s with
        packetBucketsIpv4Storage := s.packetBucketsIpv4Storage.stopCollection u }
      ({.orphanedErase u rest} + B) := by
  refine (h.balanced v).alone (h.erases_of_inSection rfl) ?_
  by_cases huv : u = v
  · subst huv
    simp [DaemonState.bucketHolds, hasRefreshBucket_stop, hu, DaemonState.reserved]
  · simp [DaemonState.bucketHolds, hasRefreshBucket_stop, huv, DaemonState.reserved]

/-- The reservation of an orphaned bucket ends, and the bucket does not count any more. -/
theorem balanced_orphanedComplete {u : UInt32} {rest : List UInt32}
    (h : Reservations config s (.orphanedComplete u rest ::ₘ B)) :
    Balanced v (s.refreshCompleteIpv4Capture u) ({.orphanedErase u rest} + B) := by
  refine (h.balanced v).alone (h.erases_of_inSection rfl) ?_
  have hmark : s.hasRefreshBucket u := h.marked _ (Multiset.mem_cons_self _ _)
  have hsame : (s.refreshCompleteIpv4Capture u).hasRefreshBucket v ↔ s.hasRefreshBucket v :=
    Iff.rfl
  rw [reserved_refreshComplete]
  by_cases huv : u = v
  · subst huv
    have hone : s.reserved u = 1 := h.reserved_of_orphanedComplete
    simp [DaemonState.bucketHolds, hsame, hmark, hone]
  · simp [DaemonState.bucketHolds, hsame, huv]

/-- The bucket of a finished capture hands its reservation to `refresh_buckets`. -/
theorem balanced_filledRefresh {u : UInt32} {rest : List UInt32}
    {captures : List (UInt32 × List SimplePacket)} (packets : List SimplePacket)
    (h : Reservations config s (.filledLoop (u :: rest) captures ::ₘ B))
    (hu : s.hasRefreshBucket u) :
    Balanced v { s with
        packetBucketsIpv4Storage := s.packetBucketsIpv4Storage.removePacketCaptureForIp u }
      ({.filledLoop rest (captures ++ [(u, packets)])} + B) := by
  refine (h.balanced v).alone (h.erases_of_inSection rfl) ?_
  by_cases huv : u = v
  · subst huv
    simp [DaemonState.bucketHolds, hasRefreshBucket_remove, hu, DaemonState.reserved]
  · simp [DaemonState.bucketHolds, hasRefreshBucket_remove, huv, DaemonState.reserved]

/-- The scheduler hands its reservation to the bucket that it creates. -/
theorem balanced_captureEnabled {t : Int} {u : UInt32} {details : AttackDetails}
    (times : ExtTreeMap UInt32 Int compare)
    (h : Reservations config s (.refreshEnableCapture t u details ::ₘ B))
    (hfree : s.packetBucketsMapMutexHeld = false)
    (hu : s.packetBucketsIpv4Storage.patternOf u = none) :
    Balanced v { s with
        packetBucketsIpv4Storage := (s.packetBucketsIpv4Storage.enablePacketCapture u details
          .flowSpecRefreshOnce input.now).2
        gobgpFlowspecRefreshLastCaptureTime := times } (0 + B) := by
  refine (h.balanced v).alone (h.erases_of_free hfree) ?_
  rcases s.packetBucketsIpv4Storage.enablePacketCapture_cases u details .flowSpecRefreshOnce
    input.now with ⟨hno, -⟩ | ⟨-, -, hpattern⟩
  · exact absurd hu hno
  · by_cases huv : u = v
    · subst huv
      simp [DaemonState.bucketHolds, DaemonState.hasRefreshBucket, hpattern, hu,
        DaemonState.reserved]
    · simp [DaemonState.bucketHolds, DaemonState.hasRefreshBucket, hpattern, huv,
        DaemonState.reserved]

/-- A capture is dropped only if refreshes are off, and then it has no reservation. -/
theorem not_processOff {u : UInt32} {packets : List SimplePacket}
    (h : Reservations config s (.refreshProcessIpv4Capture u packets ::ₘ B)) :
    config.refreshOff = false :=
  h.enabled u (mem_of_reserved (h.reserved_of_holds (by simp)))

theorem balanced_exec (h : Reservations config s (i ::ₘ B))
    (he : DaemonInstr.Effect config input s i s' new forked) (v : UInt32) :
    Balanced v s' ((new : Multiset DaemonInstr) + (forked.flatten : Multiset DaemonInstr) + B) := by
  have hb := h.balanced v
  cases he with
  | worker he => exact h.balanced_worker he
  | hook action u attack packets =>
      refine hb.quiet Iff.rfl rfl ⟨rfl, rfl⟩ fun j hj => ?_
      rcases (mem_gobgpThread hj).2 with ⟨-, rfl⟩ | ⟨r, rfl⟩ <;> exact ⟨rfl, rfl⟩
  | detect hi hnew =>
      exact hb.quiet Iff.rfl rfl (DaemonInstr.quiet_of_detects hi).2 fun j hj =>
        (DaemonInstr.quiet_of_detects (hnew j (by simpa using hj))).2
  | scheduleTurn t bans hnew =>
      exact hb.quiet Iff.rfl rfl ⟨rfl, rfl⟩ fun j hj =>
        (DaemonInstr.quiet_of_schedules (hnew j (by simpa using hj))).2
  | unbanRemovals t erase =>
      refine hb.quiet Iff.rfl rfl ⟨rfl, rfl⟩ fun j hj => ?_
      obtain ⟨u, -, rfl⟩ : ∃ u ∈ erase, DaemonInstr.removeFromBlackhole u = j := by
        simpa using hj
      exact ⟨rfl, rfl⟩
  | @detected u attack hfree =>
      refine hb.quiet ?_ rfl ⟨rfl, rfl⟩ (by simp)
      rcases s.packetBucketsIpv4Storage.enablePacketCapture_cases u attack .once input.now with
        ⟨-, h⟩ | ⟨hu, -, h⟩
      · simp [DaemonState.hasRefreshBucket, h]
      · by_cases huv : u = v
        · subst huv
          simp [DaemonState.hasRefreshBucket, h, hu]
        · simp [DaemonState.hasRefreshBucket, h, huv]
  | packet hfree =>
      refine hb.quiet ?_ rfl ⟨rfl, rfl⟩ (by simp)
      simp [DaemonState.hasRefreshBucket, PacketBucketsStorage.patternOf_addPacketToStorage]
  | orphanedRefresh u rest hu => exact hb.same (hasRefreshBucket_stop s u v) rfl rfl rfl
  | orphanedOther u rest hu => exact h.balanced_orphanedOther hu
  | orphanedComplete u rest => exact h.balanced_orphanedComplete
  | orphanedErase u rest =>
      refine hb.alone (h.erases_of_inSection rfl) ?_
      by_cases huv : u = v
      · subst huv
        simp [DaemonState.bucketHolds, hasRefreshBucket_remove, DaemonState.reserved]
      · simp [DaemonState.bucketHolds, hasRefreshBucket_remove, huv, DaemonState.reserved]
  | filledUnlock captures =>
      refine hb.same Iff.rfl rfl ?_ ?_
      · refine load_eq_zero fun j hj => ?_
        obtain ⟨u, packets, -, rfl⟩ := by simpa using hj
        rfl
      · rw [List.flatten_nil, Multiset.coe_nil, add_zero, load_holds_captures]
        simp [DaemonState.reserved]
  | filledRefresh u rest captures packets hu => exact h.balanced_filledRefresh packets hu
  | filledErase u rest captures =>
      refine hb.same ?_ rfl rfl rfl
      have hmark : ¬ s.hasRefreshBucket u := h.marked _ (Multiset.mem_cons_self _ _)
      rw [hasRefreshBucket_remove]
      constructor
      · exact And.right
      · intro hv
        refine ⟨?_, hv⟩
        rintro rfl
        exact hmark hv
  | processOff u packets hoff =>
      rw [h.not_processOff] at hoff
      cases hoff
  | @captureBegun t details u hadmitted hu =>
      refine hb.same Iff.rfl rfl rfl ?_
      rw [reserved_beginRefreshCapture hu]
      simp
  | captureEnabled t u details times hfree hu => exact h.balanced_captureEnabled times hfree hu
  | captureComplete caller u =>
      refine hb.same Iff.rfl rfl rfl ?_
      rw [reserved_refreshComplete, holds_refreshComplete]
      by_cases huv : u = v
      · subst huv
        have hone : s.reserved u = 1 :=
          h.reserved_of_holds (by rw [holds_refreshComplete, if_pos rfl])
        simp [hone]
      · simp [huv]
  | filledBan | processComplete | processManage | captureNotEnabled =>
      refine hb.same Iff.rfl rfl rfl ?_
      simp
  | orphanedLock | orphanedUnlock | filledLock | ban | remove | snapshot | unbanDecided |
    unbanSkipped | unBanFound | unBanUnknown | unBanDetails | unBanGone | scheduleOff | schedule |
    captureRefused =>
      exact hb.same Iff.rfl rfl rfl rfl

theorem marked_exec (h : Reservations config s (i ::ₘ B))
    (he : DaemonInstr.Effect config input s i s' new forked) :
    ∀ j ∈ (new : Multiset DaemonInstr) + (forked.flatten : Multiset DaemonInstr) + B,
      j.Marked s' := by
  intro j hj
  rcases Multiset.mem_add.mp hj with hj | hj
  · exact he.marked j hj
  · have hmark := h.marked j (Multiset.mem_cons_of_mem hj)
    by_cases hj' : j.inSection = 1
    · -- `j` is in the section, so `i` is not
      have hle : j.inSection ≤ load DaemonInstr.inSection B := le_load hj
      have hi : i.inSection = 0 := by
        by_contra hne
        have hone : i.inSection = 1 := by
          cases i <;> first | rfl | exact absurd rfl hne
        have hnone := h.sections.others hone
        omega
      have hheld : s.packetBucketsMapMutexHeld = true := by
        by_contra hfree
        have hnone := h.sections.free (Bool.eq_false_iff.mpr hfree)
        omega
      have hsame := fun v => he.hasRefreshBucket_iff (v := v) hheld hi
      cases j with
      | orphanedComplete u rest => exact (hsame u).mpr hmark
      | filledErase u rest captures => exact fun hu => hmark ((hsame u).mp hu)
      | _ => trivial
    · cases j <;> trivial

end Reservations

theorem FlowspecInstr.not_begin_of_successor {config : GobgpFlowspecConfiguration}
    {l : GobgpFlowspecLifecycle} {j j' : FlowspecInstr} (h : Successor config l j j') (u : UInt32) :
    j' ≠ .beginRefreshCapture u := by
  rintro rfl
  generalize hj : FlowspecInstr.beginRefreshCapture u = j' at h
  cases h with
  | refresh hmem =>
      rcases mem_refreshThread hmem with h | ⟨r, h, -⟩ | ⟨po, reqs, h, -⟩ <;>
        rw [← hj] at h <;> cases h
  | announce | refreshAnnounce | escalate | addPort | fail | complete | cleanup | lateDelete |
    cleanupDelete | withdrawDelete | deleted | refreshSkipped => cases hj

theorem DaemonInstr.Effect.scheduled (h : Effect config input s i s' new forked)
    (hi : i.Scheduled config) :
    ∀ j ∈ (new : Multiset DaemonInstr) + (forked.flatten : Multiset DaemonInstr),
      j.Scheduled config := by
  intro j hj
  cases h with
  | worker he =>
      rw [← List.map_flatten, Multiset.coe_add, ← List.map_append, Multiset.mem_coe] at hj
      obtain ⟨j, hj, rfl⟩ := List.mem_map.mp hj
      exact FlowspecInstr.not_begin_of_successor (FlowspecInstr.exec_successor he (by simpa using hj))
  | hook action u attack packets =>
      rcases (mem_gobgpThread hj).2 with ⟨-, rfl⟩ | ⟨r, rfl⟩ <;>
        · intro u h
          cases h
  | processManage u packets results =>
      obtain rfl := by simpa using hj
      intro u h
      cases h
  | schedule times hon =>
      obtain rfl := by simpa using hj
      exact fun _ => hon
  | scheduleTurn t bans hnew =>
      cases j with
      | flowspec j => cases hnew _ (by simpa using hj)
      | _ => exact fun _ => hi rfl
  | detect hi' hnew =>
      have hdetects := hnew j (by simpa using hj)
      cases j with
      | callbackWeHaveBucket | callbackIsBlackholed | callbackEnableCapture =>
          exact fun h => by cases h
      | _ => cases hdetects
  | unbanRemovals t erase =>
      obtain ⟨u, -, rfl⟩ : ∃ u ∈ erase, removeFromBlackhole u = j := by simpa using hj
      exact fun h => by cases h
  | filledUnlock captures =>
      obtain ⟨u, packets, -, rfl⟩ := by simpa using hj
      exact fun h => by cases h
  | unbanDecided | unBanDetails | filledBan =>
      rcases (by simpa using hj) with rfl | rfl <;> exact fun h => by cases h
  | ban | snapshot | unbanSkipped | unBanFound | orphanedLock | orphanedRefresh | orphanedOther |
    orphanedComplete | orphanedErase | filledLock | filledRefresh | filledErase |
    processComplete | captureBegun | captureNotEnabled =>
      obtain rfl := by simpa using hj
      exact fun h => by cases h
  | remove | unBanUnknown | unBanGone | detected | packet | orphanedUnlock | processOff |
    scheduleOff | captureRefused | captureEnabled | captureComplete => simp at hj

/-- Only the scheduler begins a reservation. -/
theorem DaemonInstr.Effect.mem_refresh (h : Effect config input s i s' new forked)
    (hi : i.Scheduled config) (hv : v ∈ s'.flowspec.lifecycle.victimsRefreshInProgress) :
    v ∈ s.flowspec.lifecycle.victimsRefreshInProgress ∨ i.schedules = true := by
  have hfinish : ∀ u, v ∈ (s.refreshCompleteIpv4Capture u).flowspec.lifecycle.victimsRefreshInProgress →
      v ∈ s.flowspec.lifecycle.victimsRefreshInProgress := fun u hv =>
    (((mem_refresh_apply (.finishRefreshCapture u)).mp hv).resolve_left (by simp)).1
  cases h with
  | @worker j t new forked he =>
      left
      rcases FlowspecInstr.exec_lifecycle he with ⟨op, hop, hl⟩ | ⟨-, hl⟩
      · rw [show t.lifecycle = _ from hl, mem_refresh_apply] at hv
        rcases hv with ⟨rfl, -⟩ | ⟨hv, -⟩
        · cases j with
          | beginRefreshCapture u => exact absurd rfl (hi u)
          | _ => cases hop
        · exact hv
      · rwa [show t.lifecycle = _ from hl] at hv
  | captureBegun => exact .inr rfl
  | orphanedComplete u rest => exact .inl (hfinish u hv)
  | captureComplete caller u => exact .inl (hfinish u hv)
  | _ => exact .inl hv

theorem Reservations.exec (h : Reservations config s (i ::ₘ B))
    (he : DaemonInstr.Effect config input s i s' new forked) :
    Reservations config s'
      ((new : Multiset DaemonInstr) + (forked.flatten : Multiset DaemonInstr) + B) := by
  have hi := h.scheduled i (Multiset.mem_cons_self _ _)
  refine ⟨h.sections.exec he, h.marked_exec he, fun j hj => ?_, fun v hv => ?_, h.balanced_exec he⟩
  · rcases Multiset.mem_add.mp hj with hj | hj
    · exact he.scheduled hi j hj
    · exact h.scheduled j (Multiset.mem_cons_of_mem hj)
  · rcases he.mem_refresh hi hv with hv | hschedules
    · exact h.enabled v hv
    · cases i <;> first | exact hi rfl | cases hschedules

/-! ### Runs -/

/-- New jobs hold nothing and are in no section. -/
theorem quiet_program {job : DaemonJob} (hi : i ∈ job.program) :
    i.inSection = 0 ∧ i.erases v = 0 ∧ i.holds v = 0 ∧ i.Marked s ∧ i.Scheduled config := by
  cases job with
  | executeBan u ours =>
      cases ours with
      | false => cases hi
      | true =>
          obtain rfl := List.mem_singleton.mp hi
          exact ⟨rfl, rfl, rfl, trivial, fun h => by cases h⟩
  | _ =>
      obtain rfl := List.mem_singleton.mp hi
      exact ⟨rfl, rfl, rfl, trivial, fun h => by cases h⟩

theorem Reservations.start (h : Reservations config s B) (job : DaemonJob) :
    Reservations config s (B + (job.program : Multiset DaemonInstr)) := by
  have hquiet : ∀ v, ∀ i ∈ job.program, i.inSection = 0 ∧ i.erases v = 0 ∧ i.holds v = 0 ∧
      i.Marked s ∧ i.Scheduled config := fun _ _ hi => quiet_program hi
  refine ⟨?_, fun i hi => ?_, fun i hi => ?_, h.enabled, fun v => ?_⟩
  · have hsections := h.sections
    unfold Sections at hsections ⊢
    have hzero : load DaemonInstr.inSection (job.program : Multiset DaemonInstr) = 0 :=
      load_eq_zero fun i hi => (hquiet 0 i hi).1
    rwa [load_add, hzero, add_zero]
  · rcases Multiset.mem_add.mp hi with hi | hi
    · exact h.marked i hi
    · exact (hquiet 0 i hi).2.2.2.1
  · rcases Multiset.mem_add.mp hi with hi | hi
    · exact h.scheduled i hi
    · exact (hquiet 0 i hi).2.2.2.2
  · have hb := h.balanced v
    have herases : load (DaemonInstr.erases v) (job.program : Multiset DaemonInstr) = 0 :=
      load_eq_zero fun i hi => (hquiet v i hi).2.1
    have hholds : load (DaemonInstr.holds v) (job.program : Multiset DaemonInstr) = 0 :=
      load_eq_zero fun i hi => (hquiet v i hi).2.2.1
    unfold Balanced DaemonState.bucketHolds at hb ⊢
    rwa [load_add, load_add, herases, hholds, add_zero, add_zero]

theorem reservations_start (capacity : UInt32) :
    Reservations config (daemonStart capacity).shared (daemonStart capacity).pending := by
  refine ⟨rfl, ?_, ?_, ?_, fun v => rfl⟩
  · intro i hi
    simp [daemonStart, Pool.pending] at hi
  · intro i hi
    simp [daemonStart, Pool.pending] at hi
  · intro v hv
    simp [daemonStart] at hv

/-- What a step does to the reservation of the victim. -/
inductive ReservationEvent
  | begun
  | finished
deriving DecidableEq, Repr

/-- A successful `begin_refresh_capture`, or a `finish_refresh_capture`, of the victim. -/
def DaemonInstr.reservationEvent (v : UInt32) (s : DaemonState) (input : DaemonInput) :
    DaemonInstr → Option ReservationEvent
  | .refreshBeginIpv4Capture _ u _ =>
      if u = v ∧ input.admitted = true ∧ (s.flowspec.lifecycle.beginRefreshCapture u).1 = true
      then some .begun else none
  | .refreshCompleteIpv4Capture _ u => if u = v then some .finished else none
  | .orphanedComplete u _ => if u = v then some .finished else none
  | .flowspec (.finishRefreshCapture u) => if u = v then some .finished else none
  | _ => none

@[inherit_doc DaemonInstr.reservationEvent]
def reservationEvent (v : UInt32) (w : Pool DaemonState DaemonInstr) :
    PoolEvent DaemonJob DaemonInput → Option ReservationEvent
  | .start _ => none
  | .run n input => (w.next n).bind (DaemonInstr.reservationEvent v w.shared input)

/-- The reservation before and after a step, by what the step does to it. -/
def ReservationEvent.Moves (r r' : ℕ) : Option ReservationEvent → Prop
  | none => r' = r
  | some .begun => r = 0 ∧ r' = 1
  | some .finished => r = 1 ∧ r' = 0

/-- `finish_refresh_capture` is called only by a holder. -/
theorem finish_moves {u : UInt32} (hu : u = v → s.reserved v = 1) :
    ReservationEvent.Moves (s.reserved v) ((s.refreshCompleteIpv4Capture u).reserved v)
      (if u = v then some .finished else none) := by
  rw [reserved_refreshComplete]
  by_cases huv : u = v
  · rw [if_pos huv, if_pos huv]
    exact ⟨hu huv, rfl⟩
  · rw [if_neg huv, if_neg huv]
    rfl

theorem Reservations.event_moves (h : Reservations config s (i ::ₘ B))
    (he : DaemonInstr.Effect config input s i s' new forked) :
    ReservationEvent.Moves (s.reserved v) (s'.reserved v) (i.reservationEvent v s input) := by
  cases he with
  | @worker j t new forked he =>
      have hb := h.scheduled _ (Multiset.mem_cons_self _ _)
      by_cases hj : ∃ u, j = .finishRefreshCapture u
      · obtain ⟨u, rfl⟩ := hj
        obtain ⟨rfl, -⟩ := Prod.mk.inj (Option.some.inj he)
        refine finish_moves fun huv => h.reserved_of_holds ?_
        simp [huv]
      · have hnone : (DaemonInstr.flowspec j).reservationEvent v s input = none := by
          cases j with
          | finishRefreshCapture u => exact absurd ⟨u, rfl⟩ hj
          | _ => rfl
        rw [hnone]
        have hmem := FlowspecInstr.mem_refresh_exec (v := v) he hb fun h => hj ⟨v, h⟩
        simp [ReservationEvent.Moves, DaemonState.reserved, hmem]
  | orphanedComplete u rest =>
      refine finish_moves fun huv => ?_
      subst huv
      exact h.reserved_of_orphanedComplete
  | captureComplete caller u =>
      refine finish_moves fun huv => h.reserved_of_holds ?_
      rw [holds_refreshComplete, if_pos huv]
  | @captureBegun t details u hadmitted hu =>
      rw [reserved_beginRefreshCapture hu]
      by_cases huv : u = v
      · subst huv
        have hevent : (DaemonInstr.refreshBeginIpv4Capture t u details).reservationEvent u s input
            = some .begun := if_pos ⟨rfl, hadmitted, hu⟩
        rw [hevent, if_pos rfl, reserved_eq_zero_of_begin hu]
        exact ⟨rfl, rfl⟩
      · have hevent : (DaemonInstr.refreshBeginIpv4Capture t u details).reservationEvent v s input
            = none := if_neg fun h => huv h.1
        rw [hevent, if_neg huv, zero_add]
        rfl
  | captureRefused t u details hno =>
      have hnone : (DaemonInstr.refreshBeginIpv4Capture t u details).reservationEvent v s input
          = none := by
        refine if_neg ?_
        rintro ⟨-, hadmitted, hu⟩
        rcases hno with hno | hno
        · exact hno hadmitted
        · rw [hu] at hno
          cases hno
      rw [hnone]
      rfl
  | detect hi hnew =>
      have hnone : i.reservationEvent v s input = none := by
        cases i <;> first | rfl | cases hi
      rw [hnone]
      rfl
  | _ => rfl

/-- So far every begun reservation was finished once, except for the one that
is still open. -/
def Matched (events : List ReservationEvent) (reserved : ℕ) : Prop :=
  ∃ k, events = (List.replicate k [.begun, .finished]).flatten
    ++ List.replicate reserved ReservationEvent.begun

theorem Matched.snoc {events : List ReservationEvent} {r r' : ℕ}
    {event : Option ReservationEvent} (h : Matched events r) (hm : ReservationEvent.Moves r r' event) :
    Matched (events ++ event.toList) r' := by
  obtain ⟨k, rfl⟩ := h
  cases event with
  | none =>
      obtain rfl : r' = r := hm
      exact ⟨k, by simp⟩
  | some event =>
      cases event with
      | begun =>
          obtain ⟨rfl, rfl⟩ := hm
          exact ⟨k, by simp⟩
      | finished =>
          obtain ⟨rfl, rfl⟩ := hm
          refine ⟨k + 1, ?_⟩
          simp [List.replicate_succ']

/-- One step of the daemon keeps the invariant and what was emitted in order. -/
theorem matched_step {events : List ReservationEvent} {e : PoolEvent DaemonJob DaemonInput}
    (h : Reservations config w.shared w.pending ∧ Matched events (w.shared.reserved v))
    (hs : (daemonMachine config).step w e = some w') :
    Reservations config w'.shared w'.pending ∧
      Matched (events ++ (reservationEvent v w e).toList) (w'.shared.reserved v) := by
  obtain ⟨hres, hmatched⟩ := h
  rcases Machine.step_cases hs with
    ⟨job, rfl, hsh, hp⟩ | ⟨n, input, i, new, forked, B, rfl, hi, he, hp, hp'⟩
  · rw [hsh, hp]
    exact ⟨hres.start job, by simpa [reservationEvent] using hmatched⟩
  · have heffect := DaemonInstr.exec_effect he
    rw [hp] at hres
    have hevent : reservationEvent v w (.run n input) = i.reservationEvent v w.shared input := by
      simp [reservationEvent, hi]
    rw [hp', hevent]
    exact ⟨hres.exec heffect, hmatched.snoc (hres.event_moves heffect)⟩

/-- **Reservations are matched.**  In every state of every run: the reservation
of `v` is held by exactly one of the scheduler, a bucket, the bucket processor
and a refresh worker, and by none of them if `v` has none; and each successful
`begin_refresh_capture` of `v` so far was followed by exactly one
`finish_refresh_capture` before the next, except for the one still open. -/
theorem refresh_reservations_matched {capacity : UInt32}
    {es : List (PoolEvent DaemonJob DaemonInput)}
    (h : Runs (daemonMachine config).step Always (daemonStart capacity) es w) (v : UInt32) :
    load (DaemonInstr.schedulerHolds v) w.pending + w.shared.bucketHolds w.pending v
        + load (DaemonInstr.captureHolds v) w.pending + load (DaemonInstr.workerHolds v) w.pending
      = (if v ∈ w.shared.flowspec.lifecycle.victimsRefreshInProgress then 1 else 0) ∧
    ∃ k, trace (daemonMachine config).step (reservationEvent v) (daemonStart capacity) es
      = (List.replicate k [.begun, .finished]).flatten
        ++ if v ∈ w.shared.flowspec.lifecycle.victimsRefreshInProgress then [.begun] else [] := by
  let I : Pool DaemonState DaemonInstr → List ReservationEvent → Prop := fun w events =>
    Reservations config w.shared w.pending ∧ Matched events (w.shared.reserved v)
  have hstep : ∀ {w : Pool DaemonState DaemonInstr} {events : List ReservationEvent}
      {e : PoolEvent DaemonJob DaemonInput} {w' : Pool DaemonState DaemonInstr}, I w events →
      Always w e → (daemonMachine config).step w e = some w' →
      I w' (events ++ (reservationEvent v w e).toList) := fun hI _ hs => matched_step hI hs
  have hend : I w (trace (daemonMachine config).step (reservationEvent v) (daemonStart capacity) es) :=
    h.trace_invariant hstep ⟨reservations_start capacity, 0, rfl⟩
  obtain ⟨hres, k, hk⟩ := hend
  refine ⟨?_, k, hk.trans ?_⟩
  · have hb := hres.balanced v
    unfold Balanced at hb
    have hsum : load (DaemonInstr.holds v) w.pending
        = load (DaemonInstr.schedulerHolds v) w.pending
          + load (DaemonInstr.captureHolds v) w.pending
          + load (DaemonInstr.workerHolds v) w.pending := DaemonInstr.load_holds w.pending
    have hr : w.shared.reserved v
        = if v ∈ w.shared.flowspec.lifecycle.victimsRefreshInProgress then 1 else 0 := rfl
    omega
  · unfold DaemonState.reserved
    split <;> rfl

/-- A host with counters, over its ICMP threshold. -/
def icmpFlood : DaemonInput :=
  { admissionSnapshot :=
      some { icmpInPps := 2000, icmpPpsEnabled := true, icmpPpsThreshold := 1000 } }

/-- A capture of one packet whose host is not over its thresholds any more: it
goes through the scheduler, the bucket and the bucket processor, and is ended. -/
theorem refresh_reservations_matched_one_capture :
    ∃ (w : Pool DaemonState DaemonInstr) (es : List (PoolEvent DaemonJob DaemonInput)),
      Runs (daemonMachine {}).step Always (daemonStart 1) es w ∧
      trace (daemonMachine {}).step (reservationEvent 1) (daemonStart 1) es
        = [.begun, .finished] ∧
      load (DaemonInstr.schedulerHolds 1) w.pending + w.shared.bucketHolds w.pending 1
        + load (DaemonInstr.captureHolds 1) w.pending
        + load (DaemonInstr.workerHolds 1) w.pending = 0 := by
  let es : List (PoolEvent DaemonJob DaemonInput) :=
    [.start (.executeBan 1 true), .run 0 {},
      .start .scheduleGobgpFlowspecRefreshCaptures, .run 1 {}, .run 1 {}, .run 1 icmpFlood,
      .run 1 {},
      .start (.addPacketToStorage 1 {}), .run 2 {},
      .start .processFilledBucketsIpv4, .run 3 {}, .run 3 {}, .run 3 {}, .run 3 {}, .run 3 {}]
  obtain ⟨w, hw, hv⟩ : ∃ w ∈ runEvents (daemonMachine {}).step (daemonStart 1) es,
      1 ∉ w.shared.flowspec.lifecycle.victimsRefreshInProgress := by
    decide
  have hrun := runs_iff_runEvents.mpr hw
  have hholds := (refresh_reservations_matched hrun 1).1
  rw [if_neg hv] at hholds
  exact ⟨w, es, hrun, by decide, hholds⟩

/-- The scheduler waits for the result of `enable_packet_capture`. -/
def DaemonInstr.awaitsEnable (v : UInt32) : DaemonInstr → ℕ
  | .refreshEnableCapture _ u _ => if u = v then 1 else 0
  | _ => 0

/-- Which of the four holders there are, if the bucket counts as long as it
exists and the scheduler only until `enable_packet_capture` has returned. -/
def narrowHolders (v : UInt32) (w : Pool DaemonState DaemonInstr) : List Bool :=
  [decide (load (DaemonInstr.awaitsEnable v) w.pending ≠ 0),
    decide (w.shared.hasRefreshBucket v),
    decide (load (DaemonInstr.captureHolds v) w.pending ≠ 0),
    decide (load (DaemonInstr.workerHolds v) w.pending ≠ 0)]

/-- Counted so, there is a holder without a reservation while
`remove_orphaned_buckets` is about to erase a bucket, and a reservation without
a holder after a detection has taken the place of the scheduler's bucket. -/
theorem narrow_holders_not_exactly_one :
    ¬ (∀ (config : DaemonConfiguration) (capacity : UInt32)
        (es : List (PoolEvent DaemonJob DaemonInput)) (w : Pool DaemonState DaemonInstr)
        (v : UInt32), Runs (daemonMachine config).step Always (daemonStart capacity) es w →
      (narrowHolders v w).count true = 1 →
        v ∈ w.shared.flowspec.lifecycle.victimsRefreshInProgress) ∧
    ¬ (∀ (config : DaemonConfiguration) (capacity : UInt32)
        (es : List (PoolEvent DaemonJob DaemonInput)) (w : Pool DaemonState DaemonInstr)
        (v : UInt32), Runs (daemonMachine config).step Always (daemonStart capacity) es w →
      v ∈ w.shared.flowspec.lifecycle.victimsRefreshInProgress →
        (narrowHolders v w).count true = 1) := by
  constructor
  · intro hall
    obtain ⟨w, hw, hone, hv⟩ : ∃ w ∈ runEvents (daemonMachine {}).step (daemonStart 1)
        [.start (.executeBan 1 true), .run 0 {},
          .start .scheduleGobgpFlowspecRefreshCaptures, .run 1 {}, .run 1 {}, .run 1 icmpFlood,
          .run 1 {},
          .start .removeOrphanedBuckets, .run 2 { now := 200 }, .run 2 {}, .run 2 {}],
        (narrowHolders 1 w).count true = 1 ∧
          1 ∉ w.shared.flowspec.lifecycle.victimsRefreshInProgress := by
      decide
    exact hv (hall {} 1 _ w 1 (runs_iff_runEvents.mpr hw) hone)
  · intro hall
    obtain ⟨w, hw, hv, hnone⟩ : ∃ w ∈ runEvents (daemonMachine {}).step (daemonStart 1)
        [.start (.speedCalculationCallbackLocalIpv4 1 {}), .run 0 {}, .run 0 {},
          .start (.executeBan 1 true), .run 1 {},
          .start .scheduleGobgpFlowspecRefreshCaptures, .run 2 {}, .run 2 {}, .run 2 icmpFlood,
          .run 0 {}, .run 2 {}],
        1 ∈ w.shared.flowspec.lifecycle.victimsRefreshInProgress ∧
          (narrowHolders 1 w).count true ≠ 1 := by
      decide
    exact hnone (hall {} 1 _ w 1 (runs_iff_runEvents.mpr hw) hv)

end FastNetMon
