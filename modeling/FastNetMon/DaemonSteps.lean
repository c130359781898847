/-
FastNetMon/DaemonSteps.lean

What one instruction of the daemon can do.

`DaemonInstr.Effect` lists the outcomes of an instruction with the conditions
under which they come about, one constructor for each path through the code;
`DaemonInstr.exec_effect` says that there are no others.  The invariants of the
daemon are proved from this list.  Paths that differ in nothing that any of
them looks at (the checks of the detection, the turns of the scheduler's loop)
are one constructor.
-/
import Mathlib
import FastNetMon.Daemon

namespace FastNetMon

open Std

namespace DaemonInstr

/-- The checks of the detection thread. -/
def detects : DaemonInstr → Bool
  | .callbackWeHaveBucket _ _ | .callbackIsBlackholed _ _ | .callbackEnableCapture _ _ => true
  | _ => false

/-- The loop of the scheduler and its attempt to begin a capture. -/
def schedules : DaemonInstr → Bool
  | .scheduleLoop _ _ | .refreshBeginIpv4Capture _ _ _ => true
  | _ => false

/-- The hosts that the detection or the scheduler looks at. -/
def hosts : DaemonInstr → List UInt32
  | .callbackWeHaveBucket v _ | .callbackIsBlackholed v _ | .callbackEnableCapture v _ => [v]
  | .scheduleLoop _ bans => bans.map Prod.fst
  | .refreshBeginIpv4Capture _ v _ => [v]
  | _ => []

/-- `Effect config input s i s' new forked`: in the state `s` the instruction `i`
leads to `s'`, is followed by `new` and forks the threads `forked`. -/
inductive Effect (config : DaemonConfiguration) (input : DaemonInput) (s : DaemonState) :
    DaemonInstr → DaemonState → List DaemonInstr → List (List DaemonInstr) → Prop
  | worker {j t new forked}
      (he : j.exec config.toGobgpFlowspecConfiguration input.reply s.flowspec
        = some (t, new, forked)) :
      Effect config input s (.flowspec j) { s with flowspec := t } (new.map .flowspec)
        (forked.map (List.map .flowspec))
  -- ban and unban
  | ban (v attack packets) :
      Effect config input s (.addToBlackhole v attack packets)
        { s with banListIpv4 := s.banListIpv4.addToBlackhole v attack }
        [.callBlackholeActionsPerHost .ban v attack packets] []
  | hook (action v attack packets) :
      Effect config input s (.callBlackholeActionsPerHost action v attack packets) s []
        (gobgpThread config action v attack packets)
  | remove (v) :
      Effect config input s (.removeFromBlackhole v)
        { s with banListIpv4 := s.banListIpv4.removeFromBlackhole v } [] []
  | snapshot :
      Effect config input s .executeUnbanOperationIpv4 s
        [.unbanLoop input.now s.banListIpv4.getWholeBanlist []] []
  | unbanDecided (t v) {details} (rest erase)
      (hready : details.weCouldUnbanThisIp config t input.attackIsFinished = true) :
      Effect config input s (.unbanLoop t ((v, details) :: rest) erase) s
        [.callBlackholeActionsPerHost .unban v details [], .unbanLoop t rest (erase ++ [v])] []
  | unbanSkipped (t entry rest erase) :
      Effect config input s (.unbanLoop t (entry :: rest) erase) s [.unbanLoop t rest erase] []
  | unbanRemovals (t erase) :
      Effect config input s (.unbanLoop t [] erase) s (erase.map .removeFromBlackhole) []
  | unBanFound {v} (hv : s.banListIpv4.isBlackholed v = true) :
      Effect config input s (.unBanIsBlackholed v) s [.unBanGetBlackholeDetails v] []
  | unBanUnknown (v) : Effect config input s (.unBanIsBlackholed v) s [] []
  | unBanDetails {v} (attack) (hv : s.banListIpv4.isBlackholed v = true) :
      Effect config input s (.unBanGetBlackholeDetails v) s
        [.removeFromBlackhole v, .callBlackholeActionsPerHost .unban v attack []] []
  | unBanGone {v} (hv : s.banListIpv4.isBlackholed v = false) :
      Effect config input s (.unBanGetBlackholeDetails v) s [] []
  -- packets
  | detect {i new} (hi : i.detects = true) (hnew : ∀ j ∈ new, j.detects = true)
      (hhosts : ∀ j ∈ new, j.hosts ⊆ i.hosts) :
      Effect config input s i s new []
  | detected {v attack} (hfree : s.packetBucketsMapMutexHeld = false) :
      Effect config input s (.callbackEnableCapture v attack)
        { s with
          packetBucketsIpv4Storage :=
            (s.packetBucketsIpv4Storage.enablePacketCapture v attack .once input.now).2 } [] []
  | packet {v packet} (hfree : s.packetBucketsMapMutexHeld = false) :
      Effect config input s (.addPacketToStorage v packet)
        { s with
          packetBucketsIpv4Storage :=
            (s.packetBucketsIpv4Storage.addPacketToStorage v packet input.now).2 } [] []
  -- `remove_orphaned_buckets`
  | orphanedLock (vs) (hfree : s.packetBucketsMapMutexHeld = false) :
      Effect config input s .removeOrphanedBuckets { s with packetBucketsMapMutexHeld := true }
        [.orphanedLoop vs] []
  | orphanedUnlock :
      Effect config input s (.orphanedLoop []) { s with packetBucketsMapMutexHeld := false } [] []
  | orphanedRefresh (v rest)
      (hv : s.packetBucketsIpv4Storage.patternOf v = some .flowSpecRefreshOnce) :
      Effect config input s (.orphanedLoop (v :: rest))
        { s with packetBucketsIpv4Storage := s.packetBucketsIpv4Storage.stopCollection v }
        [.orphanedComplete v rest] []
  | orphanedOther (v rest)
      (hv : s.packetBucketsIpv4Storage.patternOf v ≠ some .flowSpecRefreshOnce) :
      Effect config input s (.orphanedLoop (v :: rest))
        { s with packetBucketsIpv4Storage := s.packetBucketsIpv4Storage.stopCollection v }
        [.orphanedErase v rest] []
  | orphanedComplete (v rest) :
      Effect config input s (.orphanedComplete v rest) (s.refreshCompleteIpv4Capture v)
        [.orphanedErase v rest] []
  | orphanedErase (v rest) :
      Effect config input s (.orphanedErase v rest)
        { s with
          packetBucketsIpv4Storage := s.packetBucketsIpv4Storage.removePacketCaptureForIp v }
        [.orphanedLoop rest] []
  -- `process_filled_buckets_ipv4`
  | filledLock (vs) (hfree : s.packetBucketsMapMutexHeld = false)
      (hvs : ∀ v ∈ vs, s.packetBucketsIpv4Storage.patternOf v ≠ none) :
      Effect config input s .processFilledBucketsIpv4 { s with packetBucketsMapMutexHeld := true }
        [.filledLoop vs []] []
  | filledUnlock (captures) :
      Effect config input s (.filledLoop [] captures) { s with packetBucketsMapMutexHeld := false }
        (captures.map fun capture => .refreshProcessIpv4Capture capture.1 capture.2) []
  | filledRefresh (v rest captures packets)
      (hv : s.packetBucketsIpv4Storage.patternOf v = some .flowSpecRefreshOnce) :
      Effect config input s (.filledLoop (v :: rest) captures)
        { s with
          packetBucketsIpv4Storage := s.packetBucketsIpv4Storage.removePacketCaptureForIp v }
        [.filledLoop rest (captures ++ [(v, packets)])] []
  | filledBan (v rest captures attack packets)
      (hv : s.packetBucketsIpv4Storage.patternOf v ≠ some .flowSpecRefreshOnce) :
      Effect config input s (.filledLoop (v :: rest) captures) s
        [.addToBlackhole v attack packets, .filledErase v rest captures] []
  | filledErase (v rest captures) :
      Effect config input s (.filledErase v rest captures)
        { s with
          packetBucketsIpv4Storage := s.packetBucketsIpv4Storage.removePacketCaptureForIp v }
        [.filledLoop rest captures] []
  -- refresh captures
  | processOff (v packets) (hoff : config.refreshOff = true) :
      Effect config input s (.refreshProcessIpv4Capture v packets) s [] []
  | processComplete (v packets) :
      Effect config input s (.refreshProcessIpv4Capture v packets) s
        [.refreshCompleteIpv4Capture .captureProcessing v] []
  | processManage (v packets results) (hon : config.refreshOff = false) :
      Effect config input s (.refreshProcessIpv4Capture v packets) s
        [.flowspec (.refreshManage v results)] []
  | scheduleOff : Effect config input s .scheduleGobgpFlowspecRefreshCaptures s [] []
  | schedule (times) (hon : config.refreshOff = false) :
      Effect config input s .scheduleGobgpFlowspecRefreshCaptures
        { s with gobgpFlowspecRefreshLastCaptureTime := times }
        [.scheduleLoop input.now s.banListIpv4.getWholeBanlist] []
  | scheduleTurn (t bans) {new} (hnew : ∀ j ∈ new, j.schedules = true)
      (hhosts : ∀ j ∈ new, j.hosts ⊆ bans.map Prod.fst) :
      Effect config input s (.scheduleLoop t bans) s new []
  | captureRefused (t v details)
      (hno : ¬ input.admitted ∨ (s.flowspec.lifecycle.beginRefreshCapture v).1 = false) :
      Effect config input s (.refreshBeginIpv4Capture t v details) s [] []
  | captureBegun (t details) {v} (hadmitted : input.admitted)
      (hv : (s.flowspec.lifecycle.beginRefreshCapture v).1 = true) :
      Effect config input s (.refreshBeginIpv4Capture t v details)
        { s with
          flowspec := { s.flowspec with
            lifecycle := (s.flowspec.lifecycle.beginRefreshCapture v).2 } }
        [.refreshEnableCapture t v details] []
  | captureEnabled (t v details) (times) (hfree : s.packetBucketsMapMutexHeld = false)
      (hv : s.packetBucketsIpv4Storage.patternOf v = none) :
      Effect config input s (.refreshEnableCapture t v details)
        { s with
          packetBucketsIpv4Storage := (s.packetBucketsIpv4Storage.enablePacketCapture v details
            .flowSpecRefreshOnce input.now).2
          gobgpFlowspecRefreshLastCaptureTime := times } [] []
  | captureNotEnabled (t v details) :
      Effect config input s (.refreshEnableCapture t v details) s
        [.refreshCompleteIpv4Capture .scheduler v] []
  | captureComplete (caller v) :
      Effect config input s (.refreshCompleteIpv4Capture caller v)
        (s.refreshCompleteIpv4Capture v) [] []

variable {config : DaemonConfiguration} {i : DaemonInstr} {input : DaemonInput}
  {s s' : DaemonState} {new : List DaemonInstr} {forked : List (List DaemonInstr)}

/-! ### Ban and unban -/

/-- An instruction of a worker. -/
theorem effect_flowspec {j : FlowspecInstr}
    (he : (flowspec j).exec config input s = some (s', new, forked)) :
    Effect config input s (.flowspec j) s' new forked := by
  obtain ⟨⟨t, new', forked'⟩, hj, heq⟩ := Option.map_eq_some_iff.mp he
  obtain ⟨rfl, hnew⟩ := Prod.mk.inj heq
  obtain ⟨rfl, rfl⟩ := Prod.mk.inj hnew
  exact .worker hj

/-- A round of the unban loop. -/
theorem effect_unbanLoop {t : Int} {copy : List (UInt32 × AttackDetails)} {erase : List UInt32}
    (he : (unbanLoop t copy erase).exec config input s = some (s', new, forked)) :
    Effect config input s (.unbanLoop t copy erase) s' new forked := by
  obtain ⟨rfl, rfl, rfl⟩ := by simpa [exec] using he
  rcases copy with - | ⟨⟨v, details⟩, rest⟩
  · exact .unbanRemovals t erase
  · simp only [unbanTurn]
    split
    · exact .unbanDecided t v rest erase ‹_›
    · exact .unbanSkipped t (v, details) rest erase

/-- The first look of an unban. -/
theorem effect_unBanIsBlackholed {v : UInt32}
    (he : (unBanIsBlackholed v).exec config input s = some (s', new, forked)) :
    Effect config input s (.unBanIsBlackholed v) s' new forked := by
  obtain ⟨rfl, rfl, rfl⟩ := by simpa [exec] using he
  split
  · exact .unBanFound ‹_›
  · exact .unBanUnknown v

/-- The second look of an unban. -/
theorem effect_unBanGetBlackholeDetails {v : UInt32}
    (he : (unBanGetBlackholeDetails v).exec config input s = some (s', new, forked)) :
    Effect config input s (.unBanGetBlackholeDetails v) s' new forked := by
  simp only [exec] at he
  split at he
  · rename_i attack hattack
    obtain ⟨rfl, rfl, rfl⟩ := by simpa using he
    exact .unBanDetails attack (BlackholeBanList.isBlackholed_of_getBlackholeDetails hattack)
  · rename_i hnone
    obtain ⟨rfl, rfl, rfl⟩ := by simpa using he
    exact .unBanGone (BlackholeBanList.isBlackholed_eq_false_of_getBlackholeDetails hnone)

/-! ### Detection -/

/-- The checks hand on the host that they were given. -/
theorem effect_of_detects (hi : i.detects = true)
    (he : i.exec config input s = some (s', new, forked)) :
    Effect config input s i s' new forked := by
  cases i with
  | callbackWeHaveBucket v attack =>
      obtain ⟨-, heq⟩ := lockingBuckets_eq_some.mp he
      obtain ⟨rfl, rfl, rfl⟩ := by simpa using heq
      refine .detect rfl ?_ ?_ <;> split <;> simp [detects, hosts]
  | callbackIsBlackholed v attack =>
      obtain ⟨rfl, rfl, rfl⟩ := by simpa [exec] using he
      refine .detect rfl ?_ ?_ <;> split <;> simp [detects, hosts]
  | callbackEnableCapture v attack =>
      obtain ⟨hfree, heq⟩ := lockingBuckets_eq_some.mp he
      obtain ⟨rfl, rfl, rfl⟩ := by simpa using heq
      exact .detected hfree
  | _ => cases hi

/-! ### The bucket map -/

/-- A round of the loop over orphaned captures. -/
theorem effect_orphanedLoop {vs : List UInt32}
    (he : (orphanedLoop vs).exec config input s = some (s', new, forked)) :
    Effect config input s (.orphanedLoop vs) s' new forked := by
  rcases vs with - | ⟨v, rest⟩
  · obtain ⟨rfl, rfl, rfl⟩ := by simpa [exec] using he
    exact .orphanedUnlock
  · obtain ⟨rfl, rfl, rfl⟩ := by simpa [exec] using he
    split
    · exact .orphanedRefresh v rest ‹_›
    · exact .orphanedOther v rest ‹_›

/-- The list of filled buckets. -/
theorem effect_processFilledBucketsIpv4
    (he : processFilledBucketsIpv4.exec config input s = some (s', new, forked)) :
    Effect config input s .processFilledBucketsIpv4 s' new forked := by
  obtain ⟨hfree, heq⟩ := lockingBuckets_eq_some.mp he
  obtain ⟨rfl, rfl, rfl⟩ := by simpa using heq
  exact .filledLock _ hfree fun v hv => PacketBucketsStorage.patternOf_of_mem_keysWith hv

/-- A round of the loop over filled buckets. -/
theorem effect_filledLoop {vs : List UInt32} {captures : List (UInt32 × List SimplePacket)}
    (he : (filledLoop vs captures).exec config input s = some (s', new, forked)) :
    Effect config input s (.filledLoop vs captures) s' new forked := by
  rcases vs with - | ⟨v, rest⟩
  · obtain ⟨rfl, rfl, rfl⟩ := by simpa [exec] using he
    exact .filledUnlock captures
  · have hpattern := s.packetBucketsIpv4Storage.getD_collectionPattern v
    simp only [exec] at he
    split at he
    · rename_i hp
      obtain ⟨rfl, rfl, rfl⟩ := by simpa using he
      exact .filledRefresh v rest captures _ (hpattern.mp hp)
    · rename_i hp
      obtain ⟨rfl, rfl, rfl⟩ := by simpa using he
      refine .filledBan v rest captures _ _ fun h => ?_
      have hrefresh := hpattern.mpr h
      rw [hp] at hrefresh
      cases hrefresh

/-! ### Refresh captures -/

/-- The end of a refresh capture. -/
theorem effect_refreshProcessIpv4Capture {v : UInt32} {packets : List SimplePacket}
    (he : (refreshProcessIpv4Capture v packets).exec config input s = some (s', new, forked)) :
    Effect config input s (.refreshProcessIpv4Capture v packets) s' new forked := by
  obtain ⟨rfl, rfl, rfl⟩ := by simpa [exec] using he
  rcases refreshProcess_cases config input.admissionSnapshot v packets with
    ⟨hoff, h⟩ | h | ⟨results, hon, h⟩ <;> rw [h]
  · exact .processOff v packets hoff
  · exact .processComplete v packets
  · exact .processManage v packets results hon

/-- The start of the refresh scheduler. -/
theorem effect_scheduleGobgpFlowspecRefreshCaptures
    (he : scheduleGobgpFlowspecRefreshCaptures.exec config input s = some (s', new, forked)) :
    Effect config input s .scheduleGobgpFlowspecRefreshCaptures s' new forked := by
  simp only [exec] at he
  split at he
  · obtain ⟨rfl, rfl, rfl⟩ := by simpa using he
    exact .scheduleOff
  · rename_i hon
    obtain ⟨rfl, rfl, rfl⟩ := by simpa using he
    exact .schedule _ (Bool.eq_false_iff.mpr hon)

/-- A turn of the loop goes on with the rest of its list, and may begin a capture of the
first host. -/
theorem effect_scheduleLoop {t : Int} {bans : List (UInt32 × AttackDetails)}
    (he : (scheduleLoop t bans).exec config input s = some (s', new, forked)) :
    Effect config input s (.scheduleLoop t bans) s' new forked := by
  rcases bans with - | ⟨⟨v, details⟩, rest⟩
  · obtain ⟨rfl, rfl, rfl⟩ := by simpa [exec] using he
    exact .scheduleTurn t [] (by simp) (by simp)
  · simp only [exec] at he
    split at he
    · obtain ⟨rfl, rfl, rfl⟩ := by simpa using he
      exact .scheduleTurn t _ (by simp [schedules]) (by simp [hosts])
    · obtain ⟨-, heq⟩ := lockingBuckets_eq_some.mp he
      obtain ⟨rfl, rfl, rfl⟩ := by simpa using heq
      refine .scheduleTurn t _ ?_ ?_ <;> split <;> simp [schedules, hosts]

/-- The begin of a refresh capture. -/
theorem effect_refreshBeginIpv4Capture {t : Int} {v : UInt32} {details : AttackDetails}
    (he : (refreshBeginIpv4Capture t v details).exec config input s = some (s', new, forked)) :
    Effect config input s (.refreshBeginIpv4Capture t v details) s' new forked := by
  simp only [exec] at he
  split at he
  · rename_i hadmitted
    obtain ⟨rfl, rfl, rfl⟩ := by simpa using he
    rcases s.flowspec.lifecycle.beginRefreshCapture_cases v with h | ⟨-, -, h⟩
    · have hrefused : (s.flowspec.lifecycle.beginRefreshCapture v).1 = false := by rw [h]
      rw [hrefused, h]
      exact .captureRefused t v details (.inr hrefused)
    · have hbegun : (s.flowspec.lifecycle.beginRefreshCapture v).1 = true := by rw [h]
      rw [hbegun]
      exact .captureBegun t details hadmitted hbegun
  · rename_i hadmitted
    obtain ⟨rfl, rfl, rfl⟩ := by simpa using he
    exact .captureRefused t v details (.inl hadmitted)

/-- The bucket of a refresh capture. -/
theorem effect_refreshEnableCapture {t : Int} {v : UInt32} {details : AttackDetails}
    (he : (refreshEnableCapture t v details).exec config input s = some (s', new, forked)) :
    Effect config input s (.refreshEnableCapture t v details) s' new forked := by
  have hcases := s.packetBucketsIpv4Storage.enablePacketCapture_cases v details
    .flowSpecRefreshOnce input.now
  rcases henable : s.packetBucketsIpv4Storage.enablePacketCapture v details
    .flowSpecRefreshOnce input.now with ⟨enabled, storage⟩
  simp only [exec, henable, lockingBuckets_eq_some] at he hcases
  obtain ⟨hfree, heq⟩ := he
  cases enabled with
  | false =>
      obtain ⟨rfl, rfl, rfl⟩ := by simpa using heq
      exact .captureNotEnabled t v details
  | true =>
      obtain ⟨rfl, rfl, rfl⟩ := by simpa using heq
      have hnone : s.packetBucketsIpv4Storage.patternOf v = none := by
        rcases hcases with ⟨-, h⟩ | ⟨h, -⟩
        · cases h
        · exact h
      have hstorage : storage = (s.packetBucketsIpv4Storage.enablePacketCapture v details
          .flowSpecRefreshOnce input.now).2 := by rw [henable]
      rw [hstorage]
      exact .captureEnabled t v details _ hfree hnone

/-! ### Every instruction -/

/-- **What an instruction can do.** -/
theorem exec_effect (he : i.exec config input s = some (s', new, forked)) :
    Effect config input s i s' new forked := by
  cases i with
  | flowspec j => exact effect_flowspec he
  | addToBlackhole v attack packets =>
      obtain ⟨rfl, rfl, rfl⟩ := by simpa [exec] using he
      exact .ban v attack packets
  | callBlackholeActionsPerHost action v attack packets =>
      obtain ⟨rfl, rfl, rfl⟩ := by simpa [exec] using he
      exact .hook action v attack packets
  | removeFromBlackhole v =>
      obtain ⟨rfl, rfl, rfl⟩ := by simpa [exec] using he
      exact .remove v
  | executeUnbanOperationIpv4 =>
      obtain ⟨rfl, rfl, rfl⟩ := by simpa [exec] using he
      exact .snapshot
  | unbanLoop t copy erase => exact effect_unbanLoop he
  | unBanIsBlackholed v => exact effect_unBanIsBlackholed he
  | unBanGetBlackholeDetails v => exact effect_unBanGetBlackholeDetails he
  | callbackWeHaveBucket v attack => exact effect_of_detects rfl he
  | callbackIsBlackholed v attack => exact effect_of_detects rfl he
  | callbackEnableCapture v attack => exact effect_of_detects rfl he
  | addPacketToStorage v packet =>
      obtain ⟨hfree, heq⟩ := lockingBuckets_eq_some.mp he
      obtain ⟨rfl, rfl, rfl⟩ := by simpa using heq
      exact .packet hfree
  | removeOrphanedBuckets =>
      obtain ⟨hfree, heq⟩ := lockingBuckets_eq_some.mp he
      obtain ⟨rfl, rfl, rfl⟩ := by simpa using heq
      exact .orphanedLock _ hfree
  | orphanedLoop vs => exact effect_orphanedLoop he
  | orphanedComplete v rest =>
      obtain ⟨rfl, rfl, rfl⟩ := by simpa [exec] using he
      exact .orphanedComplete v rest
  | orphanedErase v rest =>
      obtain ⟨rfl, rfl, rfl⟩ := by simpa [exec] using he
      exact .orphanedErase v rest
  | processFilledBucketsIpv4 => exact effect_processFilledBucketsIpv4 he
  | filledLoop vs captures => exact effect_filledLoop he
  | filledErase v rest captures =>
      obtain ⟨rfl, rfl, rfl⟩ := by simpa [exec] using he
      exact .filledErase v rest captures
  | refreshProcessIpv4Capture v packets => exact effect_refreshProcessIpv4Capture he
  | scheduleGobgpFlowspecRefreshCaptures => exact effect_scheduleGobgpFlowspecRefreshCaptures he
  | scheduleLoop t bans => exact effect_scheduleLoop he
  | refreshBeginIpv4Capture t v details => exact effect_refreshBeginIpv4Capture he
  | refreshEnableCapture t v details => exact effect_refreshEnableCapture he
  | refreshCompleteIpv4Capture caller v =>
      obtain ⟨rfl, rfl, rfl⟩ := by simpa [exec] using he
      exact .captureComplete caller v

end DaemonInstr

end FastNetMon
