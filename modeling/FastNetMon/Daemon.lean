/-
FastNetMon/Daemon.lean

The threads of the daemon around the FlowSpec workers: detection, packet
capture, ban and unban of IPv4 hosts (`fastnetmon_logic.cpp`, `ban_list.hpp`,
`api.cpp`).

They share the ban list, the packet buckets, the lifecycle and GoBGP.  As for
the workers, a thread is a list of instructions, and an instruction is one
critical section: of the ban list, of the bucket map, of the lifecycle, or one
RPC.  `remove_orphaned_buckets` and `process_filled_buckets_ipv4` call the
lifecycle and the ban list while they hold the mutex of the bucket map.  So
that mutex is part of the state, and these two functions take several
instructions; each of them carries the local vectors of the source and expands
to the one that follows it.

What the daemon measures is an input of the instruction that reads it: the
clock, the speed of a host, the replies of GoBGP.  The two port classifiers
are parameters.

A job is a call of one of the functions that the daemon's threads run.  Jobs
are started in any number, at any time and side by side; the endless loops of
the source (`check_traffic_buckets`, `cleanup_ban_list`) are among the ways to
do so.
-/
import Mathlib
import FastNetMon.PacketBucket
import FastNetMon.Workers

namespace FastNetMon

open Std

/-! ### The ban list -/

/-- `blackhole_ban_list_t`. -/
structure BlackholeBanList (κ : Type) [Ord κ] where
  banListStorage : ExtTreeMap κ AttackDetails compare := ∅

namespace BlackholeBanList

variable {κ : Type} [Ord κ] [TransOrd κ] (b : BlackholeBanList κ) (clientId : κ)

/-- `is_blackholed`. -/
def isBlackholed : Bool := b.banListStorage.contains clientId

/-- `add_to_blackhole`: the details of an earlier ban are overwritten. -/
def addToBlackhole (currentAttack : AttackDetails) : BlackholeBanList κ :=
  { banListStorage := b.banListStorage.insert clientId currentAttack }

/-- `remove_from_blackhole`. -/
def removeFromBlackhole : BlackholeBanList κ :=
  { banListStorage := b.banListStorage.erase clientId }

/-- `get_whole_banlist`, in the order of the keys. -/
def getWholeBanlist : List (κ × AttackDetails) := b.banListStorage.toList

/-- `get_blackhole_details`; `none` if the host is not in the list. -/
def getBlackholeDetails : Option AttackDetails := b.banListStorage[clientId]?

variable {b clientId} {v : κ}

@[simp] theorem isBlackholed_empty : ({} : BlackholeBanList κ).isBlackholed v = false := by
  simp [isBlackholed]

/-- A host with details is in the list. -/
theorem isBlackholed_of_getBlackholeDetails {a : AttackDetails}
    (h : b.getBlackholeDetails v = some a) : b.isBlackholed v = true := by
  rw [isBlackholed, ExtTreeMap.contains_iff_mem, ExtTreeMap.mem_iff_isSome_getElem?]
  exact Option.isSome_of_eq_some h

/-- A host without details is not. -/
theorem isBlackholed_eq_false_of_getBlackholeDetails (h : b.getBlackholeDetails v = none) :
    b.isBlackholed v = false := by
  rw [isBlackholed, ExtTreeMap.contains_eq_isSome_getElem?, show b.banListStorage[v]? = none from h]
  rfl

variable [LawfulEqOrd κ]

/-- A ban adds its host. -/
theorem isBlackholed_addToBlackhole {a : AttackDetails} :
    (b.addToBlackhole clientId a).isBlackholed v = true ↔
      clientId = v ∨ b.isBlackholed v = true := by
  simp [isBlackholed, addToBlackhole]

/-- An unban removes its host. -/
theorem isBlackholed_removeFromBlackhole :
    (b.removeFromBlackhole clientId).isBlackholed v = true ↔
      clientId ≠ v ∧ b.isBlackholed v = true := by
  simp [isBlackholed, removeFromBlackhole]

end BlackholeBanList

/-! ### Configuration and measurements -/

/-- The options that the daemon's threads read, with the port classifiers.  As
they are here, the classifiers have too few samples to find a port; the ones of
the source are put in by `withClassifiers`. -/
structure DaemonConfiguration extends GobgpFlowspecConfiguration where
  gobgpFlowspecPortDetection : Bool := true
  gobgpFlowspecRuleRefreshInterval : UInt64 := 5
  unbanOnlyIfAttackFinished : Bool := true
  maximumTimeSinceBucketStartToRemove : UInt32 := 120
  classifyGobgpFlowspecDestinationPort :
    UInt32 → AttackDetails → List SimplePacket → Option UInt16 := fun _ _ _ => none
  classifyGobgpFlowspecRefreshProtocols :
    UInt32 → List IpProtocol → List SimplePacket → List GobgpFlowspecRefreshProtocolResult :=
      fun _ activeProtocols _ => activeProtocols.map fun protocol => ⟨protocol, [], by simp⟩

/-- The check with which the functions of the refresh start. -/
def DaemonConfiguration.refreshOff (config : DaemonConfiguration) : Bool :=
  !config.gobgp || !config.gobgpFlowspec || !config.gobgpFlowspecRuleRefresh

/-- `gobgp_flowspec_protocol_admission_snapshot_t`, the part that is compared. -/
structure GobgpFlowspecProtocolAdmissionSnapshot where
  tcpInPps : UInt64 := 0
  udpInPps : UInt64 := 0
  icmpInPps : UInt64 := 0
  tcpPpsEnabled : Bool := false
  tcpPpsThreshold : UInt32 := 0
  udpPpsEnabled : Bool := false
  udpPpsThreshold : UInt32 := 0
  icmpPpsEnabled : Bool := false
  icmpPpsThreshold : UInt32 := 0
deriving DecidableEq, Repr

/-- `get_gobgp_flowspec_active_protocols`, in the order of the `std::set`. -/
def getGobgpFlowspecActiveProtocols (snapshot : GobgpFlowspecProtocolAdmissionSnapshot) :
    List IpProtocol :=
  (if snapshot.icmpPpsEnabled && snapshot.icmpInPps > snapshot.icmpPpsThreshold.toUInt64
    then [.ICMP] else []) ++
  (if snapshot.tcpPpsEnabled && snapshot.tcpInPps > snapshot.tcpPpsThreshold.toUInt64
    then [.TCP] else []) ++
  (if snapshot.udpPpsEnabled && snapshot.udpInPps > snapshot.udpPpsThreshold.toUInt64
    then [.UDP] else [])

/-- What an instruction may read from outside: the reply of GoBGP, the clock,
`attack_is_finished`, and the admission snapshot of a host that has counters. -/
structure DaemonInput where
  reply : RpcReply := .failed
  now : Int := 0
  attackIsFinished : Bool := true
  admissionSnapshot : Option GobgpFlowspecProtocolAdmissionSnapshot := none
deriving DecidableEq

/-- The host has counters, and one of its protocols is active. -/
def DaemonInput.admitted (input : DaemonInput) : Bool :=
  match input.admissionSnapshot with
  | none => false
  | some snapshot => !(getGobgpFlowspecActiveProtocols snapshot).isEmpty

/-- The checks of `execute_unban_operation_ipv4` on one entry of the ban list. -/
def AttackDetails.weCouldUnbanThisIp (details : AttackDetails) (config : DaemonConfiguration)
    (currentTime : Int) (attackIsFinished : Bool) : Bool :=
  details.unbanEnabled && details.attackDetectionSource ≠ .manual
    && currentTime - details.banTimestamp > details.banTime
    && (!config.unbanOnlyIfAttackFinished || attackIsFinished)

/-! ### State and instructions -/

/-- What the threads share. -/
@[ext] structure DaemonState where
  flowspec : FlowspecState := {}
  banListIpv4 : BlackholeBanList UInt32 := {}
  packetBucketsIpv4Storage : PacketBucketsStorage UInt32 := {}
  packetBucketsMapMutexHeld : Bool := false
  gobgpFlowspecRefreshLastCaptureTime : ExtTreeMap UInt32 Int compare := ∅

/-- `attack_action_t`. -/
inductive AttackAction
  | ban
  | unban
deriving DecidableEq, Repr

/-- The functions that call `gobgp_flowspec_refresh_complete_ipv4_capture` without
holding a mutex. -/
inductive RefreshCompleteCaller
  | scheduler
  | captureProcessing
deriving DecidableEq, Repr

/-- The critical sections of the daemon's threads. -/
inductive DaemonInstr
  /-- a step of a FlowSpec worker -/
  | flowspec (i : FlowspecInstr)
  /-- `execute_ipv4_ban` and the second half of `ExecuteBan` -/
  | addToBlackhole (clientIp : UInt32) (currentAttack : AttackDetails)
      (simplePacketsBuffer : List SimplePacket)
  | callBlackholeActionsPerHost (attackAction : AttackAction) (clientIp : UInt32)
      (currentAttack : AttackDetails) (simplePacketsBuffer : List SimplePacket)
  | removeFromBlackhole (clientIp : UInt32)
  | executeUnbanOperationIpv4
  | unbanLoop (currentTime : Int) (banListCopy : List (UInt32 × AttackDetails))
      (banListItemsForErase : List UInt32)
  /-- `ExecuteUnBan` -/
  | unBanIsBlackholed (clientIp : UInt32)
  | unBanGetBlackholeDetails (clientIp : UInt32)
  /-- `speed_calculation_callback_local_ipv4` above its thresholds -/
  | callbackWeHaveBucket (clientIp : UInt32) (attackDetails : AttackDetails)
  | callbackIsBlackholed (clientIp : UInt32) (attackDetails : AttackDetails)
  | callbackEnableCapture (clientIp : UInt32) (attackDetails : AttackDetails)
  | addPacketToStorage (clientIp : UInt32) (currentPacket : SimplePacket)
  | removeOrphanedBuckets
  /-- the loop of `remove_orphaned_buckets`, and the last two statements of its body -/
  | orphanedLoop (bucketsToRemove : List UInt32)
  | orphanedComplete (clientIp : UInt32) (bucketsToRemove : List UInt32)
  | orphanedErase (clientIp : UInt32) (bucketsToRemove : List UInt32)
  | processFilledBucketsIpv4
  /-- the loop of `process_filled_buckets_ipv4`, and the end of its body -/
  | filledLoop (filledBuckets : List UInt32) (refreshBuckets : List (UInt32 × List SimplePacket))
  | filledErase (clientIp : UInt32) (filledBuckets : List UInt32)
      (refreshBuckets : List (UInt32 × List SimplePacket))
  | refreshProcessIpv4Capture (victimIpv4 : UInt32) (packetSamples : List SimplePacket)
  | scheduleGobgpFlowspecRefreshCaptures
  | scheduleLoop (currentTime : Int) (activeBans : List (UInt32 × AttackDetails))
  | refreshBeginIpv4Capture (currentTime : Int) (victimIpv4 : UInt32) (banDetails : AttackDetails)
  | refreshEnableCapture (currentTime : Int) (victimIpv4 : UInt32) (banDetails : AttackDetails)
  | refreshCompleteIpv4Capture (caller : RefreshCompleteCaller) (victimIpv4 : UInt32)
deriving DecidableEq

/-! ### Ban and unban -/

/-- The thread that `call_blackhole_actions_per_host` detaches for GoBGP.  The
callers pass `Automatic` as the source of the detection, also the API. -/
def gobgpThread (config : DaemonConfiguration) (attackAction : AttackAction) (clientIp : UInt32)
    (currentAttack : AttackDetails) (simplePacketsBuffer : List SimplePacket) :
    List (List DaemonInstr) :=
  if config.gobgp then
    let selectedDestinationPort :=
      if attackAction = .ban && currentAttack.attackDirection = .incoming
          && config.gobgpFlowspec && config.gobgpFlowspecPortDetection then
        config.classifyGobgpFlowspecDestinationPort clientIp currentAttack simplePacketsBuffer
      else none
    [(gobgpBanManageIpv4 config.toGobgpFlowspecConfiguration clientIp (attackAction = .unban)
      currentAttack selectedDestinationPort).map .flowspec]
  else []

/-- One turn of the loop over the copy of the ban list, and the removals after it. -/
def unbanTurn (config : DaemonConfiguration) (attackIsFinished : Bool) (currentTime : Int)
    (banListItemsForErase : List UInt32) : List (UInt32 × AttackDetails) → List DaemonInstr
  | [] => banListItemsForErase.map .removeFromBlackhole
  | (clientIp, details) :: rest =>
      if details.weCouldUnbanThisIp config currentTime attackIsFinished then
        [.callBlackholeActionsPerHost .unban clientIp details [],
          .unbanLoop currentTime rest (banListItemsForErase ++ [clientIp])]
      else [.unbanLoop currentTime rest banListItemsForErase]

/-! ### Refresh captures -/

/-- `gobgp_flowspec_refresh_process_ipv4_capture`. -/
def gobgpFlowspecRefreshProcessIpv4Capture (config : DaemonConfiguration)
    (admissionSnapshot : Option GobgpFlowspecProtocolAdmissionSnapshot) (victimIpv4 : UInt32)
    (packetSamples : List SimplePacket) : List DaemonInstr :=
  if config.refreshOff then []
  else
    match admissionSnapshot with
    | none => [.refreshCompleteIpv4Capture .captureProcessing victimIpv4]
    | some snapshot =>
        let activeProtocols := getGobgpFlowspecActiveProtocols snapshot
        if activeProtocols.isEmpty then [.refreshCompleteIpv4Capture .captureProcessing victimIpv4]
        else
          let activeProtocols :=
            if config.gobgpFlowspecPortDetection then activeProtocols
            else activeProtocols.filter fun protocol => protocol ≠ .TCP ∧ protocol ≠ .UDP
          let protocolResults := config.classifyGobgpFlowspecRefreshProtocols victimIpv4
            activeProtocols packetSamples
          if protocolResults.isEmpty then
            [.refreshCompleteIpv4Capture .captureProcessing victimIpv4]
          else [.flowspec (.refreshManage victimIpv4 protocolResults)]

/-- A capture is processed to its end, or handed over to a refresh worker. -/
theorem refreshProcess_cases (config : DaemonConfiguration)
    (snapshot : Option GobgpFlowspecProtocolAdmissionSnapshot) (v : UInt32)
    (packets : List SimplePacket) :
    (config.refreshOff = true ∧
      gobgpFlowspecRefreshProcessIpv4Capture config snapshot v packets = []) ∨
    gobgpFlowspecRefreshProcessIpv4Capture config snapshot v packets
      = [.refreshCompleteIpv4Capture .captureProcessing v] ∨
    ∃ results, config.refreshOff = false ∧
      gobgpFlowspecRefreshProcessIpv4Capture config snapshot v packets
        = [.flowspec (.refreshManage v results)] := by
  unfold gobgpFlowspecRefreshProcessIpv4Capture
  split
  · exact .inl ⟨‹_›, rfl⟩
  · rename_i hon
    rcases snapshot with - | snapshot
    · exact .inr (.inl rfl)
    · dsimp only
      split
      · exact .inr (.inl rfl)
      · generalize config.classifyGobgpFlowspecRefreshProtocols v _ packets = results
        rcases results with - | ⟨result, results⟩
        · exact .inr (.inl rfl)
        · exact .inr (.inr ⟨_, Bool.eq_false_iff.mpr hon, rfl⟩)

/-- The first loop of the scheduler: times of hosts that are not banned any more go. -/
def forgetUnbanned (activeBans : BlackholeBanList UInt32)
    (lastCaptureTime : ExtTreeMap UInt32 Int compare) : ExtTreeMap UInt32 Int compare :=
  lastCaptureTime.keys.foldl
    (fun times victimIpv4 =>
      if activeBans.isBlackholed victimIpv4 then times else times.erase victimIpv4)
    lastCaptureTime

/-- The capture of a victim is too recent; a clock that went back counts as such. -/
def refreshTooRecent (config : DaemonConfiguration) (s : DaemonState) (currentTime : Int)
    (victimIpv4 : UInt32) : Bool :=
  match s.gobgpFlowspecRefreshLastCaptureTime[victimIpv4]? with
  | some lastCaptureTime =>
      (currentTime - lastCaptureTime).toNat < config.gobgpFlowspecRuleRefreshInterval.toNat
  | none => false

/-- `gobgp_flowspec_refresh_complete_ipv4_capture`. -/
def DaemonState.refreshCompleteIpv4Capture (s : DaemonState) (clientIp : UInt32) : DaemonState :=
  { s with
    flowspec := { s.flowspec with
      lifecycle := s.flowspec.lifecycle.finishRefreshCapture clientIp } }

section

variable (s : DaemonState) (clientIp : UInt32)

@[simp] theorem DaemonState.refreshComplete_banListIpv4 :
    (s.refreshCompleteIpv4Capture clientIp).banListIpv4 = s.banListIpv4 := rfl

@[simp] theorem DaemonState.refreshComplete_packetBucketsIpv4Storage :
    (s.refreshCompleteIpv4Capture clientIp).packetBucketsIpv4Storage
      = s.packetBucketsIpv4Storage := rfl

@[simp] theorem DaemonState.refreshComplete_packetBucketsMapMutexHeld :
    (s.refreshCompleteIpv4Capture clientIp).packetBucketsMapMutexHeld
      = s.packetBucketsMapMutexHeld := rfl

end

/-! ### The machine -/

/-- A call of a function that locks `packet_buckets_map_mutex`. -/
def lockingBuckets {α : Type*} (s : DaemonState) (a : α) : Option α :=
  if s.packetBucketsMapMutexHeld then none else some a

/-- A call that locks the mutex goes on if nobody holds it. -/
theorem lockingBuckets_eq_some {α : Type*} {s : DaemonState} {a b : α} :
    lockingBuckets s a = some b ↔ s.packetBucketsMapMutexHeld = false ∧ a = b := by
  unfold lockingBuckets
  cases s.packetBucketsMapMutexHeld <;> simp

/-- One instruction. -/
def DaemonInstr.exec (config : DaemonConfiguration) (i : DaemonInstr) (input : DaemonInput)
    (s : DaemonState) : Option (DaemonState × List DaemonInstr × List (List DaemonInstr)) :=
  match i with
  | .flowspec i =>
      (i.exec config.toGobgpFlowspecConfiguration input.reply s.flowspec).map fun r =>
        ({ s with flowspec := r.1 }, r.2.1.map .flowspec, r.2.2.map (List.map .flowspec))
  | .addToBlackhole clientIp currentAttack packets =>
      some ({ s with banListIpv4 := s.banListIpv4.addToBlackhole clientIp currentAttack },
        [.callBlackholeActionsPerHost .ban clientIp currentAttack packets], [])
  | .callBlackholeActionsPerHost attackAction clientIp currentAttack packets =>
      some (s, [], gobgpThread config attackAction clientIp currentAttack packets)
  | .removeFromBlackhole clientIp =>
      some ({ s with banListIpv4 := s.banListIpv4.removeFromBlackhole clientIp }, [], [])
  | .executeUnbanOperationIpv4 =>
      some (s, [.unbanLoop input.now s.banListIpv4.getWholeBanlist []], [])
  | .unbanLoop currentTime banListCopy banListItemsForErase =>
      some (s, unbanTurn config input.attackIsFinished currentTime banListItemsForErase banListCopy,
        [])
  | .unBanIsBlackholed clientIp =>
      some (s, if s.banListIpv4.isBlackholed clientIp then [.unBanGetBlackholeDetails clientIp]
        else [], [])
  | .unBanGetBlackholeDetails clientIp =>
      match s.banListIpv4.getBlackholeDetails clientIp with
      | some currentAttack =>
          some (s, [.removeFromBlackhole clientIp,
            .callBlackholeActionsPerHost .unban clientIp currentAttack []], [])
      | none => some (s, [], [])
  | .callbackWeHaveBucket clientIp attackDetails =>
      lockingBuckets s (s, if s.packetBucketsIpv4Storage.weHaveBucketForThisIp clientIp then []
        else [.callbackIsBlackholed clientIp attackDetails], [])
  | .callbackIsBlackholed clientIp attackDetails =>
      some (s, if s.banListIpv4.isBlackholed clientIp then []
        else [.callbackEnableCapture clientIp attackDetails], [])
  | .callbackEnableCapture clientIp attackDetails =>
      let (_, storage) :=
        s.packetBucketsIpv4Storage.enablePacketCapture clientIp attackDetails .once input.now
      lockingBuckets s ({ s with packetBucketsIpv4Storage := storage }, [], [])
  | .addPacketToStorage clientIp currentPacket =>
      let (_, storage) :=
        s.packetBucketsIpv4Storage.addPacketToStorage clientIp currentPacket input.now
      lockingBuckets s ({ s with packetBucketsIpv4Storage := storage }, [], [])
  | .removeOrphanedBuckets =>
      let bucketsToRemove := s.packetBucketsIpv4Storage.keysWith fun bucket =>
        bucket.shouldRemoveOrphanedBucket input.now config.maximumTimeSinceBucketStartToRemove
      lockingBuckets s ({ s with packetBucketsMapMutexHeld := true },
        [.orphanedLoop bucketsToRemove], [])
  | .orphanedLoop [] => some ({ s with packetBucketsMapMutexHeld := false }, [], [])
  | .orphanedLoop (clientIp :: rest) =>
      some ({ s with
          packetBucketsIpv4Storage := s.packetBucketsIpv4Storage.stopCollection clientIp },
        [if s.packetBucketsIpv4Storage.patternOf clientIp = some .flowSpecRefreshOnce then
          .orphanedComplete clientIp rest else .orphanedErase clientIp rest], [])
  | .orphanedComplete clientIp rest =>
      some (s.refreshCompleteIpv4Capture clientIp, [.orphanedErase clientIp rest], [])
  | .orphanedErase clientIp rest =>
      some ({ s with
        packetBucketsIpv4Storage := s.packetBucketsIpv4Storage.removePacketCaptureForIp clientIp },
        [.orphanedLoop rest], [])
  | .processFilledBucketsIpv4 =>
      let filledBuckets := s.packetBucketsIpv4Storage.keysWith PacketBucket.isFilled
      lockingBuckets s ({ s with packetBucketsMapMutexHeld := true },
        [.filledLoop filledBuckets []], [])
  | .filledLoop [] refreshBuckets =>
      some ({ s with packetBucketsMapMutexHeld := false },
        refreshBuckets.map fun capture => .refreshProcessIpv4Capture capture.1 capture.2, [])
  | .filledLoop (clientIp :: rest) refreshBuckets =>
      let bucket := (s.packetBucketsIpv4Storage.packetBucketsMap[clientIp]?).getD {}
      let packets := bucket.parsedPacketsCircularBuffer.elements
      match bucket.collectionPattern with
      | .flowSpecRefreshOnce =>
          some ({ s with
            packetBucketsIpv4Storage :=
              s.packetBucketsIpv4Storage.removePacketCaptureForIp clientIp },
            [.filledLoop rest (refreshBuckets ++ [(clientIp, packets)])], [])
      | .once =>
          some (s, [.addToBlackhole clientIp bucket.attackDetails packets,
            .filledErase clientIp rest refreshBuckets], [])
  | .filledErase clientIp rest refreshBuckets =>
      some ({ s with
        packetBucketsIpv4Storage := s.packetBucketsIpv4Storage.removePacketCaptureForIp clientIp },
        [.filledLoop rest refreshBuckets], [])
  | .refreshProcessIpv4Capture victimIpv4 packetSamples =>
      some (s, gobgpFlowspecRefreshProcessIpv4Capture config input.admissionSnapshot victimIpv4
        packetSamples, [])
  | .scheduleGobgpFlowspecRefreshCaptures =>
      if config.refreshOff then some (s, [], [])
      else
        some ({ s with
          gobgpFlowspecRefreshLastCaptureTime :=
            forgetUnbanned s.banListIpv4 s.gobgpFlowspecRefreshLastCaptureTime },
          [.scheduleLoop input.now s.banListIpv4.getWholeBanlist], [])
  | .scheduleLoop _ [] => some (s, [], [])
  | .scheduleLoop currentTime ((victimIpv4, banDetails) :: rest) =>
      if refreshTooRecent config s currentTime victimIpv4 then
        some (s, [.scheduleLoop currentTime rest], [])
      else
        lockingBuckets s (s,
          (if s.packetBucketsIpv4Storage.weHaveBucketForThisIp victimIpv4 then []
            else [.refreshBeginIpv4Capture currentTime victimIpv4 banDetails])
            ++ [.scheduleLoop currentTime rest], [])
  | .refreshBeginIpv4Capture currentTime victimIpv4 banDetails =>
      if input.admitted then
        let (begun, lifecycle) := s.flowspec.lifecycle.beginRefreshCapture victimIpv4
        some ({ s with flowspec := { s.flowspec with lifecycle := lifecycle } },
          if begun then [.refreshEnableCapture currentTime victimIpv4 banDetails] else [], [])
      else some (s, [], [])
  | .refreshEnableCapture currentTime victimIpv4 banDetails =>
      let (enabled, storage) := s.packetBucketsIpv4Storage.enablePacketCapture victimIpv4
        banDetails .flowSpecRefreshOnce input.now
      lockingBuckets s (
        if enabled then
          ({ s with
            packetBucketsIpv4Storage := storage
            gobgpFlowspecRefreshLastCaptureTime :=
              s.gobgpFlowspecRefreshLastCaptureTime.insert victimIpv4 currentTime }, [], [])
        else (s, [.refreshCompleteIpv4Capture .scheduler victimIpv4], []))
  | .refreshCompleteIpv4Capture _ victimIpv4 =>
      some (s.refreshCompleteIpv4Capture victimIpv4, [], [])

/-- The functions that the daemon's threads and the API call. -/
inductive DaemonJob
  | executeUnbanOperationIpv4
  | executeBan (clientIp : UInt32) (belongsToOurNetworks : Bool)
  | executeUnBan (clientIp : UInt32)
  | speedCalculationCallbackLocalIpv4 (clientIp : UInt32) (attackDetails : AttackDetails)
  | addPacketToStorage (clientIp : UInt32) (currentPacket : SimplePacket)
  | removeOrphanedBuckets
  | processFilledBucketsIpv4
  | scheduleGobgpFlowspecRefreshCaptures

/-- The attack that `ExecuteBan` puts into the ban list. -/
def manualAttack : AttackDetails := { attackDetectionSource := .manual }

/-- The instructions that a call begins with. -/
def DaemonJob.program : DaemonJob → List DaemonInstr
  | .executeUnbanOperationIpv4 => [.executeUnbanOperationIpv4]
  | .executeBan clientIp belongsToOurNetworks =>
      if belongsToOurNetworks then [.addToBlackhole clientIp manualAttack []] else []
  | .executeUnBan clientIp => [.unBanIsBlackholed clientIp]
  | .speedCalculationCallbackLocalIpv4 clientIp attackDetails =>
      [.callbackWeHaveBucket clientIp attackDetails]
  | .addPacketToStorage clientIp currentPacket => [.addPacketToStorage clientIp currentPacket]
  | .removeOrphanedBuckets => [.removeOrphanedBuckets]
  | .processFilledBucketsIpv4 => [.processFilledBucketsIpv4]
  | .scheduleGobgpFlowspecRefreshCaptures => [.scheduleGobgpFlowspecRefreshCaptures]

/-- The threads of the daemon. -/
def daemonMachine (config : DaemonConfiguration) :
    Machine DaemonState DaemonInstr DaemonInput DaemonJob where
  program := DaemonJob.program
  exec := DaemonInstr.exec config

/-- Nobody is banned and no thread runs; the buffers of a capture take
`buffersMaximumCapacity` packets. -/
def daemonStart (buffersMaximumCapacity : UInt32) : Pool DaemonState DaemonInstr where
  shared := { packetBucketsIpv4Storage := { buffersMaximumCapacity := buffersMaximumCapacity } }
  threads := []

end FastNetMon
