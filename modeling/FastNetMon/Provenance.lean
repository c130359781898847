/-
FastNetMon/Provenance.lean

Where the hosts come from that the daemon acts on.

A ban, a capture and a FlowSpec path are made by threads that got the host from another
thread, from the ban list or from the bucket map, long after it was detected.  `Traced P`
says of an instruction that the host it will act on satisfies `P`, and of the shared state
that the hosts in it do.  Every instruction hands this on (`DaemonInstr.traced_exec`), so it
holds along every interleaving once it holds of the jobs that are started.

Main results: nothing happens to a host without a detection or an order for it
(`no_action_without_cause`), and, over the trees and counters of the daemon, what happens to
hosts happens to our own ones, over a threshold and not whitelisted unless there was an order
(`daemon_acts_on_own_hosts`).
-/
import Mathlib
import FastNetMon.BanListAgreement
import FastNetMon.Detection
import FastNetMon.LifecycleVictims

namespace FastNetMon

open Std

variable {P : UInt32 → Prop} {config : DaemonConfiguration}

/-! ### Rules for a host -/

/-- The rule is about traffic to a single host, and this host satisfies `P`. -/
def FlowSpecRule.Protects (P : UInt32 → Prop) (rule : FlowSpecRule) : Prop :=
  rule.destinationSubnetIpv4Used = true ∧
    ∃ host, P host ∧ rule.destinationSubnetIpv4 = ⟨host, 32⟩

/-- The packets that such a rule matches go to this host. -/
theorem FlowSpecRule.Protects.of_filter {rule : FlowSpecRule} (hrule : rule.Protects P)
    {lookupIp : LookupTree32bit} {packet : ParsedPacket}
    (hmatches : filterPacketByFlowspecRule lookupIp packet rule = true) : P packet.dstIp := by
  obtain ⟨hused, host, hhost, hdestination⟩ := hrule
  simp only [filterPacketByFlowspecRule, Bool.and_eq_true] at hmatches
  obtain ⟨⟨⟨⟨⟨⟨⟨-, -⟩, hmatched⟩, -⟩, -⟩, -⟩, -⟩, -⟩ := hmatches
  have hlength : rule.destinationSubnetIpv4.cidrPrefixLength = 32 := by rw [hdestination]
  rw [hused] at hmatched
  have hip := ipMatches_host hlength hmatched
  rw [hdestination] at hip
  rwa [hip]

/-- The request has its key, and is about a host that satisfies `P`. -/
def GobgpFlowspecAnnounceRequest.Traced (P : UInt32 → Prop) (r : GobgpFlowspecAnnounceRequest) :
    Prop :=
  r.Keyed ∧ P r.ruleKey.destinationIpv4

theorem GobgpFlowspecAnnounceRequest.Traced.protects {r : GobgpFlowspecAnnounceRequest}
    (hr : r.Traced P) : r.flowSpecRule.Protects P := by
  obtain ⟨hkeyed, hhost⟩ := hr
  have haddress := buildGobgpFlowspecRuleKey_destinationIpv4 hkeyed
  rw [GobgpFlowspecAnnounceRequest.Keyed, buildGobgpFlowspecRuleKey] at hkeyed
  split at hkeyed
  · cases hkeyed
  · rename_i hno
    simp only [Bool.or_eq_true, not_or, Bool.not_eq_true', Bool.not_eq_false, bne_iff_ne,
      not_not] at hno
    obtain ⟨⟨⟨hused, hlength⟩, -⟩, -⟩ := hno
    refine ⟨hused, r.ruleKey.destinationIpv4, hhost, ?_⟩
    rw [haddress, ← hlength]

/-! ### Workers -/

/-- The host that the instruction may announce a rule for satisfies `P`. -/
def FlowspecInstr.Traced (P : UInt32 → Prop) : FlowspecInstr → Prop
  | .beginAnnounce r | .beginRefreshAnnounce r | .addPath r _ => r.Traced P
  | .beginRefreshProtocolRules po reqs _ => po.Traced P ∧ ∀ r ∈ reqs, r.Keyed
  | .refreshManage v _ => P v
  | _ => True

namespace FlowspecInstr

variable {flowspecConfig : GobgpFlowspecConfiguration} {j : FlowspecInstr}

theorem traced_banManage {v : UInt32} {isWithdrawal : Bool} {attack : AttackDetails}
    {port : Option UInt16} (hv : isWithdrawal = false → P v)
    (hj : j ∈ gobgpBanManageIpv4 flowspecConfig v isWithdrawal attack port) : j.Traced P := by
  rcases gobgpBanManageIpv4_cases flowspecConfig v isWithdrawal attack port with
    h | ⟨-, h⟩ | ⟨r, hban, hkeyed, hkey, h⟩ <;> rw [h] at hj
  · cases hj
  · obtain rfl := List.mem_singleton.mp hj
    trivial
  · obtain rfl := List.mem_singleton.mp hj
    refine ⟨hkeyed, ?_⟩
    rw [hkey, builtRuleKey_destinationIpv4]
    exact hv hban

theorem traced_refreshThread {v : UInt32} {results : List GobgpFlowspecRefreshProtocolResult}
    (hv : P v) (hj : j ∈ refreshThread flowspecConfig v results) : j.Traced P := by
  rcases mem_refreshThread hj with
    rfl | ⟨r, rfl, hkeyed, rfl, -⟩ | ⟨po, reqs, rfl, hkeyed, rfl, -, -, hreqs⟩
  · trivial
  · exact ⟨hkeyed, hv⟩
  · exact ⟨⟨hkeyed, hv⟩, hreqs⟩

/-- What follows an instruction is about its host.  A refresh announces those of its port rules
only that are for the victim of its protocol rule. -/
theorem Successor.traced {l : GobgpFlowspecLifecycle} {i : FlowspecInstr}
    (h : Successor flowspecConfig l i j) (hi : i.Traced P) : j.Traced P := by
  cases h with
  | announce r => exact hi
  | refreshAnnounce r => exact hi
  | escalate po max hreqs => exact hi.1
  | addPort po max hr hport =>
      refine ⟨hi.2 _ hr, ?_⟩
      rw [destinationIpv4_of_isPortRule hport]
      exact hi.1.2
  | refresh hj => exact traced_refreshThread hi hj
  | _ => trivial

/-- Paths come from AddPath only. -/
theorem exec_paths {i : FlowspecInstr} {reply : RpcReply} {s s' : FlowspecState}
    {new : List FlowspecInstr} {forked : List (List FlowspecInstr)}
    (he : i.exec flowspecConfig reply s = some (s', new, forked)) {q : GobgpPath}
    (hq : q ∈ s'.paths) :
    q ∈ s.paths ∨ ∃ r cleanup, i = .addPath r cleanup ∧ q.flowSpecRule = r.flowSpecRule := by
  cases i with
  | addPath r cleanup =>
      obtain ⟨t, ht, heq⟩ := Option.map_eq_some_iff.mp he
      obtain ⟨rfl, -⟩ := Prod.mk.inj heq
      cases reply with
      | failed =>
          obtain rfl := Option.some.inj ht
          exact .inl hq
      | ok uuid =>
          simp only [FlowspecState.announceFlowSpecIPv4] at ht
          split at ht
          · cases ht
          · obtain rfl := Option.some.inj ht
            rcases Finset.mem_insert.mp hq with rfl | hq
            · exact .inr ⟨r, cleanup, rfl, rfl⟩
            · exact .inl hq
  | deletePath w =>
      obtain ⟨rfl, -⟩ := Prod.mk.inj (Option.some.inj he)
      cases reply with
      | failed => exact .inl hq
      | ok uuid => exact .inl (Finset.mem_filter.mp hq).1
  | _ =>
      obtain ⟨rfl, -⟩ := Prod.mk.inj (Option.some.inj he)
      exact .inl hq

end FlowspecInstr

/-! ### The daemon -/

/-- The host that the instruction will ban, capture or announce a rule for satisfies `P`. -/
def DaemonInstr.Traced (P : UInt32 → Prop) : DaemonInstr → Prop
  | .flowspec j => j.Traced P
  | .addToBlackhole v _ _ => P v
  | .callBlackholeActionsPerHost action v _ _ => action = .ban → P v
  | .callbackWeHaveBucket v _ | .callbackIsBlackholed v _ | .callbackEnableCapture v _ => P v
  | .filledLoop vs captures | .filledErase _ vs captures =>
      (∀ v ∈ vs, P v) ∧ ∀ capture ∈ captures, P capture.1
  | .refreshProcessIpv4Capture v _ => P v
  | .scheduleLoop _ bans => ∀ ban ∈ bans, P ban.1
  | .refreshBeginIpv4Capture _ v _ | .refreshEnableCapture _ v _ => P v
  | _ => True

/-- The hosts that are banned, captured or announced satisfy `P`. -/
structure DaemonState.Traced (P : UInt32 → Prop) (s : DaemonState) : Prop where
  banned : ∀ v, s.banListIpv4.isBlackholed v = true → P v
  captured : ∀ v, s.packetBucketsIpv4Storage.patternOf v ≠ none → P v
  announced : ∀ q ∈ s.flowspec.paths, q.flowSpecRule.Protects P

theorem BlackholeBanList.isBlackholed_of_mem_getWholeBanlist {b : BlackholeBanList UInt32}
    {entry : UInt32 × AttackDetails} (h : entry ∈ b.getWholeBanlist) :
    b.isBlackholed entry.1 = true := by
  apply BlackholeBanList.isBlackholed_of_getBlackholeDetails
  exact ExtTreeMap.mem_toList_iff_getElem?_eq_some.mp h

/-- A capture that is enabled adds no bucket but its own. -/
theorem PacketBucketsStorage.patternOf_enablePacketCapture {s : PacketBucketsStorage UInt32}
    {v u : UInt32} {attack : AttackDetails} {p : CollectionPattern} {now : Int}
    (hu : (s.enablePacketCapture v attack p now).2.patternOf u ≠ none) :
    s.patternOf u ≠ none ∨ v = u := by
  rcases s.enablePacketCapture_cases v attack p now with ⟨-, h⟩ | ⟨-, -, h⟩
  · rw [h] at hu
    exact .inl hu
  · rw [h] at hu
    split at hu
    · exact .inr ‹_›
    · exact .inl hu

namespace DaemonState.Traced

variable {s : DaemonState}

theorem addToBlackhole (hs : s.Traced P) {v : UInt32} (hv : P v) (attack : AttackDetails) :
    DaemonState.Traced P { s with banListIpv4 := s.banListIpv4.addToBlackhole v attack } := by
  refine ⟨fun u hu => ?_, hs.captured, hs.announced⟩
  rcases BlackholeBanList.isBlackholed_addToBlackhole.mp hu with rfl | hu
  · exact hv
  · exact hs.banned u hu

theorem removeFromBlackhole (hs : s.Traced P) (v : UInt32) :
    DaemonState.Traced P { s with banListIpv4 := s.banListIpv4.removeFromBlackhole v } :=
  ⟨fun u hu => hs.banned u (BlackholeBanList.isBlackholed_removeFromBlackhole.mp hu).2,
    hs.captured, hs.announced⟩

/-- The buckets are those of before, or one of them is for a host that satisfies `P`. -/
theorem buckets (hs : s.Traced P) {storage : PacketBucketsStorage UInt32}
    (h : ∀ v, storage.patternOf v ≠ none → s.packetBucketsIpv4Storage.patternOf v ≠ none ∨ P v) :
    DaemonState.Traced P { s with packetBucketsIpv4Storage := storage } :=
  ⟨hs.banned, fun v hv => (h v hv).elim (hs.captured v) id, hs.announced⟩

theorem enablePacketCapture (hs : s.Traced P) {v : UInt32} (hv : P v) (attack : AttackDetails)
    (p : CollectionPattern) (now : Int) : DaemonState.Traced P { s with
      packetBucketsIpv4Storage :=
        (s.packetBucketsIpv4Storage.enablePacketCapture v attack p now).2 } :=
  hs.buckets fun _ hu =>
    (PacketBucketsStorage.patternOf_enablePacketCapture hu).imp_right (by rintro rfl; exact hv)

theorem removePacketCapture (hs : s.Traced P) (v : UInt32) :
    DaemonState.Traced P { s with
      packetBucketsIpv4Storage := s.packetBucketsIpv4Storage.removePacketCaptureForIp v } := by
  refine hs.buckets fun u hu => .inl ?_
  rw [PacketBucketsStorage.patternOf_removePacketCaptureForIp] at hu
  split at hu
  · exact absurd rfl hu
  · exact hu

theorem stopCollection (hs : s.Traced P) (v : UInt32) :
    DaemonState.Traced P { s with
      packetBucketsIpv4Storage := s.packetBucketsIpv4Storage.stopCollection v } := by
  refine hs.buckets fun u hu => .inl ?_
  rwa [PacketBucketsStorage.patternOf_stopCollection] at hu

theorem addPacketToStorage (hs : s.Traced P) (v : UInt32) (packet : SimplePacket) (now : Int) :
    DaemonState.Traced P { s with
      packetBucketsIpv4Storage :=
        (s.packetBucketsIpv4Storage.addPacketToStorage v packet now).2 } := by
  refine hs.buckets fun u hu => .inl ?_
  rwa [PacketBucketsStorage.patternOf_addPacketToStorage] at hu

end DaemonState.Traced

namespace DaemonInstr

variable {i : DaemonInstr} {input : DaemonInput} {s s' : DaemonState} {new : List DaemonInstr}
  {forked : List (List DaemonInstr)}

theorem traced_gobgpThread {action : AttackAction} {v : UInt32} {attack : AttackDetails}
    {packets : List SimplePacket} {thread : List DaemonInstr}
    (hv : action = .ban → P v) (hthread : thread ∈ gobgpThread config action v attack packets)
    (hi : i ∈ thread) : i.Traced P := by
  rw [gobgpThread] at hthread
  split at hthread
  · obtain rfl := List.mem_singleton.mp hthread
    obtain ⟨j, hj, rfl⟩ := List.mem_map.mp hi
    refine FlowspecInstr.traced_banManage (fun hban => hv ?_) hj
    cases action with
    | ban => rfl
    | unban => cases hban
  · cases hthread

/-- The detection and the scheduler act on the hosts that they look at. -/
theorem traced_iff_hosts (hi : i.detects = true ∨ i.schedules = true) :
    i.Traced P ↔ ∀ v ∈ i.hosts, P v := by
  cases i with
  | callbackWeHaveBucket v attack => simp [Traced, hosts]
  | callbackIsBlackholed v attack => simp [Traced, hosts]
  | callbackEnableCapture v attack => simp [Traced, hosts]
  | scheduleLoop t bans => simp [Traced, hosts]
  | refreshBeginIpv4Capture t v details => simp [Traced, hosts]
  | _ => simp [detects, schedules] at hi

/-- What an instruction does to the shared state is done to a host that it was given. -/
theorem Effect.traced_state (h : Effect config input s i s' new forked) (hs : s.Traced P)
    (hi : i.Traced P) : s'.Traced P := by
  cases h with
  | worker he =>
      refine ⟨hs.banned, hs.captured, fun q hq => ?_⟩
      -- a path is new only if `AddPath` is called for a rule of the request
      rcases FlowspecInstr.exec_paths he hq with hq | ⟨r, cleanup, rfl, hrule⟩
      · exact hs.announced q hq
      · rw [hrule]
        exact GobgpFlowspecAnnounceRequest.Traced.protects hi
  | ban v attack packets => exact hs.addToBlackhole hi attack
  | remove v => exact hs.removeFromBlackhole v
  | detected hfree => exact hs.enablePacketCapture hi _ _ _
  | packet hfree => exact hs.addPacketToStorage _ _ _
  | orphanedRefresh v rest hv | orphanedOther v rest hv => exact hs.stopCollection v
  | orphanedErase v rest => exact hs.removePacketCapture v
  | filledRefresh v rest captures packets hv => exact hs.removePacketCapture v
  | filledErase v rest captures => exact hs.removePacketCapture v
  | captureEnabled t v details times hfree hv =>
      have hcaptured := hs.enablePacketCapture hi details .flowSpecRefreshOnce input.now
      exact ⟨hcaptured.banned, hcaptured.captured, hcaptured.announced⟩
  | orphanedLock | orphanedUnlock | orphanedComplete | filledLock | filledUnlock | schedule |
    captureBegun | captureComplete => exact ⟨hs.banned, hs.captured, hs.announced⟩
  | _ => exact hs

/-- What follows an instruction in its thread is about a host that it was given, or that was
found in the shared state. -/
theorem Effect.traced_new (h : Effect config input s i s' new forked) (hs : s.Traced P)
    (hi : i.Traced P) : ∀ j ∈ new, j.Traced P := by
  cases h with
  | worker he =>
      intro j hj
      obtain ⟨k, hk, rfl⟩ := List.mem_map.mp hj
      exact (FlowspecInstr.exec_successor he (List.mem_append_left _ hk)).traced hi
  | ban v attack packets => simpa [Traced] using hi
  | detect hdetects hnew hhosts =>
      intro j hj
      rw [traced_iff_hosts (.inl hdetects)] at hi
      rw [traced_iff_hosts (.inl (hnew j hj))]
      exact fun v hv => hi v (hhosts j hj hv)
  | filledLock vs hfree hvs =>
      have hfilled : ∀ v ∈ vs, P v := fun v hv => hs.captured v (hvs v hv)
      simpa [Traced] using hfilled
  | filledUnlock captures =>
      intro j hj
      obtain ⟨capture, hmem, rfl⟩ := List.mem_map.mp hj
      exact hi.2 capture hmem
  | filledRefresh v rest captures packets hv =>
      -- the bucket goes, its host is remembered for after the loop
      obtain ⟨hvs, hcaptures⟩ := hi
      obtain ⟨hv, hrest⟩ := List.forall_mem_cons.mp hvs
      refine List.forall_mem_singleton.mpr ⟨hrest, List.forall_mem_append.mpr ⟨hcaptures, ?_⟩⟩
      exact List.forall_mem_singleton.mpr hv
  | filledBan v rest captures attack packets hv =>
      obtain ⟨hvs, hcaptures⟩ := hi
      obtain ⟨hv, hrest⟩ := List.forall_mem_cons.mp hvs
      exact List.forall_mem_cons.mpr ⟨hv, List.forall_mem_singleton.mpr ⟨hrest, hcaptures⟩⟩
  | filledErase v rest captures => exact List.forall_mem_singleton.mpr hi
  | processManage v packets results hon => exact List.forall_mem_singleton.mpr hi
  | schedule times hon =>
      refine List.forall_mem_singleton.mpr fun ban hban => ?_
      exact hs.banned ban.1 (BlackholeBanList.isBlackholed_of_mem_getWholeBanlist hban)
  | scheduleTurn t bans hnew hhosts =>
      intro j hj
      rw [traced_iff_hosts (.inr rfl)] at hi
      rw [traced_iff_hosts (.inr (hnew j hj))]
      exact fun v hv => hi v (hhosts j hj hv)
  | captureBegun t details hadmitted hv => exact List.forall_mem_singleton.mpr hi
  | _ => simp [Traced]

/-- The threads that an instruction forks are about the host that it was given. -/
theorem Effect.traced_forked (h : Effect config input s i s' new forked) (hi : i.Traced P) :
    ∀ thread ∈ forked, ∀ j ∈ thread, j.Traced P := by
  cases h with
  | worker he =>
      intro thread hthread j hj
      obtain ⟨thread', hthread', rfl⟩ := List.mem_map.mp hthread
      obtain ⟨k, hk, rfl⟩ := List.mem_map.mp hj
      have hsuccessor := FlowspecInstr.exec_successor he
        (List.mem_append_right _ (List.mem_flatten_of_mem hthread' hk))
      exact hsuccessor.traced hi
  | hook action v attack packets =>
      exact fun thread hthread j hj => traced_gobgpThread hi hthread hj
  | _ => simp

/-- **What an instruction does is done to a host that it was given, or that was found in the
shared state.** -/
theorem traced_exec (hs : s.Traced P) (hi : i.Traced P)
    (he : i.exec config input s = some (s', new, forked)) :
    s'.Traced P ∧
      ∀ j ∈ (new : Multiset DaemonInstr) + (forked.flatten : Multiset DaemonInstr), j.Traced P := by
  have heffect := exec_effect he
  refine ⟨heffect.traced_state hs hi, fun j hj => ?_⟩
  rcases Multiset.mem_add.mp hj with hj | hj
  · exact heffect.traced_new hs hi j (Multiset.mem_coe.mp hj)
  · obtain ⟨thread, hthread, hj⟩ := List.mem_flatten.mp (Multiset.mem_coe.mp hj)
    exact heffect.traced_forked hi thread hthread j hj

end DaemonInstr

/-! ### Runs -/

/-- The host that the job may ban or capture satisfies `P`. -/
def DaemonJob.Traced (P : UInt32 → Prop) : DaemonJob → Prop
  | .executeBan v belongsToOurNetworks => belongsToOurNetworks = true → P v
  | .speedCalculationCallbackLocalIpv4 v _ => P v
  | _ => True

theorem DaemonJob.Traced.program {job : DaemonJob} (hjob : job.Traced P) {i : DaemonInstr}
    (hi : i ∈ job.program) : i.Traced P := by
  cases job with
  | executeBan v belongsToOurNetworks =>
      cases belongsToOurNetworks with
      | false => cases hi
      | true =>
          obtain rfl := List.mem_singleton.mp hi
          exact hjob rfl
  | speedCalculationCallbackLocalIpv4 v attack =>
      obtain rfl := List.mem_singleton.mp hi
      exact hjob
  | _ =>
      obtain rfl := List.mem_singleton.mp hi
      trivial

/-- What holds of the hosts of all jobs holds of the hosts that the daemon acts on, in every
interleaving. -/
theorem traced_of_run {C : Pool DaemonState DaemonInstr → PoolEvent DaemonJob DaemonInput → Prop}
    {capacity : UInt32} {es : List (PoolEvent DaemonJob DaemonInput)}
    {w : Pool DaemonState DaemonInstr}
    (h : Runs (daemonMachine config).step C (daemonStart capacity) es w)
    (hC : ∀ {u job}, C u (.start job) → job.Traced P) : w.shared.Traced P := by
  have hstart : (daemonStart capacity).shared.Traced P := by
    refine ⟨fun v hv => ?_, fun v hv => ?_, fun q hq => ?_⟩
    · have hnobody : (daemonStart capacity).shared.banListIpv4.isBlackholed v = false :=
        BlackholeBanList.isBlackholed_empty
      rw [hnobody] at hv
      cases hv
    · exact absurd (by simp [daemonStart, PacketBucketsStorage.patternOf]) hv
    · exact absurd hq (Finset.notMem_empty q)
  have hprogram : ∀ {u job}, C u (.start job) → ∀ i ∈ (daemonMachine config).program job,
      i.Traced P := fun hu i hi => (hC hu).program hi
  have hpending : ∀ i ∈ (daemonStart capacity).pending, i.Traced P := by
    intro i hi
    cases hi
  exact (Machine.invariant_of_runs hprogram DaemonInstr.traced_exec h hstart hpending).1

/-- The event orders a ban of the host, or is the detection of an attack on it. -/
inductive CauseFor (v : UInt32) : PoolEvent DaemonJob DaemonInput → Prop
  | order : CauseFor v (.start (.executeBan v true))
  | detection (attackDetails : AttackDetails) :
      CauseFor v (.start (.speedCalculationCallbackLocalIpv4 v attackDetails))

/-- **Nothing happens to a host without a cause.**  However the threads of the daemon are
interleaved and whatever GoBGP replies, a host that is banned, whose packets are captured, or
that GoBGP holds a path for was ordered to be banned or was detected before; and a path is for
a single host. -/
theorem no_action_without_cause {capacity : UInt32} {es : List (PoolEvent DaemonJob DaemonInput)}
    {w : Pool DaemonState DaemonInstr}
    (h : Runs (daemonMachine config).step Always (daemonStart capacity) es w) :
    w.shared.Traced fun v => ∃ e ∈ es, CauseFor v e := by
  refine traced_of_run h.events fun {u job} hjob => ?_
  cases job with
  | executeBan v belongsToOurNetworks =>
      rintro rfl
      exact ⟨_, hjob, .order⟩
  | speedCalculationCallbackLocalIpv4 v attack => exact ⟨_, hjob, .detection attack⟩
  | _ => trivial

/-- The worker that `banOne` forks announces its rule. -/
def announceOne : List (PoolEvent DaemonJob DaemonInput) :=
  [.run 3 {}, .run 3 { reply := .ok [1] }, .run 3 {}]

/-- Host 1 is detected and captured, banned, and announced. -/
theorem no_action_without_cause_announced :
    ∃ w : Pool DaemonState DaemonInstr, w.shared.flowspec.paths ≠ ∅ ∧
      w.shared.Traced fun v => ∃ e ∈ banOne ++ announceOne, CauseFor v e := by
  obtain ⟨w, hw, hpaths⟩ : ∃ w ∈ runEvents (daemonMachine {}).step (daemonStart 1)
      (banOne ++ announceOne), w.shared.flowspec.paths ≠ ∅ := by
    decide
  exact ⟨w, hpaths, no_action_without_cause (runs_iff_runEvents.mpr hw)⟩

/-! ### Our own hosts -/

/-- What starts the jobs.  `ExecuteBan` looks for the host in the tree of our networks, and the
detection runs over the hosts that have counters; its checks for a bucket and a ban are steps
of its job. -/
def DaemonJob.Caused (detection : DetectionContext) (traffic : TrafficContext)
    (ordered : UInt32 → Prop) : DaemonJob → Prop
  | .executeBan v belongsToOurNetworks => ordered v ∧
      (lookupNetworkWhichIncludesIp detection.lookupTreeIpv4 v).map Option.isSome
        = some belongsToOurNetworks
  | .speedCalculationCallbackLocalIpv4 v attackDetails =>
      (∃ packets, ∃ entry ∈ (processPackets traffic packets).ipv4.hostCounters, entry.1 = v) ∧
        ∃ element now attack,
          FastNetMon.speedCalculationCallbackLocalIpv4 detection v element false false now
            = some (some attack) ∧ attackDetails = attack.toAttackDetails
  | _ => True

/-- One of our hosts, which an operator ordered to be banned, or which was over a threshold of
its host group and is not whitelisted. -/
def RightlyActedOn (detection : DetectionContext) (subnets whitelist : List SubnetCidrMask)
    (ordered : UInt32 → Prop) (v : UInt32) : Prop :=
  OwnAddress subnets v ∧ (ordered v ∨ ∃ network element, LongestNetwork subnets ⟨v, 32⟩ network ∧
    UnderAttack detection whitelist network v element)

theorem DaemonJob.Caused.traced {subnets whitelist : List SubnetCidrMask}
    {subnetsIpv6 : List SubnetIpv6CidrMask} {tree whitelistTree : PatriciaTree 4 UInt64}
    {treeIpv6 : PatriciaTree 16 UInt64} (htree : AnswersBy subnets tree)
    (hwhitelist : AnswersBy whitelist whitelistTree)
    (htreeIpv6 : ∀ address, LongestNetworkIpv6 subnetsIpv6 address (networkOfIpv6 treeIpv6 address))
    {detection : DetectionContext} {traffic : TrafficContext} {ordered : UInt32 → Prop}
    {job : DaemonJob} (hjob : job.Caused (detection.withTrees tree whitelistTree)
      (traffic.withTrees tree treeIpv6) ordered) :
    job.Traced (RightlyActedOn detection subnets whitelist ordered) := by
  cases job with
  | executeBan v belongsToOurNetworks =>
      rintro rfl
      obtain ⟨hordered, hlookup⟩ := hjob
      have hfound : lookupNetworkWhichIncludesIp tree v = some (networkOf tree v) :=
        lookupNetworkWhichIncludesIp_eq htree v
      -- a ban is carried out only if the tree knows the host
      have hsome : (networkOf tree v).isSome = true := by
        rw [DetectionContext.withTrees] at hlookup
        dsimp only at hlookup
        rw [hfound] at hlookup
        exact Option.some.inj hlookup
      obtain ⟨net, hnet⟩ := Option.isSome_iff_exists.mp hsome
      have hlongest := (htree v).2
      rw [hnet] at hlongest
      exact ⟨hlongest.ownAddress, .inl hordered⟩
  | speedCalculationCallbackLocalIpv4 v attackDetails =>
      obtain ⟨⟨packets, entry, hentry, rfl⟩, element, now, attack, hattack, -⟩ := hjob
      -- the callback is for hosts with a counter, and these are ours
      have hown := (ownCounters_processPackets (fun ip => (htree ip).2) htreeIpv6 traffic
        packets).hostIpv4 entry hentry
      have hanswers : AnswersBy subnets (detection.withTrees tree whitelistTree).lookupTreeIpv4 :=
        htree
      obtain ⟨result, hresult, hunder, -⟩ := speedCalculationCallbackLocalIpv4_spec
        (detection.withTrees tree whitelistTree) hanswers hwhitelist entry.1 element false false now
      obtain rfl : some attack = result := Option.some.inj (hattack.symm.trans hresult)
      exact ⟨hown, .inr ⟨networkOf tree entry.1, element, (htree entry.1).2,
        underAttack_withTrees.mp (hunder.mp rfl).1⟩⟩
  | _ => trivial

/-- **The daemon acts on our own hosts only**, and on whitelisted ones only by order.  The trees
are those that it builds from the configured networks; the threads are interleaved in any way.
In every state that is reached, the hosts that are banned or captured and those that GoBGP
holds paths for are ours, and each was ordered to be banned or over a threshold without being
whitelisted; the packets that a path takes out of the traffic go to such hosts. -/
theorem daemon_acts_on_own_hosts (subnets whitelist : List SubnetCidrMask)
    (subnetsIpv6 : List SubnetIpv6CidrMask) :
    ∃ tree whitelistTree, subnets.foldlM (addSubnet ipv4Family) {} = some tree ∧
      whitelist.foldlM (addSubnet ipv4Family) {} = some whitelistTree ∧
      ∀ treeIpv6, subnetsIpv6.foldlM (addSubnet ipv6Family) {} = some treeIpv6 →
        ∀ (config : DaemonConfiguration) (detection : DetectionContext)
          (traffic : TrafficContext) (ordered : UInt32 → Prop) (capacity : UInt32)
          (es : List (PoolEvent DaemonJob DaemonInput)) (w : Pool DaemonState DaemonInstr),
          Runs (daemonMachine config).step
            (fun _ e => ∀ job, e = .start job → job.Caused (detection.withTrees tree whitelistTree)
              (traffic.withTrees tree treeIpv6) ordered)
            (daemonStart capacity) es w →
          w.shared.Traced (RightlyActedOn detection subnets whitelist ordered) ∧
          ∀ q ∈ w.shared.flowspec.paths, ∀ packet,
            filterPacketByFlowspecRule ruleLookup packet q.flowSpecRule = true →
              RightlyActedOn detection subnets whitelist ordered packet.dstIp := by
  obtain ⟨tree, hrun, htree⟩ := networkOf_spec subnets
  obtain ⟨whitelistTree, hwhitelistRun, hwhitelist⟩ := networkOf_spec whitelist
  refine ⟨tree, whitelistTree, hrun, hwhitelistRun, ?_⟩
  intro treeIpv6 hrunIpv6 config detection traffic ordered capacity es w h
  have htraced : w.shared.Traced (RightlyActedOn detection subnets whitelist ordered) :=
    traced_of_run h fun {u job} hu =>
      (hu job rfl).traced htree hwhitelist (networkOfIpv6_spec hrunIpv6)
  exact ⟨htraced, fun q hq packet hmatches => (htraced.announced q hq).of_filter hmatches⟩

/-- Hosts with more than 1000 packets a second are to be banned. -/
def floodDetection : DetectionContext where
  globalBanSettings := { enableBan := true, enableBanForPps := true, banThresholdPps := 1000 }
  subnetToHostGroups _ := none
  hostGroupBanSettingsMap _ := none
  lookupTreeIpv4 := {}
  whitelistTreeIpv4 := {}
  globalBanTime := 0
  convertSpeedToMbps := id

/-- A UDP flood. -/
def floodSpeeds : SpeedElement where
  total := { inPackets := 2000 }
  udp := { inPackets := 2000 }

/-- All traffic is counted. -/
def countingContext : TrafficContext where
  lookupTreeIpv4 _ := none
  lookupTreeIpv6 _ := none
  lookupTree32bit := ruleLookup
  staticFlowspecBasedWhitelist := []
  processIncomingTraffic := true
  processOutgoingTraffic := true

/-- A packet to host 1 from outside. -/
def packetToOne : ParsedPacket := { dstIp := 1 }

section

variable {tree : PatriciaTree 4 UInt64} (htree : AnswersBy [⟨1, 8⟩] tree)
include htree

theorem getPacketDirection_packetToOne : ∃ net,
    getPacketDirection (networkOf tree) packetToOne.srcIp packetToOne.dstIp = (.incoming, net) := by
  have hnetwork : ∃ net, networkOf tree 1 = some net := by
    have hown : OwnAddress [⟨1, 8⟩] 1 :=
      ⟨_, List.mem_singleton_self _, (prefixLookup_iff _ _).mp (by decide)⟩
    rcases hfound : networkOf tree 1 with - | net
    · have hlongest := (htree 1).2
      rw [hfound] at hlongest
      exact absurd hown hlongest.not_ownAddress
    · exact ⟨net, rfl⟩
  have houtside : networkOf tree 0 = none := by
    rcases hfound : networkOf tree 0 with - | net
    · rfl
    · have hlongest := (htree 0).2
      rw [hfound] at hlongest
      obtain ⟨subnet, hsubnet, hcontains⟩ := hlongest.ownAddress
      obtain rfl := List.mem_singleton.mp hsubnet
      exact absurd ((prefixLookup_iff _ _).mpr hcontains) (by decide)
  obtain ⟨net, hnet⟩ := hnetwork
  refine ⟨net, ?_⟩
  rw [packetToOne, getPacketDirection, directionBetween, houtside, hnet]

/-- The packet makes a counter for its host. -/
theorem hostCounters_packetToOne : ∃ counter,
    (processPackets (countingContext.withTrees tree {}) [(0, packetToOne)]).ipv4.hostCounters
      = [(1, counter)] := by
  obtain ⟨net, hdirection⟩ := getPacketDirection_packetToOne htree
  have hlookup : (countingContext.withTrees tree {}).lookupTreeIpv4 = networkOf tree := rfl
  have hversion : packetToOne.ipProtocolVersion = 4 := rfl
  rw [processPackets, List.foldl_cons, List.foldl_nil, processPacket, if_pos hversion,
    processIpv4Packet, hlookup, hdirection]
  exact ⟨_, rfl⟩

/-- Its speeds later are those of an attack. -/
theorem speedCalculationCallbackLocalIpv4_flood : ∃ attack,
    speedCalculationCallbackLocalIpv4 (floodDetection.withTrees tree {}) 1 floodSpeeds false false 0
      = some (some attack) ∧
    attack.toAttackDetails = { attackProtocol := 17, attackDirection := .incoming } := by
  have hlookup : (floodDetection.withTrees tree {}).lookupTreeIpv4 = tree := rfl
  rw [speedCalculationCallbackLocalIpv4, hlookup, lookupNetworkWhichIncludesIp_eq htree]
  exact ⟨_, rfl, rfl⟩

/-- What causes the jobs of `banOne`. -/
theorem banOne_caused {job : DaemonJob} (hjob : .start job ∈ banOne ++ announceOne) :
    job.Caused (floodDetection.withTrees tree {}) (countingContext.withTrees tree {})
      fun _ => False := by
  simp only [banOne, announceOne, List.cons_append, List.nil_append, List.mem_cons,
    List.not_mem_nil, PoolEvent.start.injEq, reduceCtorEq, or_false, false_or] at hjob
  rcases hjob with rfl | rfl | rfl
  · obtain ⟨counter, hcounters⟩ := hostCounters_packetToOne htree
    obtain ⟨attack, hattack, hdetails⟩ := speedCalculationCallbackLocalIpv4_flood htree
    refine ⟨⟨[(0, packetToOne)], (1, counter), ?_, rfl⟩, floodSpeeds, 0, attack, hattack, hdetails.symm⟩
    rw [hcounters]
    exact List.mem_singleton_self _
  · trivial
  · trivial

end

/-- Host 1 of `1.0.0.0/8` is detected, banned and announced. -/
theorem daemon_acts_on_own_hosts_announced :
    ∃ w : Pool DaemonState DaemonInstr, w.shared.flowspec.paths ≠ ∅ ∧
      w.shared.Traced (RightlyActedOn floodDetection [⟨1, 8⟩] [] fun _ => False) := by
  obtain ⟨w, hw, hpaths⟩ : ∃ w ∈ runEvents (daemonMachine {}).step (daemonStart 1)
      (banOne ++ announceOne), w.shared.flowspec.paths ≠ ∅ := by
    decide
  obtain ⟨tree, whitelistTree, hrun, hwhitelistRun, hacts⟩ :=
    daemon_acts_on_own_hosts [⟨1, 8⟩] [] []
  obtain ⟨tree', hrun', htree⟩ := networkOf_spec [⟨1, 8⟩]
  obtain rfl : tree' = tree := Option.some.inj (hrun'.symm.trans hrun)
  obtain rfl : {} = whitelistTree := Option.some.inj hwhitelistRun
  refine ⟨w, hpaths, (hacts {} rfl {} floodDetection countingContext (fun _ => False) 1
    (banOne ++ announceOne) w ?_).1⟩
  refine (runs_iff_runEvents.mpr hw).events.mono ?_
  rintro _ e he job rfl
  exact banOne_caused htree he

end FastNetMon
