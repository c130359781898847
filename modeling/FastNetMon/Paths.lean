/-
FastNetMon/Paths.lean

No path in GoBGP is orphaned and none is there twice.

A path that FastNetMon has put into GoBGP can only be taken out again through
its UUID.  So every path must be recorded in the lifecycle under its UUID, by
one entry and no more, or its AddPath must have a worker that is still to
process the reply.  This is read off the phases of the keys
(`WorkerInvariant.lean`), in every state of every interleaving of workers.

Main result: `no_orphaned_no_duplicated_path`.
-/
import Mathlib
import FastNetMon.WorkerInvariant

namespace FastNetMon

open Std

/-- The entry of `k` records the UUID of the path `q`. -/
def FlowspecState.RecordedAt (s : FlowspecState) (q : GobgpPath) (k : GobgpFlowspecRuleKey) :
    Prop :=
  ∃ st, s.lifecycle.rules[k]? = some st ∧ st.addPathUuid = q.uuid

/-- The path `q` comes from an AddPath whose reply some worker has not yet
passed to `complete_announce`. -/
def ReplyPending (B : Multiset FlowspecInstr) (q : GobgpPath) : Prop :=
  ∃ r cleanup, r.flowSpecRule = q.flowSpecRule ∧
    FlowspecInstr.completeAnnounce r q.uuid cleanup ∈ B

variable {config : GobgpFlowspecConfiguration} {s : FlowspecState}
  {B : Multiset FlowspecInstr} {token : GobgpFlowspecRuleKey → Option ByteString}
  {i : FlowspecInstr} {k : GobgpFlowspecRuleKey} {q q' : GobgpPath}

/-! ### Reading the phase of a key -/

/-- A UUID in the entry of a key is the token of the key. -/
theorem KeyPhase.token_of_entry {st : GobgpFlowspecRuleState} {b : Multiset FlowspecInstr}
    {P : Finset GobgpPath} {t : Option ByteString} (h : KeyPhase k (some st) b P t)
    (hne : st.addPathUuid ≠ []) : t = some st.addPathUuid := by
  cases h with
  | adding _ _ hu | failing _ hu | completing _ _ hu => exact absurd hu hne
  | held | deleting | deleteFailed | deleted => rfl

/-- A token is not empty. -/
theorem KeyPhase.token_ne_nil {o : Option GobgpFlowspecRuleState} {b : Multiset FlowspecInstr}
    {P : Finset GobgpPath} {uuid : ByteString} (h : KeyPhase k o b P (some uuid)) :
    uuid ≠ [] := by
  generalize ht : some uuid = t at h
  cases h with
  | free | adding | failing => cases ht
  | completing _ _ _ hne | held _ hne | deleting _ hne | deleteFailed _ hne | deleted _ hne =>
      obtain rfl := Option.some.inj ht
      exact hne

/-- A path of a key is recorded in its entry, or the worker that added it has
still to process the reply. -/
theorem KeyPhase.recorded_or_pending {o : Option GobgpFlowspecRuleState}
    {b : Multiset FlowspecInstr} {P : Finset GobgpPath} {t : Option ByteString}
    (h : KeyPhase k o b P t) (hq : q ∈ P) :
    (∃ st, o = some st ∧ st.addPathUuid = q.uuid) ∨ ReplyPending b q := by
  cases h with
  | free | adding | failing | deleted => simp at hq
  | completing cleanup =>
      obtain rfl := Finset.mem_singleton.mp hq
      exact .inr ⟨_, cleanup, rfl, Multiset.mem_singleton_self _⟩
  | held | deleting | deleteFailed =>
      obtain rfl := Finset.mem_singleton.mp hq
      exact .inl ⟨_, rfl, rfl⟩

theorem KeyPhase.path_unique {o : Option GobgpFlowspecRuleState}
    {b : Multiset FlowspecInstr} {P : Finset GobgpPath} {t : Option ByteString}
    (h : KeyPhase k o b P t) (hq : q ∈ P) (hq' : q' ∈ P) : q = q' := by
  cases h with
  | free | adding | failing | deleted => simp at hq
  | completing | held | deleting | deleteFailed =>
      rw [Finset.mem_singleton.mp hq, Finset.mem_singleton.mp hq']

theorem KeyPhase.installed_mem {st : GobgpFlowspecRuleState} {b : Multiset FlowspecInstr}
    {P : Finset GobgpPath} {t : Option ByteString} (h : KeyPhase k (some st) b P t)
    (hs : st.state = .installed) : ⟨st.addPathUuid, st.flowSpecRule⟩ ∈ P := by
  cases h with
  | adding _ ha | failing ha | completing _ ha =>
      rcases ha with ha | ⟨ha, -⟩ <;> rw [hs] at ha <;> cases ha
  | held => exact Finset.mem_singleton_self _
  | deleting hs' | deleteFailed hs' | deleted hs' =>
      rw [hs] at hs'
      cases hs'

namespace Coherent

theorem phase_of_mem (h : Coherent config s B token) (hi : i ∈ B) (hk : i.key? = some k) :
    KeyPhase k (s.lifecycle.rules[k]?) {i} (s.pathsAt k) (token k) := by
  obtain ⟨B, rfl⟩ := Multiset.exists_cons_of_mem hi
  exact (h.phase_of_pending hk).1

/-- A path lies at exactly one key, whose token is its UUID. -/
theorem exists_mem_pathsAt (h : Coherent config s B token) (hq : q ∈ s.paths) :
    ∃ k, q ∈ s.pathsAt k ∧ token k = some q.uuid := by
  obtain ⟨k, hk⟩ := h.pathKeyed q hq
  have hmem := mem_pathsAt.mpr ⟨hq, hk⟩
  exact ⟨k, hmem, (h.phase k).uuid_of_mem hmem⟩

theorem token_of_recordedAt (h : Coherent config s B token) (hq : q ∈ s.paths)
    (hk : s.RecordedAt q k) : token k = some q.uuid := by
  obtain ⟨k₀, -, ht⟩ := h.exists_mem_pathsAt hq
  have hne : q.uuid ≠ [] := by
    have hphase := h.phase k₀
    rw [ht] at hphase
    exact hphase.token_ne_nil
  obtain ⟨st, hst, hu⟩ := hk
  have hphase := h.phase k
  rw [hst] at hphase
  rw [hphase.token_of_entry (by rwa [hu]), hu]

/-- A path whose reply is pending is not recorded. -/
theorem not_recordedAt_of_replyPending (h : Coherent config s B token) (hq : q ∈ s.paths)
    (hp : ReplyPending B q) : ¬ s.RecordedAt q k := by
  intro hk
  obtain ⟨r, cleanup, -, hmem⟩ := hp
  have hphase := h.phase_of_mem hmem (k := r.ruleKey) rfl
  obtain ⟨st, hst, -, hu, -, hne, -, ht⟩ := hphase.completeAnnounce_inv
  -- both keys carry the UUID of `q`, so they are one key, and its entry has no UUID yet
  obtain rfl := h.token_inj k r.ruleKey q.uuid (h.token_of_recordedAt hq hk) ht
  obtain ⟨st', hst', hu'⟩ := hk
  obtain rfl := Option.some.inj (hst.symm.trans hst')
  exact hne (hu'.symm.trans hu)

/-- Each path is recorded once, or its reply is pending, and not both. -/
theorem recorded_xor_pending (h : Coherent config s B token) (hq : q ∈ s.paths) :
    Xor (∃! k, s.RecordedAt q k) (ReplyPending B q) := by
  obtain ⟨k, hmem, ht⟩ := h.exists_mem_pathsAt hq
  rcases (h.phase k).recorded_or_pending hmem with hrec | ⟨r, cleanup, hr, hp⟩
  · refine .inl ⟨⟨k, hrec, fun k' hk' => ?_⟩, fun hp => ?_⟩
    · exact h.token_inj k' k q.uuid (h.token_of_recordedAt hq hk') ht
    · exact h.not_recordedAt_of_replyPending hq hp hrec
  · have hp : ReplyPending B q := ⟨r, cleanup, hr, (mem_pendingAt.mp hp).1⟩
    refine .inr ⟨hp, ?_⟩
    rintro ⟨k', hk', -⟩
    exact h.not_recordedAt_of_replyPending hq hp hk'

/-- Two paths for the same rule key are one path. -/
theorem path_unique (h : Coherent config s B token) (hq : q ∈ s.paths) (hq' : q' ∈ s.paths)
    (he : buildGobgpFlowspecRuleKey q.flowSpecRule = buildGobgpFlowspecRuleKey q'.flowSpecRule) :
    q = q' := by
  obtain ⟨k, hmem, -⟩ := h.exists_mem_pathsAt hq
  have hmem' : q' ∈ s.pathsAt k := mem_pathsAt.mpr ⟨hq', he ▸ (mem_pathsAt.mp hmem).2⟩
  exact (h.phase k).path_unique hmem hmem'

/-- The path of an installed rule is in GoBGP. -/
theorem installed_mem_paths (h : Coherent config s B token) {st : GobgpFlowspecRuleState}
    (hst : s.lifecycle.rules[k]? = some st) (hs : st.state = .installed) :
    (⟨st.addPathUuid, st.flowSpecRule⟩ : GobgpPath) ∈ s.paths := by
  have hphase := h.phase k
  rw [hst] at hphase
  exact (mem_pathsAt.mp (hphase.installed_mem hs)).1

end Coherent

/-! ### Every reachable state -/

/-- **No orphaned and no duplicated path.**  In every state of every
interleaving of workers, with any replies: each path in GoBGP is either
recorded by exactly one entry of the lifecycle or belongs to an AddPath whose
reply is not yet processed; no two paths have the same rule key; and the path
of each installed rule is there. -/
theorem no_orphaned_no_duplicated_path {w : Pool FlowspecState FlowspecInstr}
    (h : FlowspecReachable config w) :
    (∀ q ∈ w.shared.paths,
      Xor (∃! k, w.shared.RecordedAt q k) (ReplyPending w.pending q)) ∧
    (∀ q ∈ w.shared.paths, ∀ q' ∈ w.shared.paths,
      buildGobgpFlowspecRuleKey q.flowSpecRule = buildGobgpFlowspecRuleKey q'.flowSpecRule →
        q = q') ∧
    ∀ (k : GobgpFlowspecRuleKey) (st : GobgpFlowspecRuleState),
      w.shared.lifecycle.rules[k]? = some st → st.state = .installed →
        ⟨st.addPathUuid, st.flowSpecRule⟩ ∈ w.shared.paths := by
  obtain ⟨token, h⟩ := h.coherent
  refine ⟨fun q hq => h.recorded_xor_pending hq, fun q hq q' hq' he => h.path_unique hq hq' he,
    fun k st hst hs => h.installed_mem_paths hst hs⟩

/-- A BAN worker has its path and has not processed the reply; an UNBAN worker
has begun meanwhile. -/
theorem no_orphaned_path_ban_unban :
    ∃ (w : Pool FlowspecState FlowspecInstr) (q : GobgpPath), q ∈ w.shared.paths ∧
      (1 : UInt32) ∈ w.shared.lifecycle.victimsWithdrawRequested ∧
      Xor (∃! k, w.shared.RecordedAt q k) (ReplyPending w.pending q) := by
  obtain ⟨w, hw, ⟨q, hq⟩, hf⟩ := exists_reachable_of_runEvents {}
    (P := fun w => w.shared.paths.Nonempty ∧
      (1 : UInt32) ∈ w.shared.lifecycle.victimsWithdrawRequested)
    [.start (.banManage 1 false { attackProtocol := 17 } none), .start (.banManage 1 true {} none),
      .run 0 .failed, .run 0 (.ok [7]), .run 1 .failed] (by decide)
  exact ⟨w, q, hq, hf, (no_orphaned_no_duplicated_path hw).1 q hq⟩

end FastNetMon
