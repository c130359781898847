/-
FastNetMon/WorkerInvariant.lean

The invariant of the workers: what the lifecycle, GoBGP and the pending
instructions have to do with each other.

For each key there are three things to look at: its entry in the lifecycle,
the pending instructions of workers about it, and its paths in GoBGP.
`KeyPhase` lists the combinations that occur.  At most one instruction is
pending for a key, at most one path is held for it, and a UUID that the key
uses (its *token*) is used by no other key.

Every instruction moves the keys it touches from one phase to another and
leaves the rest alone, whatever the order in which pending instructions run:
`Coherent.exec`.  So the invariant does not depend on how the instructions
are spread over threads.
-/
import Mathlib
import FastNetMon.WorkerCalls

namespace FastNetMon

open Std

/-! ### The view of one key -/

/-- The key whose rule or path an instruction is about, from its reservation to
the end of its announce or withdrawal. -/
def FlowspecInstr.key? : FlowspecInstr → Option GobgpFlowspecRuleKey
  | .addPath r _ | .completeAnnounce r _ _ => some r.ruleKey
  | .failAnnounce k => some k
  | .deletePath w | .completeWithdraw w _ => some w.ruleKey
  | _ => none

/-- The pending instructions about `k`. -/
def pendingAt (B : Multiset FlowspecInstr) (k : GobgpFlowspecRuleKey) :
    Multiset FlowspecInstr :=
  B.filter fun i => i.key? = some k

/-- The paths in GoBGP for the rule of `k`. -/
def FlowspecState.pathsAt (s : FlowspecState) (k : GobgpFlowspecRuleKey) : Finset GobgpPath :=
  s.paths.filter fun q => buildGobgpFlowspecRuleKey q.flowSpecRule = some k

/-- The phases of a key: its entry, the pending instructions about it, its
paths in GoBGP and the UUID in use. -/
inductive KeyPhase (k : GobgpFlowspecRuleKey) :
    Option GobgpFlowspecRuleState → Multiset FlowspecInstr → Finset GobgpPath →
      Option ByteString → Prop
  | free : KeyPhase k none 0 ∅ none
  | adding {st} (cleanup : Bool) (ha : st.awaitsPath) (hu : st.addPathUuid = []) :
      KeyPhase k (some st) {.addPath ⟨k, st.flowSpecRule⟩ cleanup} ∅ none
  | failing {st} (ha : st.awaitsPath) (hu : st.addPathUuid = []) :
      KeyPhase k (some st) {.failAnnounce k} ∅ none
  | completing {st} {uuid : ByteString} (cleanup : Bool) (ha : st.awaitsPath)
      (hu : st.addPathUuid = []) (hne : uuid ≠ []) :
      KeyPhase k (some st) {.completeAnnounce ⟨k, st.flowSpecRule⟩ uuid cleanup}
        {⟨uuid, st.flowSpecRule⟩} (some uuid)
  | held {st} (hs : st.state = .installed ∨ st.state = .withdrawRequested)
      (hne : st.addPathUuid ≠ []) :
      KeyPhase k (some st) 0 {⟨st.addPathUuid, st.flowSpecRule⟩} (some st.addPathUuid)
  | deleting {st} (hs : st.state = .withdrawing) (hne : st.addPathUuid ≠ []) :
      KeyPhase k (some st) {.deletePath ⟨k, st.flowSpecRule, st.addPathUuid⟩}
        {⟨st.addPathUuid, st.flowSpecRule⟩} (some st.addPathUuid)
  | deleteFailed {st} (hs : st.state = .withdrawing) (hne : st.addPathUuid ≠ []) :
      KeyPhase k (some st) {.completeWithdraw ⟨k, st.flowSpecRule, st.addPathUuid⟩ false}
        {⟨st.addPathUuid, st.flowSpecRule⟩} (some st.addPathUuid)
  | deleted {st} (hs : st.state = .withdrawing) (hne : st.addPathUuid ≠ []) :
      KeyPhase k (some st) {.completeWithdraw ⟨k, st.flowSpecRule, st.addPathUuid⟩ true}
        ∅ (some st.addPathUuid)

/-- **The invariant of the workers**: every key is in one of its phases, and
the UUIDs in use are pairwise different and were all issued by GoBGP. -/
structure Coherent (config : GobgpFlowspecConfiguration) (s : FlowspecState)
    (B : Multiset FlowspecInstr) (token : GobgpFlowspecRuleKey → Option ByteString) :
    Prop where
  wellFormed : ∀ i ∈ B, i.WellFormed config
  fenced : FencedWithdraws s.lifecycle
  keyed : ∀ (k : GobgpFlowspecRuleKey) (st : GobgpFlowspecRuleState),
    s.lifecycle.rules[k]? = some st → buildGobgpFlowspecRuleKey st.flowSpecRule = some k
  pathKeyed : ∀ q ∈ s.paths, ∃ k, buildGobgpFlowspecRuleKey q.flowSpecRule = some k
  phase : ∀ k : GobgpFlowspecRuleKey,
    KeyPhase k (s.lifecycle.rules[k]?) (pendingAt B k) (s.pathsAt k) (token k)
  token_inj : ∀ k k' uuid, token k = some uuid → token k' = some uuid → k = k'
  token_issued : ∀ k uuid, token k = some uuid → uuid ∈ s.issuedUuids

variable {config : GobgpFlowspecConfiguration} {s s' : FlowspecState}
  {B : Multiset FlowspecInstr} {token : GobgpFlowspecRuleKey → Option ByteString}
  {i : FlowspecInstr} {k k' : GobgpFlowspecRuleKey} {uuid : ByteString}

/-! ### Bags of instructions, at one key -/

@[simp] theorem pendingAt_zero : pendingAt 0 k = 0 := rfl

@[simp] theorem pendingAt_add (A B : Multiset FlowspecInstr) :
    pendingAt (A + B) k = pendingAt A k + pendingAt B k :=
  Multiset.filter_add _ _ _

theorem pendingAt_cons_of_eq (h : i.key? = some k) :
    pendingAt (i ::ₘ B) k = i ::ₘ pendingAt B k :=
  Multiset.filter_cons_of_pos _ h

theorem pendingAt_cons_of_ne (h : i.key? ≠ some k) : pendingAt (i ::ₘ B) k = pendingAt B k :=
  Multiset.filter_cons_of_neg _ h

theorem pendingAt_singleton_of_eq (h : i.key? = some k) : pendingAt {i} k = {i} :=
  pendingAt_cons_of_eq h

theorem pendingAt_singleton_of_ne (h : i.key? ≠ some k) : pendingAt {i} k = 0 :=
  pendingAt_cons_of_ne h

/-- Nothing in `B` is about `k` if its instructions are about no key at all. -/
theorem pendingAt_eq_zero (h : ∀ i ∈ B, i.key? ≠ some k) : pendingAt B k = 0 :=
  Multiset.filter_eq_nil.mpr h

/-- The instructions of a key are the pending ones about it. -/
theorem mem_pendingAt : i ∈ pendingAt B k ↔ i ∈ B ∧ i.key? = some k :=
  Multiset.mem_filter

/-- A refresh thread is about no key yet. -/
theorem refreshThread_key? {v : UInt32} {results : List GobgpFlowspecRefreshProtocolResult}
    (hi : i ∈ refreshThread config v results) : i.key? = none := by
  rcases mem_refreshThread hi with rfl | ⟨r, rfl, -⟩ | ⟨po, reqs, rfl, -⟩ <;> rfl

/-- Neither is the program of a new job. -/
theorem program_key? {job : FlowspecJob} (hi : i ∈ job.program config) : i.key? = none := by
  rcases mem_program hi with ⟨r, rfl, -⟩ | ⟨v, rfl⟩ | ⟨v, results, rfl⟩ | ⟨v, rfl⟩ | ⟨v, rfl⟩ <;>
    rfl

/-! ### Paths, at one key -/

/-- The paths of a key are those whose rule has it. -/
theorem mem_pathsAt {q : GobgpPath} :
    q ∈ s.pathsAt k ↔ q ∈ s.paths ∧ buildGobgpFlowspecRuleKey q.flowSpecRule = some k :=
  Finset.mem_filter

/-- A new path joins the paths of its key. -/
theorem pathsAt_insert {q : GobgpPath} (hs : s'.paths = insert q s.paths)
    (hq : buildGobgpFlowspecRuleKey q.flowSpecRule = some k) :
    s'.pathsAt k = insert q (s.pathsAt k) := by
  rw [FlowspecState.pathsAt, hs, Finset.filter_insert, if_pos hq]
  rfl

/-- A new path is none of another key. -/
theorem pathsAt_insert_of_ne {q : GobgpPath} (hs : s'.paths = insert q s.paths)
    (hq : buildGobgpFlowspecRuleKey q.flowSpecRule = some k) (hne : k' ≠ k) :
    s'.pathsAt k' = s.pathsAt k' := by
  rw [FlowspecState.pathsAt, hs, Finset.filter_insert, if_neg]
  · rfl
  · rw [hq]
    simpa using fun he => hne he.symm

/-- A deleted path leaves the paths of its key. -/
theorem pathsAt_filter (uuid : ByteString) (hs : s'.paths = s.paths.filter (·.uuid ≠ uuid)) :
    s'.pathsAt k = (s.pathsAt k).filter (·.uuid ≠ uuid) := by
  rw [FlowspecState.pathsAt, hs, Finset.filter_comm]
  rfl

/-- The UUIDs of the paths of a key are its token. -/
theorem KeyPhase.uuid_of_mem {o : Option GobgpFlowspecRuleState} {b : Multiset FlowspecInstr}
    {P : Finset GobgpPath} {t : Option ByteString} (h : KeyPhase k o b P t)
    {q : GobgpPath} (hq : q ∈ P) : t = some q.uuid := by
  cases h with
  | free | adding | failing | deleted => simp at hq
  | completing | held | deleting | deleteFailed =>
      obtain rfl := Finset.mem_singleton.mp hq
      rfl

/-! ### The phase of a key with a pending instruction -/

section Inversion

variable {o : Option GobgpFlowspecRuleState} {b : Multiset FlowspecInstr}
  {P : Finset GobgpPath} {t : Option ByteString}

/-- The pending instruction of a key is the only one. -/
theorem KeyPhase.pending_eq (h : KeyPhase k o (i ::ₘ b) P t) : b = 0 := by
  generalize hb : i ::ₘ b = b' at h
  cases h with
  | free | held => simp at hb
  | adding | failing | completing | deleting | deleteFailed | deleted =>
      exact ((Multiset.singleton_eq_cons_iff _).mp hb.symm).2

/-- A pending AddPath belongs to a rule that awaits its path, and no path is there. -/
theorem KeyPhase.addPath_inv {r : GobgpFlowspecAnnounceRequest} {cleanup : Bool}
    (h : KeyPhase k o {.addPath r cleanup} P t) :
    ∃ st, o = some st ∧ st.awaitsPath ∧ st.addPathUuid = [] ∧ r = ⟨k, st.flowSpecRule⟩ ∧
      P = ∅ ∧ t = none := by
  generalize hb : ({.addPath r cleanup} : Multiset FlowspecInstr) = b at h
  cases h with
  | free | held => simp at hb
  | adding cleanup' ha hu =>
      obtain ⟨rfl, -⟩ := by simpa using hb
      exact ⟨_, rfl, ha, hu, rfl, rfl, rfl⟩
  | failing | completing | deleting | deleteFailed | deleted => simp at hb

/-- A pending failure belongs to a rule that awaits its path. -/
theorem KeyPhase.failAnnounce_inv (h : KeyPhase k o {.failAnnounce k'} P t) :
    ∃ st, o = some st ∧ st.awaitsPath ∧ P = ∅ ∧ t = none := by
  generalize hb : ({.failAnnounce k'} : Multiset FlowspecInstr) = b at h
  cases h with
  | free | held => simp at hb
  | failing ha hu => exact ⟨_, rfl, ha, rfl, rfl⟩
  | adding | completing | deleting | deleteFailed | deleted => simp at hb

/-- A pending answer belongs to a rule that awaits its path, and the path is the answered one. -/
theorem KeyPhase.completeAnnounce_inv {r : GobgpFlowspecAnnounceRequest} {cleanup : Bool}
    (h : KeyPhase k o {.completeAnnounce r uuid cleanup} P t) :
    ∃ st, o = some st ∧ st.awaitsPath ∧ st.addPathUuid = [] ∧ r = ⟨k, st.flowSpecRule⟩ ∧
      uuid ≠ [] ∧ P = {⟨uuid, st.flowSpecRule⟩} ∧ t = some uuid := by
  generalize hb : ({.completeAnnounce r uuid cleanup} : Multiset FlowspecInstr) = b at h
  cases h with
  | free | held => simp at hb
  | completing cleanup' ha hu hne =>
      obtain ⟨rfl, rfl, -⟩ := by simpa using hb
      exact ⟨_, rfl, ha, hu, rfl, hne, rfl, rfl⟩
  | adding | failing | deleting | deleteFailed | deleted => simp at hb

/-- A pending DeletePath belongs to a rule being withdrawn, with the path of that rule. -/
theorem KeyPhase.deletePath_inv {w : GobgpFlowspecWithdrawRequest}
    (h : KeyPhase k o {.deletePath w} P t) :
    ∃ st, o = some st ∧ st.state = .withdrawing ∧ st.addPathUuid ≠ [] ∧
      w = ⟨k, st.flowSpecRule, st.addPathUuid⟩ ∧
      P = {⟨st.addPathUuid, st.flowSpecRule⟩} ∧ t = some st.addPathUuid := by
  generalize hb : ({.deletePath w} : Multiset FlowspecInstr) = b at h
  cases h with
  | free | held => simp at hb
  | deleting hs hne =>
      obtain rfl := by simpa using hb
      exact ⟨_, rfl, hs, hne, rfl, rfl, rfl⟩
  | adding | failing | completing | deleteFailed | deleted => simp at hb

/-- A pending end of a withdrawal belongs to a rule being withdrawn, with its path if it failed. -/
theorem KeyPhase.completeWithdraw_inv {w : GobgpFlowspecWithdrawRequest} {success : Bool}
    (h : KeyPhase k o {.completeWithdraw w success} P t) :
    ∃ st, o = some st ∧ st.state = .withdrawing ∧ st.addPathUuid ≠ [] ∧
      w = ⟨k, st.flowSpecRule, st.addPathUuid⟩ ∧
      P = (if success then ∅ else {⟨st.addPathUuid, st.flowSpecRule⟩}) ∧
      t = some st.addPathUuid := by
  generalize hb : ({.completeWithdraw w success} : Multiset FlowspecInstr) = b at h
  cases h with
  | free | held => simp at hb
  | deleteFailed hs hne | deleted hs hne =>
      obtain ⟨rfl, rfl⟩ := by simpa using hb
      exact ⟨_, rfl, hs, hne, rfl, rfl, rfl⟩
  | adding | failing | completing | deleting => simp at hb

end Inversion

/-! ### One turn of a withdrawal loop -/

/-- A withdrawal does not touch the rule itself. -/
theorem startWithdraw_flowSpecRule (st : GobgpFlowspecRuleState) :
    st.startWithdraw.1.flowSpecRule = st.flowSpecRule := by
  unfold GobgpFlowspecRuleState.startWithdraw
  split
  · rfl
  · rfl
  · split <;> rfl
  · rfl

/-- A rule without a path is only marked for its withdrawal. -/
theorem startWithdraw_of_awaitsPath {st : GobgpFlowspecRuleState} (ha : st.awaitsPath)
    (hu : st.addPathUuid = []) :
    st.startWithdraw.1.awaitsPath ∧ st.startWithdraw.1.addPathUuid = [] ∧
      st.startWithdraw.1.flowSpecRule = st.flowSpecRule ∧ st.startWithdraw.2 = .deferred := by
  rcases ha with hs | ⟨hs, -⟩
  · simp [GobgpFlowspecRuleState.startWithdraw, GobgpFlowspecRuleState.awaitsPath, hs, hu]
  · simp [GobgpFlowspecRuleState.startWithdraw, GobgpFlowspecRuleState.awaitsPath, hs, hu]

/-- A rule with a path is withdrawn at once. -/
theorem startWithdraw_of_held {st : GobgpFlowspecRuleState}
    (hs : st.state = .installed ∨ st.state = .withdrawRequested) (hne : st.addPathUuid ≠ []) :
    st.startWithdraw.1 = { st with state := .withdrawing } ∧ st.startWithdraw.2 = .request := by
  rcases hs with hs | hs
  · simp [GobgpFlowspecRuleState.startWithdraw, hs]
  · simp [GobgpFlowspecRuleState.startWithdraw, hs, hne]

/-- A rule being withdrawn is not withdrawn a second time. -/
theorem startWithdraw_of_withdrawing {st : GobgpFlowspecRuleState}
    (hs : st.state = .withdrawing) : st.startWithdraw = (st, .inProgress) := by
  simp [GobgpFlowspecRuleState.startWithdraw, hs]

/-- The requests of a withdrawal loop, at one key: at most one, for the rule
stored there. -/
theorem pendingAt_withdrawRequestsFor (l : GobgpFlowspecLifecycle)
    (p : GobgpFlowspecRuleKey → Bool) :
    pendingAt ((l.withdrawRequestsFor p).map .deletePath : List FlowspecInstr) k
      = match l.rules[k]? with
        | none => 0
        | some st => if p k = true ∧ st.startWithdraw.2 = .request
            then {.deletePath ⟨k, st.flowSpecRule, st.addPathUuid⟩} else 0 := by
  have hfilter : pendingAt ((l.withdrawRequestsFor p).map .deletePath : List FlowspecInstr) k
      = ((((l.rules.toList.filter (fun r => r.1 == k)).filter (fun r => p r.1)).filter
          (fun r => r.2.startWithdraw.2 = .request)).map
        fun r => FlowspecInstr.deletePath ⟨r.1, r.2.flowSpecRule, r.2.addPathUuid⟩ :
          List FlowspecInstr) := by
    rw [pendingAt, Multiset.filter_coe, GobgpFlowspecLifecycle.withdrawRequestsFor,
      GobgpFlowspecLifecycle.startedRules, GobgpFlowspecLifecycle.matchingRules, List.map_map,
      List.filter_map]
    congr 2
    simp only [List.filter_filter]
    refine List.filter_congr fun r _ => ?_
    by_cases hk : r.1 = k <;> simp [FlowspecInstr.key?, hk]
  rw [hfilter, OrderedMap.filter_toList]
  rcases l.rules[k]? with - | st
  · rfl
  · by_cases hp : p k = true <;> by_cases hs : st.startWithdraw.2 = .request <;> simp [hp, hs]

/-! ### Steps that change one key -/

namespace Coherent

/-- An instruction leaves well formed instructions behind. -/
theorem wellFormed_exec {reply : RpcReply} {new : List FlowspecInstr}
    {forked : List (List FlowspecInstr)} (h : Coherent config s (i ::ₘ B) token)
    (he : i.exec config reply s = some (s', new, forked)) :
    ∀ j ∈ (new : Multiset FlowspecInstr) + (forked.flatten : Multiset FlowspecInstr),
      j.WellFormed config :=
  fun _ hj => (FlowspecInstr.exec_successor he hj).wellFormed
    (h.wellFormed _ (Multiset.mem_cons_self _ _))

/-- The phase of the key of a pending instruction. -/
theorem phase_of_pending (h : Coherent config s (i ::ₘ B) token) (hi : i.key? = some k) :
    KeyPhase k (s.lifecycle.rules[k]?) {i} (s.pathsAt k) (token k) ∧ pendingAt B k = 0 := by
  have hk := h.phase k
  rw [pendingAt_cons_of_eq hi] at hk
  have hB := hk.pending_eq
  rw [hB] at hk
  exact ⟨hk, hB⟩

/-- An instruction about `k` that leaves all other keys alone keeps the
invariant if it takes `k` to a phase again and its UUID is fresh. -/
theorem update {new : Multiset FlowspecInstr} {t : Option ByteString}
    (h : Coherent config s (i ::ₘ B) token) (hi : i.key? = some k)
    (hwf : ∀ j ∈ new, j.WellFormed config) (hfence : FencedWithdraws s'.lifecycle)
    (hrules : ∀ k' : GobgpFlowspecRuleKey, k' ≠ k →
      s'.lifecycle.rules[k']? = s.lifecycle.rules[k']?)
    (hpaths : ∀ k', k' ≠ k → s'.pathsAt k' = s.pathsAt k')
    (hpathKeyed : ∀ q ∈ s'.paths, q ∈ s.paths ∨ q ∈ s'.pathsAt k)
    (hnew : ∀ k', k' ≠ k → pendingAt new k' = 0)
    (hkeyed : ∀ st', s'.lifecycle.rules[k]? = some st' →
      ∃ st, s.lifecycle.rules[k]? = some st ∧ st'.flowSpecRule = st.flowSpecRule)
    (hissued : s.issuedUuids ⊆ s'.issuedUuids)
    (hphase : KeyPhase k (s'.lifecycle.rules[k]?) (pendingAt new k) (s'.pathsAt k) t)
    (ht : ∀ uuid, t = some uuid → uuid ∈ s'.issuedUuids ∧ ∀ k', k' ≠ k → token k' ≠ some uuid) :
    Coherent config s' (new + B) (Function.update token k t) where
  wellFormed j hj := by
    rcases Multiset.mem_add.mp hj with hj | hj
    · exact hwf j hj
    · exact h.wellFormed j (Multiset.mem_cons_of_mem hj)
  fenced := hfence
  keyed k' st' hst := by
    by_cases hk : k' = k
    · subst hk
      obtain ⟨st, hst, hr⟩ := hkeyed st' hst
      rw [hr]
      exact h.keyed _ st hst
    · rw [hrules k' hk] at hst
      exact h.keyed k' st' hst
  pathKeyed q hq := by
    rcases hpathKeyed q hq with hq | hq
    · exact h.pathKeyed q hq
    · exact ⟨k, (mem_pathsAt.mp hq).2⟩
  phase k' := by
    by_cases hk : k' = k
    · subst hk
      rw [Function.update_self, pendingAt_add, (h.phase_of_pending hi).2, add_zero]
      exact hphase
    · rw [Function.update_of_ne hk, pendingAt_add, hnew k' hk, zero_add, hrules k' hk,
        hpaths k' hk]
      have hk' := h.phase k'
      rwa [pendingAt_cons_of_ne (by rw [hi]; simpa using fun he => hk he.symm)] at hk'
  token_inj k₁ k₂ uuid h₁ h₂ := by
    by_cases hk₁ : k₁ = k
    · by_cases hk₂ : k₂ = k
      · rw [hk₁, hk₂]
      · subst hk₁
        rw [Function.update_self] at h₁
        rw [Function.update_of_ne hk₂] at h₂
        exact absurd h₂ ((ht uuid h₁).2 k₂ hk₂)
    · rw [Function.update_of_ne hk₁] at h₁
      by_cases hk₂ : k₂ = k
      · subst hk₂
        rw [Function.update_self] at h₂
        exact absurd h₁ ((ht uuid h₂).2 k₁ hk₁)
      · rw [Function.update_of_ne hk₂] at h₂
        exact h.token_inj k₁ k₂ uuid h₁ h₂
  token_issued k' uuid hu := by
    by_cases hk : k' = k
    · subst hk
      rw [Function.update_self] at hu
      exact (ht uuid hu).1
    · rw [Function.update_of_ne hk] at hu
      exact hissued (h.token_issued k' uuid hu)

/-- The token of a key is used by no other key. -/
theorem token_ne (h : Coherent config s B token) (hk : token k = some uuid) :
    uuid ∈ s.issuedUuids ∧ ∀ k', k' ≠ k → token k' ≠ some uuid :=
  ⟨h.token_issued k uuid hk, fun k' hne hk' => hne (h.token_inj k' k uuid hk' hk)⟩

section SingleKey

variable {reply : RpcReply} {new : List FlowspecInstr} {forked : List (List FlowspecInstr)}

/-- A failed AddPath hands its key on to the failure. -/
theorem addPath_failed {r : GobgpFlowspecAnnounceRequest} {cleanup : Bool}
    (h : Coherent config s (.addPath r cleanup ::ₘ B) token) :
    Coherent config s ({.failAnnounce r.ruleKey} + B)
      (Function.update token r.ruleKey none) := by
  obtain ⟨hk, -⟩ := h.phase_of_pending (k := r.ruleKey) rfl
  obtain ⟨st, hst, ha, hu, -, hP, -⟩ := hk.addPath_inv
  refine h.update rfl (fun j hj => ?_) h.fenced (fun _ _ => rfl) (fun _ _ => rfl)
    (fun q hq => .inl hq) (fun k' hk' => ?_) (fun st' hst' => ⟨st', hst', rfl⟩) (fun _ hu => hu)
    ?_ (by simp)
  · obtain rfl := Multiset.mem_singleton.mp hj
    trivial
  · exact pendingAt_singleton_of_ne (by simpa [FlowspecInstr.key?] using fun he => hk' he.symm)
  · rw [pendingAt_singleton_of_eq rfl, hst, hP]
    exact .failing ha hu

/-- An AddPath that succeeds hands its key and its path on to the answer. -/
theorem addPath_ok {r : GobgpFlowspecAnnounceRequest} {cleanup : Bool}
    (h : Coherent config s (.addPath r cleanup ::ₘ B) token) (hne : uuid ≠ [])
    (hfresh : uuid ∉ s.issuedUuids) :
    Coherent config
      { s with
        paths := insert ⟨uuid, r.flowSpecRule⟩ s.paths
        issuedUuids := insert uuid s.issuedUuids }
      ({.completeAnnounce r uuid cleanup} + B)
      (Function.update token r.ruleKey (some uuid)) := by
  obtain ⟨hk, -⟩ := h.phase_of_pending (k := r.ruleKey) rfl
  obtain ⟨hkeyed, hcl⟩ := h.wellFormed _ (Multiset.mem_cons_self _ _)
  obtain ⟨st, hst, ha, hu, hr, hP, -⟩ := hk.addPath_inv
  have hrule : r.flowSpecRule = st.flowSpecRule := by rw [hr]
  refine h.update rfl (fun j hj => ?_) h.fenced (fun _ _ => rfl) (fun k' hk' => ?_)
    (fun q hq => ?_) (fun k' hk' => ?_) (fun st' hst' => ⟨st', hst', rfl⟩)
    (fun _ hu => Finset.mem_insert_of_mem hu) ?_ (fun u hu => ?_)
  · obtain rfl := Multiset.mem_singleton.mp hj
    exact ⟨hkeyed, hne, hcl⟩
  · exact pathsAt_insert_of_ne rfl hkeyed hk'
  · rcases Finset.mem_insert.mp hq with rfl | hq
    · exact .inr (mem_pathsAt.mpr ⟨Finset.mem_insert_self _ _, hkeyed⟩)
    · exact .inl hq
  · exact pendingAt_singleton_of_ne (by simpa [FlowspecInstr.key?] using fun he => hk' he.symm)
  · rw [pathsAt_insert (s := s) (q := ⟨uuid, r.flowSpecRule⟩) rfl hkeyed, hP,
      pendingAt_singleton_of_eq rfl]
    show KeyPhase _ (s.lifecycle.rules[r.ruleKey]?) _ {⟨uuid, r.flowSpecRule⟩} _
    rw [hst, hrule]
    nth_rewrite 2 [hr]
    exact .completing cleanup ha hu hne
  · obtain rfl := Option.some.inj hu
    exact ⟨Finset.mem_insert_self _ _, fun k' _ hk' => hfresh (h.token_issued k' _ hk')⟩

/-- A failure erases its rule, for which no path exists. -/
theorem failAnnounce (h : Coherent config s (.failAnnounce k ::ₘ B) token) :
    Coherent config { s with lifecycle := s.lifecycle.failAnnounce k } (0 + B)
      (Function.update token k none) := by
  obtain ⟨hk, -⟩ := h.phase_of_pending (k := k) rfl
  obtain ⟨st, hst, ha, hP, -⟩ := hk.failAnnounce_inv
  have he : s.lifecycle.failAnnounce k = s.lifecycle.eraseRule k := by
    rcases s.lifecycle.failAnnounce_cases k with ⟨-, hno⟩ | ⟨-, -, -, he⟩
    · exact absurd ha (hno st hst)
    · exact he
  refine h.update rfl (by simp) (h.fenced.apply (.failAnnounce k)) (fun k' hk' => ?_)
    (fun _ _ => rfl) (fun q hq => .inl hq) (fun _ _ => rfl) (fun st' hst' => ?_)
    (fun _ hu => hu) ?_ (by simp)
  · rw [he]
    simp [ExtTreeMap.getElem?_erase, hk'.symm]
  · rw [he] at hst'
    simp at hst'
  · show KeyPhase k _ _ (s.pathsAt k) none
    rw [he, hP]
    simpa using KeyPhase.free

/-- An answer gives the path to its rule, or to its withdrawal. -/
theorem completeAnnounce {r : GobgpFlowspecAnnounceRequest} {cleanup : Bool}
    (h : Coherent config s (.completeAnnounce r uuid cleanup ::ₘ B) token) :
    Coherent config
      { s with lifecycle := (s.lifecycle.completeAnnounce r.ruleKey uuid).2 }
      ((FlowspecInstr.afterCompleteAnnounce r uuid cleanup
          (s.lifecycle.completeAnnounce r.ruleKey uuid).1 : Multiset FlowspecInstr) + B)
      (Function.update token r.ruleKey (some uuid)) := by
  obtain ⟨hk, -⟩ := h.phase_of_pending (k := r.ruleKey) rfl
  obtain ⟨st, hst, ha, -, hr, hne, hP, ht⟩ := hk.completeAnnounce_inv
  have hexec : (FlowspecInstr.completeAnnounce r uuid cleanup).exec config .failed s = some
      ({ s with lifecycle := (s.lifecycle.completeAnnounce r.ruleKey uuid).2 },
        FlowspecInstr.afterCompleteAnnounce r uuid cleanup
          (s.lifecycle.completeAnnounce r.ruleKey uuid).1, []) := rfl
  have hwf := h.wellFormed_exec hexec
  rw [List.flatten_nil, Multiset.coe_nil, add_zero] at hwf
  rcases s.lifecycle.completeAnnounce_cases r.ruleKey uuid with
    ⟨-, hno⟩ | ⟨st', hst', -, hs, he⟩ | ⟨st', hst', -, hs, hu, he⟩
  · rcases hno with hno | hno
    · exact absurd hno hne
    · exact absurd ha (hno st hst)
  · -- installed: only a cleanup may follow, and that is about no key
    obtain rfl := Option.some.inj (hst.symm.trans hst')
    refine h.update rfl hwf (FlowspecInstr.fencedWithdraws_exec hexec h.fenced)
      (fun k' hk' => ?_) (fun _ _ => rfl) (fun q hq => .inl hq) (fun k' _ => ?_)
      (fun st' hst' => ?_) (fun _ hu => hu) ?_ (fun u hu => ?_)
    · simp [he, ExtTreeMap.getElem?_insert, hk'.symm]
    · rw [he]
      cases cleanup <;> rfl
    · obtain rfl := by simpa [he] using hst'
      exact ⟨st, hst, rfl⟩
    · show KeyPhase _ _ _ (s.pathsAt r.ruleKey) _
      rw [hP, he]
      have hpend : pendingAt (FlowspecInstr.afterCompleteAnnounce r uuid cleanup .installed :
          Multiset FlowspecInstr) r.ruleKey = 0 := by cases cleanup <;> rfl
      rw [hpend]
      have hheld : KeyPhase r.ruleKey (some { st with addPathUuid := uuid, state := .installed })
          0 {⟨uuid, st.flowSpecRule⟩} (some uuid) := .held (.inl rfl) hne
      simpa using hheld
    · obtain rfl := Option.some.inj hu
      exact h.token_ne ht
  · obtain rfl := Option.some.inj (hst.symm.trans hst')
    refine h.update rfl hwf (FlowspecInstr.fencedWithdraws_exec hexec h.fenced)
      (fun k' hk' => ?_) (fun _ _ => rfl) (fun q hq => .inl hq) (fun k' hk' => ?_)
      (fun st' hst' => ?_) (fun _ hu => hu) ?_ (fun u hu => ?_)
    · simp [he, ExtTreeMap.getElem?_insert, hk'.symm]
    · rw [he]
      exact pendingAt_singleton_of_ne (by simpa [FlowspecInstr.key?] using fun he => hk' he.symm)
    · obtain rfl := by simpa [he] using hst'
      exact ⟨st, hst, rfl⟩
    · show KeyPhase _ _ _ (s.pathsAt r.ruleKey) _
      have hrule : r.flowSpecRule = st.flowSpecRule := by rw [hr]
      rw [hP, he]
      have hpend : pendingAt (FlowspecInstr.afterCompleteAnnounce r uuid cleanup
          .withdrawRequired : Multiset FlowspecInstr) r.ruleKey
          = {.deletePath ⟨r.ruleKey, st.flowSpecRule, uuid⟩} := by
        rw [← hrule]
        exact pendingAt_singleton_of_eq rfl
      rw [hpend]
      have hdel : KeyPhase r.ruleKey (some { st with addPathUuid := uuid, state := .withdrawing })
          {.deletePath ⟨r.ruleKey, st.flowSpecRule, uuid⟩} {⟨uuid, st.flowSpecRule⟩}
          (some uuid) := .deleting rfl hne
      simpa using hdel
    · obtain rfl := Option.some.inj hu
      exact h.token_ne ht

/-- A DeletePath hands its key on to the end of the withdrawal. -/
theorem deletePath {w : GobgpFlowspecWithdrawRequest}
    (h : Coherent config s (.deletePath w ::ₘ B) token) (reply : RpcReply) :
    Coherent config (s.withdrawFlowSpecIPv4 w.addPathUuid reply)
      ({.completeWithdraw w (reply ≠ .failed)} + B)
      (Function.update token w.ruleKey (some w.addPathUuid)) := by
  obtain ⟨hk, -⟩ := h.phase_of_pending (k := w.ruleKey) rfl
  obtain ⟨st, hst, hs, hne, hw, hP, ht⟩ := hk.deletePath_inv
  have huuid : w.addPathUuid = st.addPathUuid := by rw [hw]
  have hrule : w.flowSpecRule = st.flowSpecRule := by rw [hw]
  have hrules : (s.withdrawFlowSpecIPv4 w.addPathUuid reply).lifecycle = s.lifecycle := by
    cases reply <;> rfl
  have hissued : (s.withdrawFlowSpecIPv4 w.addPathUuid reply).issuedUuids = s.issuedUuids := by
    cases reply <;> rfl
  refine h.update rfl (fun j hj => ?_) (by rw [hrules]; exact h.fenced) (fun k' _ => by rw [hrules])
    (fun k' hk' => ?_) (fun q hq => .inl ?_) (fun k' hk' => ?_)
    (fun st' hst' => ⟨st', by rwa [hrules] at hst', rfl⟩) (by rw [hissued]) ?_ (fun u hu => ?_)
  · obtain rfl := Multiset.mem_singleton.mp hj
    trivial
  · cases reply with
    | failed => rfl
    | ok _ =>
        rw [pathsAt_filter (s := s) w.addPathUuid rfl, Finset.filter_eq_self]
        -- the paths of the other keys carry the tokens of those keys
        intro q hq hqu
        have htq := (h.phase k').uuid_of_mem hq
        rw [hqu, huuid] at htq
        exact (h.token_ne ht).2 k' hk' htq
  · cases reply with
    | failed => exact hq
    | ok _ => exact (Finset.mem_filter.mp hq).1
  · exact pendingAt_singleton_of_ne (by simpa [FlowspecInstr.key?] using fun he => hk' he.symm)
  · rw [pendingAt_singleton_of_eq rfl, hrules, hst, hw]
    cases reply with
    | failed =>
        show KeyPhase _ _ _ (s.pathsAt w.ruleKey) _
        rw [hP]
        exact .deleteFailed hs hne
    | ok _ =>
        rw [pathsAt_filter (s := s) st.addPathUuid rfl, hP]
        have hnone : Finset.filter (fun q : GobgpPath => q.uuid ≠ st.addPathUuid)
            {⟨st.addPathUuid, st.flowSpecRule⟩} = ∅ := by simp
        rw [hnone]
        exact .deleted hs hne
  · obtain rfl := Option.some.inj hu
    rw [hissued, huuid]
    exact h.token_ne ht

/-- The end of a withdrawal erases the rule, or leaves it with its path for a retry. -/
theorem completeWithdraw {w : GobgpFlowspecWithdrawRequest} {success : Bool}
    (h : Coherent config s (.completeWithdraw w success ::ₘ B) token) :
    Coherent config
      { s with
        lifecycle := (s.lifecycle.completeWithdraw w.ruleKey w.addPathUuid success).2 }
      (0 + B) (Function.update token w.ruleKey (if success then none else token w.ruleKey)) := by
  obtain ⟨hk, -⟩ := h.phase_of_pending (k := w.ruleKey) rfl
  obtain ⟨st, hst, hs, hne, hw, hP, ht⟩ := hk.completeWithdraw_inv
  have huuid : w.addPathUuid = st.addPathUuid := by rw [hw]
  rcases s.lifecycle.completeWithdraw_cases w.ruleKey w.addPathUuid success with
    ⟨-, hno⟩ | ⟨st', hst', -, -, ⟨rfl, he⟩ | ⟨rfl, he⟩⟩
  · exact absurd ⟨hs, huuid.symm⟩ (hno st hst)
  · refine h.update rfl (by simp) (h.fenced.apply (.completeWithdraw _ _ _))
      (fun k' hk' => ?_) (fun _ _ => rfl) (fun q hq => .inl hq) (fun _ _ => rfl)
      (fun st' hst' => ?_) (fun _ hu => hu) ?_ (by simp)
    · rw [he]
      simp [ExtTreeMap.getElem?_erase, hk'.symm]
    · rw [he] at hst'
      simp at hst'
    · show KeyPhase _ _ _ (s.pathsAt w.ruleKey) _
      rw [he, hP]
      simpa using KeyPhase.free
  · obtain rfl := Option.some.inj (hst.symm.trans hst')
    refine h.update rfl (by simp) (h.fenced.apply (.completeWithdraw _ _ _))
      (fun k' hk' => ?_) (fun _ _ => rfl) (fun q hq => .inl hq) (fun _ _ => rfl)
      (fun st' hst' => ?_) (fun _ hu => hu) ?_ (fun u hu => h.token_ne (by simpa using hu))
    · simp [he, ExtTreeMap.getElem?_insert, hk'.symm]
    · obtain rfl := by simpa [he] using hst'
      exact ⟨st, hst, rfl⟩
    · show KeyPhase _ _ _ (s.pathsAt w.ruleKey) _
      rw [he, hP, if_neg (by simp), ht]
      have hheld : KeyPhase w.ruleKey (some { st with state := .withdrawRequested }) 0
          {⟨st.addPathUuid, st.flowSpecRule⟩} (some st.addPathUuid) := .held (.inr rfl) hne
      simpa using hheld

end SingleKey

/-! ### Steps that change several keys -/

/-- An instruction about no key keeps the invariant if it leaves GoBGP alone and
takes every key from its phase to a phase with the same UUID. -/
theorem sameToken {new : Multiset FlowspecInstr} {l : GobgpFlowspecLifecycle}
    (h : Coherent config s (i ::ₘ B) token) (hi : i.key? = none)
    (hwf : ∀ j ∈ new, j.WellFormed config) (hfence : FencedWithdraws l)
    (hkeyed : ∀ (k : GobgpFlowspecRuleKey) (st : GobgpFlowspecRuleState), l.rules[k]? = some st →
      buildGobgpFlowspecRuleKey st.flowSpecRule = some k)
    (hphase : ∀ (k : GobgpFlowspecRuleKey) (b : Multiset FlowspecInstr) (P : Finset GobgpPath)
      (t : Option ByteString), KeyPhase k (s.lifecycle.rules[k]?) b P t →
      KeyPhase k (l.rules[k]?) (pendingAt new k + b) P t) :
    Coherent config { s with lifecycle := l } (new + B) token where
  wellFormed j hj := by
    rcases Multiset.mem_add.mp hj with hj | hj
    · exact hwf j hj
    · exact h.wellFormed j (Multiset.mem_cons_of_mem hj)
  fenced := hfence
  keyed := hkeyed
  pathKeyed := h.pathKeyed
  phase k := by
    have hk := h.phase k
    rw [pendingAt_cons_of_ne (by rw [hi]; exact Option.some_ne_none k |>.symm)] at hk
    rw [pendingAt_add]
    exact hphase k _ _ _ hk
  token_inj := h.token_inj
  token_issued := h.token_issued

/-- Reserving rules at free keys, with an AddPath to be made for each. -/
theorem reserve {new : Multiset FlowspecInstr} {l : GobgpFlowspecLifecycle}
    (h : Coherent config s (i ::ₘ B) token) (hi : i.key? = none)
    (hwf : ∀ j ∈ new, j.WellFormed config) (hfence : FencedWithdraws l)
    (hkeys : ∀ k : GobgpFlowspecRuleKey,
      (l.rules[k]? = s.lifecycle.rules[k]? ∧ pendingAt new k = 0) ∨
        ∃ (r : GobgpFlowspecAnnounceRequest) (cleanup : Bool), r.ruleKey = k ∧
          s.lifecycle.rules[k]? = none ∧ l.rules[k]? = some (announcingRule r.flowSpecRule) ∧
          pendingAt new k = {.addPath r cleanup}) :
    Coherent config { s with lifecycle := l } (new + B) token := by
  refine h.sameToken hi hwf hfence (fun k st hst => ?_) (fun k b P t hk => ?_)
  · rcases hkeys k with ⟨he, -⟩ | ⟨r, cleanup, rfl, -, he, hnew⟩
    · exact h.keyed k st (he ▸ hst)
    · obtain rfl := Option.some.inj (he.symm.trans hst)
      have hmem : FlowspecInstr.addPath r cleanup ∈ pendingAt new r.ruleKey := by
        rw [hnew]
        exact Multiset.mem_singleton_self _
      exact (hwf _ (mem_pendingAt.mp hmem).1).1
  · rcases hkeys k with ⟨he, hnew⟩ | ⟨r, cleanup, rfl, hfree, he, hnew⟩
    · rwa [he, hnew, zero_add]
    · rw [hfree] at hk
      cases hk
      rw [he, hnew, add_zero]
      exact .adding cleanup (.inl rfl) rfl

/-- The withdrawal of the rules whose key satisfies `p`: those with a path that
nobody deletes yet get a DeletePath, the others are only marked. -/
theorem withdraw {p : GobgpFlowspecRuleKey → Bool} {l : GobgpFlowspecLifecycle}
    (h : Coherent config s (i ::ₘ B) token) (hi : i.key? = none) (hfence : FencedWithdraws l)
    (hl : l.rules = s.lifecycle.withdrawMatching p) :
    Coherent config { s with lifecycle := l }
      (((s.lifecycle.withdrawRequestsFor p).map .deletePath : List FlowspecInstr) + B) token := by
  have hget : ∀ k : GobgpFlowspecRuleKey, l.rules[k]?
      = (s.lifecycle.rules[k]?).map fun st => if p k then st.startWithdraw.1 else st := by
    intro k
    rw [hl]
    exact GobgpFlowspecLifecycle.withdrawMatching_getElem? p
  refine h.sameToken hi (fun j hj => ?_) hfence (fun k st hst => ?_) (fun k b P t hk => ?_)
  · obtain ⟨w, -, rfl⟩ := List.mem_map.mp (Multiset.mem_coe.mp hj)
    trivial
  · rw [hget k] at hst
    obtain ⟨st', hst', rfl⟩ := Option.map_eq_some_iff.mp hst
    rw [show (if p k then st'.startWithdraw.1 else st').flowSpecRule = st'.flowSpecRule by
      split
      · exact startWithdraw_flowSpecRule st'
      · rfl]
    exact h.keyed k st' hst'
  · rw [hget k, pendingAt_withdrawRequestsFor]
    generalize s.lifecycle.rules[k]? = o at hk ⊢
    cases hp : p k with
    | false => cases o <;> simpa using hk
    | true =>
        cases hk with
        | free => exact .free
        | adding cleanup ha hu =>
            obtain ⟨ha', hu', hr', hreq⟩ := startWithdraw_of_awaitsPath ha hu
            simpa [hreq, hr'] using KeyPhase.adding (k := k) cleanup ha' hu'
        | failing ha hu =>
            obtain ⟨ha', hu', hr', hreq⟩ := startWithdraw_of_awaitsPath ha hu
            simpa [hreq, hr'] using KeyPhase.failing (k := k) ha' hu'
        | completing cleanup ha hu hne =>
            obtain ⟨ha', hu', hr', hreq⟩ := startWithdraw_of_awaitsPath ha hu
            simpa [hreq, hr'] using KeyPhase.completing (k := k) cleanup ha' hu' hne
        | @held st hs hne =>
            obtain ⟨he, hreq⟩ := startWithdraw_of_held hs hne
            have hdel : KeyPhase k (some { st with state := .withdrawing })
                {.deletePath ⟨k, st.flowSpecRule, st.addPathUuid⟩}
                {⟨st.addPathUuid, st.flowSpecRule⟩} (some st.addPathUuid) := .deleting rfl hne
            simpa [hreq, he] using hdel
        | deleting hs hne =>
            rw [Option.map_some, startWithdraw_of_withdrawing hs]
            simpa [startWithdraw_of_withdrawing hs] using KeyPhase.deleting (k := k) hs hne
        | deleteFailed hs hne =>
            rw [Option.map_some, startWithdraw_of_withdrawing hs]
            simpa [startWithdraw_of_withdrawing hs] using KeyPhase.deleteFailed (k := k) hs hne
        | deleted hs hne =>
            rw [Option.map_some, startWithdraw_of_withdrawing hs]
            simpa [startWithdraw_of_withdrawing hs] using KeyPhase.deleted (k := k) hs hne

/-! ### Every instruction keeps the invariant -/

/-- A new reservation starts the first phase of its key. -/
theorem reserveOne {r : GobgpFlowspecAnnounceRequest} {cleanup : Bool}
    (h : Coherent config s (i ::ₘ B) token) (hi : i.key? = none)
    (hwf : (FlowspecInstr.addPath r cleanup).WellFormed config)
    (hfree : s.lifecycle.rules[r.ruleKey]? = none)
    (hfence : FencedWithdraws { s.lifecycle with
      rules := s.lifecycle.rules.insertIfNew r.ruleKey (announcingRule r.flowSpecRule) }) :
    Coherent config
      { s with
        lifecycle := { s.lifecycle with
          rules := s.lifecycle.rules.insertIfNew r.ruleKey (announcingRule r.flowSpecRule) } }
      ({.addPath r cleanup} + B) token := by
  refine h.reserve hi (by simpa using hwf) hfence fun k => ?_
  have hnot : r.ruleKey ∉ s.lifecycle.rules := by simpa using hfree
  by_cases hk : r.ruleKey = k
  · subst hk
    refine .inr ⟨r, cleanup, rfl, hfree, ?_, pendingAt_singleton_of_eq rfl⟩
    rw [ExtTreeMap.getElem?_insertIfNew]
    simp [hnot]
  · refine .inl ⟨?_, pendingAt_singleton_of_ne (by simpa [FlowspecInstr.key?] using hk)⟩
    simp [ExtTreeMap.getElem?_insertIfNew, hk]

/-- The AddPaths of the new port rules, at one key. -/
theorem pendingAt_uniqueNewPortRules (l : GobgpFlowspecLifecycle) (pk : GobgpFlowspecRuleKey)
    (reqs : List GobgpFlowspecAnnounceRequest) (cleanup : Bool) :
    pendingAt (((l.uniqueNewPortRules pk reqs).toList.map (·.2)).map
        (FlowspecInstr.addPath · cleanup) : List FlowspecInstr) k
      = match (l.uniqueNewPortRules pk reqs)[k]? with
        | none => 0
        | some r => {.addPath r cleanup} := by
  have hfilter : pendingAt (((l.uniqueNewPortRules pk reqs).toList.map (·.2)).map
        (FlowspecInstr.addPath · cleanup) : List FlowspecInstr) k
      = (((l.uniqueNewPortRules pk reqs).toList.filter (fun e => e.1 == k)).map
        fun e => FlowspecInstr.addPath e.2 cleanup : List FlowspecInstr) := by
    rw [pendingAt, Multiset.filter_coe, List.map_map, List.filter_map]
    congr 2
    refine List.filter_congr fun e he => ?_
    have hkey := (GobgpFlowspecLifecycle.uniqueNewPortRules_spec
      (ExtTreeMap.mem_toList_iff_getElem?_eq_some.mp he)).1
    by_cases hk : e.1 = k <;> simp [FlowspecInstr.key?, hkey, hk]
  rw [hfilter, OrderedMap.filter_toList]
  cases (l.uniqueNewPortRules pk reqs)[k]? <;> rfl

/-- The rules that a refresh reserves each start their first phase. -/
theorem beginRefreshProtocolRules {po : GobgpFlowspecAnnounceRequest}
    {reqs : List GobgpFlowspecAnnounceRequest} {max : UInt64}
    (h : Coherent config s (.beginRefreshProtocolRules po reqs max ::ₘ B) token) :
    Coherent config
      { s with lifecycle := (s.lifecycle.beginRefreshProtocolRules po reqs max).2 }
      ((FlowspecInstr.announcePlan (s.lifecycle.beginRefreshProtocolRules po reqs max).1 :
        Multiset FlowspecInstr) + B) token := by
  have hexec : (FlowspecInstr.beginRefreshProtocolRules po reqs max).exec config .failed s = some
      ({ s with lifecycle := (s.lifecycle.beginRefreshProtocolRules po reqs max).2 },
        FlowspecInstr.announcePlan (s.lifecycle.beginRefreshProtocolRules po reqs max).1, []) :=
    rfl
  have hwf := h.wellFormed_exec hexec
  have hfence := FlowspecInstr.fencedWithdraws_exec hexec h.fenced
  rw [List.flatten_nil, Multiset.coe_nil, add_zero] at hwf
  rcases s.lifecycle.beginRefreshProtocolRules_cases po reqs max with
    ⟨plan, hplan, -, he⟩ | ⟨-, hcov, plan, -, ⟨hact, hplan, he⟩ | ⟨hact, hplan, -, he⟩⟩
  · rw [he] at hwf hfence ⊢
    refine h.reserve rfl hwf hfence fun k => .inl ⟨rfl, ?_⟩
    simp [FlowspecInstr.announcePlan, hplan]
  · rw [he] at hwf hfence ⊢
    have hnew : FlowspecInstr.announcePlan plan = [.addPath po true] := by
      simp [FlowspecInstr.announcePlan, hplan, hact]
    rw [hnew] at hwf ⊢
    have hpo := hwf (.addPath po true) (by simp)
    refine h.reserveOne rfl hpo ?_ hfence
    -- an escalation is only planned where no rule for the whole protocol is stored
    have hnot : po.ruleKey ∉ s.lifecycle.rules := fun hmem =>
      hcov ⟨po.ruleKey, (hpo.2 rfl).isProtocolOnly, hmem⟩
    simpa using hnot
  · rw [he] at hwf hfence ⊢
    have hnew : FlowspecInstr.announcePlan plan
        = ((s.lifecycle.uniqueNewPortRules po.ruleKey reqs).toList.map (·.2)).map
          (FlowspecInstr.addPath · false) := by
      simp [FlowspecInstr.announcePlan, hplan, hact]
    rw [hnew] at hwf ⊢
    refine h.reserve rfl hwf hfence fun k => ?_
    rw [pendingAt_uniqueNewPortRules]
    rcases hk : (s.lifecycle.uniqueNewPortRules po.ruleKey reqs)[k]? with - | r
    · refine .inl ⟨?_, rfl⟩
      simp [GobgpFlowspecLifecycle.announceAll_getElem?, hk]
    · obtain ⟨hkey, -, -, hfree⟩ := GobgpFlowspecLifecycle.uniqueNewPortRules_spec hk
      refine .inr ⟨r, false, hkey, hfree, ?_, rfl⟩
      simp [GobgpFlowspecLifecycle.announceAll_getElem?, hk, hfree]

/-- **Every instruction keeps the invariant**, whatever else is pending. -/
theorem exec {reply : RpcReply} {new : List FlowspecInstr} {forked : List (List FlowspecInstr)}
    (he : i.exec config reply s = some (s', new, forked))
    (h : Coherent config s (i ::ₘ B) token) :
    ∃ token', Coherent config s'
      ((new : Multiset FlowspecInstr) + (forked.flatten : Multiset FlowspecInstr) + B) token' := by
  have hwf := h.wellFormed_exec he
  have hfence := FlowspecInstr.fencedWithdraws_exec he h.fenced
  cases i with
  | beginAnnounce r | beginRefreshAnnounce r =>
      obtain ⟨rfl, rfl, rfl⟩ := by simpa [FlowspecInstr.exec] using he
      refine ⟨token, ?_⟩
      rcases s.lifecycle.reserveRule_cases r.ruleKey r.flowSpecRule with hr | ⟨-, hfree, hr⟩
      · simp only [GobgpFlowspecLifecycle.beginAnnounce,
          GobgpFlowspecLifecycle.beginRefreshAnnounce, hr] at hwf hfence ⊢
        exact h.reserve rfl hwf hfence fun k => .inl ⟨rfl, rfl⟩
      · simp only [GobgpFlowspecLifecycle.beginAnnounce,
          GobgpFlowspecLifecycle.beginRefreshAnnounce, hr, if_true, List.flatten_nil,
          Multiset.coe_nil, add_zero] at hwf hfence ⊢
        exact h.reserveOne rfl (hwf _ (by simp)) hfree hfence
  | beginRefreshProtocolRules po reqs max =>
      obtain ⟨rfl, rfl, rfl⟩ := by simpa [FlowspecInstr.exec] using he
      rw [List.flatten_nil, Multiset.coe_nil, add_zero]
      exact ⟨_, h.beginRefreshProtocolRules⟩
  | addPath r cleanup =>
      obtain ⟨t, ht, heq⟩ := Option.map_eq_some_iff.mp he
      obtain ⟨rfl, hnew⟩ := Prod.mk.inj heq
      obtain ⟨rfl, rfl⟩ := Prod.mk.inj hnew
      rw [List.flatten_nil, Multiset.coe_nil, add_zero]
      cases reply with
      | failed =>
          obtain rfl := Option.some.inj ht
          exact ⟨_, h.addPath_failed⟩
      | ok uuid =>
          simp only [FlowspecState.announceFlowSpecIPv4] at ht
          split at ht
          · cases ht
          · rename_i hu
            obtain ⟨hne, hfresh⟩ := not_or.mp hu
            obtain rfl := Option.some.inj ht
            have hafter : FlowspecInstr.afterAddPath r cleanup (.ok uuid)
                = .completeAnnounce r uuid cleanup := by
              simp [FlowspecInstr.afterAddPath, hne]
            rw [hafter]
            exact ⟨_, h.addPath_ok hne hfresh⟩
  | failAnnounce k =>
      obtain ⟨rfl, rfl, rfl⟩ := by simpa [FlowspecInstr.exec] using he
      exact ⟨_, h.failAnnounce⟩
  | completeAnnounce r uuid cleanup =>
      obtain ⟨rfl, rfl, rfl⟩ := by simpa [FlowspecInstr.exec] using he
      rw [List.flatten_nil, Multiset.coe_nil, add_zero]
      exact ⟨_, h.completeAnnounce⟩
  | beginProtocolOnlyEscalationCleanup k =>
      obtain ⟨rfl, rfl, rfl⟩ := by simpa [FlowspecInstr.exec] using he
      rw [List.flatten_nil, Multiset.coe_nil, add_zero]
      refine ⟨token, ?_⟩
      rcases s.lifecycle.beginProtocolOnlyEscalationCleanup_cases k with hc | ⟨-, -, -, -, hc⟩
      · rw [hc] at hfence ⊢
        exact h.reserve rfl (by simp) hfence fun k => .inl ⟨rfl, rfl⟩
      · rw [hc] at hfence ⊢
        exact h.withdraw rfl hfence rfl
  | beginWithdrawForVictim v =>
      obtain ⟨rfl, rfl, rfl⟩ := by simpa [FlowspecInstr.exec] using he
      rw [List.flatten_nil, Multiset.coe_nil, add_zero]
      exact ⟨token, h.withdraw rfl hfence GobgpFlowspecLifecycle.beginWithdrawForVictim_rules⟩
  | deletePath w =>
      obtain ⟨rfl, hnew⟩ := Prod.mk.inj (Option.some.inj he)
      obtain ⟨rfl, rfl⟩ := Prod.mk.inj hnew
      rw [List.flatten_nil, Multiset.coe_nil, add_zero]
      exact ⟨_, h.deletePath reply⟩
  | completeWithdraw w success =>
      obtain ⟨rfl, rfl, rfl⟩ := by simpa [FlowspecInstr.exec] using he
      exact ⟨_, h.completeWithdraw⟩
  | beginRefreshCapture v =>
      obtain ⟨rfl, rfl, rfl⟩ := by simpa [FlowspecInstr.exec] using he
      refine ⟨token, h.reserve rfl hwf hfence fun k => .inl ⟨?_, rfl⟩⟩
      rcases s.lifecycle.beginRefreshCapture_cases v with hc | ⟨-, -, hc⟩ <;> rw [hc]
  | finishRefreshCapture v =>
      obtain ⟨rfl, rfl, rfl⟩ := by simpa [FlowspecInstr.exec] using he
      exact ⟨token, h.reserve rfl hwf hfence fun k =>
        .inl ⟨by rw [GobgpFlowspecLifecycle.finishRefreshCapture_rules], rfl⟩⟩
  | refreshManage v results =>
      obtain ⟨rfl, -⟩ := Prod.mk.inj (Option.some.inj he)
      refine ⟨token, h.reserve rfl hwf hfence fun k => .inl ⟨rfl, pendingAt_eq_zero ?_⟩⟩
      intro j hj
      have hkey : j.key? = none := by
        cases FlowspecInstr.exec_successor he hj with
        | refreshSkipped => rfl
        | refresh hj => exact refreshThread_key? hj
      rw [hkey]
      exact Option.some_ne_none k |>.symm

/-- A new job leaves every key in its phase. -/
theorem start (h : Coherent config s B token) (job : FlowspecJob) :
    Coherent config s (B + (job.program config : Multiset FlowspecInstr)) token where
  wellFormed i hi := by
    rcases Multiset.mem_add.mp hi with hi | hi
    · exact h.wellFormed i hi
    · exact program_wellFormed (Multiset.mem_coe.mp hi)
  fenced := h.fenced
  keyed := h.keyed
  pathKeyed := h.pathKeyed
  phase k := by
    have hzero : pendingAt (job.program config : Multiset FlowspecInstr) k = 0 := by
      refine pendingAt_eq_zero fun i hi => ?_
      rw [program_key? (Multiset.mem_coe.mp hi)]
      exact Option.some_ne_none k |>.symm
    rw [pendingAt_add, hzero, add_zero]
    exact h.phase k
  token_inj := h.token_inj
  token_issued := h.token_issued

end Coherent

/-! ### Runs of the pool -/

section Runs

variable {C : Pool FlowspecState FlowspecInstr → PoolEvent FlowspecJob RpcReply → Prop}
  {J : FlowspecState → Multiset FlowspecInstr → Prop} {w w' : Pool FlowspecState FlowspecInstr}

/-- **The rule for properties of the workers.**  A property of the shared state
and the pending instructions that new jobs keep, and that every instruction
run under `C` keeps when the invariant holds, is kept by every run under `C`. -/
theorem Coherent.reaches
    (hstart : ∀ {w} (job : FlowspecJob), C w (.start job) → J w.shared w.pending →
      J w.shared (w.pending + (job.program config : Multiset FlowspecInstr)))
    (hexec : ∀ {w n reply i s' new forked B token}, C w (.run n reply) → w.next n = some i →
      w.pending = i ::ₘ B → Coherent config w.shared (i ::ₘ B) token →
      i.exec config reply w.shared = some (s', new, forked) → J w.shared (i ::ₘ B) →
      J s' ((new : Multiset FlowspecInstr) + (forked.flatten : Multiset FlowspecInstr) + B))
    (h : Reaches (flowspecMachine config).step C w w')
    (hw : ∃ token, Coherent config w.shared w.pending token) (hJ : J w.shared w.pending) :
    (∃ token, Coherent config w'.shared w'.pending token) ∧ J w'.shared w'.pending := by
  refine Reaches.invariant (I := fun w => (∃ token, Coherent config w.shared w.pending token) ∧
    J w.shared w.pending) (fun {w e w'} hw hC hs => ?_) h ⟨hw, hJ⟩
  obtain ⟨⟨token, hw⟩, hJ⟩ := hw
  rcases Machine.step_cases hs with
    ⟨job, rfl, hsh, hp⟩ | ⟨n, reply, i, new, forked, B, rfl, hi, he, hp, hp'⟩
  · rw [hsh, hp]
    exact ⟨⟨token, hw.start job⟩, hstart job hC hJ⟩
  · rw [hp] at hw hJ
    rw [hp']
    exact ⟨hw.exec he, hexec hC hi hp hw he hJ⟩

/-- Before the first job everything is coherent. -/
theorem coherent_start :
    ∃ token, Coherent config flowspecStart.shared flowspecStart.pending token := by
  refine ⟨fun _ => none, by simp [flowspecStart, Pool.pending], ?_, ?_, ?_, fun k => ?_, by simp,
    by simp⟩
  · intro k st hst
    simp [flowspecStart] at hst
  · intro k st hst
    simp [flowspecStart] at hst
  · simp [flowspecStart]
  · have hrules : (flowspecStart.shared.lifecycle.rules)[k]? = none := by simp [flowspecStart]
    rw [hrules]
    exact .free

/-- **The invariant holds in every reachable pool.** -/
theorem FlowspecReachable.coherent (h : FlowspecReachable config w) :
    ∃ token, Coherent config w.shared w.pending token :=
  (Coherent.reaches (J := fun _ _ => True) (fun _ _ _ => trivial) (fun _ _ _ _ _ _ => trivial) h
    coherent_start trivial).1

end Runs

end FastNetMon
