/-
FastNetMon/Lifecycle.lean

The lifecycle of announced FlowSpec rules (`gobgp_flowspec_lifecycle_t`).

The lifecycle is the process-local record of what FastNetMon has asked GoBGP
to hold.  Its state has three parts: the rules, each in one of four states and
with the UUID of its path once GoBGP has returned one; the victims for which a
withdrawal has started (the *fence*, under which nothing new is announced);
and the victims for which a refresh capture is reserved.

Every method of the class runs under one mutex, so each is a function from a
state to its result and the next state.  A `std::map` is an `ExtTreeMap`
(iteration in key order, `emplace` is `insertIfNew`), a `std::set` a `Finset`.
The loops that rewrite rules in place touch each entry on its own: such a loop
is a `map` over the entries together with the lists it pushes onto, in order.

After the operations come their specifications, entry by entry: what each one
leaves at a key, in the fence and among the reservations.  Later modules use
these and do not unfold the operations.
-/
import Mathlib
import FastNetMon.OrderedMap
import FastNetMon.RuleKey

namespace FastNetMon

open Std

/-! ### States and results -/

/-- `gobgp_flowspec_rule_state_type_t`. -/
inductive GobgpFlowspecRuleStateType
  | announcing
  | installed
  | withdrawRequested
  | withdrawing
deriving DecidableEq, Repr

/-- `gobgp_flowspec_rule_state_t`. -/
structure GobgpFlowspecRuleState where
  state : GobgpFlowspecRuleStateType
  flowSpecRule : FlowSpecRule
  addPathUuid : ByteString
deriving DecidableEq, Repr

/-- `gobgp_flowspec_withdraw_request_t`. -/
structure GobgpFlowspecWithdrawRequest where
  ruleKey : GobgpFlowspecRuleKey
  flowSpecRule : FlowSpecRule
  addPathUuid : ByteString
deriving DecidableEq, Repr

/-- `gobgp_flowspec_announce_request_t`. -/
structure GobgpFlowspecAnnounceRequest where
  ruleKey : GobgpFlowspecRuleKey
  flowSpecRule : FlowSpecRule
deriving DecidableEq, Repr

/-- `gobgp_flowspec_announce_completion_t`. -/
inductive GobgpFlowspecAnnounceCompletion
  | installed
  | withdrawRequired
  | ignored
deriving DecidableEq, Repr

/-- `gobgp_flowspec_withdraw_completion_t`. -/
inductive GobgpFlowspecWithdrawCompletion
  | erased
  | retryPending
  | ignored
deriving DecidableEq, Repr

/-- `gobgp_flowspec_withdraw_start_result_t`. -/
structure GobgpFlowspecWithdrawStartResult where
  withdrawRequests : List GobgpFlowspecWithdrawRequest
  deferredRules : List FlowSpecRule
  inProgressRules : List FlowSpecRule
deriving DecidableEq, Repr

/-- `gobgp_flowspec_refresh_protocol_action_t`. -/
inductive GobgpFlowspecRefreshProtocolAction
  | addPortRules
  | escalateProtocolOnly
  | protocolOnlyCovers
  | noNewPortRules
  | withdrawInProgress
deriving DecidableEq, Repr

/-- `gobgp_flowspec_refresh_protocol_plan_t`. -/
structure GobgpFlowspecRefreshProtocolPlan where
  action : GobgpFlowspecRefreshProtocolAction := .noNewPortRules
  existingPortRuleCount : ℕ := 0
  newPortRuleCount : ℕ := 0
  announceRequests : List GobgpFlowspecAnnounceRequest := []
deriving DecidableEq, Repr

/-- The rules of the lifecycle, `std::map` by key. -/
abbrev RuleMap := ExtTreeMap GobgpFlowspecRuleKey GobgpFlowspecRuleState

/-- `gobgp_flowspec_lifecycle_t`. -/
@[ext] structure GobgpFlowspecLifecycle where
  rules : RuleMap := ∅
  victimsWithdrawRequested : Finset UInt32 := ∅
  victimsRefreshInProgress : Finset UInt32 := ∅

/-- A rule just reserved: announcing, with no UUID yet. -/
def announcingRule (flowSpecRule : FlowSpecRule) : GobgpFlowspecRuleState :=
  { state := .announcing, flowSpecRule, addPathUuid := [] }

/-- What a withdrawal loop does with one rule of its victim. -/
inductive WithdrawStart
  | request
  | deferred
  | inProgress
deriving DecidableEq, Repr

/-- One turn of the loops of `begin_withdraw_for_victim` and
`begin_protocol_only_escalation_cleanup`: the new state of the rule, and
whether its path is to be deleted now, when its AddPath returns, or is being
deleted already. -/
def GobgpFlowspecRuleState.startWithdraw (ruleState : GobgpFlowspecRuleState) :
    GobgpFlowspecRuleState × WithdrawStart :=
  match ruleState.state with
  | .announcing => ({ ruleState with state := .withdrawRequested }, .deferred)
  | .installed => ({ ruleState with state := .withdrawing }, .request)
  | .withdrawRequested =>
      if ruleState.addPathUuid.isEmpty then (ruleState, .deferred)
      else ({ ruleState with state := .withdrawing }, .request)
  | .withdrawing => (ruleState, .inProgress)

/-- A rule whose AddPath has not been answered. -/
def GobgpFlowspecRuleState.awaitsPath (s : GobgpFlowspecRuleState) : Prop :=
  s.state = .announcing ∨ (s.state = .withdrawRequested ∧ s.addPathUuid = [])

namespace GobgpFlowspecLifecycle

/-! ### Operations -/

/-- The common body of `begin_announce` and `begin_refresh_announce`. -/
def reserveRule (l : GobgpFlowspecLifecycle) (ruleKey : GobgpFlowspecRuleKey)
    (flowSpecRule : FlowSpecRule) : Bool × GobgpFlowspecLifecycle :=
  if ruleKey.destinationIpv4 ∈ l.victimsWithdrawRequested then (false, l)
  else if (l.rules[ruleKey]?).isSome then (false, l)
  else (true, { l with rules := l.rules.insertIfNew ruleKey (announcingRule flowSpecRule) })

/-- `begin_announce`: a BAN does not race with an unfinished withdrawal. -/
def beginAnnounce (l : GobgpFlowspecLifecycle) (ruleKey : GobgpFlowspecRuleKey)
    (flowSpecRule : FlowSpecRule) : Bool × GobgpFlowspecLifecycle :=
  l.reserveRule ruleKey flowSpecRule

/-- `begin_refresh_announce`: a refresh does not add a path once UNBAN has started. -/
def beginRefreshAnnounce (l : GobgpFlowspecLifecycle) (ruleKey : GobgpFlowspecRuleKey)
    (flowSpecRule : FlowSpecRule) : Bool × GobgpFlowspecLifecycle :=
  l.reserveRule ruleKey flowSpecRule

/-- `begin_refresh_capture`. -/
def beginRefreshCapture (l : GobgpFlowspecLifecycle) (victimIpv4 : UInt32) :
    Bool × GobgpFlowspecLifecycle :=
  if victimIpv4 ∈ l.victimsWithdrawRequested ∨ victimIpv4 ∈ l.victimsRefreshInProgress then
    (false, l)
  else
    (true, { l with victimsRefreshInProgress := insert victimIpv4 l.victimsRefreshInProgress })

/-- `victim_has_rules_locked`. -/
def victimHasRulesLocked (l : GobgpFlowspecLifecycle) (victimIpv4 : UInt32) : Bool :=
  l.rules.keys.any (·.destinationIpv4 == victimIpv4)

/-- `clear_withdraw_fence_if_finished_locked`: the fence stays while a rule or
a capture reserved before UNBAN is left. -/
def clearWithdrawFenceIfFinishedLocked (l : GobgpFlowspecLifecycle) (victimIpv4 : UInt32) :
    GobgpFlowspecLifecycle :=
  if l.victimHasRulesLocked victimIpv4 ∨ victimIpv4 ∈ l.victimsRefreshInProgress then l
  else { l with victimsWithdrawRequested := l.victimsWithdrawRequested.erase victimIpv4 }

/-- `complete_refresh_capture`: ends the reservation, does not look at the fence. -/
def completeRefreshCapture (l : GobgpFlowspecLifecycle) (victimIpv4 : UInt32) :
    GobgpFlowspecLifecycle :=
  { l with victimsRefreshInProgress := l.victimsRefreshInProgress.erase victimIpv4 }

/-- `finish_refresh_capture`. -/
def finishRefreshCapture (l : GobgpFlowspecLifecycle) (victimIpv4 : UInt32) :
    GobgpFlowspecLifecycle :=
  (l.completeRefreshCapture victimIpv4).clearWithdrawFenceIfFinishedLocked victimIpv4

/-- Erase a rule and drop the fence of its victim if that was the last of it. -/
def eraseRule (l : GobgpFlowspecLifecycle) (ruleKey : GobgpFlowspecRuleKey) :
    GobgpFlowspecLifecycle :=
  { l with rules := l.rules.erase ruleKey }.clearWithdrawFenceIfFinishedLocked
    ruleKey.destinationIpv4

/-- `fail_announce`. -/
def failAnnounce (l : GobgpFlowspecLifecycle) (ruleKey : GobgpFlowspecRuleKey) :
    GobgpFlowspecLifecycle :=
  match l.rules[ruleKey]? with
  | none => l
  | some ruleState =>
      if ruleState.state = .announcing
          ∨ (ruleState.state = .withdrawRequested ∧ ruleState.addPathUuid = []) then
        l.eraseRule ruleKey
      else l

/-- `complete_announce`. -/
def completeAnnounce (l : GobgpFlowspecLifecycle) (ruleKey : GobgpFlowspecRuleKey)
    (addPathUuid : ByteString) : GobgpFlowspecAnnounceCompletion × GobgpFlowspecLifecycle :=
  match l.rules[ruleKey]? with
  | none => (.ignored, l)
  | some ruleState =>
      if addPathUuid = [] then (.ignored, l)
      else if ruleState.state = .announcing then
        (.installed, { l with
          rules := l.rules.insert ruleKey { ruleState with addPathUuid, state := .installed } })
      else if ruleState.state = .withdrawRequested ∧ ruleState.addPathUuid = [] then
        (.withdrawRequired, { l with
          rules := l.rules.insert ruleKey { ruleState with addPathUuid, state := .withdrawing } })
      else (.ignored, l)

/-- The rules whose key satisfies `p`, in key order. -/
def matchingRules (l : GobgpFlowspecLifecycle) (p : GobgpFlowspecRuleKey → Bool) :
    List (GobgpFlowspecRuleKey × GobgpFlowspecRuleState) :=
  l.rules.toList.filter (p ·.1)

/-- The rules of the matching keys for which the loop ends in `start`. -/
def startedRules (l : GobgpFlowspecLifecycle) (p : GobgpFlowspecRuleKey → Bool)
    (start : WithdrawStart) : List (GobgpFlowspecRuleKey × GobgpFlowspecRuleState) :=
  (l.matchingRules p).filter (·.2.startWithdraw.2 = start)

/-- The requests that the loop over the matching rules pushes. -/
def withdrawRequestsFor (l : GobgpFlowspecLifecycle) (p : GobgpFlowspecRuleKey → Bool) :
    List GobgpFlowspecWithdrawRequest :=
  (l.startedRules p .request).map fun r => ⟨r.1, r.2.flowSpecRule, r.2.addPathUuid⟩

/-- The rules after the loop over the matching rules. -/
def withdrawMatching (l : GobgpFlowspecLifecycle) (p : GobgpFlowspecRuleKey → Bool) : RuleMap :=
  l.rules.map fun ruleKey ruleState =>
    if p ruleKey then ruleState.startWithdraw.1 else ruleState

/-- `begin_withdraw_for_victim`.  The fence is raised even if there are no
rules yet, and dropped at once if there is nothing to wait for. -/
def beginWithdrawForVictim (l : GobgpFlowspecLifecycle) (victimIpv4 : UInt32) :
    GobgpFlowspecWithdrawStartResult × GobgpFlowspecLifecycle :=
  let ofVictim := fun k : GobgpFlowspecRuleKey => k.destinationIpv4 == victimIpv4
  let result : GobgpFlowspecWithdrawStartResult :=
    { withdrawRequests := l.withdrawRequestsFor ofVictim
      deferredRules := (l.startedRules ofVictim .deferred).map (·.2.flowSpecRule)
      inProgressRules := (l.startedRules ofVictim .inProgress).map (·.2.flowSpecRule) }
  (result, { l with
    victimsWithdrawRequested := insert victimIpv4 l.victimsWithdrawRequested
    rules := l.withdrawMatching ofVictim }.clearWithdrawFenceIfFinishedLocked victimIpv4)

/-- `complete_withdraw`. -/
def completeWithdraw (l : GobgpFlowspecLifecycle) (ruleKey : GobgpFlowspecRuleKey)
    (addPathUuid : ByteString) (success : Bool) :
    GobgpFlowspecWithdrawCompletion × GobgpFlowspecLifecycle :=
  match l.rules[ruleKey]? with
  | none => (.ignored, l)
  | some ruleState =>
      if ruleState.state ≠ .withdrawing ∨ ruleState.addPathUuid ≠ addPathUuid then (.ignored, l)
      else if success then (.erased, l.eraseRule ruleKey)
      else (.retryPending, { l with
        rules := l.rules.insert ruleKey { ruleState with state := .withdrawRequested } })

/-- The first loop of `begin_refresh_protocol_rules`: whether it meets a rule
for the whole protocol, and the number of port rules counted up to there. -/
def countPortRules (protocolOnlyKey : GobgpFlowspecRuleKey) :
    List GobgpFlowspecRuleKey → ℕ → Bool × ℕ
  | [], existing => (false, existing)
  | ruleKey :: rest, existing =>
      if ruleKey.destinationIpv4 ≠ protocolOnlyKey.destinationIpv4 ∨ !ruleKey.protocolPresent
          ∨ ruleKey.protocol ≠ protocolOnlyKey.protocol then
        countPortRules protocolOnlyKey rest existing
      else if !ruleKey.destinationPortPresent then (true, existing)
      else countPortRules protocolOnlyKey rest (existing + 1)

/-- The second loop: the requests for new port rules of this victim and
protocol, the first request for each key. -/
def uniqueNewPortRules (l : GobgpFlowspecLifecycle) (protocolOnlyKey : GobgpFlowspecRuleKey)
    (portRuleRequests : List GobgpFlowspecAnnounceRequest) :
    ExtTreeMap GobgpFlowspecRuleKey GobgpFlowspecAnnounceRequest :=
  let newRequests := portRuleRequests.filter fun request =>
    request.ruleKey.isPortRule protocolOnlyKey.destinationIpv4 protocolOnlyKey.protocol
      && (l.rules[request.ruleKey]?).isNone
  OrderedMap.insertAllIfNew ∅ (newRequests.map fun request => (request.ruleKey, request))

/-- The third loop: a reservation for each of the new port rules. -/
def announceAll (l : GobgpFlowspecLifecycle)
    (requests : ExtTreeMap GobgpFlowspecRuleKey GobgpFlowspecAnnounceRequest) : RuleMap :=
  OrderedMap.insertAllIfNew l.rules
    (requests.map fun _ request => announcingRule request.flowSpecRule).toList

/-- `begin_refresh_protocol_rules`: the whole decision is one step, so that
announcing rules reserve capacity before another refresh can plan. -/
def beginRefreshProtocolRules (l : GobgpFlowspecLifecycle)
    (protocolOnlyRequest : GobgpFlowspecAnnounceRequest)
    (portRuleRequests : List GobgpFlowspecAnnounceRequest) (maxPortRules : UInt64) :
    GobgpFlowspecRefreshProtocolPlan × GobgpFlowspecLifecycle :=
  let protocolOnlyKey := protocolOnlyRequest.ruleKey
  if protocolOnlyKey.destinationIpv4 ∈ l.victimsWithdrawRequested then
    ({ action := .withdrawInProgress }, l)
  else
    let (covered, existing) := countPortRules protocolOnlyKey l.rules.keys 0
    if covered then ({ action := .protocolOnlyCovers, existingPortRuleCount := existing }, l)
    else
      let unique := l.uniqueNewPortRules protocolOnlyKey portRuleRequests
      let plan : GobgpFlowspecRefreshProtocolPlan :=
        { existingPortRuleCount := existing, newPortRuleCount := unique.size }
      if unique.size = 0 then ({ plan with action := .noNewPortRules }, l)
      else if existing + unique.size > maxPortRules.toNat then
        ({ plan with action := .escalateProtocolOnly, announceRequests := [protocolOnlyRequest] },
          { l with
            rules := l.rules.insertIfNew protocolOnlyKey
              (announcingRule protocolOnlyRequest.flowSpecRule) })
      else
        ({ plan with action := .addPortRules, announceRequests := unique.toList.map (·.2) },
          { l with rules := l.announceAll unique })

/-- `begin_protocol_only_escalation_cleanup`: once the rule for the whole
protocol is installed, the port rules it covers are withdrawn. -/
def beginProtocolOnlyEscalationCleanup (l : GobgpFlowspecLifecycle)
    (protocolOnlyRuleKey : GobgpFlowspecRuleKey) :
    List GobgpFlowspecWithdrawRequest × GobgpFlowspecLifecycle :=
  match l.rules[protocolOnlyRuleKey]? with
  | none => ([], l)
  | some ruleState =>
      if ruleState.state ≠ .installed
          ∨ protocolOnlyRuleKey.destinationIpv4 ∈ l.victimsWithdrawRequested then ([], l)
      else
        let covered := GobgpFlowspecRuleKey.isPortRule protocolOnlyRuleKey.destinationIpv4
          protocolOnlyRuleKey.protocol
        (l.withdrawRequestsFor covered, { l with rules := l.withdrawMatching covered })

/-! ### Specifications: fence and reservations -/

variable {l : GobgpFlowspecLifecycle} {u v : UInt32} {k k' : GobgpFlowspecRuleKey}

/-- A victim has rules if some rule is stored for its address. -/
theorem victimHasRulesLocked_iff :
    l.victimHasRulesLocked v = true ↔
      ∃ k : GobgpFlowspecRuleKey, k.destinationIpv4 = v ∧ k ∈ l.rules := by
  simp only [victimHasRulesLocked, List.any_eq_true, ExtTreeMap.mem_keys, beq_iff_eq]
  constructor
  · rintro ⟨k, hk, hv⟩
    exact ⟨k, hv, hk⟩
  · rintro ⟨k, hv, hk⟩
    exact ⟨k, hk, hv⟩

/-- Lifting the fence leaves the rules alone. -/
@[simp] theorem clear_rules :
    (l.clearWithdrawFenceIfFinishedLocked v).rules = l.rules := by
  unfold clearWithdrawFenceIfFinishedLocked
  split <;> rfl

@[simp] theorem clear_victimsRefreshInProgress :
    (l.clearWithdrawFenceIfFinishedLocked v).victimsRefreshInProgress
      = l.victimsRefreshInProgress := by
  unfold clearWithdrawFenceIfFinishedLocked
  split <;> rfl

/-- The fence after a check: only that of `v` can fall, and only when neither a
rule nor a reservation of `v` is left. -/
theorem mem_clear :
    u ∈ (l.clearWithdrawFenceIfFinishedLocked v).victimsWithdrawRequested ↔
      u ∈ l.victimsWithdrawRequested ∧
        (u = v → l.victimHasRulesLocked v = true ∨ v ∈ l.victimsRefreshInProgress) := by
  unfold clearWithdrawFenceIfFinishedLocked
  split
  · rename_i h
    exact ⟨fun hu => ⟨hu, fun _ => h⟩, And.left⟩
  · rename_i h
    simp only [Finset.mem_erase]
    constructor
    · rintro ⟨hne, hu⟩
      exact ⟨hu, fun he => absurd he hne⟩
    · rintro ⟨hu, hv⟩
      exact ⟨fun he => h (hv he), hu⟩

/-- A check leaves the fence of every other victim alone. -/
theorem mem_clear_of_ne (h : u ≠ v) :
    u ∈ (l.clearWithdrawFenceIfFinishedLocked v).victimsWithdrawRequested ↔
      u ∈ l.victimsWithdrawRequested := by
  rw [mem_clear]
  exact ⟨And.left, fun hu => ⟨hu, fun he => absurd he h⟩⟩

/-- The end of a capture leaves the rules alone. -/
@[simp] theorem completeRefreshCapture_rules :
    (l.completeRefreshCapture v).rules = l.rules := rfl

@[simp] theorem completeRefreshCapture_victimsWithdrawRequested :
    (l.completeRefreshCapture v).victimsWithdrawRequested = l.victimsWithdrawRequested := rfl

@[simp] theorem mem_completeRefreshCapture :
    u ∈ (l.completeRefreshCapture v).victimsRefreshInProgress ↔
      u ≠ v ∧ u ∈ l.victimsRefreshInProgress :=
  Finset.mem_erase

/-- So does the end of a capture that may lift the fence. -/
@[simp] theorem finishRefreshCapture_rules :
    (l.finishRefreshCapture v).rules = l.rules := by
  simp [finishRefreshCapture]

/-- Only the capture of the victim itself ends. -/
@[simp] theorem mem_finishRefreshCapture :
    u ∈ (l.finishRefreshCapture v).victimsRefreshInProgress ↔
      u ≠ v ∧ u ∈ l.victimsRefreshInProgress := by
  simp [finishRefreshCapture]

/-- Erasing a rule erases that key alone. -/
@[simp] theorem eraseRule_rules : (l.eraseRule k).rules = l.rules.erase k := by
  simp [eraseRule]

@[simp] theorem eraseRule_victimsRefreshInProgress :
    (l.eraseRule k).victimsRefreshInProgress = l.victimsRefreshInProgress := by
  simp [eraseRule]

/-! ### Specifications: what each operation does to the rules -/

/-- A reservation is refused and changes nothing, or is made for an unfenced
victim at a free key. -/
theorem reserveRule_cases (l : GobgpFlowspecLifecycle) (k : GobgpFlowspecRuleKey)
    (r : FlowSpecRule) :
    l.reserveRule k r = (false, l) ∨
      (k.destinationIpv4 ∉ l.victimsWithdrawRequested ∧ l.rules[k]? = none ∧
        l.reserveRule k r
          = (true, { l with rules := l.rules.insertIfNew k (announcingRule r) })) := by
  unfold reserveRule
  by_cases hf : k.destinationIpv4 ∈ l.victimsWithdrawRequested
  · exact .inl (by simp [hf])
  by_cases hk : (l.rules[k]?).isSome
  · exact .inl (by simp [hf, hk])
  · exact .inr ⟨hf, by simpa using hk, by simp [hf, hk]⟩

/-- A capture is refused and nothing changes, or it starts for a victim without fence and without
capture. -/
theorem beginRefreshCapture_cases (l : GobgpFlowspecLifecycle) (v : UInt32) :
    l.beginRefreshCapture v = (false, l) ∨
      (v ∉ l.victimsWithdrawRequested ∧ v ∉ l.victimsRefreshInProgress ∧
        l.beginRefreshCapture v = (true, { l with
          victimsRefreshInProgress := insert v l.victimsRefreshInProgress })) := by
  unfold beginRefreshCapture
  by_cases h : v ∈ l.victimsWithdrawRequested ∨ v ∈ l.victimsRefreshInProgress
  · exact .inl (if_pos h)
  · have h' := not_or.mp h
    exact .inr ⟨h'.1, h'.2, if_neg h⟩

/-- A failed AddPath erases the rule if it awaits its path, and does nothing otherwise. -/
theorem failAnnounce_cases (l : GobgpFlowspecLifecycle) (k : GobgpFlowspecRuleKey) :
    (l.failAnnounce k = l ∧ ∀ s, l.rules[k]? = some s → ¬ s.awaitsPath) ∨
      ∃ s, l.rules[k]? = some s ∧ s.awaitsPath ∧ l.failAnnounce k = l.eraseRule k := by
  unfold failAnnounce
  rcases hk : l.rules[k]? with - | s
  · exact .inl ⟨rfl, by simp⟩
  · by_cases hs : s.awaitsPath
    · exact .inr ⟨s, rfl, hs, if_pos hs⟩
    · refine .inl ⟨if_neg hs, ?_⟩
      rintro s' ⟨⟩
      exact hs

/-- What an answered AddPath may do, with the guard of each branch. -/
theorem completeAnnounce_cases (l : GobgpFlowspecLifecycle) (k : GobgpFlowspecRuleKey)
    (uuid : ByteString) :
    (l.completeAnnounce k uuid = (.ignored, l) ∧
        (uuid = [] ∨ ∀ s, l.rules[k]? = some s → ¬ s.awaitsPath)) ∨
      (∃ s, l.rules[k]? = some s ∧ uuid ≠ [] ∧ s.state = .announcing ∧
        l.completeAnnounce k uuid = (.installed, { l with
          rules := l.rules.insert k { s with addPathUuid := uuid, state := .installed } })) ∨
      (∃ s, l.rules[k]? = some s ∧ uuid ≠ [] ∧ s.state = .withdrawRequested ∧
        s.addPathUuid = [] ∧
        l.completeAnnounce k uuid = (.withdrawRequired, { l with
          rules := l.rules.insert k { s with addPathUuid := uuid, state := .withdrawing } })) := by
  unfold completeAnnounce
  rcases hk : l.rules[k]? with - | s
  · exact .inl ⟨rfl, .inr (by simp)⟩
  by_cases hu : uuid = []
  · exact .inl ⟨by simp [hu], .inl hu⟩
  by_cases ha : s.state = .announcing
  · exact .inr (.inl ⟨s, rfl, hu, ha, by simp [hu, ha]⟩)
  by_cases hw : s.state = .withdrawRequested ∧ s.addPathUuid = []
  · exact .inr (.inr ⟨s, rfl, hu, hw.1, hw.2, by simp [hu, hw]⟩)
  · refine .inl ⟨by simp only [if_neg hu, if_neg ha, if_neg hw], .inr ?_⟩
    rintro s' ⟨⟩ hs
    exact hs.elim ha hw

/-- What an answered DeletePath may do, with the guard of each branch. -/
theorem completeWithdraw_cases (l : GobgpFlowspecLifecycle) (k : GobgpFlowspecRuleKey)
    (uuid : ByteString) (success : Bool) :
    (l.completeWithdraw k uuid success = (.ignored, l) ∧
        ∀ s, l.rules[k]? = some s → ¬ (s.state = .withdrawing ∧ s.addPathUuid = uuid)) ∨
      ∃ s, l.rules[k]? = some s ∧ s.state = .withdrawing ∧ s.addPathUuid = uuid ∧
        ((success = true ∧ l.completeWithdraw k uuid success = (.erased, l.eraseRule k)) ∨
          (success = false ∧ l.completeWithdraw k uuid success = (.retryPending, { l with
            rules := l.rules.insert k { s with state := .withdrawRequested } }))) := by
  unfold completeWithdraw
  rcases hk : l.rules[k]? with - | s
  · exact .inl ⟨rfl, by simp⟩
  by_cases hs : s.state = .withdrawing ∧ s.addPathUuid = uuid
  · refine .inr ⟨s, rfl, hs.1, hs.2, ?_⟩
    cases success <;> simp [hs]
  · refine .inl ⟨if_pos (by tauto), ?_⟩
    rintro s' ⟨⟩
    exact hs

/-- The loop of a withdrawal, seen at one key. -/
theorem withdrawMatching_getElem? (p : GobgpFlowspecRuleKey → Bool) :
    (l.withdrawMatching p)[k]?
      = (l.rules[k]?).map fun s => if p k then s.startWithdraw.1 else s :=
  ExtTreeMap.getElem?_map

/-- A withdrawal changes states, it neither takes nor adds keys. -/
@[simp] theorem mem_withdrawMatching (p : GobgpFlowspecRuleKey → Bool) :
    k ∈ l.withdrawMatching p ↔ k ∈ l.rules :=
  ExtTreeMap.mem_map

/-- An UNBAN withdraws all rules of its victim. -/
theorem beginWithdrawForVictim_rules :
    (l.beginWithdrawForVictim v).2.rules = l.withdrawMatching (·.destinationIpv4 == v) := by
  simp [beginWithdrawForVictim]

theorem beginWithdrawForVictim_victimsRefreshInProgress :
    (l.beginWithdrawForVictim v).2.victimsRefreshInProgress = l.victimsRefreshInProgress := by
  simp [beginWithdrawForVictim]

/-- An UNBAN sets the fence if there is something left to wait for. -/
theorem mem_beginWithdrawForVictim :
    u ∈ (l.beginWithdrawForVictim v).2.victimsWithdrawRequested ↔
      if u = v then l.victimHasRulesLocked v = true ∨ v ∈ l.victimsRefreshInProgress
      else u ∈ l.victimsWithdrawRequested := by
  have hrules : ∀ f, ({ l with
      victimsWithdrawRequested := f,
      rules := l.withdrawMatching (·.destinationIpv4 == v) } :
        GobgpFlowspecLifecycle).victimHasRulesLocked v = l.victimHasRulesLocked v := by
    intro f
    rw [Bool.eq_iff_iff, victimHasRulesLocked_iff, victimHasRulesLocked_iff]
    simp
  simp only [beginWithdrawForVictim, mem_clear, hrules, Finset.mem_insert]
  split
  · rename_i h
    subst h
    simp
  · rename_i h
    simp [h]

/-- The cleanup does nothing, or withdraws the port rules under an installed rule of the protocol.
-/
theorem beginProtocolOnlyEscalationCleanup_cases (l : GobgpFlowspecLifecycle)
    (k : GobgpFlowspecRuleKey) :
    l.beginProtocolOnlyEscalationCleanup k = ([], l) ∨
      ∃ s, l.rules[k]? = some s ∧ s.state = .installed ∧
        k.destinationIpv4 ∉ l.victimsWithdrawRequested ∧
        l.beginProtocolOnlyEscalationCleanup k
          = (l.withdrawRequestsFor
              (GobgpFlowspecRuleKey.isPortRule k.destinationIpv4 k.protocol),
            { l with
              rules := l.withdrawMatching
                (GobgpFlowspecRuleKey.isPortRule k.destinationIpv4 k.protocol) }) := by
  unfold beginProtocolOnlyEscalationCleanup
  rcases hk : l.rules[k]? with - | s
  · exact .inl rfl
  by_cases h : s.state ≠ .installed ∨ k.destinationIpv4 ∈ l.victimsWithdrawRequested
  · exact .inl (if_pos h)
  · obtain ⟨hs, hf⟩ := not_or.mp h
    exact .inr ⟨s, rfl, not_not.mp hs, hf, if_neg h⟩

/-! ### Specifications: the refresh plan -/

/-- The number of port rules stored for `(v, p)`, in whatever state. -/
def portRuleCount (l : GobgpFlowspecLifecycle) (v : UInt32) (p : IpProtocol) : ℕ :=
  l.rules.keys.countP (GobgpFlowspecRuleKey.isPortRule v p)

/-- A rule for the whole protocol `p` of `v` is stored, in whatever state. -/
def protocolCovered (l : GobgpFlowspecLifecycle) (v : UInt32) (p : IpProtocol) : Prop :=
  ∃ k, GobgpFlowspecRuleKey.isProtocolOnly v p k = true ∧ k ∈ l.rules

/-- The count stops early exactly if a rule of the whole protocol is stored. -/
theorem countPortRules_fst (pk : GobgpFlowspecRuleKey) (ks : List GobgpFlowspecRuleKey) (n : ℕ) :
    (countPortRules pk ks n).1
      = ks.any (GobgpFlowspecRuleKey.isProtocolOnly pk.destinationIpv4 pk.protocol) := by
  induction ks generalizing n with
  | nil => rfl
  | cons k ks ih =>
      simp only [countPortRules, List.any_cons, GobgpFlowspecRuleKey.isProtocolOnly]
      split
      · rename_i h
        rw [ih]
        rcases h with h | h | h <;> simp_all [GobgpFlowspecRuleKey.isProtocolOnly]
      · rename_i h
        split
        · simp_all
        · rw [ih]
          simp_all

/-- Otherwise it has counted the port rules of the protocol. -/
theorem countPortRules_snd (pk : GobgpFlowspecRuleKey) (ks : List GobgpFlowspecRuleKey) (n : ℕ)
    (h : (countPortRules pk ks n).1 = false) :
    (countPortRules pk ks n).2
      = n + ks.countP (GobgpFlowspecRuleKey.isPortRule pk.destinationIpv4 pk.protocol) := by
  induction ks generalizing n with
  | nil => rfl
  | cons k ks ih =>
      rw [List.countP_cons]
      simp only [countPortRules] at h ⊢
      split at h
      · rename_i hk
        rw [if_pos hk, ih _ h]
        have : GobgpFlowspecRuleKey.isPortRule pk.destinationIpv4 pk.protocol k = false := by
          rcases hk with hk | hk | hk <;> simp_all [GobgpFlowspecRuleKey.isPortRule]
        simp [this]
      · rename_i hk
        split at h
        · cases h
        · rename_i hport
          rw [if_neg hk, if_neg hport, ih _ h]
          have : GobgpFlowspecRuleKey.isPortRule pk.destinationIpv4 pk.protocol k = true := by
            simp_all [GobgpFlowspecRuleKey.isPortRule]
          simp [this]
          omega

theorem countPortRules_eq_true_iff (pk : GobgpFlowspecRuleKey) :
    (countPortRules pk l.rules.keys 0).1 = true
      ↔ l.protocolCovered pk.destinationIpv4 pk.protocol := by
  rw [countPortRules_fst, List.any_eq_true]
  simp only [protocolCovered, ExtTreeMap.mem_keys, and_comm]

/-- A request that the second loop keeps is for a free port key of this victim
and protocol. -/
theorem uniqueNewPortRules_spec {pk : GobgpFlowspecRuleKey}
    {reqs : List GobgpFlowspecAnnounceRequest} {r : GobgpFlowspecAnnounceRequest}
    (h : (l.uniqueNewPortRules pk reqs)[k]? = some r) :
    r.ruleKey = k ∧ r ∈ reqs ∧ k.isPortRule pk.destinationIpv4 pk.protocol = true ∧
      l.rules[k]? = none := by
  simp only [uniqueNewPortRules, OrderedMap.insertAllIfNew_getElem?,
    ExtTreeMap.getElem?_empty, Option.none_or, Option.map_eq_some_iff] at h
  obtain ⟨⟨k', r'⟩, hf, rfl⟩ := h
  obtain ⟨r', hr', he⟩ := List.mem_map.mp (List.mem_of_find?_eq_some hf)
  obtain rfl : k' = k := by simpa using List.find?_some hf
  obtain ⟨rfl, rfl⟩ := Prod.mk.inj he
  obtain ⟨hmem, hnew⟩ := List.mem_filter.mp hr'
  obtain ⟨hport, hfree⟩ := Bool.and_eq_true_iff.mp hnew
  exact ⟨rfl, hmem, hport, by simpa using hfree⟩

/-- Announced keys that are stored already keep their state. -/
theorem announceAll_getElem?
    (requests : ExtTreeMap GobgpFlowspecRuleKey GobgpFlowspecAnnounceRequest) :
    (l.announceAll requests)[k]?
      = (l.rules[k]?).or ((requests[k]?).map fun r : GobgpFlowspecAnnounceRequest =>
          announcingRule r.flowSpecRule) := by
  rw [announceAll, OrderedMap.insertAllIfNew_toList_getElem?, ExtTreeMap.getElem?_map]

theorem mem_announceAll
    {requests : ExtTreeMap GobgpFlowspecRuleKey GobgpFlowspecAnnounceRequest} :
    k ∈ l.announceAll requests ↔ k ∈ l.rules ∨ k ∈ requests := by
  simp only [← ExtTreeMap.isSome_getElem?_iff_mem, announceAll_getElem?, Option.isSome_or,
    Option.isSome_map, Bool.or_eq_true]

/-- A refresh plan announces nothing and changes nothing, or reserves the rule
for the whole protocol, or reserves the new port rules within the limit. -/
theorem beginRefreshProtocolRules_cases (l : GobgpFlowspecLifecycle)
    (po : GobgpFlowspecAnnounceRequest) (reqs : List GobgpFlowspecAnnounceRequest)
    (max : UInt64) :
    (∃ plan, plan.announceRequests = [] ∧ plan.action ≠ .escalateProtocolOnly ∧
        l.beginRefreshProtocolRules po reqs max = (plan, l)) ∨
      (po.ruleKey.destinationIpv4 ∉ l.victimsWithdrawRequested ∧
        ¬ l.protocolCovered po.ruleKey.destinationIpv4 po.ruleKey.protocol ∧
        ∃ plan, l.uniqueNewPortRules po.ruleKey reqs ≠ ∅ ∧
          ((plan.action = .escalateProtocolOnly ∧ plan.announceRequests = [po] ∧
              l.beginRefreshProtocolRules po reqs max = (plan, { l with
                rules := l.rules.insertIfNew po.ruleKey (announcingRule po.flowSpecRule) })) ∨
            (plan.action = .addPortRules ∧
              plan.announceRequests
                = (l.uniqueNewPortRules po.ruleKey reqs).toList.map (·.2) ∧
              l.portRuleCount po.ruleKey.destinationIpv4 po.ruleKey.protocol
                + (l.uniqueNewPortRules po.ruleKey reqs).size ≤ max.toNat ∧
              l.beginRefreshProtocolRules po reqs max = (plan, { l with
                rules := l.announceAll (l.uniqueNewPortRules po.ruleKey reqs) })))) := by
  unfold beginRefreshProtocolRules
  by_cases hf : po.ruleKey.destinationIpv4 ∈ l.victimsWithdrawRequested
  · exact .inl ⟨_, rfl, by simp, if_pos hf⟩
  by_cases hc : (countPortRules po.ruleKey l.rules.keys 0).1 = true
  · refine .inl ⟨_, ?_, ?_, (if_neg hf).trans (if_pos hc)⟩ <;> simp
  have hcov := mt (countPortRules_eq_true_iff po.ruleKey).mpr hc
  have hcount := countPortRules_snd po.ruleKey l.rules.keys 0 (by simpa using hc)
  rw [Nat.zero_add] at hcount
  by_cases hnew : (l.uniqueNewPortRules po.ruleKey reqs).size = 0
  · refine .inl ⟨_, ?_, ?_, (if_neg hf).trans ((if_neg hc).trans (if_pos hnew))⟩ <;> simp
  have hne : l.uniqueNewPortRules po.ruleKey reqs ≠ ∅ := by
    intro h
    exact hnew (by simp [h])
  by_cases hmax : (countPortRules po.ruleKey l.rules.keys 0).2
      + (l.uniqueNewPortRules po.ruleKey reqs).size > max.toNat
  · refine .inr ⟨hf, hcov, _, hne, .inl ⟨?_, ?_,
      (if_neg hf).trans ((if_neg hc).trans ((if_neg hnew).trans (if_pos hmax)))⟩⟩ <;> simp
  · refine .inr ⟨hf, hcov, _, hne, .inr ⟨?_, ?_, ?_,
      (if_neg hf).trans ((if_neg hc).trans ((if_neg hnew).trans (if_neg hmax)))⟩⟩
    · simp
    · simp
    · rw [hcount] at hmax
      simpa [portRuleCount] using hmax

end GobgpFlowspecLifecycle

end FastNetMon
