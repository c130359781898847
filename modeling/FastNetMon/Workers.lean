/-
FastNetMon/Workers.lean

The threads that announce and withdraw FlowSpec rules (`gobgp_action.cpp`),
over the lifecycle and the paths that GoBGP holds.

A call of `gobgp_ban_manage` or `gobgp_flowspec_refresh_manage_ipv4` runs in a
thread of its own.  Such a thread is a list of instructions, each of them one
call of the lifecycle (a critical section of its mutex) or one RPC; logging
and notifications are left out.  What a worker does next depends on what the
call returned, so every instruction expands to the instructions that follow
from its result.

Of GoBGP the following is assumed.  A successful AddPath installs one path
under a UUID that is not empty and was never returned before, a successful
DeletePath removes the path of that UUID and no other, and a failed call
changes nothing.  Which calls fail is up to the environment.

`flowspecMachine` is the pool of all workers: BAN, UNBAN and refresh workers
and the two capture functions of `gobgp_action.hpp`, any number of them,
started at any time with any arguments.
-/
import Mathlib
import FastNetMon.LifecycleInvariant
import FastNetMon.Threads

namespace FastNetMon

/-! ### GoBGP -/

/-- What an RPC of `GrpcClient` returns; the UUID is that of an AddPath. -/
inductive RpcReply
  | ok (uuid : ByteString)
  | failed
deriving DecidableEq, Repr

/-- A FlowSpec path in GoBGP. -/
structure GobgpPath where
  uuid : ByteString
  flowSpecRule : FlowSpecRule
deriving DecidableEq, Repr

/-- The lifecycle together with the paths that GoBGP holds; `issuedUuids` is
the history of the UUIDs it has returned. -/
@[ext] structure FlowspecState where
  lifecycle : GobgpFlowspecLifecycle := {}
  paths : Finset GobgpPath := ∅
  issuedUuids : Finset ByteString := ∅

/-- `AnnounceFlowSpecIPv4`, as far as GoBGP is concerned. -/
def FlowspecState.announceFlowSpecIPv4 (s : FlowspecState) (flowSpecRule : FlowSpecRule) :
    RpcReply → Option FlowspecState
  | .failed => some s
  | .ok uuid =>
      if uuid = [] ∨ uuid ∈ s.issuedUuids then none
      else some { s with
        paths := insert ⟨uuid, flowSpecRule⟩ s.paths
        issuedUuids := insert uuid s.issuedUuids }

/-- `WithdrawFlowSpecIPv4`, as far as GoBGP is concerned. -/
def FlowspecState.withdrawFlowSpecIPv4 (s : FlowspecState) (uuid : ByteString) :
    RpcReply → FlowspecState
  | .failed => s
  | .ok _ => { s with paths := s.paths.filter (·.uuid ≠ uuid) }

/-! ### Configuration and classifier results -/

/-- The FlowSpec options that the workers read.  An option that does not parse
is `none`: this is what the `get_configured_gobgp_flowspec_*` functions return. -/
structure GobgpFlowspecConfiguration where
  gobgp : Bool := true
  gobgpFlowspec : Bool := true
  gobgpFlowspecRuleRefresh : Bool := true
  flowspecAction : Option BgpFlowSpecActionType := some .discard
  redirectIpv4 : Option UInt32 := none
  redirectRt : Option (UInt32 × UInt32) := none
  maxPortRulesPerProtocol : UInt64 := 4
deriving DecidableEq, Repr

/-- The action of every announced rule with its parameters. -/
structure ConfiguredFlowspecAction where
  actionType : BgpFlowSpecActionType
  redirectIpv4 : UInt32
  redirectRtAs : UInt32
  redirectRtValue : UInt32
deriving DecidableEq, Repr

/-- The checks with which every announcing worker starts: only the parameters
of the configured action have to be valid. -/
def GobgpFlowspecConfiguration.configuredAction (config : GobgpFlowspecConfiguration) :
    Option ConfiguredFlowspecAction := do
  let actionType ← config.flowspecAction
  let redirectIpv4 ← if actionType = .redirect then config.redirectIpv4 else some 0
  let redirectRt ← if actionType = .redirectVrf then config.redirectRt else some (0, 0)
  return ⟨actionType, redirectIpv4, redirectRt.1, redirectRt.2⟩

/-- The rule for an attack and the request that announces it, if it has a key. -/
def ConfiguredFlowspecAction.announceRequest (action : ConfiguredFlowspecAction)
    (clientIp : UInt32) (currentAttack : AttackDetails) (destinationPort : Option UInt16) :
    Option GobgpFlowspecAnnounceRequest :=
  let flowSpecRule := buildGobgpFlowspecIpv4Rule clientIp currentAttack action.redirectIpv4
    destinationPort action.actionType action.redirectRtAs action.redirectRtValue
  (buildGobgpFlowspecRuleKey flowSpecRule).map fun ruleKey => ⟨ruleKey, flowSpecRule⟩

/-- `gobgp_flowspec_refresh_protocol_result_t`, the part that the refresh worker
acts on.  The classifier finds significant ports for TCP and UDP only. -/
structure GobgpFlowspecRefreshProtocolResult where
  protocol : IpProtocol
  significantPorts : List (Option UInt16)
  ports_protocol : significantPorts ≠ [] → protocol = .TCP ∨ protocol = .UDP
deriving DecidableEq

/-! ### Instructions -/

/-- One call of the lifecycle, one RPC, or the decision to start a refresh. -/
inductive FlowspecInstr
  | beginAnnounce (request : GobgpFlowspecAnnounceRequest)
  | beginRefreshAnnounce (request : GobgpFlowspecAnnounceRequest)
  | beginRefreshProtocolRules (protocolOnlyRequest : GobgpFlowspecAnnounceRequest)
      (portRuleRequests : List GobgpFlowspecAnnounceRequest) (maxPortRules : UInt64)
  | addPath (request : GobgpFlowspecAnnounceRequest) (cleanupRedundantPortsAfterSuccess : Bool)
  | failAnnounce (ruleKey : GobgpFlowspecRuleKey)
  | completeAnnounce (request : GobgpFlowspecAnnounceRequest) (addPathUuid : ByteString)
      (cleanupRedundantPortsAfterSuccess : Bool)
  | beginProtocolOnlyEscalationCleanup (ruleKey : GobgpFlowspecRuleKey)
  | beginWithdrawForVictim (clientIp : UInt32)
  | deletePath (withdrawRequest : GobgpFlowspecWithdrawRequest)
  | completeWithdraw (withdrawRequest : GobgpFlowspecWithdrawRequest) (withdrawResult : Bool)
  | beginRefreshCapture (clientIp : UInt32)
  | finishRefreshCapture (clientIp : UInt32)
  | refreshManage (clientIp : UInt32)
      (protocolResults : List GobgpFlowspecRefreshProtocolResult)
deriving DecidableEq

namespace FlowspecInstr

/-- The reply to an AddPath is processed: `announce_gobgp_flowspec_ipv4_rule`
treats an empty UUID as a failure. -/
def afterAddPath (request : GobgpFlowspecAnnounceRequest) (cleanup : Bool) :
    RpcReply → FlowspecInstr
  | .failed => .failAnnounce request.ruleKey
  | .ok uuid =>
      if uuid.isEmpty then .failAnnounce request.ruleKey
      else .completeAnnounce request uuid cleanup

/-- What `announce_gobgp_flowspec_ipv4_rule` does about a completion.  The
narrower rules are withdrawn only once GoBGP has confirmed the covering path. -/
def afterCompleteAnnounce (request : GobgpFlowspecAnnounceRequest) (uuid : ByteString)
    (cleanup : Bool) : GobgpFlowspecAnnounceCompletion → List FlowspecInstr
  | .installed =>
      if cleanup then [.beginProtocolOnlyEscalationCleanup request.ruleKey] else []
  | .withdrawRequired => [.deletePath ⟨request.ruleKey, request.flowSpecRule, uuid⟩]
  | .ignored => []

/-- The announcements of a refresh plan. -/
def announcePlan (plan : GobgpFlowspecRefreshProtocolPlan) : List FlowspecInstr :=
  plan.announceRequests.map fun request =>
    .addPath request (plan.action = .escalateProtocolOnly)

end FlowspecInstr

/-- `gobgp_ban_manage_flowspec_ipv4`. -/
def gobgpBanManageFlowspecIpv4 (config : GobgpFlowspecConfiguration) (clientIp : UInt32)
    (isWithdrawal : Bool) (currentAttack : AttackDetails)
    (selectedDestinationPort : Option UInt16) : List FlowspecInstr :=
  if isWithdrawal then [.beginWithdrawForVictim clientIp]
  else
    match config.configuredAction with
    | none => []
    | some action =>
        match action.announceRequest clientIp currentAttack selectedDestinationPort with
        | none => []
        | some request => [.beginAnnounce request]

/-- `gobgp_ban_manage_ipv4`: with FlowSpec the unicast announces are not made. -/
def gobgpBanManageIpv4 (config : GobgpFlowspecConfiguration) (clientIp : UInt32)
    (isWithdrawal : Bool) (currentAttack : AttackDetails)
    (selectedDestinationPort : Option UInt16) : List FlowspecInstr :=
  if config.gobgpFlowspec then
    gobgpBanManageFlowspecIpv4 config clientIp isWithdrawal currentAttack selectedDestinationPort
  else []

/-- The attack that a refresh announces for: incoming, of the given protocol. -/
def refreshAttack (protocol : IpProtocol) : AttackDetails :=
  { attackDirection := .incoming, attackProtocol := protocol.asNumber.toUInt32 }

/-- One turn of the loop over the protocols of a refresh: ICMP has no ports. -/
def refreshProtocol (config : GobgpFlowspecConfiguration) (action : ConfiguredFlowspecAction)
    (clientIp : UInt32) (result : GobgpFlowspecRefreshProtocolResult) : List FlowspecInstr :=
  match action.announceRequest clientIp (refreshAttack result.protocol) none with
  | none => []
  | some protocolOnlyRequest =>
      if result.protocol = .ICMP then [.beginRefreshAnnounce protocolOnlyRequest]
      else
        let portRuleRequests := result.significantPorts.filterMap fun port =>
          action.announceRequest clientIp (refreshAttack result.protocol) port
        [.beginRefreshProtocolRules protocolOnlyRequest portRuleRequests
          config.maxPortRulesPerProtocol]

/-- The thread that `gobgp_flowspec_refresh_manage_ipv4` detaches: every path
through it ends in `finish_refresh_capture`. -/
def refreshThread (config : GobgpFlowspecConfiguration) (clientIp : UInt32)
    (protocolResults : List GobgpFlowspecRefreshProtocolResult) : List FlowspecInstr :=
  match config.configuredAction with
  | none => [.finishRefreshCapture clientIp]
  | some action =>
      protocolResults.flatMap (refreshProtocol config action clientIp)
        ++ [.finishRefreshCapture clientIp]

/-- `gobgp_flowspec_refresh_manage_ipv4`: what the caller does itself, and the
threads it detaches. -/
def gobgpFlowspecRefreshManageIpv4 (config : GobgpFlowspecConfiguration) (clientIp : UInt32)
    (protocolResults : List GobgpFlowspecRefreshProtocolResult) :
    List FlowspecInstr × List (List FlowspecInstr) :=
  if !config.gobgp || !config.gobgpFlowspec || !config.gobgpFlowspecRuleRefresh
      || protocolResults.isEmpty then
    ([.finishRefreshCapture clientIp], [])
  else ([], [refreshThread config clientIp protocolResults])

/-! ### The pool of workers -/

/-- One instruction: a call of the lifecycle or an RPC, and what the worker
does about its result. -/
def FlowspecInstr.exec (config : GobgpFlowspecConfiguration) (i : FlowspecInstr)
    (reply : RpcReply) (s : FlowspecState) :
    Option (FlowspecState × List FlowspecInstr × List (List FlowspecInstr)) :=
  let l := s.lifecycle
  match i with
  | .beginAnnounce request =>
      let (accepted, l') := l.beginAnnounce request.ruleKey request.flowSpecRule
      some ({ s with lifecycle := l' }, if accepted then [.addPath request false] else [], [])
  | .beginRefreshAnnounce request =>
      let (accepted, l') := l.beginRefreshAnnounce request.ruleKey request.flowSpecRule
      some ({ s with lifecycle := l' }, if accepted then [.addPath request false] else [], [])
  | .beginRefreshProtocolRules protocolOnlyRequest portRuleRequests maxPortRules =>
      let (plan, l') :=
        l.beginRefreshProtocolRules protocolOnlyRequest portRuleRequests maxPortRules
      some ({ s with lifecycle := l' }, announcePlan plan, [])
  | .addPath request cleanup =>
      (s.announceFlowSpecIPv4 request.flowSpecRule reply).map fun s' =>
        (s', [afterAddPath request cleanup reply], [])
  | .failAnnounce ruleKey => some ({ s with lifecycle := l.failAnnounce ruleKey }, [], [])
  | .completeAnnounce request uuid cleanup =>
      let (completion, l') := l.completeAnnounce request.ruleKey uuid
      some ({ s with lifecycle := l' },
        afterCompleteAnnounce request uuid cleanup completion, [])
  | .beginProtocolOnlyEscalationCleanup ruleKey =>
      let (requests, l') := l.beginProtocolOnlyEscalationCleanup ruleKey
      some ({ s with lifecycle := l' }, requests.map .deletePath, [])
  | .beginWithdrawForVictim clientIp =>
      let (result, l') := l.beginWithdrawForVictim clientIp
      some ({ s with lifecycle := l' }, result.withdrawRequests.map .deletePath, [])
  | .deletePath request =>
      some (s.withdrawFlowSpecIPv4 request.addPathUuid reply,
        [.completeWithdraw request (reply ≠ .failed)], [])
  | .completeWithdraw request withdrawResult =>
      let (_, l') := l.completeWithdraw request.ruleKey request.addPathUuid withdrawResult
      some ({ s with lifecycle := l' }, [], [])
  | .beginRefreshCapture clientIp =>
      some ({ s with lifecycle := (l.beginRefreshCapture clientIp).2 }, [], [])
  | .finishRefreshCapture clientIp =>
      some ({ s with lifecycle := l.finishRefreshCapture clientIp }, [], [])
  | .refreshManage clientIp protocolResults =>
      some (s, gobgpFlowspecRefreshManageIpv4 config clientIp protocolResults)

/-- The functions of `gobgp_action.hpp` that the rest of the program calls. -/
inductive FlowspecJob
  | banManage (clientIp : UInt32) (isWithdrawal : Bool) (currentAttack : AttackDetails)
      (selectedDestinationPort : Option UInt16)
  | refreshManage (clientIp : UInt32)
      (protocolResults : List GobgpFlowspecRefreshProtocolResult)
  | refreshBeginCapture (clientIp : UInt32)
  | refreshCompleteCapture (clientIp : UInt32)

/-- The instructions that a call begins with. -/
def FlowspecJob.program (config : GobgpFlowspecConfiguration) :
    FlowspecJob → List FlowspecInstr
  | .banManage clientIp isWithdrawal currentAttack selectedDestinationPort =>
      gobgpBanManageIpv4 config clientIp isWithdrawal currentAttack selectedDestinationPort
  | .refreshManage clientIp protocolResults => [.refreshManage clientIp protocolResults]
  | .refreshBeginCapture clientIp => [.beginRefreshCapture clientIp]
  | .refreshCompleteCapture clientIp => [.finishRefreshCapture clientIp]

/-- The workers. -/
def flowspecMachine (config : GobgpFlowspecConfiguration) :
    Machine FlowspecState FlowspecInstr RpcReply FlowspecJob where
  program := FlowspecJob.program config
  exec := FlowspecInstr.exec config

/-- Nothing is announced and no worker runs. -/
def flowspecStart : Pool FlowspecState FlowspecInstr := { shared := {}, threads := [] }

/-- `w` is reached by some interleaving of workers, with some replies. -/
def FlowspecReachable (config : GobgpFlowspecConfiguration)
    (w : Pool FlowspecState FlowspecInstr) : Prop :=
  Reaches (flowspecMachine config).step Always flowspecStart w

/-- A run that can be evaluated reaches a state, about which what is decided of
its result holds. -/
theorem exists_reachable_of_runEvents (config : GobgpFlowspecConfiguration)
    {P : Pool FlowspecState FlowspecInstr → Prop}
    (events : List (PoolEvent FlowspecJob RpcReply))
    (h : ∃ w ∈ runEvents (flowspecMachine config).step flowspecStart events, P w) :
    ∃ w, FlowspecReachable config w ∧ P w := by
  obtain ⟨w, hw, hP⟩ := h
  exact ⟨w, ⟨events, runs_iff_runEvents.mpr hw⟩, hP⟩

end FastNetMon
