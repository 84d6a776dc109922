import FirmQuant.Risk.CancelOnly
import FirmQuant.Scheduling.RuntimeStore

/-!
# Risk-reducing controls

`RuntimeControlExecutor` of `application/runtime_control.py`: the process that holds the writer
lease carries out HALT, DISARM, CANCEL_SYSTEM_ORDERS and STOP, and an internal stop for a signal.
A control revokes the arm leases, moves the stored status in legal transitions, and appends one
audit event under an id that is made of its command and its request.
-/

namespace FirmQuant

open Effect

/-- The outcome that reports a sweep. -/
def CancelOnlyResult.outcome (result : CancelOnlyResult) : ControlOutcome :=
  .swept result.cancelCalls result.cancelledOrderIds result.deniedOrderIds result.terminalOrderIds
    result.unknownOrderIds result.modeWriteForbidden

/-- The outside of the control executor. -/
structure ExecutorPorts (B : Type) extends RuntimePorts B where
  /-- `cancel_system_orders` of the cancel-only capability. -/
  cancelSystemOrders : B → Except Failure CancelOnlyResult × B

/-- What a control executor is built with. -/
structure ExecutorConfig where
  mode : Mode
  /-- The generation of the writer lease. -/
  generation : ℕ
  hasBroker : Bool

/-- The blocker of the kill switch. -/
def killSwitch : String := "KILL_SWITCH"

/-- What a DISARMED status keeps of the blockers before it. -/
def keptKillSwitch (status : RuntimeStatus) : Finset String :=
  if killSwitch ∈ status.blockers then {killSwitch} else ∅

namespace RuntimeTables

/-- `_append_audit`: an event whose id is known is not appended again. -/
def appendAuditOnce (row : RuntimeAuditRow) : RuntimeTxn PUnit := fun t =>
  if t.auditEvents.any (·.auditEventId = row.auditEventId) then .ok (⟨⟩, t)
  else appendAudit row t

/-- The insertion of `_append_halt_evidence`. -/
def insertRiskEventOnce (row : RiskEventRow) : RuntimeTxn PUnit := fun t =>
  if t.riskEvents.any (·.riskEventId = row.riskEventId) then .ok (⟨⟩, t)
  else .ok (⟨⟩, { t with riskEvents := t.riskEvents ++ [row] })

end RuntimeTables

namespace RuntimeControl

open Runtime RuntimeTables

variable {B : Type} (p : ExecutorPorts B) (config : ExecutorConfig)

/-- `_revoke_arm`. -/
def revokeArm (time : DateTime) (reason : String) : Runtime B ℕ := do
  assertCurrent p.toRuntimePorts
  inTransaction (revokeArmLeases time reason)

/-- `_save_transition`, if a condition holds. -/
def transitionIf (c : Prop) [Decidable c] (status : RuntimeStatus) (target : RuntimeState)
    (reason : String) (blockers : Finset String) : Runtime B RuntimeStatus :=
  if c then
    saveTransition p.toRuntimePorts config.mode status target reason blockers
      (now p.toRuntimePorts)
  else pure status

/-- The audit event of a control. -/
def controlRow (command : ControlCommand) (identity : ControlIdentity)
    (payload : RuntimeAuditPayload) (time : DateTime) : RuntimeAuditRow :=
  ⟨.control command identity, .runtimeControl, "local-control", payload, time⟩

/-- `_append_halt_evidence`. -/
def appendHaltEvidence (identity : ControlIdentity) (reasonSha256 : Option String)
    (state : RuntimeState) (time : DateTime) : Runtime B PUnit := do
  inTransaction (insertRiskEventOnce ⟨.control identity, .tripped, time⟩)
  inTransaction
    (appendAuditOnce (controlRow .halt identity (.controlHalt identity reasonSha256 state) time))

/-- The status from which a halt starts: `WorkflowReceiptStore(…)` and `load_runtime`. -/
def load : Runtime B RuntimeStatus := do
  assertCurrent p.toRuntimePorts
  loadRuntime p.toRuntimePorts config.mode

/-- The transitions of `_halt`. -/
def haltTransitions (status : RuntimeStatus) : Runtime B RuntimeStatus := do
  let status ← transitionIf p config (status.state = .stopping) status .disarmed
    "stop completed before emergency halt" ∅
  let status ← transitionIf p config (status.state = .disarmed) status .starting
    "local emergency halt control" ∅
  transitionIf p config True status .halted "local emergency halt"
    (insert killSwitch status.blockers)

/-- `_halt`. -/
def halt (identity : ControlIdentity) (reasonSha256 : Option String) :
    Runtime B ControlExecution := do
  let time ← now p.toRuntimePorts
  let revoked ← revokeArm p time "local control halt"
  let status ← load p config
  let status ← haltTransitions p config status
  appendHaltEvidence identity reasonSha256 status.state time
  return ⟨.transitioned .halt revoked status.state, true, false⟩

/-- The transitions of `_disarm`. -/
def disarmTransitions (status : RuntimeStatus) : Runtime B RuntimeStatus :=
  if status.state = .disarmed then pure status
  else do
    let status ← transitionIf p config (status.state ≠ .stopping) status .stopping
      "local disarm requested" status.blockers
    transitionIf p config True status .disarmed "local disarm completed" (keptKillSwitch status)

/-- `_disarm`. -/
def disarm (identity : ControlIdentity) (reasonSha256 : Option String) :
    Runtime B ControlExecution := do
  let time ← now p.toRuntimePorts
  let revoked ← revokeArm p time "local control disarm"
  let status ← load p config
  let status ← disarmTransitions p config status
  let outcome := ControlOutcome.transitioned .disarm revoked status.state
  inTransaction
    (appendAuditOnce (controlRow .disarm identity (.control identity reasonSha256 outcome) time))
  return ⟨outcome, true, false⟩

/-- The sweep of `_cancel`. -/
def sweep : Runtime B CancelOnlyResult :=
  if config.mode ≠ .canary ∧ config.mode ≠ .live then pure .forbidden
  else if config.hasBroker = false then
    throw (.runtimeError "CANCEL_BROKER_SESSION_UNAVAILABLE")
  else do
    let result ← call p.cancelSystemOrders
    modify fun w => { w with cancelCalls := w.cancelCalls + result.cancelCalls }
    return result

/-- `_cancel`. -/
def cancel (identity : ControlIdentity) (reasonSha256 : Option String) :
    Runtime B ControlExecution := do
  let time ← now p.toRuntimePorts
  let result ← sweep p config
  inTransaction (appendAuditOnce
    (controlRow .cancelSystemOrders identity (.control identity reasonSha256 result.outcome) time))
  return ⟨result.outcome, false, false⟩

/-- The transitions of `_stop`. -/
def stopTransitions (status : RuntimeStatus) : Runtime B RuntimeStatus := do
  let status ← transitionIf p config (status.state = .disarmed) status .starting
    "local stop control" ∅
  transitionIf p config (status.state ≠ .stopping) status .stopping "local stop requested"
    status.blockers

/-- `_stop`. -/
def stop (identity : ControlIdentity) (reasonSha256 : Option String) :
    Runtime B ControlExecution := do
  let time ← now p.toRuntimePorts
  let revoked ← revokeArm p time "local control stop"
  let status ← load p config
  let status ← stopTransitions p config status
  modify fun w => { w with stopPending := true }
  let outcome := ControlOutcome.transitioned .stop revoked status.state
  inTransaction
    (appendAuditOnce (controlRow .stop identity (.control identity reasonSha256 outcome) time))
  return ⟨outcome, true, true⟩

/-- The method that carries out a command. -/
def perform (command : ControlCommand) (identity : ControlIdentity)
    (reasonSha256 : Option String) : Runtime B ControlExecution :=
  match command with
  | .halt => halt p config identity reasonSha256
  | .disarm => disarm p config identity reasonSha256
  | .cancelSystemOrders => cancel p config identity reasonSha256
  | .stop => stop p config identity reasonSha256

/-- `execute`. -/
def execute (request : ControlRequest) : Runtime B ControlExecution := do
  assertCurrent p.toRuntimePorts
  perform p config request.command (.request request.requestId) request.reasonSha256

/-- `execute_internal_stop`. -/
def executeInternalStop (source : String) : Runtime B ControlExecution :=
  if canonicalText source = true then
    perform p config .stop (.internalStop source config.generation) none
  else throw (.valueError "internal stop source must be canonical text")

/-- `finalize_stop`. -/
def finalizeStop : Runtime B RuntimeStatus := do
  assertCurrent p.toRuntimePorts
  let status ← load p config
  let status ← transitionIf p config (status.state = .stopping) status .disarmed
    "production stop completed" (keptKillSwitch status)
  modify fun w => { w with stopPending := false }
  return status

end RuntimeControl

end FirmQuant
