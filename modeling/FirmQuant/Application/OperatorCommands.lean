import Mathlib.Data.Finset.Lattice.Basic
import FirmQuant.Application.ControlAudit

/-!
# Operator commands

The commands of `LocalOperatorService` in `application/operations.py` that write the runtime status:
`halt`, `disarm`, `reconcile` and `resume`.  Each acquires the writer lease for itself, so that it
runs while no other process does.
-/

namespace FirmQuant

open Effect

/-- `OperatorReconciliation`. -/
structure OperatorReconciliation where
  reconciliationId : String
  passed : Bool
  blockers : Finset String
  blockers_canonical : ∀ blocker ∈ blockers, canonicalText blocker = true
  passed_iff : passed = true ↔ blockers = ∅

/-- The outside of an operator command. -/
structure OperatorPorts (B : Type) extends RuntimePorts B where
  /-- `WriterLease.acquire`. -/
  acquire : B → Except Failure PUnit × B
  /-- The reconciliation port, and whether its evidence is well formed. -/
  reconciler : B → Except Failure (Option OperatorReconciliation) × B
  /-- The terminal and its confirmation phrase. -/
  confirmation : B → Except Failure PUnit × B
  /-- `os.urandom`. -/
  nonce : B → String × B

/-- What an operator service is built with. -/
structure OperatorConfig where
  /-- The mode of the settings. -/
  fallbackMode : Mode
  hasReconciler : Bool

namespace RuntimeTables

/-- `_runtime_from_row`. -/
def runtimeFromRow (fallbackMode : Mode) (t : RuntimeTables) : Mode × RuntimeStatus :=
  match t.runtimeState with
  | none => (fallbackMode, .initial)
  | some row => (row.mode, row.status)

/-- `_kill_switch_tripped`. -/
def killSwitchTripped (t : RuntimeTables) (status : RuntimeStatus) : Bool :=
  match t.newestRiskEvent with
  | some row => row.code = .tripped
  | none => killSwitch ∈ status.blockers

/-- `INSERT INTO risk_events`. -/
def insertRiskEvent (row : RiskEventRow) : RuntimeTxn PUnit := fun t =>
  if t.riskEvents.any (·.riskEventId = row.riskEventId) then
    .error (.integrityError "risk_events.risk_event_id")
  else .ok (⟨⟩, { t with riskEvents := t.riskEvents ++ [row] })

end RuntimeTables

namespace OperatorCommands

open Runtime RuntimeTables

variable {B : Type} (p : OperatorPorts B) (config : OperatorConfig)

/-- `OperatorCommandDenied`. -/
def denied (reasonCode : String) : Failure := .runtimeError reasonCode

/-- `_event_id`. -/
def eventId (command : OperatorCommand) (time : DateTime) : Runtime B OperatorEventId := do
  let nonce ← call fun b => (.ok (p.nonce b).1, (p.nonce b).2)
  pure ⟨command, time, nonce⟩

/-- `_append_operator_audit`. -/
def appendOperatorAudit (command : OperatorCommand) (payload : RuntimeAuditPayload)
    (time : DateTime) : Runtime B PUnit := do
  assertCurrent p.toRuntimePorts
  let id ← eventId p command time
  inTransaction (appendAudit ⟨.operator id, .operator, "local-cli", payload, time⟩)

/-- `_save_transition`, if a condition holds. -/
def transitionIf (c : Prop) [Decidable c] (mode : Mode) (status : RuntimeStatus)
    (target : RuntimeState) (reason : String) (blockers : Finset String) (time : DateTime) :
    Runtime B RuntimeStatus :=
  if c then
    saveTransition p.toRuntimePorts mode status target reason blockers (pure time)
  else pure status

/-- `_transition_halted`. -/
def transitionHalted (mode : Mode) (status : RuntimeStatus) (reason : String)
    (blockers : Finset String) (time : DateTime) : Runtime B RuntimeStatus := do
  let status ← transitionIf p (status.state = .stopping) mode status .disarmed
    "operator stop completed before halt" ∅ time
  let status ← transitionIf p (status.state = .disarmed) mode status .starting
    "operator emergency control started" ∅ time
  transitionIf p True mode status .halted reason blockers time

/-- `WriterLease.acquire` and `_runtime_control`. -/
def control : Runtime B (Mode × RuntimeStatus) := do
  call p.acquire
  let w ← get
  let stored := w.tables.runtimeFromRow config.fallbackMode
  assertCurrent p.toRuntimePorts
  pure stored

/-! ## Halt and disarm -/

/-- The transaction of `_halt`. -/
def haltEvidence (id : OperatorEventId) (reason : Option String) (state : RuntimeState)
    (time : DateTime) : RuntimeTxn PUnit := do
  insertRiskEvent ⟨.operator id, .tripped, time⟩
  appendAudit ⟨.operatorAudit id, .risk, "local-cli", .operatorHalt reason state, time⟩

/-- `_halt`. -/
def halt (reason : Option String) : Runtime B RuntimeStatus := do
  let time ← now p.toRuntimePorts
  let stored ← control p config
  let _ ← inTransaction (revokeArmLeases time "operator kill switch")
  let status ← transitionHalted p stored.1 stored.2 "operator kill switch"
    (insert killSwitch stored.2.blockers) time
  let id ← eventId p .halt time
  inTransaction (haltEvidence id reason status.state time)
  pure status

/-- The transitions of `_disarm`. -/
def disarmTransitions (mode : Mode) (status : RuntimeStatus) (tripped : Bool) (time : DateTime) :
    Runtime B RuntimeStatus :=
  if status.state = .disarmed then pure status
  else do
    let status ← transitionIf p (status.state ≠ .stopping) mode status .stopping
      "operator disarm requested" status.blockers time
    transitionIf p True mode status .disarmed "operator disarmed"
      (if tripped = true then {killSwitch} else ∅) time

/-- `_disarm`. -/
def disarm (reason : Option String) : Runtime B RuntimeStatus := do
  let time ← now p.toRuntimePorts
  let stored ← control p config
  let w ← get
  let tripped := w.tables.killSwitchTripped stored.2
  let revoked ← inTransaction (revokeArmLeases time "explicit operator disarm")
  let status ← disarmTransitions p stored.1 stored.2 tripped time
  appendOperatorAudit p .disarm (.operatorDisarm revoked reason) time
  pure status

/-! ## Reconcile and resume -/

/-- `_transition_halted`, at a time of its own, and the denial. -/
def haltAndDeny (mode : Mode) (status : RuntimeStatus) (reason : String)
    (blockers : Finset String) (reasonCode : String) : Runtime B OperatorReconciliation := do
  let time ← now p.toRuntimePorts
  let _ ← transitionHalted p mode status reason blockers time
  throw (denied reasonCode)

/-- What the reconciliation port has answered, if it did not raise and its evidence is well
formed. -/
def acceptEvidence (mode : Mode) (status : RuntimeStatus) (command : String)
    (kept : Finset String → Finset String) :
    Except Failure (Option OperatorReconciliation) → Runtime B OperatorReconciliation
  | .ok (some reconciliation) => pure reconciliation
  | .ok none =>
    haltAndDeny p mode status (command ++ " reconciliation returned invalid evidence")
      (kept {"RECONCILIATION_RESULT_INVALID"}) "RECONCILIATION_RESULT_INVALID"
  | .error _ =>
    haltAndDeny p mode status (command ++ " reconciliation raised an exception")
      (kept {"RECONCILIATION_EXCEPTION"}) "RECONCILIATION_FAILED"

/-- The call of the reconciliation port. -/
def callReconciler (mode : Mode) (status : RuntimeStatus) (command : String)
    (kept : Finset String → Finset String) : Runtime B OperatorReconciliation := do
  let answer ← tryCatch (Except.ok <$> call p.reconciler) fun failure => pure (.error failure)
  acceptEvidence p mode status command kept answer

/-- The blockers of a reconciliation that requires an explicit resume. -/
def observedBlockers (reconciliation : OperatorReconciliation) (tripped wasHalted : Bool) :
    Finset String :=
  reconciliation.blockers ∪ (if tripped = true then {killSwitch} else ∅) ∪
    (if wasHalted = true then {"EXPLICIT_RESUME_REQUIRED"} else ∅)

/-- The end of `_reconcile`. -/
def finishReconcile (mode : Mode) (status : RuntimeStatus)
    (reconciliation : OperatorReconciliation) (tripped wasHalted : Bool) :
    Runtime B RuntimeStatus := do
  let time ← now p.toRuntimePorts
  if reconciliation.passed = false ∨ tripped = true ∨ wasHalted = true then
    transitionHalted p mode status "manual reconciliation requires explicit resume"
      (observedBlockers reconciliation tripped wasHalted) time
  else transitionIf p True mode status .ready "manual reconciliation passed" ∅ time

/-- `_reconcile`. -/
def reconcile : Runtime B RuntimeStatus := do
  refuse (config.hasReconciler = false) (denied "RECONCILIATION_PORT_UNAVAILABLE")
  let time ← now p.toRuntimePorts
  let stored ← control p config
  let w ← get
  let tripped := w.tables.killSwitchTripped stored.2
  refuse (stored.2.state = .stopping) (denied "RUNTIME_STOPPING")
  let status ← transitionIf p (stored.2.state = .disarmed) stored.1 stored.2 .starting
    "manual reconciliation requested" ∅ time
  let status ← transitionIf p (status.state ≠ .reconciling) stored.1 status .reconciling
    "manual reconciliation running" ∅ time
  let reconciliation ← callReconciler p stored.1 status "manual" id
  finishReconcile p stored.1 status reconciliation tripped (stored.2.state = .halted)

/-- The transaction that revokes the arm leases for a resume. -/
def revokeForResume (id : OperatorEventId) (time : DateTime) : RuntimeTxn PUnit := do
  let revoked ← revokeArmLeases time "resume requires explicit re-arm"
  appendAudit ⟨.operator id, .arm, "local-cli", .operatorRevoke revoked, time⟩

/-- `failure_blockers`. -/
def failureBlockers (tripped : Bool) (blockers : Finset String) : Finset String :=
  if tripped = true then insert killSwitch blockers else blockers

/-- What a resume demands of the reconciliation. -/
def requirePassed (mode : Mode) (status : RuntimeStatus) (tripped : Bool)
    (reconciliation : OperatorReconciliation) : Runtime B OperatorReconciliation :=
  if reconciliation.passed = true then pure reconciliation
  else haltAndDeny p mode status "resume reconciliation did not pass"
    (failureBlockers tripped reconciliation.blockers) "RECONCILIATION_FAILED"

/-- The transaction that resets the kill switch. -/
def resetEvidence (id : OperatorEventId) (reconciliationId : String) (time : DateTime) :
    RuntimeTxn PUnit := do
  insertRiskEvent ⟨.operator id, .reset, time⟩
  appendAudit ⟨.operatorAudit id, .risk, "local-cli", .operatorResume reconciliationId, time⟩

/-- The evidence of a resume that passed. -/
def resumeEvidence (tripped : Bool) (reconciliationId : String) (time : DateTime) :
    Runtime B PUnit :=
  if tripped = true then do
    let id ← eventId p .resume time
    inTransaction (resetEvidence id reconciliationId time)
  else appendOperatorAudit p .resume (.operatorResume reconciliationId) time

/-- The end of `_resume`. -/
def finishResume (mode : Mode) (status : RuntimeStatus) (tripped : Bool)
    (reconciliation : OperatorReconciliation) : Runtime B RuntimeStatus := do
  let time ← now p.toRuntimePorts
  resumeEvidence p tripped reconciliation.reconciliationId time
  transitionIf p True mode status .ready "resume reconciliation passed" ∅ time

/-- `_resume`. -/
def resume : Runtime B RuntimeStatus := do
  call p.confirmation
  refuse (config.hasReconciler = false) (denied "RECONCILIATION_PORT_UNAVAILABLE")
  let time ← now p.toRuntimePorts
  let stored ← control p config
  refuse (stored.2.state ≠ .halted) (denied "RUNTIME_NOT_HALTED")
  let w ← get
  let tripped := w.tables.killSwitchTripped stored.2
  let id ← eventId p .resume time
  inTransaction (revokeForResume id time)
  let status ← transitionIf p True stored.1 stored.2 .reconciling
    "explicit resume reconciliation" ∅ time
  let reconciliation ← callReconciler p stored.1 status "resume" (failureBlockers tripped)
  let reconciliation ← requirePassed p stored.1 status tripped reconciliation
  finishResume p stored.1 status tripped reconciliation

end OperatorCommands

end FirmQuant
