import FirmQuant.Application.ProductionDaemon
import FirmQuant.Application.ControlAudit

/-!
# The production hooks

`ProductionServiceHooks` of `application/production_services.py`, by what it does to the runtime
status.  The hooks load the status when they are built and keep a copy of it; every transition
starts from the copy and is saved only if the copy is still what is stored.

Recovery, reconciliation, the close of a session and the execution of orders are asked through
ports that may answer anything; they do not write the status, but for the halts that are listed in
`ExecuteOutcome`.
-/

namespace FirmQuant

open Effect

/-- What `startup` reads of a recovery report. -/
structure RecoverySummary where
  haltRequired : Bool
  /-- The blockers and the ids of unresolved orders. -/
  blockers : Finset String

/-- How `_execute` ends, when it does not raise by itself. -/
inductive ExecuteOutcome
  | executed (executions : ℕ)
  /-- It halts with this reason and raises it. -/
  | blocked (reason : String)

/-- What the calendar says of a session. -/
inductive TradingDay
  | trading | closed | uncovered

/-- The outside of the hooks. -/
structure HooksPorts (B : Type) extends RuntimePorts B where
  /-- `ProductionRecoveryService.recover`. -/
  recover : B → Except Failure RecoverySummary × B
  latestIncompleteSession : B → Except Failure (Option DateTime) × B
  /-- `_close_session`, with its decisions and its EOD count. -/
  closeSession : DateTime → B → Except Failure (ℕ × ℕ) × B
  /-- The account query, the read-only smoke test and `_require_promotion`. -/
  prepare : B → Except Failure PUnit × B
  /-- `_reconcile` at startup, with the id of its receipt. -/
  reconcileStartup : B → Except Failure String × B
  tradingDay : DateTime → B → Except Failure TradingDay × B
  marketStatus : B → Except Failure MarketSessionStatus × B
  /-- Whether `_execution_deadlines` leaves time to execute. -/
  executionDeadlines : DateTime → B → Except Failure Bool × B
  /-- `_execute`. -/
  execute : DateTime → B → Except Failure ExecuteOutcome × B
  /-- Whether the Shanghai time is past `_POST_CLOSE`. -/
  postClose : DateTime → Bool
  /-- `self._journal.append`, with the pending halt reason. -/
  appendEvent : B → Except Failure (Option String) × B
  /-- The queries of `heartbeat`. -/
  heartbeatFacts : B → Except Failure PUnit × B

namespace ProductionHooks

open Runtime RuntimeTables

variable {B : Type} (p : HooksPorts B) (mode : Mode)

/-- `_transition`. -/
def transition (target : RuntimeState) (reason : String) (blockers : Finset String) :
    Runtime B PUnit := do
  let w ← get
  let current ← saveTransition p.toRuntimePorts mode w.cached target reason blockers
    (now p.toRuntimePorts)
  modify fun w => { w with cached := current }

/-- `_transition`, if a condition on the copy of the status holds. -/
def transitionWhen (c : RuntimeState → Bool) (target : RuntimeState) (reason : String) :
    Runtime B PUnit := do
  let w ← get
  if c w.cached.state = true then transition p mode target reason ∅ else pure ⟨⟩

/-- The audit event of a halt. -/
def haltRow (reason : String) (haltedAt createdAt : DateTime) : RuntimeAuditRow :=
  ⟨.productionHalt reason haltedAt, .runtime, "production-services", .productionHalt mode reason,
    createdAt⟩

/-- The audit event of a halt is appended. -/
def auditHalt (reason : String) : Runtime B PUnit := do
  let haltedAt ← now p.toRuntimePorts
  let createdAt ← now p.toRuntimePorts
  inTransaction (appendAuditOnce (haltRow mode reason haltedAt createdAt))

/-- The reason with which `halt` halts. -/
def haltReason (reasonCode : String) : String :=
  if reasonCode = "" then "PRODUCTION_HALTED" else reasonCode

/-- The transitions of `halt`. -/
def haltTransitions (reason : String) : Runtime B PUnit := do
  transitionWhen p mode (· = .disarmed) .starting "production halt control"
  transition p mode .halted "production runtime halted" {reason}

/-- `halt`. -/
def halt (reasonCode : String) : Runtime B PUnit := do
  let w ← get
  if w.cached.state = .halted then pure ⟨⟩
  else do
    haltTransitions p mode (haltReason reasonCode)
    auditHalt p mode (haltReason reasonCode)

/-! ## Startup -/

/-- What a blocked recovery does. -/
def haltForRecovery (recovery : RecoverySummary) : Runtime B PUnit :=
  if recovery.haltRequired = true then do
    transition p mode .halted "production recovery blocked startup"
      (if recovery.blockers = ∅ then {"RECOVERY_FAILED"} else recovery.blockers)
    throw (.productionServicesUnavailable "PRODUCTION_RECOVERY_FAILED")
  else pure ⟨⟩

/-- A step of the startup, of which every exception halts. -/
def haltingOn {α : Type} (x : Runtime B α) (reason code : String) : Runtime B α :=
  tryCatch x fun _ => do
    transition p mode .halted reason {code}
    throw (.productionServicesUnavailable code)

/-- The close of an incomplete session. -/
def recoverClose : Option DateTime → Runtime B PUnit
  | none => pure ⟨⟩
  | some session => do
    let _ ← haltingOn p mode (call (p.closeSession session))
      "incomplete close-session recovery failed" "CLOSE_SESSION_RECOVERY_FAILED"
    pure ⟨⟩

/-- The way of `startup` to RECONCILING. -/
def enterRecovery : Runtime B PUnit := do
  transitionWhen p mode (· = .disarmed) .starting "production runtime starting"
  transitionWhen p mode (· ≠ .reconciling) .reconciling "production startup recovery"

/-- The rest of `startup`. -/
def completeStartup : Runtime B String := do
  let recovery ← call p.recover
  haltForRecovery p mode recovery
  let incomplete ← call p.latestIncompleteSession
  recoverClose p mode incomplete
  call p.prepare
  let receipt ← haltingOn p mode (call p.reconcileStartup)
    "production startup reconciliation failed" "STARTUP_RECONCILIATION_FAILED"
  transition p mode .ready "production startup reconciliation passed" ∅
  pure receipt

/-- `startup`. -/
def startup : Runtime B String := do
  assertCurrent p.toRuntimePorts
  let w ← get
  refuse (w.cached.state = .halted ∨ w.cached.state = .stopping)
    (.productionServicesUnavailable "EXPLICIT_RESUME_REQUIRED")
  enterRecovery p mode
  completeStartup p mode

/-! ## Cycles -/

/-- The end of `_execute`. -/
def finishExecution : ExecuteOutcome → Runtime B ℕ
  | .executed executions => pure executions
  | .blocked reason => do
    halt p mode reason
    throw (.productionServicesUnavailable reason)

/-- `_execute`. -/
def execute (time : DateTime) : Runtime B ℕ := do
  modify fun w => { w with executions := w.executions + 1 }
  let outcome ← call (p.execute time)
  finishExecution p mode outcome

/-- What `cycle` does about an exception of `_execute`. -/
def executionFailed (failure : Failure) : Runtime B ℕ :=
  if failure = .writerLeaseLost then throw failure
  else do
    halt p mode "EXECUTION_STEP_FAILED"
    throw failure

/-- A cycle in an open market. -/
def executionStep (time : DateTime) : Runtime B ProductionCycleResult := do
  if ← call (p.executionDeadlines time) then do
    transition p mode .executing "next-session execution" ∅
    let executions ← tryCatch (execute p mode time) (executionFailed p mode)
    transition p mode .ready "execution step completed" ∅
    pure ⟨0, executions, 0⟩
  else pure ⟨0, 0, 0⟩

/-- What `cycle` does about an exception of `_close_session`. -/
def closeFailed (failure : Failure) : Runtime B (ℕ × ℕ) := do
  halt p mode "CLOSE_SESSION_FAILED"
  throw failure

/-- A cycle after the close of the market. -/
def closeStep (time : DateTime) : Runtime B ProductionCycleResult := do
  transition p mode .reconciling "close-session checkpoint" ∅
  let counts ← tryCatch (call (p.closeSession time)) (closeFailed p mode)
  transition p mode .ready "close-session checkpoint completed" ∅
  pure ⟨counts.1, 0, counts.2⟩

/-- A cycle on a trading day. -/
def tradingCycle (time : DateTime) : MarketSessionStatus → Runtime B ProductionCycleResult
  | .open => executionStep p mode time
  | .closed => if p.postClose time = true then closeStep p mode time else pure ⟨0, 0, 0⟩
  | _ => pure ⟨0, 0, 0⟩

/-- A cycle on a day. -/
def dayCycle (time : DateTime) : TradingDay → Runtime B ProductionCycleResult
  | .uncovered => do
    halt p mode "CALENDAR_COVERAGE_EXPIRED"
    throw (.productionServicesUnavailable "CALENDAR_COVERAGE_EXPIRED")
  | .closed => pure ⟨0, 0, 0⟩
  | .trading => do
    let market ← call p.marketStatus
    tradingCycle p mode time market

/-- `cycle`. -/
def cycle (time : DateTime) : Runtime B ProductionCycleResult := do
  let w ← get
  refuse (w.cached.state ≠ .ready)
    (.productionServicesUnavailable "PRODUCTION_RUNTIME_NOT_READY")
  let day ← call (p.tradingDay time)
  dayCycle p mode time day

/-! ## Events and heartbeats -/

/-- What `handle_event` does about a pending halt reason. -/
def haltForEvent : Option String → Runtime B PUnit
  | none => pure ⟨⟩
  | some reason => do
    halt p mode reason
    throw (.productionServicesUnavailable reason)

/-- `handle_event`. -/
def handleEvent : Runtime B PUnit := do
  let pending ← call p.appendEvent
  haltForEvent p mode pending

/-- `heartbeat`. -/
def heartbeat (observed : ProductionHeartbeat) : Runtime B PUnit := do
  call p.heartbeatFacts
  let w ← get
  inTransaction fun t =>
    .ok (⟨⟩, { t with heartbeat := some ⟨w.cached.state, observed.observedAt⟩ })

/-- The part of the constructor that loads the status. -/
def load : Runtime B PUnit := do
  assertCurrent p.toRuntimePorts
  let status ← loadRuntime p.toRuntimePorts mode
  modify fun w => { w with cached := status }

end ProductionHooks

end FirmQuant
