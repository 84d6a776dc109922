import FirmQuant.Application.ControlChannel
import FirmQuant.Domain.States

/-!
# The stored runtime status

The tables that the single writer keeps of its own condition (the runtime status, the arm leases,
the risk events of the kill switch, the heartbeat and the audit events) with `load_runtime` and
`save_runtime` of `scheduling/sessions.py`.

Ids of audit events are digests or texts with a prefix of their own; they are kept as the content
that they are made of.  `load_runtime` verifies the audit chain first; the links of the chain are
left out here.
-/

namespace FirmQuant

open Effect

/-! ## Rows -/

/-- The row of `runtime_state`. -/
structure RuntimeRow where
  mode : Mode
  status : RuntimeStatus
  updatedAt : DateTime
  deriving DecidableEq

/-- A row of `arm_leases`, by what revoking it reads and writes. -/
structure ArmLeaseRow where
  leaseId : String
  revokedAt : Option DateTime
  revokeReason : Option String
  deriving DecidableEq

/-- Whose control it is: a request of the inbox, or an internal stop of a lease generation. -/
inductive ControlIdentity
  | request (id : RequestId)
  | internalStop (source : String) (generation : ℕ)
  deriving DecidableEq

/-- The operator commands that write the runtime status. -/
inductive OperatorCommand
  | halt | disarm | reconcile | resume
  deriving DecidableEq, Repr

/-- The id of an operator's event: its command, its time and a nonce. -/
structure OperatorEventId where
  command : OperatorCommand
  createdAt : DateTime
  nonce : String
  deriving DecidableEq

/-- The ids of risk events. -/
inductive RiskEventId
  | control (request : ControlIdentity)
  | operator (id : OperatorEventId)
  deriving DecidableEq

/-- The codes of the risk events of the kill switch. -/
inductive KillSwitchCode
  | tripped | reset
  deriving DecidableEq, Repr

/-- A row of `risk_events`. -/
structure RiskEventRow where
  riskEventId : RiskEventId
  code : KillSwitchCode
  createdAt : DateTime
  deriving DecidableEq

/-- The ids of audit events. -/
inductive RuntimeAuditId
  | runtime (mode : Mode) (revision : ℕ)
  | haltArmRevoke (mode : Mode) (revision : ℕ)
  | control (command : ControlCommand) (request : ControlIdentity)
  | operator (id : OperatorEventId)
  /-- The event that follows a risk event of an operator. -/
  | operatorAudit (id : OperatorEventId)
  | productionHalt (reason : String) (haltedAt : DateTime)
  | other (text : String)
  deriving DecidableEq

/-- The categories of audit events. -/
inductive RuntimeAuditCategory
  | runtime | arm | runtimeControl | operator | risk
  | other (text : String)
  deriving DecidableEq

/-- The payloads of audit events. -/
inductive RuntimeAuditPayload
  | transition (mode : Mode) (status : RuntimeStatus)
  | armRevoked (mode : Mode) (revision revokedLeaseCount : ℕ)
  | controlHalt (request : ControlIdentity) (reasonSha256 : Option String)
      (runtimeState : RuntimeState)
  | control (request : ControlIdentity) (reasonSha256 : Option String) (outcome : ControlOutcome)
  | operatorDisarm (revokedLeaseCount : ℕ) (reason : Option String)
  | operatorHalt (reason : Option String) (runtimeState : RuntimeState)
  | operatorRevoke (revokedLeaseCount : ℕ)
  | operatorResume (reconciliationId : String)
  | productionHalt (mode : Mode) (reason : String)
  | other (text : String)
  deriving DecidableEq

/-- A row of `audit_events`. -/
structure RuntimeAuditRow where
  auditEventId : RuntimeAuditId
  category : RuntimeAuditCategory
  actor : String
  payload : RuntimeAuditPayload
  createdAt : DateTime
  deriving DecidableEq

/-- The row of `production_heartbeat`, by the state that it carries. -/
structure HeartbeatRow where
  runtimeState : RuntimeState
  observedAt : DateTime
  deriving DecidableEq

/-- The tables. -/
structure RuntimeTables where
  runtimeState : Option RuntimeRow
  armLeases : List ArmLeaseRow
  riskEvents : List RiskEventRow
  heartbeat : Option HeartbeatRow
  auditEvents : List RuntimeAuditRow

/-- A transaction on the tables. -/
abbrev RuntimeTxn := Txn RuntimeTables Failure

namespace RuntimeTables

/-- Tables without rows. -/
def empty : RuntimeTables := ⟨none, [], [], none, []⟩

/-- The status that is stored. -/
def status (t : RuntimeTables) : RuntimeStatus :=
  match t.runtimeState with
  | none => .initial
  | some row => row.status

/-- No other mode is stored than this one. -/
def HasMode (t : RuntimeTables) (mode : Mode) : Prop := ∀ row, t.runtimeState = some row →
  row.mode = mode

instance (t : RuntimeTables) (mode : Mode) : Decidable (t.HasMode mode) :=
  match h : t.runtimeState with
  | none => .isTrue (by simp [HasMode, h])
  | some row => decidable_of_iff (row.mode = mode) (by simp [HasMode, h])

/-! ## Transactions -/

/-- `AuditLedger.append`: a known id must come with the same row. -/
def appendAudit (row : RuntimeAuditRow) : RuntimeTxn PUnit := fun t =>
  match t.auditEvents.find? (·.auditEventId = row.auditEventId) with
  | none => .ok (⟨⟩, { t with auditEvents := t.auditEvents ++ [row] })
  | some existing =>
    if existing = row then .ok (⟨⟩, t)
    else .error (.persistenceConflict "audit event identity collision")

/-- An arm lease after all were revoked. -/
def revoked (now : DateTime) (reason : String) (lease : ArmLeaseRow) : ArmLeaseRow :=
  match lease.revokedAt with
  | none => { lease with revokedAt := some now, revokeReason := some reason }
  | some _ => lease

/-- The leases that are not revoked. -/
def unrevoked (t : RuntimeTables) : List ArmLeaseRow :=
  t.armLeases.filter (·.revokedAt = none)

/-- `UPDATE arm_leases SET revoked_at = ?, revoke_reason = ? WHERE revoked_at IS NULL`. -/
def revokeArmLeases (now : DateTime) (reason : String) : RuntimeTxn ℕ := fun t =>
  .ok (t.unrevoked.length, { t with armLeases := t.armLeases.map (revoked now reason) })

/-- The compare-and-set of `save_runtime`. -/
def setRuntime (mode : Mode) (previous current : RuntimeStatus) (createdAt : DateTime) :
    RuntimeTxn PUnit := fun t =>
  match t.runtimeState with
  | none =>
    if previous ≠ .initial then
      .error (.runtimeError "runtime state disappeared before transition")
    else .ok (⟨⟩, { t with runtimeState := some ⟨mode, current, createdAt⟩ })
  | some row =>
    if row.mode ≠ mode ∨ row.status ≠ previous then
      .error (.runtimeError "runtime transition lost compare-and-set ownership")
    else .ok (⟨⟩, { t with runtimeState := some ⟨mode, current, createdAt⟩ })

/-- The event of the leases that a halt has revoked, if there were any. -/
def auditHaltRevocation (mode : Mode) (current : RuntimeStatus) (createdAt : DateTime)
    (revokedLeaseCount : ℕ) : RuntimeTxn PUnit :=
  if revokedLeaseCount = 0 then pure ⟨⟩
  else appendAudit ⟨.haltArmRevoke mode current.revision, .arm, "session-coordinator",
    .armRevoked mode current.revision revokedLeaseCount, createdAt⟩

/-- What `save_runtime` does about the arm leases when the runtime enters HALTED. -/
def revokeOnHalt (mode : Mode) (current : RuntimeStatus) (createdAt : DateTime) :
    RuntimeTxn PUnit :=
  if current.state = .halted then do
    let revokedLeaseCount ← revokeArmLeases createdAt "runtime entered HALTED"
    auditHaltRevocation mode current createdAt revokedLeaseCount
  else pure ⟨⟩

/-- The event of a transition. -/
def transitionRow (mode : Mode) (current : RuntimeStatus) (createdAt : DateTime) :
    RuntimeAuditRow :=
  ⟨.runtime mode current.revision, .runtime, "session-coordinator", .transition mode current,
    createdAt⟩

/-- The transaction of `save_runtime`. -/
def saveRuntime (mode : Mode) (previous current : RuntimeStatus) (createdAt : DateTime) :
    RuntimeTxn PUnit := do
  setRuntime mode previous current createdAt
  revokeOnHalt mode current createdAt
  appendAudit (transitionRow mode current createdAt)

/-- `LocalOperatorService._kill_switch_tripped`: the newest of the risk events decides, and among
those of one time the last. -/
def newestRiskEvent (t : RuntimeTables) : Option RiskEventRow :=
  t.riskEvents.foldl (fun newest row => match newest with
    | none => some row
    | some other => if other.createdAt ≤ row.createdAt then some row else some other) none

end RuntimeTables

/-! ## The process of the writer -/

/-- The process that holds the writer lease: the tables, the fields of the control executor and of
the hooks that change, and the outside. -/
structure RuntimeProcess (B : Type) where
  tables : RuntimeTables
  /-- `_stop_pending` of the control executor. -/
  stopPending : Bool
  /-- `_cancel_calls` of the control executor. -/
  cancelCalls : ℕ
  /-- `_status` of the hooks. -/
  cached : RuntimeStatus
  /-- How often the hooks have begun to execute orders; the code does not read it. -/
  executions : ℕ
  outside : B

/-- A program of the process. -/
abbrev Runtime (B : Type) := EStateM Failure (RuntimeProcess B)

/-- The outside of the process. -/
structure RuntimePorts (B : Type) where
  clock : B → DateTime × B
  /-- `WriterLease.assert_current`. -/
  assertCurrent : B → Except Failure PUnit × B

namespace Runtime

variable {B : Type}

/-- Ask a port that may raise. -/
def call {α : Type} (port : B → Except Failure α × B) : Runtime B α := fun w =>
  match port w.outside with
  | (.ok a, b) => .ok a { w with outside := b }
  | (.error failure, b) => .error failure { w with outside := b }

/-- `with self._database.transaction()`. -/
def inTransaction {α : Type} (x : RuntimeTxn α) : Runtime B α := fun w =>
  match x w.tables with
  | .ok (a, tables) => .ok a { w with tables := tables }
  | .error failure => .error failure w

/-- A value that may be an exception. -/
def raising {α : Type} (x : Except Failure α) : Runtime B α := fun w =>
  match x with
  | .ok a => .ok a w
  | .error failure => .error failure w

variable (p : RuntimePorts B)

/-- `_now`. -/
def now : Runtime B DateTime := call fun b => (.ok (p.clock b).1, (p.clock b).2)

/-- `WriterLease.assert_current`. -/
def assertCurrent : Runtime B PUnit := call p.assertCurrent

/-- What `load_runtime` makes of the tables. -/
def readRuntime (mode : Mode) (t : RuntimeTables) : Except Failure RuntimeStatus :=
  if t.HasMode mode then .ok t.status
  else .error (.runtimeError "stored runtime mode differs from configured mode")

/-- `WorkflowReceiptStore.load_runtime`. -/
def loadRuntime (mode : Mode) : Runtime B RuntimeStatus := do
  assertCurrent p
  let w ← get
  raising (readRuntime mode w.tables)

/-- `WorkflowReceiptStore.save_runtime`. -/
def saveRuntime (mode : Mode) (previous current : RuntimeStatus) (createdAt : DateTime) :
    Runtime B PUnit := do
  assertCurrent p
  inTransaction (RuntimeTables.saveRuntime mode previous current createdAt)

/-- `if current != previous: receipts.save_runtime(…, created_at=time)`. -/
def saveIfChanged (mode : Mode) (previous current : RuntimeStatus) (time : Runtime B DateTime) :
    Runtime B PUnit :=
  if current = previous then pure ⟨⟩
  else do
    let createdAt ← time
    saveRuntime p mode previous current createdAt

/-- `_save_transition` of the control executor, with `self._now()` as its time, and of the operator
commands, with a time that they have read before. -/
def saveTransition (mode : Mode) (status : RuntimeStatus) (target : RuntimeState)
    (reason : String) (blockers : Finset String) (time : Runtime B DateTime) :
    Runtime B RuntimeStatus := do
  let current ← raising (status.transition target reason blockers)
  saveIfChanged p mode status current time
  pure current

end Runtime

end FirmQuant
