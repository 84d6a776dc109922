import FirmQuant.Persistence.Ledger

/-!
# The audit ledger

The tables of `persistence/schema.py` beside those of the orders: the operations on the account
file, the reconciliation receipts and the audit events, with the writes of `persistence/audit.py`
and of `ReconciliationService.commit`.

The ids of audit events and of reconciliations are digests; as everywhere they are kept as the
content that is hashed.  The links of the hash chain are left out: `append` computes them and
never reads them back.
-/

namespace FirmQuant

open Effect

/-! ## Receipts of a recovery -/

/-- `AccountRecoveryClassification`. -/
inductive AccountRecoveryClassification
  | notApplied | fileAppliedReceiptMissing | contradiction
  deriving DecidableEq, Repr

/-- `OrderRecoveryClassification`. -/
inductive OrderRecoveryClassification
  | resolvedFromBroker | remainsUnknown | lateFactApplied | contradiction
  deriving DecidableEq, Repr

/-- `AccountRecoveryReceipt`. -/
structure AccountRecoveryReceipt where
  operationId : String
  classification : AccountRecoveryClassification
  actualAccountSha256 : Option Digest
  deriving DecidableEq, Repr

/-- `OrderRecoveryReceipt`. -/
structure OrderRecoveryReceipt where
  executionId : ExecutionId
  classification : OrderRecoveryClassification
  reasonCode : String
  deriving DecidableEq, Repr

/-- The blockers of a recovery report, in the order of their texts. -/
inductive RecoveryBlocker
  | accountCommitRetryRequired | accountFinalizationRequired | accountOperationContradiction
  | brokerRecoveryContradiction | brokerRecoveryUnavailable | duplicateBrokerFill
  | duplicateEconomicOrder | externalBrokerOrder | lateFillInvestigationRequired
  | multipleBrokerOrderMatches | recoveryAggregateMissing | unmappedBrokerFill
  | unresolvedOrderState
  deriving DecidableEq, Repr

/-- `tuple(sorted(set(blockers)))`. -/
def RecoveryBlocker.sorted (blockers : List RecoveryBlocker) : List RecoveryBlocker :=
  [accountCommitRetryRequired, accountFinalizationRequired, accountOperationContradiction,
    brokerRecoveryContradiction, brokerRecoveryUnavailable, duplicateBrokerFill,
    duplicateEconomicOrder, externalBrokerOrder, lateFillInvestigationRequired,
    multipleBrokerOrderMatches, recoveryAggregateMissing, unmappedBrokerFill,
    unresolvedOrderState].filter (· ∈ blockers)

/-- `RecoveryReport`. -/
structure RecoveryReport where
  accountReceipts : List AccountRecoveryReceipt
  orderReceipts : List OrderRecoveryReceipt
  unresolvedOrderIds : List ExecutionId
  blockers : List RecoveryBlocker
  duplicateOrders : ℕ
  duplicateFills : ℕ
  deriving DecidableEq, Repr

/-! ## Reconciliation receipts -/

/-- `ReconciliationKind`. -/
inductive ReconciliationKind
  | startup | intraday | eod | manual | recovery
  deriving DecidableEq, Repr

/-- What `_receipt_identity` hashes, the details by their text. -/
structure ReconciliationId where
  kind : ReconciliationKind
  detailsJson : String
  startedAt : DateTime
  completedAt : DateTime
  deriving DecidableEq

/-- `ReconciliationReceipt`, and its row of `reconciliation_runs`.  The receipt has passed exactly
when it has no blockers. -/
structure ReconciliationReceipt where
  reconciliationId : ReconciliationId
  blockers : List String
  deriving DecidableEq

/-- What `_decode_reconciliation_finalization` makes of a sealed finalization payload: a receipt
with the hash of its broker snapshot, or an exception. -/
inductive Finalization
  | receipt (receipt : ReconciliationReceipt) (brokerSnapshotSha256 : Digest)
  | malformed (failure : Failure)
  deriving DecidableEq

/-! ## Rows -/

/-- The values of `account_operations.stage`. -/
inductive AccountStage
  | prepared | fileCommitted | receiptCommitted | contradiction
  deriving DecidableEq, Repr

/-- A row of `account_operations`, its payload by the fields that are written to it. -/
structure AccountOperationRow where
  operationId : String
  operationKind : String
  stage : AccountStage
  accountBeforeSha256 : Digest
  expectedAccountAfterSha256 : Digest
  actualAccountAfterSha256 : Option Digest
  accountPathSha256 : Digest
  evidenceSha256 : Digest
  finalization : Option Finalization
  createdAt : DateTime
  updatedAt : DateTime
  deriving DecidableEq

/-- The ids of audit events. -/
inductive AuditEventId
  | accountOperation (operationId : String)
  | accountRecovery (operationId : String) (classification : AccountRecoveryClassification)
      (actualAccountSha256 : Option Digest)
  | reconciliation (reconciliationId : ReconciliationId)
  | recoveryReport (observedAt : DateTime) (report : RecoveryReport)
  deriving DecidableEq

/-- The payloads of audit events. -/
inductive AuditPayload
  | operationCommitted (operationId operationKind : String)
      (accountPathSha256 evidenceSha256 accountBeforeSha256 accountAfterSha256 : Digest)
  | operationRecovery (operationId : String) (classification : AccountRecoveryClassification)
      (actualAccountSha256 : Option Digest)
  | reconciliation (receipt : ReconciliationReceipt) (brokerSnapshotSha256 : Digest)
  | recoveryReport (observedAt : DateTime) (report : RecoveryReport)
  deriving DecidableEq

/-- The category under which a payload is appended. -/
def AuditPayload.category : AuditPayload → String
  | operationCommitted .. => "account.operation.committed"
  | operationRecovery .. => "account.operation.recovery"
  | reconciliation .. => "reconciliation.receipt"
  | recoveryReport .. => "recovery.report"

/-- A row of `audit_events`. -/
structure AuditRow where
  auditEventId : AuditEventId
  category : String
  actor : String
  payload : AuditPayload
  createdAt : DateTime
  deriving DecidableEq

/-- The tables of the database. -/
structure Database where
  ledger : Ledger
  accountOperations : List AccountOperationRow
  reconciliationRuns : List ReconciliationReceipt
  auditEvents : List AuditRow

/-- A database without entries. -/
def Database.empty : Database := ⟨Ledger.empty, [], [], []⟩

/-- A transaction on the database. -/
abbrev DatabaseTxn := Txn Database Failure

namespace Database

/-- A repository call as a transaction on the whole database. -/
def onLedger {α : Type} (x : LedgerTxn α) : DatabaseTxn α := fun database =>
  match x database.ledger with
  | .ok (a, ledger) => .ok (a, { database with ledger := ledger })
  | .error failure => .error failure

/-! ## Appending -/

/-- The row that the code appends for a payload. -/
def auditRow (auditEventId : AuditEventId) (payload : AuditPayload) (createdAt : DateTime) :
    AuditRow :=
  ⟨auditEventId, payload.category, "firmquant", payload, createdAt⟩

/-- `AuditLedger.append`: a known id must come with the same row. -/
def appendAudit (row : AuditRow) : DatabaseTxn PUnit := fun database =>
  match database.auditEvents.find? (·.auditEventId = row.auditEventId) with
  | none => .ok (⟨⟩, { database with auditEvents := database.auditEvents ++ [row] })
  | some existing =>
    if existing = row then .ok (⟨⟩, database)
    else .error (.persistenceConflict "audit event identity collision")

/-- `ReconciliationService._append`. -/
def commitReconciliation (receipt : ReconciliationReceipt) (brokerSnapshotSha256 : Digest) :
    DatabaseTxn PUnit := do
  let database ← get
  match database.reconciliationRuns.find? (·.reconciliationId = receipt.reconciliationId) with
  | none => set { database with reconciliationRuns := database.reconciliationRuns ++ [receipt] }
  | some existing =>
    if existing = receipt then pure ⟨⟩
    else throw (.persistenceConflict "reconciliation receipt identity collision")
  appendAudit (auditRow (.reconciliation receipt.reconciliationId)
    (.reconciliation receipt brokerSnapshotSha256) receipt.reconciliationId.completedAt)

/-- A receipt is new, or it is the one recorded under its id; its audit event follows. -/
lemma commitReconciliation_run (receipt : ReconciliationReceipt) (snapshot : Digest)
    (database : Database) :
    commitReconciliation receipt snapshot database =
      match database.reconciliationRuns.find? (·.reconciliationId = receipt.reconciliationId) with
      | none =>
        appendAudit (auditRow (.reconciliation receipt.reconciliationId)
          (.reconciliation receipt snapshot) receipt.reconciliationId.completedAt)
          { database with reconciliationRuns := database.reconciliationRuns ++ [receipt] }
      | some existing =>
        if existing = receipt then
          appendAudit (auditRow (.reconciliation receipt.reconciliationId)
            (.reconciliation receipt snapshot) receipt.reconciliationId.completedAt) database
        else .error (.persistenceConflict "reconciliation receipt identity collision") := by
  unfold commitReconciliation
  rw [Txn.bind_run, Txn.get_run]
  dsimp only
  cases database.reconciliationRuns.find? (·.reconciliationId = receipt.reconciliationId) with
  | none => rfl
  | some existing =>
    by_cases hsame : existing = receipt
    · simp only [if_pos hsame]
    · simp only [if_neg hsame]
      rfl

/-- `commit_reconciliation_finalization`. -/
def commitReconciliationFinalization : Finalization → DatabaseTxn PUnit
  | .receipt receipt brokerSnapshotSha256 => commitReconciliation receipt brokerSnapshotSha256
  | .malformed failure => throw failure

section Preserves

variable {P : Database → Prop} {audit : AuditRow} {receipt : ReconciliationReceipt}
  {snapshot : Digest}

/-- An audit event is appended, or it is already there. -/
lemma appendAudit_eq_ok {database database' : Database} {a : PUnit}
    (h : appendAudit audit database = .ok (a, database')) : database' = database ∨
      database' = { database with auditEvents := database.auditEvents ++ [audit] } := by
  unfold appendAudit at h
  split at h
  · cases h
    exact .inr rfl
  · split at h
    · cases h
      exact .inl rfl
    · cases h

lemma preserves_appendAudit (h : ∀ database, P database →
      P { database with auditEvents := database.auditEvents ++ [audit] }) :
    Txn.Preserves P (appendAudit audit) := by
  intro database a database' hP hrun
  rcases appendAudit_eq_ok hrun with rfl | rfl
  · exact hP
  · exact h database hP

lemma preserves_commitReconciliation
    (hrun : ∀ database, P database →
      P { database with reconciliationRuns := database.reconciliationRuns ++ [receipt] })
    (haudit : Txn.Preserves P (appendAudit (auditRow (.reconciliation receipt.reconciliationId)
      (.reconciliation receipt snapshot) receipt.reconciliationId.completedAt))) :
    Txn.Preserves P (commitReconciliation receipt snapshot) := by
  intro database a database' hP h
  rw [commitReconciliation_run] at h
  split at h
  · exact haudit _ _ _ (hrun database hP) h
  · split at h
    · exact haudit _ _ _ hP h
    · cases h

end Preserves

end Database

end FirmQuant
