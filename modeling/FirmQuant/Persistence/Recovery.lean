import FirmQuant.Persistence.AccountOperation
import FirmQuant.Persistence.MonotonicLedger

/-!
# Recovery

`RecoveryService` of `persistence/recovery.py` and its production subclass of
`persistence/production_recovery.py`.  A recovery classifies what a crash left of the account
operations, then queries the broker and absorbs the facts it reports into the orders, and ends
with a report.  It writes to the database only, in transactions of its own, and never to the
broker.

The gateway may answer anything and may depend on all that happened.  Two queries are sorted by
the text of a digest, which the model does not compute; the texts are a parameter, and every
statement is for all of them.
-/

namespace FirmQuant

open Effect

/-! ## The classes of exceptions that recovery catches -/

namespace Failure

/-- `sqlite3.DatabaseError`. -/
def isDatabaseError : Failure → Bool
  | integrityError _ => true
  | _ => false

/-- `ValueError`. -/
def isValueError : Failure → Bool
  | domainValidationError _ => true
  | valueError _ => true
  | _ => false

/-- `RuntimeError`; `PersistenceError` and with it `PersistenceConflict` are of this class. -/
def isRuntimeError : Failure → Bool
  | domainValidationError _ => false
  | domainTypeError _ => false
  | integrityError _ => false
  | valueError _ => false
  | typeError _ => false
  | outOfFuel => false
  | _ => true

/-- `PersistenceConflict`. -/
def isPersistenceConflict : Failure → Bool
  | persistenceConflict _ => true
  | _ => false

/-- `DomainTypeError`. -/
def isDomainTypeError : Failure → Bool
  | domainTypeError _ => true
  | _ => false

end Failure

/-! ## What recovery is given -/

/-- `BrokerOrderAbsenceProof`. -/
structure BrokerOrderAbsenceProof where
  command : BrokerOrderCommand
  capturedAt : DateTime
  evidenceSha256 : Digest

/-- The gateway, as far as recovery asks it.  Not every gateway can prove that an order was not
accepted; an answer that is no proof counts as none. -/
structure RecoveryGateway (E : Type) where
  health : E → Except Failure BrokerHealth × E
  queryOrders : E → Except Failure (List BrokerOrderFact) × E
  queryFills : E → Except Failure (List BrokerFillFact) × E
  proveOrderNotAccepted :
    Option (BrokerOrderCommand → E → Except Failure (Option BrokerOrderAbsenceProof) × E)

/-- The methods of the execution repository that recovery calls and that its classes differ in. -/
structure OrderRepository where
  recordSubmitResult : OrderAggregate → BrokerAttempt → BrokerOrderFact → List BrokerFillFact →
    DateTime → LedgerTxn OrderAggregate
  recordCancelResult : OrderAggregate → BrokerAttempt → BrokerOrderFact → List BrokerFillFact →
    DateTime → LedgerTxn OrderAggregate
  reconcileBrokerFact : OrderAggregate → BrokerOrderFact → List BrokerFillFact → DateTime →
    LedgerTxn OrderAggregate

/-- A recovery service: what it is configured with and its repository. -/
structure RecoveryService (E : Type) where
  /-- Whether an account store and path are configured. -/
  accountConfigured : Bool
  gateway : Option (RecoveryGateway E)
  clock : E → DateTime × E
  orders : OrderRepository
  /-- The texts of the ids of attempts and executions, by which two queries sort. -/
  attemptText : AttemptId → String
  executionText : ExecutionId → String
  /-- Whether the service is the subclass that asks for proofs before it marks an attempt. -/
  asksForProof : Bool

namespace Recovery

open Service

variable {E : Type}

/-- Ask a port that may raise. -/
def call {α : Type} (port : E → Except Failure α × E) : Service E α := fun w =>
  match port w.outside with
  | (.ok a, outside) => .ok a { w with outside := outside }
  | (.error failure, outside) => .error failure { w with outside := outside }

/-! ## Account operations -/

/-- `ORDER BY created_at, operation_id`. -/
def operationLe (a b : AccountOperationRow) : Prop :=
  a.createdAt < b.createdAt ∨ (a.createdAt = b.createdAt ∧ ¬ b.operationId < a.operationId)

instance : DecidableRel operationLe := fun a b => by
  delta operationLe
  infer_instance

/-- The operations that recovery looks at. -/
def uncommitted (database : Database) : List AccountOperationRow :=
  (database.accountOperations.filter (·.stage ≠ .receiptCommitted)).insertionSort operationLe

/-- What recovery reads of the account file for an operation: nothing when no account is
configured or the operation was made for another path. -/
def observedActual (configured : Bool) (file : AccountFile) (row : AccountOperationRow) :
    Option Digest :=
  if configured = true ∧ file.pathSha256 = some row.accountPathSha256 then file.economicSha256
  else none

/-- The classification of an operation by the file alone. -/
def classify (row : AccountOperationRow) (actual : Option Digest) :
    AccountRecoveryClassification :=
  if actual = some row.accountBeforeSha256 then .notApplied
  else if actual = some row.expectedAccountAfterSha256 then .fileAppliedReceiptMissing
  else .contradiction

/-- `_append_account_recovery_audit`. -/
def recoveryAudit (operationId : String) (classification : AccountRecoveryClassification)
    (actual : Option Digest) (now : DateTime) : AuditRow :=
  Database.auditRow (.accountRecovery operationId classification actual)
    (.operationRecovery operationId classification actual) now

/-- The transaction of `_recover_broker_sync_finalization`. -/
def finalizationTransaction (row : AccountOperationRow) (finalization : Finalization)
    (actual : Digest) (now : DateTime) : DatabaseTxn PUnit := do
  AccountOperation.updateOperation row.operationId [.prepared, .fileCommitted] .receiptCommitted
    (some actual) now
  Database.appendAudit (AccountOperation.committedAudit row.operationId "BROKER_SYNC"
    row.accountPathSha256 row.evidenceSha256 row.accountBeforeSha256
    row.expectedAccountAfterSha256 now)
  Database.commitReconciliationFinalization finalization
  Database.appendAudit (recoveryAudit row.operationId .fileAppliedReceiptMissing (some actual) now)

/-- `_recover_broker_sync_finalization`. -/
def recoverBrokerSyncFinalization (row : AccountOperationRow) (actual : Digest) (now : DateTime) :
    Service E Bool :=
  match row.finalization with
  | none => pure false
  | some finalization =>
    tryCatch (do
      transact (finalizationTransaction row finalization actual now)
      pure true) fun failure =>
      if failure.isDomainTypeError ∨ failure.isPersistenceConflict ∨ failure.isDatabaseError ∨
          failure.isValueError then pure false
      else throw failure

/-- The last transaction of the loop of `_recover_accounts`, and the receipt after it. -/
def settle (row : AccountOperationRow) (stage : AccountStage) (persisted : Option Digest)
    (classification : AccountRecoveryClassification) (actual : Option Digest) (now : DateTime) :
    Service E AccountRecoveryReceipt := do
  transact (do
    AccountOperation.updateOperation row.operationId AccountOperation.anyStage stage persisted now
    Database.appendAudit (recoveryAudit row.operationId classification actual now))
  pure ⟨row.operationId, classification, actual⟩

/-- The loop of `_recover_accounts` on a BROKER_SYNC operation. -/
def recoverBrokerSync (row : AccountOperationRow) (actual : Option Digest) (now : DateTime) :
    Service E (AccountRecoveryReceipt × List RecoveryBlocker) :=
  match classify row actual, actual with
  | .notApplied, _ =>
    if row.stage = .prepared then do
      let receipt ← settle row .prepared none .notApplied actual now
      pure (receipt, [.accountCommitRetryRequired])
    else do
      let receipt ← settle row .contradiction actual .contradiction actual now
      pure (receipt, [.accountOperationContradiction])
  | .fileAppliedReceiptMissing, some digest => do
    if ← recoverBrokerSyncFinalization row digest now then
      pure (⟨row.operationId, .fileAppliedReceiptMissing, actual⟩, [])
    else do
      let receipt ← settle row .fileCommitted actual .fileAppliedReceiptMissing actual now
      pure (receipt, [.accountFinalizationRequired])
  | _, _ => do
    let receipt ← settle row .contradiction actual .contradiction actual now
    pure (receipt, [.accountOperationContradiction])

/-- The body of the loop of `_recover_accounts`. -/
def recoverAccount (configured : Bool) (row : AccountOperationRow) (now : DateTime) :
    Service E (AccountRecoveryReceipt × List RecoveryBlocker) :=
  if row.stage = .contradiction then
    pure (⟨row.operationId, .contradiction, row.actualAccountAfterSha256⟩,
      [.accountOperationContradiction])
  else do
    let actual := observedActual configured (← get).file row
    if classify row actual = .contradiction then do
      let receipt ← settle row .contradiction actual .contradiction actual now
      pure (receipt, [.accountOperationContradiction])
    else if row.operationKind = "BROKER_SYNC" then recoverBrokerSync row actual now
    else do
      let receipt ← settle row .receiptCommitted actual (classify row actual) actual now
      pure (receipt, [])

/-- The loop of `_recover_accounts`. -/
def recoverAccountRows (configured : Bool) (now : DateTime) : List AccountOperationRow →
    Service E (List AccountRecoveryReceipt × List RecoveryBlocker)
  | [] => pure ([], [])
  | row :: rest => do
    let (receipt, blockers) ← recoverAccount configured row now
    let (receipts, more) ← recoverAccountRows configured now rest
    pure (receipt :: receipts, blockers ++ more)

/-- `_recover_accounts`. -/
def recoverAccounts (configured : Bool) (now : DateTime) :
    Service E (List AccountRecoveryReceipt × List RecoveryBlocker) := do
  recoverAccountRows configured now (uncommitted (← get).database)

/-! ## Orders -/

/-- `_pending_attempts`, in the order of their start and, at one time, of the text of their ids. -/
def pendingAttempts (text : AttemptId → String) (ledger : Ledger) : List BrokerAttempt :=
  ((ledger.attempts.filter fun row => row.state ∈ [AttemptState.submitting, .unknown]).insertionSort
    (fun a b => a.startedAt < b.startedAt ∨
      (a.startedAt = b.startedAt ∧ ¬ text b.attemptId < text a.attemptId))).flatMap fun row =>
    (ledger.commands.filter (·.attemptId = row.attemptId)).map fun command =>
      ⟨row.attemptId, row.executionId, row.attemptNumber, command.commandKind⟩

/-- `_mark_attempts_unknown` of the base class. -/
def markAttemptsUnknown (now : DateTime) (reason : String) : List BrokerAttempt →
    Service E (List OrderRecoveryReceipt)
  | [] => pure []
  | attempt :: rest => do
    match (← get).database.ledger.load attempt.executionId with
    | none => do
      let receipts ← markAttemptsUnknown now reason rest
      pure (⟨attempt.executionId, .contradiction, "RECOVERY_AGGREGATE_MISSING"⟩ :: receipts)
    | some aggregate => do
      let _ ← transact (Database.onLedger (Ledger.markAttemptUnknown aggregate attempt reason now))
      let receipts ← markAttemptsUnknown now reason rest
      pure (⟨attempt.executionId, .remainsUnknown, reason⟩ :: receipts)

/-- `_durable_submit_command`. -/
def durableSubmitCommand (ledger : Ledger) (attempt : BrokerAttempt) :
    Option (BrokerOrderCommand × DateTime) := do
  let row ← ledger.commands.find? fun row =>
    row.attemptId = attempt.attemptId ∧ row.commandKind = .submit
  let attempted ← ledger.attempts.find? (·.attemptId = attempt.attemptId)
  match row.payload with
  | .submit command => some (command, attempted.startedAt)
  | .cancel _ => none

lemma durableSubmitCommand_eq {ledger : Ledger} {attempt : BrokerAttempt} :
    durableSubmitCommand ledger attempt =
      (ledger.commands.find? fun row =>
        row.attemptId = attempt.attemptId ∧ row.commandKind = .submit).bind fun row =>
      ((ledger.attempts.find? (·.attemptId = attempt.attemptId)).map (·.startedAt)).bind
        fun startedAt =>
          match row.payload with
          | .submit command => some (command, startedAt)
          | .cancel _ => none := by
  unfold durableSubmitCommand
  cases ledger.attempts.find? (·.attemptId = attempt.attemptId) with
  | none => rfl
  | some attempted => rfl

/-- The answer of the gateway's verifier; a verifier that raises has no answer. -/
def verify (verifier : BrokerOrderCommand → E → Except Failure (Option BrokerOrderAbsenceProof) × E)
    (command : BrokerOrderCommand) : Service E (Option BrokerOrderAbsenceProof) :=
  tryCatch (call (verifier command)) fun _ => pure none

/-- The end of `_prove_submit_not_accepted`, with a proof that fits. -/
def resolveNotAccepted (attempt : BrokerAttempt) (proof : BrokerOrderAbsenceProof)
    (now : DateTime) : Service E (Option OrderRecoveryReceipt) := do
  match (← get).database.ledger.load attempt.executionId with
  | none => pure (some ⟨attempt.executionId, .contradiction, "RECOVERY_AGGREGATE_MISSING"⟩)
  | some aggregate =>
    tryCatch (do
      let _ ← transact (Database.onLedger (Ledger.resolveSubmitNotAccepted aggregate attempt
        ⟨proof.evidenceSha256, []⟩ now))
      pure (some ⟨attempt.executionId, .resolvedFromBroker, "BROKER_PROVED_NOT_ACCEPTED"⟩))
      fun failure =>
        if failure.isRuntimeError ∨ failure.isValueError then pure none
        else throw failure

/-- `_prove_submit_not_accepted`. -/
def proveSubmitNotAccepted (gateway : Option (RecoveryGateway E)) (attempt : BrokerAttempt)
    (now : DateTime) : Service E (Option OrderRecoveryReceipt) := do
  match attempt.commandKind, gateway.bind (·.proveOrderNotAccepted) with
  | .submit, some verifier =>
    match durableSubmitCommand (← get).database.ledger attempt with
    | none => pure none
    | some (command, startedAt) =>
      match ← verify verifier command with
      | none => pure none
      | some proof =>
        if proof.command ≠ command ∨ proof.capturedAt < startedAt ∨ now < proof.capturedAt then
          pure none
        else resolveNotAccepted attempt proof now
  | _, _ => pure none

/-- The attempts that no proof resolves, and the receipts of those that one does. -/
def proveAll (gateway : Option (RecoveryGateway E)) (now : DateTime) : List BrokerAttempt →
    Service E (List OrderRecoveryReceipt × List BrokerAttempt)
  | [] => pure ([], [])
  | attempt :: rest => do
    let proved ← proveSubmitNotAccepted gateway attempt now
    let (receipts, unresolved) ← proveAll gateway now rest
    match proved with
    | some receipt => pure (receipt :: receipts, unresolved)
    | none => pure (receipts, attempt :: unresolved)

/-- `_mark_attempts_unknown` of the production service. -/
def productionMark (gateway : Option (RecoveryGateway E)) (attempts : List BrokerAttempt)
    (now : DateTime) (reason : String) : Service E (List OrderRecoveryReceipt) :=
  if reason ≠ "BROKER_ACCEPTANCE_UNPROVEN" then markAttemptsUnknown now reason attempts
  else do
    let (receipts, unresolved) ← proveAll gateway now attempts
    let marked ← markAttemptsUnknown now reason unresolved
    pure (receipts ++ marked)

/-- `_broker_evidence_matches`. -/
def brokerEvidenceMatches (aggregate : OrderAggregate) (fact : BrokerOrderFact)
    (fills : List BrokerFillFact) : Prop :=
  (fact.clientOrderId = some aggregate.intent.uquantOrderId ∧
    fact.symbol = aggregate.intent.symbol ∧ fact.side = aggregate.intent.side ∧
    fact.requestedShares = aggregate.intent.requestedShares) ∧
  (∀ fill ∈ fills, fill.brokerOrderId = fact.brokerOrderId ∧ fill.symbol = fact.symbol ∧
    fill.side = fact.side ∧ fill.status = .confirmed) ∧
  (fills.map (·.shares)).sum = fact.filledShares

instance (aggregate : OrderAggregate) (fact : BrokerOrderFact) (fills : List BrokerFillFact) :
    Decidable (brokerEvidenceMatches aggregate fact fills) := by
  delta brokerEvidenceMatches
  infer_instance

/-- The broker orders that may answer an attempt. -/
def candidates (aggregate : OrderAggregate) (attempt : BrokerAttempt)
    (orders : List BrokerOrderFact) : List BrokerOrderFact :=
  match attempt.commandKind with
  | .submit => orders.filter (·.clientOrderId = some aggregate.intent.uquantOrderId)
  | .cancel => orders.filter fun order => aggregate.brokerOrderId = some order.brokerOrderId

/-- The fills of one order. -/
def relatedFills (brokerOrderId : String) (fills : List BrokerFillFact) : List BrokerFillFact :=
  fills.filter (·.brokerOrderId = brokerOrderId)

variable (service : RecoveryService E)

/-- `_mark_attempts_unknown` of the service's own class. -/
def markAttempts (attempts : List BrokerAttempt) (now : DateTime) (reason : String) :
    Service E (List OrderRecoveryReceipt) :=
  if service.asksForProof then productionMark service.gateway attempts now reason
  else markAttemptsUnknown now reason attempts

/-- The transaction that records the answer to an attempt. -/
def answer (aggregate : OrderAggregate) (attempt : BrokerAttempt) (fact : BrokerOrderFact)
    (fills : List BrokerFillFact) (now : DateTime) : LedgerTxn OrderAggregate :=
  match attempt.commandKind with
  | .submit => service.orders.recordSubmitResult aggregate attempt fact fills now
  | .cancel => service.orders.recordCancelResult aggregate attempt fact fills now

/-- A receipt for an attempt whose evidence contradicts, and its blocker. -/
def contradiction (attempt : BrokerAttempt) (reasonCode : String) (blocker : RecoveryBlocker) :
    List OrderRecoveryReceipt × List RecoveryBlocker :=
  ([⟨attempt.executionId, .contradiction, reasonCode⟩], [blocker])

/-- The end of the loop of `_recover_orders`: one broker order answers the attempt. -/
def recordAnswer (aggregate : OrderAggregate) (attempt : BrokerAttempt) (fact : BrokerOrderFact)
    (fills : List BrokerFillFact) (now : DateTime) :
    Service E (List OrderRecoveryReceipt × List RecoveryBlocker) :=
  tryCatch (do
    let _ ← transact (Database.onLedger (answer service aggregate attempt fact fills now))
    pure ([⟨attempt.executionId, .resolvedFromBroker, "QUERIED_BROKER_FACT_APPLIED"⟩], []))
    fun failure =>
      if failure.isPersistenceConflict ∨ failure.isDatabaseError ∨ failure.isValueError then
        pure (contradiction attempt "BROKER_RECOVERY_CONTRADICTION" .brokerRecoveryContradiction)
      else throw failure

/-- The body of the loop of `_recover_orders`. -/
def recoverAttempt (orders : List BrokerOrderFact) (fills : List BrokerFillFact) (now : DateTime)
    (attempt : BrokerAttempt) : Service E (List OrderRecoveryReceipt × List RecoveryBlocker) := do
  match (← get).database.ledger.load attempt.executionId with
  | none => pure (contradiction attempt "RECOVERY_AGGREGATE_MISSING" .recoveryAggregateMissing)
  | some aggregate =>
    match candidates aggregate attempt orders with
    | [] => do
      let receipts ← markAttempts service [attempt] now "BROKER_ACCEPTANCE_UNPROVEN"
      pure (receipts, [])
    | [fact] =>
      if brokerEvidenceMatches aggregate fact (relatedFills fact.brokerOrderId fills) then
        recordAnswer service aggregate attempt fact (relatedFills fact.brokerOrderId fills) now
      else
        pure (contradiction attempt "BROKER_RECOVERY_CONTRADICTION" .brokerRecoveryContradiction)
    | _ =>
      pure (contradiction attempt "MULTIPLE_BROKER_ORDER_MATCHES" .multipleBrokerOrderMatches)

/-- The loop of `_recover_orders`. -/
def recoverAttempts (orders : List BrokerOrderFact) (fills : List BrokerFillFact) (now : DateTime) :
    List BrokerAttempt → Service E (List OrderRecoveryReceipt × List RecoveryBlocker)
  | [] => pure ([], [])
  | attempt :: rest => do
    let (receipts, blockers) ← recoverAttempt service orders fills now attempt
    let (more, others) ← recoverAttempts orders fills now rest
    pure (receipts ++ more, blockers ++ others)

/-- The broker orders that the ledger has mapped, sorted by id. -/
def localRows (ledger : Ledger) : List BrokerOrderRow :=
  (ledger.brokerOrders.filter (·.ownership = .system)).insertionSort
    (fun a b => ¬ b.brokerOrderId < a.brokerOrderId)

/-- The body of the loop of `_apply_late_facts`. -/
def applyLateFact (orders : List BrokerOrderFact) (fills : List BrokerFillFact) (now : DateTime)
    (row : BrokerOrderRow) : Service E (List OrderRecoveryReceipt × List RecoveryBlocker) := do
  match orders.reverse.find? (·.brokerOrderId = row.brokerOrderId) with
  | none => pure ([], [])
  | some fact =>
    match row.executionId.bind (← get).database.ledger.load with
    | none => pure ([], [.recoveryAggregateMissing])
    | some aggregate =>
      tryCatch (do
        let recovered ← transact (Database.onLedger (service.orders.reconcileBrokerFact aggregate
          fact (relatedFills row.brokerOrderId fills) now))
        let receipts :=
          if recovered.version ≠ aggregate.version then
            [⟨recovered.intent.executionId, .lateFactApplied, "QUERIED_LATE_BROKER_FACT_APPLIED"⟩]
          else []
        let blockers :=
          if recovered.lateFillInvestigationRequired then
            [RecoveryBlocker.lateFillInvestigationRequired] else []
        pure (receipts, blockers))
        fun failure =>
          if failure.isRuntimeError ∨ failure.isDatabaseError ∨ failure.isValueError then
            pure ([], [.brokerRecoveryContradiction])
          else throw failure

/-- The loop of `_apply_late_facts`. -/
def applyLateFactRows (orders : List BrokerOrderFact) (fills : List BrokerFillFact)
    (now : DateTime) : List BrokerOrderRow →
    Service E (List OrderRecoveryReceipt × List RecoveryBlocker)
  | [] => pure ([], [])
  | row :: rest => do
    let (receipts, blockers) ← applyLateFact service orders fills now row
    let (more, others) ← applyLateFactRows orders fills now rest
    pure (receipts ++ more, blockers ++ others)

/-- `_apply_late_facts`. -/
def applyLateFacts (orders : List BrokerOrderFact) (fills : List BrokerFillFact) (now : DateTime) :
    Service E (List OrderRecoveryReceipt × List RecoveryBlocker) := do
  let rows := localRows (← get).database.ledger
  let external : List RecoveryBlocker :=
    if orders.any fun order => order.brokerOrderId ∉ rows.map (·.brokerOrderId) then
      [.externalBrokerOrder] else []
  let unmapped : List RecoveryBlocker :=
    if fills.any fun fill => fill.brokerOrderId ∉ rows.map (·.brokerOrderId) then
      [.unmappedBrokerFill] else []
  let (receipts, blockers) ← applyLateFactRows service orders fills now rows
  pure (receipts, external ++ unmapped ++ blockers)

/-- The queries of `_recover_orders`, or nothing when any of them fails. -/
def queryBroker (gateway : RecoveryGateway E) :
    Service E (Option (List BrokerOrderFact × List BrokerFillFact)) :=
  tryCatch (do
    let health ← call gateway.health
    if ¬ (health.connected ∧ health.readHealthy) then
      throw (.recoveryError "broker is not readable during recovery")
    else do
      let orders ← call gateway.queryOrders
      let fills ← call gateway.queryFills
      pure (some (orders, fills))) fun _ => pure none

/-- The orders when the broker cannot be read. -/
def recoverWithoutBroker (attempts : List BrokerAttempt) (now : DateTime) :
    Service E (List OrderRecoveryReceipt × List RecoveryBlocker) := do
  let receipts ← markAttempts service attempts now "BROKER_RECOVERY_UNAVAILABLE"
  pure (receipts, if attempts = [] then [] else [.brokerRecoveryUnavailable])

/-- `_recover_orders`. -/
def recoverOrders (now : DateTime) :
    Service E (List OrderRecoveryReceipt × List RecoveryBlocker) := do
  let ledger := (← get).database.ledger
  let attempts := pendingAttempts service.attemptText ledger
  if attempts = [] ∧ ¬ ledger.brokerOrders.any (·.ownership = .system) then pure ([], [])
  else
    match service.gateway with
    | none => recoverWithoutBroker service attempts now
    | some gateway =>
      match ← queryBroker gateway with
      | none => recoverWithoutBroker service attempts now
      | some (orders, fills) => do
        let (receipts, blockers) ← recoverAttempts service orders fills now attempts
        let (late, lateBlockers) ← applyLateFacts service orders fills now
        pure (receipts ++ late, blockers ++ lateBlockers)

/-! ## The report -/

/-- The executions that recovery leaves unresolved. -/
def unresolvedStates : List OrderState := [.submitting, .cancelRequested, .unknown]

/-- The ids of the executions in those states, sorted by their text. -/
def unresolvedOrderIds (text : ExecutionId → String) (ledger : Ledger) : List ExecutionId :=
  ((ledger.executionIntents.filter fun row => row.state ∈ unresolvedStates).map
    (·.executionId)).insertionSort fun a b => ¬ text b < text a

/-- The number of values that occur more than once. -/
def duplicates {α : Type} [DecidableEq α] (values : List α) : ℕ :=
  (values.dedup.filter fun value => 1 < values.count value).length

/-- The report on what the two parts found and left. -/
def report (database : Database) (accountReceipts : List AccountRecoveryReceipt)
    (orderReceipts : List OrderRecoveryReceipt) (blockers : List RecoveryBlocker) :
    RecoveryReport :=
  let unresolved := unresolvedOrderIds service.executionText database.ledger
  let duplicateOrders :=
    duplicates (database.ledger.executionIntents.map fun row => (row.decisionId, row.uquantOrderId))
  let duplicateFills := duplicates (database.ledger.fills.map (·.brokerFillId))
  { accountReceipts := accountReceipts
    orderReceipts := orderReceipts
    unresolvedOrderIds := unresolved
    blockers := RecoveryBlocker.sorted (blockers ++
      (if unresolved = [] then [] else [.unresolvedOrderState]) ++
      (if duplicateOrders = 0 then [] else [.duplicateEconomicOrder]) ++
      (if duplicateFills = 0 then [] else [.duplicateBrokerFill]))
    duplicateOrders := duplicateOrders
    duplicateFills := duplicateFills }

/-- `_append_report_audit`. -/
def reportAudit (report : RecoveryReport) (now : DateTime) : AuditRow :=
  Database.auditRow (.recoveryReport now report) (.recoveryReport now report) now

/-- `recover`. -/
def recover : Service E RecoveryReport := do
  let now ← call fun e => (.ok (service.clock e).1, (service.clock e).2)
  let (accountReceipts, accountBlockers) ← recoverAccounts service.accountConfigured now
  let (orderReceipts, orderBlockers) ← recoverOrders service now
  let result := report service (← get).database accountReceipts orderReceipts
    (accountBlockers ++ orderBlockers)
  transact (Database.appendAudit (reportAudit result now))
  pure result

/-! ## The production service -/

/-- The repository of the production service. -/
def monotonicRepository : OrderRepository where
  recordSubmitResult := Ledger.recordSubmitResult
  recordCancelResult := Ledger.recordCancelResult
  reconcileBrokerFact := Ledger.reconcileBrokerFact

/-- `ProductionRecoveryService`. -/
def production (accountConfigured : Bool) (gateway : Option (RecoveryGateway E))
    (clock : E → DateTime × E) (attemptText : AttemptId → String)
    (executionText : ExecutionId → String) : RecoveryService E where
  accountConfigured := accountConfigured
  gateway := gateway
  clock := clock
  orders := monotonicRepository
  attemptText := attemptText
  executionText := executionText
  asksForProof := true

end Recovery

end FirmQuant
