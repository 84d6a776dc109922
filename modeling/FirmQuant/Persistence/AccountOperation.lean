import FirmQuant.Persistence.AuditLedger

/-!
# Account operations

`AccountOperation` of `persistence/recovery.py`: the account file is replaced by a protocol that
writes the database before the file and the file before the receipt.

What survives a crash is the database and the account file.  A program keeps, beside them, the
list of its crash points: the durable state after each of its durable writes.  No program reads
that list.  The file is known by the digest of its path and by the economic digest of its
content; either is missing when it cannot be read.
-/

namespace FirmQuant

open Effect

/-! ## The durable state -/

/-- The account file. -/
structure AccountFile where
  pathSha256 : Option Digest
  economicSha256 : Option Digest
  deriving DecidableEq

/-- The state of an installation: what is durable, what is outside, and the durable states in
which a crash could have left the running program. -/
structure Installation (E : Type) where
  database : Database
  file : AccountFile
  outside : E
  crashPoints : List (Database × AccountFile)

/-- A program of an installation. -/
abbrev Service (E : Type) := EStateM Failure (Installation E)

namespace Service

variable {E : Type}

/-- `with database.transaction()`. -/
def transact {α : Type} (x : DatabaseTxn α) : Service E α := fun w =>
  match x w.database with
  | .ok (a, database) =>
    .ok a { w with
      database := database
      crashPoints := w.crashPoints ++ [(database, w.file)] }
  | .error failure => .error failure w

variable {α : Type} {x : DatabaseTxn α} {w : Installation E}

lemma transact_of_ok {a : α} {database : Database} (h : x w.database = .ok (a, database)) :
    (transact x : Service E α) w =
      .ok a { w with
        database := database
        crashPoints := w.crashPoints ++ [(database, w.file)] } := by
  unfold transact
  rw [h]

lemma transact_of_error {failure : Failure} (h : x w.database = .error failure) :
    (transact x : Service E α) w = .error failure w := by
  unfold transact
  rw [h]

/-- A computation that reads nothing. -/
def lift {α : Type} : Except Failure α → Service E α
  | .ok a => pure a
  | .error failure => throw failure

/-- `_path_sha256`. -/
def pathSha256 : Service E Digest := do
  match (← get).file.pathSha256 with
  | some digest => pure digest
  | none => throw (.recoveryError "account state path cannot be resolved")

/-- `AccountStateStore.hash_file`. -/
def hashFile : Service E Digest := do
  match (← get).file.economicSha256 with
  | some digest => pure digest
  | none => throw (.recoveryError "uquant account file is missing or corrupt")

lemma pathSha256_apply (w : Installation E) : (pathSha256 : Service E Digest) w =
    match w.file.pathSha256 with
    | some digest => .ok digest w
    | none => .error (.recoveryError "account state path cannot be resolved") w := by
  unfold pathSha256
  rw [get_bind_apply]
  cases w.file.pathSha256 <;> rfl

lemma hashFile_apply (w : Installation E) : (hashFile : Service E Digest) w =
    match w.file.economicSha256 with
    | some digest => .ok digest w
    | none => .error (.recoveryError "uquant account file is missing or corrupt") w := by
  unfold hashFile
  rw [get_bind_apply]
  cases w.file.economicSha256 <;> rfl

end Service

/-! ## The protocol -/

/-- `AccountStateStore`: the digest of a prepared account, and the write of one.  A write that
raises may have changed the file all the same. -/
structure AccountStateStore (A : Type) where
  hashState : A → Except Failure Digest
  save : A → AccountFile → Except Failure PUnit × AccountFile

/-- The arguments of `AccountOperation.begin`; an operation id is drawn when the caller gives
none. -/
structure AccountOperationRequest (A : Type) where
  preparedAccount : A
  expectedBeforeSha256 : Digest
  operationKind : String
  evidenceSha256 : Digest
  operationId : String
  finalization : Option Finalization

/-- `AccountOperation`, the handle of an operation. -/
structure AccountOperation (A : Type) where
  preparedAccount : A
  operationId : String
  operationKind : String
  accountBeforeSha256 : Digest
  expectedAccountAfterSha256 : Digest
  evidenceSha256 : Digest
  pathSha256 : Digest

namespace AccountOperation

open Service

variable {A E : Type}

/-- The row of a new operation. -/
def preparedRow (request : AccountOperationRequest A) (path expectedAfter : Digest)
    (now : DateTime) : AccountOperationRow where
  operationId := request.operationId
  operationKind := request.operationKind
  stage := .prepared
  accountBeforeSha256 := request.expectedBeforeSha256
  expectedAccountAfterSha256 := expectedAfter
  actualAccountAfterSha256 := none
  accountPathSha256 := path
  evidenceSha256 := request.evidenceSha256
  finalization := request.finalization
  createdAt := now
  updatedAt := now

/-- The transaction of `begin`: a known id must come with the same row. -/
def insertOperation (row : AccountOperationRow) : DatabaseTxn PUnit := fun database =>
  match database.accountOperations.find? (·.operationId = row.operationId) with
  | none => .ok (⟨⟩, { database with accountOperations := database.accountOperations ++ [row] })
  | some existing =>
    if existing = row then .ok (⟨⟩, database)
    else .error (.persistenceConflict "account operation identity collision")

/-- `begin`. -/
def begin (store : AccountStateStore A) (request : AccountOperationRequest A) (now : DateTime) :
    Service E (AccountOperation A) := do
  let path ← Service.pathSha256
  let current ← hashFile
  if current ≠ request.expectedBeforeSha256 then
    throw (.recoveryContradiction "account file does not match the recorded operation precondition")
  else do
    let expectedAfter ← lift (store.hashState request.preparedAccount)
    transact (insertOperation (preparedRow request path expectedAfter now))
    pure
      { preparedAccount := request.preparedAccount
        operationId := request.operationId
        operationKind := request.operationKind
        accountBeforeSha256 := request.expectedBeforeSha256
        expectedAccountAfterSha256 := expectedAfter
        evidenceSha256 := request.evidenceSha256
        pathSha256 := path }

/-- `UPDATE account_operations … WHERE operation_id = ? AND stage IN (…)`. -/
def updateOperation (operationId : String) (stages : List AccountStage) (stage : AccountStage)
    (actual : Option Digest) (now : DateTime) : DatabaseTxn PUnit :=
  modify fun database => { database with
    accountOperations := database.accountOperations.map fun row =>
      if row.operationId = operationId ∧ row.stage ∈ stages then
        { row with stage := stage, actualAccountAfterSha256 := actual, updatedAt := now }
      else row }

/-- The stages, for an update without a condition on them. -/
def anyStage : List AccountStage := [.prepared, .fileCommitted, .receiptCommitted, .contradiction]

variable (operation : AccountOperation A)

/-- `_stage`. -/
def stage : Service E AccountStage := do
  match (← get).database.accountOperations.find? (·.operationId = operation.operationId) with
  | some row => pure row.stage
  | none => throw (.recoveryError "account operation receipt disappeared")

/-- `_mark_contradiction`. -/
def markContradiction (actual : Option Digest) (now : DateTime) : Service E PUnit :=
  transact (updateOperation operation.operationId anyStage .contradiction actual now)

/-- `_mark_contradiction` and the exception that follows it. -/
def contradict {α : Type} (actual : Option Digest) (now : DateTime) (message : String) :
    Service E α := do
  markContradiction operation actual now
  throw (.recoveryContradiction message)

/-- `self.store.save(self.prepared_account, self.account_path)`; the file is durable after it. -/
def save (store : AccountStateStore A) : Service E PUnit := fun w =>
  let (result, file) := store.save operation.preparedAccount w.file
  let w' := { w with file := file, crashPoints := w.crashPoints ++ [(w.database, file)] }
  match result with
  | .ok _ => .ok ⟨⟩ w'
  | .error failure => .error failure w'

/-- The part of `commit_file` that writes the file of a PREPARED operation. -/
def replaceFile (store : AccountStateStore A) (now : DateTime) : Service E PUnit := do
  let actualBefore ← hashFile
  if actualBefore = operation.accountBeforeSha256 then save operation store
  else if actualBefore ≠ operation.expectedAccountAfterSha256 then
    contradict operation (some actualBefore) now "account file changed before atomic commit"
  let actualAfter ← hashFile
  if actualAfter ≠ operation.expectedAccountAfterSha256 then
    contradict operation (some actualAfter) now "atomic account file has unexpected identity"
  else
    transact (updateOperation operation.operationId [.prepared] .fileCommitted (some actualAfter)
      now)

/-- `commit_file`. -/
def commitFile (store : AccountStateStore A) (now : DateTime) : Service E PUnit := do
  let path ← Service.pathSha256
  if path ≠ operation.pathSha256 then
    contradict operation none now "account state path identity changed"
  else
    match ← stage operation with
    | .contradiction =>
      throw (.recoveryContradiction "account operation is already contradictory")
    | .prepared => replaceFile operation store now
    | _ =>
      let actual ← hashFile
      if actual ≠ operation.expectedAccountAfterSha256 then
        contradict operation none now "committed account file identity changed"
      else pure ⟨⟩

/-- The audit event of a committed operation. -/
def committedAudit (operationId operationKind : String) (path evidence before after : Digest)
    (now : DateTime) : AuditRow :=
  Database.auditRow (.accountOperation operationId)
    (.operationCommitted operationId operationKind path evidence before after) now

/-- The transaction of `commit_receipt`, with the finalization that its caller gives. -/
def receiptTransaction (actual : Digest) (finalize : Option (ReconciliationReceipt × Digest))
    (now : DateTime) : DatabaseTxn PUnit := do
  updateOperation operation.operationId [.fileCommitted] .receiptCommitted (some actual) now
  Database.appendAudit (committedAudit operation.operationId operation.operationKind
    operation.pathSha256 operation.evidenceSha256 operation.accountBeforeSha256
    operation.expectedAccountAfterSha256 now)
  match finalize with
  | none => pure ⟨⟩
  | some (receipt, brokerSnapshotSha256) =>
    Database.commitReconciliation receipt brokerSnapshotSha256

/-- `commit_receipt`. -/
def commitReceipt (finalize : Option (ReconciliationReceipt × Digest)) (now : DateTime) :
    Service E PUnit := do
  let path ← Service.pathSha256
  if path ≠ operation.pathSha256 then
    contradict operation none now "account state path identity changed"
  else
    match ← stage operation with
    | .receiptCommitted => pure ⟨⟩
    | .fileCommitted => do
      let actual ← hashFile
      if actual ≠ operation.expectedAccountAfterSha256 then
        contradict operation (some actual) now "account file changed before receipt commit"
      else transact (receiptTransaction operation actual finalize now)
    | _ => throw (.recoveryError "account receipt requires a committed file")

end AccountOperation

end FirmQuant
