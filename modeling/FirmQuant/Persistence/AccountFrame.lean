import FirmQuant.Persistence.AccountReceipts

/-!
# What the recovery of an operation writes

The recovery of one account operation changes the row of that operation, and adds audit events of
that operation and at most the reconciliation that it had sealed.  Everything beside it stays, so
the operations of a loop can be looked at one after another.
-/

namespace FirmQuant

open Effect

namespace Recovery

/-! ## What recovery finds of an operation -/

/-- The audit event of a reconciliation. -/
def reconciliationAudit (receipt : ReconciliationReceipt) (snapshot : Digest) : AuditRow :=
  Database.auditRow (.reconciliation receipt.reconciliationId) (.reconciliation receipt snapshot)
    receipt.reconciliationId.completedAt

/-- Whatever is recorded under the id of the reconciliation is this reconciliation. -/
def Recordable (database : Database) (receipt : ReconciliationReceipt) (snapshot : Digest) :
    Prop :=
  (∀ run, database.reconciliationRuns.find? (·.reconciliationId = receipt.reconciliationId) =
    some run → run = receipt) ∧
  ∀ audit, database.auditEvents.find?
    (·.auditEventId = .reconciliation receipt.reconciliationId) = some audit →
    audit = reconciliationAudit receipt snapshot

/-- The first recovery settles every operation for good: none is left for a retry, every one to be
finalized has sealed a reconciliation that can be recorded, and no two of these clash. -/
structure SettledAtOnce (configured : Bool) (database : Database) (file : AccountFile) : Prop where
  not_retried : ∀ row ∈ database.accountOperations, ¬ Retried configured file row
  recordable : ∀ row ∈ database.accountOperations, Applied configured file row →
    ∃ receipt snapshot, row.finalization = some (.receipt receipt snapshot) ∧
      Recordable database receipt snapshot
  agree : ∀ row ∈ database.accountOperations, ∀ other ∈ database.accountOperations,
    Applied configured file row → Applied configured file other →
    ∀ receipt snapshot receipt' snapshot',
      row.finalization = some (.receipt receipt snapshot) →
      other.finalization = some (.receipt receipt' snapshot') →
      receipt.reconciliationId = receipt'.reconciliationId →
      receipt = receipt' ∧ snapshot = snapshot'

/-! ## What the recovery of an operation writes -/

lemma Concerns.unique {operationId operationId' : String} {id : AuditEventId}
    (h : Concerns operationId id) (h' : Concerns operationId' id) : operationId = operationId' := by
  cases id with
  | accountOperation id | accountRecovery id classification actual => exact h.symm.trans h'
  | reconciliation id | recoveryReport observedAt report => exact h.elim

/-- From `database` to `database'` nothing changed but the operation with this id, and only audit
events of that operation and reconciliations of `records` were added. -/
structure Beside (operationId : String) (records : ReconciliationReceipt → Digest → Prop)
    (database database' : Database) : Prop where
  ledger_eq : database'.ledger = database.ledger
  ids_eq : database'.accountOperations.map (·.operationId) =
    database.accountOperations.map (·.operationId)
  others : ∀ row : AccountOperationRow, row.operationId ≠ operationId →
    (row ∈ database'.accountOperations ↔ row ∈ database.accountOperations)
  events : ∃ added, database'.auditEvents = database.auditEvents ++ added ∧
    ∀ audit ∈ added, Concerns operationId audit.auditEventId ∨
      ∃ receipt snapshot, records receipt snapshot ∧ audit = reconciliationAudit receipt snapshot
  runs : ∃ added, database'.reconciliationRuns = database.reconciliationRuns ++ added ∧
    ∀ run ∈ added, ∃ snapshot, records run snapshot

section Beside

variable {operationId : String} {records : ReconciliationReceipt → Digest → Prop}
  {database : Database}

lemma Beside.refl (database : Database) : Beside operationId records database database where
  ledger_eq := rfl
  ids_eq := rfl
  others _ _ := Iff.rfl
  events := ⟨[], by simp⟩
  runs := ⟨[], by simp⟩

lemma beside_updateOperation {stages : List AccountStage} {stage : AccountStage}
    {actual : Option Digest} {now : DateTime} :
    Txn.Preserves (Beside operationId records database)
      (AccountOperation.updateOperation operationId stages stage actual now) := by
  refine Txn.preserves_modify fun present h =>
    ⟨h.ledger_eq, ?_, fun row hrow => ?_, h.events, h.runs⟩
  · rw [← h.ids_eq]
    dsimp only
    rw [List.map_map]
    refine List.map_congr_left fun row _ => ?_
    dsimp only [Function.comp]
    split <;> rfl
  · rw [← h.others row hrow]
    constructor
    · intro hmem
      obtain ⟨old, hold, heq⟩ := List.mem_map.mp hmem
      by_cases hcase : old.operationId = operationId ∧ old.stage ∈ stages
      · rw [if_pos hcase] at heq
        rw [← heq] at hrow
        exact absurd hcase.1 hrow
      · rw [if_neg hcase] at heq
        exact heq ▸ hold
    · intro hmem
      refine List.mem_map.mpr ⟨row, hmem, ?_⟩
      rw [if_neg fun hcase => hrow hcase.1]

lemma beside_appendAudit {audit : AuditRow}
    (haudit : Concerns operationId audit.auditEventId ∨
      ∃ receipt snapshot, records receipt snapshot ∧
        audit = reconciliationAudit receipt snapshot) :
    Txn.Preserves (Beside operationId records database) (Database.appendAudit audit) := by
  refine Database.preserves_appendAudit fun present h =>
    ⟨h.ledger_eq, h.ids_eq, h.others, ?_, h.runs⟩
  obtain ⟨added, hevents, hadded⟩ := h.events
  refine ⟨added ++ [audit], ?_, ?_⟩
  · dsimp only
    rw [hevents, List.append_assoc]
  · intro other hother
    rcases List.mem_snoc.mp hother with hother | hother
    · exact hadded other hother
    · rw [hother]
      exact haudit

lemma beside_commitReconciliation {receipt : ReconciliationReceipt} {snapshot : Digest}
    (hrecords : records receipt snapshot) :
    Txn.Preserves (Beside operationId records database)
      (Database.commitReconciliation receipt snapshot) := by
  refine Database.preserves_commitReconciliation
    (fun present h => ⟨h.ledger_eq, h.ids_eq, h.others, h.events, ?_⟩)
    (beside_appendAudit (.inr ⟨receipt, snapshot, hrecords, rfl⟩))
  obtain ⟨added, hruns, hadded⟩ := h.runs
  refine ⟨added ++ [receipt], ?_, ?_⟩
  · dsimp only
    rw [hruns, List.append_assoc]
  · intro run hrun
    rcases List.mem_snoc.mp hrun with hrun | hrun
    · exact hadded run hrun
    · rw [hrun]
      exact ⟨snapshot, hrecords⟩

end Beside

section Frame

variable {E : Type} {configured : Bool} {file : AccountFile} {row : AccountOperationRow}
  {database : Database} {outside : E}

/-- The reconciliations that the recovery of an operation may record. -/
def Sealed (configured : Bool) (file : AccountFile) (row : AccountOperationRow)
    (receipt : ReconciliationReceipt) (snapshot : Digest) : Prop :=
  Applied configured file row ∧ row.finalization = some (.receipt receipt snapshot)

/-- The recovery of one operation, so far: beside the operation nothing changed. -/
def Touched (configured : Bool) (file : AccountFile) (row : AccountOperationRow)
    (database : Database) (outside : E) (w : Installation E) : Prop :=
  (w.file = file ∧ w.outside = outside) ∧
    Beside row.operationId (Sealed configured file row) database w.database

lemma keeps_transact_touched {α : Type} {x : DatabaseTxn α}
    (hx : Txn.Preserves (Beside row.operationId (Sealed configured file row) database) x) :
    Keeps (Touched configured file row database outside) (Service.transact x : Service E α) := by
  rintro w ⟨hfile, hbeside⟩
  unfold Service.transact
  cases h : x w.database with
  | error failure => exact ⟨hfile, hbeside⟩
  | ok p => exact ⟨hfile, hx _ p.1 p.2 hbeside h⟩

lemma keeps_recoverAccount_touched (hstage : row.stage ≠ .receiptCommitted) (now : DateTime) :
    Keeps (Touched configured file row database outside)
      (recoverAccount configured row now : Service E _) :=
  keeps_recoverAccount_of (fun _ => keeps_transact_touched)
    (fun _ _ _ _ _ _ _ => beside_updateOperation) (fun _ h => beside_appendAudit (.inl h))
    (fun _ _ _ hw happlied hfinal => beside_commitReconciliation ⟨hw.1.1 ▸ happlied, hfinal⟩) hstage

end Frame

/-! ## Writes that find no obstacle -/

section Writes

variable {E : Type} {row : AccountOperationRow}

variable {audit : AuditRow} {database' : Database} {a : PUnit} {receipt : ReconciliationReceipt}
  {snapshot : Digest} {w : Installation E}

variable {database : Database}

lemma appendAudit_ok (h : ∀ other ∈ database.auditEvents, other.auditEventId ≠ audit.auditEventId) :
    Database.appendAudit audit database =
      .ok (⟨⟩, { database with auditEvents := database.auditEvents ++ [audit] }) := by
  have hnone : database.auditEvents.find? (·.auditEventId = audit.auditEventId) = none := by
    rw [List.find?_eq_none]
    intro other hother
    exact fun heq => h other hother (of_decide_eq_true heq)
  unfold Database.appendAudit
  rw [hnone]

/-- An audit event is appended, or it is already there. -/
lemma find_of_appendAudit (h : Database.appendAudit audit database = .ok (a, database')) :
    database'.auditEvents.find? (·.auditEventId = audit.auditEventId) = some audit ∧
      ∀ other, database.auditEvents.find? (·.auditEventId = audit.auditEventId) = some other →
        other = audit := by
  unfold Database.appendAudit at h
  split at h
  next hnone =>
    cases h
    refine ⟨?_, fun other hother => ?_⟩
    · rw [List.find?_append, hnone]
      simp
    · rw [hnone] at hother
      cases hother
  next existing hfind =>
    split at h
    next hsame =>
      cases h
      refine ⟨hsame ▸ hfind, fun other hother => ?_⟩
      rw [hfind] at hother
      cases hother
      exact hsame
    · cases h

/-- An audit event changes no other table. -/
lemma tables_of_appendAudit (h : Database.appendAudit audit database = .ok (a, database')) :
    database'.reconciliationRuns = database.reconciliationRuns ∧
      database'.accountOperations = database.accountOperations ∧
      ∃ added, database'.auditEvents = database.auditEvents ++ added := by
  rcases Database.appendAudit_eq_ok h with rfl | rfl
  · exact ⟨rfl, rfl, [], (List.append_nil _).symm⟩
  · exact ⟨rfl, rfl, _, rfl⟩

lemma commitReconciliation_ok (h : Recordable database receipt snapshot) :
    ∃ database', Database.commitReconciliation receipt snapshot database = .ok (⟨⟩, database') ∧
      database'.accountOperations = database.accountOperations ∧
      ∀ audit ∈ database'.auditEvents, audit ∈ database.auditEvents ∨
        audit.auditEventId = .reconciliation receipt.reconciliationId := by
  have happend : ∀ present : Database, present.auditEvents = database.auditEvents →
      ∃ database', Database.appendAudit (reconciliationAudit receipt snapshot) present =
        .ok (⟨⟩, database') ∧ database'.accountOperations = present.accountOperations ∧
        ∀ audit ∈ database'.auditEvents, audit ∈ database.auditEvents ∨
          audit.auditEventId = .reconciliation receipt.reconciliationId := by
    intro present hpresent
    unfold Database.appendAudit
    rw [hpresent]
    cases hfind : database.auditEvents.find?
        (·.auditEventId = (reconciliationAudit receipt snapshot).auditEventId) with
    | none =>
      refine ⟨_, rfl, rfl, fun audit haudit => ?_⟩
      dsimp only at haudit
      rw [List.mem_append, List.mem_singleton] at haudit
      rcases haudit with haudit | rfl
      · exact .inl haudit
      · exact .inr rfl
    | some existing =>
      have hsame : existing = reconciliationAudit receipt snapshot := h.2 existing hfind
      refine ⟨present, if_pos hsame, rfl, fun audit haudit => .inl (hpresent ▸ haudit)⟩
  rw [Database.commitReconciliation_run]
  cases hfind : database.reconciliationRuns.find?
      (·.reconciliationId = receipt.reconciliationId) with
  | none => exact happend { database with
      reconciliationRuns := database.reconciliationRuns ++ [receipt] } rfl
  | some existing =>
    dsimp only
    rw [if_pos (h.1 existing hfind)]
    exact happend database rfl

/-- Settling an operation without an audit event of this classification. -/
lemma settle_ok (stage : AccountStage) (persisted : Option Digest) (now : DateTime)
    {classification : AccountRecoveryClassification} {actual : Option Digest}
    (hfresh : ∀ audit ∈ w.database.auditEvents,
      audit.auditEventId ≠ .accountRecovery row.operationId classification actual) :
    ∃ w', settle row stage persisted classification actual now w =
        .ok ⟨row.operationId, classification, actual⟩ w' ∧
      ∀ other ∈ w'.database.accountOperations, other.operationId = row.operationId →
        other.stage = stage := by
  let updated : Database := { w.database with
    accountOperations := w.database.accountOperations.map fun other =>
      if other.operationId = row.operationId ∧ other.stage ∈ AccountOperation.anyStage then
        { other with stage := stage, actualAccountAfterSha256 := persisted, updatedAt := now }
      else other }
  have hwrite : (do
      AccountOperation.updateOperation row.operationId AccountOperation.anyStage stage persisted
        now
      Database.appendAudit (recoveryAudit row.operationId classification actual now) :
      DatabaseTxn PUnit) w.database = .ok (⟨⟩, { updated with
        auditEvents := w.database.auditEvents ++
          [recoveryAudit row.operationId classification actual now] }) := by
    have hupdate : AccountOperation.updateOperation row.operationId AccountOperation.anyStage stage
      persisted now w.database = .ok (⟨⟩, updated) := rfl
    rw [Txn.bind_run, hupdate]
    exact appendAudit_ok hfresh
  unfold settle
  rw [bind_apply, Service.transact_of_ok hwrite]
  refine ⟨_, rfl, fun other hother hid => ?_⟩
  obtain ⟨old, -, rfl⟩ := List.mem_map.mp hother
  have hany : old.stage ∈ AccountOperation.anyStage := by cases old.stage <;> decide
  by_cases hcase : old.operationId = row.operationId ∧ old.stage ∈ AccountOperation.anyStage
  · rw [if_pos hcase]
  · rw [if_neg hcase] at hid
    exact absurd ⟨hid, hany⟩ hcase

/-- Finalizing an operation without audit events, with a reconciliation that can be recorded. -/
lemma finalization_ok (actual : Digest) (now : DateTime)
    (hfinal : row.finalization = some (.receipt receipt snapshot))
    (hstage : ∀ other ∈ w.database.accountOperations, other.operationId = row.operationId →
      other.stage = .prepared ∨ other.stage = .fileCommitted)
    (hfresh : ∀ audit ∈ w.database.auditEvents, ¬ Concerns row.operationId audit.auditEventId)
    (hrec : Recordable w.database receipt snapshot) :
    ∃ w', recoverBrokerSyncFinalization row actual now w = .ok true w' ∧
      ∀ other ∈ w'.database.accountOperations, other.operationId = row.operationId →
        other.stage = .receiptCommitted := by
  let updated : Database := { w.database with
    accountOperations := w.database.accountOperations.map fun other =>
      if other.operationId = row.operationId ∧
          other.stage ∈ [AccountStage.prepared, .fileCommitted] then
        { other with
          stage := .receiptCommitted
          actualAccountAfterSha256 := some actual
          updatedAt := now }
      else other }
  let committed : Database := { updated with
    auditEvents := w.database.auditEvents ++
      [AccountOperation.committedAudit row.operationId "BROKER_SYNC" row.accountPathSha256
        row.evidenceSha256 row.accountBeforeSha256 row.expectedAccountAfterSha256 now] }
  have hcommitted : Recordable committed receipt snapshot := by
    refine ⟨hrec.1, fun audit haudit => hrec.2 audit ?_⟩
    dsimp only [committed] at haudit
    rw [List.find?_append] at haudit
    simpa [AccountOperation.committedAudit, Database.auditRow] using haudit
  obtain ⟨recorded, hrecorded, hoperations, hevents⟩ := commitReconciliation_ok hcommitted
  have hfresh' : ∀ audit ∈ recorded.auditEvents, audit.auditEventId ≠
      (recoveryAudit row.operationId .fileAppliedReceiptMissing (some actual)
        now).auditEventId := by
    intro audit haudit heq
    rcases hevents audit haudit with hold | hnew
    · rcases List.mem_snoc.mp hold with hold | hold
      · exact hfresh audit hold (heq ▸ rfl)
      · rw [hold] at heq
        cases heq
    · rw [hnew] at heq
      cases heq
  have hwrite : finalizationTransaction row (.receipt receipt snapshot) actual now w.database =
      .ok (⟨⟩, { recorded with auditEvents := recorded.auditEvents ++
        [recoveryAudit row.operationId .fileAppliedReceiptMissing (some actual) now] }) := by
    have hupdate : AccountOperation.updateOperation row.operationId [.prepared, .fileCommitted]
      .receiptCommitted (some actual) now w.database = .ok (⟨⟩, updated) := rfl
    have haudit : Database.appendAudit (AccountOperation.committedAudit row.operationId
        "BROKER_SYNC" row.accountPathSha256 row.evidenceSha256 row.accountBeforeSha256
        row.expectedAccountAfterSha256 now) updated = .ok (⟨⟩, committed) :=
      appendAudit_ok fun other hother heq => hfresh other hother (heq ▸ rfl)
    have hfinalize : Database.commitReconciliationFinalization (.receipt receipt snapshot)
      committed = .ok (⟨⟩, recorded) := hrecorded
    unfold finalizationTransaction
    rw [Txn.bind_run, hupdate]
    dsimp only
    rw [Txn.bind_run, haudit]
    dsimp only
    rw [Txn.bind_run, hfinalize]
    exact appendAudit_ok hfresh'
  unfold recoverBrokerSyncFinalization
  rw [hfinal]
  dsimp only
  rw [tryCatch_apply, bind_apply, Service.transact_of_ok hwrite]
  refine ⟨_, rfl, fun other hother hid => ?_⟩
  have hother' : other ∈ updated.accountOperations := hoperations ▸ hother
  obtain ⟨old, hold, rfl⟩ := List.mem_map.mp hother'
  by_cases hcase : old.operationId = row.operationId ∧
      old.stage ∈ [AccountStage.prepared, .fileCommitted]
  · rw [if_pos hcase]
  · rw [if_neg hcase] at hid
    exact absurd ⟨hid, by simpa using hstage old hold hid⟩ hcase

end Writes

end Recovery

end FirmQuant
