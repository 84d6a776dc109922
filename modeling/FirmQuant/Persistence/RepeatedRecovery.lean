import FirmQuant.Persistence.SettledRecovery

/-!
# Recovery run again

Every recovery writes an audit event for each account operation that it settles.  The id of the
event is a digest of the operation, its classification and the digest of the file, while the time
of the event is that of the recovery.  An operation that a recovery leaves in place is settled by
the next one with the same event id at another time, which the audit ledger refuses.

From a state that the protocol has left, recovery can therefore be run again and again exactly
when the first run settles every operation for good.
-/

namespace FirmQuant

open Effect

namespace Recovery

/-! ## Operations that are left in place -/

section Stuck

variable {E : Type} {configured : Bool} {file : AccountFile} {row : AccountOperationRow}
  {now : DateTime}

/-- The id of the audit event with which recovery settles an operation. -/
def settlingId (configured : Bool) (file : AccountFile) (row : AccountOperationRow) :
    AuditEventId :=
  .accountRecovery row.operationId (classify row (observedActual configured file row))
    (observedActual configured file row)

/-- Recovery has left an open operation in place with an audit event of the time `now`. -/
def Stuck (configured : Bool) (file : AccountFile) (now : DateTime) (row : AccountOperationRow)
    (database : Database) : Prop :=
  (Retried configured file row ∨ Applied configured file row) ∧
    row ∈ database.accountOperations ∧
    ∃ audit, database.auditEvents.find? (·.auditEventId = settlingId configured file row) =
      some audit ∧ audit.createdAt = now

/-- The reconciliation is recorded. -/
def Recorded (database : Database) (receipt : ReconciliationReceipt) (snapshot : Digest) : Prop :=
  database.reconciliationRuns.find? (·.reconciliationId = receipt.reconciliationId) =
    some receipt ∧
  database.auditEvents.find? (·.auditEventId = .reconciliation receipt.reconciliationId) =
    some (reconciliationAudit receipt snapshot)

variable {operationId : String} {records : ReconciliationReceipt → Digest → Prop}
  {database database' : Database} {receipt : ReconciliationReceipt} {snapshot : Digest}
  {w' : Installation E} {found : List AccountRecoveryReceipt × List RecoveryBlocker}

variable {audit : AuditRow} {a : PUnit} {stage : AccountStage} {persisted : Option Digest}
  {left : AccountOperationRow}

lemma Beside.find_audit (h : Beside operationId records database database') {id : AuditEventId}
    (hfind : database.auditEvents.find? (·.auditEventId = id) = some audit) :
    database'.auditEvents.find? (·.auditEventId = id) = some audit := by
  obtain ⟨added, hevents, -⟩ := h.events
  rw [hevents, List.find?_append, hfind]
  rfl

lemma Beside.find_run (h : Beside operationId records database database') {id : ReconciliationId}
    {run : ReconciliationReceipt}
    (hfind : database.reconciliationRuns.find? (·.reconciliationId = id) = some run) :
    database'.reconciliationRuns.find? (·.reconciliationId = id) = some run := by
  obtain ⟨added, hruns, -⟩ := h.runs
  rw [hruns, List.find?_append, hfind]
  rfl

/-- What can be recorded later could be recorded before. -/
lemma Beside.recordable_before (h : Beside operationId records database database')
    (hrec : Recordable database' receipt snapshot) :
    Recordable database receipt snapshot :=
  ⟨fun run hrun => hrec.1 run (h.find_run hrun), fun audit haudit =>
    hrec.2 audit (h.find_audit haudit)⟩

lemma recorded_of_commitReconciliation
    (h : Database.commitReconciliation receipt snapshot database = .ok (a, database')) :
    Recordable database receipt snapshot ∧ Recorded database' receipt snapshot := by
  rw [Database.commitReconciliation_run] at h
  split at h
  next hnone =>
    obtain ⟨hfind, hsame⟩ := find_of_appendAudit h
    refine ⟨⟨fun run hrun => ?_, hsame⟩, ?_, hfind⟩
    · rw [hnone] at hrun
      cases hrun
    · rw [(tables_of_appendAudit h).1, List.find?_append, hnone]
      simp
  next existing hexisting =>
    split at h
    next heq =>
      obtain ⟨hfind, hsame⟩ := find_of_appendAudit h
      refine ⟨⟨fun run hrun => ?_, hsame⟩, ?_, hfind⟩
      · rw [hexisting] at hrun
        cases hrun
        exact heq
      · rw [(tables_of_appendAudit h).1, hexisting, heq]
    · cases h

lemma operations_of_commitReconciliation
    (h : Database.commitReconciliation receipt snapshot database = .ok (a, database')) :
    database'.accountOperations = database.accountOperations :=
  Database.preserves_commitReconciliation
    (P := fun present => present.accountOperations = database.accountOperations) (fun _ hP => hP)
    (Database.preserves_appendAudit fun _ hP => hP) _ _ _ rfl h

variable {w : Installation E}

lemma transact_eq_ok {α : Type} {x : DatabaseTxn α} {a : α}
    (h : (Service.transact x : Service E α) w = .ok a w') :
    x w.database = .ok (a, w'.database) := by
  unfold Service.transact at h
  split at h
  next hx =>
    cases h
    exact hx
  · cases h

/-- A settled operation has its audit event, and had no other. -/
lemma settle_eq_ok {classification : AccountRecoveryClassification} {actual : Option Digest}
    {receipt : AccountRecoveryReceipt}
    (h : settle row stage persisted classification actual now w = .ok receipt w') :
    (w'.database.auditEvents.find?
        (·.auditEventId = .accountRecovery row.operationId classification actual) =
        some (recoveryAudit row.operationId classification actual now) ∧
      ∀ other, w.database.auditEvents.find?
        (·.auditEventId = .accountRecovery row.operationId classification actual) = some other →
        other = recoveryAudit row.operationId classification actual now) ∧
    ∀ old ∈ w.database.accountOperations, old.operationId = row.operationId →
      { old with stage := stage, actualAccountAfterSha256 := persisted, updatedAt := now } ∈
        w'.database.accountOperations := by
  unfold settle at h
  obtain ⟨u, w₁, hwrite, hpure⟩ := bind_eq_ok.mp h
  cases hpure
  obtain ⟨v, updated, hupdate, hwrite⟩ := Txn.bind_eq_ok.mp (transact_eq_ok hwrite)
  cases hupdate
  refine ⟨find_of_appendAudit hwrite, fun old hold hid => ?_⟩
  rw [(tables_of_appendAudit hwrite).2.1]
  refine List.mem_map.mpr ⟨old, hold, ?_⟩
  have hany : old.stage ∈ AccountOperation.anyStage := by cases old.stage <;> decide
  rw [if_pos ⟨hid, hany⟩]

/-- A finalization that committed had a reconciliation to record and has recorded it. -/
lemma finalization_eq_ok {actual : Digest} {finalized : Bool}
    (h : recoverBrokerSyncFinalization row actual now w = .ok finalized w') :
    (finalized = false ∧ w' = w) ∨ (finalized = true ∧
      (∀ other, w.database.auditEvents.find? (·.auditEventId =
          .accountRecovery row.operationId .fileAppliedReceiptMissing (some actual)) = some other →
        other = recoveryAudit row.operationId .fileAppliedReceiptMissing (some actual) now) ∧
      w'.database.auditEvents.find? (·.auditEventId = .accountOperation row.operationId) =
        some (AccountOperation.committedAudit row.operationId "BROKER_SYNC" row.accountPathSha256
          row.evidenceSha256 row.accountBeforeSha256 row.expectedAccountAfterSha256 now) ∧
      ∃ receipt snapshot, row.finalization = some (.receipt receipt snapshot) ∧
        Recordable w.database receipt snapshot ∧ Recorded w'.database receipt snapshot) := by
  unfold recoverBrokerSyncFinalization at h
  cases hfinal : row.finalization with
  | none =>
    rw [hfinal] at h
    cases h
    exact .inl ⟨rfl, rfl⟩
  | some finalization =>
    rw [hfinal] at h
    dsimp only at h
    rw [tryCatch_apply, bind_apply] at h
    cases hwrite : finalizationTransaction row finalization actual now w.database with
    | error failure =>
      rw [Service.transact_of_error hwrite] at h
      dsimp only at h
      split at h
      · cases h
        exact .inl ⟨rfl, rfl⟩
      · cases h
    | ok p =>
      obtain ⟨u, database⟩ := p
      rw [Service.transact_of_ok hwrite] at h
      cases h
      obtain ⟨u₁, updated, hupdate, hwrite₁⟩ := Txn.bind_eq_ok.mp hwrite
      have hupdated : updated.auditEvents = w.database.auditEvents ∧
          updated.reconciliationRuns = w.database.reconciliationRuns := by
        cases hupdate
        exact ⟨rfl, rfl⟩
      obtain ⟨u₂, committed, hcommitted, hwrite₂⟩ := Txn.bind_eq_ok.mp hwrite₁
      obtain ⟨u₃, recorded, hrecorded, hwrite₃⟩ := Txn.bind_eq_ok.mp hwrite₂
      cases finalization with
      | malformed failure => cases hrecorded
      | receipt receipt snapshot =>
        obtain ⟨hrecordable, hrec⟩ := recorded_of_commitReconciliation hrecorded
        have hbeside₁ : Beside row.operationId (fun _ _ => True) updated committed := by
          refine beside_appendAudit ?_ _ _ _ (Beside.refl _) hcommitted
          exact .inl rfl
        have hbeside₂ : Beside row.operationId (fun _ _ => True) committed recorded :=
          beside_commitReconciliation trivial _ _ _ (Beside.refl _) hrecorded
        have hbeside₃ : Beside row.operationId (fun _ _ => True) recorded database := by
          refine beside_appendAudit ?_ _ _ _ (Beside.refl _) hwrite₃
          exact .inl rfl
        have hevent := (find_of_appendAudit hcommitted).1
        refine .inr ⟨rfl, fun other hother => ?_,
          hbeside₃.find_audit (hbeside₂.find_audit hevent), receipt, snapshot, rfl, ?_,
          hbeside₃.find_run hrec.1, hbeside₃.find_audit hrec.2⟩
        · rw [← hupdated.1] at hother
          exact (find_of_appendAudit hwrite₃).2 other
            (hbeside₂.find_audit (hbeside₁.find_audit hother))
        · have hbefore := hbeside₁.recordable_before hrecordable
          unfold Recordable at hbefore ⊢
          rwa [hupdated.1, hupdated.2] at hbefore

lemma stuck_of_settle {receipt : AccountRecoveryReceipt}
    (h : settle row stage persisted (classify row (observedActual configured file row))
      (observedActual configured file row) now w = .ok receipt w')
    (hopen : ∀ updatedAt, let left := { row with
        stage := stage, actualAccountAfterSha256 := persisted, updatedAt := updatedAt }
      Retried configured file left ∨ Applied configured file left) :
    (∀ other, w.database.auditEvents.find?
        (·.auditEventId = settlingId configured file row) = some other →
      other.createdAt = now) ∧
    (row ∈ w.database.accountOperations → ∃ left : AccountOperationRow,
      left.operationId = row.operationId ∧ Stuck configured file now left w'.database) := by
  obtain ⟨⟨hfind, hother⟩, hmoved⟩ := settle_eq_ok h
  constructor
  · intro other hfound
    rw [hother other hfound]
    rfl
  · intro hmem
    exact ⟨{ row with stage := stage, actualAccountAfterSha256 := persisted, updatedAt := now },
      rfl, hopen now, hmoved row hmem rfl, _, hfind, rfl⟩

/-- An operation that is retried or finalized had no audit event of another time; it is left in
place, or its reconciliation is recorded. -/
lemma recoverAccount_left
    {found : AccountRecoveryReceipt × List RecoveryBlocker} (hfile : w.file = file)
    (h : recoverAccount configured row now w = .ok found w')
    (hrow : Retried configured file row ∨ Applied configured file row) :
    (∀ other, w.database.auditEvents.find?
        (·.auditEventId = settlingId configured file row) = some other →
      other.createdAt = now) ∧
    (row ∈ w.database.accountOperations →
      (∃ left : AccountOperationRow, left.operationId = row.operationId ∧
        Stuck configured file now left w'.database) ∨
      ∃ receipt snapshot, Sealed configured file row receipt snapshot ∧
        Recordable w.database receipt snapshot ∧ Recorded w'.database receipt snapshot) := by
  subst hfile
  have hopen : row.stage = .prepared ∨ row.stage = .fileCommitted := by
    rcases hrow with hretried | happlied
    · exact .inl hretried.1
    · exact happlied.1
  rcases recoverAccount_open configured now hopen w with ⟨hretried, happlied, -⟩ |
    ⟨hretried, hrun⟩ | ⟨happlied, digest, hactual, hrun⟩
  · rcases hrow with h | h
    · exact absurd h hretried
    · exact absurd h happlied
  · have hclass : classify row (observedActual configured w.file row) = .notApplied :=
      if_pos hretried.2.2
    rw [hrun] at h
    obtain ⟨receipt, w₁, hset, hpure⟩ := bind_eq_ok.mp h
    cases hpure
    rw [← hclass] at hset
    obtain ⟨htimes, hstuck⟩ := stuck_of_settle hset fun _ => .inl ⟨rfl, hretried.2⟩
    exact ⟨htimes, fun hmem => .inl (hstuck hmem)⟩
  · have hclass := happlied.2.2
    rw [hrun] at h
    obtain ⟨finalized, w₁, hfinalize, hrest⟩ := bind_eq_ok.mp h
    rcases finalization_eq_ok hfinalize with ⟨rfl, rfl⟩ | ⟨rfl, htimes, -, receipt, snapshot,
      hfinal, hrecordable, hrecorded⟩
    · rw [if_neg Bool.false_ne_true] at hrest
      obtain ⟨receipt, w₂, hset, hpure⟩ := bind_eq_ok.mp hrest
      cases hpure
      rw [← hactual, ← hclass] at hset
      obtain ⟨htimes, hstuck⟩ := stuck_of_settle hset fun _ => .inr ⟨.inr rfl, happlied.2⟩
      exact ⟨htimes, fun hmem => .inl (hstuck hmem)⟩
    · rw [if_pos rfl] at hrest
      cases hrest
      refine ⟨fun other hfound => ?_, fun _ => .inr ⟨receipt, snapshot, ⟨happlied, hfinal⟩,
        hrecordable, hrecorded⟩⟩
      have hid : settlingId configured w.file row = .accountRecovery row.operationId
          .fileAppliedReceiptMissing (some digest) := by
        rw [settlingId, hclass, hactual]
      rw [hid] at hfound
      rw [htimes other hfound]
      rfl

lemma Stuck.beside (h : Stuck configured file now left database)
    (hbeside : Beside operationId records database database')
    (hne : left.operationId ≠ operationId) : Stuck configured file now left database' := by
  obtain ⟨hopen, hmem, audit, hfind, htime⟩ := h
  exact ⟨hopen, (hbeside.others left hne).mpr hmem, audit, hbeside.find_audit hfind, htime⟩

/-- The loop, one operation at a time. -/
lemma recoverAccountRows_cons {rest : List AccountOperationRow}
    (hfile : w.file = file) (hstage : row.stage ≠ .receiptCommitted)
    (h : recoverAccountRows configured now (row :: rest) w = .ok found w') :
    ∃ first more w₁, recoverAccount configured row now w = .ok first w₁ ∧
      recoverAccountRows configured now rest w₁ = .ok more w' ∧
      Touched configured file row w.database w.outside w₁ := by
  unfold recoverAccountRows at h
  obtain ⟨first, w₁, hfirst, h₁⟩ := bind_eq_ok.mp h
  obtain ⟨more, w₂, hrest, h₂⟩ := bind_eq_ok.mp h₁
  cases h₂
  refine ⟨first, more, w₁, hfirst, hrest, ?_⟩
  exact (keeps_recoverAccount_touched hstage now).ok hfirst ⟨⟨hfile, rfl⟩, Beside.refl _⟩

lemma recoverAccountRows_frame (rows : List AccountOperationRow)
    (hstages : ∀ row ∈ rows, row.stage ≠ .receiptCommitted)
    (hrun : recoverAccountRows configured now rows w = .ok found w') :
    w'.file = w.file ∧ w'.outside = w.outside ∧ w'.database.ledger = w.database.ledger := by
  induction rows generalizing w found with
  | nil =>
    cases hrun
    exact ⟨rfl, rfl, rfl⟩
  | cons row rest ih =>
    obtain ⟨first, more, w₁, -, hrest, htouched⟩ :=
      recoverAccountRows_cons rfl (hstages row List.mem_cons_self) hrun
    obtain ⟨hfile, hout, hledger⟩ := ih
      (List.forall_mem_cons.mp hstages).2 hrest
    exact ⟨hfile.trans htouched.1.1, hout.trans htouched.1.2, hledger.trans htouched.2.ledger_eq⟩

lemma recoverAccountRows_unreported (rows : List AccountOperationRow)
    (hstages : ∀ row ∈ rows, row.stage ≠ .receiptCommitted)
    (hold : ∀ audit ∈ w.database.auditEvents, ∀ observedAt report,
      audit.auditEventId ≠ .recoveryReport observedAt report)
    (hrun : recoverAccountRows configured now rows w = .ok found w') :
    ∀ audit ∈ w'.database.auditEvents, ∀ observedAt report,
      audit.auditEventId ≠ .recoveryReport observedAt report := by
  induction rows generalizing w found with
  | nil =>
    cases hrun
    exact hold
  | cons row rest ih =>
    obtain ⟨first, more, w₁, -, hrest, htouched⟩ :=
      recoverAccountRows_cons rfl (hstages row List.mem_cons_self) hrun
    exact ih (List.forall_mem_cons.mp hstages).2
      (htouched.2.unreported hold) hrest

lemma Stuck.rows (rows : List AccountOperationRow)
    (h : Stuck configured file now left w.database) (hfile : w.file = file)
    (hstages : ∀ row ∈ rows, row.stage ≠ .receiptCommitted)
    (hne : ∀ row ∈ rows, left.operationId ≠ row.operationId)
    (hrun : recoverAccountRows configured now rows w = .ok found w') :
    Stuck configured file now left w'.database := by
  induction rows generalizing w found with
  | nil =>
    cases hrun
    exact h
  | cons row rest ih =>
    obtain ⟨first, more, w₁, -, hrest, htouched⟩ :=
      recoverAccountRows_cons hfile (hstages row List.mem_cons_self) hrun
    have hstuck := h.beside htouched.2 (hne row List.mem_cons_self)
    exact ih hstuck htouched.1.1 (List.forall_mem_cons.mp hstages).2
      (List.forall_mem_cons.mp hne).2 hrest

/-- A loop that returns found no audit event of another time for an operation that it retries or
finalizes. -/
lemma createdAt_of_rows (rows : List AccountOperationRow)
    (hfile : w.file = file) (hstages : ∀ row ∈ rows, row.stage ≠ .receiptCommitted)
    (hrun : recoverAccountRows configured now rows w = .ok found w') (hrow : row ∈ rows)
    (hopen : Retried configured file row ∨ Applied configured file row)
    (hfind : w.database.auditEvents.find? (·.auditEventId = settlingId configured file row) =
      some audit) : audit.createdAt = now := by
  induction rows generalizing w found with
  | nil => cases hrow
  | cons head rest ih =>
    obtain ⟨first, more, w₁, hfirst, hrest, htouched⟩ :=
      recoverAccountRows_cons hfile (hstages head List.mem_cons_self) hrun
    rcases List.mem_cons.mp hrow with rfl | hmem
    · exact (recoverAccount_left hfile hfirst hopen).1 audit hfind
    · exact ih htouched.1.1 (List.forall_mem_cons.mp hstages).2
        hrest hmem (htouched.2.find_audit hfind)

lemma settled_of_rows (rows : List AccountOperationRow)
    (hfile : w.file = file) (hnodup : (rows.map (·.operationId)).Nodup)
    (hmem : ∀ row ∈ rows, row ∈ w.database.accountOperations ∧ row.stage ≠ .receiptCommitted)
    (hrun : recoverAccountRows configured now rows w = .ok found w')
    (hstuck : ∀ left, ¬ Stuck configured file now left w'.database) :
    (∀ row ∈ rows, ¬ Retried configured file row) ∧
    (∀ row ∈ rows, Applied configured file row → ∃ receipt snapshot,
      row.finalization = some (.receipt receipt snapshot) ∧
        Recordable w.database receipt snapshot) ∧
    ∀ row ∈ rows, ∀ other ∈ rows, ∀ receipt snapshot receipt' snapshot',
      Sealed configured file row receipt snapshot →
      Sealed configured file other receipt' snapshot' →
      receipt.reconciliationId = receipt'.reconciliationId →
      receipt = receipt' ∧ snapshot = snapshot' := by
  induction rows generalizing w found with
  | nil => simp
  | cons row rest ih =>
    obtain ⟨hin, hstage⟩ := hmem row List.mem_cons_self
    obtain ⟨first, more, w₁, hfirst, hrest, htouched⟩ := recoverAccountRows_cons hfile hstage hrun
    rw [List.map_cons, List.nodup_cons] at hnodup
    have hother : ∀ other ∈ rest, row.operationId ≠ other.operationId :=
      fun other hother heq => hnodup.1 (heq ▸ List.mem_map_of_mem hother)
    have hmem' : ∀ other ∈ rest, other ∈ w₁.database.accountOperations ∧
        other.stage ≠ .receiptCommitted := by
      intro other hmem'
      obtain ⟨hold, hopen⟩ := hmem other (List.mem_cons_of_mem _ hmem')
      exact ⟨(htouched.2.others other (hother other hmem').symm).mpr hold, hopen⟩
    -- The head is not left in place, so it is finalized if it is open.
    have hhead : Retried configured file row ∨ Applied configured file row →
        ∃ receipt snapshot, Sealed configured file row receipt snapshot ∧
          Recordable w.database receipt snapshot ∧ Recorded w₁.database receipt snapshot := by
      intro hopen
      rcases (recoverAccount_left hfile hfirst hopen).2 hin with ⟨left, hid, hleft⟩ | hdone
      · refine absurd ?_ (hstuck left)
        exact hleft.rows rest htouched.1.1 (fun other hmem => (hmem' other hmem).2)
          (fun other hmem => hid ▸ hother other hmem) hrest
      · exact hdone
    obtain ⟨hretried, hrecordable, hagree⟩ := ih htouched.1.1 hnodup.2 hmem' hrest
    -- What the head has recorded agrees with what the others can record after it.
    have hcross : ∀ other ∈ rest, ∀ receipt snapshot receipt' snapshot',
        Sealed configured file row receipt snapshot →
        Sealed configured file other receipt' snapshot' →
        receipt.reconciliationId = receipt'.reconciliationId →
        receipt = receipt' ∧ snapshot = snapshot' := by
      intro other hmem receipt snapshot receipt' snapshot' hsealed hsealed' hsame
      obtain ⟨recorded, recordedSnapshot, hrow, -, hrec⟩ := hhead (.inr hsealed.1)
      obtain ⟨rfl, rfl⟩ : recorded = receipt ∧ recordedSnapshot = snapshot := by
        have := hrow.2.symm.trans hsealed.2
        simpa using this
      obtain ⟨sealed, sealedSnapshot, hfinal, hrecordable⟩ := hrecordable other hmem hsealed'.1
      obtain ⟨rfl, rfl⟩ : sealed = receipt' ∧ sealedSnapshot = snapshot' := by
        have := hfinal.symm.trans hsealed'.2
        simpa using this
      have hreceipt := hrecordable.1 recorded (hsame ▸ hrec.1)
      have haudit := hrecordable.2 _ (hsame ▸ hrec.2)
      refine ⟨hreceipt, ?_⟩
      have hpayload := congrArg AuditRow.payload haudit
      simp only [reconciliationAudit, Database.auditRow, AuditPayload.reconciliation.injEq]
        at hpayload
      exact hpayload.2
    refine ⟨?_, ?_, ?_⟩
    · intro other hmem
      rcases List.mem_cons.mp hmem with rfl | hmem
      · intro hretry
        obtain ⟨receipt, snapshot, hsealed, -⟩ := hhead (.inl hretry)
        have happlied := hsealed.1.2.2
        rw [classify, if_pos hretry.2.2] at happlied
        cases happlied
      · exact hretried other hmem
    · intro other hmem happlied
      rcases List.mem_cons.mp hmem with rfl | hmem
      · obtain ⟨receipt, snapshot, hsealed, hrec, -⟩ := hhead (.inr happlied)
        exact ⟨receipt, snapshot, hsealed.2, hrec⟩
      · obtain ⟨receipt, snapshot, hfinal, hrec⟩ := hrecordable other hmem happlied
        exact ⟨receipt, snapshot, hfinal, htouched.2.recordable_before hrec⟩
    · intro one hone two htwo receipt snapshot receipt' snapshot' hsealed hsealed' hsame
      rcases List.mem_cons.mp hone with rfl | hone'
      · rcases List.mem_cons.mp htwo with rfl | htwo'
        · have := hsealed.2.symm.trans hsealed'.2
          simpa using this
        · exact hcross two htwo' _ _ _ _ hsealed hsealed' hsame
      · rcases List.mem_cons.mp htwo with rfl | htwo'
        · obtain ⟨hreceipt, hsnapshot⟩ := hcross one hone' _ _ _ _ hsealed' hsealed hsame.symm
          exact ⟨hreceipt.symm, hsnapshot.symm⟩
        · exact hagree one hone' two htwo' _ _ _ _ hsealed hsealed' hsame

end Stuck

/-! ## The result -/

section Repeatable

variable {E : Type} (service : RecoveryService E) (w : Installation E)

/-- After any number of runs the next one returns, and it gives every operation that is not
committed one classification, the one of the first run. -/
def Repeatable : Prop :=
  ∃ first w₁, recover service w = .ok first w₁ ∧
    ∀ n, ∃ present result next, recoverTimes service n w = .ok ⟨⟩ present ∧
      recover service present = .ok result next ∧
      ∀ row ∈ present.database.accountOperations, row.stage ≠ .receiptCommitted →
        ∃ classification, classifications first row.operationId = [classification] ∧
          classifications result row.operationId = [classification]

variable {service w}

/-- The clock advances from run to run. -/
def ClockAdvances (service : RecoveryService E) : Prop :=
  ∀ outside, (service.clock outside).1 < (service.clock (service.clock outside).2).1

lemma repeatable_of_settledAtOnce (hclock : ClockAdvances service)
    (hdb : w.database.Unrecovered)
    (hok : SettledAtOnce service.accountConfigured w.database w.file) : Repeatable service w := by
  obtain ⟨first, w₁, hfirst, hids, hplace, hquiet, hclass⟩ := recover_first hdb hok
  -- After the first run every state is quiet, with the operations that the first run left.
  have hruns : ∀ n, ∃ present outside, recoverTimes service (n + 1) w = .ok ⟨⟩ present ∧
      present.outside = (service.clock outside).2 ∧
      Quiet (service.clock outside).1 present.database ∧
      present.database.accountOperations = w₁.database.accountOperations := by
    intro n
    induction n with
    | zero =>
      refine ⟨w₁, w.outside, ?_, hplace.2, hquiet, rfl⟩
      have hzero : recoverTimes service 0 w = .ok ⟨⟩ w := rfl
      unfold recoverTimes
      rw [bind_apply, hzero]
      dsimp only
      rw [bind_apply, hfirst]
      rfl
    | succ n ih =>
      obtain ⟨present, outside, hrun, hat, hquiet', hsame⟩ := ih
      have hlater : (service.clock outside).1 < (service.clock present.outside).1 := by
        rw [hat]
        exact hclock outside
      obtain ⟨result, next, hnext, -, hat', hsame', hquiet''⟩ := recover_again hquiet' hlater
      refine ⟨next, present.outside, ?_, hat', hquiet'', hsame'.trans hsame⟩
      rw [recoverTimes, bind_apply, hrun]
      dsimp only
      rw [bind_apply, hnext]
      rfl
  refine ⟨first, w₁, hfirst, fun n => ?_⟩
  cases n with
  | zero =>
    refine ⟨w, first, w₁, rfl, hfirst, fun row hrow hstage => ?_⟩
    obtain ⟨receipt, -, -, hone⟩ := classifications_eq hids (uncommitted_nodup hdb.nodup)
      (mem_uncommitted_of hrow hstage)
    exact ⟨_, hone, hone⟩
  | succ n =>
    obtain ⟨present, outside, hrun, hat, hquiet', hsame⟩ := hruns n
    have hlater : (service.clock outside).1 < (service.clock present.outside).1 := by
      rw [hat]
      exact hclock outside
    obtain ⟨result, next, hnext, hclass', -⟩ := recover_again hquiet' hlater
    refine ⟨present, result, next, hrun, hnext, fun row hrow hstage => ?_⟩
    exact ⟨.contradiction, hclass row (hsame ▸ hrow) hstage, hclass' row hrow hstage⟩

lemma recoverAccounts_of_recover {result : RecoveryReport} {w' : Installation E}
    (h : recover service w = .ok result w') :
    ∃ found w₁, recoverAccountRows service.accountConfigured (service.clock w.outside).1
      (uncommitted w.database) { w with outside := (service.clock w.outside).2 } =
        .ok found w₁ := by
  unfold recover at h
  obtain ⟨now, w₀, hclock, h₁⟩ := bind_eq_ok.mp h
  cases hclock
  obtain ⟨found, w₁, haccounts, -⟩ := bind_eq_ok.mp h₁
  exact ⟨found, w₁, haccounts⟩

lemma settledAtOnce_of_repeatable (hclock : ClockAdvances service)
    (hdb : w.database.Unrecovered) (h : Repeatable service w) :
    SettledAtOnce service.accountConfigured w.database w.file := by
  obtain ⟨first, w', hfirst, hruns⟩ := h
  obtain ⟨present, result, next, hrun, hnext, -⟩ := hruns 1
  have hpresent : present = w' := by
    obtain ⟨u, w₀, hzero, hrest⟩ := bind_eq_ok.mp hrun
    cases hzero
    obtain ⟨again, w₂, hagain, hpure⟩ := bind_eq_ok.mp hrest
    cases hpure
    rw [hfirst] at hagain
    cases hagain
    rfl
  subst hpresent
  obtain ⟨⟨receipts, blockers⟩, w₁, hloop⟩ := recoverAccounts_of_recover hfirst
  obtain ⟨⟨receipts', blockers'⟩, w₂, hloop'⟩ := recoverAccounts_of_recover hnext
  have hstages : ∀ database : Database, ∀ row ∈ uncommitted database,
      row.stage ≠ .receiptCommitted := fun _ row hrow => (mem_uncommitted hrow).2
  obtain ⟨hfile, hout, hledger⟩ := recoverAccountRows_frame _ (hstages _) hloop
  -- The report of the first run adds an audit event and nothing else.
  obtain ⟨report, -, hreport⟩ := recover_eq hloop (hledger.trans hdb.ledger_eq)
  rw [hfirst] at hreport
  obtain ⟨u, w₃, happend, hpure⟩ := bind_eq_ok.mp hreport.symm
  cases hpure
  have hplace : present.file = w₁.file ∧ present.outside = w₁.outside := by
    unfold Service.transact at happend
    split at happend
    · cases happend
      exact ⟨rfl, rfl⟩
    · cases happend
  obtain ⟨-, hoperations, added, hevents⟩ := tables_of_appendAudit (transact_eq_ok happend)
  have hstuck : ∀ left, ¬ Stuck service.accountConfigured w.file (service.clock w.outside).1 left
      w₁.database := by
    rintro left ⟨hopen, hmem, audit, hfind, htime⟩
    have hmem' : left ∈ uncommitted present.database := by
      refine mem_uncommitted_of (hoperations ▸ hmem) ?_
      rcases hopen with hretried | happlied
      · rw [hretried.1]
        decide
      · rcases happlied.1 with hstage | hstage
        · rw [hstage]
          decide
        · rw [hstage]
          decide
    have hfind' : present.database.auditEvents.find?
        (·.auditEventId = settlingId service.accountConfigured w.file left) = some audit := by
      rw [hevents, List.find?_append, hfind]
      rfl
    have hagain : audit.createdAt = (service.clock present.outside).1 := by
      refine createdAt_of_rows _ ?_ (hstages _) hloop' hmem' hopen hfind'
      exact hplace.1.trans hfile
    rw [htime, hplace.2, hout] at hagain
    exact absurd hagain (ne_of_lt (hclock w.outside))
  have hrows : ∀ row ∈ uncommitted w.database,
      row ∈ w.database.accountOperations ∧ row.stage ≠ .receiptCommitted :=
    fun row hrow => mem_uncommitted hrow
  obtain ⟨hretried, hrecordable, hagree⟩ := settled_of_rows (uncommitted w.database)
    (w := { w with outside := (service.clock w.outside).2 }) rfl (uncommitted_nodup hdb.nodup)
    hrows hloop hstuck
  have hopen : ∀ row ∈ w.database.accountOperations,
      row.stage = .prepared ∨ row.stage = .fileCommitted → row ∈ uncommitted w.database := by
    intro row hrow hstage
    refine mem_uncommitted_of hrow ?_
    rcases hstage with hstage | hstage
    · rw [hstage]
      decide
    · rw [hstage]
      decide
  refine ⟨?_, ?_, ?_⟩
  · intro row hrow hretry
    exact hretried row (hopen row hrow (.inl hretry.1)) hretry
  · exact fun row hrow happlied => hrecordable row (hopen row hrow happlied.1) happlied
  · intro row hrow other hother happlied happlied' receipt snapshot receipt' snapshot'
      hfinal hfinal'
    exact hagree row (hopen row hrow happlied.1) other (hopen other hother happlied'.1) _ _ _ _
      ⟨happlied, hfinal⟩ ⟨happlied', hfinal'⟩

/-- From a durable state of the protocol, recovery can be run any number of times exactly when the
first run settles every operation at once. -/
theorem repeatable_iff_settledAtOnce {database : Database} {file : AccountFile} (outside : E)
    (h : Reached (fun _ _ _ => False) database file) (hclock : ClockAdvances service) :
    Repeatable service ⟨database, file, outside, []⟩ ↔
      SettledAtOnce service.accountConfigured database file := by
  have hdb : database.Unrecovered := unrecovered_of_reached h
  constructor
  · exact settledAtOnce_of_repeatable hclock hdb
  · exact repeatable_of_settledAtOnce (w := ⟨database, file, outside, []⟩) hclock hdb

end Repeatable

section

open Sample

/-- The reconciliation that a sample operation has sealed. -/
def Sample.reconciliation : ReconciliationReceipt := ⟨⟨.eod, "details", 0, 1⟩, []⟩

lemma Sample.clockAdvances : ClockAdvances service := by
  intro outside
  change (10 + (outside : ℤ) : ℤ) < 10 + ((outside + 1 : ℕ) : ℤ)
  push_cast
  linarith

/-- An account sync whose file was written when the crash came is finalized once, and every later
recovery finds nothing to do. -/
theorem written_sync_repeatable :
    let crashed := written "BROKER_SYNC" (some (.receipt reconciliation "snapshot"))
    Reached (fun _ _ _ => False) crashed.database crashed.file ∧
      Repeatable service ⟨crashed.database, crashed.file, 0, []⟩ := by
  have hreached : Reached (fun _ _ _ => False) _ _ :=
    reached_written "BROKER_SYNC" (some (.receipt reconciliation "snapshot"))
  refine ⟨hreached, (repeatable_iff_settledAtOnce 0 hreached clockAdvances).mpr ⟨?_, ?_, ?_⟩⟩
  · intro row hrow hretried
    rw [List.mem_singleton.mp hrow] at hretried
    exact absurd hretried.1 (by decide)
  · intro row hrow _
    rw [List.mem_singleton.mp hrow]
    refine ⟨reconciliation, "snapshot", rfl, ?_, ?_⟩
    · exact fun run hrun => by cases hrun
    · exact fun audit haudit => by cases haudit
  · intro row hrow other hother _ _ receipt snapshot receipt' snapshot' hfinal hfinal' _
    have hsame := hfinal.symm.trans ((List.mem_singleton.mp hrow).trans
      (List.mem_singleton.mp hother).symm ▸ hfinal')
    simpa using hsame

/-- An account sync whose file was not yet written when the crash came is left for a retry; the
second recovery raises. -/
theorem second_recovery_raises :
    let crashed := begun "BROKER_SYNC" none
    let start : Installation ℕ := ⟨crashed.database, crashed.file, 0, []⟩
    Reached (fun _ _ _ => False) crashed.database crashed.file ∧ ClockAdvances service ∧
      raisesWith (fun failure _ =>
        decide (failure = .persistenceConflict "audit event identity collision"))
        (recoverTimes service 2 start) = true ∧
      ¬ Repeatable service start := by
  have hraises : raisesWith (fun failure _ =>
      decide (failure = .persistenceConflict "audit event identity collision"))
      (recoverTimes service 2
        ⟨(begun "BROKER_SYNC" none).database, (begun "BROKER_SYNC" none).file, 0, []⟩) = true := by
    decide
  refine ⟨reached_begun "BROKER_SYNC" none, clockAdvances, hraises, ?_⟩
  rintro ⟨first, w₁, -, hruns⟩
  obtain ⟨present, result, next, hrun, -⟩ := hruns 2
  rw [hrun] at hraises
  cases hraises

end

end Recovery

end FirmQuant
