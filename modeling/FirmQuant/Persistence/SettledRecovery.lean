import FirmQuant.Persistence.AccountFrame

/-!
# Recoveries that settle at once

When the first recovery after a crash settles every account operation for good, it returns, and
every later recovery finds nothing to do but to report.
-/

namespace FirmQuant

open Effect

/-! ## States that no recovery has seen -/

/-- The protocol alone leaves the orders untouched and writes audit events for reconciliations and
for operations that are no longer open. -/
structure Database.Unrecovered (database : Database) : Prop where
  ledger_eq : database.ledger = Ledger.empty
  nodup : (database.accountOperations.map (·.operationId)).Nodup
  audited : ∀ audit ∈ database.auditEvents,
    (∃ reconciliationId, audit.auditEventId = .reconciliation reconciliationId) ∨
    ∃ row ∈ database.accountOperations, audit.auditEventId = .accountOperation row.operationId ∧
      (row.stage = .receiptCommitted ∨ row.stage = .contradiction)

section Protocol

variable {A : Type}

lemma unrecovered_insertOperation (row : AccountOperationRow) (_ : row.stage = .prepared) :
    Txn.Preserves Database.Unrecovered (AccountOperation.insertOperation row) := by
  intro database a database' hdb h
  unfold AccountOperation.insertOperation at h
  split at h
  next hnone =>
    cases h
    refine ⟨hdb.ledger_eq, ?_, ?_⟩
    · exact List.nodup_map_snoc.mpr ⟨hdb.nodup, fun old hold hnew =>
        List.find?_eq_none.mp hnone old hold (decide_eq_true hnew)⟩
    · intro audit haudit
      rcases hdb.audited audit haudit with hrec | ⟨old, hold, hop⟩
      · exact .inl hrec
      · exact .inr ⟨old, List.mem_append_left _ hold, hop⟩
  next =>
    split at h
    · cases h
      exact hdb
    · cases h

/-- An update that does not reopen an operation. -/
lemma unrecovered_updateOperation {id : String} {stages : List AccountStage}
    {stage : AccountStage} {actual : Option Digest} {now : DateTime}
    (h : stage = .receiptCommitted ∨ stage = .contradiction ∨
      (.receiptCommitted ∉ stages ∧ .contradiction ∉ stages)) :
    Txn.Preserves Database.Unrecovered
      (AccountOperation.updateOperation id stages stage actual now) := by
  refine Txn.preserves_modify fun database hdb => ⟨hdb.ledger_eq, ?_, ?_⟩
  · have hids : (database.accountOperations.map fun row =>
        if row.operationId = id ∧ row.stage ∈ stages then
          { row with stage := stage, actualAccountAfterSha256 := actual, updatedAt := now }
        else row).map (·.operationId) = database.accountOperations.map (·.operationId) := by
      rw [List.map_map]
      refine List.map_congr_left fun row _ => ?_
      dsimp only [Function.comp]
      split <;> rfl
    dsimp only
    rw [hids]
    exact hdb.nodup
  · intro audit haudit
    rcases hdb.audited audit haudit with hrec | ⟨old, hold, hop, hstage⟩
    · exact .inl hrec
    · refine .inr ⟨_, List.mem_map_of_mem hold, ?_⟩
      by_cases hcase : old.operationId = id ∧ old.stage ∈ stages
      · rw [if_pos hcase]
        refine ⟨hop, ?_⟩
        rcases h with h | h | ⟨hreceipt, hcontradiction⟩
        · exact .inl h
        · exact .inr h
        · rcases hstage with hstage | hstage
          · exact absurd (hstage ▸ hcase.2) hreceipt
          · exact absurd (hstage ▸ hcase.2) hcontradiction
      · rw [if_neg hcase]
        exact ⟨hop, hstage⟩

/-- An audit event of a reconciliation, or of an operation that is no longer open. -/
lemma unrecovered_appendAudit {audit : AuditRow} {database database' : Database} {a : PUnit}
    (hdb : database.Unrecovered)
    (haudit : (∃ reconciliationId, audit.auditEventId = .reconciliation reconciliationId) ∨
      ∃ row ∈ database.accountOperations, audit.auditEventId = .accountOperation row.operationId ∧
        (row.stage = .receiptCommitted ∨ row.stage = .contradiction))
    (h : Database.appendAudit audit database = .ok (a, database')) : database'.Unrecovered := by
  rcases Database.appendAudit_eq_ok h with rfl | rfl
  · exact hdb
  refine ⟨hdb.ledger_eq, hdb.nodup, ?_⟩
  intro other hother
  rcases List.mem_snoc.mp hother with hother | hother
  · exact hdb.audited other hother
  · rw [hother]
    exact haudit

lemma unrecovered_commitReconciliation (receipt : ReconciliationReceipt) (snapshot : Digest) :
    Txn.Preserves Database.Unrecovered (Database.commitReconciliation receipt snapshot) :=
  Database.preserves_commitReconciliation
    (fun _ hdb => ⟨hdb.ledger_eq, hdb.nodup, hdb.audited⟩)
    fun _ _ _ hdb h => unrecovered_appendAudit hdb (.inl ⟨_, rfl⟩) h

lemma unrecovered_receiptTransaction {operation : AccountOperation A} {actual : Digest}
    {finalize : Option (ReconciliationReceipt × Digest)} {now : DateTime}
    {database database' : Database} {a : PUnit} (hdb : database.Unrecovered)
    (hstage : database.stageOf operation.operationId = some .fileCommitted)
    (h : operation.receiptTransaction actual finalize now database = .ok (a, database')) :
    database'.Unrecovered := by
  unfold AccountOperation.receiptTransaction at h
  obtain ⟨u, database₁, hupdate, h⟩ := Txn.bind_eq_ok.mp h
  have hdb₁ : database₁.Unrecovered := unrecovered_updateOperation (.inl rfl) _ _ _ hdb hupdate
  obtain ⟨v, database₂, haudit, h⟩ := Txn.bind_eq_ok.mp h
  have hdb₂ : database₂.Unrecovered := by
    refine unrecovered_appendAudit hdb₁ (.inr ?_) haudit
    cases hupdate
    obtain ⟨row, hfind, hcommitted⟩ := Option.map_eq_some_iff.mp hstage
    have hid : row.operationId = operation.operationId := by simpa using List.find?_some hfind
    refine ⟨_, List.mem_map_of_mem (List.mem_of_find?_eq_some hfind), ?_⟩
    rw [if_pos ⟨hid, by simp [hcommitted]⟩]
    exact ⟨congrArg _ hid.symm, .inl rfl⟩
  cases finalize with
  | none =>
    cases h
    exact hdb₂
  | some finalize => exact unrecovered_commitReconciliation _ _ _ _ _ hdb₂ h

end Protocol

lemma unrecovered_of_reached {database : Database} {file : AccountFile}
    (h : Reached (fun _ _ _ => False) database file) : database.Unrecovered := by
  induction h with
  | start file => exact ⟨rfl, List.nodup_nil, by simp [Database.empty]⟩
  | fileChanged file' hreached ih => exact ih
  | begin store request now outside hreached hleaves ih =>
    exact hleaves.of_keeps (keeps_begin store request now unrecovered_insertOperation) ih
  | commitFile operation store now outside hreached hof hleaves ih =>
    refine hleaves.of_keeps (keeps_commitFile ?_ store ?_) ih
    · exact fun actual => unrecovered_updateOperation (.inr (.inl rfl))
    · exact fun actual => unrecovered_updateOperation (.inr (.inr (by decide)))
  | commitReceipt operation finalize now outside hreached hof hleaves ih =>
    refine hleaves.of_keeps (keeps_commitReceipt ?_ finalize ?_) ih
    · exact fun actual => unrecovered_updateOperation (.inr (.inl rfl))
    · exact fun database a database' hdb hstage h => unrecovered_receiptTransaction hdb hstage h
  | recover service outside hreached hok hleaves ih => exact hok.elim

namespace Recovery

/-! ## The first run -/

section FirstRun

variable {E : Type} {configured : Bool} {row : AccountOperationRow}

/-- An operation that is settled at once. -/
lemma recoverAccount_settled (now : DateTime) {w : Installation E}
    (hstage : row.stage ≠ .receiptCommitted)
    (hunique : ∀ other ∈ w.database.accountOperations, other.operationId = row.operationId →
      other = row)
    (hfresh : row.stage ≠ .contradiction → ∀ audit ∈ w.database.auditEvents,
      ¬ Concerns row.operationId audit.auditEventId)
    (hretried : ¬ Retried configured w.file row)
    (hrec : Applied configured w.file row → ∃ receipt snapshot,
      row.finalization = some (.receipt receipt snapshot) ∧
        Recordable w.database receipt snapshot) :
    ∃ receipt blockers w', recoverAccount configured row now w = .ok (receipt, blockers) w' ∧
      receipt.operationId = row.operationId ∧
      ∀ other ∈ w'.database.accountOperations, other.operationId = row.operationId →
        other.stage = .receiptCommitted ∨
          (other.stage = .contradiction ∧ receipt.classification = .contradiction) := by
  by_cases hcontradiction : row.stage = .contradiction
  · have hrun : recoverAccount configured row now w =
        .ok (⟨row.operationId, .contradiction, row.actualAccountAfterSha256⟩,
          [.accountOperationContradiction]) w := by
      unfold recoverAccount
      rw [if_pos hcontradiction]
      rfl
    refine ⟨_, _, w, hrun, rfl, fun other hother hid => .inr ⟨?_, rfl⟩⟩
    rw [hunique other hother hid, hcontradiction]
  have hopen := open_of_stage hstage hcontradiction
  have hfresh' := hfresh hcontradiction
  rcases recoverAccount_open configured now hopen w with
    ⟨-, -, stage, persisted, classification, blockers, hfinal, hrun⟩ | ⟨h, -⟩ |
    ⟨happlied, digest, -, hrun⟩
  · obtain ⟨w', hsettle, hstages⟩ := settle_ok stage persisted now
      fun audit haudit heq => hfresh' audit haudit (heq ▸ rfl)
    refine ⟨⟨row.operationId, classification, observedActual configured w.file row⟩, blockers, w',
      ?_, rfl, fun other hother hid => ?_⟩
    · rw [hrun, bind_apply, hsettle]
      rfl
    · rw [hstages other hother hid]
      rcases hfinal with ⟨hstage', -⟩ | ⟨hstage', hclass, -⟩
      · exact .inl hstage'
      · exact .inr ⟨hstage', hclass⟩
  · exact absurd h hretried
  · obtain ⟨receipt, snapshot, hfinal, hrecordable⟩ := hrec happlied
    obtain ⟨w', hfinalize, hstages⟩ := finalization_ok digest now hfinal
      (fun other hother hid => by rw [hunique other hother hid]; exact hopen) hfresh' hrecordable
    refine ⟨⟨row.operationId, .fileAppliedReceiptMissing, some digest⟩, [], w', ?_, rfl,
      fun other hother hid => .inl (hstages other hother hid)⟩
    rw [hrun, bind_apply, hfinalize]
    rfl

/-- The operations `rows` are still to be recovered, and no open one of them has an audit event. -/
structure Outstanding (rows : List AccountOperationRow) (database : Database) : Prop where
  nodup : (database.accountOperations.map (·.operationId)).Nodup
  rows_nodup : (rows.map (·.operationId)).Nodup
  mem : ∀ row ∈ rows, row ∈ database.accountOperations ∧ row.stage ≠ .receiptCommitted
  fresh : ∀ row ∈ rows, row.stage ≠ .contradiction → ∀ audit ∈ database.auditEvents,
    ¬ Concerns row.operationId audit.auditEventId

variable {database database' : Database} {rest : List AccountOperationRow}
  {records : ReconciliationReceipt → Digest → Prop} {file : AccountFile}

variable {rows : List AccountOperationRow} {other : AccountOperationRow} {operationId : String}

lemma Outstanding.unique (h : Outstanding rows database) (hrow : row ∈ rows)
    (hother : other ∈ database.accountOperations) (hid : other.operationId = row.operationId) :
    other = row :=
  List.inj_on_of_nodup_map h.nodup hother (h.mem row hrow).1 hid

lemma Outstanding.ne_head (h : Outstanding (row :: rest) database) (hmem : other ∈ rest) :
    other.operationId ≠ row.operationId := by
  intro heq
  have hnodup := h.rows_nodup
  rw [List.map_cons, List.nodup_cons] at hnodup
  exact hnodup.1 (heq ▸ List.mem_map_of_mem hmem)

lemma Outstanding.beside (h : Outstanding (row :: rest) database)
    (hbeside : Beside row.operationId records database database') : Outstanding rest database' := by
  obtain ⟨added, hevents, hadded⟩ := hbeside.events
  refine ⟨hbeside.ids_eq ▸ h.nodup, (List.nodup_cons.mp h.rows_nodup).2, ?_, ?_⟩
  · intro other hmem
    obtain ⟨hin, hopen⟩ := h.mem other (List.mem_cons_of_mem _ hmem)
    exact ⟨(hbeside.others other (h.ne_head hmem)).mpr hin, hopen⟩
  · intro other hmem hcontradiction audit haudit hconcerns
    rw [hevents] at haudit
    rcases List.mem_append.mp haudit with hold | hnew
    · exact h.fresh other (List.mem_cons_of_mem _ hmem) hcontradiction audit hold hconcerns
    · rcases hadded audit hnew with hown | ⟨receipt, snapshot, -, rfl⟩
      · exact h.ne_head hmem (hconcerns.unique hown)
      · exact hconcerns

/-- The operations `rows` are still to be recovered; the others are settled for good. -/
structure Awaiting (configured : Bool) (file : AccountFile) (rows : List AccountOperationRow)
    (database : Database) : Prop where
  ledger_eq : database.ledger = Ledger.empty
  nodup : (database.accountOperations.map (·.operationId)).Nodup
  rows_nodup : (rows.map (·.operationId)).Nodup
  mem : ∀ row ∈ rows, row ∈ database.accountOperations ∧ row.stage ≠ .receiptCommitted
  settled : ∀ row ∈ database.accountOperations, row ∉ rows →
    row.stage = .receiptCommitted ∨ row.stage = .contradiction
  fresh : ∀ row ∈ rows, row.stage ≠ .contradiction → ∀ audit ∈ database.auditEvents,
    ¬ Concerns row.operationId audit.auditEventId
  unreported : ∀ audit ∈ database.auditEvents, ∀ observedAt report,
    audit.auditEventId ≠ .recoveryReport observedAt report
  not_retried : ∀ row ∈ rows, ¬ Retried configured file row
  recordable : ∀ row ∈ rows, Applied configured file row → ∃ receipt snapshot,
    row.finalization = some (.receipt receipt snapshot) ∧ Recordable database receipt snapshot
  agree : ∀ row ∈ rows, ∀ other ∈ rows, ∀ receipt snapshot receipt' snapshot',
    Sealed configured file row receipt snapshot → Sealed configured file other receipt' snapshot' →
    receipt.reconciliationId = receipt'.reconciliationId →
    receipt = receipt' ∧ snapshot = snapshot'

lemma Awaiting.outstanding (h : Awaiting configured file rows database) :
    Outstanding rows database :=
  ⟨h.nodup, h.rows_nodup, h.mem, h.fresh⟩

/-- What is recorded for another operation leaves a reconciliation recordable when the two
agree. -/
lemma Beside.recordable (h : Beside operationId records database database')
    {receipt : ReconciliationReceipt} {snapshot : Digest}
    (hrec : Recordable database receipt snapshot)
    (hagree : ∀ receipt' snapshot', records receipt' snapshot' →
      receipt'.reconciliationId = receipt.reconciliationId →
      receipt' = receipt ∧ snapshot' = snapshot) :
    Recordable database' receipt snapshot := by
  constructor
  · intro run hrun
    obtain ⟨added, hruns, hadded⟩ := h.runs
    rw [hruns, List.find?_append] at hrun
    cases hfind : database.reconciliationRuns.find?
        (·.reconciliationId = receipt.reconciliationId) with
    | some old =>
      rw [hfind] at hrun
      cases hrun
      exact hrec.1 _ hfind
    | none =>
      rw [hfind, Option.none_or] at hrun
      obtain ⟨snapshot', hrecords⟩ := hadded run (List.mem_of_find?_eq_some hrun)
      exact (hagree run snapshot' hrecords (by simpa using List.find?_some hrun)).1
  · intro audit haudit
    obtain ⟨added, hevents, hadded⟩ := h.events
    rw [hevents, List.find?_append] at haudit
    cases hfind : database.auditEvents.find?
        (·.auditEventId = .reconciliation receipt.reconciliationId) with
    | some old =>
      rw [hfind] at haudit
      cases haudit
      exact hrec.2 _ hfind
    | none =>
      rw [hfind, Option.none_or] at haudit
      have hid : audit.auditEventId = .reconciliation receipt.reconciliationId := by
        simpa using List.find?_some haudit
      rcases hadded audit (List.mem_of_find?_eq_some haudit) with hown | ⟨receipt', snapshot',
        hrecords, rfl⟩
      · rw [hid] at hown
        exact hown.elim
      · have hsame : receipt'.reconciliationId = receipt.reconciliationId := by
          simpa [reconciliationAudit, Database.auditRow] using hid
        obtain ⟨rfl, rfl⟩ := hagree receipt' snapshot' hrecords hsame
        rfl

/-- The recovery of an operation reports nothing. -/
lemma Beside.unreported (h : Beside operationId records database database')
    (hold : ∀ audit ∈ database.auditEvents, ∀ observedAt report,
      audit.auditEventId ≠ .recoveryReport observedAt report) :
    ∀ audit ∈ database'.auditEvents, ∀ observedAt report,
      audit.auditEventId ≠ .recoveryReport observedAt report := by
  obtain ⟨added, hevents, hadded⟩ := h.events
  intro audit haudit observedAt report heq
  rw [hevents] at haudit
  rcases List.mem_append.mp haudit with hmem | hnew
  · exact hold audit hmem observedAt report heq
  · rcases hadded audit hnew with hown | ⟨receipt, snapshot, -, rfl⟩
    · rw [heq] at hown
      exact hown
    · cases heq

lemma Awaiting.step {w : Installation E} (hfile : w.file = file)
    (h : Awaiting configured file (row :: rest) w.database) (now : DateTime) :
    ∃ receipt blockers w', recoverAccount configured row now w = .ok (receipt, blockers) w' ∧
      receipt.operationId = row.operationId ∧
      Touched configured file row w.database w.outside w' ∧
      Awaiting configured file rest w'.database ∧
      ∀ other ∈ w'.database.accountOperations, other.operationId = row.operationId →
        other.stage = .receiptCommitted ∨
          (other.stage = .contradiction ∧ receipt.classification = .contradiction) := by
  have hhead : row ∈ row :: rest := List.mem_cons_self
  have hout := h.outstanding
  have hstage := (hout.mem row hhead).2
  have hretried : ¬ Retried configured w.file row := hfile ▸ h.not_retried row hhead
  have hrec := h.recordable row hhead
  rw [← hfile] at hrec
  obtain ⟨receipt, blockers, w', hrun, hid, hstages⟩ := recoverAccount_settled now hstage
    (fun _ hother => hout.unique hhead hother) (hout.fresh row hhead) hretried hrec
  have htouched : Touched configured file row w.database w.outside w' :=
    (keeps_recoverAccount_touched hstage now).ok hrun ⟨⟨hfile, rfl⟩, Beside.refl _⟩
  have hbeside := htouched.2
  have hrest := hout.beside hbeside
  refine ⟨receipt, blockers, w', hrun, hid, htouched, ?_, hstages⟩
  refine ⟨hbeside.ledger_eq.trans h.ledger_eq, hrest.nodup, hrest.rows_nodup, hrest.mem, ?_,
    hrest.fresh, hbeside.unreported h.unreported, ?_, ?_, ?_⟩
  · intro other hin hnot
    by_cases heq : other.operationId = row.operationId
    · rcases hstages other hin heq with hrc | ⟨hcontradiction, -⟩
      · exact .inl hrc
      · exact .inr hcontradiction
    · refine h.settled other ((hbeside.others other heq).mp hin) ?_
      intro hmem
      rcases List.mem_cons.mp hmem with rfl | hmem
      · exact heq rfl
      · exact hnot hmem
  · exact fun other hmem => h.not_retried other (List.mem_cons_of_mem _ hmem)
  · intro other hmem happlied
    have hmem' := List.mem_cons_of_mem row hmem
    obtain ⟨receipt', snapshot', hfinal, hrecordable⟩ := h.recordable other hmem' happlied
    refine ⟨receipt', snapshot', hfinal, hbeside.recordable hrecordable ?_⟩
    intro receipt₀ snapshot₀ hsealed hsame
    exact h.agree row hhead other hmem' _ _ _ _ hsealed ⟨happlied, hfinal⟩ hsame
  · exact fun other hmem other' hmem' => h.agree other (List.mem_cons_of_mem _ hmem) other'
      (List.mem_cons_of_mem _ hmem')

/-- The loop settles every operation for good. -/
lemma recoverAccountRows_settled (now : DateTime) (rows : List AccountOperationRow)
    (w : Installation E) (hfile : w.file = file) (h : Awaiting configured file rows w.database) :
    ∃ receipts blockers w',
      recoverAccountRows configured now rows w = .ok (receipts, blockers) w' ∧
      receipts.map (·.operationId) = rows.map (·.operationId) ∧
      (w'.file = file ∧ w'.outside = w.outside) ∧
      Awaiting configured file [] w'.database ∧
      (∀ other : AccountOperationRow, other.operationId ∉ rows.map (·.operationId) →
        (other ∈ w'.database.accountOperations ↔ other ∈ w.database.accountOperations)) ∧
      ∀ receipt ∈ receipts, ∀ other ∈ w'.database.accountOperations,
        other.operationId = receipt.operationId → other.stage = .receiptCommitted ∨
          (other.stage = .contradiction ∧ receipt.classification = .contradiction) := by
  induction rows generalizing w with
  | nil => exact ⟨[], [], w, rfl, rfl, ⟨hfile, rfl⟩, h, fun _ _ => Iff.rfl, by simp⟩
  | cons row rest ih =>
    obtain ⟨receipt, blockers, w₁, hrun, hid, htouched, hrest, hstages⟩ := h.step hfile now
    obtain ⟨receipts, more, w₂, hloop, hids, hplace, hdone, hothers, hreceipts⟩ :=
      ih w₁ htouched.1.1 hrest
    have hhead : row.operationId ∉ rest.map (·.operationId) :=
      (List.nodup_cons.mp h.rows_nodup).1
    refine ⟨receipt :: receipts, blockers ++ more, w₂, ?_, ?_,
      ⟨hplace.1, hplace.2.trans htouched.1.2⟩, hdone, ?_, ?_⟩
    · unfold recoverAccountRows
      rw [bind_apply, hrun]
      dsimp only
      rw [bind_apply, hloop]
      rfl
    · rw [List.map_cons, List.map_cons, hid, hids]
    · intro other hnot
      rw [List.map_cons, List.mem_cons, not_or] at hnot
      rw [hothers other hnot.2]
      exact htouched.2.others other hnot.1
    · intro found hfound other hother hsame
      rcases List.mem_cons.mp hfound with rfl | hfound
      · rw [hid] at hsame
        exact hstages other ((hothers other (hsame ▸ hhead)).mp hother) hsame
      · exact hreceipts found hfound other hother hsame

end FirstRun

/-! ## Runs after one another -/

/-- The classifications that a report gives to an operation. -/
def classifications (report : RecoveryReport) (operationId : String) :
    List AccountRecoveryClassification :=
  (report.accountReceipts.filter (·.operationId = operationId)).map (·.classification)

/-- `recover`, the given number of times. -/
def recoverTimes {E : Type} (service : RecoveryService E) : ℕ → Service E PUnit
  | 0 => pure ⟨⟩
  | n + 1 => do
    recoverTimes service n
    let _ ← recover service
    pure ⟨⟩

section Runs

variable {E : Type} {service : RecoveryService E}

variable {w : Installation E} {database : Database}

lemma recoverOrders_empty (now : DateTime) (h : w.database.ledger = Ledger.empty) :
    recoverOrders service now w = .ok ([], []) w := by
  unfold recoverOrders
  rw [get_bind_apply, h]
  rfl

variable {w₁ : Installation E} {receipts : List AccountRecoveryReceipt}
  {blockers : List RecoveryBlocker}

/-- A run in which the accounts are recovered and there are no orders. -/
lemma recover_eq (haccounts : recoverAccounts service.accountConfigured (service.clock w.outside).1
      { w with outside := (service.clock w.outside).2 } = .ok (receipts, blockers) w₁)
    (hledger : w₁.database.ledger = Ledger.empty) :
    ∃ result : RecoveryReport, result.accountReceipts = receipts ∧
      recover service w = (do
        Service.transact (Database.appendAudit (reportAudit result (service.clock w.outside).1))
        pure result : Service E RecoveryReport) w₁ := by
  have hclock : (call fun e => (.ok (service.clock e).1, (service.clock e).2) :
      Service E DateTime) w = .ok (service.clock w.outside).1
        { w with outside := (service.clock w.outside).2 } := rfl
  refine ⟨report service w₁.database receipts [] (blockers ++ []), rfl, ?_⟩
  unfold recover
  rw [bind_apply, hclock]
  dsimp only
  rw [bind_apply, haccounts]
  dsimp only
  rw [bind_apply, recoverOrders_empty _ hledger]
  rfl

/-- Such a run returns when it is the first at its time, and adds its own audit event. -/
lemma recover_ok (haccounts : recoverAccounts service.accountConfigured (service.clock w.outside).1
      { w with outside := (service.clock w.outside).2 } = .ok (receipts, blockers) w₁)
    (hledger : w₁.database.ledger = Ledger.empty)
    (hnew : ∀ audit ∈ w₁.database.auditEvents, ∀ result,
      audit.auditEventId ≠ .recoveryReport (service.clock w.outside).1 result) :
    ∃ result w', recover service w = .ok result w' ∧ result.accountReceipts = receipts ∧
      (w'.file = w₁.file ∧ w'.outside = w₁.outside) ∧
      w'.database = { w₁.database with auditEvents :=
        w₁.database.auditEvents ++ [reportAudit result (service.clock w.outside).1] } := by
  obtain ⟨result, hreceipts, hrun⟩ := recover_eq haccounts hledger
  let audited : Database := { w₁.database with auditEvents :=
    w₁.database.auditEvents ++ [reportAudit result (service.clock w.outside).1] }
  have happend : Database.appendAudit (reportAudit result (service.clock w.outside).1)
      w₁.database = .ok (⟨⟩, audited) := appendAudit_ok fun other hother => hnew other hother _
  refine ⟨result, { w₁ with
    database := audited
    crashPoints := w₁.crashPoints ++ [(audited, w₁.file)] }, ?_, hreceipts, ⟨rfl, rfl⟩, rfl⟩
  rw [hrun, bind_apply, Service.transact_of_ok happend]
  rfl

/-- Every operation is settled for good, and every report is from `last` or before. -/
structure Quiet (last : DateTime) (database : Database) : Prop where
  ledger_eq : database.ledger = Ledger.empty
  nodup : (database.accountOperations.map (·.operationId)).Nodup
  settled : ∀ row ∈ database.accountOperations,
    row.stage = .receiptCommitted ∨ row.stage = .contradiction
  reported : ∀ audit ∈ database.auditEvents, ∀ observedAt result,
    audit.auditEventId = .recoveryReport observedAt result → observedAt ≤ last

/-- The loop only reports operations that are contradictory already. -/
lemma recoverAccountRows_quiet (configured : Bool) (now : DateTime) (w : Installation E)
    (rows : List AccountOperationRow) (h : ∀ row ∈ rows, row.stage = .contradiction) :
    ∃ blockers, recoverAccountRows configured now rows w =
      .ok (rows.map fun row => ⟨row.operationId, .contradiction, row.actualAccountAfterSha256⟩,
        blockers) w := by
  induction rows with
  | nil => exact ⟨[], rfl⟩
  | cons row rest ih =>
    obtain ⟨blockers, hrest⟩ := ih (List.forall_mem_cons.mp h).2
    refine ⟨.accountOperationContradiction :: blockers, ?_⟩
    unfold recoverAccountRows recoverAccount
    rw [if_pos (h row List.mem_cons_self), bind_apply, pure_apply]
    dsimp only
    rw [bind_apply, hrest]
    rfl

lemma uncommitted_nodup (h : (database.accountOperations.map (·.operationId)).Nodup) :
    ((uncommitted database).map (·.operationId)).Nodup := by
  have hperm : (uncommitted database).Perm
      (database.accountOperations.filter (·.stage ≠ .receiptCommitted)) :=
    List.perm_insertionSort _ _
  rw [(hperm.map _).nodup_iff]
  exact h.sublist (List.filter_sublist.map _)

lemma mem_uncommitted_of {row : AccountOperationRow} (h : row ∈ database.accountOperations)
    (hstage : row.stage ≠ .receiptCommitted) :
    row ∈ uncommitted database :=
  (List.mem_insertionSort _).mpr (List.mem_filter.mpr ⟨h, decide_eq_true hstage⟩)

/-- All the operations that are not committed are to be recovered after the protocol alone. -/
lemma outstanding_of_unrecovered (h : database.Unrecovered) :
    Outstanding (uncommitted database) database := by
  refine ⟨h.nodup, uncommitted_nodup h.nodup, fun row hrow => mem_uncommitted hrow, ?_⟩
  intro row hrow hcontradiction audit haudit hconcerns
  obtain ⟨hmem, huncommitted⟩ := mem_uncommitted hrow
  rcases h.audited audit haudit with ⟨id, hrec⟩ | ⟨old, hold, hop, hstage⟩
  · rw [hrec] at hconcerns
    exact hconcerns
  · rw [hop] at hconcerns
    have hsame : old = row := List.inj_on_of_nodup_map h.nodup hold hmem hconcerns
    rw [hsame] at hstage
    rcases hstage with hstage | hstage
    · exact huncommitted hstage
    · exact hcontradiction hstage

lemma unreported_of_unrecovered (h : database.Unrecovered) :
    ∀ audit ∈ database.auditEvents, ∀ observedAt result,
      audit.auditEventId ≠ .recoveryReport observedAt result := by
  intro audit haudit observedAt result heq
  rcases h.audited audit haudit with ⟨id, hrec⟩ | ⟨old, -, hop, -⟩
  · rw [hrec] at heq
    cases heq
  · rw [hop] at heq
    cases heq

/-- A report with one receipt for each operation classifies each of them once. -/
lemma classifications_eq {result : RecoveryReport} {rows : List AccountOperationRow}
    (hids : result.accountReceipts.map (·.operationId) = rows.map (·.operationId))
    (hnodup : (rows.map (·.operationId)).Nodup) {row : AccountOperationRow} (hrow : row ∈ rows) :
    ∃ receipt ∈ result.accountReceipts, receipt.operationId = row.operationId ∧
      classifications result row.operationId = [receipt.classification] := by
  have hmem : row.operationId ∈ result.accountReceipts.map (·.operationId) :=
    hids ▸ List.mem_map_of_mem hrow
  obtain ⟨receipt, hreceipt, hid⟩ := List.mem_map.mp hmem
  refine ⟨receipt, hreceipt, hid, ?_⟩
  have hfilter : result.accountReceipts.filter (·.operationId = row.operationId) = [receipt] := by
    rw [← hids] at hnodup
    rw [← hid]
    generalize result.accountReceipts = receipts at hreceipt hnodup
    induction receipts with
    | nil => cases hreceipt
    | cons first rest ih =>
      rw [List.map_cons, List.nodup_cons] at hnodup
      rcases List.mem_cons.mp hreceipt with rfl | hrest
      · rw [List.filter_cons_of_pos (by simp)]
        congr 1
        rw [List.filter_eq_nil_iff]
        intro other hother heq
        exact hnodup.1 (of_decide_eq_true heq ▸ List.mem_map_of_mem hother)
      · have hne : first.operationId ≠ receipt.operationId :=
          fun heq => hnodup.1 (heq ▸ List.mem_map_of_mem hrest)
        rw [List.filter_cons_of_neg (by simpa using hne)]
        exact ih hrest hnodup.2
  unfold classifications
  rw [hfilter]
  rfl

/-- The first run from a state that the protocol left and of which every operation is settled at
once. -/
lemma recover_first (hdb : w.database.Unrecovered)
    (hok : SettledAtOnce service.accountConfigured w.database w.file) :
    ∃ first w', recover service w = .ok first w' ∧
      first.accountReceipts.map (·.operationId) = (uncommitted w.database).map (·.operationId) ∧
      (w'.file = w.file ∧ w'.outside = (service.clock w.outside).2) ∧
      Quiet (service.clock w.outside).1 w'.database ∧
      ∀ row ∈ w'.database.accountOperations, row.stage ≠ .receiptCommitted →
        classifications first row.operationId = [.contradiction] := by
  have hrows : ∀ row ∈ uncommitted w.database,
      row ∈ w.database.accountOperations ∧ row.stage ≠ .receiptCommitted :=
    fun row hrow => mem_uncommitted hrow
  have hawaiting : Awaiting service.accountConfigured w.file (uncommitted w.database)
      w.database := by
    have hout := outstanding_of_unrecovered hdb
    refine ⟨hdb.ledger_eq, hdb.nodup, hout.rows_nodup, hrows, ?_, hout.fresh,
      unreported_of_unrecovered hdb, ?_, ?_, ?_⟩
    · intro row hrow hnot
      by_cases hstage : row.stage = .receiptCommitted
      · exact .inl hstage
      · exact absurd (mem_uncommitted_of hrow hstage) hnot
    · exact fun row hrow => hok.not_retried row (hrows row hrow).1
    · exact fun row hrow => hok.recordable row (hrows row hrow).1
    · intro row hrow other hother receipt snapshot receipt' snapshot' hsealed hsealed'
      exact hok.agree row (hrows row hrow).1 other (hrows other hother).1 hsealed.1 hsealed'.1 _ _
        _ _ hsealed.2 hsealed'.2
  obtain ⟨receipts, blockers, w₁, hloop, hids, hplace, hdone, hothers, hstages⟩ :=
    recoverAccountRows_settled (service.clock w.outside).1 (uncommitted w.database)
      { w with outside := (service.clock w.outside).2 } rfl hawaiting
  obtain ⟨first, w', hrun, hreceipts, hplace', hdatabase⟩ := recover_ok hloop hdone.ledger_eq
    fun audit haudit result => hdone.unreported audit haudit _ result
  refine ⟨first, w', hrun, by rw [hreceipts, hids],
    ⟨hplace'.1.trans hplace.1, hplace'.2.trans hplace.2⟩, ?_, ?_⟩
  · rw [hdatabase]
    refine ⟨hdone.ledger_eq, hdone.nodup, fun row hrow => hdone.settled row hrow (by simp), ?_⟩
    intro audit haudit observedAt result heq
    rcases List.mem_snoc.mp haudit with hold | hnew
    · exact absurd heq (hdone.unreported audit hold observedAt result)
    · rw [hnew] at heq
      cases heq
      exact le_refl _
  · intro row hrow hstage
    rw [hdatabase] at hrow
    have hid : row.operationId ∈ (uncommitted w.database).map (·.operationId) := by
      by_contra hnot
      have hold := (hothers row hnot).mp hrow
      exact hnot (List.mem_map_of_mem (mem_uncommitted_of hold hstage))
    obtain ⟨old, hold, hsame⟩ := List.mem_map.mp hid
    obtain ⟨receipt, hreceipt, hreceiptId, hclass⟩ := classifications_eq
      (by rw [hreceipts, hids]) (uncommitted_nodup hdb.nodup) hold
    rw [hsame] at hclass hreceiptId
    rw [hreceipts] at hreceipt
    rcases hstages receipt hreceipt row hrow hreceiptId.symm with hrc | ⟨-, hcontradiction⟩
    · exact absurd hrc hstage
    · rw [hclass, hcontradiction]

lemma recover_again {last : DateTime} (hquiet : Quiet last w.database)
    (hlater : last < (service.clock w.outside).1) :
    ∃ result w', recover service w = .ok result w' ∧
      (∀ row ∈ w.database.accountOperations, row.stage ≠ .receiptCommitted →
        classifications result row.operationId = [.contradiction]) ∧
      w'.outside = (service.clock w.outside).2 ∧
      w'.database.accountOperations = w.database.accountOperations ∧
      Quiet (service.clock w.outside).1 w'.database := by
  have hrows : ∀ row ∈ uncommitted w.database, row.stage = .contradiction := by
    intro row hrow
    obtain ⟨hmem, hstage⟩ := mem_uncommitted hrow
    rcases hquiet.settled row hmem with h | h
    · exact absurd h hstage
    · exact h
  obtain ⟨blockers, hloop⟩ := recoverAccountRows_quiet service.accountConfigured
    (service.clock w.outside).1 { w with outside := (service.clock w.outside).2 } _ hrows
  obtain ⟨result, w', hrun, hreceipts, hplace, hdatabase⟩ := recover_ok hloop hquiet.ledger_eq
    fun audit haudit result heq => absurd (hquiet.reported audit haudit _ result heq)
      (not_le.mpr hlater)
  refine ⟨result, w', hrun, ?_, hplace.2, by rw [hdatabase], ?_⟩
  · intro row hrow hstage
    have hids : result.accountReceipts.map (·.operationId) =
        (uncommitted w.database).map (·.operationId) := by
      rw [hreceipts, List.map_map]
      rfl
    obtain ⟨receipt, hreceipt, -, hclass⟩ := classifications_eq hids
      (uncommitted_nodup hquiet.nodup) (mem_uncommitted_of hrow hstage)
    rw [hreceipts] at hreceipt
    obtain ⟨old, -, rfl⟩ := List.mem_map.mp hreceipt
    exact hclass
  · rw [hdatabase]
    refine ⟨hquiet.ledger_eq, hquiet.nodup, hquiet.settled, ?_⟩
    intro audit haudit observedAt result' heq
    rcases List.mem_snoc.mp haudit with hold | hnew
    · exact (hquiet.reported audit hold observedAt result' heq).trans hlater.le
    · rw [hnew] at heq
      cases heq
      exact le_refl _

end Runs

end Recovery

end FirmQuant
