import FirmQuant.Persistence.RepeatedRecovery

/-!
# Crashes of an account sync

An account sync writes its row, the account file and its receipt one after another.  A crash may
come between any two of these writes, or inside the program that makes them.  One recovery then
finds the file as it was, or as the operation was to leave it, or otherwise; it leaves the sync for
a retry, finishes it with the receipt that it had sealed, or records a contradiction.

The invariant of the protocol is `Phase`: what the stage of the row tells about the file.
-/

namespace FirmQuant

open Effect

namespace Recovery

/-! ## Recoveries that return -/

section Returns

variable {E : Type} {configured : Bool} {row : AccountOperationRow} {now : DateTime}

variable {failure : Failure}

variable {database : Database}

lemma appendAudit_eq_error {audit : AuditRow}
    (h : Database.appendAudit audit database = .error failure) :
    failure.isPersistenceConflict = true := by
  unfold Database.appendAudit at h
  split at h
  · cases h
  · split at h
    · cases h
    · cases h
      rfl

lemma commitReconciliation_eq_error {receipt : ReconciliationReceipt} {snapshot : Digest}
    (h : Database.commitReconciliation receipt snapshot database = .error failure) :
    failure.isPersistenceConflict = true := by
  rw [Database.commitReconciliation_run] at h
  split at h
  · exact appendAudit_eq_error h
  · split at h
    · exact appendAudit_eq_error h
    · cases h
      rfl

/-- A finalization fails with a conflict, or because its payload cannot be decoded. -/
lemma finalizationTransaction_eq_error {finalization : Finalization} {actual : Digest}
    (h : finalizationTransaction row finalization actual now database = .error failure) :
    failure.isPersistenceConflict = true ∨ finalization = .malformed failure := by
  unfold finalizationTransaction at h
  rcases Txn.bind_eq_error.mp h with h | ⟨_, _, -, h⟩
  · cases h
  rcases Txn.bind_eq_error.mp h with h | ⟨_, _, -, h⟩
  · exact .inl (appendAudit_eq_error h)
  rcases Txn.bind_eq_error.mp h with h | ⟨_, _, -, h⟩
  · cases finalization with
    | receipt receipt snapshot => exact .inl (commitReconciliation_eq_error h)
    | malformed other =>
      cases h
      exact .inr rfl
  · exact .inl (appendAudit_eq_error h)

/-- A payload that cannot be decoded raises one of the errors of the decoder. -/
def Decodes (row : AccountOperationRow) : Prop :=
  ∀ failure, row.finalization = some (.malformed failure) →
    failure.isDomainTypeError = true ∨ failure.isValueError = true

lemma finalization_returns (hdecodes : Decodes row) (actual : Digest) (now : DateTime)
    (w : Installation E) :
    ∃ finalized w', recoverBrokerSyncFinalization row actual now w = .ok finalized w' := by
  unfold recoverBrokerSyncFinalization
  cases hfinal : row.finalization with
  | none => exact ⟨false, w, rfl⟩
  | some finalization =>
    dsimp only
    rw [tryCatch_apply, bind_apply]
    cases hwrite : finalizationTransaction row finalization actual now w.database with
    | ok p =>
      rw [Service.transact_of_ok hwrite]
      exact ⟨true, _, rfl⟩
    | error failure =>
      rw [Service.transact_of_error hwrite]
      dsimp only
      rw [if_pos]
      · exact ⟨false, w, rfl⟩
      · rcases finalizationTransaction_eq_error hwrite with hconflict | rfl
        · exact .inr (.inl hconflict)
        · rcases hdecodes failure hfinal with htype | hvalue
          · exact .inl htype
          · exact .inr (.inr (.inr hvalue))

/-- The recovery of an operation without audit events returns. -/
lemma recoverAccount_returns (hstage : row.stage ≠ .receiptCommitted) (hdecodes : Decodes row)
    (now : DateTime) {w : Installation E}
    (hfresh : row.stage ≠ .contradiction → ∀ audit ∈ w.database.auditEvents,
      ¬ Concerns row.operationId audit.auditEventId) :
    ∃ found w', recoverAccount configured row now w = .ok found w' := by
  by_cases hcontradiction : row.stage = .contradiction
  · unfold recoverAccount
    rw [if_pos hcontradiction]
    exact ⟨_, w, rfl⟩
  have hsettle : ∀ stage persisted classification actual (blockers : List RecoveryBlocker),
      ∃ found w', (do
        let receipt ← settle row stage persisted classification actual now
        pure (receipt, blockers) :
          Service E (AccountRecoveryReceipt × List RecoveryBlocker)) w = .ok found w' := by
    intro stage persisted classification actual blockers
    have hnew : ∀ audit ∈ w.database.auditEvents, audit.auditEventId ≠
        .accountRecovery row.operationId classification actual :=
      fun audit haudit heq => hfresh hcontradiction audit haudit (heq ▸ rfl)
    obtain ⟨w', hrun, -⟩ := settle_ok stage persisted now hnew
    rw [bind_apply, hrun]
    exact ⟨_, w', rfl⟩
  rcases recoverAccount_open configured now (open_of_stage hstage hcontradiction) w with
    ⟨-, -, stage, persisted, classification, blockers, -, hrun⟩ | ⟨-, hrun⟩ |
    ⟨-, digest, -, hrun⟩
  · rw [hrun]
    exact hsettle _ _ _ _ _
  · rw [hrun]
    exact hsettle _ _ _ _ _
  · obtain ⟨finalized, w₁, hfinalize⟩ := finalization_returns hdecodes digest now w
    rw [hrun, bind_apply, hfinalize]
    rcases finalization_eq_ok hfinalize with ⟨rfl, rfl⟩ | ⟨rfl, -⟩
    · exact hsettle _ _ _ _ _
    · exact ⟨_, w₁, rfl⟩

end Returns

end Recovery

/-! ## Account syncs -/

/-- An account sync: what its row keeps from its beginning to its end. -/
structure AccountSync where
  operationId : String
  accountBeforeSha256 : Digest
  expectedAccountAfterSha256 : Digest
  accountPathSha256 : Digest
  evidenceSha256 : Digest
  receipt : ReconciliationReceipt
  brokerSnapshotSha256 : Digest

namespace AccountSync

open Recovery

variable (sync : AccountSync)

/-- The row is one of the sync. -/
def Row (row : AccountOperationRow) : Prop :=
  row.operationId = sync.operationId ∧ row.operationKind = "BROKER_SYNC" ∧
    row.accountBeforeSha256 = sync.accountBeforeSha256 ∧
    row.expectedAccountAfterSha256 = sync.expectedAccountAfterSha256 ∧
    row.accountPathSha256 = sync.accountPathSha256 ∧
    row.evidenceSha256 = sync.evidenceSha256 ∧
    row.finalization = some (.receipt sync.receipt sync.brokerSnapshotSha256)

/-- The audit event of the committed sync. -/
def committedAudit (now : DateTime) : AuditRow :=
  AccountOperation.committedAudit sync.operationId "BROKER_SYNC" sync.accountPathSha256
    sync.evidenceSha256 sync.accountBeforeSha256 sync.expectedAccountAfterSha256 now

/-- The audit event of the committed sync and its reconciliation receipt are there. -/
def Completed (database : Database) : Prop :=
  (∃ now, database.auditEvents.find? (·.auditEventId = .accountOperation sync.operationId) =
    some (sync.committedAudit now)) ∧
  Recorded database sync.receipt sync.brokerSnapshotSha256

/-- What the stage of the sync tells about the file. -/
def Phase (database : Database) (file : AccountFile) : AccountStage → Prop
  | .prepared => True
  | .fileCommitted => file.economicSha256 = some sync.expectedAccountAfterSha256
  | .receiptCommitted => file.economicSha256 = some sync.expectedAccountAfterSha256 ∧
      sync.Completed database
  | .contradiction => file.economicSha256 ≠ some sync.accountBeforeSha256 ∧
      file.economicSha256 ≠ some sync.expectedAccountAfterSha256

/-- The outcomes of one recovery that blocks with `blocks`: the file is as before the sync, which
is left for a retry; or as after it, and the sync is completed; or neither, and it is a
contradiction. -/
def Outcome (file : AccountFile) (blocks : RecoveryBlocker → Prop) (database : Database) : Prop :=
  (file.economicSha256 = some sync.accountBeforeSha256 ∧
    database.stageOf sync.operationId = some .prepared ∧ blocks .accountCommitRetryRequired) ∨
  (file.economicSha256 = some sync.expectedAccountAfterSha256 ∧
    database.stageOf sync.operationId = some .receiptCommitted ∧ sync.Completed database) ∨
  (file.economicSha256 ≠ some sync.accountBeforeSha256 ∧
    file.economicSha256 ≠ some sync.expectedAccountAfterSha256 ∧
    database.stageOf sync.operationId = some .contradiction ∧
    blocks .accountOperationContradiction)

variable {sync}

lemma stageOf_of_forall {database : Database} {id : String} {stage : AccountStage}
    (hid : id ∈ database.accountOperations.map (·.operationId))
    (h : ∀ row ∈ database.accountOperations, row.operationId = id → row.stage = stage) :
    database.stageOf id = some stage := by
  obtain ⟨row, hrow, rfl⟩ := List.mem_map.mp hid
  have hsome : (database.accountOperations.find? (·.operationId = row.operationId)).isSome :=
    List.find?_isSome.mpr ⟨row, hrow, decide_eq_true rfl⟩
  obtain ⟨found, hfound⟩ := Option.isSome_iff_exists.mp hsome
  have hstage := h found (List.mem_of_find?_eq_some hfound) (by simpa using List.find?_some hfound)
  rw [Database.stageOf, hfound, Option.map_some, hstage]

/-- One recovery of the row of a sync, with a reconciliation that can be recorded. -/
lemma Phase.recoverAccount {E : Type} {row : AccountOperationRow} {w : Installation E}
    (hrow : sync.Row row) (hphase : sync.Phase w.database w.file row.stage)
    (hfile : w.file.pathSha256 = some sync.accountPathSha256)
    (hne : sync.accountBeforeSha256 ≠ sync.expectedAccountAfterSha256)
    (hstage : row.stage ≠ .receiptCommitted) (hmem : row ∈ w.database.accountOperations)
    (hunique : ∀ other ∈ w.database.accountOperations, other.operationId = row.operationId →
      other = row)
    (hfresh : row.stage ≠ .contradiction → ∀ audit ∈ w.database.auditEvents,
      ¬ Concerns row.operationId audit.auditEventId)
    (hrec : Recordable w.database sync.receipt sync.brokerSnapshotSha256) (now : DateTime) :
    ∃ receipt blockers w', Recovery.recoverAccount true row now w = .ok (receipt, blockers) w' ∧
      sync.Outcome w.file (· ∈ blockers) w'.database := by
  obtain ⟨hid, hkind, hbefore, hafter, hpath, hevidence, hfinal⟩ := hrow
  have hids : ∀ {found : AccountRecoveryReceipt × List RecoveryBlocker} {w' : Installation E},
      Recovery.recoverAccount true row now w = .ok found w' →
      sync.operationId ∈ w'.database.accountOperations.map (·.operationId) := by
    intro found w' hrun
    have htouched : Touched true w.file row w.database w.outside w' :=
      (keeps_recoverAccount_touched hstage now).ok hrun ⟨⟨rfl, rfl⟩, Beside.refl _⟩
    rw [htouched.2.ids_eq, ← hid]
    exact List.mem_map_of_mem hmem
  have hstageOf : ∀ {found : AccountRecoveryReceipt × List RecoveryBlocker} {w' : Installation E}
      {stage : AccountStage}, Recovery.recoverAccount true row now w = .ok found w' →
      (∀ other ∈ w'.database.accountOperations, other.operationId = row.operationId →
        other.stage = stage) → w'.database.stageOf sync.operationId = some stage :=
    fun hrun hstages => stageOf_of_forall (hids hrun) fun other hother hsame =>
      hstages other hother (hsame.trans hid.symm)
  by_cases hcontradiction : row.stage = .contradiction
  · have hrun : Recovery.recoverAccount true row now w =
        .ok (⟨row.operationId, .contradiction, row.actualAccountAfterSha256⟩,
          [.accountOperationContradiction]) w := by
      unfold Recovery.recoverAccount
      rw [if_pos hcontradiction]
      rfl
    rw [hcontradiction] at hphase
    refine ⟨_, _, w, hrun, .inr (.inr ⟨hphase.1, hphase.2,
      hstageOf hrun fun other hother hsame => ?_, List.mem_singleton.mpr rfl⟩)⟩
    rw [hunique other hother hsame, hcontradiction]
  have hopen := open_of_stage hstage hcontradiction
  have hactual : observedActual true w.file row = w.file.economicSha256 :=
    if_pos ⟨rfl, hfile.trans (congrArg some hpath.symm)⟩
  have hnew : ∀ classification actual, ∀ audit ∈ w.database.auditEvents, audit.auditEventId ≠
      .accountRecovery row.operationId classification actual :=
    fun classification actual audit haudit heq => hfresh hcontradiction audit haudit (heq ▸ rfl)
  rcases recoverAccount_open true now hopen w with
    ⟨hretried, happlied, stage, persisted, classification, blockers, hcase, hrun⟩ |
    ⟨hretried, hrun⟩ | ⟨happlied, digest, hdigest, hrun⟩
  · rcases hcase with ⟨-, hother⟩ | ⟨rfl, rfl, rfl⟩
    · exact absurd hkind hother.1
    obtain ⟨w', hsettle, hstages⟩ := settle_ok .contradiction persisted now (hnew _ _)
    rw [bind_apply, hsettle] at hrun
    have hnotBefore : w.file.economicSha256 ≠ some sync.accountBeforeSha256 := by
      intro heq
      rcases hopen with hcase | hcase
      · exact hretried ⟨hcase, hkind, by rw [hactual, heq, hbefore]⟩
      · rw [hcase] at hphase
        exact hne (Option.some.inj (heq.symm.trans hphase))
    have hnotAfter : w.file.economicSha256 ≠ some sync.expectedAccountAfterSha256 := by
      intro heq
      refine happlied ⟨hopen, hkind, ?_⟩
      rw [hactual, classify, hbefore, hafter, if_neg hnotBefore, if_pos heq]
    exact ⟨_, _, w', hrun, .inr (.inr ⟨hnotBefore, hnotAfter, hstageOf hrun hstages,
      List.mem_singleton.mpr rfl⟩)⟩
  · obtain ⟨w', hsettle, hstages⟩ := settle_ok .prepared none now (hnew _ _)
    rw [bind_apply, hsettle] at hrun
    refine ⟨_, _, w', hrun, .inl ⟨?_, hstageOf hrun hstages, List.mem_singleton.mpr rfl⟩⟩
    rw [← hactual, hretried.2.2, hbefore]
  · have hexpected : w.file.economicSha256 = some sync.expectedAccountAfterSha256 := by
      have hclass := happlied.2.2
      rw [hactual, classify, hbefore, hafter] at hclass
      split at hclass
      · cases hclass
      · split at hclass
        next heq => exact heq
        · cases hclass
    obtain ⟨w', hfinalize, hstages⟩ := finalization_ok digest now hfinal
      (fun other hother hsame => by rw [hunique other hother hsame]; exact hopen)
      (hfresh hcontradiction) hrec
    rw [bind_apply, hfinalize] at hrun
    rcases finalization_eq_ok hfinalize with ⟨hfalse, -⟩ | ⟨-, -, haudit, receipt, snapshot,
      hfinal', -, hrecorded⟩
    · cases hfalse
    obtain ⟨rfl, rfl⟩ : sync.receipt = receipt ∧ sync.brokerSnapshotSha256 = snapshot := by
      have hsame := hfinal.symm.trans hfinal'
      simpa using hsame
    rw [hid, hpath, hevidence, hbefore, hafter] at haudit
    exact ⟨_, _, w', hrun, .inr (.inl ⟨hexpected, hstageOf hrun hstages, ⟨now, haudit⟩,
      hrecorded⟩)⟩

/-! ### The recovery of the other operations -/

section Loop

variable {E : Type} {configured : Bool} {now : DateTime} {blocks : RecoveryBlocker → Prop}

variable {database : Database} {row : AccountOperationRow}

lemma forall_of_stageOf {id : String} {stage : AccountStage}
    (hnodup : (database.accountOperations.map (·.operationId)).Nodup)
    (h : database.stageOf id = some stage) :
    id ∈ database.accountOperations.map (·.operationId) ∧
      ∀ row ∈ database.accountOperations, row.operationId = id → row.stage = stage := by
  obtain ⟨found, hfound, rfl⟩ := Option.map_eq_some_iff.mp h
  have hmem := List.mem_of_find?_eq_some hfound
  have hid : found.operationId = id := by simpa using List.find?_some hfound
  refine ⟨hid ▸ List.mem_map_of_mem hmem, fun row hrow hsame => ?_⟩
  rw [List.inj_on_of_nodup_map hnodup hrow hmem (hsame.trans hid.symm)]

/-- An outcome stays one where the stage of the sync, its records and the blockers stay. -/
lemma Outcome.map {file : AccountFile} {blocks' : RecoveryBlocker → Prop} {database' : Database}
    (h : sync.Outcome file blocks database)
    (hstage : ∀ stage, database.stageOf sync.operationId = some stage →
      database'.stageOf sync.operationId = some stage)
    (hcompleted : sync.Completed database → sync.Completed database')
    (hblocks : ∀ blocker, blocks blocker → blocks' blocker) :
    sync.Outcome file blocks' database' := by
  rcases h with ⟨hfile, hold, hblocked⟩ | ⟨hfile, hold, hdone⟩ | ⟨hbefore, hafter, hold, hblocked⟩
  · exact .inl ⟨hfile, hstage _ hold, hblocks _ hblocked⟩
  · exact .inr (.inl ⟨hfile, hstage _ hold, hcompleted hdone⟩)
  · exact .inr (.inr ⟨hbefore, hafter, hstage _ hold, hblocks _ hblocked⟩)

lemma Outcome.beside {file : AccountFile} {operationId : String}
    {records : ReconciliationReceipt → Digest → Prop} {database' : Database}
    (h : sync.Outcome file blocks database)
      (hbeside : Beside operationId records database database')
    (hnodup : (database.accountOperations.map (·.operationId)).Nodup)
    (hother : sync.operationId ≠ operationId) : sync.Outcome file blocks database' := by
  refine h.map (fun stage hstage => ?_) ?_ fun _ => id
  · obtain ⟨hid, hall⟩ := forall_of_stageOf hnodup hstage
    refine stageOf_of_forall (hbeside.ids_eq ▸ hid) fun row hrow hsame => ?_
    exact hall row ((hbeside.others row (hsame ▸ hother)).mp hrow) hsame
  · rintro ⟨⟨time, haudit⟩, hrun, hreceipt⟩
    exact ⟨⟨time, hbeside.find_audit haudit⟩, hbeside.find_run hrun, hbeside.find_audit hreceipt⟩

variable {rest : List AccountOperationRow} {w : Installation E}

/-- One operation of the loop, whatever it is. -/
lemma recoverAccount_outstanding (configured : Bool)
    (hout : Outstanding (row :: rest) w.database) (hdecodes : Decodes row) (now : DateTime) :
    ∃ found w', Recovery.recoverAccount configured row now w = .ok found w' ∧
      Touched configured w.file row w.database w.outside w' ∧ Outstanding rest w'.database := by
  have hhead : row ∈ row :: rest := List.mem_cons_self
  have hstage := (hout.mem row hhead).2
  obtain ⟨found, w', hrun⟩ := recoverAccount_returns hstage hdecodes now (hout.fresh row hhead)
  have htouched : Touched configured w.file row w.database w.outside w' :=
    (keeps_recoverAccount_touched hstage now).ok hrun ⟨⟨rfl, rfl⟩, Beside.refl _⟩
  exact ⟨found, w', hrun, htouched, hout.beside htouched.2⟩

/-- The loop, from the runs of its parts. -/
lemma recoverAccountRows_eq {w₁ w₂ : Installation E}
    {found : AccountRecoveryReceipt × List RecoveryBlocker}
    {more : List AccountRecoveryReceipt × List RecoveryBlocker}
    (hrow : Recovery.recoverAccount configured row now w = .ok found w₁)
    (hrest : recoverAccountRows configured now rest w₁ = .ok more w₂) :
    recoverAccountRows configured now (row :: rest) w =
      .ok (found.1 :: more.1, found.2 ++ more.2) w₂ := by
  unfold recoverAccountRows
  rw [bind_apply, hrow]
  dsimp only
  rw [bind_apply, hrest]
  rfl

lemma Outcome.rows (configured : Bool) (rows : List AccountOperationRow)
    (h : sync.Outcome w.file blocks w.database) (hout : Outstanding rows w.database)
    (hdecodes : ∀ row ∈ rows, Decodes row)
    (hother : ∀ row ∈ rows, sync.operationId ≠ row.operationId) (now : DateTime) :
    ∃ found w', recoverAccountRows configured now rows w = .ok found w' ∧
      sync.Outcome w.file blocks w'.database := by
  induction rows generalizing w with
  | nil => exact ⟨_, w, rfl, h⟩
  | cons row rest ih =>
    obtain ⟨found, w₁, hrow, htouched, hrest⟩ :=
      recoverAccount_outstanding configured hout (hdecodes row List.mem_cons_self) now
    have hnext := h.beside htouched.2 hout.nodup (hother row List.mem_cons_self)
    rw [← htouched.1.1] at hnext
    obtain ⟨more, w₂, hloop, hdone⟩ := ih hnext hrest
      (List.forall_mem_cons.mp hdecodes).2
      (List.forall_mem_cons.mp hother).2
    rw [htouched.1.1] at hdone
    exact ⟨_, w₂, recoverAccountRows_eq hrow hloop, hdone⟩

/-- The loop over all operations, with the sync among them. -/
lemma outcome_rows (rows : List AccountOperationRow) {own : AccountOperationRow}
    (hown : own ∈ rows) (hrow : sync.Row own) (hphase : sync.Phase w.database w.file own.stage)
    (hfile : w.file.pathSha256 = some sync.accountPathSha256)
    (hne : sync.accountBeforeSha256 ≠ sync.expectedAccountAfterSha256)
    (hout : Outstanding rows w.database) (hdecodes : ∀ row ∈ rows, Decodes row)
    (hrec : Recordable w.database sync.receipt sync.brokerSnapshotSha256)
    (hagree : ∀ row ∈ rows, ∀ receipt snapshot,
      row.finalization = some (.receipt receipt snapshot) →
      receipt.reconciliationId = sync.receipt.reconciliationId →
      receipt = sync.receipt ∧ snapshot = sync.brokerSnapshotSha256) (now : DateTime) :
    ∃ found w', recoverAccountRows true now rows w = .ok found w' ∧
      sync.Outcome w.file (· ∈ found.2) w'.database := by
  induction rows generalizing w with
  | nil => cases hown
  | cons row rest ih =>
    have hhead : row ∈ row :: rest := List.mem_cons_self
    by_cases hsame : own = row
    · subst hsame
      obtain ⟨receipt, blockers, w₁, hrun, hdone⟩ := hphase.recoverAccount hrow hfile hne
        (hout.mem own hhead).2 (hout.mem own hhead).1 (fun _ hother => hout.unique hhead hother)
        (hout.fresh own hhead) hrec now
      have htouched : Touched true w.file own w.database w.outside w₁ :=
        (keeps_recoverAccount_touched (hout.mem own hhead).2 now).ok hrun
          ⟨⟨rfl, rfl⟩, Beside.refl _⟩
      rw [← htouched.1.1] at hdone
      obtain ⟨more, w₂, hloop, hdone⟩ := hdone.rows true rest (hout.beside htouched.2)
        (List.forall_mem_cons.mp hdecodes).2
        (fun other hmem => hrow.1 ▸ (hout.ne_head hmem).symm) now
      rw [htouched.1.1] at hdone
      refine ⟨_, w₂, recoverAccountRows_eq hrun hloop,
        hdone.map (fun _ => id) id fun blocker hmem => ?_⟩
      exact List.mem_append_left _ hmem
    · have hrest : own ∈ rest := by
        rcases List.mem_cons.mp hown with heq | hmem
        · exact absurd heq hsame
        · exact hmem
      obtain ⟨found, w₁, hrun, htouched, hout₁⟩ :=
        recoverAccount_outstanding true hout (hdecodes row hhead) now
      have hphase₁ : sync.Phase w₁.database w₁.file own.stage := by
        rw [htouched.1.1]
        have hopen := (hout.mem own hown).2
        cases hcase : own.stage with
        | prepared | fileCommitted | contradiction => rwa [hcase] at hphase
        | receiptCommitted => exact absurd hcase hopen
      have hrec₁ : Recordable w₁.database sync.receipt sync.brokerSnapshotSha256 :=
        htouched.2.recordable hrec fun receipt snapshot hsealed hid =>
          hagree row hhead receipt snapshot hsealed.2 hid
      obtain ⟨more, w₂, hloop, hdone⟩ := ih hrest hphase₁ (htouched.1.1 ▸ hfile) hout₁
        (List.forall_mem_cons.mp hdecodes).2 hrec₁
        (List.forall_mem_cons.mp hagree).2
      rw [htouched.1.1] at hdone
      refine ⟨_, w₂, recoverAccountRows_eq hrun hloop,
        hdone.map (fun _ => id) id fun blocker hmem => ?_⟩
      exact List.mem_append_right _ hmem

end Loop

/-! ### The whole run -/

section Run

variable {E : Type} {service : RecoveryService E}

/-- The report of a run has this blocker, unless the run raises. -/
def Blocks : EStateM.Result Failure (Installation E) RecoveryReport → RecoveryBlocker → Prop
  | .ok report _, blocker => blocker ∈ report.blockers
  | .error _ _, _ => True

lemma mem_sorted {blocker : RecoveryBlocker} {blockers : List RecoveryBlocker}
    (h : blocker ∈ blockers) : blocker ∈ RecoveryBlocker.sorted blockers := by
  unfold RecoveryBlocker.sorted
  rw [List.mem_filter]
  refine ⟨?_, decide_eq_true h⟩
  cases blocker <;> decide

lemma Outcome.audited {file : AccountFile} {blocks blocks' : RecoveryBlocker → Prop}
    {database database' : Database} {added : List AuditRow} (h : sync.Outcome file blocks database)
    (hblocks : ∀ blocker, blocks blocker → blocks' blocker)
    (hoperations : database'.accountOperations = database.accountOperations)
    (hruns : database'.reconciliationRuns = database.reconciliationRuns)
    (hevents : database'.auditEvents = database.auditEvents ++ added) :
    sync.Outcome file blocks' database' := by
  have hfind : ∀ {id audit}, database.auditEvents.find? (·.auditEventId = id) = some audit →
      database'.auditEvents.find? (·.auditEventId = id) = some audit := by
    intro id audit hfind
    rw [hevents, List.find?_append, hfind]
    rfl
  refine h.map (fun stage hstage => ?_) ?_ hblocks
  · rwa [Database.stageOf, hoperations]
  · rintro ⟨⟨time, haudit⟩, hrun, hreceipt⟩
    exact ⟨⟨time, hfind haudit⟩, hruns ▸ hrun, hfind hreceipt⟩

/-- A run whose part on the accounts has this outcome.  It raises only where its part on the orders
does. -/
lemma Outcome.recover {w w₁ : Installation E}
    {found : List AccountRecoveryReceipt × List RecoveryBlocker}
    (haccounts : recoverAccounts service.accountConfigured (service.clock w.outside).1
      { w with outside := (service.clock w.outside).2 } = .ok found w₁)
    (hfile : w₁.file = w.file) (h : sync.Outcome w.file (· ∈ found.2) w₁.database)
    (hnew : ∀ audit ∈ w₁.database.auditEvents, ∀ observedAt report,
      audit.auditEventId ≠ .recoveryReport observedAt report) :
    (finalState (Recovery.recover service w)).file = w.file ∧
      sync.Outcome w.file (Blocks (Recovery.recover service w))
        (finalState (Recovery.recover service w)).database ∧
      ∀ failure w', Recovery.recover service w = .error failure w' →
        recoverOrders service (service.clock w.outside).1 w₁ = .error failure w' := by
  have hclock : (call fun e => (.ok (service.clock e).1, (service.clock e).2) :
      Service E DateTime) w = .ok (service.clock w.outside).1
        { w with outside := (service.clock w.outside).2 } := rfl
  have hkept : (finalState (recoverOrders service (service.clock w.outside).1 w₁)).file = w.file ∧
      _ ∧ _ ∧ _ :=
    Keeps.finalState (keeps_recoverOrders_others _) ⟨hfile, rfl, rfl, rfl⟩
  unfold Recovery.recover
  rw [bind_apply, hclock]
  dsimp only
  rw [bind_apply, haccounts]
  dsimp only
  rw [bind_apply]
  cases horders : recoverOrders service (service.clock w.outside).1 w₁ with
  | error failure w₂ =>
    rw [horders] at hkept
    obtain ⟨hfile₂, hoperations, hruns, hevents⟩ := hkept
    refine ⟨hfile₂, ?_, fun failure' w' heq => by cases heq; rfl⟩
    have hsame : w₂.database.auditEvents = w₁.database.auditEvents ++ [] := by
      rw [List.append_nil]
      exact hevents
    exact h.audited (fun _ _ => trivial) hoperations hruns hsame
  | ok orders w₂ =>
    rw [horders] at hkept
    obtain ⟨hfile₂, hoperations, hruns, hevents⟩ := hkept
    dsimp only [finalState] at hfile₂ hoperations hruns hevents ⊢
    rw [get_bind_apply, bind_apply]
    generalize hreport : report service w₂.database found.1 orders.1 (found.2 ++ orders.2) = result
    have happend : Database.appendAudit (reportAudit result (service.clock w.outside).1)
        w₂.database = .ok (⟨⟩, { w₂.database with auditEvents := w₂.database.auditEvents ++
          [reportAudit result (service.clock w.outside).1] }) :=
      appendAudit_ok fun other hother => hnew other (hevents ▸ hother) _ _
    rw [Service.transact_of_ok happend]
    refine ⟨hfile₂, ?_, fun failure w' heq => by cases heq⟩
    have hblocks : ∀ blocker, blocker ∈ found.2 → blocker ∈ result.blockers := by
      intro blocker hmem
      rw [← hreport]
      refine mem_sorted ?_
      simp only [List.append_assoc, List.mem_append]
      exact .inl hmem
    exact h.audited hblocks hoperations hruns
      (congrArg (· ++ [reportAudit result (service.clock w.outside).1]) hevents)

end Run

/-! ### The protocol -/

section Protocol

variable {A E : Type} {start database : Database} {file : AccountFile}

/-- The sync is under way: its row is there, in a stage that fits the file, and beside it is what
was there at its beginning. -/
structure Underway (sync : AccountSync) (start database : Database)
    (file : AccountFile) : Prop where
  nodup : (database.accountOperations.map (·.operationId)).Nodup
  beside : Beside sync.operationId
    (fun receipt snapshot => receipt = sync.receipt ∧ snapshot = sync.brokerSnapshotSha256)
    start database
  path : file.pathSha256 = some sync.accountPathSha256
  row : ∃ row ∈ database.accountOperations, sync.Row row ∧ sync.Phase database file row.stage

/-- The handle is one of the sync. -/
def Handle (sync : AccountSync) (operation : AccountOperation A) : Prop :=
  operation.operationId = sync.operationId ∧ operation.operationKind = "BROKER_SYNC" ∧
    operation.accountBeforeSha256 = sync.accountBeforeSha256 ∧
    operation.expectedAccountAfterSha256 = sync.expectedAccountAfterSha256 ∧
    operation.pathSha256 = sync.accountPathSha256 ∧
    operation.evidenceSha256 = sync.evidenceSha256

variable {stage : AccountStage} {file' : AccountFile} {u : PUnit} {database' begun : Database}

variable (h : sync.Underway start database file)

include h

lemma Underway.phase (hstage : database.stageOf sync.operationId = some stage) :
    sync.Phase database file stage := by
  obtain ⟨row, hmem, hrow, hphase⟩ := h.row
  rw [(forall_of_stageOf h.nodup hstage).2 row hmem hrow.1] at hphase
  exact hphase

/-- As long as the sync is PREPARED, nothing is known of the content of the file. -/
lemma Underway.fileChanged (hstage : database.stageOf sync.operationId = some .prepared)
    (hpath : file'.pathSha256 = file.pathSha256) : sync.Underway start database file' := by
  obtain ⟨row, hmem, hrow, -⟩ := h.row
  refine ⟨h.nodup, h.beside, hpath.trans h.path, row, hmem, hrow, ?_⟩
  rw [(forall_of_stageOf h.nodup hstage).2 row hmem hrow.1]
  trivial

/-- An update of the row of the sync to a stage that fits the file. -/
lemma Underway.update {stages : List AccountStage} {actual : Option Digest} {now : DateTime}
    (hphase : sync.Phase database file stage)
    (hrun : AccountOperation.updateOperation sync.operationId stages stage actual now database =
      .ok (u, database')) : sync.Underway start database' file := by
  have hbeside := beside_updateOperation _ _ _ h.beside hrun
  refine ⟨?_, hbeside, h.path, ?_⟩
  · rw [hbeside.ids_eq, ← h.beside.ids_eq]
    exact h.nodup
  · cases hrun
    obtain ⟨row, hmem, hrow, hold⟩ := h.row
    refine ⟨_, List.mem_map_of_mem hmem, ?_⟩
    by_cases hcase : row.operationId = sync.operationId ∧ row.stage ∈ stages
    · rw [if_pos hcase]
      exact ⟨hrow, hphase⟩
    · rw [if_neg hcase]
      exact ⟨hrow, hold⟩

/-- The transaction of the receipt completes a sync whose file is written. -/
lemma Underway.receiptTransaction {operation : AccountOperation A}
    (hhandle : sync.Handle operation)
    (hstage : database.stageOf sync.operationId = some .fileCommitted) {actual : Digest}
    {now : DateTime} (hrun : operation.receiptTransaction actual
      (some (sync.receipt, sync.brokerSnapshotSha256)) now database = .ok (u, database')) :
    sync.Underway start database' file := by
  obtain ⟨hid, hkind, hbefore, hafter, hpath, hevidence⟩ := hhandle
  have hfile : file.economicSha256 = some sync.expectedAccountAfterSha256 := h.phase hstage
  unfold AccountOperation.receiptTransaction at hrun
  rw [hid, hkind, hbefore, hafter, hpath, hevidence] at hrun
  obtain ⟨u₁, updated, hupdate, hrun₁⟩ := Txn.bind_eq_ok.mp hrun
  obtain ⟨u₂, committed, hcommitted, hrecorded⟩ := Txn.bind_eq_ok.mp hrun₁
  have hbeside₁ := beside_updateOperation _ _ _ h.beside hupdate
  have hconcerns : Concerns sync.operationId (.accountOperation sync.operationId) := rfl
  have hbeside₂ := beside_appendAudit (.inl hconcerns) _ _ _ hbeside₁ hcommitted
  have hbeside₃ := beside_commitReconciliation ⟨rfl, rfl⟩ _ _ _ hbeside₂ hrecorded
  have hlast : Beside sync.operationId (fun _ _ => True) committed database' :=
    beside_commitReconciliation trivial _ _ _ (Beside.refl _) hrecorded
  have hcompleted : sync.Completed database' :=
    ⟨⟨now, hlast.find_audit (find_of_appendAudit hcommitted).1⟩,
      (recorded_of_commitReconciliation hrecorded).2⟩
  refine ⟨?_, hbeside₃, h.path, ?_⟩
  · rw [hbeside₃.ids_eq, ← h.beside.ids_eq]
    exact h.nodup
  · obtain ⟨row, hmem, hrow, -⟩ := h.row
    have hold := (forall_of_stageOf h.nodup hstage).2 row hmem hrow.1
    have hoperations : database'.accountOperations = updated.accountOperations :=
      (operations_of_commitReconciliation hrecorded).trans (tables_of_appendAudit hcommitted).2.1
    cases hupdate
    rw [hoperations]
    refine ⟨_, List.mem_map_of_mem hmem, ?_⟩
    rw [if_pos ⟨hrow.1, by simp [hold]⟩]
    exact ⟨hrow, hfile, hcompleted⟩

omit h

variable {operation : AccountOperation A} {store : AccountStateStore A} {now : DateTime}

/-- A contradiction is recorded where the file fits neither digest. -/
lemma triple_contradict {α : Type} {P : Installation E → Prop} {Q : α → Installation E → Prop}
    (hid : operation.operationId = sync.operationId)
    (hP : ∀ w, P w → Throughout (sync.Underway start) w ∧
      w.file.economicSha256 ≠ some sync.accountBeforeSha256 ∧
      w.file.economicSha256 ≠ some sync.expectedAccountAfterSha256)
    (actual : Option Digest) (message : String) :
    Triple P (operation.contradict actual now message : Service E α) Q
      (Throughout (sync.Underway start)) := by
  refine triple_bind (triple_pre (triple_transact fun w a database hI hS h => ?_) hP) fun _ =>
    triple_throw fun _ hw => hw
  rw [hid] at h
  refine hI.update ?_ h
  exact hS

/-- What the end of `replaceFile` finds: a PREPARED sync whose file is no longer as before. -/
lemma triple_replaced (hhandle : sync.Handle operation) :
    Triple (fun w : Installation E => Throughout (sync.Underway start) w ∧
        w.database.stageOf sync.operationId = some .prepared ∧
        w.file.economicSha256 ≠ some sync.accountBeforeSha256)
      (do
        let actualAfter ← Service.hashFile
        if actualAfter ≠ operation.expectedAccountAfterSha256 then
          operation.contradict (some actualAfter) now "atomic account file has unexpected identity"
        else
          Service.transact (AccountOperation.updateOperation operation.operationId [.prepared]
            .fileCommitted (some actualAfter) now) : Service E PUnit)
      (fun _ => Throughout (sync.Underway start)) (Throughout (sync.Underway start)) := by
  obtain ⟨hid, -, -, hafter, -, -⟩ := hhandle
  refine triple_bind (triple_error triple_hashFile
    fun _ hw => hw.1) fun digest => ?_
  by_cases hdigest : digest = operation.expectedAccountAfterSha256
  · rw [if_neg (not_not.mpr hdigest), hid]
    refine triple_pre (triple_transact fun w a database hI hS h => hI.update hS h)
      (fun w hw => ⟨hw.1.1, ?_⟩)
    rw [hdigest, hafter] at hw
    exact hw.2
  · rw [if_pos hdigest]
    refine triple_contradict hid (fun w hw => ⟨hw.1.1, hw.1.2.2, fun heq => hdigest ?_⟩) _ _
    rw [hafter]
    exact Option.some.inj (hw.2.symm.trans heq)

/-- The write of the file: it raises and leaves the file as it was, or the content of the file is
no longer the one from before the operation. -/
def ReplacesFile (store : AccountStateStore A) (account : A) (before : Digest) : Prop :=
  ∀ file, ((∃ failure, (store.save account file).1 = .error failure) ∧
      (store.save account file).2 = file) ∨
    ((store.save account file).2.pathSha256 = file.pathSha256 ∧
      (store.save account file).2.economicSha256 ≠ some before)

lemma triple_save
    (hstore : ReplacesFile store operation.preparedAccount sync.accountBeforeSha256) :
    Triple (fun w : Installation E => Throughout (sync.Underway start) w ∧
        w.database.stageOf sync.operationId = some .prepared)
      (operation.save store)
      (fun _ w => Throughout (sync.Underway start) w ∧
        w.database.stageOf sync.operationId = some .prepared ∧
        w.file.economicSha256 ≠ some sync.accountBeforeSha256)
      (Throughout (sync.Underway start)) := by
  rintro w ⟨hw, hstage⟩
  have hcase := hstore w.file
  unfold AccountOperation.save
  rcases hsave : store.save operation.preparedAccount w.file with ⟨result, file⟩
  rw [hsave] at hcase
  have hsaved : file.pathSha256 = w.file.pathSha256 → Throughout (sync.Underway start) { w with
      file := file
      crashPoints := w.crashPoints ++ [(w.database, file)] } := by
    intro hpath
    have hunderway := hw.1.fileChanged hstage hpath
    refine ⟨hunderway, fun p hp => ?_⟩
    rcases List.mem_snoc.mp hp with hp | hp
    · exact hw.2 p hp
    · rw [hp]
      exact hunderway
  cases result with
  | ok u =>
    rcases hcase with ⟨⟨failure, hfailure⟩, -⟩ | ⟨hpath, hdigest⟩
    · cases hfailure
    · exact ⟨hsaved hpath, hstage, hdigest⟩
  | error failure =>
    rcases hcase with ⟨-, hsame⟩ | ⟨hpath, -⟩
    · exact hsaved (congrArg _ hsame)
    · exact hsaved hpath

/-- A step of the protocol that goes on only with the path of the sync. -/
lemma keeps_samePath (hpath : operation.pathSha256 = sync.accountPathSha256)
    (actual : Option Digest) (message : String) {x : Service E PUnit}
    (hx : Keeps (Throughout (sync.Underway start)) x) :
    Keeps (Throughout (sync.Underway start)) (do
      let path ← Service.pathSha256
      if path ≠ operation.pathSha256 then operation.contradict actual now message
      else x : Service E PUnit) := by
  refine triple_bind triple_pathSha256 fun path => ?_
  by_cases hsame : path = operation.pathSha256
  · rw [if_neg (not_not.mpr hsame)]
    exact triple_pre hx (fun _ hw => hw.1)
  · rintro w ⟨hw, hread⟩
    exact absurd (Option.some.inj ((hread.symm.trans hw.1.path).trans
      (congrArg some hpath.symm))) hsame

/-- A sync whose file is written finds the file so. -/
lemma triple_written (hafter : operation.expectedAccountAfterSha256 =
      sync.expectedAccountAfterSha256) {stage : AccountStage}
    (hwritten : stage ∈ [AccountStage.fileCommitted, .receiptCommitted])
    {actual : Digest → Option Digest} {message : String} {x : Digest → Service E PUnit}
    (hx : Triple (fun w => Throughout (sync.Underway start) w ∧
        w.database.stageOf sync.operationId = some stage)
      (x operation.expectedAccountAfterSha256) (fun _ => Throughout (sync.Underway start))
      (Throughout (sync.Underway start))) :
    Triple (fun w : Installation E => Throughout (sync.Underway start) w ∧
        w.database.stageOf sync.operationId = some stage) (do
      let digest ← Service.hashFile
      if digest ≠ operation.expectedAccountAfterSha256 then
        operation.contradict (actual digest) now message
      else x digest) (fun _ => Throughout (sync.Underway start))
      (Throughout (sync.Underway start)) := by
  refine triple_bind (triple_error triple_hashFile fun _ hw => hw.1) fun digest => ?_
  rintro w ⟨⟨hw, hstage⟩, hdigest⟩
  have hphase := hw.1.phase hstage
  have hexpected : w.file.economicSha256 = some sync.expectedAccountAfterSha256 := by
    rcases List.mem_pair.mp hwritten with rfl | rfl
    · exact hphase
    · exact hphase.1
  obtain rfl : digest = operation.expectedAccountAfterSha256 :=
    Option.some.inj ((hdigest.symm.trans hexpected).trans (congrArg some hafter.symm))
  rw [if_neg (not_not.mpr rfl)]
  exact hx w ⟨hw, hstage⟩

lemma keeps_commitFile_underway (hhandle : sync.Handle operation)
    (hne : sync.accountBeforeSha256 ≠ sync.expectedAccountAfterSha256)
    (hstore : ReplacesFile store operation.preparedAccount sync.accountBeforeSha256) :
    Keeps (Throughout (sync.Underway start))
      (operation.commitFile store now : Service E PUnit) := by
  obtain ⟨hid, -, hbefore, hafter, hpath, -⟩ := id hhandle
  refine keeps_samePath hpath _ _ (triple_bind triple_stage fun stage => ?_)
  rw [hid]
  cases stage with
  | fileCommitted | receiptCommitted =>
    exact triple_written hafter (by decide) (triple_pure fun _ hw => hw.1)
  | contradiction => exact triple_throw fun _ hw => hw.1
  | prepared =>
    unfold AccountOperation.replaceFile
    refine triple_bind (triple_error triple_hashFile
      fun _ hw => hw.1) fun digest => ?_
    by_cases hold : digest = operation.accountBeforeSha256
    · rw [if_pos hold]
      refine triple_bind (triple_pre (triple_save hstore) (fun _ hw => hw.1)) fun _ =>
        triple_replaced hhandle
    rw [if_neg hold]
    by_cases hnew : digest = operation.expectedAccountAfterSha256
    · rw [if_neg (not_not.mpr hnew)]
      refine triple_pre (triple_replaced hhandle) (fun w hw => ⟨hw.1.1, hw.1.2, fun heq => hne ?_⟩)
      rw [← hafter, ← hnew]
      exact Option.some.inj (heq.symm.trans hw.2)
    · rw [if_pos hnew]
      refine triple_bind (Q := fun _ _ => False) (triple_contradict hid (fun w hw => ?_) _ _)
        fun _ _ h => h.elim
      refine ⟨hw.1.1, fun heq => hold ?_, fun heq => hnew ?_⟩
      · rw [hbefore]
        exact Option.some.inj (hw.2.symm.trans heq)
      · rw [hafter]
        exact Option.some.inj (hw.2.symm.trans heq)

/-- `commit_receipt`, with the receipt that the sync has sealed, keeps them in step too. -/
lemma keeps_commitReceipt_underway (hhandle : sync.Handle operation) :
    Keeps (Throughout (sync.Underway start)) (operation.commitReceipt
      (some (sync.receipt, sync.brokerSnapshotSha256)) now : Service E PUnit) := by
  obtain ⟨hid, -, -, hafter, hpath, -⟩ := id hhandle
  refine keeps_samePath hpath _ _ (triple_bind triple_stage fun stage => ?_)
  rw [hid]
  cases stage with
  | prepared | contradiction => exact triple_throw fun _ hw => hw.1
  | receiptCommitted => exact triple_pure fun _ hw => hw.1
  | fileCommitted =>
    exact triple_written hafter (by decide)
      (triple_transact fun w a database hI hS h => hI.receiptTransaction hhandle hS h)

/-- The sync that a request begins. -/
def ofRequest (request : AccountOperationRequest A) (path after : Digest)
    (receipt : ReconciliationReceipt) (brokerSnapshotSha256 : Digest) : AccountSync where
  operationId := request.operationId
  accountBeforeSha256 := request.expectedBeforeSha256
  expectedAccountAfterSha256 := after
  accountPathSha256 := path
  evidenceSha256 := request.evidenceSha256
  receipt := receipt
  brokerSnapshotSha256 := brokerSnapshotSha256

/-- The durable states that calls of `commit_file` and `commit_receipt` reach after `begin`, each
call returning, raising or being cut off by a crash.  As long as the operation is PREPARED, another
program may change the content of the file. -/
inductive Interrupted (store : AccountStateStore A) (operation : AccountOperation A)
    (finalize : Option (ReconciliationReceipt × Digest)) (begun : Database) (file : AccountFile) :
    Database → AccountFile → Prop
  | begun : Interrupted store operation finalize begun file begun file
  | fileChanged {database : Database} {file' : AccountFile} (file'' : AccountFile) :
      Interrupted store operation finalize begun file database file' →
      database.stageOf operation.operationId = some .prepared →
      file''.pathSha256 = file'.pathSha256 →
      Interrupted store operation finalize begun file database file''
  | commitFile {E : Type} {database database' : Database} {file' file'' : AccountFile}
      (now : DateTime) (outside : E) :
      Interrupted store operation finalize begun file database file' →
      Installation.Leaves (operation.commitFile store now) database file' outside
        database' file'' →
      Interrupted store operation finalize begun file database' file''
  | commitReceipt {E : Type} {database database' : Database} {file' file'' : AccountFile}
      (now : DateTime) (outside : E) :
      Interrupted store operation finalize begun file database file' →
      Installation.Leaves (operation.commitReceipt finalize now) database file' outside
        database' file'' →
      Interrupted store operation finalize begun file database' file''

/-- The durable states in which a crash may leave an operation: inside `begin`, or later. -/
inductive Crashed (store : AccountStateStore A) (request : AccountOperationRequest A)
    (finalize : Option (ReconciliationReceipt × Digest)) (start : Database) (file : AccountFile) :
    Database → AccountFile → Prop
  | inBegin {E : Type} {database : Database} {file' : AccountFile} (now : DateTime) (outside : E) :
      Installation.Leaves (AccountOperation.begin store request now) start file outside
        database file' →
      Crashed store request finalize start file database file'
  | afterBegin {E : Type} {database : Database} {file' : AccountFile} (now : DateTime) (outside : E)
      {operation : AccountOperation A} {w : Installation E} :
      AccountOperation.begin store request now ⟨start, file, outside, []⟩ = .ok operation w →
      Interrupted store operation finalize w.database w.file database file' →
      Crashed store request finalize start file database file'

variable {request : AccountOperationRequest A}

/-- `begin` raises and changes nothing, or it adds the row of the operation. -/
lemma begin_run (store : AccountStateStore A) (file : AccountFile) (now : DateTime) (outside : E)
    (hfresh : ∀ row ∈ start.accountOperations, row.operationId ≠ request.operationId) :
    (∃ failure, AccountOperation.begin store request now ⟨start, file, outside, []⟩ =
      .error failure ⟨start, file, outside, []⟩) ∨
    ∃ path after begun, file.pathSha256 = some path ∧
      store.hashState request.preparedAccount = .ok after ∧
      begun = { start with accountOperations := start.accountOperations ++
        [AccountOperation.preparedRow request path after now] } ∧
      AccountOperation.begin store request now ⟨start, file, outside, []⟩ =
        .ok ⟨request.preparedAccount, request.operationId, request.operationKind,
          request.expectedBeforeSha256, after, request.evidenceSha256, path⟩
          ⟨begun, file, outside, [(begun, file)]⟩ := by
  unfold AccountOperation.begin
  rw [bind_apply, Service.pathSha256_apply]
  cases hpath : file.pathSha256 with
  | none => exact .inl ⟨_, rfl⟩
  | some path =>
    dsimp only
    rw [bind_apply, Service.hashFile_apply]
    cases hdigest : file.economicSha256 with
    | none => exact .inl ⟨_, rfl⟩
    | some current =>
      dsimp only
      by_cases hcurrent : current = request.expectedBeforeSha256
      swap
      · rw [if_pos hcurrent]
        exact .inl ⟨_, rfl⟩
      rw [if_neg (not_not.mpr hcurrent)]
      cases hstate : store.hashState request.preparedAccount with
      | error failure => exact .inl ⟨failure, rfl⟩
      | ok after =>
        refine .inr ⟨path, after, _, rfl, rfl, rfl, ?_⟩
        have hnone : start.accountOperations.find?
          (·.operationId = request.operationId) = none := by
          rw [List.find?_eq_none]
          exact fun row hrow heq => hfresh row hrow (of_decide_eq_true heq)
        have hinsert : AccountOperation.insertOperation
            (AccountOperation.preparedRow request path after now) start = .ok (⟨⟩, { start with
              accountOperations := start.accountOperations ++
                [AccountOperation.preparedRow request path after now] }) := by
          unfold AccountOperation.insertOperation
          rw [show (AccountOperation.preparedRow request path after now).operationId =
            request.operationId from rfl, hnone]
        rw [bind_apply]
        dsimp only [Service.lift]
        rw [pure_apply]
        dsimp only
        rw [bind_apply, Service.transact_of_ok hinsert]
        rfl

/-- The calls after `begin` keep the sync under way. -/
lemma Interrupted.underway
    (h : Interrupted store operation (some (sync.receipt, sync.brokerSnapshotSha256)) begun file
      database file') (hreached : Reached (fun _ _ _ => False) begun file)
    (hbegun : sync.Underway begun begun file) (hhandle : sync.Handle operation)
    (hne : sync.accountBeforeSha256 ≠ sync.expectedAccountAfterSha256)
    (hstore : ReplacesFile store operation.preparedAccount sync.accountBeforeSha256) :
    Reached (fun _ _ _ => False) database file' ∧ sync.Underway begun database file' := by
  have hof : ∀ {database : Database} {file : AccountFile}, sync.Underway begun database file →
      operation.Of database := by
    intro database file hunderway
    obtain ⟨row, hmem, hrow, -⟩ := hunderway.row
    obtain ⟨hid, hkind, hbefore, hafter, hpath, hevidence, -⟩ := hrow
    obtain ⟨hid', hkind', hbefore', hafter', hpath', hevidence'⟩ := hhandle
    exact ⟨row, hmem, hid.trans hid'.symm, hkind.trans hkind'.symm, hbefore.trans hbefore'.symm,
      hafter.trans hafter'.symm, hpath.trans hpath'.symm, hevidence.trans hevidence'.symm⟩
  induction h with
  | begun => exact ⟨hreached, hbegun⟩
  | fileChanged file'' _ hstage hpath ih =>
    rw [hhandle.1] at hstage
    exact ⟨.fileChanged file'' ih.1, ih.2.fileChanged hstage hpath⟩
  | commitFile now outside _ hleaves ih =>
    exact ⟨.commitFile operation store now outside ih.1 (hof ih.2) hleaves,
      hleaves.of_keeps (keeps_commitFile_underway hhandle hne hstore) ih.2⟩
  | commitReceipt now outside _ hleaves ih =>
    exact ⟨.commitReceipt operation _ now outside ih.1 (hof ih.2) hleaves,
      hleaves.of_keeps (keeps_commitReceipt_underway hhandle) ih.2⟩

/-- The payloads of the operations: each can be decoded or raises an error of the decoder, and one
with the reconciliation id of the sync is that of the sync. -/
structure PayloadsFit (receipt : ReconciliationReceipt) (snapshot : Digest) (database : Database) :
    Prop where
  decodes : ∀ row ∈ database.accountOperations, Decodes row
  agree : ∀ row ∈ database.accountOperations, ∀ receipt' snapshot',
    row.finalization = some (.receipt receipt' snapshot') →
    receipt'.reconciliationId = receipt.reconciliationId → receipt' = receipt ∧ snapshot' = snapshot

/-- One recovery of a sync under way. -/
lemma Underway.recover {begun : Database} (h : sync.Underway begun database file)
    (hdb : database.Unrecovered)
    (hne : sync.accountBeforeSha256 ≠ sync.expectedAccountAfterSha256)
    (hrec : Recordable begun sync.receipt sync.brokerSnapshotSha256)
    (hfit : PayloadsFit sync.receipt sync.brokerSnapshotSha256 begun) {service : RecoveryService E}
    (hconfigured : service.accountConfigured = true) (ledger : Ledger) (outside : E) :
    let run := Recovery.recover service ⟨{ database with ledger := ledger }, file, outside, []⟩
    (finalState run).file = file ∧ sync.Outcome file (Blocks run) (finalState run).database ∧
      ∀ failure w', run = .error failure w' → ∃ w₁ : Installation E, w₁.database.ledger = ledger ∧
        recoverOrders service (service.clock outside).1 w₁ = .error failure w' := by
  obtain ⟨own, hown, hrow, hphase⟩ := h.row
  have hunique : ∀ row ∈ database.accountOperations, row.operationId = sync.operationId →
      row = own := fun row hmem hid =>
    List.inj_on_of_nodup_map h.nodup hmem hown (hid.trans hrow.1.symm)
  -- The payloads of the operations are those at the beginning.
  have hdecodes : ∀ row ∈ database.accountOperations, Decodes row := by
    intro row hmem
    by_cases hid : row.operationId = sync.operationId
    · intro failure hfinal
      rw [hunique row hmem hid, hrow.2.2.2.2.2.2] at hfinal
      cases hfinal
    · exact hfit.decodes row ((h.beside.others row hid).mp hmem)
  have hagree : ∀ row ∈ database.accountOperations, ∀ receipt snapshot,
      row.finalization = some (.receipt receipt snapshot) →
      receipt.reconciliationId = sync.receipt.reconciliationId →
      receipt = sync.receipt ∧ snapshot = sync.brokerSnapshotSha256 := by
    intro row hmem receipt snapshot hfinal hsame
    by_cases hid : row.operationId = sync.operationId
    · rw [hunique row hmem hid, hrow.2.2.2.2.2.2] at hfinal
      cases hfinal
      exact ⟨rfl, rfl⟩
    · exact hfit.agree row ((h.beside.others row hid).mp hmem) receipt snapshot hfinal hsame
  have hout : Outstanding (uncommitted database) { database with ledger := ledger } := by
    have hout := outstanding_of_unrecovered hdb
    exact ⟨hout.nodup, hout.rows_nodup, hout.mem, hout.fresh⟩
  have hrows : ∀ row ∈ uncommitted database, row ∈ database.accountOperations :=
    fun row hmem => (mem_uncommitted hmem).1
  let w : Installation E :=
    ⟨{ database with ledger := ledger }, file, (service.clock outside).2, []⟩
  have hloop : ∃ found w₁, recoverAccountRows true (service.clock outside).1
      (uncommitted database) w = .ok found w₁ ∧
      sync.Outcome file (· ∈ found.2) w₁.database := by
    by_cases hstage : own.stage = .receiptCommitted
    · rw [hstage] at hphase
      have hdone : sync.Outcome w.file (fun _ => False) w.database := by
        refine .inr (.inl ⟨hphase.1, ?_, hphase.2⟩)
        refine stageOf_of_forall (hrow.1 ▸ List.mem_map_of_mem hown) fun row hmem hid => ?_
        rw [hunique row hmem hid, hstage]
      have hother : ∀ row ∈ uncommitted database, sync.operationId ≠ row.operationId := by
        intro row hmem heq
        have hcommitted := (mem_uncommitted hmem).2
        rw [hunique row (hrows row hmem) heq.symm] at hcommitted
        exact hcommitted hstage
      obtain ⟨found, w₁, hrun, hdone⟩ := hdone.rows true (uncommitted database) hout
        (fun row hmem => hdecodes row (hrows row hmem)) hother (service.clock outside).1
      exact ⟨found, w₁, hrun, hdone.map (fun _ => id) id fun _ hfalse => hfalse.elim⟩
    · have hrecordable : Recordable database sync.receipt sync.brokerSnapshotSha256 :=
        h.beside.recordable hrec fun _ _ hsame _ => hsame
      exact outcome_rows (w := w) (uncommitted database)
        (mem_uncommitted_of hown hstage) hrow hphase
        h.path hne hout (fun row hmem => hdecodes row (hrows row hmem)) hrecordable
        (fun row hmem => hagree row (hrows row hmem)) (service.clock outside).1
  obtain ⟨found, w₁, hrun, hdone⟩ := hloop
  have hstages : ∀ row ∈ uncommitted database, row.stage ≠ .receiptCommitted :=
    fun row hmem => (mem_uncommitted hmem).2
  obtain ⟨hfile, -, hledger⟩ := recoverAccountRows_frame _ hstages hrun
  have hquiet : ∀ audit ∈ w.database.auditEvents, ∀ observedAt report,
      audit.auditEventId ≠ .recoveryReport observedAt report :=
    fun audit haudit => unreported_of_unrecovered hdb audit haudit
  have hnew := recoverAccountRows_unreported _ hstages hquiet hrun
  rw [← hconfigured] at hrun
  obtain ⟨hplace, hresult, hraises⟩ := Outcome.recover
    (w := ⟨{ database with ledger := ledger }, file, outside, []⟩) hrun hfile hdone hnew
  exact ⟨hplace, hresult, fun failure w' heq => ⟨w₁, hledger, hraises failure w' heq⟩⟩

/-- The sync is under way as soon as its row is there. -/
lemma underway_begun {receipt : ReconciliationReceipt} {snapshot path after : Digest}
    (hkind : request.operationKind = "BROKER_SYNC")
    (hfinal : request.finalization = some (.receipt receipt snapshot))
    (hpath : file.pathSha256 = some path)
    (hbegun : begun = { start with accountOperations := start.accountOperations ++
      [AccountOperation.preparedRow request path after now] }) (hdb : begun.Unrecovered) :
    (ofRequest request path after receipt snapshot).Underway begun begun file := by
  refine ⟨hdb.nodup, Beside.refl _, hpath, AccountOperation.preparedRow request path after now,
    ?_, ⟨rfl, hkind, rfl, rfl, rfl, rfl, hfinal⟩, trivial⟩
  rw [hbegun]
  exact List.mem_concat_self

/-- A crash anywhere in an account sync, and one recovery after it.  Either the operation was not
yet recorded and nothing has changed, or one of the three outcomes holds, whatever the orders are.
Only the recovery of the orders can make the run raise. -/
theorem crash_atomic {receipt : ReconciliationReceipt} {snapshot : Digest} {file' : AccountFile}
    (hreached : Reached (fun _ _ _ => False) start file)
    (hkind : request.operationKind = "BROKER_SYNC")
    (hfinal : request.finalization = some (.receipt receipt snapshot))
    (hfresh : ∀ row ∈ start.accountOperations, row.operationId ≠ request.operationId)
    (hrec : Recordable start receipt snapshot) (hfit : PayloadsFit receipt snapshot start)
    (hne : store.hashState request.preparedAccount ≠ .ok request.expectedBeforeSha256)
    (hstore : ReplacesFile store request.preparedAccount request.expectedBeforeSha256)
    (hcrash : Crashed store request (some (receipt, snapshot)) start file database file')
    {service : RecoveryService E} (hconfigured : service.accountConfigured = true)
    (ledger : Ledger) (outside : E) :
    let run := Recovery.recover service ⟨{ database with ledger := ledger }, file', outside, []⟩
    (database = start ∧ file' = file) ∨
    ∃ path after, file.pathSha256 = some path ∧
      store.hashState request.preparedAccount = .ok after ∧
      (finalState run).file = file' ∧
      (ofRequest request path after receipt snapshot).Outcome file' (Blocks run)
        (finalState run).database ∧
      ∀ failure w', run = .error failure w' → ∃ w₁ : Installation E, w₁.database.ledger = ledger ∧
        recoverOrders service (service.clock outside).1 w₁ = .error failure w' := by
  intro run
  -- The row of the sync fits with the payloads of the others.
  have hbegun : ∀ {path after : Digest} {now : DateTime} {begun : Database},
      begun = { start with accountOperations := start.accountOperations ++
        [AccountOperation.preparedRow request path after now] } →
      Recordable begun receipt snapshot ∧ PayloadsFit receipt snapshot begun := by
    rintro path after now begun rfl
    refine ⟨hrec, ?_, ?_⟩
    · intro row hrow
      rcases List.mem_snoc.mp hrow with hrow | hrow
      · exact hfit.decodes row hrow
      · intro failure hmalformed
        rw [hrow] at hmalformed
        cases hfinal.symm.trans hmalformed
    · intro row hrow receipt' snapshot' hpayload hsame
      rcases List.mem_snoc.mp hrow with hrow | hrow
      · exact hfit.agree row hrow receipt' snapshot' hpayload hsame
      · rw [hrow] at hpayload
        cases hfinal.symm.trans hpayload
        exact ⟨rfl, rfl⟩
  have hdistinct : ∀ {after : Digest}, store.hashState request.preparedAccount = .ok after →
      request.expectedBeforeSha256 ≠ after := by
    rintro after hafter rfl
    exact hne hafter
  cases hcrash with
  | inBegin now outside' hleaves =>
    have hreached' := Reached.begin store request now outside' hreached hleaves
    rcases begin_run store file now outside' hfresh with ⟨failure, hrun⟩ |
      ⟨path, after, begun, hpath, hafter, hbegin, hrun⟩
    · unfold Installation.Leaves at hleaves
      rw [hrun] at hleaves
      rcases hleaves with hleaves | hleaves
      · exact .inl (Prod.mk.inj hleaves)
      · cases hleaves
    · have hpair : (database, file') = (begun, file) := by
        unfold Installation.Leaves at hleaves
        rw [hrun] at hleaves
        rcases hleaves with hleaves | hleaves
        · exact hleaves
        · exact List.mem_singleton.mp hleaves
      obtain ⟨rfl, rfl⟩ := Prod.mk.inj hpair
      have hdb := unrecovered_of_reached hreached'
      have hunderway := underway_begun hkind hfinal hpath hbegin hdb
      exact .inr ⟨path, after, hpath, hafter, hunderway.recover hdb (hdistinct hafter)
        (hbegun hbegin).1 (hbegun hbegin).2 hconfigured ledger outside⟩
  | afterBegin now outside' hrun hinterrupted =>
    rcases begin_run store file now outside' hfresh with ⟨failure, herror⟩ |
      ⟨path, after, begun, hpath, hafter, hbegin, hok⟩
    · rw [herror] at hrun
      cases hrun
    · have hreached' : Reached (fun _ _ _ => False) begun file := by
        refine .begin store request now outside' hreached (.inl ?_)
        rw [hok]
        rfl
      rw [hok] at hrun
      cases hrun
      have hdb := unrecovered_of_reached hreached'
      have hunderway := underway_begun hkind hfinal hpath hbegin hdb
      obtain ⟨hreached'', hunderway'⟩ := hinterrupted.underway hreached' hunderway
        ⟨rfl, hkind, rfl, rfl, rfl, rfl⟩ (hdistinct hafter) hstore
      exact .inr ⟨path, after, hpath, hafter, hunderway'.recover (unrecovered_of_reached hreached'')
        (hdistinct hafter) (hbegun hbegin).1 (hbegun hbegin).2 hconfigured ledger outside⟩

end Protocol

section

open Sample

/-- A sync whose file was written when the crash came is completed by the recovery. -/
theorem written_sync_completed :
    let sealed : Finalization := .receipt reconciliation "snapshot"
    let crashed := written "BROKER_SYNC" (some sealed)
    let run := Recovery.recover service
      ⟨{ crashed.database with ledger := Ledger.empty }, crashed.file, 0, []⟩
    Crashed store (request "BROKER_SYNC" (some sealed)) (some (reconciliation, "snapshot"))
        Database.empty file crashed.database crashed.file ∧
      (finalState run).database.stageOf "acctop" = some .receiptCommitted := by
  intro sealed crashed run
  have hcrash : Crashed store (request "BROKER_SYNC" (some sealed))
      (some (reconciliation, "snapshot")) Database.empty file crashed.database crashed.file :=
    .afterBegin 0 (0 : ℕ) rfl (.commitFile 1 (0 : ℕ) .begun (.inl rfl))
  refine ⟨hcrash, ?_⟩
  have hwritten : crashed.file.economicSha256 = some "after" := by decide
  have hempty : ∀ row ∈ Database.empty.accountOperations, False := by
    intro row hrow
    cases hrow
  have hrec : Recordable Database.empty reconciliation "snapshot" := by
    constructor
    · intro run hrun
      cases hrun
    · intro audit haudit
      cases haudit
  have hfit : PayloadsFit reconciliation "snapshot" Database.empty :=
    ⟨fun row hrow => (hempty row hrow).elim, fun row hrow => (hempty row hrow).elim⟩
  have hdiffer : some "after" ≠ some "before" := by decide
  have hconfigured : service.accountConfigured = true := rfl
  rcases crash_atomic (.start file) rfl rfl (fun row hrow => (hempty row hrow).elim) hrec hfit
      (by decide) (fun _ => .inr ⟨rfl, hdiffer⟩) hcrash hconfigured Ledger.empty 0 with
    ⟨-, hfile⟩ | ⟨path, after, -, hafter, -, houtcome, -⟩
  · rw [hfile] at hwritten
    revert hwritten
    decide
  · cases hafter
    rcases houtcome with ⟨hbefore, -⟩ | ⟨-, hstage, -⟩ | ⟨-, hneither, -⟩
    · exact absurd (hwritten.symm.trans hbefore) hdiffer
    · exact hstage
    · exact absurd hwritten hneither

end

end AccountSync

end FirmQuant
