import FirmQuant.Persistence.CrashPoints

/-!
# Receipts of account operations

When is an operation recorded as committed?  The invariant over all runs of `begin`,
`commit_file`, `commit_receipt` and `recover`, with a crash after any durable write, is that a row
of stage RECEIPT_COMMITTED has recorded the digest that its operation was to produce.

The protocol and the recovery of BROKER_SYNC operations keep it.  The recovery of an operation of
another kind does not: it writes RECEIPT_COMMITTED whether the file has the digest before the
operation or the one after it.
-/

namespace FirmQuant

open Effect

/-! ## The durable states of runs -/

/-- A handle made for one of the operations of the database. -/
def AccountOperation.Of {A : Type} (operation : AccountOperation A) (database : Database) : Prop :=
  ∃ row ∈ database.accountOperations, row.operationId = operation.operationId ∧
    row.operationKind = operation.operationKind ∧
    row.accountBeforeSha256 = operation.accountBeforeSha256 ∧
    row.expectedAccountAfterSha256 = operation.expectedAccountAfterSha256 ∧
    row.accountPathSha256 = operation.pathSha256 ∧
    row.evidenceSha256 = operation.evidenceSha256

/-- The durable states that calls of the protocol and of recovery reach from an empty database,
each call returning, raising or being cut off by a crash.  In between the file may change in any
way.  A recovery is only started where `Ok` allows it. -/
inductive Reached (Ok : Bool → Database → AccountFile → Prop) : Database → AccountFile → Prop
  | start (file : AccountFile) : Reached Ok Database.empty file
  | fileChanged {database : Database} {file : AccountFile} (file' : AccountFile) :
      Reached Ok database file → Reached Ok database file'
  | begin {A E : Type} {database database' : Database} {file file' : AccountFile}
      (store : AccountStateStore A) (request : AccountOperationRequest A) (now : DateTime)
      (outside : E) : Reached Ok database file →
      Installation.Leaves (AccountOperation.begin store request now) database file outside
        database' file' →
      Reached Ok database' file'
  | commitFile {A E : Type} {database database' : Database} {file file' : AccountFile}
      (operation : AccountOperation A) (store : AccountStateStore A) (now : DateTime)
      (outside : E) : Reached Ok database file → operation.Of database →
      Installation.Leaves (operation.commitFile store now) database file outside database' file' →
      Reached Ok database' file'
  | commitReceipt {A E : Type} {database database' : Database} {file file' : AccountFile}
      (operation : AccountOperation A) (finalize : Option (ReconciliationReceipt × Digest))
      (now : DateTime) (outside : E) : Reached Ok database file → operation.Of database →
      Installation.Leaves (operation.commitReceipt finalize now) database file outside
        database' file' →
      Reached Ok database' file'
  | recover {E : Type} {database database' : Database} {file file' : AccountFile}
      (service : RecoveryService E) (outside : E) : Reached Ok database file →
      Ok service.accountConfigured database file →
      Installation.Leaves (Recovery.recover service) database file outside database' file' →
      Reached Ok database' file'

/-! ## The invariant -/

/-- What of an operation never changes: its id and the digests before and after it. -/
def AccountOperationRow.key (row : AccountOperationRow) : String × Digest × Digest :=
  (row.operationId, row.accountBeforeSha256, row.expectedAccountAfterSha256)

/-- The operations by these. -/
def Database.operationKeys (database : Database) : List (String × Digest × Digest) :=
  database.accountOperations.map AccountOperationRow.key

/-- A committed operation has recorded the digest that it was to produce. -/
def Database.ReceiptsSound (database : Database) : Prop :=
  ∀ row ∈ database.accountOperations, row.stage = .receiptCommitted →
    row.actualAccountAfterSha256 = some row.expectedAccountAfterSha256

/-- The invariant of a database whose operations are `keys`. -/
structure Database.Receipted (keys : List (String × Digest × Digest)) (database : Database) :
    Prop where
  keys_eq : database.operationKeys = keys
  nodup : (keys.map (·.1)).Nodup
  sound : database.ReceiptsSound

section Writes

variable {keys : List (String × Digest × Digest)} {database database' : Database}

lemma Database.Receipted.congr (h : database.Receipted keys)
    (heq : database'.accountOperations = database.accountOperations) :
    database'.Receipted keys := by
  refine ⟨?_, h.nodup, ?_⟩
  · rw [Database.operationKeys, heq]
    exact h.keys_eq
  · intro row hrow
    rw [heq] at hrow
    exact h.sound row hrow

/-- A key is the key of every operation with its id. -/
lemma Database.Receipted.key_of_id (h : database.Receipted keys) {row : AccountOperationRow}
    (hrow : row ∈ database.accountOperations) {key : String × Digest × Digest} (hkey : key ∈ keys)
    (hid : row.operationId = key.1) : row.key = key := by
  have hmem : row.key ∈ keys := by
    rw [← h.keys_eq]
    exact List.mem_map_of_mem hrow
  exact List.inj_on_of_nodup_map h.nodup hmem hkey hid

/-- An update keeps the invariant unless it commits an operation with another digest than the
expected one. -/
lemma preserves_updateOperation {key : String × Digest × Digest} (hkey : key ∈ keys)
    {stages : List AccountStage} {stage : AccountStage} {actual : Option Digest} {now : DateTime}
    (h : stage = .receiptCommitted → actual = some key.2.2) :
    Txn.Preserves (Database.Receipted keys)
      (AccountOperation.updateOperation key.1 stages stage actual now) := by
  refine Txn.preserves_modify fun database hdb => ⟨?_, hdb.nodup, ?_⟩
  · rw [← hdb.keys_eq]
    unfold Database.operationKeys
    rw [List.map_map]
    refine List.map_congr_left fun row _ => ?_
    dsimp only [Function.comp]
    split <;> rfl
  · intro row hrow hstage
    obtain ⟨old, hold, rfl⟩ := List.mem_map.mp hrow
    by_cases hcase : old.operationId = key.1 ∧ old.stage ∈ stages
    · rw [if_pos hcase] at hstage ⊢
      have hold_key : old.key = key := hdb.key_of_id hold hkey hcase.1
      have hexpected : old.expectedAccountAfterSha256 = key.2.2 := by rw [← hold_key]; rfl
      dsimp only
      rw [h hstage, hexpected]
    · rw [if_neg hcase] at hstage ⊢
      exact hdb.sound old hold hstage

lemma preserves_appendAudit (row : AuditRow) :
    Txn.Preserves (Database.Receipted keys) (Database.appendAudit row) :=
  Database.preserves_appendAudit fun _ hdb => hdb.congr rfl

lemma preserves_commitReconciliation (receipt : ReconciliationReceipt) (snapshot : Digest) :
    Txn.Preserves (Database.Receipted keys) (Database.commitReconciliation receipt snapshot) :=
  Database.preserves_commitReconciliation (fun _ hdb => hdb.congr rfl) (preserves_appendAudit _)

end Writes

/-! ## The protocol -/

section Protocol

variable {A : Type} {keys : List (String × Digest × Digest)}

/-- Beginning an operation adds at most a PREPARED row with a new id. -/
lemma insertOperation_sound (row : AccountOperationRow) (hrow : row.stage = .prepared) :
    Txn.Preserves (fun database => ∃ keys, Database.Receipted keys database)
      (AccountOperation.insertOperation row) := by
  intro database a database' hdb h
  obtain ⟨keys, hdb⟩ := hdb
  unfold AccountOperation.insertOperation at h
  split at h
  next hnone =>
    cases h
    refine ⟨keys ++ [row.key], ?_, ?_, ?_⟩
    · rw [Database.operationKeys, List.map_append, ← hdb.keys_eq]
      rfl
    · refine List.nodup_map_snoc.mpr ⟨hdb.nodup, ?_⟩
      rw [← hdb.keys_eq]
      refine List.forall_mem_map.mpr fun old hold hnew => ?_
      exact List.find?_eq_none.mp hnone old hold (decide_eq_true hnew)
    · intro old hold hstage
      rcases List.mem_snoc.mp hold with hold | hold
      · exact hdb.sound old hold hstage
      · rw [hold, hrow] at hstage
        cases hstage
  next =>
    split at h
    · cases h
      exact ⟨keys, hdb⟩
    · cases h

variable (operation : AccountOperation A)

/-- The key of the operation of a handle. -/
def AccountOperation.key : String × Digest × Digest :=
  (operation.operationId, operation.accountBeforeSha256, operation.expectedAccountAfterSha256)

lemma AccountOperation.Of.key_mem {operation : AccountOperation A} {database : Database}
    (h : operation.Of database) : operation.key ∈ database.operationKeys := by
  obtain ⟨row, hrow, hid, -, hbefore, hexpected, -, -⟩ := h
  refine List.mem_map.mpr ⟨row, hrow, ?_⟩
  rw [AccountOperationRow.key, hid, hbefore, hexpected]
  rfl

variable {operation}

/-- An update of the operation of a handle. -/
lemma preserves_update (hkey : operation.key ∈ keys) {stages : List AccountStage}
    {stage : AccountStage} {actual : Option Digest} {now : DateTime}
    (h : stage = .receiptCommitted → actual = some operation.expectedAccountAfterSha256) :
    Txn.Preserves (Database.Receipted keys)
      (AccountOperation.updateOperation operation.operationId stages stage actual now) :=
  preserves_updateOperation hkey h

/-- A receipt is committed with the expected digest. -/
lemma preserves_receiptTransaction (hkey : operation.key ∈ keys)
    (finalize : Option (ReconciliationReceipt × Digest)) (now : DateTime) :
    Txn.Preserves (Database.Receipted keys)
      (operation.receiptTransaction operation.expectedAccountAfterSha256 finalize now) := by
  refine Txn.preserves_bind (preserves_update hkey fun _ => rfl) fun _ => ?_
  refine Txn.preserves_bind (preserves_appendAudit _) fun _ => ?_
  cases finalize with
  | none => exact Txn.preserves_pure
  | some finalize => exact preserves_commitReconciliation _ _

end Protocol

/-! ## Recovery -/

namespace Recovery

/-- An operation of another kind than BROKER_SYNC that recovery commits has its expected digest in
the account file: where the file still has the digest before the operation, the two are the same. -/
def CommitsApplied (configured : Bool) (database : Database) (file : AccountFile) : Prop :=
  ∀ row ∈ database.accountOperations, row.stage = .prepared ∨ row.stage = .fileCommitted →
    row.operationKind ≠ "BROKER_SYNC" →
    observedActual configured file row = some row.accountBeforeSha256 →
    row.accountBeforeSha256 = row.expectedAccountAfterSha256

section Recover

variable {E : Type} {keys : List (String × Digest × Digest)} {file : AccountFile}

/-- The invariant of a recovery: it does not touch the account file. -/
def ReceiptedBeside (keys : List (String × Digest × Digest)) (file : AccountFile)
    (database : Database) (present : AccountFile) : Prop :=
  present = file ∧ database.Receipted keys

lemma preserves_beside {α : Type} {x : DatabaseTxn α}
    (hx : Txn.Preserves (Database.Receipted keys) x) (present : AccountFile) :
    Txn.Preserves (ReceiptedBeside keys file · present) x := by
  intro database a database' hdb h
  exact ⟨hdb.1, hx database a database' hdb.2 h⟩

lemma ignoresLedger_beside : IgnoresLedger (ReceiptedBeside keys file) :=
  fun _ _ _ h => ⟨h.1, h.2.congr rfl⟩

variable {row : AccountOperationRow}

/-- One operation, of which the condition tells that it was applied when it is committed. -/
lemma keeps_recoverAccount {configured : Bool} (hkey : row.key ∈ keys)
    (huncommitted : row.stage ≠ .receiptCommitted)
    (hrow : row.stage ≠ .contradiction → row.operationKind ≠ "BROKER_SYNC" →
      observedActual configured file row = some row.accountBeforeSha256 →
      row.accountBeforeSha256 = row.expectedAccountAfterSha256) (now : DateTime) :
    Keeps (Throughout (ReceiptedBeside keys file))
      (recoverAccount configured row now : Service E _) := by
  refine keeps_recoverAccount_of (fun x hx => keeps_transact (preserves_beside hx))
    (fun w hw hcontradiction stages stage persisted h =>
      preserves_updateOperation hkey fun hstage => ?_)
    (fun audit _ => preserves_appendAudit audit)
    (fun _ _ _ _ _ _ => preserves_commitReconciliation _ _) huncommitted
  rcases h hstage with hexpected | ⟨hkind, hobserved, hbefore⟩
  · exact hexpected
  · rw [hbefore, hrow hcontradiction hkind (by rw [← hw.1.1, ← hobserved, hbefore])]
    rfl

lemma keeps_recoverAccountRows {configured : Bool} (now : DateTime)
    (rows : List AccountOperationRow)
    (hkeys : ∀ row ∈ rows, row.key ∈ keys ∧ row.stage ≠ .receiptCommitted)
    (hrows : ∀ row ∈ rows, row.stage ≠ .contradiction → row.operationKind ≠ "BROKER_SYNC" →
      observedActual configured file row = some row.accountBeforeSha256 →
      row.accountBeforeSha256 = row.expectedAccountAfterSha256) :
    Keeps (Throughout (ReceiptedBeside keys file))
      (recoverAccountRows configured now rows : Service E _) := by
  induction rows with
  | nil => exact keeps_pure
  | cons row rest ih =>
    have hrest := ih (List.forall_mem_cons.mp hkeys).2
      (List.forall_mem_cons.mp hrows).2
    obtain ⟨hkey, hstage⟩ := hkeys row List.mem_cons_self
    have hfirst := keeps_recoverAccount (E := E) hkey hstage
      (hrows row List.mem_cons_self) now
    exact keeps_bind hfirst fun _ => keeps_bind hrest fun _ => keeps_pure

lemma triple_recover_receipted (service : RecoveryService E) {database : Database}
    (hdb : database.Receipted keys)
    (hok : CommitsApplied service.accountConfigured database file) :
    Triple (Installation.Starts database file) (recover service)
      (fun _ => Throughout (ReceiptedBeside keys file))
      (Throughout (ReceiptedBeside keys file)) := by
  refine triple_recover ignoresLedger_beside.absorbs (fun now => ?_)
    fun present row => preserves_beside (preserves_appendAudit row) present
  refine triple_get_bind fun w hw => ?_
  rw [hw.1]
  have hkeys : ∀ row ∈ uncommitted database, row.key ∈ keys ∧ row.stage ≠ .receiptCommitted := by
    intro row hrow
    rw [← hdb.keys_eq]
    exact ⟨List.mem_map_of_mem (mem_uncommitted hrow).1, (mem_uncommitted hrow).2⟩
  refine triple_pre (keeps_recoverAccountRows now _ hkeys ?_)
    (fun v hv => hv.throughout ⟨rfl, hdb⟩)
  intro row hrow hstage
  obtain ⟨hmem, huncommitted⟩ := mem_uncommitted hrow
  exact hok row hmem (open_of_stage huncommitted hstage)

end Recover

/-- A committed operation has recorded its expected digest in every durable state of runs in which
each recovery only commits what was applied. -/
theorem receipts_sound {database : Database} {file : AccountFile}
    (h : Reached CommitsApplied database file) : database.ReceiptsSound := by
  suffices hinv : ∃ keys, database.Receipted keys by
    obtain ⟨keys, hdb⟩ := hinv
    exact hdb.sound
  induction h with
  | start file =>
    refine ⟨[], rfl, List.nodup_nil, ?_⟩
    intro row hrow
    cases hrow
  | fileChanged file' hreached ih => exact ih
  | begin store request now outside hreached hleaves ih =>
    exact hleaves.of_keeps (keeps_begin store request now insertOperation_sound) ih
  | commitFile operation store now outside hreached hof hleaves ih =>
    obtain ⟨keys, hdb⟩ := ih
    have hkey : operation.key ∈ keys := hdb.keys_eq ▸ hof.key_mem
    refine ⟨keys, hleaves.of_keeps (keeps_commitFile ?_ store ?_) hdb⟩
    all_goals exact fun actual => preserves_update hkey (by simp)
  | commitReceipt operation finalize now outside hreached hof hleaves ih =>
    obtain ⟨keys, hdb⟩ := ih
    have hkey : operation.key ∈ keys := hdb.keys_eq ▸ hof.key_mem
    refine ⟨keys, hleaves.of_keeps (keeps_commitReceipt ?_ finalize ?_) hdb⟩
    · exact fun actual => preserves_update hkey (by simp)
    · exact fun database a database' hdb _ =>
        preserves_receiptTransaction hkey finalize now _ a _ hdb
  | recover service outside hreached hok hleaves ih =>
    obtain ⟨keys, hdb⟩ := ih
    exact ⟨keys, (hleaves.of_triple (triple_recover_receipted service hdb hok)).2⟩

/-! ## Two crashes of one operation -/

namespace Sample

/-- A store whose accounts are their digests. -/
def store : AccountStateStore Digest where
  hashState account := .ok account
  save account file := (.ok ⟨⟩, { file with economicSha256 := some account })

/-- The account file before the operation. -/
def file : AccountFile := ⟨some "account.json", some "before"⟩

/-- An operation on it. -/
def request (operationKind : String) (finalization : Option Finalization) :
    AccountOperationRequest Digest where
  preparedAccount := "after"
  expectedBeforeSha256 := "before"
  operationKind := operationKind
  evidenceSha256 := "evidence"
  operationId := "acctop"
  finalization := finalization

/-- The handle of the operation. -/
def operation (operationKind : String) : AccountOperation Digest where
  preparedAccount := "after"
  operationId := "acctop"
  operationKind := operationKind
  accountBeforeSha256 := "before"
  expectedAccountAfterSha256 := "after"
  evidenceSha256 := "evidence"
  pathSha256 := "account.json"

/-- The installation after a program that was started on the file with these tables. -/
def after {α : Type} (x : Service ℕ α) (database : Database) (file : AccountFile) :
    Installation ℕ := finalState (x ⟨database, file, 0, []⟩)

/-- The operation has begun. -/
def begun (operationKind : String) (finalization : Option Finalization) : Installation ℕ :=
  after (AccountOperation.begin store (request operationKind finalization) 0) Database.empty file

/-- Its file has been written. -/
def written (operationKind : String) (finalization : Option Finalization) : Installation ℕ :=
  after ((operation operationKind).commitFile store 1) (begun operationKind finalization).database
    (begun operationKind finalization).file

/-- Recovery without a broker, with a clock that advances at each reading. -/
def service : RecoveryService ℕ :=
  production true none (fun e => (10 + e, e + 1)) (fun _ => "") (fun _ => "")

variable {Ok : Bool → Database → AccountFile → Prop}

lemma reached_begun (kind : String) (finalization : Option Finalization) :
    Reached Ok (begun kind finalization).database (begun kind finalization).file :=
  .begin store (request kind finalization) 0 0 (.start file) (.inl rfl)

lemma reached_written (kind : String) (finalization : Option Finalization) :
    Reached Ok (written kind finalization).database (written kind finalization).file := by
  refine .commitFile (operation kind) store 1 0 (reached_begun kind finalization) ?_ (.inl rfl)
  exact ⟨_, List.mem_singleton.mpr rfl, rfl, rfl, rfl, rfl, rfl, rfl⟩

end Sample

section

open Sample

/-- A decision whose file was written when the crash came. -/
theorem applied_decision_receipted :
    let recovered := after (recover service) (written "DECISION" none).database
      (written "DECISION" none).file
    (∃ row ∈ recovered.database.accountOperations, row.stage = .receiptCommitted) ∧
      recovered.database.ReceiptsSound := by
  refine ⟨⟨_, List.mem_singleton.mpr rfl, rfl⟩, ?_⟩
  refine receipts_sound (.recover service 0 (reached_written "DECISION" none) ?_ (.inl rfl))
  intro row hrow _ _ hbefore
  exfalso
  rw [List.mem_singleton.mp hrow] at hbefore
  revert hbefore
  decide

/-- A decision whose file was not yet written when the crash came is recorded as committed. -/
theorem unapplied_decision_receipted :
    let recovered := after (recover service) (begun "DECISION" none).database
      (begun "DECISION" none).file
    Reached (fun _ _ _ => True) recovered.database recovered.file ∧
      ¬ recovered.database.ReceiptsSound := by
  refine ⟨.recover service 0 (reached_begun "DECISION" none) trivial (.inl rfl), ?_⟩
  intro hsound
  have hcommitted := hsound _ (List.mem_singleton.mpr rfl) rfl
  revert hcommitted
  decide

end

end Recovery

end FirmQuant
