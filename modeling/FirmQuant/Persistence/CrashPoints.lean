import FirmQuant.Persistence.RecoveryRules
import FirmQuant.Persistence.Agreement

/-!
# Assertions at every crash point

A crash may leave an installation in the durable state after any of the writes of the program
that was running.  An assertion on the durable state that holds now and at every crash point so
far is kept by a program as soon as every one of its writes keeps it.
-/

namespace FirmQuant

open Effect

variable {E : Type}

/-- The durable states in which a run may leave the installation: the one at its end, and those
of its crash points. -/
def Installation.Leaves {α : Type} (x : Service E α) (database : Database) (file : AccountFile)
    (outside : E) (database' : Database) (file' : AccountFile) : Prop :=
  let final := finalState (x ⟨database, file, outside, []⟩)
  (database', file') = (final.database, final.file) ∨ (database', file') ∈ final.crashPoints

/-- A run starts from this durable state. -/
def Installation.Starts (database : Database) (file : AccountFile) (w : Installation E) : Prop :=
  w.database = database ∧ w.file = file ∧ w.crashPoints = []

/-- The assertion `I` on the durable state holds now and at each crash point so far. -/
def Throughout (I : Database → AccountFile → Prop) (w : Installation E) : Prop :=
  I w.database w.file ∧ ∀ p ∈ w.crashPoints, I p.1 p.2

/-- An assertion that does not look at the orders. -/
def IgnoresLedger (I : Database → AccountFile → Prop) : Prop :=
  ∀ database file ledger, I database file → I { database with ledger := ledger } file

section Throughout

variable {I : Database → AccountFile → Prop} {α : Type}

variable {database database' : Database} {file file' : AccountFile} {outside : E}
  {x : DatabaseTxn α}

lemma Installation.Leaves.of_triple {x : Service E α}
    (hx : Triple (Starts database file) x (fun _ => Throughout I) (Throughout I))
    (h : Leaves x database file outside database' file') : I database' file' := by
  have hfinal : Throughout I (finalState (x ⟨database, file, outside, []⟩)) := by
    have hrun := hx ⟨database, file, outside, []⟩ ⟨rfl, rfl, rfl⟩
    cases hres : x ⟨database, file, outside, []⟩ with
    | ok a w | error e w =>
      rw [hres] at hrun
      exact hrun
  rcases h with h | h
  · obtain ⟨rfl, rfl⟩ := Prod.mk.inj h
    exact hfinal.1
  · exact hfinal.2 _ h

lemma Installation.Starts.throughout {w : Installation E} (h : w.Starts database file)
    (hI : I database file) :
    Throughout I w := by
  obtain ⟨rfl, rfl, hcrash⟩ := h
  refine ⟨hI, fun p hp => ?_⟩
  rw [hcrash] at hp
  cases hp

lemma Installation.Leaves.of_keeps {x : Service E α} (hx : Keeps (Throughout I) x)
    (h : Leaves x database file outside database' file') (hI : I database file) :
    I database' file' :=
  h.of_triple (triple_pre hx (fun _ hw => hw.throughout hI))

lemma triple_transact {S : Installation E → Prop}
    (hx : ∀ w a database, I w.database w.file → S w → x w.database = .ok (a, database) →
      I database w.file) :
    Triple (fun w => Throughout I w ∧ S w) (Service.transact x : Service E α)
      (fun _ => Throughout I) (Throughout I) := by
  rintro w ⟨hw, hS⟩
  unfold Service.transact
  cases h : x w.database with
  | error failure => exact hw
  | ok p =>
    obtain ⟨a, database⟩ := p
    have hI : I database w.file := hx w a database hw.1 hS h
    refine ⟨hI, fun p hp => ?_⟩
    rcases List.mem_snoc.mp hp with hp | hp
    · exact hw.2 p hp
    · rw [hp]
      exact hI

lemma keeps_transact (hx : ∀ file, Txn.Preserves (I · file) x) :
    Keeps (Throughout I) (Service.transact x : Service E α) := by
  refine triple_pre (triple_transact fun w a database hI _ h => hx w.file _ a database hI h)
    (fun w hw => ⟨hw, trivial⟩)

lemma keeps_call_throughout {port : E → Except Failure α × E} :
    Keeps (Throughout I) (Recovery.call port) := by
  intro w hw
  unfold Recovery.call
  rcases port w.outside with ⟨_ | _, outside⟩
  · exact hw
  · exact hw

variable {P : Installation E → Prop}

lemma keeps_lift {x : Except Failure α} : Keeps P (Service.lift x : Service E α) := by
  cases x with
  | ok a => exact keeps_pure
  | error failure => exact keeps_throw

lemma triple_pathSha256 : Triple P (Service.pathSha256 : Service E Digest)
    (fun digest w => P w ∧ w.file.pathSha256 = some digest) P := by
  intro w hw
  rw [Service.pathSha256_apply]
  cases hpath : w.file.pathSha256 with
  | some digest => exact ⟨hw, hpath⟩
  | none => exact hw

lemma keeps_pathSha256 : Keeps P (Service.pathSha256 : Service E Digest) :=
  triple_post triple_pathSha256 (fun _ _ hw => hw.1)

lemma triple_hashFile : Triple P (Service.hashFile : Service E Digest)
    (fun digest w => P w ∧ w.file.economicSha256 = some digest) P := by
  intro w hw
  rw [Service.hashFile_apply]
  cases hdigest : w.file.economicSha256 with
  | some digest => exact ⟨hw, hdigest⟩
  | none => exact hw

lemma keeps_hashFile : Keeps P (Service.hashFile : Service E Digest) :=
  triple_post triple_hashFile (fun _ _ hw => hw.1)

end Throughout

/-! ## The protocol -/

section Protocol

variable {A : Type} {I : Database → Prop} {operation : AccountOperation A}

lemma keeps_begin (store : AccountStateStore A) (request : AccountOperationRequest A)
    (now : DateTime) (hinsert : ∀ row : AccountOperationRow, row.stage = .prepared →
      Txn.Preserves I (AccountOperation.insertOperation row)) :
    Keeps (Throughout fun database _ => I database)
      (AccountOperation.begin store request now : Service E (AccountOperation A)) := by
  unfold AccountOperation.begin
  refine keeps_bind keeps_pathSha256 fun path => keeps_bind keeps_hashFile fun current => ?_
  refine keeps_ite keeps_throw (keeps_bind keeps_lift fun expectedAfter => ?_)
  exact keeps_bind (keeps_transact fun _ => hinsert _ rfl) fun _ => keeps_pure

lemma keeps_save (store : AccountStateStore A) :
    Keeps (Throughout fun database _ => I database) (operation.save store : Service E PUnit) := by
  intro w hw
  unfold AccountOperation.save
  rcases store.save operation.preparedAccount w.file with ⟨result, file⟩
  have hfile : Throughout (fun database _ => I database) { w with
      file := file, crashPoints := w.crashPoints ++ [(w.database, file)] } := by
    refine ⟨hw.1, fun p hp => ?_⟩
    rcases List.mem_snoc.mp hp with hp | hp
    · exact hw.2 p hp
    · rw [hp]
      exact hw.1
  cases result with
  | ok u => exact hfile
  | error failure => exact hfile

/-- The stage of an operation in the database. -/
def Database.stageOf (database : Database) (operationId : String) : Option AccountStage :=
  (database.accountOperations.find? (·.operationId = operationId)).map (·.stage)

lemma triple_stage {P : Installation E → Prop} : Triple P (operation.stage : Service E AccountStage)
    (fun stage w => P w ∧ w.database.stageOf operation.operationId = some stage) P := by
  intro w hw
  unfold AccountOperation.stage
  rw [get_bind_apply]
  cases hfind : w.database.accountOperations.find? (·.operationId = operation.operationId) with
  | some row => exact ⟨hw, by rw [Database.stageOf, hfind]; rfl⟩
  | none => exact hw

variable {now : DateTime}
  (hcontradict : ∀ actual, Txn.Preserves I (AccountOperation.updateOperation
    operation.operationId AccountOperation.anyStage .contradiction actual now))

include hcontradict

lemma keeps_contradict {α : Type} (actual : Option Digest) (message : String) :
    Keeps (Throughout fun database _ => I database)
      (operation.contradict actual now message : Service E α) :=
  keeps_bind (keeps_transact fun _ => hcontradict actual) fun _ => keeps_throw

/-- The writes of `commit_file`: a contradiction, or the stage of a PREPARED operation. -/
lemma keeps_commitFile (store : AccountStateStore A)
    (hwritten : ∀ actual, Txn.Preserves I (AccountOperation.updateOperation
      operation.operationId [.prepared] .fileCommitted actual now)) :
    Keeps (Throughout fun database _ => I database)
      (operation.commitFile store now : Service E PUnit) := by
  have hcheck : ∀ actual message, Keeps (Throughout fun database _ => I database)
      (operation.contradict actual now message : Service E PUnit) :=
    fun actual message => keeps_contradict hcontradict actual message
  have hcommitted : Keeps (Throughout fun database _ => I database) (do
      let actual ← Service.hashFile
      if actual ≠ operation.expectedAccountAfterSha256 then
        operation.contradict none now "committed account file identity changed"
      else pure ⟨⟩ : Service E PUnit) :=
    keeps_bind keeps_hashFile fun actual => keeps_ite (hcheck _ _) keeps_pure
  unfold AccountOperation.commitFile
  refine keeps_bind keeps_pathSha256 fun path => keeps_ite (hcheck _ _) ?_
  refine triple_bind triple_stage fun stage => triple_pre ?_ (fun _ hw => hw.1)
  cases stage with
  | prepared =>
    refine keeps_bind keeps_hashFile fun before => ?_
    have hafter : Keeps (Throughout fun database _ => I database) (do
        let actualAfter ← Service.hashFile
        if actualAfter ≠ operation.expectedAccountAfterSha256 then
          operation.contradict (some actualAfter) now "atomic account file has unexpected identity"
        else
          Service.transact (AccountOperation.updateOperation operation.operationId [.prepared]
            .fileCommitted (some actualAfter) now) : Service E PUnit) :=
      keeps_bind keeps_hashFile fun after =>
        keeps_ite (hcheck _ _) (keeps_transact fun _ => hwritten _)
    refine keeps_ite (keeps_bind (keeps_save store) fun _ => hafter) ?_
    exact keeps_ite (keeps_bind (hcheck _ _) fun _ => hafter) hafter
  | fileCommitted | receiptCommitted => exact hcommitted
  | contradiction => exact keeps_throw

/-- The writes of `commit_receipt`: a contradiction, or the receipt of a FILE_COMMITTED operation
whose file has the expected digest. -/
lemma keeps_commitReceipt (finalize : Option (ReconciliationReceipt × Digest))
    (hreceipt : ∀ database a database', I database →
      database.stageOf operation.operationId = some .fileCommitted →
      operation.receiptTransaction operation.expectedAccountAfterSha256 finalize now database =
        .ok (a, database') → I database') :
    Keeps (Throughout fun database _ => I database)
      (operation.commitReceipt finalize now : Service E PUnit) := by
  unfold AccountOperation.commitReceipt
  refine keeps_bind keeps_pathSha256 fun path =>
    keeps_ite (keeps_contradict hcontradict _ _) ?_
  refine triple_bind triple_stage fun stage => ?_
  have hthrow : ∀ failure : Failure, Triple (fun w : Installation E =>
      Throughout (fun database _ => I database) w ∧
        w.database.stageOf operation.operationId = some stage) (throw failure : Service E PUnit)
      (fun _ => Throughout fun database _ => I database)
      (Throughout fun database _ => I database) := fun failure => triple_throw fun _ hw => hw.1
  cases stage with
  | fileCommitted =>
    refine triple_bind (triple_error keeps_hashFile
      fun _ hw => hw.1) fun actual => ?_
    by_cases hactual : actual = operation.expectedAccountAfterSha256
    · rw [if_neg (not_not.mpr hactual), hactual]
      exact triple_transact fun w a database hI hstage h => hreceipt _ a database hI hstage h
    · rw [if_pos hactual]
      exact triple_pre (keeps_contradict hcontradict _ _) (fun _ hw => hw.1)
  | receiptCommitted => exact triple_pure fun _ hw => hw.1
  | prepared => exact hthrow _
  | contradiction => exact hthrow _

end Protocol

/-! ## The orders -/

/-- The transactions of recovery on the order that it loaded for an execution. -/
inductive RecoveryCall (orders : OrderRepository) (executionId : ExecutionId)
    (aggregate : OrderAggregate) : LedgerTxn OrderAggregate → Prop
  | markAttemptUnknown (attempt : BrokerAttempt) (reason : String) (now : DateTime) :
      attempt.executionId = executionId →
      RecoveryCall orders executionId aggregate
        (Ledger.markAttemptUnknown aggregate attempt reason now)
  | resolveSubmitNotAccepted (attempt : BrokerAttempt) (evidence : FailureEvidence)
      (now : DateTime) : attempt.executionId = executionId →
      RecoveryCall orders executionId aggregate
        (Ledger.resolveSubmitNotAccepted aggregate attempt evidence now)
  | recordSubmitResult (attempt : BrokerAttempt) (fact : BrokerOrderFact)
      (fills : List BrokerFillFact) (now : DateTime) : attempt.executionId = executionId →
      RecoveryCall orders executionId aggregate
        (orders.recordSubmitResult aggregate attempt fact fills now)
  | recordCancelResult (attempt : BrokerAttempt) (fact : BrokerOrderFact)
      (fills : List BrokerFillFact) (now : DateTime) : attempt.executionId = executionId →
      RecoveryCall orders executionId aggregate
        (orders.recordCancelResult aggregate attempt fact fills now)
  | reconcileBrokerFact (fact : BrokerOrderFact) (fills : List BrokerFillFact) (now : DateTime) :
      RecoveryCall orders executionId aggregate
        (orders.reconcileBrokerFact aggregate fact fills now)

/-- The transactions of recovery on a loaded order keep the assertion `I`. -/
def Absorbs (orders : OrderRepository) (I : Database → AccountFile → Prop) : Prop :=
  ∀ database file executionId aggregate x next ledger,
    RecoveryCall orders executionId aggregate x →
    database.ledger.load executionId = some aggregate →
    x database.ledger = .ok (next, ledger) → I database file →
    I { database with ledger := ledger } file

lemma IgnoresLedger.absorbs {orders : OrderRepository} {I : Database → AccountFile → Prop}
    (h : IgnoresLedger I) : Absorbs orders I :=
  fun _ _ _ _ _ _ _ _ _ _ hI => h _ _ _ hI

section Orders

variable {I : Database → AccountFile → Prop} {service : RecoveryService E}

lemma Absorbs.keepsLoaded {orders : OrderRepository} (h : Absorbs orders I)
    {S : Installation E → Prop} {executionId : ExecutionId}
    {x : OrderAggregate → LedgerTxn OrderAggregate} {aggregate : OrderAggregate}
    (hx : RecoveryCall orders executionId aggregate (x aggregate)) :
    Recovery.KeepsLoaded (Throughout I) S executionId x aggregate := by
  refine triple_transact fun w next database hI hS hrun => ?_
  unfold Database.onLedger at hrun
  split at hrun
  · rename_i hledger
    cases hrun
    exact h _ _ _ _ _ _ _ hx hS.1 hledger hI
  · cases hrun

namespace Recovery

variable {aggregate : OrderAggregate} {file : AccountFile} {stage : AccountStage}
  {actual : Option Digest} {row : AccountOperationRow}

variable {now : DateTime}

/-- The answer to an attempt is recorded by one of the transactions of recovery. -/
lemma answer_call (service : RecoveryService E) {attempt : BrokerAttempt} {fact : BrokerOrderFact}
    {fills : List BrokerFillFact} :
    RecoveryCall service.orders attempt.executionId aggregate
      (answer service aggregate attempt fact fills now) := by
  unfold answer
  split
  · exact .recordSubmitResult attempt fact fills now rfl
  · exact .recordCancelResult attempt fact fills now rfl

section Assertion

variable {P : Installation E → Prop} (houtside : ∀ w outside, P w → P { w with outside := outside })

include houtside

lemma keeps_queryBroker (gateway : RecoveryGateway E) : Keeps P (queryBroker gateway) := by
  have hcall : ∀ {α : Type} {port : E → Except Failure α × E}, Keeps P (call port) :=
    triple_call (fun w _ hw _ => houtside w _ hw) fun w hw => houtside w _ hw
  refine keeps_tryCatch (keeps_bind hcall fun health => ?_) fun _ => keeps_pure
  refine keeps_ite keeps_throw ?_
  exact keeps_bind hcall fun _ => keeps_bind hcall fun _ => keeps_pure

/-- The part of recovery on the orders keeps an assertion that does not look outside and that its
transactions on loaded orders keep. -/
lemma keeps_recoverOrders_of
    (hcall : ∀ {executionId aggregate x} {S : Installation E → Prop},
      RecoveryCall service.orders executionId aggregate (x aggregate) →
      KeepsLoaded P S executionId x aggregate) (now : DateTime) :
    Keeps P (recoverOrders service now) := by
  have hmark : ∀ attempt, Marks P now attempt :=
    fun attempt aggregate reason => hcall (.markAttemptUnknown attempt reason now rfl)
  have hverify : Verifies service.gateway P fun _ _ _ => True :=
    fun _ _ _ w hw => ⟨houtside w _ hw, fun _ _ => trivial⟩
  have hattempt : ∀ orders fills attempt,
      Keeps P (recoverAttempt service orders fills now attempt) := by
    intro orders fills attempt
    refine keeps_recoverAttempt (hmark attempt) (fun _ => hverify) (fun _ => ?_) ?_
    · intro aggregate command startedAt proof _ _ _
      exact hcall (.resolveSubmitNotAccepted attempt ⟨proof.evidenceSha256, []⟩ now rfl)
    · intro aggregate fact _ _
      exact hcall (answer_call service)
  intro w hw
  refine triple_imp (triple_recoverOrders (P := P) (Q := fun _ _ => P) (L := fun _ _ => P)
    (fun attempt _ => hmark attempt) (fun gateway _ => ?_)
    (fun orders fills attempt _ => hattempt orders fills attempt) (fun _ _ _ hw => hw)
    fun orders fills row => ?_)
    (fun _ hw => hw) (fun _ w hw => ?_) (fun w hw => ?_) w ⟨hw, rfl⟩
  · exact triple_post (keeps_queryBroker houtside gateway)
      (fun answer w hw => by cases answer <;> exact hw)
  · intro executionId aggregate fact _ _ _
    exact hcall (.reconcileBrokerFact fact _ now)
  all_goals rcases hw with hw | ⟨-, -, hw⟩ <;> exact hw

end Assertion

lemma keeps_recoverOrders (h : Absorbs service.orders I) (now : DateTime) :
    Keeps (Throughout I) (recoverOrders service now) :=
  keeps_recoverOrders_of (fun _ _ hw => hw) (fun hcall => h.keepsLoaded hcall) now

/-- The part of recovery on the orders changes neither the file nor the other tables. -/
lemma keeps_recoverOrders_others {operations : List AccountOperationRow}
    {runs : List ReconciliationReceipt} {events : List AuditRow} (now : DateTime) :
    Keeps (fun w : Installation E => w.file = file ∧ w.database.accountOperations = operations ∧
      w.database.reconciliationRuns = runs ∧ w.database.auditEvents = events)
      (recoverOrders service now) := by
  refine keeps_recoverOrders_of (fun _ _ hw => hw) ?_ now
  rintro executionId aggregate x S - w ⟨hw, -⟩
  unfold Service.transact Database.onLedger
  cases x aggregate w.database.ledger with
  | ok p => exact hw
  | error failure => exact hw

/-- Recovery establishes an assertion on the durable state that its transactions on the orders
keep when its part on the accounts does and the audit event of its report keeps it. -/
lemma triple_recover (h : Absorbs service.orders I) {database : Database}
    (haccounts : ∀ now, Triple (Installation.Starts database file)
      (recoverAccounts service.accountConfigured now : Service E _) (fun _ => Throughout I)
      (Throughout I))
    (haudit : ∀ present row, Txn.Preserves (I · present) (Database.appendAudit row)) :
    Triple (Installation.Starts database file) (recover service) (fun _ => Throughout I)
      (Throughout I) := by
  have hclock : Triple (Installation.Starts database file)
      (call fun e => (.ok (service.clock e).1, (service.clock e).2) : Service E DateTime)
      (fun _ => Installation.Starts database file) (Throughout I) := fun w hw => hw
  unfold recover
  refine triple_bind hclock fun now => triple_bind (haccounts now) fun accounts => ?_
  refine keeps_bind (keeps_recoverOrders h _) fun orders => ?_
  exact keeps_bind keeps_get fun w => keeps_bind (keeps_transact fun present => haudit present _)
    fun _ => keeps_pure

/-! ## Assertions on the ledger -/

variable {R : Ledger → Prop}

lemma ledger_updateOperation {operationId : String} {stages : List AccountStage} :
    Txn.Preserves (fun database => R database.ledger)
      (AccountOperation.updateOperation operationId stages stage actual now) :=
  Txn.preserves_modify fun _ hR => hR

lemma ledger_appendAudit {row : AuditRow} :
    Txn.Preserves (fun database => R database.ledger) (Database.appendAudit row) :=
  Database.preserves_appendAudit fun _ hR => hR

lemma ledger_commitReconciliation {receipt : ReconciliationReceipt} {snapshot : Digest} :
    Txn.Preserves (fun database => R database.ledger)
      (Database.commitReconciliation receipt snapshot) :=
  Database.preserves_commitReconciliation (fun _ hR => hR) ledger_appendAudit

lemma keeps_recoverAccounts_ledger {configured : Bool} :
    Keeps (Throughout fun database _ => R database.ledger)
      (recoverAccounts configured now : Service E _) := by
  refine keeps_bind keeps_get fun w => ?_
  have hrows := fun row (h : row ∈ uncommitted w.database) => (mem_uncommitted h).2
  generalize uncommitted w.database = rows at hrows
  induction rows with
  | nil => exact keeps_pure
  | cons row rest ih =>
    refine keeps_bind (keeps_recoverAccount_of (R := fun database => R database.ledger)
      (fun x hx => keeps_transact fun _ => hx) (fun _ _ _ _ _ _ _ => ledger_updateOperation)
      (fun _ _ => ledger_appendAudit) (fun _ _ _ _ _ _ => ledger_commitReconciliation)
      (hrows row List.mem_cons_self)) fun _ => ?_
    exact keeps_bind (ih fun other h => hrows other (List.mem_cons_of_mem _ h)) fun _ => keeps_pure

/-- The transactions of the production repository are calls on the loaded order. -/
lemma exists_call_of_recoveryCall {executionId : ExecutionId} {x : LedgerTxn OrderAggregate}
    (h : RecoveryCall monotonicRepository executionId aggregate x) :
    ∃ call : Ledger.OrderCall, x = call.run aggregate := by
  cases h with
  | markAttemptUnknown attempt reason now _ => exact ⟨.markAttemptUnknown attempt reason now, rfl⟩
  | resolveSubmitNotAccepted attempt evidence now _ =>
    exact ⟨.resolveSubmitNotAccepted attempt evidence now, rfl⟩
  | recordSubmitResult attempt fact fills now _ =>
    exact ⟨.recordSubmitResult attempt fact fills now, rfl⟩
  | recordCancelResult attempt fact fills now _ =>
    exact ⟨.recordCancelResult attempt fact fills now, rfl⟩
  | reconcileBrokerFact fact fills now => exact ⟨.reconcileBrokerFact fact fills now, rfl⟩

lemma keeps_recover_ledger (horders : service.orders = monotonicRepository)
    (hcall : ∀ {ledger executionId aggregate next ledger'} (call : Ledger.OrderCall),
      ledger.load executionId = some aggregate → call.run aggregate ledger = .ok (next, ledger') →
      R ledger → R ledger') :
    Keeps (Throughout fun database _ => R database.ledger) (recover service) := by
  have habsorbs : Absorbs service.orders fun database _ => R database.ledger := by
    intro database file executionId aggregate x next ledger hx hload hrun hR
    rw [horders] at hx
    obtain ⟨call, rfl⟩ := exists_call_of_recoveryCall hx
    exact hcall call hload hrun hR
  unfold recover
  refine keeps_bind keeps_call_throughout fun now =>
    keeps_bind keeps_recoverAccounts_ledger fun accounts => ?_
  refine keeps_bind (keeps_recoverOrders habsorbs now) fun orders => ?_
  refine keeps_bind keeps_get fun w => ?_
  exact keeps_bind (keeps_transact fun _ => ledger_appendAudit) fun _ => keeps_pure

end Recovery

end Orders

end FirmQuant
