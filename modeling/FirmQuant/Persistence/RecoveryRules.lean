import FirmQuant.Persistence.Recovery

/-!
# Rules for recovery

Recovery runs one transaction after another, and each of them on an order that it has just loaded.
An assertion on the installation is kept by the part of recovery on the orders as soon as each of
its transactions keeps it, given what recovery knows when it runs that transaction.  The rules
below collect what it knows.
-/

namespace FirmQuant

open Effect

namespace Recovery

variable {E : Type} {P : Installation E → Prop}

/-- A port changes only what is outside. -/
lemma triple_call {α : Type} {Q : α → Installation E → Prop} {R : Installation E → Prop}
    {port : E → Except Failure α × E}
    (hok : ∀ w a, P w → (port w.outside).1 = .ok a →
      Q a { w with outside := (port w.outside).2 })
    (herror : ∀ w, P w → R { w with outside := (port w.outside).2 }) :
    Triple P (call port) Q R := by
  intro w hw
  have hanswer := hok w
  have hfailure := herror w hw
  unfold call
  rcases hport : port w.outside with ⟨failure | a, outside⟩
  · rw [hport] at hfailure
    exact hfailure
  · rw [hport] at hanswer
    exact hanswer a hw rfl

/-! ## What recovery knows -/

/-- A transaction on an order that was loaded for an execution keeps the assertion where `S` holds
too. -/
def KeepsLoaded (P S : Installation E → Prop) (executionId : ExecutionId)
    (x : OrderAggregate → LedgerTxn OrderAggregate) (aggregate : OrderAggregate) : Prop :=
  Triple (fun w => P w ∧ w.database.ledger.load executionId = some aggregate ∧ S w)
    (Service.transact (Database.onLedger (x aggregate)) : Service E OrderAggregate)
    (fun _ => P) P

/-- To mark an attempt keeps the assertion. -/
def Marks (P : Installation E → Prop) (now : DateTime) (attempt : BrokerAttempt) : Prop :=
  ∀ aggregate reason, KeepsLoaded P (fun _ => True) attempt.executionId
    (fun a => Ledger.markAttemptUnknown a attempt reason now) aggregate

/-- The gateway's verifier keeps the assertion, and a proof leaves `V` behind. -/
def Verifies (gateway : Option (RecoveryGateway E)) (P : Installation E → Prop)
    (V : BrokerOrderCommand → BrokerOrderAbsenceProof → E → Prop) : Prop :=
  ∀ verifier ∈ gateway.bind (·.proveOrderNotAccepted), ∀ command w, P w →
    P { w with outside := (verifier command w.outside).2 } ∧
      ∀ proof, (verifier command w.outside).1 = .ok (some proof) →
        V command proof (verifier command w.outside).2

/-- A proof that fits the durable command of an attempt. -/
structure ProofFits (proof : BrokerOrderAbsenceProof) (command : BrokerOrderCommand)
    (startedAt now : DateTime) : Prop where
  command : proof.command = command
  started : startedAt ≤ proof.capturedAt
  captured : proof.capturedAt ≤ now

/-- To resolve an attempt by a proof keeps the assertion, for orders of which `C` holds. -/
def Resolves (P : Installation E → Prop)
    (V : BrokerOrderCommand → BrokerOrderAbsenceProof → E → Prop) (C : OrderAggregate → Prop)
    (now : DateTime) (attempt : BrokerAttempt) : Prop :=
  ∀ aggregate command startedAt proof, attempt.commandKind = .submit → C aggregate →
    ProofFits proof command startedAt now →
    KeepsLoaded P
      (fun w => durableSubmitCommand w.database.ledger attempt = some (command, startedAt) ∧
        V command proof w.outside)
      attempt.executionId
      (fun a => Ledger.resolveSubmitNotAccepted a attempt ⟨proof.evidenceSha256, []⟩ now) aggregate

/-- To record the one broker order that answers an attempt keeps the assertion. -/
def Answers (service : RecoveryService E) (P : Installation E → Prop)
    (orders : List BrokerOrderFact) (fills : List BrokerFillFact) (now : DateTime)
    (attempt : BrokerAttempt) : Prop :=
  ∀ aggregate fact, candidates aggregate attempt orders = [fact] →
    brokerEvidenceMatches aggregate fact (relatedFills fact.brokerOrderId fills) →
    KeepsLoaded P (fun _ => True) attempt.executionId
      (fun a => answer service a attempt fact (relatedFills fact.brokerOrderId fills) now) aggregate

/-- To reconcile an order with a late fact keeps the assertion. -/
def Reconciles (service : RecoveryService E) (P : Installation E → Prop)
    (orders : List BrokerOrderFact) (fills : List BrokerFillFact) (now : DateTime)
    (row : BrokerOrderRow) : Prop :=
  ∀ executionId aggregate, ∀ fact ∈ orders, row.executionId = some executionId →
    fact.brokerOrderId = row.brokerOrderId →
    KeepsLoaded P (fun _ => True) executionId
      (fun a => service.orders.reconcileBrokerFact a fact
        (relatedFills row.brokerOrderId fills) now)
      aggregate

/-! ## Attempts -/

variable {attempts : List BrokerAttempt}

lemma keeps_markAttemptsUnknown {now : DateTime} (reason : String)
    (hmark : ∀ attempt ∈ attempts, Marks P now attempt) :
    Keeps P (markAttemptsUnknown now reason attempts : Service E _) := by
  induction attempts with
  | nil => exact keeps_pure
  | cons attempt rest ih =>
    have hrest := ih (List.forall_mem_cons.mp hmark).2
    unfold markAttemptsUnknown
    refine triple_get_same fun w hw => ?_
    cases hload : w.database.ledger.load attempt.executionId with
    | none => exact triple_at hw (keeps_bind hrest fun _ => keeps_pure)
    | some aggregate =>
      refine triple_at ⟨hw, hload, trivial⟩ (triple_bind
        (hmark attempt List.mem_cons_self aggregate reason) fun _ => ?_)
      exact keeps_bind hrest fun _ => keeps_pure

section Proof

variable {V : BrokerOrderCommand → BrokerOrderAbsenceProof → E → Prop} {C : OrderAggregate → Prop}
  {gateway : Option (RecoveryGateway E)} {attempt : BrokerAttempt} {now : DateTime}

/-- The verifier changes only what is outside. -/
lemma triple_verify (hverify : Verifies gateway P V)
    {verifier : BrokerOrderCommand → E → Except Failure (Option BrokerOrderAbsenceProof) × E}
    (hverifier : verifier ∈ gateway.bind (·.proveOrderNotAccepted)) (command : BrokerOrderCommand)
    (database : Database) :
    Triple (fun w => P w ∧ w.database = database) (verify verifier command)
      (fun answer w => (P w ∧ w.database = database) ∧
        ∀ proof, answer = some proof → V command proof w.outside) P := by
  rintro w ⟨hw, hdatabase⟩
  obtain ⟨hkept, hproof⟩ := hverify verifier hverifier command w hw
  unfold verify
  rw [tryCatch_apply]
  unfold call
  rcases hanswer : verifier command w.outside with ⟨_ | answer, outside⟩
  · rw [hanswer] at hkept
    exact ⟨⟨hkept, hdatabase⟩, fun proof h => by cases h⟩
  · rw [hanswer] at hkept hproof
    refine ⟨⟨hkept, hdatabase⟩, ?_⟩
    rintro proof rfl
    exact hproof proof rfl

/-- An attempt that is resolved by a proof, or not at all. -/
lemma triple_proveSubmitNotAccepted (hverify : Verifies gateway P V)
    (hresolve : Resolves P V C now attempt) :
    Triple (fun w => P w ∧
        ∃ aggregate, w.database.ledger.load attempt.executionId = some aggregate ∧ C aggregate)
      (proveSubmitNotAccepted gateway attempt now) (fun _ => P) P := by
  unfold proveSubmitNotAccepted
  split
  swap
  · exact triple_pure fun _ hw => hw.1
  rename_i verifier hkind hverifier
  refine triple_get_same fun w hw => ?_
  obtain ⟨hP, aggregate, hload, hC⟩ := hw
  cases hdurable : durableSubmitCommand w.database.ledger attempt with
  | none => exact triple_at hP keeps_pure
  | some durable =>
    obtain ⟨command, startedAt⟩ := durable
    refine triple_at ⟨hP, rfl⟩ (triple_bind
      (triple_verify hverify hverifier command w.database) fun answer => ?_)
    cases answer with
    | none => exact triple_pure fun _ hw => hw.1.1
    | some proof =>
      dsimp only
      split_ifs with hmisfit
      · exact triple_pure fun _ hw => hw.1.1
      simp only [not_or, not_not, not_lt] at hmisfit
      obtain ⟨hcommand, hstarted, hcaptured⟩ := hmisfit
      unfold resolveNotAccepted
      refine triple_get_same fun w' hw' => ?_
      obtain ⟨⟨hP', hsame⟩, hV⟩ := hw'
      -- The order is still the one that was loaded: the verifier wrote nothing.
      rw [hsame, hload]
      refine triple_at ⟨hP', by rw [hsame]; exact hload, by rw [hsame]; exact hdurable,
        hV proof rfl⟩
        (triple_tryCatch (triple_bind (hresolve aggregate command startedAt proof hkind hC
          ⟨hcommand, hstarted, hcaptured⟩) fun _ => keeps_pure) fun _ => ?_)
      exact keeps_ite keeps_pure keeps_throw

end Proof

variable {service : RecoveryService E} {orders : List BrokerOrderFact}
  {fills : List BrokerFillFact} {now : DateTime} {attempt : BrokerAttempt}
  {V : BrokerOrderCommand → BrokerOrderAbsenceProof → E → Prop}

/-- An attempt that no broker order answers. -/
lemma triple_markUnproven {C : OrderAggregate → Prop} (hmark : Marks P now attempt)
    (hverify : service.asksForProof = true → Verifies service.gateway P V)
    (hresolve : service.asksForProof = true → Resolves P V C now attempt) :
    Triple (fun w => P w ∧
        ∃ aggregate, w.database.ledger.load attempt.executionId = some aggregate ∧ C aggregate)
      (markAttempts service [attempt] now "BROKER_ACCEPTANCE_UNPROVEN") (fun _ => P) P := by
  unfold markAttempts
  split_ifs with hproof
  · have hprove : Triple (fun w => P w ∧
        ∃ aggregate, w.database.ledger.load attempt.executionId = some aggregate ∧ C aggregate)
        (proveAll service.gateway now [attempt])
        (fun found w => P w ∧ ∀ other ∈ found.2, other = attempt) P := by
      refine triple_bind (triple_proveSubmitNotAccepted (hverify hproof) (hresolve hproof))
        fun proved => ?_
      cases proved with
      | none | some receipt => exact triple_pure fun w hw => ⟨hw, by simp⟩
    unfold productionMark
    rw [if_neg (not_not.mpr rfl)]
    refine triple_bind hprove fun found => ?_
    refine triple_pre (triple_assume fun hfound => ?_) (fun w hw => hw.symm)
    refine keeps_bind (keeps_markAttemptsUnknown _ fun other hother => ?_) fun _ => keeps_pure
    rw [hfound other hother]
    exact hmark
  · have hunknown : Keeps P (markAttemptsUnknown now "BROKER_ACCEPTANCE_UNPROVEN" [attempt] :
      Service E _) := keeps_markAttemptsUnknown _ (by simpa using hmark)
    exact triple_pre hunknown (fun _ hw => hw.1)

lemma keeps_recoverAttempt (hmark : Marks P now attempt)
    (hverify : service.asksForProof = true → Verifies service.gateway P V)
    (hresolve : service.asksForProof = true →
      Resolves P V (fun a => candidates a attempt orders = []) now attempt)
    (hanswer : Answers service P orders fills now attempt) :
    Keeps P (recoverAttempt service orders fills now attempt) := by
  unfold recoverAttempt
  refine triple_get_same fun w hw => ?_
  cases hload : w.database.ledger.load attempt.executionId with
  | none => exact triple_at hw keeps_pure
  | some aggregate =>
    dsimp only
    split
    · rename_i hnone
      exact triple_at ⟨hw, aggregate, hload, hnone⟩ (triple_bind
        (triple_markUnproven hmark hverify hresolve) fun _ => keeps_pure)
    · rename_i fact hone
      split_ifs with hmatches
      · refine triple_at ⟨hw, hload, trivial⟩ (triple_tryCatch (triple_bind
          (hanswer aggregate fact hone hmatches) fun _ => keeps_pure) fun _ => ?_)
        exact keeps_ite keeps_pure keeps_throw
      · exact triple_at hw keeps_pure
    · exact triple_at hw keeps_pure

lemma keeps_recoverAttempts
    (hattempt : ∀ attempt ∈ attempts, Keeps P (recoverAttempt service orders fills now attempt)) :
    Keeps P (recoverAttempts service orders fills now attempts) := by
  induction attempts with
  | nil => exact keeps_pure
  | cons attempt rest ih =>
    refine keeps_bind (hattempt attempt List.mem_cons_self) fun _ => keeps_bind (ih ?_) fun _ =>
      keeps_pure
    exact (List.forall_mem_cons.mp hattempt).2

/-! ## Late facts -/

lemma keeps_applyLateFact {row : BrokerOrderRow}
    (hreconcile : Reconciles service P orders fills now row) :
    Keeps P (applyLateFact service orders fills now row) := by
  unfold applyLateFact
  split
  · exact keeps_pure
  rename_i fact hfact
  have hmem : fact ∈ orders := by simpa using List.mem_of_find?_eq_some hfact
  have hid : fact.brokerOrderId = row.brokerOrderId := by simpa using List.find?_some hfact
  cases hexecution : row.executionId with
  | none => exact keeps_bind keeps_get fun _ => keeps_pure
  | some executionId =>
    refine triple_get_same fun w hw => ?_
    cases hload : (some executionId).bind w.database.ledger.load with
    | none => exact triple_at hw keeps_pure
    | some aggregate =>
      refine triple_at ⟨hw, hload, trivial⟩ (triple_tryCatch (triple_bind
        (hreconcile executionId aggregate fact hmem hexecution hid) fun _ => keeps_pure)
          fun _ => ?_)
      exact keeps_ite keeps_pure keeps_throw

lemma keeps_applyLateFacts (hreconcile : ∀ row, Reconciles service P orders fills now row) :
    Keeps P (applyLateFacts service orders fills now) := by
  have hrows : ∀ rows, Keeps P (applyLateFactRows service orders fills now rows) := by
    intro rows
    induction rows with
    | nil => exact keeps_pure
    | cons row rest ih =>
      exact keeps_bind (keeps_applyLateFact (hreconcile row)) fun _ => keeps_bind ih fun _ =>
        keeps_pure
  exact keeps_bind keeps_get fun _ => keeps_bind (hrows _) fun _ => keeps_pure

/-! ## All orders -/

/-- Without the broker, recovery asks for no proof. -/
lemma keeps_recoverWithoutBroker (hmark : ∀ attempt ∈ attempts, Marks P now attempt) :
    Keeps P (recoverWithoutBroker service attempts now) := by
  have hunknown : Keeps P (markAttemptsUnknown now "BROKER_RECOVERY_UNAVAILABLE" attempts :
    Service E _) := keeps_markAttemptsUnknown _ hmark
  refine keeps_bind ?_ fun _ => keeps_pure
  unfold markAttempts
  split_ifs
  · unfold productionMark
    rw [if_pos (by decide)]
    exact hunknown
  · exact hunknown

/-- The part of recovery on the orders.  When the broker answers, `Q` holds of the answer while
recovery goes through the attempts, and `L` while it goes through the late facts. -/
lemma triple_recoverOrders
    {Q L : List BrokerOrderFact → List BrokerFillFact → Installation E → Prop}
    {pending : List BrokerAttempt} (hmark : ∀ attempt ∈ pending, Marks P now attempt)
    (hquery : ∀ gateway, service.gateway = some gateway →
      Triple P (queryBroker gateway)
        (fun answer w => answer.elim (P w) fun facts => Q facts.1 facts.2 w) P)
    (hattempt : ∀ orders fills, ∀ attempt ∈ pending,
      Keeps (Q orders fills) (recoverAttempt service orders fills now attempt))
    (hlate : ∀ orders fills w, Q orders fills w → L orders fills w)
    (hreconcile : ∀ orders fills row, Reconciles service (L orders fills) orders fills now row) :
    Triple (fun w => P w ∧ pendingAttempts service.attemptText w.database.ledger = pending)
      (recoverOrders service now) (fun _ w => P w ∨ ∃ orders fills, L orders fills w)
      (fun w => P w ∨ ∃ orders fills, L orders fills w) := by
  have hwithout : Triple P (recoverWithoutBroker service pending now)
      (fun _ w => P w ∨ ∃ orders fills, L orders fills w)
      (fun w => P w ∨ ∃ orders fills, L orders fills w) :=
    triple_imp (keeps_recoverWithoutBroker hmark) (fun _ hw => hw) (fun _ _ hw => .inl hw)
      fun _ hw => .inl hw
  unfold recoverOrders
  refine triple_get_same fun w hw => ?_
  dsimp only
  rw [hw.2]
  refine triple_at hw.1 ?_
  split_ifs
  · exact triple_pure fun _ hw => .inl hw
  cases hgateway : service.gateway with
  | none => exact hwithout
  | some gateway =>
    refine triple_bind (triple_error (hquery gateway hgateway)
      fun _ hw => .inl hw) fun answer => ?_
    cases answer with
    | none => exact hwithout
    | some facts =>
      obtain ⟨orders, fills⟩ := facts
      have hattempts : Triple (Q orders fills)
          (recoverAttempts service orders fills now pending) (fun _ => L orders fills)
          (L orders fills) :=
        triple_imp (keeps_recoverAttempts (hattempt orders fills)) (fun _ hw => hw)
          (fun _ w hw => hlate orders fills w hw) fun w hw => hlate orders fills w hw
      refine triple_imp (?_ : Triple (Q orders fills) _ (fun _ => L orders fills)
        (L orders fills)) (fun _ hw => hw) (fun _ _ hw => .inr ⟨orders, fills, hw⟩)
        fun _ hw => .inr ⟨orders, fills, hw⟩
      exact triple_bind hattempts fun _ =>
        keeps_bind (keeps_applyLateFacts (hreconcile orders fills)) fun _ => keeps_pure

/-! ## Account operations -/

section Accounts

variable {configured : Bool} {row : AccountOperationRow} {now : DateTime}

/-- The operation is open and recovery will leave it for a retry. -/
def Retried (configured : Bool) (file : AccountFile) (row : AccountOperationRow) : Prop :=
  row.stage = .prepared ∧ row.operationKind = "BROKER_SYNC" ∧
    observedActual configured file row = some row.accountBeforeSha256

/-- The operation is open and recovery will finalize it. -/
def Applied (configured : Bool) (file : AccountFile) (row : AccountOperationRow) : Prop :=
  (row.stage = .prepared ∨ row.stage = .fileCommitted) ∧ row.operationKind = "BROKER_SYNC" ∧
    classify row (observedActual configured file row) = .fileAppliedReceiptMissing

/-- The audit events of an operation. -/
def Concerns (operationId : String) : AuditEventId → Prop
  | .accountOperation id => id = operationId
  | .accountRecovery id _ _ => id = operationId
  | _ => False


/-- A classification that is no contradiction tells the digest of the file. -/
lemma actual_of_classify {actual : Option Digest} (h : classify row actual ≠ .contradiction) :
    actual = some row.accountBeforeSha256 ∨ actual = some row.expectedAccountAfterSha256 := by
  unfold classify at h
  split at h
  next hbefore => exact .inl hbefore
  · split at h
    next hexpected => exact .inr hexpected
    · exact absurd rfl h

/-- An operation that is neither committed nor contradictory is open. -/
lemma open_of_stage (hcommitted : row.stage ≠ .receiptCommitted)
    (hcontradiction : row.stage ≠ .contradiction) :
    row.stage = .prepared ∨ row.stage = .fileCommitted := by
  cases hcase : row.stage with
  | prepared => exact .inl rfl
  | fileCommitted => exact .inr rfl
  | receiptCommitted => exact absurd hcase hcommitted
  | contradiction => exact absurd hcase hcontradiction

lemma mem_uncommitted {database : Database} (h : row ∈ uncommitted database) :
    row ∈ database.accountOperations ∧ row.stage ≠ .receiptCommitted := by
  have hfilter := (List.mem_insertionSort _).mp h
  exact ⟨List.mem_of_mem_filter hfilter, of_decide_eq_true (List.mem_filter.mp hfilter).2⟩

/-- What recovery does with an open operation: it settles it for good, leaves it for a retry, or
tries to finalize it. -/
lemma recoverAccount_open (configured : Bool) (now : DateTime)
    (hopen : row.stage = .prepared ∨ row.stage = .fileCommitted) (w : Installation E) :
    (¬ Retried configured w.file row ∧ ¬ Applied configured w.file row ∧
      ∃ stage persisted classification blockers,
        ((stage = .receiptCommitted ∧ row.operationKind ≠ "BROKER_SYNC" ∧
            persisted = observedActual configured w.file row ∧
            classify row persisted ≠ .contradiction) ∨
          (stage = .contradiction ∧ classification = .contradiction ∧
            blockers = [.accountOperationContradiction])) ∧
        recoverAccount configured row now w = (do
          let receipt ← settle row stage persisted classification
            (observedActual configured w.file row) now
          pure (receipt, blockers) :
            Service E (AccountRecoveryReceipt × List RecoveryBlocker)) w) ∨
    (Retried configured w.file row ∧
      recoverAccount configured row now w = (do
        let receipt ← settle row .prepared none .notApplied
          (observedActual configured w.file row) now
        pure (receipt, [.accountCommitRetryRequired]) :
          Service E (AccountRecoveryReceipt × List RecoveryBlocker)) w) ∨
    (Applied configured w.file row ∧ ∃ digest,
      observedActual configured w.file row = some digest ∧
      recoverAccount configured row now w = (do
        if ← recoverBrokerSyncFinalization row digest now then
          pure (⟨row.operationId, .fileAppliedReceiptMissing, some digest⟩, [])
        else do
          let receipt ← settle row .fileCommitted (some digest) .fileAppliedReceiptMissing
            (some digest) now
          pure (receipt, [.accountFinalizationRequired]) :
            Service E (AccountRecoveryReceipt × List RecoveryBlocker)) w) := by
  have hstage : row.stage ≠ .contradiction := by rcases hopen with h | h <;> simp [h]
  have hrun : recoverAccount configured row now w =
      (if classify row (observedActual configured w.file row) = .contradiction then do
        let receipt ← settle row .contradiction (observedActual configured w.file row)
          .contradiction (observedActual configured w.file row) now
        pure (receipt, [.accountOperationContradiction])
      else if row.operationKind = "BROKER_SYNC" then
        recoverBrokerSync row (observedActual configured w.file row) now
      else do
        let receipt ← settle row .receiptCommitted (observedActual configured w.file row)
          (classify row (observedActual configured w.file row))
          (observedActual configured w.file row) now
        pure (receipt, []) : Service E (AccountRecoveryReceipt × List RecoveryBlocker)) w := by
    unfold recoverAccount
    rw [if_neg hstage]
    rfl
  rw [hrun]
  generalize hactual : observedActual configured w.file row = actual
  by_cases hclass : classify row actual = .contradiction
  · rw [if_pos hclass]
    refine .inl ⟨?_, ?_, .contradiction, actual, .contradiction, _, .inr ⟨rfl, rfl, rfl⟩, rfl⟩
    · rintro ⟨-, -, hbefore⟩
      rw [← hactual, classify, if_pos hbefore] at hclass
      cases hclass
    · rintro ⟨-, -, happlied⟩
      rw [hactual, hclass] at happlied
      cases happlied
  rw [if_neg hclass]
  by_cases hkind : row.operationKind = "BROKER_SYNC"
  swap
  · rw [if_neg hkind]
    refine .inl ⟨fun h => hkind h.2.1, fun h => hkind h.2.1, ?_⟩
    exact ⟨.receiptCommitted, actual, classify row actual, _, .inl ⟨rfl, hkind, rfl, hclass⟩, rfl⟩
  rw [if_pos hkind]
  by_cases hbefore : actual = some row.accountBeforeSha256
  · have hnot : classify row actual = .notApplied := if_pos hbefore
    have hsync : (recoverBrokerSync row actual now :
          Service E (AccountRecoveryReceipt × List RecoveryBlocker)) =
        (if row.stage = .prepared then do
          let receipt ← settle row .prepared none .notApplied actual now
          pure (receipt, [.accountCommitRetryRequired])
        else do
          let receipt ← settle row .contradiction actual .contradiction actual now
          pure (receipt, [.accountOperationContradiction])) := by
      unfold recoverBrokerSync
      rw [hnot]
    rw [hsync]
    by_cases hprepared : row.stage = .prepared
    · rw [if_pos hprepared]
      exact .inr (.inl ⟨⟨hprepared, hkind, hactual.trans hbefore⟩, rfl⟩)
    · rw [if_neg hprepared]
      refine .inl ⟨fun h => hprepared h.1, fun h => ?_, .contradiction, actual, .contradiction, _,
        .inr ⟨rfl, rfl, rfl⟩, rfl⟩
      have happlied := h.2.2
      rw [hactual, hnot] at happlied
      cases happlied
  · rcases actual_of_classify hclass with h | hexpected
    · exact absurd h hbefore
    have happlied : classify row actual = .fileAppliedReceiptMissing := by
      rw [classify, if_neg hbefore, if_pos hexpected]
    refine .inr (.inr ⟨⟨hopen, hkind, hactual ▸ happlied⟩, _, hexpected, ?_⟩)
    unfold recoverBrokerSync
    rw [happlied, hexpected]

lemma Applied.observed {file : AccountFile} (h : Applied configured file row) :
    observedActual configured file row = some row.expectedAccountAfterSha256 := by
  obtain ⟨-, -, hclass⟩ := h
  unfold classify at hclass
  split_ifs at hclass with hbefore hexpected
  exact hexpected

/-- The recovery of an operation keeps what its transactions keep: an update, which commits the
operation only with the digest of the file, its audit events and the reconciliation it had
sealed. -/
lemma keeps_recoverAccount_of {R : Database → Prop}
    (htransact : ∀ x : DatabaseTxn PUnit, Txn.Preserves R x →
      Keeps P (Service.transact x : Service E PUnit))
    (hupdate : ∀ w, P w → row.stage ≠ .contradiction → ∀ stages stage persisted,
      (stage = .receiptCommitted → persisted = some row.expectedAccountAfterSha256 ∨
        row.operationKind ≠ "BROKER_SYNC" ∧ persisted = observedActual configured w.file row ∧
          persisted = some row.accountBeforeSha256) →
      Txn.Preserves R (AccountOperation.updateOperation row.operationId stages stage persisted now))
    (haudit : ∀ audit, Concerns row.operationId audit.auditEventId →
      Txn.Preserves R (Database.appendAudit audit))
    (hcommit : ∀ w receipt snapshot, P w → Applied configured w.file row →
      row.finalization = some (.receipt receipt snapshot) →
      Txn.Preserves R (Database.commitReconciliation receipt snapshot))
    (hstage : row.stage ≠ .receiptCommitted) :
    Keeps P (recoverAccount configured row now : Service E _) := by
  by_cases hcontradiction : row.stage = .contradiction
  · unfold recoverAccount
    rw [if_pos hcontradiction]
    exact keeps_pure
  intro w hw
  have hupdate := hupdate w hw hcontradiction
  have hsettle : ∀ stage persisted classification actual (blockers : List RecoveryBlocker),
      (stage = .receiptCommitted → persisted = some row.expectedAccountAfterSha256 ∨
        row.operationKind ≠ "BROKER_SYNC" ∧ persisted = observedActual configured w.file row ∧
          persisted = some row.accountBeforeSha256) → Keeps P (do
        let receipt ← settle row stage persisted classification actual now
        pure (receipt, blockers) : Service E (AccountRecoveryReceipt × List RecoveryBlocker)) :=
    fun stage persisted classification actual blockers h =>
      keeps_bind (keeps_bind (htransact _ (Txn.preserves_bind (hupdate _ stage persisted h)
        fun _ => haudit _ rfl)) fun _ => keeps_pure) fun _ => keeps_pure
  rcases recoverAccount_open configured now (open_of_stage hstage hcontradiction) w with
    ⟨-, -, stage, persisted, classification, blockers, hcase, hrun⟩ | ⟨-, hrun⟩ |
    ⟨happlied, digest, hdigest, hrun⟩
  · rw [hrun]
    refine hsettle _ _ _ _ _ (fun hcommitted => ?_) w hw
    rcases hcase with ⟨-, hkind, hpersisted, hclass⟩ | ⟨hother, -⟩
    · exact (actual_of_classify hclass).symm.imp_right fun hbefore => ⟨hkind, hpersisted, hbefore⟩
    · rw [hother] at hcommitted
      cases hcommitted
  · rw [hrun]
    exact hsettle _ _ _ _ _ (by simp) w hw
  · rw [hrun]
    refine keeps_bind ?_ (fun _ => keeps_ite keeps_pure (hsettle _ _ _ _ _ (by simp))) w hw
    unfold recoverBrokerSyncFinalization
    cases hfinal : row.finalization with
    | none => exact keeps_pure
    | some finalization =>
      refine keeps_tryCatch (keeps_bind (htransact _ ?_) fun _ => keeps_pure)
        fun _ => keeps_ite keeps_pure keeps_throw
      refine Txn.preserves_bind (hupdate _ _ _ fun _ => .inl (hdigest ▸ happlied.observed))
        fun _ => Txn.preserves_bind (haudit _ rfl) fun _ =>
        Txn.preserves_bind ?_ fun _ => haudit _ rfl
      cases finalization with
      | receipt receipt snapshot => exact hcommit w receipt snapshot hw happlied hfinal
      | malformed failure => exact Txn.preserves_throw

end Accounts

end Recovery

end FirmQuant
