import FirmQuant.Foundation.Effect
import FirmQuant.Domain.Orders
import Mathlib.Data.List.Sort

/-!
# The execution ledger

The operational tables of `persistence/schema.py` that record orders, and the repository of
`persistence/repositories.py` over them.  A repository call is a transaction: when it raises,
the tables are as they were.

A stored aggregate is kept beside the columns that the table repeats from it, since the
queries of other modules read the columns.
-/

namespace FirmQuant

open Effect

/-! ## Rows -/

/-- A broker command (`broker/gateway.py`). -/
@[ext] structure BrokerOrderCommand where
  executionId : ExecutionId
  idempotencyKey : IdempotencyKey
  clientOrderId : String
  symbol : Symbol
  side : Side
  priceType : PriceType
  requestedShares : ℕ
  limitPrice : Price
  strategySession : Date
  requested_pos : 0 < requestedShares

instance : DecidableEq BrokerOrderCommand := fun _ _ =>
  decidable_of_iff _ BrokerOrderCommand.ext_iff.symm

/-- A row of `execution_intents`. -/
structure IntentRow where
  executionId : ExecutionId
  decisionId : String
  uquantOrderId : String
  filledShares : ℕ
  state : OrderState
  strategySession : Date
  aggregate : OrderAggregate
  version : ℕ
  createdAt : DateTime
  updatedAt : DateTime
  deriving DecidableEq

/-- The values of `broker_orders.ownership`. -/
inductive Ownership
  | system | external | unknown
  deriving DecidableEq, Repr

/-- A row of `broker_orders`. -/
structure BrokerOrderRow where
  brokerOrderId : String
  executionId : Option ExecutionId
  ownership : Ownership
  clientOrderId : Option String
  symbol : Symbol
  side : Side
  status : BrokerOrderStatus
  requestedShares : ℕ
  filledShares : ℕ
  limitPrice : Option Price
  sessionDate : Date
  lastEventSequence : Option ℕ
  eventTime : DateTime
  receivedAt : DateTime
  rawPayloadSha256 : Digest
  deriving DecidableEq

/-- The values of `broker_order_attempts.state`. -/
inductive AttemptState
  | submitting | returned | unknown | failedLocal
  deriving DecidableEq, Repr

/-- A row of `broker_order_attempts`. -/
structure AttemptRow where
  attemptId : AttemptId
  executionId : ExecutionId
  attemptNumber : ℕ
  state : AttemptState
  startedAt : DateTime
  completedAt : Option DateTime
  brokerOrderId : Option String
  deriving DecidableEq

/-- The payload of a durable broker command. -/
inductive CommandPayload
  | submit (command : BrokerOrderCommand)
  | cancel (brokerOrderId : String)
  deriving DecidableEq

/-- A row of `order_commands`. -/
structure CommandRow where
  attemptId : AttemptId
  commandKind : CommandKind
  payload : CommandPayload
  createdAt : DateTime
  deriving DecidableEq

/-- The payload of a broker response. -/
structure ResponsePayload where
  brokerOrderId : String
  clientOrderId : Option String
  symbol : Symbol
  side : Side
  status : BrokerOrderStatus
  requestedShares : ℕ
  filledShares : ℕ
  limitPrice : Price
  eventSequence : ℕ
  rawPayloadSha256 : Digest
  deriving DecidableEq

/-- A row of `broker_responses`; the command kind stands for `SUBMIT_RETURN` and
`CANCEL_RETURN`. -/
structure ResponseRow where
  attemptId : AttemptId
  responseKind : CommandKind
  payload : ResponsePayload
  receivedAt : DateTime
  deriving DecidableEq

/-- The economic identity of a fill, `_fill_identity`. -/
structure FillIdentity where
  brokerFillId : String
  brokerOrderId : String
  executionId : ExecutionId
  symbol : Symbol
  side : Side
  status : FillStatus
  shares : ℕ
  price : Price
  commission : Money
  stampDuty : Money
  transferFee : Money
  sessionDate : Date
  executionSequence : ℕ
  deriving DecidableEq

/-- A row of `broker_events` of type `FILL_EVIDENCE`.  Its id hashes these fields. -/
structure FillEvidenceRow where
  identity : FillIdentity
  eventTime : DateTime
  receivedAt : DateTime
  rawPayloadSha256 : Digest
  deriving DecidableEq

/-- A row of `domain_events`. -/
structure DomainEventRow where
  event : OrderEvent
  aggregateId : ExecutionId
  occurredAt : DateTime
  deriving DecidableEq

/-- A row of `fills`.  Only broker identities are written here. -/
structure FillRow where
  brokerFillId : String
  brokerOrderId : String
  executionId : Option ExecutionId
  symbol : Symbol
  side : Side
  shares : ℕ
  price : Price
  commission : Money
  stampDuty : Money
  transferFee : Money
  sessionDate : Date
  eventTime : DateTime
  rawPayloadSha256 : Digest
  deriving DecidableEq

/-- The order tables of the database. -/
structure Ledger where
  executionIntents : List IntentRow
  brokerOrders : List BrokerOrderRow
  attempts : List AttemptRow
  commands : List CommandRow
  responses : List ResponseRow
  fillEvidence : List FillEvidenceRow
  domainEvents : List DomainEventRow
  fills : List FillRow
  deriving DecidableEq

/-- A database without orders. -/
def Ledger.empty : Ledger := ⟨[], [], [], [], [], [], [], []⟩

/-- A broker attempt, as the repository hands it to its callers. -/
structure BrokerAttempt where
  attemptId : AttemptId
  executionId : ExecutionId
  attemptNumber : ℕ
  commandKind : CommandKind
  deriving DecidableEq

/-- A repository call. -/
abbrev LedgerTxn := Txn Ledger Failure

namespace Ledger

/-! ## Intents and transitions -/

/-- `load`. -/
def load (ledger : Ledger) (executionId : ExecutionId) : Option OrderAggregate :=
  (ledger.executionIntents.find? (·.executionId = executionId)).map (·.aggregate)

/-- `find_economic_order`. -/
def findEconomicOrder (ledger : Ledger) (decisionId uquantOrderId : String) :
    Option OrderAggregate :=
  (ledger.executionIntents.find? fun row =>
    row.decisionId = decisionId ∧ row.uquantOrderId = uquantOrderId).map (·.aggregate)

/-- The number of executions whose state column is one of `states`. -/
def countStates (ledger : Ledger) (states : List OrderState) : ℕ :=
  ledger.executionIntents.countP fun row => row.state ∈ states

/-- The row that `append_intent` inserts for an intent. -/
def intentRow (intent : ExecutionIntent) (createdAt : DateTime) : IntentRow where
  executionId := intent.executionId
  decisionId := intent.decisionId
  uquantOrderId := intent.uquantOrderId
  filledShares := 0
  state := .planned
  strategySession := intent.strategySession
  aggregate := OrderAggregate.fromIntent intent
  version := 0
  createdAt := createdAt
  updatedAt := createdAt

/-- `append_intent`. -/
def appendIntent (intent : ExecutionIntent) (createdAt : DateTime) : LedgerTxn OrderAggregate :=
  fun ledger =>
    match ledger.findEconomicOrder intent.decisionId intent.uquantOrderId with
    | some existing =>
      if existing.intent = intent then .ok (existing, ledger)
      else .error (.persistenceConflict "economic order identity already has another intent")
    | none =>
      if ledger.executionIntents.any (·.executionId = intent.executionId) then
        .error (.persistenceConflict "execution intent violates stable identity")
      else
        .ok (OrderAggregate.fromIntent intent, { ledger with
          executionIntents := ledger.executionIntents ++ [intentRow intent createdAt] })

/-- The row of an execution after an accepted event. -/
def IntentRow.advance (row : IntentRow) (next : OrderAggregate) (occurredAt : DateTime) :
    IntentRow :=
  { row with
    filledShares := next.filledShares
    state := next.state
    aggregate := next
    version := next.version
    updatedAt := occurredAt }

/-- `UPDATE execution_intents … WHERE execution_id = ? AND version = ?`. -/
def advanceIntent (ledger : Ledger) (aggregate next : OrderAggregate) (occurredAt : DateTime) :
    Ledger :=
  { ledger with
    executionIntents := ledger.executionIntents.map fun row =>
      if row.executionId = aggregate.intent.executionId ∧ row.version = aggregate.version then
        IntentRow.advance row next occurredAt
      else row }

/-- Whether the optimistic update finds the row of an aggregate at its version. -/
def holdsVersion (ledger : Ledger) (aggregate : OrderAggregate) : Prop :=
  ∃ row ∈ ledger.executionIntents,
    row.executionId = aggregate.intent.executionId ∧ row.version = aggregate.version

instance (ledger : Ledger) (aggregate : OrderAggregate) :
    Decidable (ledger.holdsVersion aggregate) :=
  inferInstanceAs (Decidable (∃ row ∈ ledger.executionIntents,
    row.executionId = aggregate.intent.executionId ∧ row.version = aggregate.version))

/-- `transition`: apply an event, move the stored row along and append the domain event.  An
aggregate that `apply` returned unchanged has the same version. -/
def transition (aggregate : OrderAggregate) (event : OrderEvent) (occurredAt : DateTime) :
    LedgerTxn OrderAggregate := fun ledger =>
  match aggregate.apply event with
  | .error failure => .error failure
  | .ok next =>
    if next.version = aggregate.version then .ok (aggregate, ledger)
    else if ¬ ledger.holdsVersion aggregate then
      .error (.persistenceConflict "execution aggregate optimistic version conflict")
    else if ledger.domainEvents.any (·.event.eventId = event.eventId) then
      .error (.persistenceConflict "domain order event violates stable identity")
    else
      .ok (next, { ledger.advanceIntent aggregate next occurredAt with
        domainEvents := ledger.domainEvents ++
          [⟨event, aggregate.intent.executionId, occurredAt⟩] })

/-- The first step of `validate_and_arm`. -/
def validate (aggregate : OrderAggregate) (occurredAt : DateTime) : LedgerTxn OrderAggregate :=
  if aggregate.state = .planned then
    transition aggregate ⟨.validate aggregate.intent.executionId, .orderValidated⟩ occurredAt
  else pure aggregate

/-- The second step of `validate_and_arm`. -/
def arm (aggregate : OrderAggregate) (occurredAt : DateTime) : LedgerTxn OrderAggregate :=
  if aggregate.state = .validated then
    transition aggregate ⟨.arm aggregate.intent.executionId, .orderArmed⟩ occurredAt
  else pure aggregate

/-- `validate_and_arm`. -/
def validateAndArm (aggregate : OrderAggregate) (occurredAt : DateTime) :
    LedgerTxn OrderAggregate := do
  let validated ← validate aggregate occurredAt
  arm validated occurredAt

/-! ## Attempts -/

/-- `_next_attempt_number`. -/
def nextAttemptNumber (ledger : Ledger) (executionId : ExecutionId) : ℕ :=
  ((ledger.attempts.filter (·.executionId = executionId)).map (·.attemptNumber)).foldr max 0 + 1

/-- `_insert_attempt`. -/
def insertAttempt (aggregate : OrderAggregate) (commandKind : CommandKind)
    (payload : CommandPayload) (startedAt : DateTime) : LedgerTxn BrokerAttempt := fun ledger =>
  let executionId := aggregate.intent.executionId
  let number := ledger.nextAttemptNumber executionId
  let attemptId : AttemptId := ⟨executionId, number, commandKind⟩
  .ok (⟨attemptId, executionId, number, commandKind⟩, { ledger with
    attempts := ledger.attempts ++ [⟨attemptId, executionId, number, .submitting, startedAt,
      none, none⟩]
    commands := ledger.commands ++ [⟨attemptId, commandKind, payload, startedAt⟩] })

/-- `begin_submit`, the write-ahead record of a submission. -/
def beginSubmit (aggregate : OrderAggregate) (command : BrokerOrderCommand)
    (startedAt : DateTime) : LedgerTxn (OrderAggregate × BrokerAttempt) :=
  if aggregate.state ≠ .armed then
    throw (.persistenceConflict "submit can begin only from ARMED")
  else if command.executionId ≠ aggregate.intent.executionId then
    throw (.persistenceConflict "broker command execution identity mismatch")
  else do
    let next ← transition aggregate
      ⟨.submitStarted aggregate.intent.executionId (aggregate.submitAttempts + 1), .submitStarted⟩
      startedAt
    let attempt ← insertAttempt next .submit (.submit command) startedAt
    pure (next, attempt)

/-- `begin_cancel`, the write-ahead record of a cancellation. -/
def beginCancel (aggregate : OrderAggregate) (startedAt : DateTime) :
    LedgerTxn (OrderAggregate × BrokerAttempt) :=
  match aggregate.brokerOrderId with
  | none => throw (.persistenceConflict "cancel requires known broker order id")
  | some brokerOrderId => do
    let next ← transition aggregate
      ⟨.cancelRequested aggregate.intent.executionId (aggregate.cancelRequests + 1),
        .cancelRequested⟩ startedAt
    let attempt ← insertAttempt next .cancel (.cancel brokerOrderId) startedAt
    pure (next, attempt)

/-- `UPDATE broker_order_attempts … WHERE attempt_id = ?`. -/
def updateAttempt (attemptId : AttemptId) (change : AttemptRow → AttemptRow) : LedgerTxn PUnit :=
  modify fun ledger => { ledger with
    attempts := ledger.attempts.map fun row =>
      if row.attemptId = attemptId then change row else row }

/-- `mark_attempt_unknown`. -/
def markAttemptUnknown (aggregate : OrderAggregate) (attempt : BrokerAttempt)
    (diagnosticCode : String) (occurredAt : DateTime) : LedgerTxn OrderAggregate := do
  let kind : OrderEventKind :=
    match attempt.commandKind with
    | .cancel => .cancelOutcomeUnknown diagnosticCode
    | .submit => .submitOutcomeUnknown diagnosticCode
  let next ← transition aggregate ⟨.unknown attempt.attemptId diagnosticCode, kind⟩ occurredAt
  updateAttempt attempt.attemptId fun row =>
    { row with state := .unknown, completedAt := some occurredAt }
  pure next

/-- `_complete_attempt`: record the response and close the attempt. -/
def completeAttempt (attempt : BrokerAttempt) (fact : BrokerOrderFact) (kind : CommandKind)
    (payload : ResponsePayload) (receivedAt : DateTime) : LedgerTxn PUnit := do
  modify fun ledger => { ledger with
    responses := ledger.responses ++ [⟨attempt.attemptId, kind, payload, receivedAt⟩] }
  updateAttempt attempt.attemptId fun row =>
    { row with
      state := .returned
      completedAt := some receivedAt
      brokerOrderId := some fact.brokerOrderId }

/-! ## What a committed call did -/

section Committed

variable {aggregate next : OrderAggregate} {event : OrderEvent} {occurredAt : DateTime}
  {ledger ledger' : Ledger}

/-- A committed transition changed nothing, because the aggregate did not change, or it moved
the stored row of the aggregate and appended a new domain event. -/
lemma transition_eq_ok (h : transition aggregate event occurredAt ledger = .ok (next, ledger')) :
    (next = aggregate ∧ ledger' = ledger ∧
      ∃ same, aggregate.apply event = .ok same ∧ same.version = aggregate.version) ∨
    (aggregate.apply event = .ok next ∧ next.version ≠ aggregate.version ∧
      ledger.holdsVersion aggregate ∧
      (∀ row ∈ ledger.domainEvents, row.event.eventId ≠ event.eventId) ∧
      ledger' = { ledger.advanceIntent aggregate next occurredAt with
        domainEvents :=
          ledger.domainEvents ++ [⟨event, aggregate.intent.executionId, occurredAt⟩] }) := by
  unfold transition at h
  cases happly : aggregate.apply event with
  | error failure => simp [happly] at h
  | ok result =>
    simp only [happly] at h
    split_ifs at h with hversion hholds hseen
    · cases h
      exact .inl ⟨rfl, rfl, result, rfl, hversion⟩
    · cases h
      refine .inr ⟨rfl, hversion, hholds, ?_, rfl⟩
      intro row hrow heq
      exact hseen (List.any_eq_true.mpr ⟨row, hrow, by simpa using heq⟩)

/-- The row that a transition moved is stored in the state of the new aggregate. -/
lemma exists_row_advanceIntent (h : ledger.holdsVersion aggregate) :
    ∃ row ∈ (ledger.advanceIntent aggregate next occurredAt).executionIntents,
      row.state = next.state := by
  obtain ⟨row, hrow, hid⟩ := h
  refine ⟨IntentRow.advance row next occurredAt, ?_, rfl⟩
  exact List.mem_map.mpr ⟨row, hrow, by rw [if_pos hid]⟩

lemma countStates_pos {states : List OrderState} {row : IntentRow}
    (hrow : row ∈ ledger.executionIntents) (hstate : row.state ∈ states) :
    0 < ledger.countStates states :=
  List.countP_pos_iff.mpr ⟨row, hrow, by simpa using hstate⟩

variable {attempt : BrokerAttempt}

lemma insertAttempt_eq_ok {kind : CommandKind} {payload : CommandPayload}
    (h : insertAttempt aggregate kind payload occurredAt ledger = .ok (attempt, ledger')) :
    ledger'.executionIntents = ledger.executionIntents := by
  unfold insertAttempt at h
  cases h
  rfl

/-- A transition to a new version stores the order in its new state. -/
lemma countStates_pos_of_transition
    (h : transition aggregate event occurredAt ledger = .ok (next, ledger'))
    (hversion : ∀ a', aggregate.apply event = .ok a' → a'.version ≠ aggregate.version) :
    aggregate.apply event = .ok next ∧ 0 < ledger'.countStates [next.state] := by
  rcases transition_eq_ok h with ⟨-, -, same, hsame, hv⟩ | ⟨happly, -, hholds, -, rfl⟩
  · exact absurd hv (hversion same hsame)
  · obtain ⟨row, hrow, hstate⟩ := exists_row_advanceIntent hholds
    exact ⟨happly, countStates_pos hrow (by simp [hstate])⟩

/-- A transition by an event that is no write-ahead event keeps the aggregate issued. -/
lemma transition_issued (h : transition aggregate event occurredAt ledger = .ok (next, ledger'))
    (hissued : aggregate.Issued) (hsubmit : ∀ id n, event.eventId ≠ .submitStarted id n)
    (hcancel : ∀ id n, event.eventId ≠ .cancelRequested id n) : next.Issued := by
  rcases transition_eq_ok h with ⟨rfl, -⟩ | ⟨happly, -⟩
  · exact hissued
  · exact hissued.other hsubmit hcancel happly

variable {intent : ExecutionIntent} {command : BrokerOrderCommand}

/-- A new intent gives a new aggregate. -/
lemma appendIntent_new
    (hnew : ledger.findEconomicOrder intent.decisionId intent.uquantOrderId = none)
    (h : appendIntent intent occurredAt ledger = .ok (next, ledger')) :
    next = OrderAggregate.fromIntent intent ∧
      (∀ row ∈ ledger.executionIntents, row.executionId ≠ intent.executionId) ∧
      ledger' = { ledger with
        executionIntents := ledger.executionIntents ++ [intentRow intent occurredAt] } := by
  unfold appendIntent at h
  simp only [hnew] at h
  split_ifs at h with hid
  cases h
  refine ⟨rfl, fun row hrow heq => hid ?_, rfl⟩
  exact List.any_eq_true.mpr ⟨row, hrow, by simpa using heq⟩

lemma transition_intent (h : transition aggregate event occurredAt ledger = .ok (next, ledger')) :
    next.intent = aggregate.intent := by
  rcases transition_eq_ok h with ⟨rfl, -⟩ | ⟨happly, -⟩
  · rfl
  · rcases OrderAggregate.apply_cases happly with rfl | hadv
    · rfl
    · exact hadv.intent

/-- What the transitions to VALIDATED and to ARMED keep, `validate_and_arm` keeps. -/
lemma validateAndArm_keeps {P : OrderAggregate → Ledger → Prop}
    (h : validateAndArm aggregate occurredAt ledger = .ok (next, ledger'))
    (hP : P aggregate ledger)
    (hkeeps : ∀ {a next ledger ledger' event}, event = ⟨.validate a.intent.executionId,
      .orderValidated⟩ ∨ event = ⟨.arm a.intent.executionId, .orderArmed⟩ → P a ledger →
        transition a event occurredAt ledger = .ok (next, ledger') → P next ledger') :
    P next ledger' := by
  obtain ⟨validated, ledger₁, hvalidate, harm⟩ := Txn.bind_eq_ok.mp h
  have hvalidated : P validated ledger₁ := by
    unfold validate at hvalidate
    split_ifs at hvalidate
    · exact hkeeps (.inl rfl) hP hvalidate
    · cases hvalidate
      exact hP
  unfold arm at harm
  split_ifs at harm
  · exact hkeeps (.inr rfl) hvalidated harm
  · cases harm
    exact hvalidated

lemma validateAndArm_intent
    (h : validateAndArm aggregate occurredAt ledger = .ok (next, ledger')) :
    next.intent = aggregate.intent :=
  validateAndArm_keeps (P := fun a _ => a.intent = aggregate.intent) h rfl
    fun _ hsame h => (transition_intent h).trans hsame

lemma validateAndArm_issued (hissued : aggregate.Issued)
    (h : validateAndArm aggregate occurredAt ledger = .ok (next, ledger')) : next.Issued :=
  validateAndArm_keeps (P := fun a _ => a.Issued) h hissued fun hevent hissued h => by
    rcases hevent with rfl | rfl <;> exact transition_issued h hissued (by simp) (by simp)

/-- What a committed `begin_submit` did. -/
lemma beginSubmit_writes
    (h : beginSubmit aggregate command occurredAt ledger = .ok ((next, attempt), ledger')) :
    aggregate.state = .armed ∧ command.executionId = aggregate.intent.executionId ∧
      ∃ ledger₁, transition aggregate ⟨.submitStarted aggregate.intent.executionId
          (aggregate.submitAttempts + 1), .submitStarted⟩ occurredAt ledger = .ok (next, ledger₁) ∧
        insertAttempt next .submit (.submit command) occurredAt ledger₁ =
          .ok (attempt, ledger') := by
  unfold beginSubmit at h
  split_ifs at h with hstate hid
  · cases h
  · cases h
  obtain ⟨moved, ledger₁, htransition, h⟩ := Txn.bind_eq_ok.mp h
  obtain ⟨inserted, ledger₂, hinsert, h⟩ := Txn.bind_eq_ok.mp h
  cases h
  exact ⟨not_not.mp hstate, not_not.mp hid, ledger₁, htransition, hinsert⟩

/-- What a committed `begin_cancel` did. -/
lemma beginCancel_writes
    (h : beginCancel aggregate occurredAt ledger = .ok ((next, attempt), ledger')) :
    ∃ brokerOrderId, aggregate.brokerOrderId = some brokerOrderId ∧
      ∃ ledger₁, transition aggregate ⟨.cancelRequested aggregate.intent.executionId
          (aggregate.cancelRequests + 1), .cancelRequested⟩ occurredAt ledger =
            .ok (next, ledger₁) ∧
        insertAttempt next .cancel (.cancel brokerOrderId) occurredAt ledger₁ =
          .ok (attempt, ledger') := by
  unfold beginCancel at h
  cases hid : aggregate.brokerOrderId with
  | none =>
    rw [hid] at h
    cases h
  | some brokerOrderId =>
  simp only [hid] at h
  obtain ⟨moved, ledger₁, htransition, h⟩ := Txn.bind_eq_ok.mp h
  obtain ⟨inserted, ledger₂, hinsert, h⟩ := Txn.bind_eq_ok.mp h
  cases h
  exact ⟨brokerOrderId, rfl, ledger₁, htransition, hinsert⟩

/-- After a committed `begin_submit` the order itself is counted as SUBMITTING. -/
theorem beginSubmit_counted (hissued : aggregate.Issued)
    (h : beginSubmit aggregate command occurredAt ledger = .ok ((next, attempt), ledger')) :
    next.state = .submitting ∧ 0 < ledger'.countStates [.submitting] := by
  obtain ⟨-, -, ledger₁, htransition, hinsert⟩ := beginSubmit_writes h
  have hdata := fun a' => @OrderAggregate.apply_submitStarted aggregate a' hissued.numbered
    aggregate.intent.executionId
  obtain ⟨happly, hcount⟩ := countStates_pos_of_transition htransition fun a' ha' => by
    rw [hdata a' ha']
    exact Nat.succ_ne_self _
  have hstate : next.state = .submitting := by
    rw [hdata _ happly]
    rfl
  refine ⟨hstate, ?_⟩
  rw [countStates, insertAttempt_eq_ok hinsert, ← hstate]
  exact hcount

/-- After a committed `begin_cancel` the order itself is counted as CANCEL_REQUESTED. -/
theorem beginCancel_counted (hissued : aggregate.Issued)
    (h : beginCancel aggregate occurredAt ledger = .ok ((next, attempt), ledger')) :
    next.state = .cancelRequested ∧ 0 < ledger'.countStates [.cancelRequested] := by
  obtain ⟨brokerOrderId, -, ledger₁, htransition, hinsert⟩ := beginCancel_writes h
  have hdata := fun a' => @OrderAggregate.apply_cancelRequested aggregate a' hissued.numbered
    aggregate.intent.executionId
  obtain ⟨happly, hcount⟩ := countStates_pos_of_transition htransition fun a' ha' => by
    rw [hdata a' ha']
    exact Nat.succ_ne_self _
  have hstate : next.state = .cancelRequested := by
    rw [hdata _ happly]
    rfl
  refine ⟨hstate, ?_⟩
  rw [countStates, insertAttempt_eq_ok hinsert, ← hstate]
  exact hcount

/-! ## When an execution was created -/

/-- The stored executions with their times of creation. -/
def creations (ledger : Ledger) : List (ExecutionId × DateTime) :=
  ledger.executionIntents.map fun row => (row.executionId, row.createdAt)

/-- The ledger holds one time of creation for an execution. -/
structure CreatedAt (ledger : Ledger) (executionId : ExecutionId) (time : DateTime) : Prop where
  mem : (executionId, time) ∈ ledger.creations
  unique : ∀ t, (executionId, t) ∈ ledger.creations → t = time

/-- The columns that an update leaves alone. -/
lemma map_advanceIntent {α : Type} {column : IntentRow → α}
    (h : ∀ row, column (IntentRow.advance row next occurredAt) = column row) :
    (ledger.advanceIntent aggregate next occurredAt).executionIntents.map column =
      ledger.executionIntents.map column := by
  unfold advanceIntent
  rw [List.map_map]
  refine List.map_congr_left fun row _ => ?_
  dsimp only [Function.comp_apply]
  split
  · exact h row
  · rfl

lemma transition_creations
    (h : transition aggregate event occurredAt ledger = .ok (next, ledger')) :
    ledger'.creations = ledger.creations := by
  rcases transition_eq_ok h with ⟨-, rfl, -⟩ | ⟨-, -, -, -, rfl⟩
  · rfl
  · exact map_advanceIntent fun _ => rfl

lemma validateAndArm_creations
    (h : validateAndArm aggregate occurredAt ledger = .ok (next, ledger')) :
    ledger'.creations = ledger.creations := by
  exact validateAndArm_keeps (P := fun _ l => l.creations = ledger.creations) h rfl
    fun _ hsame h => (transition_creations h).trans hsame

lemma beginSubmit_creations
    (h : beginSubmit aggregate command occurredAt ledger = .ok ((next, attempt), ledger')) :
    ledger'.creations = ledger.creations := by
  obtain ⟨-, -, ledger₁, htransition, hinsert⟩ := beginSubmit_writes h
  rw [creations, insertAttempt_eq_ok hinsert]
  exact transition_creations htransition

/-- A new intent is created now, and never was before. -/
lemma appendIntent_createdAt
    (hnew : ledger.findEconomicOrder intent.decisionId intent.uquantOrderId = none)
    (h : appendIntent intent occurredAt ledger = .ok (next, ledger')) :
    ledger'.CreatedAt intent.executionId occurredAt := by
  obtain ⟨-, hid, rfl⟩ := appendIntent_new hnew h
  have hold : ∀ t, (intent.executionId, t) ∉ ledger.creations := by
    intro t ht
    obtain ⟨row, hrow, heq⟩ := List.mem_map.mp ht
    exact hid row hrow (Prod.ext_iff.mp heq).1
  refine ⟨by simp [creations, intentRow], fun t ht => ?_⟩
  simp only [creations, List.map_append, List.mem_append, List.map_cons, List.map_nil,
    List.mem_singleton] at ht
  rcases ht with ht | ht
  · exact absurd ht (hold t)
  · exact (Prod.ext_iff.mp ht).2

end Committed

end Ledger

end FirmQuant
