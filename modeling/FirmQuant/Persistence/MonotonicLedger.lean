import FirmQuant.Persistence.Ledger

/-!
# The monotonic execution ledger

`MonotonicExecutionLedgerRepository` of `persistence/production_repository.py`: the operational
ledger that refuses regressing or ambiguous broker truth.
-/

namespace FirmQuant

open Effect

namespace BrokerOrderStatus

/-- `_TERMINAL`. -/
def terminal : List BrokerOrderStatus := [filled, cancelled, rejected, expired]

/-- `_STATUS_RANK`. -/
def rank : BrokerOrderStatus → ℕ
  | unknown => 0
  | pendingNew => 10
  | acknowledged => 20
  | partiallyFilled => 30
  | pendingCancel => 40
  | cancelled => 50
  | rejected => 50
  | expired => 50
  | filled => 60

/-- `_TERMINAL_STATE`. -/
def terminalState : BrokerOrderStatus → Option OrderState
  | filled => some .filled
  | cancelled => some .cancelled
  | rejected => some .rejected
  | expired => some .expired
  | _ => none

end BrokerOrderStatus

/-- `_fill_identity`. -/
def BrokerFillFact.identity (fill : BrokerFillFact) (executionId : ExecutionId) : FillIdentity where
  brokerFillId := fill.brokerFillId
  brokerOrderId := fill.brokerOrderId
  executionId := executionId
  symbol := fill.symbol
  side := fill.side
  status := fill.status
  shares := fill.shares
  price := fill.price
  commission := fill.commission
  stampDuty := fill.stampDuty
  transferFee := fill.transferFee
  sessionDate := fill.sessionDate
  executionSequence := fill.eventSequence

/-- What the aggregate retains of a fill. -/
def BrokerFillFact.appliedFill (fill : BrokerFillFact) : AppliedFill :=
  ⟨fill.brokerFillId, fill.brokerOrderId, fill.shares, fill.price, fill.shares_pos⟩

/-- `_response_payload`. -/
def BrokerOrderFact.responsePayload (fact : BrokerOrderFact) : ResponsePayload where
  brokerOrderId := fact.brokerOrderId
  clientOrderId := fact.clientOrderId
  symbol := fact.symbol
  side := fact.side
  status := fact.status
  requestedShares := fact.requestedShares
  filledShares := fact.filledShares
  limitPrice := fact.limitPrice
  eventSequence := fact.eventSequence
  rawPayloadSha256 := fact.rawPayloadSha256

namespace Ledger

/-! ## Broker orders -/

/-- The row that a fact inserts into `broker_orders`. -/
def brokerOrderRow (fact : BrokerOrderFact) (executionId : ExecutionId) : BrokerOrderRow where
  brokerOrderId := fact.brokerOrderId
  executionId := some executionId
  ownership := .system
  clientOrderId := fact.clientOrderId
  symbol := fact.symbol
  side := fact.side
  status := fact.status
  requestedShares := fact.requestedShares
  filledShares := fact.filledShares
  limitPrice := some fact.limitPrice
  sessionDate := fact.sessionDate
  lastEventSequence := some fact.eventSequence
  eventTime := fact.eventTime
  receivedAt := fact.receivedAt
  rawPayloadSha256 := fact.rawPayloadSha256

/-- The columns of a broker order that may never change. -/
def sameOrderIdentity (row : BrokerOrderRow) (fact : BrokerOrderFact) (executionId : ExecutionId) :
    Prop :=
  row.executionId = some executionId ∧ row.ownership = .system ∧
    row.clientOrderId = fact.clientOrderId ∧ row.symbol = fact.symbol ∧ row.side = fact.side ∧
    row.requestedShares = fact.requestedShares ∧ row.limitPrice = some fact.limitPrice ∧
    row.sessionDate = fact.sessionDate

instance (row : BrokerOrderRow) (fact : BrokerOrderFact) (executionId : ExecutionId) :
    Decidable (sameOrderIdentity row fact executionId) := by
  delta sameOrderIdentity
  infer_instance

/-- The checks of `_record_broker_order` against the stored row, as the first one that fails. -/
def orderRegression (row : BrokerOrderRow) (fact : BrokerOrderFact) (executionId : ExecutionId) :
    Option String :=
  if ¬ sameOrderIdentity row fact executionId then some "broker order identity changed"
  else if fact.filledShares < row.filledShares then some "broker order cumulative fill regressed"
  else if row.status ∈ BrokerOrderStatus.terminal ∧ fact.status ≠ row.status then
    some "broker order terminal status regressed"
  else if row.status ≠ .unknown ∧ fact.status ≠ .unknown ∧ fact.status ≠ row.status ∧
      fact.status.rank < row.status.rank then
    some "broker order lifecycle status regressed"
  else
    match row.lastEventSequence with
    | none => none
    | some stored =>
      if fact.eventSequence < stored then some "broker order event sequence regressed"
      else if fact.eventSequence = stored ∧
          (fact.status ≠ row.status ∨ fact.filledShares ≠ row.filledShares) then
        some "broker order sequence was reused for different truth"
      else none

/-- The stored row after a newer fact. -/
def BrokerOrderRow.observe (row : BrokerOrderRow) (fact : BrokerOrderFact) : BrokerOrderRow :=
  { row with
    status := fact.status
    filledShares := fact.filledShares
    lastEventSequence := some fact.eventSequence
    eventTime := fact.eventTime
    receivedAt := fact.receivedAt
    rawPayloadSha256 := fact.rawPayloadSha256 }

/-- `_record_broker_order`. -/
def recordBrokerOrder (fact : BrokerOrderFact) (executionId : ExecutionId) : LedgerTxn PUnit :=
  fun ledger =>
    match ledger.brokerOrders.find? (·.brokerOrderId = fact.brokerOrderId) with
    | none =>
      if fact.clientOrderId.isSome ∧
          ledger.brokerOrders.any (·.clientOrderId = fact.clientOrderId) then
        .error (.integrityError "broker_orders.client_order_id")
      else
        .ok (⟨⟩, { ledger with
          brokerOrders := ledger.brokerOrders ++ [brokerOrderRow fact executionId] })
    | some row =>
      match orderRegression row fact executionId with
      | some message => .error (.persistenceConflict message)
      | none =>
        .ok (⟨⟩, { ledger with
          brokerOrders := ledger.brokerOrders.map fun stored =>
            if stored.brokerOrderId = fact.brokerOrderId then BrokerOrderRow.observe stored fact
            else stored })

/-- What `_record_broker_order` writes: a new row, or the fact over the row of the same order. -/
inductive RecordsBrokerOrder (fact : BrokerOrderFact) (executionId : ExecutionId)
    (ledger : Ledger) : Ledger → Prop
  | new : ledger.brokerOrders.find? (·.brokerOrderId = fact.brokerOrderId) = none →
      RecordsBrokerOrder fact executionId ledger { ledger with
        brokerOrders := ledger.brokerOrders ++ [brokerOrderRow fact executionId] }
  | again (row : BrokerOrderRow) :
      ledger.brokerOrders.find? (·.brokerOrderId = fact.brokerOrderId) = some row →
      row.brokerOrderId = fact.brokerOrderId → sameOrderIdentity row fact executionId →
      RecordsBrokerOrder fact executionId ledger { ledger with
        brokerOrders := ledger.brokerOrders.map fun stored =>
          if stored.brokerOrderId = fact.brokerOrderId then BrokerOrderRow.observe stored fact
          else stored }

variable {fact : BrokerOrderFact} {executionId : ExecutionId} {ledger ledger' : Ledger}

lemma recordBrokerOrder_ok {u : PUnit}
    (h : recordBrokerOrder fact executionId ledger = .ok (u, ledger')) :
    RecordsBrokerOrder fact executionId ledger ledger' := by
  unfold recordBrokerOrder at h
  split at h
  next hfind =>
    split_ifs at h
    cases h
    exact .new hfind
  next row hfind =>
    split at h
    · cases h
    next hregression =>
      cases h
      refine .again row hfind (by simpa using List.find?_some hfind) ?_
      by_contra hnot
      rw [orderRegression, if_pos hnot] at hregression
      cases hregression

/-- The row of an observed order is found where it was. -/
lemma find?_observed {rows : List BrokerOrderRow} {row : BrokerOrderRow}
    (h : rows.find? (·.brokerOrderId = fact.brokerOrderId) = some row) :
    (rows.map fun stored => if stored.brokerOrderId = fact.brokerOrderId then
        BrokerOrderRow.observe stored fact else stored).find?
      (·.brokerOrderId = fact.brokerOrderId) = some (BrokerOrderRow.observe row fact) := by
  have hid : row.brokerOrderId = fact.brokerOrderId := by simpa using List.find?_some h
  have hkept : ((fun stored : BrokerOrderRow => decide (stored.brokerOrderId =
      fact.brokerOrderId)) ∘ fun stored => if stored.brokerOrderId = fact.brokerOrderId then
        BrokerOrderRow.observe stored fact else stored) =
      fun stored => decide (stored.brokerOrderId = fact.brokerOrderId) := by
    funext stored
    rw [Function.comp_apply]
    split_ifs <;> rfl
  rw [List.find?_map, hkept, h, Option.map_some, if_pos hid]

/-! ## Fills -/

/-- The evidence row of a fill. -/
def fillEvidenceRow (fill : BrokerFillFact) (executionId : ExecutionId) : FillEvidenceRow :=
  ⟨fill.identity executionId, fill.eventTime, fill.receivedAt, fill.rawPayloadSha256⟩

/-- `_record_fill_evidence`.  The event id hashes the whole row, so a known id is the same row
and appending it again changes nothing. -/
def recordFillEvidence (fill : BrokerFillFact) (executionId : ExecutionId) (ledger : Ledger) :
    Ledger :=
  if fillEvidenceRow fill executionId ∈ ledger.fillEvidence then ledger
  else { ledger with fillEvidence := ledger.fillEvidence ++ [fillEvidenceRow fill executionId] }

/-- The row that a fill inserts into `fills`. -/
def fillRow (fill : BrokerFillFact) (executionId : ExecutionId) : FillRow where
  brokerFillId := fill.brokerFillId
  brokerOrderId := fill.brokerOrderId
  executionId := some executionId
  symbol := fill.symbol
  side := fill.side
  shares := fill.shares
  price := fill.price
  commission := fill.commission
  stampDuty := fill.stampDuty
  transferFee := fill.transferFee
  sessionDate := fill.sessionDate
  eventTime := fill.eventTime
  rawPayloadSha256 := fill.rawPayloadSha256

/-- The economics of a stored fill, which a later observation may not change. -/
def sameFillEconomics (row : FillRow) (fill : BrokerFillFact) (executionId : ExecutionId) : Prop :=
  row.brokerOrderId = fill.brokerOrderId ∧ row.executionId = some executionId ∧
    row.symbol = fill.symbol ∧ row.side = fill.side ∧ row.shares = fill.shares ∧
    row.price = fill.price ∧ row.commission = fill.commission ∧ row.stampDuty = fill.stampDuty ∧
    row.transferFee = fill.transferFee ∧ row.sessionDate = fill.sessionDate

instance (row : FillRow) (fill : BrokerFillFact) (executionId : ExecutionId) :
    Decidable (sameFillEconomics row fill executionId) := by
  delta sameFillEconomics
  infer_instance

/-- The evidence rows of one order in one session. -/
def orderEvidence (ledger : Ledger) (sessionDate : Date) (brokerOrderId : String) :
    List FillEvidenceRow :=
  ledger.fillEvidence.filter fun row =>
    row.identity.sessionDate = sessionDate ∧ row.identity.brokerOrderId = brokerOrderId

/-- `_record_fill`.  A new fill must carry a later execution sequence than every fill of the
order in its session. -/
def recordFill (fill : BrokerFillFact) (executionId : ExecutionId) : LedgerTxn PUnit :=
  fun ledger =>
    if fill.status ≠ .confirmed then
      .error (.persistenceConflict "only confirmed fills may enter the operational ledger")
    else if fill.eventSequence = 0 then
      .error (.persistenceConflict "broker fill execution sequence must be positive")
    else
      match ledger.fills.find? (·.brokerFillId = fill.brokerFillId) with
      | some row =>
        let evidence := ledger.fillEvidence.filter (·.identity.brokerFillId = fill.brokerFillId)
        if ¬ sameFillEconomics row fill executionId then
          .error (.persistenceConflict "broker fill identity collision")
        else if evidence = [] then
          .error (.persistenceConflict "stored broker fill lacks execution sequence evidence")
        else if ∃ stored ∈ evidence, stored.identity ≠ fill.identity executionId then
          .error (.persistenceConflict "broker fill identity collision")
        else .ok (⟨⟩, recordFillEvidence fill executionId ledger)
      | none =>
        if ∃ stored ∈ ledger.orderEvidence fill.sessionDate fill.brokerOrderId,
            fill.eventSequence ≤ stored.identity.executionSequence then
          .error (.persistenceConflict "broker fill execution sequence regressed")
        else
          .ok (⟨⟩, { recordFillEvidence fill executionId ledger with
            fills := ledger.fills ++ [fillRow fill executionId] })

/-- What `_record_fill` writes: evidence of the fill, and its row unless a row of the same economics
is there. -/
lemma recordFill_writes {fill : BrokerFillFact} {u : PUnit}
    (h : recordFill fill executionId ledger = .ok (u, ledger')) :
    ∃ evidence, ((∃ row ∈ ledger.fills, row.brokerFillId = fill.brokerFillId ∧
        sameFillEconomics row fill executionId) ∧
        ledger' = { ledger with fillEvidence := evidence }) ∨
      ((∀ row ∈ ledger.fills, row.brokerFillId ≠ fill.brokerFillId) ∧
        ledger' = { ledger with
          fillEvidence := evidence
          fills := ledger.fills ++ [fillRow fill executionId] }) := by
  have hevidence : recordFillEvidence fill executionId ledger = { ledger with
      fillEvidence := (recordFillEvidence fill executionId ledger).fillEvidence } := by
    unfold recordFillEvidence
    split_ifs <;> rfl
  refine ⟨(recordFillEvidence fill executionId ledger).fillEvidence, ?_⟩
  unfold recordFill at h
  cases hfind : ledger.fills.find? (·.brokerFillId = fill.brokerFillId) with
  | some row =>
    simp only [hfind] at h
    split_ifs at h with _ _ heconomics
    cases h
    exact .inl ⟨⟨row, List.mem_of_find?_eq_some hfind, by simpa using List.find?_some hfind,
      heconomics⟩, hevidence⟩
  | none =>
    simp only [hfind] at h
    split_ifs at h
    cases h
    rw [hevidence]
    exact .inr ⟨fun row hrow => by simpa using List.find?_eq_none.mp hfind row hrow, rfl⟩

/-! ## Facts against the intent -/

instance optionString_lawful : LawfulBEq (Option String) := inferInstance

/-- `_validate_fact`, as the first check that fails. -/
def factViolation (aggregate : OrderAggregate) (fact : BrokerOrderFact) : Option String :=
  if aggregate.brokerOrderId ∉ [none, some fact.brokerOrderId] then
    some "queried broker order identity changed"
  else if fact.clientOrderId ≠ some aggregate.intent.uquantOrderId ∨
      fact.symbol ≠ aggregate.intent.symbol ∨ fact.side ≠ aggregate.intent.side ∨
      fact.requestedShares ≠ aggregate.intent.requestedShares then
    some "queried broker order contradicts execution intent"
  else if fact.status = .filled ∧ fact.filledShares ≠ fact.requestedShares then
    some "FILLED broker order has contradictory cumulative shares"
  else if fact.status = .partiallyFilled ∧
      ¬ (0 < fact.filledShares ∧ fact.filledShares < fact.requestedShares) then
    some "PARTIALLY_FILLED broker order has contradictory cumulative shares"
  else none

/-- `_validate_attempt_fact` beyond `_validate_fact`: the fact answers the durable command. -/
def attemptViolation (ledger : Ledger) (aggregate : OrderAggregate) (attempt : BrokerAttempt)
    (fact : BrokerOrderFact) (commandKind : CommandKind) : Option String :=
  if attempt.executionId ≠ aggregate.intent.executionId ∨ attempt.commandKind ≠ commandKind then
    some "broker attempt does not belong to the execution command"
  else
    match ledger.commands.find? (·.attemptId = attempt.attemptId) with
    | none => some "durable broker command is missing or inconsistent"
    | some row =>
      if row.commandKind ≠ attempt.commandKind then
        some "durable broker command is missing or inconsistent"
      else
        match row.payload with
        | .submit command =>
          if command.executionId = aggregate.intent.executionId ∧
              some command.clientOrderId = fact.clientOrderId ∧ command.symbol = fact.symbol ∧
              command.side = fact.side ∧ command.priceType = fact.priceType ∧
              command.requestedShares = fact.requestedShares ∧
              command.limitPrice = fact.limitPrice ∧
              command.strategySession = aggregate.intent.strategySession then none
          else some "broker submit result contradicts durable command"
        | .cancel brokerOrderId =>
          if brokerOrderId = fact.brokerOrderId then none
          else some "broker cancel result contradicts durable command"

/-- Whether a fill belongs to the order of a fact. -/
def fillMatches (fact : BrokerOrderFact) (fill : BrokerFillFact) : Prop :=
  fill.brokerOrderId = fact.brokerOrderId ∧ fill.symbol = fact.symbol ∧ fill.side = fact.side ∧
    fill.status = .confirmed ∧ fill.sessionDate = fact.sessionDate ∧ 0 < fill.eventSequence

instance (fact : BrokerOrderFact) (fill : BrokerFillFact) : Decidable (fillMatches fact fill) := by
  delta fillMatches
  infer_instance

/-- The loop of `_ordered_fills`: keep the first fill of each id, refuse a fill of another
order and a fill whose id comes with another identity. -/
def deduplicate (executionId : ExecutionId) (fact : BrokerOrderFact) :
    List BrokerFillFact → List BrokerFillFact → Except Failure (List BrokerFillFact)
  | kept, [] => .ok kept
  | kept, fill :: rest =>
    if ¬ fillMatches fact fill then
      .error (.persistenceConflict "queried broker fill contradicts mapped order")
    else
      match kept.find? (·.brokerFillId = fill.brokerFillId) with
      | some existing =>
        if existing.identity executionId = fill.identity executionId then
          deduplicate executionId fact kept rest
        else .error (.persistenceConflict "broker fill identity collision")
      | none => deduplicate executionId fact (kept ++ [fill]) rest

/-- The sort key of `_ordered_fills`: session, execution sequence, fill id. -/
def fillLe (a b : BrokerFillFact) : Prop :=
  a.sessionDate < b.sessionDate ∨
    (a.sessionDate = b.sessionDate ∧
      (a.eventSequence < b.eventSequence ∨
        (a.eventSequence = b.eventSequence ∧ ¬ b.brokerFillId < a.brokerFillId)))

instance : DecidableRel fillLe := fun a b => by
  delta fillLe
  infer_instance

/-- `_ordered_fills`. -/
def orderedFills (executionId : ExecutionId) (fact : BrokerOrderFact)
    (fills : List BrokerFillFact) : Except Failure (List BrokerFillFact) :=
  (deduplicate executionId fact [] fills).map (List.insertionSort fillLe)

/-- `_proven_cumulative_shares`. -/
def provenCumulativeShares (aggregate : OrderAggregate) (fills : List BrokerFillFact) : ℕ :=
  aggregate.filledShares +
    ((fills.filter fun fill => fill.brokerFillId ∉ aggregate.fills.map (·.brokerFillId)).map
      (·.shares)).sum

/-! ## Applying broker truth -/

/-- The domain event of a fill. -/
def fillEvent (fill : BrokerFillFact) : OrderEvent :=
  ⟨.fill fill.brokerFillId,
    .fillReported fill.brokerFillId fill.brokerOrderId fill.shares fill.price fill.shares_pos⟩

/-- The loop of `_apply_broker_economics` over the ordered fills. -/
def applyFills : OrderAggregate → List BrokerFillFact → LedgerTxn OrderAggregate
  | current, [] => pure current
  | current, fill :: rest => do
    recordFill fill current.intent.executionId
    let next ← transition current (fillEvent fill) fill.eventTime
    applyFills next rest

/-- The acknowledgement that `_apply_broker_economics` records first. -/
def acknowledge (aggregate : OrderAggregate) (fact : BrokerOrderFact) (receivedAt : DateTime) :
    LedgerTxn OrderAggregate :=
  if aggregate.brokerOrderId.isNone ∨ aggregate.state ∉ OrderState.terminal then
    transition aggregate
      ⟨.ack fact.brokerOrderId fact.eventSequence,
        .brokerAcknowledged fact.brokerOrderId⟩ receivedAt
  else pure aggregate

/-- `_apply_broker_economics`. -/
def applyBrokerEconomics (aggregate : OrderAggregate) (fact : BrokerOrderFact)
    (fills : List BrokerFillFact) (receivedAt : DateTime) : LedgerTxn OrderAggregate := do
  let current ← acknowledge aggregate fact receivedAt
  applyFills current fills

/-- `_apply_terminal_fact`. -/
def applyTerminalFact (current : OrderAggregate) (fact : BrokerOrderFact) (receivedAt : DateTime) :
    LedgerTxn OrderAggregate :=
  if fact.status.terminalState = some current.state then pure current
  else
    match fact.status with
    | .rejected =>
      transition current
        ⟨.recoveryRejected fact.brokerOrderId fact.eventSequence, .brokerRejected "BROKER_REJECTED"⟩
        receivedAt
    | .expired =>
      transition current
        ⟨.recoveryExpired fact.brokerOrderId fact.eventSequence, .orderExpired "BROKER_EXPIRED"⟩
        receivedAt
    | .cancelled =>
      transition current
        ⟨.recoveryCancelled fact.brokerOrderId fact.eventSequence,
          .cancelConfirmed (some fact.brokerOrderId)⟩ receivedAt
    | _ => pure current

/-- The status of a queried fact, after its economics. -/
def applyQueriedStatus (current : OrderAggregate) (fact : BrokerOrderFact) (receivedAt : DateTime) :
    LedgerTxn OrderAggregate :=
  if fact.status = .unknown then
    transition current
      ⟨.recoveryUnknown fact.brokerOrderId fact.eventSequence,
        .submitOutcomeUnknown "BROKER_STATUS_UNKNOWN"⟩ receivedAt
  else applyTerminalFact current fact receivedAt

/-- Raise `PersistenceConflict` when there is something to raise. -/
def conflict : Option String → LedgerTxn PUnit
  | none => pure ⟨⟩
  | some message => throw (.persistenceConflict message)

/-- `reconcile_broker_fact`. -/
def reconcileBrokerFact (aggregate : OrderAggregate) (fact : BrokerOrderFact)
    (fills : List BrokerFillFact) (receivedAt : DateTime) : LedgerTxn OrderAggregate := do
  conflict (factViolation aggregate fact)
  let ordered ← Txn.lift (orderedFills aggregate.intent.executionId fact fills)
  conflict (if provenCumulativeShares aggregate ordered ≠ fact.filledShares then
    some "queried broker fills do not prove cumulative shares" else none)
  recordBrokerOrder fact aggregate.intent.executionId
  let current ← applyBrokerEconomics aggregate fact ordered receivedAt
  let final ← applyQueriedStatus current fact receivedAt
  conflict (if final.filledShares ≠ fact.filledShares then
    some "recovered aggregate differs from broker cumulative fill" else none)
  pure final

/-! ## Results of broker writes -/

/-- `_complete_attempt_idempotently`. -/
def completeAttemptIdempotently (attempt : BrokerAttempt) (fact : BrokerOrderFact)
    (kind : CommandKind) (receivedAt : DateTime) : LedgerTxn PUnit := fun ledger =>
  match ledger.responses.filter (·.attemptId = attempt.attemptId) with
  | [] => completeAttempt attempt fact kind fact.responsePayload receivedAt ledger
  | rows =>
    if rows.map (fun row => (row.responseKind, row.payload)) ≠ [(kind, fact.responsePayload)] then
      .error (.persistenceConflict "broker attempt response changed across recovery")
    else if ¬ ledger.attempts.any fun row =>
        row.attemptId = attempt.attemptId ∧ row.brokerOrderId = some fact.brokerOrderId then
      .error (.persistenceConflict "broker attempt response lost its broker order identity")
    else .ok (⟨⟩, ledger)

/-- The status of a returned fact, after its economics; `proven` are the shares that the
fills prove. -/
def applyReturnedStatus (current : OrderAggregate) (attempt : BrokerAttempt)
    (fact : BrokerOrderFact) (kind : CommandKind) (proven : ℕ) (receivedAt : DateTime) :
    LedgerTxn OrderAggregate :=
  if proven < fact.filledShares then
    markAttemptUnknown current attempt "BROKER_FILL_MISSING" receivedAt
  else if fact.status = .unknown then
    markAttemptUnknown current attempt "BROKER_STATUS_UNKNOWN" receivedAt
  else if kind = .cancel ∧ fact.status ∉ BrokerOrderStatus.terminal then
    markAttemptUnknown current attempt "CANCEL_ACCEPTANCE_UNPROVEN" receivedAt
  else do
    let final ← applyTerminalFact current fact receivedAt
    conflict (if final.filledShares ≠ fact.filledShares then
      some "returned broker result differs from cumulative fill" else none)
    pure final

/-- `_record_returned_result`. -/
def recordReturnedResult (aggregate : OrderAggregate) (attempt : BrokerAttempt)
    (fact : BrokerOrderFact) (fills : List BrokerFillFact) (kind : CommandKind)
    (receivedAt : DateTime) : LedgerTxn OrderAggregate := do
  conflict (factViolation aggregate fact)
  let ledger ← get
  conflict (attemptViolation ledger aggregate attempt fact kind)
  let ordered ← Txn.lift (orderedFills aggregate.intent.executionId fact fills)
  conflict (if fact.filledShares < provenCumulativeShares aggregate ordered then
    some "broker cumulative fill contradicts confirmed fills" else none)
  recordBrokerOrder fact aggregate.intent.executionId
  completeAttemptIdempotently attempt fact kind receivedAt
  let current ← applyBrokerEconomics aggregate fact ordered receivedAt
  applyReturnedStatus current attempt fact kind
    (provenCumulativeShares aggregate ordered) receivedAt

/-- `record_submit_result`. -/
def recordSubmitResult (aggregate : OrderAggregate) (attempt : BrokerAttempt)
    (fact : BrokerOrderFact) (fills : List BrokerFillFact) (receivedAt : DateTime) :
    LedgerTxn OrderAggregate :=
  recordReturnedResult aggregate attempt fact fills .submit receivedAt

/-- `record_cancel_result`. -/
def recordCancelResult (aggregate : OrderAggregate) (attempt : BrokerAttempt)
    (fact : BrokerOrderFact) (fills : List BrokerFillFact) (receivedAt : DateTime) :
    LedgerTxn OrderAggregate :=
  recordReturnedResult aggregate attempt fact fills .cancel receivedAt

/-- `resolve_submit_not_accepted`. -/
def resolveSubmitNotAccepted (aggregate : OrderAggregate) (attempt : BrokerAttempt)
    (evidence : FailureEvidence) (occurredAt : DateTime) : LedgerTxn OrderAggregate := do
  let kind : OrderEventKind :=
    if aggregate.state = .unknown then .unknownResolvedNotAccepted evidence
    else .submitNotAccepted evidence
  let current ← transition aggregate ⟨.submitNotAccepted attempt.attemptId evidence,
    kind⟩ occurredAt
  updateAttempt attempt.attemptId fun row =>
    { row with state := .failedLocal, completedAt := some occurredAt }
  pure current

/-- A refused submission is not open. -/
lemma resolveSubmitNotAccepted_not_open {aggregate next : OrderAggregate}
    {attempt : BrokerAttempt} {evidence : FailureEvidence} {occurredAt : DateTime}
    (hstate : aggregate.state = .submitting)
    (h : resolveSubmitNotAccepted aggregate attempt evidence occurredAt ledger =
      .ok (next, ledger')) : next.state ∉ OrderState.openStates := by
  unfold resolveSubmitNotAccepted at h
  simp only [hstate, reduceCtorEq, if_false] at h
  obtain ⟨current, ledger₁, htransition, h⟩ := Txn.bind_eq_ok.mp h
  obtain ⟨-, ledger₂, -, h⟩ := Txn.bind_eq_ok.mp h
  cases h
  rcases transition_eq_ok htransition with ⟨rfl, -⟩ | ⟨happly, -⟩
  · simp [hstate, OrderState.openStates]
  · rcases OrderAggregate.apply_submitNotAccepted happly with rfl | harmed
    · simp [hstate, OrderState.openStates]
    · simp [harmed, OrderState.openStates]

/-- `resolve_cancel_not_accepted`. -/
def resolveCancelNotAccepted (aggregate : OrderAggregate) (attempt : BrokerAttempt)
    (evidence : FailureEvidence) (occurredAt : DateTime) : LedgerTxn OrderAggregate := do
  let current ← transition aggregate
    ⟨.cancelNotAccepted attempt.attemptId evidence, .cancelNotAccepted evidence⟩ occurredAt
  updateAttempt attempt.attemptId fun row =>
    { row with state := .failedLocal, completedAt := some occurredAt }
  pure current

end Ledger

end FirmQuant
