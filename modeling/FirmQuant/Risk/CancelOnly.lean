import FirmQuant.Risk.WriteScope

/-!
# The cancel-only capability

`BrokerCancelOnlyCapability.cancel_system_orders` of `risk/cancel_only.py`: the emergency sweep over
the active system orders of the ledger.

The gateway, its clock included, may do anything to its environment at each request; the ledger and
the account binding are read and written by the sweep alone.
-/

namespace FirmQuant

open Effect WriteM

/-- What the sweep asks of the gateway. -/
inductive GatewayRequest : Type → Type
  | health : GatewayRequest BrokerHealth
  | queryAccount : GatewayRequest BrokerAccountFact
  | queryOrders : GatewayRequest (List BrokerOrderFact)
  | queryFills : GatewayRequest (List BrokerFillFact)
  /-- The reading of the clock, which stands beside the gateway. -/
  | clock : GatewayRequest DateTime

/-- A `_Candidate`. -/
structure CancelCandidate where
  executionId : ExecutionId
  brokerOrderId : String
  clientOrderId : String
  symbol : Symbol
  side : Side
  requestedShares : ℕ
  filledShares : ℕ
  limitPrice : Price
  sessionDate : Date
  eventSequence : Option ℕ
  deriving DecidableEq

/-- `CancelOnlyResult`. -/
structure CancelOnlyResult where
  cancelCalls : ℕ
  cancelledOrderIds : List String
  deniedOrderIds : List String
  terminalOrderIds : List String
  unknownOrderIds : List String
  modeWriteForbidden : Bool

/-- The result in a mode that forbids writes. -/
def CancelOnlyResult.forbidden : CancelOnlyResult := ⟨0, [], [], [], [], true⟩

/-- `CancelOnlyResult()`. -/
def CancelOnlyResult.empty : CancelOnlyResult := ⟨0, [], [], [], [], false⟩

/-- Where the outcome of a cancel is filed. -/
def CancelOnlyResult.file (result : CancelOnlyResult) (brokerOrderId : String) :
    OrderState → CancelOnlyResult
  | .cancelled => { result with
      cancelledOrderIds := result.cancelledOrderIds ++ [brokerOrderId] }
  | .filled | .rejected | .expired => { result with
      terminalOrderIds := result.terminalOrderIds ++ [brokerOrderId] }
  | _ => { result with unknownOrderIds := result.unknownOrderIds ++ [brokerOrderId] }

/-- A `BrokerCancelOnlyCapability`. -/
structure CancelOnlyCapability (ε : Type) where
  mode : Mode
  gateway : {α : Type} → GatewayRequest α → WriteM ε α
  /-- `cancel_order` of the gateway, on behalf of a call. -/
  cancelOrder : ℕ → String → WriteM ε BrokerOrderFact

namespace CancelOnlyCapability

/-- `_ACTIVE_LOCAL_STATES`. -/
def activeLocalStates : List OrderState := [.acknowledged, .partiallyFilled]

/-- `_ACTIVE_BROKER_STATES`. -/
def activeBrokerStates : List BrokerOrderStatus := [.pendingNew, .acknowledged, .partiallyFilled]

/-- The candidate of a row of `broker_orders`, where it has all that a candidate needs and its
execution is active. -/
def candidateOf (ledger : Ledger) (row : BrokerOrderRow) : Option CancelCandidate :=
  match row.executionId, row.clientOrderId, row.limitPrice with
  | some executionId, some clientOrderId, some limitPrice =>
    if row.ownership = .system ∧ row.status ∈ activeBrokerStates ∧
        (∃ intent ∈ ledger.executionIntents, intent.executionId = executionId ∧
          intent.state ∈ activeLocalStates) then
      some {
        executionId := executionId
        brokerOrderId := row.brokerOrderId
        clientOrderId := clientOrderId
        symbol := row.symbol
        side := row.side
        requestedShares := row.requestedShares
        filledShares := row.filledShares
        limitPrice := limitPrice
        sessionDate := row.sessionDate
        eventSequence := row.lastEventSequence }
    else none
  | _, _, _ => none

/-- `ORDER BY b.broker_order_id`. -/
def byBrokerOrderId (a b : CancelCandidate) : Prop := a.brokerOrderId ≤ b.brokerOrderId

instance : DecidableRel byBrokerOrderId := fun a b =>
  inferInstanceAs (Decidable (a.brokerOrderId ≤ b.brokerOrderId))

/-- `_candidates`. -/
def candidates (ledger : Ledger) : List CancelCandidate :=
  (ledger.brokerOrders.filterMap (candidateOf ledger)).insertionSort byBrokerOrderId

/-- The comparison of a reported order with a candidate. -/
def matchesCandidate (candidate : CancelCandidate) (order : BrokerOrderFact) : Bool :=
  order.status ∈ activeBrokerStates && order.clientOrderId = some candidate.clientOrderId &&
    order.symbol = candidate.symbol && order.side = candidate.side &&
    order.requestedShares = candidate.requestedShares &&
    order.limitPrice = candidate.limitPrice && order.sessionDate = candidate.sessionDate &&
    candidate.filledShares ≤ order.filledShares &&
    candidate.eventSequence.all (· ≤ order.eventSequence)

variable {ε : Type} (capability : CancelOnlyCapability ε)

/-- The reported orders with the id of a candidate, unless the connection or the account is not
the bound one. -/
def currentMatches (candidate : CancelCandidate) : WriteM ε (List BrokerOrderFact) := do
  let health ← capability.gateway .health
  if health.connected = false ∨ health.readHealthy = false ∨ health.writeHealthy = false then
    return []
  else do
    let w ← get
    match w.store.binding with
    | none => return []
    | some binding => do
      let account ← capability.gateway .queryAccount
      if account.accountIdHash ≠ binding.accountIdHash ∨
          account.accountType ≠ binding.accountType then
        return []
      else do
        let orders ← capability.gateway .queryOrders
        return orders.filter (·.brokerOrderId = candidate.brokerOrderId)

/-- `_current_broker_order`. -/
def currentBrokerOrder (candidate : CancelCandidate) : WriteM ε (Option BrokerOrderFact) := do
  let found ← catching (capability.currentMatches candidate) fun _ => return []
  match found with
  | [order] => return if matchesCandidate candidate order then some order else none
  | _ => return none

/-- `with self._ledger.database.transaction()`. -/
def transaction {α : Type} (x : LedgerTxn α) : WriteM ε α := fun w =>
  match x w.store.ledger with
  | .ok (a, ledger) => .ok a { w with store := { w.store with ledger := ledger } }
  | .error e => .error (.exception e) w

/-- What follows a cancel that returned: the fills are asked for, and both are recorded. -/
def recordResponse (brokerOrderId : String) (cancelling : OrderAggregate) (attempt : BrokerAttempt)
    (response : BrokerOrderFact) : WriteM ε OrderAggregate := do
  let fills ← catching (do
    let fills ← capability.gateway .queryFills
    return fills.filter (·.brokerOrderId = brokerOrderId)) fun _ => return []
  let receivedAt ← capability.gateway .clock
  transaction (Ledger.recordCancelResult cancelling attempt response fills receivedAt)

/-- The cancellation of one order, from its write-ahead record to its outcome. -/
def cancelCandidate (call : ℕ) (candidate : CancelCandidate) (aggregate : OrderAggregate)
    (result : CancelOnlyResult) : WriteM ε CancelOnlyResult := do
  let startedAt ← capability.gateway .clock
  let (cancelling, attempt) ← transaction (Ledger.beginCancel aggregate startedAt)
  let result := { result with cancelCalls := result.cancelCalls + 1 }
  let response ← catching
    (some <$> scope (capability.cancelOrder call candidate.brokerOrderId)) fun _ => return none
  match response with
  | none => do
    let occurredAt ← capability.gateway .clock
    let _ ← transaction
      (Ledger.markAttemptUnknown cancelling attempt "CANCEL_CALL_OUTCOME_UNKNOWN" occurredAt)
    return result.file candidate.brokerOrderId .unknown
  | some response => do
    let final ← capability.recordResponse candidate.brokerOrderId cancelling attempt response
    return result.file candidate.brokerOrderId final.state

/-- One round of the sweep. -/
def sweepCandidate (call : ℕ) (result : CancelOnlyResult) (candidate : CancelCandidate) :
    WriteM ε CancelOnlyResult := do
  let w ← get
  match w.store.ledger.load candidate.executionId with
  | none => return result
  | some aggregate =>
    if aggregate.state ∉ activeLocalStates ∨
        aggregate.brokerOrderId ≠ some candidate.brokerOrderId then
      return result
    else do
      let current ← capability.currentBrokerOrder candidate
      match current with
      | none => return { result with
          deniedOrderIds := result.deniedOrderIds ++ [candidate.brokerOrderId] }
      | some _ => capability.cancelCandidate call candidate aggregate result

/-- `cancel_system_orders`. -/
def cancelSystemOrders : WriteM ε CancelOnlyResult := do
  if capability.mode ∉ [Mode.canary, .live] then
    return .forbidden
  else do
    let call ← newCall
    log (.sweepStarted call)
    let w ← get
    (candidates w.store.ledger).foldlM (capability.sweepCandidate call) CancelOnlyResult.empty

end CancelOnlyCapability

end FirmQuant
