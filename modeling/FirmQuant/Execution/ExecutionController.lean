import FirmQuant.Execution.FeeLaws
import FirmQuant.Execution.LiveController
import FirmQuant.Persistence.BaseLedger

/-!
# The execution controller

`ExecutionController` of `execution/controller.py`, which the live controller inherits its sizing
from: it sizes each order of a plan from the facts of the moment, submits it, and cancels what
stays open when it is told to.

The gateway and the clock may answer anything.  The state keeps a trace that the controller does not
read: the position that the last sizing saw, and every command that was submitted with it.
-/

namespace FirmQuant

open Effect

/-! ## The result of a cancel -/

namespace BaseLedger

open Ledger (transition fillEvent updateAttempt)

/-- The loop of `record_cancel_result`, which skips the fills that the order has. -/
def applyNewFills : OrderAggregate → List BrokerFillFact → LedgerTxn OrderAggregate
  | current, [] => pure current
  | current, fill :: rest =>
    if current.fills.any (·.brokerFillId = fill.brokerFillId) then applyNewFills current rest
    else do
      recordFill fill current.intent.executionId
      let next ← transition current (fillEvent fill) fill.eventTime
      applyNewFills next rest

/-- `record_cancel_result`. -/
def recordCancelResult (ids : AttemptEventIds) (aggregate : OrderAggregate)
    (attempt : BrokerAttempt) (fact : BrokerOrderFact) (fills : List BrokerFillFact)
    (receivedAt : DateTime) : LedgerTxn OrderAggregate := do
  recordBrokerOrder fact aggregate.intent.executionId
  completeAttempt attempt fact .cancel receivedAt
  let current ← applyNewFills aggregate (fills.insertionSort fillLe)
  if fact.status = .cancelled then
    transition current ⟨.text (ids "cancel-confirmed" attempt.attemptId),
      .cancelConfirmed (some fact.brokerOrderId)⟩ receivedAt
  else if fact.status = .filled ∧ current.state = .filled then pure current
  else do
    updateAttempt attempt.attemptId fun row => { row with state := .unknown }
    transition current ⟨.text (ids "cancel-unknown" attempt.attemptId),
      .submitOutcomeUnknown "CANCEL_OUTCOME_UNKNOWN"⟩ receivedAt

end BaseLedger

namespace ExecutionController

/-! ## The outside -/

/-- What the controller asks of the outside. -/
structure Gateway (B : Type) where
  clock : B → DateTime × B
  queryAccount : B → Except Failure BrokerAccountFact × B
  queryPositions : B → Except Failure (List BrokerPositionFact) × B
  queryFills : B → Except Failure (List BrokerFillFact) × B
  submitOrder : BrokerOrderCommand → B → Except Failure BrokerOrderFact × B
  cancelOrder : String → B → Except Failure BrokerOrderFact × B

/-- The facts that an order was sized from. -/
structure Sizing where
  planned : PlannedOrder
  position : Option BrokerPositionFact

/-- A command, with the sizing before it. -/
structure Submission where
  sizing : Option Sizing
  command : BrokerOrderCommand

/-- The state of a run. -/
structure State (B : Type) where
  ledger : Ledger
  outside : B
  sizing : Option Sizing
  submissions : List Submission

/-- A program of the controller. -/
abbrev Run (B : Type) := EStateM Failure (State B)

/-- The configuration of a controller. -/
structure Config where
  feeSchedule : FeeSchedule
  cancelOpenOrdersAtEnd : Bool
  /-- The ids of the events that the repository derives from an attempt. -/
  ids : BaseLedger.AttemptEventIds

variable {B : Type} (g : Gateway B) (config : Config)

/-- Ask the gateway. -/
def call {α : Type} (port : B → Except Failure α × B) : Run B α := fun s =>
  match port s.outside with
  | (.ok a, b) => .ok a { s with outside := b }
  | (.error failure, b) => .error failure { s with outside := b }

/-- `self._clock()`. -/
def clock : Run B DateTime := call fun b => (.ok (g.clock b).1, (g.clock b).2)

/-- Run a repository call in a database transaction. -/
def inTransaction {α : Type} (x : LedgerTxn α) : Run B α := fun s =>
  match x s.ledger with
  | .ok (a, ledger) => .ok a { s with ledger := ledger }
  | .error failure => .error failure s

/-- `try: … except Exception`, with the exception as a value. -/
def attempt {α : Type} (x : Run B α) : Run B (Except Failure α) :=
  tryCatch (Except.ok <$> x) fun failure => pure (.error failure)

/-! ## Sizing -/

/-- The fees of a BUY at the limit. -/
def buyFees (schedule : FeeSchedule) (planned : PlannedOrder) (shares : ℕ) : Except Failure Money :=
  match schedule.calculate .buy planned.limitPrice shares >>= FeeBreakdown.total with
  | .ok total => .ok total
  | .error message => .error (.domainValidationError message)

/-- The loop of `_shares_for_current_facts`: units are taken off until the cash covers the order and
its fees. -/
def affordableShares (schedule : FeeSchedule) (planned : PlannedOrder) (cash : ℚ)
    (candidate : ℕ) : Except Failure ℕ :=
  if h : candidate = 0 then .ok 0
  else
    match buyFees schedule planned candidate with
    | .error failure => .error failure
    | .ok fees =>
      if planned.limitPrice.value * candidate + fees.value ≤ cash then .ok candidate
      else affordableShares schedule planned cash (candidate - planned.tradingUnit)
termination_by candidate
decreasing_by exact Nat.sub_lt (Nat.pos_of_ne_zero h) planned.unit_pos

/-- The shares of a SELL, and why. -/
def sellShares (planned : PlannedOrder) (position : Option BrokerPositionFact) :
    ℕ × OutcomeReason :=
  match position with
  | none => (0, .positionMissing)
  | some held =>
    let candidate := min planned.uquantAuthorizedShares (min held.totalShares held.sellableShares)
    if candidate = held.totalShares ∧ planned.targetShares = 0 then (candidate, .authorized)
    else
      let rounded := candidate - candidate % planned.tradingUnit
      (rounded, if rounded < planned.uquantAuthorizedShares then .sellableShrink else .authorized)

/-- The shares that a BUY wants for its target. -/
def wantedShares (planned : PlannedOrder) (position : Option BrokerPositionFact) : ℕ :=
  let current := position.elim 0 (·.totalShares)
  let candidate := min planned.uquantAuthorizedShares (planned.targetShares - current)
  candidate - candidate % planned.tradingUnit

/-- The shares of a BUY that the cash covers, and why. -/
def buyShares (schedule : FeeSchedule) (planned : PlannedOrder) (wanted : ℕ) (cash : ℚ) :
    Except Failure (ℕ × OutcomeReason) := do
  let maximumByGross := ⌊cash / planned.limitPrice.value⌋.toNat
  let capped := min wanted maximumByGross
  let authorizedCandidate := capped - capped % planned.tradingUnit
  let candidate ← affordableShares schedule planned cash authorizedCandidate
  if candidate = 0 then return (0, .cashInsufficient)
  else if candidate < planned.uquantAuthorizedShares ∨ candidate < authorizedCandidate then
    return (candidate, .actualCashShrink)
  else return (candidate, .authorized)

/-- The position of the symbol.  Of two facts of one symbol the dictionary keeps the later. -/
def positionOf (planned : PlannedOrder) (positions : List BrokerPositionFact) :
    Option BrokerPositionFact := positions.reverse.find? (·.symbol = planned.symbol)

/-- `_shares_for_current_facts`. -/
def sharesForCurrentFacts (planned : PlannedOrder) : Run B (ℕ × OutcomeReason) := do
  let positions ← call g.queryPositions
  let position := positionOf planned positions
  modify fun s => { s with sizing := some ⟨planned, position⟩ }
  match planned.side with
  | .sell => pure (sellShares planned position)
  | .buy =>
    if wantedShares planned position = 0 then pure (0, .targetAlreadySatisfied)
    else do
      let account ← call g.queryAccount
      match buyShares config.feeSchedule planned (wantedShares planned position)
          account.availableCash.value with
      | .ok sized => pure sized
      | .error failure => throw failure

/-! ## Writes -/

/-- `_new_aggregate`. -/
def newAggregate (planned : PlannedOrder) (shares : ℕ) (occurredAt : DateTime) :
    Run B OrderAggregate :=
  match ExecutionIntent.create
      { decisionId := planned.decisionId
        uquantOrderId := planned.uquantOrderId
        symbol := planned.symbol
        side := planned.side
        requestedShares := shares
        strategySession := planned.strategySession
        uquantSourceSha := planned.uquantSourceSha } with
  | .error failure => throw failure
  | .ok intent => inTransaction do
    let aggregate ← Ledger.appendIntent intent occurredAt
    Ledger.validateAndArm aggregate occurredAt

/-- The fills of an answered write; a query that fails counts as no fills. -/
def brokerFills (brokerOrderId : String) : Run B (List BrokerFillFact) := do
  match ← attempt (call g.queryFills) with
  | .ok fills => pure (fills.filter (·.brokerOrderId = brokerOrderId))
  | .error _ => pure []

/-- `self._gateway.submit_order(command)`. -/
def submitOrder (command : BrokerOrderCommand) : Run B BrokerOrderFact := do
  modify fun s => { s with submissions := s.submissions ++ [⟨s.sizing, command⟩] }
  call (g.submitOrder command)

/-- `_submit`. -/
def submit (aggregate : OrderAggregate) (command : BrokerOrderCommand) : Run B OrderAggregate := do
  let startedAt ← clock g
  let (submitting, attempted) ← inTransaction (Ledger.beginSubmit aggregate command startedAt)
  match ← attempt (submitOrder g command) with
  | .error _ => do
    let occurredAt ← clock g
    inTransaction (Ledger.markAttemptUnknown submitting attempted "SUBMIT_CALL_OUTCOME_UNKNOWN"
      occurredAt)
  | .ok response => do
    let fills ← brokerFills g response.brokerOrderId
    let receivedAt ← clock g
    inTransaction (BaseLedger.recordSubmitResult config.ids submitting attempted response fills
      receivedAt)

/-- `_cancel`. -/
def cancel (aggregate : OrderAggregate) : Run B OrderAggregate :=
  match aggregate.brokerOrderId with
  | none => throw (.domainValidationError "cannot cancel without broker order id")
  | some brokerOrderId => do
    let startedAt ← clock g
    let (cancelling, attempted) ← inTransaction (Ledger.beginCancel aggregate startedAt)
    match ← attempt (call (g.cancelOrder brokerOrderId)) with
    | .error _ => do
      let occurredAt ← clock g
      inTransaction (Ledger.markAttemptUnknown cancelling attempted "CANCEL_CALL_OUTCOME_UNKNOWN"
        occurredAt)
    | .ok response => do
      let fills ← brokerFills g response.brokerOrderId
      let receivedAt ← clock g
      inTransaction (BaseLedger.recordCancelResult config.ids cancelling attempted response fills
        receivedAt)

/-! ## The loop -/

/-- What the loop of `execute` carries. -/
structure LoopState where
  outcomes : List ExecutionOutcome
  cashAfterSells : Money
  unresolvedUnknown : Bool
  submitCalls : ℕ
  cancelCalls : ℕ

/-- The cash after a SELL. -/
def afterSell (planned : PlannedOrder) (st : LoopState) : Run B LoopState :=
  match planned.side with
  | .buy => pure st
  | .sell => do
    let account ← call g.queryAccount
    pure { st with cashAfterSells := account.availableCash }

/-- Cancel what stays open, if the controller is told to; the final aggregate and the number of
cancels. -/
def cancelAtEnd (aggregate : OrderAggregate) : Run B (OrderAggregate × ℕ) :=
  if aggregate.state ≠ .unknown ∧ config.cancelOpenOrdersAtEnd = true ∧
      aggregate.state ∈ [OrderState.acknowledged, .partiallyFilled] then do
    let cancelled ← cancel g config aggregate
    pure (cancelled, 1)
  else pure (aggregate, 0)

/-- The branch of the loop for an order that is submitted. -/
def submitSized (planned : PlannedOrder) (shares : ℕ) (sizingReason : OutcomeReason)
    (st : LoopState) : Run B LoopState := do
  let now ← clock g
  let armed ← newAggregate planned shares now
  let submitted ← submit g config armed (LiveController.command armed.intent planned)
  let (final, cancels) ← cancelAtEnd g config submitted
  let reason :=
    if final.state = .filled ∧ sizingReason ≠ .authorized then sizingReason
    else LiveController.reasonForState final
  afterSell g planned { st with
    outcomes := st.outcomes ++ [LiveController.outcome planned final reason]
    unresolvedUnknown := decide (final.state = .unknown)
    submitCalls := st.submitCalls + 1
    cancelCalls := st.cancelCalls + cancels }

/-- The body of the loop of `execute`. -/
def executeOrder (st : LoopState) (planned : PlannedOrder) : Run B LoopState :=
  if st.unresolvedUnknown then
    pure { st with outcomes :=
      st.outcomes ++ [LiveController.blockedOutcome planned .blockedByUnresolvedUnknown] }
  else do
    match (← get).ledger.findEconomicOrder planned.decisionId planned.uquantOrderId with
    | some existing =>
      afterSell g planned { st with
        outcomes := st.outcomes ++
          [LiveController.outcome planned existing (LiveController.reasonForState existing)]
        unresolvedUnknown := decide (existing.state = .unknown) }
    | none => do
      let (shares, sizingReason) ← sharesForCurrentFacts g config planned
      if shares = 0 then
        afterSell g planned { st with outcomes :=
          st.outcomes ++ [LiveController.blockedOutcome planned sizingReason] }
      else submitSized g config planned shares sizingReason st

/-- `execute`. -/
def execute (plan : ExecutionPlan) : Run B ExecutionSessionResult := do
  let opening ← call g.queryAccount
  let st ← plan.orders.foldlM (executeOrder g config) ⟨[], opening.availableCash, false, 0, 0⟩
  let ending ← call g.queryAccount
  return {
    planId := plan.planId
    decisionId := plan.decisionId
    outcomes := st.outcomes
    openingCash := opening.availableCash
    cashAfterSells := st.cashAfterSells
    endingCash := ending.availableCash
    negativeCash := decide (ending.availableCash.value < 0)
    unresolvedUnknown := st.unresolvedUnknown
    submitCalls := st.submitCalls
    cancelCalls := st.cancelCalls }

end ExecutionController

end FirmQuant
