import FirmQuant.Execution.Plan

/-!
# The live execution controller

`LiveExecutionController` of `execution/live_controller.py` with the sizing and the outcomes
of `execution/controller.py`.

The controller sees the outside through ports: two clocks, a sleep, the writer lease and the
write capability.  A port may answer anything and may depend on all that happened, so a run
over an arbitrary `Ports` value is a run with any clock and any broker.  A capability call is
given the ledger too, because the production capability counts stored orders when it
authorizes a write.

The world keeps a trace of what the controller did: readings, sleeps, lease checks and
capability writes.  It also keeps the points at which a crash may cut the run: after each commit
to the ledger and each write to the broker.  Neither is read by the controller.  The polling loop
is given fuel; a run that uses it up ends in `Failure.outOfFuel`, so a statement about all fuels
covers every finite part of a run.
-/

namespace FirmQuant

open Effect

/-! ## The outside -/

/-- What the controller can ask of the outside. -/
structure Ports (B : Type) where
  clock : B → DateTime × B
  monotonicClock : B → ℚ × B
  sleep : ℚ → B → B
  leaseCheck : B → Except Failure PUnit × B
  queryAccount : B → Except Failure BrokerAccountFact × B
  queryPositions : B → Except Failure (List BrokerPositionFact) × B
  queryOrders : B → Except Failure (List BrokerOrderFact) × B
  queryFills : B → Except Failure (List BrokerFillFact) × B
  submitOrder : Ledger → BrokerOrderCommand → B → Except Failure BrokerOrderFact × B
  cancelOrder : Ledger → String → B → Except Failure BrokerOrderFact × B

/-- `WriteFailureClass`. -/
inductive WriteFailureClass
  | notAccepted | outcomeUnknown
  deriving DecidableEq, Repr

/-- `classify_write_failure`. -/
def classifyWriteFailure : Failure → WriteFailureClass
  | .writeCapabilityDenied _ => .notAccepted
  | .brokerWriteForbidden => .notAccepted
  | .brokerWriteNotAccepted => .notAccepted
  | _ => .outcomeUnknown

/-- What the trace of a run records. -/
inductive Observation (B : Type)
  | clock (time : DateTime)
  | monotonic (time : ℚ)
  | sleep (duration : ℚ)
  | leaseCheck (held : Bool)
  | submitOrder (ledger : Ledger) (command : BrokerOrderCommand)
  /-- A cancel, with the outside that the capability met. -/
  | cancelOrder (outside : B) (brokerOrderId : String)
  /-- An order is still open at the end of its window, at the reading that decides on the
  cancel. -/
  | windowEnd (now : ℚ)

/-- The state of a run. -/
structure World (B : Type) where
  ledger : Ledger
  outside : B
  lastMonotonic : Option ℚ
  trace : List (Observation B)
  /-- The ledger and the trace after each commit and each broker write. -/
  crashPoints : List (Ledger × List (Observation B))

/-- The world with a crash point for its present state. -/
def World.crashPoint {B : Type} (w : World B) : World B :=
  { w with crashPoints := w.crashPoints ++ [(w.ledger, w.trace)] }

/-- A live program. -/
abbrev Live (B : Type) := EStateM Failure (World B)

/-- The configuration of a controller. -/
structure LiveConfig where
  feeSchedule : FeeSchedule
  windowPolicy : ExecutionWindowPolicy
  deadlines : ExecutionDeadlines
  /-- The number of polls that a wait is followed for. -/
  fuel : ℕ

/-- The reason codes of outcomes. -/
inductive OutcomeReason
  | blockedByUnresolvedUnknown | blockedByIncompleteSellReduction
  | blockedByGlobalExecutionDeadline
  | positionMissing | sellableShrink | targetAlreadySatisfied | cashInsufficient
  | actualCashShrink | authorized
  | submitNotAccepted | unresolvedUnknown | deadlineCancelled | filled | partialFill
  | brokerRejected | executionWindowIncomplete
  /-- Any other state, by its own name. -/
  | state (state : OrderState)
  deriving DecidableEq, Repr

/-- `ExecutionOutcome`. -/
structure ExecutionOutcome where
  uquantOrderId : String
  executionId : Option ExecutionId
  brokerOrderId : Option String
  symbol : Symbol
  side : Side
  uquantAuthorizedShares : ℕ
  submittedShares : ℕ
  submittedValue : ℚ
  filledShares : ℕ
  finalState : Option OrderState
  reasonCode : OutcomeReason
  submitAttempts : ℕ
  cancelRequests : ℕ
  deriving DecidableEq

/-- `ExecutionSessionResult`. -/
structure ExecutionSessionResult where
  planId : String
  decisionId : String
  outcomes : List ExecutionOutcome
  openingCash : Money
  cashAfterSells : Money
  endingCash : Money
  negativeCash : Bool
  unresolvedUnknown : Bool
  submitCalls : ℕ
  cancelCalls : ℕ

namespace LiveController

variable {B : Type}

/-! ## Calls -/

/-- Ask a port that may raise. -/
def call {α : Type} (port : B → Except Failure α × B) : Live B α := fun w =>
  match port w.outside with
  | (.ok a, b) => .ok a { w with outside := b }
  | (.error failure, b) => .error failure { w with outside := b }

/-- Add an observation to the trace. -/
def observe (o : Observation B) : Live B PUnit :=
  modify fun w => { w with trace := w.trace ++ [o] }

/-- Run a repository call in a database transaction. -/
def inTransaction {α : Type} (x : LedgerTxn α) : Live B α := fun w =>
  match x w.ledger with
  | .ok (a, ledger) => .ok a { w with ledger := ledger }.crashPoint
  | .error failure => .error failure w

/-- `try: … except Exception as error`, with the error as a value. -/
def attempt {α : Type} (x : Live B α) : Live B (Except Failure α) :=
  tryCatch (Except.ok <$> x) fun failure => pure (.error failure)

variable (p : Ports B) (config : LiveConfig)

/-- `self._clock()`. -/
def clock : Live B DateTime := do
  let time ← call fun b => ((.ok (p.clock b).1), (p.clock b).2)
  observe (.clock time)
  pure time

/-- `_monotonic`. -/
def monotonic : Live B ℚ := do
  let observed ← call fun b => ((.ok (p.monotonicClock b).1), (p.monotonicClock b).2)
  observe (.monotonic observed)
  let last := (← get).lastMonotonic
  if observed < 0 ∨ ∃ previous ∈ last, observed < previous then
    throw (.runtimeError "MONOTONIC_CLOCK_ROLLBACK")
  else do
    modify fun w => { w with lastMonotonic := some observed }
    pure observed

/-- `self._sleep(duration)`. -/
def sleep (duration : ℚ) : Live B PUnit := do
  call fun b => (.ok ⟨⟩, p.sleep duration b)
  observe (.sleep duration)

/-- `self._capability.cancel_order(broker_order_id)`. -/
def cancelOrder (brokerOrderId : String) : Live B BrokerOrderFact := do
  let w ← get
  observe (.cancelOrder w.outside brokerOrderId)
  modify World.crashPoint
  call (p.cancelOrder w.ledger brokerOrderId)

/-- `self._capability.submit_order(command)`. -/
def submitOrder (command : BrokerOrderCommand) : Live B BrokerOrderFact := do
  let ledger := (← get).ledger
  observe (.submitOrder ledger command)
  modify World.crashPoint
  call (p.submitOrder ledger command)

/-- `_cancel_only_after_lease_loss`. -/
def cancelOnlyAfterLeaseLoss (aggregate : Option OrderAggregate) : Live B PUnit :=
  match aggregate with
  | none => pure ⟨⟩
  | some current =>
    match current.brokerOrderId with
    | none => pure ⟨⟩
    | some brokerOrderId =>
      if current.state ∉ OrderState.openStates then pure ⟨⟩
      else do
        let _ ← attempt (do
          let now ← monotonic p
          if config.deadlines.latestCancelInitiation ≤ now then pure ⟨⟩
          else do
            let _ ← cancelOrder p brokerOrderId
            pure PUnit.unit)
        pure ⟨⟩

/-- `_guard`. -/
def guard (aggregate : Option OrderAggregate) : Live B PUnit := do
  match ← attempt (call p.leaseCheck) with
  | .ok _ => observe (.leaseCheck true)
  | .error .writerLeaseLost =>
    observe (.leaseCheck false)
    cancelOnlyAfterLeaseLoss p config aggregate
    throw .writerLeaseLost
  | .error failure =>
    observe (.leaseCheck false)
    throw failure

/-! ## Writes -/

/-- `_failure_evidence`. -/
def failureEvidence : Failure → FailureEvidence
  | .writeCapabilityDenied reasonCodes => ⟨"WriteCapabilityDenied", reasonCodes⟩
  | .brokerWriteForbidden => ⟨"BrokerWriteForbidden", []⟩
  | .brokerWriteNotAccepted => ⟨"BrokerWriteNotAccepted", []⟩
  | .brokerError name => ⟨name, []⟩
  | .domainTransitionError _ => ⟨"DomainTransitionError", []⟩
  | .domainValidationError _ => ⟨"DomainValidationError", []⟩
  | .domainTypeError _ => ⟨"DomainTypeError", []⟩
  | .persistenceConflict _ => ⟨"PersistenceConflict", []⟩
  | .integrityError _ => ⟨"IntegrityError", []⟩
  | .recoveryError _ => ⟨"RecoveryError", []⟩
  | .recoveryContradiction _ => ⟨"RecoveryContradiction", []⟩
  | .productionServicesUnavailable _ => ⟨"ProductionServicesUnavailable", []⟩
  | .productionDaemonHalted _ => ⟨"ProductionDaemonHalted", []⟩
  | .writerLeaseLost => ⟨"WriterLeaseLost", []⟩
  | .runtimeError _ => ⟨"RuntimeError", []⟩
  | .valueError _ => ⟨"ValueError", []⟩
  | .typeError _ => ⟨"TypeError", []⟩
  | .outOfFuel => ⟨"", []⟩

/-- `_command`. -/
def command (intent : ExecutionIntent) (planned : PlannedOrder) : BrokerOrderCommand where
  executionId := intent.executionId
  idempotencyKey := intent.idempotencyKey
  clientOrderId := intent.uquantOrderId
  symbol := intent.symbol
  side := intent.side
  priceType := .limit
  requestedShares := intent.requestedShares
  limitPrice := planned.limitPrice
  strategySession := intent.strategySession
  requested_pos := intent.requested_pos

/-- `_broker_fills`. -/
def brokerFills (brokerOrderId : String) : Live B (List BrokerFillFact) := do
  let fills ← call p.queryFills
  pure (fills.filter (·.brokerOrderId = brokerOrderId))

/-- The fills of an answered write; a query that fails counts as no fills. -/
def brokerFillsOrNone (brokerOrderId : String) : Live B (List BrokerFillFact) := do
  match ← attempt (brokerFills p brokerOrderId) with
  | .ok fills => pure fills
  | .error _ => pure []

/-- `_submit_live`. -/
def submitLive (aggregate : OrderAggregate) (planned : PlannedOrder) : Live B OrderAggregate := do
  let command := command aggregate.intent planned
  guard p config none
  let startedAt ← clock p
  let (submitting, attempted) ← inTransaction (Ledger.beginSubmit aggregate command startedAt)
  guard p config none
  match ← attempt (submitOrder p command) with
  | .error failure =>
    guard p config none
    let occurredAt ← clock p
    if classifyWriteFailure failure = .notAccepted then
      inTransaction (Ledger.resolveSubmitNotAccepted submitting attempted
        (failureEvidence failure) occurredAt)
    else
      inTransaction (Ledger.markAttemptUnknown submitting attempted
        "SUBMIT_CALL_OUTCOME_UNKNOWN" occurredAt)
  | .ok response =>
    let fills ← brokerFillsOrNone p response.brokerOrderId
    guard p config none
    let receivedAt ← clock p
    inTransaction (Ledger.recordSubmitResult submitting attempted response fills receivedAt)

/-- `_cancel_live`. -/
def cancelLive (aggregate : OrderAggregate) : Live B OrderAggregate :=
  match aggregate.brokerOrderId with
  | none => throw (.valueError "cannot cancel live order without broker order id")
  | some brokerOrderId => do
    guard p config (some aggregate)
    let startedAt ← clock p
    let (cancelling, attempted) ← inTransaction (Ledger.beginCancel aggregate startedAt)
    guard p config (some aggregate)
    match ← attempt (cancelOrder p brokerOrderId) with
    | .error failure =>
      guard p config (some aggregate)
      let occurredAt ← clock p
      if classifyWriteFailure failure = .notAccepted then
        inTransaction (Ledger.resolveCancelNotAccepted cancelling attempted
          (failureEvidence failure) occurredAt)
      else
        inTransaction (Ledger.markAttemptUnknown cancelling attempted
          "CANCEL_CALL_OUTCOME_UNKNOWN" occurredAt)
    | .ok response =>
      let fills ← brokerFillsOrNone p response.brokerOrderId
      guard p config (some aggregate)
      let receivedAt ← clock p
      inTransaction (Ledger.recordCancelResult cancelling attempted response fills receivedAt)

/-! ## Waiting -/

/-- `_refresh_open_order`. -/
def refreshOpenOrder (aggregate : OrderAggregate) : Live B OrderAggregate :=
  match aggregate.brokerOrderId with
  | none => pure aggregate
  | some brokerOrderId => do
    guard p config (some aggregate)
    let orders ← call p.queryOrders
    match orders.filter (·.brokerOrderId = brokerOrderId) with
    | [] => pure aggregate
    | [order] => do
      let fills ← brokerFills p brokerOrderId
      guard p config (some aggregate)
      let receivedAt ← clock p
      inTransaction (Ledger.reconcileBrokerFact aggregate order fills receivedAt)
    | _ => throw (.runtimeError "multiple broker orders match one execution")

/-- The loop of `_wait_until_deadline`. -/
def waitUntilDeadline (orderDeadline : ℚ) : ℕ → OrderAggregate → Live B OrderAggregate
  | 0, _ => throw .outOfFuel
  | fuel + 1, current =>
    if current.state ∉ OrderState.openStates then pure current
    else do
      guard p config (some current)
      let now ← monotonic p
      if orderDeadline ≤ now ∨ config.deadlines.absoluteCompletion ≤ now then pure current
      else do
        let remaining := min (totalSeconds config.windowPolicy.pollInterval)
          (min (orderDeadline - now) (config.deadlines.absoluteCompletion - now))
        if remaining ≤ 0 then pure current
        else do
          sleep p remaining
          let next ← refreshOpenOrder p config current
          waitUntilDeadline orderDeadline fuel next

/-- `order_deadline` of `_wait_until_deadline`. -/
def orderDeadline (submittedMonotonic : ℚ) (side : Side) : ℚ :=
  min (submittedMonotonic + totalSeconds (config.windowPolicy.windowFor side))
    config.deadlines.latestCancelInitiation

/-- The wait for the minimum order lifetime in `_finish_open_order`. -/
def awaitMinimumLifetime (submittedMonotonic : ℚ) (current : OrderAggregate) :
    Live B OrderAggregate := do
  let earliestCancel :=
    submittedMonotonic + totalSeconds config.windowPolicy.minimumOrderLifetime
  let now ← monotonic p
  if now < earliestCancel then do
    let remaining := min (earliestCancel - now)
      (min (config.deadlines.latestCancelInitiation - now)
        (config.deadlines.absoluteCompletion - now))
    if 0 < remaining then do
      sleep p remaining
      refreshOpenOrder p config current
    else pure current
  else pure current

/-- The cancel at the end of the window in `_finish_open_order`. -/
def cancelAtWindowEnd (current : OrderAggregate) : Live B OrderAggregate :=
  if current.state ∈ OrderState.openStates then do
    let now ← monotonic p
    observe (.windowEnd now)
    if now < config.deadlines.latestCancelInitiation ∧
        now < config.deadlines.absoluteCompletion then
      cancelLive p config current
    else pure current
  else pure current

/-- `_finish_open_order`. -/
def finishOpenOrder (aggregate : OrderAggregate) (submittedMonotonic : ℚ) (side : Side) :
    Live B OrderAggregate := do
  let current ← waitUntilDeadline p config (orderDeadline config submittedMonotonic side)
    config.fuel aggregate
  if current.state ∉ OrderState.openStates then pure current
  else do
    let rested ← awaitMinimumLifetime p config submittedMonotonic current
    cancelAtWindowEnd p config rested

/-- `_safe_to_start`. -/
def safeToStart (side : Side) : Live B Bool := do
  let now ← monotonic p
  if config.deadlines.latestNewSubmit ≤ now then pure false
  else
    pure (decide (now + totalSeconds (config.windowPolicy.windowFor side) ≤
      config.deadlines.latestCancelInitiation ∧
      config.deadlines.latestCancelInitiation ≤ config.deadlines.absoluteCompletion))

/-! ## Sizing -/

/-- The loop of `_shares_for_current_facts` that takes units off until cash covers the fees. -/
def affordable (fees : FeeSchedule) (planned : PlannedOrder) (cash : ℚ) : ℕ → ℕ → ℕ
  | 0, candidate => candidate
  | fuel + 1, candidate =>
    if candidate = 0 then 0
    else if planned.limitPrice.value * candidate +
        (fees.total .buy planned.limitPrice candidate).value ≤ cash then candidate
    else affordable fees planned cash fuel (candidate - planned.tradingUnit)

/-- `_shares_for_current_facts`. -/
def sharesForCurrentFacts (planned : PlannedOrder) : Live B (ℕ × OutcomeReason) := do
  let positions ← call p.queryPositions
  let position := positions.reverse.find? (·.symbol = planned.symbol)
  let authorization := planned.uquantAuthorizedShares
  let unit := planned.tradingUnit
  match planned.side with
  | .sell =>
    match position with
    | none => pure (0, .positionMissing)
    | some held =>
      let candidate := min authorization (min held.totalShares held.sellableShares)
      if candidate = held.totalShares ∧ planned.targetShares = 0 then
        pure (candidate, .authorized)
      else
        let rounded := candidate - candidate % unit
        pure (rounded, if rounded < authorization then .sellableShrink else .authorized)
  | .buy =>
    let current := position.elim 0 (·.totalShares)
    let gap := min authorization (planned.targetShares - current)
    let wanted := gap - gap % unit
    if wanted = 0 then pure (0, .targetAlreadySatisfied)
    else do
      let cash := (← call p.queryAccount).availableCash.value
      let capped := min wanted (⌊cash / planned.limitPrice.value⌋).toNat
      let authorized := capped - capped % unit
      let candidate := affordable config.feeSchedule planned cash authorized authorized
      if candidate = 0 then pure (0, .cashInsufficient)
      else if candidate < authorization ∨ candidate < authorized then
        pure (candidate, .actualCashShrink)
      else pure (candidate, .authorized)

/-! ## Outcomes -/

/-- `_reason_for_state`. -/
def reasonForState (aggregate : OrderAggregate) : OutcomeReason :=
  match aggregate.state with
  | .unknown => .unresolvedUnknown
  | .cancelled => .deadlineCancelled
  | .filled => .filled
  | .partiallyFilled => .partialFill
  | .rejected => .brokerRejected
  | state => .state state

/-- `_outcome` without an aggregate. -/
def blockedOutcome (planned : PlannedOrder) (reasonCode : OutcomeReason) : ExecutionOutcome where
  uquantOrderId := planned.uquantOrderId
  executionId := none
  brokerOrderId := none
  symbol := planned.symbol
  side := planned.side
  uquantAuthorizedShares := planned.uquantAuthorizedShares
  submittedShares := 0
  submittedValue := 0
  filledShares := 0
  finalState := none
  reasonCode := reasonCode
  submitAttempts := 0
  cancelRequests := 0

/-- `_outcome` with an aggregate. -/
def outcome (planned : PlannedOrder) (aggregate : OrderAggregate) (reasonCode : OutcomeReason) :
    ExecutionOutcome where
  uquantOrderId := planned.uquantOrderId
  executionId := some aggregate.intent.executionId
  brokerOrderId := aggregate.brokerOrderId
  symbol := planned.symbol
  side := planned.side
  uquantAuthorizedShares := planned.uquantAuthorizedShares
  submittedShares := aggregate.intent.requestedShares
  submittedValue := quantizeHalfUp 4 (planned.limitPrice.value * aggregate.intent.requestedShares)
  filledShares := aggregate.filledShares
  finalState := some aggregate.state
  reasonCode := reasonCode
  submitAttempts := aggregate.submitAttempts
  cancelRequests := aggregate.cancelRequests

/-! ## The session -/

/-- The variables of the loop of `execute`. -/
structure LoopState where
  cashAfterSells : Money
  outcomes : List ExecutionOutcome
  unresolvedUnknown : Bool
  incompleteSell : Bool
  submitCalls : ℕ
  cancelCalls : ℕ

/-- The variables before the first order. -/
def LoopState.initial (openingCash : Money) : LoopState :=
  ⟨openingCash, [], false, false, 0, 0⟩

/-- Append an outcome. -/
def LoopState.record (st : LoopState) (o : ExecutionOutcome) : LoopState :=
  { st with outcomes := st.outcomes ++ [o] }

/-- `self._capability.query_account().available_cash`. -/
def availableCash : Live B Money := do
  let account ← call p.queryAccount
  pure account.availableCash

/-- `_new_aggregate`. -/
def newAggregate (planned : PlannedOrder) (shares : ℕ) (occurredAt : DateTime) :
    Live B OrderAggregate :=
  match ExecutionIntent.create
      { decisionId := planned.decisionId
        uquantOrderId := planned.uquantOrderId
        symbol := planned.symbol
        side := planned.side
        requestedShares := shares
        strategySession := planned.strategySession
        uquantSourceSha := planned.uquantSourceSha } with
  | .error failure => throw failure
  | .ok intent => inTransaction do
    let aggregate ← Ledger.appendIntent intent occurredAt
    Ledger.validateAndArm aggregate occurredAt

/-- The existing-order branch of the loop. -/
def recordExisting (st : LoopState) (planned : PlannedOrder) (existing : OrderAggregate) :
    Live B LoopState :=
  let st := { st.record (outcome planned existing (reasonForState existing)) with
    unresolvedUnknown := decide (existing.state = .unknown) }
  match planned.side with
  | .buy => pure st
  | .sell => do
    let cash ← availableCash p
    pure { st with
      incompleteSell := decide (existing.state ≠ .filled)
      cashAfterSells := cash }

/-- Submit one sized order and see it through its window; the final aggregate, its reason and
the number of cancels. -/
def submitAndFinish (planned : PlannedOrder) (shares : ℕ) :
    Live B (OrderAggregate × OutcomeReason × ℕ) := do
  let submittedMonotonic ← monotonic p
  let submittedAt ← clock p
  let armed ← newAggregate planned shares submittedAt
  let submitted ← submitLive p config armed planned
  if submitted.state = .armed then pure (submitted, .submitNotAccepted, 0)
  else if submitted.state = .unknown then pure (submitted, .unresolvedUnknown, 0)
  else do
    let final ← finishOpenOrder p config submitted submittedMonotonic planned.side
    let reason :=
      if final.state ∈ OrderState.openStates then .executionWindowIncomplete
      else reasonForState final
    pure (final, reason, final.cancelRequests - submitted.cancelRequests)

/-- The submitting branch of the loop. -/
def recordSubmitted (st : LoopState) (planned : PlannedOrder) (shares : ℕ) :
    Live B LoopState := do
  let (final, reason, cancels) ← submitAndFinish p config planned shares
  let st := { st.record (outcome planned final reason) with
    unresolvedUnknown := decide (final.state = .unknown)
    submitCalls := st.submitCalls + 1
    cancelCalls := st.cancelCalls + cancels }
  match planned.side with
  | .buy => pure st
  | .sell => do
    let cash ← availableCash p
    pure { st with
      incompleteSell := decide (final.state ≠ .filled)
      cashAfterSells := cash }

/-- The branch of the loop for an order that the deadline blocks. -/
def recordDeadlineBlocked (st : LoopState) (planned : PlannedOrder) : LoopState :=
  let st := st.record (blockedOutcome planned .blockedByGlobalExecutionDeadline)
  if planned.side = .sell then { st with incompleteSell := true } else st

/-- The branch of the loop for an order sized to nothing. -/
def recordUnsized (st : LoopState) (planned : PlannedOrder) (reason : OutcomeReason) :
    Live B LoopState :=
  let st := st.record (blockedOutcome planned reason)
  match planned.side with
  | .buy => pure st
  | .sell => do
    let cash ← availableCash p
    pure { st with incompleteSell := true, cashAfterSells := cash }

/-- The body of the loop of `execute`. -/
def executeOrder (st : LoopState) (planned : PlannedOrder) : Live B LoopState :=
  if st.unresolvedUnknown then
    pure (st.record (blockedOutcome planned .blockedByUnresolvedUnknown))
  else if planned.side = .buy ∧ st.incompleteSell then
    pure (st.record (blockedOutcome planned .blockedByIncompleteSellReduction))
  else do
    match (← get).ledger.findEconomicOrder planned.decisionId planned.uquantOrderId with
    | some existing => recordExisting p st planned existing
    | none =>
      if ← safeToStart p config planned.side then do
        let (shares, sizingReason) ← sharesForCurrentFacts p config planned
        if shares = 0 then recordUnsized p st planned sizingReason
        else recordSubmitted p config st planned shares
      else pure (recordDeadlineBlocked st planned)

/-- The loop of `execute`. -/
def executeOrders : LoopState → List PlannedOrder → Live B LoopState
  | st, [] => pure st
  | st, planned :: rest => do
    let next ← executeOrder p config st planned
    executeOrders next rest

/-- `execute`. -/
def execute (plan : ExecutionPlan) : Live B ExecutionSessionResult := do
  let openingCash ← availableCash p
  let st ← executeOrders p config (LoopState.initial openingCash) plan.orders
  let endingCash ← availableCash p
  pure
    { planId := plan.planId
      decisionId := plan.decisionId
      outcomes := st.outcomes
      openingCash := openingCash
      cashAfterSells := st.cashAfterSells
      endingCash := endingCash
      negativeCash := decide (endingCash.value < 0)
      unresolvedUnknown := st.unresolvedUnknown
      submitCalls := st.submitCalls
      cancelCalls := st.cancelCalls }

end LiveController

end FirmQuant
