import FirmQuant.Execution.LiveController
import FirmQuant.Risk.Capability

/-!
# The production write capability

`ProductionServiceHooks._capability` of `application/production_services.py`: the context that
is assembled anew for every broker write, from the broker, the ledger and about ten readings of
the wall clock, and the capability that authorizes a write with it.

The wall clock is a function of the number of readings made so far, so that it may advance
between any two of them.  The broker adapter stamps health, quotes, orders, fills and
instruments with readings of the same clock; its answers are otherwise arbitrary.  What the
hooks read outside the order tables and the broker (account file, snapshots, configuration,
data manifest, universe, calendar) are ports as well.
-/

namespace FirmQuant

open Effect

/-! ## Snapshots -/

/-- A complete broker snapshot.  Its id and digest are functions of these fields. -/
structure BrokerSnapshot where
  account : BrokerAccountFact
  positions : List BrokerPositionFact
  orders : List BrokerOrderFact
  fills : List BrokerFillFact
  sessionDate : Date
  capturedAt : DateTime
  brokerEventWatermark : ℕ
  deriving DecidableEq

/-- One read of the snapshot collector. -/
structure SnapshotRead where
  account : BrokerAccountFact
  positions : List BrokerPositionFact
  orders : List BrokerOrderFact
  fills : List BrokerFillFact

/-- The part of an order that a snapshot's signature covers. -/
structure OrderSignature where
  brokerOrderId : String
  clientOrderId : Option String
  symbol : Symbol
  side : Side
  status : BrokerOrderStatus
  requestedShares : ℕ
  filledShares : ℕ
  limitPrice : Price
  eventSequence : ℕ
  deriving DecidableEq

/-- The part of a fill that a snapshot's signature covers. -/
structure FillSignature where
  brokerFillId : String
  brokerOrderId : String
  symbol : Symbol
  side : Side
  shares : ℕ
  price : Price
  commission : Money
  stampDuty : Money
  transferFee : Money
  eventSequence : ℕ
  deriving DecidableEq

/-- Every quantity and lifecycle fact of a read, and no mark-to-market value. -/
structure QuantitySignature where
  accountIdHash : String
  accountType : AccountType
  availableCash : Money
  positions : List (Symbol × ℕ × ℕ × Option Price)
  orders : List OrderSignature
  fills : List FillSignature
  deriving DecidableEq

namespace SnapshotRead

/-- The positions in the order of their symbols. -/
def sortedPositions (read : SnapshotRead) : List BrokerPositionFact :=
  read.positions.insertionSort fun a b => ¬ b.symbol.canonical < a.symbol.canonical

/-- The orders in the order of their ids. -/
def sortedOrders (read : SnapshotRead) : List BrokerOrderFact :=
  read.orders.insertionSort fun a b => ¬ b.brokerOrderId < a.brokerOrderId

/-- The fills in the order of their ids. -/
def sortedFills (read : SnapshotRead) : List BrokerFillFact :=
  read.fills.insertionSort fun a b => ¬ b.brokerFillId < a.brokerFillId

/-- `_quantity_signature`, what it hashes. -/
def quantitySignature (read : SnapshotRead) : QuantitySignature where
  accountIdHash := read.account.accountIdHash
  accountType := read.account.accountType
  availableCash := read.account.availableCash
  positions := read.sortedPositions.map fun item =>
    (item.symbol, item.totalShares, item.sellableShares, item.averageCost)
  orders := read.sortedOrders.map fun item =>
    ⟨item.brokerOrderId, item.clientOrderId, item.symbol, item.side, item.status,
      item.requestedShares, item.filledShares, item.limitPrice, item.eventSequence⟩
  fills := read.sortedFills.map fun item =>
    ⟨item.brokerFillId, item.brokerOrderId, item.symbol, item.side, item.shares, item.price,
      item.commission, item.stampDuty, item.transferFee, item.eventSequence⟩

end SnapshotRead

/-! ## The outside of the hooks -/

/-- The broker and the other facts that the hooks read. -/
structure HookPorts (B : Type) where
  monotonicClock : B → ℚ × B
  sleep : ℚ → B → B
  leaseCheck : B → Except Failure PUnit × B
  /-- Health without its observation time. -/
  health : B → (Bool × Bool × Bool) × B
  queryAccount : B → Except Failure BrokerAccountFact × B
  queryPositions : B → Except Failure (List BrokerPositionFact) × B
  queryOrders : B → Except Failure (List BrokerOrderFact) × B
  queryFills : B → Except Failure (List BrokerFillFact) × B
  queryInstrument : Symbol → B → Except Failure InstrumentFact × B
  queryQuote : Symbol → B → Except Failure QuoteFact × B
  queryMarketStatus : B → Except Failure MarketSessionStatus × B
  submitOrder : BrokerOrderCommand → B → Except Failure BrokerOrderFact × B
  cancelOrder : String → B → Except Failure BrokerOrderFact × B
  persistSnapshot : BrokerSnapshot → B → Except Failure PUnit × B
  /-- `_account_risk_fractions`: equity change, intraday loss and capital drawdown. -/
  accountRiskFractions : BrokerSnapshot → B → Except Failure (ℚ × ℚ × ℚ) × B
  dataIdentityMatches : B → Except Failure Bool × B
  configIdentityMatches : B → Except Failure Bool × B
  uquantIdentityMatches : B → Except Failure Bool × B

/-- What the decision payload says about risk; `none` stands for a payload that is malformed. -/
structure DecisionRisk where
  targetGross : ℚ
  targetGrossCap : ℚ
  freezeNewRisk : Bool

/-- The fixed parts of the hooks and of one execution. -/
structure HookEnv (B : Type) where
  ports : HookPorts B
  /-- The wall clock, by the number of readings made before. -/
  wallClock : ℕ → DateTime
  settings : Settings
  limits : RiskLimits
  feeSchedule : FeeSchedule
  service : ArmService
  lease : ArmLease
  binding : ArmBinding
  runtimeState : RuntimeState
  killSwitchTripped : Bool
  startupReconciled : Bool
  deploymentSymbols : List Symbol
  symbolAllowed : Symbol → Date → Bool
  isTradingSession : Date → Bool
  plan : ExecutionPlan
  decisionRisk : Option DecisionRisk
  reconciliationPassed : Bool
  unexplainedPositionChange : Bool
  corporateActionSuspected : Bool
  maxVolumeParticipation : ℚ

/-- A write that reached the broker gateway. -/
inductive GatewayWrite
  | submitOrder (command : BrokerOrderCommand)
  | cancelOrder (brokerOrderId : String)
  deriving DecidableEq

/-- The state of the hooks outside the order tables. -/
structure HookState (B : Type) where
  outside : B
  /-- The number of wall-clock readings made so far. -/
  readings : ℕ
  lastMonotonic : Option ℚ
  disconnectStarted : Option ℚ
  gatewayWrites : List GatewayWrite

/-- A program of the hooks. -/
abbrev Hooks (B : Type) := EStateM Failure (HookState B)

namespace Hooks

variable {B : Type} (env : HookEnv B)

/-! ## Readings and queries -/

/-- Ask a port that may raise. -/
def call {α : Type} (port : B → Except Failure α × B) : Hooks B α := fun s =>
  match port s.outside with
  | (.ok a, b) => .ok a { s with outside := b }
  | (.error failure, b) => .error failure { s with outside := b }

/-- One reading of the wall clock, by the hooks or by the broker adapter. -/
def now : Hooks B DateTime := fun s =>
  .ok (env.wallClock s.readings) { s with readings := s.readings + 1 }

/-- `_monotonic` of the hooks. -/
def monotonic : Hooks B ℚ := do
  let observed ← call fun b => (.ok (env.ports.monotonicClock b).1, (env.ports.monotonicClock b).2)
  let last := (← get).lastMonotonic
  if observed < 0 ∨ ∃ previous ∈ last, observed < previous then
    throw (.productionServicesUnavailable "MONOTONIC_CLOCK_ROLLBACK")
  else do
    modify fun s => { s with lastMonotonic := some observed }
    pure observed

/-- `broker.health()`, stamped when it is built. -/
def health : Hooks B BrokerHealth := do
  let (connected, readable, writable) ←
    call fun b => (.ok (env.ports.health b).1, (env.ports.health b).2)
  let observedAt ← now env
  pure
    { connected := connected
      readHealthy := connected && readable
      writeHealthy := connected && readable && writable
      observedAt := observedAt
      disconnected_unhealthy := by rintro rfl; simp
      write_needs_read := by simp +contextual }

/-- `broker.query_orders()`, which reads the clock before it asks. -/
def queryOrders : Hooks B (List BrokerOrderFact) := do
  let _ ← now env
  call env.ports.queryOrders

/-- `broker.query_fills()`. -/
def queryFills : Hooks B (List BrokerFillFact) := do
  let _ ← now env
  call env.ports.queryFills

/-- `broker.query_instrument(symbol)`. -/
def queryInstrument (symbol : Symbol) : Hooks B InstrumentFact := do
  let observedAt ← now env
  let fact ← call (env.ports.queryInstrument symbol)
  pure { fact with observedAt := observedAt }

/-- `broker.query_quote(symbol)`, stamped with the reading made before the tick is asked for. -/
def queryQuote (symbol : Symbol) : Hooks B QuoteFact := do
  let receivedAt ← now env
  let fact ← call (env.ports.queryQuote symbol)
  pure { fact with receivedAt := receivedAt }

/-- `_clock_receipt`. -/
def clockReceipt (symbol : Symbol) : Hooks B ClockReceipt := do
  let systemTime ← now env
  let quote ← queryQuote env symbol
  match ClockGuard.verify (seconds env.settings.execution.maxClockDriftSeconds) systemTime
      quote.eventTime with
  | some receipt => pure receipt
  | none => throw (.productionServicesUnavailable "CLOCK_DRIFT_UNVERIFIED")

/-- `_disconnect_duration`. -/
def disconnectDuration (connected : Bool) : Hooks B Duration := do
  let observed ← monotonic env
  if connected then
    modify fun s => { s with disconnectStarted := none }
    pure 0
  else
    let started := (← get).disconnectStarted.getD observed
    modify fun s => { s with disconnectStarted := some started }
    pure ⌊(observed - started) * 1000000⌋

/-! ## The snapshot -/

/-- `ProductionSnapshotCollector._read`. -/
def readSnapshot : Hooks B SnapshotRead := do
  let account ← call env.ports.queryAccount
  let positions ← call env.ports.queryPositions
  let orders ← queryOrders env
  let fills ← queryFills env
  pure ⟨account, positions, orders, fills⟩

/-- The snapshot of a stable read, with the checks of its constructor. -/
def snapshotOf (read : SnapshotRead) (capturedAt : DateTime) : Except Failure BrokerSnapshot :=
  if ¬ (read.positions.map (·.symbol)).Nodup then
    .error (.domainValidationError "broker snapshot contains duplicate position symbols")
  else if ¬ (read.orders.map (·.brokerOrderId)).Nodup then
    .error (.domainValidationError "broker snapshot contains duplicate broker order ids")
  else if ¬ (read.fills.map (·.brokerFillId)).Nodup then
    .error (.domainValidationError "broker snapshot contains duplicate broker fill ids")
  else
    .ok
      { account := read.account
        positions := read.sortedPositions
        orders := read.sortedOrders
        fills := read.sortedFills
        sessionDate := shanghaiDate capturedAt
        capturedAt := capturedAt
        brokerEventWatermark := ((read.orders.map (·.eventSequence)) ++
          (read.fills.map (·.eventSequence))).foldr max 0 }

/-- `ProductionSnapshotCollector.capture` with the given number of attempts left. -/
def captureSnapshot : ℕ → Hooks B BrokerSnapshot
  | 0 => throw (.runtimeError "broker facts did not stabilize within bounded attempts")
  | attempts + 1 => do
    let first ← readSnapshot env
    let second ← readSnapshot env
    if first.account.accountIdHash ≠ second.account.accountIdHash ∨
        first.account.accountType ≠ second.account.accountType then
      throw (.runtimeError "broker account identity changed during snapshot")
    else if first.quantitySignature ≠ second.quantitySignature then
      captureSnapshot attempts
    else do
      let capturedAt ← now env
      match snapshotOf second capturedAt with
      | .ok snapshot => pure snapshot
      | .error failure => throw failure

/-- `_capture`. -/
def capture : Hooks B BrokerSnapshot := do
  let snapshot ← captureSnapshot env 3
  call (env.ports.persistSnapshot snapshot)
  pure snapshot

/-! ## Ledger queries -/

/-- Midnight of the day of a UTC time. -/
def utcMidnight (t : DateTime) : DateTime := t - t % day

/-- The broker attempts started since midnight. -/
def attemptCount (ledger : Ledger) (capturedAt : DateTime) : ℕ :=
  ledger.attempts.countP fun row => utcMidnight capturedAt ≤ row.startedAt

/-- `_known_client_ids` and the test of an order against them. -/
def isExternal (ledger : Ledger) (order : BrokerOrderFact) : Bool :=
  match order.clientOrderId with
  | none => true
  | some clientOrderId => ¬ ledger.executionIntents.any (·.uquantOrderId = clientOrderId)

/-- `_system_cancel_allowed`. -/
def systemCancelAllowed (ledger : Ledger) (brokerOrderId : String) : Bool :=
  (ledger.brokerOrders.find? (·.brokerOrderId = brokerOrderId)).any (·.ownership = .system)

/-- `_notionals`: submitted and filled value of the session's own orders. -/
def notionals (ledger : Ledger) (session : Date) : Except Failure (ℚ × ℚ) :=
  let rows := ledger.brokerOrders.filter fun row =>
    row.sessionDate = session ∧ row.ownership = .system
  if rows.any (·.limitPrice = none) then
    .error (.productionServicesUnavailable "BROKER_ORDER_PRICE_MISSING")
  else
    .ok ((rows.map fun row => (row.requestedShares : ℚ) * row.limitPrice.elim 0 (·.value)).sum,
      (rows.map fun row => (row.filledShares : ℚ) * row.limitPrice.elim 0 (·.value)).sum)

/-- `Money` of a computed amount, which refuses a negative one. -/
def toMoney (value : ℚ) : Except Failure Money :=
  if h : 0 ≤ value then .ok ⟨value, h⟩
  else .error (.domainValidationError "money must be nonnegative")

/-- `_existing_order_age`. -/
def existingOrderAge (ledger : Ledger) (observed : DateTime) : Except Failure (Option Duration) :=
  let created := (ledger.executionIntents.filter fun row =>
    row.state ∈ [OrderState.submitting, .acknowledged, .partiallyFilled, .cancelRequested,
      .unknown]).map (·.createdAt)
  match created.min? with
  | none => .ok none
  | some createdAt =>
    if observed < createdAt then
      .error (.productionServicesUnavailable "EXISTING_ORDER_TIME_INVALID")
    else .ok (some (observed - createdAt))

/-- Raise the failure of a pure computation. -/
def lift {α : Type} : Except Failure α → Hooks B α
  | .ok a => pure a
  | .error failure => throw failure

/-! ## Contexts -/

/-- The planned order of a command, the last one if an id is planned twice. -/
def plannedOf (clientOrderId : String) : Option PlannedOrder :=
  env.plan.orders.reverse.find? (·.uquantOrderId = clientOrderId)

/-- What `_risk_context` takes from the decision payload. -/
def decisionRisk : Hooks B DecisionRisk :=
  match env.decisionRisk with
  | some decision => pure decision
  | none => throw (.productionServicesUnavailable "DECISION_RISK_PAYLOAD_INVALID")

/-- `_risk_context`. -/
def riskContext (ledger : Ledger) (command : BrokerOrderCommand) (planned : PlannedOrder)
    (snapshot : BrokerSnapshot) : Hooks B ExecutionRiskContext := do
  let position := snapshot.positions.find? (·.symbol = command.symbol)
  let decision ← decisionRisk env
  let (submitted, filled) ← lift (notionals ledger planned.executionSession)
  let submitted ← lift (toMoney submitted)
  let filled ← lift (toMoney filled)
  let (equityChange, intradayLoss, drawdown) ← call (env.ports.accountRiskFractions snapshot)
  let attempts := attemptCount ledger snapshot.capturedAt
  let observedHealth ← health env
  let observedNow ← now env
  let receipt ← clockReceipt env command.symbol
  let age ← lift (existingOrderAge ledger observedNow)
  let disconnected ← disconnectDuration env observedHealth.connected
  let gross ← lift (toMoney (snapshot.positions.map (·.marketValue.value)).sum)
  let instrument ← queryInstrument env command.symbol
  let quote ← queryQuote env command.symbol
  let marketStatus ← call env.ports.queryMarketStatus
  let external ← queryOrders env
  let dataMatches ← call env.ports.dataIdentityMatches
  let configMatches ← call env.ports.configIdentityMatches
  pure
    { mode := env.settings.mode
      runtimeState := env.runtimeState
      now := observedNow
      accountType := snapshot.account.accountType
      availableCash := snapshot.account.availableCash
      totalAssets := snapshot.account.totalAssets
      position := position
      instrument := some instrument
      quote := some quote
      marketStatus := marketStatus
      canonicalUniverse := env.deploymentSymbols
      deploymentAllowlist := env.deploymentSymbols
      uquantTargetShares := planned.targetShares
      uquantTargetWeight := planned.targetWeight
      uquantTargetGross := decision.targetGross
      uquantTargetGrossCap := decision.targetGrossCap
      freezeNewRisk := decision.freezeNewRisk
      actualSymbolNotional := position.elim Money.zero (·.marketValue)
      actualGrossNotional := gross
      dailySubmittedNotional := submitted
      dailyFilledNotional := filled
      openOrderCount := ledger.countStates
        [.submitting, .acknowledged, .partiallyFilled, .cancelRequested]
      consecutiveRejections := ledger.executionIntents.countP fun row =>
        row.state = .rejected ∧ row.strategySession = planned.strategySession
      brokerConnected := observedHealth.connected
      disconnectDuration := some disconnected
      existingOrderAge := age
      submitCountWindow := attempts
      cancelCountWindow := attempts
      uquantMaxVolumeParticipation := env.maxVolumeParticipation
      equityChangeFraction := equityChange
      intradayLossFraction := intradayLoss
      capitalDrawdownFraction := drawdown
      reconciliationHealthy := env.reconciliationPassed
      externalActiveOrderCount := external.countP fun order => isExternal ledger order = true
      unexplainedPositionChange := some env.unexplainedPositionChange
      corporateActionSuspected := some env.corporateActionSuspected
      clockDrift := some (receipt.driftMilliseconds * 1000)
      dataIdentityMatches := dataMatches
      configIdentityMatches := configMatches
      unresolvedOrderCount := ledger.countStates [.submitting, .cancelRequested, .unknown]
      killSwitchTripped := env.killSwitchTripped
      auctionAllowed := false
      limits := env.limits }

/-- What the branch of `context_provider` for the subject finds out. -/
structure SubjectFacts where
  gateDecision : Option GateDecision
  quoteTime : DateTime
  clockReceipt : Option ClockReceipt
  symbolAllowed : Bool
  commandWithin : Bool
  cancelApproved : Bool

/-- The branch of `context_provider` for a command. -/
def commandFacts (ledger : Ledger) (command : BrokerOrderCommand) (snapshot : BrokerSnapshot) :
    Hooks B SubjectFacts :=
  match plannedOf env command.clientOrderId with
  | none => pure ⟨none, snapshot.capturedAt, none, true, false, true⟩
  | some planned => do
    let context ← riskContext env ledger command planned snapshot
    let decision ← lift (ExecutionRiskGate.evaluate
      ⟨command, planned.uquantAuthorizedShares,
        env.feeSchedule.total command.side command.limitPrice command.requestedShares⟩ context)
    let quote ← queryQuote env command.symbol
    let receipt ← clockReceipt env command.symbol
    pure ⟨some decision, quote.receivedAt, some receipt,
      env.symbolAllowed command.symbol planned.executionSession,
      decide (command.requestedShares ≤ planned.uquantAuthorizedShares), true⟩

/-- The branch of `context_provider` for a cancel. -/
def cancelFacts (ledger : Ledger) (brokerOrderId : String) (snapshot : BrokerSnapshot) :
    Hooks B SubjectFacts :=
  match snapshot.orders.find? (·.brokerOrderId = brokerOrderId) with
  | none => pure ⟨none, snapshot.capturedAt, none, true, true, false⟩
  | some order => do
    let quote ← queryQuote env order.symbol
    let receipt ← clockReceipt env order.symbol
    pure ⟨none, quote.receivedAt, some receipt, env.symbolAllowed order.symbol snapshot.sessionDate,
      true, systemCancelAllowed ledger brokerOrderId⟩

/-- The branches of `context_provider`. -/
def subjectFacts (ledger : Ledger) (operation : WriteOperation) (subject : WriteSubject)
    (snapshot : BrokerSnapshot) : Hooks B SubjectFacts :=
  match subject with
  | .command command => commandFacts env ledger command snapshot
  | .brokerOrder brokerOrderId =>
    if operation = .cancel then cancelFacts env ledger brokerOrderId snapshot
    else pure ⟨none, snapshot.capturedAt, none, true, true, true⟩
  | .nothing => pure ⟨none, snapshot.capturedAt, none, true, true, true⟩

/-- `context_provider`. -/
def contextProvider (ledger : Ledger) (operation : WriteOperation) (subject : WriteSubject) :
    Hooks B WriteAuthorizationContext := do
  let started ← now env
  let snapshot ← capture env
  let facts ← subjectFacts env ledger operation subject snapshot
  let attempts := attemptCount ledger snapshot.capturedAt
  let observedHealth ← health env
  let marketStatus ← call env.ports.queryMarketStatus
  let configMatches ← call env.ports.configIdentityMatches
  let uquantMatches ← call env.ports.uquantIdentityMatches
  pure
    { settings := env.settings
      lease := some env.lease
      binding := env.binding
      now := started
      runtimeState := env.runtimeState
      brokerHealth := observedHealth
      startupReconciliationPassed := env.startupReconciled
      brokerSnapshotReceivedAt := some snapshot.capturedAt
      maxBrokerSnapshotAge := seconds env.settings.execution.maxQuoteAgeSeconds
      quoteReceivedAt := some facts.quoteTime
      maxQuoteAge := seconds env.settings.execution.maxQuoteAgeSeconds
      sessionValid := env.isTradingSession env.plan.executionSession
      marketStatus := marketStatus
      fingerprintsMatch := configMatches && uquantMatches
      killSwitchTripped := env.killSwitchTripped
      unresolvedOrderCount := ledger.countStates [.cancelRequested, .unknown]
      submittingUnresolvedCount := ledger.countStates [.submitting]
      reconciliationMismatch := !env.reconciliationPassed
      externalActivityDetected := snapshot.orders.any (isExternal ledger)
      gateDecision := facts.gateDecision
      cancelRiskApproved := facts.cancelApproved
      symbolInCanonicalUniverse := facts.symbolAllowed
      symbolInDeploymentAllowlist := facts.symbolAllowed
      commandWithinUquantIntent := facts.commandWithin
      cashAndPositionsSafe := env.reconciliationPassed &&
        decide (0 ≤ snapshot.account.availableCash.value) &&
        snapshot.positions.all fun item => item.sellableShares ≤ item.totalShares
      frequencyWithinLimits :=
        decide (attempts < env.settings.execution.maxSubmitCountWindow) &&
          decide (attempts < env.settings.execution.maxCancelCountWindow)
      clockReceipt := facts.clockReceipt }

/-! ## The capability -/

/-- `BrokerWriteCapability._authorize`. -/
def authorize (ledger : Ledger) (operation : WriteOperation) (subject : WriteSubject) :
    Hooks B PUnit := do
  let context ← tryCatch (contextProvider env ledger operation subject) fun _ =>
    throw (.writeCapabilityDenied [.authorizationContextUnavailable])
  lift (Authorizer.authorize env.service context operation subject)

/-- A call of the broker gateway that writes. -/
def gatewayWrite (write : GatewayWrite) (port : B → Except Failure BrokerOrderFact × B) :
    Hooks B BrokerOrderFact := do
  modify fun s => { s with gatewayWrites := s.gatewayWrites ++ [write] }
  call port

/-- `BrokerWriteCapability.submit_order`. -/
def submitOrder (ledger : Ledger) (command : BrokerOrderCommand) : Hooks B BrokerOrderFact := do
  authorize env ledger .submit (.command command)
  gatewayWrite (.submitOrder command) (env.ports.submitOrder command)

/-- `BrokerWriteCapability.cancel_order`. -/
def cancelOrder (ledger : Ledger) (brokerOrderId : String) : Hooks B BrokerOrderFact := do
  authorize env ledger .cancel (.brokerOrder brokerOrderId)
  gatewayWrite (.cancelOrder brokerOrderId) (env.ports.cancelOrder brokerOrderId)

/-- A program of the hooks as a port of the controller. -/
def asPort {α : Type} (x : Hooks B α) (s : HookState B) : Except Failure α × HookState B :=
  match x s with
  | .ok a s' => (.ok a, s')
  | .error failure s' => (.error failure, s')

/-- The outside that `_execute` gives to the live controller. -/
def livePorts : Ports (HookState B) where
  clock s := (env.wallClock s.readings, { s with readings := s.readings + 1 })
  monotonicClock s :=
    ((env.ports.monotonicClock s.outside).1,
      { s with outside := (env.ports.monotonicClock s.outside).2 })
  sleep duration s := { s with outside := env.ports.sleep duration s.outside }
  leaseCheck := asPort (call env.ports.leaseCheck)
  queryAccount := asPort (call env.ports.queryAccount)
  queryPositions := asPort (call env.ports.queryPositions)
  queryOrders := asPort (queryOrders env)
  queryFills := asPort (queryFills env)
  submitOrder ledger command := asPort (submitOrder env ledger command)
  cancelOrder ledger brokerOrderId := asPort (cancelOrder env ledger brokerOrderId)

end Hooks

end FirmQuant
