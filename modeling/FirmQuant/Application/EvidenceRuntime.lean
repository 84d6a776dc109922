import FirmQuant.Application.ExecutionEvidence
import FirmQuant.Broker.PaperBroker
import FirmQuant.Execution.Planner

/-!
# Building execution evidence

`application/execution_evidence_runtime.py`: the targets, positions and counts of an observation,
and the SHADOW observation, for which a plan is executed by a paper broker.

The decimals of an observation are built as numbers, which is how their contents are compared here.
A paper broker names its orders by a digest; here by what the digest is taken of.
-/

namespace FirmQuant

open Decimal Effect

namespace Evidence

/-! ## Inputs -/

/-- The exceptions of building an observation. -/
inductive EvidenceError
  /-- `RuntimeEvidenceError`. -/
  | runtimeEvidence (message : String)
  /-- `DecisionSnapshotError`. -/
  | decisionSnapshot (message : String)
  | valueError (message : String)
  | domainValidation (message : String)
  /-- `decimal.InvalidOperation`. -/
  | invalidOperation
  | paper (failure : PaperFailure)
  /-- What a query of the broker raises. -/
  | broker (name : String)
  deriving DecidableEq, Repr

/-- The conversions of the standard library, the digests, and `shadow_execution_policy` of the
safety manifest. -/
structure EvidenceEnvironment where
  /-- `Decimal(str(value))` of a float, by its text; none of an infinite one. -/
  floatDecimal : String → Option ℚ
  /-- `Decimal` of a text; `some none` is an infinity or no number. -/
  textDecimal : String → Option (Option ℚ)
  /-- The digest of the plan and of the order. -/
  executionDigest : String → String → Digest
  paperDigests : PaperDigests
  planDigests : PlanDigests
  policy : ExecutionPolicy

/-- What the broker answers while an observation is built. -/
structure MarketReads where
  queryInstrument : Symbol → Except EvidenceError InstrumentFact
  queryQuote : Symbol → Except EvidenceError QuoteFact
  queryOrders : Except EvidenceError (List BrokerOrderFact)

/-- A check that raises `ValueError`. -/
def observed {α : Type} : Except String α → Except EvidenceError α
  | .ok a => .ok a
  | .error message => .error (.valueError message)

/-- `Side.value`. -/
def sideText : Side → String
  | .buy => "BUY"
  | .sell => "SELL"

/-! ## The decision -/

/-- The hooks of `_parse_json_object`. -/
def snapshotHooks : Json.ParseHooks EvidenceError where
  pairs members :=
    if (members.map Prod.fst).Nodup then .ok members
    else .error (.decisionSnapshot "decision snapshot contains duplicate key")
  constant value := .error (.decisionSnapshot ("decision snapshot contains " ++ value))
  malformed := .decisionSnapshot "decision snapshot is not valid JSON"
  overlong := .valueError "Exceeds the limit (4300 digits) for integer string conversion"

/-- `uquant_payload`. -/
def uquantPayload (decision : DecisionSnapshot) : Except EvidenceError Json := do
  let payload ← Json.loads snapshotHooks decision.payloadJson
  match payload with
  | .obj _ =>
    match payload.get? "uquant_payload" with
    | some (.obj members) => .ok (.obj members)
    | _ => .error (.decisionSnapshot "decision snapshot uquant payload must be an object")
  | _ => .error (.decisionSnapshot "decision snapshot root must be an object")

/-- `item.get("symbol")` of a dictionary, if it is a text. -/
def symbolText (raw : Json) : Option String :=
  match raw with
  | .obj _ =>
    match raw.get? "symbol" with
    | some (.str symbol) => some symbol
    | _ => none
  | _ => none

/-- `Symbol.parse`. -/
def parseSymbol (text : String) : Except EvidenceError Symbol :=
  match Symbol.parse text with
  | some symbol => .ok symbol
  | none => .error (.valueError "invalid A-share symbol")

variable (env : EvidenceEnvironment)

/-- `Decimal(str(raw_weight))`, or none of what is not finite. -/
def rawWeight : Option Json → Except EvidenceError (Option ℚ)
  | some (.int n) => .ok (some n)
  | some (.float text) => .ok (env.floatDecimal text)
  | some (.str text) =>
    match env.textDecimal text with
    | some value => .ok value
    | none => .error .invalidOperation
  | _ => .error (.runtimeEvidence "decision target weight is malformed")

/-- The symbol and the weight of a target of the decision. -/
def decisionTarget (raw : Json) : Except EvidenceError (Symbol × ℚ) :=
  match symbolText raw with
  | none => .error (.runtimeEvidence "decision target payload is malformed")
  | some text => do
    match ← rawWeight env (raw.get? "weight") with
    | none => .error (.runtimeEvidence "decision target weight is outside bounds")
    | some weight => do
      refuse (weight < 0 ∨ 1 < weight)
        (.runtimeEvidence "decision target weight is outside bounds")
      let symbol ← parseSymbol text
      return (symbol, weight)

/-! ## Market facts -/

/-- The facts by symbol. -/
structure MarketFacts where
  instruments : List (Symbol × InstrumentFact)
  quotes : List (Symbol × QuoteFact)

/-- `instruments.get(symbol)`. -/
def MarketFacts.instrument (market : MarketFacts) (symbol : Symbol) : Option InstrumentFact :=
  market.instruments.lookup symbol

/-- `quotes.get(symbol)`. -/
def MarketFacts.quote (market : MarketFacts) (symbol : Symbol) : Option QuoteFact :=
  market.quotes.lookup symbol

/-- One round of `_market_facts`. -/
def MarketFacts.complete (reads : MarketReads) (market : MarketFacts) (symbol : Symbol) :
    Except EvidenceError MarketFacts := do
  let instruments ← match market.instrument symbol with
    | some _ => pure market.instruments
    | none => do
      let instrument ← reads.queryInstrument symbol
      pure (market.instruments ++ [(symbol, instrument)])
  let quotes ← match market.quote symbol with
    | some _ => pure market.quotes
    | none => do
      let quote ← reads.queryQuote symbol
      pure (market.quotes ++ [(symbol, quote)])
  return ⟨instruments, quotes⟩

/-- The order of symbols. -/
def SymbolLE (a b : Symbol) : Prop := a.canonical ≤ b.canonical

instance : DecidableRel SymbolLE := fun a b =>
  inferInstanceAs (Decidable (a.canonical ≤ b.canonical))

/-- `_market_facts`. -/
def marketFacts (reads : MarketReads) (facts : ExecutionBrokerSnapshot)
    (decision : DecisionSnapshot) : Except EvidenceError MarketFacts := do
  let payload ← uquantPayload decision
  match (payload.get? "targets").getD (.arr []) with
  | .arr raw => do
    let targets ← (raw.filterMap symbolText).mapM parseSymbol
    let symbols := (facts.brokerSnapshot.positions.map (·.symbol) ++ targets).dedup
    (symbols.insertionSort SymbolLE).foldlM (MarketFacts.complete reads)
      ⟨facts.instruments.map fun item => (item.symbol, item),
        facts.quotes.map fun item => (item.symbol, item)⟩
  | _ => .error (.runtimeEvidence "decision target evidence is malformed")

/-! ## Targets and positions -/

/-- `_price_for`. -/
def priceFor (market : MarketFacts) (symbol : Symbol) :
    Option ReasonedOrder → Except EvidenceError ℚ
  | some planned => .ok planned.limitPrice.value
  | none =>
    match market.quote symbol with
    | none => .error (.runtimeEvidence ("reference quote is unavailable for " ++ symbol.canonical))
    | some quote =>
      match quote.lastPrice <|> quote.bidPrice <|> quote.askPrice <|> quote.previousClose with
      | some price => .ok price.value
      | none =>
        .error (.runtimeEvidence ("reference price is unavailable for " ++ symbol.canonical))

/-- The planned order of a symbol, the last one if there are more. -/
def plannedOrder (plan : PlanningResult) (symbol : Symbol) : Option ReasonedOrder :=
  plan.orders.reverse.find? (·.symbol = symbol)

/-- The shares that a weight of the equity pays for, in whole trading units. -/
def weightShares (equity weight reference : ℚ) (unit : ℕ) : ℕ :=
  let raw := ⌊fit (fit (equity * weight) / reference)⌋.toNat
  raw - raw % unit

/-- The targets by symbol. -/
abbrev Targets := AList fun _ : Symbol => TargetObservation ℚ

/-- The target of an entry of the decision. -/
def decidedTarget (market : MarketFacts) (plan : PlanningResult) (equity : ℚ) (targets : Targets)
    (raw : Json) : Except EvidenceError Targets := do
  let (symbol, weight) ← decisionTarget env raw
  let planned := plannedOrder plan symbol
  let reference ← priceFor market symbol planned
  match market.instrument symbol with
  | none =>
    .error (.runtimeEvidence ("instrument metadata is unavailable for " ++ symbol.canonical))
  | some instrument => do
    let shares := match planned with
      | some order => order.targetShares
      | none => weightShares equity weight reference instrument.tradingUnit
    let target ← observed (Checked.create _ ⟨symbol.canonical, shares, weight, reference⟩)
    return targets.insert symbol target

/-- The target of a planned order of a symbol that has none. -/
def orderTarget (targets : Targets) (order : ReasonedOrder) : Except EvidenceError Targets :=
  if order.symbol ∈ targets then .ok targets
  else do
    let target ← observed (Checked.create _
      ⟨order.symbol.canonical, order.targetShares, order.targetWeight, order.limitPrice.value⟩)
    return targets.insert order.symbol target

/-- The target of a position of a symbol that has none. -/
def positionTarget (market : MarketFacts) (plan : PlanningResult) (targets : Targets)
    (position : String) : Except EvidenceError Targets := do
  let symbol ← parseSymbol position
  if symbol ∈ targets then return targets
  else do
    let reference ← priceFor market symbol (plannedOrder plan symbol)
    let target ← observed (Checked.create _ ⟨symbol.canonical, 0, 0, reference⟩)
    return targets.insert symbol target

/-- The order of targets. -/
def TargetLE (a b : TargetObservation ℚ) : Prop := a.val.symbol ≤ b.val.symbol

instance : DecidableRel TargetLE := fun a b =>
  inferInstanceAs (Decidable (a.val.symbol ≤ b.val.symbol))

/-- `_target_observations`. -/
def targetObservations (decision : DecisionSnapshot) (plan : PlanningResult) (market : MarketFacts)
    (positions : List String) (equity : ℚ) : Except EvidenceError (List (TargetObservation ℚ)) := do
  refuse (equity ≤ 0) (.runtimeEvidence "target tracking requires positive portfolio equity")
  let payload ← uquantPayload decision
  match payload.get? "targets" with
  | some (.arr raw) => do
    let decided ← raw.foldlM (decidedTarget env market plan equity) ∅
    let ordered ← plan.orders.foldlM orderTarget decided
    let targets ← positions.foldlM (positionTarget market plan) ordered
    return (targets.entries.map (·.2)).insertionSort TargetLE
  | _ => .error (.runtimeEvidence "decision targets are unavailable")

/-- `_planning_blockers`. -/
def planningBlockers (plan : PlanningResult) :
    Except EvidenceError (List PlanningBlockerObservation) :=
  plan.blockers.mapM fun item =>
    observed (Checked.create _ ⟨item.uquantOrderId, item.symbol, item.reason.code⟩)

/-- The order of positions. -/
def PositionLE (a b : PositionObservation) : Prop := a.val.symbol ≤ b.val.symbol

instance : DecidableRel PositionLE := fun a b =>
  inferInstanceAs (Decidable (a.val.symbol ≤ b.val.symbol))

/-- `_positions`. -/
def positionObservations (positions : List BrokerPositionFact) :
    Except EvidenceError (List PositionObservation) := do
  let held ← (positions.filter (0 < ·.totalShares)).mapM fun item =>
    observed (Checked.create _ ⟨item.symbol.canonical, item.totalShares⟩)
  return held.insertionSort PositionLE

/-! ## Counts -/

/-- `_duplicate_economic_orders`. -/
def duplicateEconomicOrders (ledger : Ledger) : ℕ :=
  let keys := ledger.executionIntents.map fun row => (row.decisionId, row.uquantOrderId)
  keys.dedup.countP (1 < keys.count ·)

/-- The fills of a session. -/
def sessionFills (ledger : Ledger) (session : Date) : List FillRow :=
  ledger.fills.filter (·.sessionDate = session)

/-- What `_duplicate_fills` groups by, within a session. -/
def fillKey (row : FillRow) : String × Symbol × Side × ℕ × Price × DateTime :=
  (row.brokerOrderId, row.symbol, row.side, row.shares, row.price, row.eventTime)

/-- `_duplicate_fills`. -/
def duplicateFills (ledger : Ledger) (session : Date) : ℕ :=
  let keys := (sessionFills ledger session).map fillKey
  keys.dedup.countP (1 < keys.count ·)

/-- `_external_activity`. -/
def externalActivity (ledger : Ledger) (orders : List BrokerOrderFact) (session : Date) : ℕ :=
  orders.countP fun item => item.sessionDate = session ∧
    item.clientOrderId.all fun id => id ∉ ledger.executionIntents.map (·.uquantOrderId)

/-! ## The SHADOW observation -/

/-- `_blocker_from_reason`. -/
def blockerFromReason (reason : Option PaperReason) (partially : Bool) : Option BlockerCode :=
  if partially then some .volumeLimit
  else match reason with
    | none | some .filled | some .acknowledged => none
    | some .cashInsufficient => some .insufficientCash
    | some .volumeCapacityExhausted => some .volumeLimit
    | some .upperLimitBuyBlocked | some .lowerLimitSellBlocked | some .limitPriceOutOfBounds
    | some .fillPriceOutOfBounds | some .orderNotMarketable | some .slippageExceedsLimit =>
      some .priceLimit
    | some .instrumentNotTrading | some .marketNotOpen | some .t1SellableExceeded
    | some .positionInsufficient | some .bidLiquidityMissing | some .askLiquidityMissing =>
      some .nonTradable
    | some .marketFactSessionMismatch | some .priceLimitFactMissing
    | some .priceLimitFactMismatch | some .limitPricePrecisionInvalid
    | some .limitPriceTickInvalid | some .tradingUnitInvalid => some .staleQuote
    | some _ => some .unknown

/-- `_stable_execution_id`. -/
def stableExecutionId (planId orderId : String) : String :=
  "exec_" ++ env.executionDigest planId orderId

/-- What names a paper order. -/
def shadowPayload (planId : String) (planned : ReasonedOrder) : IntentPayload where
  decisionId := planId
  uquantOrderId := planned.uquantOrderId
  symbol := planned.symbol
  side := planned.side
  requestedShares := planned.uquantAuthorizedShares
  strategySession := planned.strategySession
  uquantSourceSha := planned.uquantSourceSha

/-- The command of a planned order. -/
def shadowCommand (planId : String) (planned : ReasonedOrder) : BrokerOrderCommand where
  executionId := ⟨shadowPayload planId planned⟩
  idempotencyKey := ⟨shadowPayload planId planned⟩
  clientOrderId := planned.uquantOrderId
  symbol := planned.symbol
  side := planned.side
  priceType := .limit
  requestedShares := planned.uquantAuthorizedShares
  limitPrice := planned.limitPrice
  strategySession := planned.executionSession
  requested_pos := planned.authorized_pos

/-- The check of a client order id by the constructor of a command. -/
def clientIdViolation (id : String) : Option String :=
  if id = "" ∨ strip id.toList ≠ id.toList ∨ 256 < id.length then
    some "broker command client order id must be canonical non-empty text"
  else if ∃ c ∈ id.toList, c.toNat < 32 ∨ c.toNat = 127 then
    some "broker command client order id contains control characters"
  else none

/-- What the loop over the orders carries. -/
structure ShadowTally where
  broker : PaperBroker
  orders : List (OrderObservation ℚ)
  fills : List (FillObservation ℚ)
  incompleteSell : Bool

/-- The observation of a planned order. -/
def orderObservation (planId : String) (planned : ReasonedOrder) (filled : ℕ)
    (blocker : Option BlockerCode) : Except EvidenceError (OrderObservation ℚ) :=
  observed (Checked.create _ {
    executionId := stableExecutionId env planId planned.uquantOrderId
    uquantOrderId := planned.uquantOrderId
    symbol := planned.symbol.canonical
    side := sideText planned.side
    plannedShares := planned.uquantAuthorizedShares
    filledShares := filled
    referencePrice := planned.limitPrice.value
    blocker := blocker })

/-- The observation of a paper fill. -/
def shadowFill (planId : String) (planned : ReasonedOrder) (fill : BrokerFillFact) :
    Except EvidenceError (FillObservation ℚ) :=
  observed (Checked.create _ {
    fillId := none
    executionId := stableExecutionId env planId planned.uquantOrderId
    symbol := fill.symbol.canonical
    side := sideText fill.side
    shares := fill.shares
    price := fill.price.value
    commission := fill.commission.value
    stampDuty := fill.stampDuty.value
    transferFee := fill.transferFee.value
    slippage := fit (|fit (fill.price.value - planned.limitPrice.value)| * fill.shares) })

/-- One round of the loop over the orders. -/
def shadowOrder (planId : String) (tally : ShadowTally) (planned : ReasonedOrder) :
    Except EvidenceError ShadowTally :=
  if planned.side = .buy ∧ tally.incompleteSell = true then do
    let order ← orderObservation env planId planned 0 (some .incompleteSell)
    return { tally with orders := tally.orders ++ [order] }
  else
    match clientIdViolation planned.uquantOrderId with
    | some message => .error (.domainValidation message)
    | none =>
      match PaperBroker.submitOrder (shadowCommand planId planned) tally.broker with
      | .error failure _ => .error (.paper failure)
      | .ok result broker => do
        let reason := broker.reasons.lookup result.brokerOrderId
        let partially := decide
          (0 < result.filledShares ∧ result.filledShares < planned.uquantAuthorizedShares)
        let order ← orderObservation env planId planned result.filledShares
          (blockerFromReason reason partially)
        let fills ← (broker.fills.filter (·.brokerOrderId = result.brokerOrderId)).mapM
          (shadowFill env planId planned)
        return {
          broker := broker
          orders := tally.orders ++ [order]
          fills := tally.fills ++ fills
          incompleteSell := tally.incompleteSell ||
            decide (planned.side = .sell ∧ result.status ≠ .filled) }

/-- The deployment that an observation names. -/
structure DeploymentIdentity where
  firmquantCommit : String
  uquantCommit : String
  promotionConfigSha256 : String
  calendarSha256 : String
  deriving DecidableEq

/-- The paper broker of a SHADOW session. -/
def shadowBroker (facts : ExecutionBrokerSnapshot) (market : MarketFacts) (createdAt : DateTime) :
    Except EvidenceError PaperBroker :=
  match PaperBroker.create facts.brokerSnapshot.account facts.brokerSnapshot.positions
      (market.instruments.map (·.2)) (market.quotes.map (·.2)) facts.marketStatus env.policy
      env.paperDigests (fun _ => createdAt) with
  | .ok broker => .ok { broker with connected := true }
  | .error message => .error (.domainValidation message)

/-- `build_shadow_observation`. -/
def buildShadowObservation (ledger : Ledger) (reads : MarketReads)
    (facts : ExecutionBrokerSnapshot) (plan : PlanningResult) (decision : DecisionSnapshot)
    (deployment : DeploymentIdentity) (createdAt : DateTime) :
    Except EvidenceError (ExecutionObservation ℚ Date DateTime) := do
  refuse (facts.brokerSnapshot.sessionDate ≠ plan.executionSession)
    (.runtimeEvidence "SHADOW plan and broker snapshot sessions differ")
  let market ← marketFacts reads facts decision
  let broker ← shadowBroker env facts market createdAt
  let tally ← plan.orders.foldlM (shadowOrder env plan.planId) ⟨broker, [], [], false⟩
  let hypothetical ← positionObservations (tally.broker.positions.entries.map (·.2))
  let actual ← positionObservations facts.brokerSnapshot.positions
  let equity := facts.brokerSnapshot.account.totalAssets.value
  let held := ((actual ++ hypothetical).map (·.val.symbol)).eraseDups
  let targets ← targetObservations env decision plan market held equity
  let orders ← reads.queryOrders
  let identity ← observed (Checked.create _ {
    stage := .shadow
    executionSession := plan.executionSession
    firmquantCommit := deployment.firmquantCommit
    uquantCommit := deployment.uquantCommit
    promotionConfigSha256 := deployment.promotionConfigSha256
    accountSha256 := facts.brokerSnapshot.account.accountIdHash
    dataSha256 := decision.dataManifestSha256
    calendarSha256 := deployment.calendarSha256 })
  let blockers ← planningBlockers plan
  observed (Checked.create _ {
    identity := identity
    decisionId := decision.decisionId
    planId := plan.planId
    portfolioEquity := equity
    plannedOrders := tally.orders
    planningBlockers := blockers
    targets := targets
    fills := tally.fills
    actualEndingPositions := actual
    hypotheticalEndingPositions := hypothetical
    submitCount := 0
    cancelCount := 0
    rejectionCount := 0
    unknownCount := ledger.countStates [.submitting, .cancelRequested, .unknown]
    externalActivity := externalActivity ledger orders plan.executionSession
    duplicateEconomicOrders := duplicateEconomicOrders ledger
    duplicateFills := duplicateFills ledger plan.executionSession
    dataQualityFailures := 0
    createdAt := createdAt })

end Evidence

end FirmQuant
