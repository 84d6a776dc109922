import FirmQuant.Execution.Plan

/-!
# The execution risk gate

`ExecutionRiskGate.evaluate` of `risk/gate.py`: halting facts first, then blocking facts, then
delaying facts, and only then the quantity, which is never increased.
-/

namespace FirmQuant

/-- One reason if its condition holds. -/
def flag (condition : Prop) [Decidable condition] (reason : ReasonCode) : List ReasonCode :=
  if condition then [reason] else []

@[simp] lemma mem_flag {condition : Prop} [Decidable condition] {reason r : ReasonCode} :
    r ∈ flag condition reason ↔ condition ∧ r = reason := by
  unfold flag
  split <;> simp_all

lemma flag_eq_nil {condition : Prop} [Decidable condition] {reason : ReasonCode} :
    flag condition reason = [] ↔ ¬ condition := by
  unfold flag
  split <;> simp_all

/-- `GateAction`. -/
inductive GateAction
  | allow | shrink | delay | block | halt
  deriving DecidableEq, Repr

/-- `RiskCommand`. -/
structure RiskCommand where
  command : BrokerOrderCommand
  uquantAuthorizedShares : ℕ
  estimatedFees : Money

/-- `RiskLimits`. -/
structure RiskLimits where
  maxOrderNotional : Money
  maxDailySubmittedNotional : Money
  maxDailyFilledNotional : Money
  maxSymbolNotional : Money
  maxTotalGrossNotional : Money
  maxOpenOrders : ℕ
  maxConsecutiveRejections : ℕ
  maxDisconnectDuration : Duration
  maxOrderLifetime : Duration
  maxSubmitCountWindow : ℕ
  maxCancelCountWindow : ℕ
  maxQuoteAge : Duration
  maxClockDrift : Duration
  maxPriceDeviationBps : ℚ
  maxEquityChangeFraction : ℚ
  maxIntradayLossFraction : ℚ
  maxCapitalDrawdownFraction : ℚ

/-- `ExecutionRiskContext`. -/
structure ExecutionRiskContext where
  mode : Mode
  runtimeState : RuntimeState
  now : DateTime
  accountType : AccountType
  availableCash : Money
  totalAssets : Money
  position : Option BrokerPositionFact
  instrument : Option InstrumentFact
  quote : Option QuoteFact
  marketStatus : MarketSessionStatus
  canonicalUniverse : List Symbol
  deploymentAllowlist : List Symbol
  uquantTargetShares : ℕ
  uquantTargetWeight : ℚ
  uquantTargetGross : ℚ
  uquantTargetGrossCap : ℚ
  freezeNewRisk : Bool
  actualSymbolNotional : Money
  actualGrossNotional : Money
  dailySubmittedNotional : Money
  dailyFilledNotional : Money
  openOrderCount : ℕ
  consecutiveRejections : ℕ
  brokerConnected : Bool
  disconnectDuration : Option Duration
  existingOrderAge : Option Duration
  submitCountWindow : ℕ
  cancelCountWindow : ℕ
  uquantMaxVolumeParticipation : ℚ
  equityChangeFraction : ℚ
  intradayLossFraction : ℚ
  capitalDrawdownFraction : ℚ
  reconciliationHealthy : Bool
  externalActiveOrderCount : ℕ
  unexplainedPositionChange : Option Bool
  corporateActionSuspected : Option Bool
  clockDrift : Option Duration
  dataIdentityMatches : Bool
  configIdentityMatches : Bool
  unresolvedOrderCount : ℕ
  killSwitchTripped : Bool
  auctionAllowed : Bool
  limits : RiskLimits

/-- `GateDecision`; an action that authorizes nothing carries no shares. -/
structure GateDecision where
  action : GateAction
  authorizedShares : ℕ
  reasonCodes : List ReasonCode
  deriving DecidableEq

namespace ExecutionRiskGate

/-- `_zero`. -/
def zero (action : GateAction) (reasons : List ReasonCode) : GateDecision :=
  ⟨action, 0, reasons.eraseDups⟩

/-- `_max_shares_for_notional`. -/
def maxSharesForNotional (notional price : ℚ) : ℤ :=
  if notional ≤ 0 then 0 else ⌊notional / price⌋

/-- An optional fact that must be known and must be false. -/
def refuted (fact : Option Bool) (unverified holds : ReasonCode) : List ReasonCode :=
  match fact with
  | none => [unverified]
  | some value => flag (value = true) holds

/-- An optional duration that must be known and must not exceed a limit. -/
def bounded (value : Option Duration) (limit : Duration) (unverified exceeded : ReasonCode) :
    List ReasonCode :=
  match value with
  | none => [unverified]
  | some duration => flag (limit < duration) exceeded

/-- The facts that halt. -/
def haltReasons (command : RiskCommand) (context : ExecutionRiskContext) : List ReasonCode :=
  let limits := context.limits
  flag (context.killSwitchTripped = true) .killSwitchTripped ++
  flag (context.dataIdentityMatches = false) .dataIdentityDrift ++
  flag (context.configIdentityMatches = false) .configIdentityDrift ++
  flag (0 < context.unresolvedOrderCount) .unresolvedOrderState ++
  flag (context.reconciliationHealthy = false) .reconciliationUnhealthy ++
  flag (0 < context.externalActiveOrderCount) .externalActiveOrder ++
  refuted context.unexplainedPositionChange .positionChangeUnverified .unexplainedPositionChange ++
  refuted context.corporateActionSuspected .corporateActionUnverified .corporateActionSuspected ++
  flag (limits.maxConsecutiveRejections ≤ context.consecutiveRejections)
    .consecutiveRejectionLimit ++
  flag (limits.maxEquityChangeFraction < context.equityChangeFraction) .accountEquityAnomaly ++
  flag (limits.maxIntradayLossFraction < context.intradayLossFraction) .intradayLossLimit ++
  flag (limits.maxCapitalDrawdownFraction < context.capitalDrawdownFraction)
    .capitalDrawdownLimit ++
  bounded context.clockDrift limits.maxClockDrift .clockDriftUnverified .clockDriftLimit ++
  flag (context.runtimeState ∉ [RuntimeState.ready, .executing]) .runtimeNotWritable ++
  flag (¬ context.deploymentAllowlist ⊆ context.canonicalUniverse)
    .deploymentAllowlistExpandsUniverse ++
  flag (command.uquantAuthorizedShares < command.command.requestedShares)
    .commandExceedsUquantAuthorization ++
  (if context.brokerConnected then []
    else bounded context.disconnectDuration limits.maxDisconnectDuration
      .brokerDisconnectDurationUnverified .brokerDisconnectLimit) ++
  flag (∃ quote ∈ context.quote, limits.maxClockDrift < quote.receivedAt - context.now)
    .quoteTimeInFuture

/-- The blocking facts of the instrument. -/
def instrumentReasons (symbol : Symbol) (instrument : InstrumentFact) : List ReasonCode :=
  flag (instrument.symbol ≠ symbol) .instrumentSymbolMismatch ++
  flag (instrument.securityType ≠ .equity) .securityTypeNotEquity ++
  flag (instrument.status = .suspended) .instrumentNotTrading ++
  flag (instrument.status ≠ .suspended ∧ instrument.status ≠ .trading) .instrumentRiskStatus

/-- The deviation of a price from an anchor, in basis points. -/
def deviationBps (price anchor : Price) : ℚ :=
  |price.value - anchor.value| / anchor.value * 10000

/-- The blocking facts of the limit price. -/
def priceReasons (command : BrokerOrderCommand) (instrument : InstrumentFact) (quote : QuoteFact)
    (limits : RiskLimits) : List ReasonCode :=
  (if none ∈ [instrument.lowerLimit, instrument.upperLimit, quote.lowerLimit, quote.upperLimit] then
    [.priceLimitFactMissing]
  else
    flag (instrument.lowerLimit ≠ quote.lowerLimit ∨ instrument.upperLimit ≠ quote.upperLimit)
      .priceLimitFactMismatch) ++
  flag (∃ lower ∈ instrument.lowerLimit, ∃ upper ∈ instrument.upperLimit,
      ¬ (lower.value ≤ command.limitPrice.value ∧ command.limitPrice.value ≤ upper.value))
    .limitPriceOutOfBounds ++
  flag (instrument.pricePrecision < command.limitPrice.decimalPlaces)
    .limitPricePrecisionInvalid ++
  flag ((command.limitPrice.value / instrument.priceTick.value).den ≠ 1) .limitPriceTickInvalid ++
  (if none ∈ [quote.lastPrice, quote.previousClose] then [.priceReferenceMissing]
  else
    flag (∃ anchor ∈ [quote.lastPrice, quote.previousClose].reduceOption,
        limits.maxPriceDeviationBps < deviationBps command.limitPrice anchor)
      .priceDeviationLimit)

/-- The shares held of the commanded symbol. -/
def currentShares (context : ExecutionRiskContext) : ℕ :=
  context.position.elim 0 (·.totalShares)

/-- The facts that block. -/
def blockReasons (command : RiskCommand) (context : ExecutionRiskContext) : List ReasonCode :=
  let symbol := command.command.symbol
  flag (symbol ∉ context.canonicalUniverse) .symbolNotCanonicalAiUniverse ++
  flag (symbol ∉ context.deploymentAllowlist) .symbolNotDeploymentAllowed ++
  flag (context.accountType ≠ .cash) .accountNotCash ++
  flag (context.instrument = none) .instrumentFactMissing ++
  flag (context.quote = none) .quoteFactMissing ++
  flag (context.freezeNewRisk = true ∧ command.command.side = .buy) .freezeNewRisk ++
  (context.instrument.elim [] (instrumentReasons symbol)) ++
  flag (∃ quote ∈ context.quote, quote.symbol ≠ symbol) .quoteSymbolMismatch ++
  (match context.instrument, context.quote with
    | some instrument, some quote =>
      priceReasons command.command instrument quote context.limits
    | _, _ => []) ++
  flag (∃ age ∈ context.existingOrderAge, context.limits.maxOrderLifetime < age)
    .orderLifetimeLimit ++
  flag (∃ position ∈ context.position, position.symbol ≠ symbol) .positionSymbolMismatch ++
  (match command.command.side with
    | .buy =>
      flag (context.uquantTargetShares ≤ currentShares context) .buyTargetAlreadySatisfied
    | .sell =>
      flag (context.position = none ∨ currentShares context ≤ context.uquantTargetShares)
        .sellTargetAlreadySatisfied)

/-- Whether the gate trades in a phase of the market. -/
def tradable (context : ExecutionRiskContext) (status : MarketSessionStatus) : Prop :=
  status = .open ∨ (context.auctionAllowed = true ∧ status = .auction)

instance (context : ExecutionRiskContext) : DecidablePred (tradable context) := fun status =>
  inferInstanceAs (Decidable
    (status = .open ∨ (context.auctionAllowed = true ∧ status = .auction)))

/-- The facts that delay. -/
def delayReasons (context : ExecutionRiskContext) : List ReasonCode :=
  let limits := context.limits
  flag (context.brokerConnected = false) .brokerDisconnected ++
  flag (¬ tradable context context.marketStatus ∨
      ∃ quote ∈ context.quote, ¬ tradable context quote.marketStatus) .marketNotTradable ++
  flag (∃ quote ∈ context.quote, limits.maxQuoteAge < context.now - quote.receivedAt)
    .quoteStale ++
  flag (limits.maxOpenOrders ≤ context.openOrderCount) .openOrderLimit ++
  flag (limits.maxSubmitCountWindow ≤ context.submitCountWindow) .submitRateLimit ++
  flag (limits.maxCancelCountWindow ≤ context.cancelCountWindow) .cancelRateLimit

/-- `apply_cap`. -/
def applyCap (acc : ℤ × List ReasonCode) (cap : ℤ × ReasonCode) : ℤ × List ReasonCode :=
  if max 0 cap.1 < acc.1 then (max 0 cap.1, acc.2 ++ [cap.2]) else acc

/-- The caps of one side, in the order in which they are applied. -/
def sideCaps (command : RiskCommand) (context : ExecutionRiskContext) : List (ℤ × ReasonCode) :=
  let price := command.command.limitPrice.value
  let limits := context.limits
  match command.command.side with
  | .buy =>
    [((context.uquantTargetShares : ℤ) - currentShares context, .uquantTargetSharesShrink),
      (maxSharesForNotional (context.uquantTargetWeight * context.totalAssets.value -
        context.actualSymbolNotional.value) price, .uquantTargetWeightShrink),
      (maxSharesForNotional (min context.uquantTargetGross context.uquantTargetGrossCap *
        context.totalAssets.value - context.actualGrossNotional.value) price,
        .uquantTargetGrossShrink),
      (maxSharesForNotional (limits.maxSymbolNotional.value - context.actualSymbolNotional.value)
        price, .symbolNotionalCapShrink),
      (maxSharesForNotional (limits.maxTotalGrossNotional.value -
        context.actualGrossNotional.value) price, .totalGrossCapShrink),
      (maxSharesForNotional (context.availableCash.value - command.estimatedFees.value) price,
        .availableCashShrink)]
  | .sell =>
    ((currentShares context : ℤ) - context.uquantTargetShares, .uquantTargetSharesShrink) ::
      match context.position with
      | none => [(0, .positionQuantityShrink)]
      | some position =>
        [((position.totalShares : ℤ), .positionQuantityShrink),
          ((position.sellableShares : ℤ), .sellableQuantityShrink)]

/-- The caps of both sides. -/
def commonCaps (command : RiskCommand) (context : ExecutionRiskContext) (quote : QuoteFact) :
    List (ℤ × ReasonCode) :=
  let price := command.command.limitPrice.value
  let limits := context.limits
  [(maxSharesForNotional limits.maxOrderNotional.value price, .orderNotionalCapShrink),
    (maxSharesForNotional (limits.maxDailySubmittedNotional.value -
      context.dailySubmittedNotional.value) price, .dailySubmittedCapShrink),
    (maxSharesForNotional (limits.maxDailyFilledNotional.value -
      context.dailyFilledNotional.value) price, .dailyFilledCapShrink),
    (⌊(quote.volume : ℚ) * context.uquantMaxVolumeParticipation⌋, .volumeParticipationShrink)]

/-- The quantity part of `evaluate`. -/
def quantity (command : RiskCommand) (context : ExecutionRiskContext)
    (instrument : InstrumentFact) (quote : QuoteFact) : GateDecision :=
  let requested := command.command.requestedShares
  let (candidate, reasons) := (sideCaps command context ++ commonCaps command context quote).foldl
    applyCap ((min requested command.uquantAuthorizedShares : ℕ), [])
  let fullOddLotSell : Prop := command.command.side = .sell ∧
    (∃ position ∈ context.position, candidate = position.totalShares) ∧
    context.uquantTargetShares = 0
  let rounded := if fullOddLotSell then candidate else
    candidate - candidate % instrument.tradingUnit
  let reasons := if rounded < candidate then reasons ++ [.tradingUnitShrink] else reasons
  let candidate := min rounded candidate
  if candidate ≤ 0 then zero .block (if reasons = [] then [.authorizedQuantityZero] else reasons)
  else if candidate < requested then ⟨.shrink, candidate.toNat, reasons.eraseDups⟩
  else ⟨.allow, requested, [.allChecksPassed]⟩

/-- `evaluate`. -/
def evaluate (command : RiskCommand) (context : ExecutionRiskContext) :
    Except Failure GateDecision :=
  if haltReasons command context ≠ [] then .ok (zero .halt (haltReasons command context))
  else if blockReasons command context ≠ [] then .ok (zero .block (blockReasons command context))
  else if delayReasons context ≠ [] then .ok (zero .delay (delayReasons context))
  else
    match context.instrument, context.quote with
    | some instrument, some quote => .ok (quantity command context instrument quote)
    | _, _ =>
      .error (.domainValidationError "blocked missing market facts reached quantity evaluation")

variable {context : ExecutionRiskContext}

lemma evaluate_of_halt {command : RiskCommand} (h : haltReasons command context ≠ []) :
    evaluate command context = .ok (zero .halt (haltReasons command context)) := by
  unfold evaluate
  rw [if_pos h]

lemma unresolved_mem_haltReasons {command : RiskCommand} (h : 0 < context.unresolvedOrderCount) :
    .unresolvedOrderState ∈ haltReasons command context := by
  simp [haltReasons, h]

/-- With an unresolved order the gate halts and says so. -/
theorem evaluate_unresolved (command : RiskCommand) (h : 0 < context.unresolvedOrderCount) :
    ∃ decision, evaluate command context = .ok decision ∧ decision.action = .halt ∧
      .unresolvedOrderState ∈ decision.reasonCodes := by
  have hmem : .unresolvedOrderState ∈ haltReasons command context := unresolved_mem_haltReasons h
  refine ⟨_, evaluate_of_halt (List.ne_nil_of_mem hmem), rfl, ?_⟩
  simpa [zero] using hmem

end ExecutionRiskGate

end FirmQuant
