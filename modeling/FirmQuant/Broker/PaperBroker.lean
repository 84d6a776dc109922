import Mathlib.Data.List.AList
import FirmQuant.Application.WriteContext
import FirmQuant.Execution.Policy

/-!
# The paper broker

`PaperBroker` of `broker/paper.py`: one cash account whose orders are matched against the quotes
that it is given.  Its dictionaries are association lists.  A call that raises keeps what it did
before, so that the calls are programs over the state of the broker.

Order and fill ids and the digests of payloads are hashes; the hash is a parameter, and two orders
have one id only if they have one idempotency key.  The clock is the sequence of its readings, and
a callback sink is known by whether it raises on what it is given.
-/

namespace FirmQuant

open Decimal Effect

/-! ## Results -/

/-- The reason codes. -/
inductive PaperReason
  | instrumentFactMissing | quoteFactMissing | marketNotOpen | marketStatusMismatch
  | securityTypeNotEquity | instrumentNotTrading | priceLimitFactMissing | priceLimitFactMismatch
  | marketFactSessionMismatch | limitPriceOutOfBounds | limitPricePrecisionInvalid
  | limitPriceTickInvalid | tradingUnitInvalid | positionInsufficient | t1SellableExceeded
  | upperLimitBuyBlocked | askLiquidityMissing | lowerLimitSellBlocked | bidLiquidityMissing
  | orderNotMarketable | slippageExceedsLimit | fillPriceOutOfBounds
  | cashInsufficient | volumeCapacityExhausted
  | acknowledged | filled | partialFill | cancelledBySystem
  deriving DecidableEq, Repr

/-- The exceptions, with their texts. -/
inductive PaperFailure
  | brokerDisconnected (message : String)
  | brokerFactUnavailable (message : String)
  | callbackDelivery (message : String)
  | domainValidation (message : String)
  | keyError (key : String)
  deriving DecidableEq, Repr

/-- The callbacks. -/
inductive PaperEvent
  | order (fact : BrokerOrderFact)
  | fill (fact : BrokerFillFact)

/-- A callback sink: whether it raises on the last of the events that it was given. -/
abbrev BrokerEventSink := List PaperEvent → Bool

/-- What `_order_payload` renders. -/
structure OrderPayload where
  brokerOrderId : String
  clientOrderId : String
  symbol : Symbol
  side : Side
  status : BrokerOrderStatus
  requestedShares : ℕ
  filledShares : ℕ
  limitPrice : Price
  sessionDate : Date
  eventTime : DateTime
  eventSequence : ℕ

/-- What `_fill_payload` renders. -/
structure FillPayload where
  brokerFillId : String
  brokerOrderId : String
  symbol : Symbol
  side : Side
  shares : ℕ
  price : Price
  fees : FeeBreakdown
  sessionDate : Date
  eventTime : DateTime
  eventSequence : ℕ

/-- The hashes: `_stable_id` of an idempotency key and of the identity of a fill, and
`canonical_raw_payload_sha256` of the payloads. -/
structure PaperDigests where
  order : IdempotencyKey → String
  fill : String → ℕ → ℕ → Price → String
  orderPayload : OrderPayload → Digest
  fillPayload : FillPayload → Digest
  order_injective : Function.Injective order

/-- The broker. -/
structure PaperBroker where
  account : BrokerAccountFact
  positions : AList fun _ : Symbol => BrokerPositionFact
  instruments : AList fun _ : Symbol => InstrumentFact
  quotes : AList fun _ : Symbol => QuoteFact
  marketStatus : MarketSessionStatus
  policy : ExecutionPolicy
  digests : PaperDigests
  clock : ℕ → DateTime
  readings : ℕ
  orders : AList fun _ : String => BrokerOrderFact
  commands : AList fun _ : String => BrokerOrderCommand
  /-- The fingerprint of a command is the digest of all of it. -/
  commandFingerprints : AList fun _ : String => BrokerOrderCommand
  idempotencyOrders : AList fun _ : IdempotencyKey => String
  fills : List BrokerFillFact
  reasons : AList fun _ : String => PaperReason
  matchCounts : AList fun _ : String => ℕ
  consumedVolume : AList fun _ : Date × Symbol => ℕ
  eventSequence : ℕ
  connected : Bool
  /-- The sink with the events that it was given. -/
  sink : Option (BrokerEventSink × List PaperEvent)
  pendingCallbacks : List PaperEvent
  callbackError : Bool
  callbackDeliveryFailed : Bool

/-- `PaperMatchResult`. -/
structure PaperMatchResult where
  order : BrokerOrderFact
  fill : Option BrokerFillFact
  reasonCode : PaperReason

/-- A call of the broker. -/
abbrev PaperProgram := EStateM PaperFailure PaperBroker

/-- A computation that does not touch the broker. -/
def raising {α : Type} : Except PaperFailure α → PaperProgram α
  | .ok a => pure a
  | .error failure => throw failure

/-- A check whose text is raised as `DomainValidationError`. -/
def validated {α : Type} : Except String α → Except PaperFailure α
  | .ok a => .ok a
  | .error message => .error (.domainValidation message)

namespace PaperBroker

/-! ## Construction -/

/-- A dictionary of the values under their keys. -/
def dictionary {κ ν : Type} [DecidableEq κ] (key : ν → κ) (values : List ν) :
    AList fun _ : κ => ν :=
  values.foldl (fun entries value => entries.insert (key value) value) ∅

/-- What the constructor checks of a position. -/
def positionFailure (quotes : AList fun _ : Symbol => QuoteFact) (position : BrokerPositionFact) :
    Option String :=
  if 0 < position.totalShares ∧ position.averageCost = none then
    some "paper positive position requires average cost"
  else match quotes.lookup position.symbol with
    | none => some "paper position is missing quote metadata"
    | some quote =>
      if quote.lastPrice = none ∧ quote.previousClose = none then
        some "paper position requires a valuation price"
      else none

/-- The constructor. -/
def create (account : BrokerAccountFact) (positions : List BrokerPositionFact)
    (instruments : List InstrumentFact) (quotes : List QuoteFact)
    (marketStatus : MarketSessionStatus) (policy : ExecutionPolicy) (digests : PaperDigests)
    (clock : ℕ → DateTime) : Except String PaperBroker :=
  let quotesBySymbol := dictionary QuoteFact.symbol quotes
  if account.accountType ≠ .cash then .error "paper broker supports CASH accounts only"
  else if ¬ (positions.map (·.symbol)).Nodup then
    .error "paper broker contains duplicate positions"
  else if ¬ (instruments.map (·.symbol)).Nodup then
    .error "paper broker contains duplicate instruments"
  else if ¬ (quotes.map (·.symbol)).Nodup then .error "paper broker contains duplicate quotes"
  else if ¬ positions.map (·.symbol) ⊆ instruments.map (·.symbol) then
    .error "paper position is missing instrument metadata"
  else if ¬ positions.map (·.symbol) ⊆ quotes.map (·.symbol) then
    .error "paper position is missing quote metadata"
  else match positions.findSome? (positionFailure quotesBySymbol) with
    | some message => .error message
    | none => .ok {
        account := account
        positions := dictionary BrokerPositionFact.symbol positions
        instruments := dictionary InstrumentFact.symbol instruments
        quotes := quotesBySymbol
        marketStatus := marketStatus
        policy := policy
        digests := digests
        clock := clock
        readings := 0
        orders := ∅
        commands := ∅
        commandFingerprints := ∅
        idempotencyOrders := ∅
        fills := []
        reasons := ∅
        matchCounts := ∅
        consumedVolume := ∅
        eventSequence := (quotes.map (·.sequence)).foldl max 0
        connected := false
        sink := none
        pendingCallbacks := []
        callbackError := false
        callbackDeliveryFailed := false }

/-! ## Connection and market facts -/

/-- `connect`. -/
def connect : PaperProgram Unit := modify fun b => { b with connected := true }

/-- `disconnect`. -/
def disconnect : PaperProgram Unit := modify fun b => { b with connected := false }

/-- `_require_connected`. -/
def requireConnected : PaperProgram Unit := do
  let b ← get
  refuse (b.connected = false) (.brokerDisconnected "paper broker is disconnected")

/-- Hand events to a new sink, until it raises. -/
def deliverAll (sink : BrokerEventSink) (given : List PaperEvent) : List PaperEvent → Bool
  | [] => true
  | event :: rest => !sink (given ++ [event]) && deliverAll sink (given ++ [event]) rest

/-- `subscribe`. -/
def subscribe (sink : BrokerEventSink) : PaperProgram Unit := do
  requireConnected
  let pending := (← get).pendingCallbacks
  if deliverAll sink [] pending then
    modify fun b => { b with
      pendingCallbacks := []
      sink := some (sink, pending)
      callbackError := false
      callbackDeliveryFailed := false }
  else
    modify fun b => { b with callbackError := true, callbackDeliveryFailed := true }
    throw (.callbackDelivery "paper callback recovery failed; reconcile before retry")

/-- `set_quote`. -/
def setQuote (quote : QuoteFact) : PaperProgram Unit := do
  let b ← get
  match b.instruments.lookup quote.symbol with
  | none =>
    throw (.brokerFactUnavailable ("paper instrument unavailable: " ++ quote.symbol.canonical))
  | some instrument =>
    refuse (quote.sessionDate ≠ instrument.sessionDate)
      (.domainValidation "paper quote and instrument session dates differ")
    let previous := (b.quotes.lookup quote.symbol).filter (·.sessionDate = quote.sessionDate)
    refuse (previous.any (quote.sequence < ·.sequence) = true)
      (.domainValidation "paper quote sequence cannot regress")
    refuse (previous.any (fun previous => quote.sequence = previous.sequence ∧ quote ≠ previous) =
      true) (.domainValidation "paper quote sequence identity collision")
    modify fun b => { b with quotes := b.quotes.insert quote.symbol quote }

/-- `set_market_status`. -/
def setMarketStatus (status : MarketSessionStatus) : PaperProgram Unit :=
  modify fun b => { b with marketStatus := status }

/-! ## Events -/

/-- A reading of the clock. -/
def now : PaperProgram DateTime := do
  let b ← get
  set { b with readings := b.readings + 1 }
  return b.clock b.readings

/-- `_next_sequence`. -/
def nextSequence : PaperProgram ℕ := do
  modify fun b => { b with eventSequence := b.eventSequence + 1 }
  return (← get).eventSequence

/-- `_emit`. -/
def emit (event : PaperEvent) : PaperProgram Unit := do
  let _ ← now
  modify fun b => match b.sink with
    | none => { b with pendingCallbacks := b.pendingCallbacks ++ [event] }
    | some (sink, given) =>
      let b := { b with sink := some (sink, given ++ [event]) }
      if sink (given ++ [event]) then
        { b with
          pendingCallbacks := b.pendingCallbacks ++ [event]
          callbackError := true
          callbackDeliveryFailed := true }
      else b

/-- `_require_callback_delivery`. -/
def requireCallbackDelivery : PaperProgram Unit := do
  let b ← get
  refuse (b.callbackDeliveryFailed = true)
    (.callbackDelivery "paper callback delivery is degraded; reconcile before retry")

/-- `_raise_callback_error`. -/
def raiseCallbackError : PaperProgram Unit := do
  let b ← get
  refuse (b.callbackError = true) (.callbackDelivery
    "paper state advanced but callback delivery failed; reconcile before retry")

/-! ## Orders -/

/-- `_order_session`. -/
def orderSession (b : PaperBroker) (command : BrokerOrderCommand) : Except PaperFailure Date :=
  match b.quotes.lookup command.symbol, b.instruments.lookup command.symbol with
  | some quote, _ => .ok quote.sessionDate
  | none, some instrument => .ok instrument.sessionDate
  | none, none => .error (.brokerFactUnavailable
      ("paper cannot assert an order session without market facts: " ++ command.symbol.canonical))

/-- The session that is given, or else that of the market facts. -/
def resolvedSession (b : PaperBroker) (command : BrokerOrderCommand) :
    Option Date → Except PaperFailure Date
  | some session => .ok session
  | none => b.orderSession command

/-- `normalize_order` of `_order_payload`. -/
def normalizeOrder (digests : PaperDigests) (payload : OrderPayload) (receivedAt : DateTime) :
    Except PaperFailure BrokerOrderFact :=
  if hpos : 0 < payload.requestedShares then
    if hfilled : payload.filledShares ≤ payload.requestedShares then
      .ok {
        brokerOrderId := payload.brokerOrderId
        clientOrderId := some payload.clientOrderId
        symbol := payload.symbol
        side := payload.side
        priceType := .limit
        status := payload.status
        requestedShares := payload.requestedShares
        filledShares := payload.filledShares
        limitPrice := payload.limitPrice
        sessionDate := payload.sessionDate
        eventTime := payload.eventTime
        receivedAt := receivedAt
        eventSequence := payload.eventSequence
        rawPayloadSha256 := digests.orderPayload payload
        requested_pos := hpos
        filled_le_requested := hfilled }
    else .error (.domainValidation "broker order filled shares exceed requested shares")
  else .error (.domainValidation "broker order requested shares must be positive")

/-- `_record_order`. -/
def recordOrder (command : BrokerOrderCommand) (brokerOrderId : String)
    (status : BrokerOrderStatus) (filledShares : ℕ) (reasonCode : PaperReason)
    (sessionDate : Option Date) : PaperProgram BrokerOrderFact := do
  let time ← now
  let sequence ← nextSequence
  let b ← get
  let session ← raising (b.resolvedSession command sessionDate)
  let fact ← raising (normalizeOrder b.digests
    ⟨brokerOrderId, command.clientOrderId, command.symbol, command.side, status,
      command.requestedShares, filledShares, command.limitPrice, session, time, sequence⟩ time)
  modify fun b => { b with
    orders := b.orders.insert brokerOrderId fact
    reasons := b.reasons.insert brokerOrderId reasonCode }
  emit (.order fact)
  return fact

/-- The statuses in which orders are submitted. -/
def allowedStatuses (b : PaperBroker) : List MarketSessionStatus :=
  if b.policy.allowAuction then [.open, .auction] else [.open]

/-- The checks of `_submission_reason` on the quantity. -/
def quantityReason (b : PaperBroker) (command : BrokerOrderCommand) (instrument : InstrumentFact) :
    Option PaperReason :=
  let requested := command.requestedShares
  let position := b.positions.lookup command.symbol
  let fullOddLotSell := command.side = .sell ∧ position.any (·.totalShares = requested)
  if requested % instrument.tradingUnit ≠ 0 ∧ ¬ fullOddLotSell then some .tradingUnitInvalid
  else match command.side, position with
    | .buy, _ => none
    | .sell, none => some .positionInsufficient
    | .sell, some position =>
      if position.totalShares < requested then some .positionInsufficient
      else if position.sellableShares < requested then some .t1SellableExceeded
      else none

/-- `_submission_reason`. -/
def submissionReason (b : PaperBroker) (command : BrokerOrderCommand) : Option PaperReason :=
  match b.instruments.lookup command.symbol, b.quotes.lookup command.symbol with
  | none, _ => some .instrumentFactMissing
  | some _, none => some .quoteFactMissing
  | some instrument, some quote =>
    if b.marketStatus ∉ b.allowedStatuses ∨ quote.marketStatus ∉ b.allowedStatuses then
      some .marketNotOpen
    else if b.marketStatus ≠ quote.marketStatus then some .marketStatusMismatch
    else if instrument.securityType ≠ .equity then some .securityTypeNotEquity
    else if instrument.status ≠ .trading then some .instrumentNotTrading
    else match instrument.lowerLimit, instrument.upperLimit, quote.lowerLimit,
        quote.upperLimit with
      | some lower, some upper, some quoteLower, some quoteUpper =>
        if lower ≠ quoteLower ∨ upper ≠ quoteUpper then some .priceLimitFactMismatch
        else if instrument.sessionDate ≠ quote.sessionDate then some .marketFactSessionMismatch
        else if ¬ (lower.value ≤ command.limitPrice.value ∧
            command.limitPrice.value ≤ upper.value) then some .limitPriceOutOfBounds
        else if instrument.pricePrecision < command.limitPrice.decimalPlaces then
          some .limitPricePrecisionInvalid
        else if (command.limitPrice.value / instrument.priceTick.value).den ≠ 1 then
          some .limitPriceTickInvalid
        else b.quantityReason command instrument
      | _, _, _, _ => some .priceLimitFactMissing

/-! ## Prices and quantities -/

/-- The price is worse than the limit. -/
def worse (side : Side) (price limit : Price) : Bool :=
  match side with
  | .buy => limit.value < price.value
  | .sell => price.value < limit.value

/-- The end of `_fill_price`: the price is put on the tick and checked. -/
def tickPrice (command : BrokerOrderCommand) (instrument : InstrumentFact) (rawPrice : ℚ) :
    Except String (Except PaperReason Price) := do
  let tick := instrument.priceTick.value
  let price ← Price.create (quantize 0 (rawPrice / tick) * tick)
  if worse command.side price command.limitPrice then return .error .slippageExceedsLimit
  else match instrument.lowerLimit, instrument.upperLimit with
    | some lower, some upper =>
      if lower.value ≤ price.value ∧ price.value ≤ upper.value then return .ok price
      else return .error .fillPriceOutOfBounds
    | _, _ => return .error .fillPriceOutOfBounds

/-- `_fill_price`. -/
def fillPrice (b : PaperBroker) (command : BrokerOrderCommand) (instrument : InstrumentFact)
    (quote : QuoteFact) : Except String (Except PaperReason Price) :=
  let slippage := b.policy.fillModel.slippageBps / 10000
  match command.side with
  | .buy =>
    if quote.upperLimit ≠ none ∧
        (quote.lastPrice = quote.upperLimit ∨ quote.askPrice = quote.upperLimit) then
      .ok (.error .upperLimitBuyBlocked)
    else match quote.askPrice with
      | none => .ok (.error .askLiquidityMissing)
      | some base =>
        if command.limitPrice.value < base.value then .ok (.error .orderNotMarketable)
        else tickPrice command instrument (base.value * (1 + slippage))
  | .sell =>
    if quote.lowerLimit ≠ none ∧
        (quote.lastPrice = quote.lowerLimit ∨ quote.bidPrice = quote.lowerLimit) then
      .ok (.error .lowerLimitSellBlocked)
    else match quote.bidPrice with
      | none => .ok (.error .bidLiquidityMissing)
      | some base =>
        if base.value < command.limitPrice.value then .ok (.error .orderNotMarketable)
        else tickPrice command instrument (base.value * (1 - slippage))

/-- `_participation_capacity`. -/
def participationCapacity (b : PaperBroker) (command : BrokerOrderCommand) (quote : QuoteFact) :
    ℕ :=
  ⌊(quote.volume : ℚ) * b.policy.fillModel.maxVolumeParticipation⌋.toNat -
    (b.consumedVolume.lookup (quote.sessionDate, command.symbol)).getD 0

/-- `_round_fill_quantity`. -/
def roundFillQuantity (b : PaperBroker) (command : BrokerOrderCommand)
    (instrument : InstrumentFact) (candidate : ℕ) : ℕ :=
  if candidate = 0 then 0
  else match command.side, b.positions.lookup command.symbol with
    | .sell, some position =>
      if position.totalShares ≤ candidate ∧ command.requestedShares = position.totalShares then
        position.totalShares
      else candidate - candidate % instrument.tradingUnit
    | _, _ => candidate - candidate % instrument.tradingUnit

/-- The loop of `_affordable_buy_shares`, by the number of trading units. -/
def affordableUnits (b : PaperBroker) (price : Price) (tradingUnit : ℕ) : ℕ → Except String ℕ
  | 0 => return 0
  | units + 1 => do
    let maximum := (units + 1) * tradingUnit
    let fees ← b.policy.feeSchedule.calculate .buy price maximum
    let total ← fees.total
    if price.value * maximum + total.value ≤ b.account.availableCash.value then return maximum
    else affordableUnits b price tradingUnit units

/-- `_affordable_buy_shares`. -/
def affordableBuyShares (b : PaperBroker) (price : Price) (candidate tradingUnit : ℕ) :
    Except String ℕ :=
  let maximum := min candidate ⌊b.account.availableCash.value / price.value⌋.toNat
  b.affordableUnits price tradingUnit (maximum / tradingUnit)

/-- The quantity of `match`: only a BUY has to be paid. -/
def affordableQuantity (b : PaperBroker) (command : BrokerOrderCommand) (price : Price)
    (quantity tradingUnit : ℕ) : Except String ℕ :=
  match command.side with
  | .buy => b.affordableBuyShares price quantity tradingUnit
  | .sell => .ok quantity

/-- The candidate quantity of `match`. -/
def candidateShares (b : PaperBroker) (command : BrokerOrderCommand) (quote : QuoteFact)
    (remaining : ℕ) : ℕ :=
  let candidate := min remaining (b.participationCapacity command quote)
  match command.side with
  | .buy => candidate
  | .sell => min candidate (((b.positions.lookup command.symbol).map (·.sellableShares)).getD 0)

/-- The price and the quantity at which `match` fills an order with these shares remaining, or why
it does not. -/
def decideFill (b : PaperBroker) (command : BrokerOrderCommand) (instrument : InstrumentFact)
    (quote : QuoteFact) (remaining : ℕ) : Except String (Except PaperReason (Price × ℕ)) :=
  match b.submissionReason command with
  | some reason => .ok (.error reason)
  | none => do
    match ← b.fillPrice command instrument quote with
    | .error reason => return .error reason
    | .ok price =>
      let candidate := b.candidateShares command quote remaining
      let rounded := b.roundFillQuantity command instrument candidate
      let quantity ← b.affordableQuantity command price rounded instrument.tradingUnit
      if quantity = 0 then
        if command.side = .buy ∧ 0 < candidate then return .error .cashInsufficient
        else return .error .volumeCapacityExhausted
      else return .ok (price, quantity)

/-! ## Fills -/

/-- `normalize_fill` of `_fill_payload`. -/
def normalizeFill (digests : PaperDigests) (payload : FillPayload) (receivedAt : DateTime) :
    Except PaperFailure BrokerFillFact :=
  if hpos : 0 < payload.shares then
    .ok {
      brokerFillId := payload.brokerFillId
      brokerOrderId := payload.brokerOrderId
      symbol := payload.symbol
      side := payload.side
      status := .confirmed
      shares := payload.shares
      price := payload.price
      commission := payload.fees.commission
      stampDuty := payload.fees.stampDuty
      transferFee := payload.fees.transferFee
      sessionDate := payload.sessionDate
      eventTime := payload.eventTime
      receivedAt := receivedAt
      eventSequence := payload.eventSequence
      rawPayloadSha256 := digests.fillPayload payload
      shares_pos := hpos }
  else .error (.domainValidation "fill shares must be positive")

/-- `_money`. -/
def money (value : ℚ) (label : String) : Except PaperFailure Money :=
  match quantizeBounded 4 value with
  | some rounded => validated (Money.create rounded)
  | none => .error (.domainValidation (label ++ " exceeds Decimal bounds"))

/-- `_valuation_price`. -/
def valuationPrice (b : PaperBroker) (symbol : Symbol) : Except PaperFailure Price :=
  match b.quotes.lookup symbol with
  | none => .error (.keyError symbol.canonical)
  | some quote =>
    match quote.lastPrice <|> quote.previousClose with
    | some price => .ok price
    | none => .error (.brokerFactUnavailable
        ("paper valuation price unavailable: " ++ symbol.canonical))

/-- `price.value * shares.value` of a fill. -/
def gross (fill : BrokerFillFact) : ℚ := fill.price.value * fill.shares

/-- The sum of the fees of a fill. -/
def totalFees (fill : BrokerFillFact) : ℚ :=
  fill.commission.value + fill.stampDuty.value + fill.transferFee.value

/-- What a fill adds to the cash. -/
def amount (fill : BrokerFillFact) : ℚ :=
  match fill.side with
  | .buy => -gross fill - totalFees fill
  | .sell => gross fill - totalFees fill

/-- The shares of a symbol, their cost and the sellable ones. -/
def holding (b : PaperBroker) (symbol : Symbol) : Except PaperFailure (ℕ × ℚ × ℕ) :=
  match b.positions.lookup symbol with
  | none => .ok (0, 0, 0)
  | some position =>
    match position.averageCost with
    | none => .error (.domainValidation "paper existing position has unknown cost")
    | some cost => .ok (position.totalShares, cost.value * position.totalShares,
        position.sellableShares)

/-- The position after a BUY. -/
def boughtPosition (b : PaperBroker) (fill : BrokerFillFact) :
    Except PaperFailure BrokerPositionFact := do
  let (oldShares, oldCost, sellable) ← b.holding fill.symbol
  let total := oldShares + fill.shares
  let average := quantize 8 ((oldCost + gross fill + totalFees fill) / total)
  let valuation := (← b.valuationPrice fill.symbol).value * total
  let averageCost ← validated (Price.create average)
  let marketValue ← money valuation "paper position market value"
  if h : sellable ≤ total then
    return ⟨fill.symbol, total, sellable, some averageCost, marketValue, h⟩
  else throw (.domainValidation "sellable shares cannot exceed total shares")

/-- The positions after a SELL. -/
def soldPositions (b : PaperBroker) (fill : BrokerFillFact) :
    Except PaperFailure (AList fun _ : Symbol => BrokerPositionFact) :=
  match b.positions.lookup fill.symbol with
  | none => throw (.domainValidation "paper SELL position disappeared")
  | some position =>
    if position.totalShares < fill.shares ∨ position.sellableShares < fill.shares then
      throw (.domainValidation "paper SELL exceeds position or sellable shares")
    else if position.totalShares - fill.shares = 0 then return b.positions.erase fill.symbol
    else do
      let remaining := position.totalShares - fill.shares
      let remainingSellable := position.sellableShares - fill.shares
      let valuation := (← b.valuationPrice fill.symbol).value * remaining
      let marketValue ← money valuation "paper position market value"
      if h : remainingSellable ≤ remaining then
        return b.positions.insert fill.symbol { position with
          totalShares := remaining
          sellableShares := remainingSellable
          marketValue := marketValue
          sellable_le_total := h }
      else throw (.domainValidation "sellable shares cannot exceed total shares")

/-- The cash after a fill, not yet rounded. -/
def cashAfter (b : PaperBroker) (fill : BrokerFillFact) : ℚ :=
  b.account.availableCash.value + amount fill

/-- The positions after a fill. -/
def positionsAfter (b : PaperBroker) (fill : BrokerFillFact) :
    Except PaperFailure (AList fun _ : Symbol => BrokerPositionFact) :=
  match fill.side with
  | .buy => do
    refuse (b.cashAfter fill < 0) (.domainValidation "paper BUY would create negative cash")
    return b.positions.insert fill.symbol (← b.boughtPosition fill)
  | .sell => b.soldPositions fill

/-- The value of all positions. -/
def marketValue (positions : AList fun _ : Symbol => BrokerPositionFact) : ℚ :=
  (positions.entries.map fun entry => entry.2.marketValue.value).sum

/-- The account with other cash and other assets. -/
def accountAfter (account : BrokerAccountFact) (availableCash totalAssets : Money) :
    Except PaperFailure BrokerAccountFact :=
  if h : availableCash.value ≤ totalAssets.value then
    .ok { account with
      availableCash := availableCash
      totalAssets := totalAssets
      cash_le_assets := h }
  else .error (.domainValidation "available cash cannot exceed total assets")

/-- `_apply_economics`.  The positions are written before the cash is rounded and checked. -/
def applyEconomics (fill : BrokerFillFact) : PaperProgram Unit := do
  let b ← get
  let _ ← raising (validated (Money.create (totalFees fill)))
  let positions ← raising (b.positionsAfter fill)
  modify fun b => { b with positions := positions }
  let availableCash ← raising (money (b.cashAfter fill) "paper available cash")
  let totalAssets ← raising
    (money (availableCash.value + marketValue positions) "paper total assets")
  let account ← raising (accountAfter b.account availableCash totalAssets)
  modify fun b => { b with account := account }

/-- The number of the next fill of an order. -/
def nextMatchCount (b : PaperBroker) (brokerOrderId : String) : Except PaperFailure ℕ :=
  match b.matchCounts.lookup brokerOrderId with
  | some count => .ok (count + 1)
  | none => .error (.keyError brokerOrderId)

/-- The part of `match` after the price and the quantity are known. -/
def bookFill (order : BrokerOrderFact) (command : BrokerOrderCommand) (brokerOrderId : String)
    (quote : QuoteFact) (price : Price) (quantity : ℕ) : PaperProgram PaperMatchResult := do
  let b ← get
  let fees ← raising (validated (b.policy.feeSchedule.calculate command.side price quantity))
  let matchCount ← raising (b.nextMatchCount brokerOrderId)
  modify fun b => { b with matchCounts := b.matchCounts.insert brokerOrderId matchCount }
  let time ← now
  let sequence ← nextSequence
  let fill ← raising (normalizeFill b.digests
    ⟨b.digests.fill brokerOrderId matchCount quantity price, brokerOrderId, command.symbol,
      command.side, quantity, price, fees, quote.sessionDate, time, sequence⟩ time)
  applyEconomics fill
  modify fun b =>
    let key := (quote.sessionDate, command.symbol)
    { b with
      fills := b.fills ++ [fill]
      consumedVolume := b.consumedVolume.insert key
        ((b.consumedVolume.lookup key).getD 0 + quantity) }
  emit (.fill fill)
  let totalFilled := order.filledShares + quantity
  let status := if totalFilled = order.requestedShares then .filled else .partiallyFilled
  let reason := if totalFilled = order.requestedShares then .filled else .partialFill
  let updated ← recordOrder command brokerOrderId status totalFilled reason none
  raiseCallbackError
  return ⟨updated, some fill, reason⟩

/-- `_CLOSED_STATUSES`. -/
def closedStatuses : List BrokerOrderStatus := [.filled, .cancelled, .rejected, .expired]

/-- The order with its command. -/
def orderAndCommand (b : PaperBroker) (brokerOrderId : String) :
    Except PaperFailure (BrokerOrderFact × BrokerOrderCommand) :=
  match b.orders.lookup brokerOrderId, b.commands.lookup brokerOrderId with
  | some order, some command => .ok (order, command)
  | _, _ => .error (.brokerFactUnavailable ("paper order unavailable: " ++ brokerOrderId))

/-- The end of `match`, for an order that is not closed. -/
def matchOpen (order : BrokerOrderFact) (command : BrokerOrderCommand) (brokerOrderId : String)
    (instrument : InstrumentFact) (quote : QuoteFact) : PaperProgram PaperMatchResult := do
  let b ← get
  let remaining := order.requestedShares - order.filledShares
  match ← raising (validated (b.decideFill command instrument quote remaining)) with
  | .error reason =>
    modify fun b => { b with reasons := b.reasons.insert brokerOrderId reason }
    return ⟨order, none, reason⟩
  | .ok (price, quantity) => bookFill order command brokerOrderId quote price quantity

/-- The quote that is given to `match` is set first. -/
def matchQuote (command : BrokerOrderCommand) : Option QuoteFact → PaperProgram Unit
  | some quote => do
    refuse (quote.symbol ≠ command.symbol)
      (.domainValidation "paper match quote symbol contradicts order")
    setQuote quote
  | none => pure ()

/-- `match`. -/
def matchOrder (brokerOrderId : String) (quote : Option QuoteFact) :
    PaperProgram PaperMatchResult := do
  requireConnected
  requireCallbackDelivery
  refuse (brokerOrderId = "")
    (.domainValidation "paper match broker order id must be non-empty text")
  let (order, command) ← raising ((← get).orderAndCommand brokerOrderId)
  matchQuote command quote
  let b ← get
  match b.quotes.lookup command.symbol, b.instruments.lookup command.symbol with
  | some currentQuote, some instrument =>
    if order.status ∈ closedStatuses then
      match b.reasons.lookup brokerOrderId with
      | some reason => return ⟨order, none, reason⟩
      | none => throw (.keyError brokerOrderId)
    else matchOpen order command brokerOrderId instrument currentQuote
  | _, _ => throw (.keyError command.symbol.canonical)

/-! ## Commands -/

/-- `submit_order`. -/
def submitOrder (command : BrokerOrderCommand) : PaperProgram BrokerOrderFact := do
  requireConnected
  requireCallbackDelivery
  let b ← get
  match b.idempotencyOrders.lookup command.idempotencyKey with
  | some existingId =>
    match b.commandFingerprints.lookup existingId, b.orders.lookup existingId with
    | some fingerprint, some order =>
      refuse (fingerprint ≠ command)
        (.domainValidation "paper idempotency key identity collision")
      return order
    | _, _ => throw (.keyError existingId)
  | none =>
    let sessionDate ← raising (b.orderSession command)
    let brokerOrderId := b.digests.order command.idempotencyKey
    modify fun b => { b with
      idempotencyOrders := b.idempotencyOrders.insert command.idempotencyKey brokerOrderId
      commands := b.commands.insert brokerOrderId command
      commandFingerprints := b.commandFingerprints.insert brokerOrderId command
      matchCounts := b.matchCounts.insert brokerOrderId 0 }
    match (← get).submissionReason command with
    | some rejection =>
      let rejected ← recordOrder command brokerOrderId .rejected 0 rejection (some sessionDate)
      raiseCallbackError
      return rejected
    | none =>
      let _ ← recordOrder command brokerOrderId .acknowledged 0 .acknowledged (some sessionDate)
      let result ← matchOrder brokerOrderId none
      raiseCallbackError
      return result.order

/-- `cancel_order`. -/
def cancelOrder (brokerOrderId : String) : PaperProgram BrokerOrderFact := do
  requireConnected
  requireCallbackDelivery
  refuse (brokerOrderId = "")
    (.domainValidation "paper cancel broker order id must be non-empty text")
  let (current, command) ← raising ((← get).orderAndCommand brokerOrderId)
  if current.status ∈ closedStatuses then return current
  else do
    let cancelled ← recordOrder command brokerOrderId .cancelled current.filledShares
      .cancelledBySystem none
    raiseCallbackError
    return cancelled

/-! ## Runs -/

/-- The calls. -/
inductive Call
  | connect
  | disconnect
  | subscribe (sink : BrokerEventSink)
  | setQuote (quote : QuoteFact)
  | setMarketStatus (status : MarketSessionStatus)
  | submitOrder (command : BrokerOrderCommand)
  | matchOrder (brokerOrderId : String) (quote : Option QuoteFact)
  | cancelOrder (brokerOrderId : String)

/-- The program of a call, without what it returns. -/
def perform : Call → PaperProgram Unit
  | .connect => connect
  | .disconnect => disconnect
  | .subscribe sink => subscribe sink
  | .setQuote quote => setQuote quote
  | .setMarketStatus status => setMarketStatus status
  | .submitOrder command => do let _ ← submitOrder command
  | .matchOrder brokerOrderId quote => do let _ ← matchOrder brokerOrderId quote
  | .cancelOrder brokerOrderId => do let _ ← cancelOrder brokerOrderId

/-- The broker after a call, which returns or raises. -/
def after (b : PaperBroker) (call : Call) : PaperBroker := finalState (perform call b)

end PaperBroker

end FirmQuant
