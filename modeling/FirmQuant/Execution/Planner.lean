import FirmQuant.Application.WriteContext
import FirmQuant.Domain.Text
import FirmQuant.Foundation.DecimalContext
import FirmQuant.Persistence.CanonicalJson
import FirmQuant.Strategy.DecisionSnapshot

/-!
# The execution planner

`ExecutionPlanner.plan` of `execution/planner.py`: the orders of a frozen decision become share
authorizations for one execution session, or blockers.

The payload of the decision is read as text, its numbers as decimals.  The digests of the broker
snapshot and of the plan are functions of their contents that are left open.
-/

namespace FirmQuant

open Decimal Effect

/-! ## Text -/

/-- `str.upper` of a character, as far as it may be a letter of a side: the long s is the only one
outside ASCII. -/
def upperCharacter (c : Char) : Char := if c.toNat = 0x17f then 'S' else c.toUpper

/-- `Side(text.upper())`. -/
def Side.parse (text : String) : Option Side :=
  let value := text.toList.map upperCharacter
  if value = "BUY".toList then some .buy
  else if value = "SELL".toList then some .sell
  else none

/-- The exponent of a number without its letter. -/
def exponentValue : List Char → ℤ
  | '-' :: digits => -(Nat.ofDigitChars 10 digits 0 : ℤ)
  | '+' :: digits => Nat.ofDigitChars 10 digits 0
  | digits => Nat.ofDigitChars 10 digits 0

/-- `Decimal(text)` for an unsigned number of JSON. -/
def unsignedDecimal (cs : List Char) : ℚ :=
  let (integer, rest) := Json.spanInteger cs
  let (fraction, rest) := Json.spanFraction rest
  let (exponent, _) := Json.spanExponent rest
  Nat.ofDigitChars 10 (integer ++ fraction.tail) 0 *
    10 ^ (exponentValue exponent.tail - fraction.tail.length)

/-- `Decimal(text)` for a number of JSON. -/
def decimalOf (text : String) : ℚ :=
  match text.toList with
  | '-' :: cs => -unsignedDecimal cs
  | cs => unsignedDecimal cs

/-! ## Inputs -/

/-- An `ExecutionBrokerSnapshot`. -/
structure ExecutionBrokerSnapshot where
  brokerSnapshot : BrokerSnapshot
  instruments : List InstrumentFact
  quotes : List QuoteFact
  marketStatus : MarketSessionStatus
  instruments_nodup : (instruments.map (·.symbol)).Nodup
  quotes_nodup : (quotes.map (·.symbol)).Nodup
  instrument_sessions : ∀ item ∈ instruments, item.sessionDate = brokerSnapshot.sessionDate
  quote_sessions : ∀ item ∈ quotes, item.sessionDate = brokerSnapshot.sessionDate
  quote_statuses : ∀ item ∈ quotes, item.marketStatus = marketStatus

namespace ExecutionBrokerSnapshot

variable (broker : ExecutionBrokerSnapshot)

/-- `instruments.get(symbol)`. -/
def instrument (symbol : Symbol) : Option InstrumentFact :=
  broker.instruments.find? (·.symbol = symbol)

/-- `quotes.get(symbol)`. -/
def quote (symbol : Symbol) : Option QuoteFact := broker.quotes.find? (·.symbol = symbol)

/-- The shares of a symbol in the account. -/
def currentShares (symbol : Symbol) : ℕ :=
  ((broker.brokerSnapshot.positions.find? (·.symbol = symbol)).map (·.totalShares)).getD 0

/-- `broker_client_ids`. -/
def clientIds : List String := broker.brokerSnapshot.orders.filterMap (·.clientOrderId)

def equity : ℚ := broker.brokerSnapshot.account.totalAssets.value

end ExecutionBrokerSnapshot

/-- The exceptions of the planner. -/
inductive PlanningError
  /-- `ExecutionPlanningError`. -/
  | planning (message : String)
  /-- `DomainValidationError`. -/
  | domainValidation (message : String)
  /-- `ValueError` of an integer with too many digits. -/
  | valueError
  deriving DecidableEq, Repr

/-- The reason codes of blockers. -/
inductive PlanningReason
  | existingBrokerOrder | sentinelFreezeNewRisk | instrumentFactMissing | quoteFactMissing
  | instrumentNotTrading | marketNotTradable | referencePriceMissing | priceLimitFactMissing
  | targetAlreadySatisfied | uquantDirectionContradiction
  deriving DecidableEq, Repr

/-- The text of a reason code. -/
def PlanningReason.code : PlanningReason → String
  | existingBrokerOrder => "EXISTING_BROKER_ORDER"
  | sentinelFreezeNewRisk => "SENTINEL_FREEZE_NEW_RISK"
  | instrumentFactMissing => "INSTRUMENT_FACT_MISSING"
  | quoteFactMissing => "QUOTE_FACT_MISSING"
  | instrumentNotTrading => "INSTRUMENT_NOT_TRADING"
  | marketNotTradable => "MARKET_NOT_TRADABLE"
  | referencePriceMissing => "REFERENCE_PRICE_MISSING"
  | priceLimitFactMissing => "PRICE_LIMIT_FACT_MISSING"
  | targetAlreadySatisfied => "TARGET_ALREADY_SATISFIED"
  | uquantDirectionContradiction => "UQUANT_DIRECTION_CONTRADICTION"

/-- A `PlanningBlocker`. -/
structure PlanningBlocker where
  uquantOrderId : String
  symbol : String
  reason : PlanningReason
  deriving DecidableEq

/-- The check of the constructor of `PlannedOrder` on the target gap. -/
def PlannedOrder.WithinGap (order : PlannedOrder) : Prop :=
  (order.uquantAuthorizedShares : ℤ) ≤ |(order.targetShares : ℤ) - order.currentShares| ∨
    order.side = .sell ∧ order.targetShares = 0

instance (order : PlannedOrder) : Decidable order.WithinGap :=
  inferInstanceAs (Decidable (_ ∨ _))

/-- A `PlannedOrder` with its reason code, which only reports read. -/
structure ReasonedOrder extends PlannedOrder where
  reasonCode : String
  within_gap : toPlannedOrder.WithinGap

/-- What the planner returns: an `ExecutionPlan` with its reason codes and blockers. -/
structure PlanningResult where
  planId : String
  decisionId : String
  strategySession : Date
  executionSession : Date
  brokerSnapshotSha256 : Digest
  orders : List ReasonedOrder
  blockers : List PlanningBlocker
  createdAt : DateTime

/-- The plan that the live controller executes. -/
def PlanningResult.toExecutionPlan (result : PlanningResult) : ExecutionPlan where
  planId := result.planId
  decisionId := result.decisionId
  strategySession := result.strategySession
  executionSession := result.executionSession
  orders := result.orders.map (·.toPlannedOrder)

/-- The digests that the planner computes. -/
structure PlanDigests where
  /-- `ExecutionBrokerSnapshot.sha256`. -/
  brokerSnapshot : ExecutionBrokerSnapshot → Digest
  /-- The digest of the identity of a plan: its decision, the digest of the broker snapshot, its
  orders and its blockers. -/
  plan : DecisionSnapshot → Digest → List ReasonedOrder → List PlanningBlocker → Digest

namespace ExecutionPlanner

/-! ## One pending order -/

/-- `_text`. -/
def text (label : String) : Option Json → Except PlanningError String
  | some (.str value) =>
    if value = "" ∨ strip value.toList ≠ value.toList then
      .error (.planning (label ++ " must be canonical non-empty text"))
    else .ok value
  | _ => .error (.planning (label ++ " must be canonical non-empty text"))

/-- A target weight. -/
abbrev Weight := {weight : ℚ // 0 ≤ weight ∧ weight ≤ 1}

/-- The range of a weight. -/
def boundedWeight (value : ℚ) : Except PlanningError Weight :=
  if h : 0 ≤ value ∧ value ≤ 1 then .ok ⟨value, h⟩
  else .error (.planning "target weight must be finite between zero and one")

/-- `_weight`. -/
def weight : Option Json → Except PlanningError Weight
  | some (.bool _) => .error (.planning "target weight cannot be boolean")
  | some (.float value) => boundedWeight (decimalOf value)
  | some (.int value) => boundedWeight value
  | _ => .error (.planning "target weight must be canonical JSON number")

/-- A pending order of the decision. -/
structure PendingOrder where
  orderId : String
  symbol : Symbol
  side : Side
  weight : Weight
  reasonCode : String

/-- What the loop reads of one item.  The order ids seen before stand between the texts and what
they mean. -/
def readPending (seen : List String) (raw : Json) : Except PlanningError PendingOrder := do
  match raw with
  | .obj _ => do
    let orderId ← text "uquant order id" (raw.get? "order_id")
    let symbolText ← text "uquant order symbol" (raw.get? "symbol")
    refuse (orderId ∈ seen) (.planning ("duplicate uquant order id: " ++ orderId))
    match Symbol.parse symbolText with
    | none => .error (.planning ("invalid uquant order identity: " ++ orderId))
    | some symbol => do
      let sideText ← text "uquant order side" (raw.get? "side")
      match Side.parse sideText with
      | none => .error (.planning ("invalid uquant order identity: " ++ orderId))
      | some side => do
        let weight ← weight (raw.get? "target_weight")
        let reasonCode ← text "uquant order reason code" (raw.get? "reason_code")
        return ⟨orderId, symbol, side, weight, reasonCode⟩
  | _ => .error (.planning "pending order item must be an object")

/-- The shares that the weight pays for, in whole trading units. -/
def desiredShares (weight equity : ℚ) (reference : Price) (unit : ℕ) : ℕ :=
  ⌊fit (fit (fit (weight * equity) / reference.value) / unit)⌋₊ * unit

/-- `authorized`. -/
def authorizedShares (side : Side) (weight : ℚ) (current desired unit : ℕ) : ℕ :=
  match side with
  | .buy => desired - current
  | .sell =>
    let authorized := if weight = 0 then current else current - desired
    if authorized ≠ current then authorized - authorized % unit else authorized

/-- `expected_side`. -/
def expectedSide (weight : ℚ) (current desired : ℕ) : Side :=
  if weight = 0 ∧ 0 < current then .sell
  else if current < desired then .buy
  else .sell

/-- `quote.ask_price if side is Side.BUY else quote.bid_price`. -/
def referencePrice (quote : QuoteFact) : Side → Option Price
  | .buy => quote.askPrice
  | .sell => quote.bidPrice

/-- The constructor of `PlannedOrder`. -/
def createOrder (snapshot : DecisionSnapshot) (broker : ExecutionBrokerSnapshot)
    (order : PendingOrder) (instrument : InstrumentFact) (reference : Price)
    (authorized current desired : ℕ) : Except PlanningError ReasonedOrder :=
  if hpos : 0 < authorized then
    let planned : PlannedOrder := {
      decisionId := snapshot.decisionId
      uquantOrderId := order.orderId
      symbol := order.symbol
      side := order.side
      targetWeight := order.weight
      uquantAuthorizedShares := authorized
      currentShares := current
      targetShares := desired
      tradingUnit := instrument.tradingUnit
      limitPrice := reference
      strategySession := snapshot.strategySession
      executionSession := broker.brokerSnapshot.sessionDate
      uquantSourceSha := snapshot.uquantCommit
      authorized_pos := hpos
      unit_pos := instrument.unit_pos }
    if hgap : planned.WithinGap then .ok { planned with
      reasonCode := order.reasonCode
      within_gap := hgap }
    else .error (.domainValidation "planned order expands target gap")
  else .error (.domainValidation "planned authorization must be positive")

/-- The size of an order that nothing blocks. -/
def sizeOrder (snapshot : DecisionSnapshot) (broker : ExecutionBrokerSnapshot)
    (order : PendingOrder) (instrument : InstrumentFact) (reference : Price) :
    Except PlanningError (PlanningReason ⊕ ReasonedOrder) :=
  let current := broker.currentShares order.symbol
  let desired := desiredShares order.weight broker.equity reference instrument.tradingUnit
  let authorized := authorizedShares order.side order.weight current desired instrument.tradingUnit
  if authorized = 0 then .ok (.inl .targetAlreadySatisfied)
  else if order.side ≠ expectedSide order.weight current desired then
    .ok (.inl .uquantDirectionContradiction)
  else do
    let planned ← createOrder snapshot broker order instrument reference authorized current desired
    return .inr planned

/-- What becomes of a pending order. -/
def project (snapshot : DecisionSnapshot) (broker : ExecutionBrokerSnapshot) (freeze : Bool)
    (order : PendingOrder) : Except PlanningError (PlanningReason ⊕ ReasonedOrder) :=
  if order.orderId ∈ broker.clientIds then .ok (.inl .existingBrokerOrder)
  else if freeze = true ∧ order.side = .buy then .ok (.inl .sentinelFreezeNewRisk)
  else
    match broker.instrument order.symbol, broker.quote order.symbol with
    | none, _ => .ok (.inl .instrumentFactMissing)
    | some _, none => .ok (.inl .quoteFactMissing)
    | some instrument, some quote =>
      if instrument.securityType ≠ .equity ∨ instrument.status ≠ .trading then
        .ok (.inl .instrumentNotTrading)
      else if broker.marketStatus ≠ .open ∧ broker.marketStatus ≠ .auction then
        .ok (.inl .marketNotTradable)
      else
        match referencePrice quote order.side with
        | none => .ok (.inl .referencePriceMissing)
        | some reference =>
          if quote.lowerLimit = none ∨ quote.upperLimit = none then
            .ok (.inl .priceLimitFactMissing)
          else sizeOrder snapshot broker order instrument reference

/-! ## The plan -/

/-- What the loop carries. -/
structure Tally where
  seen : List String
  planned : List ReasonedOrder
  blockers : List PlanningBlocker

/-- One round of the loop. -/
def planItem (snapshot : DecisionSnapshot) (broker : ExecutionBrokerSnapshot) (freeze : Bool)
    (tally : Tally) (raw : Json) : Except PlanningError Tally := do
  let order ← readPending tally.seen raw
  let outcome ← project snapshot broker freeze order
  match outcome with
  | .inl reason => return {
      seen := tally.seen ++ [order.orderId]
      planned := tally.planned
      blockers := tally.blockers ++ [⟨order.orderId, order.symbol.canonical, reason⟩] }
  | .inr planned => return {
      seen := tally.seen ++ [order.orderId]
      planned := tally.planned ++ [planned]
      blockers := tally.blockers }

/-- The key by which orders are sorted. -/
def OrderLE (a b : ReasonedOrder) : Prop :=
  if a.side = b.side then a.symbol.canonical ≤ b.symbol.canonical else a.side = .sell

instance : DecidableRel OrderLE := fun a b => by
  unfold OrderLE
  infer_instance

/-- The key by which blockers are sorted. -/
def BlockerLE (a b : PlanningBlocker) : Prop :=
  a.uquantOrderId < b.uquantOrderId ∨
    a.uquantOrderId = b.uquantOrderId ∧ a.reason.code ≤ b.reason.code

instance : DecidableRel BlockerLE := fun _ _ => inferInstanceAs (Decidable (_ ∨ _))

/-- How the payload fails to be read. -/
inductive PayloadError
  | decodeError
  | constant (value : String)
  | tooManyDigits

/-- The exception that the planner raises for it. -/
def PayloadError.planning : PayloadError → PlanningError
  | decodeError => .planning "decision snapshot JSON cannot be parsed"
  | constant value =>
    .planning ("decision payload contains non-standard constant: " ++ value)
  | tooManyDigits => .valueError

/-- Plain dictionaries: the last of two equal keys counts. -/
def payloadHooks : Json.ParseHooks PayloadError where
  pairs members :=
    .ok (members.foldl (fun object m => LedgerValue.insertMember m.1 m.2 object) [])
  constant value := .error (.constant value)
  malformed := .decodeError
  overlong := .tooManyDigits

/-- `json.loads` of the payload. -/
def loadPayload (payloadJson : String) : Except PlanningError Json :=
  match Json.loads payloadHooks payloadJson with
  | .ok payload => .ok payload
  | .error e => .error e.planning

/-- The pending orders of the payload and whether new risk is frozen. -/
def readPayload (payload : Json) : Except PlanningError (List Json × Bool) :=
  match payload with
  | .obj _ =>
    match payload.get? "pending_orders" with
    | some (.arr pending) =>
      match payload.get? "sentinel" with
      | some (.obj members) =>
        match (Json.obj members).get? "freeze_new_risk" with
        | some (.bool freeze) => .ok (pending, freeze)
        | _ => .error (.planning "sentinel freeze_new_risk must be boolean")
      | _ => .error (.planning "decision sentinel evidence must be an object")
    | _ => .error (.planning "decision pending_orders must be an array")
  | _ => .error (.planning "decision snapshot root must be an object")

/-- `ExecutionPlanner.plan`. -/
def plan (digests : PlanDigests) (snapshot : DecisionSnapshot) (broker : ExecutionBrokerSnapshot) :
    Except PlanningError PlanningResult := do
  refuse (broker.brokerSnapshot.sessionDate ≤ snapshot.strategySession)
    (.planning "execution session must follow strategy session")
  let payload ← loadPayload snapshot.payloadJson
  let (pending, freeze) ← readPayload payload
  let tally ← pending.foldlM (planItem snapshot broker freeze) ⟨[], [], []⟩
  let planned := tally.planned.insertionSort OrderLE
  let blockers := tally.blockers.insertionSort BlockerLE
  let brokerSnapshotSha256 := digests.brokerSnapshot broker
  return {
    planId := "plan_" ++ digests.plan snapshot brokerSnapshotSha256 planned blockers
    decisionId := snapshot.decisionId
    strategySession := snapshot.strategySession
    executionSession := broker.brokerSnapshot.sessionDate
    brokerSnapshotSha256 := brokerSnapshotSha256
    orders := planned
    blockers := blockers
    createdAt := broker.brokerSnapshot.capturedAt }

end ExecutionPlanner

end FirmQuant
