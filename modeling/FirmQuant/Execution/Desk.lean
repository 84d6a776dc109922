import FirmQuant.Execution.LiveController

/-!
# A faithful desk

A small executable outside for the controller: one clock from which wall time and monotonic
time are read, a broker that acknowledges or fills what it is sent and cancels what it is
asked to cancel, and a gate in front of both writes.  Concrete runs of the controller are
evaluated against it.
-/

namespace FirmQuant

/-- The state of the desk: seconds since its start and the broker's books. -/
structure Desk where
  time : ℚ
  cash : Money
  positions : List BrokerPositionFact
  orders : List BrokerOrderFact
  fills : List BrokerFillFact
  deriving DecidableEq

/-- How a desk behaves. -/
structure DeskRules where
  /-- The wall time when the desk starts. -/
  start : DateTime
  /-- Whether an order is filled as soon as it arrives; otherwise it rests. -/
  fillsAtOnce : Bool
  /-- The seconds that an answered write takes. -/
  latency : ℚ
  /-- The gate in front of the writes: the reasons for which it refuses, if any. -/
  refuses : CommandKind → Desk → List ReasonCode

namespace Desk

/-- The wall time of a desk. -/
def wall (rules : DeskRules) (desk : Desk) : DateTime := rules.start + ⌊desk.time * 1000000⌋

/-- The order that a command opens. -/
def opened (rules : DeskRules) (desk : Desk) (command : BrokerOrderCommand) : BrokerOrderFact where
  brokerOrderId := "broker-" ++ command.clientOrderId
  clientOrderId := some command.clientOrderId
  symbol := command.symbol
  side := command.side
  priceType := .limit
  status := if rules.fillsAtOnce then .filled else .acknowledged
  requestedShares := command.requestedShares
  filledShares := if rules.fillsAtOnce then command.requestedShares else 0
  limitPrice := command.limitPrice
  sessionDate := shanghaiDate (desk.wall rules)
  eventTime := desk.wall rules
  receivedAt := desk.wall rules
  eventSequence := 1
  rawPayloadSha256 := "opened"
  requested_pos := command.requested_pos
  filled_le_requested := by split <;> omega

/-- The fill of an order that is filled at once. -/
def filledBy (rules : DeskRules) (desk : Desk) (command : BrokerOrderCommand) :
    BrokerFillFact where
  brokerFillId := "fill-" ++ command.clientOrderId
  brokerOrderId := "broker-" ++ command.clientOrderId
  symbol := command.symbol
  side := command.side
  status := .confirmed
  shares := command.requestedShares
  price := command.limitPrice
  commission := Money.zero
  stampDuty := Money.zero
  transferFee := Money.zero
  sessionDate := shanghaiDate (desk.wall rules)
  eventTime := desk.wall rules
  receivedAt := desk.wall rules
  eventSequence := 1
  rawPayloadSha256 := "filled"
  shares_pos := command.requested_pos

/-- The order after its cancel. -/
def cancelled (order : BrokerOrderFact) : BrokerOrderFact :=
  { order with
    status := if order.status = .filled then .filled else .cancelled
    eventSequence := if order.status = .filled then order.eventSequence
      else order.eventSequence + 1 }

/-- A submission that reaches the broker. -/
def submit (rules : DeskRules) (command : BrokerOrderCommand) (desk : Desk) :
    Except Failure BrokerOrderFact × Desk :=
  (.ok (desk.opened rules command), { desk with
    time := desk.time + rules.latency
    orders := desk.orders ++ [desk.opened rules command]
    fills := if rules.fillsAtOnce then desk.fills ++ [desk.filledBy rules command]
      else desk.fills })

/-- A cancel that reaches the broker. -/
def cancel (rules : DeskRules) (brokerOrderId : String) (desk : Desk) :
    Except Failure BrokerOrderFact × Desk :=
  match desk.orders.find? (·.brokerOrderId = brokerOrderId) with
  | none => (.error (.brokerError "BrokerFactUnavailable"), desk)
  | some order =>
    (.ok (cancelled order), { desk with
      time := desk.time + rules.latency
      orders := desk.orders.map fun stored =>
        if stored.brokerOrderId = brokerOrderId then cancelled stored else stored })

/-- A write behind the gate. -/
def gated (reasons : List ReasonCode) (write : Desk → Except Failure BrokerOrderFact × Desk)
    (desk : Desk) : Except Failure BrokerOrderFact × Desk :=
  if reasons = [] then write desk else (.error (.writeCapabilityDenied reasons), desk)

/-- The account of the desk. -/
def account (desk : Desk) : BrokerAccountFact where
  accountIdHash := "account"
  accountType := .cash
  availableCash := desk.cash
  totalAssets := desk.cash
  cash_le_assets := le_refl _

/-- The desk as the outside of a controller. -/
def ports (rules : DeskRules) : Ports Desk where
  clock desk := (desk.wall rules, desk)
  monotonicClock desk := (desk.time, desk)
  sleep duration desk := { desk with time := desk.time + duration }
  leaseCheck desk := (.ok ⟨⟩, desk)
  queryAccount desk := (.ok desk.account, desk)
  queryPositions desk := (.ok desk.positions, desk)
  queryOrders desk := (.ok desk.orders, desk)
  queryFills desk := (.ok desk.fills, desk)
  submitOrder _ command desk :=
    gated (rules.refuses .submit desk) (submit rules command) desk
  cancelOrder _ brokerOrderId desk :=
    gated (rules.refuses .cancel desk) (cancel rules brokerOrderId) desk

/-- The world of a controller in front of a desk that has just started. -/
def world (desk : Desk) : World Desk := ⟨Ledger.empty, desk, none, [], []⟩

/-! ## Pieces of concrete runs -/

/-- A desk with cash and the given holdings of 100 shares each, at its start. -/
def fresh (cash : ℕ) (codes : List String) : Desk where
  time := 0
  cash := ⟨cash, by positivity⟩
  positions := codes.map fun code => ⟨⟨.sh, code⟩, 100, 100, none, Money.zero, le_refl _⟩
  orders := []
  fills := []

/-- An order for 100 shares at 10 CNY, a sell-out or a first purchase. -/
def lot (uquantOrderId code : String) (side : Side) : PlannedOrder where
  decisionId := "decision"
  uquantOrderId := uquantOrderId
  symbol := ⟨.sh, code⟩
  side := side
  targetWeight := 0
  uquantAuthorizedShares := 100
  currentShares := 0
  targetShares := match side with
    | .sell => 0
    | .buy => 100
  tradingUnit := 100
  limitPrice := ⟨10, ten_pos⟩
  strategySession := 0
  executionSession := 1
  uquantSourceSha := "uquant"
  authorized_pos := hundred_pos
  unit_pos := hundred_pos

/-- A plan of such orders. -/
def plan (orders : List PlannedOrder) : ExecutionPlan := ⟨"plan", "decision", 0, 1, orders⟩

/-- A desk that fills every order at once and refuses nothing. -/
def filling : DeskRules := ⟨0, true, 0, fun _ _ => []⟩

/-- No fees. -/
def noFees : FeeSchedule := ⟨0, 0, 0, 0, 1 / 100, 2, by norm_num, by norm_num⟩

end Desk

end FirmQuant
