import FirmQuant.Application.WriteContext
import FirmQuant.Execution.Desk

/-!
# A healthy deployment

The hooks in front of a desk, with every fact that authorizes a write in order: armed, connected,
reconciled, in an open market, with quotes at the plan's price and no limit in reach.  Concrete
authorizations are evaluated against it; only the wall clock and the market phase are left open.
-/

namespace FirmQuant

namespace Desk

/-- The instrument that every lot trades. -/
def instrument (symbol : Symbol) : InstrumentFact where
  symbol := symbol
  securityType := .equity
  status := .trading
  tradingUnit := 100
  priceTick := ⟨1 / 100, cent_pos⟩
  pricePrecision := 2
  lowerLimit := some ⟨9, nine_pos⟩
  upperLimit := some ⟨11, eleven_pos⟩
  sessionDate := 1
  observedAt := 0
  unit_pos := hundred_pos

/-- The quote of every symbol, with the given event time. -/
def quote (eventTime : DateTime) (symbol : Symbol) : QuoteFact where
  symbol := symbol
  lastPrice := some ⟨10, ten_pos⟩
  previousClose := some ⟨10, ten_pos⟩
  bidPrice := some ⟨10, ten_pos⟩
  askPrice := some ⟨10, ten_pos⟩
  volume := 100000
  turnover := Money.zero
  lowerLimit := some ⟨9, nine_pos⟩
  upperLimit := some ⟨11, eleven_pos⟩
  marketStatus := .open
  sequence := 1
  sessionDate := 1
  eventTime := eventTime
  receivedAt := eventTime

/-- The broker and the other facts of the deployment. -/
def hookPorts (rules : DeskRules) (phase : Desk → MarketSessionStatus) : HookPorts Desk where
  monotonicClock desk := (desk.time, desk)
  sleep duration desk := { desk with time := desk.time + duration }
  leaseCheck desk := (.ok ⟨⟩, desk)
  health desk := ((true, true, true), desk)
  queryAccount desk := (.ok desk.account, desk)
  queryPositions desk := (.ok desk.positions, desk)
  queryOrders desk := (.ok desk.orders, desk)
  queryFills desk := (.ok desk.fills, desk)
  queryInstrument symbol desk := (.ok (instrument symbol), desk)
  queryQuote symbol desk := (.ok (quote (desk.wall rules) symbol), desk)
  queryMarketStatus desk := (.ok (phase desk), desk)
  submitOrder command desk := submit rules command desk
  cancelOrder brokerOrderId desk := cancel rules brokerOrderId desk
  persistSnapshot _ desk := (.ok ⟨⟩, desk)
  accountRiskFractions _ desk := (.ok (0, 0, 0), desk)
  dataIdentityMatches desk := (.ok true, desk)
  configIdentityMatches desk := (.ok true, desk)
  uquantIdentityMatches desk := (.ok true, desk)

/-- Settings of a live deployment. -/
def liveSettings : Settings := ⟨.live, true, true, true, ExecutionRuntimeSettings.default⟩

/-- A large amount. -/
def million : Money := ⟨1000000, by decide⟩

/-- Limits that no lot reaches. -/
def wideLimits : RiskLimits :=
  ⟨million, million, million, million, million, 4, 3, 30 * second, 120 * second, 20, 20, 5 * second,
    2 * second, 200, 1 / 10, 8 / 100, 1 / 4⟩

/-- The identity that the deployment is armed for. -/
def liveBinding : ArmBinding := ⟨.live, "host", "account", "firmquant", "uquant", "config"⟩

/-- A lease from time 0 to `expiresAt`. -/
def leaseUntil (expiresAt : DateTime) (h : 0 < expiresAt) : ArmLease :=
  ⟨"lease", liveBinding, 0, expiresAt, "mac", h⟩

/-- The hooks of the deployment. -/
def hooks (rules : DeskRules) (phase : Desk → MarketSessionStatus) (wallClock : ℕ → DateTime)
    (lease : ArmLease) (plan : ExecutionPlan) : HookEnv Desk where
  ports := hookPorts rules phase
  wallClock := wallClock
  settings := liveSettings
  limits := wideLimits
  feeSchedule := noFees
  service := ⟨fun _ => "mac"⟩
  lease := lease
  binding := liveBinding
  runtimeState := .executing
  killSwitchTripped := false
  startupReconciled := true
  deploymentSymbols := plan.orders.map (·.symbol)
  symbolAllowed _ _ := true
  isTradingSession _ := true
  plan := plan
  decisionRisk := some ⟨1, 1, false⟩
  reconciliationPassed := true
  unexplainedPositionChange := false
  corporateActionSuspected := false
  maxVolumeParticipation := 1

/-- The intent of a lot. -/
def lotIntent (planned : PlannedOrder) : ExecutionIntent where
  decisionId := planned.decisionId
  uquantOrderId := planned.uquantOrderId
  symbol := planned.symbol
  side := planned.side
  requestedShares := planned.uquantAuthorizedShares
  strategySession := planned.strategySession
  uquantSourceSha := planned.uquantSourceSha
  requested_pos := planned.authorized_pos

/-- The command of a lot. -/
def lotCommand (planned : PlannedOrder) : BrokerOrderCommand :=
  LiveController.command (lotIntent planned) planned

/-- The transaction that stores and arms a lot. -/
def openLot (planned : PlannedOrder) : LedgerTxn OrderAggregate := do
  let aggregate ← Ledger.appendIntent (lotIntent planned) 0
  Ledger.validateAndArm aggregate 0

/-- The hooks in an open market with one SELL to execute, by their wall clock. -/
def openHooks (wallClock : ℕ → DateTime) : HookEnv Desk :=
  hooks filling (fun _ => .open) wallClock (leaseUntil (1000 * second) (by decide))
    (plan [lot "A" "600001" .sell])

/-- The hooks before their first reading. -/
def hookState (desk : Desk) : HookState Desk := ⟨desk, 0, none, none, []⟩

end Desk

end FirmQuant
