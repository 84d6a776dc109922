import Mathlib.Data.List.AList
import FirmQuant.Domain.Facts
import FirmQuant.Foundation.DecimalContext
import FirmQuant.Foundation.Effect

/-!
# The execution replay

`execute_session` of `execution/execution_replay.py`: one session of a deterministic execution
model, sells before buys.

Every sum, difference, product and quotient of two decimals is rounded to the digits of the decimal
context (`fit`); a comparison is exact.  Dictionaries are association lists, and share counts that
the source checks not to be negative are natural numbers.
-/

namespace FirmQuant

open Decimal Effect

/-! ## Inputs -/

/-- `ReplaySide`. -/
inductive ReplaySide
  | buy | sell
  deriving DecidableEq, Repr

/-- The blockers of the replay. -/
inductive BlockerCode
  | nonTradable | priceLimit | staleQuote | incompleteSell | insufficientCash | volumeLimit
  deriving DecidableEq, Repr

/-- The exceptions of the replay. -/
inductive ReplayError
  | valueError (message : String)
  | keyError (symbol : String)
  /-- `InvalidOperation` of the decimal arithmetic. -/
  | invalidOperation
  deriving DecidableEq, Repr

/-- A `DailyBar`. -/
structure DailyBar where
  session : Date
  symbol : String
  openPrice : ℚ
  high : ℚ
  low : ℚ
  close : ℚ
  previousClose : ℚ
  volume : ℕ
  suspended : Bool
  limitUp : ℚ
  limitDown : ℚ
  symbol_nonempty : symbol ≠ ""
  prices_pos : 0 < openPrice ∧ 0 < high ∧ 0 < low ∧ 0 < close ∧ 0 < previousClose ∧ 0 < limitUp ∧
    0 < limitDown
  low_le_high : low ≤ high
  range : (low ≤ openPrice ∧ openPrice ≤ high) ∧ low ≤ close ∧ close ≤ high
  limits : limitDown ≤ previousClose ∧ previousClose ≤ limitUp
  suspended_volume : suspended = true → volume = 0

/-- `ReplayCosts`. -/
structure ReplayCosts where
  commissionRate : ℚ
  minimumCommission : ℚ
  sellStampDutyRate : ℚ
  transferFeeRate : ℚ
  slippageBps : ℚ
  maxPriceDeviationBps : ℚ
  nonneg : 0 ≤ commissionRate ∧ 0 ≤ minimumCommission ∧ 0 ≤ sellStampDutyRate ∧
    0 ≤ transferFeeRate ∧ 0 ≤ slippageBps ∧ 0 ≤ maxPriceDeviationBps
  rates_le_one : commissionRate ≤ 1 ∧ sellStampDutyRate ≤ 1 ∧ transferFeeRate ≤ 1
  bps_le : slippageBps ≤ 10000 ∧ maxPriceDeviationBps ≤ 10000

lemma ReplayCosts.free_le_one : (0 : ℚ) ≤ 1 ∧ (0 : ℚ) ≤ 1 ∧ (0 : ℚ) ≤ 1 := by norm_num

/-- A `ReplayOrder`. -/
structure ReplayOrder where
  symbol : String
  side : ReplaySide
  shares : ℕ
  limitPrice : ℚ
  maxVolumeParticipation : ℚ
  dependsOnSellProceeds : Bool
  symbol_nonempty : symbol ≠ ""
  shares_pos : 0 < shares
  limitPrice_pos : 0 < limitPrice
  participation_pos : 0 < maxVolumeParticipation
  participation_le_one : maxVolumeParticipation ≤ 1
  sell_independent : side = .sell → dependsOnSellProceeds = false

/-- A dictionary of share counts. -/
abbrev ShareCounts := AList fun _ : String => ℕ

/-- `counts.get(symbol, 0)`. -/
def ShareCounts.get (counts : ShareCounts) (symbol : String) : ℕ := (counts.lookup symbol).getD 0

/-- What `ReplayAccount` checks. -/
structure ReplayAccount.Valid (cash : ℚ) (positions sellable : ShareCounts) : Prop where
  cash_nonneg : 0 ≤ cash
  symbols_nonempty : ∀ entry ∈ positions.entries, entry.1 ≠ ""
  sellable_le : ∀ entry ∈ sellable.entries, entry.2 ≤ positions.get entry.1
  positions_pos : ∀ entry ∈ positions.entries, entry.2 ≠ 0

instance (cash : ℚ) (positions sellable : ShareCounts) :
    Decidable (ReplayAccount.Valid cash positions sellable) :=
  decidable_of_iff (0 ≤ cash ∧ (∀ entry ∈ positions.entries, entry.1 ≠ "") ∧
      (∀ entry ∈ sellable.entries, entry.2 ≤ positions.get entry.1) ∧
      ∀ entry ∈ positions.entries, entry.2 ≠ 0)
    ⟨fun ⟨h₁, h₂, h₃, h₄⟩ => ⟨h₁, h₂, h₃, h₄⟩, fun ⟨h₁, h₂, h₃, h₄⟩ => ⟨h₁, h₂, h₃, h₄⟩⟩

/-- A `ReplayAccount`. -/
structure ReplayAccount where
  cash : ℚ
  positions : ShareCounts
  sellable : ShareCounts
  valid : ReplayAccount.Valid cash positions sellable

/-- The first check of the constructor that fails. -/
def ReplayAccount.violation (cash : ℚ) (positions sellable : ShareCounts) : String :=
  if cash < 0 then "replay cash is outside its permitted bound"
  else if ∃ entry ∈ positions.entries, entry.1 = "" then "position symbol must be non-empty text"
  else if ∃ entry ∈ sellable.entries, positions.get entry.1 < entry.2 then
    "sellable shares exceed total position"
  else "zero-share positions must be omitted"

/-- The constructor. -/
def ReplayAccount.create (cash : ℚ) (positions sellable : ShareCounts) :
    Except ReplayError ReplayAccount :=
  if h : ReplayAccount.Valid cash positions sellable then .ok ⟨cash, positions, sellable, h⟩
  else .error (.valueError (ReplayAccount.violation cash positions sellable))

/-! ## Results -/

/-- A `ReplayOrderResult`. -/
structure ReplayOrderResult where
  symbol : String
  side : ReplaySide
  requestedShares : ℕ
  authorized : Bool
  filledShares : ℕ
  fillPrice : Option ℚ
  blocker : Option BlockerCode
  commission : ℚ
  stampDuty : ℚ
  transferFee : ℚ
  slippageCost : ℚ
  unfilledNotional : ℚ
  unfilledLoss : ℚ
  deriving DecidableEq

/-- A `ReplaySessionResult`. -/
structure ReplaySessionResult where
  session : Date
  orders : List ReplayOrderResult
  endingAccount : ReplayAccount
  commissions : ℚ
  stampDuty : ℚ
  transferFees : ℚ
  slippageCost : ℚ
  unfilledNotional : ℚ
  unfilledLoss : ℚ
  turnoverNotional : ℚ
  partialFillCount : ℕ
  priceLimitBlocks : ℕ
  suspensionBlocks : ℕ
  incompleteSellBlockedBuys : ℕ

namespace ExecutionReplay

/-- `_LOT_SIZE`. -/
def lotSize : ℕ := 100

/-- `quantize` with a rounding mode. -/
def quantized (mode : ℚ → ℤ) (places : ℕ) (x : ℚ) : Except ReplayError ℚ :=
  match quantizeWith mode places x with
  | some y => .ok y
  | none => .error .invalidOperation

/-- `_money`. -/
def money (value : ℚ) : Except ReplayError ℚ := quantized roundHalfEven 4 value

/-- `_volume_cap`. -/
def volumeCap (bar : DailyBar) (participation : ℚ) (side : ReplaySide) : ℕ :=
  let raw := ⌊fit (bar.volume * participation)⌋₊
  match side with
  | .buy => raw - raw % lotSize
  | .sell => raw

/-- `_authorization_blocker`. -/
def authorizationBlocker (account : ReplayAccount) (order : ReplayOrder) (bar : DailyBar)
    (costs : ReplayCosts) : Option BlockerCode :=
  let deviation := fit (fit (|fit (order.limitPrice - bar.openPrice)| / bar.openPrice) * 10000)
  if bar.suspended then some .nonTradable
  else if order.side = .sell ∧ account.sellable.get order.symbol = 0 then some .nonTradable
  else if order.side = .buy ∧ bar.limitUp ≤ bar.openPrice then some .priceLimit
  else if order.side = .sell ∧ bar.openPrice ≤ bar.limitDown then some .priceLimit
  else if costs.maxPriceDeviationBps < deviation then some .staleQuote
  else none

/-- `_candidate_fill_price`. -/
def candidateFillPrice (order : ReplayOrder) (bar : DailyBar) (costs : ReplayCosts) :
    Except ReplayError ℚ :=
  let slippage := fit (costs.slippageBps / 10000)
  match order.side with
  | .buy => do
    let nominal := if bar.openPrice ≤ order.limitPrice then bar.openPrice else order.limitPrice
    let ticked ← quantized Int.ceil 2 (fit (nominal * fit (1 + slippage)))
    return min order.limitPrice ticked
  | .sell => do
    let nominal := if order.limitPrice ≤ bar.openPrice then bar.openPrice else order.limitPrice
    let ticked ← quantized Int.floor 2 (fit (nominal * fit (1 - slippage)))
    return max order.limitPrice ticked

/-- `_price_reached`. -/
def priceReached (order : ReplayOrder) (bar : DailyBar) (fillPrice : ℚ) : Bool :=
  match order.side with
  | .buy => bar.low ≤ fillPrice && fillPrice ≤ bar.high && fillPrice ≤ bar.limitUp
  | .sell => bar.low ≤ fillPrice && fillPrice ≤ bar.high && bar.limitDown ≤ fillPrice

/-- The fees of a fill: commission, stamp duty and transfer fee. -/
structure Fees where
  commission : ℚ
  stamp : ℚ
  transfer : ℚ

/-- `_fees`. -/
def feesOf (notional : ℚ) (side : ReplaySide) (costs : ReplayCosts) : Except ReplayError Fees :=
  if notional ≤ 0 then .ok ⟨0, 0, 0⟩
  else do
    let commission ← money (max costs.minimumCommission (fit (notional * costs.commissionRate)))
    let stamp ← if side = .sell then money (fit (notional * costs.sellStampDutyRate)) else .ok 0
    let transfer ← money (fit (notional * costs.transferFeeRate))
    return ⟨commission, stamp, transfer⟩

/-- The loop of `_affordable_buy_shares`, from a number of lots downwards. -/
def affordableLots (cash fillPrice : ℚ) (costs : ReplayCosts) : ℕ → Except ReplayError ℕ
  | 0 => .ok 0
  | lots + 1 => do
    let candidate := (lots + 1) * lotSize
    let notional := fit (fillPrice * candidate)
    let fees ← feesOf notional .buy costs
    if fit (fit (notional + fees.commission) + fees.transfer) ≤ cash then return candidate
    else affordableLots cash fillPrice costs lots

/-- `_affordable_buy_shares`. -/
def affordableBuyShares (cash : ℚ) (desired : ℕ) (fillPrice : ℚ) (costs : ReplayCosts) :
    Except ReplayError ℕ :=
  affordableLots cash fillPrice costs (desired / lotSize)

/-- `_unfilled_loss`. -/
def unfilledLoss (order : ReplayOrder) (bar : DailyBar) (unfilledShares : ℕ) :
    Except ReplayError ℚ :=
  if unfilledShares = 0 then .ok 0
  else
    let opportunity :=
      match order.side with
      | .buy => max (fit (bar.close - bar.openPrice)) 0
      | .sell => max (fit (bar.openPrice - bar.close)) 0
    money (fit (opportunity * unfilledShares))

/-- `_blocked_result`. -/
def blockedResult (order : ReplayOrder) (bar : DailyBar) (blocker : BlockerCode)
    (authorized : Bool) : Except ReplayError ReplayOrderResult := do
  let unfilledNotional ← money (fit (bar.openPrice * order.shares))
  let unfilledLoss ← unfilledLoss order bar order.shares
  return {
    symbol := order.symbol
    side := order.side
    requestedShares := order.shares
    authorized := authorized
    filledShares := 0
    fillPrice := none
    blocker := some blocker
    commission := 0
    stampDuty := 0
    transferFee := 0
    slippageCost := 0
    unfilledNotional := unfilledNotional
    unfilledLoss := unfilledLoss }

/-! ## The loop -/

/-- What the loop of `execute_session` carries beside the results. -/
structure State where
  cash : ℚ
  positions : ShareCounts
  sellable : ShareCounts
  incompleteSell : Bool

/-- An order that is not filled; a sell is then incomplete. -/
def block (order : ReplayOrder) (bar : DailyBar) (blocker : BlockerCode) (authorized : Bool)
    (s : State) : Except ReplayError (ReplayOrderResult × State) := do
  let result ← blockedResult order bar blocker authorized
  return (result, if order.side = .sell then { s with incompleteSell := true } else s)

/-- The cash after a fill. -/
def cashAfter (cash fillPrice : ℚ) (side : ReplaySide) (shares : ℕ) (fees : Fees) : ℚ :=
  let notional := fit (fillPrice * shares)
  match side with
  | .sell => fit (cash + fit (fit (fit (notional - fees.commission) - fees.stamp) - fees.transfer))
  | .buy => fit (cash - fit (fit (notional + fees.commission) + fees.transfer))

/-- The positions and the sellable shares after a fill. -/
def sharesAfter (s : State) (order : ReplayOrder) (shares : ℕ) : ShareCounts × ShareCounts :=
  match order.side with
  | .sell =>
    let remaining := s.positions.get order.symbol - shares
    let remainingSellable := s.sellable.get order.symbol - shares
    if 0 < remaining then
      (s.positions.insert order.symbol remaining, s.sellable.insert order.symbol remainingSellable)
    else (s.positions.erase order.symbol, s.sellable.erase order.symbol)
  | .buy =>
    (s.positions.insert order.symbol (s.positions.get order.symbol + shares), s.sellable)

/-- An order that is filled. -/
def fill (order : ReplayOrder) (bar : DailyBar) (costs : ReplayCosts) (fillPrice : ℚ)
    (shares : ℕ) (blocker : Option BlockerCode) (s : State) :
    Except ReplayError (ReplayOrderResult × State) := do
  let fees ← feesOf (fit (fillPrice * shares)) order.side costs
  let slippageCost ← money (fit (|fit (fillPrice - bar.openPrice)| * shares))
  let unfilledNotional ← money (fit (bar.openPrice * (order.shares - shares : ℕ)))
  let unfilledLoss ← unfilledLoss order bar (order.shares - shares)
  let result : ReplayOrderResult := {
    symbol := order.symbol
    side := order.side
    requestedShares := order.shares
    authorized := true
    filledShares := shares
    fillPrice := some fillPrice
    blocker :=
      if shares < order.shares ∧ blocker = none then some .volumeLimit else blocker
    commission := fees.commission
    stampDuty := fees.stamp
    transferFee := fees.transfer
    slippageCost := slippageCost
    unfilledNotional := unfilledNotional
    unfilledLoss := unfilledLoss }
  return (result, {
    cash := cashAfter s.cash fillPrice order.side shares fees
    positions := (sharesAfter s order shares).1
    sellable := (sharesAfter s order shares).2
    incompleteSell := s.incompleteSell || (order.side = .sell && shares < order.shares) })

/-- An authorized order whose price was reached. -/
def fillOrBlock (order : ReplayOrder) (bar : DailyBar) (costs : ReplayCosts) (fillPrice : ℚ)
    (s : State) : Except ReplayError (ReplayOrderResult × State) :=
  let cap := volumeCap bar order.maxVolumeParticipation order.side
  let desired := min order.shares cap
  match order.side with
  | .sell =>
    let desired := min (min desired (s.sellable.get order.symbol)) (s.positions.get order.symbol)
    if desired = 0 then block order bar .nonTradable true s
    else fill order bar costs fillPrice desired none s
  | .buy => do
    let affordable ← affordableBuyShares s.cash desired fillPrice costs
    let blocker := if affordable < desired then some BlockerCode.insufficientCash else none
    let desired := if affordable < desired then affordable else desired
    if desired = 0 then
      block order bar (if 0 < cap then .insufficientCash else .volumeLimit) true s
    else fill order bar costs fillPrice desired blocker s

/-- One round of the loop. -/
def executeOrder (bars : String → Option DailyBar) (costs : ReplayCosts) (order : ReplayOrder)
    (s : State) : Except ReplayError (ReplayOrderResult × State) :=
  match bars order.symbol with
  | none => .error (.keyError order.symbol)
  | some bar =>
    if order.side = .buy ∧ order.dependsOnSellProceeds = true ∧ s.incompleteSell = true then
      block order bar .incompleteSell false s
    else do
      let account ← ReplayAccount.create s.cash s.positions s.sellable
      match authorizationBlocker account order bar costs with
      | some blocker => block order bar blocker false s
      | none => do
        let fillPrice ← candidateFillPrice order bar costs
        if priceReached order bar fillPrice = false then block order bar .priceLimit true s
        else fillOrBlock order bar costs fillPrice s

/-- The loop. -/
def executeOrders (bars : String → Option DailyBar) (costs : ReplayCosts) :
    List ReplayOrder → State → Except ReplayError (List ReplayOrderResult × State)
  | [], s => .ok ([], s)
  | order :: orders, s => do
    let (result, s) ← executeOrder bars costs order s
    let (results, s) ← executeOrders bars costs orders s
    return (result :: results, s)

/-- `sorted(orders, key=...)`: sells first, and otherwise in the given order. -/
def sellsFirst (orders : List ReplayOrder) : List ReplayOrder :=
  orders.filter (·.side = .sell) ++ orders.filter (·.side ≠ .sell)

/-- `sum(...)`. -/
def total (field : ReplayOrderResult → ℚ) (results : List ReplayOrderResult) : ℚ :=
  results.foldl (fun sum result => fit (sum + field result)) 0

/-- The turnover of a result. -/
def turnover (result : ReplayOrderResult) : ℚ :=
  match result.fillPrice with
  | none => 0
  | some price => fit (price * result.filledShares)

/-- A blocked order of a suspended symbol. -/
def isSuspensionBlock (bars : String → Option DailyBar) (result : ReplayOrderResult) : Bool :=
  result.blocker = some .nonTradable && (bars result.symbol).any (·.suspended)

/-- The session result from what the loop leaves. -/
def sessionResult (bars : String → Option DailyBar) (session : Date)
    (results : List ReplayOrderResult) (s : State) : Except ReplayError ReplaySessionResult := do
  let cash ← money s.cash
  let ending ← ReplayAccount.create cash s.positions s.sellable
  let commissions ← money (total (·.commission) results)
  let stampDuty ← money (total (·.stampDuty) results)
  let transferFees ← money (total (·.transferFee) results)
  let slippageCost ← money (total (·.slippageCost) results)
  let unfilledNotional ← money (total (·.unfilledNotional) results)
  let unfilledLoss ← money (total (·.unfilledLoss) results)
  let turnoverNotional ← money (total turnover results)
  return {
    session := session
    orders := results
    endingAccount := ending
    commissions := commissions
    stampDuty := stampDuty
    transferFees := transferFees
    slippageCost := slippageCost
    unfilledNotional := unfilledNotional
    unfilledLoss := unfilledLoss
    turnoverNotional := turnoverNotional
    partialFillCount :=
      results.countP fun result =>
        0 < result.filledShares && result.filledShares < result.requestedShares
    priceLimitBlocks := results.countP fun result => result.blocker = some .priceLimit
    suspensionBlocks := results.countP (isSuspensionBlock bars)
    incompleteSellBlockedBuys := results.countP fun result => result.blocker =
      some .incompleteSell }

/-- `execute_session`. -/
def executeSession (account : ReplayAccount) (orders : List ReplayOrder)
    (bars : String → Option DailyBar) (costs : ReplayCosts) :
    Except ReplayError ReplaySessionResult :=
  match orders with
  | [] => .error (.valueError "execution replay session requires at least one order")
  | first :: _ => do
    refuse (orders.any fun order => (bars order.symbol).isNone)
      (.valueError "execution replay is missing daily bars")
    refuse (orders.any fun order =>
        (bars order.symbol).map DailyBar.session ≠ (bars first.symbol).map DailyBar.session)
      (.valueError "all execution bars must belong to one session")
    let (results, s) ← executeOrders bars costs (sellsFirst orders)
      ⟨account.cash, account.positions, account.sellable, false⟩
    match bars first.symbol with
    | none => .error (.keyError first.symbol)
    | some bar => sessionResult bars bar.session results s

end ExecutionReplay

end FirmQuant
