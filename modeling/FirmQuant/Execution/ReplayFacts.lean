import FirmQuant.Execution.PlanIdentity
import FirmQuant.Execution.Policy
import FirmQuant.Execution.ReplayTotality
import FirmQuant.Foundation.Matched

/-!
# The broker facts of a replayed session

`_replay_orders` and `_broker_execution_facts` of `execution/replay_runner.py`: a plan becomes the
orders of a replayed session, and what the session did with them becomes the orders and the fills
that a broker would report.

The facts look the result of a planned order up by its symbol and side.  Two planned orders of one
symbol and side therefore report one result, the later one, although the session filled each on its
own.
-/

namespace FirmQuant

open Decimal Effect Matched

/-! ## The orders of the session -/

/-- `ReplaySide(side.value)`. -/
def ReplaySide.ofSide : Side → ReplaySide
  | .buy => .buy
  | .sell => .sell

lemma ReplaySide.ofSide_injective : Function.Injective ReplaySide.ofSide := by
  intro a b h
  cases a <;> cases b
  · rfl
  · cases h
  · cases h
  · rfl

/-- The constructor of `ReplayOrder`. -/
def ReplayOrder.create (symbol : String) (side : ReplaySide) (shares : ℕ) (limitPrice : ℚ)
    (maxVolumeParticipation : ℚ) (dependsOnSellProceeds : Bool) :
    Except ReplayError ReplayOrder :=
  if hsymbol : symbol = "" then .error (.valueError "replay order symbol must be non-empty text")
  else if hshares : shares = 0 then
    .error (.valueError "replay order shares must be a nonnegative integer share count")
  else if hlimit : limitPrice ≤ 0 then
    .error (.valueError "replay order limit price is outside its permitted bound")
  else if hpos : maxVolumeParticipation ≤ 0 then
    .error (.valueError "volume participation is outside its permitted bound")
  else if hone : 1 < maxVolumeParticipation then
    .error (.valueError "volume participation cannot exceed one")
  else if hsell : side = .sell ∧ dependsOnSellProceeds = true then
    .error (.valueError "SELL cannot depend on sell proceeds")
  else .ok {
    symbol := symbol
    side := side
    shares := shares
    limitPrice := limitPrice
    maxVolumeParticipation := maxVolumeParticipation
    dependsOnSellProceeds := dependsOnSellProceeds
    symbol_nonempty := hsymbol
    shares_pos := Nat.pos_of_ne_zero hshares
    limitPrice_pos := not_le.mp hlimit
    participation_pos := not_le.mp hpos
    participation_le_one := not_lt.mp hone
    sell_independent := fun h => by simpa [h] using hsell }

namespace ReplayRunner

open ExecutionReplay

/-- `total_buy_cash`. -/
def totalBuyCash (plan : ExecutionPlan) : ℚ :=
  (plan.orders.filter (·.side = .buy)).foldl
    (fun sum item => fit (sum + fit (item.limitPrice.value * item.uquantAuthorizedShares))) 0

/-- `_replay_orders`. -/
def replayOrders (plan : ExecutionPlan) (account : ReplayAccount) (maxVolumeParticipation : ℚ) :
    Except ReplayError (List ReplayOrder) :=
  let cashDependency : Bool := account.cash < totalBuyCash plan
  plan.orders.mapM fun item =>
    ReplayOrder.create item.symbol.canonical (.ofSide item.side) item.uquantAuthorizedShares
      item.limitPrice.value maxVolumeParticipation (item.side = .buy && cashDependency)

/-- The execution of a plan, which is left out where the plan has no orders. -/
def replaySession (plan : ExecutionPlan) (account : ReplayAccount) (maxVolumeParticipation : ℚ)
    (bars : String → Option DailyBar) (costs : ReplayCosts) :
    Except ReplayError (Option ReplaySessionResult) := do
  let orders ← replayOrders plan account maxVolumeParticipation
  match orders with
  | [] => return none
  | _ :: _ => do
    let result ← executeSession account orders bars costs
    return some result

/-! ## The facts -/

/-- The exceptions of `_broker_execution_facts`. -/
inductive FactsError
  /-- `ExecutionReplayError`. -/
  | replay (message : String)
  /-- `DomainValidationError`. -/
  | domainValidation (message : String)
  deriving DecidableEq, Repr

/-- What is hashed of an order. -/
structure OrderPayload where
  brokerOrderId : String
  clientOrderId : String
  symbol : String
  side : Side
  requestedShares : ℕ
  filledShares : ℕ
  status : BrokerOrderStatus
  session : Date

/-- What is hashed of a fill. -/
structure FillPayload where
  fillId : String
  brokerOrderId : String
  symbol : String
  side : Side
  shares : ℕ
  price : ℚ
  session : Date

/-- The digests of the facts. -/
structure FactDigests where
  /-- The digest of the session and the id of the planned order. -/
  orderId : Date → String → Digest
  /-- The digest of the session, the id of the planned order, the shares and the price. -/
  fillId : Date → String → ℕ → ℚ → Digest
  order : OrderPayload → Digest
  fill : FillPayload → Digest

/-- The check of `_require_nonempty` that a text fails, as its message. -/
def textViolation (label value : String) : Option String :=
  if value = "" ∨ strip value.toList ≠ value.toList ∨ 256 < value.length then
    some (label ++ " must be non-empty canonical text")
  else if ∃ c ∈ value.toList, c.toNat < 32 ∨ c.toNat = 127 then
    some (label ++ " contains control characters")
  else none

/-- `_timestamp(session, time(14, 55))`. -/
def factTime (session : Date) : DateTime := combineShanghai session (14 * hour + 55 * minute)

/-- `result.orders`, empty without a result. -/
def resultOrders : Option ReplaySessionResult → List ReplayOrderResult
  | none => []
  | some result => result.orders

/-- `by_key.get((symbol, side))`: of several results with one key the last. -/
def byKey (results : List ReplayOrderResult) (symbol : String) (side : ReplaySide) :
    Option ReplayOrderResult :=
  results.reverse.find? fun item => item.symbol = symbol && item.side = side

/-- `broker_order_id`. -/
def brokerOrderId (digests : FactDigests) (session : Date) (planned : PlannedOrder) : String :=
  "replay-order:" ++ digests.orderId session planned.uquantOrderId

/-- `status`. -/
def orderStatus (planned : PlannedOrder) (filled : ℕ) : BrokerOrderStatus :=
  if filled = planned.uquantAuthorizedShares then .filled else .cancelled

/-- `BrokerOrderFact(...)`.  The identity of the broker is that of a digest. -/
def orderFact (digests : FactDigests) (session : Date) (sequence : ℕ) (planned : PlannedOrder)
    (filled : ℕ) : Except FactsError BrokerOrderFact :=
  let status := orderStatus planned filled
  match textViolation "client order id" planned.uquantOrderId with
  | some message => .error (.domainValidation message)
  | none =>
    if hfilled : filled ≤ planned.uquantAuthorizedShares then .ok {
      brokerOrderId := brokerOrderId digests session planned
      clientOrderId := some planned.uquantOrderId
      symbol := planned.symbol
      side := planned.side
      priceType := .limit
      status := status
      requestedShares := planned.uquantAuthorizedShares
      filledShares := filled
      limitPrice := planned.limitPrice
      sessionDate := session
      eventTime := factTime session
      receivedAt := factTime session
      eventSequence := sequence
      rawPayloadSha256 := digests.order {
        brokerOrderId := brokerOrderId digests session planned
        clientOrderId := planned.uquantOrderId
        symbol := planned.symbol.canonical
        side := planned.side
        requestedShares := planned.uquantAuthorizedShares
        filledShares := filled
        status := status
        session := session }
      requested_pos := planned.authorized_pos
      filled_le_requested := hfilled }
    else .error (.domainValidation "broker order filled shares exceed requested shares")

/-- An amount that its constructor accepts. -/
def amount {α : Type} : Except String α → Except FactsError α
  | .ok value => .ok value
  | .error message => .error (.domainValidation message)

/-- `BrokerFillFact(...)` for a result that was filled. -/
def fillFact (digests : FactDigests) (session : Date) (sequence : ℕ) (planned : PlannedOrder)
    (observed : ReplayOrderResult) (hfilled : 0 < observed.filledShares) :
    Except FactsError BrokerFillFact :=
  match observed.fillPrice with
  | none => .error (.replay "filled replay order has no price")
  | some fillPrice => do
    let fillId := "replay-fill:" ++
      digests.fillId session planned.uquantOrderId observed.filledShares fillPrice
    let price ← amount (Price.create fillPrice)
    let commission ← amount (Money.create observed.commission)
    let stampDuty ← amount (Money.create observed.stampDuty)
    let transferFee ← amount (Money.create observed.transferFee)
    return {
      brokerFillId := fillId
      brokerOrderId := brokerOrderId digests session planned
      symbol := planned.symbol
      side := planned.side
      status := .confirmed
      shares := observed.filledShares
      price := price
      commission := commission
      stampDuty := stampDuty
      transferFee := transferFee
      sessionDate := session
      eventTime := factTime session
      receivedAt := factTime session
      eventSequence := sequence
      rawPayloadSha256 := digests.fill {
        fillId := fillId
        brokerOrderId := brokerOrderId digests session planned
        symbol := planned.symbol.canonical
        side := planned.side
        shares := observed.filledShares
        price := fillPrice
        session := session }
      shares_pos := hfilled }

/-- The facts of one planned order. -/
def factsOf (digests : FactDigests) (session : Date) (results : List ReplayOrderResult)
    (sequence : ℕ) (planned : PlannedOrder) :
    Except FactsError (BrokerOrderFact × Option BrokerFillFact) :=
  match byKey results planned.symbol.canonical (.ofSide planned.side) with
  | none => .error (.replay "planned execution result is missing")
  | some observed => do
    let order ← orderFact digests session sequence planned observed.filledShares
    if hfilled : 0 < observed.filledShares then do
      let fill ← fillFact digests session (sequence + 1) planned observed hfilled
      return (order, some fill)
    else return (order, none)

/-- The loop, with the number of facts before. -/
def factsFrom (digests : FactDigests) (session : Date) (results : List ReplayOrderResult) :
    ℕ → List PlannedOrder → Except FactsError (List BrokerOrderFact × List BrokerFillFact)
  | _, [] => .ok ([], [])
  | sequence, planned :: rest => do
    let (order, fill) ← factsOf digests session results (sequence + 1) planned
    let (orders, fills) ←
      factsFrom digests session results (sequence + 1 + fill.toList.length) rest
    return (order :: orders, fill.toList ++ fills)

/-- `_broker_execution_facts`. -/
def brokerExecutionFacts (digests : FactDigests) (plan : ExecutionPlan)
    (result : Option ReplaySessionResult) (session : Date) :
    Except FactsError (List BrokerOrderFact × List BrokerFillFact) :=
  factsFrom digests session (resultOrders result) 0 plan.orders

/-! ## What the session answers -/

variable {bars : String → Option DailyBar} {costs : ReplayCosts} {order : ReplayOrder}
  {bar : DailyBar} {s s' : State} {r : ReplayOrderResult} {account : ReplayAccount}
  {orders : List ReplayOrder} {results : List ReplayOrderResult}

/-- An amount of money as the replay rounds it. -/
def IsMoney (x : ℚ) : Prop := 0 ≤ x ∧ HasPlaces 4 x

lemma isMoney_zero : IsMoney 0 := ⟨le_rfl, 0, by norm_num⟩

variable {x participation : ℚ} {shares : ℕ} {planneds : List PlannedOrder}

lemma isMoney_of_money {y : ℚ} (h : money x = .ok y) (hx : 0 ≤ x) : IsMoney y :=
  ⟨money_nonneg h hx, _, money_eq_ok h⟩

/-- The economics of a result: an order that was not filled has none, and a fill has a price. -/
structure Economics (r : ReplayOrderResult) : Prop where
  idle : r.filledShares = 0 →
    r.fillPrice = none ∧ r.commission = 0 ∧ r.stampDuty = 0 ∧ r.transferFee = 0
  price : 0 < r.filledShares → ∃ price, r.fillPrice = some price ∧ 0 < price
  fees : IsMoney r.commission ∧ IsMoney r.stampDuty ∧ IsMoney r.transferFee

lemma economics_of_block {blocker : BlockerCode} {authorized : Bool}
    (h : block order bar blocker authorized s = .ok (r, s')) : Economics r := by
  unfold block blockedResult at h
  simp only [bind_ok_iff] at h
  obtain ⟨result, ⟨notional, -, loss, -, hresult⟩, hreturn⟩ := h
  cases hresult
  cases hreturn
  exact {
    idle := fun _ => ⟨rfl, rfl, rfl, rfl⟩
    price := fun hpos => absurd hpos (lt_irrefl 0)
    fees := ⟨isMoney_zero, isMoney_zero, isMoney_zero⟩ }

lemma isMoney_fees {notional : ℚ} {side : ReplaySide} {fees : Fees}
    (h : feesOf notional side costs = .ok fees) :
    IsMoney fees.commission ∧ IsMoney fees.stamp ∧ IsMoney fees.transfer := by
  obtain ⟨-, hminimum, hstampRate, htransferRate, -, -⟩ := costs.nonneg
  unfold feesOf at h
  split at h
  · cases h
    exact ⟨isMoney_zero, isMoney_zero, isMoney_zero⟩
  next hpositive =>
    have hnotional : 0 ≤ notional := (not_le.mp hpositive).le
    have hcommission : 0 ≤ max costs.minimumCommission (fit (notional * costs.commissionRate)) :=
      le_max_of_le_left hminimum
    have htransfer : 0 ≤ fit (notional * costs.transferFeeRate) :=
      fit_nonneg_iff.mpr (mul_nonneg hnotional htransferRate)
    obtain ⟨commission, hc, h⟩ := bind_ok_iff.mp h
    cases side with
    | buy =>
      obtain ⟨stamp, hs, h⟩ := bind_ok_iff.mp h
      obtain ⟨transfer, ht, h⟩ := bind_ok_iff.mp h
      cases hs
      cases h
      exact ⟨isMoney_of_money hc hcommission, isMoney_zero, isMoney_of_money ht htransfer⟩
    | sell =>
      have hstamp : 0 ≤ fit (notional * costs.sellStampDutyRate) :=
        fit_nonneg_iff.mpr (mul_nonneg hnotional hstampRate)
      obtain ⟨stamp, hs, h⟩ := bind_ok_iff.mp h
      obtain ⟨transfer, ht, h⟩ := bind_ok_iff.mp h
      cases h
      exact ⟨isMoney_of_money hc hcommission, isMoney_of_money hs hstamp,
        isMoney_of_money ht htransfer⟩

lemma economics_of_fill {blocker : Option BlockerCode} {fillPrice : ℚ}
    (h : fill order bar costs fillPrice shares blocker s = .ok (r, s')) (hshares : shares ≠ 0)
    (hprice : 0 < fillPrice) : Economics r := by
  unfold fill at h
  simp only [bind_ok_iff] at h
  obtain ⟨fees, hfees, slippage, -, notional, -, loss, -, hreturn⟩ := h
  cases hreturn
  exact {
    idle := fun hzero => absurd hzero hshares
    price := fun _ => ⟨fillPrice, rfl, hprice⟩
    fees := isMoney_fees hfees }

lemma economics_of_round (h : executeOrder bars costs order s = .ok (r, s')) : Economics r := by
  obtain ⟨bar, -, ⟨-, blocker, authorized, hblock, -⟩ | ⟨fillPrice, htrades, h⟩⟩ :=
    executeOrder_cases h
  · exact economics_of_block hblock
  · have hprice : 0 < fillPrice :=
      bar.prices_pos.2.2.1.trans_le (range_of_priceReached htrades.reached).1
    cases hside : order.side with
    | sell =>
      rw [fillOrBlock_sell hside] at h
      simp only at h
      split at h
      · exact economics_of_block h
      next hsome => exact economics_of_fill h hsome hprice
    | buy =>
      rw [fillOrBlock_buy hside] at h
      obtain ⟨shares, -, h⟩ := bind_ok_iff.mp h
      split at h
      · exact economics_of_block h
      next hsome => exact economics_of_fill h hsome hprice

lemma economics_of_run : executeOrders bars costs orders s = .ok (results, s') →
    ∀ r ∈ results, Economics r := by
  induction orders generalizing s results with
  | nil =>
    intro h
    cases h
    exact fun r hr => absurd hr List.not_mem_nil
  | cons order orders ih =>
    intro h
    unfold executeOrders at h
    obtain ⟨⟨first, t⟩, hfirst, h⟩ := bind_ok_iff.mp h
    obtain ⟨⟨rest, u⟩, hrest, h⟩ := bind_ok_iff.mp h
    cases h
    intro r hr
    rcases List.mem_cons.mp hr with rfl | hr
    · exact economics_of_round hfirst
    · exact ih hrest r hr

/-- A result that belongs to a planned order. -/
structure ResultOf (planned : PlannedOrder) (r : ReplayOrderResult) : Prop where
  symbol : r.symbol = planned.symbol.canonical
  side : r.side = .ofSide planned.side
  requested : r.requestedShares = planned.uquantAuthorizedShares
  filled_le : r.filledShares ≤ planned.uquantAuthorizedShares

/-- A replay order that belongs to a planned order. -/
structure OrderOf (planned : PlannedOrder) (order : ReplayOrder) : Prop where
  symbol : order.symbol = planned.symbol.canonical
  side : order.side = .ofSide planned.side
  shares : order.shares = planned.uquantAuthorizedShares

lemma ReplayOrder.of_create {symbol : String} {side : ReplaySide} {limitPrice : ℚ} {depends : Bool}
    (h : ReplayOrder.create symbol side shares limitPrice participation depends = .ok order) :
    order.symbol = symbol ∧ order.side = side ∧ order.shares = shares := by
  unfold ReplayOrder.create at h
  split_ifs at h
  cases h
  exact ⟨rfl, rfl, rfl⟩

variable {plan : ExecutionPlan} {observed : List ReplayOrderResult} {fill : Option BrokerFillFact}
  {fills : List BrokerFillFact}

lemma replayOrders_spec (h : replayOrders plan account participation = .ok orders) :
    List.Forall₂ OrderOf plan.orders orders := by
  unfold replayOrders at h
  simp only at h
  have hall := mapM_eq_ok.mp h
  exact hall.imp fun planned order horder => by
    obtain ⟨hsymbol, hside, hshares⟩ := ReplayOrder.of_create horder
    exact ⟨hsymbol, hside, hshares⟩

/-- Orders with the sells before the buys are executed as they come. -/
lemma sellsFirst_eq_self : ∀ {orders : List ReplayOrder},
    orders.Pairwise (fun a b => b.side = .sell → a.side = .sell) → sellsFirst orders = orders := by
  intro orders
  induction orders with
  | nil => exact fun _ => rfl
  | cons order orders ih =>
    intro h
    obtain ⟨hfirst, hrest⟩ := List.pairwise_cons.mp h
    have hih := ih hrest
    unfold sellsFirst at hih ⊢
    by_cases hside : order.side = .sell
    · rw [List.filter_cons_of_pos (by simpa using hside),
        List.filter_cons_of_neg (by simpa using hside), List.cons_append, hih]
    · -- no sell comes after a buy
      have hnone : orders.filter (·.side = .sell) = [] := by
        rw [List.filter_eq_nil_iff]
        intro other hother hsell
        exact hside (hfirst other hother (by simpa using hsell))
      rw [hnone, List.nil_append] at hih
      rw [List.filter_cons_of_neg (by simpa using hside),
        List.filter_cons_of_pos (by simpa using hside), hnone, List.nil_append, hih]

/-- The results of a replayed plan are those of its orders, one for each and in their order. -/
lemma results_of_session {outcome : Option ReplaySessionResult}
    (hsorted : plan.orders.Pairwise fun a b => b.side = .sell → a.side = .sell)
    (h : replaySession plan account participation bars costs = .ok outcome) :
    List.Forall₂ ResultOf plan.orders (resultOrders outcome) ∧
      ∀ r ∈ resultOrders outcome, Economics r := by
  unfold replaySession at h
  obtain ⟨orders, horders, h⟩ := bind_ok_iff.mp h
  have hof := replayOrders_spec horders
  cases orders with
  | nil =>
    cases h
    rw [List.forall₂_nil_right_iff.mp hof]
    exact ⟨.nil, fun r hr => absurd hr List.not_mem_nil⟩
  | cons order orders =>
    obtain ⟨result, hresult, h⟩ := bind_ok_iff.mp h
    cases h
    obtain ⟨final, hloop⟩ := loop_of_session hresult
    have hsells : (order :: orders).Pairwise fun a b => b.side = .sell → a.side = .sell := by
      have hside : ∀ {planned : PlannedOrder} {o : ReplayOrder}, OrderOf planned o →
          (o.side = .sell ↔ planned.side = .sell) := by
        intro planned o ho
        rw [ho.side]
        exact @Function.Injective.eq_iff _ _ _ ReplaySide.ofSide_injective planned.side .sell
      refine pairwise_of_forall₂ hof hsorted fun a a' b b' hab hab' h hb' => ?_
      exact (hside hab).mpr (h ((hside hab').mp hb'))
    rw [sellsFirst_eq_self hsells] at hloop
    refine ⟨?_, economics_of_run hloop⟩
    have hanswers := (executeOrders_spec hloop).answers
    refine forall₂_comp hof hanswers fun planned o r ho hr => ?_
    exact {
      symbol := hr.symbol.trans ho.symbol
      side := hr.side.trans ho.side
      requested := hr.requested.trans ho.shares
      filled_le := (hr.filled_le.trans_eq hr.requested).trans_eq ho.shares }

/-! ## One-to-one correspondence -/

/-- The economics of a fill. -/
structure FillEconomics where
  symbol : String
  side : ReplaySide
  shares : ℕ
  price : Option ℚ
  commission : ℚ
  stampDuty : ℚ
  transferFee : ℚ
  deriving DecidableEq

/-- The economics that a result has. -/
def resultFill (r : ReplayOrderResult) : FillEconomics :=
  ⟨r.symbol, r.side, r.filledShares, r.fillPrice, r.commission, r.stampDuty, r.transferFee⟩

/-- The economics that a fill reports. -/
def factFill (fill : BrokerFillFact) : FillEconomics :=
  ⟨fill.symbol.canonical, .ofSide fill.side, fill.shares, some fill.price.value,
    fill.commission.value, fill.stampDuty.value, fill.transferFee.value⟩

namespace FillEconomics

def notional (fill : FillEconomics) : ℚ := fill.price.getD 0 * fill.shares

def fees (fill : FillEconomics) : ℚ := fill.commission + fill.stampDuty + fill.transferFee

/-- The sum of an amount over the fills of a symbol and side. -/
def total (amount : FillEconomics → ℚ) (symbol : Symbol) (side : Side)
    (fills : List FillEconomics) : ℚ :=
  ((fills.filter fun fill => fill.symbol = symbol.canonical && fill.side = .ofSide side).map
    amount).sum

end FillEconomics

/-- A result that was filled. -/
def isFilled (r : ReplayOrderResult) : Bool := 0 < r.filledShares

/-- What an order fact says of the plan: its id, symbol, side and size. -/
def orderIdentity (order : BrokerOrderFact) : Option String × Symbol × Side × ℕ :=
  (order.clientOrderId, order.symbol, order.side, order.requestedShares)

/-- What the plan says. -/
def plannedIdentity (planned : PlannedOrder) : Option String × Symbol × Side × ℕ :=
  (some planned.uquantOrderId, planned.symbol, planned.side, planned.uquantAuthorizedShares)

/-- The facts mirror a plan and its results: one order for each planned order, one fill for each
result that was filled, and so the sums of the results for every symbol and side. -/
structure Mirrors (plan : ExecutionPlan) (results : List ReplayOrderResult)
    (orders : List BrokerOrderFact) (fills : List BrokerFillFact) : Prop where
  planned : orders.map orderIdentity = plan.orders.map plannedIdentity
  filled : orders.map (·.filledShares) = results.map (·.filledShares)
  traded : fills.map factFill = (results.filter isFilled).map resultFill
  named : fills.map (·.brokerOrderId) =
    (orders.filter (0 < ·.filledShares)).map (·.brokerOrderId)
  shares : ∀ symbol side, FillEconomics.total (·.shares) symbol side (fills.map factFill) =
    FillEconomics.total (·.shares) symbol side (results.map resultFill)
  notional : ∀ symbol side, FillEconomics.total (·.notional) symbol side (fills.map factFill) =
    FillEconomics.total (·.notional) symbol side (results.map resultFill)
  fees : ∀ symbol side, FillEconomics.total (·.fees) symbol side (fills.map factFill) =
    FillEconomics.total (·.fees) symbol side (results.map resultFill)

/-- Results of one symbol and side were filled alike. -/
def FilledAlike (results : List ReplayOrderResult) : Prop :=
  ∀ a ∈ results, ∀ b ∈ results, a.symbol = b.symbol → a.side = b.side →
    resultFill a = resultFill b

/-- The price and the fees of a fill have no more digits than `Price` and `Money` take. -/
def Recordable (r : ReplayOrderResult) : Prop :=
  ∀ price, r.fillPrice = some price → (HasPlaces 8 price ∧ price < 10 ^ maxIntegerDigits) ∧
    r.commission < 10 ^ maxIntegerDigits ∧ r.stampDuty < 10 ^ maxIntegerDigits ∧
      r.transferFee < 10 ^ maxIntegerDigits

/-- The sums over the fills are the sums over all results. -/
lemma total_filter {amount : FillEconomics → ℚ} {symbol : Symbol} {side : Side}
    (heconomics : ∀ r ∈ results, Economics r)
    (hidle : ∀ fill : FillEconomics, fill.shares = 0 → fill.price = none → fill.commission = 0 →
      fill.stampDuty = 0 → fill.transferFee = 0 → amount fill = 0) :
    FillEconomics.total amount symbol side ((results.filter isFilled).map resultFill) =
      FillEconomics.total amount symbol side (results.map resultFill) := by
  unfold FillEconomics.total
  induction results with
  | nil => rfl
  | cons r results ih =>
    obtain ⟨hr, hrest⟩ := List.forall_mem_cons.mp heconomics
    by_cases hfilled : isFilled r = true
    · rw [List.filter_cons_of_pos hfilled, List.map_cons, List.map_cons, List.filter_cons,
        List.filter_cons]
      split
      · rw [List.map_cons, List.map_cons, List.sum_cons, List.sum_cons, ih hrest]
      · exact ih hrest
    · have hzero : r.filledShares = 0 := by
        simpa [isFilled] using hfilled
      obtain ⟨hprice, hcommission, hstamp, htransfer⟩ := hr.idle hzero
      have hamount : amount (resultFill r) = 0 :=
        hidle _ hzero hprice hcommission hstamp htransfer
      rw [List.filter_cons_of_neg hfilled, List.map_cons, List.filter_cons, ih hrest]
      split
      · rw [List.map_cons, List.sum_cons, hamount, zero_add]
      · rfl

/-- Results are alike if as many shares were filled and the fills are alike. -/
lemma resultFill_map_eq
    (hkeys : List.Forall₂ (fun o r => o.symbol = r.symbol ∧ o.side = r.side) observed results)
    (hobserved : ∀ o ∈ observed, Economics o) (hresults : ∀ r ∈ results, Economics r)
    (hshares : observed.map (·.filledShares) = results.map (·.filledShares))
    (hfills : (observed.filter isFilled).map resultFill =
      (results.filter isFilled).map resultFill) :
    observed.map resultFill = results.map resultFill := by
  induction hkeys with
  | nil => rfl
  | @cons o r observed results hkey _ ih =>
    obtain ⟨ho, hobserved⟩ := List.forall_mem_cons.mp hobserved
    obtain ⟨hr, hresults⟩ := List.forall_mem_cons.mp hresults
    simp only [List.map_cons, List.cons.injEq] at hshares
    obtain ⟨hsame, hshares⟩ := hshares
    by_cases hfilled : isFilled r = true
    · have hfilled' : isFilled o = true := by
        unfold isFilled at hfilled ⊢
        rwa [hsame]
      rw [List.filter_cons_of_pos hfilled, List.filter_cons_of_pos hfilled', List.map_cons,
        List.map_cons, List.cons.injEq] at hfills
      rw [List.map_cons, List.map_cons, hfills.1, ih hobserved hresults hshares hfills.2]
    · have hfilled' : ¬ isFilled o = true := by
        unfold isFilled at hfilled ⊢
        rwa [hsame]
      rw [List.filter_cons_of_neg hfilled, List.filter_cons_of_neg hfilled'] at hfills
      -- orders that were not filled have no economics to differ in
      have hzero : r.filledShares = 0 := by simpa [isFilled] using hfilled
      obtain ⟨hprice, hcommission, hstamp, htransfer⟩ := hr.idle hzero
      obtain ⟨hprice', hcommission', hstamp', htransfer'⟩ := ho.idle (hsame.trans hzero)
      have halike : resultFill o = resultFill r := by
        unfold resultFill
        rw [hkey.1, hkey.2, hsame, hprice, hcommission, hstamp, htransfer, hprice', hcommission',
          hstamp', htransfer']
      rw [List.map_cons, List.map_cons, halike, ih hobserved hresults hshares hfills]

lemma filled_map_eq (h : observed.map resultFill = results.map resultFill) :
    (observed.filter isFilled).map resultFill = (results.filter isFilled).map resultFill := by
  have hfilter : ∀ l : List ReplayOrderResult, (l.filter isFilled).map resultFill =
      (l.map resultFill).filter (0 < ·.shares) := by
    intro l
    rw [List.filter_map]
    rfl
  rw [hfilter, hfilter, h]

/-! ## One planned order -/

variable {digests : FactDigests} {session : Date} {planned : PlannedOrder} {sequence : ℕ}
  {observed : ReplayOrderResult} {symbol : String} {side : ReplaySide}

lemma byKey_spec (h : byKey results symbol side = some observed) :
    observed ∈ results ∧ observed.symbol = symbol ∧ observed.side = side := by
  unfold byKey at h
  have hmem := List.mem_of_find?_eq_some h
  have hkey := List.find?_some h
  simp only [Bool.and_eq_true, decide_eq_true_eq] at hkey
  exact ⟨List.mem_reverse.mp hmem, hkey⟩

lemma byKey_of_mem (h : r ∈ results) : ∃ o, byKey results r.symbol r.side = some o := by
  rw [← Option.isSome_iff_exists]
  unfold byKey
  rw [List.find?_isSome]
  exact ⟨r, List.mem_reverse.mpr h, by simp⟩

lemma validateDecimal_eq_ok {label : String} {places : ℕ} {x : ℚ} {u : Unit} :
    validateDecimal label places x = .ok u ↔ HasPlaces places x ∧ x < 10 ^ maxIntegerDigits := by
  unfold validateDecimal
  rw [hasPlaces_iff]
  split_ifs with hplaces hdigits
  · simp [hplaces]
  · simp [hdigits]
  · simp only [true_iff]
    exact ⟨not_not.mp hplaces, not_le.mp hdigits⟩

lemma price_returns :
    (∃ price, Price.create x = .ok price) ↔
      0 < x ∧ HasPlaces 8 x ∧ x < 10 ^ maxIntegerDigits := by
  unfold Price.create
  by_cases hpos : 0 < x
  · rw [dif_pos hpos, ← @validateDecimal_eq_ok "price" 8 x ()]
    cases validateDecimal "price" 8 x with
    | ok u => simp [hpos]
    | error message => simp
  · simp [hpos]

lemma money_create_returns (hx : IsMoney x) :
    (∃ value, Money.create x = .ok value) ↔ x < 10 ^ maxIntegerDigits := by
  constructor
  · rintro ⟨value, h⟩
    unfold Money.create at h
    rw [dif_pos hx.1] at h
    cases hvalid : validateDecimal "money" 4 x with
    | ok u => exact (validateDecimal_eq_ok.mp hvalid).2
    | error message =>
      rw [hvalid] at h
      cases h
  · exact fun h => ⟨_, Money.create_of_places hx.1 hx.2 h⟩

lemma amount_eq_ok {α : Type} {x : Except String α} {a : α} : amount x = .ok a ↔ x = .ok a := by
  cases x with
  | ok value => simp [amount]
  | error message => simp [amount]

/-- A fill is reported exactly if its amounts have digits enough. -/
lemma fillFact_returns (heconomics : Economics observed) (hfilled : 0 < observed.filledShares) :
    (∃ fill, fillFact digests session sequence planned observed hfilled = .ok fill) ↔
      Recordable observed := by
  obtain ⟨price, hprice, hpos⟩ := heconomics.price hfilled
  obtain ⟨hcommission, hstamp, htransfer⟩ := heconomics.fees
  unfold fillFact Recordable
  rw [hprice]
  simp only [bind_ok_iff, amount_eq_ok, Option.some.injEq, forall_eq']
  rw [← money_create_returns hcommission, ← money_create_returns hstamp,
    ← money_create_returns htransfer]
  constructor
  · rintro ⟨fill, value, hvalue, commission, hc, stamp, hs, transfer, ht, -⟩
    exact ⟨(price_returns.mp ⟨value, hvalue⟩).2, ⟨commission, hc⟩, ⟨stamp, hs⟩, transfer, ht⟩
  · rintro ⟨hdigits, ⟨commission, hc⟩, ⟨stamp, hs⟩, transfer, ht⟩
    obtain ⟨value, hvalue⟩ := price_returns.mpr ⟨hpos, hdigits⟩
    exact ⟨_, value, hvalue, commission, hc, stamp, hs, transfer, ht, rfl⟩

lemma fillFact_spec {fill : BrokerFillFact} {hfilled : 0 < observed.filledShares}
    (hsymbol : observed.symbol = planned.symbol.canonical)
    (hside : observed.side = .ofSide planned.side)
    (h : fillFact digests session sequence planned observed hfilled = .ok fill) :
    factFill fill = resultFill observed ∧
      fill.brokerOrderId = brokerOrderId digests session planned := by
  unfold fillFact at h
  cases hprice : observed.fillPrice with
  | none =>
    rw [hprice] at h
    cases h
  | some price =>
    rw [hprice] at h
    simp only [bind_ok_iff, amount_eq_ok] at h
    obtain ⟨value, hvalue, commission, hc, stamp, hs, transfer, ht, h⟩ := h
    cases h
    refine ⟨?_, rfl⟩
    unfold factFill resultFill
    simp only [Price.value_of_create hvalue, Money.value_of_create hc, Money.value_of_create hs,
      Money.value_of_create ht, hsymbol, hside, hprice]

/-- What the loop asks of a planned order and the result that it finds for it. -/
structure Reports (results : List ReplayOrderResult) (planned : PlannedOrder)
    (observed : ReplayOrderResult) : Prop where
  found : byKey results planned.symbol.canonical (.ofSide planned.side) = some observed
  id : textViolation "client order id" planned.uquantOrderId = none
  filled_le : observed.filledShares ≤ planned.uquantAuthorizedShares
  recordable : Recordable observed

/-- What the facts of one planned order say. -/
structure Says (planned : PlannedOrder) (observed : ReplayOrderResult) (order : BrokerOrderFact)
    (fill : Option BrokerFillFact) : Prop where
  identity : orderIdentity order = plannedIdentity planned
  filled : order.filledShares = observed.filledShares
  traded : fill.toList.map factFill = ([observed].filter isFilled).map resultFill
  named : fill.toList.map (·.brokerOrderId) =
    ([order].filter (0 < ·.filledShares)).map (·.brokerOrderId)

lemma orderFact_spec {order : BrokerOrderFact} {filled : ℕ}
    (h : orderFact digests session sequence planned filled = .ok order) :
    textViolation "client order id" planned.uquantOrderId = none ∧
      filled ≤ planned.uquantAuthorizedShares ∧ orderIdentity order = plannedIdentity planned ∧
        order.filledShares = filled ∧
          order.brokerOrderId = brokerOrderId digests session planned := by
  unfold orderFact at h
  cases hid : textViolation "client order id" planned.uquantOrderId with
  | some message =>
    simp only [hid] at h
    cases h
  | none =>
    simp only [hid] at h
    split_ifs at h with hfilled
    cases h
    exact ⟨rfl, hfilled, rfl, rfl, rfl⟩

lemma orderFact_returns {filled : ℕ}
    (hid : textViolation "client order id" planned.uquantOrderId = none)
    (hfilled : filled ≤ planned.uquantAuthorizedShares) :
    ∃ order, orderFact digests session sequence planned filled = .ok order := by
  unfold orderFact
  simp only [hid]
  rw [dif_pos hfilled]
  exact ⟨_, rfl⟩

/-- A price that was not paid is in order. -/
lemma recordable_of_idle (heconomics : Economics r) (hzero : ¬ 0 < r.filledShares) :
    Recordable r := by
  intro price hprice
  rw [(heconomics.idle (Nat.eq_zero_of_not_pos hzero)).1] at hprice
  cases hprice

/-- The facts of a planned order are those of the result with its symbol and side. -/
lemma factsOf_spec {order : BrokerOrderFact} (heconomics : ∀ r ∈ results, Economics r)
    (h : factsOf digests session results sequence planned = .ok (order, fill)) :
    ∃ observed, Reports results planned observed ∧ Says planned observed order fill := by
  unfold factsOf at h
  cases hfound : byKey results planned.symbol.canonical (.ofSide planned.side) with
  | none =>
    rw [hfound] at h
    cases h
  | some observed =>
    rw [hfound] at h
    obtain ⟨hmem, hsymbol, hside⟩ := byKey_spec hfound
    obtain ⟨order', horder, h⟩ := bind_ok_iff.mp h
    obtain ⟨hid, hle, hidentity, hshares, hbroker⟩ := orderFact_spec horder
    split at h
    next hfilled =>
      obtain ⟨fill', hfill, h⟩ := bind_ok_iff.mp h
      cases h
      obtain ⟨hstate, hnames⟩ := fillFact_spec hsymbol hside hfill
      have hrecordable := (fillFact_returns (heconomics _ hmem) hfilled).mp ⟨_, hfill⟩
      refine ⟨observed, ⟨hfound, hid, hle, hrecordable⟩, hidentity, hshares, ?_, ?_⟩
      · simp [isFilled, hfilled, hstate]
      · simp [hshares, hfilled, hnames, hbroker]
    next hfilled =>
      cases h
      refine ⟨observed, ⟨hfound, hid, hle, recordable_of_idle (heconomics _ hmem) hfilled⟩,
        hidentity, hshares, ?_, ?_⟩
      · simp [isFilled, hfilled]
      · simp [hshares, hfilled]

lemma factsOf_returns (heconomics : ∀ r ∈ results, Economics r)
    (h : Reports results planned observed) :
    ∃ order fill, factsOf digests session results sequence planned = .ok (order, fill) := by
  obtain ⟨order, horder⟩ := @orderFact_returns digests session planned sequence _ h.id h.filled_le
  unfold factsOf
  rw [h.found]
  by_cases hfilled : 0 < observed.filledShares
  · obtain ⟨fill, hfill⟩ := (@fillFact_returns digests session planned (sequence + 1) observed
      (heconomics _ (byKey_spec h.found).1) hfilled).mpr h.recordable
    refine ⟨order, some fill, bind_ok_iff.mpr ⟨order, horder, ?_⟩⟩
    rw [dif_pos hfilled]
    exact bind_ok_iff.mpr ⟨fill, hfill, rfl⟩
  · refine ⟨order, none, bind_ok_iff.mpr ⟨order, horder, ?_⟩⟩
    rw [dif_neg hfilled]
    rfl

/-! ## The loop -/

/-- What the facts of a list of planned orders say. -/
structure SaysAll (planneds : List PlannedOrder) (observed : List ReplayOrderResult)
    (orders : List BrokerOrderFact) (fills : List BrokerFillFact) : Prop where
  identity : orders.map orderIdentity = planneds.map plannedIdentity
  filled : orders.map (·.filledShares) = observed.map (·.filledShares)
  traded : fills.map factFill = (observed.filter isFilled).map resultFill
  named : fills.map (·.brokerOrderId) =
    (orders.filter (0 < ·.filledShares)).map (·.brokerOrderId)

lemma Says.cons {planneds : List PlannedOrder} {rest : List ReplayOrderResult}
    {order : BrokerOrderFact} {orders : List BrokerOrderFact} (h : Says planned observed order fill)
    (hrest : SaysAll planneds rest orders fills) :
    SaysAll (planned :: planneds) (observed :: rest) (order :: orders) (fill.toList ++ fills) where
  identity := by rw [List.map_cons, List.map_cons, h.identity, hrest.identity]
  filled := by rw [List.map_cons, List.map_cons, h.filled, hrest.filled]
  traded := by
    rw [← List.singleton_append, List.filter_append, List.map_append, List.map_append, h.traded,
      hrest.traded]
  named := by
    rw [← @List.singleton_append _ order, List.filter_append, List.map_append, List.map_append,
      h.named, hrest.named]

/-- The loop reports for each planned order the result that it finds. -/
lemma factsFrom_spec {orders : List BrokerOrderFact} (heconomics : ∀ r ∈ results, Economics r) :
    factsFrom digests session results sequence planneds = .ok (orders, fills) →
      ∃ observed, List.Forall₂ (Reports results) planneds observed ∧
        SaysAll planneds observed orders fills := by
  induction planneds generalizing sequence orders fills with
  | nil =>
    intro h
    cases h
    exact ⟨[], .nil, rfl, rfl, rfl, rfl⟩
  | cons planned planneds ih =>
    intro h
    unfold factsFrom at h
    obtain ⟨⟨order, fill⟩, hfirst, h⟩ := bind_ok_iff.mp h
    obtain ⟨⟨orders, fills⟩, hrest, h⟩ := bind_ok_iff.mp h
    cases h
    obtain ⟨observed, hreports, hstate⟩ := factsOf_spec heconomics hfirst
    obtain ⟨rest, hall, hstateRest⟩ := ih hrest
    exact ⟨observed :: rest, .cons hreports hall, hstate.cons hstateRest⟩

lemma factsFrom_returns {planneds : List PlannedOrder} (heconomics : ∀ r ∈ results, Economics r)
    (h : ∀ planned ∈ planneds, ∃ observed, Reports results planned observed) :
    ∃ orders fills, factsFrom digests session results sequence planneds = .ok (orders, fills) := by
  induction planneds generalizing sequence with
  | nil => exact ⟨[], [], rfl⟩
  | cons planned planneds ih =>
    obtain ⟨⟨observed, hreports⟩, hrest⟩ := List.forall_mem_cons.mp h
    obtain ⟨order, fill, hfirst⟩ :=
      @factsOf_returns _ digests session planned (sequence + 1) _ heconomics hreports
    obtain ⟨orders, fills, hloop⟩ := @ih (sequence + 1 + fill.toList.length) hrest
    exact ⟨_, _, bind_ok_iff.mpr ⟨(order, fill), hfirst,
      bind_ok_iff.mpr ⟨(orders, fills), hloop, rfl⟩⟩⟩

/-! ## When the facts mirror the session -/

lemma recordable_congr {a b : ReplayOrderResult} (h : resultFill a = resultFill b) :
    Recordable a ↔ Recordable b := by
  unfold resultFill at h
  simp only [FillEconomics.mk.injEq] at h
  obtain ⟨-, -, -, hprice, hcommission, hstamp, htransfer⟩ := h
  unfold Recordable
  rw [hprice, hcommission, hstamp, htransfer]

/-- The result that the loop finds for a planned order and the result of that order. -/
structure Stands (results : List ReplayOrderResult) (observed r : ReplayOrderResult) : Prop where
  found : byKey results r.symbol r.side = some observed
  key : observed.symbol = r.symbol ∧ observed.side = r.side
  recordable : Recordable observed

lemma stands_of_reports {observed : List ReplayOrderResult} {rs : List ReplayOrderResult}
    (hreports : List.Forall₂ (Reports results) planneds observed)
    (hof : List.Forall₂ ResultOf planneds rs) : List.Forall₂ (Stands results) observed rs := by
  refine forall₂_comp hreports.flip hof fun o p r hp hr => ?_
  have hfound : byKey results r.symbol r.side = some o := by
    rw [hr.symbol, hr.side]
    exact hp.found
  exact ⟨hfound, (byKey_spec hfound).2, hp.recordable⟩

variable {plan : ExecutionPlan} {orders : List BrokerOrderFact} {fills : List BrokerFillFact}

/-- Facts that mirror the session show every result as its own. -/
lemma alike_of_mirrors {observed : List ReplayOrderResult}
    (heconomics : ∀ r ∈ results, Economics r)
    (hstands : List.Forall₂ (Stands results) observed results)
    (hstate : SaysAll plan.orders observed orders fills)
    (hmirrors : Mirrors plan results orders fills) :
    observed.map resultFill = results.map resultFill := by
  have hobserved : ∀ o ∈ observed, Economics o := by
    intro o ho
    obtain ⟨r, -, hstand⟩ := exists_of_forall₂ hstands.flip o ho
    exact heconomics o (byKey_spec hstand.found).1
  refine resultFill_map_eq (hstands.imp fun o r h => h.key) hobserved heconomics ?_ ?_
  · rw [← hstate.filled, hmirrors.filled]
  · rw [← hstate.traded, hmirrors.traded]

/-- Facts that show every result as its own mirror the session. -/
lemma mirrors_of_alike {observed : List ReplayOrderResult}
    (heconomics : ∀ r ∈ results, Economics r)
    (hstate : SaysAll plan.orders observed orders fills)
    (halike : observed.map resultFill = results.map resultFill) :
    Mirrors plan results orders fills := by
  have htraded : fills.map factFill = (results.filter isFilled).map resultFill :=
    hstate.traded.trans (filled_map_eq halike)
  have hfilled : observed.map (·.filledShares) = results.map (·.filledShares) := by
    have hshares := congrArg (List.map (·.shares)) halike
    rwa [List.map_map, List.map_map] at hshares
  exact {
    planned := hstate.identity
    filled := hstate.filled.trans hfilled
    traded := htraded
    named := hstate.named
    shares := fun symbol side => by
      rw [htraded]
      refine total_filter heconomics fun fill hshares _ _ _ _ => ?_
      rw [hshares, Nat.cast_zero]
    notional := fun symbol side => by
      rw [htraded]
      refine total_filter heconomics fun fill hshares _ _ _ _ => ?_
      unfold FillEconomics.notional
      rw [hshares, Nat.cast_zero, mul_zero]
    fees := fun symbol side => by
      rw [htraded]
      refine total_filter heconomics fun fill _ _ hcommission hstamp htransfer => ?_
      unfold FillEconomics.fees
      rw [hcommission, hstamp, htransfer, add_zero, add_zero] }

lemma facts_of_results (hof : List.Forall₂ ResultOf plan.orders results)
    (heconomics : ∀ r ∈ results, Economics r) :
    (∃ orders fills, factsFrom digests session results 0 plan.orders = .ok (orders, fills) ∧
        Mirrors plan results orders fills) ↔
      FilledAlike results ∧ (∀ r ∈ results, Recordable r) ∧
        ∀ planned ∈ plan.orders,
          textViolation "client order id" planned.uquantOrderId = none := by
  constructor
  · rintro ⟨orders, fills, hfacts, hmirrors⟩
    obtain ⟨observed, hreports, hstate⟩ := factsFrom_spec heconomics hfacts
    have hstands := stands_of_reports hreports hof
    have halike := alike_of_mirrors heconomics hstands hstate hmirrors
    have hboth : ∀ r ∈ results, ∃ o, Stands results o r ∧ resultFill o = resultFill r := by
      have hall := hstands.mp (fun o r hs hr => And.intro hs hr) (map_eq_map_iff_forall₂.mp halike)
      intro r hr
      obtain ⟨o, -, h⟩ := exists_of_forall₂ hall r hr
      exact ⟨o, h⟩
    refine ⟨fun a ha b hb hsymbol hside => ?_, fun r hr => ?_, fun planned hplanned => ?_⟩
    · obtain ⟨o, hstand, hfill⟩ := hboth a ha
      obtain ⟨o', hstand', hfill'⟩ := hboth b hb
      have hsame := hstand.found
      rw [hsymbol, hside, hstand'.found] at hsame
      cases hsame
      exact hfill.symm.trans hfill'
    · obtain ⟨o, hstand, hfill⟩ := hboth r hr
      exact (recordable_congr hfill).mp hstand.recordable
    · obtain ⟨o, -, hreport⟩ := exists_of_forall₂ hreports.flip planned hplanned
      exact hreport.id
  · rintro ⟨halike, hrecordable, hids⟩
    have hreports : ∀ planned ∈ plan.orders, ∃ observed, Reports results planned observed := by
      intro planned hplanned
      obtain ⟨r, hr, hresult⟩ := exists_of_forall₂ hof.flip planned hplanned
      obtain ⟨o, hfound⟩ := byKey_of_mem hr
      obtain ⟨ho, hsymbol, hside⟩ := byKey_spec hfound
      have hfill := halike o ho r hr hsymbol hside
      have hshares : o.filledShares = r.filledShares := congrArg (·.shares) hfill
      rw [hresult.symbol, hresult.side] at hfound
      exact ⟨o, hfound, hids planned hplanned, hshares.trans_le hresult.filled_le,
        hrecordable o ho⟩
    obtain ⟨orders, fills, hfacts⟩ := @factsFrom_returns _ digests session 0 _ heconomics hreports
    obtain ⟨observed, hall, hstate⟩ := factsFrom_spec heconomics hfacts
    refine ⟨orders, fills, hfacts, mirrors_of_alike heconomics hstate ?_⟩
    have hmem : List.Forall₂ (fun r r' => r = r' ∧ r ∈ results) results results :=
      List.forall₂_same.mpr fun r hr => ⟨rfl, hr⟩
    rw [map_eq_map_iff_forall₂]
    refine forall₂_comp (stands_of_reports hall hof) hmem fun o r r' hstand hr => ?_
    obtain ⟨rfl, hr⟩ := hr
    exact halike o (byKey_spec hstand.found).1 r hr hstand.key.1 hstand.key.2

/-- The facts of a replayed plan mirror what the session did exactly if it filled all orders of one
symbol and side alike, in amounts and under ids that a broker fact takes. -/
theorem facts_mirror_iff {planDigests : PlanDigests} {snapshot : DecisionSnapshot}
    {broker : ExecutionBrokerSnapshot} {planning : PlanningResult} {participation : ℚ}
    {outcome : Option ReplaySessionResult}
    (hplan : ExecutionPlanner.plan planDigests snapshot broker = .ok planning)
    (hsession : replaySession planning.toExecutionPlan account participation bars costs =
      .ok outcome) :
    (∃ orders fills, brokerExecutionFacts digests planning.toExecutionPlan outcome session =
          .ok (orders, fills) ∧
        Mirrors planning.toExecutionPlan (resultOrders outcome) orders fills) ↔
      FilledAlike (resultOrders outcome) ∧ (∀ r ∈ resultOrders outcome, Recordable r) ∧
        ∀ planned ∈ planning.orders,
          textViolation "client order id" planned.uquantOrderId = none := by
  have hsorted : planning.toExecutionPlan.orders.Pairwise fun a b =>
      b.side = .sell → a.side = .sell := by
    obtain ⟨-, pending, freeze, -, -, -, rfl⟩ := ExecutionPlanner.plan_eq_ok.mp hplan
    refine List.pairwise_map.mpr ((List.pairwise_insertionSort _ _).imp fun {a b} hab hb => ?_)
    unfold ExecutionPlanner.OrderLE at hab
    split_ifs at hab with hside
    · exact hside.trans hb
    · exact hab
  obtain ⟨hof, heconomics⟩ := results_of_session hsorted hsession
  have hids : (∀ planned ∈ planning.toExecutionPlan.orders,
        textViolation "client order id" planned.uquantOrderId = none) ↔
      ∀ planned ∈ planning.orders,
        textViolation "client order id" planned.uquantOrderId = none := by
    unfold PlanningResult.toExecutionPlan
    rw [List.forall_mem_map]
  rw [← hids]
  exact facts_of_results hof heconomics

/-! ## Sample plans -/

open ExecutionPlanner

/-- An account with 2500 in cash, and one symbol that trades at 10. -/
def modestBroker : ExecutionBrokerSnapshot where
  brokerSnapshot := { wealthyBroker.brokerSnapshot with
    account := {
      accountIdHash := "account"
      accountType := .cash
      availableCash := ⟨2500, by norm_num⟩
      totalAssets := ⟨2500, by norm_num⟩
      cash_le_assets := le_rfl } }
  instruments := wealthyBroker.instruments
  quotes := wealthyBroker.quotes.map fun quote : QuoteFact =>
    { quote with askPrice := some ⟨10, ten_pos⟩ }
  marketStatus := .open
  instruments_nodup := by decide
  quotes_nodup := by decide
  instrument_sessions := wealthyBroker.instrument_sessions
  quote_sessions := by simp [wealthyBroker]
  quote_statuses := by simp [wealthyBroker]

/-- The account of the replay. -/
def modestAccount : ReplayAccount where
  cash := 2500
  positions := ∅
  sellable := ∅
  valid := {
    cash_nonneg := by norm_num
    symbols_nonempty := by decide
    sellable_le := by decide
    positions_pos := by decide }

/-- The plan to buy the symbol once for each id. -/
def buysOf (orderIds : List String) : PlanningResult :=
  planOf sampleDigests (decisionOf (orderIds.map wholeOrder)) modestBroker false
    ((Json.sortedItems (orderIds.map wholeOrder)).filterMap readItem)

lemma plan_buysOf {orderIds : List String} (hnodup : orderIds.Nodup)
    (hids : ((Json.sortedItems (orderIds.map wholeOrder)).filterMap readItem).map (·.orderId) =
      orderIds) :
    ExecutionPlanner.plan sampleDigests (decisionOf (orderIds.map wholeOrder)) modestBroker =
      .ok (buysOf orderIds) := by
  have hexact : ∀ ids : List String, Json.ExactItems (ids.map wholeOrder) := by
    intro ids
    induction ids with
    | nil => exact trivial
    | cons id ids ih => exact ⟨exact_wholeOrder id, ih⟩
  have hsorted : ∀ items : List Json, (Json.sortedItems items).length = items.length := by
    intro items
    induction items with
    | nil => rfl
    | cons item items ih => simp [Json.sortedItems, ih]
  have hlength : ((Json.sortedItems (orderIds.map wholeOrder)).filterMap readItem).length =
      (Json.sortedItems (orderIds.map wholeOrder)).length := by
    rw [← List.length_map (·.orderId), hids, hsorted, List.length_map]
  refine plan_eq_ok.mpr ⟨(by decide : (1 : Date) < 2), _, false,
    decisionItems_decisionOf (hexact orderIds), ?_, ?_, rfl⟩
  · exact List.filterMap_length_eq_length.mp hlength
  · rwa [hids]

/-- The replay of such a plan. -/
def replayOf (orderIds : List String) : Except ReplayError (Option ReplaySessionResult) :=
  replaySession (buysOf orderIds).toExecutionPlan modestAccount (1 / 10) quietBars
    ExecutionReplay.freeCosts

/-- The digests of the samples. -/
def sampleFactDigests : FactDigests where
  orderId _ id := id
  fillId _ id _ _ := id
  order _ := "order"
  fill _ := "fill"

/-- One order is filled as far as the cash goes. -/
lemma replay_single : ∃ outcome, replayOf ["a"] = .ok outcome ∧
    (resultOrders outcome).map resultFill =
      [⟨"sh600001", .buy, 200, some 10, 0, 0, 0⟩] := by
  have hrun : (replayOf ["a"]).toOption.map (fun outcome => (resultOrders outcome).map resultFill) =
      some [⟨"sh600001", .buy, 200, some 10, 0, 0, 0⟩] := by
    decide +kernel
  exact exists_of_map hrun

/-- The facts of one order. -/
theorem single_order_mirrored : ∃ outcome, replayOf ["a"] = .ok outcome ∧
    ∃ orders fills, brokerExecutionFacts sampleFactDigests (buysOf ["a"]).toExecutionPlan outcome
        2 = .ok (orders, fills) ∧
      Mirrors (buysOf ["a"]).toExecutionPlan (resultOrders outcome) orders fills := by
  obtain ⟨outcome, houtcome, hfills⟩ := replay_single
  have hplan := @plan_buysOf ["a"] (by decide) (by decide +kernel)
  refine ⟨outcome, houtcome, (facts_mirror_iff hplan houtcome).mpr ⟨?_, ?_, by decide +kernel⟩⟩
  · intro a ha b hb _ _
    have hall : ∀ r ∈ resultOrders outcome,
        resultFill r = ⟨"sh600001", .buy, 200, some 10, 0, 0, 0⟩ := by
      intro r hr
      have hmem := List.mem_map_of_mem (f := resultFill) hr
      rw [hfills] at hmem
      exact List.mem_singleton.mp hmem
    rw [hall a ha, hall b hb]
  · intro r hr price hprice
    have hmem := List.mem_map_of_mem (f := resultFill) hr
    rw [hfills, List.mem_singleton] at hmem
    unfold resultFill at hmem
    simp only [FillEconomics.mk.injEq] at hmem
    obtain ⟨-, -, -, hpaid, hcommission, hstamp, htransfer⟩ := hmem
    rw [hprice] at hpaid
    cases hpaid
    rw [hcommission, hstamp, htransfer]
    exact ⟨⟨⟨10 * 10 ^ 8, by norm_num⟩, by norm_num [maxIntegerDigits]⟩, by norm_num, by norm_num,
      by norm_num⟩

/-- Two orders to buy one symbol: the cash pays for the first, and the facts show no fill. -/
theorem earlier_fill_lost : ¬ ∀ (digests : FactDigests) planDigests snapshot broker planning account
    participation bars costs outcome session,
      ExecutionPlanner.plan planDigests snapshot broker = .ok planning →
        replaySession planning.toExecutionPlan account participation bars costs = .ok outcome →
          ∃ orders fills, brokerExecutionFacts digests planning.toExecutionPlan outcome session =
              .ok (orders, fills) ∧
            Mirrors planning.toExecutionPlan (resultOrders outcome) orders fills := by
  intro h
  have hplan := @plan_buysOf ["a", "b"] (by decide) (by decide +kernel)
  have hrun : (do
      let outcome ← (replayOf ["a", "b"]).toOption
      let facts ← (brokerExecutionFacts sampleFactDigests
        (buysOf ["a", "b"]).toExecutionPlan outcome
        2).toOption
      return (facts.2.length, ((resultOrders outcome).filter isFilled).length)) = some (0, 1) := by
    decide +kernel
  cases houtcome : replayOf ["a", "b"] with
  | error e =>
    rw [houtcome] at hrun
    cases hrun
  | ok outcome =>
    obtain ⟨orders, fills, hfacts, hmirrors⟩ :=
      h sampleFactDigests _ _ _ _ _ _ _ _ _ 2 hplan houtcome
    rw [houtcome] at hrun
    simp only [Except.toOption, hfacts, Option.bind_eq_bind, Option.bind_some, Option.pure_def,
      Option.some.injEq, Prod.mk.injEq] at hrun
    obtain ⟨hnone, hone⟩ := hrun
    have hlength := congrArg List.length hmirrors.traded
    rw [List.length_map, List.length_map, hnone, hone] at hlength
    cases hlength

end ReplayRunner

end FirmQuant
