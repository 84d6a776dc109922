import FirmQuant.Broker.PaperEconomics

/-!
# Resting SELL orders of the paper broker

`match` of an order that is already at the broker asks `_submission_reason` again.  The question is
about the command, and not about what is left of it: the requested shares have to be sellable once
more, although the fills of the order have taken some of them away.  `_round_fill_quantity` too
compares the requested shares with the position.

So a resting SELL whose remaining shares are sellable and within the participation is filled by
these shares exactly if all that was ever requested is sellable now, in whole trading units, or as
the whole of the position by an order without fills.
-/

namespace FirmQuant

open Decimal Effect

namespace PaperBroker

/-! ## What is asked of the order -/

/-- What `_submission_reason` asks of the market, the instrument, its limits and the limit price. -/
structure MarketPasses (b : PaperBroker) (command : BrokerOrderCommand)
    (instrument : InstrumentFact) (quote : QuoteFact) : Prop where
  listed : b.instruments.lookup command.symbol = some instrument
  quoted : b.quotes.lookup command.symbol = some quote
  marketOpen : b.marketStatus ∈ b.allowedStatuses
  status : quote.marketStatus = b.marketStatus
  equity : instrument.securityType = .equity
  trading : instrument.status = .trading
  limits : ∃ lower upper, instrument.lowerLimit = some lower ∧ instrument.upperLimit = some upper ∧
    quote.lowerLimit = some lower ∧ quote.upperLimit = some upper ∧
    lower.value ≤ command.limitPrice.value ∧ command.limitPrice.value ≤ upper.value
  session : instrument.sessionDate = quote.sessionDate
  precision : command.limitPrice.decimalPlaces ≤ instrument.pricePrecision
  tick : (command.limitPrice.value / instrument.priceTick.value).den = 1

/-- A SELL order at the broker whose remaining shares could be sold: the market passes, the quote is
marketable after slippage, and the remaining shares are sellable and within the participation. -/
structure RestingSell (b : PaperBroker) (brokerOrderId : String) (order : BrokerOrderFact)
    (command : BrokerOrderCommand) (instrument : InstrumentFact) (quote : QuoteFact)
    (price : Price) : Prop where
  placed : b.orders.lookup brokerOrderId = some order
  commanded : b.commands.lookup brokerOrderId = some command
  sell : order.side = .sell
  resting : order.status = .acknowledged ∨ order.status = .partiallyFilled
  market : b.MarketPasses command instrument quote
  marketable : b.fillPrice command instrument quote = .ok (.ok price)
  sellable : order.requestedShares - order.filledShares ≤
    sellableShares b.positions command.symbol
  capacity : order.requestedShares - order.filledShares ≤ b.participationCapacity command quote

/-- All that remains of the order was filled at once. -/
def FillsRemaining (b t : PaperBroker) (brokerOrderId : String) (order : BrokerOrderFact) : Prop :=
  ∃ fill, t.fills = b.fills ++ [fill] ∧ fill.brokerOrderId = brokerOrderId ∧
    fill.shares = order.requestedShares - order.filledShares ∧
    ∃ updated, t.orders.lookup brokerOrderId = some updated ∧ updated.status = .filled ∧
      updated.filledShares = updated.requestedShares

/-- The broker answers and can book what remains, and the whole of the request is still sellable: in
trading units, or as all of the position by an order without fills. -/
structure StillSellable (b : PaperBroker) (order : BrokerOrderFact) (command : BrokerOrderCommand)
    (instrument : InstrumentFact) (price : Price) : Prop where
  connected : b.connected = true
  delivering : b.callbackDeliveryFailed = false
  sellable : order.requestedShares ≤ sellableShares b.positions command.symbol
  lots : instrument.tradingUnit ∣ order.requestedShares ∨
    order.filledShares = 0 ∧ totalShares b.positions command.symbol = order.requestedShares
  books : b.CanBook command price (order.requestedShares - order.filledShares)

/-! ## The quantity -/

section Quantity

variable {b : PaperBroker} {command : BrokerOrderCommand} {instrument : InstrumentFact}
  {quote : QuoteFact} {price : Price}

/-- When the market passes, only the quantity is in question. -/
lemma MarketPasses.submissionReason (h : b.MarketPasses command instrument quote) :
    b.submissionReason command = b.quantityReason command instrument := by
  obtain ⟨lower, upper, hlower, hupper, hquoteLower, hquoteUpper, hge, hle⟩ := h.limits
  have hquoteOpen : quote.marketStatus ∈ b.allowedStatuses := h.status ▸ h.marketOpen
  have hopen : ¬ (b.marketStatus ∉ b.allowedStatuses ∨ quote.marketStatus ∉ b.allowedStatuses) := by
    rintro (hclosed | hclosed)
    · exact hclosed h.marketOpen
    · exact hclosed hquoteOpen
  have hprecision := Nat.not_lt.mpr h.precision
  unfold PaperBroker.submissionReason
  simp only [h.listed, h.quoted, hlower, hupper, hquoteLower, hquoteUpper]
  rw [if_neg hopen, if_neg (not_not.mpr h.status.symm), if_neg (not_not.mpr h.equity),
    if_neg (not_not.mpr h.trading), if_neg (by simp), if_neg (not_not.mpr h.session),
    if_neg (not_not.mpr ⟨hge, hle⟩), if_neg hprecision, if_neg (not_not.mpr h.tick)]

variable (hside : command.side = .sell)

include hside

variable {position : BrokerPositionFact}

/-- The quantity of a SELL passes when the position is there and it is in whole trading units or
the whole position. -/
lemma quantityReason_eq_none (hposition : b.positions.lookup command.symbol = some position) :
    b.quantityReason command instrument = none ↔
      command.requestedShares ≤ position.sellableShares ∧
      (instrument.tradingUnit ∣ command.requestedShares ∨
        position.totalShares = command.requestedShares) := by
  have hle := position.sellable_le_total
  unfold quantityReason
  simp only [hside, hposition, Option.any_some, decide_eq_true_eq, true_and]
  constructor
  · intro h
    split_ifs at h with hunit htotal hsellable
    refine ⟨Nat.not_lt.mp hsellable, ?_⟩
    by_contra hlots
    rw [not_or] at hlots
    exact hunit ⟨fun hzero => hlots.1 (Nat.dvd_of_mod_eq_zero hzero), hlots.2⟩
  · rintro ⟨hsellable, hlots⟩
    rw [if_neg, if_neg (by omega), if_neg (by omega)]
    rintro ⟨hunit, hother⟩
    rcases hlots with hlots | hlots
    · exact hunit (Nat.mod_eq_zero_of_dvd hlots)
    · exact hother hlots

/-- A SELL is rounded down to trading units, unless it is the whole position. -/
lemma roundFillQuantity_sell {candidate : ℕ}
    (hpos : 0 < candidate) (hposition : b.positions.lookup command.symbol = some position) :
    b.roundFillQuantity command instrument candidate =
      if position.totalShares ≤ candidate ∧ command.requestedShares = position.totalShares then
        position.totalShares
      else candidate - candidate % instrument.tradingUnit := by
  unfold roundFillQuantity
  rw [if_neg hpos.ne', hside, hposition]

/-- What a SELL is filled with is all that was requested, or it is in whole trading units. -/
lemma decideFill_lots {remaining shares : ℕ}
    (h : b.decideFill command instrument quote remaining = .ok (.ok (price, shares))) :
    shares = command.requestedShares ∨ instrument.tradingUnit ∣ shares := by
  have hunits : ∀ candidate : ℕ,
      instrument.tradingUnit ∣ candidate - candidate % instrument.tradingUnit :=
    fun candidate => Nat.dvd_sub_mod candidate
  unfold decideFill at h
  split at h
  · cases h
  · obtain ⟨filled, -, h⟩ := bind_ok_iff.mp h
    split at h
    · cases h
    · obtain ⟨quantity, hquantity, h⟩ := bind_ok_iff.mp h
      split at h
      · split at h <;> cases h
      · cases h
        rw [affordableQuantity, hside] at hquantity
        cases hquantity
        unfold roundFillQuantity
        rw [hside]
        split_ifs
        · exact Or.inr (dvd_zero _)
        · split
          · split_ifs with hall
            · exact Or.inl hall.2.symm
            · exact Or.inr (hunits _)
          · exact Or.inr (hunits _)

/-- When the market and the quantity pass, a SELL is filled by its rounded candidate. -/
lemma decideFill_sell {remaining : ℕ} (hmarket : b.MarketPasses command instrument quote)
    (hprice : b.fillPrice command instrument quote = .ok (.ok price))
    (hquantity : b.quantityReason command instrument = none) :
    b.decideFill command instrument quote remaining = .ok
      (if b.roundFillQuantity command instrument (b.candidateShares command quote remaining) = 0
        then .error .volumeCapacityExhausted
        else .ok (price, b.roundFillQuantity command instrument
          (b.candidateShares command quote remaining))) := by
  have hpaid : ∀ quantity, b.affordableQuantity command price quantity instrument.tradingUnit =
      .ok quantity := by
    intro quantity
    unfold affordableQuantity
    rw [hside]
  unfold decideFill
  rw [hmarket.submissionReason, hquantity, hprice]
  simp only [bind, Except.bind, hpaid, hside, reduceCtorEq, false_and, if_false]
  split_ifs
  · rfl
  · rfl

/-- What remains of a SELL with fills in whole trading units is filled at once exactly if all of it
could be sold anew. -/
lemma decideFill_remaining {filled : ℕ} (hmarket : b.MarketPasses command instrument quote)
    (hprice : b.fillPrice command instrument quote = .ok (.ok price))
    (hfilled : filled < command.requestedShares) (hunits : instrument.tradingUnit ∣ filled)
    (hsellable : command.requestedShares - filled ≤ sellableShares b.positions command.symbol)
    (hcapacity : command.requestedShares - filled ≤ b.participationCapacity command quote) :
    b.decideFill command instrument quote (command.requestedShares - filled) =
        .ok (.ok (price, command.requestedShares - filled)) ↔
      command.requestedShares ≤ sellableShares b.positions command.symbol ∧
      (instrument.tradingUnit ∣ command.requestedShares ∨
        filled = 0 ∧ totalShares b.positions command.symbol = command.requestedShares) := by
  have hremaining : 0 < command.requestedShares - filled := Nat.sub_pos_of_lt hfilled
  obtain ⟨position, hposition⟩ :
      ∃ position, b.positions.lookup command.symbol = some position := by
    cases hlookup : b.positions.lookup command.symbol with
    | none =>
      unfold sellableShares at hsellable
      rw [hlookup] at hsellable
      exact absurd hsellable (Nat.not_le.mpr hremaining)
    | some position => exact ⟨position, rfl⟩
  have hcandidate : b.candidateShares command quote (command.requestedShares - filled) =
      command.requestedShares - filled := by
    unfold candidateShares
    rw [hside]
    dsimp only
    rw [min_eq_left hcapacity]
    exact min_eq_left hsellable
  rw [sellableShares_of_lookup hposition, totalShares_of_lookup hposition]
  have hle := position.sellable_le_total
  have hreason : b.quantityReason command instrument = none ↔ _ :=
    quantityReason_eq_none hside hposition
  unfold decideFill
  rw [hmarket.submissionReason]
  cases hquantity : b.quantityReason command instrument with
  | some reason =>
    rw [hquantity] at hreason
    constructor
    · intro h
      cases h
    · rintro ⟨hall, hlots⟩
      exact absurd (hreason.mpr ⟨hall, hlots.imp_right And.right⟩) (by simp)
  | none =>
    obtain ⟨hall, hlots⟩ := hreason.mp hquantity
    rw [← hquantity, ← hmarket.submissionReason, ← decideFill, decideFill_sell hside hmarket hprice
      hquantity, hcandidate, roundFillQuantity_sell hside hremaining hposition]
    have hmod : (command.requestedShares - filled) % instrument.tradingUnit = 0 ↔
        instrument.tradingUnit ∣ command.requestedShares := by
      rw [← Nat.dvd_iff_mod_eq_zero, Nat.dvd_sub_iff_left hfilled.le hunits]
    by_cases hwhole : position.totalShares ≤ command.requestedShares - filled ∧
        command.requestedShares = position.totalShares
    · rw [if_pos hwhole]
      have hnone : filled = 0 := by omega
      have hall' : position.totalShares = command.requestedShares - filled := by omega
      rw [hall', if_neg hremaining.ne']
      exact ⟨fun _ => ⟨hall, Or.inr ⟨hnone, by omega⟩⟩, fun _ => rfl⟩
    · rw [if_neg hwhole]
      constructor
      · intro h
        refine ⟨hall, Or.inl (hmod.mp ?_)⟩
        have hrounded := Nat.mod_le (command.requestedShares - filled) instrument.tradingUnit
        split_ifs at h with hzero
        · cases h
        · have hsame : command.requestedShares - filled -
              (command.requestedShares - filled) % instrument.tradingUnit =
              command.requestedShares - filled := by
            simpa using h
          omega
      · rintro ⟨-, hunit | ⟨rfl, htotal⟩⟩
        · rw [hmod.mpr hunit, Nat.sub_zero, if_neg hremaining.ne']
        · exact absurd ⟨by omega, htotal.symm⟩ hwhole

end Quantity

/-! ## The orders at the broker -/

/-- The order can still be matched. -/
def Open (order : BrokerOrderFact) : Prop := order.status ∉ closedStatuses

/-- What stays true of the orders, whatever the calls: an order is of its command and counts its
fills, an open one is not yet filled, and the fills of an open SELL are in whole trading units. -/
structure OrderBook (hashes : PaperDigests) (b : PaperBroker) : Prop where
  digests : b.digests = hashes
  known : ∀ brokerOrderId order, b.orders.lookup brokerOrderId = some order →
    ∃ command, b.commands.lookup brokerOrderId = some command ∧
      order.symbol = command.symbol ∧ order.side = command.side ∧
      order.requestedShares = command.requestedShares ∧ order.limitPrice = command.limitPrice
  named : ∀ brokerOrderId order, b.orders.lookup brokerOrderId = some order →
    ∃ key, brokerOrderId = b.digests.order key ∧
      b.idempotencyOrders.lookup key = some brokerOrderId
  counted : ∀ brokerOrderId command, b.commands.lookup brokerOrderId = some command →
    (b.matchCounts.lookup brokerOrderId).isSome
  unfilled : ∀ brokerOrderId order, b.orders.lookup brokerOrderId = some order → Open order →
    order.filledShares < order.requestedShares
  lots : ∀ brokerOrderId order, b.orders.lookup brokerOrderId = some order → Open order →
    order.side = .sell → ∀ instrument, b.instruments.lookup order.symbol = some instrument →
    instrument.tradingUnit ∣ order.filledShares

/-- The brokers have the same orders, and no count is lost. -/
structure SameOrders (b t : PaperBroker) : Prop where
  instruments : t.instruments = b.instruments
  digests : t.digests = b.digests
  orders : t.orders = b.orders
  commands : t.commands = b.commands
  idempotencyOrders : t.idempotencyOrders = b.idempotencyOrders
  counts : ∀ brokerOrderId, (b.matchCounts.lookup brokerOrderId).isSome →
    (t.matchCounts.lookup brokerOrderId).isSome

section Orders

variable {b t : PaperBroker} {hashes : PaperDigests}

lemma SameOrders.refl (b : PaperBroker) : SameOrders b b := ⟨rfl, rfl, rfl, rfl, rfl, fun _ h => h⟩

lemma OrderBook.of_same (h : OrderBook hashes b) (hsame : SameOrders b t) : OrderBook hashes t := by
  obtain ⟨hinstruments, hdigests, horders, hcommands, hids, hcounts⟩ := hsame
  obtain ⟨hhashes, hknown, hnamed, hcounted, hunfilled, hlots⟩ := h
  refine ⟨hdigests.trans hhashes, ?_, ?_, ?_, ?_, ?_⟩
  · rwa [horders, hcommands]
  · rwa [horders, hdigests, hids]
  · rw [hcommands]
    exact fun brokerOrderId command hcommand =>
      hcounts brokerOrderId (hcounted brokerOrderId command hcommand)
  · rwa [horders]
  · rwa [horders, hinstruments]

variable {command : BrokerOrderCommand}

lemma OrderBook.registered (h : OrderBook hashes b)
    (hnew : b.idempotencyOrders.lookup command.idempotencyKey = none) :
    OrderBook hashes (b.register command) := by
  obtain ⟨hhashes, hknown, hnamed, hcounted, hunfilled, hlots⟩ := h
  refine ⟨hhashes, Known.register hknown hnamed hnew, Named.register hnamed hnew,
    forall_insert ?_ fun id other _ hother => isSome_insert (hcounted id other hother), hunfilled,
    hlots⟩
  exact Option.isSome_iff_exists.mpr ⟨0, AList.lookup_insert _⟩

/-- The invariant after an order is recorded. -/
lemma OrderBook.recorded (h : OrderBook hashes b) {fact : BrokerOrderFact}
    {brokerOrderId : String} {key : IdempotencyKey}
    (hcommand : b.commands.lookup brokerOrderId = some command)
    (hkey : brokerOrderId = b.digests.order key)
    (hid : b.idempotencyOrders.lookup key = some brokerOrderId)
    (hfact : fact.symbol = command.symbol ∧ fact.side = command.side ∧
      fact.requestedShares = command.requestedShares ∧ fact.limitPrice = command.limitPrice)
    (hunfilled : Open fact → fact.filledShares < fact.requestedShares)
    (hlots : Open fact → fact.side = .sell → ∀ instrument,
      b.instruments.lookup fact.symbol = some instrument →
      instrument.tradingUnit ∣ fact.filledShares) :
    OrderBook hashes { b with orders := b.orders.insert brokerOrderId fact } :=
  ⟨h.digests, forall_insert ⟨command, hcommand, hfact⟩ fun id order _ => h.known id order,
    forall_insert ⟨key, hkey, hid⟩ fun id order _ => h.named id order, h.counted,
    forall_insert hunfilled fun id order _ => h.unfilled id order,
    forall_insert hlots fun id order _ => h.lots id order⟩

end Orders

/-! ## The calls -/

section Calls

variable {b t : PaperBroker} {hashes : PaperDigests} {E : PaperBroker → Prop}

variable {digests : PaperDigests} {order : BrokerOrderFact} {instrument : InstrumentFact}

variable {status : BrokerOrderStatus} {reasonCode : PaperReason} {sessionDate : Option Date}

variable {command : BrokerOrderCommand} {brokerOrderId : String}

lemma Framed.sameOrders (h : Framed b t) : SameOrders b t := { h with }

/-- A decided fill keeps the invariant, whether or not it is booked. -/
lemma OrderBook.of_booking {quote : QuoteFact} {price : Price} {quantity : ℕ}
    (h : OrderBook hashes b) (horder : b.orders.lookup brokerOrderId = some order)
    (hcommand : b.commands.lookup brokerOrderId = some command) (hopen : Open order)
    (hinstrument : b.instruments.lookup command.symbol = some instrument)
    (hdecided : b.decideFill command instrument quote
      (order.requestedShares - order.filledShares) = .ok (.ok (price, quantity)))
    (ht : b.Booking order command brokerOrderId price quantity t) : OrderBook hashes t := by
  cases ht with
  | raised _ ht => exact h.of_same ht.sameOrders
  | refused _ _ _ _ _ ht => exact h.of_same { ht with }
  | booked _ _ _ _ _ hof hstatus ht =>
    obtain ⟨hfact, hfilled⟩ := hof
    obtain ⟨command', hcommand', hsymbol, hside, hrequested, -⟩ := h.known _ order horder
    cases hcommand.symm.trans hcommand'
    obtain ⟨key, hkey, hid⟩ := h.named _ order horder
    obtain ⟨-, hpos, hle⟩ := decideFill_spec hdecided
    have hlimit := order.filled_le_requested
    have hpartial : ∀ {fact : BrokerOrderFact}, fact.status = (if order.filledShares + quantity =
        order.requestedShares then .filled else .partiallyFilled) → Open fact →
        order.filledShares + quantity ≠ order.requestedShares := by
      intro fact hstatus hopen' hall
      rw [Open, hstatus, if_pos hall] at hopen'
      exact hopen' (by decide)
    refine OrderBook.of_same (h.recorded hcommand hkey hid hfact ?_ ?_) { ht with }
    · intro hopen'
      have hsome := hpartial hstatus hopen'
      rw [hfilled, hfact.2.2.1, ← hrequested]
      omega
    · intro hopen' hsell instrument' hinstrument'
      have hsome := hpartial hstatus hopen'
      rw [hfact.1, hinstrument] at hinstrument'
      cases hinstrument'
      have hsell' : command.side = .sell := hfact.2.1.symm.trans hsell
      have hbefore : instrument.tradingUnit ∣ order.filledShares :=
        h.lots _ order horder hopen (hside.trans hsell') instrument (hsymbol ▸ hinstrument)
      rw [hfilled]
      rcases decideFill_lots hsell' hdecided with hwhole | hunits
      · rw [← hrequested] at hwhole
        omega
      · exact dvd_add hbefore hunits

lemma sameOrders_withQuote {quote : Option QuoteFact} : SameOrders b (b.withQuote quote) := by
  cases quote with
  | none => exact .refl b
  | some quote => exact ⟨rfl, rfl, rfl, rfl, rfl, fun _ h => h⟩

lemma SameBook.sameOrders (h : SameBook b t) (hcounts : t.matchCounts = b.matchCounts) :
    SameOrders b t :=
  ⟨h.instruments, h.digests, h.orders, h.commands, h.idempotencyOrders,
    fun _ hsome => hcounts ▸ hsome⟩

/-- A new order keeps the invariant: without fills it is not filled, and no trading unit is
broken. -/
lemma orderBook_recordNew (h : OrderBook hashes b)
    (hnew : b.idempotencyOrders.lookup command.idempotencyKey = none) :
    Triple (fun t => t = b.register command)
      (recordOrder command (b.digests.order command.idempotencyKey) status 0 reasonCode sessionDate)
      (fun _ => OrderBook hashes) (OrderBook hashes) := by
  have hregistered : OrderBook hashes (b.register command) := h.registered hnew
  refine triple_at (.refl _) (triple_imp triple_recordOrder (fun _ h => h) ?_
    fun t ht => hregistered.of_same ht.1.sameOrders)
  rintro fact t ⟨⟨hfact, -⟩, ht⟩
  refine OrderBook.of_same (hregistered.recorded (AList.lookup_insert _) rfl
    (AList.lookup_insert _) hfact.1 (fun _ => ?_) fun _ _ instrument _ => ?_) ht.sameOrders
  · rw [hfact.2]
    exact fact.requested_pos
  · rw [hfact.2]
    exact dvd_zero _

lemma callRules_orderBook : CallRules (OrderBook hashes) fun _ _ => True where
  same h hsame hcounts := h.of_same (hsame.sameOrders hcounts)
  submitted h hnew _ := triple_post (orderBook_recordNew h hnew)
    (fun _ _ h => ⟨h, trivial⟩)
  matched {_ _ _ _ _ _ quote} h horder hcommand hopen hinstrument hquote _ := by
    obtain ⟨horder', hcommand'⟩ := lookup_withQuote quote horder hcommand
    exact triple_matchOpen (fun t ht => h.of_same ht.sameOrders) hquote
      (Known.requested h.known horder' hcommand') fun _ _ hdecided _ =>
        h.of_booking horder' hcommand' hopen hinstrument hdecided
  cancelled {b brokerOrderId current command} h hcurrent hcommand _ := by
    obtain ⟨key, hkey, hid⟩ := h.named brokerOrderId current hcurrent
    refine triple_at (.refl b) (triple_imp triple_recordOrder (fun _ h => h) ?_
      fun t ht => h.of_same ht.1.sameOrders)
    rintro fact t ⟨⟨hfact, hstatus⟩, ht⟩
    have hclosed : ¬ Open fact := by
      rw [Open, hstatus]
      decide
    exact (h.recorded hcommand hkey hid hfact.1 (fun hopen => absurd hopen hclosed)
      fun hopen => absurd hopen hclosed).of_same ht.sameOrders

/-- The broker before and after some call, which returns or raises. -/
def CallStep (b b' : PaperBroker) : Prop := ∃ call, b' = b.after call

/-- The invariant holds after any calls. -/
lemma orderBook_of_calls {account : BrokerAccountFact} {positions : List BrokerPositionFact}
    {instruments : List InstrumentFact} {quotes : List QuoteFact}
    {marketStatus : MarketSessionStatus} {policy : ExecutionPolicy}
    {clock : ℕ → DateTime} {initial : PaperBroker}
    (hcreate : create account positions instruments quotes marketStatus policy digests clock =
      .ok initial) (hrun : Relation.ReflTransGen CallStep initial b) : OrderBook digests b := by
  induction hrun with
  | refl =>
    obtain ⟨-, hdigests, -, horders, hcommands⟩ := created hcreate
    have hnone : ∀ id order, initial.orders.lookup id ≠ some order := by
      intro id order horder
      rw [horders, AList.lookup_empty] at horder
      cases horder
    refine ⟨hdigests, fun id order horder => absurd horder (hnone id order),
      fun id order horder => absurd horder (hnone id order), fun id command hcommand => ?_,
      fun id order horder => absurd horder (hnone id order),
      fun id order horder => absurd horder (hnone id order)⟩
    rw [hcommands, AList.lookup_empty] at hcommand
    cases hcommand
  | tail _ hstep ih =>
    obtain ⟨call, rfl⟩ := hstep
    exact callRules_orderBook.after ih trivial

end Calls

/-! ## The match -/

section Match

variable {b t : PaperBroker} {hashes : PaperDigests} {order : BrokerOrderFact}
  {command : BrokerOrderCommand} {brokerOrderId : String} {instrument : InstrumentFact}
  {quote : QuoteFact} {price : Price} {quantity : ℕ} {fill : BrokerFillFact}

/-- The fills of the broker do not change, except by a fill of this quantity that the account can
take. -/
def FilledOnly (b : PaperBroker) (command : BrokerOrderCommand) (price : Price) (quantity : ℕ)
    (t : PaperBroker) : Prop :=
  t.fills = b.fills ∨ ∃ fees fill, t.fills = b.fills ++ [fill] ∧
    b.policy.feeSchedule.calculate command.side price quantity = .ok fees ∧
    TradeOf command price quantity fees fill ∧ b.Books fill

lemma Booking.filledOnly (ht : b.Booking order command brokerOrderId price quantity t) :
    b.FilledOnly command price quantity t := by
  cases ht with
  | raised _ ht => exact .inl ht.fills
  | refused _ _ _ _ _ ht => exact .inl ht.fills
  | booked hfees htrade _ hbooks _ _ _ ht => exact .inr ⟨_, _, ht.fills, hfees, htrade, hbooks⟩

/-- What remains of an order is filled when the account can book it. -/
lemma Booking.fillsRemaining (hcount : (b.matchCounts.lookup brokerOrderId).isSome)
    (hrequested : order.requestedShares = command.requestedShares)
    (hunfilled : order.filledShares < order.requestedShares)
    (hbooks : b.CanBook command price (order.requestedShares - order.filledShares))
    (ht : b.Booking order command brokerOrderId price
      (order.requestedShares - order.filledShares) t) :
    FillsRemaining b t brokerOrderId order := by
  cases ht with
  | raised hraised _ => exact absurd ⟨hcount, Nat.sub_pos_of_lt hunfilled, hbooks⟩ hraised
  | refused hfees htrade hrefused _ _ _ =>
    obtain ⟨fees, hfees', hcan⟩ := hbooks
    cases hfees.symm.trans hfees'
    exact absurd (hcan _ htrade) hrefused
  | booked _ htrade hid _ _ hof hstatus ht =>
    have htotal := Nat.add_sub_cancel' hunfilled.le
    rw [if_pos htotal] at hstatus
    refine ⟨_, ht.fills, hid, htrade.shares, _, ?_, hstatus, ?_⟩
    · rw [ht.orders]
      exact AList.lookup_insert _
    · rw [hof.2, htotal, hof.1.2.2.1, hrequested]

/-- Whether a fill can be booked depends only on what it trades. -/
lemma Books.congr {fill' : BrokerFillFact} {fees : FeeBreakdown} (h : b.Books fill)
    (htrade : TradeOf command price quantity fees fill)
    (htrade' : TradeOf command price quantity fees fill') : b.Books fill' := by
  have hsymbol : fill'.symbol = fill.symbol := htrade'.symbol.trans htrade.symbol.symm
  have hside : fill'.side = fill.side := htrade'.side.trans htrade.side.symm
  have hshares : fill'.shares = fill.shares := htrade'.shares.trans htrade.shares.symm
  have hfees : totalFees fill' = totalFees fill := by
    unfold totalFees
    rw [htrade.commission, htrade.stampDuty, htrade.transferFee, htrade'.commission,
      htrade'.stampDuty, htrade'.transferFee]
  have hgross : gross fill' = gross fill := by
    unfold gross
    rw [htrade.price, htrade'.price, hshares]
  have hcash : b.cashAfter fill' = b.cashAfter fill := by
    unfold cashAfter amount
    rw [hside, hgross, hfees]
  have hpositions : b.positionsAfter fill' = b.positionsAfter fill := by
    unfold positionsAfter boughtPosition soldPositions
    rw [hside, hcash, hsymbol, hgross, hfees, hshares]
  unfold Books
  rw [hfees, hpositions, hcash]
  exact h

/-- A fill is decided at the price of `_fill_price`. -/
lemma decideFill_price {decided : Price} {remaining : ℕ}
    (hprice : b.fillPrice command instrument quote = .ok (.ok price))
    (h : b.decideFill command instrument quote remaining = .ok (.ok (decided, quantity))) :
    decided = price := by
  unfold decideFill at h
  rw [hprice] at h
  split at h
  · cases h
  · obtain ⟨filled, hfilled, h⟩ := bind_ok_iff.mp h
    cases hfilled
    obtain ⟨affordable, -, h⟩ := bind_ok_iff.mp h
    split at h
    · split at h <;> cases h
    · cases h
      rfl

variable {given : Option QuoteFact}

/-- A broker that answers and takes the quote matches the order that is open. -/
lemma matchOrder_eq {c : PaperBroker} (hconnected : b.connected = true)
    (hdelivering : b.callbackDeliveryFailed = false) (hid : brokerOrderId ≠ "")
    (horder : b.orders.lookup brokerOrderId = some order)
    (hcommand : b.commands.lookup brokerOrderId = some command)
    (hset : matchQuote command given b = .ok () c)
    (hquote : c.quotes.lookup command.symbol = some quote)
    (hinstrument : c.instruments.lookup command.symbol = some instrument) (hopen : Open order) :
    matchOrder brokerOrderId given b =
      matchOpen order command brokerOrderId instrument quote c := by
  have hfound : b.orderAndCommand brokerOrderId = .ok (order, command) := by
    unfold orderAndCommand
    rw [horder, hcommand]
  unfold matchOrder requireConnected requireCallbackDelivery
  simp only [bind_assoc, get_bind_apply, hconnected, hdelivering, refuse, reduceCtorEq, if_false,
    hid, pure_bind, hfound, raising]
  rw [bind_apply, hset]
  simp only [get_bind_apply, hquote, hinstrument]
  rw [if_neg hopen]

/-- A broker that is disconnected or whose callbacks are degraded raises before it does anything. -/
lemma matchOrder_silent (h : ¬ (b.connected = true ∧ b.callbackDeliveryFailed = false)) :
    ∃ e, matchOrder brokerOrderId given b = .error e b := by
  unfold matchOrder requireConnected requireCallbackDelivery
  cases hconnected : b.connected with
  | false =>
    refine ⟨.brokerDisconnected "paper broker is disconnected", ?_⟩
    simp only [bind_assoc, get_bind_apply, hconnected, refuse, if_true]
    rw [bind_apply, throw_apply]
  | true =>
    have hdegraded : b.callbackDeliveryFailed = true := by
      by_contra hdelivers
      exact h ⟨hconnected, eq_false_of_ne_true hdelivers⟩
    refine ⟨.callbackDelivery "paper callback delivery is degraded; reconcile before retry", ?_⟩
    simp only [bind_assoc, get_bind_apply, hconnected, hdegraded, refuse, reduceCtorEq, if_false,
      pure_bind, if_true]
    rw [bind_apply, throw_apply]

/-- In a broker whose orders are in order, what remains of a resting SELL is filled at once exactly
if the whole request is still sellable. -/
lemma RestingSell.fills_iff (hbook : OrderBook hashes b) (hid : brokerOrderId ≠ "")
    (hset : matchQuote command given b = .ok () (b.withQuote given))
    (h : (b.withQuote given).RestingSell brokerOrderId order command instrument quote price) :
    FillsRemaining b (finalState (matchOrder brokerOrderId given b)) brokerOrderId order ↔
      (b.withQuote given).StillSellable order command instrument price := by
  have hfills : (b.withQuote given).fills = b.fills := by cases given <;> rfl
  have hconnected : (b.withQuote given).connected = b.connected := by cases given <;> rfl
  have hdelivering : (b.withQuote given).callbackDeliveryFailed = b.callbackDeliveryFailed := by
    cases given <;> rfl
  have hsame : SameOrders b (b.withQuote given) := sameOrders_withQuote
  have hbook' : OrderBook hashes (b.withQuote given) := hbook.of_same hsame
  have hopen : Open order := by
    unfold Open
    rcases h.resting with hstatus | hstatus
    · rw [hstatus]
      decide
    · rw [hstatus]
      decide
  obtain ⟨command', hcommand', hsymbol, hside, hrequested, -⟩ := hbook'.known _ order h.placed
  cases h.commanded.symm.trans hcommand'
  have hsell : command.side = .sell := hside.symm.trans h.sell
  have hunfilled := hbook'.unfilled _ order h.placed hopen
  have hunits : instrument.tradingUnit ∣ order.filledShares :=
    hbook'.lots _ order h.placed hopen h.sell instrument (hsymbol ▸ h.market.listed)
  have hdecide := decideFill_remaining hsell h.market h.marketable (hrequested ▸ hunfilled) hunits
    (hrequested ▸ h.sellable) (hrequested ▸ h.capacity)
  rw [← hrequested] at hdecide
  have hrun : b.connected = true → b.callbackDeliveryFailed = false →
      matchOrder brokerOrderId given b =
        matchOpen order command brokerOrderId instrument quote (b.withQuote given) :=
    fun hconnected hdelivering => matchOrder_eq hconnected hdelivering hid
      (hsame.orders ▸ h.placed) (hsame.commands ▸ h.commanded) hset h.market.quoted
      h.market.listed hopen
  constructor
  · rintro ⟨fill, hfilled, -, hshares, -⟩
    have hchanged : ∀ {t : PaperBroker}, t.fills = b.fills ++ [fill] → t.fills ≠ b.fills := by
      intro t ht hsame
      rw [ht] at hsame
      simpa using congrArg List.length hsame
    have hanswers : b.connected = true ∧ b.callbackDeliveryFailed = false := by
      by_contra hdeaf
      obtain ⟨e, he⟩ : ∃ e, matchOrder brokerOrderId given b = .error e b :=
        matchOrder_silent hdeaf
      refine hchanged hfilled ?_
      rw [he]
      rfl
    rw [hrun hanswers.1 hanswers.2] at hfilled
    have honly : Triple (fun t => t = b.withQuote given)
        (matchOpen order command brokerOrderId instrument quote) (fun _ => _) _ :=
      triple_matchOpen (I := fun t => t.fills = (b.withQuote given).fills ∨
        ∃ price quantity, (b.withQuote given).decideFill command instrument quote
          (order.requestedShares - order.filledShares) = .ok (.ok (price, quantity)) ∧
          (b.withQuote given).FilledOnly command price quantity t)
        (fun t ht => .inl ht.fills) h.market.quoted hrequested
        fun _ _ hdecided t ht => .inr ⟨_, _, hdecided, ht.filledOnly⟩
    rcases Triple.finalState honly rfl with
      hnone | ⟨decided, quantity, hdecided, hnone | ⟨fees, booked, hbooked, hfees, htrade, hbooks⟩⟩
    iterate 2 exact absurd (hnone.trans hfills) (hchanged hfilled)
    · have hsameFill : booked = fill := by
        rw [hbooked, hfills] at hfilled
        simpa using hfilled
      subst hsameFill
      have hquantity : quantity = order.requestedShares - order.filledShares :=
        htrade.shares.symm.trans hshares
      have hprice : decided = price := decideFill_price h.marketable hdecided
      subst hquantity hprice
      obtain ⟨hsellable, hlots⟩ := hdecide.mp hdecided
      exact ⟨hconnected.trans hanswers.1, hdelivering.trans hanswers.2, hsellable, hlots, fees,
        hfees, fun other hother => hbooks.congr htrade hother⟩
  · rintro ⟨hconn, hdel, hsellable, hlots, hbooks⟩
    rw [hrun (hconnected ▸ hconn) (hdelivering ▸ hdel)]
    have hdecided := hdecide.mpr ⟨hsellable, hlots⟩
    have hfilled : FillsRemaining (b.withQuote given)
        (finalState (matchOpen order command brokerOrderId instrument quote (b.withQuote given)))
        brokerOrderId order := by
      unfold matchOpen
      simp only [get_bind_apply]
      rw [hdecided]
      have hle : order.filledShares + (order.requestedShares - order.filledShares) ≤
          command.requestedShares := by omega
      exact (Triple.finalState (triple_bookFill h.market.quoted hle) rfl).fillsRemaining
        (hbook'.counted _ _ h.commanded) hrequested hunfilled hbooks
    unfold FillsRemaining at hfilled ⊢
    rwa [hfills] at hfilled

end Match

/-- After any calls from a broker that the constructor builds, a resting SELL order whose remaining
shares could be sold is filled by `match` at once exactly if the broker answers and can book the
sale, and all that was ever requested is still sellable: in trading units, or as the whole position
by an order without fills. -/
theorem match_fills_remaining_iff {account : BrokerAccountFact}
    {positions : List BrokerPositionFact} {instruments : List InstrumentFact}
    {quotes : List QuoteFact}
    {marketStatus : MarketSessionStatus} {policy : ExecutionPolicy} {digests : PaperDigests}
    {clock : ℕ → DateTime} {initial b : PaperBroker}
    (hcreate : create account positions instruments quotes marketStatus policy digests clock =
      .ok initial) (hrun : Relation.ReflTransGen CallStep initial b)
    (hids : ∀ key, digests.order key ≠ "") {brokerOrderId : String} {order : BrokerOrderFact}
    {command : BrokerOrderCommand} {instrument : InstrumentFact} {quote : QuoteFact} {price : Price}
    {given : Option QuoteFact} (hset : matchQuote command given b = .ok () (b.withQuote given))
    (h : (b.withQuote given).RestingSell brokerOrderId order command instrument quote price) :
    FillsRemaining b (finalState (matchOrder brokerOrderId given b)) brokerOrderId order ↔
      (b.withQuote given).StillSellable order command instrument price := by
  have hbook : OrderBook digests b := orderBook_of_calls hcreate hrun
  have hsame : SameOrders b (b.withQuote given) := sameOrders_withQuote
  have hplaced : b.orders.lookup brokerOrderId = some order := hsame.orders ▸ h.placed
  obtain ⟨key, hkey, -⟩ := hbook.named brokerOrderId order hplaced
  rw [hbook.digests] at hkey
  exact h.fills_iff hbook (hkey ▸ hids key) hset

namespace RestingSample

open Sample

def payload : IntentPayload := { Sample.payload with requestedShares := 200 }

/-- A SELL of 200 shares at two cents. -/
def command : BrokerOrderCommand :=
  ⟨⟨payload⟩, ⟨payload⟩, "client", symbol, .sell, .limit, 200, price, 0, Nat.succ_pos _⟩

/-- The digests of the sample, where every order id has a text before the hash. -/
noncomputable def digests : PaperDigests where
  order key := if key = command.idempotencyKey then "paper-order-1"
    else "paper-order-" ++ (exists_digest "1").choose key
  fill _ _ _ _ := "paper-fill-1"
  orderPayload _ := "order"
  fillPayload _ := "fill"
  order_injective a b hab := by
    obtain ⟨hinjective, hother⟩ := (exists_digest "1").choose_spec
    have hone : "paper-order-1" = "paper-order-" ++ "1" := by decide
    dsimp only at hab
    rw [hone] at hab
    split_ifs at hab with ha hb hb
    · exact ha.trans hb.symm
    · exact absurd (String.append_right_inj _ |>.mp hab).symm (hother b)
    · exact absurd (String.append_right_inj _ |>.mp hab) (hother a)
    · exact hinjective (String.append_right_inj _ |>.mp hab)

def position (shares : ℕ) : BrokerPositionFact :=
  ⟨symbol, shares, shares, some price, ⟨2, two_nonneg⟩, le_refl shares⟩

/-- The quote with this volume. -/
def quote (volume sequence : ℕ) : QuoteFact :=
  { Sample.quote with volume := volume, sequence := sequence }

/-- The broker with a position of so many shares and a quote with the volume of 100. -/
noncomputable def broker (shares : ℕ) : PaperBroker :=
  { Sample.broker 10 (by norm_num) with
    positions := dictionary BrokerPositionFact.symbol [position shares]
    quotes := dictionary QuoteFact.symbol [quote 100 1]
    digests := digests }

lemma create_broker (shares : ℕ) (h : shares = 200 ∨ shares = 300) :
    create (Sample.account 10 (by norm_num)) [position shares] [instrument] [quote 100 1] .open
      Sample.policy digests (fun _ => 0) = .ok (broker shares) := by
  rcases h with rfl | rfl
  · rfl
  · rfl

/-- Half of the order is filled at once, and the other half rests at the broker. -/
noncomputable def resting (shares : ℕ) : PaperBroker :=
  after (after (broker shares) .connect) (.submitOrder command)

lemma resting_reached (shares : ℕ) :
    Relation.ReflTransGen CallStep (broker shares) (resting shares) :=
  .tail (.single ⟨.connect, rfl⟩) ⟨.submitOrder command, rfl⟩

/-- The broker with a quote of a larger volume. -/
noncomputable def offered (shares : ℕ) : PaperBroker :=
  (resting shares).withQuote (some (quote 1000 2))

lemma quote_taken (shares : ℕ) (h : shares = 200 ∨ shares = 300) :
    matchQuote command (some (quote 1000 2)) (resting shares) = .ok () (offered shares) := by
  have hreturns : returnsWith (fun _ _ => true)
      (matchQuote command (some (quote 1000 2)) (resting shares)) = true := by
    rcases h with rfl | rfl
    · decide +kernel
    · decide +kernel
  obtain ⟨_, t, ht, -⟩ := exists_ok_of_returnsWith hreturns
  rw [ht, triple_matchQuote.ok ht rfl]
  rfl

lemma exists_order (shares : ℕ) (h : shares = 200 ∨ shares = 300) :
    ∃ order, (resting shares).orders.lookup "paper-order-1" = some order ∧ order.side = .sell ∧
      order.status = .partiallyFilled ∧ order.requestedShares = 200 ∧ order.filledShares = 100 := by
  have hfound : ((resting shares).orders.lookup "paper-order-1").map (fun order =>
      (order.side, order.status, order.requestedShares, order.filledShares)) =
      some (.sell, .partiallyFilled, 200, 100) := by
    rcases h with rfl | rfl
    · decide +kernel
    · decide +kernel
  obtain ⟨order, horder, hfields⟩ := Option.map_eq_some_iff.mp hfound
  simp only [Prod.mk.injEq] at hfields
  exact ⟨order, horder, hfields⟩

/-- With a larger volume the other half of the order could be sold. -/
lemma restingSell (shares : ℕ) (h : shares = 200 ∨ shares = 300) {order : BrokerOrderFact}
    (horder : (resting shares).orders.lookup "paper-order-1" = some order)
    (hside : order.side = .sell) (hstatus : order.status = .partiallyFilled)
    (hremaining : order.requestedShares - order.filledShares = 100) :
    (offered shares).RestingSell "paper-order-1" order command instrument (quote 1000 2)
      Sample.price := by
  have hcapacity : 100 ≤ (offered shares).participationCapacity command (quote 1000 2) := by
    rcases h with rfl | rfl
    · decide +kernel
    · decide +kernel
  have hsellable : 100 ≤ sellableShares (offered shares).positions command.symbol := by
    rcases h with rfl | rfl
    · decide +kernel
    · decide +kernel
  have hmarket : (offered shares).MarketPasses command instrument (quote 1000 2) := by
    have hlimits : (1 / 100 : ℚ) ≤ 2 / 100 ∧ (2 / 100 : ℚ) ≤ 3 / 100 := by norm_num
    rcases h with rfl | rfl
    all_goals
      exact ⟨by decide +kernel, by decide +kernel, by decide +kernel, by decide +kernel, rfl, rfl,
        ⟨_, _, rfl, rfl, rfl, rfl, hlimits⟩, rfl, by decide +kernel, by decide +kernel⟩
  have hmarketable : (offered shares).fillPrice command instrument (quote 1000 2) =
      .ok (.ok Sample.price) := by
    rcases h with rfl | rfl
    · decide +kernel
    · decide +kernel
  have hcommanded : (offered shares).commands.lookup "paper-order-1" = some command := by
    rcases h with rfl | rfl
    · decide +kernel
    · decide +kernel
  exact ⟨horder, hcommanded, hside, Or.inr hstatus, hmarket, hmarketable, hremaining ▸ hsellable,
    hremaining ▸ hcapacity⟩

/-- The other half of the order. -/
def sale : BrokerFillFact where
  brokerFillId := "paper-fill-2"
  brokerOrderId := "paper-order-1"
  symbol := symbol
  side := .sell
  status := .confirmed
  shares := 100
  price := Sample.price
  commission := ⟨5, five_nonneg⟩
  stampDuty := Money.zero
  transferFee := Money.zero
  sessionDate := 0
  eventTime := 0
  receivedAt := 0
  eventSequence := 0
  rawPayloadSha256 := "fill"
  shares_pos := hundred_pos

lemma sale_books : (offered 300).Books sale := by
  have hreturns : returnsWith (fun _ _ => true) (applyEconomics sale (offered 300)) = true := by
    decide +kernel
  obtain ⟨_, t, ht, -⟩ := exists_ok_of_returnsWith hreturns
  exact (triple_applyEconomics.ok ht (.refl _)).1

end RestingSample

section

open RestingSample

/-- With a position of 300 shares, the other half of the order is filled. -/
theorem resting_half_filled : ∃ order,
    (resting 300).orders.lookup "paper-order-1" = some order ∧
    FillsRemaining (resting 300) (finalState (matchOrder "paper-order-1" (some (quote 1000 2))
      (resting 300))) "paper-order-1" order := by
  obtain ⟨order, horder, hside, hstatus, hrequested, hfilled⟩ := exists_order 300 (Or.inr rfl)
  have hremaining : order.requestedShares - order.filledShares = 100 := by omega
  have hids : ∀ key, RestingSample.digests.order key ≠ "" := by
    intro key hempty
    dsimp only [RestingSample.digests] at hempty
    split_ifs at hempty
    · exact absurd hempty (by decide)
    · exact absurd (congrArg String.length hempty) (by simp)
  refine ⟨order, horder, (match_fills_remaining_iff (create_broker 300 (Or.inr rfl))
    (resting_reached 300) hids (quote_taken 300 (Or.inr rfl)) (restingSell 300 (Or.inr rfl) horder
      hside hstatus hremaining)).mpr ⟨?_, ?_, ?_, Or.inl ?_, ?_⟩⟩
  · decide +kernel
  · decide +kernel
  · rw [hrequested]
    decide +kernel
  · rw [hrequested]
    decide
  · rw [hremaining]
    have htrade : TradeOf command Sample.price 100
        ⟨⟨5, by norm_num⟩, Money.zero, Money.zero⟩ sale := ⟨rfl, rfl, rfl, rfl, rfl, rfl, rfl⟩
    exact ⟨⟨⟨5, by norm_num⟩, Money.zero, Money.zero⟩, by decide +kernel,
      fun fill hfill => sale_books.congr htrade hfill⟩

/-- With a position of 200 shares, the other half of the order is sellable and within the
participation, but nothing is filled: the request of 200 shares exceeds what the first half left. -/
theorem resting_half_stuck : ∃ order,
    create (Sample.account 10 (by norm_num)) [position 200] [Sample.instrument] [quote 100 1] .open
      Sample.policy RestingSample.digests (fun _ => 0) = .ok (broker 200) ∧
    Relation.ReflTransGen CallStep (broker 200) (resting 200) ∧
    (offered 200).connected = true ∧ (offered 200).callbackDeliveryFailed = false ∧
    matchQuote command (some (quote 1000 2)) (resting 200) = .ok () (offered 200) ∧
    (offered 200).RestingSell "paper-order-1" order command Sample.instrument (quote 1000 2)
      Sample.price ∧
    ¬ FillsRemaining (resting 200) (finalState (matchOrder "paper-order-1" (some (quote 1000 2))
      (resting 200))) "paper-order-1" order := by
  obtain ⟨order, horder, hside, hstatus, hrequested, hfilled⟩ := exists_order 200 (Or.inl rfl)
  have hremaining : order.requestedShares - order.filledShares = 100 := by omega
  have hsame : (finalState (matchOrder "paper-order-1" (some (quote 1000 2))
      (resting 200))).fills.length = (resting 200).fills.length := by
    decide +kernel
  refine ⟨order, create_broker 200 (Or.inl rfl), resting_reached 200, ?_, ?_,
    quote_taken 200 (Or.inl rfl), restingSell 200 (Or.inl rfl) horder hside hstatus hremaining, ?_⟩
  · decide +kernel
  · decide +kernel
  · rintro ⟨fill, hfills, -⟩
    rw [hfills] at hsame
    simp at hsame

end

end PaperBroker

end FirmQuant
