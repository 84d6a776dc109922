import Mathlib.Data.Countable.Basic
import Mathlib.Data.Fintype.EquivFin
import Mathlib.Logic.Equiv.List
import Mathlib.Data.Set.Finite.Basic
import FirmQuant.Broker.PaperBroker

/-!
# The economics of the paper broker

Whatever calls the paper broker is given, its cash and its positions are those that it started with
and what its fills have moved, its orders are filled by the fills that carry their id, and every
fill has a price on the tick, within the limits of the instrument and not worse than the order's.

`applyEconomics` writes the positions before it rounds and checks the cash.  A SELL whose fees
exceed its proceeds and the cash raises in between: the shares are gone, and there is no fill.  The
invariant is kept by every call in which the account accepts the cash and the assets of its fill.
-/

namespace FirmQuant

open Decimal Effect

namespace PaperBroker

/-! ## Fills, positions and the account -/

/-- The shares of a symbol that the fills have moved on one side. -/
def tradedShares (fills : List BrokerFillFact) (symbol : Symbol) (side : Side) : ℕ :=
  ((fills.filter fun fill => fill.symbol = symbol ∧ fill.side = side).map (·.shares)).sum

/-- The shares that the fills have given to an order. -/
def orderShares (fills : List BrokerFillFact) (brokerOrderId : String) : ℕ :=
  ((fills.filter (·.brokerOrderId = brokerOrderId)).map (·.shares)).sum

/-- The shares of a symbol. -/
def totalShares (positions : AList fun _ : Symbol => BrokerPositionFact) (symbol : Symbol) : ℕ :=
  ((positions.lookup symbol).map (·.totalShares)).getD 0

/-- The sellable shares of a symbol. -/
def sellableShares (positions : AList fun _ : Symbol => BrokerPositionFact) (symbol : Symbol) : ℕ :=
  ((positions.lookup symbol).map (·.sellableShares)).getD 0

/-- The price of a fill is on the tick, within the limits and not worse than the order's. -/
def WellPriced (b : PaperBroker) (fill : BrokerFillFact) : Prop :=
  ∃ instrument order lower upper,
    b.instruments.lookup fill.symbol = some instrument ∧
    b.orders.lookup fill.brokerOrderId = some order ∧
    order.symbol = fill.symbol ∧ order.side = fill.side ∧
    instrument.lowerLimit = some lower ∧ instrument.upperLimit = some upper ∧
    (fill.price.value / instrument.priceTick.value).den = 1 ∧
    lower.value ≤ fill.price.value ∧ fill.price.value ≤ upper.value ∧
    worse order.side fill.price order.limitPrice = false

/-- The economic invariants, relative to the broker at its construction. -/
structure Economics (initial b : PaperBroker) : Prop where
  cash_nonneg : 0 ≤ b.account.availableCash.value
  cash : b.account.availableCash.value = initial.account.availableCash.value +
    (b.fills.map fun fill => roundUp 4 (amount fill)).sum
  total : ∀ symbol, totalShares b.positions symbol + tradedShares b.fills symbol .sell =
    totalShares initial.positions symbol + tradedShares b.fills symbol .buy
  /-- Only shares that were sellable at the construction are sellable or sold. -/
  sellable : ∀ symbol, sellableShares b.positions symbol + tradedShares b.fills symbol .sell =
    sellableShares initial.positions symbol
  unsellable : ∀ symbol, tradedShares b.fills symbol .buy + sellableShares b.positions symbol ≤
    totalShares b.positions symbol
  positions : ∀ symbol position, b.positions.lookup symbol = some position →
    position.sellableShares ≤ position.totalShares ∧
    ((∃ fill ∈ b.fills, fill.symbol = symbol) → 0 < position.totalShares)
  orders : ∀ brokerOrderId order, b.orders.lookup brokerOrderId = some order →
    order.filledShares = orderShares b.fills brokerOrderId ∧
    order.filledShares ≤ order.requestedShares
  prices : ∀ fill ∈ b.fills, WellPriced b fill

/-- The account accepts this cash beside these positions: rounded to four decimals, the cash is not
negative, and neither the cash nor all assets have too many digits. -/
def Accepts (cash : ℚ) (positions : AList fun _ : Symbol => BrokerPositionFact) : Prop :=
  0 ≤ quantize 4 cash ∧ quantize 4 cash < 10 ^ maxIntegerDigits ∧
    quantize 4 (quantize 4 cash + marketValue positions) < 10 ^ maxIntegerDigits

/-- If an order of this command with these shares remaining is filled now, the account accepts what
the fill makes of it. -/
def Covers (b : PaperBroker) (command : BrokerOrderCommand) (remaining : ℕ) : Prop :=
  ∀ instrument quote price shares fees,
    b.instruments.lookup command.symbol = some instrument →
    b.quotes.lookup command.symbol = some quote →
    b.decideFill command instrument quote remaining = .ok (.ok (price, shares)) →
    b.policy.feeSchedule.calculate command.side price shares = .ok fees →
    ∀ fill : BrokerFillFact, fill.symbol = command.symbol → fill.side = command.side →
      fill.price = price → fill.shares = shares → fill.commission = fees.commission →
      fill.stampDuty = fees.stampDuty → fill.transferFee = fees.transferFee →
      ∀ positions, b.positionsAfter fill = .ok positions → Accepts (b.cashAfter fill) positions

/-- `_apply_economics` of the fill does not raise. -/
def Books (b : PaperBroker) (fill : BrokerFillFact) : Prop :=
  ∃ fees positions availableCash totalAssets account,
    Money.create (totalFees fill) = .ok fees ∧ b.positionsAfter fill = .ok positions ∧
    money (b.cashAfter fill) "paper available cash" = .ok availableCash ∧
    money (availableCash.value + marketValue positions) "paper total assets" = .ok totalAssets ∧
    accountAfter b.account availableCash totalAssets = .ok account

/-- The fill trades these shares of the command at this price. -/
structure TradeOf (command : BrokerOrderCommand) (price : Price) (shares : ℕ) (fees : FeeBreakdown)
    (fill : BrokerFillFact) : Prop where
  symbol : fill.symbol = command.symbol
  side : fill.side = command.side
  shares : fill.shares = shares
  price : fill.price = price
  commission : fill.commission = fees.commission
  stampDuty : fill.stampDuty = fees.stampDuty
  transferFee : fill.transferFee = fees.transferFee

/-- The fees of such a trade have a value, and the account can take it: the position has a valuation
price, and cash and assets stay within their bounds. -/
def CanBook (b : PaperBroker) (command : BrokerOrderCommand) (price : Price) (shares : ℕ) : Prop :=
  ∃ fees, b.policy.feeSchedule.calculate command.side price shares = .ok fees ∧
    ∀ fill, TradeOf command price shares fees fill → b.Books fill

/-- The broker with the quote that a call of `match` is given. -/
def withQuote (b : PaperBroker) : Option QuoteFact → PaperBroker
  | some quote => { b with quotes := b.quotes.insert quote.symbol quote }
  | none => b

/-- The fill that a call may book is accepted by the account. -/
def Covered (b : PaperBroker) : Call → Prop
  | .submitOrder command => b.Covers command command.requestedShares
  | .matchOrder brokerOrderId quote => ∀ order command,
    b.orders.lookup brokerOrderId = some order → b.commands.lookup brokerOrderId = some command →
    (b.withQuote quote).Covers command (order.requestedShares - order.filledShares)
  | _ => True

/-- A call whose fill is accepted. -/
def CoveredStep (b b' : PaperBroker) : Prop := ∃ call, b.Covered call ∧ b' = b.after call

/-! ## What is filled -/

section Decide

variable {b : PaperBroker} {command : BrokerOrderCommand} {instrument : InstrumentFact}
  {quote : QuoteFact} {price : Price}

/-- The price is on the tick, within the limits of the instrument and not worse than the limit. -/
structure FairPrice (command : BrokerOrderCommand) (instrument : InstrumentFact) (price : Price) :
    Prop where
  tick : (price.value / instrument.priceTick.value).den = 1
  limits : ∃ lower upper, instrument.lowerLimit = some lower ∧ instrument.upperLimit = some upper ∧
    lower.value ≤ price.value ∧ price.value ≤ upper.value
  limit : worse command.side price command.limitPrice = false

lemma fairPrice_of_tickPrice {rawPrice : ℚ}
    (h : tickPrice command instrument rawPrice = .ok (.ok price)) :
    FairPrice command instrument price := by
  unfold tickPrice at h
  obtain ⟨ticked, hticked, h⟩ := bind_ok_iff.mp h
  have htick := instrument.priceTick.positive.ne'
  split at h
  · cases h
  next hworse =>
    split at h
    next lower upper hlower hupper =>
      split at h
      next hlimits =>
        cases h
        refine ⟨?_, ⟨lower, upper, hlower, hupper, hlimits⟩, by simpa using hworse⟩
        rw [Price.value_of_create hticked, mul_div_cancel_right₀ _ htick]
        obtain ⟨n, hn⟩ : HasPlaces 0 (quantize 0 (rawPrice / instrument.priceTick.value)) :=
          hasPlaces_quantize
        rw [hn, pow_zero, div_one]
        exact Rat.den_intCast n
      · cases h
    · cases h

lemma fairPrice_of_fillPrice (h : b.fillPrice command instrument quote = .ok (.ok price)) :
    FairPrice command instrument price := by
  unfold fillPrice at h
  dsimp only at h
  split at h
  · split at h
    · cases h
    · split at h
      · cases h
      · split at h
        · cases h
        · exact fairPrice_of_tickPrice h
  · split at h
    · cases h
    · split at h
      · cases h
      · split at h
        · cases h
        · exact fairPrice_of_tickPrice h

variable {tradingUnit shares candidate remaining : ℕ}

lemma affordableUnits_le {units : ℕ} (h : b.affordableUnits price tradingUnit units = .ok shares) :
    shares ≤ units * tradingUnit := by
  induction units with
  | zero =>
    cases h
    exact Nat.zero_le _
  | succ units ih =>
    unfold affordableUnits at h
    obtain ⟨fees, -, h⟩ := bind_ok_iff.mp h
    obtain ⟨total, -, h⟩ := bind_ok_iff.mp h
    split_ifs at h
    · cases h
      exact le_refl _
    · exact (ih h).trans (Nat.mul_le_mul_right _ (Nat.le_succ units))

lemma affordableBuyShares_le (h : b.affordableBuyShares price candidate tradingUnit = .ok shares) :
    shares ≤ candidate := by
  calc shares ≤ _ / tradingUnit * tradingUnit := affordableUnits_le h
    _ ≤ _ := Nat.div_mul_le_self _ _
    _ ≤ candidate := min_le_left _ _

lemma affordableQuantity_le {quantity : ℕ}
    (h : b.affordableQuantity command price quantity tradingUnit = .ok shares) :
    shares ≤ quantity := by
  unfold affordableQuantity at h
  split at h
  · exact affordableBuyShares_le h
  · cases h
    exact le_refl _

lemma roundFillQuantity_le :
    b.roundFillQuantity command instrument candidate ≤ candidate := by
  unfold roundFillQuantity
  split_ifs
  · exact Nat.zero_le _
  · split
    · split_ifs with h
      · exact h.1
      · exact Nat.sub_le _ _
    · exact Nat.sub_le _ _

lemma candidateShares_le :
    b.candidateShares command quote remaining ≤ remaining := by
  unfold candidateShares
  dsimp only
  split
  · exact min_le_left _ _
  · exact (min_le_left _ _).trans (min_le_left _ _)

/-- A fill has a fair price, some shares, and no more than remain. -/
lemma decideFill_spec
    (h : b.decideFill command instrument quote remaining = .ok (.ok (price, shares))) :
    FairPrice command instrument price ∧ 0 < shares ∧ shares ≤ remaining := by
  unfold decideFill at h
  split at h
  · cases h
  · obtain ⟨filled, hfilled, h⟩ := bind_ok_iff.mp h
    split at h
    · cases h
    · obtain ⟨quantity, hquantity, h⟩ := bind_ok_iff.mp h
      have hle : quantity ≤ remaining := (affordableQuantity_le hquantity).trans
        (roundFillQuantity_le.trans candidateShares_le)
      split at h
      · split at h <;> cases h
      next hzero =>
        cases h
        exact ⟨fairPrice_of_fillPrice hfilled, Nat.pos_of_ne_zero hzero, hle⟩

end Decide

/-! ## Positions and the account -/

section Settle

variable {b : PaperBroker} {fill : BrokerFillFact}
  {positions : AList fun _ : Symbol => BrokerPositionFact}

variable {position : BrokerPositionFact}

lemma totalShares_of_lookup {symbol : Symbol} (h : positions.lookup symbol = some position) :
    totalShares positions symbol = position.totalShares := by
  unfold totalShares
  rw [h]
  rfl

lemma sellableShares_of_lookup {symbol : Symbol} (h : positions.lookup symbol = some position) :
    sellableShares positions symbol = position.sellableShares := by
  unfold sellableShares
  rw [h]
  rfl

/-- What a fill does to the positions. -/
structure Traded (b : PaperBroker) (fill : BrokerFillFact)
    (positions : AList fun _ : Symbol => BrokerPositionFact) : Prop where
  others : ∀ symbol, symbol ≠ fill.symbol → positions.lookup symbol = b.positions.lookup symbol
  bought : fill.side = .buy →
    totalShares positions fill.symbol = totalShares b.positions fill.symbol + fill.shares ∧
    sellableShares positions fill.symbol = sellableShares b.positions fill.symbol
  sold : fill.side = .sell →
    totalShares positions fill.symbol + fill.shares = totalShares b.positions fill.symbol ∧
    sellableShares positions fill.symbol + fill.shares = sellableShares b.positions fill.symbol
  positive : ∀ position, positions.lookup fill.symbol = some position → 0 < position.totalShares

lemma boughtPosition_spec (h : b.boughtPosition fill = .ok position) :
    position.totalShares = totalShares b.positions fill.symbol + fill.shares ∧
    position.sellableShares = sellableShares b.positions fill.symbol := by
  unfold boughtPosition at h
  obtain ⟨⟨oldShares, oldCost, sellable⟩, hold, h⟩ := bind_ok_iff.mp h
  obtain ⟨valuation, -, h⟩ := bind_ok_iff.mp h
  obtain ⟨averageCost, -, h⟩ := bind_ok_iff.mp h
  obtain ⟨marketValue, -, h⟩ := bind_ok_iff.mp h
  have hshares : oldShares = totalShares b.positions fill.symbol ∧
      sellable = sellableShares b.positions fill.symbol := by
    unfold holding at hold
    unfold totalShares sellableShares
    split at hold
    next hnone =>
      cases hold
      rw [hnone]
      exact ⟨rfl, rfl⟩
    next old hlookup =>
      rw [hlookup]
      split at hold
      · cases hold
      · cases hold
        exact ⟨rfl, rfl⟩
  obtain ⟨rfl, rfl⟩ := hshares
  split at h
  · cases h
    exact ⟨rfl, rfl⟩
  · cases h

lemma traded_of_soldPositions (hside : fill.side = .sell)
    (h : b.soldPositions fill = .ok positions) : Traded b fill positions := by
  have hbuy : fill.side ≠ .buy := by
    rw [hside]
    decide
  unfold soldPositions at h
  split at h
  · cases h
  next position hposition =>
    split at h
    · cases h
    next henough =>
      rw [not_or, not_lt, not_lt] at henough
      obtain ⟨htotal, hsellable⟩ := henough
      have hle := position.sellable_le_total
      split at h
      next hall =>
        cases h
        have hnone := AList.lookup_erase fill.symbol b.positions
        refine ⟨fun symbol hother => AList.lookup_erase_ne hother,
          fun hside' => absurd hside' hbuy, fun _ => ?_, fun position hposition => ?_⟩
        · rw [totalShares_of_lookup hposition, sellableShares_of_lookup hposition, totalShares,
            sellableShares, hnone]
          dsimp only [Option.map_none, Option.getD_none]
          omega
        · rw [hnone] at hposition
          cases hposition
      next hsome =>
        obtain ⟨valuation, -, h⟩ := bind_ok_iff.mp h
        obtain ⟨marketValue, -, h⟩ := bind_ok_iff.mp h
        split at h
        · cases h
          refine ⟨fun symbol hother => AList.lookup_insert_ne hother,
            fun hside' => absurd hside' hbuy, fun _ => ?_, fun position hposition => ?_⟩
          · rw [totalShares_of_lookup hposition, sellableShares_of_lookup hposition,
              totalShares_of_lookup (AList.lookup_insert _),
              sellableShares_of_lookup (AList.lookup_insert _)]
            dsimp only
            omega
          · rw [AList.lookup_insert] at hposition
            cases hposition
            exact Nat.pos_of_ne_zero hsome
        · cases h

lemma traded_of_positionsAfter (h : b.positionsAfter fill = .ok positions) :
    Traded b fill positions := by
  unfold positionsAfter at h
  split at h
  next hside =>
    obtain ⟨_, -, h⟩ := bind_ok_iff.mp h
    obtain ⟨position, hposition, h⟩ := bind_ok_iff.mp h
    cases h
    obtain ⟨htotal, hsellable⟩ := boughtPosition_spec hposition
    refine ⟨fun symbol hother => AList.lookup_insert_ne hother, fun _ => ?_, fun hside' => ?_,
      fun position hposition => ?_⟩
    · rw [totalShares_of_lookup (AList.lookup_insert _),
        sellableShares_of_lookup (AList.lookup_insert _)]
      exact ⟨htotal, hsellable⟩
    · rw [hside] at hside'
      cases hside'
    · rw [AList.lookup_insert] at hposition
      cases hposition
      rw [htotal]
      exact Nat.add_pos_right _ fill.shares_pos
  next hside => exact traded_of_soldPositions hside h

lemma marketValue_nonneg : 0 ≤ marketValue positions := by
  unfold marketValue
  refine List.sum_nonneg fun value hvalue => ?_
  obtain ⟨entry, -, rfl⟩ := List.mem_map.mp hvalue
  exact entry.2.marketValue.nonneg

/-- `_money` of an amount that is not negative and has not too many digits. -/
lemma money_of_bounds {value : ℚ} {label : String} (hnonneg : 0 ≤ quantize 4 value)
    (hbound : quantize 4 value < 10 ^ maxIntegerDigits) :
    money value label = .ok ⟨quantize 4 value, hnonneg⟩ := by
  unfold money quantizeBounded
  have hdigits : |quantize 4 value| * 10 ^ 4 < 10 ^ precision := by
    rw [abs_of_nonneg hnonneg]
    calc quantize 4 value * 10 ^ 4 < 10 ^ maxIntegerDigits * 10 ^ 4 := by
          exact mul_lt_mul_of_pos_right hbound (by norm_num)
      _ ≤ 10 ^ precision := by
          unfold maxIntegerDigits precision
          norm_num
  rw [if_pos hdigits]
  dsimp only
  rw [Money.create_of_places hnonneg hasPlaces_quantize hbound]
  rfl

/-- An accepted account can be written. -/
lemma account_of_accepts {cash : ℚ} (account : BrokerAccountFact) (h : Accepts cash positions) :
    ∃ availableCash totalAssets account',
      money cash "paper available cash" = .ok availableCash ∧
      money (availableCash.value + marketValue positions) "paper total assets" =
        .ok totalAssets ∧
      accountAfter account availableCash totalAssets = .ok account' ∧
      account'.availableCash.value = roundUp 4 cash := by
  obtain ⟨hnonneg, hbound, hassets⟩ := h
  have hvalue : 0 ≤ marketValue positions := marketValue_nonneg
  have hsum : 0 ≤ quantize 4 cash + marketValue positions := add_nonneg hnonneg hvalue
  have hround : quantize 4 (quantize 4 cash + marketValue positions) =
      quantize 4 cash + roundUp 4 (marketValue positions) := by
    rw [quantize, if_pos hsum, roundUp_add hasPlaces_quantize]
  have hassets' : 0 ≤ quantize 4 (quantize 4 cash + marketValue positions) := by
    rw [hround]
    exact add_nonneg hnonneg (roundUp_nonneg hvalue)
  refine ⟨_, _, _, money_of_bounds hnonneg hbound, money_of_bounds hassets' hassets,
    dif_pos ?_, quantize_eq_roundUp hnonneg⟩
  dsimp only
  rw [hround]
  exact le_add_of_nonneg_right (roundUp_nonneg hvalue)

end Settle

/-! ## Orders and their commands -/

section Orders

variable {b : PaperBroker}

/-- Every entry is the one that is written or one that was there. -/
lemma forall_insert {ν : Type} {entries : AList fun _ : String => ν} {key : String} {value : ν}
    {property : String → ν → Prop} (hnew : property key value)
    (hold : ∀ id old, id ≠ key → entries.lookup id = some old → property id old) :
    ∀ id new, (entries.insert key value).lookup id = some new → property id new := by
  intro id new h
  by_cases hsame : id = key
  · subst hsame
    rw [AList.lookup_insert] at h
    cases h
    exact hnew
  · rw [AList.lookup_insert_ne hsame] at h
    exact hold id new hsame h

/-- Every order is of a command. -/
def Known (b : PaperBroker) : Prop :=
  ∀ brokerOrderId order, b.orders.lookup brokerOrderId = some order →
    ∃ command, b.commands.lookup brokerOrderId = some command ∧
      order.symbol = command.symbol ∧ order.side = command.side ∧
      order.requestedShares = command.requestedShares ∧ order.limitPrice = command.limitPrice

/-- Every order has the id of a registered key. -/
def Named (b : PaperBroker) : Prop :=
  ∀ brokerOrderId order, b.orders.lookup brokerOrderId = some order →
    ∃ key, brokerOrderId = b.digests.order key ∧
      b.idempotencyOrders.lookup key = some brokerOrderId

/-- The broker with a new command, as `submit_order` registers it. -/
def register (b : PaperBroker) (command : BrokerOrderCommand) : PaperBroker := { b with
  idempotencyOrders := b.idempotencyOrders.insert command.idempotencyKey
    (b.digests.order command.idempotencyKey)
  commands := b.commands.insert (b.digests.order command.idempotencyKey) command
  commandFingerprints := b.commandFingerprints.insert (b.digests.order command.idempotencyKey)
    command
  matchCounts := b.matchCounts.insert (b.digests.order command.idempotencyKey) 0 }

lemma Named.fresh (h : Named b) {key : IdempotencyKey}
    (hnew : b.idempotencyOrders.lookup key = none) :
    b.orders.lookup (b.digests.order key) = none := by
  by_contra hsome
  obtain ⟨order, horder⟩ := Option.ne_none_iff_exists'.mp hsome
  obtain ⟨key', hkey, hlookup⟩ := h _ order horder
  rw [← b.digests.order_injective hkey, hnew] at hlookup
  cases hlookup

variable {command : BrokerOrderCommand}

lemma Known.requested (h : Known b) {order : BrokerOrderFact} {brokerOrderId : String}
    (horder : b.orders.lookup brokerOrderId = some order)
    (hcommand : b.commands.lookup brokerOrderId = some command) :
    order.requestedShares = command.requestedShares := by
  obtain ⟨_, hcommand', -, -, hrequested, -⟩ := h brokerOrderId order horder
  cases hcommand.symm.trans hcommand'
  exact hrequested

lemma Known.register (h : Known b) (hnamed : Named b)
    (hnew : b.idempotencyOrders.lookup command.idempotencyKey = none) :
    Known (b.register command) := by
  intro brokerOrderId order horder
  have hother : brokerOrderId ≠ b.digests.order command.idempotencyKey := by
    rintro rfl
    cases (hnamed.fresh hnew).symm.trans horder
  obtain ⟨known, hknown, hfact⟩ := h brokerOrderId order horder
  exact ⟨known, (AList.lookup_insert_ne hother).trans hknown, hfact⟩

lemma Named.register (h : Named b)
    (hnew : b.idempotencyOrders.lookup command.idempotencyKey = none) :
    Named (b.register command) := by
  intro brokerOrderId order horder
  obtain ⟨key, hkey, hlookup⟩ := h brokerOrderId order horder
  have hother : key ≠ command.idempotencyKey := by
    rintro rfl
    cases hnew.symm.trans hlookup
  exact ⟨key, hkey, (AList.lookup_insert_ne hother).trans hlookup⟩

end Orders

/-! ## The invariant -/

/-- The economic invariants with what they need of the other dictionaries. -/
structure Consistent (initial b : PaperBroker) : Prop where
  economics : Economics initial b
  places : HasPlaces 4 b.account.availableCash.value
  known : ∀ brokerOrderId order, b.orders.lookup brokerOrderId = some order →
    ∃ command, b.commands.lookup brokerOrderId = some command ∧
      order.symbol = command.symbol ∧ order.side = command.side ∧
      order.requestedShares = command.requestedShares ∧ order.limitPrice = command.limitPrice
  named : ∀ brokerOrderId order, b.orders.lookup brokerOrderId = some order →
    ∃ key, brokerOrderId = b.digests.order key ∧
      b.idempotencyOrders.lookup key = some brokerOrderId

section Invariant

variable {initial b : PaperBroker}

variable {fills : List BrokerFillFact} {fact : BrokerOrderFact}

variable {fill : BrokerFillFact} {command : BrokerOrderCommand}

lemma tradedShares_append {symbol : Symbol} {side : Side} :
    tradedShares (fills ++ [fill]) symbol side = tradedShares fills symbol side +
      if fill.symbol = symbol ∧ fill.side = side then fill.shares else 0 := by
  unfold tradedShares
  rw [List.filter_append, List.map_append, List.sum_append]
  split
  next h => simp [h]
  next h => simp [h]

variable {brokerOrderId : String}

lemma orderShares_append :
    orderShares (fills ++ [fill]) brokerOrderId =
      orderShares fills brokerOrderId +
        if fill.brokerOrderId = brokerOrderId then fill.shares else 0 := by
  unfold orderShares
  rw [List.filter_append, List.map_append, List.sum_append]
  split
  next h => simp [h]
  next h => simp [h]

lemma sellableShares_le {positions : AList fun _ : Symbol => BrokerPositionFact} {symbol : Symbol} :
    sellableShares positions symbol ≤ totalShares positions symbol := by
  unfold sellableShares totalShares
  cases positions.lookup symbol with
  | none => exact le_refl _
  | some position => exact position.sellable_le_total

/-- The totals of a symbol after a fill. -/
lemma Traded.totals {positions : AList fun _ : Symbol => BrokerPositionFact}
    (htraded : Traded b fill positions) (h : Economics initial b) (symbol : Symbol) :
    totalShares positions symbol + tradedShares (b.fills ++ [fill]) symbol .sell =
      totalShares initial.positions symbol + tradedShares (b.fills ++ [fill]) symbol .buy ∧
    sellableShares positions symbol + tradedShares (b.fills ++ [fill]) symbol .sell =
      sellableShares initial.positions symbol := by
  have htotal := h.total symbol
  have hsellable := h.sellable symbol
  rw [tradedShares_append, tradedShares_append]
  by_cases hsymbol : symbol = fill.symbol
  · subst hsymbol
    cases hside : fill.side with
    | buy =>
      obtain ⟨hbought, hkept⟩ := htraded.bought hside
      simp only [true_and, if_true, reduceCtorEq, if_false]
      omega
    | sell =>
      obtain ⟨hsold, hkept⟩ := htraded.sold hside
      simp only [true_and, if_true, reduceCtorEq, if_false]
      omega
  · have hother : fill.symbol ≠ symbol := Ne.symm hsymbol
    have hlookup := htraded.others symbol hsymbol
    unfold totalShares sellableShares at *
    rw [hlookup]
    simp only [hother, false_and, if_false]
    omega

/-- Bought shares are not sellable, as all sellable shares were so from the beginning. -/
lemma unsellable_of_totals {bought sold total₀ sellable₀ total sellable : ℕ}
    (htotal : total + sold = total₀ + bought) (hsellable : sellable + sold = sellable₀)
    (hle : sellable₀ ≤ total₀) : bought + sellable ≤ total := by
  omega

variable (h : Consistent initial b)

include h

/-- The invariant after a fill that the account has accepted. -/
lemma Consistent.booked {order : BrokerOrderFact} {instrument : InstrumentFact}
    {positions : AList fun _ : Symbol => BrokerPositionFact} {account : BrokerAccountFact}
    {consumed : AList fun _ : Date × Symbol => ℕ}
    (horder : b.orders.lookup brokerOrderId = some order)
    (hcommand : b.commands.lookup brokerOrderId = some command)
    (hinstrument : b.instruments.lookup command.symbol = some instrument)
    (hfair : FairPrice command instrument fill.price) (hid : fill.brokerOrderId = brokerOrderId)
    (hsymbol : fill.symbol = command.symbol) (hside : fill.side = command.side)
    (htraded : Traded b fill positions)
    (hcash : account.availableCash.value = roundUp 4 (b.cashAfter fill))
    (hfact : fact.symbol = command.symbol ∧ fact.side = command.side ∧
      fact.requestedShares = command.requestedShares ∧ fact.limitPrice = command.limitPrice)
    (hfilled : fact.filledShares = order.filledShares + fill.shares) :
    Consistent initial { b with
      account := account
      positions := positions
      fills := b.fills ++ [fill]
      consumedVolume := consumed
      orders := b.orders.insert brokerOrderId fact } := by
  obtain ⟨command', hcommand', hsymbol', hside', hrequested', hlimit'⟩ :=
    h.known brokerOrderId order horder
  cases hcommand.symm.trans hcommand'
  obtain ⟨hfactSymbol, hfactSide, hfactRequested, hfactLimit⟩ := hfact
  have htotals := htraded.totals h.economics
  -- The order that is written now stands for the one that was there.
  have hkept : ∀ id old, b.orders.lookup id = some old →
      ∃ new, (b.orders.insert brokerOrderId fact).lookup id = some new ∧
        new.symbol = old.symbol ∧ new.side = old.side ∧ new.limitPrice = old.limitPrice := by
    intro id old hold
    by_cases hsame : id = brokerOrderId
    · subst hsame
      cases horder.symm.trans hold
      exact ⟨fact, AList.lookup_insert _, hfactSymbol.trans hsymbol'.symm,
        hfactSide.trans hside'.symm, hfactLimit.trans hlimit'.symm⟩
    · exact ⟨old, (AList.lookup_insert_ne hsame).trans hold, rfl, rfl, rfl⟩
  have hplaces : HasPlaces 4 account.availableCash.value := by
    rw [hcash]
    exact hasPlaces_roundUp
  refine ⟨⟨account.availableCash.nonneg, ?_, fun symbol => (htotals symbol).1,
    fun symbol => (htotals symbol).2, fun symbol => unsellable_of_totals (htotals symbol).1
      (htotals symbol).2 sellableShares_le, ?_, ?_, ?_⟩, hplaces, ?_, ?_⟩
  · dsimp only
    rw [hcash, cashAfter, roundUp_add h.places, h.economics.cash, List.map_append,
      List.sum_append]
    simp [add_assoc]
  · rintro symbol position hposition
    refine ⟨position.sellable_le_total, ?_⟩
    rintro ⟨other, hother, rfl⟩
    by_cases hsame : other.symbol = fill.symbol
    · exact htraded.positive position (hsame ▸ hposition)
    · refine (h.economics.positions other.symbol position ?_).2 ⟨other, ?_, rfl⟩
      · rw [← htraded.others other.symbol hsame]
        exact hposition
      · rcases List.mem_snoc.mp hother with hother | hother
        · exact hother
        · rw [hother] at hsame
          exact absurd rfl hsame
  · refine forall_insert ⟨?_, fact.filled_le_requested⟩ fun id new hother hnew =>
      ⟨?_, new.filled_le_requested⟩
    · rw [hfilled, (h.economics.orders _ order horder).1, orderShares_append, if_pos hid]
    · rw [(h.economics.orders id new hnew).1, orderShares_append,
        if_neg fun heq => hother (heq.symm.trans hid), Nat.add_zero]
  · intro other hother
    rcases List.mem_snoc.mp hother with hother | hother
    · obtain ⟨instrument', old, lower, upper, hfound, hold, hsym, hsid, hlower, hupper, htick, hge,
        hle, hworse⟩ := h.economics.prices other hother
      obtain ⟨new, hnew, hnewSymbol, hnewSide, hnewLimit⟩ := hkept _ old hold
      refine ⟨instrument', new, lower, upper, hfound, hnew, hnewSymbol.trans hsym,
        hnewSide.trans hsid, hlower, hupper, htick, hge, hle, ?_⟩
      rw [hnewSide, hnewLimit]
      exact hworse
    · rw [hother]
      obtain ⟨lower, upper, hlower, hupper, hge, hle⟩ := hfair.limits
      refine ⟨instrument, fact, lower, upper, hsymbol ▸ hinstrument, ?_,
        hfactSymbol.trans hsymbol.symm, hfactSide.trans hside.symm, hlower, hupper, hfair.tick,
        hge, hle, ?_⟩
      · rw [hid]
        exact AList.lookup_insert _
      · rw [hfactSide, hfactLimit]
        exact hfair.limit
  · exact forall_insert ⟨command, hcommand, hfactSymbol, hfactSide, hfactRequested, hfactLimit⟩
      fun id new _ => h.known id new
  · exact forall_insert (h.named _ order horder) fun id new _ => h.named id new

/-- The brokers agree in what the invariant speaks of. -/
structure SameBook (b t : PaperBroker) : Prop where
  account : t.account = b.account
  positions : t.positions = b.positions
  instruments : t.instruments = b.instruments
  digests : t.digests = b.digests
  orders : t.orders = b.orders
  commands : t.commands = b.commands
  idempotencyOrders : t.idempotencyOrders = b.idempotencyOrders
  fills : t.fills = b.fills

lemma Consistent.of_same {t : PaperBroker} (hsame : SameBook b t) :
    Consistent initial t := by
  obtain ⟨haccount, hpositions, hinstruments, hdigests, horders, hcommands, hids, hfills⟩ := hsame
  obtain ⟨⟨hnonneg, hcash, htotal, hsellable, hunsellable, hheld, hfilled, hprices⟩, hplaces,
    hknown, hnamed⟩ := h
  refine ⟨⟨?_, ?_, ?_, ?_, ?_, ?_, ?_, ?_⟩, ?_, ?_, ?_⟩
  · rwa [haccount]
  · rwa [haccount, hfills]
  iterate 4 rwa [hpositions, hfills]
  · rwa [horders, hfills]
  · rw [hfills]
    intro fill hfill
    unfold WellPriced
    rw [hinstruments, horders]
    exact hprices fill hfill
  · rwa [haccount]
  · rwa [horders, hcommands]
  · rwa [horders, hdigests, hids]

lemma Consistent.order_of_fill (hfill : fill ∈ b.fills) :
    ∃ order, b.orders.lookup fill.brokerOrderId = some order := by
  obtain ⟨instrument, order, lower, upper, -, horder, -⟩ := h.economics.prices fill hfill
  exact ⟨order, horder⟩

/-- The fills of an order that is not there are none. -/
lemma Consistent.orderShares_of_none (hnone : b.orders.lookup brokerOrderId = none) :
    orderShares b.fills brokerOrderId = 0 := by
  have hempty : b.fills.filter (·.brokerOrderId = brokerOrderId) = [] := by
    refine List.filter_eq_nil_iff.mpr fun fill hfill hid => ?_
    obtain ⟨order, horder⟩ := h.order_of_fill hfill
    rw [of_decide_eq_true hid, hnone] at horder
    cases horder
  unfold orderShares
  rw [hempty]
  rfl

lemma Consistent.registered (hnew : b.idempotencyOrders.lookup command.idempotencyKey = none) :
    Consistent initial (b.register command) := by
  obtain ⟨heconomics, hplaces, hknown, hnamed⟩ := h
  exact ⟨⟨heconomics.cash_nonneg, heconomics.cash, heconomics.total, heconomics.sellable,
    heconomics.unsellable, heconomics.positions, heconomics.orders, heconomics.prices⟩, hplaces,
    Known.register hknown hnamed hnew, Named.register hnamed hnew⟩

/-- The invariant after an order is recorded with the shares that its fills have given it. -/
lemma Consistent.recorded {key : IdempotencyKey}
    (hcommand : b.commands.lookup brokerOrderId = some command)
    (hkey : brokerOrderId = b.digests.order key)
    (hid : b.idempotencyOrders.lookup key = some brokerOrderId)
    (hfact : fact.symbol = command.symbol ∧ fact.side = command.side ∧
      fact.requestedShares = command.requestedShares ∧ fact.limitPrice = command.limitPrice)
    (hfilled : fact.filledShares = orderShares b.fills brokerOrderId) :
    Consistent initial { b with orders := b.orders.insert brokerOrderId fact } := by
  obtain ⟨heconomics, hplaces, hknown, hnamed⟩ := h
  refine ⟨⟨heconomics.cash_nonneg, heconomics.cash, heconomics.total, heconomics.sellable,
    heconomics.unsellable, heconomics.positions, forall_insert ⟨hfilled, fact.filled_le_requested⟩
      fun id order _ => heconomics.orders id order, ?_⟩, hplaces,
    forall_insert ⟨command, hcommand, hfact⟩ fun id order _ => hknown id order,
    forall_insert ⟨key, hkey, hid⟩ fun id order _ => hnamed id order⟩
  intro fill hfill
  obtain ⟨instrument, old, lower, upper, hinstrument, hold, hsymbol, hside, hlower, hupper,
    htick, hge, hle, hworse⟩ := heconomics.prices fill hfill
  by_cases hsame : fill.brokerOrderId = brokerOrderId
  · rw [hsame] at hold
    obtain ⟨command', hcommand', hsymbol', hside', -, hlimit'⟩ := hknown brokerOrderId old hold
    cases hcommand.symm.trans hcommand'
    refine ⟨instrument, fact, lower, upper, hinstrument, ?_,
      hfact.1.trans (hsymbol'.symm.trans hsymbol), hfact.2.1.trans (hside'.symm.trans hside),
      hlower, hupper, htick, hge, hle, ?_⟩
    · rw [hsame]
      exact AList.lookup_insert _
    · rw [hfact.2.1, hfact.2.2.2, ← hside', ← hlimit']
      exact hworse
  · exact ⟨instrument, old, lower, upper, hinstrument,
      (AList.lookup_insert_ne hsame).trans hold, hsymbol, hside, hlower, hupper, htick, hge,
      hle, hworse⟩

end Invariant

/-! ## Programs -/

section Programs

variable {initial b t : PaperBroker} {E : PaperBroker → Prop}

/-- Only counters, reasons and callbacks are different. -/
structure Aside (b t : PaperBroker) : Prop extends SameBook b t where
  quotes : t.quotes = b.quotes
  marketStatus : t.marketStatus = b.marketStatus
  policy : t.policy = b.policy
  consumedVolume : t.consumedVolume = b.consumedVolume

lemma SameBook.refl (b : PaperBroker) : SameBook b b := ⟨rfl, rfl, rfl, rfl, rfl, rfl, rfl, rfl⟩

/-- As `Aside`, and no count of matches is lost. -/
structure Framed (b t : PaperBroker) : Prop extends Aside b t where
  counts : ∀ brokerOrderId, (b.matchCounts.lookup brokerOrderId).isSome →
    (t.matchCounts.lookup brokerOrderId).isSome

lemma Framed.refl (b : PaperBroker) : Framed b b :=
  ⟨⟨.refl b, rfl, rfl, rfl, rfl⟩, fun _ h => h⟩

lemma isSome_insert {entries : AList fun _ : String => ℕ} {key other : String} {value : ℕ}
    (h : (entries.lookup other).isSome) : ((entries.insert key value).lookup other).isSome := by
  by_cases hsame : other = key
  · rw [hsame, AList.lookup_insert]
    rfl
  · rw [AList.lookup_insert_ne hsame]
    exact h

variable {α : Type} {time : DateTime} {sessionDate : Option Date} {brokerOrderId : String}
  {order : BrokerOrderFact}

lemma triple_raising {P : PaperBroker → Prop} {x : Except PaperFailure α} :
    Triple P (raising x) (fun a s => x = .ok a ∧ P s) (fun s => P s ∧ ∃ e, x = .error e) := by
  intro s hs
  cases x with
  | ok a => exact ⟨rfl, hs⟩
  | error e => exact ⟨hs, e, rfl⟩

variable {a : α} {status : BrokerOrderStatus} {reasonCode : PaperReason}

lemma raising_ok_bind {β : Type} {f : α → PaperProgram β} :
    (raising (.ok a) >>= f) = f a := rfl

variable {I : PaperBroker → Prop} {digests : PaperDigests} {command : BrokerOrderCommand}
  {fill : BrokerFillFact}

lemma keeps_requireConnected : Keeps I requireConnected :=
  keeps_get_bind fun _ _ => keeps_refuse

lemma keeps_requireCallbackDelivery : Keeps I requireCallbackDelivery :=
  keeps_get_bind fun _ _ => keeps_refuse

lemma keeps_raiseCallbackError : Keeps I raiseCallbackError :=
  keeps_get_bind fun _ _ => keeps_refuse

lemma triple_now : Triple (Framed b) now (fun _ => Framed b) E := fun _ h => { h with }

lemma triple_nextSequence : Triple (Framed b) nextSequence (fun _ => Framed b) E :=
  fun _ h => { h with }

lemma triple_emit {event : PaperEvent} : Triple (Framed b) (emit event) (fun _ => Framed b) E := by
  refine triple_bind triple_now fun _ => triple_modify fun t h => ?_
  cases t.sink with
  | none => exact { h with }
  | some sink =>
    dsimp only
    split
    all_goals exact { h with }

/-- The fact is of the command, with these shares filled. -/
def FactOf (command : BrokerOrderCommand) (filledShares : ℕ) (fact : BrokerOrderFact) : Prop :=
  (fact.symbol = command.symbol ∧ fact.side = command.side ∧
    fact.requestedShares = command.requestedShares ∧ fact.limitPrice = command.limitPrice) ∧
  fact.filledShares = filledShares

variable {payload : OrderPayload} {instrument : InstrumentFact} {quote : QuoteFact}

lemma factOf_normalizeOrder {fact : BrokerOrderFact}
    (h : normalizeOrder digests payload time = .ok fact)
    (hpayload : payload.symbol = command.symbol ∧ payload.side = command.side ∧
      payload.requestedShares = command.requestedShares ∧
      payload.limitPrice = command.limitPrice) :
    FactOf command payload.filledShares fact ∧ fact.status = payload.status := by
  unfold normalizeOrder at h
  split at h
  · split at h
    · cases h
      exact ⟨⟨hpayload, rfl⟩, rfl⟩
    · cases h
  · cases h

lemma normalizeOrder_returns
    (hpos : 0 < payload.requestedShares) (hfilled : payload.filledShares ≤ payload.requestedShares)
    {e : PaperFailure} :
    normalizeOrder digests payload time ≠ .error e := by
  unfold normalizeOrder
  rw [dif_pos hpos, dif_pos hfilled]
  exact fun h => by cases h

lemma Aside.resolvedSession (h : Aside b t) :
    t.resolvedSession command sessionDate = b.resolvedSession command sessionDate := by
  cases sessionDate with
  | some session => rfl
  | none =>
    unfold PaperBroker.resolvedSession orderSession
    rw [h.quotes, h.instruments]

/-- `_record_order` raises only when there is no session or too many shares are filled. -/
lemma triple_recordOrder {filledShares : ℕ} :
    Triple (Framed b) (recordOrder command brokerOrderId status filledShares reasonCode sessionDate)
      (fun fact t => (FactOf command filledShares fact ∧ fact.status = status) ∧
        Framed { b with orders := b.orders.insert brokerOrderId fact } t)
      (fun t => Framed b t ∧ ¬ ((∃ session, b.resolvedSession command sessionDate = .ok session) ∧
        filledShares ≤ command.requestedShares)) := by
  refine triple_bind triple_now fun time => triple_bind triple_nextSequence fun sequence => ?_
  refine triple_get_bind fun s hs => ?_
  refine triple_bind (triple_error triple_raising ?_) fun session => ?_
  · rintro t ⟨ht, e, he⟩
    refine ⟨ht, ?_⟩
    rintro ⟨⟨session, hsession⟩, -⟩
    rw [hs.toAside.resolvedSession, hsession] at he
    cases he
  refine triple_assume fun _ => triple_bind (triple_error triple_raising ?_) fun fact =>
    triple_assume fun hfact => ?_
  · rintro t ⟨ht, e, he⟩
    exact ⟨ht, fun hrecords => normalizeOrder_returns command.requested_pos hrecords.2 he⟩
  have hof : FactOf command filledShares fact ∧ fact.status = status :=
    factOf_normalizeOrder hfact ⟨rfl, rfl, rfl, rfl⟩
  refine triple_bind (Q := fun _ => Framed { b with orders := b.orders.insert brokerOrderId fact })
    (exits_modify fun t h =>
      { h with orders := congrArg (AList.insert brokerOrderId fact) h.orders }) fun _ => ?_
  exact triple_bind triple_emit fun _ => triple_pure fun t ht => ⟨hof, ht⟩

lemma Aside.positionsAfter (h : Aside b t) :
    t.positionsAfter fill = b.positionsAfter fill := by
  obtain ⟨⟨haccount, hpositions, -⟩, hquotes, -⟩ := h
  unfold PaperBroker.positionsAfter cashAfter boughtPosition soldPositions holding valuationPrice
  rw [haccount, hpositions, hquotes]

lemma Aside.cashAfter (h : Aside b t) :
    t.cashAfter fill = b.cashAfter fill := by
  unfold PaperBroker.cashAfter
  rw [h.account]

lemma validated_eq_ok {x : Except String α} :
    validated x = .ok a ↔ x = .ok a := by
  unfold validated
  cases x with
  | ok a => simp
  | error message => simp

/-- What `_apply_economics` makes of a fill: the positions and the account that it writes. -/
structure Settles (b : PaperBroker) (fill : BrokerFillFact)
    (positions : AList fun _ : Symbol => BrokerPositionFact) (account : BrokerAccountFact) :
    Prop where
  positionsAfter : b.positionsAfter fill = .ok positions
  accountAfter : ∃ availableCash totalAssets,
    money (b.cashAfter fill) "paper available cash" = .ok availableCash ∧
    money (availableCash.value + marketValue positions) "paper total assets" = .ok totalAssets ∧
    PaperBroker.accountAfter b.account availableCash totalAssets = .ok account

lemma Settles.cash {positions : AList fun _ : Symbol => BrokerPositionFact}
    {account : BrokerAccountFact} (h : Settles b fill positions account)
    (haccepts : Accepts (b.cashAfter fill) positions) :
    account.availableCash.value = roundUp 4 (b.cashAfter fill) := by
  obtain ⟨availableCash, totalAssets, hcash, hassets, haccount⟩ := h.accountAfter
  obtain ⟨_, _, _, hcash', hassets', haccount', hvalue⟩ := account_of_accepts b.account haccepts
  cases hcash.symm.trans hcash'
  cases hassets.symm.trans hassets'
  cases haccount.symm.trans haccount'
  exact hvalue

/-- `_apply_economics` books a fill that can be booked.  It raises on another, and has then written
the positions only if the account does not accept them. -/
lemma triple_applyEconomics :
    Triple (Framed b) (applyEconomics fill)
      (fun _ t => b.Books fill ∧ ∃ positions account, Settles b fill positions account ∧
        Framed { b with positions := positions, account := account } t)
      (fun t => ¬ b.Books fill ∧ (Framed b t ∨ ∃ positions, b.positionsAfter fill = .ok positions ∧
        ¬ Accepts (b.cashAfter fill) positions ∧ Framed { b with positions := positions } t)) := by
  refine triple_get_bind fun s hs => ?_
  have hpositionsAfter : s.positionsAfter fill = b.positionsAfter fill := hs.toAside.positionsAfter
  have hcashAfter : s.cashAfter fill = b.cashAfter fill := hs.toAside.cashAfter
  by_cases hbooks : b.Books fill
  · obtain ⟨fees, positions, availableCash, totalAssets, account, hfees, hpositions, hcash,
      hassets, haccount⟩ := id hbooks
    rw [hfees, hpositionsAfter, hpositions, hcashAfter, hcash, hs.account]
    change Triple _ (do
      modify fun b => { b with positions := positions }
      let totalAssets ← raising
        (money (availableCash.value + marketValue positions) "paper total assets")
      let account ← raising (accountAfter b.account availableCash totalAssets)
      modify fun b => { b with account := account }) _ _
    rw [hassets, raising_ok_bind, haccount, raising_ok_bind]
    refine triple_bind (Q := fun _ => Framed { b with positions := positions })
      (triple_modify fun t ht => { ht with positions := rfl }) fun _ => triple_modify fun t ht => ?_
    exact ⟨hbooks, positions, account, ⟨hpositions, _, _, hcash, hassets, haccount⟩,
      { ht with account := rfl }⟩
  · refine triple_bind (triple_error triple_raising fun t ht => ⟨hbooks, .inl ht.1⟩) fun fees =>
      triple_assume fun hfees => ?_
    refine triple_bind (triple_error triple_raising fun t ht => ⟨hbooks, .inl ht.1⟩)
      fun positions => triple_assume fun hpositions => ?_
    rw [hpositionsAfter] at hpositions
    have hfees := validated_eq_ok.mp hfees
    have hrefused : ¬ Accepts (b.cashAfter fill) positions := by
      intro haccepts
      obtain ⟨_, _, _, hcash, hassets, haccount, -⟩ := account_of_accepts b.account haccepts
      exact hbooks ⟨fees, positions, _, _, _, hfees, hpositions, hcash, hassets, haccount⟩
    refine triple_bind (Q := fun _ => Framed { b with positions := positions })
      (triple_modify fun t ht => { ht with positions := rfl }) fun _ => ?_
    have hraising : ∀ {α : Type} {x : Except PaperFailure α},
        Triple (Framed { b with positions := positions }) (raising x)
          (fun a t => x = .ok a ∧ Framed { b with positions := positions } t)
          (fun t => ¬ b.Books fill ∧ (Framed b t ∨ ∃ positions,
            b.positionsAfter fill = .ok positions ∧ ¬ Accepts (b.cashAfter fill) positions ∧
            Framed { b with positions := positions } t)) := fun {α x} =>
      triple_error triple_raising fun t ht => ⟨hbooks, .inr ⟨positions, hpositions, hrefused, ht.1⟩⟩
    refine triple_bind hraising fun availableCash => triple_assume fun hcash => ?_
    refine triple_bind hraising fun totalAssets => triple_assume fun hassets => ?_
    refine triple_bind hraising fun account => triple_assume fun haccount => ?_
    rw [hcashAfter] at hcash
    rw [hs.account] at haccount
    exact absurd ⟨fees, positions, availableCash, totalAssets, account, hfees, hpositions, hcash,
      hassets, haccount⟩ hbooks

lemma fill_of_normalizeFill {payload : FillPayload}
    (h : normalizeFill digests payload time = .ok fill) :
    fill.brokerOrderId = payload.brokerOrderId ∧ fill.symbol = payload.symbol ∧
      fill.side = payload.side ∧ fill.shares = payload.shares ∧ fill.price = payload.price ∧
      fill.commission = payload.fees.commission ∧ fill.stampDuty = payload.fees.stampDuty ∧
      fill.transferFee = payload.fees.transferFee := by
  unfold normalizeFill at h
  split at h
  · cases h
    exact ⟨rfl, rfl, rfl, rfl, rfl, rfl, rfl, rfl⟩
  · cases h

lemma tradeOf_normalizeFill {payload : FillPayload}
    (h : normalizeFill digests payload time = .ok fill) (hsymbol : payload.symbol = command.symbol)
    (hside : payload.side = command.side) :
    TradeOf command payload.price payload.shares payload.fees fill := by
  obtain ⟨-, hsymbol', hside', hshares, hprice, hcommission, hduty, hfee⟩ :=
    fill_of_normalizeFill h
  exact ⟨hsymbol'.trans hsymbol, hside'.trans hside, hshares, hprice, hcommission, hduty, hfee⟩

/-- How far a decided fill came. -/
inductive Booking (b : PaperBroker) (order : BrokerOrderFact) (command : BrokerOrderCommand)
    (brokerOrderId : String) (price : Price) (quantity : ℕ) (t : PaperBroker) : Prop
  | raised : ¬ ((b.matchCounts.lookup brokerOrderId).isSome ∧ 0 < quantity ∧
      b.CanBook command price quantity) → Framed b t → Booking b order command brokerOrderId price
        quantity t
  | refused {fees : FeeBreakdown} {fill : BrokerFillFact}
      {positions : AList fun _ : Symbol => BrokerPositionFact} :
      b.policy.feeSchedule.calculate command.side price quantity = .ok fees →
      TradeOf command price quantity fees fill → ¬ b.Books fill →
      b.positionsAfter fill = .ok positions → ¬ Accepts (b.cashAfter fill) positions →
      Framed { b with positions := positions } t → Booking b order command brokerOrderId price
        quantity t
  | booked {fees : FeeBreakdown} {fill : BrokerFillFact} {account : BrokerAccountFact}
      {positions : AList fun _ : Symbol => BrokerPositionFact}
      {consumed : AList fun _ : Date × Symbol => ℕ} {updated : BrokerOrderFact} :
      b.policy.feeSchedule.calculate command.side price quantity = .ok fees →
      TradeOf command price quantity fees fill → fill.brokerOrderId = brokerOrderId →
      b.Books fill → Settles b fill positions account →
      FactOf command (order.filledShares + quantity) updated →
      updated.status = (if order.filledShares + quantity = order.requestedShares then .filled
        else .partiallyFilled) →
      Framed { b with
        account := account
        positions := positions
        fills := b.fills ++ [fill]
        consumedVolume := consumed
        orders := b.orders.insert brokerOrderId updated } t →
      Booking b order command brokerOrderId price quantity t

/-- Once it is booked, a fill of a known quote that is not too large is recorded in the order. -/
lemma triple_bookFill {price : Price} {quantity : ℕ}
    (hquote : b.quotes.lookup command.symbol = some quote)
    (hle : order.filledShares + quantity ≤ command.requestedShares) :
    Triple (fun t => t = b) (bookFill order command brokerOrderId quote price quantity)
      (fun _ => b.Booking order command brokerOrderId price quantity)
      (b.Booking order command brokerOrderId price quantity) := by
  refine triple_get_bind fun s hs => ?_
  subst hs
  refine triple_bind (triple_error triple_raising ?_) fun fees => triple_assume fun hfees => ?_
  · rintro t ⟨rfl, e, he⟩
    refine .raised ?_ (.refl t)
    rintro ⟨-, -, fees, hfees, -⟩
    rw [validated_eq_ok.mpr hfees] at he
    cases he
  have hfees := validated_eq_ok.mp hfees
  refine triple_bind (triple_error triple_raising ?_) fun matchCount => triple_assume fun _ => ?_
  · rintro t ⟨rfl, e, he⟩
    refine .raised ?_ (.refl t)
    rintro ⟨hcount, -⟩
    obtain ⟨count, hcount⟩ := Option.isSome_iff_exists.mp hcount
    rw [nextMatchCount, hcount] at he
    cases he
  refine triple_bind (Q := fun _ => Framed s) (triple_modify fun t ht => ?_) fun _ => ?_
  · subst ht
    exact { Framed.refl t with counts := fun _ h => isSome_insert h }
  refine triple_bind triple_now fun time => triple_bind triple_nextSequence fun sequence => ?_
  refine triple_bind (triple_error triple_raising ?_)
    fun fill => triple_assume fun hnormalized => ?_
  · rintro t ⟨ht, e, he⟩
    refine .raised ?_ ht
    rintro ⟨-, hquantity, -⟩
    rw [normalizeFill, dif_pos hquantity] at he
    cases he
  have htrade : TradeOf command price quantity fees fill :=
    tradeOf_normalizeFill hnormalized rfl rfl
  refine triple_bind (triple_error triple_applyEconomics ?_) fun _ => ?_
  · rintro t ⟨hbooks, ht | ⟨positions, hpositions, haccepts, ht⟩⟩
    · refine .raised ?_ ht
      rintro ⟨-, -, fees', hfees', hcan⟩
      cases hfees.symm.trans hfees'
      exact hbooks (hcan fill htrade)
    · exact .refused hfees htrade hbooks hpositions haccepts ht
  rintro t ⟨hbooks, positions, account, hsettles, ht⟩
  refine triple_at ht ?_ t rfl
  -- The fill is recorded, and then the order; neither raises before both are there.
  refine triple_bind (Q := fun _ => Framed { s with
      account := account
      positions := positions
      fills := s.fills ++ [fill]
      consumedVolume := s.consumedVolume.insert (quote.sessionDate, command.symbol)
        ((s.consumedVolume.lookup (quote.sessionDate, command.symbol)).getD 0 + quantity) })
    (triple_modify fun t ht => { ht with
      fills := congrArg (· ++ [fill]) ht.fills
      consumedVolume := ?_ }) fun _ => ?_
  · dsimp only
    rw [ht.consumedVolume]
  refine triple_bind triple_emit fun _ => ?_
  refine triple_bind (triple_imp triple_recordOrder (fun _ h => h)
    (fun updated t h => .booked hfees htrade (fill_of_normalizeFill hnormalized).1 hbooks hsettles
      h.1.1 h.1.2 h.2) ?_) fun updated => keeps_bind keeps_raiseCallbackError fun _ => keeps_pure
  rintro t ⟨-, hraised⟩
  refine absurd ⟨⟨quote.sessionDate, ?_⟩, hle⟩ hraised
  rw [PaperBroker.resolvedSession, orderSession, hquote]

/-- The end of `match` keeps what a broker aside keeps, and what a decided fill keeps. -/
lemma triple_matchOpen {I : PaperBroker → Prop} (haside : ∀ t, Framed b t → I t)
    (hquote : b.quotes.lookup command.symbol = some quote)
    (hrequested : order.requestedShares = command.requestedShares)
    (hbooking : ∀ price quantity, b.decideFill command instrument quote
        (order.requestedShares - order.filledShares) = .ok (.ok (price, quantity)) →
      ∀ t, b.Booking order command brokerOrderId price quantity t → I t) :
    Triple (fun t => t = b) (matchOpen order command brokerOrderId instrument quote)
      (fun _ => I) I := by
  refine triple_get_bind fun s hs => ?_
  subst hs
  refine triple_bind (triple_error triple_raising fun t ht => haside t (ht.1 ▸ .refl s))
    fun decided => triple_assume fun hdecided => ?_
  have hdecided := validated_eq_ok.mp hdecided
  cases decided with
  | error reason =>
    refine triple_bind (Q := fun _ => I) (triple_modify fun t ht => haside _ ?_) fun _ => keeps_pure
    subst ht
    exact { Framed.refl t with }
  | ok filled =>
    obtain ⟨price, quantity⟩ := filled
    have hle := (decideFill_spec hdecided).2.2
    have hfilled := order.filled_le_requested
    exact triple_imp (triple_bookFill hquote (by omega)) (fun _ h => h)
      (fun _ => hbooking price quantity hdecided) (hbooking price quantity hdecided)

/-- A decided fill that is covered keeps the invariant. -/
lemma Consistent.of_booking {price : Price} {quantity : ℕ} (h : Consistent initial b)
    (horder : b.orders.lookup brokerOrderId = some order)
    (hcommand : b.commands.lookup brokerOrderId = some command)
    (hinstrument : b.instruments.lookup command.symbol = some instrument)
    (hquote : b.quotes.lookup command.symbol = some quote)
    (hcovers : b.Covers command (order.requestedShares - order.filledShares))
    (hdecided : b.decideFill command instrument quote
      (order.requestedShares - order.filledShares) = .ok (.ok (price, quantity)))
    (ht : b.Booking order command brokerOrderId price quantity t) : Consistent initial t := by
  have haccepts : ∀ {fees fill positions},
      b.policy.feeSchedule.calculate command.side price quantity = .ok fees →
      TradeOf command price quantity fees fill → b.positionsAfter fill = .ok positions →
      Accepts (b.cashAfter fill) positions := fun hfees htrade =>
    hcovers instrument quote price quantity _ hinstrument hquote hdecided hfees _ htrade.symbol
      htrade.side htrade.price htrade.shares htrade.commission htrade.stampDuty
      htrade.transferFee _
  cases ht with
  | raised _ ht => exact h.of_same ht.toSameBook
  | refused hfees htrade _ hpositions hrefused _ =>
    exact absurd (haccepts hfees htrade hpositions) hrefused
  | booked hfees htrade hid _ hsettles hfact _ ht =>
    refine Consistent.of_same ?_ ht.toSameBook
    exact h.booked horder hcommand hinstrument (htrade.price ▸ (decideFill_spec hdecided).1) hid
      htrade.symbol htrade.side (traded_of_positionsAfter hsettles.positionsAfter)
      (hsettles.cash (haccepts hfees htrade hsettles.positionsAfter)) hfact.1
      (htrade.shares ▸ hfact.2)

lemma triple_setQuote :
    Triple (fun t => t = b) (setQuote quote) (fun _ t => t = b.withQuote (some quote))
      (fun t => t = b) := by
  refine triple_get_bind fun s hs => ?_
  subst hs
  cases s.instruments.lookup quote.symbol with
  | none => exact triple_throw fun _ ht => ht
  | some instrument =>
    dsimp only
    refine triple_bind keeps_refuse fun _ => triple_bind keeps_refuse fun _ =>
      triple_bind keeps_refuse fun _ => exits_modify fun t ht => ?_
    rw [ht]
    rfl

lemma triple_matchQuote {quote : Option QuoteFact} :
    Triple (fun t => t = b) (matchQuote command quote) (fun _ t => t = b.withQuote quote)
      (fun t => t = b) := by
  cases quote with
  | none => exact triple_pure fun _ ht => ht
  | some quote => exact triple_bind keeps_refuse fun _ => triple_setQuote

lemma sameBook_withQuote {quote : Option QuoteFact} : SameBook b (b.withQuote quote) := by
  cases quote with
  | none => exact .refl b
  | some quote => exact ⟨rfl, rfl, rfl, rfl, rfl, rfl, rfl, rfl⟩

lemma lookup_withQuote (quote : Option QuoteFact)
    (horder : b.orders.lookup brokerOrderId = some order)
    (hcommand : b.commands.lookup brokerOrderId = some command) :
    (b.withQuote quote).orders.lookup brokerOrderId = some order ∧
      (b.withQuote quote).commands.lookup brokerOrderId = some command := by
  cases quote <;> exact ⟨horder, hcommand⟩

/-! ## Calls -/

lemma orderAndCommand_eq_ok (h : b.orderAndCommand brokerOrderId = .ok (order, command)) :
    b.orders.lookup brokerOrderId = some order ∧
      b.commands.lookup brokerOrderId = some command := by
  unfold orderAndCommand at h
  split at h
  next horder hcommand =>
    cases h
    exact ⟨horder, hcommand⟩
  · cases h

/-- What an invariant has to satisfy so that every call of a kind keeps it: the orders that are
recorded and the end of `match` keep it, and nothing else of the broker matters. -/
structure CallRules (I : PaperBroker → Prop) (Kind : PaperBroker → Call → Prop) : Prop where
  same : ∀ {b t}, I b → SameBook b t → t.matchCounts = b.matchCounts → I t
  submitted : ∀ {b command status reasonCode sessionDate}, I b →
    b.idempotencyOrders.lookup command.idempotencyKey = none → Kind b (.submitOrder command) →
    Triple (fun t => t = b.register command)
      (recordOrder command (b.digests.order command.idempotencyKey) status 0 reasonCode sessionDate)
      (fun _ t => I t ∧ Kind t (.matchOrder (b.digests.order command.idempotencyKey) none)) I
  matched : ∀ {b brokerOrderId order command instrument currentQuote quote},
    I (b.withQuote quote) → b.orders.lookup brokerOrderId = some order →
    b.commands.lookup brokerOrderId = some command → order.status ∉ closedStatuses →
    (b.withQuote quote).instruments.lookup command.symbol = some instrument →
    (b.withQuote quote).quotes.lookup command.symbol = some currentQuote →
    Kind b (.matchOrder brokerOrderId quote) →
    Triple (fun t => t = b.withQuote quote)
      (matchOpen order command brokerOrderId instrument currentQuote) (fun _ => I) I
  cancelled : ∀ {b brokerOrderId current command}, I b →
    b.orders.lookup brokerOrderId = some current →
    b.commands.lookup brokerOrderId = some command → current.status ∉ closedStatuses →
    Triple (fun t => t = b) (recordOrder command brokerOrderId .cancelled current.filledShares
      .cancelledBySystem none) (fun _ => I) I

namespace CallRules

variable {I : PaperBroker → Prop} {Kind : PaperBroker → Call → Prop}

/-- The checks that every command of the broker starts with. -/
lemma triple_checked {P : PaperBroker → Prop} {Q : α → PaperBroker → Prop} {x : PaperProgram α}
    (hE : ∀ t, P t → E t) (hx : Triple P x Q E) :
    Triple P (do requireConnected; requireCallbackDelivery; x) Q E :=
  triple_bind (triple_error keeps_requireConnected hE) fun _ =>
    triple_bind (triple_error keeps_requireCallbackDelivery hE) fun _ => hx

variable (h : CallRules I Kind) (hb : I b)

include h hb

lemma matchOrder {quote : Option QuoteFact} (hkind : Kind b (.matchOrder brokerOrderId quote)) :
    Triple (fun t => t = b) (matchOrder brokerOrderId quote) (fun _ => I) I := by
  have hkeep : ∀ t, t = b → I t := by
    rintro t rfl
    exact hb
  refine triple_checked hkeep (triple_bind (triple_error keeps_refuse hkeep) fun _ => ?_)
  refine triple_get_bind fun s hs => ?_
  subst hs
  refine triple_bind (triple_error triple_raising fun t ht => hkeep t ht.1)
    fun ⟨order, command⟩ => triple_assume fun hfound => ?_
  obtain ⟨horder, hcommand⟩ := orderAndCommand_eq_ok hfound
  refine triple_bind (triple_error triple_matchQuote hkeep) fun _ => triple_get_bind fun t ht => ?_
  subst ht
  have hset : I (s.withQuote quote) := h.same hb sameBook_withQuote (by cases quote <;> rfl)
  have hraised : ∀ t, t = s.withQuote quote → I t := by
    rintro t rfl
    exact hset
  split
  next currentQuote instrument hquote hinstrument =>
    split
    · split
      · exact triple_pure hraised
      · exact triple_throw hraised
    next hopen => exact h.matched hset horder hcommand hopen hinstrument hquote hkind
  · exact triple_throw hraised

lemma submitOrder {command : BrokerOrderCommand} (hkind : Kind b (.submitOrder command)) :
    Triple (fun t => t = b) (submitOrder command) (fun _ => I) I := by
  have hkeep : ∀ t, t = b → I t := by
    rintro t rfl
    exact hb
  refine triple_checked hkeep (triple_get_bind fun s hs => ?_)
  subst hs
  split
  · split
    · exact triple_bind (triple_error keeps_refuse hkeep) fun _ => triple_pure hkeep
    · exact triple_throw hkeep
  next hnew =>
    refine triple_bind (triple_imp triple_raising (fun _ h => h) (fun _ _ h => h.2)
      fun t ht => hkeep t ht.1) fun sessionDate => ?_
    refine triple_bind (Q := fun _ t => t = s.register command) (exits_modify ?_) fun _ => ?_
    · rintro t rfl
      rfl
    refine triple_get_bind fun t ht => ?_
    subst ht
    split
    · exact triple_bind (h.submitted hb hnew hkind) fun rejected =>
        triple_bind (triple_pre keeps_raiseCallbackError (fun _ h => h.1)) fun _ => keeps_pure
    · refine triple_bind (h.submitted hb hnew hkind) fun accepted t ⟨ht, hkind'⟩ => ?_
      exact triple_bind (h.matchOrder ht hkind') (fun result =>
        keeps_bind keeps_raiseCallbackError fun _ => keeps_pure) t rfl

lemma cancelOrder :
    Triple (fun t => t = b) (cancelOrder brokerOrderId) (fun _ => I) I := by
  have hkeep : ∀ t, t = b → I t := by
    rintro t rfl
    exact hb
  refine triple_checked hkeep (triple_bind (triple_error keeps_refuse hkeep) fun _ => ?_)
  refine triple_get_bind fun s hs => ?_
  subst hs
  refine triple_bind (triple_error triple_raising fun t ht => hkeep t ht.1)
    fun ⟨current, command⟩ => triple_assume fun hfound => ?_
  obtain ⟨hcurrent, hcommand⟩ := orderAndCommand_eq_ok hfound
  dsimp only
  split
  · exact triple_pure hkeep
  next hopen =>
    exact triple_bind (h.cancelled hb hcurrent hcommand hopen) fun cancelled =>
      keeps_bind keeps_raiseCallbackError fun _ => keeps_pure

/-- A call of the kind keeps the invariant, whether it returns or raises. -/
lemma after {call : Call} (hkind : Kind b call) :
    I (b.after call) := by
  have hsame : ∀ t, SameBook b t → t.matchCounts = b.matchCounts → I t := fun t => h.same hb
  have hkeep : ∀ t, t = b → I t := by
    rintro t rfl
    exact hb
  have hperform : Triple (fun t => t = b) (perform call) (fun _ => I) I := by
    cases call with
    | connect | disconnect | setMarketStatus status =>
      refine exits_modify fun t ht => ?_
      subst ht
      exact hsame _ ⟨rfl, rfl, rfl, rfl, rfl, rfl, rfl, rfl⟩ rfl
    | subscribe sink =>
      refine triple_bind (triple_error keeps_requireConnected hkeep) fun _ =>
        triple_get_bind fun s hs => ?_
      subst hs
      dsimp only
      split
      · refine exits_modify fun t ht => ?_
        subst ht
        exact hsame _ ⟨rfl, rfl, rfl, rfl, rfl, rfl, rfl, rfl⟩ rfl
      · refine triple_bind (Q := fun _ => I) (exits_modify fun t ht => ?_) fun _ => keeps_throw
        subst ht
        exact hsame _ ⟨rfl, rfl, rfl, rfl, rfl, rfl, rfl, rfl⟩ rfl
    | setQuote quote =>
      refine triple_imp triple_setQuote (fun _ h => h) ?_ hkeep
      rintro _ t rfl
      exact hsame _ sameBook_withQuote rfl
    | submitOrder command => exact triple_bind (h.submitOrder hb hkind) fun _ => keeps_pure
    | matchOrder brokerOrderId quote =>
      exact triple_bind (h.matchOrder hb hkind) fun _ => keeps_pure
    | cancelOrder brokerOrderId => exact triple_bind (h.cancelOrder hb) fun _ => keeps_pure
  exact Triple.finalState hperform rfl

end CallRules

/-! ## Every call keeps the economics -/

lemma affordableUnits_congr (haccount : t.account = b.account) (hpolicy : t.policy = b.policy)
    (price : Price) (tradingUnit units : ℕ) :
    t.affordableUnits price tradingUnit units = b.affordableUnits price tradingUnit units := by
  induction units with
  | zero => rfl
  | succ units ih =>
    unfold affordableUnits
    rw [haccount, hpolicy, ih]

/-- What a fill would be depends only on the account, the positions and the market. -/
lemma Covers.congr {remaining : ℕ} (h : b.Covers command remaining)
    (haccount : t.account = b.account) (hpositions : t.positions = b.positions)
    (hinstruments : t.instruments = b.instruments) (hquotes : t.quotes = b.quotes)
    (hstatus : t.marketStatus = b.marketStatus) (hpolicy : t.policy = b.policy)
    (hconsumed : t.consumedVolume = b.consumedVolume) : t.Covers command remaining := by
  have hunits : t.affordableUnits = b.affordableUnits := by
    funext price tradingUnit units
    exact affordableUnits_congr haccount hpolicy price tradingUnit units
  have hdecide : ∀ instrument quote, t.decideFill command instrument quote remaining =
      b.decideFill command instrument quote remaining := by
    intro instrument quote
    unfold decideFill affordableQuantity affordableBuyShares
    rw [hunits]
    cases b
    cases t
    dsimp only at haccount hpositions hinstruments hquotes hstatus hpolicy hconsumed
    subst haccount hpositions hinstruments hquotes hstatus hpolicy hconsumed
    rfl
  intro instrument quote price shares fees hinstrument hquote hdecided hfees fill hsymbol hside
    hprice hshares hcommission hduty hfee positions hafter
  have hcash : t.cashAfter fill = b.cashAfter fill := by
    unfold PaperBroker.cashAfter
    rw [haccount]
  have hpositionsAfter : t.positionsAfter fill = b.positionsAfter fill := by
    unfold PaperBroker.positionsAfter boughtPosition soldPositions holding valuationPrice
    rw [hcash, hpositions, hquotes]
  rw [hcash]
  rw [hinstruments] at hinstrument
  rw [hquotes] at hquote
  rw [hdecide] at hdecided
  rw [hpolicy] at hfees
  rw [hpositionsAfter] at hafter
  exact h instrument quote price shares fees hinstrument hquote hdecided hfees fill hsymbol hside
    hprice hshares hcommission hduty hfee positions hafter

/-- A new order keeps the invariant, and its fill is covered as that of the command was. -/
lemma triple_recordNew (h : Consistent initial b)
    (hnew : b.idempotencyOrders.lookup command.idempotencyKey = none)
    (hcovered : b.Covered (.submitOrder command)) :
    Triple (fun t => t = b.register command)
      (recordOrder command (b.digests.order command.idempotencyKey) status 0 reasonCode sessionDate)
      (fun _ t => Consistent initial t ∧
        t.Covered (.matchOrder (b.digests.order command.idempotencyKey) none))
      (Consistent initial) := by
  have hregistered : Consistent initial (b.register command) := h.registered hnew
  have hcommand : (b.register command).commands.lookup (b.digests.order command.idempotencyKey) =
      some command := AList.lookup_insert _
  have hzero : 0 = orderShares b.fills (b.digests.order command.idempotencyKey) :=
    (h.orderShares_of_none (Named.fresh h.named hnew)).symm
  refine triple_at (.refl _) (triple_imp triple_recordOrder (fun _ h => h) ?_ ?_)
  · rintro fact t ⟨⟨hfact, -⟩, ht⟩
    refine ⟨(hregistered.recorded hcommand rfl (AList.lookup_insert _) hfact.1
      (hfact.2.trans hzero)).of_same ht.toSameBook, ?_⟩
    -- The order that is matched is the one that was recorded.
    intro order command' horder hcommand'
    rw [ht.orders] at horder
    cases (AList.lookup_insert _).symm.trans horder
    rw [ht.commands] at hcommand'
    cases hcommand.symm.trans hcommand'
    rw [hfact.1.2.2.1, hfact.2, Nat.sub_zero]
    exact hcovered.congr ht.account ht.positions ht.instruments ht.quotes ht.marketStatus
      ht.policy ht.consumedVolume
  · exact fun t ht => hregistered.of_same ht.1.toSameBook

lemma callRules_consistent : CallRules (Consistent initial) Covered where
  same h hsame _ := h.of_same hsame
  submitted := triple_recordNew
  matched {_ _ _ _ _ _ quote} h horder hcommand _ hinstrument hquote hcovered := by
    obtain ⟨horder', hcommand'⟩ := lookup_withQuote quote horder hcommand
    exact triple_matchOpen (fun t ht => h.of_same ht.toSameBook) hquote
      (Known.requested h.known horder' hcommand') fun _ _ hdecided _ =>
        h.of_booking horder' hcommand' hinstrument hquote (hcovered _ _ horder hcommand) hdecided
  cancelled {b brokerOrderId current command} h hcurrent hcommand _ := by
    obtain ⟨key, hkey, hid⟩ := h.named brokerOrderId current hcurrent
    refine triple_at (.refl b) (triple_imp triple_recordOrder (fun _ h => h) ?_
      fun t ht => h.of_same ht.1.toSameBook)
    rintro fact t ⟨⟨hfact, -⟩, ht⟩
    exact (h.recorded hcommand hkey hid hfact.1 (hfact.2.trans
      (h.economics.orders brokerOrderId current hcurrent).1)).of_same ht.toSameBook

end Programs

/-! ## The result -/

section Construction

variable {account : BrokerAccountFact} {positions : List BrokerPositionFact}
  {instruments : List InstrumentFact} {quotes : List QuoteFact}
  {marketStatus : MarketSessionStatus} {policy : ExecutionPolicy} {digests : PaperDigests}
  {clock : ℕ → DateTime} {initial : PaperBroker}
  (hcreate : create account positions instruments quotes marketStatus policy digests clock =
    .ok initial)

include hcreate

/-- What the constructor makes of the account and the digests, and what is empty at first. -/
lemma created : initial.account = account ∧ initial.digests = digests ∧ initial.fills = [] ∧
    initial.orders = ∅ ∧ initial.commands = ∅ := by
  unfold create at hcreate
  dsimp only at hcreate
  split_ifs at hcreate
  split at hcreate
  · cases hcreate
  · cases hcreate
    exact ⟨rfl, rfl, rfl, rfl, rfl⟩

lemma consistent_of_create (hplaces : HasPlaces 4 account.availableCash.value) :
    Consistent initial initial := by
  obtain ⟨haccount, -, hfills, horders, -⟩ := created hcreate
  have hnone : ∀ brokerOrderId order, initial.orders.lookup brokerOrderId ≠ some order := by
    intro brokerOrderId order horder
    rw [horders, AList.lookup_empty] at horder
    cases horder
  refine ⟨⟨initial.account.availableCash.nonneg, ?_, ?_, ?_, ?_, ?_, ?_, ?_⟩, ?_, ?_, ?_⟩
  · rw [hfills]
    simp
  · rw [hfills]
    simp [tradedShares]
  · rw [hfills]
    simp [tradedShares]
  · rw [hfills]
    intro symbol
    simpa [tradedShares] using sellableShares_le
  · intro symbol position hposition
    refine ⟨position.sellable_le_total, ?_⟩
    rintro ⟨fill, hfill, -⟩
    rw [hfills] at hfill
    cases hfill
  · exact fun id order horder => absurd horder (hnone id order)
  · intro fill hfill
    rw [hfills] at hfill
    cases hfill
  · rw [haccount]
    exact hplaces
  all_goals exact fun id order horder => absurd horder (hnone id order)

end Construction

/-- From any broker that the constructor builds, with a cash of at most four decimals, the economic
invariants hold after any calls, as long as the account accepts what the fills make of it. -/
theorem economics_of_calls {account : BrokerAccountFact} {positions : List BrokerPositionFact}
    {instruments : List InstrumentFact} {quotes : List QuoteFact}
    {marketStatus : MarketSessionStatus} {policy : ExecutionPolicy} {digests : PaperDigests}
    {clock : ℕ → DateTime} {initial b : PaperBroker}
    (hcreate : create account positions instruments quotes marketStatus policy digests clock =
      .ok initial) (hplaces : HasPlaces 4 account.availableCash.value)
    (hrun : Relation.ReflTransGen CoveredStep initial b) : Economics initial b := by
  have hconsistent : Consistent initial b := by
    induction hrun with
    | refl => exact consistent_of_create hcreate hplaces
    | tail _ hstep ih =>
      obtain ⟨call, hcovered, rfl⟩ := hstep
      exact callRules_consistent.after ih hcovered
  exact hconsistent.economics

namespace Sample

def symbol : Symbol := ⟨.sh, "600001"⟩

def price : Price := ⟨2 / 100, by norm_num⟩

def payload : IntentPayload := ⟨"decision", "order", symbol, .sell, 100, 0, "source"⟩

/-- A SELL of 100 shares at two cents. -/
def command : BrokerOrderCommand :=
  ⟨⟨payload⟩, ⟨payload⟩, "client", symbol, .sell, .limit, 100, price, 0, hundred_pos⟩

lemma countable_string : Countable String := by
  have hchar : Countable Char := by
    refine Function.Injective.countable (f := Char.toNat) ?_
    intro a b hab
    exact Char.toNat_inj.mp hab
  refine Function.Injective.countable (f := String.toList) ?_
  intro a b hab
  exact String.toList_inj.mp hab

/-- There are digests without collisions, and they can avoid a text. -/
lemma exists_digest (text : String) : ∃ digest : IdempotencyKey → String,
    Function.Injective digest ∧ ∀ key, digest key ≠ text := by
  have hstring := countable_string
  have hmarket : Countable Market := by
    refine Function.Injective.countable
      (f := fun market => (decide (market = .sh), decide (market = .sz))) ?_
    intro a b hab
    cases a <;> cases b <;> simp_all
  have hkey : Countable IdempotencyKey := by
    refine Function.Injective.countable (f := fun key => (key.payload.decisionId,
      key.payload.uquantOrderId, key.payload.symbol.market, key.payload.symbol.code,
      decide (key.payload.side = .buy), key.payload.requestedShares, key.payload.strategySession,
      key.payload.uquantSourceSha)) ?_
    rintro ⟨⟨decision, order, ⟨market, code⟩, side, shares, session, source⟩⟩
      ⟨⟨decision', order', ⟨market', code'⟩, side', shares', session', source'⟩⟩ hab
    cases side <;> cases side' <;> simp_all
  obtain ⟨encode, hencode⟩ := exists_injective_nat IdempotencyKey
  have hinfinite : Infinite {other : String // other ≠ text} := by
    have hfinite : ({text} : Set String).Finite := Set.finite_singleton text
    exact hfinite.infinite_compl.to_subtype
  let texts := Infinite.natEmbedding {other : String // other ≠ text}
  refine ⟨fun key => texts (encode key), fun a b hab => hencode (texts.injective ?_),
    fun key => (texts (encode key)).2⟩
  exact Subtype.ext hab

/-- The digests of the sample, with a short id for its one order. -/
noncomputable def digests : PaperDigests where
  order key := if key = command.idempotencyKey then "paper-order-1"
    else (exists_digest "paper-order-1").choose key
  fill _ _ _ _ := "paper-fill-1"
  orderPayload _ := "order"
  fillPayload _ := "fill"
  order_injective a b hab := by
    obtain ⟨hinjective, hother⟩ := (exists_digest "paper-order-1").choose_spec
    dsimp only at hab
    split_ifs at hab with ha hb hb
    · exact ha.trans hb.symm
    · exact absurd hab.symm (hother b)
    · exact absurd hab (hother a)
    · exact hinjective hab

/-- A commission of at least five and no other fees. -/
def policy : ExecutionPolicy where
  fillModel := ⟨1, 0, by norm_num, by norm_num⟩
  feeSchedule := ⟨0, 5, 0, 0, 1 / 100, 2, FeeSchedule.free_nonneg, five_nonneg⟩
  allowAuction := false

def position : BrokerPositionFact :=
  ⟨symbol, 100, 100, some price, ⟨2, two_nonneg⟩, Nat.le_refl 100⟩

def instrument : InstrumentFact where
  symbol := symbol
  securityType := .equity
  status := .trading
  tradingUnit := 100
  priceTick := ⟨1 / 100, cent_pos⟩
  pricePrecision := 2
  lowerLimit := some ⟨1 / 100, cent_pos⟩
  upperLimit := some ⟨3 / 100, by norm_num⟩
  sessionDate := 0
  observedAt := 0
  unit_pos := hundred_pos

def quote : QuoteFact where
  symbol := symbol
  lastPrice := some price
  previousClose := some price
  bidPrice := some price
  askPrice := some price
  volume := 1000
  turnover := Money.zero
  lowerLimit := some ⟨1 / 100, cent_pos⟩
  upperLimit := some ⟨3 / 100, by norm_num⟩
  marketStatus := .open
  sequence := 1
  sessionDate := 0
  eventTime := 0
  receivedAt := 0

/-- An account with this cash beside the position. -/
def account (cash : ℚ) (h : 0 ≤ cash) : BrokerAccountFact :=
  ⟨"account", .cash, ⟨cash, h⟩, ⟨cash + 2, by linarith⟩, by simp⟩

/-- The broker with this cash. -/
noncomputable def broker (cash : ℚ) (h : 0 ≤ cash) : PaperBroker where
  account := account cash h
  positions := dictionary BrokerPositionFact.symbol [position]
  instruments := dictionary InstrumentFact.symbol [instrument]
  quotes := dictionary QuoteFact.symbol [quote]
  marketStatus := .open
  policy := policy
  digests := digests
  clock _ := 0
  readings := 0
  orders := ∅
  commands := ∅
  commandFingerprints := ∅
  idempotencyOrders := ∅
  fills := []
  reasons := ∅
  matchCounts := ∅
  consumedVolume := ∅
  eventSequence := 1
  connected := false
  sink := none
  pendingCallbacks := []
  callbackError := false
  callbackDeliveryFailed := false

lemma create_broker (cash : ℚ) (h : 0 ≤ cash) :
    create (account cash h) [position] [instrument] [quote] .open policy digests (fun _ => 0) =
      .ok (broker cash h) := by
  rfl

end Sample

section

open Sample

/-- With a cash of five, the fees of the SELL are paid. -/
theorem sold_shares_paid : HasPlaces 4 (5 : ℚ) ∧
    Economics (broker 5 (by norm_num))
      (after (after (broker 5 (by norm_num)) .connect) (.submitOrder command)) := by
  have hplaces : HasPlaces 4 (5 : ℚ) := ⟨50000, by norm_num⟩
  refine ⟨hplaces, economics_of_calls (create_broker 5 _) hplaces
    (.tail (.single ⟨.connect, trivial, rfl⟩) ⟨.submitOrder command, ?covered, rfl⟩)⟩
  case covered =>
    intro listed current paid shares fees hlisted hcurrent hdecide hfees fill hsymbol hside hprice
      hshares hcommission hstamp htransfer positions hpositions
    have hlisted' : listed = Sample.instrument := (Option.some.inj hlisted).symm
    have hcurrent' : current = Sample.quote := (Option.some.inj hcurrent).symm
    subst hlisted' hcurrent'
    have hdecided : ((after (broker 5 (by norm_num)) .connect).decideFill command
        Sample.instrument Sample.quote 100).toOption.bind (fun decision =>
          decision.toOption.map fun filled => (filled.1.value, filled.2)) =
        some (2 / 100, 100) := by
      decide +kernel
    have hrequested : command.requestedShares = 100 := rfl
    rw [hrequested] at hdecide
    rw [hdecide] at hdecided
    simp only [Except.toOption, Option.bind_some, Option.map_some, Option.some.injEq,
      Prod.mk.injEq] at hdecided
    obtain ⟨hpaid, rfl⟩ := hdecided
    have hpaid' : paid = Sample.price := by
      cases paid
      subst hpaid
      rfl
    subst hpaid'
    have hschedule : (Sample.policy.feeSchedule.total .sell Sample.price 100).value = 5 := by
      decide +kernel
    have hpaid : fees.commission.value + fees.stampDuty.value + fees.transferFee.value = 5 :=
      (FeeSchedule.total_of_calculate hfees).trans hschedule
    have hcash : (after (broker 5 (by norm_num)) .connect).cashAfter fill = 2 := by
      have hside' : fill.side = .sell := hside
      have hbefore : (after (broker 5 (by norm_num))
        .connect).account.availableCash.value = 5 := rfl
      have hvalue : Sample.price.value = 2 / 100 := rfl
      simp only [cashAfter, amount, hside', gross, totalFees, hcommission, hstamp,
        htransfer, hprice,
        hshares, hpaid, hbefore, hvalue]
      norm_num
    have hsold : positions = ∅ := by
      have hsymbol' : fill.symbol = Sample.symbol := hsymbol
      have hside' : fill.side = .sell := hside
      have herased : (after (broker 5 (by norm_num)) .connect).positions.erase Sample.symbol = ∅ :=
        rfl
      have hlookup : (after (broker 5 (by norm_num)) .connect).positions.lookup fill.symbol =
          some Sample.position := by
        rw [hsymbol']
        rfl
      have htotal : Sample.position.totalShares = 100 := rfl
      have hsellable : Sample.position.sellableShares = 100 := rfl
      rw [positionsAfter, hside'] at hpositions
      simp only [soldPositions, hlookup, hshares, htotal, hsellable] at hpositions
      rw [if_neg (by decide), if_pos trivial, hsymbol', herased] at hpositions
      exact (Except.ok.inj hpositions).symm
    have hnone : marketValue (∅ : AList fun _ : Symbol => BrokerPositionFact) = 0 := rfl
    rw [hcash, hsold, Accepts, hnone]
    decide +kernel

/-- With no cash, the fees of the SELL cannot be paid: the call raises, the shares are gone, and
there is no fill. -/
theorem sold_shares_lost : ∃ b,
    Relation.ReflTransGen (fun b b' => ∃ call, b' = after b call) (broker 0 (le_refl 0)) b ∧
    create (Sample.account 0 (le_refl 0)) [Sample.position] [Sample.instrument] [Sample.quote] .open
      Sample.policy Sample.digests (fun _ => 0) = .ok (broker 0 (le_refl 0)) ∧
    HasPlaces 4 (Sample.account 0 (le_refl 0)).availableCash.value ∧
    b.fills = [] ∧ totalShares (broker 0 (le_refl 0)).positions Sample.symbol = 100 ∧
    totalShares b.positions Sample.symbol = 0 ∧ ¬ Economics (broker 0 (le_refl 0)) b := by
  have hfills : (after (after (broker 0 (le_refl 0)) .connect) (.submitOrder command)).fills.length
      = 0 := by
    decide +kernel
  have hbefore : totalShares (broker 0 (le_refl 0)).positions Sample.symbol = 100 := by
    decide +kernel
  have hafter : totalShares (after (after (broker 0 (le_refl 0)) .connect)
      (.submitOrder command)).positions Sample.symbol = 0 := by
    decide +kernel
  have hnone := List.eq_nil_of_length_eq_zero hfills
  refine ⟨_, .tail (.single ⟨.connect, rfl⟩) ⟨.submitOrder command, rfl⟩, create_broker _ _,
    ⟨0, by simp [Sample.account]⟩, hnone, hbefore, hafter, fun heconomics => ?_⟩
  have htotal := heconomics.total Sample.symbol
  rw [hnone, hbefore, hafter] at htotal
  simp [tradedShares] at htotal

end

end PaperBroker

end FirmQuant
