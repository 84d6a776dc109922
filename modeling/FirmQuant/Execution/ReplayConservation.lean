import FirmQuant.Execution.ExecutionReplay

/-!
# Conservation in the execution replay

Every order of a session has one result, and what the results say was traded is the difference
between the accounts before and after the session.
-/

namespace FirmQuant

open Decimal Effect

namespace ShareCounts

variable {counts : ShareCounts} {symbol other : String} {n : ℕ}

lemma get_insert : (ShareCounts.get (counts.insert symbol n) other) =
    if other = symbol then n else counts.get other := by
  unfold get
  split
  next h =>
    subst h
    rw [AList.lookup_insert]
    rfl
  next h => rw [AList.lookup_insert_ne h]

lemma get_erase : (ShareCounts.get (counts.erase symbol) other) =
    if other = symbol then 0 else counts.get other := by
  unfold get
  split
  next h =>
    subst h
    rw [AList.lookup_erase]
    rfl
  next h => rw [AList.lookup_erase_ne h]

end ShareCounts

lemma ReplayAccount.Valid.get_le {cash : ℚ} {positions sellable : ShareCounts}
    (h : ReplayAccount.Valid cash positions sellable) (symbol : String) :
    sellable.get symbol ≤ positions.get symbol := by
  unfold ShareCounts.get
  cases hlookup : sellable.lookup symbol with
  | none => exact Nat.zero_le _
  | some n => exact h.sellable_le ⟨symbol, n⟩ (AList.mem_lookup_iff.mp hlookup)

lemma ReplayAccount.create_eq_ok {cash : ℚ} {positions sellable : ShareCounts}
    {account : ReplayAccount} (h : ReplayAccount.create cash positions sellable = .ok account) :
    account.cash = cash ∧ account.positions = positions ∧ account.sellable = sellable := by
  unfold ReplayAccount.create at h
  split at h
  · cases h
    exact ⟨rfl, rfl, rfl⟩
  · cases h

namespace ReplayOrderResult

/-- The shares of a symbol that a result says were bought. -/
def bought (r : ReplayOrderResult) (symbol : String) : ℕ :=
  if r.symbol = symbol ∧ r.side = .buy then r.filledShares else 0

/-- The shares of a symbol that a result says were sold. -/
def sold (r : ReplayOrderResult) (symbol : String) : ℕ :=
  if r.symbol = symbol ∧ r.side = .sell then r.filledShares else 0

def fees (r : ReplayOrderResult) : ExecutionReplay.Fees :=
  ⟨r.commission, r.stampDuty, r.transferFee⟩

/-- The cash after a result, in the decimal context. -/
def applyCash (cash : ℚ) (r : ReplayOrderResult) : ℚ :=
  match r.fillPrice with
  | none => cash
  | some price => ExecutionReplay.cashAfter cash price r.side r.filledShares r.fees

/-- What a result adds to the cash: a sell its price less its fees, a buy the opposite of its price
with its fees. -/
def cashFlow (r : ReplayOrderResult) : ℚ :=
  match r.fillPrice with
  | none => 0
  | some price =>
    match r.side with
    | .sell => price * r.filledShares - (r.commission + r.stampDuty + r.transferFee)
    | .buy => -(price * r.filledShares + (r.commission + r.stampDuty + r.transferFee))

/-- A decimal operation with this exact result does not round. -/
def IsExact (x : ℚ) : Prop := fit x = x

/-- No operation rounds on the way to the cash after a result. -/
def CashIsExact (cash : ℚ) (r : ReplayOrderResult) : Prop :=
  ∀ price, r.fillPrice = some price →
    IsExact (price * r.filledShares) ∧ IsExact (cash + r.cashFlow) ∧
      match r.side with
      | .sell =>
        IsExact (price * r.filledShares - r.commission) ∧
          IsExact (price * r.filledShares - r.commission - r.stampDuty) ∧
          IsExact (price * r.filledShares - r.commission - r.stampDuty - r.transferFee)
      | .buy =>
        IsExact (price * r.filledShares + r.commission) ∧
          IsExact (price * r.filledShares + r.commission + r.transferFee)

end ReplayOrderResult

namespace ExecutionReplay

open ReplayOrderResult

variable {bars : String → Option DailyBar} {costs : ReplayCosts} {order : ReplayOrder}
  {bar : DailyBar} {s s' : State} {r : ReplayOrderResult}

/-- What the result of an order says of the fill. -/
structure Answers (bars : String → Option DailyBar) (order : ReplayOrder) (r : ReplayOrderResult) :
    Prop where
  symbol : r.symbol = order.symbol
  side : r.side = order.side
  requested : r.requestedShares = order.shares
  filled_le : r.filledShares ≤ r.requestedShares
  unfilled : r.fillPrice = none → r.filledShares = 0
  price : ∀ price, r.fillPrice = some price → ∃ bar, bars order.symbol = some bar ∧
    (bar.low ≤ price ∧ price ≤ bar.high) ∧ (order.side = .buy → price ≤ order.limitPrice) ∧
      (order.side = .sell → order.limitPrice ≤ price)
  lots : r.side = .buy → lotSize ∣ r.filledShares
  stamp : r.side = .buy → r.stampDuty = 0

/-- What one round of the loop does to the account. -/
structure Moves (s : State) (r : ReplayOrderResult) (s' : State) : Prop where
  cash : s'.cash = r.applyCash s.cash
  positions : ∀ symbol,
    s'.positions.get symbol + r.sold symbol = s.positions.get symbol + r.bought symbol
  sellable : ∀ symbol, s'.sellable.get symbol + r.sold symbol = s.sellable.get symbol

/-! ## One order -/

lemma block_spec {blocker : BlockerCode} {authorized : Bool}
    (h : block order bar blocker authorized s = .ok (r, s')) :
    Answers bars order r ∧ Moves s r s' := by
  unfold block blockedResult at h
  simp only [bind_ok_iff] at h
  obtain ⟨result, ⟨notional, -, loss, -, hresult⟩, hreturn⟩ := h
  cases hresult
  cases hreturn
  have hpositions : ∀ t : State, (if order.side = .sell then { t with incompleteSell := true }
      else t).positions = t.positions := fun t => by split <;> rfl
  have hsellable : ∀ t : State, (if order.side = .sell then { t with incompleteSell := true }
      else t).sellable = t.sellable := fun t => by split <;> rfl
  have hcash : ∀ t : State, (if order.side = .sell then { t with incompleteSell := true }
      else t).cash = t.cash := fun t => by split <;> rfl
  refine ⟨⟨rfl, rfl, rfl, Nat.zero_le _, fun _ => rfl,
    fun price h => (by cases h),
    fun _ => dvd_zero _, fun _ => rfl⟩, ⟨hcash s, fun symbol => ?_, fun symbol => ?_⟩⟩
  · rw [hpositions]
    simp [sold, bought]
  · rw [hsellable]
    simp [sold]

lemma feesOf_buy {notional : ℚ} {fees : Fees} (h : feesOf notional .buy costs = .ok fees) :
    fees.stamp = 0 := by
  unfold feesOf at h
  split at h
  · cases h
    rfl
  · obtain ⟨commission, -, h⟩ := bind_ok_iff.mp h
    obtain ⟨stamp, hstamp, h⟩ := bind_ok_iff.mp h
    obtain ⟨transfer, -, h⟩ := bind_ok_iff.mp h
    cases h
    exact (Except.ok.inj hstamp).symm

variable {shares : ℕ} {fillPrice cash : ℚ} {results : List ReplayOrderResult}

/-- A sell takes its shares from the positions and from the sellable shares. -/
lemma sharesAfter_sell (hside : order.side = .sell)
    (hdeliver : shares ≤ s.sellable.get order.symbol)
    (hheld : s.sellable.get order.symbol ≤ s.positions.get order.symbol) (symbol : String) :
    (sharesAfter s order shares).1.get symbol + (if order.symbol = symbol then shares else 0) =
        s.positions.get symbol ∧
      (sharesAfter s order shares).2.get symbol + (if order.symbol = symbol then shares else 0) =
        s.sellable.get symbol := by
  unfold sharesAfter
  rw [hside]
  by_cases hsymbol : symbol = order.symbol
  · subst hsymbol
    simp only [if_true]
    split
    · simp only [ShareCounts.get_insert, if_true]
      omega
    · simp only [ShareCounts.get_erase, if_true]
      omega
  · simp only [if_neg (Ne.symm hsymbol), add_zero]
    split
    · simp only [ShareCounts.get_insert, if_neg hsymbol, and_self]
    · simp only [ShareCounts.get_erase, if_neg hsymbol, and_self]

/-- A buy adds its shares to the positions alone. -/
lemma sharesAfter_buy (hside : order.side = .buy) (symbol : String) :
    (sharesAfter s order shares).1.get symbol =
        s.positions.get symbol + (if order.symbol = symbol then shares else 0) ∧
      (sharesAfter s order shares).2.get symbol = s.sellable.get symbol := by
  unfold sharesAfter
  rw [hside]
  simp only [ShareCounts.get_insert, and_true]
  by_cases hsymbol : symbol = order.symbol
  · subst hsymbol
    simp only [if_true]
  · simp only [if_neg hsymbol, if_neg (Ne.symm hsymbol), add_zero]

/-- What a fill does, for a number of shares that the account can deliver. -/
lemma fill_spec {blocker : Option BlockerCode}
    (h : fill order bar costs fillPrice shares blocker s = .ok (r, s'))
    (hbar : bars order.symbol = some bar) (hshares : shares ≤ order.shares)
    (hrange : bar.low ≤ fillPrice ∧ fillPrice ≤ bar.high)
    (hbuy : order.side = .buy → fillPrice ≤ order.limitPrice ∧ lotSize ∣ shares)
    (hsell : order.side = .sell → order.limitPrice ≤ fillPrice ∧
      shares ≤ s.sellable.get order.symbol ∧
        s.sellable.get order.symbol ≤ s.positions.get order.symbol) :
    Answers bars order r ∧ Moves s r s' := by
  unfold fill at h
  simp only [bind_ok_iff] at h
  obtain ⟨fees, hfees, slippage, -, notional, -, loss, -, hreturn⟩ := h
  cases hreturn
  constructor
  · exact {
      symbol := rfl
      side := rfl
      requested := rfl
      filled_le := hshares
      unfilled := fun h => (by cases h)
      price := fun price h => by
        cases h
        exact ⟨bar, hbar, hrange, fun h => (hbuy h).1, fun h => (hsell h).1⟩
      lots := fun h => (hbuy h).2
      stamp := fun h => by
        rw [show order.side = .buy from h] at hfees
        exact feesOf_buy hfees }
  · cases hside : order.side with
    | sell =>
      obtain ⟨-, hdeliver, hheld⟩ := hsell hside
      have hafter := sharesAfter_sell hside hdeliver hheld
      refine ⟨rfl, fun symbol => ?_, fun symbol => ?_⟩
      · simpa [sold, bought] using (hafter symbol).1
      · simpa [sold] using (hafter symbol).2
    | buy =>
      have hafter : ∀ symbol, (sharesAfter s order shares).1.get symbol = _ ∧ _ :=
        sharesAfter_buy hside
      refine ⟨rfl, fun symbol => ?_, fun symbol => ?_⟩
      · simpa [sold, bought] using (hafter symbol).1
      · simpa [sold] using (hafter symbol).2

lemma affordableLots_spec :
    ∀ lots, affordableLots cash fillPrice costs lots = .ok shares →
      shares ≤ lots * lotSize ∧ lotSize ∣ shares := by
  intro lots
  induction lots with
  | zero =>
    intro h
    cases h
    exact ⟨Nat.zero_le _, dvd_zero _⟩
  | succ lots ih =>
    intro h
    unfold affordableLots at h
    obtain ⟨fees, -, h⟩ := bind_ok_iff.mp h
    split at h
    · cases h
      exact ⟨le_refl _, dvd_mul_left _ _⟩
    · obtain ⟨hle, hdvd⟩ := ih h
      exact ⟨hle.trans (Nat.mul_le_mul_right _ (Nat.le_succ lots)), hdvd⟩

lemma affordableBuyShares_spec {desired : ℕ}
    (h : affordableBuyShares cash desired fillPrice costs = .ok shares) :
    shares ≤ desired ∧ lotSize ∣ shares := by
  obtain ⟨hle, hdvd⟩ := affordableLots_spec _ h
  exact ⟨hle.trans (Nat.div_mul_le_self _ _), hdvd⟩

lemma candidateFillPrice_limit (h : candidateFillPrice order bar costs = .ok fillPrice) :
    (order.side = .buy → fillPrice ≤ order.limitPrice) ∧
      (order.side = .sell → order.limitPrice ≤ fillPrice) := by
  unfold candidateFillPrice at h
  cases hside : order.side with
  | buy =>
    rw [hside] at h
    obtain ⟨ticked, -, h⟩ := bind_ok_iff.mp h
    cases h
    exact ⟨fun _ => min_le_left _ _, fun h => nomatch h⟩
  | sell =>
    rw [hside] at h
    obtain ⟨ticked, -, h⟩ := bind_ok_iff.mp h
    cases h
    exact ⟨fun h => (nomatch h), fun _ => le_max_left _ _⟩

lemma range_of_priceReached {fillPrice : ℚ} (h : priceReached order bar fillPrice = true) :
    bar.low ≤ fillPrice ∧ fillPrice ≤ bar.high := by
  unfold priceReached at h
  split at h <;>
    · simp only [Bool.and_eq_true, decide_eq_true_eq] at h
      exact h.1

variable {account : ReplayAccount} {blocker : BlockerCode}

/-- The order is authorized: the sells before it left no reason to hold it back, and neither the
account nor the opening of the session does. -/
structure Authorized (order : ReplayOrder) (bar : DailyBar) (costs : ReplayCosts) (s : State) :
    Prop where
  proceeds : ¬ (order.side = .buy ∧ order.dependsOnSellProceeds = true ∧ s.incompleteSell = true)
  unblocked : ∃ account, ReplayAccount.create s.cash s.positions s.sellable = .ok account ∧
    authorizationBlocker account order bar costs = none

/-- The order is authorized, and its price was reached in the session. -/
structure Trades (order : ReplayOrder) (bar : DailyBar) (costs : ReplayCosts) (s : State)
    (fillPrice : ℚ) : Prop where
  authorized : Authorized order bar costs s
  price : candidateFillPrice order bar costs = .ok fillPrice
  reached : priceReached order bar fillPrice = true

lemma authorizationBlocker_mem (h : authorizationBlocker account order bar costs = some blocker) :
    blocker ∈ [.incompleteSell, .nonTradable, .priceLimit, .staleQuote] := by
  unfold authorizationBlocker at h
  simp only at h
  split at h
  · cases h
    simp
  · split at h
    · cases h
      simp
    · split at h
      · cases h
        simp
      · split at h
        · cases h
          simp
        · split at h
          · cases h
            simp
          · cases h

/-- A round of the loop either does not trade, and names a reason other than size and cash, or
comes to the fill. -/
lemma executeOrder_cases (h : executeOrder bars costs order s = .ok (r, s')) :
    ∃ bar, bars order.symbol = some bar ∧
      ((¬ ∃ fillPrice, Trades order bar costs s fillPrice) ∧
          (∃ blocker authorized, block order bar blocker authorized s = .ok (r, s') ∧
            blocker ∈ [.incompleteSell, .nonTradable, .priceLimit, .staleQuote]) ∨
        ∃ fillPrice, Trades order bar costs s fillPrice ∧
          fillOrBlock order bar costs fillPrice s = .ok (r, s')) := by
  unfold executeOrder at h
  split at h
  · cases h
  next bar hbar =>
    refine ⟨bar, hbar, ?_⟩
    split at h
    next hskip =>
      exact .inl ⟨fun ⟨_, htrades⟩ => htrades.authorized.proceeds hskip, _, _, h, by simp⟩
    next hproceeds =>
      obtain ⟨account, haccount, h⟩ := bind_ok_iff.mp h
      split at h
      next blocker hblocker =>
        refine .inl ⟨?_, _, _, h, ?_⟩
        · rintro ⟨_, htrades⟩
          obtain ⟨account', haccount', hnone⟩ := htrades.authorized.unblocked
          rw [haccount] at haccount'
          cases haccount'
          rw [hblocker] at hnone
          cases hnone
        · exact authorizationBlocker_mem hblocker
      next hnone =>
        obtain ⟨fillPrice, hprice, h⟩ := bind_ok_iff.mp h
        split at h
        next hmissed =>
          refine .inl ⟨?_, _, _, h, by simp⟩
          rintro ⟨fillPrice', htrades⟩
          have hsame := htrades.price
          rw [hprice] at hsame
          cases hsame
          rw [htrades.reached] at hmissed
          cases hmissed
        next hreached =>
          exact .inr ⟨fillPrice, ⟨⟨hproceeds, account, haccount, hnone⟩, hprice,
            by simpa using hreached⟩, h⟩

lemma Trades.cash_nonneg (h : Trades order bar costs s fillPrice) : 0 ≤ s.cash := by
  obtain ⟨account, hcreate, -⟩ := h.authorized.unblocked
  rw [← (ReplayAccount.create_eq_ok hcreate).1]
  exact account.valid.cash_nonneg

/-- The shares that an order wants of the day: its own, within its part of the volume. -/
def wanted (order : ReplayOrder) (bar : DailyBar) : ℕ :=
  min order.shares (volumeCap bar order.maxVolumeParticipation order.side)

/-- A sell that trades takes all of its shares that it can deliver. -/
lemma fillOrBlock_sell (hside : order.side = .sell) :
    fillOrBlock order bar costs fillPrice s =
      let shares := min (min (wanted order bar) (s.sellable.get order.symbol))
        (s.positions.get order.symbol)
      if shares = 0 then block order bar .nonTradable true s
      else fill order bar costs fillPrice shares none s := by
  unfold fillOrBlock wanted
  rw [hside]

/-- A buy that trades takes what the search finds affordable, and names the cash when that is less
than it wants. -/
lemma fillOrBlock_buy (hside : order.side = .buy) :
    fillOrBlock order bar costs fillPrice s =
      affordableBuyShares s.cash (wanted order bar) fillPrice costs >>= fun shares =>
        if shares = 0 then
          block order bar (if 0 < wanted order bar then .insufficientCash else .volumeLimit) true s
        else fill order bar costs fillPrice shares
          (if shares < wanted order bar then some .insufficientCash else none) s := by
  have hcap : 0 < wanted order bar ↔ 0 < volumeCap bar order.maxVolumeParticipation .buy := by
    unfold wanted
    rw [hside, lt_min_iff]
    exact and_iff_right order.shares_pos
  simp only [hcap]
  unfold fillOrBlock wanted
  rw [hside]
  cases h : affordableBuyShares s.cash (min order.shares
      (volumeCap bar order.maxVolumeParticipation .buy)) fillPrice costs with
  | error e =>
    simp only [h]
    rfl
  | ok shares =>
    have hle := (affordableBuyShares_spec h).1
    simp only [h, ok_bind]
    -- what is left of the wanted shares is what cash admits, whether or not it limits them
    rw [show (if shares < min order.shares (volumeCap bar order.maxVolumeParticipation .buy) then
      shares else min order.shares (volumeCap bar order.maxVolumeParticipation .buy)) = shares by
        split <;> omega]

lemma fillOrBlock_spec (h : fillOrBlock order bar costs fillPrice s = .ok (r, s'))
    (hbar : bars order.symbol = some bar) (hrange : bar.low ≤ fillPrice ∧ fillPrice ≤ bar.high)
    (hlimit : (order.side = .buy → fillPrice ≤ order.limitPrice) ∧
      (order.side = .sell → order.limitPrice ≤ fillPrice))
    (hheld : s.sellable.get order.symbol ≤ s.positions.get order.symbol) :
    Answers bars order r ∧ Moves s r s' := by
  cases hside : order.side with
  | sell =>
    rw [fillOrBlock_sell hside] at h
    simp only at h
    split at h
    · exact block_spec h
    · refine fill_spec h hbar ?_ hrange (fun h => ?_) fun _ => ⟨hlimit.2 hside, ?_, hheld⟩
      · exact (min_le_left _ _).trans ((min_le_left _ _).trans (min_le_left _ _))
      · rw [hside] at h
        cases h
      · exact (min_le_left _ _).trans (min_le_right _ _)
  | buy =>
    rw [fillOrBlock_buy hside] at h
    obtain ⟨shares, hshares, h⟩ := bind_ok_iff.mp h
    obtain ⟨hle, hdvd⟩ := affordableBuyShares_spec hshares
    split at h
    · exact block_spec h
    · refine fill_spec h hbar (hle.trans (min_le_left _ _)) hrange
        (fun _ => ⟨hlimit.1 hside, hdvd⟩) fun h => ?_
      rw [hside] at h
      cases h

lemma executeOrder_spec (h : executeOrder bars costs order s = .ok (r, s')) :
    Answers bars order r ∧ Moves s r s' := by
  obtain ⟨bar, hbar, ⟨-, _, _, hblock, -⟩ | ⟨fillPrice, htrades, h⟩⟩ := executeOrder_cases h
  · exact block_spec hblock
  · obtain ⟨account, haccount, -⟩ := htrades.authorized.unblocked
    obtain ⟨-, hpositions, hsellable⟩ := ReplayAccount.create_eq_ok haccount
    refine fillOrBlock_spec h hbar (range_of_priceReached htrades.reached)
      (candidateFillPrice_limit htrades.price) ?_
    rw [← hpositions, ← hsellable]
    exact account.valid.get_le _

/-! ## The loop -/

/-- What the loop does with its orders: one result each, and the sums of what they moved. -/
structure Run (bars : String → Option DailyBar) (orders : List ReplayOrder) (s : State)
    (results : List ReplayOrderResult) (s' : State) : Prop where
  answers : List.Forall₂ (Answers bars) orders results
  cash : s'.cash = results.foldl applyCash s.cash
  positions : ∀ symbol, s'.positions.get symbol + (results.map (·.sold symbol)).sum =
    s.positions.get symbol + (results.map (·.bought symbol)).sum
  sellable : ∀ symbol, s'.sellable.get symbol + (results.map (·.sold symbol)).sum =
    s.sellable.get symbol

lemma executeOrders_spec {orders : List ReplayOrder} :
    executeOrders bars costs orders s = .ok (results, s') → Run bars orders s results s' := by
  induction orders generalizing s results with
  | nil =>
    intro h
    cases h
    exact ⟨.nil, rfl, fun _ => rfl, fun _ => rfl⟩
  | cons order orders ih =>
    intro h
    unfold executeOrders at h
    obtain ⟨⟨r, s₁⟩, horder, h⟩ := bind_ok_iff.mp h
    obtain ⟨⟨results, s₂⟩, horders, h⟩ := bind_ok_iff.mp h
    cases h
    obtain ⟨hanswers, hmoves⟩ := executeOrder_spec horder
    have hrun := ih horders
    refine ⟨.cons hanswers hrun.answers, ?_, fun symbol => ?_, fun symbol => ?_⟩
    · rw [List.foldl_cons, ← hmoves.cash]
      exact hrun.cash
    · have hone := hmoves.positions symbol
      have hrest := hrun.positions symbol
      simp only [List.map_cons, List.sum_cons]
      omega
    · have hone := hmoves.sellable symbol
      have hrest := hrun.sellable symbol
      simp only [List.map_cons, List.sum_cons]
      omega

lemma sellsFirst_perm (orders : List ReplayOrder) : (sellsFirst orders).Perm orders := by
  unfold sellsFirst
  simpa using List.filter_append_perm (fun order : ReplayOrder =>
    decide (order.side = .sell)) orders

/-! ## Cash -/

/-- No operation on the cash rounds, in any of the results. -/
def NeverRounds : ℚ → List ReplayOrderResult → Prop
  | _, [] => True
  | cash, r :: results => CashIsExact cash r ∧ NeverRounds (cash + r.cashFlow) results

/-- Where nothing rounds, the cash after a result is the cash before and the flow. -/
lemma applyCash_exact (hstamp : r.side = .buy → r.stampDuty = 0) (h : CashIsExact cash r) :
    r.applyCash cash = cash + r.cashFlow := by
  unfold applyCash cashFlow cashAfter fees
  cases hprice : r.fillPrice with
  | none => simp
  | some price =>
    obtain ⟨hnotional, hsum, hfees⟩ := h price hprice
    unfold IsExact at hnotional hsum
    unfold cashFlow at hsum
    rw [hprice] at hsum
    cases hside : r.side with
    | sell =>
      rw [hside] at hfees hsum
      obtain ⟨hcommission, hstamped, htransfer⟩ := hfees
      unfold IsExact at hcommission hstamped htransfer
      simp only at hsum ⊢
      rw [hnotional, hcommission, hstamped, htransfer]
      have hflow : price * r.filledShares - r.commission - r.stampDuty - r.transferFee =
          price * r.filledShares - (r.commission + r.stampDuty + r.transferFee) := by ring
      rw [hflow, hsum]
    | buy =>
      rw [hside] at hfees hsum
      obtain ⟨hcommission, htransfer⟩ := hfees
      unfold IsExact at hcommission htransfer
      simp only at hsum ⊢
      rw [hnotional, hcommission, htransfer]
      have hflow : cash - (price * r.filledShares + r.commission + r.transferFee) =
          cash + -(price * r.filledShares + (r.commission + r.stampDuty + r.transferFee)) := by
        rw [hstamp hside]
        ring
      rw [hflow, hsum]

lemma foldl_applyCash {orders : List ReplayOrder}
    (hanswers : List.Forall₂ (Answers bars) orders results) :
    NeverRounds cash results →
      results.foldl applyCash cash = cash + (results.map cashFlow).sum := by
  induction hanswers generalizing cash with
  | nil =>
    intro _
    simp
  | cons hanswer _ ih =>
    rintro ⟨hexact, hrest⟩
    rw [List.foldl_cons, applyCash_exact hanswer.stamp hexact, ih hrest, List.map_cons,
      List.sum_cons, add_assoc]

/-! ## The session -/

/-- What a session conserves. -/
structure Conserves (bars : String → Option DailyBar) (account : ReplayAccount)
    (orders : List ReplayOrder) (session : ReplaySessionResult) : Prop where
  /-- One result for each order, sells before buys. -/
  answers : List.Forall₂ (Answers bars) (sellsFirst orders) session.orders
  perm : (sellsFirst orders).Perm orders
  /-- Positions change by the signed fills. -/
  positions : ∀ symbol, session.endingAccount.positions.get symbol +
      (session.orders.map (·.sold symbol)).sum =
    account.positions.get symbol + (session.orders.map (·.bought symbol)).sum
  /-- Sellable shares change by the sold ones: what was bought is not among them. -/
  sellable : ∀ symbol, session.endingAccount.sellable.get symbol +
      (session.orders.map (·.sold symbol)).sum = account.sellable.get symbol
  sellable_le : ∀ symbol, session.endingAccount.sellable.get symbol ≤
    session.endingAccount.positions.get symbol
  /-- The cash is what the results make of it one by one, rounded once to four places. -/
  cash : session.endingAccount.cash =
    roundHalfEven (session.orders.foldl applyCash account.cash * 10 ^ 4) / 10 ^ 4
  /-- Where no operation rounds, this is the sum of the flows. -/
  cash_exact : NeverRounds account.cash session.orders → session.endingAccount.cash =
    roundHalfEven ((account.cash + (session.orders.map cashFlow).sum) * 10 ^ 4) / 10 ^ 4

lemma money_eq_ok {x y : ℚ} (h : money x = .ok y) : y = roundHalfEven (x * 10 ^ 4) / 10 ^ 4 := by
  unfold money quantized at h
  split at h
  next z hz =>
    cases h
    exact quantizeWith_eq_some hz
  · cases h

lemma sessionResult_spec {session : Date} {result : ReplaySessionResult}
    (h : sessionResult bars session results s = .ok result) :
    result.orders = results ∧ money s.cash = .ok result.endingAccount.cash ∧
      result.endingAccount.positions = s.positions ∧
        result.endingAccount.sellable = s.sellable := by
  unfold sessionResult at h
  simp only [bind_ok_iff] at h
  obtain ⟨cash, hcash, ending, hending, _, _, _, _, _, _, _, _, _, _, _, _, _, _, h⟩ := h
  cases h
  obtain ⟨hcreated, hpositions, hsellable⟩ := ReplayAccount.create_eq_ok hending
  refine ⟨rfl, ?_, hpositions, hsellable⟩
  rw [hcreated]
  exact hcash

theorem session_conserves {account : ReplayAccount} {orders : List ReplayOrder}
    {session : ReplaySessionResult}
    (h : executeSession account orders bars costs = .ok session) :
    Conserves bars account orders session := by
  unfold executeSession at h
  split at h
  · cases h
  next first rest =>
    iterate 2 obtain ⟨-, -, h⟩ := bind_ok_iff.mp h
    obtain ⟨⟨results, s'⟩, horders, h⟩ := bind_ok_iff.mp h
    have hrun := executeOrders_spec horders
    simp only at h
    split at h
    · cases h
    next bar hbar =>
      obtain ⟨rfl, hcash, hpositions, hsellable⟩ := sessionResult_spec h
      have hrounded := money_eq_ok hcash
      exact {
        answers := hrun.answers
        perm := sellsFirst_perm _
        positions := fun symbol => by
          rw [hpositions]
          exact hrun.positions symbol
        sellable := fun symbol => by
          rw [hsellable]
          exact hrun.sellable symbol
        sellable_le := session.endingAccount.valid.get_le
        cash := by rw [hrounded, hrun.cash]
        cash_exact := fun hexact => by
          rw [hrounded, hrun.cash, foldl_applyCash hrun.answers hexact] }

/-! ## Sample sessions -/

/-- A quiet bar of a symbol at 10. -/
def quietBar (symbol : String) (h : symbol ≠ "") : DailyBar where
  session := 1
  symbol := symbol
  openPrice := 10
  high := 11
  low := 9
  close := 10
  previousClose := 10
  volume := 100000
  suspended := false
  limitUp := 11
  limitDown := 9
  symbol_nonempty := h
  prices_pos := by norm_num
  low_le_high := by norm_num
  range := by norm_num
  limits := by norm_num
  suspended_volume := fun h => (nomatch h)

/-- A bar for every symbol. -/
def quietBars (symbol : String) : Option DailyBar :=
  if h : symbol ≠ "" then some (quietBar symbol h) else none

def freeCosts : ReplayCosts where
  commissionRate := 0
  minimumCommission := 0
  sellStampDutyRate := 0
  transferFeeRate := 0
  slippageBps := 0
  maxPriceDeviationBps := 100
  nonneg := by norm_num
  rates_le_one := by norm_num
  bps_le := by norm_num

/-- An account that can sell 100 shares. -/
def sampleAccount (cash : ℚ) (h : 0 ≤ cash) : ReplayAccount where
  cash := cash
  positions := AList.insert "600001" 100 ∅
  sellable := AList.insert "600001" 100 ∅
  valid := {
    cash_nonneg := h
    symbols_nonempty := by decide
    sellable_le := by decide
    positions_pos := by decide }

def sampleOrder (symbol : String) (side : ReplaySide) (h : symbol ≠ "") : ReplayOrder where
  symbol := symbol
  side := side
  shares := 100
  limitPrice := 10
  maxVolumeParticipation := 1 / 10
  dependsOnSellProceeds := false
  symbol_nonempty := h
  shares_pos := hundred_pos
  limitPrice_pos := ten_pos
  participation_pos := by norm_num
  participation_le_one := by norm_num
  sell_independent := fun _ => rfl

lemma sampleSymbol_ne : "600001" ≠ "" := by decide

def swapOrders : List ReplayOrder :=
  [sampleOrder "600002" .buy (by decide), sampleOrder "600001" .sell sampleSymbol_ne]

/-- A session that sells one symbol and buys another. -/
theorem swap_conserves : ∃ session,
    executeSession (sampleAccount 0 le_rfl) swapOrders quietBars freeCosts = .ok session ∧
      Conserves quietBars (sampleAccount 0 le_rfl) swapOrders session := by
  have hfilled : (executeSession (sampleAccount 0 le_rfl) swapOrders quietBars
      freeCosts).toOption.map (fun session => session.orders.map (·.filledShares)) =
        some [100, 100] := by
    decide +kernel
  obtain ⟨session, hsession, -⟩ := exists_of_map hfilled
  exact ⟨session, hsession, session_conserves hsession⟩

/-- Cash with more than 28 digits. -/
def longCash : ReplayAccount :=
  sampleAccount (100000 + 14999999999999999999999999999 / 10 ^ 32) (by norm_num)

/-- With cash of more than 28 digits the sum of the proceeds rounds, and the result is then rounded
a second time to four places. -/
theorem long_cash_rounds_twice : ¬ ∀ account orders bars costs session,
    executeSession account orders bars costs = .ok session →
      session.endingAccount.cash = roundHalfEven
        ((account.cash + (session.orders.map cashFlow).sum) * 10 ^ 4) / 10 ^ 4 := by
  intro h
  have hrun : (executeSession longCash [sampleOrder "600001" .sell (by decide)] quietBars
      freeCosts).toOption.map
        (fun session => (session.endingAccount.cash, (session.orders.map cashFlow).sum)) =
      some (101000 + 2 / 10 ^ 4, 1000) := by
    decide +kernel
  obtain ⟨session, hsession, hpair⟩ := exists_of_map hrun
  have hending : session.endingAccount.cash = 101000 + 2 / 10 ^ 4 := congrArg Prod.fst hpair
  have hflow : (session.orders.map cashFlow).sum = 1000 := congrArg Prod.snd hpair
  have hsum := h _ _ _ _ _ hsession
  rw [hending, hflow] at hsum
  have hrounded : (roundHalfEven ((longCash.cash + 1000) * 10 ^ 4) : ℚ) / 10 ^ 4 =
      101000 + 1 / 10 ^ 4 := by
    decide +kernel
  rw [hrounded] at hsum
  norm_num at hsum

end ExecutionReplay

end FirmQuant
