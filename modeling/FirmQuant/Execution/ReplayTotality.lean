import FirmQuant.Execution.ReplayFills

/-!
# When the replay returns

A session returns, with cash that never becomes negative, exactly if every order that is reached
settles: the amounts of its round that are rounded to a number of places have no more digits than
the decimal context holds, and the fees of a sell exceed its price by no more than the cash.
-/

namespace FirmQuant

open Decimal Effect

/-- What `ReplayAccount` checks, as statements about the dictionaries. -/
lemma ReplayAccount.valid_iff {cash : ℚ} {positions sellable : ShareCounts} :
    ReplayAccount.Valid cash positions sellable ↔
      0 ≤ cash ∧ positions.lookup "" = none ∧
        (∀ symbol, sellable.get symbol ≤ positions.get symbol) ∧
          ∀ symbol, positions.lookup symbol ≠ some 0 := by
  constructor
  · intro h
    refine ⟨h.cash_nonneg, ?_, h.get_le, fun symbol hzero => ?_⟩
    · cases hlookup : positions.lookup "" with
      | none => rfl
      | some n =>
        exact absurd rfl (h.symbols_nonempty ⟨"", n⟩ (AList.mem_lookup_iff.mp hlookup))
    · exact h.positions_pos ⟨symbol, 0⟩ (AList.mem_lookup_iff.mp hzero) rfl
  · rintro ⟨hcash, hempty, hle, hzero⟩
    refine ⟨hcash, fun entry hentry h => ?_, fun entry hentry => ?_, fun entry hentry h => ?_⟩
    · obtain ⟨symbol, n⟩ := entry
      obtain rfl : symbol = "" := h
      rw [AList.mem_lookup_iff.mpr hentry] at hempty
      cases hempty
    · have hget : sellable.get entry.1 = entry.2 := by
        unfold ShareCounts.get
        rw [AList.mem_lookup_iff.mpr hentry]
        rfl
      exact hget ▸ hle entry.1
    · obtain ⟨symbol, n⟩ := entry
      obtain rfl : n = 0 := h
      exact hzero symbol (AList.mem_lookup_iff.mpr hentry)

namespace ExecutionReplay

variable {bars : String → Option DailyBar} {costs : ReplayCosts} {order : ReplayOrder}
  {bar : DailyBar} {s s' : State} {r : ReplayOrderResult} {account : ReplayAccount}
  {orders : List ReplayOrder} {cash fillPrice notional : ℚ} {shares : ℕ} {side : ReplaySide}

/-! ## Amounts that fit the context -/

/-- An amount rounded to four places fits the context. -/
def MoneyFits (x : ℚ) : Prop := |roundHalfEven (x * 10 ^ 4)| < 10 ^ precision

/-- A price rounded up for a buy, and down for a sell, to the cent fits the context. -/
def PriceFits (order : ReplayOrder) (bar : DailyBar) (costs : ReplayCosts) : Prop :=
  let slippage := fit (costs.slippageBps / 10000)
  match order.side with
  | .buy =>
    let nominal := if bar.openPrice ≤ order.limitPrice then bar.openPrice else order.limitPrice
    |⌈fit (nominal * fit (1 + slippage)) * 10 ^ 2⌉| < 10 ^ precision
  | .sell =>
    let nominal := if order.limitPrice ≤ bar.openPrice then bar.openPrice else order.limitPrice
    |⌊fit (nominal * fit (1 - slippage)) * 10 ^ 2⌋| < 10 ^ precision

/-- The loss on the shares that are not filled fits the context. -/
def LossFits (order : ReplayOrder) (bar : DailyBar) (unfilled : ℕ) : Prop :=
  unfilled = 0 ∨ MoneyFits (fit ((match order.side with
    | .buy => max (fit (bar.close - bar.openPrice)) 0
    | .sell => max (fit (bar.openPrice - bar.close)) 0) * unfilled))

/-- The amounts of an order that is not filled fit the context. -/
def BlockFits (order : ReplayOrder) (bar : DailyBar) : Prop :=
  MoneyFits (fit (bar.openPrice * order.shares)) ∧ LossFits order bar order.shares

/-- The fees of a fill fit the context. -/
def FeesFit (notional : ℚ) (side : ReplaySide) (costs : ReplayCosts) : Prop :=
  notional ≤ 0 ∨
    (MoneyFits (max costs.minimumCommission (fit (notional * costs.commissionRate))) ∧
      (side = .sell → MoneyFits (fit (notional * costs.sellStampDutyRate))) ∧
        MoneyFits (fit (notional * costs.transferFeeRate)))

/-- The amounts of a fill fit the context. -/
def FillFits (order : ReplayOrder) (bar : DailyBar) (costs : ReplayCosts) (fillPrice : ℚ)
    (shares : ℕ) : Prop :=
  FeesFit (fit (fillPrice * shares)) order.side costs ∧
    MoneyFits (fit (|fit (fillPrice - bar.openPrice)| * shares)) ∧
      MoneyFits (fit (bar.openPrice * (order.shares - shares : ℕ))) ∧
        LossFits order bar (order.shares - shares)

variable {x : ℚ} {authorized : Bool} {blocker : Option BlockerCode}

lemma quantized_returns {mode : ℚ → ℤ} {places : ℕ} :
    (∃ y, quantized mode places x = .ok y) ↔ |mode (x * 10 ^ places)| < 10 ^ precision := by
  unfold quantized quantizeWith
  by_cases h : |mode (x * 10 ^ places)| < 10 ^ precision
  · simp [h]
  · simp [h]

lemma money_returns : (∃ y, money x = .ok y) ↔ MoneyFits x := quantized_returns

lemma unfilledLoss_returns {unfilled : ℕ} :
    (∃ y, unfilledLoss order bar unfilled = .ok y) ↔ LossFits order bar unfilled := by
  unfold unfilledLoss LossFits
  by_cases h : unfilled = 0
  · simp [h]
  · simp only [if_neg h, h, false_or]
    exact money_returns

lemma block_returns {blocker : BlockerCode} :
    (∃ r s', block order bar blocker authorized s = .ok (r, s')) ↔ BlockFits order bar := by
  unfold block blockedResult BlockFits
  rw [← money_returns, ← unfilledLoss_returns]
  constructor
  · rintro ⟨r, s', h⟩
    obtain ⟨result, h, -⟩ := bind_ok_iff.mp h
    obtain ⟨notional, hnotional, h⟩ := bind_ok_iff.mp h
    obtain ⟨loss, hloss, -⟩ := bind_ok_iff.mp h
    exact ⟨⟨notional, hnotional⟩, loss, hloss⟩
  · rintro ⟨⟨notional, hnotional⟩, loss, hloss⟩
    exact ⟨_, _, bind_ok_iff.mpr ⟨_, bind_ok_iff.mpr ⟨notional, hnotional,
      bind_ok_iff.mpr ⟨loss, hloss, rfl⟩⟩, rfl⟩⟩

lemma feesOf_returns :
    (∃ fees, feesOf notional side costs = .ok fees) ↔ FeesFit notional side costs := by
  unfold feesOf FeesFit
  by_cases hnone : notional ≤ 0
  · simp [hnone]
  · simp only [hnone, if_false, false_or]
    rw [← money_returns, ← money_returns, ← money_returns]
    cases side with
    | buy =>
      simp only [reduceCtorEq, if_false, false_implies, true_and]
      constructor
      · rintro ⟨fees, h⟩
        obtain ⟨commission, hcommission, h⟩ := bind_ok_iff.mp h
        obtain ⟨stamp, -, h⟩ := bind_ok_iff.mp h
        obtain ⟨transfer, htransfer, -⟩ := bind_ok_iff.mp h
        exact ⟨⟨commission, hcommission⟩, transfer, htransfer⟩
      · rintro ⟨⟨commission, hcommission⟩, transfer, htransfer⟩
        exact ⟨_, bind_ok_iff.mpr ⟨commission, hcommission, bind_ok_iff.mpr ⟨0, rfl,
          bind_ok_iff.mpr ⟨transfer, htransfer, rfl⟩⟩⟩⟩
    | sell =>
      simp only [if_true, true_implies]
      constructor
      · rintro ⟨fees, h⟩
        obtain ⟨commission, hcommission, h⟩ := bind_ok_iff.mp h
        obtain ⟨stamp, hstamp, h⟩ := bind_ok_iff.mp h
        obtain ⟨transfer, htransfer, -⟩ := bind_ok_iff.mp h
        exact ⟨⟨commission, hcommission⟩, ⟨stamp, hstamp⟩, transfer, htransfer⟩
      · rintro ⟨⟨commission, hcommission⟩, ⟨stamp, hstamp⟩, transfer, htransfer⟩
        exact ⟨_, bind_ok_iff.mpr ⟨commission, hcommission, bind_ok_iff.mpr ⟨stamp,
          hstamp, bind_ok_iff.mpr ⟨transfer, htransfer, rfl⟩⟩⟩⟩

lemma fill_returns :
    (∃ r s', fill order bar costs fillPrice shares blocker s = .ok (r, s')) ↔
      FillFits order bar costs fillPrice shares := by
  unfold fill FillFits
  rw [← feesOf_returns, ← money_returns, ← money_returns, ← unfilledLoss_returns]
  constructor
  · rintro ⟨r, s', h⟩
    obtain ⟨fees, hfees, h⟩ := bind_ok_iff.mp h
    obtain ⟨slippage, hslippage, h⟩ := bind_ok_iff.mp h
    obtain ⟨notional, hnotional, h⟩ := bind_ok_iff.mp h
    obtain ⟨loss, hloss, -⟩ := bind_ok_iff.mp h
    exact ⟨⟨fees, hfees⟩, ⟨slippage, hslippage⟩, ⟨notional, hnotional⟩, loss, hloss⟩
  · rintro ⟨⟨fees, hfees⟩, ⟨slippage, hslippage⟩, ⟨notional, hnotional⟩, loss, hloss⟩
    exact ⟨_, _, bind_ok_iff.mpr ⟨fees, hfees, bind_ok_iff.mpr ⟨slippage, hslippage,
      bind_ok_iff.mpr ⟨notional, hnotional, bind_ok_iff.mpr ⟨loss, hloss, rfl⟩⟩⟩⟩⟩

lemma candidateFillPrice_returns :
    (∃ fillPrice, candidateFillPrice order bar costs = .ok fillPrice) ↔
      PriceFits order bar costs := by
  unfold candidateFillPrice PriceFits
  cases order.side with
  | buy | sell =>
    simp only
    rw [← quantized_returns]
    constructor
    · rintro ⟨fillPrice, h⟩
      obtain ⟨ticked, hticked, -⟩ := bind_ok_iff.mp h
      exact ⟨ticked, hticked⟩
    · rintro ⟨ticked, hticked⟩
      exact ⟨_, bind_ok_iff.mpr ⟨ticked, hticked, rfl⟩⟩

/-! ## One order -/

/-- The search of `_affordable_buy_shares` comes to this number of shares: the cash covers none of
the larger ones. -/
def Tried (cash fillPrice : ℚ) (costs : ReplayCosts) (desired n : ℕ) : Prop :=
  0 < n ∧ lotSize ∣ n ∧ n ≤ desired ∧
    ∀ m, lotSize ∣ m → n < m → m ≤ desired → ¬ Covers cash fillPrice costs m

lemma covers_iff : Covers cash fillPrice costs shares ↔
    ∃ fees, feesOf (fit (fillPrice * shares)) .buy costs = .ok fees ∧
      fit (fit (fit (fillPrice * shares) + fees.commission) + fees.transfer) ≤ cash := by
  constructor
  · rintro ⟨cost, hcost, hle⟩
    obtain ⟨fees, hfees, h⟩ := bind_ok_iff.mp hcost
    cases h
    exact ⟨fees, hfees, hle⟩
  · rintro ⟨fees, hfees, hle⟩
    exact ⟨_, bind_ok_iff.mpr ⟨fees, hfees, rfl⟩, hle⟩

/-- The search returns exactly if the fees of what it comes to fit the context. -/
lemma affordableLots_returns : ∀ lots, (∃ n, affordableLots cash fillPrice costs lots = .ok n) ↔
    ∀ k, 0 < k → k ≤ lots →
      (∀ j, k < j → j ≤ lots → ¬ Covers cash fillPrice costs (j * lotSize)) →
        FeesFit (fit (fillPrice * (k * lotSize : ℕ))) .buy costs := by
  intro lots
  induction lots with
  | zero =>
    refine ⟨fun _ k hpos hle _ => absurd hle (by omega), fun _ => ⟨0, rfl⟩⟩
  | succ lots ih =>
    unfold affordableLots
    constructor
    · rintro ⟨n, h⟩ k hpos hle hlarger
      obtain ⟨fees, hfees, h⟩ := bind_ok_iff.mp h
      rcases Nat.lt_or_ge k (lots + 1) with hless | hmore
      · have hshort := hlarger (lots + 1) hless le_rfl
        split at h
        next hcost => exact absurd (covers_iff.mpr ⟨fees, hfees, hcost⟩) hshort
        next _ =>
          exact ih.mp ⟨n, h⟩ k hpos (Nat.lt_succ_iff.mp hless) fun j hj hjle =>
            hlarger j hj (hjle.trans (Nat.le_succ lots))
      · obtain rfl : k = lots + 1 := le_antisymm hle hmore
        exact feesOf_returns.mp ⟨fees, hfees⟩
    · intro hfit
      obtain ⟨fees, hfees⟩ := feesOf_returns.mpr (hfit (lots + 1) (Nat.succ_pos _) le_rfl
        fun j hj hjle => absurd hj (not_lt.mpr hjle))
      by_cases hcost : fit (fit (fit (fillPrice * ((lots + 1) * lotSize : ℕ)) + fees.commission) +
          fees.transfer) ≤ cash
      · exact ⟨_, bind_ok_iff.mpr ⟨fees, hfees, if_pos hcost⟩⟩
      · have hshort : ¬ Covers cash fillPrice costs ((lots + 1) * lotSize) := by
          rw [covers_iff]
          rintro ⟨fees', hfees', hle⟩
          rw [hfees] at hfees'
          cases hfees'
          exact hcost hle
        obtain ⟨n, hn⟩ := ih.mpr fun k hpos hle hlarger =>
          hfit k hpos (hle.trans (Nat.le_succ lots)) fun j hj hjle => by
            rcases Nat.lt_or_ge j (lots + 1) with hless | hmore
            · exact hlarger j hj (Nat.lt_succ_iff.mp hless)
            · obtain rfl : j = lots + 1 := le_antisymm hjle hmore
              exact hshort
        exact ⟨n, bind_ok_iff.mpr ⟨fees, hfees, by rw [if_neg hcost, hn]⟩⟩

lemma affordableBuyShares_returns {desired : ℕ} :
    (∃ n, affordableBuyShares cash desired fillPrice costs = .ok n) ↔
      ∀ n, Tried cash fillPrice costs desired n →
        FeesFit (fit (fillPrice * n)) .buy costs := by
  have hlot : 0 < lotSize := by decide
  unfold affordableBuyShares
  rw [affordableLots_returns]
  constructor
  · rintro hfit n ⟨hpos, ⟨k, rfl⟩, hle, hlarger⟩
    rw [Nat.mul_comm] at hle hpos ⊢
    refine hfit k (Nat.pos_of_mul_pos_right hpos) ((Nat.le_div_iff_mul_le hlot).mpr hle)
      fun j hj hjle => hlarger _ (dvd_mul_left _ _) ?_ ((Nat.le_div_iff_mul_le hlot).mp hjle)
    rw [Nat.mul_comm]
    exact Nat.mul_lt_mul_of_pos_right hj hlot
  · intro hfit k hpos hle hlarger
    refine hfit (k * lotSize) ⟨Nat.mul_pos hpos hlot, dvd_mul_left _ _,
      (Nat.le_div_iff_mul_le hlot).mp hle, ?_⟩
    rintro m ⟨j, rfl⟩ hless hmore
    rw [Nat.mul_comm lotSize j] at hless hmore ⊢
    exact hlarger j (Nat.lt_of_mul_lt_mul_right hless) ((Nat.le_div_iff_mul_le hlot).mpr hmore)

/-- What a sell brings, less its fees. -/
def proceeds (fillPrice : ℚ) (shares : ℕ) (fees : Fees) : ℚ :=
  fit (fit (fit (fit (fillPrice * shares) - fees.commission) - fees.stamp) - fees.transfer)

/-- The round of an order settles: its amounts fit the context, and the fees of a sell exceed its
price by no more than the cash. -/
structure Settles (order : ReplayOrder) (bar : DailyBar) (costs : ReplayCosts) (s : State) :
    Prop where
  idle : (¬ ∃ fillPrice, Trades order bar costs s fillPrice) → BlockFits order bar
  price : Authorized order bar costs s → PriceFits order bar costs
  search : ∀ fillPrice n, Trades order bar costs s fillPrice → order.side = .buy →
    Tried s.cash fillPrice costs (wanted order bar) n → FeesFit (fit (fillPrice * n)) .buy costs
  blocked : ∀ fillPrice, Trades order bar costs s fillPrice →
    IsGreatest (Admitted order bar costs s fillPrice) 0 → BlockFits order bar
  filled : ∀ fillPrice n, Trades order bar costs s fillPrice →
    IsGreatest (Admitted order bar costs s fillPrice) n → n ≠ 0 →
      FillFits order bar costs fillPrice n
  solvent : ∀ fillPrice n fees, Trades order bar costs s fillPrice → order.side = .sell →
    IsGreatest (Admitted order bar costs s fillPrice) n → n ≠ 0 →
      feesOf (fit (fillPrice * n)) .sell costs = .ok fees →
        0 ≤ s.cash + proceeds fillPrice n fees

/-- What a fill leaves: the cash after its fees, and the shares. -/
lemma state_of_fill (h : fill order bar costs fillPrice shares blocker s = .ok (r, s')) :
    (∃ fees, feesOf (fit (fillPrice * shares)) order.side costs = .ok fees ∧
        s'.cash = cashAfter s.cash fillPrice order.side shares fees) ∧
      s'.positions = (sharesAfter s order shares).1 := by
  unfold fill at h
  obtain ⟨fees, hfees, h⟩ := bind_ok_iff.mp h
  obtain ⟨slippage, -, h⟩ := bind_ok_iff.mp h
  obtain ⟨notional, -, h⟩ := bind_ok_iff.mp h
  obtain ⟨loss, -, h⟩ := bind_ok_iff.mp h
  cases h
  exact ⟨⟨fees, hfees, rfl⟩, rfl⟩

lemma state_of_block {blocker : BlockerCode}
    (h : block order bar blocker authorized s = .ok (r, s')) :
    s'.cash = s.cash ∧ s'.positions = s.positions := by
  unfold block at h
  obtain ⟨result, -, h⟩ := bind_ok_iff.mp h
  cases h
  split <;> exact ⟨rfl, rfl⟩

/-- The search of a buy returns. -/
def Searches (order : ReplayOrder) (bar : DailyBar) (costs : ReplayCosts) (s : State)
    (fillPrice : ℚ) : Prop :=
  order.side = .buy → ∃ affordable,
    affordableBuyShares s.cash (wanted order bar) fillPrice costs = .ok affordable

lemma exists_greatest (htrades : Trades order bar costs s fillPrice)
    (hsearch : Searches order bar costs s fillPrice) :
    ∃ n, IsGreatest (Admitted order bar costs s fillPrice) n := by
  cases hside : order.side with
  | sell => exact ⟨_, greatest_of_sell hside⟩
  | buy =>
    obtain ⟨affordable, haffordable⟩ := hsearch hside
    exact ⟨affordable, greatest_of_buy hside htrades.cash_nonneg haffordable⟩

/-- An order that trades is either not filled, with nothing admitted, or filled with the most that
is admitted. -/
lemma fillOrBlock_eq (htrades : Trades order bar costs s fillPrice) {n : ℕ}
    (hgreatest : IsGreatest (Admitted order bar costs s fillPrice) n)
    (hsearch : Searches order bar costs s fillPrice) :
    (n = 0 ∧ ∃ blocker, fillOrBlock order bar costs fillPrice s =
        block order bar blocker true s) ∨
      n ≠ 0 ∧ ∃ blocker, fillOrBlock order bar costs fillPrice s =
        fill order bar costs fillPrice n blocker s := by
  cases hside : order.side with
  | sell =>
    rw [hgreatest.unique (greatest_of_sell hside), fillOrBlock_sell hside]
    simp only
    split
    next hzero => exact .inl ⟨hzero, _, rfl⟩
    next hpos => exact .inr ⟨hpos, _, rfl⟩
  | buy =>
    obtain ⟨affordable, haffordable⟩ := hsearch hside
    obtain rfl := hgreatest.unique (greatest_of_buy hside htrades.cash_nonneg haffordable)
    rw [fillOrBlock_buy hside, haffordable, ok_bind]
    split
    next hzero => exact .inl ⟨hzero, _, rfl⟩
    next hpos => exact .inr ⟨hpos, _, rfl⟩

lemma searches_iff : Searches order bar costs s fillPrice ↔
    (order.side = .buy → ∀ n, Tried s.cash fillPrice costs (wanted order bar) n →
      FeesFit (fit (fillPrice * n)) .buy costs) := by
  unfold Searches
  rw [affordableBuyShares_returns]

/-- Without the search nothing returns. -/
lemma searches_of_fillOrBlock (h : fillOrBlock order bar costs fillPrice s = .ok (r, s')) :
    Searches order bar costs s fillPrice := by
  intro hside
  exact ⟨_, (filled_of_buy h hside).1⟩

lemma fit_nonneg_iff : 0 ≤ fit x ↔ 0 ≤ x := by
  refine ⟨fun h => ?_, fit_nonneg⟩
  by_contra hneg
  have hlt : x < 0 := not_le.mp hneg
  have herror := abs_fit_sub_le x
  rw [abs_of_neg hlt, abs_le] at herror
  have hsmall : -x / (2 * 10 ^ 27) < -x := div_lt_self (neg_pos.mpr hlt) (by norm_num)
  linarith [herror.2]

/-- The cash after a purchase that it covers, and after a sell that brings no less than a debt. -/
lemma cashAfter_nonneg_iff {fees : Fees} (hfees : feesOf (fit (fillPrice * shares)) side costs =
    .ok fees) (hcovers : side = .buy → Covers cash fillPrice costs shares) :
    0 ≤ cashAfter cash fillPrice side shares fees ↔
      (side = .sell → 0 ≤ cash + proceeds fillPrice shares fees) := by
  unfold cashAfter proceeds
  cases side with
  | sell =>
    simp only [true_implies]
    exact fit_nonneg_iff
  | buy =>
    simp only [reduceCtorEq, false_implies, iff_true]
    obtain ⟨fees', hfees', hle⟩ := covers_iff.mp (hcovers rfl)
    rw [hfees] at hfees'
    cases hfees'
    exact fit_nonneg (sub_nonneg.mpr hle)

/-- The round of an order that trades. -/
lemma settles_iff_of_trades (htrades : Trades order bar costs s fillPrice) :
    Settles order bar costs s ↔
      ∃ r s', fillOrBlock order bar costs fillPrice s = .ok (r, s') ∧ 0 ≤ s'.cash := by
  have honly : ∀ p, Trades order bar costs s p → p = fillPrice := fun p hp =>
    hp.price_unique htrades
  constructor
  · intro h
    have hsearch : Searches order bar costs s fillPrice :=
      searches_iff.mpr fun hside n => h.search fillPrice n htrades hside
    obtain ⟨n, hgreatest⟩ := exists_greatest htrades hsearch
    rcases fillOrBlock_eq htrades hgreatest hsearch with
      ⟨rfl, blocker, heq⟩ | ⟨hpos, blocker, heq⟩
    · obtain ⟨r, s', hblock⟩ := block_returns.mpr (h.blocked fillPrice htrades hgreatest)
      refine ⟨r, s', heq.trans hblock, ?_⟩
      rw [(state_of_block hblock).1]
      exact htrades.cash_nonneg
    · obtain ⟨r, s', hfill⟩ := fill_returns.mpr (h.filled fillPrice n htrades hgreatest hpos)
      obtain ⟨⟨fees, hfees, hcash⟩, -⟩ := state_of_fill hfill
      refine ⟨r, s', heq.trans hfill, ?_⟩
      rw [hcash, cashAfter_nonneg_iff hfees fun hside => ?_]
      · intro hside
        rw [hside] at hfees
        exact h.solvent fillPrice n fees htrades hside hgreatest hpos hfees
      · have haffords := hgreatest.1.2
        unfold Affords at haffords
        rw [hside] at haffords
        exact haffords.2
  · rintro ⟨r, s', h, hcash⟩
    have hsearch := searches_of_fillOrBlock h
    obtain ⟨m, hmost⟩ := exists_greatest htrades hsearch
    have hround := fillOrBlock_eq htrades hmost hsearch
    refine ⟨fun hnone => absurd ⟨fillPrice, htrades⟩ hnone,
      fun _ => candidateFillPrice_returns.mp ⟨fillPrice, htrades.price⟩, fun p n hp hside => ?_,
      fun p hp hzero => ?_, fun p n hp hgreatest hpos => ?_,
      fun p n fees hp hside hgreatest hpos hfees => ?_⟩
    · obtain rfl := honly p hp
      exact searches_iff.mp hsearch hside n
    · obtain rfl := honly p hp
      obtain rfl := hmost.unique hzero
      obtain ⟨-, blocker, heq⟩ | ⟨hne, -⟩ := hround
      · exact block_returns.mp ⟨r, s', heq ▸ h⟩
      · exact absurd rfl hne
    · obtain rfl := honly p hp
      obtain rfl := hmost.unique hgreatest
      obtain ⟨hzero, -⟩ | ⟨-, blocker, heq⟩ := hround
      · exact absurd hzero hpos
      · exact fill_returns.mp ⟨r, s', heq ▸ h⟩
    · obtain rfl := honly p hp
      obtain rfl := hmost.unique hgreatest
      obtain ⟨hzero, -⟩ | ⟨-, blocker, heq⟩ := hround
      · exact absurd hzero hpos
      · obtain ⟨⟨fees', hfees', hafter⟩, -⟩ := state_of_fill (heq ▸ h)
        rw [hside] at hfees' hafter
        rw [hfees] at hfees'
        cases hfees'
        rw [hafter] at hcash
        exact (cashAfter_nonneg_iff hfees fun h => nomatch h).mp hcash rfl

/-- A round that is not authorized only reports. -/
lemma executeOrder_of_not_authorized (hbar : bars order.symbol = some bar)
    (hvalid : ReplayAccount.Valid s.cash s.positions s.sellable)
    (h : ¬ Authorized order bar costs s) :
    ∃ blocker authorized, executeOrder bars costs order s =
      block order bar blocker authorized s := by
  have hcreate : ReplayAccount.create s.cash s.positions s.sellable =
      .ok ⟨s.cash, s.positions, s.sellable, hvalid⟩ := dif_pos hvalid
  unfold executeOrder
  simp only [hbar]
  split
  next hskip => exact ⟨_, _, rfl⟩
  next hproceeds =>
    cases hblocker : authorizationBlocker ⟨s.cash, s.positions, s.sellable, hvalid⟩ order bar
        costs with
    | some blocker =>
      refine ⟨blocker, false, ?_⟩
      simp only [hcreate, ok_bind, hblocker]
    | none => exact absurd ⟨hproceeds, _, hcreate, hblocker⟩ h

/-- A round that is authorized looks at the price. -/
lemma executeOrder_of_authorized (hbar : bars order.symbol = some bar)
    (h : Authorized order bar costs s) :
    executeOrder bars costs order s = (do
      let fillPrice ← candidateFillPrice order bar costs
      if priceReached order bar fillPrice = false then block order bar .priceLimit true s
      else fillOrBlock order bar costs fillPrice s) := by
  obtain ⟨hproceeds, account, hcreate, hblocker⟩ := h
  unfold executeOrder
  simp only [hbar, if_neg hproceeds, hcreate, ok_bind, hblocker]

lemma settles_iff (hbar : bars order.symbol = some bar)
    (hvalid : ReplayAccount.Valid s.cash s.positions s.sellable) :
    Settles order bar costs s ↔
      ∃ r s', executeOrder bars costs order s = .ok (r, s') ∧ 0 ≤ s'.cash := by
  -- a round that does not trade settles exactly if its report fits
  have hidle : ∀ blocker authorized, (¬ ∃ fillPrice, Trades order bar costs s fillPrice) →
      (Authorized order bar costs s → PriceFits order bar costs) →
        (Settles order bar costs s ↔
          ∃ r s', block order bar blocker authorized s = .ok (r, s') ∧ 0 ≤ s'.cash) := by
    intro blocker authorized hnone hprice
    constructor
    · intro h
      obtain ⟨r, s', hblock⟩ := block_returns.mpr (h.idle hnone)
      exact ⟨r, s', hblock, by rw [(state_of_block hblock).1]; exact hvalid.cash_nonneg⟩
    · rintro ⟨r, s', hblock, -⟩
      have hno : ∀ fillPrice, ¬ Trades order bar costs s fillPrice := fun p hp => hnone ⟨p, hp⟩
      exact ⟨fun _ => block_returns.mp ⟨r, s', hblock⟩, hprice, fun p _ hp => absurd hp (hno p),
        fun p hp => absurd hp (hno p), fun p _ hp => absurd hp (hno p),
        fun p _ _ hp => absurd hp (hno p)⟩
  by_cases hauthorized : Authorized order bar costs s
  · rw [executeOrder_of_authorized hbar hauthorized]
    by_cases hprice : ∃ fillPrice, candidateFillPrice order bar costs = .ok fillPrice
    · obtain ⟨fillPrice, hcandidate⟩ := hprice
      have hfits := candidateFillPrice_returns.mp ⟨fillPrice, hcandidate⟩
      rw [hcandidate]
      change _ ↔ ∃ r s', (if priceReached order bar fillPrice = false then
          block order bar .priceLimit true s else fillOrBlock order bar costs fillPrice s) =
            .ok (r, s') ∧ 0 ≤ s'.cash
      by_cases hreached : priceReached order bar fillPrice = true
      · simp only [hreached, Bool.true_eq_false, if_false]
        exact settles_iff_of_trades ⟨hauthorized, hcandidate, hreached⟩
      · have hmissed : priceReached order bar fillPrice = false := by simpa using hreached
        simp only [hmissed, if_true]
        refine hidle _ _ ?_ fun _ => hfits
        rintro ⟨p, hp⟩
        have hsame := hp.price
        rw [hcandidate] at hsame
        cases hsame
        exact hreached hp.reached
    · constructor
      · intro h
        exact absurd (candidateFillPrice_returns.mpr (h.price hauthorized)) hprice
      · rintro ⟨r, s', h, -⟩
        obtain ⟨fillPrice, hcandidate, -⟩ := bind_ok_iff.mp h
        exact absurd ⟨fillPrice, hcandidate⟩ hprice
  · obtain ⟨blocker, authorized, heq⟩ := executeOrder_of_not_authorized hbar hvalid hauthorized
    rw [heq]
    exact hidle blocker authorized (fun ⟨p, hp⟩ => hauthorized hp.authorized)
      fun h => absurd h hauthorized

/-! ## The account between the orders -/

lemma positions_of_round (h : executeOrder bars costs order s = .ok (r, s')) :
    s'.positions = s.positions ∨ s'.positions = s.positions.erase order.symbol ∨
      ∃ n, n ≠ 0 ∧ s'.positions = s.positions.insert order.symbol n := by
  -- a fill of some shares either adds them or takes them away
  have hfill : ∀ bar fillPrice n blocker, n ≠ 0 →
      fill order bar costs fillPrice n blocker s = .ok (r, s') →
        s'.positions = s.positions.erase order.symbol ∨
          ∃ m, m ≠ 0 ∧ s'.positions = s.positions.insert order.symbol m := by
    intro bar fillPrice n blocker hn h
    rw [(state_of_fill h).2]
    unfold sharesAfter
    cases order.side with
    | buy => exact .inr ⟨_, by omega, rfl⟩
    | sell =>
      simp only
      split
      next hpos => exact .inr ⟨_, hpos.ne', rfl⟩
      next _ => exact .inl rfl
  obtain ⟨bar, hbar, ⟨-, blocker, authorized, hblock, -⟩ | ⟨fillPrice, htrades, h⟩⟩ :=
    executeOrder_cases h
  · exact .inl (state_of_block hblock).2
  · have hsearch := searches_of_fillOrBlock h
    obtain ⟨n, hgreatest⟩ := exists_greatest htrades hsearch
    rcases fillOrBlock_eq htrades hgreatest hsearch with ⟨-, blocker, heq⟩ | ⟨hn, blocker, heq⟩
    · exact .inl (state_of_block (heq ▸ h)).2
    · exact .inr (hfill bar fillPrice n blocker hn (heq ▸ h))

/-- A round keeps what the account checks, as long as its cash does not become negative. -/
lemma valid_of_round (h : executeOrder bars costs order s = .ok (r, s'))
    (hvalid : ReplayAccount.Valid s.cash s.positions s.sellable) (hcash : 0 ≤ s'.cash) :
    ReplayAccount.Valid s'.cash s'.positions s'.sellable := by
  obtain ⟨-, hmoves⟩ := executeOrder_spec h
  rw [ReplayAccount.valid_iff] at hvalid ⊢
  obtain ⟨-, hempty, hle, hpos⟩ := hvalid
  have hne : "" ≠ order.symbol := order.symbol_nonempty.symm
  refine ⟨hcash, ?_, fun symbol => ?_, fun symbol => ?_⟩
  · rcases positions_of_round h with heq | heq | ⟨n, -, heq⟩
    · rw [heq, hempty]
    · rw [heq, AList.lookup_erase_ne hne, hempty]
    · rw [heq, AList.lookup_insert_ne hne, hempty]
  · have hpositions := hmoves.positions symbol
    have hsellable := hmoves.sellable symbol
    have hbefore := hle symbol
    omega
  · by_cases hsymbol : symbol = order.symbol
    · subst hsymbol
      rcases positions_of_round h with heq | heq | ⟨n, hn, heq⟩
      · rw [heq]
        exact hpos _
      · rw [heq, AList.lookup_erase]
        exact fun hzero => nomatch hzero
      · rw [heq, AList.lookup_insert]
        exact fun hzero => hn (Option.some.inj hzero)
    · rcases positions_of_round h with heq | heq | ⟨n, -, heq⟩
      · rw [heq]
        exact hpos symbol
      · rw [heq, AList.lookup_erase_ne hsymbol]
        exact hpos symbol
      · rw [heq, AList.lookup_insert_ne hsymbol]
        exact hpos symbol

/-! ## The session -/

/-- Every order has a bar, and the bars are of one session. -/
def Matches (bars : String → Option DailyBar) (orders : List ReplayOrder) : Prop :=
  ∃ session, ∀ order ∈ orders, ∃ bar, bars order.symbol = some bar ∧ bar.session = session

/-- The cash is not negative after any of the orders. -/
def StaysSolvent (bars : String → Option DailyBar) (costs : ReplayCosts) (account : ReplayAccount)
    (orders : List ReplayOrder) : Prop :=
  ∀ done rest results s, sellsFirst orders = done ++ rest →
    executeOrders bars costs done (opening account) = .ok (results, s) → 0 ≤ s.cash

/-- The session returns, with cash that never becomes negative. -/
def Completes (bars : String → Option DailyBar) (costs : ReplayCosts) (account : ReplayAccount)
    (orders : List ReplayOrder) : Prop :=
  (∃ session, executeSession account orders bars costs = .ok session) ∧
    StaysSolvent bars costs account orders

/-- Every order that is reached settles. -/
def AllSettle (bars : String → Option DailyBar) (costs : ReplayCosts) (account : ReplayAccount)
    (orders : List ReplayOrder) : Prop :=
  ∀ before order s bar, Reaches bars costs account orders before order s →
    bars order.symbol = some bar → Settles order bar costs s

/-- The cash and the sums over the results fit the context. -/
structure SumsFit (results : List ReplayOrderResult) (s : State) : Prop where
  cash : MoneyFits s.cash
  commissions : MoneyFits (total (·.commission) results)
  stampDuty : MoneyFits (total (·.stampDuty) results)
  transferFees : MoneyFits (total (·.transferFee) results)
  slippageCost : MoneyFits (total (·.slippageCost) results)
  unfilledNotional : MoneyFits (total (·.unfilledNotional) results)
  unfilledLoss : MoneyFits (total (·.unfilledLoss) results)
  turnover : MoneyFits (total turnover results)

lemma money_nonneg {y : ℚ} (h : money x = .ok y) (hx : 0 ≤ x) : 0 ≤ y := by
  have hscaled : 0 ≤ x * 10 ^ 4 := by positivity
  have hfloor : 0 ≤ ⌊x * 10 ^ 4⌋ := Int.floor_nonneg.mpr hscaled
  have hround : 0 ≤ roundHalfEven (x * 10 ^ 4) := by
    unfold roundHalfEven
    split_ifs <;> omega
  rw [money_eq_ok h]
  have hcast : (0 : ℚ) ≤ (roundHalfEven (x * 10 ^ 4) : ℚ) := by exact_mod_cast hround
  positivity

/-- The session result is made exactly if the sums fit the context. -/
lemma sessionResult_returns {session : Date} {results : List ReplayOrderResult}
    (hvalid : ReplayAccount.Valid s.cash s.positions s.sellable) :
    (∃ result, sessionResult bars session results s = .ok result) ↔ SumsFit results s := by
  constructor
  · rintro ⟨result, h⟩
    unfold sessionResult at h
    simp only [bind_ok_iff] at h
    obtain ⟨a, ha, -, -, b, hb, c, hc, d, hd, e, he, f, hf, g, hg, i, hi, -⟩ := h
    exact ⟨money_returns.mp ⟨a, ha⟩, money_returns.mp ⟨b, hb⟩, money_returns.mp ⟨c, hc⟩,
      money_returns.mp ⟨d, hd⟩, money_returns.mp ⟨e, he⟩, money_returns.mp ⟨f, hf⟩,
      money_returns.mp ⟨g, hg⟩, money_returns.mp ⟨i, hi⟩⟩
  · intro h
    obtain ⟨cash, hcash⟩ := money_returns.mpr h.cash
    have hending : ReplayAccount.Valid cash s.positions s.sellable :=
      ⟨money_nonneg hcash hvalid.cash_nonneg, hvalid.symbols_nonempty, hvalid.sellable_le,
        hvalid.positions_pos⟩
    have hcreate : ReplayAccount.create cash s.positions s.sellable =
        .ok ⟨cash, s.positions, s.sellable, hending⟩ := dif_pos hending
    obtain ⟨b, hb⟩ := money_returns.mpr h.commissions
    obtain ⟨c, hc⟩ := money_returns.mpr h.stampDuty
    obtain ⟨d, hd⟩ := money_returns.mpr h.transferFees
    obtain ⟨e, he⟩ := money_returns.mpr h.slippageCost
    obtain ⟨f, hf⟩ := money_returns.mpr h.unfilledNotional
    obtain ⟨g, hg⟩ := money_returns.mpr h.unfilledLoss
    obtain ⟨i, hi⟩ := money_returns.mpr h.turnover
    unfold sessionResult
    simp only [bind_ok_iff]
    exact ⟨_, cash, hcash, _, hcreate, b, hb, c, hc, d, hd, e, he, f, hf, g, hg, i, hi, rfl⟩

/-- With a bar of one session for each order, the session is the loop and the sums. -/
lemma executeSession_returns (hne : orders ≠ []) (hmatches : Matches bars orders) :
    (∃ session, executeSession account orders bars costs = .ok session) ↔
      ∃ results s date, executeOrders bars costs (sellsFirst orders) (opening account) =
          .ok (results, s) ∧ ∃ session, sessionResult bars date results s = .ok session := by
  obtain ⟨date, hbars⟩ := hmatches
  cases orders with
  | nil => exact absurd rfl hne
  | cons first rest =>
    obtain ⟨bar, hbar, hdate⟩ := hbars first (List.mem_cons_self ..)
    have hmissing : ¬ ((first :: rest).any fun order => (bars order.symbol).isNone) = true := by
      rw [List.any_eq_true]
      rintro ⟨order, horder, hnone⟩
      obtain ⟨bar, hbar, -⟩ := hbars order horder
      rw [hbar] at hnone
      cases hnone
    have hsessions : ¬ ((first :: rest).any fun order => decide ((bars order.symbol).map
        DailyBar.session ≠ (bars first.symbol).map DailyBar.session)) = true := by
      rw [List.any_eq_true]
      rintro ⟨order, horder, hdiffer⟩
      obtain ⟨bar', hbar', hdate'⟩ := hbars order horder
      rw [hbar, hbar', Option.map_some, Option.map_some, hdate, hdate'] at hdiffer
      simp at hdiffer
    unfold executeSession
    constructor
    · rintro ⟨session, h⟩
      iterate 2 obtain ⟨-, -, h⟩ := bind_ok_iff.mp h
      obtain ⟨⟨results, s⟩, hloop, h⟩ := bind_ok_iff.mp h
      simp only [hbar] at h
      exact ⟨results, s, bar.session, hloop, session, h⟩
    · rintro ⟨results, s, date', hloop, session, h⟩
      obtain ⟨session', h'⟩ : ∃ session', sessionResult bars bar.session results s =
          .ok session' := by
        unfold sessionResult at h ⊢
        simp only [bind_ok_iff] at h ⊢
        obtain ⟨a, ha, t, ht, b, hb, c, hc, d, hd, e, he, f, hf, g, hg, i, hi, -⟩ := h
        exact ⟨_, a, ha, t, ht, b, hb, c, hc, d, hd, e, he, f, hf, g, hg, i, hi, rfl⟩
      refine ⟨session', bind_ok_iff.mpr ⟨⟨⟩, refuse_eq_ok.mpr hmissing,
        bind_ok_iff.mpr ⟨⟨⟩, refuse_eq_ok.mpr hsessions,
          bind_ok_iff.mpr ⟨(results, s), hloop, ?_⟩⟩⟩⟩
      simp only [hbar]
      exact h'

/-- If the orders settle, the loop comes through every first part of them with a valid account. -/
lemma loop_of_settles (hmatches : Matches bars orders)
    (hsettles : AllSettle bars costs account orders) :
    ∀ done rest, sellsFirst orders = done ++ rest → ∃ results s,
      executeOrders bars costs done (opening account) = .ok (results, s) ∧
        ReplayAccount.Valid s.cash s.positions s.sellable := by
  obtain ⟨date, hbars⟩ := hmatches
  intro done
  induction done using List.reverseRecOn with
  | nil => exact fun rest _ => ⟨[], opening account, rfl, account.valid⟩
  | append_singleton done order ih =>
    intro rest hsplit
    rw [List.append_assoc, List.singleton_append] at hsplit
    obtain ⟨results, s, hdone, hvalid⟩ := ih (order :: rest) hsplit
    have hmem : order ∈ orders := (sellsFirst_perm orders).mem_iff.mp (by rw [hsplit]; simp)
    obtain ⟨bar, hbar, -⟩ := hbars order hmem
    have hsettled := hsettles results order s bar ⟨done, rest, hsplit, hdone⟩ hbar
    obtain ⟨r, s', horder, hcash⟩ := (settles_iff hbar hvalid).mp hsettled
    exact ⟨results ++ [r], s', executeOrders_append.mpr ⟨results, s, [r], hdone,
      executeOrders_singleton.mpr ⟨r, horder, rfl⟩, rfl⟩, valid_of_round horder hvalid hcash⟩

/-- While the cash is not negative, the account stays valid. -/
lemma valid_of_solvent (hsolvent : StaysSolvent bars costs account orders) :
    ∀ done rest results s, sellsFirst orders = done ++ rest →
      executeOrders bars costs done (opening account) = .ok (results, s) →
        ReplayAccount.Valid s.cash s.positions s.sellable := by
  intro done
  induction done using List.reverseRecOn with
  | nil =>
    intro rest results s _ h
    cases h
    exact account.valid
  | append_singleton done order ih =>
    intro rest results s hsplit h
    have hcash := hsolvent _ rest results s hsplit h
    obtain ⟨before, t, after, hdone, hone, rfl⟩ := executeOrders_append.mp h
    obtain ⟨r, horder, rfl⟩ := executeOrders_singleton.mp hone
    rw [List.append_assoc, List.singleton_append] at hsplit
    exact valid_of_round horder (ih (order :: rest) before t hsplit hdone) hcash

/-- A session over matching bars completes exactly if every order that is reached settles and the
sums fit the context. -/
theorem completes_iff (hne : orders ≠ []) (hmatches : Matches bars orders) :
    Completes bars costs account orders ↔
      AllSettle bars costs account orders ∧
        ∀ results s, executeOrders bars costs (sellsFirst orders) (opening account) =
          .ok (results, s) → SumsFit results s := by
  have hwhole : sellsFirst orders = sellsFirst orders ++ [] := (List.append_nil _).symm
  constructor
  · rintro ⟨hreturns, hsolvent⟩
    obtain ⟨session, hsession⟩ := hreturns
    refine ⟨fun before order s bar hreach hbar => ?_, fun results s hloop => ?_⟩
    · obtain ⟨r, s', after, horder, -⟩ := round_of_session hsession hreach
      obtain ⟨done, rest, hsplit, hdone⟩ := hreach
      have hvalid := valid_of_solvent hsolvent done (order :: rest) before s hsplit hdone
      refine (settles_iff hbar hvalid).mpr ⟨r, s', horder, ?_⟩
      refine hsolvent (done ++ [order]) rest (before ++ [r]) s' (by rw [hsplit]; simp) ?_
      exact executeOrders_append.mpr ⟨before, s, [r], hdone,
        executeOrders_singleton.mpr ⟨r, horder, rfl⟩, rfl⟩
    · obtain ⟨results', s', date, hloop', hresult⟩ :=
        (executeSession_returns hne hmatches).mp ⟨session, hsession⟩
      rw [hloop] at hloop'
      cases hloop'
      exact (sessionResult_returns (valid_of_solvent hsolvent _ [] results s hwhole hloop)).mp
        hresult
  · rintro ⟨hsettles, hsums⟩
    constructor
    · obtain ⟨results, s, hloop, hvalid⟩ := loop_of_settles hmatches hsettles _ [] hwhole
      exact (executeSession_returns hne hmatches).mpr ⟨results, s, 1, hloop,
        (sessionResult_returns hvalid).mpr (hsums results s hloop)⟩
    · intro done rest results s hsplit hdone
      obtain ⟨results', s', hdone', hvalid⟩ := loop_of_settles hmatches hsettles done rest hsplit
      rw [hdone] at hdone'
      cases hdone'
      exact hvalid.cash_nonneg

/-- A sell and a buy without fees. -/
theorem swap_completes_iff : Completes quietBars freeCosts (sampleAccount 0 le_rfl) swapOrders ↔
    AllSettle quietBars freeCosts (sampleAccount 0 le_rfl) swapOrders ∧
      ∀ results s, executeOrders quietBars freeCosts (sellsFirst swapOrders)
        (opening (sampleAccount 0 le_rfl)) = .ok (results, s) → SumsFit results s := by
  refine completes_iff (by decide) ⟨1, fun order horder => ?_⟩
  exact ⟨quietBar order.symbol order.symbol_nonempty, dif_pos order.symbol_nonempty, rfl⟩

/-- A minimum commission of 15. -/
def dearCosts : ReplayCosts :=
  { freeCosts with
    minimumCommission := 15
    nonneg := by norm_num [freeCosts] }

/-- A sell of one share. -/
def lastShare : ReplayOrder :=
  { sampleOrder "600001" .sell sampleSymbol_ne with
    shares := 1
    shares_pos := by norm_num
    side := .sell
    sell_independent := fun _ => rfl }

/-- A share sold at 10 with a commission of 15 and no cash makes the session raise. -/
theorem lastShare_raises : ¬ ∀ account orders bars costs, orders ≠ [] → Matches bars orders →
    Completes bars costs account orders := by
  intro h
  have hmatches : Matches quietBars [lastShare] := ⟨1, fun order _ =>
    ⟨quietBar order.symbol order.symbol_nonempty, dif_pos order.symbol_nonempty, rfl⟩⟩
  obtain ⟨⟨session, hsession⟩, -⟩ :=
    h (sampleAccount 0 le_rfl) [lastShare] quietBars dearCosts (List.cons_ne_nil _ _) hmatches
  have hraises : (executeSession (sampleAccount 0 le_rfl) [lastShare] quietBars
      dearCosts).toOption.isNone = true := by
    decide +kernel
  rw [hsession] at hraises
  cases hraises

end ExecutionReplay

end FirmQuant
