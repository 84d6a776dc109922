import FirmQuant.Execution.ReplayConservation

/-!
# What the replay fills

How many shares one order of a session is filled with, in terms of what the account and the bar
allow it: the largest number that its size, its own share of the day's volume, the shares to deliver
and the cash admit.  Two questions about a whole session then have exact answers: when the orders of
one symbol stay together within the day's liquidity, and when a shortage of cash is the reason that
an order reports.
-/

namespace FirmQuant

open Decimal Effect

namespace ExecutionReplay

variable {bars : String → Option DailyBar} {costs : ReplayCosts} {order : ReplayOrder}
  {bar : DailyBar} {s s' : State} {r : ReplayOrderResult} {account : ReplayAccount}
  {orders : List ReplayOrder} {cash fillPrice : ℚ} {shares : ℕ}

/-! ## Orders that the loop reaches -/

/-- The state in which the loop begins. -/
def opening (account : ReplayAccount) : State :=
  ⟨account.cash, account.positions, account.sellable, false⟩

/-- The loop comes to an order, with these results before it and in this state. -/
def Reaches (bars : String → Option DailyBar) (costs : ReplayCosts) (account : ReplayAccount)
    (orders : List ReplayOrder) (results : List ReplayOrderResult) (order : ReplayOrder)
    (s : State) : Prop :=
  ∃ done rest, sellsFirst orders = done ++ order :: rest ∧
    executeOrders bars costs done (opening account) = .ok (results, s)

variable {results before : List ReplayOrderResult} {session : ReplaySessionResult}
  {blocker : BlockerCode} {symbol : String} {m n : ℕ}

/-- The loop over two lists is the loop over the first and then the loop over the second. -/
lemma executeOrders_append {first second : List ReplayOrder} :
    executeOrders bars costs (first ++ second) s = .ok (results, s') ↔
      ∃ before t after, executeOrders bars costs first s = .ok (before, t) ∧
        executeOrders bars costs second t = .ok (after, s') ∧ results = before ++ after := by
  induction first generalizing s results with
  | nil =>
    constructor
    · intro h
      exact ⟨[], s, results, rfl, h, rfl⟩
    · rintro ⟨before, t, after, hfirst, hsecond, rfl⟩
      cases hfirst
      exact hsecond
  | cons order first ih =>
    simp only [List.cons_append, executeOrders, bind_ok_iff]
    constructor
    · rintro ⟨⟨r, t⟩, horder, ⟨⟨rest, u⟩, hrest, h⟩⟩
      cases h
      obtain ⟨before, v, after, hfirst, hsecond, rfl⟩ := ih.mp hrest
      exact ⟨r :: before, v, after, ⟨(r, t), horder, (before, v), hfirst, rfl⟩, hsecond, rfl⟩
    · rintro ⟨results', v, after, ⟨⟨r, t⟩, horder, ⟨before, w⟩, hfirst, h⟩, hsecond, rfl⟩
      cases h
      exact ⟨(r, t), horder, (before ++ after, s'),
        ih.mpr ⟨before, w, after, hfirst, hsecond, rfl⟩, rfl⟩

lemma executeOrders_singleton :
    executeOrders bars costs [order] s = .ok (results, s') ↔
      ∃ r, executeOrder bars costs order s = .ok (r, s') ∧ results = [r] := by
  simp only [executeOrders, bind_ok_iff]
  constructor
  · rintro ⟨⟨r, t⟩, horder, ⟨rest, u⟩, hrest, h⟩
    cases hrest
    cases h
    exact ⟨r, horder, rfl⟩
  · rintro ⟨r, horder, rfl⟩
    exact ⟨(r, s'), horder, ([], s'), rfl, rfl⟩

lemma loop_of_session (h : executeSession account orders bars costs = .ok session) :
    ∃ s, executeOrders bars costs (sellsFirst orders) (opening account) =
      .ok (session.orders, s) := by
  unfold executeSession at h
  split at h
  · cases h
  next first rest =>
    iterate 2 obtain ⟨-, -, h⟩ := bind_ok_iff.mp h
    obtain ⟨⟨results, s⟩, horders, h⟩ := bind_ok_iff.mp h
    simp only at h
    split at h
    · cases h
    · obtain ⟨rfl, -, -, -⟩ := sessionResult_spec h
      exact ⟨s, horders⟩

/-- In a returned session the round of every order that is reached has a result. -/
lemma round_of_session (h : executeSession account orders bars costs = .ok session)
    (hreach : Reaches bars costs account orders before order s) :
    ∃ r s' after, executeOrder bars costs order s = .ok (r, s') ∧
      session.orders = before ++ r :: after := by
  obtain ⟨final, hloop⟩ := loop_of_session h
  obtain ⟨done, rest, hsplit, hdone⟩ := hreach
  rw [hsplit, executeOrders_append] at hloop
  obtain ⟨before', t, after, hfirst, hsecond, hresults⟩ := hloop
  rw [hdone] at hfirst
  cases hfirst
  rw [← List.singleton_append, executeOrders_append] at hsecond
  obtain ⟨one, u, after', hone, -, rfl⟩ := hsecond
  obtain ⟨r, horder, rfl⟩ := executeOrders_singleton.mp hone
  exact ⟨r, u, after', horder, hresults⟩

/-! ## What the cash pays -/

/-- The price of a purchase with its fees, as `_affordable_buy_shares` adds it up. -/
def purchaseCost (fillPrice : ℚ) (shares : ℕ) (costs : ReplayCosts) : Except ReplayError ℚ := do
  let notional := fit (fillPrice * shares)
  let fees ← feesOf notional .buy costs
  return fit (fit (notional + fees.commission) + fees.transfer)

/-- The cash covers the purchase. -/
def Covers (cash fillPrice : ℚ) (costs : ReplayCosts) (shares : ℕ) : Prop :=
  ∃ cost, purchaseCost fillPrice shares costs = .ok cost ∧ cost ≤ cash

/-- The purchase costs more than the cash. -/
def TooDear (cash fillPrice : ℚ) (costs : ReplayCosts) (shares : ℕ) : Prop :=
  ∃ cost, purchaseCost fillPrice shares costs = .ok cost ∧ cash < cost

lemma Covers.not_tooDear (h : Covers cash fillPrice costs shares) :
    ¬ TooDear cash fillPrice costs shares := by
  rintro ⟨dear, hdear, hlt⟩
  obtain ⟨cost, hcost, hle⟩ := h
  rw [hcost] at hdear
  cases hdear
  exact absurd hlt (not_lt.mpr hle)

lemma covers_zero (hcash : 0 ≤ cash) : Covers cash fillPrice costs 0 := by
  refine ⟨0, ?_, hcash⟩
  have hnotional : fit (fillPrice * (0 : ℕ)) = 0 := by simp [fit]
  unfold purchaseCost
  simp only [hnotional, feesOf, le_refl, if_true]
  have hzero : fit (fit ((0 : ℚ) + 0) + 0) = 0 := by simp [fit]
  exact congrArg Except.ok hzero

/-- The search takes the first number of lots from the top that the cash covers. -/
lemma affordableLots_greatest (hcash : 0 ≤ cash) :
    ∀ lots, affordableLots cash fillPrice costs lots = .ok shares →
      Covers cash fillPrice costs shares ∧
        ∀ k ≤ lots, shares < k * lotSize → TooDear cash fillPrice costs (k * lotSize) := by
  intro lots
  induction lots with
  | zero =>
    intro h
    cases h
    refine ⟨covers_zero hcash, fun k hk hlt => ?_⟩
    obtain rfl : k = 0 := Nat.le_zero.mp hk
    exact absurd hlt (by simp)
  | succ lots ih =>
    intro h
    unfold affordableLots at h
    obtain ⟨fees, hfees, h⟩ := bind_ok_iff.mp h
    have hcost : purchaseCost fillPrice ((lots + 1) * lotSize) costs =
        .ok (fit (fit (fit (fillPrice * ((lots + 1) * lotSize : ℕ)) + fees.commission) +
          fees.transfer)) := bind_ok_iff.mpr ⟨fees, hfees, rfl⟩
    split at h
    next hle =>
      cases h
      refine ⟨⟨_, hcost, hle⟩, fun k hk hlt => ?_⟩
      exact absurd hlt (not_lt.mpr (Nat.mul_le_mul_right _ hk))
    next hlt =>
      obtain ⟨hcovers, hdear⟩ := ih h
      refine ⟨hcovers, fun k hk hshares => ?_⟩
      rcases Nat.lt_or_ge k (lots + 1) with hless | hmore
      · exact hdear k (Nat.lt_succ_iff.mp hless) hshares
      · obtain rfl : k = lots + 1 := le_antisymm hk hmore
        exact ⟨_, hcost, not_le.mp hlt⟩

/-- The affordable shares are the most whole lots, within those wanted, that the cash covers. -/
lemma affordableBuyShares_greatest {desired : ℕ} (hcash : 0 ≤ cash)
    (h : affordableBuyShares cash desired fillPrice costs = .ok shares) :
    Covers cash fillPrice costs shares ∧
      ∀ n, n ≤ desired → lotSize ∣ n → shares < n → TooDear cash fillPrice costs n := by
  obtain ⟨hcovers, hdear⟩ := affordableLots_greatest hcash _ h
  refine ⟨hcovers, fun n hn hlots hlt => ?_⟩
  obtain ⟨k, rfl⟩ := hlots
  rw [Nat.mul_comm] at hlt hn ⊢
  exact hdear k ((Nat.le_div_iff_mul_le (by decide)).mpr hn) hlt

/-! ## One order -/

lemma Trades.price_unique {other : ℚ} (h : Trades order bar costs s fillPrice)
    (h' : Trades order bar costs s other) : fillPrice = other := by
  have hsame := h.price
  rw [h'.price] at hsame
  exact (Except.ok.inj hsame).symm

/-- What the account admits: a sell the shares that it can deliver, a buy whole lots that the cash
covers. -/
def Affords (order : ReplayOrder) (costs : ReplayCosts) (s : State) (fillPrice : ℚ) (n : ℕ) :
    Prop :=
  match order.side with
  | .sell => n ≤ s.sellable.get order.symbol ∧ n ≤ s.positions.get order.symbol
  | .buy => lotSize ∣ n ∧ Covers s.cash fillPrice costs n

/-- The numbers of shares that the size of the order, its part of the volume and the account
admit. -/
def Admitted (order : ReplayOrder) (bar : DailyBar) (costs : ReplayCosts) (s : State)
    (fillPrice : ℚ) : Set ℕ :=
  {n | n ≤ wanted order bar ∧ Affords order costs s fillPrice n}

/-- The order may trade this many shares. -/
def Allows (bars : String → Option DailyBar) (costs : ReplayCosts) (order : ReplayOrder) (s : State)
    (n : ℕ) : Prop :=
  ∃ bar fillPrice, bars order.symbol = some bar ∧ Trades order bar costs s fillPrice ∧
    n ∈ Admitted order bar costs s fillPrice

/-- A sell may trade what it wants within what it can deliver. -/
lemma greatest_of_sell (hside : order.side = .sell) :
    IsGreatest (Admitted order bar costs s fillPrice)
      (min (min (wanted order bar) (s.sellable.get order.symbol))
        (s.positions.get order.symbol)) := by
  unfold Admitted Affords
  rw [hside]
  refine ⟨⟨(min_le_left _ _).trans (min_le_left _ _), (min_le_left _ _).trans (min_le_right _ _),
    min_le_right _ _⟩, ?_⟩
  rintro n ⟨hwanted, hsellable, hheld⟩
  exact le_min (le_min hwanted hsellable) hheld

/-- A buy may trade what the search finds affordable. -/
lemma greatest_of_buy (hside : order.side = .buy) (hcash : 0 ≤ s.cash)
    (h : affordableBuyShares s.cash (wanted order bar) fillPrice costs = .ok shares) :
    IsGreatest (Admitted order bar costs s fillPrice) shares := by
  obtain ⟨hle, hlots⟩ := affordableBuyShares_spec h
  obtain ⟨hcovers, hdear⟩ := affordableBuyShares_greatest hcash h
  unfold Admitted Affords
  rw [hside]
  refine ⟨⟨hle, hlots, hcovers⟩, ?_⟩
  rintro n ⟨hwanted, hwhole, hpaid⟩
  by_contra hmore
  exact hpaid.not_tooDear (hdear n hwanted hwhole (not_le.mp hmore))

lemma filled_of_block {authorized : Bool} (h : block order bar blocker authorized s = .ok (r, s')) :
    r.filledShares = 0 ∧ r.blocker = some blocker ∧ 0 < r.requestedShares := by
  unfold block blockedResult at h
  simp only [bind_ok_iff] at h
  obtain ⟨result, ⟨notional, -, loss, -, hresult⟩, hreturn⟩ := h
  cases hresult
  cases hreturn
  exact ⟨rfl, rfl, order.shares_pos⟩

lemma filled_of_fill {blocker : Option BlockerCode}
    (h : fill order bar costs fillPrice shares blocker s = .ok (r, s')) :
    r.filledShares = shares ∧ r.requestedShares = order.shares ∧
      r.blocker = if shares < order.shares ∧ blocker = none then some .volumeLimit
        else blocker := by
  unfold fill at h
  simp only [bind_ok_iff] at h
  obtain ⟨fees, -, slippage, -, notional, -, loss, -, hreturn⟩ := h
  cases hreturn
  exact ⟨rfl, rfl, rfl⟩

/-- A sell that comes to the fill takes all it may. -/
lemma filled_of_sell (h : fillOrBlock order bar costs fillPrice s = .ok (r, s'))
    (hside : order.side = .sell) :
    r.filledShares = min (min (wanted order bar) (s.sellable.get order.symbol))
        (s.positions.get order.symbol) ∧
      (r.filledShares < r.requestedShares → r.blocker ∈ [some .nonTradable, some .volumeLimit]) ∧
        r.blocker ≠ some .insufficientCash := by
  rw [fillOrBlock_sell hside] at h
  simp only at h
  split at h
  next hnone =>
    obtain ⟨hfilled, hblocker, -⟩ := filled_of_block h
    refine ⟨by rw [hfilled, hnone], fun _ => ?_, ?_⟩
    · rw [hblocker]
      simp
    · rw [hblocker]
      simp
  next hsome =>
    obtain ⟨hfilled, hrequested, hblocker⟩ := filled_of_fill h
    refine ⟨hfilled, fun hless => ?_, ?_⟩
    · rw [hfilled, hrequested] at hless
      rw [hblocker, if_pos ⟨hless, rfl⟩]
      simp
    · rw [hblocker]
      split <;> simp

/-- A buy that comes to the fill takes what the search finds affordable of what it wants; cash is
the reason it reports when that is less, or when there is nothing although the volume has lots. -/
lemma filled_of_buy (h : fillOrBlock order bar costs fillPrice s = .ok (r, s'))
    (hside : order.side = .buy) :
    affordableBuyShares s.cash (wanted order bar) fillPrice costs = .ok r.filledShares ∧
      (r.filledShares < wanted order bar → r.blocker = some .insufficientCash) ∧
        (r.blocker = some .insufficientCash → r.filledShares < wanted order bar) ∧
          (r.filledShares < r.requestedShares → r.blocker ≠ some .insufficientCash →
            r.blocker = some .volumeLimit) := by
  rw [fillOrBlock_buy hside] at h
  obtain ⟨shares, hshares, h⟩ := bind_ok_iff.mp h
  have hle : shares ≤ wanted order bar := (affordableBuyShares_spec hshares).1
  split at h
  next hnone =>
    obtain ⟨hfilled, hblocker, -⟩ := filled_of_block h
    rw [hfilled, hblocker, hshares, hnone]
    refine ⟨rfl, fun hless => by rw [if_pos hless], fun h => ?_, fun _ hne => ?_⟩
    · by_contra hall
      rw [if_neg hall] at h
      cases h
    · split at hne
      · exact absurd rfl hne
      next hall => rw [if_neg hall]
  next hsome =>
    obtain ⟨hfilled, hrequested, hblocker⟩ := filled_of_fill h
    rw [hfilled, hrequested, hshares]
    rcases Nat.lt_or_ge shares (wanted order bar) with hless | hall
    · rw [if_pos hless, if_neg (fun h => nomatch h.2)] at hblocker
      exact ⟨rfl, fun _ => hblocker, fun _ => hless, fun _ hne => absurd hblocker hne⟩
    · rw [if_neg (not_lt.mpr hall)] at hblocker
      rw [hblocker]
      refine ⟨rfl, fun hless => absurd hless (not_lt.mpr hall), fun h => ?_,
        fun hless _ => if_pos ⟨hless, rfl⟩⟩
      split at h <;> cases h

/-- An order is filled with the most shares that it may trade. -/
theorem filled_greatest (h : executeOrder bars costs order s = .ok (r, s')) :
    (r.filledShares = 0 ∨ Allows bars costs order s r.filledShares) ∧
      ∀ n, Allows bars costs order s n → n ≤ r.filledShares := by
  obtain ⟨bar, hbar, ⟨hidle, blocker, authorized, hblock, -⟩ | ⟨fillPrice, htrades, hfill⟩⟩ :=
    executeOrder_cases h
  · refine ⟨.inl (filled_of_block hblock).1, ?_⟩
    rintro n ⟨bar', fillPrice, hbar', htrades, -⟩
    rw [hbar] at hbar'
    cases hbar'
    exact absurd ⟨fillPrice, htrades⟩ hidle
  · have hgreatest : IsGreatest (Admitted order bar costs s fillPrice) r.filledShares := by
      cases hside : order.side with
      | sell =>
        rw [(filled_of_sell hfill hside).1]
        exact greatest_of_sell hside
      | buy => exact greatest_of_buy hside htrades.cash_nonneg (filled_of_buy hfill hside).1
    refine ⟨.inr ⟨bar, fillPrice, hbar, htrades, hgreatest.1⟩, ?_⟩
    -- every number that is allowed is admitted at this price
    rintro n ⟨bar', fillPrice', hbar', htrades', hadmitted⟩
    rw [hbar] at hbar'
    cases hbar'
    obtain rfl := htrades.price_unique htrades'
    exact hgreatest.2 hadmitted

/-! ## The day's liquidity -/

/-- The shares of a symbol that the results say were traded, on either side. -/
def traded (symbol : String) (results : List ReplayOrderResult) : ℕ :=
  (results.map fun r => if r.symbol = symbol then r.filledShares else 0).sum

/-- The largest part of the volume that an order of the symbol may take. -/
def largestParticipation (orders : List ReplayOrder) (symbol : String) : ℚ :=
  ((orders.filter (·.symbol = symbol)).map (·.maxVolumeParticipation)).foldr max 0

/-- The shares of the day that the orders of a symbol may take. -/
def liquidity (bars : String → Option DailyBar) (orders : List ReplayOrder) (symbol : String) : ℕ :=
  match bars symbol with
  | none => 0
  | some bar => ⌊bar.volume * largestParticipation orders symbol⌋₊

/-- The orders of each symbol together stay within the liquidity of the day. -/
def SharesLiquidity (bars : String → Option DailyBar) (orders : List ReplayOrder)
    (session : ReplaySessionResult) : Prop :=
  ∀ symbol, traded symbol session.orders ≤ liquidity bars orders symbol

lemma traded_append {after : List ReplayOrderResult} :
    traded symbol (before ++ after) = traded symbol before + traded symbol after := by
  unfold traded
  rw [List.map_append, List.sum_append]

lemma traded_singleton :
    traded symbol [r] = if r.symbol = symbol then r.filledShares else 0 := by
  simp [traded]

/-- While every order that is reached finds enough left of the liquidity, it is never exceeded. -/
lemma traded_le_of_run
    (hleaves : ∀ before order s n, Reaches bars costs account orders before order s →
      Allows bars costs order s n →
        traded order.symbol before + n ≤ liquidity bars orders order.symbol) (symbol : String) :
    ∀ done rest results s, sellsFirst orders = done ++ rest →
      executeOrders bars costs done (opening account) = .ok (results, s) →
        traded symbol results ≤ liquidity bars orders symbol := by
  intro done
  induction done using List.reverseRecOn with
  | nil =>
    intro rest results s _ h
    cases h
    exact Nat.zero_le _
  | append_singleton done order ih =>
    intro rest results s hsplit h
    obtain ⟨before, t, after, hdone, hone, rfl⟩ := executeOrders_append.mp h
    obtain ⟨r, horder, rfl⟩ := executeOrders_singleton.mp hone
    rw [List.append_assoc, List.singleton_append] at hsplit
    have hbefore := ih (order :: rest) before t hsplit hdone
    have hsymbol : r.symbol = order.symbol := (executeOrder_spec horder).1.symbol
    rw [traded_append, traded_singleton]
    split
    next hthis =>
      obtain rfl : order.symbol = symbol := hsymbol ▸ hthis
      rcases (filled_greatest horder).1 with hzero | hallowed
      · rw [hzero]
        exact hbefore
      · exact hleaves before order t _ ⟨done, rest, hsplit, hdone⟩ hallowed
    next _ => exact hbefore

/-- A bar with a volume of 1000 shares for every symbol. -/
def thinBars (symbol : String) : Option DailyBar :=
  (quietBars symbol).map fun bar =>
    { bar with
      volume := 1000
      suspended := false
      suspended_volume := fun h => nomatch h }

/-- A sell and a buy of one symbol, 100 shares each. -/
def roundTrip : List ReplayOrder :=
  [sampleOrder "600001" .sell sampleSymbol_ne, sampleOrder "600001" .buy sampleSymbol_ne]

/-- One lot more, within the order and its part of the volume, would have cost more than the
cash. -/
def LotTooDear (bars : String → Option DailyBar) (costs : ReplayCosts) (order : ReplayOrder)
    (s : State) (r : ReplayOrderResult) : Prop :=
  ∃ bar fillPrice, bars order.symbol = some bar ∧
    candidateFillPrice order bar costs = .ok fillPrice ∧
      r.filledShares + lotSize ≤ wanted order bar ∧
        TooDear s.cash fillPrice costs (r.filledShares + lotSize)

/-- What the result of an order says of the reason is true. -/
structure NamesReason (bars : String → Option DailyBar) (costs : ReplayCosts) (order : ReplayOrder)
    (s : State) (r : ReplayOrderResult) : Prop where
  cash : r.blocker = some .insufficientCash → LotTooDear bars costs order s r
  other : r.filledShares < r.requestedShares → r.blocker ≠ some .insufficientCash →
    r.blocker ∈ [some .volumeLimit, some .priceLimit, some .staleQuote, some .nonTradable,
      some .incompleteSell]

/-- Every result of a session tells the truth about its reason. -/
def Truthful (bars : String → Option DailyBar) (costs : ReplayCosts) (account : ReplayAccount)
    (orders : List ReplayOrder) (session : ReplaySessionResult) : Prop :=
  ∀ before order s r after, Reaches bars costs account orders before order s →
    session.orders = before ++ r :: after → NamesReason bars costs order s r

/-- What is left of a number of shares in whole lots. -/
def wholeLots (n : ℕ) : ℕ := n - n % lotSize

/-- An order that wants whole lots, or more than the cash pays in whole lots. -/
def CashDecides (order : ReplayOrder) (bar : DailyBar) (costs : ReplayCosts) (s : State)
    (fillPrice : ℚ) : Prop :=
  lotSize ∣ wanted order bar ∨
    (lotSize ≤ wanted order bar ∧ TooDear s.cash fillPrice costs (wholeLots (wanted order bar)))

lemma dvd_wholeLots (n : ℕ) : lotSize ∣ wholeLots n := Nat.dvd_sub_mod n

lemma wholeLots_le (n : ℕ) : wholeLots n ≤ n := Nat.sub_le _ _

/-- Whole lots below a number of shares are at or below its whole lots. -/
lemma le_wholeLots (hm : lotSize ∣ m) (hle : m ≤ n) : m ≤ wholeLots n := by
  unfold wholeLots lotSize at *
  omega

/-- Between different numbers of whole lots there is a lot. -/
lemma add_lot_le (hm : lotSize ∣ m) (hn : lotSize ∣ n) (hlt : m < n) :
    m + lotSize ≤ n := by
  unfold lotSize at *
  omega

/-- Only a buy that comes to the fill reports a shortage of cash, and an order that is not filled
reports something. -/
lemma reason_of_round (h : executeOrder bars costs order s = .ok (r, s')) :
    (r.filledShares < r.requestedShares → r.blocker ≠ some .insufficientCash →
        r.blocker ∈ [some .volumeLimit, some .priceLimit, some .staleQuote, some .nonTradable,
          some .incompleteSell]) ∧
      (r.blocker = some .insufficientCash → order.side = .buy ∧
        ∃ bar fillPrice, bars order.symbol = some bar ∧ Trades order bar costs s fillPrice) := by
  obtain ⟨bar, hbar, ⟨-, blocker, authorized, hblock, hmem⟩ | ⟨fillPrice, htrades, hfill⟩⟩ :=
    executeOrder_cases h
  · obtain ⟨-, hblocker, -⟩ := filled_of_block hblock
    rw [hblocker]
    simp only [List.mem_cons, List.not_mem_nil, or_false] at hmem
    rcases hmem with rfl | rfl | rfl | rfl <;> simp
  · cases hside : order.side with
    | sell =>
      obtain ⟨-, hreason, hcash⟩ := filled_of_sell hfill hside
      refine ⟨fun hless _ => ?_, fun h => absurd h hcash⟩
      have hmem := hreason hless
      simp only [List.mem_cons, List.not_mem_nil, or_false] at hmem
      rcases hmem with hblocker | hblocker <;> simp [hblocker]
    | buy =>
      obtain ⟨-, -, -, hreason⟩ := filled_of_buy hfill hside
      refine ⟨fun hless hne => ?_, fun _ => ⟨rfl, bar, fillPrice, hbar, htrades⟩⟩
      simp [hreason hless hne]

/-- What a buy that comes to the fill gets, and when it reports a shortage of cash. -/
lemma buy_of_round (h : executeOrder bars costs order s = .ok (r, s'))
    (hside : order.side = .buy) (hbar : bars order.symbol = some bar)
    (htrades : Trades order bar costs s fillPrice) :
    lotSize ∣ r.filledShares ∧ r.filledShares ≤ wanted order bar ∧
      Covers s.cash fillPrice costs r.filledShares ∧
        (∀ n, n ≤ wanted order bar → lotSize ∣ n → r.filledShares < n →
          TooDear s.cash fillPrice costs n) ∧
          (r.blocker = some .insufficientCash ↔ r.filledShares < wanted order bar) := by
  obtain ⟨bar', hbar', ⟨hidle, -⟩ | ⟨fillPrice', htrades', hfill⟩⟩ := executeOrder_cases h
  · rw [hbar] at hbar'
    cases hbar'
    exact absurd ⟨fillPrice, htrades⟩ hidle
  · rw [hbar] at hbar'
    cases hbar'
    obtain rfl := htrades.price_unique htrades'
    obtain ⟨haffordable, hshort, hcash, -⟩ := filled_of_buy hfill hside
    obtain ⟨hle, hlots⟩ := affordableBuyShares_spec haffordable
    obtain ⟨hcovers, hdear⟩ := affordableBuyShares_greatest htrades.cash_nonneg haffordable
    exact ⟨hlots, hle, hcovers, hdear, hcash, hshort⟩

/-- The results of a session are truthful exactly if every buy that is authorized at a price that
was reached wants whole lots, or at least one lot and more than the cash pays in whole lots. -/
theorem truthful_iff {session : ReplaySessionResult}
    (h : executeSession account orders bars costs = .ok session) :
    Truthful bars costs account orders session ↔
      ∀ before order s bar fillPrice, Reaches bars costs account orders before order s →
        order.side = .buy → bars order.symbol = some bar → Trades order bar costs s fillPrice →
          CashDecides order bar costs s fillPrice := by
  constructor
  · intro htruthful before order s bar fillPrice hreach hside hbar htrades
    obtain ⟨r, s', after, horder, hresults⟩ := round_of_session h hreach
    obtain ⟨hlots, hle, -, hdear, hcash⟩ := buy_of_round horder hside hbar htrades
    rcases hle.lt_or_eq with hless | hall
    · -- the order reports a shortage of cash, so there is a lot more to pay for
      obtain ⟨bar', fillPrice', hbar', -, hmore, -⟩ :=
        (htruthful before order s r after hreach hresults).cash (hcash.mpr hless)
      rw [hbar] at hbar'
      cases hbar'
      have hnext : r.filledShares + lotSize ≤ wholeLots (wanted order bar) :=
        le_wholeLots ((Nat.dvd_add_right hlots).mpr (dvd_refl _)) hmore
      refine .inr ⟨(Nat.le_add_left _ _).trans hmore, hdear _ (wholeLots_le _) (dvd_wholeLots _) ?_⟩
      exact lt_of_lt_of_le (Nat.lt_add_of_pos_right (by decide)) hnext
    · exact .inl (hall ▸ hlots)
  · intro hdecides before order s r after hreach hresults
    obtain ⟨r', s', after', horder, hresults'⟩ := round_of_session h hreach
    have hsame : r' = r := by
      have happend := List.append_cancel_left (hresults'.symm.trans hresults)
      exact (List.cons.inj happend).1
    subst hsame
    obtain ⟨hother, honly⟩ := reason_of_round horder
    refine ⟨fun hblocker => ?_, hother⟩
    obtain ⟨hside, bar, fillPrice, hbar, htrades⟩ := honly hblocker
    obtain ⟨hlots, hle, hcovers, hdear, hcash⟩ := buy_of_round horder hside hbar htrades
    have hless : r'.filledShares < wanted order bar := hcash.mp hblocker
    have hmore : r'.filledShares + lotSize ≤ wanted order bar := by
      rcases hdecides before order s bar fillPrice hreach hside hbar htrades with hwhole | hshort
      · exact add_lot_le hlots hwhole hless
      · -- the whole lots are too dear, so fewer of them were bought
        have hne : r'.filledShares ≠ wholeLots (wanted order bar) := fun heq =>
          (heq ▸ hcovers).not_tooDear hshort.2
        have hbelow := lt_of_le_of_ne (le_wholeLots hlots hle) hne
        exact (add_lot_le hlots (dvd_wholeLots _) hbelow).trans (wholeLots_le _)
    exact ⟨bar, fillPrice, hbar, htrades.price, hmore,
      hdear _ hmore ((Nat.dvd_add_right hlots).mpr (dvd_refl _))
        (Nat.lt_add_of_pos_right (by decide))⟩

/-- A session whose buy wants one lot. -/
theorem swap_truthful : ∃ session,
    executeSession (sampleAccount 0 le_rfl) swapOrders quietBars freeCosts = .ok session ∧
      (Truthful quietBars freeCosts (sampleAccount 0 le_rfl) swapOrders session ↔
        ∀ before order s bar fillPrice, Reaches quietBars freeCosts (sampleAccount 0 le_rfl)
          swapOrders before order s → order.side = .buy → quietBars order.symbol = some bar →
            Trades order bar freeCosts s fillPrice → CashDecides order bar freeCosts s
              fillPrice) := by
  obtain ⟨session, hsession, -⟩ := swap_conserves
  exact ⟨session, hsession, truthful_iff hsession⟩

/-- An account with cash for a thousand lots. -/
def richAccount : ReplayAccount := sampleAccount 1000000 (by norm_num)

/-- A buy of a lot and a half. -/
def lotAndHalf : ReplayOrder :=
  { sampleOrder "600001" .buy sampleSymbol_ne with
    shares := 150
    shares_pos := by norm_num
    side := .buy
    sell_independent := fun h => nomatch h }

/-- With cash for a thousand lots, a buy of a lot and a half reports a shortage of cash. -/
theorem lotAndHalf_untruthful : ¬ ∀ account orders bars costs session,
    executeSession account orders bars costs = .ok session →
      Truthful bars costs account orders session := by
  intro h
  have hrun : (executeSession richAccount [lotAndHalf] quietBars
      freeCosts).toOption.map (fun session => session.orders.map
        fun r => (r.filledShares, r.blocker)) = some [(100, some .insufficientCash)] := by
    decide +kernel
  obtain ⟨session, hsession, horders⟩ := exists_of_map hrun
  obtain ⟨r, hr, hpair⟩ := List.map_eq_singleton_iff.mp horders
  have hreach : Reaches quietBars freeCosts richAccount [lotAndHalf] [] lotAndHalf
      (opening richAccount) := ⟨[], [], rfl, rfl⟩
  obtain ⟨bar, fillPrice, hbar, -, hmore, -⟩ :=
    (h _ _ _ _ _ hsession [] lotAndHalf _ r [] hreach hr).cash (congrArg Prod.snd hpair)
  have hfilled : r.filledShares = 100 := congrArg Prod.fst hpair
  have hwanted : wanted lotAndHalf bar ≤ 150 := min_le_left _ _
  rw [hfilled] at hmore
  unfold lotSize at hmore
  omega

end ExecutionReplay

end FirmQuant
