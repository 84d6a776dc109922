import FirmQuant.Execution.ExecutionReplay
import FirmQuant.Execution.Planner

/-!
# The bars of the replay

`_daily_bar` of `execution/replay_runner.py` builds the bar of a session from a price panel.  The
price limits start from the previous close, and are then widened to the high and the low of the
session itself.

The authorization of an order compares the open with these limits.  So what it answers at the open
may depend on what the session does afterwards: whether an open at the nominal limit is refused
depends on whether the session trades beyond it.
-/

namespace FirmQuant

open Decimal Effect

/-! ## Panels -/

/-- One row of a price panel. -/
structure PanelRow where
  openPrice : ℚ
  high : ℚ
  low : ℚ
  close : ℚ
  volume : ℚ
  deriving DecidableEq

/-- A price panel of `_load_panels`: its rows by date, each date once. -/
structure Panel where
  rows : List (Date × PanelRow)
  sorted : rows.Pairwise fun a b => a.1 < b.1

/-- The exceptions of `_daily_bar`. -/
inductive BarError
  /-- `ExecutionReplayError` for a symbol without an earlier close. -/
  | previousCloseMissing (symbol : String) (session : Date)
  /-- `DomainValidationError` of `Symbol.parse`. -/
  | invalidSymbol (raw : String)
  | invalidOperation
  | valueError (message : String)
  deriving DecidableEq, Repr

/-! ## The bar of the values -/

/-- What the constructor of a `DailyBar` is called with. -/
structure BarValues where
  session : Date
  symbol : String
  openPrice : ℚ
  high : ℚ
  low : ℚ
  close : ℚ
  previousClose : ℚ
  volume : ℕ
  suspended : Bool
  limitUp : ℚ
  limitDown : ℚ

namespace BarValues

variable (v : BarValues)

/-- The prices of the bar, by label. -/
def prices : List (String × ℚ) :=
  [("open", v.openPrice), ("high", v.high), ("low", v.low), ("close", v.close),
    ("previous close", v.previousClose), ("limit up", v.limitUp), ("limit down", v.limitDown)]

/-- What the constructor of a `DailyBar` checks. -/
structure Valid : Prop where
  symbol_nonempty : v.symbol ≠ ""
  prices_pos : 0 < v.openPrice ∧ 0 < v.high ∧ 0 < v.low ∧ 0 < v.close ∧ 0 < v.previousClose ∧
    0 < v.limitUp ∧ 0 < v.limitDown
  low_le_high : v.low ≤ v.high
  range : (v.low ≤ v.openPrice ∧ v.openPrice ≤ v.high) ∧ v.low ≤ v.close ∧ v.close ≤ v.high
  limits : v.limitDown ≤ v.previousClose ∧ v.previousClose ≤ v.limitUp
  suspended_volume : v.suspended = true → v.volume = 0

/-- The first of the checks that relate the values to each other that fails. -/
def shapeViolation : Option String :=
  if v.high < v.low then some "daily low cannot exceed daily high"
  else if ¬ ((v.low ≤ v.openPrice ∧ v.openPrice ≤ v.high) ∧ v.low ≤ v.close ∧ v.close ≤ v.high) then
    some "open and close must lie inside the daily range"
  else if ¬ (v.limitDown ≤ v.previousClose ∧ v.previousClose ≤ v.limitUp) then
    some "previous close must lie inside price limits"
  else if v.suspended = true ∧ v.volume ≠ 0 then some "suspended session must have zero volume"
  else none

/-- The first check of the constructor that fails. -/
def violation : Option String :=
  if v.symbol = "" then some "bar symbol must be non-empty text"
  else
    match v.prices.find? fun price => price.2 ≤ 0 with
    | some price => some (price.1 ++ " is outside its permitted bound")
    | none => v.shapeViolation

lemma find_prices_eq_none_iff : v.prices.find? (fun price => price.2 ≤ 0) = none ↔
    0 < v.openPrice ∧ 0 < v.high ∧ 0 < v.low ∧ 0 < v.close ∧ 0 < v.previousClose ∧
      0 < v.limitUp ∧ 0 < v.limitDown := by
  simp [prices]

lemma shapeViolation_eq_none_iff : v.shapeViolation = none ↔
    v.low ≤ v.high ∧ ((v.low ≤ v.openPrice ∧ v.openPrice ≤ v.high) ∧ v.low ≤ v.close ∧
      v.close ≤ v.high) ∧ (v.limitDown ≤ v.previousClose ∧ v.previousClose ≤ v.limitUp) ∧
      (v.suspended = true → v.volume = 0) := by
  unfold shapeViolation
  constructor
  · intro h
    split_ifs at h with horder hrange hlimits hsuspended
    exact ⟨not_lt.mp horder, hrange, hlimits,
      fun hs => by_contra fun hv => hsuspended ⟨hs, hv⟩⟩
  · rintro ⟨horder, hrange, hlimits, hsuspended⟩
    rw [if_neg (not_lt.mpr horder), if_neg (not_not.mpr hrange), if_neg (not_not.mpr hlimits),
      if_neg fun hs => hs.2 (hsuspended hs.1)]

/-- The checks find nothing in valid values, and nothing else passes them. -/
theorem violation_eq_none_iff : v.violation = none ↔ v.Valid := by
  unfold violation
  constructor
  · intro h
    split_ifs at h with hsymbol
    split at h
    · cases h
    next hprices =>
      obtain ⟨horder, hrange, hlimits, hsuspended⟩ := v.shapeViolation_eq_none_iff.mp h
      exact ⟨hsymbol, v.find_prices_eq_none_iff.mp hprices, horder, hrange, hlimits, hsuspended⟩
  · intro h
    rw [if_neg h.symbol_nonempty, v.find_prices_eq_none_iff.mpr h.prices_pos]
    exact v.shapeViolation_eq_none_iff.mpr
      ⟨h.low_le_high, h.range, h.limits, h.suspended_volume⟩

/-- The bar of valid values. -/
def bar (h : v.Valid) : DailyBar where
  session := v.session
  symbol := v.symbol
  openPrice := v.openPrice
  high := v.high
  low := v.low
  close := v.close
  previousClose := v.previousClose
  volume := v.volume
  suspended := v.suspended
  limitUp := v.limitUp
  limitDown := v.limitDown
  symbol_nonempty := h.symbol_nonempty
  prices_pos := h.prices_pos
  low_le_high := h.low_le_high
  range := h.range
  limits := h.limits
  suspended_volume := h.suspended_volume

/-- The constructor of a `DailyBar`. -/
def create : Except BarError DailyBar :=
  match h : v.violation with
  | none => .ok (v.bar (v.violation_eq_none_iff.mp h))
  | some message => .error (.valueError message)

variable {v} {b : DailyBar}

lemma create_eq_ok (h : v.create = .ok b) : ∃ hv : v.Valid, b = v.bar hv := by
  unfold create at h
  split at h
  next hnone => exact ⟨v.violation_eq_none_iff.mp hnone, (Except.ok.inj h).symm⟩
  · cases h

end BarValues

/-! ## Reading a panel -/

namespace Panel

variable (panel : Panel) (session : Date)

/-- `_bar_row`. -/
def barRow : Option PanelRow := (panel.rows.find? (·.1 = session)).map (·.2)

/-- The rows of a panel before a session. -/
def before : List (Date × PanelRow) := panel.rows.filter (·.1 < session)

/-- `_previous_close`. -/
def previousClose : Option ℚ := (panel.before session).getLast?.map (·.2.close)

/-- `_listing_session_number`. -/
def listingSessionNumber : ℕ := panel.rows.countP (·.1 ≤ session)

/-- `_limit_fraction`.  The first five sessions of a listing have no ordinary band. -/
def limitFraction (symbol : Symbol) : Option ℚ :=
  if panel.listingSessionNumber session ≤ 5 then none
  else if symbol.market = .bj then some 0.30
  else if symbol.code.toList.take 3 ∈ ["300", "301", "688", "689"].map String.toList then some 0.20
  else some 0.10

end Panel

namespace ReplayRunner

open ExecutionReplay

/-! ## Building a bar -/

/-- `quantize` to the cent with a rounding mode. -/
def cents (mode : ℚ → ℤ) (value : ℚ) : Except BarError ℚ :=
  match quantizeWith mode 2 value with
  | some y => .ok y
  | none => .error .invalidOperation

/-- `_tick_price`. -/
def tickPrice (value : ℚ) : Except BarError ℚ :=
  match quantizeBounded 2 value with
  | some y => .ok y
  | none => .error .invalidOperation

/-- The nominal price limits of a session that trades, the upper one first. -/
def nominalBand (previous : ℚ) (fraction : Option ℚ) : Except BarError (ℚ × ℚ) :=
  match fraction with
  | none => do
    let upper ← tickPrice (fit (previous * 10))
    let lower ← tickPrice (fit (previous * 0.10))
    return (upper, lower)
  | some fraction => do
    let upper ← tickPrice (fit (previous * fit (1 + fraction)))
    let lower ← tickPrice (fit (previous * fit (1 - fraction)))
    return (upper, lower)

/-- The bar of a session that the symbol does not trade in. -/
def suspendedBar (symbol : String) (session : Date) (previous : ℚ) (fraction : Option ℚ) :
    Except BarError DailyBar := do
  let fraction := fraction.getD 1
  let limitUp ← tickPrice (fit (previous * fit (1 + fraction)))
  let limitDown ← tickPrice (fit (previous * max (fit (1 - fraction)) 0.01))
  BarValues.create {
    session := session
    symbol := symbol
    openPrice := previous
    high := previous
    low := previous
    close := previous
    previousClose := previous
    volume := 0
    suspended := true
    limitUp := limitUp
    limitDown := limitDown }

/-- The bar of a session that the symbol trades in.  The nominal limits are widened to the cents
around the range of the session. -/
def tradedBar (symbol : String) (session : Date) (previous : ℚ) (fraction : Option ℚ)
    (row : PanelRow) : Except BarError DailyBar := do
  let band ← nominalBand previous fraction
  let observedUpper ← cents Int.ceil row.high
  let observedLower ← cents Int.floor row.low
  BarValues.create {
    session := session
    symbol := symbol
    openPrice := row.openPrice
    high := row.high
    low := row.low
    close := row.close
    previousClose := previous
    volume := ⌊row.volume⌋₊
    suspended := false
    limitUp := max band.1 observedUpper
    limitDown := min band.2 observedLower }

/-- `_daily_bar`. -/
def dailyBar (symbol : String) (panel : Panel) (session : Date) : Except BarError DailyBar :=
  match Symbol.parse symbol with
  | none => .error (.invalidSymbol symbol)
  | some parsed =>
    match panel.previousClose session with
    | none => .error (.previousCloseMissing symbol session)
    | some previous =>
      let fraction := panel.limitFraction session parsed
      match panel.barRow session with
      | none => suspendedBar symbol session previous fraction
      | some row => tradedBar symbol session previous fraction row

/-! ## The limits of a bar -/

section Cents

variable {mode : ℚ → ℤ} {value x y : ℚ}

lemma cents_eq_ok (h : cents mode value = .ok y) : y = mode (value * 10 ^ 2) / 10 ^ 2 := by
  unfold cents at h
  split at h
  next hquantized =>
    obtain rfl := Except.ok.inj h
    exact quantizeWith_eq_some hquantized
  · cases h

/-- The cent above a high is no higher than a price below the high only when the price is the high,
in cents. -/
lemma ceil_cents_le_iff (h : cents Int.ceil value = .ok y) (hle : x ≤ value) :
    y ≤ x ↔ value = x ∧ HasPlaces 2 x := by
  have hy := cents_eq_ok h
  have habove : value ≤ y := by
    rw [hy, le_div_iff₀ (scale_pos 2)]
    exact Int.le_ceil _
  constructor
  · intro hyx
    have hvalue : value = x := le_antisymm (habove.trans hyx) hle
    have hyx' : y = x := le_antisymm hyx (hvalue ▸ habove)
    exact ⟨hvalue, ⌈value * 10 ^ 2⌉, hyx' ▸ hy⟩
  · rintro ⟨rfl, n, hn⟩
    have hceil : ⌈value * 10 ^ 2⌉ = n := by
      rw [hn, div_mul_cancel₀ _ (scale_pos 2).ne', Int.ceil_intCast]
    rw [hy, hceil, ← hn]

/-- The same of the cent below a low. -/
lemma le_floor_cents_iff (h : cents Int.floor value = .ok y) (hle : value ≤ x) :
    x ≤ y ↔ value = x ∧ HasPlaces 2 x := by
  have hy := cents_eq_ok h
  have hbelow : y ≤ value := by
    rw [hy, div_le_iff₀ (scale_pos 2)]
    exact Int.floor_le _
  constructor
  · intro hxy
    have hvalue : value = x := le_antisymm hle (hxy.trans hbelow)
    have hyx : y = x := le_antisymm (hvalue ▸ hbelow) hxy
    exact ⟨hvalue, ⌊value * 10 ^ 2⌋, hyx ▸ hy⟩
  · rintro ⟨rfl, n, hn⟩
    have hfloor : ⌊value * 10 ^ 2⌋ = n := by
      rw [hn, div_mul_cancel₀ _ (scale_pos 2).ne', Int.floor_intCast]
    rw [hy, hfloor, ← hn]

end Cents

section Bars

variable {symbol : String} {session : Date} {previous : ℚ} {fraction : Option ℚ} {row : PanelRow}
  {panel : Panel} {b : DailyBar}

lemma suspendedBar_eq_ok (h : suspendedBar symbol session previous fraction = .ok b) :
    b.suspended = true := by
  unfold suspendedBar at h
  obtain ⟨up, -, h⟩ := bind_ok_iff.mp h
  obtain ⟨down, -, h⟩ := bind_ok_iff.mp h
  obtain ⟨hv, rfl⟩ := BarValues.create_eq_ok h
  rfl

/-- What is known of the bar of a session that trades: the limits matter to the open only when the
session never leaves it. -/
structure Traded (previous : ℚ) (fraction : Option ℚ) (row : PanelRow) (b : DailyBar) : Prop where
  not_suspended : b.suspended = false
  openPrice : b.openPrice = row.openPrice
  band : ∃ band, nominalBand previous fraction = .ok band ∧
    (b.limitUp ≤ b.openPrice ↔
      band.1 ≤ row.openPrice ∧ row.high = row.openPrice ∧ HasPlaces 2 row.openPrice) ∧
    (b.openPrice ≤ b.limitDown ↔
      row.openPrice ≤ band.2 ∧ row.low = row.openPrice ∧ HasPlaces 2 row.openPrice)

lemma tradedBar_eq_ok (h : tradedBar symbol session previous fraction row = .ok b) :
    Traded previous fraction row b := by
  unfold tradedBar at h
  obtain ⟨band, hband, h⟩ := bind_ok_iff.mp h
  obtain ⟨upper, hupper, h⟩ := bind_ok_iff.mp h
  obtain ⟨lower, hlower, h⟩ := bind_ok_iff.mp h
  obtain ⟨hv, rfl⟩ := BarValues.create_eq_ok h
  have hrange : row.low ≤ row.openPrice ∧ row.openPrice ≤ row.high := hv.range.1
  refine ⟨rfl, rfl, band, hband, ?_, ?_⟩
  · show max band.1 upper ≤ row.openPrice ↔ _
    rw [max_le_iff, ceil_cents_le_iff hupper hrange.2]
  · show row.openPrice ≤ min band.2 lower ↔ _
    rw [le_min_iff, le_floor_cents_iff hlower hrange.1]

end Bars

/-! ## What is known at the open -/

/-- Two panels that cannot be told apart at the open of a session: the same rows before it, and in
the session the same open, if it trades at all. -/
structure AgreeUntilOpen (session : Date) (p₁ p₂ : Panel) : Prop where
  before : p₁.before session = p₂.before session
  opens : (p₁.barRow session).map (·.openPrice) = (p₂.barRow session).map (·.openPrice)

section Agreement

variable {session : Date} {symbol : Symbol} {p₁ p₂ : Panel}

lemma countP_eq_session (panel : Panel) (session : Date) :
    panel.rows.countP (·.1 = session) = if (panel.barRow session).isSome then 1 else 0 := by
  have hnodup : (panel.rows.map (·.1)).Nodup := by
    rw [List.Nodup, List.pairwise_map]
    exact panel.sorted.imp fun h => h.ne
  have hcount : panel.rows.countP (·.1 = session) = (panel.rows.map (·.1)).count session := by
    rw [List.count, List.countP_map]
    exact List.countP_congr fun entry _ => by simp
  have hsome : (panel.barRow session).isSome = true ↔ session ∈ panel.rows.map (·.1) := by
    unfold Panel.barRow
    rw [Option.isSome_map, List.find?_isSome]
    simp only [decide_eq_true_eq, List.mem_map]
  rw [hcount]
  split_ifs with h
  · exact List.count_eq_one_of_mem hnodup (hsome.mp h)
  · exact List.count_eq_zero_of_not_mem fun hmem => h (hsome.mpr hmem)

/-- The rows up to a session are those before it and its own. -/
lemma listingSessionNumber_eq (panel : Panel) (session : Date) :
    panel.listingSessionNumber session =
      (panel.before session).length + if (panel.barRow session).isSome then 1 else 0 := by
  rw [← countP_eq_session, Panel.before, ← List.countP_eq_length_filter]
  unfold Panel.listingSessionNumber
  induction panel.rows with
  | nil => rfl
  | cons entry rows ih =>
    rw [List.countP_cons, List.countP_cons, List.countP_cons, ih]
    rcases lt_trichotomy entry.1 session with h | h | h
    · simp [h, h.le, h.ne]
      omega
    · simp [h]
      omega
    · simp [h.not_ge, h.not_gt, h.ne']

lemma AgreeUntilOpen.isSome (h : AgreeUntilOpen session p₁ p₂) :
    (p₁.barRow session).isSome = (p₂.barRow session).isSome := by
  have hopens := congrArg Option.isSome h.opens
  rwa [Option.isSome_map, Option.isSome_map] at hopens

lemma AgreeUntilOpen.previousClose (h : AgreeUntilOpen session p₁ p₂) :
    p₁.previousClose session = p₂.previousClose session := by
  unfold Panel.previousClose
  rw [h.before]

lemma AgreeUntilOpen.limitFraction (h : AgreeUntilOpen session p₁ p₂) :
    p₁.limitFraction session symbol = p₂.limitFraction session symbol := by
  unfold Panel.limitFraction
  rw [listingSessionNumber_eq, listingSessionNumber_eq, h.before, h.isSome]

end Agreement

/-! ## Authorization at the open -/

section Blockers

variable {account : ReplayAccount} {order : ReplayOrder} {costs : ReplayCosts} {b b₁ b₂ : DailyBar}

/-- The blocker of an order whose symbol trades at an open that no limit forbids. -/
def quoteBlocker (order : ReplayOrder) (openPrice : ℚ) (costs : ReplayCosts) :
    Option BlockerCode :=
  let deviation := fit (fit (|fit (order.limitPrice - openPrice)| / openPrice) * 10000)
  if costs.maxPriceDeviationBps < deviation then some .staleQuote else none

lemma quoteBlocker_ne_priceLimit {openPrice : ℚ} :
    some .priceLimit ≠ quoteBlocker order openPrice costs := by
  unfold quoteBlocker
  dsimp only
  split_ifs <;> simp

lemma authorizationBlocker_buy (hs : b.suspended = false) (hside : order.side = .buy) :
    authorizationBlocker account order b costs =
      if b.limitUp ≤ b.openPrice then some .priceLimit
      else quoteBlocker order b.openPrice costs := by
  unfold authorizationBlocker quoteBlocker
  simp [hs, hside]

lemma authorizationBlocker_sell (hs : b.suspended = false) (hside : order.side = .sell)
    (hsellable : account.sellable.get order.symbol ≠ 0) :
    authorizationBlocker account order b costs =
      if b.openPrice ≤ b.limitDown then some .priceLimit
      else quoteBlocker order b.openPrice costs := by
  unfold authorizationBlocker quoteBlocker
  simp [hs, hside, hsellable]

lemma authorizationBlocker_unsellable (hs : b.suspended = false) (hside : order.side = .sell)
    (hsellable : account.sellable.get order.symbol = 0) :
    authorizationBlocker account order b costs = some .nonTradable := by
  unfold authorizationBlocker
  simp [hs, hside, hsellable]

lemma authorizationBlocker_suspended (hs : b.suspended = true) :
    authorizationBlocker account order b costs = some .nonTradable := by
  unfold authorizationBlocker
  simp [hs]

/-- Two choices between the same different things are equal when they choose the same. -/
lemma ite_eq_ite_iff {α : Type} {p q : Prop} [Decidable p] [Decidable q] {x y : α} (h : x ≠ y) :
    (if p then x else y) = (if q then x else y) ↔ (p ↔ q) := by
  by_cases hp : p <;> by_cases hq : q <;> simp [hp, hq, h, h.symm]

/-- At the open of a session that trades, two answers differ only over the price limit. -/
lemma blocker_eq_iff (hs₁ : b₁.suspended = false) (hs₂ : b₂.suspended = false)
    (hopen : b₁.openPrice = b₂.openPrice) :
    authorizationBlocker account order b₁ costs = authorizationBlocker account order b₂ costs ↔
      (order.side = .buy → (b₁.limitUp ≤ b₁.openPrice ↔ b₂.limitUp ≤ b₂.openPrice)) ∧
      (order.side = .sell → account.sellable.get order.symbol ≠ 0 →
        (b₁.openPrice ≤ b₁.limitDown ↔ b₂.openPrice ≤ b₂.limitDown)) := by
  cases hside : order.side with
  | buy =>
    rw [authorizationBlocker_buy hs₁ hside, authorizationBlocker_buy hs₂ hside, ← hopen,
      ite_eq_ite_iff quoteBlocker_ne_priceLimit]
    exact ⟨fun h => ⟨fun _ => h, by rintro ⟨⟩⟩, fun h => h.1 rfl⟩
  | sell =>
    by_cases hsellable : account.sellable.get order.symbol = 0
    · rw [authorizationBlocker_unsellable hs₁ hside hsellable,
        authorizationBlocker_unsellable hs₂ hside hsellable]
      exact ⟨fun _ => ⟨by rintro ⟨⟩, fun _ hne => absurd hsellable hne⟩, fun _ => rfl⟩
    · rw [authorizationBlocker_sell hs₁ hside hsellable,
        authorizationBlocker_sell hs₂ hside hsellable, ← hopen,
        ite_eq_ite_iff quoteBlocker_ne_priceLimit]
      exact ⟨fun h => ⟨by rintro ⟨⟩, fun _ _ => h⟩, fun h => h.2 rfl hsellable⟩

end Blockers

section Causality

variable {account : ReplayAccount} {order : ReplayOrder} {costs : ReplayCosts} {symbol : String}
  {session : Date} {p p₁ p₂ : Panel} {row row₁ row₂ : PanelRow} {b b₁ b₂ : DailyBar}

/-- The nominal band of a symbol in a session. -/
def HasBand (symbol : String) (panel : Panel) (session : Date) (band : ℚ × ℚ) : Prop :=
  ∃ parsed previous, Symbol.parse symbol = some parsed ∧
    panel.previousClose session = some previous ∧
    nominalBand previous (panel.limitFraction session parsed) = .ok band

lemma HasBand.unique {band band' : ℚ × ℚ} (h : HasBand symbol p session band)
    (h' : HasBand symbol p session band') : band = band' := by
  obtain ⟨parsed, previous, hparsed, hprevious, hband⟩ := h
  obtain ⟨parsed', previous', hparsed', hprevious', hband'⟩ := h'
  obtain rfl : parsed = parsed' := Option.some.inj (hparsed.symm.trans hparsed')
  obtain rfl : previous = previous' := Option.some.inj (hprevious.symm.trans hprevious')
  exact Except.ok.inj (hband.symm.trans hband')

/-- The nominal band is known at the open. -/
lemma AgreeUntilOpen.hasBand (h : AgreeUntilOpen session p₁ p₂) {band : ℚ × ℚ}
    (hband : HasBand symbol p₁ session band) : HasBand symbol p₂ session band := by
  obtain ⟨parsed, previous, hparsed, hprevious, hband⟩ := hband
  exact ⟨parsed, previous, hparsed, h.previousClose ▸ hprevious, h.limitFraction ▸ hband⟩

/-- The session opens on a cent, no lower than the nominal upper limit. -/
def OpensAtUpper (symbol : String) (panel : Panel) (session : Date) (row : PanelRow) : Prop :=
  ∃ band, HasBand symbol panel session band ∧ band.1 ≤ row.openPrice ∧ HasPlaces 2 row.openPrice

/-- The session opens on a cent, no higher than the nominal lower limit. -/
def OpensAtLower (symbol : String) (panel : Panel) (session : Date) (row : PanelRow) : Prop :=
  ∃ band, HasBand symbol panel session band ∧ row.openPrice ≤ band.2 ∧ HasPlaces 2 row.openPrice

/-- Where an order meets a session that opens at the nominal limit of its side, trading goes beyond
the open in both panels or in neither. -/
structure SameExtremes (account : ReplayAccount) (order : ReplayOrder) (symbol : String)
    (session : Date) (p₁ p₂ : Panel) : Prop where
  high : ∀ row₁ row₂, p₁.barRow session = some row₁ → p₂.barRow session = some row₂ →
    order.side = .buy → OpensAtUpper symbol p₁ session row₁ →
    (row₁.high = row₁.openPrice ↔ row₂.high = row₂.openPrice)
  low : ∀ row₁ row₂, p₁.barRow session = some row₁ → p₂.barRow session = some row₂ →
    order.side = .sell → account.sellable.get order.symbol ≠ 0 →
    OpensAtLower symbol p₁ session row₁ →
    (row₁.low = row₁.openPrice ↔ row₂.low = row₂.openPrice)

/-- Without a row for the session its bar is suspended. -/
lemma dailyBar_suspended (h : dailyBar symbol p session = .ok b)
    (hrow : p.barRow session = none) : b.suspended = true := by
  unfold dailyBar at h
  split at h
  · cases h
  · split at h
    · cases h
    · simp only [hrow] at h
      exact suspendedBar_eq_ok h

/-- The bar of a session with a row, by its nominal band. -/
lemma dailyBar_traded (h : dailyBar symbol p session = .ok b) (hrow : p.barRow session = some row) :
    b.suspended = false ∧ b.openPrice = row.openPrice ∧
      (b.limitUp ≤ b.openPrice ↔
        OpensAtUpper symbol p session row ∧ row.high = row.openPrice) ∧
      (b.openPrice ≤ b.limitDown ↔
        OpensAtLower symbol p session row ∧ row.low = row.openPrice) := by
  unfold dailyBar at h
  split at h
  · cases h
  next parsed hparsed =>
    split at h
    · cases h
    next previous hprevious =>
      simp only [hrow] at h
      obtain ⟨hsuspended, hopen, band, hband, hup, hdown⟩ := tradedBar_eq_ok h
      have hhas : HasBand symbol p session band := ⟨parsed, previous, hparsed, hprevious, hband⟩
      refine ⟨hsuspended, hopen, hup.trans ⟨?_, ?_⟩, hdown.trans ⟨?_, ?_⟩⟩
      · rintro ⟨hle, hhigh, hcent⟩
        exact ⟨⟨band, hhas, hle, hcent⟩, hhigh⟩
      · rintro ⟨⟨band', hhas', hle, hcent⟩, hhigh⟩
        exact ⟨hhas'.unique hhas ▸ hle, hhigh, hcent⟩
      · rintro ⟨hle, hlow, hcent⟩
        exact ⟨⟨band, hhas, hle, hcent⟩, hlow⟩
      · rintro ⟨⟨band', hhas', hle, hcent⟩, hlow⟩
        exact ⟨hhas'.unique hhas ▸ hle, hlow, hcent⟩

/-- Whether the session opens at a nominal limit is known at the open. -/
lemma AgreeUntilOpen.opensAt (h : AgreeUntilOpen session p₁ p₂)
    (hopen : row₁.openPrice = row₂.openPrice) :
    (OpensAtUpper symbol p₁ session row₁ → OpensAtUpper symbol p₂ session row₂) ∧
      (OpensAtLower symbol p₁ session row₁ → OpensAtLower symbol p₂ session row₂) :=
  ⟨fun ⟨band, hband, hle, hcent⟩ => ⟨band, h.hasBand hband, hopen ▸ hle, hopen ▸ hcent⟩,
    fun ⟨band, hband, hle, hcent⟩ => ⟨band, h.hasBand hband, hopen ▸ hle, hopen ▸ hcent⟩⟩

lemma AgreeUntilOpen.symm (h : AgreeUntilOpen session p₁ p₂) : AgreeUntilOpen session p₂ p₁ :=
  ⟨h.before.symm, h.opens.symm⟩

/-- Two panels that agree until the open give an order the same answer exactly when the session's
extremes leave the open alike, wherever it opens at the nominal limit of the order's side. -/
theorem authorization_causal_iff (hagree : AgreeUntilOpen session p₁ p₂)
    (h₁ : dailyBar symbol p₁ session = .ok b₁) (h₂ : dailyBar symbol p₂ session = .ok b₂) :
    authorizationBlocker account order b₁ costs = authorizationBlocker account order b₂ costs ↔
      SameExtremes account order symbol session p₁ p₂ := by
  have hopens := hagree.opens
  cases hrow₁ : p₁.barRow session with
  | none =>
    cases hrow₂ : p₂.barRow session with
    | some row₂ => simp [hrow₁, hrow₂] at hopens
    | none =>
      rw [authorizationBlocker_suspended (dailyBar_suspended h₁ hrow₁),
        authorizationBlocker_suspended (dailyBar_suspended h₂ hrow₂)]
      have hsame : SameExtremes account order symbol session p₁ p₂ :=
        ⟨fun _ _ h => absurd (hrow₁ ▸ h) (by simp), fun _ _ h => absurd (hrow₁ ▸ h) (by simp)⟩
      exact iff_of_true rfl hsame
  | some row₁ =>
    cases hrow₂ : p₂.barRow session with
    | none => simp [hrow₁, hrow₂] at hopens
    | some row₂ =>
      have hopen : row₁.openPrice = row₂.openPrice := by simpa [hrow₁, hrow₂] using hopens
      obtain ⟨hs₁, ho₁, hup₁, hdown₁⟩ := dailyBar_traded h₁ hrow₁
      obtain ⟨hs₂, ho₂, hup₂, hdown₂⟩ := dailyBar_traded h₂ hrow₂
      have hupper : OpensAtUpper symbol p₁ session row₁ ↔ OpensAtUpper symbol p₂ session row₂ :=
        ⟨(hagree.opensAt hopen).1, (hagree.symm.opensAt hopen.symm).1⟩
      have hlower : OpensAtLower symbol p₁ session row₁ ↔ OpensAtLower symbol p₂ session row₂ :=
        ⟨(hagree.opensAt hopen).2, (hagree.symm.opensAt hopen.symm).2⟩
      rw [blocker_eq_iff hs₁ hs₂ (ho₁.trans (hopen.trans ho₂.symm)), hup₁, hup₂, hdown₁, hdown₂,
        ← hupper, ← hlower, and_congr_right_iff, and_congr_right_iff]
      constructor
      · rintro ⟨hhigh, hlow⟩
        refine ⟨fun r₁ r₂ hr₁ hr₂ hside => ?_, fun r₁ r₂ hr₁ hr₂ hside => ?_⟩
        · obtain rfl : row₁ = r₁ := Option.some.inj (hrow₁.symm.trans hr₁)
          obtain rfl : row₂ = r₂ := Option.some.inj (hrow₂.symm.trans hr₂)
          exact hhigh hside
        · obtain rfl : row₁ = r₁ := Option.some.inj (hrow₁.symm.trans hr₁)
          obtain rfl : row₂ = r₂ := Option.some.inj (hrow₂.symm.trans hr₂)
          exact hlow hside
      · intro hsame
        exact ⟨hsame.high row₁ row₂ hrow₁ hrow₂, hsame.low row₁ row₂ hrow₁ hrow₂⟩

end Causality

/-! ## An open at the limit -/

section Samples

/-- A session at a constant price. -/
def flatRow (price : ℚ) : PanelRow := ⟨price, price, price, price, 10000⟩

/-- Six sessions at ten, and a seventh. -/
def seventhSession (row : PanelRow) : Panel where
  rows := [(1, flatRow 10), (2, flatRow 10), (3, flatRow 10), (4, flatRow 10), (5, flatRow 10),
    (6, flatRow 10), (7, row)]
  sorted := by simp

/-- The session stays at its upper limit. -/
def lockedSession : Panel := seventhSession (flatRow 11)

/-- The session opens at its upper limit and trades above it, as an adjusted series may. -/
def climbingSession : Panel := seventhSession ⟨11, 11.05, 11, 11.02, 10000⟩

/-- A buy order at the limit. -/
def limitBuy : ReplayOrder where
  symbol := "600001.SH"
  side := .buy
  shares := 100
  limitPrice := 11
  maxVolumeParticipation := 1
  dependsOnSellProceeds := false
  symbol_nonempty := by decide
  shares_pos := hundred_pos
  limitPrice_pos := eleven_pos
  participation_pos := zero_lt_one
  participation_le_one := by norm_num
  sell_independent := fun _ => rfl

/-- An account with cash only. -/
def cashAccount : ReplayAccount := ⟨100000, ∅, ∅, by decide +kernel⟩

/-- No costs, and the deviation that the source allows by default. -/
def freeCosts : ReplayCosts where
  commissionRate := 0
  minimumCommission := 0
  sellStampDutyRate := 0
  transferFeeRate := 0
  slippageBps := 0
  maxPriceDeviationBps := 300
  nonneg := by norm_num
  rates_le_one := ReplayCosts.free_le_one
  bps_le := by norm_num

/-- The blocker of the order in the seventh session of a panel. -/
def limitBuyBlocker (panel : Panel) : Except BarError (Option BlockerCode) :=
  (dailyBar "600001.SH" panel 7).map fun b =>
    authorizationBlocker cashAccount limitBuy b freeCosts

lemma locked_blocker : limitBuyBlocker lockedSession = .ok (some .priceLimit) := by
  decide +kernel

lemma climbing_blocker : limitBuyBlocker climbingSession = .ok none := by
  decide +kernel

lemma samples_agree : AgreeUntilOpen 7 lockedSession climbingSession :=
  ⟨by decide +kernel, by decide +kernel⟩

lemma limitBuyBlocker_eq_ok {panel : Panel} {blocker : Option BlockerCode}
    (h : limitBuyBlocker panel = .ok blocker) : ∃ b, dailyBar "600001.SH" panel 7 = .ok b ∧
      authorizationBlocker cashAccount limitBuy b freeCosts = blocker := by
  unfold limitBuyBlocker at h
  cases hbar : dailyBar "600001.SH" panel 7 with
  | error e => simp [hbar, Except.map] at h
  | ok b => exact ⟨b, rfl, by simpa [hbar, Except.map] using h⟩

/-- The highs of the two sessions leave the open differently. -/
theorem samples_differ : ¬ SameExtremes cashAccount limitBuy "600001.SH" 7 lockedSession
    climbingSession := by
  obtain ⟨b₁, hb₁, hblocker₁⟩ := limitBuyBlocker_eq_ok locked_blocker
  obtain ⟨b₂, hb₂, hblocker₂⟩ := limitBuyBlocker_eq_ok climbing_blocker
  intro hsame
  have heq : authorizationBlocker cashAccount limitBuy b₁ freeCosts =
      authorizationBlocker cashAccount limitBuy b₂ freeCosts :=
    (authorization_causal_iff samples_agree hb₁ hb₂).mpr hsame
  rw [hblocker₁, hblocker₂] at heq
  exact absurd heq (by decide)

/-- The answer at the open depends on the rest of the session. -/
theorem authorization_not_causal : ¬ ∀ (symbol : String) (session : Date) (p₁ p₂ : Panel)
    (account : ReplayAccount) (order : ReplayOrder) (costs : ReplayCosts) (b₁ b₂ : DailyBar),
    AgreeUntilOpen session p₁ p₂ → dailyBar symbol p₁ session = .ok b₁ →
      dailyBar symbol p₂ session = .ok b₂ →
      authorizationBlocker account order b₁ costs =
        authorizationBlocker account order b₂ costs := by
  obtain ⟨b₁, hb₁, hblocker₁⟩ := limitBuyBlocker_eq_ok locked_blocker
  obtain ⟨b₂, hb₂, hblocker₂⟩ := limitBuyBlocker_eq_ok climbing_blocker
  intro hcausal
  have heq := hcausal "600001.SH" 7 _ _ cashAccount limitBuy freeCosts b₁ b₂ samples_agree hb₁ hb₂
  rw [hblocker₁, hblocker₂] at heq
  exact absurd heq (by decide)

end Samples

end ReplayRunner

end FirmQuant
