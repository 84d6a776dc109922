import FirmQuant.Risk.Gate
import Mathlib.Order.Bounds.Basic

/-!
# The quantity of the execution risk gate

When no fact halts, blocks or delays a command, the gate caps its shares one limit after the other
and rounds what is left down to the trading unit; a SELL of the whole position to a target of zero
is not rounded.  This module states the limits as conditions on a number of shares and shows that
the gate authorizes the greatest number that meets them all.
-/

namespace FirmQuant

namespace ExecutionRiskGate

/-! ## The limits -/

/-- The limits of a BUY: the target in shares, the target weight and the cap of the symbol, the
target gross and the cap of the account, and the cash with the fees. -/
structure BuyFits (command : RiskCommand) (context : ExecutionRiskContext) (n : ℕ) : Prop where
  target : currentShares context + n ≤ context.uquantTargetShares
  symbol : n * command.command.limitPrice.value ≤
    min (context.uquantTargetWeight * context.totalAssets.value)
      context.limits.maxSymbolNotional.value - context.actualSymbolNotional.value
  gross : n * command.command.limitPrice.value ≤
    min (min context.uquantTargetGross context.uquantTargetGrossCap * context.totalAssets.value)
      context.limits.maxTotalGrossNotional.value - context.actualGrossNotional.value
  cash : n * command.command.limitPrice.value + command.estimatedFees.value ≤
    context.availableCash.value

/-- The limits of a SELL: the shares above the target, and the sellable ones. -/
structure SellFits (context : ExecutionRiskContext) (n : ℕ) : Prop where
  target : (n : ℤ) ≤ (currentShares context : ℤ) - context.uquantTargetShares
  sellable : ∃ position ∈ context.position, n ≤ position.sellableShares

/-- The shares are a full liquidation: the whole position is sold to a target of zero. -/
def FullLiquidation (command : RiskCommand) (context : ExecutionRiskContext) (n : ℕ) : Prop :=
  command.command.side = .sell ∧ context.uquantTargetShares = 0 ∧
    ∃ position ∈ context.position, n = position.totalShares

/-- A positive number of shares meets every limit on a command. -/
structure Fits (command : RiskCommand) (context : ExecutionRiskContext)
    (instrument : InstrumentFact) (quote : QuoteFact) (n : ℕ) : Prop where
  positive : 0 < n
  authorized : n ≤ min command.command.requestedShares command.uquantAuthorizedShares
  buy : command.command.side = .buy → BuyFits command context n
  sell : command.command.side = .sell → SellFits context n
  order : n * command.command.limitPrice.value ≤ context.limits.maxOrderNotional.value
  submitted : n * command.command.limitPrice.value ≤
    context.limits.maxDailySubmittedNotional.value - context.dailySubmittedNotional.value
  filled : n * command.command.limitPrice.value ≤
    context.limits.maxDailyFilledNotional.value - context.dailyFilledNotional.value
  volume : (n : ℤ) ≤ ⌊(quote.volume : ℚ) * context.uquantMaxVolumeParticipation⌋
  lot : instrument.tradingUnit ∣ n ∨ FullLiquidation command context n

/-! ## Caps -/

section Caps

variable {n : ℕ}

/-- One cap: a positive number is below the candidate that it leaves if it is below both. -/
lemma le_applyCap (hn : 0 < n) (acc : ℤ × List ReasonCode) (cap : ℤ × ReasonCode) :
    (n : ℤ) ≤ (applyCap acc cap).1 ↔ (n : ℤ) ≤ acc.1 ∧ (n : ℤ) ≤ cap.1 := by
  unfold applyCap
  split_ifs with h
  · dsimp only
    omega
  · omega

/-- All caps, by induction over them. -/
lemma le_foldl_applyCap (hn : 0 < n) (caps : List (ℤ × ReasonCode)) :
    ∀ acc : ℤ × List ReasonCode, (n : ℤ) ≤ (caps.foldl applyCap acc).1 ↔
      (n : ℤ) ≤ acc.1 ∧ ∀ cap ∈ caps, (n : ℤ) ≤ cap.1 := by
  induction caps with
  | nil => simp
  | cons cap caps ih =>
    intro acc
    rw [List.foldl_cons, ih, le_applyCap hn]
    simp [and_assoc]

lemma foldl_applyCap_le (caps : List (ℤ × ReasonCode)) :
    ∀ acc : ℤ × List ReasonCode, (caps.foldl applyCap acc).1 ≤ acc.1 := by
  induction caps with
  | nil => simp
  | cons cap caps ih =>
    intro acc
    rw [List.foldl_cons]
    refine (ih _).trans ?_
    unfold applyCap
    split_ifs with h
    · exact h.le
    · exact le_refl _

/-- A positive number is below the shares that a notional buys if its value is below the
notional. -/
lemma le_maxSharesForNotional (hn : 0 < n) (notional : ℚ) (price : Price) :
    (n : ℤ) ≤ maxSharesForNotional notional price.value ↔ n * price.value ≤ notional := by
  have hpos : (0 : ℚ) < n * price.value := mul_pos (Nat.cast_pos.mpr hn) price.positive
  unfold maxSharesForNotional
  split_ifs with hnotional
  · constructor
    · intro h
      omega
    · intro h
      exact absurd (hpos.trans_le h) (not_lt.mpr hnotional)
  · rw [Int.le_floor, le_div_iff₀ price.positive]
    norm_cast

end Caps

/-! ## The candidate -/

section Candidate

variable (command : RiskCommand) (context : ExecutionRiskContext) (instrument : InstrumentFact)
  (quote : QuoteFact)

/-- The candidate after all caps. -/
def capped : ℤ :=
  ((sideCaps command context ++ commonCaps command context quote).foldl applyCap
    ((min command.command.requestedShares command.uquantAuthorizedShares : ℕ), [])).1

/-- The limits but for the trading unit are the caps. -/
lemma le_capped {n : ℕ} (hn : 0 < n) : (n : ℤ) ≤ capped command context quote ↔
    n ≤ min command.command.requestedShares command.uquantAuthorizedShares ∧
      (∀ cap ∈ sideCaps command context, (n : ℤ) ≤ cap.1) ∧
      ∀ cap ∈ commonCaps command context quote, (n : ℤ) ≤ cap.1 := by
  rw [capped, le_foldl_applyCap hn, Nat.cast_le]
  simp only [List.mem_append, or_imp, forall_and]

variable {command context quote}

lemma le_sideCaps_buy {n : ℕ} (hn : 0 < n) (hside : command.command.side = .buy) :
    (∀ cap ∈ sideCaps command context, (n : ℤ) ≤ cap.1) ↔ BuyFits command context n := by
  simp only [sideCaps, hside, List.forall_mem_cons, List.not_mem_nil, false_imp_iff, implies_true,
    and_true, le_maxSharesForNotional hn]
  constructor
  · rintro ⟨htarget, hweight, hgross, hsymbol, htotal, hcash⟩
    refine ⟨by omega, ?_, ?_, by linarith⟩
    all_goals
      rw [le_sub_iff_add_le, le_min_iff]
      exact ⟨by linarith, by linarith⟩
  · rintro ⟨htarget, hsymbol, hgross, hcash⟩
    rw [le_sub_iff_add_le, le_min_iff] at hsymbol hgross
    exact ⟨by omega, by linarith [hsymbol.1], by linarith [hgross.1], by linarith [hsymbol.2],
      by linarith [hgross.2], by linarith⟩

lemma le_sideCaps_sell {n : ℕ} (hn : 0 < n) (hside : command.command.side = .sell) :
    (∀ cap ∈ sideCaps command context, (n : ℤ) ≤ cap.1) ↔ SellFits context n := by
  cases hposition : context.position with
  | none =>
    simp only [sideCaps, hside, hposition, List.forall_mem_cons, List.not_mem_nil, false_imp_iff,
      implies_true, and_true]
    constructor
    · rintro ⟨-, hzero⟩
      omega
    · rintro ⟨-, position, hmem, -⟩
      simp [hposition] at hmem
  | some position =>
    have hsellable := position.sellable_le_total
    simp only [sideCaps, hside, hposition, List.forall_mem_cons, List.not_mem_nil, false_imp_iff,
      implies_true, and_true]
    constructor
    · rintro ⟨htarget, -, hsell⟩
      exact ⟨htarget, position, hposition, by omega⟩
    · rintro ⟨htarget, other, hmem, hsell⟩
      obtain rfl : position = other := by simpa [hposition] using hmem
      exact ⟨htarget, by omega, by omega⟩

lemma le_commonCaps {n : ℕ} (hn : 0 < n) :
    (∀ cap ∈ commonCaps command context quote, (n : ℤ) ≤ cap.1) ↔
      n * command.command.limitPrice.value ≤ context.limits.maxOrderNotional.value ∧
      n * command.command.limitPrice.value ≤
        context.limits.maxDailySubmittedNotional.value - context.dailySubmittedNotional.value ∧
      n * command.command.limitPrice.value ≤
        context.limits.maxDailyFilledNotional.value - context.dailyFilledNotional.value ∧
      (n : ℤ) ≤ ⌊(quote.volume : ℚ) * context.uquantMaxVolumeParticipation⌋ := by
  simp only [commonCaps, List.forall_mem_cons, List.not_mem_nil, false_imp_iff, implies_true,
    and_true, le_maxSharesForNotional hn]

/-- The position caps the candidate of a SELL. -/
lemma capped_le_position {position : BrokerPositionFact} {n : ℕ}
    (hside : command.command.side = .sell)
    (hposition : position ∈ context.position) (hn : 0 < n)
    (hcapped : (n : ℤ) ≤ capped command context quote) :
    capped command context quote ≤ position.totalShares := by
  -- The candidate is itself a number below the candidate, so it is sellable.
  have hcast : ((capped command context quote).toNat : ℤ) = capped command context quote :=
    Int.toNat_of_nonneg (by omega)
  have hpos : 0 < (capped command context quote).toNat := by omega
  obtain ⟨-, hcaps, -⟩ := (le_capped command context quote hpos).mp hcast.le
  obtain ⟨-, other, hother, hsellable⟩ := (le_sideCaps_sell hpos hside).mp hcaps
  obtain rfl : other = position := Option.mem_unique hother hposition
  have htotal := other.sellable_le_total
  omega

variable {instrument}

/-- The limits on a positive number of shares are the caps and the lot. -/
lemma fits_iff {n : ℕ} (hn : 0 < n) : Fits command context instrument quote n ↔
    (n : ℤ) ≤ capped command context quote ∧
      (instrument.tradingUnit ∣ n ∨ FullLiquidation command context n) := by
  rw [le_capped command context quote hn, le_commonCaps hn]
  cases hside : command.command.side with
  | buy =>
    rw [le_sideCaps_buy hn hside]
    constructor
    · intro h
      exact ⟨⟨h.authorized, h.buy hside, h.order, h.submitted, h.filled, h.volume⟩, h.lot⟩
    · rintro ⟨⟨hauthorized, hbuy, horder, hsubmitted, hfilled, hvolume⟩, hlot⟩
      exact ⟨hn, hauthorized, fun _ => hbuy, fun hsell => by simp [hside] at hsell, horder,
        hsubmitted, hfilled, hvolume, hlot⟩
  | sell =>
    rw [le_sideCaps_sell hn hside]
    constructor
    · intro h
      exact ⟨⟨h.authorized, h.sell hside, h.order, h.submitted, h.filled, h.volume⟩, h.lot⟩
    · rintro ⟨⟨hauthorized, hsell, horder, hsubmitted, hfilled, hvolume⟩, hlot⟩
      exact ⟨hn, hauthorized, fun hbuy => by simp [hside] at hbuy, fun _ => hsell, horder,
        hsubmitted, hfilled, hvolume, hlot⟩

end Candidate

/-! ## The lot -/

section Lot

variable (command : RiskCommand) (context : ExecutionRiskContext) (instrument : InstrumentFact)
  (quote : QuoteFact)

/-- `full_odd_lot_sell`. -/
abbrev fullOddLotSell (candidate : ℤ) : Prop :=
  command.command.side = .sell ∧ (∃ position ∈ context.position, candidate = position.totalShares) ∧
    context.uquantTargetShares = 0

/-- The candidate after the caps and the rounding. -/
def sized : ℤ :=
  if fullOddLotSell command context (capped command context quote) then
    capped command context quote
  else capped command context quote - capped command context quote % instrument.tradingUnit

variable {command context instrument quote}

lemma sized_le_capped : sized command context instrument quote ≤ capped command context quote := by
  have hunit : (0 : ℤ) < instrument.tradingUnit := Nat.cast_pos.mpr instrument.unit_pos
  unfold sized
  split_ifs
  · exact le_refl _
  · have := Int.emod_nonneg (capped command context quote) hunit.ne'
    omega

/-- A positive size meets all limits. -/
lemma fits_sized (hpos : 0 < sized command context instrument quote) :
    Fits command context instrument quote (sized command context instrument quote).toNat := by
  have hcast := Int.toNat_of_nonneg hpos.le
  have hn : 0 < (sized command context instrument quote).toNat := by omega
  refine (fits_iff hn).mpr ⟨by rw [hcast]; exact sized_le_capped, ?_⟩
  by_cases hfull : fullOddLotSell command context (capped command context quote)
  · right
    obtain ⟨hside, ⟨position, hposition, htotal⟩, htarget⟩ := hfull
    refine ⟨hside, htarget, position, hposition, ?_⟩
    have hsized : sized command context instrument quote = capped command context quote :=
      if_pos ⟨hside, ⟨position, hposition, htotal⟩, htarget⟩
    rw [hsized, htotal, Int.toNat_natCast]
  · left
    have hsized : sized command context instrument quote = capped command context quote -
      capped command context quote % instrument.tradingUnit := if_neg hfull
    rw [← Int.natCast_dvd_natCast, hcast, hsized]
    exact Int.dvd_self_sub_emod

/-- No number of shares above the size meets all limits. -/
lemma le_sized {n : ℕ} (h : Fits command context instrument quote n) :
    (n : ℤ) ≤ sized command context instrument quote := by
  obtain ⟨hcapped, hlot⟩ := (fits_iff h.positive).mp h
  unfold sized
  split_ifs with hfull
  · exact hcapped
  rcases hlot with hdvd | ⟨hside, htarget, position, hposition, rfl⟩
  · -- A multiple of the unit below the candidate is below its rounding.
    have hunit : (0 : ℤ) < instrument.tradingUnit := Nat.cast_pos.mpr instrument.unit_pos
    obtain ⟨k, hk⟩ := Int.natCast_dvd_natCast.mpr hdvd
    have hdiv := Int.mul_ediv_add_emod (capped command context quote) instrument.tradingUnit
    have hle : k ≤ capped command context quote / instrument.tradingUnit := by
      rw [Int.le_ediv_iff_mul_le hunit]
      linarith
    have hmul := mul_le_mul_of_nonneg_left hle hunit.le
    linarith
  · -- The position caps the candidate, so a full liquidation below it is the candidate.
    exact absurd ⟨hside, ⟨position, hposition, le_antisymm
      (capped_le_position hside hposition h.positive hcapped) hcapped⟩, htarget⟩ hfull

variable (command context instrument quote)

lemma capped_le_requested : capped command context quote ≤ command.command.requestedShares := by
  have h := foldl_applyCap_le (sideCaps command context ++ commonCaps command context quote)
    ((min command.command.requestedShares command.uquantAuthorizedShares : ℕ), [])
  have hmin := min_le_left command.command.requestedShares command.uquantAuthorizedShares
  exact h.trans (Nat.cast_le.mpr hmin)

lemma quantity_eq : ∃ blocking shrinking : List ReasonCode,
    quantity command context instrument quote =
      if sized command context instrument quote ≤ 0 then zero .block blocking
      else if sized command context instrument quote < command.command.requestedShares then
        ⟨.shrink, (sized command context instrument quote).toNat, shrinking⟩
      else ⟨.allow, command.command.requestedShares, [.allChecksPassed]⟩ := by
  have hmin : min (sized command context instrument quote) (capped command context quote) =
    sized command context instrument quote := min_eq_left sized_le_capped
  obtain ⟨candidate, reasons, hfold⟩ : ∃ candidate reasons,
      (sideCaps command context ++ commonCaps command context quote).foldl applyCap
        ((min command.command.requestedShares command.uquantAuthorizedShares : ℕ), []) =
          (candidate, reasons) := ⟨_, _, rfl⟩
  have hcapped : capped command context quote = candidate := congrArg Prod.fst hfold
  unfold sized at hmin ⊢
  rw [hcapped] at hmin ⊢
  simp only [quantity, hfold, hmin]
  exact ⟨_, _, rfl⟩

/-- Without a positive size the gate blocks. -/
lemma quantity_of_nonpos (h : sized command context instrument quote ≤ 0) :
    (quantity command context instrument quote).action = .block ∧
      (quantity command context instrument quote).authorizedShares = 0 := by
  obtain ⟨blocking, shrinking, hquantity⟩ := quantity_eq command context instrument quote
  rw [hquantity, if_pos h]
  exact ⟨rfl, rfl⟩

lemma quantity_of_pos (h : 0 < sized command context instrument quote) :
    (quantity command context instrument quote).authorizedShares =
      (sized command context instrument quote).toNat := by
  obtain ⟨blocking, shrinking, hquantity⟩ := quantity_eq command context instrument quote
  have hcapped : sized command context instrument quote ≤ capped command context quote :=
    sized_le_capped
  have hrequested := capped_le_requested command context quote
  rw [hquantity, if_neg h.not_ge]
  split_ifs with hlt
  · rfl
  · have heq : sized command context instrument quote = command.command.requestedShares := by omega
    simp [heq]

end Lot

/-! ## The decision -/

section Decision

variable {command : RiskCommand} {context : ExecutionRiskContext}

/-- A decision that authorizes nothing. -/
def Refuses (decision : GateDecision) : Prop :=
  decision.action ∈ [GateAction.delay, .block, .halt] ∧ decision.authorizedShares = 0

lemma blockReasons_of_missing (h : context.instrument = none ∨ context.quote = none) :
    blockReasons command context ≠ [] := by
  rcases h with hinstrument | hquote
  · have hmem : ReasonCode.instrumentFactMissing ∈ blockReasons command context := by
      simp [blockReasons, hinstrument, flag]
    exact List.ne_nil_of_mem hmem
  · have hmem : ReasonCode.quoteFactMissing ∈ blockReasons command context := by
      simp [blockReasons, hquote, flag]
    exact List.ne_nil_of_mem hmem

/-- `evaluate` refuses a command by the facts of its context, or decides on its quantity. -/
lemma evaluate_decides (command : RiskCommand) (context : ExecutionRiskContext) :
    ∃ decision, evaluate command context = .ok decision ∧
      (Refuses decision ∨ ∃ instrument ∈ context.instrument, ∃ quote ∈ context.quote,
        decision = quantity command context instrument quote) := by
  unfold evaluate
  split_ifs with hhalt hblock hdelay
  iterate 3 exact ⟨_, rfl, Or.inl ⟨by simp [zero], rfl⟩⟩
  · have hpresent := mt (@blockReasons_of_missing command context) hblock
    rw [not_or] at hpresent
    obtain ⟨instrument, hinstrument⟩ := Option.ne_none_iff_exists'.mp hpresent.1
    obtain ⟨quote, hquote⟩ := Option.ne_none_iff_exists'.mp hpresent.2
    refine ⟨quantity command context instrument quote, ?_, Or.inr ⟨instrument, hinstrument, quote,
      hquote, rfl⟩⟩
    rw [hinstrument, hquote]

/-- `evaluate` always decides.  An ALLOW or SHRINK authorizes the greatest number of shares that
meets all limits; when no positive number does, the decision authorizes nothing. -/
theorem evaluate_greatest (command : RiskCommand) (context : ExecutionRiskContext) :
    ∃ decision, evaluate command context = .ok decision ∧
      (decision.action ∈ [GateAction.allow, .shrink] →
        ∃ instrument ∈ context.instrument, ∃ quote ∈ context.quote,
          IsGreatest {n | Fits command context instrument quote n} decision.authorizedShares) ∧
      ((∀ instrument ∈ context.instrument, ∀ quote ∈ context.quote, ∀ n,
        ¬ Fits command context instrument quote n) → Refuses decision) := by
  obtain ⟨decision, hevaluate, hdecision⟩ := evaluate_decides command context
  refine ⟨decision, hevaluate, ?_⟩
  rcases hdecision with hrefuses | ⟨instrument, hinstrument, quote, hquote, rfl⟩
  · refine ⟨fun hallow => ?_, fun _ => hrefuses⟩
    obtain ⟨haction, -⟩ := hrefuses
    simp only [List.mem_cons, List.not_mem_nil, or_false] at haction hallow
    rcases haction with h | h | h <;> simp [h] at hallow
  · rcases le_or_gt (sized command context instrument quote) 0 with hsized | hsized
    · obtain ⟨haction, hshares⟩ := quantity_of_nonpos command context instrument quote hsized
      refine ⟨fun hallow => ?_, fun _ => ⟨by simp [haction], hshares⟩⟩
      simp [haction] at hallow
    · have hshares := quantity_of_pos command context instrument quote hsized
      have hfits := fits_sized hsized
      refine ⟨fun _ => ⟨instrument, hinstrument, quote, hquote, ?_⟩, fun hnone => ?_⟩
      · rw [hshares]
        refine ⟨hfits, fun n hn => ?_⟩
        have hle := le_sized hn
        omega
      · exact absurd hfits (hnone instrument hinstrument quote hquote _)

end Decision

end ExecutionRiskGate

end FirmQuant
