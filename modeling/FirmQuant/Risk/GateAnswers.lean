import Mathlib.Data.Option.Basic
import FirmQuant.Risk.Quantity

/-!
# Answers of the execution risk gate

The gate is stable under its own answer: the quantity that it authorizes is allowed when it is asked
for.  And it is monotone: more room in a limit, in the cash, in the quoted volume or in the sellable
shares never lowers the authorized quantity of a BUY.
-/

namespace FirmQuant

/-- The command for another quantity. -/
def RiskCommand.resized (command : RiskCommand) (shares : ℕ) (h : 0 < shares) : RiskCommand :=
  { command with command := { command.command with requestedShares := shares, requested_pos := h } }

namespace ExecutionRiskGate

/-- Limits with notional limits that are at least as high. -/
structure RaisesLimits (limits limits' : RiskLimits) : Prop where
  order : limits.maxOrderNotional.value ≤ limits'.maxOrderNotional.value
  submitted : limits.maxDailySubmittedNotional.value ≤ limits'.maxDailySubmittedNotional.value
  filled : limits.maxDailyFilledNotional.value ≤ limits'.maxDailyFilledNotional.value
  symbol : limits.maxSymbolNotional.value ≤ limits'.maxSymbolNotional.value
  gross : limits.maxTotalGrossNotional.value ≤ limits'.maxTotalGrossNotional.value
  rest : limits' = { limits with
    maxOrderNotional := limits'.maxOrderNotional
    maxDailySubmittedNotional := limits'.maxDailySubmittedNotional
    maxDailyFilledNotional := limits'.maxDailyFilledNotional
    maxSymbolNotional := limits'.maxSymbolNotional
    maxTotalGrossNotional := limits'.maxTotalGrossNotional }

/-- A quote with at least the volume. -/
structure RaisesVolume (quote quote' : QuoteFact) : Prop where
  volume : quote.volume ≤ quote'.volume
  rest : quote' = { quote with volume := quote'.volume }

/-- A position with at least the sellable shares. -/
structure RaisesSellable (position position' : BrokerPositionFact) : Prop where
  sellable : position.sellableShares ≤ position'.sellableShares
  symbol : position'.symbol = position.symbol
  total : position'.totalShares = position.totalShares
  cost : position'.averageCost = position.averageCost
  value : position'.marketValue = position.marketValue

/-- A context that leaves more room, and is the same otherwise. -/
structure Relaxes (context context' : ExecutionRiskContext) : Prop where
  cash : context.availableCash.value ≤ context'.availableCash.value
  limits : RaisesLimits context.limits context'.limits
  quote : Option.Rel RaisesVolume context.quote context'.quote
  position : Option.Rel RaisesSellable context.position context'.position
  rest : context' = { context with
    availableCash := context'.availableCash
    limits := context'.limits
    quote := context'.quote
    position := context'.position }

section Answers

variable {command : RiskCommand} {context context' : ExecutionRiskContext}
  {instrument : InstrumentFact} {quote : QuoteFact} {decision decision' : GateDecision}

/-! ## What an authorization says -/

/-- No fact refuses the command, and its size is authorized. -/
structure Authorizes (command : RiskCommand) (context : ExecutionRiskContext)
    (instrument : InstrumentFact) (quote : QuoteFact) (decision : GateDecision) : Prop where
  halt : haltReasons command context = []
  block : blockReasons command context = []
  delay : delayReasons context = []
  hasInstrument : context.instrument = some instrument
  hasQuote : context.quote = some quote
  decides : decision = quantity command context instrument quote
  positive : 0 < sized command context instrument quote

/-- `evaluate` without a fact that refuses. -/
lemma evaluate_of_clear (hhalt : haltReasons command context = [])
    (hblock : blockReasons command context = []) (hdelay : delayReasons context = [])
    (hinstrument : context.instrument = some instrument) (hquote : context.quote = some quote) :
    evaluate command context = .ok (quantity command context instrument quote) := by
  unfold evaluate
  rw [if_neg (not_not.mpr hhalt), if_neg (not_not.mpr hblock), if_neg (not_not.mpr hdelay),
    hinstrument, hquote]

lemma authorizes_or_zero (h : evaluate command context = .ok decision) :
    (Refuses decision) ∨ ∃ instrument quote,
      Authorizes command context instrument quote decision := by
  unfold evaluate at h
  split_ifs at h with hhalt hblock hdelay
  iterate 3
    · cases h
      exact .inl ⟨by simp [zero], rfl⟩
  · split at h
    · rename_i instrument quote hinstrument hquote
      cases h
      rcases le_or_gt (sized command context instrument quote) 0 with hsized | hsized
      · obtain ⟨haction, hshares⟩ := quantity_of_nonpos command context instrument quote hsized
        exact .inl ⟨by simp [haction], hshares⟩
      · exact .inr ⟨instrument, quote, not_not.mp hhalt, not_not.mp hblock, not_not.mp hdelay,
          hinstrument, hquote, rfl, hsized⟩
    · cases h

lemma Authorizes.shares (h : Authorizes command context instrument quote decision) :
    (decision.authorizedShares : ℤ) = sized command context instrument quote := by
  rw [h.decides, quantity_of_pos command context instrument quote h.positive]
  exact Int.toNat_of_nonneg h.positive.le

lemma Authorizes.shares_pos (h : Authorizes command context instrument quote decision) :
    0 < decision.authorizedShares := by
  have hshares := h.shares
  have hpositive := h.positive
  omega

lemma Authorizes.fits (h : Authorizes command context instrument quote decision) :
    Fits command context instrument quote decision.authorizedShares := by
  have hfits := fits_sized h.positive
  rwa [← h.shares, Int.toNat_natCast] at hfits

/-! ## The answer, asked again -/

/-- An authorized quantity does not exceed what was authorized upstream. -/
lemma Authorizes.halt_resized (h : Authorizes command context instrument quote decision) :
    haltReasons (command.resized decision.authorizedShares h.shares_pos) context = [] := by
  have hhalt := h.halt
  have hauthorized := h.fits.authorized
  simp only [haltReasons, List.append_eq_nil_iff, flag_eq_nil] at hhalt ⊢
  obtain ⟨hbefore, hdisconnect⟩ := hhalt.1
  exact ⟨⟨⟨hbefore.1, not_lt.mpr (hauthorized.trans (min_le_right _ _))⟩, hdisconnect⟩, hhalt.2⟩

/-- The answer meets the limits of its own command. -/
lemma Authorizes.fits_resized (h : Authorizes command context instrument quote decision) :
    Fits (command.resized decision.authorizedShares h.shares_pos) context instrument quote
      decision.authorizedShares := by
  have hfits := h.fits
  refine ⟨hfits.positive, le_min (le_refl _) (hfits.authorized.trans (min_le_right _ _)),
    fun hside => ?_, hfits.sell, hfits.order, hfits.submitted, hfits.filled,
      hfits.volume, hfits.lot⟩
  have hbuy := hfits.buy hside
  exact ⟨hbuy.target, hbuy.symbol, hbuy.gross, hbuy.cash⟩

/-- Asked for, the authorized quantity is allowed. -/
lemma Authorizes.evaluate_resized (h : Authorizes command context instrument quote decision) :
    evaluate (command.resized decision.authorizedShares h.shares_pos) context =
      .ok ⟨.allow, decision.authorizedShares, [.allChecksPassed]⟩ := by
  have hblock : blockReasons (command.resized decision.authorizedShares h.shares_pos)
    context = [] :=
    h.block
  rw [evaluate_of_clear h.halt_resized hblock h.delay h.hasInstrument h.hasQuote]
  have hle := le_sized h.fits_resized
  obtain ⟨blocking, shrinking, hquantity⟩ := quantity_eq
    (command.resized decision.authorizedShares h.shares_pos) context instrument quote
  have hpos := h.shares_pos
  rw [hquantity, if_neg (by omega)]
  exact congrArg Except.ok (if_neg (not_lt.mpr hle))

/-! ## More room -/

lemma flag_congr {p q : Prop} [Decidable p] [Decidable q] {reason : ReasonCode} (h : p ↔ q) :
    flag p reason = flag q reason := by
  unfold flag
  simp only [h]

/-- A fact about the quote that is not about its volume. -/
lemma exists_quote_iff {quote quote' : Option QuoteFact} (h : Option.Rel RaisesVolume quote quote')
    {P : QuoteFact → Prop} (hP : ∀ q volume, P { q with volume := volume } ↔ P q) :
    (∃ q ∈ quote', P q) ↔ ∃ q ∈ quote, P q := by
  cases h with
  | none => exact Iff.rfl
  | some hraises =>
    have hrest := hraises.rest
    simp only [Option.mem_some_iff, exists_eq_left']
    rw [hrest]
    exact hP _ _

lemma Relaxes.currentShares_eq (h : Relaxes context context') :
    currentShares context' = currentShares context := by
  have hposition := h.position
  unfold currentShares
  revert hposition
  generalize context.position = position
  generalize context'.position = position'
  intro hposition
  cases hposition with
  | none => rfl
  | some hraises => exact hraises.total

/-- No fact that halts reads what is raised. -/
lemma Relaxes.haltReasons_eq (h : Relaxes context context') :
    haltReasons command context' = haltReasons command context := by
  have hfuture : flag (∃ q ∈ context'.quote,
    context.limits.maxClockDrift < q.receivedAt - context.now)
      .quoteTimeInFuture =
    flag (∃ q ∈ context.quote, context.limits.maxClockDrift < q.receivedAt - context.now)
      .quoteTimeInFuture := flag_congr (exists_quote_iff h.quote fun _ _ => Iff.rfl)
  have hlimits := h.limits.rest
  rw [h.rest]
  simp only [haltReasons]
  rw [hlimits]
  simp only [hfuture]

lemma Relaxes.tradable_iff (h : Relaxes context context') (status : MarketSessionStatus) :
    tradable context' status ↔ tradable context status := by
  rw [h.rest]
  exact Iff.rfl

/-- No fact that delays reads what is raised. -/
lemma Relaxes.delayReasons_eq (h : Relaxes context context') :
    delayReasons context' = delayReasons context := by
  have hstatus : context'.marketStatus = context.marketStatus := by rw [h.rest]
  have hnow : context'.now = context.now := by rw [h.rest]
  have hage : context'.limits.maxQuoteAge = context.limits.maxQuoteAge := by rw [h.limits.rest]
  have hmarket : flag (¬ tradable context' context'.marketStatus ∨
        ∃ q ∈ context'.quote, ¬ tradable context' q.marketStatus) .marketNotTradable =
      flag (¬ tradable context context.marketStatus ∨
        ∃ q ∈ context.quote, ¬ tradable context q.marketStatus) .marketNotTradable := by
    refine flag_congr (or_congr ?_ ?_)
    · rw [h.tradable_iff, hstatus]
    · simp only [h.tradable_iff]
      exact exists_quote_iff h.quote fun _ _ => Iff.rfl
  have hstale : flag (∃ q ∈ context'.quote,
    context'.limits.maxQuoteAge < context'.now - q.receivedAt)
        .quoteStale =
      flag (∃ q ∈ context.quote, context.limits.maxQuoteAge < context.now - q.receivedAt)
        .quoteStale := by
    rw [hnow, hage]
    exact flag_congr (exists_quote_iff h.quote fun _ _ => Iff.rfl)
  have hlimits := h.limits.rest
  unfold delayReasons
  dsimp only
  rw [hmarket, hstale, h.rest]
  dsimp only
  rw [hlimits]

/-- The quotes are missing both, or they differ in the volume only. -/
lemma Relaxes.quote_cases (h : Relaxes context context') :
    (context.quote = none ∧ context'.quote = none) ∨ ∃ q volume, context.quote = some q ∧
      context'.quote = some { q with volume := volume } ∧ q.volume ≤ volume := by
  have hquote := h.quote
  revert hquote
  generalize context.quote = quote
  generalize context'.quote = quote'
  intro hquote
  cases hquote with
  | none => exact .inl ⟨rfl, rfl⟩
  | some hraises => exact .inr ⟨_, _, rfl, congrArg some hraises.rest, hraises.volume⟩

/-- No fact that blocks a BUY reads what is raised. -/
lemma Relaxes.blockReasons_eq (h : Relaxes context context') (hside : command.command.side = .buy) :
    blockReasons command context' = blockReasons command context := by
  have hheld := h.currentShares_eq
  have hlimits := h.limits.rest
  have hposition : flag (∃ position ∈ context'.position, position.symbol ≠ command.command.symbol)
        .positionSymbolMismatch =
      flag (∃ position ∈ context.position, position.symbol ≠ command.command.symbol)
        .positionSymbolMismatch := by
    refine flag_congr ?_
    have hraises := h.position
    revert hraises
    generalize context.position = position
    generalize context'.position = position'
    intro hraises
    cases hraises with
    | none => exact Iff.rfl
    | some hraises => simp [hraises.symbol]
  have hprice : ∀ instrument q volume, priceReasons command.command instrument
      { q with volume := volume } context'.limits =
        priceReasons command.command instrument q context.limits := by
    intro instrument q volume
    rw [hlimits]
    rfl
  have hlifetime : context'.limits.maxOrderLifetime = context.limits.maxOrderLifetime := by
    rw [hlimits]
  have hinstrument : context'.instrument = context.instrument := by rw [h.rest]
  have huniverse : context'.canonicalUniverse = context.canonicalUniverse := by rw [h.rest]
  have hallowlist : context'.deploymentAllowlist = context.deploymentAllowlist := by rw [h.rest]
  have haccount : context'.accountType = context.accountType := by rw [h.rest]
  have hfreeze : context'.freezeNewRisk = context.freezeNewRisk := by rw [h.rest]
  have hage : context'.existingOrderAge = context.existingOrderAge := by rw [h.rest]
  have htarget : context'.uquantTargetShares = context.uquantTargetShares := by rw [h.rest]
  unfold blockReasons
  simp only [hside, hheld, hposition, hlifetime, hinstrument, huniverse, hallowlist, haccount,
    hfreeze, hage, htarget]
  rcases h.quote_cases with ⟨hnone, hnone'⟩ | ⟨q, volume, hsome, hsome', -⟩
  · cases context.instrument with
    | none | some instrument => simp only [hnone, hnone']
  · cases context.instrument with
    | none =>
      simp only [hsome, hsome', Option.mem_some_iff, exists_eq_left', reduceCtorEq]
    | some instrument =>
      simp only [hsome, hsome', hprice, Option.mem_some_iff, exists_eq_left', reduceCtorEq]

/-- What fits a BUY fits it with more room. -/
lemma Relaxes.fits (h : Relaxes context context') (hside : command.command.side = .buy)
    {volume n : ℕ}
    (hvolume : quote.volume ≤ volume)
    (hparticipation : 0 ≤ context.uquantMaxVolumeParticipation)
    (hfits : Fits command context instrument quote n) :
    Fits command context' instrument { quote with volume := volume } n := by
  have hlimits := h.limits
  have htarget : context'.uquantTargetShares = context.uquantTargetShares := by rw [h.rest]
  have hbuy := hfits.buy hside
  refine ⟨hfits.positive, hfits.authorized, fun _ => ⟨?_, ?_, ?_, ?_⟩, fun hsell => ?_, ?_, ?_, ?_,
    ?_, ?_⟩
  · rw [h.currentShares_eq, htarget]
    exact hbuy.target
  · rw [show context'.uquantTargetWeight = context.uquantTargetWeight by rw [h.rest],
      show context'.totalAssets = context.totalAssets by rw [h.rest],
      show context'.actualSymbolNotional = context.actualSymbolNotional by rw [h.rest]]
    exact hbuy.symbol.trans (sub_le_sub_right (min_le_min_left _ hlimits.symbol) _)
  · rw [show context'.uquantTargetGross = context.uquantTargetGross by rw [h.rest],
      show context'.uquantTargetGrossCap = context.uquantTargetGrossCap by rw [h.rest],
      show context'.totalAssets = context.totalAssets by rw [h.rest],
      show context'.actualGrossNotional = context.actualGrossNotional by rw [h.rest]]
    exact hbuy.gross.trans (sub_le_sub_right (min_le_min_left _ hlimits.gross) _)
  · exact hbuy.cash.trans h.cash
  · rw [hside] at hsell
    cases hsell
  · exact hfits.order.trans hlimits.order
  · rw [show context'.dailySubmittedNotional = context.dailySubmittedNotional by rw [h.rest]]
    exact hfits.submitted.trans (sub_le_sub_right hlimits.submitted _)
  · rw [show context'.dailyFilledNotional = context.dailyFilledNotional by rw [h.rest]]
    exact hfits.filled.trans (sub_le_sub_right hlimits.filled _)
  · rw [show context'.uquantMaxVolumeParticipation = context.uquantMaxVolumeParticipation by
      rw [h.rest]]
    refine hfits.volume.trans (Int.floor_le_floor ?_)
    exact mul_le_mul_of_nonneg_right (Nat.cast_le.mpr hvolume) hparticipation
  · refine hfits.lot.imp_right fun hfull => ?_
    have hsell := hfull.1
    rw [hside] at hsell
    cases hsell

/-- More room authorizes at least as many shares of a BUY. -/
lemma Relaxes.shares_le (h : Relaxes context context') (hside : command.command.side = .buy)
    (hparticipation : 0 ≤ context.uquantMaxVolumeParticipation)
    (hbefore : evaluate command context = .ok decision)
    (hafter : evaluate command context' = .ok decision') :
    decision.authorizedShares ≤ decision'.authorizedShares := by
  rcases authorizes_or_zero hbefore with hrefuses | ⟨instrument, quote, hauthorizes⟩
  · rw [hrefuses.2]
    exact Nat.zero_le _
  obtain ⟨volume, hquote, hvolume⟩ : ∃ volume, context'.quote =
    some { quote with volume := volume } ∧
      quote.volume ≤ volume := by
    rcases h.quote_cases with ⟨hnone, -⟩ | ⟨q, volume, hsome, hsome', hvolume⟩
    · rw [hauthorizes.hasQuote] at hnone
      cases hnone
    · rw [hauthorizes.hasQuote] at hsome
      cases hsome
      exact ⟨volume, hsome', hvolume⟩
  have hinstrument : context'.instrument = some instrument := by
    rw [h.rest]
    exact hauthorizes.hasInstrument
  have hclear := evaluate_of_clear (h.haltReasons_eq.trans hauthorizes.halt)
    ((h.blockReasons_eq hside).trans hauthorizes.block) (h.delayReasons_eq.trans hauthorizes.delay)
    hinstrument hquote
  rw [hclear] at hafter
  cases hafter
  have hle := le_sized (h.fits hside hvolume hparticipation hauthorizes.fits)
  have hpos := hauthorizes.shares_pos
  rw [quantity_of_pos _ _ _ _ (by omega)]
  omega

/-- The gate decides on every command.  What it authorizes it allows when it is asked for it, and
more room in the notional limits, the cash, the quoted volume or the sellable shares never lowers
what it authorizes of a BUY. -/
theorem answer_stable_monotone (command : RiskCommand) (context : ExecutionRiskContext)
    (hparticipation : 0 ≤ context.uquantMaxVolumeParticipation) :
    ∃ decision, evaluate command context = .ok decision ∧
      (decision.action ∈ [GateAction.allow, .shrink] → ∃ hpos : 0 < decision.authorizedShares,
        evaluate (command.resized decision.authorizedShares hpos) context =
          .ok ⟨.allow, decision.authorizedShares, [.allChecksPassed]⟩) ∧
      (command.command.side = .buy → ∀ context', Relaxes context context' →
        ∃ decision', evaluate command context' = .ok decision' ∧
          decision.authorizedShares ≤ decision'.authorizedShares) := by
  obtain ⟨decision, hevaluate, -⟩ := evaluate_decides command context
  refine ⟨decision, hevaluate, fun haction => ?_, fun hside context' hrelaxes => ?_⟩
  · rcases authorizes_or_zero hevaluate with hrefuses | ⟨instrument, quote, hauthorizes⟩
    · obtain ⟨hrefused, -⟩ := hrefuses
      simp only [List.mem_cons, List.not_mem_nil, or_false] at hrefused haction
      rcases hrefused with h | h | h <;> simp [h] at haction
    · exact ⟨hauthorizes.shares_pos, hauthorizes.evaluate_resized⟩
  · obtain ⟨decision', hafter, -⟩ := evaluate_decides command context'
    exact ⟨decision', hafter, hrelaxes.shares_le hside hparticipation hevaluate hafter⟩

end Answers

namespace GateSample

def symbol : Symbol := ⟨.sh, "600001"⟩

def price : Price := ⟨10, ten_pos⟩

/-- A BUY of 300 shares. -/
def command : RiskCommand where
  command :=
    { executionId := ⟨⟨"decision", "order", symbol, .buy, 300, 0, "uquant"⟩⟩
      idempotencyKey := ⟨⟨"decision", "order", symbol, .buy, 300, 0, "uquant"⟩⟩
      clientOrderId := "order"
      symbol := symbol
      side := .buy
      priceType := .limit
      requestedShares := 300
      limitPrice := price
      strategySession := 0
      requested_pos := Nat.succ_pos _ }
  uquantAuthorizedShares := 300
  estimatedFees := ⟨5, five_nonneg⟩

def limits : RiskLimits where
  maxOrderNotional := ⟨10000, by norm_num⟩
  maxDailySubmittedNotional := ⟨10000, by norm_num⟩
  maxDailyFilledNotional := ⟨10000, by norm_num⟩
  maxSymbolNotional := ⟨10000, by norm_num⟩
  maxTotalGrossNotional := ⟨10000, by norm_num⟩
  maxOpenOrders := 1
  maxConsecutiveRejections := 1
  maxDisconnectDuration := 1
  maxOrderLifetime := 1
  maxSubmitCountWindow := 1
  maxCancelCountWindow := 1
  maxQuoteAge := 1
  maxClockDrift := 1
  maxPriceDeviationBps := 100
  maxEquityChangeFraction := 1
  maxIntradayLossFraction := 1
  maxCapitalDrawdownFraction := 1

def instrument : InstrumentFact where
  symbol := symbol
  securityType := .equity
  status := .trading
  tradingUnit := 100
  priceTick := ⟨1 / 100, cent_pos⟩
  pricePrecision := 2
  lowerLimit := some ⟨9, nine_pos⟩
  upperLimit := some ⟨11, eleven_pos⟩
  sessionDate := 1
  observedAt := 0
  unit_pos := hundred_pos

def quote : QuoteFact where
  symbol := symbol
  lastPrice := some price
  previousClose := some price
  bidPrice := some price
  askPrice := some price
  volume := 100000
  turnover := Money.zero
  lowerLimit := some ⟨9, nine_pos⟩
  upperLimit := some ⟨11, eleven_pos⟩
  marketStatus := .open
  sequence := 1
  sessionDate := 1
  eventTime := 0
  receivedAt := 0

/-- Nothing refuses, and the cash is enough for 250 shares. -/
def context : ExecutionRiskContext where
  mode := .live
  runtimeState := .executing
  now := 0
  accountType := .cash
  availableCash := ⟨2505, by norm_num⟩
  totalAssets := ⟨10000, by norm_num⟩
  position := none
  instrument := some instrument
  quote := some quote
  marketStatus := .open
  canonicalUniverse := [symbol]
  deploymentAllowlist := [symbol]
  uquantTargetShares := 300
  uquantTargetWeight := 1
  uquantTargetGross := 1
  uquantTargetGrossCap := 1
  freezeNewRisk := false
  actualSymbolNotional := Money.zero
  actualGrossNotional := Money.zero
  dailySubmittedNotional := Money.zero
  dailyFilledNotional := Money.zero
  openOrderCount := 0
  consecutiveRejections := 0
  brokerConnected := true
  disconnectDuration := none
  existingOrderAge := none
  submitCountWindow := 0
  cancelCountWindow := 0
  uquantMaxVolumeParticipation := 1
  equityChangeFraction := 0
  intradayLossFraction := 0
  capitalDrawdownFraction := 0
  reconciliationHealthy := true
  externalActiveOrderCount := 0
  unexplainedPositionChange := some false
  corporateActionSuspected := some false
  clockDrift := some 0
  dataIdentityMatches := true
  configIdentityMatches := true
  unresolvedOrderCount := 0
  killSwitchTripped := false
  auctionAllowed := false
  limits := limits

/-- The BUY is shrunk to 200 shares; 200 shares are allowed. -/
theorem shrunk_buy_allowed :
    evaluate command context = .ok ⟨.shrink, 200, [.availableCashShrink, .tradingUnitShrink]⟩ ∧
      evaluate (command.resized 200 (by norm_num)) context =
        .ok ⟨.allow, 200, [.allChecksPassed]⟩ := by
  have hshrunk : evaluate command context =
      .ok ⟨.shrink, 200, [.availableCashShrink, .tradingUnitShrink]⟩ := by
    decide +kernel
  obtain ⟨decision, hevaluate, hstable, -⟩ :=
    answer_stable_monotone command context (by decide +kernel)
  rw [hshrunk] at hevaluate
  cases hevaluate
  obtain ⟨hpos, hallowed⟩ := hstable (by decide)
  exact ⟨hshrunk, hallowed⟩

end GateSample

end ExecutionRiskGate

end FirmQuant
