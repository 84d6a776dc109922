import Mathlib.Algebra.BigOperators.Group.List.Basic
import Mathlib.Tactic.Linarith
import FirmQuant.Application.PromotionStore
import FirmQuant.Foundation.StableSort

/-!
# Aggregating observations

`_tracking_errors` and `aggregate_observations` of `application/execution_evidence.py`, with exact
sums and quotients, and what holds of evidence that is stored, read again and aggregated
(`evidence_faithful`).
-/

namespace FirmQuant

open Effect

namespace Evidence

/-! ## Tracking errors -/

/-- The errors of the targets, and their sum and that of the notionals that weight it. -/
structure TrackingErrors where
  errors : List ℚ
  weightedError : ℚ
  weightNotional : ℚ

namespace TrackingErrors

def empty : TrackingErrors := ⟨[], 0, 0⟩

/-- One more error. -/
def add (tracking : TrackingErrors) (error notional : ℚ) : TrackingErrors where
  errors := tracking.errors ++ [error]
  weightedError := tracking.weightedError + error * notional
  weightNotional := tracking.weightNotional + notional

/-- The errors of one more session. -/
def append (tracking session : TrackingErrors) : TrackingErrors where
  errors := tracking.errors ++ session.errors
  weightedError := tracking.weightedError + session.weightedError
  weightNotional := tracking.weightNotional + session.weightNotional

/-- `max(errors, default=0)`. -/
def maximum (tracking : TrackingErrors) : ℚ := tracking.errors.max?.getD 0

/-- The mean of the errors. -/
def mean (tracking : TrackingErrors) : ℚ :=
  if tracking.errors = [] then 0 else tracking.errors.sum / tracking.errors.length

/-- The mean of the errors, weighted by their notionals. -/
def notionalWeighted (tracking : TrackingErrors) : ℚ :=
  if tracking.weightNotional = 0 then 0 else tracking.weightedError / tracking.weightNotional

/-- The errors and the weights are not negative, and a bound of the errors bounds their weighted
sum. -/
structure Weighted (tracking : TrackingErrors) : Prop where
  errors_nonneg : ∀ e ∈ tracking.errors, 0 ≤ e
  notional_nonneg : 0 ≤ tracking.weightNotional
  bounded : ∀ m, (∀ e ∈ tracking.errors, e ≤ m) →
    tracking.weightedError ≤ m * tracking.weightNotional

variable {tracking session : TrackingErrors} {error notional : ℚ}

lemma weighted_empty : empty.Weighted where
  errors_nonneg := fun _ he => absurd he List.not_mem_nil
  notional_nonneg := le_refl 0
  bounded := fun m _ => (mul_zero m).ge

lemma Weighted.add (h : tracking.Weighted) (herror : 0 ≤ error) (hnotional : 0 ≤ notional) :
    (tracking.add error notional).Weighted where
  errors_nonneg := by
    intro e he
    rcases List.mem_snoc.mp he with hold | hnew
    · exact h.errors_nonneg e hold
    · rwa [hnew]
  notional_nonneg := add_nonneg h.notional_nonneg hnotional
  bounded := by
    intro m hm
    have hold := h.bounded m fun e he => hm e (List.mem_append_left _ he)
    have hnew : error ≤ m := hm error (List.mem_append_right _ List.mem_cons_self)
    have hterm : error * notional ≤ m * notional := mul_le_mul_of_nonneg_right hnew hnotional
    calc tracking.weightedError + error * notional
        ≤ m * tracking.weightNotional + m * notional := add_le_add hold hterm
      _ = m * (tracking.weightNotional + notional) := (mul_add _ _ _).symm

lemma Weighted.append (h : tracking.Weighted) (hs : session.Weighted) :
    (tracking.append session).Weighted where
  errors_nonneg := by
    intro e he
    rcases List.mem_append.mp he with hold | hnew
    · exact h.errors_nonneg e hold
    · exact hs.errors_nonneg e hnew
  notional_nonneg := add_nonneg h.notional_nonneg hs.notional_nonneg
  bounded := by
    intro m hm
    have hold := h.bounded m fun e he => hm e (List.mem_append_left _ he)
    have hnew := hs.bounded m fun e he => hm e (List.mem_append_right _ he)
    calc tracking.weightedError + session.weightedError
        ≤ m * tracking.weightNotional + m * session.weightNotional := add_le_add hold hnew
      _ = m * (tracking.weightNotional + session.weightNotional) := (mul_add _ _ _).symm

lemma le_maximum {e : ℚ} (he : e ∈ tracking.errors) : e ≤ tracking.maximum := by
  unfold maximum
  cases hmax : tracking.errors.max? with
  | none =>
    rw [List.max?_eq_none_iff.mp hmax] at he
    cases he
  | some m => exact (List.max?_eq_some_iff.mp hmax).2 e he

lemma Weighted.maximum_nonneg (h : tracking.Weighted) : 0 ≤ tracking.maximum := by
  unfold maximum
  cases hmax : tracking.errors.max? with
  | none => exact le_refl 0
  | some m => exact h.errors_nonneg m (List.max?_eq_some_iff.mp hmax).1

lemma mean_le_maximum (tracking : TrackingErrors) : tracking.mean ≤ tracking.maximum := by
  unfold mean
  split
  next hnil =>
    unfold maximum
    rw [hnil]
    exact le_refl 0
  next hne =>
    have hlength : (0 : ℚ) < tracking.errors.length := by
      exact_mod_cast List.length_pos_of_ne_nil hne
    have hsum : tracking.errors.sum ≤ tracking.errors.length • tracking.maximum :=
      List.sum_le_card_nsmul _ _ fun e he => le_maximum he
    rw [div_le_iff₀ hlength, mul_comm]
    rwa [nsmul_eq_mul] at hsum

/-- A weighted mean is at most the maximum, also where all weights are zero. -/
lemma Weighted.notionalWeighted_le_maximum (h : tracking.Weighted) :
    tracking.notionalWeighted ≤ tracking.maximum := by
  unfold notionalWeighted
  split
  next => exact h.maximum_nonneg
  next hne =>
    have hpos : 0 < tracking.weightNotional := lt_of_le_of_ne h.notional_nonneg (Ne.symm hne)
    rw [div_le_iff₀ hpos]
    exact h.bounded _ fun e he => le_maximum he

end TrackingErrors

section Aggregating

variable {δ τ ω : Type} [Valued δ]

/-- The shares of a symbol in which the session ended. -/
def endingShares (content : ObservationContent δ τ) (symbol : String) : ℕ :=
  ((content.endingPositions.reverse.find? (·.val.symbol = symbol)).map (·.val.shares)).getD 0

/-- One round of `_tracking_errors`. -/
def trackTarget (content : ObservationContent δ τ) (tracking : TrackingErrors)
    (target : TargetObservation δ) : TrackingErrors :=
  let reference := Valued.value target.val.referencePrice
  let actualNotional := endingShares content target.val.symbol * reference
  let actualWeight := actualNotional / Valued.value content.portfolioEquity
  let targetNotional := target.val.targetShares * reference
  tracking.add |Valued.value target.val.targetWeight - actualWeight|
    (max targetNotional actualNotional)

/-- `_tracking_errors`. -/
def trackingErrors (content : ObservationContent δ τ) : TrackingErrors :=
  content.targets.foldl (trackTarget content) .empty

/-- `0 < filled_shares < planned_shares`. -/
def OrderFields.partiallyFilled (order : OrderFields δ) : Bool :=
  0 < order.filledShares && order.filledShares < order.plannedShares

/-- What the loop over the sessions adds up. -/
structure AggregateTally where
  tracking : TrackingErrors
  unfilledNotional : ℚ
  commissions : ℚ
  stampDuty : ℚ
  transferFees : ℚ
  slippageCost : ℚ
  partialFillCount : ℕ
  blockerCounts : BlockerCode → ℕ

namespace AggregateTally

def empty : AggregateTally := ⟨.empty, 0, 0, 0, 0, 0, 0, fun _ => 0⟩

/-- One more order. -/
def addOrder (tally : AggregateTally) (order : OrderObservation δ) : AggregateTally :=
  { tally with
    unfilledNotional := tally.unfilledNotional +
      order.val.unfilledShares * Valued.value order.val.referencePrice
    partialFillCount := tally.partialFillCount + if order.val.partiallyFilled then 1 else 0
    blockerCounts := fun code =>
      tally.blockerCounts code + if order.val.blocker = some code then 1 else 0 }

/-- One more fill. -/
def addFill (tally : AggregateTally) (fill : FillObservation δ) : AggregateTally :=
  { tally with
    commissions := tally.commissions + Valued.value fill.val.commission
    stampDuty := tally.stampDuty + Valued.value fill.val.stampDuty
    transferFees := tally.transferFees + Valued.value fill.val.transferFee
    slippageCost := tally.slippageCost + Valued.value fill.val.slippage }

/-- One more session. -/
def addSession (tally : AggregateTally) (observation : ExecutionObservation δ τ ω) :
    AggregateTally :=
  let tracked :=
    { tally with
      tracking := tally.tracking.append (trackingErrors observation.val.toObservationContent) }
  observation.val.fills.foldl addFill (observation.val.plannedOrders.foldl addOrder tracked)

end AggregateTally

/-- An `ExecutionEvidenceAggregate`. -/
@[ext] structure ExecutionEvidenceAggregate (τ : Type) where
  stage : EvidenceStage
  observedSessions : ℕ
  orderCount : ℕ
  fillCount : ℕ
  submitCount : ℕ
  cancelCount : ℕ
  rejectionCount : ℕ
  unresolvedCount : ℕ
  externalActivity : ℕ
  duplicateEconomicOrders : ℕ
  duplicateFills : ℕ
  dataQualityFailures : ℕ
  maxTrackingError : ℚ
  meanTrackingError : ℚ
  notionalWeightedTrackingError : ℚ
  unfilledNotional : ℚ
  commissions : ℚ
  stampDuty : ℚ
  transferFees : ℚ
  slippageCost : ℚ
  partialFillCount : ℕ
  blockerCounts : BlockerCode → ℕ
  latestSession : τ
  latestDataSha256 : String
  latestCalendarSha256 : String

/-- What a later observation of an aggregate must share with the first one. -/
def aggregationViolation (first observation : ExecutionObservation δ τ ω) : Option String :=
  let identity := observation.val.identity.val
  let expected := first.val.identity.val
  if identity.stage ≠ expected.stage then
    some "SHADOW and CANARY evidence must aggregate independently"
  else if identity.firmquantCommit ≠ expected.firmquantCommit ∨
      identity.uquantCommit ≠ expected.uquantCommit ∨
        identity.promotionConfigSha256 ≠ expected.promotionConfigSha256 ∨
          identity.accountSha256 ≠ expected.accountSha256 then
    some "execution evidence deployment identity changed inside aggregate"
  else none

/-- The session of an observation. -/
def sessionOf (observation : ExecutionObservation δ τ ω) : τ :=
  observation.val.identity.val.executionSession

/-- The sum of a count over the sessions. -/
def total (count : ObservationContent δ τ → ℕ) (observations : List (ExecutionObservation δ τ ω)) :
    ℕ :=
  (observations.map fun observation => count observation.val.toObservationContent).sum

/-- The aggregate of observations in the order of their sessions, of which this is the latest. -/
def summarize (stage : EvidenceStage) (latest : ExecutionObservation δ τ ω)
    (ordered : List (ExecutionObservation δ τ ω)) : ExecutionEvidenceAggregate τ :=
  let tally := ordered.foldl AggregateTally.addSession .empty
  { stage := stage
    observedSessions := ordered.length
    orderCount := total (·.plannedOrders.length) ordered
    fillCount := total (·.fills.length) ordered
    submitCount := total (·.submitCount) ordered
    cancelCount := total (·.cancelCount) ordered
    rejectionCount := total (·.rejectionCount) ordered
    unresolvedCount := total (·.unknownCount) ordered
    externalActivity := total (·.externalActivity) ordered
    duplicateEconomicOrders := total (·.duplicateEconomicOrders) ordered
    duplicateFills := total (·.duplicateFills) ordered
    dataQualityFailures := total (·.dataQualityFailures) ordered
    maxTrackingError := tally.tracking.maximum
    meanTrackingError := tally.tracking.mean
    notionalWeightedTrackingError := tally.tracking.notionalWeighted
    unfilledNotional := tally.unfilledNotional
    commissions := tally.commissions
    stampDuty := tally.stampDuty
    transferFees := tally.transferFees
    slippageCost := tally.slippageCost
    partialFillCount := tally.partialFillCount
    blockerCounts := tally.blockerCounts
    latestSession := sessionOf latest
    latestDataSha256 := latest.val.identity.val.dataSha256
    latestCalendarSha256 := latest.val.identity.val.calendarSha256 }

variable [LinearOrder τ]

/-- The order of sessions. -/
def SessionLE (a b : ExecutionObservation δ τ ω) : Prop := sessionOf a ≤ sessionOf b

instance : DecidableRel (SessionLE (δ := δ) (τ := τ) (ω := ω)) := fun a b =>
  inferInstanceAs (Decidable (sessionOf a ≤ sessionOf b))

/-- `aggregate_observations`. -/
def aggregateObservations :
    List (ExecutionObservation δ τ ω) → Except String (ExecutionEvidenceAggregate τ)
  | [] => .error "execution evidence aggregation requires observations"
  | first :: rest =>
    match rest.findSome? (aggregationViolation first) with
    | some message => .error message
    | none => do
      refuse (¬ ((first :: rest).map sessionOf).Nodup)
        "execution evidence contains duplicate sessions"
      let ordered := (first :: rest).insertionSort SessionLE
      return summarize first.val.identity.val.stage (ordered.getLastD first) ordered

/-! ## One pass over the sessions -/

omit [LinearOrder τ] in
lemma referencePrice_pos (target : TargetObservation δ) :
    0 < Valued.value target.val.referencePrice := by
  have hchecks := firstViolation_eq_none.mp target.property
  have hprice := hchecks (positiveViolation "target reference price" target.val.referencePrice)
    (by simp)
  unfold positiveViolation at hprice
  by_contra hle
  rw [if_pos (not_lt.mp hle)] at hprice
  cases hprice

omit [LinearOrder τ] in
lemma weighted_trackTarget {content : ObservationContent δ τ} {tracking : TrackingErrors}
    (h : tracking.Weighted) (target : TargetObservation δ) :
    (trackTarget content tracking target).Weighted := by
  have hprice := (referencePrice_pos target).le
  have htarget : (0 : ℚ) ≤ target.val.targetShares * Valued.value target.val.referencePrice :=
    mul_nonneg (Nat.cast_nonneg _) hprice
  exact h.add (abs_nonneg _) (le_max_of_le_left htarget)

omit [LinearOrder τ] in
lemma weighted_trackingErrors (content : ObservationContent δ τ) :
    (trackingErrors content).Weighted := by
  have hall : ∀ (targets : List (TargetObservation δ)) (tracking : TrackingErrors),
      tracking.Weighted → (targets.foldl (trackTarget content) tracking).Weighted := by
    intro targets
    induction targets with
    | nil => exact fun _ h => h
    | cons target targets ih => exact fun _ h => ih _ (weighted_trackTarget h target)
  exact hall content.targets .empty TrackingErrors.weighted_empty

namespace AggregateTally

/-- What the orders of a session add. -/
lemma foldl_addOrder (orders : List (OrderObservation δ)) (tally : AggregateTally) :
    (orders.foldl addOrder tally).tracking = tally.tracking ∧
      (orders.foldl addOrder tally).partialFillCount =
        tally.partialFillCount + orders.countP (·.val.partiallyFilled) ∧
      ∀ code, (orders.foldl addOrder tally).blockerCounts code =
        tally.blockerCounts code + orders.countP (·.val.blocker = some code) := by
  induction orders generalizing tally with
  | nil => exact ⟨rfl, rfl, fun _ => rfl⟩
  | cons order orders ih =>
    obtain ⟨htracking, hpartial, hblockers⟩ := ih (tally.addOrder order)
    refine ⟨htracking, ?_, fun code => ?_⟩
    · rw [List.foldl_cons, hpartial, List.countP_cons]
      unfold addOrder
      simp only
      omega
    · rw [List.foldl_cons, hblockers code, List.countP_cons]
      unfold addOrder
      simp only [decide_eq_true_eq]
      omega

/-- The fills of a session add costs only. -/
lemma foldl_addFill (fills : List (FillObservation δ)) (tally : AggregateTally) :
    (fills.foldl addFill tally).tracking = tally.tracking ∧
      (fills.foldl addFill tally).partialFillCount = tally.partialFillCount ∧
        (fills.foldl addFill tally).blockerCounts = tally.blockerCounts := by
  induction fills generalizing tally with
  | nil => exact ⟨rfl, rfl, rfl⟩
  | cons fill fills ih => exact ih (tally.addFill fill)

omit [LinearOrder τ] in
/-- One session adds its errors and its counts. -/
lemma addSession_spec (tally : AggregateTally) (observation : ExecutionObservation δ τ ω) :
    (tally.addSession observation).tracking =
        tally.tracking.append (trackingErrors observation.val.toObservationContent) ∧
      (tally.addSession observation).partialFillCount = tally.partialFillCount +
        observation.val.plannedOrders.countP (·.val.partiallyFilled) ∧
      ∀ code, (tally.addSession observation).blockerCounts code = tally.blockerCounts code +
        observation.val.plannedOrders.countP (·.val.blocker = some code) := by
  unfold addSession
  simp only
  obtain ⟨htracking, hpartial, hblockers⟩ := foldl_addFill observation.val.fills
    (observation.val.plannedOrders.foldl addOrder { tally with
      tracking := tally.tracking.append (trackingErrors observation.val.toObservationContent) })
  rw [htracking, hpartial, hblockers]
  exact foldl_addOrder observation.val.plannedOrders _

omit [LinearOrder τ] in
lemma foldl_addSession (observations : List (ExecutionObservation δ τ ω))
    {tally : AggregateTally} (h : tally.tracking.Weighted) :
    (observations.foldl addSession tally).tracking.Weighted ∧
      (observations.foldl addSession tally).partialFillCount = tally.partialFillCount +
        total (fun content => content.plannedOrders.countP (·.val.partiallyFilled)) observations ∧
      ∀ code, (observations.foldl addSession tally).blockerCounts code = tally.blockerCounts code +
        total (fun content => content.plannedOrders.countP (·.val.blocker = some code))
          observations := by
  induction observations generalizing tally with
  | nil => exact ⟨h, rfl, fun _ => rfl⟩
  | cons observation observations ih =>
    obtain ⟨htracking, hpartial, hblockers⟩ := tally.addSession_spec observation
    have hweighted : (tally.addSession observation).tracking.Weighted := by
      rw [htracking]
      exact h.append (weighted_trackingErrors _)
    obtain ⟨hrest, hpartials, hcodes⟩ := ih hweighted
    refine ⟨hrest, ?_, fun code => ?_⟩
    · rw [List.foldl_cons, hpartials, hpartial]
      unfold total
      rw [List.map_cons, List.sum_cons, Nat.add_assoc]
    · rw [List.foldl_cons, hcodes code, hblockers code]
      unfold total
      rw [List.map_cons, List.sum_cons, Nat.add_assoc]

end AggregateTally

/-! ## The aggregate -/

/-- The counts of an aggregate are sums over the sessions. -/
structure ExecutionEvidenceAggregate.SumsOver (aggregate : ExecutionEvidenceAggregate τ)
    (observations : List (ExecutionObservation δ τ ω)) : Prop where
  observedSessions : aggregate.observedSessions = observations.length
  orderCount : aggregate.orderCount = total (·.plannedOrders.length) observations
  fillCount : aggregate.fillCount = total (·.fills.length) observations
  submitCount : aggregate.submitCount = total (·.submitCount) observations
  cancelCount : aggregate.cancelCount = total (·.cancelCount) observations
  rejectionCount : aggregate.rejectionCount = total (·.rejectionCount) observations
  unresolvedCount : aggregate.unresolvedCount = total (·.unknownCount) observations
  externalActivity : aggregate.externalActivity = total (·.externalActivity) observations
  duplicateEconomicOrders :
    aggregate.duplicateEconomicOrders = total (·.duplicateEconomicOrders) observations
  duplicateFills : aggregate.duplicateFills = total (·.duplicateFills) observations
  dataQualityFailures : aggregate.dataQualityFailures = total (·.dataQualityFailures) observations
  partialFillCount : aggregate.partialFillCount =
    total (fun content => content.plannedOrders.countP (·.val.partiallyFilled)) observations
  blockerCounts : ∀ code, aggregate.blockerCounts code =
    total (fun content => content.plannedOrders.countP (·.val.blocker = some code)) observations

section

variable {observations permuted ordered : List (ExecutionObservation δ τ ω)}
  {aggregate : ExecutionEvidenceAggregate τ}

omit [LinearOrder τ] in
lemma total_perm {count : ObservationContent δ τ → ℕ} (h : ordered.Perm observations) :
    total count ordered = total count observations :=
  (h.map _).sum_eq

/-- What makes observations an aggregate. -/
lemma aggregateObservations_eq_ok : aggregateObservations observations = .ok aggregate ↔
    ∃ first rest, observations = first :: rest ∧
      (∀ observation ∈ rest, aggregationViolation first observation = none) ∧
        (observations.map sessionOf).Nodup ∧
          aggregate = summarize first.val.identity.val.stage
            ((observations.insertionSort SessionLE).getLastD first)
              (observations.insertionSort SessionLE) := by
  cases observations with
  | nil => simp [aggregateObservations]
  | cons first rest =>
    cases hviolation : rest.findSome? (aggregationViolation first) with
    | some message =>
      simp only [aggregateObservations, hviolation]
      obtain ⟨observation, hmem, hfound⟩ := List.exists_of_findSome?_eq_some hviolation
      refine iff_of_false (fun h => by cases h) ?_
      rintro ⟨_, _, hcons, hall, -⟩
      obtain ⟨rfl, rfl⟩ := List.cons.inj hcons
      rw [hall observation hmem] at hfound
      cases hfound
    | none =>
      have hall := List.findSome?_eq_none_iff.mp hviolation
      simp only [aggregateObservations, hviolation]
      constructor
      · intro h
        obtain ⟨⟨⟩, hsessions, h⟩ := bind_ok_iff.mp h
        cases h
        exact ⟨first, rest, rfl, hall, not_not.mp (refuse_eq_ok.mp hsessions), rfl⟩
      · rintro ⟨_, _, hcons, -, hsessions, rfl⟩
        obtain ⟨rfl, rfl⟩ := List.cons.inj hcons
        exact bind_ok_iff.mpr ⟨⟨⟩, refuse_eq_ok.mpr (not_not.mpr hsessions), rfl⟩

omit [LinearOrder τ] in
/-- Two observations can stand in one aggregate. -/
lemma aggregationViolation_eq_none {a b : ExecutionObservation δ τ ω} :
    aggregationViolation a b = none ↔ b.val.identity.val.stage = a.val.identity.val.stage ∧
      b.val.identity.val.firmquantCommit = a.val.identity.val.firmquantCommit ∧
        b.val.identity.val.uquantCommit = a.val.identity.val.uquantCommit ∧
          b.val.identity.val.promotionConfigSha256 = a.val.identity.val.promotionConfigSha256 ∧
            b.val.identity.val.accountSha256 = a.val.identity.val.accountSha256 := by
  unfold aggregationViolation
  simp only
  by_cases hstage : b.val.identity.val.stage = a.val.identity.val.stage
  · rw [if_neg (not_not.mpr hstage)]
    split
    next hchanged =>
      refine iff_of_false (fun h => by cases h) ?_
      rintro ⟨-, hfirmquant, huquant, hconfig, haccount⟩
      rcases hchanged with h | h | h | h
      · exact h hfirmquant
      · exact h huquant
      · exact h hconfig
      · exact h haccount
    next hsame =>
      simp only [not_or, not_not] at hsame
      exact iff_of_true rfl ⟨hstage, hsame⟩
  · rw [if_pos hstage]
    exact iff_of_false (fun h => by cases h) fun h => hstage h.1

/-- Sessions of different days have one order. -/
lemma insertionSort_session_perm (hsessions : (observations.map sessionOf).Nodup)
    (hperm : permuted.Perm observations) :
    permuted.insertionSort SessionLE = observations.insertionSort SessionLE := by
  have : Std.Total (SessionLE (δ := δ) (τ := τ) (ω := ω)) :=
    ⟨fun a b => le_total (sessionOf a) (sessionOf b)⟩
  have : IsTrans _ (SessionLE (δ := δ) (τ := τ) (ω := ω)) :=
    ⟨fun _ _ _ hab hbc => le_trans (α := τ) hab hbc⟩
  refine List.insertionSort_eq_iff.mpr fun a => ?_
  refine (List.filter_eq_of_perm hsessions hperm.symm fun b c hb hc => ?_).symm
  have hab := of_decide_eq_true hb
  have hac := of_decide_eq_true hc
  exact (le_antisymm (α := τ) hab.2 hab.1).trans (le_antisymm (α := τ) hac.1 hac.2)

variable (h : aggregateObservations observations = .ok aggregate)

include h

/-- The observations of an aggregate have the same aggregate in every order. -/
lemma aggregateObservations_perm (hperm : permuted.Perm observations) :
    aggregateObservations permuted = .ok aggregate := by
  obtain ⟨first, rest, rfl, hall, hsessions, rfl⟩ := aggregateObservations_eq_ok.mp h
  have hagree : ∀ observation ∈ first :: rest, aggregationViolation first observation = none := by
    intro observation hmem
    rcases List.mem_cons.mp hmem with rfl | hmem
    · exact aggregationViolation_eq_none.mpr ⟨rfl, rfl, rfl, rfl, rfl⟩
    · exact hall observation hmem
  cases permuted with
  | nil => exact absurd hperm.length_eq (by simp)
  | cons other others =>
    have hother := aggregationViolation_eq_none.mp
      (hagree other (hperm.mem_iff.mp List.mem_cons_self))
    have hsorted := insertionSort_session_perm hsessions hperm
    refine aggregateObservations_eq_ok.mpr ⟨other, others, rfl, fun observation hmem => ?_, ?_, ?_⟩
    · have hobservation := aggregationViolation_eq_none.mp
        (hagree observation (hperm.mem_iff.mp (List.mem_cons_of_mem _ hmem)))
      obtain ⟨hstage, hfirmquant, huquant, hconfig, haccount⟩ := hobservation
      obtain ⟨hstage', hfirmquant', huquant', hconfig', haccount'⟩ := hother
      exact aggregationViolation_eq_none.mpr ⟨hstage.trans hstage'.symm,
        hfirmquant.trans hfirmquant'.symm, huquant.trans huquant'.symm,
        hconfig.trans hconfig'.symm, haccount.trans haccount'.symm⟩
    · exact (hperm.map sessionOf).nodup_iff.mpr hsessions
    · rw [hsorted, hother.1]
      have hne : (first :: rest).insertionSort SessionLE ≠ [] := by
        intro hnil
        have hlength := (List.perm_insertionSort SessionLE (first :: rest)).length_eq
        rw [hnil] at hlength
        cases hlength
      rw [List.getLastD_eq_getLast?, List.getLastD_eq_getLast?, List.getLast?_eq_some_getLast hne]
      rfl

/-- The counts of an aggregate are sums over its sessions. -/
lemma sumsOver_of_aggregateObservations :
    aggregate.SumsOver observations := by
  obtain ⟨first, rest, -, -, -, rfl⟩ := aggregateObservations_eq_ok.mp h
  have hperm := List.perm_insertionSort SessionLE observations
  obtain ⟨-, hpartial, hblockers⟩ := @AggregateTally.foldl_addSession δ τ ω _
    (observations.insertionSort SessionLE) .empty TrackingErrors.weighted_empty
  have htotal : ∀ count : ObservationContent δ τ → ℕ,
      total count (observations.insertionSort SessionLE) = total count observations :=
    fun _ => total_perm hperm
  exact {
    observedSessions := hperm.length_eq
    orderCount := htotal (·.plannedOrders.length)
    fillCount := htotal (·.fills.length)
    submitCount := htotal (·.submitCount)
    cancelCount := htotal (·.cancelCount)
    rejectionCount := htotal (·.rejectionCount)
    unresolvedCount := htotal (·.unknownCount)
    externalActivity := htotal (·.externalActivity)
    duplicateEconomicOrders := htotal (·.duplicateEconomicOrders)
    duplicateFills := htotal (·.duplicateFills)
    dataQualityFailures := htotal (·.dataQualityFailures)
    partialFillCount := hpartial.trans ((Nat.zero_add _).trans (htotal _))
    blockerCounts := fun code => (hblockers code).trans ((Nat.zero_add _).trans (htotal _)) }

/-- The means of an aggregate are at most its maximum. -/
lemma means_of_aggregateObservations :
    aggregate.meanTrackingError ≤ aggregate.maxTrackingError ∧
      aggregate.notionalWeightedTrackingError ≤ aggregate.maxTrackingError := by
  obtain ⟨first, rest, -, -, -, rfl⟩ := aggregateObservations_eq_ok.mp h
  obtain ⟨hweighted, -⟩ := @AggregateTally.foldl_addSession δ τ ω _
    (observations.insertionSort SessionLE) .empty TrackingErrors.weighted_empty
  exact ⟨TrackingErrors.mean_le_maximum _, hweighted.notionalWeighted_le_maximum⟩

end

end Aggregating

/-! ## Evidence that is stored, read and aggregated -/

/-- The JSON of the payload of an observation is decoded to an observation that is equal to it and
has its digest. -/
def RoundTrips (env : PromotionEnvironment) (observation : WrittenObservation) : Prop :=
  ∃ text payload decoded, payloadText env.sha256 observation = .ok text ∧
    Json.loads observationHooks text = .ok payload ∧
      PromotionStore.decodeObservation env payload = .ok decoded ∧
        ExecutionObservation.numbers decoded = ExecutionObservation.numbers observation ∧
          decoded.val.toObservationContent.contentSha256 env.sha256 =
            observation.val.toObservationContent.contentSha256 env.sha256

lemma observationHooks_lossless : observationHooks.Lossless := LedgerValue.lossless fun _ => rfl

/-- An observation whose counts have texts makes a round trip. -/
lemma roundTrips_of_printable (env : PromotionEnvironment) {observation : WrittenObservation}
    (h : observation.val.toObservationContent.Printable) : RoundTrips env observation := by
  obtain ⟨digest, hdigest, hpayload⟩ := @PromotionStore.exists_payload env _ h
  have hexact := PromotionStore.exact_append h observation.val.createdAt.isoformat digest
  refine ⟨_, _, _, ?_, Json.loads_dumps observationHooks_lossless hexact,
    PromotionStore.decodeObservation_payload h hdigest,
    ExecutionObservation.numbers_map DecimalTuple.value_reread observation,
    PromotionStore.contentSha256_reread env.sha256 observation.val.toObservationContent⟩
  unfold payloadText
  rw [hpayload]
  exact canonicalJson_ofJson hexact

/-- Observations whose counts have texts are stored and read again, and what is aggregated depends
neither on their order nor exceeds its largest error. -/
theorem evidence_faithful (env : PromotionEnvironment) :
    (∀ observation : WrittenObservation, observation.val.toObservationContent.Printable →
      RoundTrips env observation) ∧
    ∀ (observations : List WrittenObservation)
      (aggregate : ExecutionEvidenceAggregate CalendarDate),
      aggregateObservations observations = .ok aggregate →
        (∀ permuted : List WrittenObservation, permuted.Perm observations →
          aggregateObservations permuted = .ok aggregate) ∧
        aggregate.SumsOver observations ∧
          aggregate.meanTrackingError ≤ aggregate.maxTrackingError ∧
            aggregate.notionalWeightedTrackingError ≤ aggregate.maxTrackingError :=
  ⟨fun _ h => roundTrips_of_printable env h, fun _ _ h => ⟨fun _ hperm =>
    aggregateObservations_perm h hperm, sumsOver_of_aggregateObservations h,
      means_of_aggregateObservations h⟩⟩

lemma mem_ofMembers {members : List (String × Json)} {k : String} {x : Json}
    (h : (k, x) ∈ members) : (MappingKey.text k, LedgerValue.ofJson x) ∈
      LedgerValue.ofMembers members := by
  induction members with
  | nil => cases h
  | cons m members ih =>
    rcases List.mem_cons.mp h with rfl | h
    · exact List.mem_cons_self
    · exact List.mem_cons_of_mem _ (ih h)

namespace AggregateSample

def environment : PromotionEnvironment where
  sha256 := id
  decimalOther _ := none
  dateOther _ := none
  datetimeOther _ := none

def session : CalendarDate := ⟨2026, 8, 27, by decide⟩

def identity : EvidenceIdentity CalendarDate := by
  refine ⟨{
    stage := .shadow
    executionSession := session
    firmquantCommit := hexText 40
    uquantCommit := hexText 40
    promotionConfigSha256 := hexText 64
    accountSha256 := hexText 64
    dataSha256 := hexText 64
    calendarSha256 := hexText 64 }, ?_⟩
  simp [IdentityFields.violation, firstViolation, digestViolation_hexText]

/-- Ten, written with an exponent. -/
def ten : DecimalTuple := ⟨false, 1, 1⟩

def half : DecimalTuple := ⟨false, 5, -1⟩

def equity : DecimalTuple := ⟨false, 2000, 0⟩

lemma value_ten : Valued.value ten = 10 := by norm_num [Valued.value, ten, DecimalTuple.value]

lemma value_half : Valued.value half = 1 / 2 := by
  norm_num [Valued.value, half, DecimalTuple.value]

lemma value_equity : Valued.value equity = 2000 := by
  norm_num [Valued.value, equity, DecimalTuple.value]

lemma positiveViolation_ten (label : String) : positiveViolation label ten = none := by
  refine if_neg ?_
  rw [value_ten]
  norm_num

/-- A BUY that was half filled. -/
def order : OrderObservation DecimalTuple := by
  refine ⟨⟨"exec", "order", "sh600001", "BUY", 100, 50, ten, some .volumeLimit⟩, ?_⟩
  have htext : ∀ label, textViolation label "exec" = none ∧ textViolation label "order" = none ∧
      textViolation label "sh600001" = none := fun label => ⟨rfl, rfl, rfl⟩
  refine firstViolation_eq_none.mpr ?_
  simp only [List.forall_mem_cons]
  exact ⟨(htext _).1, (htext _).2.1, (htext _).2.2, rfl, rfl, rfl, positiveViolation_ten _,
    fun _ h => by cases h⟩

def target : TargetObservation DecimalTuple := by
  refine ⟨⟨"sh600001", 100, half, ten⟩, ?_⟩
  have hweight : weightViolation "target weight" half = none := by
    unfold weightViolation
    rw [value_half, if_neg (by norm_num), if_neg (by norm_num)]
  refine firstViolation_eq_none.mpr ?_
  simp only [List.forall_mem_cons]
  exact ⟨rfl, hweight, positiveViolation_ten _, fun _ h => by cases h⟩

def position : PositionObservation := ⟨⟨"sh600001", 50⟩, rfl⟩

/-- A session of that order, with this number of rejections. -/
def content (rejections : ℕ) : ObservationContent DecimalTuple CalendarDate where
  identity := identity
  decisionId := "decision"
  planId := "plan"
  portfolioEquity := equity
  plannedOrders := [order]
  planningBlockers := []
  targets := [target]
  fills := []
  actualEndingPositions := []
  hypotheticalEndingPositions := [position]
  submitCount := 0
  cancelCount := 0
  rejectionCount := rejections
  unknownCount := 0
  externalActivity := 0
  duplicateEconomicOrders := 0
  duplicateFills := 0
  dataQualityFailures := 0

lemma violation_content (rejections : ℕ) : (content rejections).violation = none := by
  have hdecision : textViolation "decision id" "decision" = none := by decide
  have hplan : textViolation "plan id" "plan" = none := by decide
  have hequity : positiveViolation "portfolio equity" equity = none := by
    refine if_neg ?_
    rw [value_equity]
    norm_num
  have hcovered : (content rejections).Covered := by
    intro item hmem
    rw [List.mem_singleton.mp hmem]
    exact List.mem_cons_self
  refine firstViolation_eq_none.mpr ?_
  simp only [ObservationContent.recordChecks, List.cons_append, List.nil_append,
    List.forall_mem_cons]
  refine ⟨hdecision, hplan, hequity, rfl, rfl, rfl, rfl, rfl, if_neg (not_not.mpr hcovered), rfl,
    fun _ h => by cases h⟩

def observation (rejections : ℕ) : WrittenObservation :=
  ⟨⟨content rejections, ⟨session, 15, 0, 0, 0, 28800000000, by decide, by decide, by decide,
    zero_lt_microseconds, eightHours_lt⟩⟩, violation_content rejections⟩

lemma printable_iff {n : ℕ} : Codec.Printable n ↔ n < 10 ^ Json.maxStrDigits := by
  unfold Codec.Printable
  rw [Int.natAbs_natCast, Nat.length_toDigits_le_iff (by decide) (by decide)]

lemma printable_of_lt {n : ℕ} (h : n < 1000) : Codec.Printable n :=
  printable_iff.mpr (lt_of_lt_of_le (h.trans_eq (by decide : 1000 = 10 ^ 3))
    (Nat.pow_le_pow_right (by decide) (by decide)))

lemma printable_content : (content 0).Printable where
  orders := by
    intro item hmem
    rw [List.mem_singleton.mp hmem]
    exact printable_of_lt (by decide)
  targets := by
    intro item hmem
    rw [List.mem_singleton.mp hmem]
    exact printable_of_lt (by decide)
  fills := fun _ hmem => absurd hmem List.not_mem_nil
  actual := fun _ hmem => absurd hmem List.not_mem_nil
  hypothetical := by
    intro item hmem
    rw [List.mem_singleton.mp hmem]
    exact printable_of_lt (by decide)
  submitCount := printable_of_lt (by decide)
  cancelCount := printable_of_lt (by decide)
  rejectionCount := printable_of_lt (by decide)
  unknownCount := printable_of_lt (by decide)
  externalActivity := printable_of_lt (by decide)
  duplicateEconomicOrders := printable_of_lt (by decide)
  duplicateFills := printable_of_lt (by decide)
  dataQualityFailures := printable_of_lt (by decide)

lemma aggregate_observation : aggregateObservations [observation 0] = .ok
    (summarize .shadow (observation 0) [observation 0]) := by
  refine aggregateObservations_eq_ok.mpr ⟨observation 0, [], rfl, ?_, ?_, rfl⟩
  · exact fun _ hmem => absurd hmem List.not_mem_nil
  · exact List.nodup_singleton _

end AggregateSample

section

open AggregateSample

/-- One session is stored, read and aggregated. -/
theorem half_filled_faithful : RoundTrips environment (observation 0) ∧
    (summarize .shadow (observation 0) [observation 0]).meanTrackingError ≤
      (summarize .shadow (observation 0) [observation 0]).maxTrackingError := by
  obtain ⟨hround, haggregate⟩ := evidence_faithful environment
  obtain ⟨-, -, hmean, -⟩ := haggregate [observation 0] _ aggregate_observation
  exact ⟨hround (observation 0) printable_content, hmean⟩

/-- The payload of a count with more than 4300 digits raises. -/
theorem overlong_count_raises :
    ¬ ∀ (env : PromotionEnvironment) (observation : WrittenObservation),
      RoundTrips env observation := by
  intro h
  obtain ⟨n, hn⟩ : ∃ n, n = 10 ^ Json.maxStrDigits := ⟨_, rfl⟩
  obtain ⟨text, -, -, htext, -⟩ := h environment (observation n)
  obtain ⟨members, hmembers, -⟩ := bind_ok_iff.mp htext
  obtain ⟨digest, hdigest, -⟩ := bind_ok_iff.mp hmembers
  obtain ⟨written, hwritten, -⟩ := bind_ok_iff.mp hdigest
  obtain ⟨json, hjson, -⟩ := canonicalJson_eq_ok.mp hwritten
  obtain ⟨values, hvalues, -⟩ := bind_ok_iff.mp hjson
  have hmem : ("rejection_count", Json.int n) ∈ (content n).payload := by
    simp [ObservationContent.payload, content]
  obtain ⟨v, hv⟩ := Codec.jsonValue_of_jsonMembers hvalues (mem_ofMembers hmem)
  have hprintable := printable_iff.mp (Codec.printable_of_jsonInt hv)
  rw [hn] at hprintable
  exact lt_irrefl _ hprintable

end

end Evidence

end FirmQuant
