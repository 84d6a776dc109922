import FirmQuant.Persistence.MonotonicLedger

/-!
# Plans, fees and windows

What the live controller is given: the plan of `execution/planner.py`, the fee schedule of
`execution/policy.py`, and the windows and deadlines of `execution/live_controller.py`.
-/

namespace FirmQuant

/-! ## Plans -/

/-- A planned order.  The planner takes the trading unit from an instrument fact, which is
positive. -/
@[ext] structure PlannedOrder where
  decisionId : String
  uquantOrderId : String
  symbol : Symbol
  side : Side
  targetWeight : ℚ
  uquantAuthorizedShares : ℕ
  currentShares : ℕ
  targetShares : ℕ
  tradingUnit : ℕ
  limitPrice : Price
  strategySession : Date
  executionSession : Date
  uquantSourceSha : String
  authorized_pos : 0 < uquantAuthorizedShares
  unit_pos : 0 < tradingUnit

instance : DecidableEq PlannedOrder := fun _ _ => decidable_of_iff _ PlannedOrder.ext_iff.symm

/-- An execution plan. -/
structure ExecutionPlan where
  planId : String
  decisionId : String
  strategySession : Date
  executionSession : Date
  orders : List PlannedOrder

/-! ## Fees -/

/-- `ROUND_HALF_UP` of a nonnegative number to a number of decimals. -/
def quantizeHalfUp (places : ℕ) (x : ℚ) : ℚ := ⌊x * 10 ^ places + 1 / 2⌋ / 10 ^ places

lemma quantizeHalfUp_nonneg (places : ℕ) {x : ℚ} (hx : 0 ≤ x) : 0 ≤ quantizeHalfUp places x := by
  unfold quantizeHalfUp
  have hfloor : 0 ≤ ⌊x * 10 ^ places + 1 / 2⌋ := Int.floor_nonneg.mpr (by positivity)
  have hcast : (0 : ℚ) ≤ (⌊x * 10 ^ places + 1 / 2⌋ : ℤ) := by exact_mod_cast hfloor
  positivity

/-- `FeeSchedule`.  `Decimal.quantize` rounds to the exponent of the quantum, so the schedule
keeps the number of its decimals beside the quantum itself. -/
structure FeeSchedule where
  commissionRate : ℚ
  minimumCommission : ℚ
  stampDutyRate : ℚ
  transferFeeRate : ℚ
  feeQuantum : ℚ
  quantumPlaces : ℕ
  rates_nonneg : 0 ≤ commissionRate ∧ 0 ≤ stampDutyRate ∧ 0 ≤ transferFeeRate
  minimum_nonneg : 0 ≤ minimumCommission

namespace FeeSchedule

lemma free_nonneg : (0 : ℚ) ≤ 0 ∧ (0 : ℚ) ≤ 0 ∧ (0 : ℚ) ≤ 0 := by norm_num

/-- `FeeSchedule.calculate(...).total`. -/
def total (fees : FeeSchedule) (side : Side) (price : Price) (shares : ℕ) : Money where
  value :=
    quantizeHalfUp fees.quantumPlaces
        (max fees.minimumCommission (price.value * shares * fees.commissionRate)) +
      quantizeHalfUp fees.quantumPlaces
        (if side = .sell then price.value * shares * fees.stampDutyRate else 0) +
      quantizeHalfUp fees.quantumPlaces (price.value * shares * fees.transferFeeRate)
  nonneg := by
    have hp : 0 ≤ price.value := price.positive.le
    have h1 : 0 ≤ max fees.minimumCommission (price.value * shares * fees.commissionRate) :=
      le_max_of_le_left fees.minimum_nonneg
    have h2 : 0 ≤ if side = .sell then price.value * shares * fees.stampDutyRate else 0 := by
      have := fees.rates_nonneg.2.1
      split_ifs <;> positivity
    have h3 : 0 ≤ price.value * shares * fees.transferFeeRate := by
      have := fees.rates_nonneg.2.2
      positivity
    have := quantizeHalfUp_nonneg fees.quantumPlaces h1
    have := quantizeHalfUp_nonneg fees.quantumPlaces h2
    have := quantizeHalfUp_nonneg fees.quantumPlaces h3
    positivity

end FeeSchedule

/-! ## Windows and deadlines -/

/-- `ExecutionDeadlines`, in monotonic seconds. -/
@[ext] structure ExecutionDeadlines where
  latestNewSubmit : ℚ
  latestCancelInitiation : ℚ
  absoluteCompletion : ℚ
  nonneg : 0 ≤ latestNewSubmit
  submit_le_cancel : latestNewSubmit ≤ latestCancelInitiation
  cancel_le_completion : latestCancelInitiation ≤ absoluteCompletion

instance : DecidableEq ExecutionDeadlines := fun _ _ =>
  decidable_of_iff _ ExecutionDeadlines.ext_iff.symm

/-- `ExecutionWindowPolicy`. -/
structure ExecutionWindowPolicy where
  sellWindow : Duration
  buyWindow : Duration
  minimumOrderLifetime : Duration
  pollInterval : Duration
  sell_pos : 0 < sellWindow
  buy_pos : 0 < buyWindow
  lifetime_pos : 0 < minimumOrderLifetime
  poll_pos : 0 < pollInterval
  lifetime_fits : minimumOrderLifetime ≤ min sellWindow buyWindow
  poll_fits : pollInterval ≤ max sellWindow buyWindow

/-- `window_for`. -/
def ExecutionWindowPolicy.windowFor (policy : ExecutionWindowPolicy) : Side → Duration
  | .sell => policy.sellWindow
  | .buy => policy.buyWindow

end FirmQuant
