import FirmQuant.Execution.Plan
import FirmQuant.Foundation.Decimal

/-!
# The execution policy

`FeeSchedule.calculate`, `FillModel` and `ExecutionPolicy` of `execution/policy.py`, with the
constructors of `Money` and `Price` of `domain/values.py`, which refuse amounts with too many
digits.  A check that fails raises with a text.
-/

namespace FirmQuant

open Decimal Effect

/-! ## Amounts -/

/-- The largest number of digits before the decimal point, `_MAX_INTEGER_DIGITS`. -/
def maxIntegerDigits : ℕ := 20

/-- The checks of `_validate_decimal` on a positive number. -/
def validateDecimal (label : String) (maxPlaces : ℕ) (value : ℚ) : Except String Unit :=
  if (value * 10 ^ maxPlaces).den ≠ 1 then
    .error (label ++ " exceeds " ++ toString maxPlaces ++ " decimal places")
  else if 10 ^ maxIntegerDigits ≤ value then .error (label ++ " exceeds 20 integer digits")
  else .ok ()

/-- The constructor of `Money`. -/
def Money.create (value : ℚ) : Except String Money :=
  if h : 0 ≤ value then
    match validateDecimal "money" 4 value with
    | .ok _ => .ok ⟨value, h⟩
    | .error message => .error message
  else .error "money must be nonnegative"

lemma Money.value_of_create {value : ℚ} {amount : Money} (h : Money.create value = .ok amount) :
    amount.value = value := by
  unfold Money.create at h
  split_ifs at h
  split at h
  · cases h
    rfl
  · cases h

/-- A nonnegative amount with four decimals and not too many digits is accepted. -/
lemma Money.create_of_places {value : ℚ} (hnonneg : 0 ≤ value) (hplaces : HasPlaces 4 value)
    (hbound : value < 10 ^ maxIntegerDigits) : Money.create value = .ok ⟨value, hnonneg⟩ := by
  unfold Money.create validateDecimal
  rw [dif_pos hnonneg, if_neg (not_not.mpr (hasPlaces_iff.mp hplaces)), if_neg (not_le.mpr hbound)]

/-- The constructor of `Price`. -/
def Price.create (value : ℚ) : Except String Price :=
  if h : 0 < value then
    match validateDecimal "price" 8 value with
    | .ok _ => .ok ⟨value, h⟩
    | .error message => .error message
  else .error "price must be positive"

lemma Price.value_of_create {value : ℚ} {price : Price} (h : Price.create value = .ok price) :
    price.value = value := by
  unfold Price.create at h
  split_ifs at h
  split at h
  · cases h
    rfl
  · cases h

/-! ## Fees -/

/-- `FeeBreakdown`. -/
structure FeeBreakdown where
  commission : Money
  stampDuty : Money
  transferFee : Money
  deriving DecidableEq

/-- `FeeBreakdown.total`. -/
def FeeBreakdown.total (fees : FeeBreakdown) : Except String Money :=
  Money.create (fees.commission.value + fees.stampDuty.value + fees.transferFee.value)

namespace FeeSchedule

/-- `FeeSchedule._round`. -/
def round (schedule : FeeSchedule) (value : ℚ) : Except String ℚ :=
  match quantizeBounded schedule.quantumPlaces value with
  | some rounded => .ok rounded
  | none => .error "fee calculation exceeds Decimal bounds"

/-- `FeeSchedule.calculate`. -/
def calculate (schedule : FeeSchedule) (side : Side) (price : Price) (shares : ℕ) :
    Except String FeeBreakdown := do
  refuse (shares = 0) "fee shares must be positive Shares"
  let gross := price.value * shares
  let commission ← schedule.round (max schedule.minimumCommission (gross * schedule.commissionRate))
  let stampDuty ← schedule.round (if side = .sell then gross * schedule.stampDutyRate else 0)
  let transferFee ← schedule.round (gross * schedule.transferFeeRate)
  return ⟨← Money.create commission, ← Money.create stampDuty, ← Money.create transferFee⟩

variable {schedule : FeeSchedule} {side : Side} {price : Price} {shares : ℕ} {fees : FeeBreakdown}

lemma round_eq_ok {schedule : FeeSchedule} {value rounded : ℚ} (hvalue : 0 ≤ value)
    (h : schedule.round value = .ok rounded) :
    rounded = quantizeHalfUp schedule.quantumPlaces value := by
  unfold FeeSchedule.round quantizeBounded at h
  split_ifs at h with hbound
  cases h
  rw [quantize, if_pos hvalue, roundUp, round_eq]
  rfl

/-- What a calculation that returns has calculated. -/
lemma values_of_calculate (h : schedule.calculate side price shares = .ok fees) :
    fees.commission.value = quantizeHalfUp schedule.quantumPlaces
        (max schedule.minimumCommission (price.value * shares * schedule.commissionRate)) ∧
      fees.stampDuty.value = quantizeHalfUp schedule.quantumPlaces
        (if side = .sell then price.value * shares * schedule.stampDutyRate else 0) ∧
      fees.transferFee.value = quantizeHalfUp schedule.quantumPlaces
        (price.value * shares * schedule.transferFeeRate) := by
  have hprice := price.positive.le
  unfold calculate at h
  obtain ⟨_, -, h⟩ := bind_ok_iff.mp h
  obtain ⟨commission, hcommission, h⟩ := bind_ok_iff.mp h
  obtain ⟨stampDuty, hstampDuty, h⟩ := bind_ok_iff.mp h
  obtain ⟨transferFee, htransferFee, h⟩ := bind_ok_iff.mp h
  obtain ⟨paid, hpaid, h⟩ := bind_ok_iff.mp h
  obtain ⟨duty, hduty, h⟩ := bind_ok_iff.mp h
  obtain ⟨fee, hfee, h⟩ := bind_ok_iff.mp h
  cases h
  have hcommission' := round_eq_ok (le_max_of_le_left schedule.minimum_nonneg) hcommission
  have hstampDuty' := round_eq_ok (by
    have := schedule.rates_nonneg.2.1
    split_ifs <;> positivity) hstampDuty
  have htransferFee' := round_eq_ok (by
    have := schedule.rates_nonneg.2.2
    positivity) htransferFee
  exact ⟨(Money.value_of_create hpaid).trans hcommission',
    (Money.value_of_create hduty).trans hstampDuty',
      (Money.value_of_create hfee).trans htransferFee'⟩

lemma total_of_calculate (h : schedule.calculate side price shares = .ok fees) :
    fees.commission.value + fees.stampDuty.value + fees.transferFee.value =
      (schedule.total side price shares).value := by
  obtain ⟨hcommission, hstampDuty, htransferFee⟩ := values_of_calculate h
  rw [hcommission, hstampDuty, htransferFee]
  rfl

end FeeSchedule

/-- `FillModel`. -/
structure FillModel where
  maxVolumeParticipation : ℚ
  slippageBps : ℚ
  participation_bounds : 0 < maxVolumeParticipation ∧ maxVolumeParticipation ≤ 1
  slippage_bounds : 0 ≤ slippageBps ∧ slippageBps ≤ 1000

/-- `ExecutionPolicy`. -/
structure ExecutionPolicy where
  fillModel : FillModel
  feeSchedule : FeeSchedule
  allowAuction : Bool

end FirmQuant
