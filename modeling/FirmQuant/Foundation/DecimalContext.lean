import Mathlib.Data.Int.Log
import FirmQuant.Foundation.Decimal

/-!
# The decimal context

The default context of the decimal arithmetic carries 28 significant digits: the exact result of an
operation is rounded to them, ties to even.  Rounding to a number of decimals fails instead when the
result has more digits.  The range of exponents is not bounded here.
-/

namespace Decimal

/-- The nearest integer, a tie to the even one. -/
def roundHalfEven (x : ℚ) : ℤ :=
  if Int.fract x < 1 / 2 then ⌊x⌋
  else if 1 / 2 < Int.fract x then ⌊x⌋ + 1
  else if ⌊x⌋ % 2 = 0 then ⌊x⌋
  else ⌊x⌋ + 1

/-- The place of the last significant digit. -/
def lastPlace (x : ℚ) : ℚ := 10 ^ (Int.log 10 |x| + 1 - precision)

/-- The result of an operation whose exact value is `x`. -/
def fit (x : ℚ) : ℚ := if x = 0 then 0 else roundHalfEven (x / lastPlace x) * lastPlace x

/-- `Decimal.quantize` with a rounding mode. -/
def quantizeWith (mode : ℚ → ℤ) (places : ℕ) (x : ℚ) : Option ℚ :=
  if |mode (x * 10 ^ places)| < 10 ^ precision then some (mode (x * 10 ^ places) / 10 ^ places)
  else none

section Fit

variable {x y : ℚ} {places : ℕ}

lemma abs_roundHalfEven_sub_le (x : ℚ) : |(roundHalfEven x : ℚ) - x| ≤ 1 / 2 := by
  have hsplit : (⌊x⌋ : ℚ) + Int.fract x = x := Int.floor_add_fract x
  have hnonneg : 0 ≤ Int.fract x := Int.fract_nonneg x
  have hlt : Int.fract x < 1 := Int.fract_lt_one x
  unfold roundHalfEven
  rw [abs_le]
  split_ifs with h₁ h₂ h₃
  · constructor <;> linarith
  · push_cast
    constructor <;> linarith
  · constructor <;> linarith
  · push_cast
    constructor <;> linarith

lemma lastPlace_pos (x : ℚ) : 0 < lastPlace x := zpow_pos (by norm_num) _

/-- The last place is small beside the number. -/
lemma lastPlace_le (hx : x ≠ 0) : lastPlace x ≤ |x| / 10 ^ 27 := by
  have hpos : 0 < |x| := abs_pos.mpr hx
  have hlog : ((10 : ℕ) : ℚ) ^ Int.log 10 |x| ≤ |x| := Int.zpow_log_le_self (by norm_num) hpos
  have hsplit : lastPlace x = 10 ^ Int.log 10 |x| / 10 ^ 27 := by
    unfold lastPlace precision
    have hexponent : Int.log 10 |x| + 1 - ((28 : ℕ) : ℤ) = Int.log 10 |x| - 27 := by
      push_cast
      ring
    rw [hexponent, zpow_sub₀ (by norm_num)]
    norm_num
  rw [hsplit]
  push_cast at hlog
  gcongr

/-- The relative error of an operation. -/
lemma abs_fit_sub_le (x : ℚ) : |fit x - x| ≤ |x| / (2 * 10 ^ 27) := by
  unfold fit
  split_ifs with hx
  · subst hx
    simp
  · have hplace := lastPlace_pos x
    have hround := abs_roundHalfEven_sub_le (x / lastPlace x)
    have hscale : (roundHalfEven (x / lastPlace x) : ℚ) * lastPlace x - x =
        ((roundHalfEven (x / lastPlace x) : ℚ) - x / lastPlace x) * lastPlace x := by
      rw [sub_mul, div_mul_cancel₀ _ hplace.ne']
    rw [hscale, abs_mul, abs_of_pos hplace]
    calc |(roundHalfEven (x / lastPlace x) : ℚ) - x / lastPlace x| * lastPlace x
        ≤ 1 / 2 * (|x| / 10 ^ 27) :=
          mul_le_mul hround (lastPlace_le hx) hplace.le (by norm_num)
      _ = |x| / (2 * 10 ^ 27) := by ring

lemma fit_nonneg (hx : 0 ≤ x) : 0 ≤ fit x := by
  have herror := abs_fit_sub_le x
  rw [abs_of_nonneg hx, abs_le] at herror
  have hsmall : x / (2 * 10 ^ 27) ≤ x := div_le_self hx (by norm_num)
  linarith [herror.1]

/-- An operation exceeds its exact value by little. -/
lemma fit_le (hx : 0 ≤ x) : fit x ≤ x * (1 + 1 / 10 ^ 27) := by
  have herror := abs_fit_sub_le x
  rw [abs_of_nonneg hx, abs_le] at herror
  have hhalf : x / (2 * 10 ^ 27) ≤ x * (1 / 10 ^ 27) := by
    rw [div_eq_mul_one_div]
    exact mul_le_mul_of_nonneg_left (by norm_num) hx
  linarith [herror.2]

lemma quantizeWith_eq_some {mode : ℚ → ℤ} (h : quantizeWith mode places x = some y) :
    y = mode (x * 10 ^ places) / 10 ^ places := by
  unfold quantizeWith at h
  split_ifs at h
  exact (Option.some.inj h).symm

end Fit

end Decimal
