import Mathlib.Algebra.Order.Round
import Mathlib.Data.Rat.Floor
import Mathlib.Tactic.Common
import Mathlib.Tactic.FieldSimp
import Mathlib.Tactic.Linarith
import Mathlib.Tactic.Positivity

/-!
# Decimal numbers

A decimal number is a rational number with a power of ten as denominator.  Rounding to a number of
decimals is `ROUND_HALF_UP` of the decimal arithmetic, which takes a tie away from zero.  On sums
that do not become negative this is rounding up of a tie, and that commutes with adding a number
that has no more decimals.
-/

namespace Decimal

/-- The number has at most this many decimals. -/
def HasPlaces (places : ℕ) (x : ℚ) : Prop := ∃ n : ℤ, x = n / 10 ^ places

/-- Rounding with ties upwards. -/
def roundUp (places : ℕ) (x : ℚ) : ℚ := round (x * 10 ^ places) / 10 ^ places

/-- Rounding with ties away from zero. -/
def quantize (places : ℕ) (x : ℚ) : ℚ := if 0 ≤ x then roundUp places x else -roundUp places (-x)

/-- The number of significant digits that the arithmetic carries. -/
def precision : ℕ := 28

/-- `Decimal.quantize`, which fails when the result has too many digits. -/
def quantizeBounded (places : ℕ) (x : ℚ) : Option ℚ :=
  if |quantize places x| * 10 ^ places < 10 ^ precision then some (quantize places x) else none

section Rounding

variable {places : ℕ} {x y : ℚ}

lemma scale_pos (places : ℕ) : (0 : ℚ) < 10 ^ places := by positivity

lemma hasPlaces_iff : HasPlaces places x ↔ (x * 10 ^ places).den = 1 := by
  have hscale := (scale_pos places).ne'
  constructor
  · rintro ⟨n, rfl⟩
    rw [div_mul_cancel₀ _ hscale]
    exact Rat.den_intCast n
  · intro hden
    refine ⟨(x * 10 ^ places).num, ?_⟩
    rw [Rat.coe_int_num_of_den_eq_one hden]
    field_simp

lemma hasPlaces_roundUp : HasPlaces places (roundUp places x) := ⟨_, rfl⟩

lemma HasPlaces.neg (h : HasPlaces places x) : HasPlaces places (-x) := by
  obtain ⟨n, rfl⟩ := h
  refine ⟨-n, ?_⟩
  push_cast
  rw [neg_div]

lemma hasPlaces_quantize : HasPlaces places (quantize places x) := by
  unfold quantize
  split
  · exact hasPlaces_roundUp
  · exact hasPlaces_roundUp.neg

/-- Rounding commutes with adding a number that needs no rounding. -/
lemma roundUp_add (h : HasPlaces places x) : roundUp places (x + y) = x + roundUp places y := by
  obtain ⟨n, rfl⟩ := h
  have hscale := (scale_pos places).ne'
  unfold roundUp
  have hsum : ((n : ℚ) / 10 ^ places + y) * 10 ^ places = n + y * 10 ^ places := by
    rw [add_mul, div_mul_cancel₀ _ hscale]
  rw [hsum, round_intCast_add]
  push_cast
  rw [add_div]

lemma roundUp_nonneg (h : 0 ≤ x) : 0 ≤ roundUp places x := by
  unfold roundUp
  refine div_nonneg ?_ (scale_pos places).le
  have hround : 0 ≤ round (x * 10 ^ places) := by
    rw [round_eq]
    refine Int.floor_nonneg.mpr ?_
    positivity
  exact_mod_cast hround

/-- As long as the result is not negative, ties are rounded up. -/
lemma quantize_eq_roundUp (h : 0 ≤ quantize places x) : quantize places x = roundUp places x := by
  unfold quantize at h ⊢
  split
  · rfl
  next hx =>
    rw [if_neg hx] at h
    have hscale := scale_pos places
    have hpos : 0 < -x * 10 ^ places := mul_pos (by linarith) hscale
    -- The opposite number rounds to zero, and so it lies within half a unit.
    have hzero : roundUp places (-x) = 0 :=
      le_antisymm (by linarith) (roundUp_nonneg (by linarith))
    have hround : round (-x * 10 ^ places) = 0 := by
      unfold roundUp at hzero
      rcases div_eq_zero_iff.mp hzero with hzero | hzero
      · exact_mod_cast hzero
      · exact absurd hzero hscale.ne'
    rw [round_eq, Int.floor_eq_zero_iff] at hround
    have hround' : round (x * 10 ^ places) = 0 := by
      rw [round_eq, Int.floor_eq_zero_iff]
      constructor <;> linarith [hround.2]
    rw [hzero, roundUp, hround']
    simp

end Rounding

end Decimal
