import FirmQuant.Execution.Policy

/-!
# The laws of the fee schedule

The searches for an affordable number of shares rely on fees that are multiples of the quantum,
close to their exact value, and never smaller for more shares.  `Decimal.quantize` keeps the
exponent of the quantum and not the quantum itself, so that the multiples are those of one unit in
the last place of the quantum.  The laws hold of exactly the schedules for which the difference does
not show.
-/

namespace FirmQuant

open Decimal Effect

/-! ## Rounding -/

section Rounding

variable {places : ℕ} {x y : ℚ}

lemma quantizeHalfUp_mono (h : x ≤ y) : quantizeHalfUp places x ≤ quantizeHalfUp places y := by
  unfold quantizeHalfUp
  have hscale := scale_pos places
  have hfloor : ⌊x * 10 ^ places + 1 / 2⌋ ≤ ⌊y * 10 ^ places + 1 / 2⌋ :=
    Int.floor_le_floor (by gcongr)
  have hcast : ((⌊x * 10 ^ places + 1 / 2⌋ : ℤ) : ℚ) ≤ (⌊y * 10 ^ places + 1 / 2⌋ : ℤ) := by
    exact_mod_cast hfloor
  gcongr

/-- Rounding to the places takes the integer that is nearest in units of the last place. -/
lemma quantizeHalfUp_eq {n : ℕ} (hlow : (n : ℚ) - 1 / 2 ≤ x * 10 ^ places)
    (hhigh : x * 10 ^ places < n + 1 / 2) : quantizeHalfUp places x = n / 10 ^ places := by
  have hfloor : ⌊x * 10 ^ places + 1 / 2⌋ = (n : ℤ) := by
    rw [Int.floor_eq_iff]
    push_cast
    constructor
    · linarith
    · linarith
  unfold quantizeHalfUp
  rw [hfloor]
  push_cast
  rfl

lemma exists_quantizeHalfUp_eq (hx : 0 ≤ x) :
    ∃ n : ℕ, quantizeHalfUp places x = n / 10 ^ places := by
  have hscale := scale_pos places
  have hnonneg : 0 ≤ ⌊x * 10 ^ places + 1 / 2⌋ := Int.floor_nonneg.mpr (by positivity)
  obtain ⟨n, hn⟩ := Int.eq_ofNat_of_zero_le hnonneg
  refine ⟨n, ?_⟩
  unfold quantizeHalfUp
  rw [hn]
  push_cast
  rfl

lemma quantizeHalfUp_zero (places : ℕ) : quantizeHalfUp places 0 = 0 := by
  have hzero : quantizeHalfUp places 0 = ((0 : ℕ) : ℚ) / 10 ^ places :=
    quantizeHalfUp_eq (by norm_num) (by norm_num)
  rw [hzero, Nat.cast_zero, zero_div]

/-- A positive number is at least one unit in its last place. -/
lemma unit_le_of_hasPlaces (h : HasPlaces places x) (hx : 0 < x) : 1 / 10 ^ places ≤ x := by
  obtain ⟨n, hn⟩ := h
  have hscale := scale_pos places
  have hpos : (0 : ℚ) < n := by
    by_contra hle
    rw [hn] at hx
    exact absurd hx (not_lt.mpr (div_nonpos_of_nonpos_of_nonneg (not_lt.mp hle) hscale.le))
  have hone : (1 : ℚ) ≤ n := by
    have hn' : 0 < n := by exact_mod_cast hpos
    exact_mod_cast Int.add_one_le_iff.mpr hn'
  rw [hn]
  gcongr

lemma abs_quantizeHalfUp_sub_le (places : ℕ) (x : ℚ) :
    |quantizeHalfUp places x - x| ≤ 1 / (2 * 10 ^ places) := by
  have hscale := scale_pos places
  have hle := Int.floor_le (x * 10 ^ places + 1 / 2)
  have hlt := Int.lt_floor_add_one (x * 10 ^ places + 1 / 2)
  have hdiff : quantizeHalfUp places x - x =
      ((⌊x * 10 ^ places + 1 / 2⌋ : ℤ) - x * 10 ^ places) / 10 ^ places := by
    unfold quantizeHalfUp
    field_simp
  have hhalf : |((⌊x * 10 ^ places + 1 / 2⌋ : ℤ) : ℚ) - x * 10 ^ places| ≤ 1 / 2 := by
    rw [abs_le]
    constructor
    · linarith
    · linarith
  rw [hdiff, abs_div, abs_of_pos hscale, div_le_iff₀ hscale]
  refine hhalf.trans (le_of_eq ?_)
  field_simp

end Rounding

/-! ## Schedules -/

namespace FeeSchedule

/-- What the constructor of a schedule checks beside the signs of its amounts. -/
structure Admitted (schedule : FeeSchedule) : Prop where
  rates_le_one : schedule.commissionRate ≤ 1 ∧ schedule.stampDutyRate ≤ 1 ∧
    schedule.transferFeeRate ≤ 1
  rates_places : HasPlaces 8 schedule.commissionRate ∧ HasPlaces 8 schedule.stampDutyRate ∧
    HasPlaces 8 schedule.transferFeeRate
  minimum_le : schedule.minimumCommission ≤ 1000000
  minimum_places : HasPlaces 4 schedule.minimumCommission
  quantum_ge : 1 / 10 ^ 4 ≤ schedule.feeQuantum
  quantum_le : schedule.feeQuantum ≤ 1
  quantumPlaces_le : schedule.quantumPlaces ≤ 4
  /-- The quantum is written with `quantumPlaces` decimals. -/
  quantum_places : HasPlaces schedule.quantumPlaces schedule.feeQuantum

/-- The commission before it is rounded. -/
def exactCommission (schedule : FeeSchedule) (price : Price) (shares : ℕ) : ℚ :=
  max schedule.minimumCommission (price.value * shares * schedule.commissionRate)

/-- The stamp duty before it is rounded. -/
def exactStampDuty (schedule : FeeSchedule) (side : Side) (price : Price) (shares : ℕ) : ℚ :=
  if side = .sell then price.value * shares * schedule.stampDutyRate else 0

/-- The transfer fee before it is rounded. -/
def exactTransferFee (schedule : FeeSchedule) (price : Price) (shares : ℕ) : ℚ :=
  price.value * shares * schedule.transferFeeRate

/-- A multiple of the quantum within half a quantum of an amount. -/
structure Rounded (schedule : FeeSchedule) (exact fee : ℚ) : Prop where
  multiple : ∃ n : ℕ, fee = n * schedule.feeQuantum
  near : |fee - exact| ≤ schedule.feeQuantum / 2

/-- Each fee is a multiple of the quantum near its exact value, the minimum commission is kept, and
fees do not fall when more shares are traded. -/
structure Lawful (schedule : FeeSchedule) : Prop where
  rounded : ∀ side price shares fees, schedule.calculate side price shares = .ok fees →
    schedule.Rounded (schedule.exactCommission price shares) fees.commission.value ∧
    schedule.Rounded (schedule.exactStampDuty side price shares) fees.stampDuty.value ∧
    schedule.Rounded (schedule.exactTransferFee price shares) fees.transferFee.value ∧
    schedule.minimumCommission ≤ fees.commission.value
  nondecreasing : ∀ side price shares shares' fees fees',
    schedule.calculate side price shares = .ok fees →
    schedule.calculate side price shares' = .ok fees' → shares ≤ shares' →
    fees.commission.value ≤ fees'.commission.value ∧
    fees.stampDuty.value ≤ fees'.stampDuty.value ∧
    fees.transferFee.value ≤ fees'.transferFee.value ∧
    ∀ total total', fees.total = .ok total → fees'.total = .ok total' →
      total.value ≤ total'.value ∧ (shares < shares' →
        price.value * shares + total.value < price.value * shares' + total'.value)

/-- The quantum is one unit in its own last place, or nothing depends on the amount traded; and a
multiple of the quantum lies at most half a unit above the minimum commission. -/
structure Regular (schedule : FeeSchedule) : Prop where
  unit : schedule.feeQuantum = 1 / 10 ^ schedule.quantumPlaces ∨
    (schedule.commissionRate = 0 ∧ schedule.stampDutyRate = 0 ∧ schedule.transferFeeRate = 0)
  minimum : ∃ n : ℕ, schedule.minimumCommission ≤ n * schedule.feeQuantum ∧
    n * schedule.feeQuantum ≤ schedule.minimumCommission + 1 / (2 * 10 ^ schedule.quantumPlaces)

section Laws

variable {schedule : FeeSchedule} {side : Side} {price : Price} {shares shares' : ℕ}
  {fees fees' : FeeBreakdown}

lemma Admitted.exists_units (h : schedule.Admitted) :
    ∃ c : ℕ, 0 < c ∧ schedule.feeQuantum = c / 10 ^ schedule.quantumPlaces := by
  obtain ⟨n, hn⟩ := h.quantum_places
  have hscale := scale_pos schedule.quantumPlaces
  have hquantum : 0 < schedule.feeQuantum := lt_of_lt_of_le (by norm_num) h.quantum_ge
  have hpos : 0 < n := by
    by_contra hle
    have hcast : (n : ℚ) ≤ 0 := by exact_mod_cast not_lt.mp hle
    rw [hn] at hquantum
    exact absurd hquantum (not_lt.mpr (div_nonpos_of_nonpos_of_nonneg hcast hscale.le))
  obtain ⟨c, hc⟩ := Int.eq_ofNat_of_zero_le hpos.le
  subst hc
  refine ⟨c, by exact_mod_cast hpos, ?_⟩
  rw [hn]
  push_cast
  rfl

/-! ### Calculations that return -/

lemma Admitted.exists_round (h : schedule.Admitted) {x : ℚ} (hx : 0 ≤ x)
    (hbound : x ≤ 2 * 10 ^ 19) :
    ∃ rounded amount, schedule.round x = .ok rounded ∧ Money.create rounded = .ok amount := by
  set places := schedule.quantumPlaces with hplaces
  have hscale := scale_pos places
  have hscale' : (10 : ℚ) ^ places ≤ 10 ^ 4 :=
    pow_le_pow_right₀ (by norm_num) h.quantumPlaces_le
  have hquantize : quantize places x = quantizeHalfUp places x := by
    rw [quantize, if_pos hx, roundUp, round_eq]
    rfl
  have hnonneg := quantizeHalfUp_nonneg places hx
  have hnear := (abs_le.mp (abs_quantizeHalfUp_sub_le places x)).2
  have hunit : 1 / (2 * (10 : ℚ) ^ places) ≤ 1 / 2 := by
    have hone : (1 : ℚ) ≤ 10 ^ places := one_le_pow₀ (by norm_num)
    rw [div_le_div_iff₀ (by positivity) (by norm_num)]
    linarith
  have hle : quantizeHalfUp places x ≤ 3 * 10 ^ 19 := by linarith
  have hfits : |quantize places x| * 10 ^ places < 10 ^ precision := by
    rw [hquantize, abs_of_nonneg hnonneg]
    calc quantizeHalfUp places x * 10 ^ places ≤ 3 * 10 ^ 19 * 10 ^ 4 := by gcongr
      _ < 10 ^ precision := by norm_num [precision]
  have hround : schedule.round x = .ok (quantizeHalfUp places x) := by
    unfold FeeSchedule.round quantizeBounded
    rw [if_pos hfits, hquantize]
  refine ⟨_, _, hround, Money.create_of_places hnonneg ?_ ?_⟩
  · obtain ⟨n, hn⟩ := @exists_quantizeHalfUp_eq places _ hx
    refine ⟨n * 10 ^ (4 - places), ?_⟩
    have hsplit : (10 : ℚ) ^ 4 = 10 ^ places * 10 ^ (4 - places) := by
      rw [← pow_add, Nat.add_sub_cancel' h.quantumPlaces_le]
    rw [hn, hsplit]
    push_cast
    field_simp
  · exact hle.trans_lt (by norm_num [maxIntegerDigits])

lemma Admitted.exists_calculate (h : schedule.Admitted) (side : Side) (price : Price)
    (hshares : 0 < shares) (hbound : price.value * shares ≤ 2 * 10 ^ 19) :
    ∃ fees, schedule.calculate side price shares = .ok fees := by
  have hgross : 0 ≤ price.value * shares := mul_nonneg price.positive.le (Nat.cast_nonneg _)
  obtain ⟨hcommission, hstamp, htransfer⟩ := schedule.rates_nonneg
  obtain ⟨hcommission', hstamp', htransfer'⟩ := h.rates_le_one
  have hamount : ∀ rate : ℚ, rate ≤ 1 → price.value * shares * rate ≤ 2 * 10 ^ 19 := by
    intro rate hrate
    exact (mul_le_of_le_one_right hgross hrate).trans hbound
  have hmin := h.minimum_le
  obtain ⟨commission, paid, hround₁, hpaid⟩ := h.exists_round
    (le_max_of_le_left schedule.minimum_nonneg)
    (max_le (by linarith) (hamount schedule.commissionRate hcommission'))
  obtain ⟨stampDuty, duty, hround₂, hduty⟩ : ∃ rounded amount,
      schedule.round (if side = .sell then price.value * shares * schedule.stampDutyRate else 0) =
        .ok rounded ∧ Money.create rounded = .ok amount := by
    refine h.exists_round ?_ ?_
    · split_ifs
      · exact mul_nonneg hgross hstamp
      · exact le_rfl
    · split_ifs
      · exact hamount _ hstamp'
      · norm_num
  obtain ⟨transferFee, fee, hround₃, hfee⟩ :=
    h.exists_round (mul_nonneg hgross htransfer) (hamount _ htransfer')
  refine ⟨⟨paid, duty, fee⟩, ?_⟩
  have hpositive : (refuse (shares = 0) "fee shares must be positive Shares" :
      Except String PUnit) = .ok ⟨⟩ := refuse_eq_ok.mpr hshares.ne'
  unfold calculate
  refine bind_ok_iff.mpr ⟨_, hpositive, bind_ok_iff.mpr ⟨_, hround₁, ?_⟩⟩
  refine bind_ok_iff.mpr ⟨_, hround₂, bind_ok_iff.mpr ⟨_, hround₃, ?_⟩⟩
  exact bind_ok_iff.mpr ⟨_, hpaid, bind_ok_iff.mpr ⟨_, hduty,
    bind_ok_iff.mpr ⟨_, hfee, rfl⟩⟩⟩

/-! ### Regular schedules are lawful -/

/-- Fees do not fall when more shares are traded. -/
lemma calculate_mono (h : schedule.calculate side price shares = .ok fees)
    (h' : schedule.calculate side price shares' = .ok fees') (hshares : shares ≤ shares') :
    fees.commission.value ≤ fees'.commission.value ∧
    fees.stampDuty.value ≤ fees'.stampDuty.value ∧
    fees.transferFee.value ≤ fees'.transferFee.value := by
  obtain ⟨hcommission, hstamp, htransfer⟩ := values_of_calculate h
  obtain ⟨hcommission', hstamp', htransfer'⟩ := values_of_calculate h'
  have hgross : price.value * shares ≤ price.value * shares' :=
    mul_le_mul_of_nonneg_left (by exact_mod_cast hshares) price.positive.le
  have hamount : ∀ rate : ℚ, 0 ≤ rate →
      price.value * shares * rate ≤ price.value * shares' * rate := fun rate hrate =>
    mul_le_mul_of_nonneg_right hgross hrate
  obtain ⟨hrate₁, hrate₂, hrate₃⟩ := schedule.rates_nonneg
  rw [hcommission, hcommission', hstamp, hstamp', htransfer, htransfer']
  refine ⟨quantizeHalfUp_mono (max_le_max le_rfl (hamount _ hrate₁)), quantizeHalfUp_mono ?_,
    quantizeHalfUp_mono (hamount _ hrate₃)⟩
  split_ifs
  · exact hamount _ hrate₂
  · exact le_rfl

/-- The total does not fall, and the cost of the shares and their fees rises. -/
lemma total_mono {total total' : Money} (h : schedule.calculate side price shares = .ok fees)
    (h' : schedule.calculate side price shares' = .ok fees') (hshares : shares ≤ shares')
    (htotal : fees.total = .ok total) (htotal' : fees'.total = .ok total') :
    total.value ≤ total'.value ∧ (shares < shares' →
      price.value * shares + total.value < price.value * shares' + total'.value) := by
  obtain ⟨hcommission, hstamp, htransfer⟩ := calculate_mono h h' hshares
  have hle : total.value ≤ total'.value := by
    rw [Money.value_of_create htotal, Money.value_of_create htotal']
    linarith
  refine ⟨hle, fun hlt => ?_⟩
  have hgross : price.value * shares < price.value * shares' :=
    mul_lt_mul_of_pos_left (by exact_mod_cast hlt) price.positive
  linarith

/-- An amount rounded to the places is close to it, as the quantum is no smaller than a unit. -/
lemma Admitted.near (h : schedule.Admitted) (x : ℚ) :
    |quantizeHalfUp schedule.quantumPlaces x - x| ≤ schedule.feeQuantum / 2 := by
  obtain ⟨c, hc, hquantum⟩ := h.exists_units
  have hscale := scale_pos schedule.quantumPlaces
  have hone : (1 : ℚ) ≤ c := by exact_mod_cast hc
  refine (abs_quantizeHalfUp_sub_le _ _).trans ?_
  rw [hquantum, div_div, mul_comm ((10 : ℚ) ^ _) 2]
  gcongr

/-- The multiple of the quantum at the minimum commission is what the minimum is rounded to. -/
lemma Regular.minimum_rounded (h : schedule.Regular) (hadmitted : schedule.Admitted) :
    ∃ n : ℕ, quantizeHalfUp schedule.quantumPlaces schedule.minimumCommission =
        n * schedule.feeQuantum ∧ schedule.minimumCommission ≤ n * schedule.feeQuantum := by
  obtain ⟨c, hc, hquantum⟩ := hadmitted.exists_units
  obtain ⟨n, hlow, hhigh⟩ := h.minimum
  have hscale := scale_pos schedule.quantumPlaces
  have hmultiple : (n : ℚ) * schedule.feeQuantum =
      ((n * c : ℕ) : ℚ) / 10 ^ schedule.quantumPlaces := by
    rw [hquantum]
    push_cast
    ring
  refine ⟨n, ?_, hlow⟩
  rw [hmultiple] at hlow hhigh ⊢
  rw [le_div_iff₀ hscale] at hlow
  have hhigh' : ((n * c : ℕ) : ℚ) ≤
      schedule.minimumCommission * 10 ^ schedule.quantumPlaces + 1 / 2 := by
    have := (div_le_iff₀ hscale).mp hhigh
    rw [add_mul] at this
    have hhalf : 1 / (2 * (10 : ℚ) ^ schedule.quantumPlaces) * 10 ^ schedule.quantumPlaces =
        1 / 2 := by field_simp
    rwa [hhalf] at this
  exact quantizeHalfUp_eq (by linarith) (by linarith)

/-- Every amount of a regular schedule is rounded to a multiple of the quantum. -/
lemma Regular.multiple (h : schedule.Regular) {rate : ℚ}
    (hrate : rate ∈ [schedule.commissionRate, schedule.stampDutyRate, schedule.transferFeeRate])
    (hnonneg : 0 ≤ price.value * shares * rate) :
    ∃ n : ℕ, quantizeHalfUp schedule.quantumPlaces (price.value * shares * rate) =
      n * schedule.feeQuantum := by
  rcases h.unit with hunit | ⟨hzero₁, hzero₂, hzero₃⟩
  · obtain ⟨n, hn⟩ := @exists_quantizeHalfUp_eq schedule.quantumPlaces _ hnonneg
    exact ⟨n, by rw [hn, hunit, mul_one_div]⟩
  · have hrate0 : rate = 0 := by
      simpa [hzero₁, hzero₂, hzero₃] using hrate
    exact ⟨0, by rw [hrate0, mul_zero, quantizeHalfUp_zero, Nat.cast_zero, zero_mul]⟩

lemma Regular.lawful (h : schedule.Regular) (hadmitted : schedule.Admitted) : schedule.Lawful := by
  constructor
  case rounded =>
    intro side price shares fees hfees
    obtain ⟨hcommission, hstamp, htransfer⟩ := values_of_calculate hfees
    obtain ⟨hrate₁, hrate₂, hrate₃⟩ := schedule.rates_nonneg
    obtain ⟨least, hleast, hle⟩ := h.minimum_rounded hadmitted
    have hgross : 0 ≤ price.value * shares := mul_nonneg price.positive.le (Nat.cast_nonneg _)
    refine ⟨⟨?_, ?_⟩, ⟨?_, ?_⟩, ⟨?_, ?_⟩, ?_⟩
    · rw [hcommission]
      rcases max_choice schedule.minimumCommission
        (price.value * shares * schedule.commissionRate) with hmax | hmax
      · rw [hmax]
        exact ⟨least, hleast⟩
      · rw [hmax]
        exact h.multiple (by simp) (mul_nonneg hgross hrate₁)
    · rw [hcommission]
      exact hadmitted.near _
    · rw [hstamp]
      split_ifs
      · exact h.multiple (by simp) (mul_nonneg hgross hrate₂)
      · exact ⟨0, by rw [quantizeHalfUp_zero, Nat.cast_zero, zero_mul]⟩
    · rw [hstamp]
      exact hadmitted.near _
    · rw [htransfer]
      exact h.multiple (by simp) (mul_nonneg hgross hrate₃)
    · rw [htransfer]
      exact hadmitted.near _
    · rw [hcommission]
      calc schedule.minimumCommission ≤ quantizeHalfUp schedule.quantumPlaces
            schedule.minimumCommission := by rw [hleast]; exact hle
        _ ≤ _ := quantizeHalfUp_mono (le_max_left _ _)
  case nondecreasing =>
    intro side price shares shares' fees fees' hfees hfees' hshares
    obtain ⟨hcommission, hstamp, htransfer⟩ := calculate_mono hfees hfees' hshares
    exact ⟨hcommission, hstamp, htransfer, fun total total' htotal htotal' =>
      total_mono hfees hfees' hshares htotal htotal'⟩

/-! ### Lawful schedules are regular -/

/-- A share of the smallest price. -/
def leastPrice : Price := ⟨1 / 10 ^ 8, by norm_num⟩

/-- The smallest trade pays the minimum commission. -/
lemma Lawful.minimum (h : schedule.Lawful) (hadmitted : schedule.Admitted) :
    ∃ n : ℕ, schedule.minimumCommission ≤ n * schedule.feeQuantum ∧
      n * schedule.feeQuantum ≤
        schedule.minimumCommission + 1 / (2 * 10 ^ schedule.quantumPlaces) := by
  have hscale := scale_pos schedule.quantumPlaces
  rcases schedule.minimum_nonneg.eq_or_lt with hzero | hpos
  · refine ⟨0, ?_, ?_⟩
    · rw [← hzero, Nat.cast_zero, zero_mul]
    · rw [← hzero, Nat.cast_zero, zero_mul]
      positivity
  · have hbound : leastPrice.value * (1 : ℕ) ≤ 2 * 10 ^ 19 := by norm_num [leastPrice]
    obtain ⟨fees, hfees⟩ := hadmitted.exists_calculate .buy leastPrice one_pos hbound
    obtain ⟨⟨⟨n, hn⟩, -⟩, -, -, hle⟩ := h.rounded _ _ _ _ hfees
    obtain ⟨hcommission, -, -⟩ := values_of_calculate hfees
    have hleast : 1 / 10 ^ 4 ≤ schedule.minimumCommission :=
      unit_le_of_hasPlaces hadmitted.minimum_places hpos
    have hrate := hadmitted.rates_le_one.1
    have hamount : leastPrice.value * (1 : ℕ) * schedule.commissionRate ≤
        schedule.minimumCommission := by
      have : leastPrice.value * (1 : ℕ) = 1 / 10 ^ 8 := by norm_num [leastPrice]
      rw [this]
      linarith
    rw [max_eq_left hamount] at hcommission
    have hnear := (abs_le.mp
      (abs_quantizeHalfUp_sub_le schedule.quantumPlaces schedule.minimumCommission)).2
    refine ⟨n, ?_, ?_⟩
    · rw [← hn]
      exact hle
    · rw [← hn, hcommission]
      linarith

/-- A trade on which a rate comes to a given number of units. -/
lemma Admitted.exists_amount (h : schedule.Admitted) {rate : ℚ} (hpos : 0 < rate)
    (hle : rate ≤ 1) (hplaces : HasPlaces 8 rate) {j : ℕ} (hj : 0 < j) (hbound : j ≤ 10 ^ 11) :
    ∃ shares : ℕ, 0 < shares ∧ leastPrice.value * shares ≤ 2 * 10 ^ 19 ∧
      (j : ℚ) ≤ leastPrice.value * shares * rate * 10 ^ schedule.quantumPlaces ∧
      quantizeHalfUp schedule.quantumPlaces (leastPrice.value * shares * rate) =
        j / 10 ^ schedule.quantumPlaces := by
  set scale : ℚ := 10 ^ schedule.quantumPlaces with hscale
  have hscale₁ : 1 ≤ scale := one_le_pow₀ (by norm_num)
  have hscale₄ : scale ≤ 10 ^ 4 := pow_le_pow_right₀ (by norm_num) h.quantumPlaces_le
  have hleast : 1 / 10 ^ 8 ≤ rate := unit_le_of_hasPlaces hplaces hpos
  have hstep : 0 < rate * scale := by positivity
  have hj' : (0 : ℚ) < j := by exact_mod_cast hj
  -- The shares are as few as the units need.
  set shares : ℕ := ⌈(j : ℚ) * 10 ^ 8 / (rate * scale)⌉₊ with hshares
  have hceil : (j : ℚ) * 10 ^ 8 / (rate * scale) ≤ shares := Nat.le_ceil _
  have hlt : (shares : ℚ) < j * 10 ^ 8 / (rate * scale) + 1 := Nat.ceil_lt_add_one (by positivity)
  have hvalue : leastPrice.value = 1 / 10 ^ 8 := rfl
  have hlow : (j : ℚ) * 10 ^ 8 ≤ shares * (rate * scale) := (div_le_iff₀ hstep).mp hceil
  have hhigh : (shares : ℚ) * (rate * scale) < j * 10 ^ 8 + rate * scale := by
    calc (shares : ℚ) * (rate * scale) < (j * 10 ^ 8 / (rate * scale) + 1) * (rate * scale) := by
          gcongr
      _ = j * 10 ^ 8 + rate * scale := by field_simp
  have hstep' : rate * scale ≤ 10 ^ 4 := by
    calc rate * scale ≤ 1 * 10 ^ 4 := by gcongr
      _ = 10 ^ 4 := one_mul _
  refine ⟨shares, Nat.ceil_pos.mpr (by positivity), ?_, ?_, ?_⟩
  · have hquotient : (j : ℚ) * 10 ^ 8 / (rate * scale) ≤ 10 ^ 11 * 10 ^ 16 := by
      rw [div_le_iff₀ hstep]
      have hj'' : (j : ℚ) ≤ 10 ^ 11 := by exact_mod_cast hbound
      have hunit : 1 / 10 ^ 8 ≤ rate * scale := by
        calc 1 / 10 ^ 8 ≤ rate * 1 := by linarith
          _ ≤ rate * scale := by gcongr
      calc (j : ℚ) * 10 ^ 8 ≤ 10 ^ 11 * 10 ^ 8 := by gcongr
        _ = 10 ^ 11 * 10 ^ 16 * (1 / 10 ^ 8) := by norm_num
        _ ≤ 10 ^ 11 * 10 ^ 16 * (rate * scale) := by gcongr
    rw [hvalue]
    have : (shares : ℚ) ≤ 10 ^ 11 * 10 ^ 16 + 1 := by linarith
    linarith
  · rw [hvalue]
    linarith
  · refine quantizeHalfUp_eq ?_ ?_
    · rw [hvalue, ← hscale]
      linarith
    · rw [hvalue, ← hscale]
      linarith

/-- One and two units that are both multiples of a quantum make it one unit. -/
lemma unit_of_multiples {c m n j : ℕ} {quantum scale : ℚ} (hscale : 0 < scale)
    (hquantum : quantum = c / scale) (hm : (j : ℚ) / scale = m * quantum)
    (hn : ((j + 1 : ℕ) : ℚ) / scale = n * quantum) : quantum = 1 / scale := by
  have hmultiple : ∀ {i k : ℕ}, (i : ℚ) / scale = k * quantum → i = k * c := by
    intro i k h
    rw [hquantum] at h
    field_simp at h
    exact_mod_cast h
  have hdvd : c ∣ 1 := (Nat.dvd_add_right (Dvd.intro_left m (hmultiple hm).symm)).mp
    (Dvd.intro_left n (hmultiple hn).symm)
  rw [hquantum, Nat.dvd_one.mp hdvd, Nat.cast_one]

lemma Lawful.regular (h : schedule.Lawful) (hadmitted : schedule.Admitted) : schedule.Regular := by
  obtain ⟨c, hc, hquantum⟩ := hadmitted.exists_units
  obtain ⟨hrate₁, hrate₂, hrate₃⟩ := schedule.rates_nonneg
  obtain ⟨hle₁, hle₂, hle₃⟩ := hadmitted.rates_le_one
  obtain ⟨hplaces₁, hplaces₂, hplaces₃⟩ := hadmitted.rates_places
  have hscale := scale_pos schedule.quantumPlaces
  refine ⟨?_, h.minimum hadmitted⟩
  by_contra hneither
  rw [not_or] at hneither
  obtain ⟨hunit, hrates⟩ := hneither
  have hzero : ((0 : ℕ) : ℚ) / 10 ^ schedule.quantumPlaces = (0 : ℕ) * schedule.feeQuantum := by
    rw [Nat.cast_zero, zero_div, zero_mul]
  have hstamp : schedule.stampDutyRate = 0 := by
    by_contra hne
    obtain ⟨shares, hpos, hbound, -, hamount⟩ := hadmitted.exists_amount
      (lt_of_le_of_ne hrate₂ (Ne.symm hne)) hle₂ hplaces₂ one_pos (by norm_num)
    obtain ⟨fees, hfees⟩ := hadmitted.exists_calculate .sell leastPrice hpos hbound
    obtain ⟨-, ⟨⟨n, hn⟩, -⟩, -⟩ := h.rounded _ _ _ _ hfees
    rw [(values_of_calculate hfees).2.1, if_pos rfl, hamount] at hn
    exact hunit (unit_of_multiples hscale hquantum hzero (by simpa using hn))
  have htransfer : schedule.transferFeeRate = 0 := by
    by_contra hne
    obtain ⟨shares, hpos, hbound, -, hamount⟩ := hadmitted.exists_amount
      (lt_of_le_of_ne hrate₃ (Ne.symm hne)) hle₃ hplaces₃ one_pos (by norm_num)
    obtain ⟨fees, hfees⟩ := hadmitted.exists_calculate .buy leastPrice hpos hbound
    obtain ⟨-, -, ⟨⟨n, hn⟩, -⟩, -⟩ := h.rounded _ _ _ _ hfees
    rw [(values_of_calculate hfees).2.2, hamount] at hn
    exact hunit (unit_of_multiples hscale hquantum hzero (by simpa using hn))
  have hcommission : schedule.commissionRate = 0 := by
    by_contra hne
    -- Two commissions that are one unit apart and above the minimum.
    have hmultiple : ∀ j : ℕ, 0 < j → j ≤ 10 ^ 11 →
        schedule.minimumCommission * 10 ^ schedule.quantumPlaces ≤ j →
        ∃ n : ℕ, (j : ℚ) / 10 ^ schedule.quantumPlaces = n * schedule.feeQuantum := by
      intro j hj hjle hjmin
      obtain ⟨shares, hpos, hbound, hlow, hamount⟩ := hadmitted.exists_amount
        (lt_of_le_of_ne hrate₁ (Ne.symm hne)) hle₁ hplaces₁ hj hjle
      obtain ⟨fees, hfees⟩ := hadmitted.exists_calculate .buy leastPrice hpos hbound
      obtain ⟨⟨⟨n, hn⟩, -⟩, -⟩ := h.rounded _ _ _ _ hfees
      have hmax : schedule.minimumCommission ≤
          leastPrice.value * shares * schedule.commissionRate :=
        le_of_mul_le_mul_right (hjmin.trans hlow) hscale
      rw [(values_of_calculate hfees).1, max_eq_right hmax, hamount] at hn
      exact ⟨n, hn⟩
    set j : ℕ := ⌈schedule.minimumCommission * 10 ^ schedule.quantumPlaces⌉₊ + 1 with hj
    have hmin : schedule.minimumCommission * 10 ^ schedule.quantumPlaces ≤ 10 ^ 10 := by
      have hpow : (10 : ℚ) ^ schedule.quantumPlaces ≤ 10 ^ 4 :=
        pow_le_pow_right₀ (by norm_num) hadmitted.quantumPlaces_le
      calc schedule.minimumCommission * 10 ^ schedule.quantumPlaces ≤ 1000000 * 10 ^ 4 := by
            have := hadmitted.minimum_le
            gcongr
        _ = 10 ^ 10 := by norm_num
    have hceil : ⌈schedule.minimumCommission * 10 ^ schedule.quantumPlaces⌉₊ ≤ 10 ^ 10 :=
      Nat.ceil_le.mpr (by exact_mod_cast hmin)
    have hle := Nat.le_ceil (schedule.minimumCommission * 10 ^ schedule.quantumPlaces)
    have hjmin : schedule.minimumCommission * 10 ^ schedule.quantumPlaces ≤ j := by
      rw [hj]
      push_cast
      linarith
    obtain ⟨m, hm⟩ := hmultiple j (by omega) (by omega) hjmin
    obtain ⟨n, hn⟩ := hmultiple (j + 1) (by omega) (by omega) (by push_cast; linarith)
    exact hunit (unit_of_multiples hscale hquantum hm hn)
  exact hrates ⟨hcommission, hstamp, htransfer⟩

end Laws

/-! ### Two schedules -/

namespace Sample

/-- A schedule of three rates and a minimum commission of five, rounded to the cent. -/
def cents : FeeSchedule where
  commissionRate := 3 / 10 ^ 4
  minimumCommission := 5
  stampDutyRate := 5 / 10 ^ 4
  transferFeeRate := 1 / 10 ^ 5
  feeQuantum := 1 / 10 ^ 2
  quantumPlaces := 2
  rates_nonneg := by norm_num
  minimum_nonneg := by norm_num

/-- The same schedule with a quantum of five cents. -/
def fiveCents : FeeSchedule := { cents with feeQuantum := 5 / 10 ^ 2 }

lemma admitted_cents : cents.Admitted where
  rates_le_one := by norm_num [cents]
  rates_places := by
    refine ⟨⟨30000, ?_⟩, ⟨50000, ?_⟩, ⟨1000, ?_⟩⟩ <;> norm_num [cents]
  minimum_le := by norm_num [cents]
  minimum_places := ⟨50000, by norm_num [cents]⟩
  quantum_ge := by norm_num [cents]
  quantum_le := by norm_num [cents]
  quantumPlaces_le := by norm_num [cents]
  quantum_places := ⟨1, by norm_num [cents]⟩

lemma admitted_fiveCents : fiveCents.Admitted :=
  { admitted_cents with
    quantum_ge := by norm_num [fiveCents]
    quantum_le := by norm_num [fiveCents]
    quantum_places := ⟨5, by norm_num [fiveCents, cents]⟩ }

end Sample

end FeeSchedule

end FirmQuant
