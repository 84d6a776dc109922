import FirmQuant.Execution.Desk
import FirmQuant.Execution.ExecutionController

/-!
# Sizing from current facts

What `_shares_for_current_facts` makes of the position and the cash of the moment.  A BUY is the
largest whole number of units that the authorization, the target and the cash allow: the search
walks down from the most that the price alone allows, so every larger number of units has been
tried or costs too much without its fees.
-/

namespace FirmQuant

open Effect

namespace ExecutionController

/-! ## Multiples of a unit -/

section Multiples

variable {unit n m : ℕ}

lemma dvd_sub_mod (unit n : ℕ) : unit ∣ n - n % unit := Nat.dvd_sub_mod n

lemma le_sub_mod (hdvd : unit ∣ m) (hle : m ≤ n) : m ≤ n - n % unit := by
  obtain ⟨k, rfl⟩ := hdvd
  rcases Nat.eq_zero_or_pos unit with rfl | hunit
  · omega
  · have hk : k ≤ n / unit := by
      rw [Nat.le_div_iff_mul_le hunit, mul_comm]
      exact hle
    have hsplit := Nat.div_add_mod n unit
    have hmul : unit * k ≤ unit * (n / unit) := Nat.mul_le_mul_left unit hk
    omega

lemma add_unit_le (hn : unit ∣ n) (hm : unit ∣ m) (hlt : n < m) : n + unit ≤ m := by
  obtain ⟨k, rfl⟩ := hn
  obtain ⟨j, rfl⟩ := hm
  have hkj : k < j := lt_of_mul_lt_mul_left hlt (Nat.zero_le unit)
  calc unit * k + unit = unit * (k + 1) := by ring
    _ ≤ unit * j := Nat.mul_le_mul_left unit hkj

end Multiples

/-! ## The cost of a BUY -/

section Buys

variable {schedule : FeeSchedule} {planned : PlannedOrder} {cash : ℚ} {candidate n : ℕ}
  {position : Option BrokerPositionFact}

/-- The shares at their limit and the fees of the schedule. -/
def buyCost (schedule : FeeSchedule) (planned : PlannedOrder) (n : ℕ) : ℚ :=
  planned.limitPrice.value * n + (schedule.total .buy planned.limitPrice n).value

/-- The fees of the shares are calculated, and the cash covers the shares and the fees. -/
def Covered (schedule : FeeSchedule) (planned : PlannedOrder) (cash : ℚ) (n : ℕ) : Prop :=
  ∃ fees total, schedule.calculate .buy planned.limitPrice n = .ok fees ∧ fees.total = .ok total ∧
    planned.limitPrice.value * n + total.value ≤ cash

lemma buyFees_eq_ok {fees : Money} (h : buyFees schedule planned n = .ok fees) :
    ∃ breakdown, schedule.calculate .buy planned.limitPrice n = .ok breakdown ∧
      breakdown.total = .ok fees := by
  unfold buyFees at h
  split at h
  · next total htotal =>
    cases h
    obtain ⟨breakdown, hbreakdown, htotal⟩ := bind_ok_iff.mp htotal
    exact ⟨breakdown, hbreakdown, htotal⟩
  · cases h

lemma value_of_buyFees {fees : Money} (h : buyFees schedule planned n = .ok fees) :
    fees.value = (schedule.total .buy planned.limitPrice n).value := by
  obtain ⟨breakdown, hbreakdown, htotal⟩ := buyFees_eq_ok h
  rw [Money.value_of_create htotal, FeeSchedule.total_of_calculate hbreakdown]

/-! ## The search -/

/-- The search stops at the first number of units that the cash covers. -/
lemma affordableShares_eq_ok (hunit : planned.tradingUnit ∣ candidate)
    (h : affordableShares schedule planned cash candidate = .ok n) :
    planned.tradingUnit ∣ n ∧ n ≤ candidate ∧ (0 < n → Covered schedule planned cash n) ∧
      ∀ m, planned.tradingUnit ∣ m → n < m → m ≤ candidate →
        cash < buyCost schedule planned m := by
  induction candidate using Nat.strong_induction_on with
  | _ candidate ih =>
    rw [affordableShares] at h
    split at h
    · next hzero =>
      cases h
      subst hzero
      exact ⟨hunit, le_rfl, fun hpos => absurd hpos (lt_irrefl 0), fun m _ hlt hle =>
        absurd (hlt.trans_le hle) (lt_irrefl 0)⟩
    · next hne =>
      split at h
      · cases h
      · next fees hfees =>
        obtain ⟨breakdown, hbreakdown, htotal⟩ := buyFees_eq_ok hfees
        split at h
        · next hcovers =>
          cases h
          exact ⟨hunit, le_rfl, fun _ => ⟨breakdown, fees, hbreakdown, htotal, hcovers⟩,
            fun m _ hlt hle => absurd hlt (not_lt.mpr hle)⟩
        · next hcosts =>
          have hpos := planned.unit_pos
          have hfits : planned.tradingUnit ≤ candidate :=
            Nat.le_of_dvd (Nat.pos_of_ne_zero hne) hunit
          obtain ⟨hdvd, hle, hcovered, hmaximal⟩ :=
            ih (candidate - planned.tradingUnit) (by omega) (Nat.dvd_sub hunit dvd_rfl) h
          refine ⟨hdvd, by omega, hcovered, fun m hm hlt hlem => ?_⟩
          rcases hlem.eq_or_lt with rfl | hltm
          · rw [not_le, value_of_buyFees hfees] at hcosts
            exact hcosts
          · have hstep := add_unit_le hm hunit hltm
            exact hmaximal m hm hlt (by omega)

/-- What the shares alone cost is more than the cash, once the price allows no more of them. -/
lemma cash_lt_of_floor_lt {m : ℕ} (hcash : 0 ≤ cash)
    (h : ⌊cash / planned.limitPrice.value⌋.toNat < m) : cash < buyCost schedule planned m := by
  have hprice := planned.limitPrice.positive
  have hfloor : 0 ≤ ⌊cash / planned.limitPrice.value⌋ :=
    Int.floor_nonneg.mpr (div_nonneg hcash hprice.le)
  have hlt : ⌊cash / planned.limitPrice.value⌋ < (m : ℤ) := by omega
  have hquotient : cash / planned.limitPrice.value < m := by
    have hcast := Int.floor_lt.mp hlt
    exact_mod_cast hcast
  have hgross : cash < planned.limitPrice.value * m := by
    rw [mul_comm]
    exact (div_lt_iff₀ hprice).mp hquotient
  have hfees := (schedule.total .buy planned.limitPrice m).nonneg
  unfold buyCost
  linarith

/-- The shares of a position. -/
def heldShares (position : Option BrokerPositionFact) : ℕ := position.elim 0 (·.totalShares)

/-- A whole number of units within the authorization, the target and the cash, and the largest. -/
structure BuySized (schedule : FeeSchedule) (planned : PlannedOrder)
    (position : Option BrokerPositionFact) (cash : ℚ) (n : ℕ) : Prop where
  unit : planned.tradingUnit ∣ n
  authorized : n ≤ planned.uquantAuthorizedShares
  target : 0 < n → heldShares position + n ≤ planned.targetShares
  covered : 0 < n → Covered schedule planned cash n
  largest : ∀ m, planned.tradingUnit ∣ m → n < m → ¬ (m ≤ planned.uquantAuthorizedShares ∧
    heldShares position + m ≤ planned.targetShares ∧ buyCost schedule planned m ≤ cash)

/-- The wanted shares are the most that the authorization and the target allow. -/
lemma le_wantedShares {m : ℕ} (hunit : planned.tradingUnit ∣ m)
    (hauthorized : m ≤ planned.uquantAuthorizedShares)
    (htarget : heldShares position + m ≤ planned.targetShares) :
    m ≤ wantedShares planned position := by
  unfold heldShares at htarget
  exact le_sub_mod hunit (le_min hauthorized (by omega))

lemma wantedShares_le :
    wantedShares planned position ≤ planned.uquantAuthorizedShares ∧
      wantedShares planned position ≤ planned.targetShares - heldShares position := by
  have hle : wantedShares planned position ≤ min planned.uquantAuthorizedShares
      (planned.targetShares - heldShares position) := Nat.sub_le _ _
  exact ⟨hle.trans (min_le_left _ _), hle.trans (min_le_right _ _)⟩

lemma buyShares_eq_ok {reason : OutcomeReason} {wanted : ℕ} (hcash : 0 ≤ cash)
    (h : buyShares schedule planned wanted cash = .ok (n, reason)) :
    planned.tradingUnit ∣ n ∧ n ≤ wanted ∧ (0 < n → Covered schedule planned cash n) ∧
      ∀ m, planned.tradingUnit ∣ m → n < m → m ≤ wanted →
        cash < buyCost schedule planned m := by
  unfold buyShares at h
  obtain ⟨candidate, hcandidate, h⟩ := bind_ok_iff.mp h
  have hn : candidate = n := by
    split_ifs at h with hzero hshrink
    · cases h
      exact hzero
    · cases h
      rfl
    · cases h
      rfl
  subst hn
  obtain ⟨hunit, hle, hcovered, hmaximal⟩ :=
    affordableShares_eq_ok (dvd_sub_mod planned.tradingUnit _) hcandidate
  have hcapped := (hle.trans (Nat.sub_le _ _)).trans (min_le_left _ _)
  refine ⟨hunit, hcapped, hcovered, fun m hm hlt hwanted => ?_⟩
  by_cases hgross : ⌊cash / planned.limitPrice.value⌋.toNat < m
  · exact cash_lt_of_floor_lt hcash hgross
  · exact hmaximal m hm hlt (le_sub_mod hm (le_min hwanted (not_lt.mp hgross)))

end Buys

section Facts

variable {B : Type} (g : Gateway B) (config : Config)

lemma call_of_ok {α : Type} {port : B → Except Failure α × B} {s : State B} {a : α} {b : B}
    (h : port s.outside = (.ok a, b)) : call port s = .ok a { s with outside := b } := by
  unfold call
  rw [h]

/-- A BUY that is sized is the largest whole number of units that the authorization, the target and
the cash with fees allow. -/
theorem buy_sized (planned : PlannedOrder) (s s' : State B) (positions : List BrokerPositionFact)
    (account : BrokerAccountFact) (b b' : B) (n : ℕ) (reason : OutcomeReason)
    (hside : planned.side = .buy) (hpositions : g.queryPositions s.outside = (.ok positions, b))
    (haccount : g.queryAccount b = (.ok account, b'))
    (h : sharesForCurrentFacts g config planned s = .ok (n, reason) s') :
    BuySized config.feeSchedule planned (positionOf planned positions)
      account.availableCash.value n := by
  unfold sharesForCurrentFacts at h
  obtain ⟨asked, s₁, hasked, h⟩ := bind_eq_ok.mp h
  rw [call_of_ok hpositions] at hasked
  cases hasked
  obtain ⟨_, s₂, hrecorded, h⟩ := bind_eq_ok.mp h
  cases hrecorded
  simp only [hside] at h
  obtain ⟨hauthorized, htarget⟩ := @wantedShares_le planned (positionOf planned positions)
  split_ifs at h with hwanted
  · cases h
    refine ⟨dvd_zero _, Nat.zero_le _, fun hpos => absurd hpos (lt_irrefl 0),
      fun hpos => absurd hpos (lt_irrefl 0), fun m hm hlt hall => ?_⟩
    have hle := le_wantedShares hm hall.1 hall.2.1
    omega
  · obtain ⟨answered, s₃, hanswered, h⟩ := bind_eq_ok.mp h
    rw [call_of_ok haccount] at hanswered
    cases hanswered
    cases hsized : buyShares config.feeSchedule planned
        (wantedShares planned (positionOf planned positions)) account.availableCash.value with
    | error failure =>
      simp only [hsized] at h
      cases h
    | ok sized =>
      simp only [hsized] at h
      cases h
      obtain ⟨hunit, hle, hcovered, hmaximal⟩ :=
        buyShares_eq_ok account.availableCash.nonneg hsized
      refine ⟨hunit, hle.trans hauthorized, fun hpos => by omega, hcovered,
        fun m hm hlt hall => ?_⟩
      exact absurd hall.2.2 (not_le.mpr (hmaximal m hm hlt (le_wantedShares hm hall.1 hall.2.1)))

end Facts

/-! ### A purchase -/

namespace Sample

/-- A desk as the gateway of the controller. -/
def gateway (rules : DeskRules) : Gateway Desk where
  clock desk := (desk.wall rules, desk)
  queryAccount desk := (.ok desk.account, desk)
  queryPositions desk := (.ok desk.positions, desk)
  queryFills desk := (.ok desk.fills, desk)
  submitOrder command := Desk.submit rules command
  cancelOrder brokerOrderId := Desk.cancel rules brokerOrderId

/-- The controller of the sample, which leaves open orders open. -/
def config : Config where
  feeSchedule := FeeSchedule.Sample.cents
  cancelOpenOrdersAtEnd := false
  ids label _ := label

/-- The controller in front of a desk. -/
def start (desk : Desk) : State Desk := ⟨Ledger.empty, desk, none, []⟩

/-- A purchase of 1500 shares at ten. -/
def purchase : PlannedOrder :=
  { Desk.lot "A" "600000" .buy with
    uquantAuthorizedShares := 1500
    targetShares := 1500
    authorized_pos := by norm_num }

/-- The cash pays for a thousand shares, but not for their fees. -/
def buyer : Desk := Desk.fresh 10002 []

lemma purchase_sized : sharesForCurrentFacts (gateway Desk.filling) config purchase (start buyer) =
    .ok (900, .actualCashShrink) { start buyer with sizing := some ⟨purchase, none⟩ } := by
  have hfees : buyFees config.feeSchedule purchase 1000 = .ok ⟨51 / 10, by norm_num⟩ := by
    decide +kernel
  have hfees' : buyFees config.feeSchedule purchase 900 = .ok ⟨509 / 100, by norm_num⟩ := by
    decide +kernel
  have hsearch : affordableShares config.feeSchedule purchase 10002 1000 = .ok 900 := by
    rw [affordableShares, dif_neg (by norm_num), hfees]
    simp only
    rw [if_neg (by norm_num [purchase, Desk.lot]), affordableShares,
      dif_neg (by norm_num [purchase, Desk.lot])]
    have hunit : 1000 - purchase.tradingUnit = 900 := rfl
    rw [hunit, hfees']
    simp only
    rw [if_pos (by norm_num [purchase, Desk.lot])]
  have hbuy : buyShares config.feeSchedule purchase 1500 10002 = .ok (900, .actualCashShrink) := by
    have hfloor : min 1500 ⌊(10002 : ℚ) / purchase.limitPrice.value⌋.toNat = 1000 := by
      decide +kernel
    unfold buyShares
    simp only [hfloor]
    exact bind_ok_iff.mpr ⟨900, hsearch, rfl⟩
  unfold sharesForCurrentFacts
  rw [bind_apply, call_of_ok (a := []) (b := buyer) rfl]
  change
    ((call (gateway Desk.filling).queryAccount : Run Desk BrokerAccountFact) >>= fun _ => _) _ = _
  have hsized : buyShares config.feeSchedule purchase (wantedShares purchase
      (positionOf purchase [])) buyer.account.availableCash.value = _ := hbuy
  rw [bind_apply, call_of_ok (b := buyer) rfl]
  simp only [hsized]
  rfl

end Sample

/-- The cash pays for 1000 shares, and with their fees for 900. -/
theorem purchase_largest : BuySized FeeSchedule.Sample.cents Sample.purchase none 10002 900 :=
  buy_sized (Sample.gateway Desk.filling) Sample.config Sample.purchase
    (Sample.start Sample.buyer) _ [] (Sample.buyer.account) Sample.buyer Sample.buyer 900 _ rfl rfl
    rfl Sample.purchase_sized

end ExecutionController

end FirmQuant
