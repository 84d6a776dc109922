import FirmQuant.Execution.Desk

/-!
# SELL before BUY

The loop of `execute` blocks a BUY once a SELL of the plan is incomplete.  The flag behind the
guard is written anew by every later SELL, so it says whether the *last* SELL was incomplete.
This module relates the flag to the outcomes: in every run in which no SELL ends FILLED after
an incomplete one, no BUY is submitted after an incomplete SELL.
-/

namespace FirmQuant

open Effect

namespace LiveController

variable {B : Type} {p : Ports B} {config : LiveConfig}

/-! ## One order -/

/-- The commands that were passed to `capability.submit_order`. -/
def submissions (trace : List (Observation B)) : List BrokerOrderCommand :=
  trace.filterMap fun
    | .submitOrder _ command => some command
    | _ => none

/-- A SELL outcome that did not end in FILLED. -/
def IncompleteSell (o : ExecutionOutcome) : Prop :=
  o.side = .sell ∧ o.finalState ≠ some .filled

instance : DecidablePred IncompleteSell := fun o =>
  inferInstanceAs (Decidable (o.side = .sell ∧ o.finalState ≠ some .filled))

/-- What one order does to the variables of the loop: it appends one outcome of its side; a
BUY leaves the SELL flag alone; a SELL that is looked at sets the flag to its own outcome. -/
structure OrderRecorded (st : LoopState) (planned : PlannedOrder) (st' : LoopState)
    (o : ExecutionOutcome) : Prop where
  outcomes : st'.outcomes = st.outcomes ++ [o]
  side : o.side = planned.side
  stuck : st.unresolvedUnknown = true → st'.unresolvedUnknown = true
  buy : planned.side = .buy → st'.incompleteSell = st.incompleteSell
  sell : planned.side = .sell → st.unresolvedUnknown = false →
    st'.incompleteSell = decide (o.finalState ≠ some .filled)

variable {st st' : LoopState} {planned : PlannedOrder} {w w' : World B}

variable (hst : st.unresolvedUnknown = false)

include hst

/-- A BUY is recorded as it is, a SELL with the cash that it left. -/
lemma OrderRecorded.of_side {st₁ : LoopState} {o : ExecutionOutcome} {incomplete : Bool}
    (h : (match planned.side with
      | .buy => pure st₁
      | .sell => do
        let cash ← availableCash p
        pure { st₁ with
          incompleteSell := incomplete
          cashAfterSells := cash }) w = .ok st' w')
    (houtcomes : st₁.outcomes = st.outcomes ++ [o]) (hside : o.side = planned.side)
    (hsame : st₁.incompleteSell = st.incompleteSell)
    (hincomplete : incomplete = decide (o.finalState ≠ some .filled)) :
    OrderRecorded st planned st' o := by
  cases hs : planned.side with
  | buy =>
    simp only [hs, pure_apply, EStateM.Result.ok.injEq] at h
    obtain ⟨rfl, -⟩ := h
    exact ⟨houtcomes, hside, by simp [hst], fun _ => hsame, by simp [hs]⟩
  | sell =>
    simp only [hs] at h
    obtain ⟨cash, w₁, -, h⟩ := bind_eq_ok.mp h
    simp only [pure_apply, EStateM.Result.ok.injEq] at h
    obtain ⟨rfl, -⟩ := h
    exact ⟨houtcomes, hside, by simp [hst], by simp [hs], fun _ _ => hincomplete⟩

lemma recordExisting_recorded {existing : OrderAggregate}
    (h : recordExisting p st planned existing w = .ok st' w') :
    ∃ o, OrderRecorded st planned st' o :=
  ⟨outcome planned existing (reasonForState existing),
    .of_side hst h rfl rfl rfl (by simp [outcome])⟩

lemma recordSubmitted_recorded {shares : ℕ}
    (h : recordSubmitted p config st planned shares w = .ok st' w') :
    ∃ o, OrderRecorded st planned st' o := by
  obtain ⟨⟨final, reason, cancels⟩, w₁, -, h⟩ := bind_eq_ok.mp h
  exact ⟨outcome planned final reason, .of_side hst h rfl rfl rfl (by simp [outcome])⟩

lemma recordUnsized_recorded {reason : OutcomeReason}
    (h : recordUnsized p st planned reason w = .ok st' w') :
    ∃ o, OrderRecorded st planned st' o :=
  ⟨blockedOutcome planned reason, .of_side hst h rfl rfl rfl (by simp [blockedOutcome])⟩

lemma recordDeadlineBlocked_recorded :
    OrderRecorded st planned (recordDeadlineBlocked st planned)
      (blockedOutcome planned .blockedByGlobalExecutionDeadline) := by
  cases hs : planned.side with
  | buy =>
    simp only [recordDeadlineBlocked, hs]
    exact ⟨rfl, rfl, by simp [hst], fun _ => rfl, by simp [hs]⟩
  | sell =>
    simp only [recordDeadlineBlocked, hs]
    exact ⟨rfl, rfl, by simp [hst], by simp [hs], by simp [blockedOutcome]⟩

omit hst

/-- What one order of the plan does to the variables of the loop. -/
theorem executeOrder_recorded (h : executeOrder p config st planned w = .ok st' w') :
    ∃ o, OrderRecorded st planned st' o := by
  unfold executeOrder at h
  split_ifs at h with hunknown hbuy
  · simp only [pure_apply, EStateM.Result.ok.injEq] at h
    obtain ⟨rfl, -⟩ := h
    exact ⟨_, rfl, rfl, fun _ => hunknown, fun _ => rfl, fun _ hst => by simp [hunknown] at hst⟩
  · simp only [pure_apply, EStateM.Result.ok.injEq] at h
    obtain ⟨rfl, -⟩ := h
    exact ⟨_, rfl, rfl, fun hst => hst, fun _ => rfl, fun hsell _ => by simp [hbuy.1] at hsell⟩
  have hst : st.unresolvedUnknown = false := by simpa using hunknown
  obtain ⟨w₀, w₁, -, h⟩ := bind_eq_ok.mp h
  cases hfind : w₀.ledger.findEconomicOrder planned.decisionId planned.uquantOrderId with
  | some existing =>
    simp only [hfind] at h
    exact recordExisting_recorded hst h
  | none =>
  simp only [hfind] at h
  obtain ⟨safe, w₂, -, h⟩ := bind_eq_ok.mp h
  split_ifs at h
  · obtain ⟨⟨shares, sizing⟩, w₃, -, h⟩ := bind_eq_ok.mp h
    dsimp only at h
    split_ifs at h
    · exact recordUnsized_recorded hst h
    · exact recordSubmitted_recorded hst h
  · simp only [pure_apply, EStateM.Result.ok.injEq] at h
    obtain ⟨rfl, -⟩ := h
    exact ⟨_, recordDeadlineBlocked_recorded hst⟩

/-- A BUY that comes while the SELL flag or the unknown flag is set touches nothing. -/
lemma executeOrder_blocked (w : World B) (hbuy : planned.side = .buy)
    (h : st.unresolvedUnknown = true ∨ st.incompleteSell = true) :
    finalState (executeOrder p config st planned w) = w := by
  unfold executeOrder
  split_ifs with hunknown hsell
  · rfl
  · rfl
  · simp_all

/-! ## The loop -/

/-- No SELL ends FILLED after a SELL that did not. -/
def FilledSellsFirst (outcomes : List ExecutionOutcome) : Prop :=
  outcomes.Pairwise fun earlier later =>
    IncompleteSell earlier → later.side = .sell → later.finalState ≠ some .filled

/-- The guard of the loop knows of every incomplete SELL. -/
def GuardArmed (st : LoopState) : Prop :=
  st.unresolvedUnknown = true ∨ st.incompleteSell = true ∨ ∀ o ∈ st.outcomes, ¬ IncompleteSell o

lemma executeOrder_guardArmed (hg : GuardArmed st)
    (h : executeOrder p config st planned w = .ok st' w') (hcond : FilledSellsFirst st'.outcomes) :
    GuardArmed st' := by
  obtain ⟨o, ho⟩ := executeOrder_recorded h
  rcases hunknown : st.unresolvedUnknown with _ | _
  swap
  · exact .inl (ho.stuck hunknown)
  cases hs : planned.side with
  | buy =>
    rcases hg with hst | hst | hall
    · simp [hunknown] at hst
    · exact .inr (.inl ((ho.buy hs).trans hst))
    · refine .inr (.inr fun x hx => ?_)
      rw [ho.outcomes, List.mem_append, List.mem_singleton] at hx
      rcases hx with hx | rfl
      · exact hall x hx
      · exact fun hc => by simp [IncompleteSell, ho.side, hs] at hc
  | sell =>
    have hflag := ho.sell hs hunknown
    by_cases hfilled : o.finalState = some .filled
    · -- A filled SELL vouches for all earlier ones, since none was incomplete.
      refine .inr (.inr fun x hx hc => ?_)
      rw [ho.outcomes] at hx hcond
      rcases List.mem_snoc.mp hx with hx | hx
      · have := (List.pairwise_append.mp hcond).2.2 x hx o (by simp) hc (ho.side.trans hs)
        exact this hfilled
      · rw [hx] at hc
        exact hc.2 hfilled
    · exact .inr (.inl (by rw [hflag]; simp [hfilled]))

lemma executeOrders_extends {orders : List PlannedOrder} :
    ∀ {st st' : LoopState} {w w' : World B},
      executeOrders p config st orders w = .ok st' w' → st.outcomes <+: st'.outcomes := by
  induction orders with
  | nil =>
    intro st st' w w' h
    cases h
    exact List.prefix_refl _
  | cons planned rest ih =>
    intro st st' w w' h
    obtain ⟨next, w₁, hstep, hrest⟩ := bind_eq_ok.mp h
    obtain ⟨o, ho⟩ := executeOrder_recorded hstep
    exact (ho.outcomes ▸ List.prefix_append _ _).trans (ih hrest)

/-- The invariant of the loop, by induction over the orders already looked at. -/
theorem executeOrders_guardArmed {orders : List PlannedOrder} :
    ∀ {st st' : LoopState} {w w' : World B}, GuardArmed st →
      executeOrders p config st orders w = .ok st' w' → FilledSellsFirst st'.outcomes →
      GuardArmed st' := by
  induction orders with
  | nil =>
    intro st st' w w' hg h _
    cases h
    exact hg
  | cons planned rest ih =>
    intro st st' w w' hg h hcond
    obtain ⟨next, w₁, hstep, hrest⟩ := bind_eq_ok.mp h
    have hstarts := (executeOrders_extends hrest).sublist
    exact ih (executeOrder_guardArmed hg hstep (hcond.sublist hstarts)) hrest hcond

/-! ## Runs -/

/-- The beginning of `execute`, up to the end of the orders `before`. -/
def executeBefore (p : Ports B) (config : LiveConfig) (before : List PlannedOrder) :
    Live B LoopState := do
  let openingCash ← availableCash p
  executeOrders p config (LoopState.initial openingCash) before

/-- A run of `execute` on `plan` from `w₀` reaches the order after `before` with loop variables
`st` and world `w`. -/
def ReachesOrder (p : Ports B) (config : LiveConfig) (plan : ExecutionPlan) (w₀ : World B)
    (before : List PlannedOrder) (planned : PlannedOrder) (st : LoopState) (w : World B) : Prop :=
  before ++ [planned] <+: plan.orders ∧ executeBefore p config before w₀ = .ok st w

/-- The rule at one order: when a run comes to a BUY behind an incomplete SELL, it passes
nothing to `capability.submit_order`. -/
def NoBuyAfterIncompleteSell (p : Ports B) (config : LiveConfig) (plan : ExecutionPlan)
    (w₀ : World B) (before : List PlannedOrder) (planned : PlannedOrder) : Prop :=
  ∀ st w, ReachesOrder p config plan w₀ before planned st w → planned.side = .buy →
    (∃ o ∈ st.outcomes, IncompleteSell o) →
    submissions (finalState (executeOrder p config st planned w)).trace = submissions w.trace

/-- In every run in which no SELL ends FILLED after an incomplete one, no BUY behind an
incomplete SELL is submitted. -/
theorem no_buy_after_incomplete_sell {plan : ExecutionPlan} {w₀ : World B}
    {before : List PlannedOrder} {planned : PlannedOrder}
    (hcond : ∀ st w, ReachesOrder p config plan w₀ before planned st w →
      FilledSellsFirst st.outcomes) :
    NoBuyAfterIncompleteSell p config plan w₀ before planned := by
  intro st w hreach hbuy ⟨o, ho, hinc⟩
  have hfirst := hcond st w hreach
  obtain ⟨cash, w₁, -, hrun⟩ := bind_eq_ok.mp hreach.2
  have hguard : GuardArmed st :=
    executeOrders_guardArmed (.inr (.inr (by simp [LoopState.initial]))) hrun hfirst
  rcases hguard with h | h | hall
  · rw [executeOrder_blocked w hbuy (.inl h)]
  · rw [executeOrder_blocked w hbuy (.inr h)]
  · exact absurd hinc (hall o ho)

/-! ## Two runs -/

/-- The default windows, with deadlines that are far away. -/
def unhurried : LiveConfig where
  feeSchedule := Desk.noFees
  windowPolicy := ⟨300 * second, 300 * second, 3 * second, second, fiveMinutes_pos, fiveMinutes_pos,
    threeSeconds_pos, second_pos, by decide, by decide⟩
  deadlines := ⟨1000, 2000, 3000, by norm_num, by norm_num, by norm_num⟩
  fuel := 5

/-- A SELL without a position, then a BUY: the run reaches the BUY behind an incomplete SELL and
does not submit it. -/
theorem no_buy_after_missing_position :
    (∃ st w, ReachesOrder (Desk.ports Desk.filling) unhurried
      (Desk.plan [Desk.lot "A" "600001" .sell, Desk.lot "C" "600003" .buy])
      (Desk.fresh 5000 []).world [Desk.lot "A" "600001" .sell] (Desk.lot "C" "600003" .buy) st w ∧
      ∃ o ∈ st.outcomes, IncompleteSell o) ∧
    NoBuyAfterIncompleteSell (Desk.ports Desk.filling) unhurried
      (Desk.plan [Desk.lot "A" "600001" .sell, Desk.lot "C" "600003" .buy])
      (Desk.fresh 5000 []).world [Desk.lot "A" "600001" .sell] (Desk.lot "C" "600003" .buy) := by
  have hrun : returnsWith (fun st _ => decide (st.outcomes.length = 1 ∧
      ∃ o ∈ st.outcomes, IncompleteSell o)) (executeBefore (Desk.ports Desk.filling) unhurried
        [Desk.lot "A" "600001" .sell] (Desk.fresh 5000 []).world) = true := by
    decide +kernel
  obtain ⟨st, w, hst, hcheck⟩ := exists_ok_of_returnsWith hrun
  have hcheck := of_decide_eq_true hcheck
  refine ⟨⟨st, w, ⟨⟨[], rfl⟩, hst⟩, hcheck.2⟩, no_buy_after_incomplete_sell ?_⟩
  intro st' w' hreach
  obtain ⟨rfl, -⟩ : st = st' ∧ w = w' := by
    simpa [hst] using hreach.2
  obtain ⟨o, ho⟩ := List.length_eq_one_iff.mp hcheck.1
  rw [FilledSellsFirst, ho]
  exact List.pairwise_singleton _ _

/-- A SELL without a position, a SELL that is filled, then a BUY: the filled SELL resets the
flag and the BUY is submitted behind the incomplete SELL. -/
theorem buy_submitted_after_incomplete_sell :
    ¬ NoBuyAfterIncompleteSell (Desk.ports Desk.filling) unhurried
      (Desk.plan [Desk.lot "A" "600001" .sell, Desk.lot "B" "600002" .sell,
        Desk.lot "C" "600003" .buy])
      (Desk.fresh 5000 ["600002"]).world
      [Desk.lot "A" "600001" .sell, Desk.lot "B" "600002" .sell] (Desk.lot "C" "600003" .buy) := by
  intro hrule
  have hrun : returnsWith (fun st w => decide ((∃ o ∈ st.outcomes, IncompleteSell o) ∧
      submissions (finalState (executeOrder (Desk.ports Desk.filling) unhurried st
        (Desk.lot "C" "600003" .buy) w)).trace ≠ submissions w.trace))
      (executeBefore (Desk.ports Desk.filling) unhurried
        [Desk.lot "A" "600001" .sell, Desk.lot "B" "600002" .sell]
        (Desk.fresh 5000 ["600002"]).world) = true := by
    decide +kernel
  obtain ⟨st, w, hst, hcheck⟩ := exists_ok_of_returnsWith hrun
  obtain ⟨hinc, hsubmitted⟩ := of_decide_eq_true hcheck
  exact hsubmitted (hrule st w ⟨⟨[], rfl⟩, hst⟩ rfl hinc)

end LiveController

end FirmQuant
