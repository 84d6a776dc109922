import FirmQuant.Execution.FinalStates

/-!
# The fences of a session

A session has two fences in monotonic time: the last moment for a new submission and the last
moment to start a cancel.  The controller reads the clock before it sizes an order, and compares
this reading with the first fence; when the order is sized it reads the clock again, for the
window of the order, and submits.  The cancels of the controller are always behind a reading that
was compared with the second fence.
-/

namespace FirmQuant

open Effect

namespace LiveController

variable {B : Type} {p : Ports B} {config : LiveConfig} {I : World B → Prop}

/-! ## The submissions that a run comes to -/

/-- The loop is about to submit the order: it has looked the order up in `w`, found it new and
safe to start, and sized it, which brought it to `w'`. -/
structure Sizes (p : Ports B) (config : LiveConfig) (st : LoopState) (planned : PlannedOrder)
    (w : World B) (shares : ℕ) (w' : World B) : Prop where
  looksUp : LooksUp st planned
  new : Unexecuted planned w.ledger
  sized : ∃ w₁ reason, safeToStart p config planned.side w = .ok true w₁ ∧
    sharesForCurrentFacts p config planned w₁ = .ok (shares, reason) w'
  pos : shares ≠ 0

/-- A run of `execute` on `plan` from `w₀` is about to submit an order in `w`. -/
def ReachesSubmission (p : Ports B) (config : LiveConfig) (plan : ExecutionPlan) (w₀ : World B)
    (planned : PlannedOrder) (shares : ℕ) (w : World B) : Prop :=
  ∃ before st w₁, ReachesOrder p config plan w₀ before planned st w₁ ∧
    Sizes p config st planned w₁ shares w

variable {st : LoopState} {planned : PlannedOrder}

lemma finalState_executeOrder (h : Idle p I) {w : World B} (hw : I w)
    (hsubmit : ∀ shares w', Sizes p config st planned w shares w' → I w' →
      Triple (fun t => t = w') (submitAndFinish p config planned shares) (fun _ => I) I) :
    I (finalState (executeOrder p config st planned w)) := by
  unfold executeOrder
  split_ifs with hunknown hbuy
  · exact hw
  · exact hw
  rw [get_bind_apply]
  cases hfind : w.ledger.findEconomicOrder planned.decisionId planned.uquantOrderId with
  | some existing => exact h.keeps_recordExisting.finalState hw
  | none =>
  refine finalState_bind (h.keeps_safeToStart.finalState hw) fun safe w₁ hsafe hw₁ => ?_
  split_ifs with hstart
  swap
  · exact hw₁
  refine finalState_bind (h.keeps_sharesForCurrentFacts.finalState hw₁)
    fun ⟨shares, reason⟩ w₂ hshares hw₂ => ?_
  dsimp only
  split_ifs with hnone
  · exact h.keeps_recordUnsized.finalState hw₂
  · have hsized : Sizes p config st planned w shares w₂ :=
      ⟨⟨Bool.eq_false_of_not_eq_true hunknown, hbuy⟩, hfind,
        ⟨w₁, reason, hstart ▸ hsafe, hshares⟩, hnone⟩
    exact (h.triple_recordSubmitted (fun _ hw => hw)
      (hsubmit shares w₂ hsized hw₂)).finalState rfl

/-- A run of `execute` keeps an idle assertion if every submission that it comes to does.  By
induction over the orders already looked at. -/
theorem finalState_execute (h : Idle p I) {plan : ExecutionPlan} {w₀ : World B} (hw₀ : I w₀)
    (hsubmit : ∀ planned shares w, ReachesSubmission p config plan w₀ planned shares w → I w →
      Triple (fun t => t = w) (submitAndFinish p config planned shares) (fun _ => I) I) :
    I (finalState (execute p config plan w₀)) := by
  have hbefore : ∀ before, before <+: plan.orders →
      I (finalState (executeBefore p config before w₀)) := by
    intro before
    induction before using List.reverseRecOn with
    | nil =>
      intro _
      exact (keeps_bind h.keeps_availableCash fun _ => keeps_pure).finalState hw₀
    | append_singleton before planned ih =>
      intro hstarts
      rw [executeBefore_append]
      refine finalState_bind (ih ((List.prefix_append _ _).trans hstarts)) fun st w hst hw => ?_
      exact finalState_executeOrder h hw fun shares w' hsized hw' =>
        hsubmit planned shares w' ⟨before, st, w, ⟨hstarts, hst⟩, hsized⟩ hw'
  have hall := hbefore plan.orders (List.prefix_refl _)
  refine finalState_bind (h.keeps_availableCash.finalState hw₀) fun cash w₁ hcash hw₁ => ?_
  rw [executeBefore, bind_apply, hcash] at hall
  refine finalState_bind hall fun st w₂ _ hw₂ => ?_
  exact (keeps_bind h.keeps_availableCash fun _ => keeps_pure).finalState hw₂

/-! ## Readings and fences -/

/-- The last reading of the monotonic clock in a trace. -/
def lastReading (trace : List (Observation B)) : Option ℚ :=
  (trace.filterMap fun
    | .monotonic time => some time
    | _ => none).getLast?

/-- What the fences ask of a write that follows the observations `before`. -/
def WithinFence (deadlines : ExecutionDeadlines) (before : List (Observation B)) :
    Observation B → Prop
  | .submitOrder _ _ => ∃ time ∈ lastReading before, time < deadlines.latestNewSubmit
  | .cancelOrder _ _ => ∃ time ∈ lastReading before, time < deadlines.latestCancelInitiation
  | _ => True

/-- The last reading before each submission is below the fence for submissions, and the last
reading before each cancel is below the fence for cancels. -/
def WithinFences (deadlines : ExecutionDeadlines) (trace : List (Observation B)) : Prop :=
  Trace.Obeys (WithinFence deadlines) trace

/-- The last reading is below a bound. -/
def ReadBelow (bound : ℚ) (trace : List (Observation B)) : Prop :=
  ∃ time ∈ lastReading trace, time < bound

section Fences

variable {deadlines : ExecutionDeadlines} {trace : List (Observation B)} {o : Observation B}
  {bound : ℚ}

lemma WithinFences.passive (h : WithinFences deadlines trace) (ho : PassiveObservation o) :
    WithinFences deadlines (trace ++ [o]) :=
  Trace.Obeys.append h (by cases ho <;> trivial)

lemma readBelow_monotonic {time : ℚ} (h : time < bound) :
    ReadBelow bound (trace ++ [.monotonic time]) :=
  ⟨time, by simp [lastReading], h⟩

lemma ReadBelow.append (h : ReadBelow bound trace) (ho : ∀ time, o ≠ .monotonic time) :
    ReadBelow bound (trace ++ [o]) := by
  obtain ⟨time, htime, hbound⟩ := h
  refine ⟨time, ?_, hbound⟩
  cases o with
  | monotonic t => exact absurd rfl (ho t)
  | _ => simpa [lastReading] using htime

end Fences

/-! ## One order -/

section Order

variable {a : OrderAggregate} {bound : ℚ}

/-- The writes so far are within their fences. -/
def Fenced (config : LiveConfig) (w : World B) : Prop := WithinFences config.deadlines w.trace

/-- So far, and the last reading is below a bound. -/
def FencedBelow (config : LiveConfig) (bound : ℚ) (w : World B) : Prop :=
  Fenced config w ∧ ReadBelow bound w.trace

lemma passive_fenced : Passive p (Fenced (B := B) config) :=
  passive_of_trace (J := fun _ trace => WithinFences config.deadlines trace)
    fun _ _ _ ho h => h.passive ho

variable {aggregate : Option OrderAggregate}

/-- The cancel after a lost lease is behind a reading of its own. -/
lemma triple_cancelOnly_fenced :
    Triple (Fenced config) (cancelOnlyAfterLeaseLoss p config aggregate)
      (fun _ => Fenced (B := B) config) (Fenced config) := by
  refine triple_cancelOnlyAfterLeaseLoss (fun _ hw => hw)
    (fun w outside time last hw => hw.passive (.monotonic time)) ?_
  intro w outside outside' time a brokerOrderId _ _ _ htime hw
  have hread : WithinFences config.deadlines (w.trace ++ [.monotonic time]) :=
    hw.passive (.monotonic time)
  exact Trace.Obeys.append hread (readBelow_monotonic htime)

lemma triple_guard_fenced :
    Triple (Fenced config) (guard p config aggregate) (fun _ => Fenced (B := B) config)
      (Fenced config) := by
  refine triple_guard_of (fun w _ hw => hw.passive (.leaseCheck true))
    (fun w _ hw => hw.passive (.leaseCheck false)) ?_
  refine triple_pre triple_cancelOnly_fenced ?_
  rintro _ ⟨w, outside, hw, rfl⟩
  exact hw.passive (.leaseCheck false)

/-- A guard that lets the controller go on has read no clock. -/
lemma triple_guard_below :
    Triple (FencedBelow config bound) (guard p config aggregate)
      (fun _ => FencedBelow (B := B) config bound) (Fenced config) := by
  refine triple_guard_of (fun w _ hw => ?_) (fun w _ hw => hw.1.passive (.leaseCheck false)) ?_
  · exact ⟨hw.1.passive (.leaseCheck true), hw.2.append (by simp)⟩
  · refine triple_pre triple_cancelOnly_fenced ?_
    rintro _ ⟨w, outside, hw, rfl⟩
    exact hw.1.passive (.leaseCheck false)

lemma triple_clock_below :
    Triple (FencedBelow config bound) (clock p) (fun _ => FencedBelow (B := B) config bound)
      (Fenced config) := by
  intro w hw
  rw [clock_apply]
  exact ⟨hw.1.passive (.clock _), hw.2.append (by simp)⟩

lemma triple_inTransaction_below {α : Type} {x : LedgerTxn α} :
    Triple (FencedBelow config bound) (inTransaction x : Live B α)
      (fun _ => FencedBelow config bound) (Fenced config) :=
  triple_inTransaction (fun _ _ _ _ hw => hw) fun _ hw => hw.1

lemma triple_commit_fenced (call : Ledger.OrderCall) :
    Triple (Fenced config) (inTransaction (call.run a) : Live B OrderAggregate)
      (fun _ => Fenced config) (Fenced config) :=
  triple_inTransaction (fun _ _ _ _ hw => hw) fun _ hw => hw

/-- A cancel at the end of a window, once the reading is below the fence. -/
lemma triple_cancelLive_fenced :
    Triple (FencedBelow config config.deadlines.latestCancelInitiation) (cancelLive p config a)
      (fun _ => Fenced (B := B) config) (Fenced config) := by
  unfold cancelLive
  split
  · exact triple_throw fun _ hw => hw.1
  refine triple_bind triple_guard_below fun _ => triple_bind triple_clock_below fun startedAt => ?_
  refine triple_bind triple_inTransaction_below fun ⟨cancelling, attempted⟩ => ?_
  refine triple_bind triple_guard_below fun _ => ?_
  refine triple_bind (Q := fun _ => Fenced config) ?_ fun result => ?_
  · intro w hw
    rw [attempt_cancelOrder]
    exact Trace.Obeys.append hw.1 hw.2
  · exact triple_settle passive_fenced.idle (fun _ hw => hw)
      triple_guard_fenced (fun _ _ _ _ => triple_commit_fenced (.resolveCancelNotAccepted _ _ _))
      (fun _ _ => triple_commit_fenced (.markAttemptUnknown _ _ _))
      fun _ _ _ => triple_commit_fenced (.recordCancelResult _ _ _ _)

lemma triple_cancelAtWindowEnd_fenced :
    Triple (Fenced config) (cancelAtWindowEnd p config a) (fun _ => Fenced (B := B) config)
      (Fenced config) := by
  unfold cancelAtWindowEnd
  split
  swap
  · exact triple_pure fun _ hw => hw
  have hread : Triple (Fenced (B := B) config) (monotonic p)
      (fun now w => Fenced config w ∧
        (now < config.deadlines.latestCancelInitiation →
          ReadBelow config.deadlines.latestCancelInitiation w.trace)) (Fenced config) :=
    triple_monotonic_of (fun w time _ hw => ⟨hw.passive (.monotonic time), readBelow_monotonic⟩)
      fun w time hw => hw.passive (.monotonic time)
  refine triple_bind hread fun now => ?_
  refine triple_bind (Q := fun _ w => Fenced config w ∧
    (now < config.deadlines.latestCancelInitiation →
      ReadBelow config.deadlines.latestCancelInitiation w.trace)) ?_ fun _ => ?_
  · intro w hw
    exact ⟨Trace.Obeys.append hw.1 trivial, fun hnow => (hw.2 hnow).append (by simp)⟩
  split
  · rename_i hnow
    exact triple_pre triple_cancelLive_fenced (fun _ hw => ⟨hw.1, hw.2 hnow.1⟩)
  · exact triple_pure fun _ hw => hw.1

lemma triple_finishOpenOrder_fenced {submittedMonotonic : ℚ} {side : Side} :
    Triple (Fenced config) (finishOpenOrder p config a submittedMonotonic side)
      (fun _ => Fenced (B := B) config) (Fenced config) := by
  have hawaits : Awaits p config (fun _ => Fenced (B := B) config) (Fenced config) :=
    ⟨fun _ => passive_fenced.idle, fun _ => triple_guard_fenced, fun _ hw => hw, fun _ _ hw => hw⟩
  exact hawaits.triple_finishOpenOrder (fun _ _ _ hw => hw) fun _ =>
    triple_cancelAtWindowEnd_fenced

/-- A submission, once the reading is below the fence. -/
lemma triple_submitLive_fenced :
    Triple (FencedBelow config config.deadlines.latestNewSubmit) (submitLive p config a planned)
      (fun _ => Fenced (B := B) config) (Fenced config) := by
  refine triple_bind triple_guard_below fun _ => triple_bind triple_clock_below fun startedAt => ?_
  refine triple_bind triple_inTransaction_below fun ⟨submitting, attempted⟩ => ?_
  refine triple_bind triple_guard_below fun _ => ?_
  refine triple_bind (Q := fun _ => Fenced config) ?_ fun result => ?_
  · intro w hw
    rw [attempt_submitOrder]
    exact Trace.Obeys.append hw.1 hw.2
  · exact triple_settle passive_fenced.idle (fun _ hw => hw)
      triple_guard_fenced (fun _ _ _ _ => triple_commit_fenced (.resolveSubmitNotAccepted _ _ _))
      (fun _ _ => triple_commit_fenced (.markAttemptUnknown _ _ _))
      fun _ _ _ => triple_commit_fenced (.recordSubmitResult _ _ _ _)

/-- An order is submitted within the fences if the reading that opens its window is below the
fence for submissions. -/
lemma triple_submitAndFinish_fenced {shares : ℕ} {w : World B} (hw : Fenced config w)
    (hreading : (p.monotonicClock w.outside).1 < config.deadlines.latestNewSubmit) :
    Triple (fun t => t = w) (submitAndFinish p config planned shares)
      (fun _ => Fenced config) (Fenced config) := by
  have hread : Triple (fun t => t = w) (monotonic p)
      (fun _ => FencedBelow config config.deadlines.latestNewSubmit) (Fenced config) := by
    refine triple_monotonic_of ?_ ?_
    · rintro w time rfl rfl
      exact ⟨hw.passive (.monotonic _), readBelow_monotonic hreading⟩
    · rintro w time rfl
      exact hw.passive (.monotonic time)
  refine triple_bind hread fun submittedMonotonic => ?_
  refine triple_bind triple_clock_below fun submittedAt => ?_
  refine triple_bind (Q := fun _ => FencedBelow config config.deadlines.latestNewSubmit)
    ?_ fun armed => ?_
  · unfold newAggregate
    split
    · exact triple_throw fun _ hw => hw.1
    · exact triple_inTransaction_below
  refine triple_bind triple_submitLive_fenced fun submitted => ?_
  split
  · exact triple_pure fun _ hw => hw
  split
  · exact triple_pure fun _ hw => hw
  exact triple_bind triple_finishOpenOrder_fenced fun final => triple_pure fun _ hw => hw

end Order

/-! ## Runs -/

/-- Every reading of the clock that opens the window of an order about to be submitted is below
the fence for submissions. -/
def OpensInTime (p : Ports B) (config : LiveConfig) (plan : ExecutionPlan) (w₀ : World B) : Prop :=
  ∀ planned shares w, ReachesSubmission p config plan w₀ planned shares w →
    (p.monotonicClock w.outside).1 < config.deadlines.latestNewSubmit

/-- A plan of one SELL, and a desk that holds the symbol. -/
def oneSell : ExecutionPlan := Desk.plan [Desk.lot "A" "600001" .sell]

/-- The start of a session at the desk. -/
def morning : World Desk := ⟨Ledger.empty, Desk.fresh 5000 ["600001"], none, [], []⟩

lemma reachesOrder_oneSell {p : Ports Desk} {w₀ w : World Desk} {before : List PlannedOrder}
    (h : ReachesOrder p config oneSell w₀ before planned st w) :
    before = [] ∧ planned = Desk.lot "A" "600001" .sell := by
  obtain ⟨⟨rest, hrest⟩, -⟩ := h
  change before ++ [planned] ++ rest = [_] at hrest
  rcases before with _ | ⟨first, before⟩
  · exact ⟨rfl, (List.cons.inj hrest).1⟩
  · simp at hrest

/-- A desk where the positions take a minute to answer. -/
def slowPositions : Ports Desk :=
  { Desk.ports Desk.filling with
    queryPositions := fun desk => (.ok desk.positions, { desk with time := desk.time + 60 }) }

/-- Windows of 300 seconds, and a last moment for submissions that is 30 seconds away. -/
def closing : LiveConfig :=
  { unhurried with
    deadlines := ⟨30, 2000, 3000, by norm_num, by norm_num,
      unhurried.deadlines.cancel_le_completion⟩ }

end LiveController

end FirmQuant
