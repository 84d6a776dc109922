import FirmQuant.Execution.CrashRuns
import FirmQuant.Persistence.Settlement
import Mathlib.Data.List.Induction

/-!
# The states in which a run leaves its orders

A run of `execute` leaves an order that it submits refused, open, closed or UNKNOWN, and stops at
UNKNOWN.  An order that it finds in the ledger may be in any state; a crash leaves SUBMITTING and
CANCEL_REQUESTED behind, and recovery counts both as unresolved.  This module follows the state of
the order at hand through the controller and relates the flag of the loop to the outcomes.
-/

namespace FirmQuant

open Effect

namespace LiveController

variable {B : Type} {p : Ports B} {config : LiveConfig} {a : OrderAggregate}

/-! ## The order at hand -/

/-- An order that the broker has answered for. -/
structure Resting (a : OrderAggregate) : Prop where
  answered : a.state ∈ OrderAggregate.answered
  tracked : OrderAggregate.Tracked a
  issued : a.Issued

/-- An answered order of which no cancel was refused so far. -/
structure Followed (a : OrderAggregate) : Prop extends Resting a where
  unrefused : Ledger.Unrefused a

lemma returns_inTransaction {α : Type} {P : α → Prop} {x : LedgerTxn α}
    (h : ∀ {ledger r ledger'}, x ledger = .ok (r, ledger') → P r) :
    Returns P (inTransaction x : Live B α) := by
  intro w r w' hr
  unfold inTransaction at hr
  cases hx : x w.ledger with
  | error failure => simp [hx] at hr
  | ok result =>
    simp only [hx, EStateM.Result.ok.injEq] at hr
    exact hr.1 ▸ h hx

lemma awaits_followed : Awaits p config (fun a _ => Followed a) fun _ => True where
  idle a := (passive_of_trace (J := fun _ _ => Followed a) fun _ _ _ _ h => h).idle
  guard a := (passive_of_trace (J := fun _ _ => Followed a) fun _ _ _ _ h => h).achieves_guard
  reconcile hx ha := by
    have hevolves := Ledger.reconcileBrokerFact_evolves hx
    obtain ⟨hanswered, htracked⟩ :=
      Ledger.reconcileBrokerFact_answered hx ha.answered ha.tracked
    exact ⟨⟨hanswered, htracked, hevolves.issued (fun _ he => he.not_started) ha.issued⟩,
      hevolves.keeps_aggregate (fun he happly hx => hx.apply happly he.not_refused) ha.unrefused⟩
  aside _ _ _ := trivial

/-- An order that went through its window is open, closed or unknown. -/
lemma returns_cancelLive (ha : Followed a) :
    Returns (fun next => next.state ∈ OrderAggregate.answered) (cancelLive p config a) := by
  unfold cancelLive
  split
  · exact returns_throw
  refine returns_bind fun _ => returns_bind fun startedAt => ?_
  refine returns_seq (R := fun r : OrderAggregate × BrokerAttempt =>
    OrderAggregate.Tracked r.1 ∧ r.1.state = .cancelRequested ∧ Ledger.Unrefused r.1 ∧
      r.2.commandKind = .cancel ∧ r.2.attemptId.commandKind = .cancel)
    (returns_inTransaction fun {_ r _} h => ?_) ?_
  · obtain ⟨htracked, hstate⟩ := Ledger.beginCancel_tracked ha.tracked ha.issued h
    obtain ⟨hkind, hid, ledger₁, htransition, -⟩ := Ledger.beginCancel_eq_ok h
    refine ⟨htracked, hstate, ?_, hkind, hid⟩
    rcases Ledger.transition_eq_ok htransition with ⟨hsame, -⟩ | ⟨happly, -⟩
    · rw [hsame]
      exact ha.unrefused
    · exact ha.unrefused.apply happly (by simp)
  · rintro ⟨cancelling, attempted⟩ ⟨htracked, hstate, hunrefused, hkind, hid⟩
    refine returns_bind fun _ => returns_bind fun result => ?_
    split
    · refine returns_bind fun _ => returns_bind fun occurredAt => ?_
      split
      · refine returns_inTransaction fun h => ?_
        have hopen := Ledger.resolveCancelNotAccepted_open h hstate hunrefused
        simp only [OrderAggregate.answered, List.mem_append]
        exact .inl (.inl hopen)
      · refine returns_inTransaction fun h => ?_
        rw [Ledger.markAttemptUnknown_cancel hkind hid h htracked (.inl hstate)]
        decide
    · refine returns_bind fun fills => returns_bind fun _ => returns_bind fun receivedAt => ?_
      refine returns_inTransaction fun h => ?_
      simp only [OrderAggregate.answered, List.mem_append, List.mem_singleton]
      rcases Ledger.recordCancelResult_settled h hid hstate htracked with hterm | hunknown
      · exact .inl (.inr hterm)
      · exact .inr hunknown

lemma achieves_cancelAtWindowEnd_state :
    Achieves (fun _ => Followed a) (cancelAtWindowEnd p config a)
      fun next _ => next.state ∈ OrderAggregate.answered := by
  refine achieves_of_returns fun ha => ?_
  unfold cancelAtWindowEnd
  split
  · refine returns_bind fun now => returns_bind fun _ => ?_
    split
    · exact returns_cancelLive ha
    · exact returns_pure ha.answered
  · exact returns_pure ha.answered

lemma achieves_finishOpenOrder_state {submittedMonotonic : ℚ} {side : Side} :
    Achieves (fun _ => Followed a) (finishOpenOrder p config a submittedMonotonic side)
      fun next _ => next.state ∈ OrderAggregate.answered :=
  awaits_followed.triple_finishOpenOrder (fun _ _ _ hcurrent => hcurrent.answered) fun _ =>
    achieves_cancelAtWindowEnd_state

variable {planned : PlannedOrder} {st : LoopState}

/-- A submission leaves the order refused, unknown or answered. -/
lemma returns_submitLive (hopened : Ledger.Opened a) (hissued : a.Issued) :
    Returns (fun next => next.state = .armed ∨ next.state = .unknown ∨ Followed next)
      (submitLive p config a planned) := by
  refine returns_bind fun _ => returns_bind fun startedAt => ?_
  refine returns_seq (R := fun r : OrderAggregate × BrokerAttempt =>
    Ledger.Opened r.1 ∧ r.1.Issued ∧ r.1.state = .submitting ∧
      r.2.commandKind = .submit ∧ r.2.attemptId.commandKind = .submit)
    (returns_inTransaction fun {_ r _} h => ?_) ?_
  · obtain ⟨-, hkind, hid, -⟩ := Ledger.beginSubmit_eq_ok h
    obtain ⟨hopened', hissued', hstate⟩ := Ledger.beginSubmit_opened hopened hissued h
    exact ⟨hopened', hissued', hstate, hkind, hid⟩
  · rintro ⟨submitting, attempted⟩ ⟨hsubmitting, hissued, hstate, hkind, hid⟩
    refine returns_bind fun _ => returns_bind fun result => ?_
    split
    · refine returns_bind fun _ => returns_bind fun occurredAt => ?_
      split
      · refine returns_inTransaction fun h => ?_
        exact .inl (Ledger.resolveSubmitNotAccepted_armed h hstate hsubmitting)
      · refine returns_inTransaction fun h => ?_
        have hmarked := Ledger.markAttemptUnknown_submit hkind hid h hsubmitting.tracked
        exact .inr (.inl (hmarked.2.2 hsubmitting hstate))
    · refine returns_bind fun fills => returns_bind fun _ => returns_bind fun receivedAt => ?_
      refine returns_inTransaction fun h => ?_
      obtain ⟨hanswered, htracked⟩ :=
        Ledger.recordSubmitResult_answered h hid hstate hsubmitting
      exact .inr (.inr ⟨⟨hanswered, htracked, Ledger.recordReturnedResult_issued h hissued⟩,
        Ledger.recordReturnedResult_unrefused h hsubmitting.unrefused⟩)

variable {shares : ℕ} {st' : LoopState} {before : List PlannedOrder}

/-- A new order is opened: nothing is known of it but that it was armed. -/
lemma achieves_newAggregate_opened {time : DateTime} :
    Achieves (fun w : World B => Unexecuted planned w.ledger) (newAggregate planned shares time)
      fun armed _ => Ledger.Opened armed ∧ armed.Issued := by
  refine triple_pre (triple_openNew (P := fun _ => True) (fun _ _ => trivial)
    fun {_ intent _ _ _ _} _ hnew happend harm => ?_) fun _ h => ⟨h, trivial⟩
  obtain ⟨rfl, -⟩ := Ledger.appendIntent_new hnew happend
  exact ⟨Ledger.validateAndArm_opened harm, Ledger.validateAndArm_issued (.fromIntent intent) harm⟩

/-- A run leaves an order that it submits refused, open, closed or unknown. -/
lemma achieves_submitAndFinish_state :
    Achieves (fun w : World B => Unexecuted planned w.ledger)
      (submitAndFinish p config planned shares)
      fun r _ => r.1.state = .armed ∨ r.1.state ∈ OrderAggregate.answered := by
  have hpassive : Passive p fun w => Unexecuted planned w.ledger :=
    passive_of_trace (J := fun ledger _ => Unexecuted planned ledger) fun _ _ _ _ h => h
  refine triple_bind hpassive.idle.keeps_monotonic.achieves fun submittedMonotonic => ?_
  refine triple_bind hpassive.idle.keeps_clock.achieves fun submittedAt => ?_
  refine triple_bind achieves_newAggregate_opened fun armed => ?_
  refine triple_bind (achieves_of_returns fun ⟨hopened, hissued⟩ =>
    returns_submitLive hopened hissued) fun submitted => ?_
  split
  · rename_i harmed
    exact triple_pure fun _ _ => .inl harmed
  split
  · rename_i hunknown
    refine triple_pure fun _ _ => .inr ?_
    rw [hunknown]
    decide
  rename_i harmed hunknown
  have hfinish : Achieves (fun _ => submitted.state = .armed ∨ submitted.state = .unknown ∨
      Followed submitted) (finishOpenOrder p config submitted submittedMonotonic planned.side)
      fun next _ => next.state ∈ OrderAggregate.answered :=
    triple_pre achieves_finishOpenOrder_state
      (fun _ h => (h.resolve_left harmed).resolve_left hunknown)
  exact triple_bind hfinish fun final => triple_pure fun _ h => .inr h

/-! ## The flag of the loop -/

/-- An outcome that leaves its order unresolved, in the words of recovery. -/
def LeftUnresolved (o : ExecutionOutcome) : Prop :=
  ∃ state ∈ o.finalState, state ∈ Recovery.unresolvedStates

instance : DecidablePred LeftUnresolved := fun o =>
  inferInstanceAs (Decidable (∃ state ∈ o.finalState, state ∈ Recovery.unresolvedStates))

/-- The flag of the loop knows of every unresolved order. -/
def FlagKnows (st : LoopState) : Prop :=
  (∃ o ∈ st.outcomes, LeftUnresolved o) → st.unresolvedUnknown = true

/-- The loop looks the order up in the ledger. -/
def LooksUp (st : LoopState) (planned : PlannedOrder) : Prop :=
  st.unresolvedUnknown = false ∧ ¬ (planned.side = .buy ∧ st.incompleteSell = true)

/-- What is found in the ledger is neither SUBMITTING nor CANCEL_REQUESTED. -/
def FindsResolved (planned : PlannedOrder) (ledger : Ledger) : Prop :=
  ∀ existing, ledger.findEconomicOrder planned.decisionId planned.uquantOrderId = some existing →
    existing.state ∉ [OrderState.submitting, .cancelRequested]

/-- An outcome is recorded while nothing is unresolved yet. -/
lemma FlagKnows.record {o : ExecutionOutcome} (h : FlagKnows st)
    (hst : st.unresolvedUnknown = false) (houtcomes : st'.outcomes = st.outcomes ++ [o])
    (ho : LeftUnresolved o → st'.unresolvedUnknown = true) : FlagKnows st' := by
  rintro ⟨x, hx, hleft⟩
  rw [houtcomes, List.mem_append, List.mem_singleton] at hx
  rcases hx with hx | rfl
  · have hset := h ⟨x, hx, hleft⟩
    rw [hst] at hset
    cases hset
  · exact ho hleft

lemma not_leftUnresolved_blockedOutcome (planned : PlannedOrder) (reason : OutcomeReason) :
    ¬ LeftUnresolved (blockedOutcome planned reason) := by
  simp [LeftUnresolved, blockedOutcome]

/-- An outcome in a state that is not SUBMITTING or CANCEL_REQUESTED is unresolved only if it is
UNKNOWN. -/
lemma eq_unknown_of_leftUnresolved {reason : OutcomeReason}
    (hstate : a.state ∉ [OrderState.submitting, .cancelRequested])
    (h : LeftUnresolved (outcome planned a reason)) : a.state = .unknown := by
  simp only [List.mem_cons, List.not_mem_nil, or_false, not_or] at hstate
  simpa [LeftUnresolved, outcome, Recovery.unresolvedStates, hstate.1, hstate.2] using h

lemma achieves_recordExisting (h : FlagKnows st) (hst : st.unresolvedUnknown = false)
    (hstate : a.state ∉ [OrderState.submitting, .cancelRequested]) :
    Returns FlagKnows (recordExisting p st planned a) := by
  have hknows : ∀ {st' : LoopState},
      st'.outcomes = st.outcomes ++ [outcome planned a (reasonForState a)] →
      st'.unresolvedUnknown = decide (a.state = .unknown) → FlagKnows st' := by
    intro st' houtcomes hflag
    refine h.record hst houtcomes fun hleft => ?_
    rw [hflag, decide_eq_true (eq_unknown_of_leftUnresolved hstate hleft)]
  unfold recordExisting
  dsimp only
  split
  · exact returns_pure (hknows rfl rfl)
  · exact returns_bind fun cash => returns_pure (hknows rfl rfl)

/-- One order of the plan keeps the flag informed if what it finds is not SUBMITTING or
CANCEL_REQUESTED. -/
lemma executeOrder_flagKnows {w w' : World B} (hst : FlagKnows st)
    (hfinds : LooksUp st planned → FindsResolved planned w.ledger)
    (h : executeOrder p config st planned w = .ok st' w') : FlagKnows st' := by
  unfold executeOrder at h
  split_ifs at h with hunknown hbuy
  · cases h
    exact fun _ => hunknown
  · cases h
    by_cases hflag : st.unresolvedUnknown = true
    · exact fun _ => hflag
    · refine hst.record (Bool.eq_false_of_not_eq_true hflag) rfl fun hleft => ?_
      exact absurd hleft (not_leftUnresolved_blockedOutcome _ _)
  have hclear : st.unresolvedUnknown = false := Bool.eq_false_of_not_eq_true hunknown
  rw [get_bind_apply] at h
  cases hfind : w.ledger.findEconomicOrder planned.decisionId planned.uquantOrderId with
  | some existing =>
    simp only [hfind] at h
    exact achieves_recordExisting hst hclear (hfinds ⟨hclear, hbuy⟩ existing hfind) w st' w' h
  | none =>
  simp only [hfind] at h
  have hpassive : Passive p fun w => Unexecuted planned w.ledger :=
    passive_of_trace (J := fun ledger _ => Unexecuted planned ledger) fun _ _ _ _ h => h
  have hblocked : ∀ (next : LoopState) (reason : OutcomeReason),
      next.outcomes = st.outcomes ++ [blockedOutcome planned reason] → FlagKnows next := by
    intro next reason houtcomes
    refine hst.record hclear houtcomes fun hleft => ?_
    exact absurd hleft (not_leftUnresolved_blockedOutcome _ _)
  obtain ⟨safe, w₁, hsafe, h⟩ := bind_eq_ok.mp h
  have hnew₁ : Unexecuted planned w₁.ledger :=
    hpassive.idle.keeps_safeToStart.achieves.ok hsafe hfind
  split_ifs at h
  swap
  · cases h
    refine hblocked _ .blockedByGlobalExecutionDeadline ?_
    unfold recordDeadlineBlocked
    dsimp only
    split <;> rfl
  obtain ⟨⟨shares, sizing⟩, w₂, hshares, h⟩ := bind_eq_ok.mp h
  have hnew₂ : Unexecuted planned w₂.ledger :=
    hpassive.idle.keeps_sharesForCurrentFacts.achieves.ok hshares hnew₁
  dsimp only at h
  split_ifs at h
  · refine (?_ : Returns FlagKnows (recordUnsized p st planned sizing)) w₂ st' w' h
    unfold recordUnsized
    dsimp only
    split
    · exact returns_pure (hblocked _ _ rfl)
    · exact returns_bind fun cash => returns_pure (hblocked _ _ rfl)
  · obtain ⟨⟨final, reason, cancels⟩, w₃, hfinal, h⟩ := bind_eq_ok.mp h
    have hstate := achieves_submitAndFinish_state.ok hfinal hnew₂
    have hnot : final.state ∉ [OrderState.submitting, .cancelRequested] := by
      rcases hstate with hstate | hstate
      · rw [hstate]
        decide
      · exact (by decide : ∀ s ∈ OrderAggregate.answered,
          s ∉ [OrderState.submitting, .cancelRequested]) _ hstate
    have hknows : ∀ {next : LoopState},
        next.outcomes = st.outcomes ++ [outcome planned final reason] →
        next.unresolvedUnknown = decide (final.state = .unknown) → FlagKnows next := by
      intro next houtcomes hflag
      refine hst.record hclear houtcomes fun hleft => ?_
      rw [hflag, decide_eq_true (eq_unknown_of_leftUnresolved hnot hleft)]
    cases hside : planned.side with
    | buy =>
      simp only [hside, pure_apply, EStateM.Result.ok.injEq] at h
      exact h.1 ▸ hknows rfl rfl
    | sell =>
      simp only [hside] at h
      obtain ⟨cash, w₄, -, h⟩ := bind_eq_ok.mp h
      simp only [pure_apply, EStateM.Result.ok.injEq] at h
      exact h.1 ▸ hknows rfl rfl

/-! ## Runs -/

lemma executeOrders_append (st : LoopState) (orders : List PlannedOrder) (planned : PlannedOrder) :
    executeOrders p config st (orders ++ [planned]) = (do
      let next ← executeOrders p config st orders
      executeOrder p config next planned) := by
  induction orders generalizing st with
  | nil => simp [executeOrders]
  | cons first rest ih => simp [executeOrders, ih]

lemma executeBefore_append (before : List PlannedOrder) (planned : PlannedOrder) :
    executeBefore p config (before ++ [planned]) = (do
      let st ← executeBefore p config before
      executeOrder p config st planned) := by
  simp [executeBefore, executeOrders_append]

/-- The rule for a run: behind an unresolved order nothing is submitted, and a result with an
unresolved order says so. -/
structure StopsAtUnresolved (p : Ports B) (config : LiveConfig) (plan : ExecutionPlan)
    (w₀ : World B) : Prop where
  later : ∀ before planned st w, ReachesOrder p config plan w₀ before planned st w →
    (∃ o ∈ st.outcomes, LeftUnresolved o) →
    submissions (finalState (executeOrder p config st planned w)).trace = submissions w.trace
  result : ∀ result w', execute p config plan w₀ = .ok result w' →
    (∃ o ∈ result.outcomes, LeftUnresolved o) → result.unresolvedUnknown = true

/-- Every order of the plan that a run looks up and finds in the ledger is neither SUBMITTING nor
CANCEL_REQUESTED. -/
def FindsAllResolved (p : Ports B) (config : LiveConfig) (plan : ExecutionPlan) (w₀ : World B) :
    Prop :=
  ∀ before planned st w, ReachesOrder p config plan w₀ before planned st w →
    LooksUp st planned → FindsResolved planned w.ledger

/-- By induction over the orders already looked at, from the last. -/
lemma executeBefore_flagKnows {plan : ExecutionPlan} {w₀ : World B}
    (hfinds : FindsAllResolved p config plan w₀) :
    before <+: plan.orders → ∀ {st : LoopState} {w : World B},
      executeBefore p config before w₀ = .ok st w → FlagKnows st := by
  induction before using List.reverseRecOn with
  | nil =>
    intro _ st w h
    obtain ⟨cash, w₁, -, h⟩ := bind_eq_ok.mp h
    cases h
    rintro ⟨o, ho, -⟩
    cases ho
  | append_singleton before planned ih =>
    intro hstarts st w h
    rw [executeBefore_append] at h
    obtain ⟨st₁, w₁, hbefore, hstep⟩ := bind_eq_ok.mp h
    have hreach : ReachesOrder p config plan w₀ before planned st₁ w₁ := ⟨hstarts, hbefore⟩
    exact executeOrder_flagKnows (ih ((List.prefix_append _ _).trans hstarts) hbefore)
      (hfinds before planned st₁ w₁ hreach) hstep

/-- In every run that finds no order SUBMITTING or CANCEL_REQUESTED, an unresolved order stops the
session. -/
theorem unresolved_order_stops_session {plan : ExecutionPlan} {w₀ : World B}
    (hfinds : FindsAllResolved p config plan w₀) : StopsAtUnresolved p config plan w₀ := by
  refine ⟨fun before planned st w hreach hleft => ?_, fun result w' hrun hleft => ?_⟩
  · have hstarts : before <+: plan.orders := (List.prefix_append _ _).trans hreach.1
    have hflag := executeBefore_flagKnows hfinds hstarts hreach.2 hleft
    unfold executeOrder
    rw [if_pos hflag]
    rfl
  · obtain ⟨cash, w₁, hcash, hrun⟩ := bind_eq_ok.mp hrun
    obtain ⟨st, w₂, horders, hrun⟩ := bind_eq_ok.mp hrun
    obtain ⟨ending, w₃, -, hrun⟩ := bind_eq_ok.mp hrun
    have hbefore : executeBefore p config plan.orders w₀ = .ok st w₂ :=
      bind_eq_ok.mpr ⟨cash, w₁, hcash, horders⟩
    cases hrun
    exact executeBefore_flagKnows hfinds (List.prefix_refl _) hbefore hleft

/-! ## Two runs -/

/-- Two SELL orders. -/
def twoSells : ExecutionPlan :=
  Desk.plan [Desk.lot "A" "600001" .sell, Desk.lot "B" "600002" .sell]

/-- A controller that is started on a ledger, in front of a desk that holds both symbols. -/
def onLedger (ledger : Ledger) : World Desk :=
  ⟨ledger, Desk.fresh 5000 ["600001", "600002"], none, [], []⟩

/-- A desk where the answer to a submission is lost. -/
def losingAnswers : Ports Desk :=
  { Desk.ports Desk.filling with
    submitOrder := fun _ _ desk => (.error (.brokerError "TimeoutError"), desk) }

lemma reachesOrder_twoSells {p : Ports Desk} {w₀ w : World Desk}
    (h : ReachesOrder p unhurried twoSells w₀ before planned st w) :
    (before = [] ∧ planned = Desk.lot "A" "600001" .sell) ∨
      (before = [Desk.lot "A" "600001" .sell] ∧ planned = Desk.lot "B" "600002" .sell) := by
  obtain ⟨⟨rest, hrest⟩, -⟩ := h
  change before ++ [planned] ++ rest = [_, _] at hrest
  rcases before with _ | ⟨first, _ | ⟨second, before⟩⟩
  · exact .inl ⟨rfl, (List.cons.inj hrest).1⟩
  · obtain ⟨rfl, htail⟩ := List.cons.inj hrest
    exact .inr ⟨rfl, (List.cons.inj htail).1⟩
  · simp at hrest

/-- The answer to the first of two submissions is lost: the second order is not submitted, and the
result says that an order is unresolved. -/
theorem lost_answer_stops_session :
    (∃ result w', execute losingAnswers unhurried twoSells (onLedger Ledger.empty) =
      .ok result w' ∧ result.outcomes.length = 2 ∧ ∃ o ∈ result.outcomes, LeftUnresolved o) ∧
    StopsAtUnresolved losingAnswers unhurried twoSells (onLedger Ledger.empty) := by
  have hresult : returnsWith (fun result _ => decide (result.outcomes.length = 2 ∧
      ∃ o ∈ result.outcomes, LeftUnresolved o))
      (execute losingAnswers unhurried twoSells (onLedger Ledger.empty)) = true := by
    decide +kernel
  have hfirst : returnsWith (fun _ w => decide
      (w.ledger.findEconomicOrder "decision" "A" = none))
      (executeBefore losingAnswers unhurried [] (onLedger Ledger.empty)) = true := by
    decide +kernel
  have hsecond : returnsWith (fun st _ => st.unresolvedUnknown)
      (executeBefore losingAnswers unhurried [Desk.lot "A" "600001" .sell]
        (onLedger Ledger.empty)) = true := by
    decide +kernel
  obtain ⟨result, w', hok, hcheck⟩ := exists_ok_of_returnsWith hresult
  refine ⟨⟨result, w', hok, of_decide_eq_true hcheck⟩, unresolved_order_stops_session ?_⟩
  intro before planned st w hreach hlooks existing hfind
  rcases reachesOrder_twoSells hreach with ⟨rfl, rfl⟩ | ⟨rfl, rfl⟩
  · rw [hreach.2] at hfirst
    have hnone : w.ledger.findEconomicOrder "decision" "A" = none := of_decide_eq_true hfirst
    exact absurd (hfind.symm.trans hnone) (by simp)
  · rw [hreach.2] at hsecond
    exact absurd (hlooks.1.symm.trans hsecond) (by simp)

/-- A run is cut behind the submission of its first order.  The next run on that ledger finds the
order SUBMITTING, submits the second one and returns a result that says nothing of it. -/
theorem order_submitted_behind_submitting :
    ∃ ledger made, Reach ledger made ∧
      ¬ StopsAtUnresolved (Desk.ports Desk.filling) unhurried twoSells (onLedger ledger) ∧
      ∃ result w', execute (Desk.ports Desk.filling) unhurried twoSells (onLedger ledger) =
          .ok result w' ∧ (∃ o ∈ result.outcomes, LeftUnresolved o) ∧
        result.unresolvedUnknown = false := by
  have hcut : ∃ point ∈ (sellRun Ledger.empty).crashPoints,
      returnsWith (fun st w => decide ((∃ o ∈ st.outcomes, LeftUnresolved o) ∧
        submissions (finalState (executeOrder (Desk.ports Desk.filling) unhurried st
          (Desk.lot "B" "600002" .sell) w)).trace ≠ submissions w.trace))
        (executeBefore (Desk.ports Desk.filling) unhurried [Desk.lot "A" "600001" .sell]
          (onLedger point.1)) = true ∧
      returnsWith (fun result _ => decide ((∃ o ∈ result.outcomes, LeftUnresolved o) ∧
        result.unresolvedUnknown = false))
        (execute (Desk.ports Desk.filling) unhurried twoSells (onLedger point.1)) = true := by
    decide +kernel
  obtain ⟨point, hpoint, hrun, hresult⟩ := hcut
  obtain ⟨st, w, hst, hcheck⟩ := exists_ok_of_returnsWith hrun
  obtain ⟨hleft, hsubmitted⟩ := of_decide_eq_true hcheck
  obtain ⟨result, w', hok, hflag⟩ := exists_ok_of_returnsWith hresult
  have hreach : Reach point.1 ([] ++ submissionsMade point.2) :=
    .execute _ _ _ _ _ .start (.inr ⟨point, hpoint, rfl⟩)
  refine ⟨point.1, _, hreach, fun hstops => ?_, result, w', hok, of_decide_eq_true hflag⟩
  exact hsubmitted (hstops.later _ _ st w ⟨⟨[], rfl⟩, hst⟩ hleft)

end LiveController

end FirmQuant
