import FirmQuant.Execution.LiveController
import FirmQuant.Persistence.Agreement

/-!
# Rules for programs of the live controller

Between its writes the controller reads clocks, sleeps, checks its lease and asks the broker.
An assertion on the world that these passive steps do not disturb is `Passive`; the rules of this
module carry such an assertion through every part of the controller that writes neither to the
ledger nor to the broker.

The wait for an order is followed by `Awaits`, which names the assertions that bear it.  An
assertion that also bears cancels and crash points is `Quiet`.  The writes of the controller
follow one order after the other, and `Course` names the assertions that hold along an order:
what each of its repository calls has to establish is said there once, and a run of `execute`
then keeps the assertion that holds between two orders.
-/

namespace FirmQuant

open Effect

namespace LiveController

variable {B : Type} {p : Ports B} {config : LiveConfig} {I : World B → Prop}

/-- What the trace records of the passive steps. -/
inductive PassiveObservation : Observation B → Prop
  | clock (time : DateTime) : PassiveObservation (.clock time)
  | monotonic (time : ℚ) : PassiveObservation (.monotonic time)
  | sleep (duration : ℚ) : PassiveObservation (.sleep duration)
  | leaseCheck (held : Bool) : PassiveObservation (.leaseCheck held)

/-- The passive steps do not disturb the assertion `I`. -/
structure Passive (p : Ports B) (I : World B → Prop) : Prop where
  observe : ∀ w o, PassiveObservation o → I w → I { w with trace := w.trace ++ [o] }
  lastMonotonic : ∀ w time, I w → I { w with lastMonotonic := time }
  clock : ∀ w, I w → I { w with outside := (p.clock w.outside).2 }
  monotonicClock : ∀ w, I w → I { w with outside := (p.monotonicClock w.outside).2 }
  sleep : ∀ w duration, I w → I { w with outside := p.sleep duration w.outside }
  leaseCheck : ∀ w, I w → I { w with outside := (p.leaseCheck w.outside).2 }
  queryAccount : ∀ w, I w → I { w with outside := (p.queryAccount w.outside).2 }
  queryPositions : ∀ w, I w → I { w with outside := (p.queryPositions w.outside).2 }
  queryOrders : ∀ w, I w → I { w with outside := (p.queryOrders w.outside).2 }
  queryFills : ∀ w, I w → I { w with outside := (p.queryFills w.outside).2 }

/-- The passive steps but for the checks of the lease do not disturb the assertion `I`. -/
structure Idle (p : Ports B) (I : World B → Prop) : Prop where
  observe : ∀ w o, PassiveObservation o → (∀ held, o ≠ .leaseCheck held) → I w →
    I { w with trace := w.trace ++ [o] }
  lastMonotonic : ∀ w time, I w → I { w with lastMonotonic := time }
  clock : ∀ w, I w → I { w with outside := (p.clock w.outside).2 }
  monotonicClock : ∀ w, I w → I { w with outside := (p.monotonicClock w.outside).2 }
  sleep : ∀ w duration, I w → I { w with outside := p.sleep duration w.outside }
  queryAccount : ∀ w, I w → I { w with outside := (p.queryAccount w.outside).2 }
  queryPositions : ∀ w, I w → I { w with outside := (p.queryPositions w.outside).2 }
  queryOrders : ∀ w, I w → I { w with outside := (p.queryOrders w.outside).2 }
  queryFills : ∀ w, I w → I { w with outside := (p.queryFills w.outside).2 }

lemma Passive.idle (h : Passive p I) : Idle p I where
  observe w o ho _ hw := h.observe w o ho hw
  lastMonotonic := h.lastMonotonic
  clock := h.clock
  monotonicClock := h.monotonicClock
  sleep := h.sleep
  queryAccount := h.queryAccount
  queryPositions := h.queryPositions
  queryOrders := h.queryOrders
  queryFills := h.queryFills

/-- An assertion on the ledger beside an idle one is not disturbed either. -/
lemma Idle.and_ledger (h : Idle p I) (J : Ledger → Prop) : Idle p fun w => J w.ledger ∧ I w where
  observe w o ho hne hw := ⟨hw.1, h.observe w o ho hne hw.2⟩
  lastMonotonic w time hw := ⟨hw.1, h.lastMonotonic w time hw.2⟩
  clock w hw := ⟨hw.1, h.clock w hw.2⟩
  monotonicClock w hw := ⟨hw.1, h.monotonicClock w hw.2⟩
  sleep w duration hw := ⟨hw.1, h.sleep w duration hw.2⟩
  queryAccount w hw := ⟨hw.1, h.queryAccount w hw.2⟩
  queryPositions w hw := ⟨hw.1, h.queryPositions w hw.2⟩
  queryOrders w hw := ⟨hw.1, h.queryOrders w hw.2⟩
  queryFills w hw := ⟨hw.1, h.queryFills w hw.2⟩

/-- An assertion on the ledger and the trace is passive if it bears the observations of passive
steps. -/
lemma passive_of_trace {J : Ledger → List (Observation B) → Prop}
    (h : ∀ ledger trace o, PassiveObservation o → J ledger trace → J ledger (trace ++ [o])) :
    Passive p fun w => J w.ledger w.trace where
  observe w o ho hw := h w.ledger w.trace o ho hw
  lastMonotonic _ _ hw := hw
  clock _ hw := hw
  monotonicClock _ hw := hw
  sleep _ _ hw := hw
  leaseCheck _ hw := hw
  queryAccount _ hw := hw
  queryPositions _ hw := hw
  queryOrders _ hw := hw
  queryFills _ hw := hw

/-- An assertion on the ledger beside a passive one is not disturbed either. -/
lemma Passive.and_ledger (h : Passive p I) (J : Ledger → Prop) :
    Passive p fun w => J w.ledger ∧ I w :=
  { h.idle.and_ledger J with
    observe := fun w o ho hw => ⟨hw.1, h.observe w o ho hw.2⟩
    leaseCheck := fun w hw => ⟨hw.1, h.leaseCheck w hw.2⟩ }

variable {α : Type}

lemma keeps_call {port : B → Except Failure α × B}
    (h : ∀ w, I w → I { w with outside := (port w.outside).2 }) : Keeps I (call port) := by
  intro w hw
  have hnext := h w hw
  unfold call
  cases hport : port w.outside with
  | mk result outside =>
    rw [hport] at hnext
    cases result with
    | ok a => exact hnext
    | error failure => exact hnext

variable {x : Live B α}

lemma keeps_attempt (h : Keeps I x) : Keeps I (attempt x) :=
  keeps_tryCatch (keeps_bind h fun _ => keeps_pure) fun _ => keeps_pure

variable {Q : α → World B → Prop}

lemma triple_attempt {P : World B → Prop} {E : World B → Prop} (h : Triple P x Q E) :
    Triple P (attempt x) (fun result w => match result with
      | .ok a => Q a w
      | .error _ => E w) (fun _ => False) := by
  refine triple_tryCatch (R := E) (triple_bind h fun a => triple_pure fun _ hw => hw)
    fun failure => ?_
  exact triple_pure fun _ hw => hw

lemma attempt_call (port : B → Except Failure α × B) (w : World B) :
    attempt (call port) w = .ok (port w.outside).1 { w with outside := (port w.outside).2 } := by
  rw [attempt, tryCatch_apply, map_eq_pure_bind, bind_apply, call]
  cases port w.outside with
  | mk result outside => cases result <;> rfl

/-- An attempted cancel returns what the port answers. -/
lemma attempt_cancelOrder (brokerOrderId : String) (w : World B) :
    attempt (cancelOrder p brokerOrderId) w =
      .ok (p.cancelOrder w.ledger brokerOrderId w.outside).1
        { w with
          outside := (p.cancelOrder w.ledger brokerOrderId w.outside).2
          trace := w.trace ++ [.cancelOrder w.outside brokerOrderId]
          crashPoints := w.crashPoints ++
            [(w.ledger, w.trace ++ [.cancelOrder w.outside brokerOrderId])] } :=
  attempt_call (p.cancelOrder w.ledger brokerOrderId) { w with
    trace := w.trace ++ [.cancelOrder w.outside brokerOrderId]
    crashPoints := w.crashPoints ++
      [(w.ledger, w.trace ++ [.cancelOrder w.outside brokerOrderId])] }

/-- An attempted submission returns what the port answers. -/
lemma attempt_submitOrder (command : BrokerOrderCommand) (w : World B) :
    attempt (submitOrder p command) w =
      .ok (p.submitOrder w.ledger command w.outside).1
        { w with
          outside := (p.submitOrder w.ledger command w.outside).2
          trace := w.trace ++ [.submitOrder w.ledger command]
          crashPoints := w.crashPoints ++
            [(w.ledger, w.trace ++ [.submitOrder w.ledger command])] } :=
  attempt_call (p.submitOrder w.ledger command) { w with
    trace := w.trace ++ [.submitOrder w.ledger command]
    crashPoints := w.crashPoints ++ [(w.ledger, w.trace ++ [.submitOrder w.ledger command])] }

/-- A repository call establishes its postcondition when it commits, and changes nothing when it
raises. -/
lemma triple_inTransaction {P E : World B → Prop} {x : LedgerTxn α}
    (h : ∀ w a ledger, x w.ledger = .ok (a, ledger) → P w →
      Q a { w with ledger := ledger }.crashPoint) (hE : ∀ w, P w → E w) :
    Triple P (inTransaction x : Live B α) Q E := by
  intro w hw
  unfold inTransaction
  cases hx : x w.ledger with
  | ok r => exact h w r.1 r.2 hx hw
  | error failure => exact hE w hw

lemma keeps_inTransaction {x : LedgerTxn α} (h : ∀ w a ledger, x w.ledger = .ok (a, ledger) → I w →
      I { w with ledger := ledger }.crashPoint) :
    Keeps I (inTransaction x : Live B α) :=
  triple_inTransaction h fun _ hw => hw

/-! ## Exact steps -/

section Exact

variable {P E : World B → Prop}

variable {Q : World B → Prop} {aggregate : Option OrderAggregate}

/-- A port changes the outside only, whatever it answers. -/
lemma triple_call_of {port : B → Except Failure α × B}
    (h : ∀ w outside, P w → Q { w with outside := outside }) :
    Triple P (call port) (fun _ => Q) Q := by
  intro w hw
  unfold call
  cases port w.outside with
  | mk result outside =>
    cases result with
    | ok a | error failure => exact h w outside hw

lemma clock_apply (w : World B) : clock p w = .ok (p.clock w.outside).1
    { w with
      outside := (p.clock w.outside).2
      trace := w.trace ++ [.clock (p.clock w.outside).1] } := rfl

/-- A reading of the monotonic clock is in the trace, also when it is refused. -/
lemma triple_monotonic_of {Q : ℚ → World B → Prop}
    (hok : ∀ w time, time = (p.monotonicClock w.outside).1 → P w → Q time
      { w with
        outside := (p.monotonicClock w.outside).2
        lastMonotonic := some time
        trace := w.trace ++ [.monotonic time] })
    (hraise : ∀ w time, P w → E
      { w with
        outside := (p.monotonicClock w.outside).2
        trace := w.trace ++ [.monotonic time] }) :
    Triple P (monotonic p) Q E := by
  intro w hw
  have hrun : monotonic p w = (if (p.monotonicClock w.outside).1 < 0 ∨
      ∃ previous ∈ w.lastMonotonic, (p.monotonicClock w.outside).1 < previous then
        throw (.runtimeError "MONOTONIC_CLOCK_ROLLBACK")
      else do
        modify fun t => { t with lastMonotonic := some (p.monotonicClock w.outside).1 }
        pure (p.monotonicClock w.outside).1 : Live B ℚ)
      { w with
        outside := (p.monotonicClock w.outside).2
        trace := w.trace ++ [.monotonic (p.monotonicClock w.outside).1] } := rfl
  rw [hrun]
  split_ifs
  · exact hraise w _ hw
  · exact hok w _ rfl hw

/-- A cancel is in the trace, whatever the port answers. -/
lemma triple_cancelOrder_of {brokerOrderId : String}
    (h : ∀ w outside, P w → Q { World.crashPoint { w with
      trace := w.trace ++ [.cancelOrder w.outside brokerOrderId] } with outside := outside }) :
    Triple P (cancelOrder p brokerOrderId) (fun _ => Q) Q := by
  intro w hw
  have hrun : cancelOrder p brokerOrderId w = call (p.cancelOrder w.ledger brokerOrderId)
      (World.crashPoint { w with
        trace := w.trace ++ [.cancelOrder w.outside brokerOrderId] }) := rfl
  rw [hrun]
  refine triple_call_of (P := fun t => t = World.crashPoint { w with
      trace := w.trace ++ [.cancelOrder w.outside brokerOrderId] }) ?_ _ rfl
  rintro _ outside rfl
  exact h w outside hw

/-- The cancel after a lost lease: nothing for an order that is not open; else a reading, and a
cancel if the reading is before the fence. -/
lemma triple_cancelOnlyAfterLeaseLoss (hstay : ∀ w, P w → E w)
    (hread : ∀ w outside time last, P w → E { w with
      outside := outside
      lastMonotonic := last
      trace := w.trace ++ [.monotonic time] })
    (hcancel : ∀ w outside outside' time a brokerOrderId, aggregate = some a →
      a.brokerOrderId = some brokerOrderId → a.state ∈ OrderState.openStates →
      time < config.deadlines.latestCancelInitiation → P w →
      E { World.crashPoint { w with
        outside := outside
        lastMonotonic := some time
        trace := w.trace ++ [.monotonic time] ++ [.cancelOrder outside brokerOrderId] } with
        outside := outside' }) :
    Triple P (cancelOnlyAfterLeaseLoss p config aggregate) (fun _ => E) E := by
  unfold cancelOnlyAfterLeaseLoss
  split
  · exact triple_pure hstay
  rename_i a
  split
  · exact triple_pure hstay
  rename_i brokerOrderId hid
  split
  · exact triple_pure hstay
  rename_i hopen
  rw [not_not] at hopen
  refine triple_bind (Q := fun _ => E) ?_ fun _ => triple_pure fun _ h => h
  refine triple_imp (triple_attempt (Q := fun _ => E) (E := E) ?_) (fun _ h => h)
    (fun result _ h => by cases result <;> exact h) fun _ h => h.elim
  refine triple_bind (Q := fun time w' => ∃ w outside, P w ∧ w' = { w with
      outside := outside
      lastMonotonic := some time
      trace := w.trace ++ [.monotonic time] })
    (triple_monotonic_of (fun w time _ hw => ⟨w, _, hw, rfl⟩)
      fun w time hw => hread w _ time w.lastMonotonic hw) fun time => ?_
  split
  · refine triple_pure ?_
    rintro _ ⟨w, outside, hw, rfl⟩
    exact hread w outside time _ hw
  · rename_i hbefore
    refine triple_bind (Q := fun _ => E) (triple_cancelOrder_of ?_) fun _ =>
      triple_pure fun _ h => h
    rintro _ outside' ⟨w, outside, hw, rfl⟩
    exact hcancel w outside outside' time a brokerOrderId rfl hid hopen (not_le.mp hbefore) hw

/-- The guard: a check that succeeds is in the trace; one that fails is too, and ends the run
after the cancel that a lost lease allows. -/
lemma triple_guard_of (hheld : ∀ w outside, P w →
      Q { w with outside := outside, trace := w.trace ++ [.leaseCheck true] })
    (hfailed : ∀ w outside, P w →
      E { w with outside := outside, trace := w.trace ++ [.leaseCheck false] })
    (hlost : Triple (fun w' => ∃ w outside, P w ∧
        w' = { w with outside := outside, trace := w.trace ++ [.leaseCheck false] })
      (cancelOnlyAfterLeaseLoss p config aggregate) (fun _ => E) E) :
    Triple P (guard p config aggregate) (fun _ => Q) E := by
  refine triple_bind (Q := fun _ w' => ∃ w outside, P w ∧ w' = { w with outside := outside })
    ?_ fun result => ?_
  · have hcall : Triple P (call p.leaseCheck)
        (fun _ w' => ∃ w outside, P w ∧ w' = { w with outside := outside })
        (fun w' => ∃ w outside, P w ∧ w' = { w with outside := outside }) :=
      triple_call_of fun w outside hw => ⟨w, outside, hw, rfl⟩
    exact triple_imp (triple_attempt hcall) (fun _ h => h)
      (fun result _ h => by cases result <;> exact h) fun _ h => h.elim
  split
  · rintro _ ⟨w, outside, hw, rfl⟩
    exact hheld w outside hw
  · refine triple_bind (Q := fun _ w' => ∃ w outside, P w ∧
        w' = { w with outside := outside, trace := w.trace ++ [.leaseCheck false] }) ?_ fun _ => ?_
    · rintro _ ⟨w, outside, hw, rfl⟩
      exact ⟨w, outside, hw, rfl⟩
    · exact triple_bind hlost fun _ => triple_throw fun _ h => h
  · refine triple_bind (Q := fun _ => E) ?_ fun _ => triple_throw fun _ h => h
    rintro _ ⟨w, outside, hw, rfl⟩
    exact hfailed w outside hw

end Exact

lemma keeps_finishOpenOrder_of_closed {aggregate : OrderAggregate} {submittedMonotonic : ℚ}
    {side : Side} (hclosed : aggregate.state ∉ OrderState.openStates) :
    Keeps I (finishOpenOrder p config aggregate submittedMonotonic side) := by
  have hwait : Triple I (waitUntilDeadline p config
      (orderDeadline config submittedMonotonic side) config.fuel aggregate)
      (fun current w => current = aggregate ∧ I w) I := by
    cases config.fuel with
    | zero => exact triple_throw fun _ hw => hw
    | succ fuel =>
      unfold waitUntilDeadline
      rw [if_pos hclosed]
      exact triple_pure fun _ hw => ⟨rfl, hw⟩
  refine triple_bind hwait fun current => triple_assume fun hcurrent => ?_
  rw [hcurrent, if_pos hclosed]
  exact keeps_pure

namespace Idle

variable (h : Idle p I)

include h

lemma keeps_observe {o : Observation B} (ho : PassiveObservation o)
    (hne : ∀ held, o ≠ .leaseCheck held) : Keeps I (LiveController.observe o) :=
  keeps_modify fun w hw => h.observe w o ho hne hw

lemma keeps_clock : Keeps I (LiveController.clock p) :=
  keeps_bind (keeps_call h.clock) fun _ =>
    keeps_bind (h.keeps_observe (.clock _) (by simp)) fun _ =>
    keeps_pure

lemma keeps_monotonic : Keeps I (monotonic p) := by
  refine keeps_bind (keeps_call h.monotonicClock) fun observed =>
    keeps_bind (h.keeps_observe (.monotonic _) (by simp)) fun _ => keeps_bind keeps_get fun w => ?_
  exact keeps_ite keeps_throw (keeps_bind (keeps_modify fun w hw => h.lastMonotonic w _ hw)
    fun _ => keeps_pure)

lemma keeps_sleep {duration : ℚ} : Keeps I (LiveController.sleep p duration) :=
  keeps_bind (keeps_call fun w hw => h.sleep w duration hw) fun _ =>
    h.keeps_observe (.sleep _) (by simp)

variable {brokerOrderId : String}

lemma keeps_brokerFills : Keeps I (brokerFills p brokerOrderId) :=
  keeps_bind (keeps_call h.queryFills) fun _ => keeps_pure

lemma keeps_brokerFillsOrNone :
    Keeps I (brokerFillsOrNone p brokerOrderId) := by
  refine keeps_bind (keeps_attempt h.keeps_brokerFills) fun result => ?_
  split <;> exact keeps_pure

lemma keeps_availableCash : Keeps I (availableCash p) :=
  keeps_bind (keeps_call h.queryAccount) fun _ => keeps_pure

lemma keeps_safeToStart {side : Side} : Keeps I (safeToStart p config side) :=
  keeps_bind h.keeps_monotonic fun _ => keeps_ite keeps_pure keeps_pure

variable {planned : PlannedOrder} {st : LoopState}

lemma keeps_sharesForCurrentFacts :
    Keeps I (sharesForCurrentFacts p config planned) := by
  refine keeps_bind (keeps_call h.queryPositions) fun positions => ?_
  dsimp only
  split
  · split
    · exact keeps_pure
    · exact keeps_ite keeps_pure keeps_pure
  · refine keeps_ite keeps_pure (keeps_bind (keeps_call h.queryAccount) fun account => ?_)
    exact keeps_ite keeps_pure (keeps_ite keeps_pure keeps_pure)

lemma keeps_recordExisting {existing : OrderAggregate} :
    Keeps I (recordExisting p st planned existing) := by
  unfold recordExisting
  dsimp only
  split
  · exact keeps_pure
  · exact keeps_bind h.keeps_availableCash fun _ => keeps_pure

lemma keeps_recordUnsized {reason : OutcomeReason} :
    Keeps I (recordUnsized p st planned reason) := by
  unfold recordUnsized
  dsimp only
  split
  · exact keeps_pure
  · exact keeps_bind h.keeps_availableCash fun _ => keeps_pure

/-- What follows a submission only looks at the account. -/
lemma triple_recordSubmitted {P E : World B → Prop} (hE : ∀ w, I w → E w) {shares : ℕ}
    (hsubmit : Triple P (submitAndFinish p config planned shares) (fun _ => I) E) :
    Triple P (recordSubmitted p config st planned shares) (fun _ => I) E := by
  refine triple_bind hsubmit fun ⟨final, reason, cancels⟩ => ?_
  dsimp only
  split
  · exact triple_pure fun _ hw => hw
  · refine triple_bind (triple_error h.keeps_availableCash hE)
      fun cash => ?_
    exact triple_pure fun _ hw => hw

end Idle

namespace Passive

variable (h : Passive p I)

include h

lemma keeps_observe {o : Observation B} (ho : PassiveObservation o) :
    Keeps I (LiveController.observe o) :=
  keeps_modify fun w hw => h.observe w o ho hw

lemma keeps_guard_none : Keeps I (guard p config none) := by
  refine keeps_bind (keeps_attempt (keeps_call h.leaseCheck)) fun result => ?_
  split
  · exact h.keeps_observe (.leaseCheck _)
  · exact keeps_bind (h.keeps_observe (.leaseCheck _)) fun _ => keeps_bind keeps_pure fun _ =>
      keeps_throw
  · exact keeps_bind (h.keeps_observe (.leaseCheck _)) fun _ => keeps_throw

/-- A guard that lets the controller go on has only checked the lease. -/
lemma achieves_guard {aggregate : Option OrderAggregate} :
    Achieves I (guard p config aggregate) fun _ => I := by
  refine triple_bind (keeps_attempt (keeps_call h.leaseCheck)).achieves fun result => ?_
  split
  · exact (h.keeps_observe (.leaseCheck _)).achieves
  · refine triple_bind achieves_true fun _ => triple_bind achieves_true fun _ => ?_
    exact triple_throw fun _ _ => trivial
  · exact triple_bind achieves_true fun _ => triple_throw fun _ _ => trivial

end Passive

/-! ## New orders -/

/-- The planned order has no execution in the ledger. -/
def Unexecuted (planned : PlannedOrder) (ledger : Ledger) : Prop :=
  ledger.findEconomicOrder planned.decisionId planned.uquantOrderId = none

/-- A kept assertion, and a part of it after an exception. -/
lemma triple_of_keeps_and {J : World B → Prop} (h : Keeps (fun w => J w ∧ I w) x) :
    Triple (fun w => J w ∧ I w) x (fun _ w => J w ∧ I w) I :=
  triple_error h fun _ hw => hw.2

/-- A new order is appended where there is no execution of it, and armed. -/
lemma triple_openNew {P E : World B → Prop} {Q : OrderAggregate → World B → Prop}
    {planned : PlannedOrder} {shares : ℕ} {time : DateTime} (hE : ∀ w, P w → E w)
    (h : ∀ {w intent first ledger armed ledger'}, P w →
      w.ledger.findEconomicOrder intent.decisionId intent.uquantOrderId = none →
      Ledger.appendIntent intent time w.ledger = .ok (first, ledger) →
      Ledger.validateAndArm first time ledger = .ok (armed, ledger') →
      Q armed (World.crashPoint { w with ledger := ledger' })) :
    Triple (fun w => Unexecuted planned w.ledger ∧ P w) (newAggregate planned shares time) Q E := by
  unfold newAggregate
  split
  · exact triple_throw fun _ hw => hE _ hw.2
  rename_i intent hintent
  have hpayload := ExecutionIntent.create_eq_ok hintent
  refine triple_inTransaction (fun w armed ledger hx hw => ?_) fun _ hw => hE _ hw.2
  obtain ⟨first, ledger₁, happend, harm⟩ := Txn.bind_eq_ok.mp hx
  refine h hw.2 ?_ happend harm
  rw [hpayload]
  exact hw.1

/-- A new order is issued by the repository and created at the time that it is given. -/
lemma triple_newAggregate (hI : ∀ w ledger, I w → I { w with ledger := ledger }.crashPoint)
    {planned : PlannedOrder} {shares : ℕ} {time : DateTime} :
    Triple (fun w => Unexecuted planned w.ledger ∧ I w) (newAggregate planned shares time)
      (fun aggregate w => aggregate.Issued ∧
        w.ledger.CreatedAt aggregate.intent.executionId time ∧ I w) I := by
  refine triple_openNew (fun _ hw => hw) fun {w intent _ _ _ _} hw hnew happend harm => ?_
  have hcreated := Ledger.appendIntent_createdAt hnew happend
  obtain ⟨rfl, -⟩ := Ledger.appendIntent_new hnew happend
  have hsame := Ledger.validateAndArm_creations harm
  refine ⟨Ledger.validateAndArm_issued (.fromIntent intent) harm, ?_, hI w _ hw⟩
  rw [Ledger.validateAndArm_intent harm]
  exact ⟨hsame ▸ hcreated.mem, fun t ht => hcreated.unique t (hsame ▸ ht)⟩

/-! ## The loop -/

section Loop

variable {E : World B → Prop} (h : Idle p I) (hE : ∀ w, I w → E w)
  (hsubmit : ∀ planned shares, Triple (fun w => Unexecuted planned w.ledger ∧ I w)
    (submitAndFinish p config planned shares) (fun _ => I) E)

include h hE hsubmit

lemma triple_executeOrder {st : LoopState} {planned : PlannedOrder} :
    Triple I (executeOrder p config st planned) (fun _ => I) E := by
  have hkeeps : ∀ {α : Type} {x : Live B α}, Keeps I x → Triple I x (fun _ => I) E :=
    fun hx => triple_error hx hE
  have hfresh : ∀ {α : Type} {x : Live B α}, Keeps (fun w => Unexecuted planned w.ledger ∧ I w) x →
      Triple (fun w => Unexecuted planned w.ledger ∧ I w) x
        (fun _ w => Unexecuted planned w.ledger ∧ I w) E :=
    fun hx => triple_error hx fun w hw => hE w hw.2
  have hidle : Idle p fun w => Unexecuted planned w.ledger ∧ I w := h.and_ledger _
  unfold executeOrder
  split_ifs
  · exact hkeeps keeps_pure
  · exact hkeeps keeps_pure
  intro w hw
  rw [bind_apply, show (get : Live B _) w = .ok w w from rfl]
  dsimp only
  cases hfind : w.ledger.findEconomicOrder planned.decisionId planned.uquantOrderId with
  | some existing => exact hkeeps h.keeps_recordExisting w hw
  | none =>
    refine triple_bind (hfresh hidle.keeps_safeToStart) (fun safe => ?_) w ⟨hfind, hw⟩
    split
    · refine triple_bind (hfresh hidle.keeps_sharesForCurrentFacts)
        fun ⟨shares, sizingReason⟩ => ?_
      dsimp only
      split
      · exact triple_pre (hkeeps h.keeps_recordUnsized) (fun _ h => h.2)
      · exact h.triple_recordSubmitted hE (hsubmit planned shares)
    · exact triple_pure fun _ h => h.2

/-- By induction over the orders of the plan. -/
lemma triple_executeOrders {orders : List PlannedOrder} : ∀ {st : LoopState},
    Triple I (executeOrders p config st orders) (fun _ => I) E := by
  induction orders with
  | nil => exact fun {st} => triple_pure fun _ hw => hw
  | cons planned rest ih =>
    exact fun {st} => triple_bind (triple_executeOrder h hE hsubmit) fun next => ih

/-- A run of `execute` keeps a passive assertion that every submission keeps. -/
theorem triple_execute {plan : ExecutionPlan} :
    Triple I (execute p config plan) (fun _ => I) E := by
  have hcash : Triple I (availableCash p) (fun _ => I) E :=
    triple_error h.keeps_availableCash hE
  refine triple_bind hcash fun openingCash => ?_
  refine triple_bind (triple_executeOrders h hE hsubmit) fun st => ?_
  exact triple_bind hcash fun endingCash => triple_pure fun _ hw => hw

end Loop

/-- The same, for an assertion that also holds after an exception. -/
theorem keeps_execute (h : Idle p I)
    (hsubmit : ∀ planned shares, Triple (fun w => Unexecuted planned w.ledger ∧ I w)
      (submitAndFinish p config planned shares) (fun _ => I) I) {plan : ExecutionPlan} :
    Keeps I (execute p config plan) :=
  triple_execute h (fun _ hw => hw) hsubmit

/-! ## The wait for an order -/

/-- The assertion `I`, with the order at hand, bears the wait for that order; `E` is what is left
when the wait is broken off. -/
structure Awaits (p : Ports B) (config : LiveConfig) (I : OrderAggregate → World B → Prop)
    (E : World B → Prop) : Prop where
  idle : ∀ a, Idle p (I a)
  guard : ∀ a, Triple (I a) (guard p config (some a)) (fun _ => I a) E
  reconcile : ∀ {a next w ledger fact fills time},
    Ledger.reconcileBrokerFact a fact fills time w.ledger = .ok (next, ledger) → I a w →
    I next { w with ledger := ledger }.crashPoint
  aside : ∀ a w, I a w → E w

namespace Awaits

variable {I : OrderAggregate → World B → Prop} {E : World B → Prop} (h : Awaits p config I E)
  {a : OrderAggregate}

include h

/-- A kept assertion on the order at hand, laid aside after an exception. -/
lemma keeps (hx : Keeps (I a) x) : Triple (I a) x (fun _ => I a) E :=
  triple_error hx (h.aside a)

lemma triple_refreshOpenOrder :
    Triple (I a) (refreshOpenOrder p config a) (fun next => I next) E := by
  unfold refreshOpenOrder
  split
  · exact triple_pure fun _ hw => hw
  refine triple_bind (h.guard a) fun _ => ?_
  refine triple_bind (h.keeps (keeps_call (h.idle a).queryOrders)) fun orders => ?_
  split
  · exact triple_pure fun _ hw => hw
  · refine triple_bind (h.keeps (h.idle a).keeps_brokerFills) fun fills => ?_
    refine triple_bind (h.guard a) fun _ => ?_
    refine triple_bind (h.keeps (h.idle a).keeps_clock) fun receivedAt => ?_
    exact triple_inTransaction (fun _ _ _ hx hw => h.reconcile hx hw) (h.aside a)
  · exact triple_throw (h.aside a)

/-- By induction on the number of polls. -/
lemma triple_waitUntilDeadline {deadline : ℚ} {fuel : ℕ} : ∀ {current : OrderAggregate},
    Triple (I current) (waitUntilDeadline p config deadline fuel current)
      (fun next => I next) E := by
  induction fuel with
  | zero => exact fun {current} => triple_throw (h.aside current)
  | succ fuel ih =>
    intro current
    unfold waitUntilDeadline
    split
    · exact triple_pure fun _ hw => hw
    refine triple_bind (h.guard current) fun _ => ?_
    refine triple_bind (h.keeps (h.idle current).keeps_monotonic) fun now => ?_
    split
    · exact triple_pure fun _ hw => hw
    dsimp only
    split
    · exact triple_pure fun _ hw => hw
    refine triple_bind (h.keeps (h.idle current).keeps_sleep) fun _ => ?_
    exact triple_bind h.triple_refreshOpenOrder fun next => ih

variable {submittedMonotonic : ℚ}

lemma triple_awaitMinimumLifetime :
    Triple (I a) (awaitMinimumLifetime p config submittedMonotonic a) (fun next => I next) E := by
  refine triple_bind (h.keeps (h.idle a).keeps_monotonic) fun now => ?_
  split
  · dsimp only
    split
    · refine triple_bind (h.keeps (h.idle a).keeps_sleep) fun _ => ?_
      exact h.triple_refreshOpenOrder
    · exact triple_pure fun _ hw => hw
  · exact triple_pure fun _ hw => hw

/-- The wait for an order that ends with its cancel or without. -/
lemma triple_finishOpenOrder {Q : OrderAggregate → World B → Prop} {side : Side}
    (hclosed : ∀ current w, current.state ∉ OrderState.openStates → I current w → Q current w)
    (hcancel : ∀ current, Triple (I current) (cancelAtWindowEnd p config current) Q E) :
    Triple (I a) (finishOpenOrder p config a submittedMonotonic side) Q E := by
  refine triple_bind h.triple_waitUntilDeadline fun current => ?_
  split
  · rename_i hstate
    exact triple_pure fun w hw => hclosed current w hstate hw
  · exact triple_bind h.triple_awaitMinimumLifetime fun rested => hcancel rested

end Awaits

/-! ## The answer to a write -/

section Settle

variable {P : World B → Prop} {I : OrderAggregate → World B → Prop} {E : World B → Prop}

/-- The rest of a write once the port has answered: another guard, and the answer is recorded. -/
lemma triple_settle (hidle : Idle p P) (haside : ∀ w, P w → E w)
    {order : Option OrderAggregate} {result : Except Failure BrokerOrderFact}
    {resolved marked : Failure → DateTime → Live B OrderAggregate}
    {recorded : BrokerOrderFact → List BrokerFillFact → DateTime → Live B OrderAggregate}
    (hguard : Triple P (guard p config order) (fun _ => P) E)
    (hresolved : ∀ failure time, result = .error failure →
      classifyWriteFailure failure = .notAccepted →
        Triple P (resolved failure time) (fun next => I next) E)
    (hmarked : ∀ failure time, Triple P (marked failure time) (fun next => I next) E)
    (hrecorded : ∀ response fills time,
      Triple P (recorded response fills time) (fun next => I next) E) :
    Triple P (match result with
      | .error failure => do
        guard p config order
        let occurredAt ← clock p
        if classifyWriteFailure failure = .notAccepted then
          resolved failure occurredAt
        else
          marked failure occurredAt
      | .ok response => do
        let fills ← brokerFillsOrNone p response.brokerOrderId
        guard p config order
        let receivedAt ← clock p
        recorded response fills receivedAt)
      (fun next => I next) E := by
  have hkeeps : ∀ {α : Type} {x : Live B α}, Keeps P x → Triple P x (fun _ => P) E :=
    fun hx => triple_error hx haside
  split
  · refine triple_bind hguard fun _ => triple_bind (hkeeps hidle.keeps_clock) fun occurredAt => ?_
    split_ifs with hrefused
    · exact hresolved _ occurredAt rfl hrefused
    · exact hmarked _ occurredAt
  · refine triple_bind (hkeeps hidle.keeps_brokerFillsOrNone) fun fills => ?_
    refine triple_bind hguard fun _ => triple_bind (hkeeps hidle.keeps_clock) fun receivedAt => ?_
    exact hrecorded _ fills receivedAt

end Settle

/-! ## One order after the other -/

/-- The assertion `I` bears everything but a submission and a change of the ledger. -/
structure Quiet (I : World B → Prop) : Prop where
  outside : ∀ w outside, I w → I { w with outside := outside }
  lastMonotonic : ∀ w time, I w → I { w with lastMonotonic := time }
  observe : ∀ w o, (∀ ledger command, o ≠ .submitOrder ledger command) → I w →
    I { w with trace := w.trace ++ [o] }
  crashPoint : ∀ w, I w → I w.crashPoint

namespace Quiet

variable (h : Quiet I)

include h

lemma passive : Passive p I where
  observe w o ho hw := h.observe w o (by cases ho <;> simp) hw
  lastMonotonic w time hw := h.lastMonotonic w time hw
  clock w hw := h.outside w _ hw
  monotonicClock w hw := h.outside w _ hw
  sleep w _ hw := h.outside w _ hw
  leaseCheck w hw := h.outside w _ hw
  queryAccount w hw := h.outside w _ hw
  queryPositions w hw := h.outside w _ hw
  queryOrders w hw := h.outside w _ hw
  queryFills w hw := h.outside w _ hw

lemma keeps_query {port : B → Except Failure α × B} : Keeps I (call port) :=
  keeps_call fun w hw => h.outside w _ hw

lemma keeps_note {o : Observation B} (ho : ∀ ledger command, o ≠ .submitOrder ledger command) :
    Keeps I (LiveController.observe o) :=
  keeps_modify fun w hw => h.observe w o ho hw

lemma keeps_cancelOrder {brokerOrderId : String} : Keeps I (cancelOrder p brokerOrderId) :=
  keeps_bind keeps_get fun w => keeps_bind (h.keeps_note (by simp)) fun _ =>
    keeps_bind (keeps_modify h.crashPoint) fun _ => h.keeps_query

lemma keeps_guard {aggregate : Option OrderAggregate} : Keeps I (guard p config aggregate) := by
  have hcancel : Keeps I (cancelOnlyAfterLeaseLoss p config aggregate) := by
    unfold cancelOnlyAfterLeaseLoss
    split
    · exact keeps_pure
    split
    · exact keeps_pure
    refine keeps_ite keeps_pure (keeps_bind (keeps_attempt ?_) fun _ => keeps_pure)
    refine keeps_bind h.passive.idle.keeps_monotonic fun now => keeps_ite keeps_pure ?_
    exact keeps_bind h.keeps_cancelOrder fun _ => keeps_pure
  refine keeps_bind (keeps_attempt h.keeps_query) fun result => ?_
  split
  · exact h.keeps_note (by simp)
  · exact keeps_bind (h.keeps_note (by simp)) fun _ => keeps_bind hcancel fun _ => keeps_throw
  · exact keeps_bind (h.keeps_note (by simp)) fun _ => keeps_throw

end Quiet

/-- The assertion `I`, with the order at hand, is carried along by the repository calls on that
order; `J` is what is left of it when the order is laid aside. -/
structure Carries (I : OrderAggregate → World B → Prop) (J : World B → Prop) : Prop where
  quiet : ∀ a, Quiet (I a)
  commit : ∀ {a next w ledger} (call : Ledger.OrderCall),
    call.run a w.ledger = .ok (next, ledger) → I a w → I next { w with ledger := ledger }.crashPoint
  aside : ∀ a w, I a w → J w

namespace Carries

variable {I : OrderAggregate → World B → Prop} {J : World B → Prop} (h : Carries I J)
  {a : OrderAggregate}

include h

/-- A kept assertion on the order at hand, laid aside after an exception. -/
lemma keeps (hx : Keeps (I a) x) : Triple (I a) x (fun _ => I a) J :=
  triple_error hx (h.aside a)

lemma triple_clock : Triple (I a) (clock p) (fun _ => I a) J :=
  h.keeps (h.quiet a).passive.idle.keeps_clock

lemma triple_monotonic : Triple (I a) (monotonic p) (fun _ => I a) J :=
  h.keeps (h.quiet a).passive.idle.keeps_monotonic

lemma triple_guard {aggregate : Option OrderAggregate} :
    Triple (I a) (guard p config aggregate) (fun _ => I a) J :=
  h.keeps (h.quiet a).keeps_guard

lemma triple_call (call : Ledger.OrderCall) :
    Triple (I a) (inTransaction (call.run a) : Live B OrderAggregate) (fun next => I next) J :=
  triple_inTransaction (fun _ _ _ hx hw => h.commit call hx hw) (h.aside a)

lemma triple_beginCancel {startedAt : DateTime} :
    Triple (I a) (inTransaction (Ledger.beginCancel a startedAt) : Live B _)
      (fun r => I r.1) J := by
  refine triple_inTransaction (fun w r ledger hx hw => ?_) (h.aside a)
  exact h.commit (.beginCancel startedAt) (Txn.bind_eq_ok.mpr ⟨r, ledger, hx, rfl⟩) hw

lemma triple_cancelLive : Triple (I a) (cancelLive p config a) (fun next => I next) J := by
  unfold cancelLive
  split
  · exact triple_throw (h.aside a)
  refine triple_bind h.triple_guard fun _ => triple_bind h.triple_clock fun startedAt => ?_
  refine triple_bind h.triple_beginCancel fun ⟨cancelling, attempted⟩ => ?_
  refine triple_bind h.triple_guard fun _ => ?_
  refine triple_bind (h.keeps (keeps_attempt (h.quiet _).keeps_cancelOrder)) fun result => ?_
  exact triple_settle (h.quiet _).passive.idle (h.aside _) h.triple_guard
    (fun _ _ _ _ => h.triple_call (.resolveCancelNotAccepted _ _ _))
    (fun _ _ => h.triple_call (.markAttemptUnknown _ _ _))
    fun _ _ _ => h.triple_call (.recordCancelResult _ _ _ _)

lemma awaits : Awaits p config I J where
  idle a := (h.quiet a).passive.idle
  guard _ := h.triple_guard
  reconcile hx hw := h.commit (.reconcileBrokerFact _ _ _) hx hw
  aside := h.aside

lemma triple_cancelAtWindowEnd :
    Triple (I a) (cancelAtWindowEnd p config a) (fun next => I next) J := by
  unfold cancelAtWindowEnd
  split
  · refine triple_bind h.triple_monotonic fun now => ?_
    refine triple_bind (h.keeps ((h.quiet a).keeps_note (by simp))) fun _ => ?_
    split
    · exact h.triple_cancelLive
    · exact triple_pure fun _ hw => hw
  · exact triple_pure fun _ hw => hw

lemma triple_finishOpenOrder {submittedMonotonic : ℚ} {side : Side} :
    Triple (I a) (finishOpenOrder p config a submittedMonotonic side) (fun next => I next) J :=
  h.awaits.triple_finishOpenOrder (fun _ _ _ hw => hw) fun _ => h.triple_cancelAtWindowEnd

end Carries

/-! ## The course of an order -/

/-- The assertions along an order: `J` between two orders, `F` once the order is armed, `G` once
its submission is recorded, and `I` from the call of the capability on. -/
structure Course (J : World B → Prop) (F : OrderAggregate → World B → Prop)
    (G : OrderAggregate → BrokerOrderCommand → World B → Prop)
    (I : OrderAggregate → World B → Prop) : Prop where
  quiet : Quiet J
  armed_quiet : ∀ a, Quiet (F a)
  recorded_quiet : ∀ a command, Quiet (G a command)
  carries : Carries I J
  armed_aside : ∀ a w, F a w → J w
  recorded_aside : ∀ a command w, G a command w → J w
  new : ∀ {intent time w first ledger₁ armed ledger},
    w.ledger.findEconomicOrder intent.decisionId intent.uquantOrderId = none →
    Ledger.appendIntent intent time w.ledger = .ok (first, ledger₁) →
    Ledger.validateAndArm first time ledger₁ = .ok (armed, ledger) → J w →
    F armed { w with ledger := ledger }.crashPoint
  begin : ∀ {a command time w next attempt ledger},
    Ledger.beginSubmit a command time w.ledger = .ok ((next, attempt), ledger) → F a w →
    G next command { w with ledger := ledger }.crashPoint
  submit : ∀ {a command w}, G a command w →
    I a (World.crashPoint { w with trace := w.trace ++ [.submitOrder w.ledger command] })

namespace Course

variable {J : World B → Prop} {F : OrderAggregate → World B → Prop}
  {G : OrderAggregate → BrokerOrderCommand → World B → Prop}
  {I : OrderAggregate → World B → Prop} (h : Course J F G I)

include h

variable {planned : PlannedOrder}

lemma triple_newAggregate {shares : ℕ} {time : DateTime} :
    Triple (fun w => Unexecuted planned w.ledger ∧ J w) (newAggregate planned shares time)
      (fun armed => F armed) J :=
  triple_openNew (fun _ hw => hw) fun hw hnew happend harm => h.new hnew happend harm hw

lemma triple_submitOrder {a : OrderAggregate} {command : BrokerOrderCommand} :
    Triple (G a command) (attempt (submitOrder p command)) (fun _ => I a) J := by
  intro w hw
  rw [attempt_submitOrder]
  exact (h.carries.quiet a).outside _ _ (h.submit hw)

lemma triple_submitLive {a : OrderAggregate} :
    Triple (F a) (submitLive p config a planned) (fun next => I next) J := by
  have hF : ∀ {α : Type} {x : Live B α}, Keeps (F a) x → Triple (F a) x (fun _ => F a) J :=
    fun hx => triple_error hx (h.armed_aside a)
  refine triple_bind (hF (h.armed_quiet a).keeps_guard) fun _ => ?_
  refine triple_bind (hF (h.armed_quiet a).passive.idle.keeps_clock) fun startedAt => ?_
  refine triple_bind (Q := fun r => G r.1 (command a.intent planned))
    (triple_inTransaction (fun _ _ _ hx hw => h.begin hx hw) (h.armed_aside a))
    fun ⟨submitting, attempted⟩ => ?_
  refine triple_bind (triple_error (h.recorded_quiet _ _).keeps_guard
    (h.recorded_aside _ _)) fun _ => ?_
  exact triple_bind h.triple_submitOrder fun result =>
    triple_settle (h.carries.quiet _).passive.idle (h.carries.aside _) h.carries.triple_guard
      (fun _ _ _ _ => h.carries.triple_call (.resolveSubmitNotAccepted _ _ _))
      (fun _ _ => h.carries.triple_call (.markAttemptUnknown _ _ _))
      fun _ _ _ => h.carries.triple_call (.recordSubmitResult _ _ _ _)

lemma triple_submitAndFinish {shares : ℕ} :
    Triple (fun w => Unexecuted planned w.ledger ∧ J w) (submitAndFinish p config planned shares)
      (fun _ => J) J := by
  have hJ : Passive p J := h.quiet.passive
  have hfresh := hJ.and_ledger (Unexecuted planned)
  refine triple_bind (triple_of_keeps_and hfresh.idle.keeps_monotonic) fun submittedMonotonic => ?_
  refine triple_bind (triple_of_keeps_and hfresh.idle.keeps_clock) fun submittedAt => ?_
  refine triple_bind h.triple_newAggregate fun armed => ?_
  refine triple_bind h.triple_submitLive fun submitted => ?_
  have hpure : ∀ {α : Type} {r : α} {a : OrderAggregate},
      Triple (I a) (pure r : Live B α) (fun _ => J) J :=
    fun {_ _ a} => triple_pure fun w hw => h.carries.aside a w hw
  split
  · exact hpure
  split
  · exact hpure
  exact triple_bind h.carries.triple_finishOpenOrder fun final => hpure

/-- A run of `execute` keeps what holds between two orders. -/
theorem keeps_execute {plan : ExecutionPlan} : Keeps J (execute p config plan) :=
  LiveController.keeps_execute h.quiet.passive.idle fun _ _ => h.triple_submitAndFinish

end Course

/-! ## Assertions on the trace -/

/-- The assertion `I` is about the trace, and only a submission can disturb it. -/
structure Traced (I : World B → Prop) : Prop where
  congr : ∀ w w', w'.trace = w.trace → I w → I w'
  observe : ∀ w o, (∀ ledger command, o ≠ .submitOrder ledger command) → I w →
    I { w with trace := w.trace ++ [o] }

namespace Traced

variable (h : Traced I)

include h

lemma quiet : Quiet I where
  outside w _ hw := h.congr w _ rfl hw
  lastMonotonic w _ hw := h.congr w _ rfl hw
  observe := h.observe
  crashPoint w hw := h.congr w _ rfl hw

lemma carries : Carries (fun _ => I) I where
  quiet _ := h.quiet
  commit {_ _ w _} _ _ hw := h.congr w _ rfl hw
  aside _ _ hw := hw

end Traced

end LiveController

end FirmQuant
