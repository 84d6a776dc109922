import FirmQuant.Execution.ControllerRules
import FirmQuant.Persistence.Settlement

/-!
# The writer lease of a session

The controller checks its lease before every write to the ledger and to the broker.  A check that
fails ends the run: the guard that made it may still cancel the order at hand, and raises.  This
module shows what follows a failed check in any run, and what stands directly before a write that
follows none.
-/

namespace FirmQuant

open Effect

namespace LiveController

variable {B : Type} {p : Ports B} {config : LiveConfig}

/-! ## The discipline -/

/-- A write is covered: an attempt for its command was committed to the ledger `stored` right
after the clock was read for it, and between that commit and the write there is a check of the
lease that succeeded, and nothing else. -/
def Covered (points : List (Ledger × List (Observation B))) (before : List (Observation B))
    (stored : Ledger) (payload : CommandPayload) : Prop :=
  ∃ earlier startedAt, before = earlier ++ [.clock startedAt] ++ [.leaseCheck true] ∧
    (stored, earlier ++ [.clock startedAt]) ∈ points ∧
    ∃ row ∈ stored.attempts, row.state = .submitting ∧ row.startedAt = startedAt ∧
      ∃ command ∈ stored.commands, command.attemptId = row.attemptId ∧ command.payload = payload

/-- What a write needs before it: a submission is covered, and so is a cancel unless the lease is
lost. -/
def WriteRule (points : List (Ledger × List (Observation B))) (before : List (Observation B)) :
    Observation B → Prop
  | .submitOrder stored command => Covered points before stored (.submit command)
  | .cancelOrder _ brokerOrderId => .leaseCheck false ∈ before ∨
      ∃ stored, Covered points before stored (.cancel brokerOrderId)
  | _ => True

/-- The states of an order that the broker holds and has not closed, as far as the ledger knows: a
requested cancel does not close an order. -/
def heldByBroker : List OrderState := OrderState.openStates ++ [.cancelRequested]

/-- The ledger knows the order with this broker id as open. -/
def KnownOpen (ledger : Ledger) (brokerOrderId : String) : Prop :=
  ∃ row ∈ ledger.executionIntents, row.aggregate.brokerOrderId = some brokerOrderId ∧
    row.state = row.aggregate.state ∧ row.state ∈ heldByBroker

/-- None of the commits and broker writes came behind a failed check. -/
def BeforeLoss (points : List (Ledger × List (Observation B))) : Prop :=
  ∀ point ∈ points, .leaseCheck false ∉ point.2

/-- What may follow a failed check until the run stops in `w`: nothing, or a reading of the
monotonic clock, or such a reading and one cancel of an order that is known to be open.  Nothing is
committed to the ledger. -/
inductive AfterLoss (w : World B) : List (Observation B) → Prop
  | stop : BeforeLoss w.crashPoints → AfterLoss w []
  | read (time : ℚ) : BeforeLoss w.crashPoints → AfterLoss w [.monotonic time]
  | cancel (time : ℚ) (outside : B) (brokerOrderId : String)
      (points : List (Ledger × List (Observation B))) :
      w.crashPoints = points ++ [(w.ledger, w.trace)] → BeforeLoss points →
      KnownOpen w.ledger brokerOrderId →
      AfterLoss w [.monotonic time, .cancelOrder outside brokerOrderId]

/-- The lease discipline of a run that stops in `w`. -/
structure LeaseDisciplined (w : World B) : Prop where
  writes : Trace.Obeys (WriteRule w.crashPoints) w.trace
  lost : ∀ before after, w.trace = before ++ .leaseCheck false :: after → AfterLoss w after

/-- The discipline while no check has failed. -/
structure HeldSoFar (points : List (Ledger × List (Observation B))) (trace : List (Observation B)) :
    Prop where
  writes : Trace.Obeys (WriteRule points) trace
  held : .leaseCheck false ∉ trace
  points : BeforeLoss points

/-- The lease is held so far in `w`. -/
abbrev Held (w : World B) : Prop := HeldSoFar w.crashPoints w.trace

lemma HeldSoFar.disciplined {w : World B} (h : Held w) : LeaseDisciplined w := by
  refine ⟨h.writes, fun before after htrace => ?_⟩
  exact absurd (htrace ▸ List.mem_append_right _ List.mem_cons_self) h.held

/-! ## Steps -/

section Steps

variable {points more : List (Ledger × List (Observation B))} {before : List (Observation B)}
  {o : Observation B} {w : World B}

lemma Covered.mono {stored : Ledger} {payload : CommandPayload}
    (h : Covered points before stored payload) :
      Covered (points ++ more) before stored payload := by
  obtain ⟨earlier, startedAt, hbefore, hpoint, hattempt⟩ := h
  exact ⟨earlier, startedAt, hbefore, List.mem_append_left _ hpoint, hattempt⟩

/-- More crash points do not take the cover from a write. -/
lemma WriteRule.mono (h : WriteRule points before o) : WriteRule (points ++ more) before o := by
  cases o with
  | submitOrder stored command => exact Covered.mono h
  | cancelOrder outside brokerOrderId =>
    rcases h with hlost | ⟨stored, hcovered⟩
    · exact .inl hlost
    · exact .inr ⟨stored, hcovered.mono⟩
  | _ => trivial

lemma obeys_mono {trace : List (Observation B)} (h : Trace.Obeys (WriteRule points) trace) :
    Trace.Obeys (WriteRule (points ++ more)) trace :=
  fun before x after htrace => (h before x after htrace).mono

/-- An observation that obeys the rule and is no failed check. -/
lemma HeldSoFar.observe (h : HeldSoFar points before) (hrule : WriteRule points before o)
    (hne : o ≠ .leaseCheck false) : HeldSoFar points (before ++ [o]) := by
  refine ⟨h.writes.append hrule, fun hmem => ?_, h.points⟩
  rcases List.mem_snoc.mp hmem with hmem | hmem
  · exact h.held hmem
  · exact hne hmem.symm

lemma HeldSoFar.passive (h : HeldSoFar points before) (ho : PassiveObservation o)
    (hne : o ≠ .leaseCheck false) : HeldSoFar points (before ++ [o]) :=
  h.observe (by cases ho <;> trivial) hne

lemma HeldSoFar.crashPoint (h : HeldSoFar points before) (ledger : Ledger) :
    HeldSoFar (points ++ [(ledger, before)]) before := by
  refine ⟨obeys_mono h.writes, h.held, fun point hpoint => ?_⟩
  rcases List.mem_snoc.mp hpoint with hpoint | hpoint
  · exact h.points point hpoint
  · rw [hpoint]
    exact h.held

lemma idle_held {J : Ledger → Prop} : Idle p fun w => Held w ∧ J w.ledger where
  observe _ _ ho hne hw := ⟨hw.1.passive ho (hne false), hw.2⟩
  lastMonotonic _ _ hw := hw
  clock _ hw := hw
  monotonicClock _ hw := hw
  sleep _ _ hw := hw
  queryAccount _ hw := hw
  queryPositions _ hw := hw
  queryOrders _ hw := hw
  queryFills _ hw := hw

/-- The trace of a run whose first failed check is followed by `after`. -/
lemma disciplined_of_lost {w' : World B} (after : List (Observation B)) (h : Held w)
    (htrace : w'.trace = w.trace ++ .leaseCheck false :: after)
    (hwrites : Trace.Obeys (WriteRule w'.crashPoints) w'.trace)
    (hafter : .leaseCheck false ∉ after) (hlost : AfterLoss w' after) : LeaseDisciplined w' := by
  refine ⟨hwrites, fun before rest hsplit => ?_⟩
  -- There is one failed check, so the split is at it.
  have hsame : w.trace ++ .leaseCheck false :: after = before ++ .leaseCheck false :: rest :=
    htrace.symm.trans hsplit
  rcases List.append_eq_append_iff.mp hsame with ⟨mid, rfl, hmid⟩ | ⟨mid, hmid, hrest⟩
  · rcases mid with _ | ⟨first, mid⟩
    · obtain ⟨-, rfl⟩ := List.cons.inj hmid
      exact hlost
    · obtain ⟨-, rfl⟩ := List.cons.inj hmid
      exact absurd (List.mem_append_right _ List.mem_cons_self) hafter
  · rcases mid with _ | ⟨first, mid⟩
    · obtain ⟨-, rfl⟩ := List.cons.inj hrest
      exact hlost
    · obtain ⟨rfl, -⟩ := List.cons.inj hrest
      exact absurd (hmid ▸ List.mem_append_right _ List.mem_cons_self) h.held

/-- A guard: when the check succeeds, it is the last observation; when it fails, the run is
disciplined to its end, if the order at hand is known to be open. -/
lemma triple_guard_lease {P Q : World B → Prop} {aggregate : Option OrderAggregate}
    (hP : ∀ w, P w → Held w)
    (hopen : ∀ w a brokerOrderId, P w → aggregate = some a → a.brokerOrderId = some brokerOrderId →
      a.state ∈ OrderState.openStates → KnownOpen w.ledger brokerOrderId)
    (hheld : ∀ w outside, P w →
      Q { w with outside := outside, trace := w.trace ++ [.leaseCheck true] }) :
    Triple P (guard p config aggregate) (fun _ => Q) LeaseDisciplined := by
  have hlost : ∀ w, P w →
      Trace.Obeys (WriteRule w.crashPoints) (w.trace ++ [.leaseCheck false]) :=
    fun w hw => (hP w hw).writes.append trivial
  have hread : ∀ w time, P w → Trace.Obeys (WriteRule w.crashPoints)
      (w.trace ++ [.leaseCheck false] ++ [.monotonic time]) :=
    fun w time hw => (hlost w hw).append trivial
  have hfailed : ∀ w outside, P w → LeaseDisciplined
      ({ w with outside := outside, trace := w.trace ++ [.leaseCheck false] } : World B) :=
    fun w outside hw => disciplined_of_lost [] (hP w hw) rfl (hlost w hw) (by simp)
      (.stop (hP w hw).points)
  refine triple_guard_of hheld hfailed (triple_cancelOnlyAfterLeaseLoss ?_ ?_ ?_)
  · rintro _ ⟨w, outside, hw, rfl⟩
    exact hfailed w outside hw
  · rintro _ outside time last ⟨w, outside', hw, rfl⟩
    exact disciplined_of_lost [.monotonic time] (hP w hw) (by simp) (hread w time hw)
      (by simp) (.read time (hP w hw).points)
  · rintro _ outside outside' time a brokerOrderId rfl hid hstate - ⟨w, outside'', hw, rfl⟩
    refine disciplined_of_lost [.monotonic time, .cancelOrder outside brokerOrderId]
      (hP w hw) (by simp [World.crashPoint]) ?_ (by simp)
      (.cancel time outside brokerOrderId w.crashPoints rfl (hP w hw).points
        (hopen w a brokerOrderId hw rfl hid hstate))
    exact obeys_mono ((hread w time hw).append (.inl (by simp)))

end Steps

/-! ## One order -/

section Order

variable {a : OrderAggregate} {planned : PlannedOrder}

/-- The order at hand is shown by the ledger, and no check has failed. -/
def Watched (a : OrderAggregate) (w : World B) : Prop := Held w ∧ w.ledger.Shows a

lemma idle_watched : Idle p (Watched (B := B) a) := idle_held (J := fun ledger => ledger.Shows a)

variable {ledger : Ledger} {brokerOrderId : String} {aggregate : Option OrderAggregate}
  {next : OrderAggregate} {time : DateTime} {payload : CommandPayload} {shares : ℕ}

/-- An order that the broker holds, as the ledger shows it. -/
lemma knownOpen_of_shows (h : ledger.Shows a) (hid : a.brokerOrderId = some brokerOrderId)
    (hstate : a.state ∈ heldByBroker) :
    KnownOpen ledger brokerOrderId := by
  obtain ⟨row, hrow, -, haggregate, hrowState, -⟩ := h
  exact ⟨row, hrow, by rw [haggregate, hid], by rw [haggregate, hrowState], by rwa [hrowState]⟩

lemma heldByBroker_of_open (h : a.state ∈ OrderState.openStates) : a.state ∈ heldByBroker :=
  List.mem_append_left _ h

/-- A guard with the order as it is, or as it was when its cancel was requested. -/
lemma triple_guard_watched
    (h : ∀ b brokerOrderId, aggregate = some b → b.brokerOrderId = some brokerOrderId →
      b.state ∈ OrderState.openStates →
      a.brokerOrderId = some brokerOrderId ∧ a.state ∈ heldByBroker) :
    Triple (Watched a) (guard p config aggregate) (fun _ => Watched (B := B) a)
      LeaseDisciplined := by
  refine triple_guard_lease (fun _ hw => hw.1) (fun w b brokerOrderId hw hb hid hstate => ?_)
    fun w outside hw => ⟨hw.1.passive (.leaseCheck true) (by simp), hw.2⟩
  obtain ⟨haid, hastate⟩ := h b brokerOrderId hb hid hstate
  exact knownOpen_of_shows hw.2 haid hastate

lemma triple_guard_none : Triple (Watched a) (guard p config none) (fun _ => Watched (B := B) a)
    LeaseDisciplined := triple_guard_watched (by simp)

lemma triple_guard_own : Triple (Watched a) (guard p config (some a))
    (fun _ => Watched (B := B) a) LeaseDisciplined := by
  refine triple_guard_watched ?_
  rintro b brokerOrderId hb hid hstate
  cases hb
  exact ⟨hid, heldByBroker_of_open hstate⟩

lemma triple_commit_watched (call : Ledger.OrderCall) :
    Triple (Watched a) (inTransaction (call.run a) : Live B OrderAggregate)
      (fun next => Watched next) LeaseDisciplined :=
  triple_inTransaction (fun _ _ ledger hx hw =>
    ⟨hw.1.crashPoint ledger, (Ledger.OrderCall.evolves hx).shows hw.2⟩) fun _ hw =>
      hw.1.disciplined

lemma awaits_watched : Awaits p config (fun a => Watched (B := B) a) LeaseDisciplined where
  idle _ := idle_watched
  guard _ := triple_guard_own
  reconcile {_ _ _ ledger _ _ _} hx hw :=
    ⟨hw.1.crashPoint ledger, (Ledger.reconcileBrokerFact_evolves hx).shows hw.2⟩
  aside _ _ hw := hw.1.disciplined

/-- The attempt of a write was just committed, behind a reading of the clock. -/
def Recorded (a : OrderAggregate) (payload : CommandPayload) (w : World B) : Prop :=
  Watched a w ∧ Covered w.crashPoints (w.trace ++ [.leaseCheck true]) w.ledger payload

/-- The write is covered, and next. -/
def Ready (a : OrderAggregate) (payload : CommandPayload) (w : World B) : Prop :=
  Watched a w ∧ Covered w.crashPoints w.trace w.ledger payload

lemma triple_clock_watched : Triple (Watched a) (clock p)
    (fun time w => Watched (B := B) a w ∧ ∃ earlier, w.trace = earlier ++ [.clock time])
    LeaseDisciplined := by
  intro w hw
  rw [clock_apply]
  exact ⟨⟨hw.1.passive (.clock _) (by simp), hw.2⟩, w.trace, rfl⟩

lemma recorded_of_attempt {w : World B} (hw : Held w) (hshows : ledger.Shows next)
    (htrace : ∃ earlier, w.trace = earlier ++ [.clock time])
    (hattempt : ∃ row ∈ ledger.attempts, row.state = .submitting ∧ row.startedAt = time ∧
      ∃ command ∈ ledger.commands, command.attemptId = row.attemptId ∧
        command.payload = payload) :
    Recorded next payload { w with ledger := ledger }.crashPoint := by
  obtain ⟨earlier, hearlier⟩ := htrace
  refine ⟨⟨hw.crashPoint ledger, hshows⟩, earlier, time, by simp [World.crashPoint, hearlier], ?_,
    hattempt⟩
  rw [← hearlier]
  exact List.mem_concat_self

/-- The check between the record of an attempt and its write. -/
lemma triple_guard_recorded
    (h : ∀ b brokerOrderId, aggregate = some b → b.brokerOrderId = some brokerOrderId →
      b.state ∈ OrderState.openStates →
      a.brokerOrderId = some brokerOrderId ∧ a.state ∈ heldByBroker) :
    Triple (Recorded a payload) (guard p config aggregate) (fun _ => Ready (B := B) a payload)
      LeaseDisciplined := by
  refine triple_guard_lease (fun _ hw => hw.1.1) (fun w b brokerOrderId hw hb hid hstate => ?_)
    fun w outside hw => ⟨⟨hw.1.1.passive (.leaseCheck true) (by simp), hw.1.2⟩, hw.2⟩
  obtain ⟨haid, hastate⟩ := h b brokerOrderId hb hid hstate
  exact knownOpen_of_shows hw.1.2 haid hastate

lemma triple_submitOrder_ready {command : BrokerOrderCommand} :
    Triple (Ready a (.submit command)) (attempt (submitOrder p command))
      (fun _ => Watched (B := B) a) LeaseDisciplined := by
  intro w hw
  rw [attempt_submitOrder]
  have hnext := hw.1.1.observe (o := .submitOrder w.ledger command) hw.2 (by simp)
  exact ⟨hnext.crashPoint w.ledger, hw.1.2⟩

lemma triple_cancelOrder_ready :
    Triple (Ready a (.cancel brokerOrderId)) (attempt (cancelOrder p brokerOrderId))
      (fun _ => Watched (B := B) a) LeaseDisciplined := by
  intro w hw
  rw [attempt_cancelOrder]
  have hnext := hw.1.1.observe (o := .cancelOrder w.outside brokerOrderId)
    (.inr ⟨_, hw.2⟩) (by simp)
  exact ⟨hnext.crashPoint w.ledger, hw.1.2⟩

lemma triple_submitLive_watched :
    Triple (Watched a) (submitLive p config a planned) (fun next => Watched (B := B) next)
      LeaseDisciplined := by
  refine triple_bind triple_guard_none fun _ => triple_bind triple_clock_watched fun startedAt => ?_
  refine triple_bind (Q := fun r => Recorded r.1 (.submit (command a.intent planned)))
    (triple_inTransaction (fun w r ledger hx hw => ?_) fun _ hw => hw.1.1.disciplined)
    fun ⟨submitting, attempted⟩ => ?_
  · have hevolves : Ledger.Evolves (Ledger.CallEvent fun _ => True) (a, w.ledger) (r.1, ledger) :=
      Ledger.beginSubmit_evolves hx
    exact recorded_of_attempt hw.1.1 (hevolves.shows hw.1.2) hw.2
      (Ledger.beginSubmit_attempt hx)
  refine triple_bind (triple_guard_recorded (by simp)) fun _ => ?_
  refine triple_bind triple_submitOrder_ready fun result => ?_
  exact triple_settle (I := fun a => Watched a) idle_watched (fun _ hw => hw.1.disciplined)
    triple_guard_none
    (fun _ _ _ _ => triple_commit_watched (.resolveSubmitNotAccepted _ _ _))
    (fun _ _ => triple_commit_watched (.markAttemptUnknown _ _ _))
    fun _ _ _ => triple_commit_watched (.recordSubmitResult _ _ _ _)

/-- A requested cancel leaves the order with its broker id, and not closed. -/
lemma cancelRequested_heldByBroker {id : EventId} (hid : a.brokerOrderId = some brokerOrderId)
    (hstate : a.state ∈ heldByBroker) (h : a.apply ⟨id, .cancelRequested⟩ = .ok next) :
    next.brokerOrderId = some brokerOrderId ∧ next.state ∈ heldByBroker := by
  rcases OrderAggregate.apply_seen_or_new h with ⟨rfl, -⟩ | ⟨-, hnew⟩
  · exact ⟨hid, hstate⟩
  · simp only [OrderAggregate.applyNew, hid, Option.isNone_some, Bool.false_eq_true, if_false]
      at hnew
    rw [(OrderAggregate.updated_eq_ok hnew).2.2]
    exact ⟨hid, (by decide : OrderState.cancelRequested ∈ heldByBroker)⟩

lemma triple_cancelLive_watched (hopen : a.state ∈ OrderState.openStates) :
    Triple (Watched a) (cancelLive p config a) (fun next => Watched (B := B) next)
      LeaseDisciplined := by
  unfold cancelLive
  split
  · exact triple_throw fun _ hw => hw.1.disciplined
  rename_i brokerOrderId hbroker
  refine triple_bind triple_guard_own fun _ => triple_bind triple_clock_watched fun startedAt => ?_
  refine triple_bind (Q := fun r w => (r.1.brokerOrderId = some brokerOrderId ∧
      r.1.state ∈ heldByBroker) ∧ Recorded r.1 (.cancel brokerOrderId) w)
    (triple_inTransaction (fun w r ledger hx hw => ?_) fun _ hw => hw.1.1.disciplined)
    fun ⟨cancelling, attempted⟩ => triple_assume fun hcancelling => ?_
  · have hevolves : Ledger.Evolves (Ledger.CallEvent fun _ => True) (a, w.ledger) (r.1, ledger) :=
      Ledger.beginCancel_evolves hx
    refine ⟨?_, recorded_of_attempt hw.1.1 (hevolves.shows hw.1.2) hw.2
      (Ledger.beginCancel_attempt hbroker hx)⟩
    obtain ⟨-, -, ledger₁, htransition, -⟩ := Ledger.beginCancel_eq_ok hx
    rcases Ledger.transition_eq_ok htransition with ⟨hsame, -⟩ | ⟨happly, -⟩
    · rw [hsame]
      exact ⟨hbroker, heldByBroker_of_open hopen⟩
    · exact cancelRequested_heldByBroker hbroker (heldByBroker_of_open hopen) happly
  have hguard : ∀ b id, some a = some b → b.brokerOrderId = some id →
      b.state ∈ OrderState.openStates →
      cancelling.brokerOrderId = some id ∧ cancelling.state ∈ heldByBroker := by
    rintro b id hb hid -
    cases hb
    rw [hbroker] at hid
    cases hid
    exact hcancelling
  refine triple_bind (triple_guard_recorded hguard) fun _ => ?_
  refine triple_bind triple_cancelOrder_ready fun result => ?_
  exact triple_settle (I := fun a => Watched a) idle_watched (fun _ hw => hw.1.disciplined)
    (triple_guard_watched hguard)
    (fun _ _ _ _ => triple_commit_watched (.resolveCancelNotAccepted _ _ _))
    (fun _ _ => triple_commit_watched (.markAttemptUnknown _ _ _))
    fun _ _ _ => triple_commit_watched (.recordCancelResult _ _ _ _)

lemma triple_cancelAtWindowEnd_watched :
    Triple (Watched a) (cancelAtWindowEnd p config a) (fun next => Watched (B := B) next)
      LeaseDisciplined := by
  unfold cancelAtWindowEnd
  split
  swap
  · exact triple_pure fun _ hw => hw
  rename_i hopen
  refine triple_bind (triple_error idle_watched.keeps_monotonic
    fun _ hw => hw.1.disciplined) fun now => ?_
  refine triple_bind (Q := fun _ => Watched a) (fun w hw => ?_) fun _ => ?_
  · exact ⟨hw.1.observe trivial (by simp), hw.2⟩
  split
  · exact triple_cancelLive_watched hopen
  · exact triple_pure fun _ hw => hw

lemma triple_newAggregate_watched :
    Triple (fun w : World B => Unexecuted planned w.ledger ∧ Held w)
      (newAggregate planned shares time) (fun armed => Watched armed) LeaseDisciplined := by
  refine triple_openNew (fun _ hw => hw.disciplined) fun hw hnew happend harm => ?_
  have hevolves : Ledger.Evolves (Ledger.CallEvent fun _ => True) (_, _) (_, _) :=
    Ledger.validateAndArm_evolves harm
  obtain ⟨rfl, -, rfl⟩ := Ledger.appendIntent_new hnew happend
  exact ⟨hw.crashPoint _, hevolves.shows ⟨_, List.mem_concat_self, rfl, rfl, rfl, rfl⟩⟩

lemma triple_submitAndFinish_held :
    Triple (fun w : World B => Unexecuted planned w.ledger ∧ Held w)
      (submitAndFinish p config planned shares) (fun _ => Held) LeaseDisciplined := by
  have hidle : Idle p (Held (B := B)) := by
    have h : Idle p fun w : World B => Held w ∧ True := idle_held (J := fun _ => True)
    simpa using h
  have hkeeps : ∀ {α : Type} {x : Live B α},
      Keeps (fun w => Unexecuted planned w.ledger ∧ Held w) x →
      Triple (fun w => Unexecuted planned w.ledger ∧ Held w) x
        (fun _ w => Unexecuted planned w.ledger ∧ Held w) LeaseDisciplined :=
    fun hx => triple_error hx fun _ hw => hw.2.disciplined
  have hfresh := hidle.and_ledger (Unexecuted planned)
  refine triple_bind (hkeeps hfresh.keeps_monotonic) fun submittedMonotonic => ?_
  refine triple_bind (hkeeps hfresh.keeps_clock) fun submittedAt => ?_
  refine triple_bind triple_newAggregate_watched fun armed => ?_
  refine triple_bind triple_submitLive_watched fun submitted => ?_
  split
  · exact triple_pure fun _ hw => hw.1
  split
  · exact triple_pure fun _ hw => hw.1
  refine triple_bind (awaits_watched.triple_finishOpenOrder (fun _ _ _ hw => hw) fun _ =>
    triple_cancelAtWindowEnd_watched) fun final => ?_
  exact triple_pure fun _ hw => hw.1

end Order

/-! ## Every run -/

end LiveController

end FirmQuant
