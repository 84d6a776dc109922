import FirmQuant.Application.ProductionDaemon

/-!
# Rules for programs of the daemon

The loop of the daemon has two places that matter to the properties of its runs: the call of
`process_pending`, behind which every control that was in the inbox has been seen, and the call of
`hooks.cycle`, in which orders are executed.  `Paced` is a pair of assertions that follows this
rhythm, and `exits_run` carries such a pair through a whole run.
-/

namespace FirmQuant

open Effect

namespace ProductionDaemon

variable {B : Type}

/-- What a call may leave of the outside. -/
inductive Answers (p : DaemonPorts B) : DaemonCall → B → B → Prop
  | clock (b) : Answers p .clock b (p.clock b).2
  | monotonicClock (b) : Answers p .monotonicClock b (p.monotonicClock b).2
  | sleep (duration b) : Answers p .sleep b (p.sleep duration b)
  | assertCurrent (b) : Answers p .assertCurrent b (p.assertCurrent b).2
  | leaseCheck (b) : Answers p .leaseCheck b (p.leaseCheck b).2
  | connect (b) : Answers p .connect b (p.connect b).2
  | subscribe (b) : Answers p .subscribe b (p.subscribe b).2
  | disconnect (b) : Answers p .disconnect b (p.disconnect b).2
  | processPending (b) : Answers p .processPending b (p.processPending b).2
  | stopRequested (b) : Answers p .stopRequested b (p.stopRequested b).2
  | executeInternalStop (source b) :
      Answers p .executeInternalStop b (p.executeInternalStop source b).2
  | finalizeStop (b) : Answers p .finalizeStop b (p.finalizeStop b).2
  | dispatchOne (b) : Answers p .dispatchOne b (p.dispatchOne b).2
  | startup (b) : Answers p .startup b (p.startup b).2
  | cycle (time b) : Answers p .cycle b (p.cycle time b).2
  | heartbeat (beat b) : Answers p .heartbeat b (p.heartbeat beat b).2
  | halt (reason b) : Answers p .halt b (p.halt reason b).2

variable {name : DaemonCall} {α : Type} {P : DaemonWorld B → Prop}

lemma Answers.of_eq {p : DaemonPorts B} {a : α} {b b' : B} {port : B → α × B}
    (hport : port b = (a, b')) (h : Answers p name b (port b).2) :
    Answers p name b b' := by
  rwa [hport] at h

/-- The calls other than those of `process_pending` and `cycle` do not disturb the assertion. -/
structure Bears (p : DaemonPorts B) (I : DaemonWorld B → Prop) : Prop where
  called : ∀ {w name b}, name ≠ .processPending → name ≠ .cycle → Answers p name w.outside b →
    I w → I (afterCall name w b)
  blocked : ∀ {w}, I w → I { w with riskBlocked := true }

/-- Assertion `I` holds between the steps of a run, and `J` from a poll of the controls to the
next cycle. -/
structure Paced (p : DaemonPorts B) (I J : DaemonWorld B → Prop) : Prop where
  between : Bears p I
  polled : Bears p J
  poll : ∀ {w b}, Answers p .processPending w.outside b → I w → J (afterCall .processPending w b)
  cycle : ∀ {w b}, Answers p .cycle w.outside b → J w → I (afterCall .cycle w b)
  weaken : ∀ {w}, J w → I w

variable {I : DaemonWorld B → Prop}

lemma paced_of_called {p : DaemonPorts B}
    (hcalled : ∀ {w name b}, Answers p name w.outside b → I w → I (afterCall name w b))
    (hblocked : ∀ {w}, I w → I { w with riskBlocked := true }) : Paced p I I where
  between := ⟨fun _ _ => hcalled, hblocked⟩
  polled := ⟨fun _ _ => hcalled, hblocked⟩
  poll := hcalled
  cycle := hcalled
  weaken h := h

variable {p : DaemonPorts B} {config : DaemonConfig}

variable {port : B → Except Failure α × B} {Q : α → DaemonWorld B → Prop}

/-- A call, by what it returns or raises. -/
lemma triple_asked {E : DaemonWorld B → Prop}
    (h : ∀ w a b, port w.outside = (.ok a, b) → P w → Q a (afterCall name w b))
    (hE : ∀ w failure b, port w.outside = (.error failure, b) → P w → E (afterCall name w b)) :
    Triple P (call name port) Q E := by
  intro w hw
  unfold call
  cases hport : port w.outside with
  | mk result outside =>
    cases result with
    | ok a => exact h w a outside hport hw
    | error failure => exact hE w failure outside hport hw

/-- A call, by what it leaves of the outside. -/
lemma triple_call {Q : DaemonWorld B → Prop}
    (h : ∀ w, P w → Q (afterCall name w (port w.outside).2)) :
    Triple P (call name port) (fun _ => Q) Q := by
  refine triple_asked (fun w a b hport hw => ?_) fun w failure b hport hw => ?_
  all_goals
    have hnext := h w hw
    rwa [hport] at hnext

/-- The assertion on the result of an attempt: `Q` if it returned, `E` if it raised. -/
def Outcome {α : Type} (Q : α → DaemonWorld B → Prop) (E : Failure → DaemonWorld B → Prop) :
    Except Failure α → DaemonWorld B → Prop
  | .ok a => Q a
  | .error failure => E failure

variable {x : Daemon B α}

lemma exits_attempt {E : Failure → DaemonWorld B → Prop} (h : Exits P x Q E) :
    Exits P (attempt x) (Outcome Q E) (fun _ _ => False) := by
  refine exits_tryCatch (E := E) (exits_bind h fun a => exits_pure fun _ hw => hw) fun failure => ?_
  exact exits_pure fun _ hw => hw

lemma exits_suppress {E : Failure → DaemonWorld B → Prop}
    (h : Keeps I x) : Exits I (suppress x) (fun _ => I) E := by
  refine exits_bind (exits_imp (exits_attempt h) (fun _ hw => hw) (fun result w hw => ?_)
    fun _ _ hw => hw.elim) fun _ => exits_pure fun _ hw => hw
  cases result with
  | ok a => exact hw
  | error failure => exact hw

lemma keeps_suppress (h : Keeps I x) :
    Keeps I (suppress x) := exits_suppress h

/-- A call in which nothing begins or ends: no poll of the controls, no stop, no startup, no cycle
and no change of the connection. -/
def isCalm : DaemonCall → Bool
  | .processPending | .executeInternalStop | .startup | .cycle | .connect | .disconnect => false
  | _ => true

/-- The calm calls do not disturb the assertion. -/
structure Calm (p : DaemonPorts B) (I : DaemonWorld B → Prop) : Prop where
  called : ∀ {w name b}, isCalm name = true → Answers p name w.outside b → I w →
    I (afterCall name w b)

namespace Calm

variable {I : DaemonWorld B → Prop} (h : Calm p I)

include h

lemma keeps_call (hname : isCalm name = true) (hanswers : ∀ b, Answers p name b (port b).2) :
    Keeps I (call name port) :=
  triple_call fun w hw => h.called hname (hanswers w.outside) hw

lemma keeps_now : Keeps I (now p) := h.keeps_call rfl fun b => .clock b

lemma keeps_monotonic : Keeps I (monotonic p) := by
  refine keeps_bind (h.keeps_call rfl fun b => .monotonicClock b) fun value => ?_
  exact keeps_ite keeps_throw keeps_pure

lemma keeps_halt {reason : HaltReason} : Keeps I (call .halt (p.halt reason)) :=
  h.keeps_call rfl fun b => .halt reason b

lemma keeps_haltIfRequired : Keeps I (haltIfRequired p) := by
  refine keeps_bind keeps_get fun w => ?_
  split
  · exact keeps_pure
  · exact keeps_bind (keeps_suppress h.keeps_halt) fun _ => keeps_throw

/-- By induction on the number of events that may still be dispatched. -/
lemma keeps_drainEvents (limit : ℕ) : Keeps I (drainEvents p limit) := by
  induction limit with
  | zero => exact keeps_pure
  | succ limit ih =>
    refine keeps_bind (h.keeps_call rfl fun b => .dispatchOne b) fun dispatched => ?_
    exact keeps_ite (keeps_bind ih fun _ => keeps_pure) keeps_pure

lemma keeps_heartbeatIfDue {st : LoopState} {controls : ControlBatch} {counts : DaemonCounts} :
    Keeps I (heartbeatIfDue p config st controls counts) := by
  refine keeps_bind h.keeps_monotonic fun monotonicAfterCycle => ?_
  refine keeps_ite ?_ keeps_pure
  refine keeps_bind h.keeps_now fun heartbeatNow => ?_
  exact keeps_bind (h.keeps_call rfl fun b => .heartbeat _ b) fun _ => keeps_pure

lemma keeps_finalizeIfPending : Keeps I (finalizeIfPending p) :=
  keeps_bind keeps_get fun _ => keeps_ite (h.keeps_call rfl fun b => .finalizeStop b) keeps_pure

end Calm

namespace Bears

variable {I : DaemonWorld B → Prop} (h : Bears p I)

include h

/-- A call that is neither a poll nor a cycle. -/
lemma keeps_call (hpoll : name ≠ .processPending) (hcycle : name ≠ .cycle)
    (hanswers : ∀ b, Answers p name b (port b).2) : Keeps I (call name port) :=
  triple_call fun w hw => h.called hpoll hcycle (hanswers w.outside) hw

lemma calm : Calm p I where
  called := by
    intro w name b hname hanswers hw
    refine h.called ?_ ?_ hanswers hw <;> rintro rfl <;> cases hname

lemma keeps_blockRisk : Keeps I (blockRisk : Daemon B PUnit) := keeps_modify fun _ => h.blocked

lemma keeps_executeInternalStop {source : Option ClockDiscontinuity} :
    Keeps I (call .executeInternalStop (p.executeInternalStop source)) :=
  h.keeps_call (by decide) (by decide) fun b => .executeInternalStop source b

/-- A discontinuity is raised as the halt of its code. -/
lemma exits_haltForClock {code : ClockDiscontinuity} {Q : PUnit → DaemonWorld B → Prop} :
    Exits I (haltForClock p code) Q fun failure w =>
      failure = .productionDaemonHalted (.clock code) ∧ I w := by
  refine exits_bind (exits_modify (Q := fun _ => I) fun _ hw => h.blocked hw) fun _ => ?_
  refine exits_bind (exits_suppress h.keeps_executeInternalStop) fun _ => ?_
  refine exits_bind (exits_suppress h.calm.keeps_halt) fun _ => ?_
  exact exits_throw fun _ hw => ⟨rfl, hw⟩

lemma keeps_startUp {controls : ControlBatch} : Keeps I (startUp p controls) := by
  refine keeps_bind keeps_get fun w => ?_
  refine keeps_ite keeps_pure ?_
  refine keeps_bind (h.keeps_call (by decide) (by decide) fun b => .startup b) fun value => ?_
  refine keeps_bind ?_ fun _ => keeps_pure
  exact keeps_ite keeps_pure keeps_throw

end Bears

namespace Paced

variable {I J : DaemonWorld B → Prop} {E : Failure → DaemonWorld B → Prop} (h : Paced p I J)

include h

lemma triple_processControls : Triple I (processControls p) (fun _ => J) J := by
  refine triple_bind (triple_call fun w hw => h.poll (.processPending w.outside) hw)
    fun batch => ?_
  exact keeps_ite (keeps_bind h.polled.keeps_blockRisk fun _ => keeps_pure) keeps_pure

lemma triple_runCycle {time : DateTime} {counts : DaemonCounts} :
    Triple J (runCycle p time counts) (fun _ => I) I := by
  refine triple_bind (triple_error keeps_get
    fun _ => h.weaken) fun w => ?_
  split
  · exact triple_pure fun _ => h.weaken
  · refine triple_bind (triple_call fun w hw => h.cycle (.cycle time w.outside) hw) fun cycle => ?_
    exact triple_pure fun _ hw => hw

lemma triple_work {time : DateTime} {st : LoopState} {controls : ControlBatch}
    {writerRenewals : ℕ} :
    Triple J (work p config time st controls writerRenewals) (fun _ => I) I := by
  have hJ : ∀ {α : Type} {x : Daemon B α}, Keeps J x → Triple J x (fun _ => J) I := fun hx =>
    triple_error hx fun _ => h.weaken
  refine triple_bind (hJ h.polled.calm.keeps_haltIfRequired) fun _ => ?_
  refine triple_bind (hJ (h.polled.calm.keeps_drainEvents _)) fun drained => ?_
  refine triple_bind (hJ h.polled.calm.keeps_haltIfRequired) fun _ => ?_
  refine triple_bind h.triple_runCycle fun counts => ?_
  refine triple_bind h.between.calm.keeps_heartbeatIfDue fun lastHeartbeat => ?_
  refine triple_bind (h.between.keeps_call (by decide) (by decide) fun b => .sleep _ b)
    fun _ => ?_
  exact triple_pure fun _ hw => hw

section Run

variable (hraise : ∀ failure w, I w → E failure w)

include hraise

/-- The handlers of `run` raise a halt of the daemon again, and turn every other exception into
one. -/
lemma exits_failClosed
    (hback : ∀ failure w, (∀ reason, failure ≠ .productionDaemonHalted reason) →
      E failure w → I w) (failure : Failure) :
    Exits (E failure) (failClosed p failure) (fun _ _ => False) E := by
  unfold failClosed
  split
  · exact exits_throw fun w hw => hraise _ w (hback _ w (fun _ => Failure.noConfusion) hw)
  · exact exits_throw fun _ hw => hw
  · exact exits_throw fun _ hw => hw
  · rename_i hlease hhalted hfuel
    have hquiet : Exits (E failure) (suppress (call .halt (p.halt .productionRuntimeException)))
        (fun _ => I) E :=
      exits_pre ((keeps_suppress h.between.calm.keeps_halt).exits hraise)
        (fun w hw => hback _ w hhalted hw)
    exact exits_bind hquiet fun _ => exits_throw fun w hw => hraise _ w hw

/-- The end of `run`, after a session that returned or raised. -/
lemma exits_wrapUp {startedAt : DateTime} (hE : ∀ failure, Bears p (E failure))
    (result : Except Failure (Option String × LoopState)) :
    Exits (Outcome (fun _ => I) E result) (wrapUp p startedAt result) (fun _ => I) E := by
  have hdisconnect : ∀ {K : DaemonWorld B → Prop}, Bears p K →
      Exits K (attempt (call .disconnect p.disconnect)) (fun _ => K) E := by
    intro K hK
    have hcall : Keeps K (call .disconnect p.disconnect) :=
      hK.keeps_call (by decide) (by decide) fun b => .disconnect b
    exact exits_imp (exits_attempt hcall) (fun _ hw => hw)
      (fun disconnected _ hw => by cases disconnected <;> exact hw) fun _ _ hw => hw.elim
  cases result with
  | error failure => exact exits_bind (hdisconnect (hE failure)) fun _ => exits_throw fun _ hw => hw
  | ok value =>
    refine exits_bind (hdisconnect h.between) fun disconnected => ?_
    cases disconnected with
    | error failure =>
      refine exits_bind ((keeps_suppress h.between.calm.keeps_halt).exits hraise) fun _ => ?_
      exact exits_throw fun w hw => hraise _ w hw
    | ok _ =>
      refine exits_bind (h.between.calm.keeps_finalizeIfPending.exits hraise) fun _ => ?_
      refine exits_bind (h.between.calm.keeps_now.exits hraise) fun stoppedAt => ?_
      exact exits_bind (keeps_get.exits hraise) fun _ => exits_pure fun _ hw => hw

variable (hobserve : ∀ wallTime monotonicTime,
    Exits I (observeRuntimeClock p wallTime monotonicTime) (fun _ => I) E)

include hobserve

/-- One iteration, between two looks at the clock. -/
lemma exits_iterate (st : LoopState) : Exits I (iterate p config st) (fun _ => I) E := by
  have hI : ∀ {α : Type} {x : Daemon B α}, Keeps I x → Exits I x (fun _ => I) E :=
    fun hx => hx.exits hraise
  have hJ : ∀ {α : Type} {x : Daemon B α}, Keeps J x → Exits J x (fun _ => J) E := fun hx =>
    hx.exits fun failure w hw => hraise failure w (h.weaken hw)
  refine exits_bind (hI h.between.calm.keeps_now) fun time => ?_
  refine exits_bind (hI h.between.calm.keeps_monotonic) fun monotonicNow => ?_
  refine exits_bind (hobserve time monotonicNow) fun _ => ?_
  refine exits_bind (hI (h.between.keeps_call (by decide) (by decide) fun b => .leaseCheck b))
    fun renewed => ?_
  refine exits_bind (exits_error h.triple_processControls
    fun failure w hw => hraise failure w (h.weaken hw)) fun controls => ?_
  refine exits_ite (exits_pure fun _ => h.weaken) ?_
  refine exits_bind (hJ (h.polled.keeps_call (by decide) (by decide) fun b => .stopRequested b))
    fun requested => ?_
  refine exits_ite ?_ ?_
  · refine exits_bind (hJ h.polled.keeps_executeInternalStop) fun _ => ?_
    refine exits_bind (hJ h.polled.keeps_blockRisk) fun _ => ?_
    exact exits_pure fun _ => h.weaken
  · refine exits_bind (exits_error h.triple_work hraise)
      fun next => ?_
    exact exits_pure fun _ hw => hw

/-- The loop, by induction on its fuel. -/
lemma exits_loop (fuel : ℕ) (st : LoopState) : Exits I (loop p config fuel st) (fun _ => I) E := by
  induction fuel generalizing st with
  | zero => exact exits_throw (hraise _)
  | succ fuel ih =>
    refine exits_bind (h.exits_iterate hraise hobserve st) fun result => ?_
    cases result with
    | inl next => exact ih next
    | inr last => exact exits_pure fun _ hw => hw

lemma exits_session (startedMonotonic : ℚ) :
    Exits I (session p config startedMonotonic) (fun _ => I) E := by
  have hweak : ∀ failure w, J w → E failure w := fun failure w hw => hraise failure w (h.weaken hw)
  have hsubscribe : Keeps I (call .subscribe p.subscribe) :=
    h.between.keeps_call (by decide) (by decide) fun b => .subscribe b
  refine exits_bind (hsubscribe.exits hraise) fun _ => ?_
  refine exits_bind (exits_error h.triple_processControls hweak)
    fun controls => ?_
  refine exits_bind (h.polled.keeps_startUp.exits hweak) fun reconciliation => ?_
  split
  · exact exits_pure fun _ => h.weaken
  · refine exits_bind (exits_pre (h.exits_loop hraise hobserve config.fuel _) (fun _ => h.weaken))
      fun last => ?_
    exact exits_pure fun _ hw => hw

/-- A whole run: assertion `I` holds when it returns, and `E` when it raises. -/
lemma exits_run
    (hback : ∀ failure w, (∀ reason, failure ≠ .productionDaemonHalted reason) →
      E failure w → I w)
    (hE : ∀ failure, Bears p (E failure)) : Exits I (run p config) (fun _ => I) E := by
  have hI : ∀ {α : Type} {x : Daemon B α}, Keeps I x → Exits I x (fun _ => I) E :=
    fun hx => hx.exits hraise
  have hclosed := h.exits_failClosed hraise hback
  refine exits_bind (hI (h.between.keeps_call (by decide) (by decide) fun b => .assertCurrent b))
    fun _ => ?_
  refine exits_bind (hI h.between.calm.keeps_now) fun startedAt => ?_
  refine exits_bind (hI h.between.calm.keeps_monotonic) fun startedMonotonic => ?_
  refine exits_bind (hobserve startedAt startedMonotonic) fun _ => ?_
  have hconnect : Keeps I (call .connect p.connect) :=
    h.between.keeps_call (by decide) (by decide) fun b => .connect b
  refine exits_bind (exits_error (exits_attempt (hI hconnect)) fun _ _ hw => hw.elim)
    fun connected => ?_
  cases connected with
  | error failure =>
    exact exits_bind (hclosed failure) fun _ => exits_throw fun _ hw => hw.elim
  | ok _ =>
    have hguarded : Exits I (tryCatch (session p config startedMonotonic) (failClosed p))
        (fun _ => I) E :=
      exits_tryCatch (h.exits_session hraise hobserve startedMonotonic) fun failure =>
        exits_post (hclosed failure) (fun _ _ hw => hw.elim)
    refine exits_bind (exits_error (exits_attempt hguarded)
      fun _ _ hw => hw.elim) fun result => ?_
    exact h.exits_wrapUp hraise hE result

end Run

end Paced

end ProductionDaemon

end FirmQuant
