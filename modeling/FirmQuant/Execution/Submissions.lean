import FirmQuant.Execution.ControllerRules

/-!
# The submissions of a run

Every command that a run of `execute` passes to the capability belongs to an execution that the
ledger created during the run, at a reading of the wall clock.  The window of the order is counted
from that reading.
-/

namespace FirmQuant

open Effect

namespace LiveController

variable {B : Type} {p : Ports B} {config : LiveConfig} {base : List (Observation B)}

/-- Among the observations since `base`, every submission finds its execution in the ledger,
created at one of the clock readings since `base`. -/
def Timed (since : List (Observation B)) : Prop :=
  ∀ ledger command, .submitOrder ledger command ∈ since →
    ∃ time, .clock time ∈ since ∧ ledger.CreatedAt command.executionId time

variable {since : List (Observation B)} {w : World B} {planned : PlannedOrder}

lemma Timed.append (h : Timed since) {o : Observation B}
    (ho : ∀ ledger command, o ≠ .submitOrder ledger command) : Timed (since ++ [o]) := by
  intro ledger command hmem
  rcases List.mem_snoc.mp hmem with hmem | hmem
  · obtain ⟨time, hclock, hcreated⟩ := h ledger command hmem
    exact ⟨time, List.mem_append_left _ hclock, hcreated⟩
  · exact absurd hmem.symm (ho ledger command)

/-- A run since `base` has timed its submissions. -/
def TimedSince (base : List (Observation B)) (w : World B) : Prop :=
  ∃ since, w.trace = base ++ since ∧ Timed since

/-- So far, and the clock showed `time` since `base`. -/
def ReadSince (base : List (Observation B)) (time : DateTime) (w : World B) : Prop :=
  ∃ since, w.trace = base ++ since ∧ Timed since ∧ .clock time ∈ since

/-- So far, and the execution was created at a reading since `base`. -/
def StartedSince (base : List (Observation B)) (executionId : ExecutionId) (time : DateTime)
    (w : World B) : Prop :=
  w.ledger.CreatedAt executionId time ∧ ReadSince base time w

lemma traced_timedSince : Traced (TimedSince (B := B) base) where
  congr w w' htrace := by
    rintro ⟨since, hsince, htimed⟩
    exact ⟨since, htrace.trans hsince, htimed⟩
  observe w o ho := by
    rintro ⟨since, hsince, htimed⟩
    exact ⟨since ++ [o], by simp [hsince], htimed.append ho⟩

variable {time : DateTime}

lemma traced_readSince : Traced (ReadSince (B := B) base time) where
  congr w w' htrace := by
    rintro ⟨since, hsince, htimed⟩
    exact ⟨since, htrace.trans hsince, htimed⟩
  observe w o ho := by
    rintro ⟨since, hsince, htimed, hread⟩
    exact ⟨since ++ [o], by simp [hsince], htimed.append ho, List.mem_append_left _ hread⟩

lemma passive_startedSince {executionId : ExecutionId} :
    Passive p (StartedSince base executionId time) :=
  traced_readSince.quiet.passive.and_ledger fun ledger => ledger.CreatedAt executionId time

lemma ReadSince.timedSince (h : ReadSince base time w) :
    TimedSince base w := by
  obtain ⟨since, hsince, htimed, -⟩ := h
  exact ⟨since, hsince, htimed⟩

/-! ## One order -/

/-- A kept stronger assertion, with the weaker one after an exception. -/
lemma triple_weaken {α : Type} {I J : World B → Prop} {x : Live B α} (h : Keeps I x)
    (himp : ∀ w, I w → J w) : Triple I x (fun _ => I) J :=
  triple_error h himp

/-- The call of the capability is the only step that adds a submission. -/
lemma triple_submitOrder_started (command : BrokerOrderCommand) :
    Triple (StartedSince base command.executionId time) (attempt (submitOrder p command))
      (fun _ => TimedSince base) (TimedSince base) := by
  refine triple_imp (triple_attempt (Q := fun _ => TimedSince base) (E := TimedSince base) ?_)
    (fun _ h => h) (fun result w h => ?_) fun _ h => h.elim
  · intro w hw
    obtain ⟨hcreated, since, hsince, htimed, hread⟩ := hw
    have hnext : TimedSince base { w with trace :=
      w.trace ++ [.submitOrder w.ledger command] } := by
      refine ⟨since ++ [.submitOrder w.ledger command], by simp [hsince], ?_⟩
      intro ledger c hmem
      rcases List.mem_snoc.mp hmem with hmem | hmem
      · obtain ⟨t, hclock, ht⟩ := htimed ledger c hmem
        exact ⟨t, List.mem_append_left _ hclock, ht⟩
      · cases hmem
        exact ⟨time, List.mem_append_left _ hread, hcreated⟩
    exact (traced_timedSince.quiet.keeps_query : Keeps (TimedSince base)
      (call (p.submitOrder w.ledger command))) _ (traced_timedSince.quiet.crashPoint _ hnext)
  · cases result with
    | ok fact => exact h
    | error failure => exact h

lemma triple_submitLive_started {aggregate : OrderAggregate} :
    Triple (StartedSince base aggregate.intent.executionId time)
      (submitLive p config aggregate planned) (fun _ => TimedSince base) (TimedSince base) := by
  have hstop : ∀ w : World B, StartedSince base aggregate.intent.executionId time w →
      TimedSince base w := fun w hw => hw.2.timedSince
  refine triple_bind (triple_weaken passive_startedSince.keeps_guard_none hstop) fun _ => ?_
  refine triple_bind (triple_weaken passive_startedSince.idle.keeps_clock hstop) fun startedAt => ?_
  refine triple_bind (Q := fun _ => StartedSince base aggregate.intent.executionId time)
    (triple_weaken ?_ hstop) fun ⟨submitting, attempted⟩ => ?_
  · refine keeps_inTransaction fun w ⟨next, attempt⟩ ledger hx hw => ⟨?_, ?_⟩
    · have hsame := Ledger.beginSubmit_creations hx
      exact ⟨hsame ▸ hw.1.mem, fun t ht => hw.1.unique t (hsame ▸ ht)⟩
    · exact traced_readSince.congr w _ rfl hw.2
  refine triple_bind (triple_weaken passive_startedSince.keeps_guard_none hstop) fun _ => ?_
  refine triple_bind (triple_submitOrder_started (command aggregate.intent planned))
    fun result => ?_
  have hcarries := (traced_timedSince : Traced (TimedSince (B := B) base)).carries
  have hcall := hcarries.triple_call (a := submitting)
  exact triple_settle (hcarries.quiet submitting).passive.idle (fun _ hw => hw)
    (hcarries.triple_guard (a := submitting))
    (fun _ _ _ _ => hcall (.resolveSubmitNotAccepted _ _ _))
    (fun _ _ => hcall (.markAttemptUnknown _ _ _)) fun _ _ _ => hcall (.recordSubmitResult _ _ _ _)

/-- The reading of an order's start is recorded in the trace. -/
lemma triple_clock_read {J : Ledger → Prop} :
    Triple (fun w => J w.ledger ∧ TimedSince base w) (clock p)
      (fun time w => J w.ledger ∧ ReadSince base time w) (TimedSince base) := by
  intro w ⟨hledger, since, hsince, htimed⟩
  refine ⟨hledger, since ++ [.clock (p.clock w.outside).1], ?_, htimed.append (by simp), by simp⟩
  change w.trace ++ _ = _
  simp [hsince]

lemma triple_submitAndFinish_timed {shares : ℕ} :
    Triple (fun w => Unexecuted planned w.ledger ∧ TimedSince base w)
      (submitAndFinish p config planned shares)
      (fun _ => TimedSince base) (TimedSince base) := by
  have htimed : Passive p (TimedSince base) := traced_timedSince.quiet.passive
  have hfresh := htimed.and_ledger (Unexecuted planned)
  refine triple_bind (triple_of_keeps_and hfresh.idle.keeps_monotonic) fun submittedMonotonic => ?_
  refine triple_bind triple_clock_read fun submittedAt => ?_
  have hstarted : Triple (fun w => Unexecuted planned w.ledger ∧ ReadSince base submittedAt w)
      (newAggregate planned shares submittedAt)
      (fun aggregate => StartedSince (B := B) base aggregate.intent.executionId submittedAt)
      (TimedSince base) :=
    triple_imp (triple_newAggregate fun w _ hw => traced_readSince.congr w _ rfl hw)
      (fun _ hw => hw) (fun _ _ hw => hw.2) fun _ hw => hw.timedSince
  refine triple_bind hstarted fun armed => triple_bind triple_submitLive_started fun submitted => ?_
  refine keeps_ite keeps_pure (keeps_ite keeps_pure ?_)
  exact keeps_bind traced_timedSince.carries.triple_finishOpenOrder fun final => keeps_pure

/-- Every submission of a run belongs to an execution that was created at a clock reading of
the run. -/
theorem execute_timed {plan : ExecutionPlan}
    (htrace : (finalState (execute p config plan w)).trace = w.trace ++ since) : Timed since := by
  have hrun : TimedSince w.trace (finalState (execute p config plan w)) :=
    (keeps_execute traced_timedSince.quiet.passive.idle fun _ _ =>
      triple_submitAndFinish_timed).finalState
      ⟨[], by simp, by simp [Timed]⟩
  obtain ⟨since', hsince, htimed⟩ := hrun
  obtain rfl : since = since' := List.append_cancel_left (htrace.symm.trans hsince)
  exact htimed

end LiveController

end FirmQuant
