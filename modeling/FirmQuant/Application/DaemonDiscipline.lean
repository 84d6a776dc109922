import FirmQuant.Application.DaemonRules

/-!
# The order of effects in a run of the daemon

Once a control has halted or stopped a run, the hooks neither start up nor run a cycle in it again.
Before each cycle, and in the same iteration, the lease is checked, the controls are processed and
the queued events are drained.  A broker that was connected is disconnected once, however the run
ends.
-/

namespace FirmQuant

open Effect

namespace ProductionDaemon

variable {B : Type}

/-! ## What a trace may hold -/

/-- Events are drained until none is queued or the limit is reached. -/
inductive Drained (p : DaemonPorts B) : ℕ → B → List (DaemonObservation B) → B → Prop
  | limit {b : B} : Drained p 0 b [] b
  | empty {limit : ℕ} {b b' : B} (hcall : p.dispatchOne b = (.ok false, b')) :
      Drained p (limit + 1) b [.called .dispatchOne b b'] b'
  | event {limit : ℕ} {b b' b'' : B} {rest : List (DaemonObservation B)}
      (hcall : p.dispatchOne b = (.ok true, b')) (hrest : Drained p limit b' rest b'') :
      Drained p (limit + 1) b (.called .dispatchOne b b' :: rest) b''

/-- The trace ends with the checks of an iteration: the lease was checked, the controls were
processed, and neither they nor a signal ask for a stop. -/
def Checked (p : DaemonPorts B) (trace : List (DaemonObservation B)) (b : B) : Prop :=
  ∃ earlier b₁ b₂ b₃ renewed batch,
    trace = earlier ++ [.called .leaseCheck b₁ b₂, .called .processPending b₂ b₃,
      .called .stopRequested b₃ b] ∧
    p.leaseCheck b₁ = (.ok renewed, b₂) ∧
    p.processPending b₂ = (.ok batch, b₃) ∧ batch.stop = false ∧
    p.stopRequested b₃ = (.ok false, b)

/-- The trace ends with the checks of an iteration and its drain of events. -/
def DrainedAfterCheck (p : DaemonPorts B) (config : DaemonConfig)
    (trace : List (DaemonObservation B)) (b : B) : Prop :=
  ∃ checked b₀ drained, trace = checked ++ drained ∧ Checked p checked b₀ ∧
    Drained p config.maxEventsPerCycle b₀ drained b

/-- An observation after which nothing may be risked: a batch of controls that has halted or stopped
the run, or an internal stop. -/
def Forbids (p : DaemonPorts B) : DaemonObservation B → Prop
  | .called .processPending before after =>
    ∃ batch, p.processPending before = (.ok batch, after) ∧
      (batch.halted = true ∨ batch.stop = true)
  | .called .executeInternalStop _ _ => True
  | _ => False

/-- What must have been observed before an observation. -/
def EffectRule (p : DaemonPorts B) (config : DaemonConfig) (before : List (DaemonObservation B)) :
    DaemonObservation B → Prop
  | .called .startup _ _ => ∀ o ∈ before, ¬ Forbids p o
  | .called .cycle b _ => (∀ o ∈ before, ¬ Forbids p o) ∧ DrainedAfterCheck p config before b ∧
    p.haltRequired b = none
  | _ => True

/-- Whether the broker was connected. -/
def isConnection (p : DaemonPorts B) : DaemonObservation B → Bool
  | .called .connect before _ => (p.connect before).1.isOk
  | _ => false

def isDisconnection : DaemonObservation B → Bool
  | .called .disconnect _ _ => true
  | _ => false

/-- How often the broker was connected. -/
def connections (p : DaemonPorts B) (trace : List (DaemonObservation B)) : ℕ :=
  trace.countP (isConnection p)

/-- How often the broker was disconnected. -/
def disconnections (trace : List (DaemonObservation B)) : ℕ := trace.countP isDisconnection

/-! ## The assertions of a run -/

variable {p : DaemonPorts B} {config : DaemonConfig}

/-- The trace obeys the rule, with so many connections and disconnections. -/
structure Disciplined (p : DaemonPorts B) (config : DaemonConfig) (counts : ℕ × ℕ)
    (w : DaemonWorld B) : Prop where
  rule : Trace.Obeys (EffectRule p config) w.trace
  counts : (connections p w.trace, disconnections w.trace) = counts

/-- Nothing was observed that forbids risk, unless risk is blocked. -/
def Unforbidden (p : DaemonPorts B) (w : DaemonWorld B) : Prop :=
  w.riskBlocked = false → ∀ o ∈ w.trace, ¬ Forbids p o

/-- The assertion between the steps of a run. -/
def Guarded (p : DaemonPorts B) (config : DaemonConfig) (counts : ℕ × ℕ) (w : DaemonWorld B) :
    Prop := Disciplined p config counts w ∧ Unforbidden p w

/-- The assertion after a batch of controls, if the run goes on. -/
def GuardedUnless (p : DaemonPorts B) (config : DaemonConfig) (counts : ℕ × ℕ) (stop : Bool)
    (w : DaemonWorld B) : Prop :=
  Disciplined p config counts w ∧ (stop = false → Unforbidden p w)

section Assertions

variable {counts : ℕ × ℕ} {w : DaemonWorld B} {b : B} {o : DaemonObservation B}

/-- One more observation, which is about no connection. -/
lemma Disciplined.note (h : Disciplined p config counts w) (hrule : EffectRule p config w.trace o)
    (hconnection : isConnection p o = false) (hdisconnection : isDisconnection o = false)
    {w' : DaemonWorld B} (htrace : w'.trace = w.trace ++ [o]) : Disciplined p config counts w' where
  rule := by
    rw [htrace]
    exact h.rule.append hrule
  counts := by
    have hcounts := h.counts
    unfold connections disconnections at hcounts ⊢
    rw [htrace, List.countP_append, List.countP_append]
    simpa [hconnection, hdisconnection] using hcounts

lemma Disciplined.blocked (h : Disciplined p config counts w) :
    Disciplined p config counts { w with riskBlocked := true } := ⟨h.rule, h.counts⟩

/-- Where nothing begins or ends, the rule has nothing to say. -/
lemma effectRule_calm {name : DaemonCall} (hname : isCalm name = true)
    (before : List (DaemonObservation B)) (b b' : B) :
    EffectRule p config before (.called name b b') := by
  cases name <;> trivial

lemma not_forbids_calm {name : DaemonCall} (hname : isCalm name = true) (b b' : B) :
    ¬ Forbids p (.called name b b') := by
  cases name <;> first | exact id | cases hname

lemma Disciplined.calm (counts : ℕ × ℕ) : Calm p (Disciplined p config counts) where
  called := by
    intro w name b hname _ hw
    refine hw.note (effectRule_calm hname _ _ _) ?_ ?_ rfl <;>
      cases name <;> first | rfl | cases hname

lemma Unforbidden.note (h : Unforbidden p w) (ho : ¬ Forbids p o) {w' : DaemonWorld B}
    (htrace : w'.trace = w.trace ++ [o]) (hblocked : w'.riskBlocked = w.riskBlocked) :
    Unforbidden p w' := by
  intro hfree o' ho'
  rw [htrace, List.mem_append, List.mem_singleton] at ho'
  rcases ho' with ho' | rfl
  · exact h (hblocked ▸ hfree) o' ho'
  · exact ho

lemma Guarded.calm (counts : ℕ × ℕ) : Calm p (Guarded p config counts) where
  called hname hanswers hw :=
    ⟨(Disciplined.calm counts).called hname hanswers hw.1,
      hw.2.note (not_forbids_calm hname _ _) rfl rfl⟩

end Assertions

/-! ## The parts of a run -/

section Parts

variable {counts : ℕ × ℕ}

/-- What raises ends the discipline of the risk, but not that of the trace. -/
lemma Guarded.triple {α : Type} {x : Daemon B α} {Q : α → DaemonWorld B → Prop}
    (hx : Triple (Guarded p config counts) x Q (Guarded p config counts)) :
    Triple (Guarded p config counts) x Q (Disciplined p config counts) :=
  triple_error hx fun _ h => h.1

lemma disciplined_executeInternalStop {source : Option ClockDiscontinuity} :
    Keeps (Disciplined p config counts)
      (call .executeInternalStop (p.executeInternalStop source)) :=
  triple_call fun _ hw => hw.note (o := .called .executeInternalStop _ _) trivial rfl rfl rfl

/-- A discontinuity stops the run, and it raises. -/
lemma triple_observeRuntimeClock {wallTime : DateTime} {monotonicTime : ℚ} :
    Triple (Guarded p config counts) (observeRuntimeClock p wallTime monotonicTime)
      (fun _ => Guarded p config counts) (Disciplined p config counts) := by
  refine triple_get_bind fun s hs => ?_
  refine triple_bind (Q := fun _ => Guarded p config counts)
    (triple_modify fun w hw => ⟨⟨hw.1.rule, hw.1.counts⟩, hw.2⟩) fun _ => ?_
  refine triple_bind (Q := fun _ => Guarded p config counts)
    (triple_modify fun w hw => ⟨hw.1.note (o := .observed _) trivial rfl rfl rfl,
      hw.2.note (o := .observed _) id rfl rfl⟩) fun _ => ?_
  split
  · exact triple_pure fun _ hw => hw
  · refine triple_bind (Q := fun _ => Disciplined p config counts)
      (triple_modify fun w hw => hw.1.note (o := .discontinuity _) trivial rfl rfl rfl)
      fun _ => ?_
    refine triple_bind (Q := fun _ => Disciplined p config counts)
      (triple_modify fun w hw => hw.blocked) fun _ => ?_
    refine triple_bind (keeps_suppress disciplined_executeInternalStop) fun _ => ?_
    refine triple_bind (keeps_suppress (Disciplined.calm counts).keeps_halt) fun _ => ?_
    exact triple_throw fun _ hw => hw

variable {P : DaemonWorld B → Prop} {controls : ControlBatch}

/-- After a batch of controls that does not stop the run, risk is blocked if the batch has halted
it. -/
lemma triple_processControls (hP : ∀ w, P w → Guarded p config counts w) :
    Triple P (processControls p)
      (fun batch w => GuardedUnless p config counts batch.stop w ∧ ∃ before, P before ∧
        w.trace = before.trace ++ [.called .processPending before.outside w.outside] ∧
        p.processPending before.outside = (.ok batch, w.outside))
      (Disciplined p config counts) := by
  intro w hw
  have hguarded := hP w hw
  have hnoted : Disciplined p config counts
      (afterCall .processPending w (p.processPending w.outside).2) :=
    hguarded.1.note (o := .called .processPending _ _) trivial rfl rfl rfl
  unfold processControls
  rw [bind_apply]
  unfold call
  cases hpoll : p.processPending w.outside with
  | mk result outside =>
    rw [hpoll] at hnoted
    cases result with
    | error failure => exact hnoted
    | ok batch =>
      dsimp only
      by_cases hhalted : batch.halted = true
      · rw [if_pos hhalted]
        exact ⟨⟨hnoted.blocked, fun _ hfree => by cases hfree⟩, w, hw, rfl, hpoll⟩
      · rw [if_neg hhalted]
        refine ⟨⟨hnoted, fun hstop => ?_⟩, w, hw, rfl, hpoll⟩
        refine hguarded.2.note ?_ rfl rfl
        rintro ⟨other, hother, hforbids⟩
        rw [hpoll] at hother
        cases hother
        rcases hforbids with h | h
        · exact hhalted h
        · rw [hstop] at h
          cases h

/-- The startup is called only if no control has forbidden it. -/
lemma triple_startUp :
    Triple (GuardedUnless p config counts controls.stop) (startUp p controls)
      (fun _ => GuardedUnless p config counts controls.stop) (Disciplined p config counts) := by
  refine triple_get_same fun s hs => ?_
  by_cases hrefused : controls.stop = true ∨ s.riskBlocked = true
  · rw [if_pos hrefused]
    refine triple_pure fun w hw => ?_
    rw [hw]
    exact hs
  · rw [if_neg hrefused]
    push Not at hrefused
    have hstop : controls.stop = false := by simpa using hrefused.1
    have hfree : s.riskBlocked = false := by simpa using hrefused.2
    refine triple_bind (Q := fun _ => Guarded p config counts) ?_ fun value => ?_
    · refine triple_error (triple_call (P := fun w => w = s) (Q := Guarded p config counts) ?_)
        fun _ h => h.1
      rintro w rfl
      exact ⟨hs.1.note (o := .called .startup _ _) (hs.2 hstop hfree) rfl rfl rfl,
        (hs.2 hstop).note (o := .called .startup _ _) id rfl rfl⟩
    · refine triple_bind (Q := fun _ => Guarded p config counts)
        (Guarded.triple (keeps_ite keeps_pure keeps_throw)) fun id => ?_
      exact triple_pure fun w hw => ⟨hw.1, fun _ => hw.2⟩

/-- If the pump requires no halt, the run goes on as it was. -/
lemma triple_haltIfRequired (hP : ∀ w, P w → Guarded p config counts w) :
    Triple P (haltIfRequired p) (fun _ w => P w ∧ p.haltRequired w.outside = none)
      (Disciplined p config counts) := by
  refine triple_get_same fun s hs => ?_
  cases hrequired : p.haltRequired s.outside with
  | none =>
    refine triple_pure fun w hw => ?_
    rw [hw]
    exact ⟨hs, hrequired⟩
  | some reason =>
    refine triple_bind (Q := fun _ => Disciplined p config counts) ?_
      fun _ => triple_throw fun _ hw => hw
    exact triple_at (hP s hs).1 (keeps_suppress (Disciplined.calm counts).keeps_halt)

/-- What a drain that returns has observed, by induction on the number of events that may still be
dispatched. -/
lemma drained_of_ok {limit n : ℕ} {w w' : DaemonWorld B}
    (h : drainEvents p limit w = .ok n w') :
    ∃ drained, w'.trace = w.trace ++ drained ∧ Drained p limit w.outside drained w'.outside := by
  induction limit generalizing n w with
  | zero =>
    cases h
    exact ⟨[], by simp, .limit⟩
  | succ limit ih =>
    obtain ⟨dispatched, w₁, hcall, hrest⟩ := bind_eq_ok.mp h
    unfold call at hcall
    split at hcall
    next answer b hport =>
      cases hcall
      cases dispatched with
      | false =>
        cases hrest
        exact ⟨_, rfl, .empty hport⟩
      | true =>
        obtain ⟨more, w₂, hmore, hreturn⟩ := bind_eq_ok.mp hrest
        cases hreturn
        obtain ⟨rest, htrace, hdrained⟩ := ih hmore
        refine ⟨.called .dispatchOne w.outside b :: rest, ?_, .event hport hdrained⟩
        rw [htrace]
        simp [afterCall]
    next => cases hcall

/-- The assertion at the end of the drain of an iteration. -/
def GuardedDrained (p : DaemonPorts B) (config : DaemonConfig) (counts : ℕ × ℕ)
    (w : DaemonWorld B) : Prop :=
  Guarded p config counts w ∧ DrainedAfterCheck p config w.trace w.outside

lemma triple_drainEvents :
    Triple (fun w => Guarded p config counts w ∧ Checked p w.trace w.outside)
      (drainEvents p config.maxEventsPerCycle) (fun _ => GuardedDrained p config counts)
      (Disciplined p config counts) := by
  intro w hw
  have hcalm : Calm p (Guarded p config counts) := Guarded.calm counts
  have hkept := (Guarded.triple (hcalm.keeps_drainEvents config.maxEventsPerCycle)) w hw.1
  cases hdrain : drainEvents p config.maxEventsPerCycle w with
  | ok n w' =>
    rw [hdrain] at hkept
    obtain ⟨drained, htrace, hdrained⟩ := drained_of_ok hdrain
    exact ⟨hkept, w.trace, w.outside, drained, htrace, hw.2, hdrained⟩
  | error failure w' =>
    rw [hdrain] at hkept
    exact hkept

variable {time : DateTime} {st : LoopState}

/-- A cycle is called only if no control has forbidden it. -/
lemma triple_runCycle {daemonCounts : DaemonCounts} :
    Triple (fun w => GuardedDrained p config counts w ∧ p.haltRequired w.outside = none)
      (runCycle p time daemonCounts) (fun _ => Guarded p config counts)
      (Disciplined p config counts) := by
  refine triple_get_same fun s hs => ?_
  obtain ⟨⟨hguarded, hdrained⟩, hrequired⟩ := hs
  by_cases hblocked : s.riskBlocked = true
  · rw [if_pos hblocked]
    refine triple_pure fun w hw => ?_
    rw [hw]
    exact hguarded
  · rw [if_neg hblocked]
    have hfree := hguarded.2 (by simpa using hblocked)
    refine triple_bind (Q := fun _ => Guarded p config counts) ?_
      fun cycle => triple_pure fun _ hw => hw
    refine triple_error (triple_call (P := fun w => w = s) (Q := Guarded p config counts) ?_)
      fun _ h => h.1
    rintro w rfl
    exact ⟨hguarded.1.note (o := .called .cycle _ _) ⟨hfree, hdrained, hrequired⟩ rfl rfl rfl,
      hguarded.2.note (o := .called .cycle _ _) id rfl rfl⟩

lemma triple_work {writerRenewals : ℕ} :
    Triple (fun w => Guarded p config counts w ∧ Checked p w.trace w.outside)
      (work p config time st controls writerRenewals) (fun _ => Guarded p config counts)
      (Disciplined p config counts) := by
  refine triple_bind (triple_post (triple_haltIfRequired fun _ hw => hw.1)
    (fun _ _ h => h.1)) fun _ => ?_
  refine triple_bind triple_drainEvents fun drained => ?_
  refine triple_bind (triple_haltIfRequired fun _ hw => hw.1) fun _ => ?_
  refine triple_bind triple_runCycle fun daemonCounts => ?_
  refine triple_bind (Guarded.triple (Guarded.calm counts).keeps_heartbeatIfDue)
    fun lastHeartbeat => ?_
  refine triple_bind (Guarded.triple ((Guarded.calm counts).keeps_call rfl fun b => .sleep _ b))
    fun _ => ?_
  exact triple_pure fun _ hw => hw

/-- The assertion after an iteration, or the last one. -/
def AfterIteration (p : DaemonPorts B) (config : DaemonConfig) (counts : ℕ × ℕ) :
    LoopState ⊕ LoopState → DaemonWorld B → Prop
  | .inl _ => Guarded p config counts
  | .inr _ => Disciplined p config counts

/-- The checks of an iteration after the clock was observed. -/
lemma triple_checks :
    Triple (Guarded p config counts)
      (do
        let renewed ← call .leaseCheck p.leaseCheck
        let renewals := st.counts.writerRenewals + if renewed then 1 else 0
        let controls ← processControls p
        let stopped : LoopState :=
          { st with controls := controls, counts := { st.counts with writerRenewals := renewals } }
        if controls.stop then pure (.inr stopped)
        else do
          if ← call .stopRequested p.stopRequested then do
            call .executeInternalStop (p.executeInternalStop none)
            blockRisk
            pure (.inr stopped)
          else do
            let next ← work p config time st controls renewals
            pure (.inl next) : Daemon B (LoopState ⊕ LoopState))
      (AfterIteration p config counts) (Disciplined p config counts) := by
  refine triple_bind (Q := fun renewed w => Guarded p config counts w ∧ ∃ earlier b,
    w.trace = earlier ++ [.called .leaseCheck b w.outside] ∧
    p.leaseCheck b = (.ok renewed, w.outside)) ?_ fun renewed => ?_
  · exact triple_asked (fun w renewed b hport hw =>
      ⟨(Guarded.calm counts).called rfl (.of_eq hport (.leaseCheck w.outside)) hw, w.trace,
        w.outside, rfl, hport⟩) fun w failure b hport hw =>
      (Disciplined.calm counts).called rfl (.of_eq hport (.leaseCheck w.outside)) hw.1
  · refine triple_bind (triple_processControls fun _ hw => hw.1) fun controls => ?_
    by_cases hstop : controls.stop = true
    · rw [if_pos hstop]
      exact triple_pure fun _ hw => hw.1.1
    · rw [if_neg hstop]
      have hrunning : controls.stop = false := by simpa using hstop
      refine triple_bind (Q := fun requested w => Guarded p config counts w ∧
        (requested = false → Checked p w.trace w.outside)) ?_ fun requested => ?_
      · refine triple_asked (fun w requested b hport hw => ?_) fun w failure b hport hw => ?_
        · obtain ⟨hguarded, before, ⟨-, earlier, b₁, hlease, hchecked⟩, hpoll, hbatch⟩ := hw
          refine ⟨(Guarded.calm counts).called rfl (.of_eq hport (.stopRequested w.outside))
            ⟨hguarded.1, hguarded.2 hrunning⟩, fun hrequested => ?_⟩
          rw [hrequested] at hport
          refine ⟨earlier, b₁, before.outside, w.outside, renewed, controls, ?_, hchecked, hbatch,
            hrunning, hport⟩
          simp [afterCall, hpoll, hlease]
        · exact (Disciplined.calm counts).called rfl
            (.of_eq hport (.stopRequested w.outside)) hw.1.1
      · by_cases hrequested : requested = true
        · rw [if_pos hrequested]
          refine triple_bind (triple_pre disciplined_executeInternalStop
            (fun _ hw => hw.1.1)) fun _ => ?_
          refine triple_bind (Q := fun _ => Disciplined p config counts)
            (triple_modify fun _ hw => hw.blocked) fun _ => ?_
          exact triple_pure fun _ hw => hw
        · rw [if_neg hrequested]
          refine triple_bind (triple_pre triple_work
            (fun _ hw => ⟨hw.1, hw.2 (by simpa using hrequested)⟩))
            fun next => ?_
          exact triple_pure fun _ hw => hw

lemma triple_iterate :
    Triple (Guarded p config counts) (iterate p config st) (AfterIteration p config counts)
      (Disciplined p config counts) := by
  refine triple_bind (Guarded.triple (Guarded.calm counts).keeps_now) fun time => ?_
  refine triple_bind (Guarded.triple (Guarded.calm counts).keeps_monotonic) fun monotonicNow => ?_
  exact triple_bind triple_observeRuntimeClock fun _ => triple_checks

/-- The loop, by induction on its fuel. -/
lemma triple_loop (fuel : ℕ) (st : LoopState) :
    Triple (Guarded p config counts) (loop p config fuel st)
      (fun _ => Disciplined p config counts) (Disciplined p config counts) := by
  induction fuel generalizing st with
  | zero => exact triple_throw fun _ hw => hw.1
  | succ fuel ih =>
    refine triple_bind triple_iterate fun result => ?_
    cases result with
    | inl next => exact ih next
    | inr last => exact triple_pure fun _ hw => hw

lemma triple_session {startedMonotonic : ℚ} :
    Triple (Guarded p config counts) (session p config startedMonotonic)
      (fun _ => Disciplined p config counts) (Disciplined p config counts) := by
  refine triple_bind (Guarded.triple ((Guarded.calm counts).keeps_call rfl fun b => .subscribe b))
    fun _ => ?_
  refine triple_bind (triple_post (triple_processControls fun _ hw => hw)
    (fun _ _ h => h.1)) fun controls => ?_
  refine triple_bind triple_startUp fun reconciliation => ?_
  by_cases hstop : controls.stop = true
  · rw [if_pos hstop]
    exact triple_pure fun _ hw => hw.1
  · rw [if_neg hstop]
    refine triple_bind (triple_pre (triple_loop config.fuel _)
      (fun _ hw => ⟨hw.1, hw.2 (by simpa using hstop)⟩)) fun last => ?_
    exact triple_pure fun _ hw => hw

lemma keeps_failClosed {failure : Failure} :
    Keeps (Disciplined p config counts) (failClosed p failure) := by
  unfold failClosed
  split
  · exact keeps_throw
  · exact keeps_throw
  · exact keeps_throw
  · exact keeps_bind (keeps_suppress (Disciplined.calm counts).keeps_halt) fun _ => keeps_throw

end Parts

/-! ## Whole runs -/

/-- The broker was connected at most once, and disconnected as often. -/
def Balanced (p : DaemonPorts B) (config : DaemonConfig) (w : DaemonWorld B) : Prop :=
  ∃ n ≤ 1, Disciplined p config (n, n) w

lemma attempt_of_keeps {α : Type} {P : DaemonWorld B → Prop} {I : DaemonWorld B → Prop}
    {E : DaemonWorld B → Prop} {x : Daemon B α} (hx : Triple P x (fun _ => I) I) :
    Triple P (attempt x) (fun _ => I) E :=
  exits_imp (exits_attempt hx) (fun _ h => h) (fun result w hw => by cases result <;> exact hw)
    fun _ _ h => h.elim

/-- The end of a run disconnects the broker once. -/
lemma triple_wrapUp {startedAt : DateTime}
    {result : Except Failure (Option String × LoopState)} :
    Triple (Disciplined p config (1, 0)) (wrapUp p startedAt result)
      (fun _ => Disciplined p config (1, 1)) (Disciplined p config (1, 1)) := by
  have hcalm : Calm p (Disciplined p config (1, 1)) := Disciplined.calm (1, 1)
  have hdisconnect : Triple (Disciplined p config (1, 0)) (call .disconnect p.disconnect)
      (fun _ => Disciplined p config (1, 1)) (Disciplined p config (1, 1)) := by
    refine triple_call fun w hw => ⟨hw.rule.append trivial, ?_⟩
    have hcounts := hw.counts
    unfold connections disconnections at hcounts ⊢
    simp_all [afterCall, isConnection, isDisconnection]
  refine triple_bind (attempt_of_keeps hdisconnect) fun disconnected => ?_
  split
  · exact keeps_throw
  · exact keeps_bind (keeps_suppress hcalm.keeps_halt) fun _ => keeps_throw
  · refine keeps_bind hcalm.keeps_finalizeIfPending fun _ => ?_
    exact keeps_bind hcalm.keeps_now fun stoppedAt => keeps_bind keeps_get fun _ => keeps_pure

lemma triple_run :
    Triple (Guarded p config (0, 0)) (run p config) (fun _ => Balanced p config)
      (Balanced p config) := by
  have hidle : ∀ w, Disciplined p config (0, 0) w → Balanced p config w := fun w hw =>
    ⟨0, by omega, hw⟩
  have hstart : ∀ {α : Type} {x : Daemon B α}, Keeps (Guarded p config (0, 0)) x →
      Triple (Guarded p config (0, 0)) x (fun _ => Guarded p config (0, 0)) (Balanced p config) :=
    fun hx => triple_error hx fun w hw => hidle w hw.1
  have hcalm : Calm p (Guarded p config (0, 0)) := Guarded.calm (0, 0)
  refine triple_bind (hstart (hcalm.keeps_call rfl fun b => .assertCurrent b)) fun _ => ?_
  refine triple_bind (hstart hcalm.keeps_now) fun startedAt => ?_
  refine triple_bind (hstart hcalm.keeps_monotonic) fun startedMonotonic => ?_
  refine triple_bind (triple_error triple_observeRuntimeClock hidle)
    fun _ => ?_
  have hconnect : Exits (Guarded p config (0, 0)) (call .connect p.connect)
      (fun _ => Guarded p config (1, 0)) fun _ => Disciplined p config (0, 0) := by
    refine triple_asked (fun w _ b hport hw => ⟨⟨hw.1.rule.append trivial, ?_⟩, ?_⟩)
      fun w failure b hport hw => ⟨hw.1.rule.append trivial, ?_⟩
    · have hcounts := hw.1.counts
      unfold connections disconnections at hcounts ⊢
      simp_all [afterCall, isConnection, isDisconnection, Except.isOk, Except.toBool]
    · exact hw.2.note (o := .called .connect _ _) id rfl rfl
    · have hcounts := hw.1.counts
      unfold connections disconnections at hcounts ⊢
      simp_all [afterCall, isConnection, isDisconnection, Except.isOk, Except.toBool]
  refine exits_bind (exits_error (exits_attempt hconnect)
    fun _ _ h => h.elim) fun connected => ?_
  cases connected with
  | error failure =>
    refine triple_imp (Q := fun _ => Disciplined p config (0, 0)) (E := Disciplined p config (0, 0))
      ?_ (fun _ h => h) (fun _ => hidle) hidle
    exact triple_bind keeps_failClosed fun _ => keeps_throw
  | ok _ =>
    refine triple_bind (Q := fun _ => Disciplined p config (1, 0)) (attempt_of_keeps
      (triple_tryCatch triple_session fun failure => keeps_failClosed)) fun result => ?_
    exact triple_imp triple_wrapUp (fun _ h => h) (fun _ w hw => ⟨1, by omega, hw⟩)
      fun w hw => ⟨1, by omega, hw⟩

/-- In every run, each startup and each cycle comes before any control that halts or stops and any
internal stop; each cycle comes right after a check of the lease, the controls and the drain of the
events; and a broker that was connected is disconnected once. -/
theorem effects_ordered (p : DaemonPorts B) (config : DaemonConfig) (outside : B)
    (previous : Option RuntimeClockObservation) (riskBlocked : Bool) :
    Trace.Obeys (EffectRule p config)
      (finalState (run p config ⟨outside, previous, riskBlocked, []⟩)).trace ∧
    connections p (finalState (run p config ⟨outside, previous, riskBlocked, []⟩)).trace ≤ 1 ∧
    disconnections (finalState (run p config ⟨outside, previous, riskBlocked, []⟩)).trace =
      connections p (finalState (run p config ⟨outside, previous, riskBlocked, []⟩)).trace := by
  have hstart : Guarded p config (0, 0) ⟨outside, previous, riskBlocked, []⟩ :=
    ⟨⟨Trace.obeys_nil, rfl⟩, fun _ o ho => by cases ho⟩
  obtain ⟨n, hn, hdisciplined⟩ := triple_run.finalState hstart
  have hcounts := hdisciplined.counts
  rw [Prod.mk.injEq] at hcounts
  exact ⟨hdisciplined.rule, by omega, by omega⟩

end ProductionDaemon

end FirmQuant
