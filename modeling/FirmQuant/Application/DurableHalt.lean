import FirmQuant.Application.DaemonDiscipline
import FirmQuant.Application.ProductionRun

/-!
# Durable halts

A production run that ends in a halt has stored it, as long as the copy of the hooks holds: the
controls that write the status beside the hooks are followed by no further halt, and the clock does
not jump.
-/

namespace FirmQuant

open Effect

namespace ProductionRun

open ProductionDaemon RuntimeControl

variable {B : Type} {p : ProductionPorts B} {config : ProductionConfig}

/-! ## The control inbox -/

section Inbox

variable {I : ControlledProcess B → Prop}

/-- The inbox raises what the daemon meets with a halt, where an assertion still holds. -/
def InboxFails (I : ControlledProcess B → Prop) (failure : Failure) (w : ProductionWorld B) :
    Prop := failure.ordinary = true ∧ I w.outside

lemma exits_inboxNow (hI : ∀ w, I w → I (inboxClock p w).2) :
    Exits (fun w : ProductionWorld B => I w.outside) (ControlInbox.now (inboxClock p))
      (fun _ w => I w.outside) (InboxFails I) := fun w hw => hI w.outside hw

lemma exits_writeReceipt {written : ControlReceipt} :
    Exits (fun w : ProductionWorld B => I w.outside) (ControlInbox.writeReceipt written)
      (fun _ w => I w.outside) (InboxFails I) := by
  intro w hw
  unfold ControlInbox.writeReceipt
  cases hreceipt : ControlInbox.receipt w.directories written.receiptId with
  | none => exact hw
  | some existing =>
    by_cases hother : existing ≠ written
    · simp only [if_pos hother]
      exact ⟨rfl, hw⟩
    · simp only [if_neg hother]
      exact hw

lemma exits_reject (hI : ∀ w, I w → I (inboxClock p w).2) {name : ControlFileName}
    {reason : ControlRefusal} {rawHash : Option RawIdentity} :
    Exits (fun w : ProductionWorld B => I w.outside)
      (ControlInbox.reject (inboxClock p) name reason rawHash) (fun _ w => I w.outside)
      (InboxFails I) := by
  refine exits_bind (exits_inboxNow hI) fun processedAt => ?_
  refine exits_bind exits_writeReceipt fun _ => ?_
  exact exits_bind (Q := fun _ w => I w.outside) (exits_modify fun _ hw => hw) fun _ =>
    exits_pure fun _ hw => hw

variable {hostHash : String} {time : DateTime}

lemma exits_sift (hI : ∀ w, I w → I (inboxClock p w).2) {file : InboxFile} :
    Exits (fun w : ProductionWorld B => I w.outside)
      (ControlInbox.sift (inboxClock p) hostHash time file) (fun _ w => I w.outside)
      (InboxFails I) := by
  unfold ControlInbox.sift
  split
  · exact exits_bind (exits_reject hI) fun _ => exits_pure fun _ hw => hw
  · refine exits_get_same fun s hs => ?_
    refine exits_imp (P := fun w => I w.outside) ?_ ?_ (fun _ _ h => h) fun _ _ h => h
    · split
      · refine exits_ite (exits_bind (Q := fun _ w => I w.outside) (exits_modify fun _ hw => hw)
          fun _ => exits_pure fun _ hw => hw) ?_
        exact exits_bind (exits_reject hI) fun _ => exits_pure fun _ hw => hw
      · exact exits_pure fun _ hw => hw
    · rintro w rfl
      exact hs

/-- By induction on the files. -/
lemma exits_siftAll (hI : ∀ w, I w → I (inboxClock p w).2) (files : List InboxFile) :
    Exits (fun w : ProductionWorld B => I w.outside)
      (ControlInbox.siftAll (inboxClock p) hostHash time files) (fun _ w => I w.outside)
      (InboxFails I) := by
  induction files with
  | nil => exact exits_pure fun _ hw => hw
  | cons file rest ih =>
    refine exits_bind (exits_sift hI) fun first => ?_
    exact exits_bind ih fun more => exits_pure fun _ hw => hw

end Inbox

/-- The controls that were begun were harmless. -/
def HarmlessSoFar (w : ControlledProcess B) : Prop :=
  ∀ control ∈ w.controls, harmless control.1 control.2 = true

/-- What holds between the controls of a batch: the copy holds, or a stop was stored. -/
def Proceeds (mode : Mode) (stop : Bool) (w : ControlledProcess B) : Prop :=
  HarmlessSoFar w → AfterControl mode stop w.process ∧
    (stop = true → ∃ control ∈ w.controls, control.1 = .stop)

/-- What holds where a batch raises: the copy holds, unless a stop was begun. -/
def Aborts (mode : Mode) (failure : Failure) (w : ProductionWorld B) : Prop :=
  HarmlessSoFar w.outside → failure.ordinary = true ∧
    ((¬ ∃ control ∈ w.outside.controls, control.1 = .stop) →
      ProductionHooks.Coherent mode w.outside.process)

lemma Proceeds.aborts {mode : Mode} {stop : Bool} {failure : Failure} {w : ProductionWorld B}
    (hordinary : failure.ordinary = true) (h : Proceeds mode stop w.outside) :
    Aborts mode failure w := by
  intro hharmless
  obtain ⟨hafter, hstop⟩ := h hharmless
  refine ⟨hordinary, fun hnone => ?_⟩
  cases stop with
  | false => exact hafter
  | true => exact absurd (hstop rfl) hnone

lemma proceeds_clock {mode : Mode} {stop : Bool} (w : ControlledProcess B)
    (hw : Proceeds mode stop w) : Proceeds mode stop (inboxClock p w).2 := by
  intro hharmless
  obtain ⟨hafter, hstop⟩ := hw hharmless
  refine ⟨?_, hstop⟩
  cases stop with
  | false => exact ProductionHooks.internal_coherent _ _ hafter
  | true => exact hafter

lemma exits_handle (hheld : Runtime.Held p.toRuntimePorts)
    (hcancel : RaisesOrdinary p.cancelSystemOrders) {stop : Bool} {request : ControlRequest} :
    Exits (fun w : ProductionWorld B => Proceeds config.executor.mode stop w.outside)
      (ControlInbox.handle (handler p config) request)
      (fun execution w => Proceeds config.executor.mode (stop || execution.stop) w.outside)
      (Aborts config.executor.mode) := by
  intro w hw
  unfold ControlInbox.handle handler
  have hbegun : ∀ {process : RuntimeProcess B},
      HarmlessSoFar ⟨process, w.outside.controls ++
        [(request.command, w.outside.process.tables.status.state)]⟩ →
      HarmlessSoFar w.outside ∧
        harmless request.command w.outside.process.tables.status.state = true := by
    intro process hharmless
    exact ⟨fun control hcontrol => hharmless control (List.mem_append_left _ hcontrol),
      hharmless _ List.mem_concat_self⟩
  have hgoing := @exits_execute B (executorPorts p) config.executor request hheld hcancel
    w.outside.process
  have hstopped := @exits_executeStopped B (executorPorts p) config.executor request hheld hcancel
    w.outside.process
  cases hrun : RuntimeControl.execute (executorPorts p) config.executor request
      w.outside.process with
  | ok execution process =>
    intro hharmless
    obtain ⟨hbefore, hlast⟩ := hbegun hharmless
    obtain ⟨hafter, hstop⟩ := hw hbefore
    rw [hrun] at hgoing hstopped
    cases stop with
    | false =>
      obtain ⟨hcommand, hcontrol⟩ := hgoing ⟨hafter, hlast⟩
      exact ⟨hcontrol, fun h => ⟨_, List.mem_concat_self,
        hcommand h⟩⟩
    | true =>
      obtain ⟨control, hcontrol, hcommand⟩ := hstop rfl
      exact ⟨hstopped ⟨hafter, hlast⟩, fun _ => ⟨control, List.mem_append_left _ hcontrol,
        hcommand⟩⟩
  | error failure process =>
    intro hharmless
    obtain ⟨hbefore, hlast⟩ := hbegun hharmless
    obtain ⟨hafter, hstop⟩ := hw hbefore
    rw [hrun] at hgoing hstopped
    cases stop with
    | false =>
      obtain ⟨hordinary, hcoherent⟩ := hgoing ⟨hafter, hlast⟩
      exact ⟨hordinary, fun _ => hcoherent⟩
    | true =>
      obtain ⟨control, hcontrol, hcommand⟩ := hstop rfl
      exact ⟨(hstopped ⟨hafter, hlast⟩).1, fun hnone =>
        absurd ⟨control, List.mem_append_left _ hcontrol, hcommand⟩ hnone⟩

/-- The controls of a batch, by induction on the requests. -/
lemma exits_executeAll (hheld : Runtime.Held p.toRuntimePorts)
    (hcancel : RaisesOrdinary p.cancelSystemOrders) (requests : List ControlRequest) (stop : Bool) :
    Exits (fun w : ProductionWorld B => Proceeds config.executor.mode stop w.outside)
      (ControlInbox.executeAll (inboxClock p) (handler p config) requests)
      (fun batch w => Proceeds config.executor.mode (stop || batch.stop) w.outside)
      (Aborts config.executor.mode) := by
  induction requests generalizing stop with
  | nil => exact exits_pure fun w hw => by simpa [ControlBatch.none] using hw
  | cons request rest ih =>
    have hstays : ∀ {α : Type} {stop : Bool} {x : ControlProgram (ControlledProcess B) α},
        Exits (fun w => Proceeds config.executor.mode stop w.outside) x
          (fun _ w => Proceeds config.executor.mode stop w.outside)
          (InboxFails (Proceeds config.executor.mode stop)) →
        Exits (fun w => Proceeds config.executor.mode stop w.outside) x
          (fun _ w => Proceeds config.executor.mode stop w.outside)
          (Aborts config.executor.mode) :=
      fun hx => exits_error hx fun _ _ h => h.2.aborts h.1
    refine exits_bind (exits_handle hheld hcancel) fun execution => ?_
    refine exits_bind (hstays (exits_inboxNow proceeds_clock)) fun processedAt => ?_
    refine exits_bind (hstays exits_writeReceipt) fun _ => ?_
    refine exits_bind (hstays (exits_modify fun _ hw => hw)) fun _ => ?_
    refine exits_bind (ih (stop || execution.stop)) fun batch => exits_pure fun w hw => ?_
    simpa [Bool.or_assoc] using hw

lemma exits_processPending (hheld : Runtime.Held p.toRuntimePorts)
    (hcancel : RaisesOrdinary p.cancelSystemOrders) :
    Exits (fun w : ProductionWorld B => Proceeds config.executor.mode false w.outside)
      (ControlInbox.processPending (inboxClock p) config.hostHash (handler p config))
      (fun batch w => Proceeds config.executor.mode batch.stop w.outside)
      (Aborts config.executor.mode) := by
  have hstays : ∀ {α : Type} {x : ControlProgram (ControlledProcess B) α},
      Exits (fun w => Proceeds config.executor.mode false w.outside) x
        (fun _ w => Proceeds config.executor.mode false w.outside)
        (InboxFails (Proceeds config.executor.mode false)) →
      Exits (fun w => Proceeds config.executor.mode false w.outside) x
        (fun _ w => Proceeds config.executor.mode false w.outside)
        (Aborts config.executor.mode) :=
    fun hx => exits_error hx fun _ _ h => h.2.aborts h.1
  refine exits_bind (hstays (exits_inboxNow proceeds_clock)) fun time => ?_
  refine exits_get_same fun s hs => ?_
  refine exits_imp (P := fun w => Proceeds config.executor.mode false w.outside) ?_ ?_
    (fun _ _ h => h) fun _ _ h => h
  · refine exits_bind (hstays (exits_siftAll proceeds_clock _)) fun sifted => ?_
    refine exits_bind (exits_executeAll hheld hcancel _ false) fun batch =>
      exits_pure fun w hw => ?_
    simpa using hw
  · rintro w rfl
    exact hs

/-! ## Assertions on a run -/

/-- The process satisfies `C` and the calls were truthful, if nothing happened that must not. -/
def Under (p : ProductionPorts B) (config : ProductionConfig) (C : RuntimeProcess B → Prop)
    (w : DaemonWorld (ProductionWorld B)) : Prop :=
  (∀ o ∈ w.trace, Allowed p config o) →
    C w.outside.outside.process ∧ ∀ o ∈ w.trace, Truthful o

/-- A part of a run, by what it makes of the process. -/
def Runs {α : Type} (p : ProductionPorts B) (config : ProductionConfig)
    (C : RuntimeProcess B → Prop) (x : Daemon (ProductionWorld B) α)
    (Q : α → RuntimeProcess B → Prop) (E : Failure → RuntimeProcess B → Prop) : Prop :=
  Exits (Under p config C) x (fun a => Under p config (Q a)) fun failure =>
    Under p config (E failure)

/-- What holds where a session raises: a halt is stored, or it can still be. -/
def Escapes (mode : Mode) : Failure → RuntimeProcess B → Prop
  | .productionDaemonHalted _ => ProductionHooks.Halted mode
  | .writerLeaseLost => fun _ => False
  | _ => ProductionHooks.Coherent mode

/-- What holds where a run raises. -/
def Ends (mode : Mode) : Failure → RuntimeProcess B → Prop
  | .productionDaemonHalted _ => ProductionHooks.Halted mode
  | _ => fun _ => True

section Assertions

variable {α β : Type} {C D : RuntimeProcess B → Prop} {Q : α → RuntimeProcess B → Prop}
  {Q' : β → RuntimeProcess B → Prop} {E : Failure → RuntimeProcess B → Prop}
  {w : DaemonWorld (ProductionWorld B)}

lemma Under.imp (h : Under p config C w)
    (hCD : C w.outside.outside.process → D w.outside.outside.process) : Under p config D w :=
  fun hallowed => ⟨hCD (h hallowed).1, (h hallowed).2⟩

variable {mode : Mode} {failure : Failure} {process : RuntimeProcess B} {name : DaemonCall}

lemma escapes_of_ordinary (hordinary : failure.ordinary = true)
    (h : ProductionHooks.Coherent mode process) :
    Escapes mode failure process := by
  cases failure <;> first | exact h | cases hordinary

lemma ends_of_ordinary (hordinary : failure.ordinary = true) : Ends mode failure process := by
  cases failure <;> trivial

lemma ends_of_escapes (h : Escapes mode failure process) : Ends mode failure process := by
  cases failure <;> first | exact h | trivial

lemma Runs.seq {x : Daemon (ProductionWorld B) α} {f : α → Daemon (ProductionWorld B) β}
    (hx : Runs p config C x Q E) (hf : ∀ a, Runs p config (Q a) (f a) Q' E) :
    Runs p config C (x >>= f) Q' E := exits_bind hx hf

lemma runs_pure {a : α} (h : ∀ process, C process → Q a process) :
    Runs p config C (pure a) Q E := exits_pure fun _ hw => hw.imp (h _)

lemma runs_throw (h : ∀ process, C process → E failure process) :
    Runs p config C (throw failure) Q E := exits_throw fun _ hw => hw.imp (h _)

lemma runs_blockRisk : Runs p config C blockRisk (fun _ => C) E := exits_modify fun _ hw => hw

/-- A call, by what it returns or raises. -/
lemma runs_call {port : ProductionWorld B → Except Failure α × ProductionWorld B}
    (h : ∀ w a w', port w = (.ok a, w') → C w.outside.process →
      Allowed p config (.called name w w') →
      Q a w'.outside.process ∧ Truthful (.called name w w'))
    (hE : ∀ w failure w', port w = (.error failure, w') → C w.outside.process →
      Allowed p config (.called name w w') →
      E failure w'.outside.process ∧ Truthful (.called name w w')) :
    Runs p config C (call name port) Q E := by
  intro w hw
  unfold call
  cases hport : port w.outside with
  | mk result w' =>
    cases result with
    | ok a =>
      intro hallowed
      obtain ⟨hC, htruthful⟩ := hw fun o ho => hallowed o (List.mem_append_left _ ho)
      obtain ⟨hQ, hcall⟩ := h w.outside a w' hport hC
        (hallowed _ List.mem_concat_self)
      refine ⟨hQ, fun o ho => ?_⟩
      rcases List.mem_snoc.mp ho with ho | ho
      · exact htruthful o ho
      · rw [ho]
        exact hcall
    | error failure =>
      intro hallowed
      obtain ⟨hC, htruthful⟩ := hw fun o ho => hallowed o (List.mem_append_left _ ho)
      obtain ⟨hQ, hcall⟩ := hE w.outside failure w' hport hC
        (hallowed _ List.mem_concat_self)
      refine ⟨hQ, fun o ho => ?_⟩
      rcases List.mem_snoc.mp ho with ho | ho
      · exact htruthful o ho
      · rw [ho]
        exact hcall

/-- A program of the process that is called. -/
lemma runs_onProcess {x : Runtime B α} (hx : Exits C x Q E)
    (htruthful : ∀ w process, C w.outside.process →
      finalState (x w.outside.process) = process →
      Truthful (.called name w (withProcess w process))) :
    Runs p config C (call name (onProcess x)) Q E := by
  refine runs_call (fun w a w' hport hC _ => ?_) fun w failure w' hport hC _ => ?_
  · have hrun := hx w.outside.process hC
    have hcall := htruthful w _ hC rfl
    unfold onProcess at hport
    cases hresult : x w.outside.process with
    | ok b process =>
      rw [hresult] at hport hrun hcall
      cases hport
      exact ⟨hrun, hcall⟩
    | error failure process =>
      rw [hresult] at hport
      cases hport
  · have hrun := hx w.outside.process hC
    have hcall := htruthful w _ hC rfl
    unfold onProcess at hport
    cases hresult : x w.outside.process with
    | ok b process =>
      rw [hresult] at hport
      cases hport
    | error other process =>
      rw [hresult] at hport hrun hcall
      cases hport
      exact ⟨hrun, hcall⟩

/-- A port of the outside that is called. -/
lemma runs_onOutside {port : B → Except Failure α × B} (hC : Runtime.Internal C)
    (hplain : ∀ w w' : ProductionWorld B, Truthful (.called name w w'))
    (hE : ∀ b failure b' process, port b = (.error failure, b') → C process → E failure process) :
    Runs p config C (call name (onOutside port)) (fun _ => C) E := by
  refine runs_call (fun w a w' hport hw _ => ?_) fun w failure w' hport hw _ => ?_
  · obtain ⟨-, rfl⟩ := Prod.mk.inj hport
    exact ⟨hC _ _ hw, hplain _ _⟩
  · obtain ⟨hfailure, rfl⟩ := Prod.mk.inj hport
    exact ⟨hE w.outside.process.outside failure _ _ (Prod.ext hfailure rfl) (hC _ _ hw),
      hplain _ _⟩

end Assertions

/-! ## The parts of a run -/

/-- The mode of the run. -/
abbrev runMode (config : ProductionConfig) : Mode := config.executor.mode

section Parts

open ProductionHooks

variable (hholds : Holds p) (hordinary : Ordinary p)

lemma copyHolds_of_coherent {mode : Mode} {process : RuntimeProcess B}
    (h : Coherent mode process) : CopyHolds process := by
  rcases h.copy with hcopy | hhalted
  · exact .inr hcopy
  · exact .inl hhalted.1

variable {C : RuntimeProcess B → Prop} {E : Failure → RuntimeProcess B → Prop}

lemma runs_now (hC : Runtime.Internal C) :
    Runs p config C (now (daemonPorts p config)) (fun _ => C) E :=
  runs_call (fun w a w' hport hw _ => by cases hport; exact ⟨hC _ _ hw, trivial⟩)
    fun w failure w' hport _ _ => by cases hport

lemma runs_monotonic (hC : Runtime.Internal C) :
    Runs p config C (monotonic (daemonPorts p config)) (fun _ => C) E := by
  refine Runs.seq (Q := fun value process => 0 ≤ value ∧ C process) (runs_call
    (fun w a w' hport hw hallowed => ?_) fun w failure w' hport _ _ => by cases hport)
    fun value => ?_
  · cases hport
    exact ⟨⟨hallowed, hC _ _ hw⟩, trivial⟩
  · by_cases hvalue : value < 0
    · rw [if_pos hvalue]
      exact runs_throw fun _ h => absurd hvalue (not_lt.mpr h.1)
    · rw [if_neg hvalue]
      exact runs_pure fun _ h => h.2

/-- After something that must not happen nothing is asserted. -/
lemma keeps_never {α : Type} {name : DaemonCall}
    {port : ProductionWorld B → Except Failure α × ProductionWorld B} :
    Keeps (Under p config fun _ => False) (call name port) :=
  runs_call (fun _ _ _ _ h _ => h.elim) fun _ _ _ _ h _ => h.elim

/-- A suppressed program, of which every end is the same. -/
lemma runs_suppress {α : Type} {D : RuntimeProcess B → Prop} {x : Daemon (ProductionWorld B) α}
    (hx : Runs p config C x (fun _ => D) fun _ => D) :
    Runs p config C (suppress x) (fun _ => D) E := by
  refine Runs.seq (Q := fun _ => D) (exits_imp (exits_attempt hx) (fun _ h => h)
    (fun result w hw => ?_) fun _ _ h => h.elim) fun _ => runs_pure fun _ h => h
  cases result <;> exact hw

lemma runs_observeRuntimeClock {wallTime : DateTime} {monotonicTime : ℚ} :
    Runs p config C (observeRuntimeClock (daemonPorts p config) wallTime monotonicTime)
      (fun _ => C) E := by
  have hnoted : ∀ {D : RuntimeProcess B → Prop} {o : DaemonObservation (ProductionWorld B)},
      (Allowed p config o → ∀ process, C process → D process) → Truthful o →
      Runs p config C (note o) (fun _ => D) E := by
    refine fun hD ho => exits_modify fun w hw hallowed => ?_
    obtain ⟨hC, htruthful⟩ := hw fun o ho => hallowed o (List.mem_append_left _ ho)
    refine ⟨hD (hallowed _ List.mem_concat_self) _ hC,
      fun o' ho' => ?_⟩
    rcases List.mem_snoc.mp ho' with ho' | ho'
    · exact htruthful o' ho'
    · rw [ho']
      exact ho
  refine exits_get_same fun s hs => exits_imp (P := Under p config C) ?_ ?_ (fun _ _ h => h)
    fun _ _ h => h
  · refine Runs.seq (Q := fun _ => C) (exits_modify fun _ hw => hw) fun _ => ?_
    refine Runs.seq (hnoted (fun _ _ h => h) trivial) fun _ => ?_
    split
    · exact runs_pure fun _ h => h
    · refine Runs.seq (Q := fun _ _ => False) (hnoted (fun h _ _ => h.elim) trivial) fun _ => ?_
      refine Runs.seq (Q := fun _ _ => False) runs_blockRisk fun _ => ?_
      iterate 2 refine Runs.seq (Q := fun _ _ => False) (runs_suppress keeps_never) fun _ => ?_
      exact runs_throw fun _ h => h.elim
  · rintro w rfl
    exact hs

include hholds in
/-- A halt of the daemon is stored, whether the hooks then raise or not. -/
lemma runs_halt {reason : HaltReason}
    (hreason : canonicalText (ProductionHooks.haltReason reason.code) = true) :
    Runs p config (Coherent (runMode config))
      (suppress (call .halt ((daemonPorts p config).halt reason)))
      (fun _ => Halted (runMode config)) E := by
  refine runs_suppress (runs_onProcess (exits_error (exits_halt hholds.assertCurrent hreason)
    fun _ _ h => h.2) fun w process hw _ => ?_)
  exact copyHolds_of_coherent hw

lemma runs_hooks {α : Type} {name : DaemonCall} {x : Runtime B α}
    (hx : KeepsCoherent (runMode config) x)
    (htruthful : ∀ w w' : ProductionWorld B, CopyHolds w.outside.process →
      Truthful (.called name w w')) :
    Runs p config (Coherent (runMode config)) (call name (onProcess x))
      (fun _ => Coherent (runMode config)) (Escapes (runMode config)) :=
  runs_onProcess (exits_error hx
    fun _ _ h => escapes_of_ordinary h.1 h.2) fun w _ hw _ =>
      htruthful w _ (copyHolds_of_coherent hw)

include hholds hordinary

lemma runs_haltIfRequired :
    Runs p config (Coherent (runMode config)) (haltIfRequired (daemonPorts p config))
      (fun _ => Coherent (runMode config)) (Escapes (runMode config)) := by
  refine exits_get_same fun s hs => exits_imp (P := Under p config (Coherent (runMode config))) ?_
    ?_ (fun _ _ h => h) fun _ _ h => h
  · cases hrequired : (daemonPorts p config).haltRequired s.outside with
    | none => exact runs_pure fun _ h => h
    | some reason =>
      refine Runs.seq (runs_halt hholds ?_) fun _ => runs_throw fun _ h => h
      change canonicalText (haltReason (reason.getD "BROKER_EVENT_PUMP_HALTED")) = true
      cases reason with
      | none => decide +kernel
      | some reason =>
        have hcanonical := hordinary.haltReason _ reason hrequired
        unfold haltReason
        split_ifs
        · decide +kernel
        · exact hcanonical
  · rintro w rfl
    exact hs

lemma keepsCoherent_dispatchOne : KeepsCoherent (runMode config) (dispatchOne p config) := by
  refine (keepsCoherent_port hordinary.nextEvent).seq fun event => ?_
  refine exits_ite (KeepsCoherent.seq ?_ fun _ => keepsCoherent_pure) keepsCoherent_pure
  refine (keepsCoherent_handleEvent hholds.assertCurrent hordinary.hooks).guard
    fun failure hfailure => ?_
  exact KeepsCoherent.seq (exits_modify fun w hw => internal_coherent w _ hw) fun _ =>
    keepsCoherent_throw hfailure

/-- By induction on the number of events that may still be dispatched. -/
lemma runs_drainEvents (limit : ℕ) :
    Runs p config (Coherent (runMode config)) (drainEvents (daemonPorts p config) limit)
      (fun _ => Coherent (runMode config)) (Escapes (runMode config)) := by
  induction limit with
  | zero => exact runs_pure fun _ h => h
  | succ limit ih =>
    refine Runs.seq (runs_hooks (keepsCoherent_dispatchOne hholds hordinary)
      fun _ _ h => h) fun dispatched => ?_
    exact exits_ite (ih.seq fun _ => runs_pure fun _ h => h) (runs_pure fun _ h => h)

variable {time : DateTime} {counts : DaemonCounts}

lemma runs_runCycle :
    Runs p config (Coherent (runMode config)) (runCycle (daemonPorts p config) time counts)
      (fun _ => Coherent (runMode config)) (Escapes (runMode config)) := by
  refine exits_get_same fun s hs => exits_imp (P := Under p config (Coherent (runMode config))) ?_
    ?_ (fun _ _ h => h) fun _ _ h => h
  · refine exits_ite (runs_pure fun _ h => h) ?_
    refine Runs.seq (runs_hooks
      (keepsCoherent_cycle hholds.assertCurrent hordinary.hooks) fun _ _ h => h) fun cycle => ?_
    exact runs_pure fun _ h => h
  · rintro w rfl
    exact hs

omit hholds in
/-- A heartbeat carries the state that is stored. -/
lemma runs_heartbeat {observed : ProductionHeartbeat} :
    Runs p config (Coherent (runMode config))
      (call .heartbeat ((daemonPorts p config).heartbeat observed))
      (fun _ => Coherent (runMode config)) (Escapes (runMode config)) := by
  refine runs_onProcess (fun process hprocess => ?_) fun w process hw hfinal => ?_
  · have hbeat := @exits_heartbeat B p.toHooksPorts (runMode config) hordinary.hooks observed
      process process ⟨hprocess, rfl⟩
    cases hrun : ProductionHooks.heartbeat p.toHooksPorts observed process with
    | ok u after =>
      rw [hrun] at hbeat
      exact hbeat.1
    | error failure after =>
      rw [hrun] at hbeat
      exact escapes_of_ordinary hbeat.1 hbeat.2.1
  · refine ⟨copyHolds_of_coherent hw, ?_⟩
    have hbeat := @exits_heartbeat B p.toHooksPorts (runMode config) hordinary.hooks observed
      w.outside.process w.outside.process ⟨hw, rfl⟩
    cases hrun : ProductionHooks.heartbeat p.toHooksPorts observed w.outside.process with
    | ok u after =>
      rw [hrun] at hbeat hfinal
      rw [← hfinal]
      exact .inr hbeat.2
    | error failure after =>
      rw [hrun] at hbeat hfinal
      rw [← hfinal]
      exact .inl hbeat.2.2

variable {st : LoopState} {controls : ControlBatch}

omit hholds in
lemma runs_heartbeatIfDue :
    Runs p config (Coherent (runMode config))
      (heartbeatIfDue (daemonPorts p config) config.daemon st controls counts)
      (fun _ => Coherent (runMode config)) (Escapes (runMode config)) := by
  refine (runs_monotonic internal_coherent).seq fun monotonicAfterCycle => ?_
  refine exits_ite ?_ (runs_pure fun _ h => h)
  refine (runs_now internal_coherent).seq fun heartbeatNow => ?_
  exact (runs_heartbeat hordinary).seq fun _ => runs_pure fun _ h => h

lemma runs_work {writerRenewals : ℕ} :
    Runs p config (Coherent (runMode config))
      (work (daemonPorts p config) config.daemon time st controls writerRenewals)
      (fun _ => Coherent (runMode config)) (Escapes (runMode config)) := by
  refine (runs_haltIfRequired hholds hordinary).seq fun _ => ?_
  refine (runs_drainEvents hholds hordinary _).seq fun drained => ?_
  refine (runs_haltIfRequired hholds hordinary).seq fun _ => ?_
  refine (runs_runCycle hholds hordinary).seq fun counts => ?_
  refine (runs_heartbeatIfDue hordinary).seq fun lastHeartbeat => ?_
  refine Runs.seq (Q := fun _ => Coherent (runMode config)) (runs_call (fun w a w' hport hw _ => by
    cases hport
    exact ⟨internal_coherent _ _ hw, trivial⟩) fun w failure w' hport _ _ => by cases hport)
    fun _ => ?_
  exact runs_pure fun _ h => h

/-- After a batch of controls the copy holds, or a stop was stored. -/
lemma runs_processControls :
    Runs p config (Coherent (runMode config)) (processControls (daemonPorts p config))
      (fun batch => AfterControl (runMode config) batch.stop) (Escapes (runMode config)) := by
  refine Runs.seq (Q := fun batch => AfterControl (runMode config) batch.stop)
    (runs_call (fun w batch w' hport hw hallowed => ?_) fun w failure w' hport hw hallowed => ?_)
    fun batch => exits_ite (runs_blockRisk.seq fun _ => runs_pure fun _ h => h)
      (runs_pure fun _ h => h)
  all_goals
    have hbatch := @exits_processPending B p config hholds.assertCurrent
      hordinary.cancelSystemOrders w fun _ => ⟨hw, fun h => absurd h (by decide)⟩
    have hanswer : processPending p config w = _ := hport
    obtain ⟨hharmless, hreturns⟩ := hallowed
    unfold processPending at hanswer hreturns
    cases hrun : ControlInbox.processPending (inboxClock p) config.hostHash
      (handler p config) w with
    | ok other after =>
      rw [hrun] at hbatch hanswer
      first
      | cases hanswer
        exact ⟨(hbatch hharmless).1, trivial⟩
      | cases hanswer
    | error other after =>
      rw [hrun] at hbatch hanswer hreturns
      first
      | cases hanswer
        obtain ⟨hfailure, hcoherent⟩ := hbatch hharmless
        exact ⟨escapes_of_ordinary hfailure (hcoherent fun hstop => by cases hreturns hstop),
          trivial⟩
      | cases hanswer

omit hordinary in
lemma runs_executeInternalStop {source : Option ClockDiscontinuity} :
    Runs p config (Coherent (runMode config))
      (call .executeInternalStop ((daemonPorts p config).executeInternalStop source))
      (fun _ => Stopped (runMode config)) (Escapes (runMode config)) := by
  refine runs_onProcess ?_ fun _ _ _ _ => trivial
  have hcanonical : canonicalText (stopSource source) = true := by
    cases source with
    | none => decide +kernel
    | some code => cases code <;> decide +kernel
  unfold RuntimeControl.executeInternalStop
  rw [if_pos hcanonical]
  refine exits_bind (exits_imp (@succeeds_stopped B (executorPorts p) config.executor
    hholds.assertCurrent _ _) (fun _ h => h.audited) (fun _ _ h => h.2) fun _ _ h =>
      h.elim) fun _ => ?_
  exact exits_pure fun _ h => h

/-- One iteration: the copy still holds, or a stop was stored. -/
lemma runs_iterate :
    Runs p config (Coherent (runMode config)) (iterate (daemonPorts p config) config.daemon st)
      (fun result => match result with
        | .inl _ => Coherent (runMode config)
        | .inr _ => Stopped (runMode config))
      (Escapes (runMode config)) := by
  refine (runs_now internal_coherent).seq fun time => ?_
  refine (runs_monotonic internal_coherent).seq fun monotonicNow => ?_
  refine runs_observeRuntimeClock.seq fun _ => ?_
  refine Runs.seq (runs_onOutside internal_coherent (fun _ _ => trivial)
    fun b failure b' _ hport _ => ?_) fun renewed => ?_
  · obtain ⟨renewed, b'', hb⟩ := hholds.leaseCheck b
    rw [hb] at hport
    cases hport
  refine (runs_processControls hholds hordinary).seq fun controls => ?_
  by_cases hstop : controls.stop = true
  · rw [if_pos hstop, hstop]
    exact runs_pure fun _ h => h
  · rw [if_neg hstop, Bool.eq_false_of_not_eq_true hstop]
    refine Runs.seq (runs_onOutside (C := Coherent (runMode config)) internal_coherent
      (fun _ _ => trivial)
      fun b failure b' _ hport hw => escapes_of_ordinary (hordinary.stopRequested _ _ _ hport) hw)
      fun requested => exits_ite ?_ ?_
    · refine (runs_executeInternalStop hholds).seq fun _ => ?_
      exact runs_blockRisk.seq fun _ => runs_pure fun _ h => h
    · exact (runs_work hholds hordinary).seq fun next => runs_pure fun _ h => h

/-- The loop ends with a stop, by induction on its fuel. -/
lemma runs_loop (fuel : ℕ) (st : LoopState) :
    Runs p config (Coherent (runMode config)) (loop (daemonPorts p config) config.daemon fuel st)
      (fun _ => Stopped (runMode config)) (Escapes (runMode config)) := by
  induction fuel generalizing st with
  | zero => exact runs_throw fun _ h => h
  | succ fuel ih =>
    refine (runs_iterate hholds hordinary).seq fun result => ?_
    cases result with
    | inl next => exact ih next
    | inr last => exact runs_pure fun _ h => h

omit hholds in
/-- The startup returns the id of the reconciliation. -/
lemma returns_startup {mode : Mode} :
    Returns (fun id : String => id.toList.take 6 = "recon_".toList ∧ id.length = 70 ∧
      (id.toList.drop 6).all (fun c => c ∈ "0123456789abcdef".toList))
      (ProductionHooks.startup p.toHooksPorts mode) := by
  have hid : Returns (fun id : String => id.toList.take 6 = "recon_".toList ∧ id.length = 70 ∧
      (id.toList.drop 6).all (fun c => c ∈ "0123456789abcdef".toList))
      (haltingOn p.toHooksPorts mode (Runtime.call p.reconcileStartup)
        "production startup reconciliation failed" "STARTUP_RECONCILIATION_FAILED") := by
    intro w id w' h
    unfold haltingOn at h
    rw [tryCatch_apply] at h
    unfold Runtime.call at h
    rcases hport : p.reconcileStartup w.outside with ⟨_ | other, b⟩
    · rw [hport] at h
      obtain ⟨_, _, -, hthrow⟩ := bind_eq_ok.mp h
      cases hthrow
    · rw [hport] at h
      cases h
      exact hordinary.reconciliationId _ _ _ hport
  refine returns_bind fun _ => returns_bind fun s => returns_bind fun _ => returns_bind fun _ => ?_
  refine returns_bind fun recovery => returns_bind fun _ => returns_bind fun incomplete => ?_
  refine returns_bind fun _ => returns_bind fun _ => ?_
  exact returns_seq hid fun receipt hreceipt => returns_bind fun _ => returns_pure hreceipt

lemma runs_startUp :
    Runs p config (AfterControl (runMode config) controls.stop)
      (startUp (daemonPorts p config) controls)
      (fun _ => AfterControl (runMode config) controls.stop) (Escapes (runMode config)) := by
  refine exits_get_same fun s hs => exits_imp
    (P := Under p config (AfterControl (runMode config) controls.stop)) ?_ ?_ (fun _ _ h => h)
    fun _ _ h => h
  · by_cases hrefused : controls.stop = true ∨ s.riskBlocked = true
    · rw [if_pos hrefused]
      exact runs_pure fun _ h => h
    · rw [if_neg hrefused]
      push Not at hrefused
      rw [Bool.eq_false_of_not_eq_true hrefused.1]
      have hstartup : KeepsCoherent (runMode config)
          (ProductionHooks.startup p.toHooksPorts (runMode config)) :=
        keepsCoherent_startup hholds.assertCurrent hordinary.hooks
      refine Runs.seq (Q := fun id process => (id.toList.take 6 = "recon_".toList ∧
        id.length = 70 ∧ (id.toList.drop 6).all (fun c => c ∈ "0123456789abcdef".toList)) ∧
        Coherent (runMode config) process) (runs_onProcess (fun process hprocess => ?_)
          fun w _ hw _ => copyHolds_of_coherent hw) fun id => ?_
      · have hkept := hstartup process hprocess
        cases hrun : ProductionHooks.startup p.toHooksPorts (runMode config) process with
        | ok id after =>
          rw [hrun] at hkept
          exact ⟨returns_startup hordinary _ _ _ hrun, hkept⟩
        | error failure after =>
          rw [hrun] at hkept
          exact escapes_of_ordinary hkept.1 hkept.2
      · unfold reconciliationId
        refine Runs.seq (Q := fun _ => Coherent (runMode config)) ?_
          fun value => runs_pure fun _ h => h
        by_cases hvalid : id.toList.take 6 = "recon_".toList ∧ id.length = 70 ∧
            (id.toList.drop 6).all (fun c => c ∈ "0123456789abcdef".toList)
        · rw [if_pos hvalid]
          exact runs_pure fun _ h => h.2
        · rw [if_neg hvalid]
          exact runs_throw fun _ h => absurd h.1 hvalid
  · rintro w rfl
    exact hs

/-- A session ends with a stop, or it raises. -/
lemma runs_session {startedMonotonic : ℚ} :
    Runs p config (Coherent (runMode config))
      (session (daemonPorts p config) config.daemon startedMonotonic)
      (fun _ => Stopped (runMode config)) (Escapes (runMode config)) := by
  refine Runs.seq (runs_onOutside internal_coherent (fun _ _ => trivial)
    fun b failure b' _ hport hw => escapes_of_ordinary (hordinary.subscribe _ _ _ hport) hw)
    fun _ => ?_
  refine (runs_processControls hholds hordinary).seq fun controls => ?_
  refine (runs_startUp hholds hordinary).seq fun reconciliation => ?_
  by_cases hstop : controls.stop = true
  · rw [if_pos hstop, hstop]
    exact runs_pure fun _ h => h
  · rw [if_neg hstop, Bool.eq_false_of_not_eq_true hstop]
    exact (runs_loop hholds hordinary _ _).seq fun last => runs_pure fun _ h => h

omit hordinary in
/-- The handlers of a run store a halt, or pass on one that is stored. -/
lemma runs_failClosed {failure : Failure} :
    Runs p config (Escapes (runMode config) failure)
      (failClosed (daemonPorts p config) failure) (fun _ _ => False)
      (Escapes (runMode config)) := by
  unfold failClosed
  split
  · exact runs_throw fun _ h => h.elim
  · exact runs_throw fun _ h => h
  · exact runs_throw fun _ h => h
  next hlease hhalted hfuel =>
    have hcoherent : ∀ process : RuntimeProcess B, Escapes (runMode config) failure process →
        Coherent (runMode config) process := by
      intro process h
      cases failure <;> first | exact h | exact absurd rfl (hhalted _) | exact h.elim
    refine Runs.seq (exits_pre (runs_halt hholds (by decide +kernel))
      (fun w hw => hw.imp (hcoherent _))) fun _ => ?_
    exact runs_throw fun _ h => h

omit hordinary in
/-- The end of a run: after a stop the broker is disconnected and the stop is finished. -/
lemma runs_wrapUp {startedAt : DateTime} {result : Except Failure (Option String × LoopState)} :
    Exits (Outcome (fun _ => Under p config (Stopped (runMode config)))
        (fun failure => Under p config (Escapes (runMode config) failure)) result)
      (wrapUp (daemonPorts p config) startedAt result)
      (fun _ => Under p config fun _ => True)
      (fun failure => Under p config (Ends (runMode config) failure)) := by
  cases result with
  | error failure =>
    have hinternal : Runtime.Internal (Escapes (B := B) (runMode config) failure) := by
      intro w b hw
      cases failure <;> first | exact internal_coherent _ _ hw |
        exact ⟨internal_coherent _ _ hw.1, hw.2⟩ | exact hw
    refine exits_bind (Q := fun _ => Under p config (Escapes (runMode config) failure)) ?_
      fun disconnected => exits_throw fun w hw => hw.imp ends_of_escapes
    refine exits_imp (exits_attempt (runs_onOutside (E := fun _ => Escapes (runMode config) failure)
      hinternal (fun _ _ => trivial) fun _ _ _ _ _ hw => hw)) (fun _ h => h)
      (fun other _ h => by cases other <;> exact h) fun _ _ h => h.elim
  | ok value =>
    have hdisconnect : Runs p config (Stopped (runMode config))
        (call .disconnect (daemonPorts p config).disconnect)
        (fun _ => Stopped (runMode config)) fun _ _ => False := by
      refine runs_call (fun w _ w' hport hw _ => ?_) fun w failure w' hport hw hallowed => ?_
      · obtain ⟨-, rfl⟩ := Prod.mk.inj hport
        exact ⟨hw, trivial⟩
      · obtain ⟨hfailure, rfl⟩ := Prod.mk.inj hport
        have hreturns := hallowed hw.2.2
        rw [hfailure] at hreturns
        cases hreturns
    refine exits_bind (exits_error (exits_attempt hdisconnect)
      fun _ _ h => h.elim) fun disconnected => ?_
    cases disconnected with
    | error failure =>
      refine Runs.seq (Q := fun _ _ => False) (runs_suppress keeps_never) fun _ => ?_
      exact runs_throw fun _ h => h.elim
    | ok _ =>
      refine Runs.seq (Q := fun _ _ => True) ?_ fun _ => ?_
      · refine exits_get_same fun s hs => exits_imp
          (P := Under p config (Stopped (runMode config))) (exits_ite ?_ (runs_pure fun _ _ =>
            trivial)) ?_ (fun _ _ h => h) fun _ _ h => h
        · refine runs_onProcess (exits_bind (Q := fun _ _ => True) (exits_imp
            (@exits_finalizeStop B (executorPorts p) config.executor
              hholds.assertCurrent) (fun _ h => h.1) (fun _ _ h => h)
            fun failure _ h => ends_of_ordinary h.1) fun _ => exits_pure fun _ h => h)
            fun _ _ _ _ => trivial
        · rintro w rfl
          exact hs
      · refine (runs_now fun _ _ h => h).seq fun stoppedAt => ?_
        exact exits_bind (Q := fun _ => Under p config fun _ => True) (fun w hw => hw) fun _ =>
          exits_pure fun _ h => h

lemma runs_run :
    Runs p config (Coherent (runMode config))
      (ProductionDaemon.run (daemonPorts p config) config.daemon) (fun _ _ => True)
      (Ends (runMode config)) := by
  have hassert : Runs p config (Coherent (runMode config))
      (call .assertCurrent (daemonPorts p config).assertCurrent)
      (fun _ => Coherent (runMode config)) (Ends (runMode config)) := by
    refine runs_onOutside internal_coherent (fun _ _ => trivial) fun b failure b' _ hport _ => ?_
    obtain ⟨b'', hb⟩ := hholds.assertCurrent b
    rw [hb] at hport
    cases hport
  refine hassert.seq fun _ => (runs_now internal_coherent).seq fun startedAt => ?_
  refine (runs_monotonic internal_coherent).seq fun startedMonotonic => ?_
  refine runs_observeRuntimeClock.seq fun _ => ?_
  have hconnect : Runs p config (Coherent (runMode config))
      (call .connect (daemonPorts p config).connect) (fun _ => Coherent (runMode config))
      (Escapes (runMode config)) :=
    runs_onOutside internal_coherent (fun _ _ => trivial) fun b failure b' _ hport hw =>
      escapes_of_ordinary (hordinary.connect _ _ _ hport) hw
  refine exits_bind (exits_error (exits_attempt hconnect)
    fun _ _ h => h.elim) fun connected => ?_
  cases connected with
  | error failure =>
    refine exits_imp (Q := fun _ => Under p config fun _ => False)
      (E := fun failure => Under p config (Escapes (runMode config) failure))
      (Runs.seq (runs_failClosed hholds) fun _ => runs_throw fun _ h => h.elim) (fun _ h => h)
      (fun _ w hw => hw.imp fun h => h.elim) fun _ w hw => hw.imp ends_of_escapes
  | ok _ =>
    refine exits_bind (exits_error (exits_attempt (exits_tryCatch (runs_session hholds hordinary)
      fun failure => exits_post (runs_failClosed hholds)
        (fun _ w hw => hw.imp fun h => h.elim)))
      fun _ _ h => h.elim) fun result => runs_wrapUp hholds

end Parts

namespace Sample

/-- The outside is how often the wall clock was read. -/
def ports (wallTime : ℕ → DateTime) : ProductionPorts ℕ where
  clock n := (wallTime n, n + 1)
  assertCurrent n := (.ok ⟨⟩, n)
  recover n := (.ok ⟨false, ∅⟩, n)
  latestIncompleteSession n := (.ok none, n)
  closeSession _ n := (.ok (0, 0), n)
  prepare n := (.ok ⟨⟩, n)
  reconcileStartup n := (.ok calmReconciliation, n)
  tradingDay _ n := (.error (.brokerError "calendar"), n)
  marketStatus n := (.ok .open, n)
  executionDeadlines _ n := (.ok true, n)
  execute _ n := (.ok (.executed 0), n)
  postClose _ := false
  appendEvent n := (.ok none, n)
  heartbeatFacts n := (.ok ⟨⟩, n)
  cancelSystemOrders n := (.ok .forbidden, n)
  monotonicClock n := (0, n)
  sleep _ n := n
  leaseCheck n := (.ok false, n)
  connect n := (.ok ⟨⟩, n)
  subscribe n := (.ok ⟨⟩, n)
  disconnect n := (.ok ⟨⟩, n)
  stopRequested n := (.ok false, n)
  haltRequired _ := none
  nextEvent n := (.ok false, n)
  writerFailed n := n
  realOrderCalls _ := 0

/-- A live run, followed for two iterations. -/
def live : ProductionConfig := ⟨everySecond 2, ⟨.live, 1, true⟩, "host"⟩

/-- A run on fresh tables. -/
def world : ProductionWorld ℕ := start ⟨[], []⟩ .empty 0

/-- A wall clock that stands, and one that jumps after its first reading. -/
def steady (_ : ℕ) : DateTime := 0

def jumping (n : ℕ) : DateTime := if n = 0 then 0 else 100 * second

lemma holds (wallTime : ℕ → DateTime) : Holds (ports wallTime) :=
  ⟨fun n => ⟨n, rfl⟩, fun n => ⟨false, n, rfl⟩⟩

lemma ordinary (wallTime : ℕ → DateTime) : Ordinary (ports wallTime) where
  hooks := by
    constructor
    all_goals
      intros
      intro n failure n' h
      cases h
      try rfl
  cancelSystemOrders := fun n failure n' h => by cases h
  connect := fun n failure n' h => by cases h
  subscribe := fun n failure n' h => by cases h
  stopRequested := fun n failure n' h => by cases h
  nextEvent := fun n failure n' h => by cases h
  reconciliationId := by
    intro n id n' h
    cases h
    decide +kernel
  haltReason := fun n reason h => by cases h

lemma reached : RuntimeTables.Reached .live RuntimeTables.empty :=
  .unstarted rfl (by simp [RuntimeTables.empty])

end Sample

end ProductionRun

end FirmQuant
