import FirmQuant.Application.CoherentHooks

/-!
# A production run

`ProductionDaemon.run` with the parts that it is built from: the production hooks, the control inbox
with the control executor, and the event pump, all of them on one database.  What is outside of
these stays behind ports.
-/

namespace FirmQuant

open Effect

/-- `RuntimeClockDiscontinuity.code`. -/
def ClockDiscontinuity.code : ClockDiscontinuity → String
  | .monotonicClockRollback => "MONOTONIC_CLOCK_ROLLBACK"
  | .wallClockRollback => "WALL_CLOCK_ROLLBACK"
  | .runtimeObservationGap => "RUNTIME_OBSERVATION_GAP"
  | .wallMonotonicDivergence => "WALL_MONOTONIC_DIVERGENCE"

/-- The text of a halt reason. -/
def HaltReason.code : HaltReason → String
  | .clock code => code.code
  | .monotonicClockInvalid => "MONOTONIC_CLOCK_INVALID"
  | .reconciliationIdentityInvalid => "startup reconciliation identity is invalid"
  | .eventPump reason => reason
  | .writerLeaseLost => "WRITER_LEASE_LOST"
  | .productionRuntimeException => "PRODUCTION_RUNTIME_EXCEPTION"
  | .brokerDisconnectFailed => "BROKER_DISCONNECT_FAILED"

/-- The outside of a production run. -/
structure ProductionPorts (B : Type) extends HooksPorts B where
  cancelSystemOrders : B → Except Failure CancelOnlyResult × B
  monotonicClock : B → ℚ × B
  sleep : ℚ → B → B
  /-- `WriterLeaseGuard.check`, and whether it renewed the lease. -/
  leaseCheck : B → Except Failure Bool × B
  connect : B → Except Failure PUnit × B
  subscribe : B → Except Failure PUnit × B
  disconnect : B → Except Failure PUnit × B
  stopRequested : B → Except Failure Bool × B
  /-- `halt_required` of the pump, with its reason. -/
  haltRequired : B → Option (Option String)
  /-- `_bind_writer` and `get_nowait` of the pump: whether there is an event. -/
  nextEvent : B → Except Failure Bool × B
  /-- What the pump keeps of an event whose writer has raised. -/
  writerFailed : B → B
  realOrderCalls : B → ℕ

/-- What a production run is built with. -/
structure ProductionConfig where
  daemon : DaemonConfig
  executor : ExecutorConfig
  hostHash : String

/-- The process of the writer, and the controls that it has begun to execute, each with the stored
state before it; the code does not read these. -/
structure ControlledProcess (B : Type) where
  process : RuntimeProcess B
  controls : List (ControlCommand × RuntimeState)

/-- The outside of the daemon: the process, and the directories of the controls. -/
abbrev ProductionWorld (B : Type) := ControlWorld (ControlledProcess B)

namespace ProductionRun

variable {B : Type}

/-- The world with another process. -/
def withProcess (w : ProductionWorld B) (process : RuntimeProcess B) : ProductionWorld B :=
  { w with outside := { w.outside with process := process } }

/-- A program of the process, as a port of the daemon. -/
def onProcess {α : Type} (x : Runtime B α) (w : ProductionWorld B) :
    Except Failure α × ProductionWorld B :=
  match x w.outside.process with
  | .ok a process => (.ok a, withProcess w process)
  | .error failure process => (.error failure, withProcess w process)

/-- A port of the outside, as a port of the daemon. -/
def onOutside {α : Type} (port : B → α × B) (w : ProductionWorld B) : α × ProductionWorld B :=
  let process := w.outside.process
  ((port process.outside).1, withProcess w { process with outside := (port process.outside).2 })

variable (p : ProductionPorts B) (config : ProductionConfig)

/-- The ports of the control executor. -/
def executorPorts : ExecutorPorts B := ⟨p.toRuntimePorts, p.cancelSystemOrders⟩

/-- `self._control_executor.execute`. -/
def handler : ControlInbox.Handler (ControlledProcess B) := fun request w =>
  let controls := w.controls ++ [(request.command, w.process.tables.status.state)]
  match RuntimeControl.execute (executorPorts p) config.executor request w.process with
  | .ok execution process => (.ok execution, ⟨process, controls⟩)
  | .error failure process => (.error failure, ⟨process, controls⟩)

/-- The clock, as the control inbox reads it. -/
def inboxClock (w : ControlledProcess B) : DateTime × ControlledProcess B :=
  ((p.clock w.process.outside).1,
    { w with process := { w.process with outside := (p.clock w.process.outside).2 } })

/-- `process_pending` of the control inbox. -/
def processPending (w : ProductionWorld B) : Except Failure ControlBatch × ProductionWorld B :=
  match ControlInbox.processPending (inboxClock p) config.hostHash (handler p config) w with
  | .ok batch w' => (.ok batch, w')
  | .error failure w' => (.error failure, w')

/-- The writer of an event, of which every exception is kept by the pump. -/
def writeEvent : Runtime B PUnit :=
  tryCatch (ProductionHooks.handleEvent p.toHooksPorts config.executor.mode) fun failure => do
    modify fun w => { w with outside := p.writerFailed w.outside }
    throw failure

/-- `dispatch_one` of the event pump. -/
def dispatchOne : Runtime B Bool := do
  if ← Runtime.call p.nextEvent then do
    writeEvent p config
    pure true
  else pure false

/-- The source of an internal stop. -/
def stopSource : Option ClockDiscontinuity → String
  | none => "PROCESS_SIGNAL"
  | some code => code.code

/-- The ports of the daemon. -/
def daemonPorts : DaemonPorts (ProductionWorld B) where
  clock := onOutside p.clock
  monotonicClock := onOutside p.monotonicClock
  sleep duration w := (onOutside (fun b => ((), p.sleep duration b)) w).2
  assertCurrent := onOutside p.assertCurrent
  leaseCheck := onOutside p.leaseCheck
  connect := onOutside p.connect
  subscribe := onOutside p.subscribe
  disconnect := onOutside p.disconnect
  processPending := processPending p config
  stopRequested := onOutside p.stopRequested
  executeInternalStop source := onProcess (do
    let _ ← RuntimeControl.executeInternalStop (executorPorts p) config.executor
      (stopSource source))
  stopPending w := w.outside.process.stopPending
  finalizeStop := onProcess (do
    let _ ← RuntimeControl.finalizeStop (executorPorts p) config.executor)
  haltRequired w := p.haltRequired w.outside.process.outside
  dispatchOne := onProcess (dispatchOne p config)
  startup := onProcess (ProductionHooks.startup p.toHooksPorts config.executor.mode)
  cycle time := onProcess (ProductionHooks.cycle p.toHooksPorts config.executor.mode time)
  heartbeat observed := onProcess (ProductionHooks.heartbeat p.toHooksPorts observed)
  halt reason := onProcess
    (ProductionHooks.halt p.toHooksPorts config.executor.mode reason.code)
  realOrderCalls w := p.realOrderCalls w.outside.process.outside + w.outside.process.cancelCalls

/-- The world when the hooks have just been built: their copy is what is stored. -/
def start (directories : ControlDirectories) (tables : RuntimeTables) (outside : B) :
    ProductionWorld B :=
  ⟨directories, ⟨⟨tables, false, 0, tables.status, 0, outside⟩, []⟩⟩

/-- `run`. -/
def run (w : ProductionWorld B) :
    EStateM.Result Failure (DaemonWorld (ProductionWorld B)) ProductionRuntimeReceipt :=
  ProductionDaemon.run (daemonPorts p config) config.daemon (ProductionDaemon.fresh w)

/-! ## What a run must keep -/

/-- A halt of the hooks does not miss the stored status: it does nothing, or it starts from what is
stored. -/
def CopyHolds (process : RuntimeProcess B) : Prop :=
  process.cached.state = .halted ∨ process.cached = process.tables.status

/-- Whenever the hooks are called their copy holds, and the row of a heartbeat carries the state
that is stored. -/
def Truthful : DaemonObservation (ProductionWorld B) → Prop
  | .called .heartbeat before after =>
    CopyHolds before.outside.process ∧
      (after.outside.process.tables.heartbeat = before.outside.process.tables.heartbeat ∨
        ∃ row, after.outside.process.tables.heartbeat = some row ∧
          row.runtimeState = after.outside.process.tables.status.state)
  | .called .startup before _ | .called .cycle before _ | .called .dispatchOne before _
  | .called .halt before _ => CopyHolds before.outside.process
  | _ => True

/-- A run that ends in a halt has stored it, and on the way the copy of the hooks held. -/
structure Durable (result : EStateM.Result Failure (DaemonWorld (ProductionWorld B))
    ProductionRuntimeReceipt) : Prop where
  halted : ∀ reason w, result = .error (.productionDaemonHalted reason) w →
    w.outside.outside.process.tables.status.state = .halted ∧
      w.outside.outside.process.tables.status.blockers ≠ ∅
  truthful : ∀ o ∈ (finalState result).trace, Truthful o

/-- What must not happen in a run: a clock that jumps or is negative; a HALT of what is not HALTED,
a DISARM of what is not DISARMED, or an exception in a batch with a STOP; and a broker that cannot
be disconnected after a stop. -/
def Allowed : DaemonObservation (ProductionWorld B) → Prop
  | .discontinuity _ => False
  | .called .monotonicClock before _ =>
    0 ≤ (p.monotonicClock before.outside.process.outside).1
  | .called .processPending before after =>
    (∀ control ∈ after.outside.controls, RuntimeControl.harmless control.1 control.2 = true) ∧
      ((∃ control ∈ after.outside.controls, control.1 = .stop) →
        (processPending p config before).1.isOk = true)
  | .called .disconnect before _ => before.outside.process.stopPending = true →
    (p.disconnect before.outside.process.outside).1.isOk = true
  | _ => True

instance : DecidablePred (Allowed p config) := fun o =>
  match o with
  | .discontinuity _ => inferInstanceAs (Decidable False)
  | .observed _ => inferInstanceAs (Decidable True)
  | .called .monotonicClock before _ =>
    inferInstanceAs (Decidable (0 ≤ (p.monotonicClock before.outside.process.outside).1))
  | .called .processPending before after => inferInstanceAs (Decidable
    ((∀ control ∈ after.outside.controls, RuntimeControl.harmless control.1 control.2 = true) ∧
      ((∃ control ∈ after.outside.controls, control.1 = .stop) →
        (processPending p config before).1.isOk = true)))
  | .called .disconnect before _ => inferInstanceAs (Decidable
    (before.outside.process.stopPending = true →
      (p.disconnect before.outside.process.outside).1.isOk = true))
  | .called .clock _ _ | .called .sleep _ _ | .called .assertCurrent _ _
  | .called .leaseCheck _ _ | .called .connect _ _ | .called .subscribe _ _
  | .called .stopRequested _ _ | .called .executeInternalStop _ _ | .called .finalizeStop _ _
  | .called .dispatchOne _ _ | .called .startup _ _ | .called .cycle _ _
  | .called .heartbeat _ _ | .called .halt _ _ => inferInstanceAs (Decidable True)

/-- The other ports raise what the daemon meets with a halt, and what they answer is well formed. -/
structure Ordinary : Prop where
  hooks : p.toHooksPorts.Ordinary
  cancelSystemOrders : RaisesOrdinary p.cancelSystemOrders
  connect : RaisesOrdinary p.connect
  subscribe : RaisesOrdinary p.subscribe
  stopRequested : RaisesOrdinary p.stopRequested
  nextEvent : RaisesOrdinary p.nextEvent
  /-- The id of the startup reconciliation is one that `run` accepts. -/
  reconciliationId : ∀ b id b', p.reconcileStartup b = (.ok id, b') →
    id.toList.take 6 = "recon_".toList ∧ id.length = 70 ∧
      (id.toList.drop 6).all (fun c => c ∈ "0123456789abcdef".toList)
  haltReason : ∀ b reason, p.haltRequired b = some (some reason) → canonicalText reason = true

/-- The writer lease is held throughout. -/
structure Holds : Prop where
  assertCurrent : Runtime.Held p.toRuntimePorts
  leaseCheck : ∀ b, ∃ renewed b', p.leaseCheck b = (.ok renewed, b')

end ProductionRun

end FirmQuant
