import FirmQuant.Application.ControlChannel
import FirmQuant.Scheduling.RuntimeClock

/-!
# The production daemon

`ProductionDaemon.run` of `application/production_daemon.py`: the event loop of the process that
holds the writer lease.  Each iteration observes the runtime clock, checks the lease, consumes
controls, drains broker events, runs one cycle of the hooks, sends a heartbeat when one is due and
sleeps.

The daemon sees hooks, broker, pump, lease and controls through ports that may answer anything.
The world keeps a trace of these calls, of the clock observations and of the discontinuities that
were found; the daemon does not read it.  The loop is given fuel, and a run that uses it up ends in
`Failure.outOfFuel`, which no handler of the daemon touches.
-/

namespace FirmQuant

open Effect

/-- `ProductionCycleResult`. -/
structure ProductionCycleResult where
  decisions : ℕ
  executions : ℕ
  eod : ℕ
  deriving DecidableEq

/-- The counters of a run. -/
structure DaemonCounts where
  writerRenewals : ℕ
  events : ℕ
  decisions : ℕ
  executions : ℕ
  eod : ℕ
  deriving DecidableEq

/-- `_control_state`. -/
inductive ControlState
  | stopPending | halted | idle | last (status : ControlStatus)
  deriving DecidableEq, Repr

/-- What the daemon puts into a heartbeat. -/
structure ProductionHeartbeat where
  observedAt : DateTime
  controlRequestState : ControlState
  counts : DaemonCounts

/-- The outside of the daemon. -/
structure DaemonPorts (B : Type) where
  clock : B → DateTime × B
  monotonicClock : B → ℚ × B
  sleep : ℚ → B → B
  /-- `WriterLease.assert_current`. -/
  assertCurrent : B → Except Failure PUnit × B
  /-- `WriterLeaseGuard.check`, and whether it renewed the lease. -/
  leaseCheck : B → Except Failure Bool × B
  connect : B → Except Failure PUnit × B
  subscribe : B → Except Failure PUnit × B
  disconnect : B → Except Failure PUnit × B
  /-- `ControlInbox.process_pending` with the control executor. -/
  processPending : B → Except Failure ControlBatch × B
  stopRequested : B → Except Failure Bool × B
  /-- `RuntimeControlExecutor.execute_internal_stop`, by its source. -/
  executeInternalStop : Option ClockDiscontinuity → B → Except Failure PUnit × B
  stopPending : B → Bool
  finalizeStop : B → Except Failure PUnit × B
  /-- `halt_required` of the pump, with its reason. -/
  haltRequired : B → Option (Option String)
  dispatchOne : B → Except Failure Bool × B
  startup : B → Except Failure String × B
  cycle : DateTime → B → Except Failure ProductionCycleResult × B
  heartbeat : ProductionHeartbeat → B → Except Failure PUnit × B
  halt : HaltReason → B → Except Failure PUnit × B
  realOrderCalls : B → ℕ

/-- The calls that a daemon makes through its ports. -/
inductive DaemonCall
  | clock | monotonicClock | sleep | assertCurrent | leaseCheck
  | connect | subscribe | disconnect
  | processPending | stopRequested | executeInternalStop | finalizeStop
  | dispatchOne | startup | cycle | heartbeat | halt
  deriving DecidableEq, Repr

/-- What the trace of a daemon records. -/
inductive DaemonObservation (B : Type)
  | observed (observation : RuntimeClockObservation)
  | discontinuity (code : ClockDiscontinuity)
  /-- A call, with the outside before and after it. -/
  | called (name : DaemonCall) (before after : B)

/-- The state of a run: the outside, the fields of the daemon that change, and the trace. -/
structure DaemonWorld (B : Type) where
  outside : B
  previous : Option RuntimeClockObservation
  riskBlocked : Bool
  trace : List (DaemonObservation B)

/-- A program of the daemon. -/
abbrev Daemon (B : Type) := EStateM Failure (DaemonWorld B)

/-- The configuration of a daemon. -/
structure DaemonConfig where
  pollInterval : Duration
  heartbeatInterval : Duration
  maxEventsPerCycle : ℕ
  poll_pos : 0 < pollInterval
  poll_le_heartbeat : pollInterval ≤ heartbeatInterval
  /-- The number of iterations that a run is followed for. -/
  fuel : ℕ

/-- `ProductionRuntimeReceipt`. -/
structure ProductionRuntimeReceipt where
  startedAt : DateTime
  stoppedAt : DateTime
  startupReconciliationId : Option String
  counts : DaemonCounts
  realOrderCalls : ℕ

namespace ProductionDaemon

variable {B : Type}

/-! ## Calls -/

/-- The world after a call that leaves the outside as given. -/
def afterCall (name : DaemonCall) (w : DaemonWorld B) (outside : B) : DaemonWorld B :=
  { w with outside := outside, trace := w.trace ++ [.called name w.outside outside] }

/-- Ask a port that may raise. -/
def call {α : Type} (name : DaemonCall) (port : B → Except Failure α × B) : Daemon B α := fun w =>
  match port w.outside with
  | (.ok a, b) => .ok a (afterCall name w b)
  | (.error failure, b) => .error failure (afterCall name w b)

/-- `try: … except Exception as error`, with the error as a value. -/
def attempt {α : Type} (x : Daemon B α) : Daemon B (Except Failure α) :=
  tryCatch (Except.ok <$> x) fun failure => pure (.error failure)

/-- `with suppress(Exception)`. -/
def suppress {α : Type} (x : Daemon B α) : Daemon B PUnit := do
  let _ ← attempt x
  pure ⟨⟩

/-- Add an observation to the trace. -/
def note (o : DaemonObservation B) : Daemon B PUnit :=
  modify fun w => { w with trace := w.trace ++ [o] }

variable (p : DaemonPorts B) (config : DaemonConfig)

/-- `_now`. -/
def now : Daemon B DateTime := call .clock fun b => (.ok (p.clock b).1, (p.clock b).2)

/-- `_monotonic`. -/
def monotonic : Daemon B ℚ := do
  let value ← call .monotonicClock fun b =>
    (.ok (p.monotonicClock b).1, (p.monotonicClock b).2)
  if value < 0 then throw (.productionDaemonHalted .monotonicClockInvalid)
  else pure value

/-- Block new risk. -/
def blockRisk : Daemon B PUnit := modify fun w => { w with riskBlocked := true }

/-- The handler of `_observe_runtime_clock`. -/
def haltForClock (code : ClockDiscontinuity) : Daemon B PUnit := do
  blockRisk
  suppress (call .executeInternalStop (p.executeInternalStop (some code)))
  suppress (call .halt (p.halt (.clock code)))
  throw (.productionDaemonHalted (.clock code))

/-- `_observe_runtime_clock`. -/
def observeRuntimeClock (wallTime : DateTime) (monotonicTime : ℚ) : Daemon B PUnit := do
  let observation : RuntimeClockObservation := ⟨wallTime, monotonicTime⟩
  let previous := (← get).previous
  modify fun w => { w with previous := some observation }
  note (.observed observation)
  match RuntimeClockMonitor.check previous observation with
  | none => pure ⟨⟩
  | some code => do
    note (.discontinuity code)
    haltForClock p code

lemma observeRuntimeClock_apply {wallTime : DateTime} {monotonicTime : ℚ} {w : DaemonWorld B} :
    observeRuntimeClock p wallTime monotonicTime w =
      (match RuntimeClockMonitor.check w.previous ⟨wallTime, monotonicTime⟩ with
        | none => pure ⟨⟩
        | some code => do
          note (.discontinuity code)
          haltForClock p code : Daemon B PUnit)
        { w with
          previous := some ⟨wallTime, monotonicTime⟩
          trace := w.trace ++ [.observed ⟨wallTime, monotonicTime⟩] } := rfl

/-- `_process_controls`. -/
def processControls : Daemon B ControlBatch := do
  let batch ← call .processPending p.processPending
  if batch.halted then do
    blockRisk
    pure batch
  else pure batch

/-- `_control_state`. -/
def controlState (batch : ControlBatch) : ControlState :=
  if batch.stop then .stopPending
  else if batch.halted then .halted
  else match batch.receipts.getLast? with
    | none => .idle
    | some receipt => .last receipt.status

/-- `_reconciliation_id`. -/
def reconciliationId (value : String) : Daemon B String :=
  if value.toList.take 6 = "recon_".toList ∧ value.length = 70 ∧
      (value.toList.drop 6).all (fun c => c ∈ "0123456789abcdef".toList) then
    pure value
  else throw (.productionDaemonHalted .reconciliationIdentityInvalid)

/-- `_drain_events`: at most the given number of events. -/
def drainEvents : ℕ → Daemon B ℕ
  | 0 => pure 0
  | limit + 1 => do
    if ← call .dispatchOne p.dispatchOne then do
      let more ← drainEvents limit
      pure (more + 1)
    else pure 0

/-- `_halt_if_required`. -/
def haltIfRequired : Daemon B PUnit := do
  match p.haltRequired (← get).outside with
  | none => pure ⟨⟩
  | some reason => do
    let reason := HaltReason.eventPump (reason.getD "BROKER_EVENT_PUMP_HALTED")
    suppress (call .halt (p.halt reason))
    throw (.productionDaemonHalted reason)

/-! ## The loop -/

/-- The variables of the loop. -/
structure LoopState where
  lastHeartbeatMonotonic : ℚ
  counts : DaemonCounts
  controls : ControlBatch

/-- The cycle of one iteration, unless risk is blocked. -/
def runCycle (time : DateTime) (counts : DaemonCounts) : Daemon B DaemonCounts := do
  if (← get).riskBlocked then pure counts
  else do
    let cycle ← call .cycle (p.cycle time)
    pure { counts with
      decisions := counts.decisions + cycle.decisions
      executions := counts.executions + cycle.executions
      eod := counts.eod + cycle.eod }

/-- The heartbeat of one iteration, if one is due. -/
def heartbeatIfDue (st : LoopState) (controls : ControlBatch) (counts : DaemonCounts) :
    Daemon B ℚ := do
  let monotonicAfterCycle ← monotonic p
  if totalSeconds config.heartbeatInterval ≤
      monotonicAfterCycle - st.lastHeartbeatMonotonic then do
    let heartbeatNow ← now p
    call .heartbeat (p.heartbeat ⟨heartbeatNow, controlState controls, counts⟩)
    pure monotonicAfterCycle
  else pure st.lastHeartbeatMonotonic

/-- The work of one iteration after its controls: events, cycle, heartbeat, sleep. -/
def work (time : DateTime) (st : LoopState) (controls : ControlBatch) (writerRenewals : ℕ) :
    Daemon B LoopState := do
  haltIfRequired p
  let drained ← drainEvents p config.maxEventsPerCycle
  haltIfRequired p
  let counts ← runCycle p time { st.counts with
    writerRenewals := writerRenewals
    events := st.counts.events + drained }
  let lastHeartbeat ← heartbeatIfDue p config st controls counts
  call .sleep fun b => (.ok ⟨⟩, p.sleep (totalSeconds config.pollInterval) b)
  pure ⟨lastHeartbeat, counts, controls⟩

/-- One iteration: the state for the next one, or `none` when the loop ends. -/
def iterate (st : LoopState) : Daemon B (LoopState ⊕ LoopState) := do
  let time ← now p
  let monotonicNow ← monotonic p
  observeRuntimeClock p time monotonicNow
  let renewed ← call .leaseCheck p.leaseCheck
  let renewals := st.counts.writerRenewals + if renewed then 1 else 0
  let controls ← processControls p
  let stopped : LoopState :=
    { st with controls := controls, counts := { st.counts with writerRenewals := renewals } }
  if controls.stop then pure (.inr stopped)
  else do
    if ← call .stopRequested p.stopRequested then do
      call .executeInternalStop (p.executeInternalStop none)
      blockRisk
      pure (.inr stopped)
    else do
      let next ← work p config time st controls renewals
      pure (.inl next)

/-- The loop of `run`. -/
def loop : ℕ → LoopState → Daemon B LoopState
  | 0, _ => throw .outOfFuel
  | fuel + 1, st => do
    match ← iterate p config st with
    | .inl next => loop fuel next
    | .inr last => pure last

/-- The startup of the hooks, unless a control forbids it. -/
def startUp (controls : ControlBatch) : Daemon B (Option String) := do
  if controls.stop ∨ (← get).riskBlocked then pure none
  else do
    let value ← call .startup p.startup
    let id ← reconciliationId value
    pure (some id)

/-- What `run` does while the broker is connected. -/
def session (startedMonotonic : ℚ) : Daemon B (Option String × LoopState) := do
  call .subscribe p.subscribe
  let controls ← processControls p
  let reconciliation ← startUp p controls
  let st : LoopState :=
    ⟨startedMonotonic - totalSeconds config.heartbeatInterval, ⟨0, 0, 0, 0, 0⟩, controls⟩
  if controls.stop then pure (reconciliation, st)
  else do
    let last ← loop p config config.fuel st
    pure (reconciliation, last)

/-- The `except` clauses of `run`. -/
def failClosed (failure : Failure) : Daemon B (Option String × LoopState) :=
  match failure with
  | .writerLeaseLost => throw (.productionDaemonHalted .writerLeaseLost)
  | .productionDaemonHalted reason => throw (.productionDaemonHalted reason)
  | .outOfFuel => throw .outOfFuel
  | _ => do
    suppress (call .halt (p.halt .productionRuntimeException))
    throw (.productionDaemonHalted .productionRuntimeException)

/-- Finish a stop that is pending. -/
def finalizeIfPending : Daemon B PUnit := do
  if p.stopPending (← get).outside then call .finalizeStop p.finalizeStop
  else pure ⟨⟩

/-- The end of `run`: the broker is disconnected, and a pending stop is finished. -/
def wrapUp (startedAt : DateTime) (result : Except Failure (Option String × LoopState)) :
    Daemon B ProductionRuntimeReceipt := do
  let disconnected ← attempt (call .disconnect p.disconnect)
  match result, disconnected with
  | .error failure, _ => throw failure
  | .ok _, .error _ => do
    suppress (call .halt (p.halt .brokerDisconnectFailed))
    throw (.productionDaemonHalted .brokerDisconnectFailed)
  | .ok (reconciliation, last), .ok _ => do
    finalizeIfPending p
    let stoppedAt ← now p
    pure
      { startedAt := startedAt
        stoppedAt := stoppedAt
        startupReconciliationId := reconciliation
        counts := last.counts
        realOrderCalls := p.realOrderCalls (← get).outside }

/-- `run`. -/
def run : Daemon B ProductionRuntimeReceipt := do
  call .assertCurrent p.assertCurrent
  let startedAt ← now p
  let startedMonotonic ← monotonic p
  observeRuntimeClock p startedAt startedMonotonic
  match ← attempt (call .connect p.connect) with
  | .error failure => do
    let _ ← failClosed p failure
    throw failure
  | .ok _ => do
    let result ← attempt (tryCatch (session p config startedMonotonic) (failClosed p))
    wrapUp p startedAt result

/-! ## A calm outside -/

/-- The id of a startup reconciliation. -/
def calmReconciliation : String := String.ofList ("recon_".toList ++ List.replicate 64 '0')

/-- Ports whose other calls all answer at once and change nothing. -/
def calmPorts (clock : B → DateTime) (monotonicClock : B → ℚ) (sleep : ℚ → B → B)
    (processPending : B → Except Failure ControlBatch × B) (stopRequested : B → Bool)
    (cycle : DateTime → B → Except Failure ProductionCycleResult × B) : DaemonPorts B where
  clock b := (clock b, b)
  monotonicClock b := (monotonicClock b, b)
  sleep := sleep
  assertCurrent b := (.ok ⟨⟩, b)
  leaseCheck b := (.ok false, b)
  connect b := (.ok ⟨⟩, b)
  subscribe b := (.ok ⟨⟩, b)
  disconnect b := (.ok ⟨⟩, b)
  processPending := processPending
  stopRequested b := (.ok (stopRequested b), b)
  executeInternalStop _ b := (.ok ⟨⟩, b)
  stopPending _ := false
  finalizeStop b := (.ok ⟨⟩, b)
  haltRequired _ := none
  dispatchOne b := (.ok false, b)
  startup b := (.ok calmReconciliation, b)
  cycle := cycle
  heartbeat _ b := (.ok ⟨⟩, b)
  halt _ b := (.ok ⟨⟩, b)
  realOrderCalls _ := 0

/-- A daemon that polls every second, followed for a few iterations. -/
def everySecond (fuel : ℕ) : DaemonConfig :=
  ⟨second, 5 * second, 100, second_pos, by decide, fuel⟩

/-- A daemon before its run. -/
def fresh (outside : B) : DaemonWorld B := ⟨outside, none, false, []⟩

end ProductionDaemon

end FirmQuant
