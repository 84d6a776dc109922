import Mathlib.Data.List.Chain
import FirmQuant.Application.DaemonRules
import FirmQuant.Application.WindowEnd

/-!
# Gaps between clock observations

The daemon looks at its clocks once before it connects and once at the head of every iteration,
so a whole startup or a whole iteration, with the cycle in it, lies between two looks.  The clock
monitor takes more than thirty seconds between two looks for a pause of the process.
-/

namespace FirmQuant

open Effect RuntimeClockMonitor

namespace ProductionDaemon

variable {B : Type} {p : DaemonPorts B} {config : DaemonConfig}

/-! ## What the monitor has found -/

/-- The clock observations of a trace, in order. -/
def readings (trace : List (DaemonObservation B)) : List RuntimeClockObservation :=
  trace.filterMap fun
    | .observed observation => some observation
    | _ => none

/-- The monitor remembers the last observation, and the discontinuities of the trace are those
between neighbouring observations. -/
structure Monitored (w : DaemonWorld B) : Prop where
  previous : w.previous = (readings w.trace).getLast?
  found : ∀ code, .discontinuity code ∉ w.trace ↔
    (readings w.trace).IsChain fun a b => discontinuity a b ≠ some code

/-- No discontinuity was found. -/
def Quiet (w : DaemonWorld B) : Prop := ∀ code, .discontinuity code ∉ w.trace

/-- An exception that explains every discontinuity of the trace. -/
def Explains (failure : Failure) (w : DaemonWorld B) : Prop :=
  ∀ code, .discontinuity code ∈ w.trace → failure = .productionDaemonHalted (.clock code)

@[simp] lemma readings_append (trace more : List (DaemonObservation B)) :
    readings (trace ++ more) = readings trace ++ readings more := List.filterMap_append

@[simp] lemma readings_called (name : DaemonCall) (before after : B) :
    readings [.called name before after] = [] := rfl

@[simp] lemma readings_discontinuity (code : ClockDiscontinuity) :
    readings ([.discontinuity code] : List (DaemonObservation B)) = [] := rfl

@[simp] lemma readings_observed (observation : RuntimeClockObservation) :
    readings ([.observed observation] : List (DaemonObservation B)) = [observation] := rfl

/-- The monitor is in the same state, and has found the same. -/
structure SameFindings (w w' : DaemonWorld B) : Prop where
  previous : w'.previous = w.previous
  readings : readings w'.trace = readings w.trace
  found : ∀ code, .discontinuity code ∈ w'.trace ↔ .discontinuity code ∈ w.trace

lemma sameFindings_afterCall (w : DaemonWorld B) (name : DaemonCall) (b : B) :
    SameFindings w (afterCall name w b) :=
  ⟨rfl, by simp [afterCall], by simp [afterCall]⟩

lemma sameFindings_blocked (w : DaemonWorld B) : SameFindings w { w with riskBlocked := true } :=
  ⟨rfl, rfl, fun _ => Iff.rfl⟩

variable {w w' : DaemonWorld B}

lemma Monitored.of_same (hsame : SameFindings w w') (h : Monitored w) :
    Monitored w' where
  previous := by rw [hsame.previous, hsame.readings, h.previous]
  found code := by rw [hsame.found, hsame.readings, h.found]

lemma Quiet.of_same (hsame : SameFindings w w') (h : Quiet w) :
    Quiet w' :=
  fun code hmem => h code ((hsame.found code).mp hmem)

lemma Explains.of_same {failure : Failure} (hsame : SameFindings w w') (h : Explains failure w) :
    Explains failure w' :=
  fun code hmem => h code ((hsame.found code).mp hmem)

/-- The rhythm of the loop does not matter to what the monitor has found. -/
lemma paced_of_same {I : DaemonWorld B → Prop} (hI : ∀ w w', SameFindings w w' → I w → I w') :
    Paced p I I :=
  paced_of_called (fun _ => hI _ _ (sameFindings_afterCall _ _ _))
    (hI _ _ (sameFindings_blocked _))

/-- Another observation: its neighbour is the one that the monitor remembers. -/
lemma Monitored.isChain_append (h : Monitored w) (observation : RuntimeClockObservation)
    (code : ClockDiscontinuity) :
    ((readings w.trace ++ [observation]).IsChain fun a b => discontinuity a b ≠ some code) ↔
      .discontinuity code ∉ w.trace ∧ check w.previous observation ≠ some code := by
  rw [List.isChain_append, ← h.found code]
  have hlast : (∀ a ∈ (readings w.trace).getLast?, ∀ b ∈ [observation].head?,
      discontinuity a b ≠ some code) ↔ check w.previous observation ≠ some code := by
    rw [h.previous]
    cases (readings w.trace).getLast? with
    | none => simp [check]
    | some a => simp [check]
  rw [hlast]
  simp

/-- The world after a look at the clocks. -/
def looked (w : DaemonWorld B) (observation : RuntimeClockObservation) : DaemonWorld B :=
  { w with previous := some observation, trace := w.trace ++ [.observed observation] }

variable {observation : RuntimeClockObservation}

/-- A look with which the monitor is content. -/
lemma Monitored.looked (h : Monitored w) (hquiet : Quiet w)
    (hcheck : check w.previous observation = none) :
    Monitored (looked w observation) ∧ Quiet (looked w observation) := by
  have hmem : ∀ code, .discontinuity code ∉ (ProductionDaemon.looked w observation).trace := by
    intro code hmem
    simp only [ProductionDaemon.looked, List.mem_append, List.mem_singleton, reduceCtorEq,
      or_false] at hmem
    exact hquiet code hmem
  refine ⟨⟨by simp [ProductionDaemon.looked], fun code => ?_⟩, hmem⟩
  have hchain : (readings (ProductionDaemon.looked w observation).trace).IsChain
      fun a b => discontinuity a b ≠ some code := by
    rw [ProductionDaemon.looked, readings_append, readings_observed, h.isChain_append, hcheck]
    exact ⟨hquiet code, by simp⟩
  exact ⟨fun _ => hchain, fun _ => hmem code⟩

/-- A look with which the monitor finds a discontinuity. -/
lemma Monitored.looked_discontinuity (h : Monitored w) (hquiet : Quiet w)
    {code : ClockDiscontinuity} (hcheck : check w.previous observation = some code)
    (hprevious : w'.previous = some observation)
    (htrace : w'.trace = w.trace ++ [.observed observation] ++ [.discontinuity code]) :
    Monitored w' ∧ Explains (.productionDaemonHalted (.clock code)) w' := by
  have hmem : ∀ other, .discontinuity other ∈ w'.trace ↔ other = code := by
    intro other
    have := hquiet other
    simp [htrace, this]
  have hreadings : readings w'.trace = readings w.trace ++ [observation] := by
    rw [htrace, readings_append, readings_append, readings_observed, readings_discontinuity,
      List.append_nil]
  refine ⟨⟨by rw [hprevious, hreadings, List.getLast?_concat], fun other => ?_⟩,
    fun other hother => ?_⟩
  · rw [hreadings, h.isChain_append, hcheck, hmem]
    constructor
    · exact fun hne => ⟨hquiet other, fun heq => hne (Option.some.inj heq).symm⟩
    · exact fun hboth heq => hboth.2 (by rw [heq])
  · rw [(hmem other).mp hother]

/-- A look at the clocks: the monitor compares it with the one before, and a discontinuity is
raised as a halt of the daemon. -/
lemma exits_observeRuntimeClock (wallTime : DateTime) (monotonicTime : ℚ) :
    Exits (fun w : DaemonWorld B => Monitored w ∧ Quiet w)
      (observeRuntimeClock p wallTime monotonicTime) (fun _ w => Monitored w ∧ Quiet w)
      fun failure w => Monitored w ∧ Explains failure w := by
  intro w ⟨hmonitored, hquiet⟩
  rw [observeRuntimeClock_apply]
  cases hcheck : check w.previous ⟨wallTime, monotonicTime⟩ with
  | none => exact hmonitored.looked hquiet hcheck
  | some code =>
    let K : DaemonWorld B → Prop := fun w =>
      Monitored w ∧ Explains (.productionDaemonHalted (.clock code)) w
    have hK : Bears p K :=
      (paced_of_same fun _ _ hsame hw => ⟨hw.1.of_same hsame, hw.2.of_same hsame⟩).between
    have hnote : K { looked w ⟨wallTime, monotonicTime⟩ with
        trace := (looked w ⟨wallTime, monotonicTime⟩).trace ++ [.discontinuity code] } :=
      hmonitored.looked_discontinuity hquiet hcheck rfl rfl
    have hstop : Exits K (haltForClock p code) (fun _ w => Monitored w ∧ Quiet w)
        fun failure w => Monitored w ∧ Explains failure w :=
      exits_error hK.exits_haltForClock (by rintro _ w ⟨rfl, hw⟩; exact hw)
    exact hstop _ hnote

/-- What the monitor has found when a run is over, and what the run ends with. -/
lemma exits_run_monitored (config : DaemonConfig) :
    Exits (fun w : DaemonWorld B => Monitored w ∧ Quiet w) (run p config)
      (fun _ w => Monitored w ∧ Quiet w) fun failure w => Monitored w ∧ Explains failure w := by
  have hpaced : Paced p (fun w : DaemonWorld B => Monitored w ∧ Quiet w)
      fun w => Monitored w ∧ Quiet w :=
    paced_of_same fun _ _ hsame hw => ⟨hw.1.of_same hsame, hw.2.of_same hsame⟩
  refine hpaced.exits_run (fun failure w hw => ⟨hw.1, fun code hmem => absurd hmem (hw.2 code)⟩)
    exits_observeRuntimeClock (fun failure w hother hw => ⟨hw.1, fun code hmem => ?_⟩)
    fun failure => ?_
  · exact hother (.clock code) (hw.2 code hmem)
  · exact (paced_of_same fun _ _ hsame hw => ⟨hw.1.of_same hsame, hw.2.of_same hsame⟩).between

/-- The monitor of a run that starts afresh. -/
lemma monitored_run (config : DaemonConfig) {w : DaemonWorld B} (hprevious : w.previous = none)
    (htrace : w.trace = []) :
    Monitored (finalState (run p config w)) ∧
      ∀ code, .discontinuity code ∈ (finalState (run p config w)).trace →
        ∃ w', run p config w = .error (.productionDaemonHalted (.clock code)) w' := by
  have hquiet : Quiet w := by
    intro code
    rw [htrace]
    exact List.not_mem_nil
  have hmonitored : Monitored w := by
    refine ⟨by rw [hprevious, htrace]; rfl, fun code => ?_⟩
    rw [htrace]
    exact ⟨fun _ => List.isChain_nil, fun _ => List.not_mem_nil⟩
  have hexit := exits_run_monitored (p := p) config w ⟨hmonitored, hquiet⟩
  cases hrun : run p config w with
  | ok receipt w' =>
    rw [hrun] at hexit
    exact ⟨hexit.1, fun code hmem => absurd hmem (hexit.2 code)⟩
  | error failure w' =>
    rw [hrun] at hexit
    exact ⟨hexit.1, fun code hmem => ⟨w', by rw [hexit.2 code hmem]⟩⟩

/-- With clocks that never go back, a run never meets a gap exactly when at most thirty seconds
pass between any two successive looks at the clocks: from the start through connection and startup
to the first iteration, and from one iteration through its cycle and its sleep to the next.  A run
that meets one ends in the halt for it. -/
theorem no_observation_gap_iff {w : DaemonWorld B} (hprevious : w.previous = none)
    (htrace : w.trace = [])
    (hclocks : (readings (finalState (run p config w)).trace).IsChain NeverBack) :
    (.discontinuity .runtimeObservationGap ∉ (finalState (run p config w)).trace ↔
      (readings (finalState (run p config w)).trace).IsChain fun a b =>
        b.monotonicTime - a.monotonicTime ≤ maxGap) ∧
    (.discontinuity .runtimeObservationGap ∈ (finalState (run p config w)).trace →
      ∃ w', run p config w =
        .error (.productionDaemonHalted (.clock .runtimeObservationGap)) w') := by
  obtain ⟨hmonitored, hends⟩ := monitored_run (p := p) config hprevious htrace
  refine ⟨?_, hends _⟩
  rw [hmonitored.found]
  rw [List.isChain_iff_forall_rel_of_append_cons_cons] at hclocks ⊢
  rw [List.isChain_iff_forall_rel_of_append_cons_cons]
  have hpair : ∀ {a b}, NeverBack a b →
      (discontinuity a b ≠ some .runtimeObservationGap ↔
        b.monotonicTime - a.monotonicTime ≤ maxGap) := by
    intro a b hback
    rw [Ne, discontinuity_eq_gap_iff hback, not_lt]
  constructor
  · intro hchain a b before after hsplit
    exact (hpair (hclocks hsplit)).mp (hchain hsplit)
  · intro hchain a b before after hsplit
    exact (hpair (hclocks hsplit)).mpr (hchain hsplit)

/-! ## A resting order -/

/-- A daemon in front of a desk, whose cycle runs the given program of the controller.  It is
asked to stop when the desk has been open for the given time. -/
def deskPorts {α : Type} (rules : DeskRules) (stopsAfter : ℚ) (execution : Live Desk α) :
    DaemonPorts (World Desk) :=
  calmPorts (fun w => w.outside.wall rules) (fun w => w.outside.time)
    (fun duration w => { w with outside := { w.outside with time := w.outside.time + duration } })
    (fun w => (.ok ControlBatch.none, w)) (fun w => stopsAfter ≤ w.outside.time)
    fun _ w => match execution w with
      | .ok _ w' => (.ok ⟨0, 1, 0⟩, w')
      | .error failure w' => (.error failure, w')

/-- The execution of one SELL that rests at the broker, at 10:00 under the deadlines of the day. -/
def restingExecution : Live Desk ExecutionSessionResult :=
  LiveController.execute
    (LiveController.capabilityPorts (Desk.ports (LiveController.restingFrom (10 * hour)))
      ⟨fun _ => "mac"⟩ (LiveController.dayContext (LiveController.restingFrom (10 * hour))))
    (LiveController.slowPollConfig 17660 (by norm_num)) (Desk.plan [Desk.lot "A" "600001" .sell])

/-- A run of the daemon in front of a desk that opens at 10:00. -/
def deskRun {α : Type} (stopsAfter : ℚ) (execution : Live Desk α) :
    EStateM.Result Failure (DaemonWorld (World Desk)) ProductionRuntimeReceipt :=
  run (deskPorts (LiveController.restingFrom (10 * hour)) stopsAfter execution) (everySecond 5)
    (fresh (Desk.fresh 5000 ["600001"]).world)

/-- A daemon whose cycles take no time runs for two seconds and stops without a gap. -/
theorem idle_daemon_meets_no_gap :
    .discontinuity .runtimeObservationGap ∉ (finalState (deskRun 2 (pure ()))).trace := by
  refine (no_observation_gap_iff rfl rfl ?_).1.mpr ?_
  · decide +kernel
  · decide +kernel

/-- One SELL is executed at 10:00 under the deadlines of the day.  It rests at the broker and is
cancelled at the end of its window, so that the execution returns within its limits.  Both clocks
advance together, and the daemon halts for the gap when it looks at them next. -/
theorem resting_sell_halts_daemon :
    LiveController.executionDeadlines LiveController.slowPolls (combineShanghai 0 (10 * hour)) 0 =
        .ok (some (LiveController.slowPollConfig 17660 (by norm_num)).deadlines) ∧
    (∃ result w', restingExecution (Desk.fresh 5000 ["600001"]).world = .ok result w' ∧
      w'.outside.time ≤ LiveController.slowPolls.sellWindowSeconds ∧
      w'.outside.time <
        (LiveController.slowPollConfig 17660 (by norm_num)).deadlines.absoluteCompletion) ∧
    ((readings (finalState (deskRun 1000 restingExecution)).trace).IsChain fun a b =>
      NeverBack a b ∧
        totalSeconds (b.wallTime - a.wallTime) = b.monotonicTime - a.monotonicTime) ∧
    ∃ w', deskRun 1000 restingExecution =
      .error (.productionDaemonHalted (.clock .runtimeObservationGap)) w' := by
  refine ⟨by decide +kernel, ?_, by decide +kernel, ?_⟩
  · have hrun : returnsWith (fun _ w' => decide (w'.outside.time ≤ 300))
        (restingExecution (Desk.fresh 5000 ["600001"]).world) = true := by
      decide +kernel
    obtain ⟨result, w', hok, hcheck⟩ := exists_ok_of_returnsWith hrun
    have htime : w'.outside.time ≤ 300 := of_decide_eq_true hcheck
    refine ⟨result, w', hok, htime, ?_⟩
    change w'.outside.time < 17660 + 330
    linarith
  · have hrun : raisesWith (fun failure _ =>
          decide (failure = .productionDaemonHalted (.clock .runtimeObservationGap)))
        (deskRun 1000 restingExecution) = true := by
      decide +kernel
    obtain ⟨failure, w', herror, hcheck⟩ := exists_error_of_raisesWith hrun
    exact ⟨w', of_decide_eq_true hcheck ▸ herror⟩

end ProductionDaemon

end FirmQuant
