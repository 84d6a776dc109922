import FirmQuant.Domain.Failure

/-!
# The runtime clock monitor

`RuntimeClockMonitor` of `scheduling/clock.py`.  It compares each pair of wall and monotonic
readings with the one before: process pauses, suspend and resume, a wall clock that goes back and
clocks that drift apart are to be found this way.
-/

namespace FirmQuant

/-- `RuntimeClockObservation`. -/
structure RuntimeClockObservation where
  wallTime : DateTime
  monotonicTime : ℚ
  deriving DecidableEq

namespace RuntimeClockMonitor

/-- `max_observation_gap` of the daemon's monitor, in seconds. -/
def maxGap : ℚ := 30

/-- `max_wall_monotonic_divergence` of the daemon's monitor, in seconds. -/
def maxDivergence : ℚ := 3

/-- The checks of `observe` against the previous observation, as the first that fails. -/
def discontinuity (previous observation : RuntimeClockObservation) : Option ClockDiscontinuity :=
  let monotonicDelta := observation.monotonicTime - previous.monotonicTime
  let wallDelta := totalSeconds (observation.wallTime - previous.wallTime)
  if monotonicDelta < 0 then some .monotonicClockRollback
  else if wallDelta < -maxDivergence then some .wallClockRollback
  else if maxGap < monotonicDelta then some .runtimeObservationGap
  else if maxDivergence < |wallDelta - monotonicDelta| then some .wallMonotonicDivergence
  else none

/-- `observe`, without the update of the previous observation. -/
def check (previous : Option RuntimeClockObservation) (observation : RuntimeClockObservation) :
    Option ClockDiscontinuity :=
  previous.bind fun previous => discontinuity previous observation

/-- Neither clock goes back between the observations. -/
structure NeverBack (previous observation : RuntimeClockObservation) : Prop where
  wall : previous.wallTime ≤ observation.wallTime
  monotonic : previous.monotonicTime ≤ observation.monotonicTime

instance (previous observation : RuntimeClockObservation) :
    Decidable (NeverBack previous observation) :=
  decidable_of_iff (previous.wallTime ≤ observation.wallTime ∧
      previous.monotonicTime ≤ observation.monotonicTime)
    ⟨fun h => ⟨h.1, h.2⟩, fun h => ⟨h.wall, h.monotonic⟩⟩

/-- With clocks that never go back, the monitor finds a gap exactly when more than thirty seconds
have passed. -/
lemma discontinuity_eq_gap_iff {previous observation : RuntimeClockObservation}
    (h : NeverBack previous observation) :
    discontinuity previous observation = some .runtimeObservationGap ↔
      maxGap < observation.monotonicTime - previous.monotonicTime := by
  have hmonotonic : ¬ observation.monotonicTime - previous.monotonicTime < 0 :=
    not_lt.mpr (sub_nonneg.mpr h.monotonic)
  have hwall : ¬ totalSeconds (observation.wallTime - previous.wallTime) < -maxDivergence := by
    have hzero : totalSeconds 0 ≤ totalSeconds (observation.wallTime - previous.wallTime) :=
      totalSeconds_mono (sub_nonneg.mpr h.wall)
    have hstart : totalSeconds 0 = 0 := by simp [totalSeconds]
    have hlimit : -maxDivergence < (0 : ℚ) := by norm_num [maxDivergence]
    exact not_lt.mpr (hlimit.le.trans (hstart ▸ hzero))
  unfold discontinuity
  rw [if_neg hmonotonic, if_neg hwall]
  by_cases hgap : maxGap < observation.monotonicTime - previous.monotonicTime
  · rw [if_pos hgap]
    exact ⟨fun _ => hgap, fun _ => rfl⟩
  · rw [if_neg hgap]
    constructor
    · intro hsome
      split_ifs at hsome
      · cases hsome
    · exact fun hlt => absurd hlt hgap

end RuntimeClockMonitor

end FirmQuant
