import Mathlib.Data.Finset.Insert
import FirmQuant.Domain.Failure

/-!
# Runtime states

The state machine of `domain/states.py`.  The blockers of a status are a sorted tuple without
duplicates, that is, a finite set of texts.
-/

namespace FirmQuant

/-- `RuntimeState.value`. -/
def RuntimeState.value : RuntimeState → String
  | disarmed => "DISARMED"
  | starting => "STARTING"
  | reconciling => "RECONCILING"
  | ready => "READY"
  | executing => "EXECUTING"
  | degraded => "DEGRADED"
  | halted => "HALTED"
  | stopping => "STOPPING"

/-- `RUNTIME_TRANSITIONS`. -/
def runtimeTransitions : RuntimeState → List RuntimeState
  | .disarmed => [.starting]
  | .starting => [.reconciling, .halted, .stopping]
  | .reconciling => [.ready, .degraded, .halted, .stopping]
  | .ready => [.executing, .reconciling, .degraded, .halted, .stopping]
  | .executing => [.ready, .reconciling, .degraded, .halted, .stopping]
  | .degraded => [.reconciling, .halted, .stopping]
  | .halted => [.reconciling, .stopping]
  | .stopping => [.disarmed]

/-- `str.isspace` of one character. -/
def isSpace (c : Char) : Bool :=
  (9 ≤ c.toNat && c.toNat ≤ 13) || (28 ≤ c.toNat && c.toNat ≤ 32) || c.toNat = 0x85 ||
    c.toNat = 0xa0 || c.toNat = 0x1680 || (0x2000 ≤ c.toNat && c.toNat ≤ 0x200a) ||
    c.toNat = 0x2028 || c.toNat = 0x2029 || c.toNat = 0x202f || c.toNat = 0x205f ||
    c.toNat = 0x3000

/-- A text that is not empty and equals its own `strip()`. -/
def canonicalText (text : String) : Bool :=
  match text.toList with
  | [] => false
  | c :: cs => !isSpace c && !isSpace ((c :: cs).getLast (by simp))

/-- `RuntimeStatus`. -/
structure RuntimeStatus where
  state : RuntimeState
  revision : ℕ
  reason : String
  blockers : Finset String
  reason_canonical : canonicalText reason = true
  blockers_canonical : ∀ blocker ∈ blockers, canonicalText blocker = true
  deriving DecidableEq

/-- The states in which broker writes can be authorized. -/
def RuntimeState.writable (state : RuntimeState) : Bool := state = .ready || state = .executing

namespace RuntimeStatus

/-- `RuntimeStatus.initial`. -/
def initial : RuntimeStatus where
  state := .disarmed
  revision := 0
  reason := "not started"
  blockers := ∅
  reason_canonical := by decide
  blockers_canonical := by simp

/-- `RuntimeStatus.transition`. -/
def transition (status : RuntimeStatus) (target : RuntimeState) (reason : String)
    (blockers : Finset String) : Except Failure RuntimeStatus :=
  if hblockers : ∀ blocker ∈ blockers, canonicalText blocker = true then
    if target = status.state ∧ reason = status.reason ∧ blockers = status.blockers then .ok status
    else if target ≠ status.state ∧ target ∉ runtimeTransitions status.state then
      .error (.domainTransitionError
        ("illegal runtime transition " ++ status.state.value ++ " -> " ++ target.value))
    else if hreason : canonicalText reason = true then
      .ok {
        state := target
        revision := status.revision + 1
        reason := reason
        blockers := blockers
        reason_canonical := hreason
        blockers_canonical := hblockers }
    else .error (.domainValidationError "runtime reason must be canonical non-empty text")
  else .error (.domainValidationError "runtime blocker must be canonical non-empty text")

section Transition

variable {status current : RuntimeStatus} {target : RuntimeState} {reason : String}
  {blockers : Finset String}

/-- What a transition makes of a status: nothing, or the next revision. -/
structure Follows (status current : RuntimeStatus) (target : RuntimeState) (reason : String)
    (blockers : Finset String) : Prop where
  state : current.state = target
  reason : current.reason = reason
  blockers : current.blockers = blockers
  legal : target = status.state ∨ target ∈ runtimeTransitions status.state
  revision : current = status ∨ current.revision = status.revision + 1

lemma follows_of_transition (h : status.transition target reason blockers = .ok current) :
    Follows status current target reason blockers := by
  unfold transition at h
  split_ifs at h with hblockers hsame hillegal hreason
  · obtain ⟨hstate, hreason, hset⟩ := hsame
    cases h
    exact ⟨hstate.symm, hreason.symm, hset.symm, .inl hstate, .inl rfl⟩
  · cases h
    refine ⟨rfl, rfl, rfl, ?_, .inr rfl⟩
    by_cases hstate : target = status.state
    · exact .inl hstate
    · exact .inr (by_contra fun hnot => hillegal ⟨hstate, hnot⟩)

/-- A legal transition with canonical texts goes through. -/
lemma exists_transition (hlegal : target = status.state ∨ target ∈ runtimeTransitions status.state)
    (hreason : canonicalText reason = true)
    (hblockers : ∀ blocker ∈ blockers, canonicalText blocker = true) :
    ∃ current, status.transition target reason blockers = .ok current := by
  unfold transition
  rw [dif_pos hblockers]
  split_ifs with hsame hillegal
  · exact ⟨_, rfl⟩
  · obtain ⟨hstate, hnot⟩ := hillegal
    rcases hlegal with hlegal | hlegal
    · exact absurd hlegal hstate
    · exact absurd hlegal hnot
  · exact ⟨_, rfl⟩

lemma Follows.ne_revision (h : Follows status current target reason blockers)
    (hne : current ≠ status) : current.revision = status.revision + 1 :=
  h.revision.resolve_left hne

end Transition

end RuntimeStatus

end FirmQuant
