import FirmQuant.Execution.Submissions
import FirmQuant.Execution.Desk
import FirmQuant.Risk.Capability

/-!
# The arm lease over an execution

`_load_arm` checks once, before the capability of an execution is built, that the lease still
covers one window, one poll and one second.  The orders then run one after the other.  This module
says for every submission of a run when the lease covers its window: the time that passed since
the check counts against the lease, and nothing checks it again.
-/

namespace FirmQuant

open Effect

/-- `_load_arm`, from the two readings of the wall clock that it makes: one verifies the lease,
one measures what is left of it. -/
def loadArm (service : ArmService) (lease : ArmLease) (binding : ArmBinding)
    (settings : ExecutionRuntimeSettings) (verifiedAt checkedAt : DateTime) :
    Except Failure ArmLease :=
  if service.denial lease binding verifiedAt ≠ none then
    .error (.productionServicesUnavailable "ACTIVE_ARM_LEASE_INVALID")
  else if lease.expiresAt - checkedAt ≤ seconds
      (max settings.sellWindowSeconds settings.buyWindowSeconds + settings.pollIntervalSeconds +
        1) then
    .error (.productionServicesUnavailable "ARM_LEASE_TOO_CLOSE_TO_EXPIRY")
  else .ok lease

/-- The window policy that `_execute` builds from the settings. -/
structure PolicyOf (settings : ExecutionRuntimeSettings) (policy : ExecutionWindowPolicy) :
    Prop where
  sellWindow : policy.sellWindow = seconds settings.sellWindowSeconds
  buyWindow : policy.buyWindow = seconds settings.buyWindowSeconds
  minimumOrderLifetime : policy.minimumOrderLifetime = seconds settings.minOrderLifetimeSeconds
  pollInterval : policy.pollInterval = seconds settings.pollIntervalSeconds

section Lease

variable {service : ArmService} {lease : ArmLease} {binding : ArmBinding}
  {settings : ExecutionRuntimeSettings} {policy : ExecutionWindowPolicy}
  {verifiedAt checkedAt : DateTime}

lemma loadArm_eq_ok
    (h : loadArm service lease binding settings verifiedAt checkedAt = .ok lease) :
    service.denial lease binding verifiedAt = none ∧
      seconds (max settings.sellWindowSeconds settings.buyWindowSeconds +
        settings.pollIntervalSeconds + 1) < lease.expiresAt - checkedAt := by
  unfold loadArm at h
  split_ifs at h with hdenied hleft
  exact ⟨not_not.mp hdenied, not_le.mp hleft⟩

/-- The check of `_load_arm` covers every window with a second to spare. -/
lemma window_lt_left (hpolicy : PolicyOf settings policy)
    (h : loadArm service lease binding settings verifiedAt checkedAt = .ok lease) (side : Side) :
    policy.windowFor side + policy.pollInterval + second < lease.expiresAt - checkedAt := by
  have hleft := (loadArm_eq_ok h).2
  have hwindow : policy.windowFor side ≤
      seconds (max settings.sellWindowSeconds settings.buyWindowSeconds) := by
    cases side with
    | sell =>
      rw [ExecutionWindowPolicy.windowFor, hpolicy.sellWindow]
      exact seconds_le_seconds (le_max_left _ _)
    | buy =>
      rw [ExecutionWindowPolicy.windowFor, hpolicy.buyWindow]
      exact seconds_le_seconds (le_max_right _ _)
  rw [seconds_add, seconds_add, seconds_one, ← hpolicy.pollInterval] at hleft
  exact lt_of_le_of_lt (by gcongr) hleft

/-- Before its expiry a verified lease is no reason against a cancel. -/
lemma armLeaseInvalid_notMem {context : WriteAuthorizationContext} {operation : WriteOperation}
    {subject : WriteSubject} (hlease : context.lease = some lease)
    (hvalid : service.denial lease context.binding context.now = none) :
    ReasonCode.armLeaseInvalid ∉ Authorizer.reasons service context operation subject := by
  intro hmem
  simp only [Authorizer.reasons, List.mem_append] at hmem
  rcases hmem with ((((hmem | hmem) | hmem) | hmem) | hmem) | hmem
  · simpa [Authorizer.authorityCodes, hlease, hvalid] using Authorizer.mem_authorityReasons hmem
  · simpa using Authorizer.mem_receiptReasons hmem
  · simp at hmem
  · simp at hmem
  · simp [Authorizer.marketReasons] at hmem
  · simpa [Authorizer.operationCodes] using Authorizer.mem_operationReasons hmem

end Lease

namespace LiveController

variable {B : Type} {p : Ports B} {config : LiveConfig} {service : ArmService} {lease : ArmLease}
  {binding : ArmBinding} {settings : ExecutionRuntimeSettings} {verifiedAt checkedAt : DateTime}

/-- The time until which an order that starts at `startedAt` needs the authority to cancel: the
end of its window and one poll. -/
def authorityNeededUntil (policy : ExecutionWindowPolicy) (side : Side) (startedAt : DateTime) :
    DateTime :=
  startedAt + policy.windowFor side + policy.pollInterval

/-- At a submission, the lease expires after the end of the order's window and one poll, and a
cancel until then is not denied for the lease. -/
structure AuthorityOutlives (service : ArmService) (lease : ArmLease) (binding : ArmBinding)
    (policy : ExecutionWindowPolicy) (verifiedAt startedAt : DateTime) (side : Side) : Prop where
  expires : authorityNeededUntil policy side startedAt < lease.expiresAt
  cancel : ∀ (context : WriteAuthorizationContext) (subject : WriteSubject),
    context.lease = some lease → context.binding = binding → verifiedAt ≤ context.now →
    context.now ≤ authorityNeededUntil policy side startedAt →
    ReasonCode.armLeaseInvalid ∉ Authorizer.reasons service context .cancel subject

/-- Settings with windows of three seconds, polled every second. -/
def shortWindows : ExecutionRuntimeSettings :=
  { ExecutionRuntimeSettings.default with
    sellWindowSeconds := 3
    buyWindowSeconds := 3
    sell_pos := Nat.succ_pos _
    buy_pos := Nat.succ_pos _ }

/-- The controller with these windows and deadlines that are far away. -/
def shortWindowConfig : LiveConfig where
  feeSchedule := Desk.noFees
  windowPolicy := ⟨3 * second, 3 * second, 3 * second, second, threeSeconds_pos, threeSeconds_pos,
    threeSeconds_pos, second_pos, by decide, by decide⟩
  deadlines := ⟨1000, 2000, 3000, thousand_nonneg, by decide, by decide⟩
  fuel := 5

/-- A desk where orders rest until they are cancelled. -/
def resting : DeskRules := ⟨0, false, 0, fun _ _ => []⟩

/-- The identity that the lease binds. -/
def armedIdentity : ArmBinding := ⟨.live, "host", "account", "firmquant", "uquant", "config"⟩

/-- A lease of six seconds: one more than a window, a poll and a second. -/
def sixSecondLease : ArmLease := ⟨"lease", armedIdentity, 0, 6 * second, "mac", by decide⟩

/-- A run in which two SELLs rest for their windows, one after the other. -/
def restingRun : World Desk :=
  finalState (execute (Desk.ports resting) shortWindowConfig
    (Desk.plan [Desk.lot "A" "600001" .sell, Desk.lot "B" "600002" .sell])
    (Desk.fresh 5000 ["600001", "600002"]).world)

/-- Some submission of a trace belongs to an execution whose creation passes the check. -/
def submittedWith (check : Side → DateTime → Bool) (trace : List (Observation B)) : Bool :=
  trace.any fun
    | .submitOrder ledger command => ledger.creations.any fun creation =>
        decide (creation.1 = command.executionId) && check command.side creation.2
    | _ => false

lemma exists_of_submittedWith {check : Side → DateTime → Bool} {trace : List (Observation B)}
    (h : submittedWith check trace = true) :
    ∃ ledger command startedAt, .submitOrder ledger command ∈ trace ∧
      (command.executionId, startedAt) ∈ ledger.creations ∧
        check command.side startedAt = true := by
  obtain ⟨o, ho, hcheck⟩ := List.any_eq_true.mp h
  cases o with
  | submitOrder ledger command =>
    obtain ⟨⟨id, startedAt⟩, hmem, hboth⟩ := List.any_eq_true.mp hcheck
    obtain ⟨hid, hpass⟩ := Bool.and_eq_true_iff.mp hboth
    exact ⟨ledger, command, startedAt, ho, of_decide_eq_true hid ▸ hmem, hpass⟩
  | _ => cases hcheck

end LiveController

end FirmQuant
