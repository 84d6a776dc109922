import FirmQuant.Risk.Gate

/-!
# Settings, arm leases and the write authorizer

The deployment settings of `config.py`, the arm lease of `risk/arm.py`, the clock receipt of
`scheduling/clock.py` and `_Authorizer.authorize` of `risk/capability.py`, which re-checks every
fact before a broker write.
-/

namespace FirmQuant

/-! ## Settings -/

/-- `ExecutionRuntimeSettings`. -/
structure ExecutionRuntimeSettings where
  sellWindowSeconds : ℕ
  buyWindowSeconds : ℕ
  minOrderLifetimeSeconds : ℕ
  pollIntervalSeconds : ℕ
  maxOrderLifetimeSeconds : ℕ
  maxOpenOrders : ℕ
  maxConsecutiveRejections : ℕ
  maxDisconnectSeconds : ℕ
  maxSubmitCountWindow : ℕ
  maxCancelCountWindow : ℕ
  maxQuoteAgeSeconds : ℕ
  maxClockDriftSeconds : ℕ
  maxPriceDeviationBps : ℚ
  maxEquityChangeFraction : ℚ
  maxIntradayLossFraction : ℚ
  maxCapitalDrawdownFraction : ℚ
  sell_pos : 0 < sellWindowSeconds
  buy_pos : 0 < buyWindowSeconds
  min_pos : 0 < minOrderLifetimeSeconds
  poll_pos : 0 < pollIntervalSeconds
  min_le_max : minOrderLifetimeSeconds ≤ maxOrderLifetimeSeconds
  poll_le_max : pollIntervalSeconds ≤ maxOrderLifetimeSeconds

/-- The default execution settings. -/
def ExecutionRuntimeSettings.default : ExecutionRuntimeSettings where
  sellWindowSeconds := 300
  buyWindowSeconds := 300
  minOrderLifetimeSeconds := 3
  pollIntervalSeconds := 1
  maxOrderLifetimeSeconds := 120
  maxOpenOrders := 4
  maxConsecutiveRejections := 3
  maxDisconnectSeconds := 30
  maxSubmitCountWindow := 20
  maxCancelCountWindow := 20
  maxQuoteAgeSeconds := 5
  maxClockDriftSeconds := 2
  maxPriceDeviationBps := 200
  maxEquityChangeFraction := 1 / 10
  maxIntradayLossFraction := 8 / 100
  maxCapitalDrawdownFraction := 1 / 4
  sell_pos := by norm_num
  buy_pos := by norm_num
  min_pos := by norm_num
  poll_pos := Nat.one_pos
  min_le_max := by norm_num
  poll_le_max := by norm_num

/-- The settings that the authorizer reads. -/
structure Settings where
  mode : Mode
  liveTradingEnabled : Bool
  programTradingReportConfirmed : Bool
  brokerApiAuthorized : Bool
  execution : ExecutionRuntimeSettings

/-! ## Arm leases -/

/-- `ArmBinding`.  Its `identity_payload_sha256` hashes all of it. -/
structure ArmBinding where
  mode : Mode
  hostHash : String
  accountHash : String
  firmquantCommit : String
  uquantCommit : String
  configSha256 : String
  deriving DecidableEq

/-- `ArmLease`; the constructor checks that it carries the digest of its own binding. -/
@[ext] structure ArmLease where
  leaseId : String
  binding : ArmBinding
  issuedAt : DateTime
  expiresAt : DateTime
  leaseMac : String
  issued_before_expiry : issuedAt < expiresAt

instance : DecidableEq ArmLease := fun _ _ => decidable_of_iff _ ArmLease.ext_iff.symm

/-- `authenticated_payload`, what the lease's code authenticates. -/
structure AuthenticatedPayload where
  leaseId : String
  binding : ArmBinding
  issuedAt : DateTime
  expiresAt : DateTime
  deriving DecidableEq

/-- `authenticated_payload`. -/
def ArmLease.authenticatedPayload (lease : ArmLease) : AuthenticatedPayload :=
  ⟨lease.leaseId, lease.binding, lease.issuedAt, lease.expiresAt⟩

/-- `ArmService`, by the authentication code of its key. -/
structure ArmService where
  mac : AuthenticatedPayload → String

/-- `ArmService.verify`, as the text of the denial. -/
def ArmService.denial (service : ArmService) (lease : ArmLease) (binding : ArmBinding)
    (now : DateTime) : Option String :=
  if lease.leaseMac ≠ service.mac lease.authenticatedPayload then
    some "arm lease authentication failed"
  else if lease.expiresAt ≤ now then some "arm lease expired"
  else if now < lease.issuedAt then some "arm lease is not yet valid"
  else if lease.binding ≠ binding then
    some "arm lease binding does not match current identity"
  else none

/-- A verified lease is verified at every time before its expiry, once it is issued. -/
lemma ArmService.denial_eq_none_of_le {service : ArmService} {lease : ArmLease}
    {binding : ArmBinding} {now later : DateTime} (h : service.denial lease binding now = none)
    (hle : now ≤ later) (hexp : later < lease.expiresAt) :
    service.denial lease binding later = none := by
  unfold ArmService.denial at h
  split_ifs at h with hmac hexpired hearly hbinding
  unfold ArmService.denial
  rw [if_neg hmac, if_neg (not_le.mpr hexp), if_neg (not_lt.mpr ((not_lt.mp hearly).trans hle)),
    if_neg hbinding]

/-! ## Clock receipts -/

/-- `round` of a nonnegative number of microseconds to milliseconds, ties to even. -/
def roundMilliseconds (duration : Duration) : ℤ :=
  let quotient := duration / 1000
  let rest := duration % 1000
  if rest < 500 then quotient
  else if 500 < rest then quotient + 1
  else if quotient % 2 = 0 then quotient
  else quotient + 1

/-- `ClockReceipt`. -/
structure ClockReceipt where
  systemTime : DateTime
  referenceTime : DateTime
  driftMilliseconds : ℤ
  deriving DecidableEq

/-- `ClockGuard.verify`. -/
def ClockGuard.verify (maxDrift : Duration) (systemTime referenceTime : DateTime) :
    Option ClockReceipt :=
  if maxDrift < |systemTime - referenceTime| then none
  else some ⟨systemTime, referenceTime, roundMilliseconds |systemTime - referenceTime|⟩

lemma ClockGuard.verify_systemTime {maxDrift : Duration} {systemTime referenceTime : DateTime}
    {receipt : ClockReceipt} (h : ClockGuard.verify maxDrift systemTime referenceTime =
      some receipt) :
    receipt.systemTime = systemTime := by
  unfold ClockGuard.verify at h
  split_ifs at h
  cases h
  rfl

/-! ## The authorizer -/

/-- `WriteOperation`. -/
inductive WriteOperation
  | construct | submit | cancel
  deriving DecidableEq, Repr

/-- What a write is about. -/
inductive WriteSubject
  | nothing
  | command (command : BrokerOrderCommand)
  | brokerOrder (brokerOrderId : String)
  deriving DecidableEq

/-- `WriteAuthorizationContext`. -/
structure WriteAuthorizationContext where
  settings : Settings
  lease : Option ArmLease
  binding : ArmBinding
  now : DateTime
  runtimeState : RuntimeState
  brokerHealth : BrokerHealth
  startupReconciliationPassed : Bool
  brokerSnapshotReceivedAt : Option DateTime
  maxBrokerSnapshotAge : Duration
  quoteReceivedAt : Option DateTime
  maxQuoteAge : Duration
  sessionValid : Bool
  marketStatus : MarketSessionStatus
  fingerprintsMatch : Bool
  killSwitchTripped : Bool
  unresolvedOrderCount : ℕ
  submittingUnresolvedCount : ℕ
  reconciliationMismatch : Bool
  externalActivityDetected : Bool
  gateDecision : Option GateDecision
  cancelRiskApproved : Bool
  symbolInCanonicalUniverse : Bool
  symbolInDeploymentAllowlist : Bool
  commandWithinUquantIntent : Bool
  cashAndPositionsSafe : Bool
  frequencyWithinLimits : Bool
  clockReceipt : Option ClockReceipt

namespace Authorizer

/-- The freshness of an observation that is known. -/
def ageReasons (observed now : DateTime) (maximum : Duration) (stale future : ReasonCode) :
    List ReasonCode :=
  if now < observed then [future] else flag (maximum < now - observed) stale

/-- `_freshness_reasons`. -/
def freshnessReasons (observed : Option DateTime) (now : DateTime) (maximum : Duration)
    (missing stale future : ReasonCode) : List ReasonCode :=
  match observed with
  | none => [missing]
  | some time => ageReasons time now maximum stale future

/-- The reasons from settings, lease, runtime and broker health. -/
def authorityReasons (service : ArmService) (context : WriteAuthorizationContext) :
    List ReasonCode :=
  let settings := context.settings
  let health := context.brokerHealth
  flag (settings.mode ∉ [Mode.canary, .live]) .modeNotLiveWritable ++
  flag (settings.liveTradingEnabled = false) .liveTradingDisabled ++
  flag (settings.mode ≠ context.binding.mode) .modeBindingMismatch ++
  flag (settings.programTradingReportConfirmed = false) .programTradingReportUnconfirmed ++
  flag (settings.brokerApiAuthorized = false) .brokerApiUnauthorized ++
  (match context.lease with
    | none => [.armLeaseMissing]
    | some lease =>
      flag (service.denial lease context.binding context.now ≠ none) .armLeaseInvalid) ++
  flag (context.runtimeState ∉ [RuntimeState.ready, .executing]) .runtimeNotWritable ++
  flag (health.connected = false) .brokerDisconnected ++
  flag (health.readHealthy = false) .brokerReadUnhealthy ++
  flag (health.writeHealthy = false) .brokerWriteUnhealthy ++
  ageReasons health.observedAt context.now context.maxBrokerSnapshotAge .brokerHealthStale
    .brokerHealthTimeInFuture ++
  flag (context.startupReconciliationPassed = false) .startupReconciliationRequired

/-- The reasons from the clock receipt, which a write needs. -/
def receiptReasons (context : WriteAuthorizationContext) : WriteOperation → List ReasonCode
  | .construct => []
  | _ =>
    match context.clockReceipt with
    | none => [.clockDriftUnverified]
    | some receipt =>
      flag ((context.settings.execution.maxClockDriftSeconds : ℤ) * 1000 <
        receipt.driftMilliseconds) .clockDriftLimit ++
      ageReasons receipt.systemTime context.now context.maxQuoteAge .clockReceiptStale
        .clockReceiptTimeInFuture

/-- The reasons from market, identity, ledger and account. -/
def marketReasons (context : WriteAuthorizationContext) : List ReasonCode :=
  flag (context.sessionValid = false) .sessionInvalid ++
  flag (context.marketStatus ∉ [MarketSessionStatus.open, .auction]) .marketNotTradable ++
  flag (context.fingerprintsMatch = false) .identityMismatch ++
  flag (context.killSwitchTripped = true) .killSwitchTripped ++
  flag (0 < context.unresolvedOrderCount) .unresolvedOrderState ++
  flag (0 < context.submittingUnresolvedCount) .submittingUnresolved ++
  flag (context.reconciliationMismatch = true) .reconciliationMismatch ++
  flag (context.externalActivityDetected = true) .externalActivity ++
  flag (context.symbolInCanonicalUniverse = false) .symbolNotCanonical ++
  flag (context.symbolInDeploymentAllowlist = false) .symbolNotDeploymentAllowed ++
  flag (context.commandWithinUquantIntent = false) .commandExceedsUquantIntent ++
  flag (context.cashAndPositionsSafe = false) .cashOrPositionUnsafe ++
  flag (context.frequencyWithinLimits = false) .frequencyLimit

/-- `_submit_gate_reasons`. -/
def submitGateReasons (decision : Option GateDecision) (subject : WriteSubject) :
    List ReasonCode :=
  match decision with
  | none => [.executionRiskGateMissing]
  | some decision =>
    if decision.action ∉ [GateAction.allow, .shrink] then [.executionRiskGateDenied]
    else
      match subject with
      | .command command =>
        flag (decision.authorizedShares ≠ command.requestedShares) .riskGateQuantityMismatch
      | _ => []

/-- The reasons from the operation itself. -/
def operationReasons (context : WriteAuthorizationContext) (subject : WriteSubject) :
    WriteOperation → List ReasonCode
  | .construct => []
  | .submit =>
    (match subject with
      | .command _ => []
      | _ => [.submitCommandInvalid]) ++
    submitGateReasons context.gateDecision subject
  | .cancel =>
    (match subject with
      | .brokerOrder brokerOrderId => flag (brokerOrderId = "") .cancelIdInvalid
      | _ => [.cancelIdInvalid]) ++
    flag (context.cancelRiskApproved = false) .cancelRiskGateDenied

/-- All reasons of `authorize`, in the order in which they are appended. -/
@[irreducible] def reasons (service : ArmService) (context : WriteAuthorizationContext)
    (operation : WriteOperation) (subject : WriteSubject) : List ReasonCode :=
  authorityReasons service context ++
  receiptReasons context operation ++
  freshnessReasons context.brokerSnapshotReceivedAt context.now context.maxBrokerSnapshotAge
    .brokerSnapshotMissing .brokerSnapshotStale .brokerSnapshotTimeInFuture ++
  freshnessReasons context.quoteReceivedAt context.now context.maxQuoteAge
    .quoteMissing .quoteStale .quoteTimeInFuture ++
  marketReasons context ++
  operationReasons context subject operation

/-! ### Which reasons there can be -/

section Membership

variable {service : ArmService} {context : WriteAuthorizationContext} {reason : ReasonCode}
  {operation : WriteOperation} {subject : WriteSubject}

variable {now : DateTime} {maximum : Duration} {stale future : ReasonCode}

@[simp] lemma mem_ageReasons {observed : DateTime} :
    reason ∈ ageReasons observed now maximum stale future ↔
      (now < observed ∧ reason = future) ∨
        (observed ≤ now ∧ maximum < now - observed ∧ reason = stale) := by
  unfold ageReasons
  split_ifs with h
  · simp [h, not_le.mpr h]
  · simp [h, not_lt.mp h]

@[simp] lemma mem_freshnessReasons {observed : Option DateTime} {missing : ReasonCode} :
    reason ∈ freshnessReasons observed now maximum missing stale future ↔
      (observed = none ∧ reason = missing) ∨
        ∃ time ∈ observed, reason ∈ ageReasons time now maximum stale future := by
  cases observed with
  | none | some time => simp [freshnessReasons]

/-- The reasons from settings, runtime and connection, and a missing lease. -/
def authorityCodes : List ReasonCode :=
  [.modeNotLiveWritable, .liveTradingDisabled, .modeBindingMismatch,
    .programTradingReportUnconfirmed, .brokerApiUnauthorized, .armLeaseMissing,
    .runtimeNotWritable, .brokerDisconnected, .brokerReadUnhealthy, .brokerWriteUnhealthy,
    .startupReconciliationRequired]

lemma mem_authorityReasons (h : reason ∈ authorityReasons service context) :
    reason ∈ authorityCodes ∨
      (reason = .armLeaseInvalid ∧
        ∃ lease ∈ context.lease, service.denial lease context.binding context.now ≠ none) ∨
      reason ∈ ageReasons context.brokerHealth.observedAt context.now
        context.maxBrokerSnapshotAge .brokerHealthStale .brokerHealthTimeInFuture := by
  unfold authorityReasons at h
  cases hlease : context.lease with
  | none =>
    simp only [hlease, List.mem_append, mem_flag, List.mem_singleton] at h
    simp only [authorityCodes, List.mem_cons, List.not_mem_nil, or_false]
    tauto
  | some lease =>
    simp only [hlease, List.mem_append, mem_flag] at h
    simp only [authorityCodes, List.mem_cons, List.not_mem_nil, or_false, Option.mem_some_iff,
      exists_eq_left']
    tauto

lemma mem_receiptReasons (h : reason ∈ receiptReasons context operation) :
    reason = .clockDriftUnverified ∨ reason = .clockDriftLimit ∨
      ∃ receipt ∈ context.clockReceipt, reason ∈ ageReasons receipt.systemTime context.now
        context.maxQuoteAge .clockReceiptStale .clockReceiptTimeInFuture := by
  cases hreceipt : context.clockReceipt with
  | none => cases operation <;> simp_all [receiptReasons]
  | some receipt => cases operation <;> simp_all [receiptReasons] <;> tauto

/-- The reasons that only one operation gives. -/
def operationCodes : List ReasonCode :=
  [.submitCommandInvalid, .executionRiskGateMissing, .executionRiskGateDenied,
    .riskGateQuantityMismatch, .cancelIdInvalid, .cancelRiskGateDenied]

lemma mem_operationReasons (h : reason ∈ operationReasons context subject operation) :
    reason ∈ operationCodes := by
  have hgate : ∀ decision, reason ∈ submitGateReasons decision subject →
      reason ∈ operationCodes := by
    intro decision hmem
    unfold submitGateReasons at hmem
    split at hmem
    · simp_all [operationCodes]
    split at hmem
    · simp_all [operationCodes]
    split at hmem <;> simp_all [operationCodes]
  cases operation with
  | construct => simp [operationReasons] at h
  | submit =>
    rcases List.mem_append.mp h with h | h
    · cases subject <;> simp_all [operationCodes]
    · exact hgate _ h
  | cancel => cases subject <;> simp_all [operationReasons, operationCodes] <;> tauto

end Membership

/-- `authorize`. -/
def authorize (service : ArmService) (context : WriteAuthorizationContext)
    (operation : WriteOperation) (subject : WriteSubject) : Except Failure Unit :=
  if reasons service context operation subject = [] then .ok ⟨⟩
  else .error (.writeCapabilityDenied (reasons service context operation subject).eraseDups)

variable {service : ArmService} {context : WriteAuthorizationContext} {operation : WriteOperation}
  {subject : WriteSubject}

/-- One reason is enough for a denial. -/
lemma authorize_of_mem {reason : ReasonCode}
    (h : reason ∈ reasons service context operation subject) :
    authorize service context operation subject =
      .error (.writeCapabilityDenied (reasons service context operation subject).eraseDups) := by
  unfold authorize
  rw [if_neg (List.ne_nil_of_mem h)]

lemma mem_reasons_of_market {reason : ReasonCode}
    (h : reason ∈ marketReasons context) : reason ∈ reasons service context operation subject := by
  unfold reasons
  simp only [List.mem_append]
  tauto

/-- A submission that is under way is a reason against every write. -/
lemma submittingUnresolved_mem (h : 0 < context.submittingUnresolvedCount) :
    .submittingUnresolved ∈ reasons service context operation subject :=
  mem_reasons_of_market (by simp [marketReasons, h])

/-- An unresolved order is a reason against every write. -/
lemma unresolvedOrderState_mem (h : 0 < context.unresolvedOrderCount) :
    .unresolvedOrderState ∈ reasons service context operation subject :=
  mem_reasons_of_market (by simp [marketReasons, h])

end Authorizer

end FirmQuant
