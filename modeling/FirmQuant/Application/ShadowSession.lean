import FirmQuant.Application.EvidenceRuntime
import FirmQuant.Broker.PaperEconomics
import FirmQuant.Execution.PlanAuthority
import FirmQuant.Foundation.CrashLogic

/-!
# The SHADOW session

The SHADOW branch of `_execute` of `application/production_services.py`, which can be cut between
its durable steps, and the later cycle of the same session that meets what it left.

The identity under which an observation is stored is the session's and the deployment's.  Its
content has the id of the plan, which is a digest of the snapshot and so of the time of its capture.

What a cycle reads of its reconciliation, of the broker and of the clock is data of the cycle.  The
rows that the reconciliation and the snapshots write, and the runtime state in which a blocker
leaves the runtime, are left out.
-/

namespace FirmQuant

open Effect Durable

namespace Evidence

/-! ## The audit ledger -/

/-- A SHADOW or CANARY observation. -/
abbrev SessionObservation := ExecutionObservation ℚ Date DateTime

/-- The content of an observation, which `content_sha256` is the digest of. -/
def contentOf (observation : SessionObservation) : ObservationContent ℚ Date :=
  observation.val.toObservationContent

/-- The identity under which an observation is stored. -/
def identityOf (observation : SessionObservation) : StableIdentity Date :=
  observation.val.identity.val.toStableIdentity

/-- The ids of audit events. -/
inductive EvidenceEventId
  /-- `execution-observation:` and the digest of the identity. -/
  | observation (identity : StableIdentity Date)
  | shadowExecution (decisionId : String) (session : Date)
  | productionExecution (decisionId : String) (session : Date)
  | other (id : String)
  deriving DecidableEq

/-- The payloads of audit events. -/
inductive EvidencePayload
  | observation (observation : SessionObservation)
  | shadowExecution (planId : String) (hypotheticalOrderCount : ℕ) (blockers : List String)
      (content : ObservationContent ℚ Date)
  | productionExecution (reconciliationId : String)
  | other (payloadJson : String)

/-- A row of `audit_events`. -/
structure EvidenceEvent where
  id : EvidenceEventId
  payload : EvidencePayload
  createdAt : DateTime

/-- The durable state. -/
structure SessionRecords where
  /-- `self._close.completed(session)`. -/
  closed : Date → Bool
  /-- `self._decisions.for_session(session)`. -/
  decisions : Date → List DecisionSnapshot
  ledger : Ledger
  events : List EvidenceEvent

namespace SessionRecords

variable (records : SessionRecords)

/-- The event of an id. -/
def find (id : EvidenceEventId) : Option EvidenceEvent := records.events.find? (·.id = id)

/-- `_audited`. -/
def audited (id : EvidenceEventId) : Bool := (records.find id).isSome

/-- `AuditLedger.append` of a new event. -/
def append (event : EvidenceEvent) : SessionRecords :=
  { records with events := records.events ++ [event] }

/-- The SHADOW observation that an event stores of a session. -/
def observationOf (session : Date) (event : EvidenceEvent) : Option SessionObservation :=
  match event.payload with
  | .observation observation =>
    if (identityOf observation).stage = .shadow ∧
        (identityOf observation).executionSession = session then some observation
    else none
  | _ => none

/-- The stored SHADOW observations of a session. -/
def observations (session : Date) : List SessionObservation :=
  records.events.filterMap (observationOf session)

/-- The event is the PRODUCTION_EXECUTION event of a session. -/
def completes (session : Date) (event : EvidenceEvent) : Bool :=
  match event.id with
  | .productionExecution _ day => day = session
  | _ => false

/-- The PRODUCTION_EXECUTION events of a session. -/
def completions (session : Date) : List EvidenceEvent := records.events.filter (completes session)

end SessionRecords

/-! ## The cycle -/

/-- The exceptions of a cycle. -/
inductive CycleError
  /-- `ProductionServicesUnavailable`. -/
  | unavailable (reason : String)
  | planning (error : PlanningError)
  | evidence (error : EvidenceError)
  /-- `EvidenceConflictError`. -/
  | evidenceConflict (message : String)
  /-- What the reconciliation or the capture of a snapshot raises. -/
  | raised (name : String)
  deriving DecidableEq, Repr

/-- The deployment. -/
structure ShadowDeployment where
  env : EvidenceEnvironment
  identity : DeploymentIdentity
  /-- `previous_trading_session`; none outside of the calendar. -/
  previousTradingSession : Date → Option Date

/-- What a cycle reads outside of its records. -/
structure CycleReads where
  /-- `_reconcile`, with the id of its receipt. -/
  reconcile : Except CycleError String
  /-- `_execution_facts`. -/
  executionFacts : Except CycleError ExecutionBrokerSnapshot
  market : MarketReads
  clock : ℕ → DateTime

/-- What a cycle has before its first durable step. -/
structure PreparedCycle where
  reconciliationId : String
  plan : PlanningResult
  observation : SessionObservation

/-- The part of `_execute` and `_shadow_execute` that only reads. -/
def prepareCycle (deployment : ShadowDeployment) (reads : CycleReads) (session : Date)
    (decision : DecisionSnapshot) (ledger : Ledger) : Except CycleError PreparedCycle := do
  let reconciliationId ← reads.reconcile
  let facts ← reads.executionFacts
  refuse (facts.brokerSnapshot.sessionDate ≠ session ∨ facts.marketStatus ≠ .open)
    (.unavailable "EXECUTION_MARKET_FACT_INVALID")
  let plan ← (ExecutionPlanner.plan deployment.env.planDigests decision facts).mapError .planning
  let observation ← (buildShadowObservation deployment.env ledger reads.market facts plan decision
    deployment.identity (reads.clock 0)).mapError .evidence
  return ⟨reconciliationId, plan, observation⟩

/-- `ExecutionEvidenceStore.append`. -/
def storeObservation (observation : SessionObservation) :
    Durable CycleError SessionRecords Unit := do
  let records ← look
  match records.find (.observation (identityOf observation)) with
  | some event =>
    match event.payload with
    | .observation stored =>
      refuse (contentOf stored ≠ contentOf observation)
        (.evidenceConflict "execution observation identity has conflicting content")
    | _ => throw (.evidenceConflict "execution observation identity has conflicting content")
  | none =>
    step fun records => records.append
      ⟨.observation (identityOf observation), .observation observation, observation.val.createdAt⟩

/-- `_audit`. -/
def audit (event : EvidenceEvent) : Durable CycleError SessionRecords Unit := do
  let records ← look
  if records.audited event.id then pure ()
  else step fun records => records.append event

/-- The event of `_shadow_execute`. -/
def shadowEvent (prepared : PreparedCycle) (session : Date) (decisionId : String)
    (createdAt : DateTime) : EvidenceEvent where
  id := .shadowExecution decisionId session
  payload := .shadowExecution prepared.plan.planId prepared.plan.orders.length
    (prepared.plan.blockers.map (·.reason.code)) (contentOf prepared.observation)
  createdAt := createdAt

/-- The event that completes the session. -/
def productionEvent (prepared : PreparedCycle) (session : Date) (decisionId : String)
    (createdAt : DateTime) : EvidenceEvent where
  id := .productionExecution decisionId session
  payload := .productionExecution prepared.reconciliationId
  createdAt := createdAt

/-- The durable steps of the SHADOW branch. -/
def recordCycle (prepared : PreparedCycle) (session : Date) (decisionId : String)
    (clock : ℕ → DateTime) : Durable CycleError SessionRecords ℕ := do
  storeObservation prepared.observation
  audit (shadowEvent prepared session decisionId (clock 1))
  audit (productionEvent prepared session decisionId (clock 2))
  return 1

/-- `_execute` of a frozen decision in SHADOW mode. -/
def executeDecision (deployment : ShadowDeployment) (reads : CycleReads) (session : Date)
    (decision : DecisionSnapshot) : Durable CycleError SessionRecords ℕ := do
  let records ← look
  if records.audited (.productionExecution decision.decisionId session) then return 0
  else do
    let prepared ← check fun records =>
      prepareCycle deployment reads session decision records.ledger
    recordCycle prepared session decision.decisionId reads.clock

/-- The decision that a session executes. -/
def frozenDecision (deployment : ShadowDeployment) (session : Date) (records : SessionRecords) :
    Except CycleError DecisionSnapshot :=
  match deployment.previousTradingSession session with
  | none => .error (.unavailable "CALENDAR_COVERAGE_DECISION_BLOCKER")
  | some strategySession =>
    if records.closed strategySession = false then .error (.unavailable "MISSING_DECISION")
    else match records.decisions strategySession with
      | [] => .error (.unavailable "MISSING_DECISION")
      | [decision] => .ok decision
      | _ => .error (.unavailable "MULTIPLE_FROZEN_DECISIONS")

/-- `_execute` in SHADOW mode. -/
def execute (deployment : ShadowDeployment) (reads : CycleReads) (session : Date) :
    Durable CycleError SessionRecords ℕ := do
  let decision ← check (frozenDecision deployment session)
  executeDecision deployment reads session decision

/-! ## Records with one more event -/

section Appended

variable {records : SessionRecords} {event : EvidenceEvent} {session : Date} {id : EvidenceEventId}

open SessionRecords

lemma observations_append : (records.append event).observations session =
    records.observations session ++ (observationOf session event).toList := by
  unfold observations append
  rw [List.filterMap_append]
  congr 1

lemma completions_append : (records.append event).completions session =
    records.completions session ++ if completes session event then [event] else [] := by
  unfold completions append
  rw [List.filter_append, List.filter_singleton]
  cases completes session event <;> rfl

lemma find_append : (records.append event).find id =
    (records.find id).or (if event.id = id then some event else none) := by
  unfold find append
  rw [List.find?_append, List.find?_singleton]
  simp only [decide_eq_true_eq]

lemma audited_append : (records.append event).audited id =
    (records.audited id || decide (event.id = id)) := by
  unfold audited
  rw [find_append]
  by_cases h : event.id = id
  · simp [h]
  · simp [h]

lemma completions_ne_nil {decisionId : String}
    (h : records.audited (.productionExecution decisionId session) = true) :
    records.completions session ≠ [] := by
  obtain ⟨event, hfind⟩ := Option.isSome_iff_exists.mp h
  have hid : event.id = .productionExecution decisionId session := by
    simpa using List.find?_some hfind
  have hcompletes : completes session event = true := by
    unfold completes
    rw [hid]
    exact decide_eq_true rfl
  exact List.ne_nil_of_mem (List.mem_filter.mpr ⟨List.mem_of_find?_eq_some hfind, hcompletes⟩)

end Appended

/-! ## What a cycle prepares -/

/-- The identity of the observation of a session. -/
def sessionIdentity (deployment : ShadowDeployment) (session : Date) (account : String) :
    StableIdentity Date where
  stage := .shadow
  executionSession := session
  firmquantCommit := deployment.identity.firmquantCommit
  uquantCommit := deployment.identity.uquantCommit
  promotionConfigSha256 := deployment.identity.promotionConfigSha256
  accountSha256 := account

section Preparation

variable {deployment : ShadowDeployment} {decision : DecisionSnapshot}

variable {prepared : PreparedCycle} {facts : ExecutionBrokerSnapshot} {plan : PlanningResult}

/-- A cycle of a session that is not completed goes on to its durable steps. -/
lemma execute_eq_recordCycle {reads : CycleReads} {session : Date} {records : SessionRecords}
    (hdecided : frozenDecision deployment session records = .ok decision)
    (haudited : records.audited (.productionExecution decision.decisionId session) = false)
    (hprepared : prepareCycle deployment reads session decision records.ledger = .ok prepared) :
    execute deployment reads session ⟨records, []⟩ =
      recordCycle prepared session decision.decisionId reads.clock ⟨records, []⟩ := by
  have hdecision : execute deployment reads session ⟨records, []⟩ =
      executeDecision deployment reads session decision ⟨records, []⟩ := by
    simp only [execute, bind, EStateM.bind, check, hdecided]
  have hgo : executeDecision deployment reads session decision ⟨records, []⟩ =
      recordCycle prepared session decision.decisionId reads.clock ⟨records, []⟩ := by
    have hlook : (look : Durable CycleError SessionRecords SessionRecords) ⟨records, []⟩ =
        .ok records ⟨records, []⟩ := rfl
    simp only [executeDecision, check, bind, EStateM.bind, hlook, haudited, hprepared,
      Bool.false_eq_true, if_false]
  rw [hdecision, hgo]

lemma mapError_eq_ok {α ε ε' : Type} {x : Except ε α} {f : ε → ε'} {a : α} :
    x.mapError f = .ok a ↔ x = .ok a := by
  cases x with
  | ok b => exact Iff.of_eq (by simp only [Except.mapError, Except.ok.injEq])
  | error e => exact iff_of_false (by simp [Except.mapError]) (by simp)

lemma observed_eq_ok {α : Type} {x : Except String α} {a : α} : observed x = .ok a ↔ x = .ok a := by
  cases x with
  | ok b => exact Iff.of_eq (by simp only [observed, Except.ok.injEq])
  | error e => exact iff_of_false (by simp [observed]) (by simp)

/-- A SHADOW observation is stored under the identity of its session. -/
lemma identity_of_build {env : EvidenceEnvironment} {ledger : Ledger} {reads : MarketReads}
    {deployment : DeploymentIdentity} {createdAt : DateTime} {observation : SessionObservation}
    (h : buildShadowObservation env ledger reads facts plan decision deployment createdAt =
      .ok observation) :
    identityOf observation = ⟨.shadow, plan.executionSession, deployment.firmquantCommit,
      deployment.uquantCommit, deployment.promotionConfigSha256,
      facts.brokerSnapshot.account.accountIdHash⟩ := by
  iterate 8 obtain ⟨_, -, h⟩ := bind_ok_iff.mp h
  obtain ⟨identity, hidentity, h⟩ := bind_ok_iff.mp h
  obtain ⟨_, -, h⟩ := bind_ok_iff.mp h
  have hfields := Checked.create_eq_ok.mp (observed_eq_ok.mp hidentity)
  have hobservation := Checked.create_eq_ok.mp (observed_eq_ok.mp h)
  unfold identityOf
  rw [hobservation, hfields]

lemma executionSession_of_plan {digests : PlanDigests}
    (h : ExecutionPlanner.plan digests decision facts = .ok plan) :
    plan.executionSession = facts.brokerSnapshot.sessionDate := by
  obtain ⟨_, -, h⟩ := bind_ok_iff.mp h
  obtain ⟨_, -, h⟩ := bind_ok_iff.mp h
  obtain ⟨⟨_, _⟩, -, h⟩ := bind_ok_iff.mp h
  obtain ⟨_, -, h⟩ := bind_ok_iff.mp h
  cases h
  rfl

/-- What a cycle prepares is of the session, and of the account that it read. -/
lemma identity_of_prepareCycle {reads : CycleReads} {session : Date} {ledger : Ledger}
    (h : prepareCycle deployment reads session decision ledger = .ok prepared) :
    ∃ facts, reads.executionFacts = .ok facts ∧ identityOf prepared.observation =
      sessionIdentity deployment session facts.brokerSnapshot.account.accountIdHash := by
  obtain ⟨_, -, h⟩ := bind_ok_iff.mp h
  obtain ⟨facts, hfacts, h⟩ := bind_ok_iff.mp h
  obtain ⟨⟨⟩, hmarket, h⟩ := bind_ok_iff.mp h
  obtain ⟨plan, hplan, h⟩ := bind_ok_iff.mp h
  obtain ⟨observation, hobservation, h⟩ := bind_ok_iff.mp h
  cases h
  have hday := refuse_eq_ok.mp hmarket
  push Not at hday
  refine ⟨facts, hfacts, ?_⟩
  rw [identity_of_build (mapError_eq_ok.mp hobservation),
    executionSession_of_plan (mapError_eq_ok.mp hplan), hday.1]
  rfl

end Preparation

/-! ## The session between its cycles -/

/-- An event stores an observation exactly under the id of its identity. -/
def StoresUnderIdentity (event : EvidenceEvent) : Prop :=
  ∀ identity, event.id = .observation identity ↔
    ∃ observation, event.payload = .observation observation ∧ identityOf observation = identity

/-- A session whose cycles were interrupted: there is at most one observation, of one account, and
the session is completed only with it. -/
structure Interrupted (deployment : ShadowDeployment) (session : Date) (account : String)
    (decision : DecisionSnapshot) (records : SessionRecords) : Prop where
  decided : frozenDecision deployment session records = .ok decision
  stored : ∀ event ∈ records.events, StoresUnderIdentity event
  atMostOne : (records.observations session).length ≤ 1
  identity : ∀ observation ∈ records.observations session,
    identityOf observation = sessionIdentity deployment session account
  completed : records.completions session ≠ [] → (records.observations session).length = 1 ∧
    (records.completions session).length = 1 ∧
      records.audited (.productionExecution decision.decisionId session) = true

section Cycles

variable {deployment : ShadowDeployment} {session : Date} {account : String}
  {decision : DecisionSnapshot} {records : SessionRecords} {prepared : PreparedCycle}

open SessionRecords

variable {observation : SessionObservation}

/-- A stored observation of the session is an event of the ledger. -/
lemma mem_observations :
    observation ∈ records.observations session ↔ ∃ event ∈ records.events,
      event.payload = .observation observation ∧ (identityOf observation).stage = .shadow ∧
        (identityOf observation).executionSession = session := by
  unfold observations
  rw [List.mem_filterMap]
  refine exists_congr fun event => and_congr_right fun _ => ?_
  unfold observationOf
  cases event.payload with
  | observation found =>
    simp only [EvidencePayload.observation.injEq]
    by_cases hof : (identityOf found).stage = .shadow ∧
        (identityOf found).executionSession = session
    · rw [if_pos hof]
      constructor
      · intro h
        cases h
        exact ⟨rfl, hof⟩
      · rintro ⟨rfl, -⟩
        rfl
    · rw [if_neg hof]
      constructor
      · intro h
        cases h
      · rintro ⟨rfl, h⟩
        exact absurd h hof
  | shadowExecution => simp
  | productionExecution => simp
  | other => simp

lemma exists_find_observation (hstored : ∀ event ∈ records.events, StoresUnderIdentity event)
    (h : observation ∈ records.observations session) :
    ∃ event, records.find (.observation (identityOf observation)) = some event := by
  obtain ⟨event, hmem, hpayload, -⟩ := mem_observations.mp h
  have hid : event.id = .observation (identityOf observation) :=
    (hstored event hmem _).mpr ⟨observation, hpayload, rfl⟩
  refine Option.isSome_iff_exists.mp (List.find?_isSome.mpr ⟨event, hmem, ?_⟩)
  exact decide_eq_true hid

/-- The session has its observation and is not completed. -/
structure Observed (deployment : ShadowDeployment) (session : Date) (account : String)
    (decision : DecisionSnapshot) (records : SessionRecords) : Prop
    extends Interrupted deployment session account decision records where
  one : (records.observations session).length = 1
  incomplete : records.completions session = []

variable (h : Interrupted deployment session account decision records)

include h

variable {event : EvidenceEvent}

/-- The first durable step: the observation of a session that has none. -/
lemma Interrupted.observe
    (hnone : records.find (.observation (sessionIdentity deployment session account)) = none)
    (hincomplete : records.completions session = [])
    (hidentity : identityOf observation = sessionIdentity deployment session account)
    (hid : event.id = .observation (identityOf observation))
    (hpayload : event.payload = .observation observation) :
    Observed deployment session account decision (records.append event) := by
  have hempty : records.observations session = [] := by
    rw [List.eq_nil_iff_forall_not_mem]
    intro stored hmem
    obtain ⟨event, hevent⟩ := exists_find_observation h.stored hmem
    rw [h.identity stored hmem, hnone] at hevent
    cases hevent
  have hof : observationOf session event = some observation := by
    unfold observationOf
    rw [hpayload]
    simp only
    rw [hidentity]
    exact if_pos ⟨rfl, rfl⟩
  have hobservations : (records.append event).observations session = [observation] := by
    rw [observations_append, hof, hempty]
    rfl
  have hcompletions : (records.append event).completions session = [] := by
    rw [completions_append, hincomplete]
    unfold completes
    rw [hid]
    rfl
  exact {
    decided := h.decided
    stored := by
      intro event' hevent
      rcases List.mem_snoc.mp hevent with hold | hnew
      · exact h.stored event' hold
      · rw [hnew]
        intro identity
        rw [hid, hpayload]
        constructor
        · rintro ⟨⟩
          exact ⟨observation, rfl, rfl⟩
        · rintro ⟨_, ⟨⟩, rfl⟩
          rfl
    atMostOne := by rw [hobservations]; exact le_refl 1
    identity := by
      rw [hobservations]
      intro stored hmem
      rw [List.mem_singleton.mp hmem, hidentity]
    completed := fun hne => absurd hcompletions hne
    one := by rw [hobservations]; rfl
    incomplete := hcompletions }

/-- A session that is not completed has no completion. -/
lemma Interrupted.incomplete_of_not_audited
    (haudited : records.audited (.productionExecution decision.decisionId session) = false) :
    records.completions session = [] := by
  by_contra hne
  have haudited' := (h.completed hne).2.2
  rw [haudited] at haudited'
  cases haudited'

omit h

lemma not_audited (hincomplete : records.completions session = []) {decisionId : String} :
    records.audited (.productionExecution decisionId session) = false :=
  Bool.eq_false_iff.mpr fun haudited => completions_ne_nil haudited hincomplete

/-- The later events leave the observation. -/
lemma Observed.append (h : Observed deployment session account decision records)
    (hid : ∀ identity, event.id ≠ .observation identity)
    (hpayload : ∀ observation, event.payload ≠ .observation observation)
    (hcompleted : (records.append event).completions session ≠ [] →
      ((records.append event).completions session).length = 1 ∧
        (records.append event).audited (.productionExecution decision.decisionId session) = true) :
    Interrupted deployment session account decision (records.append event) ∧
      ((records.append event).observations session).length = 1 := by
  have hobservations : (records.append event).observations session =
      records.observations session := by
    have hnone : observationOf session event = none := by
      unfold observationOf
      split
      next observation hobservation => exact absurd hobservation (hpayload observation)
      next => rfl
    rw [observations_append, hnone]
    exact List.append_nil _
  have hone := hobservations ▸ h.one
  refine ⟨?_, hone⟩
  exact {
    decided := h.decided
    stored := by
      intro e he
      rcases List.mem_snoc.mp he with hold | hnew
      · exact h.stored e hold
      · rw [hnew]
        intro identity
        exact iff_of_false (hid identity) fun ⟨observation, hstores, _⟩ =>
          hpayload observation hstores
    atMostOne := hone.le
    identity := hobservations ▸ h.identity
    completed := fun hne => ⟨hone, hcompleted hne⟩ }

lemma Observed.shadow (h : Observed deployment session account decision records)
    (prepared : PreparedCycle) (createdAt : DateTime) :
    Observed deployment session account decision
      (records.append (shadowEvent prepared session decision.decisionId createdAt)) := by
  have hcompletions : (records.append (shadowEvent prepared session decision.decisionId
      createdAt)).completions session = [] := by
    rw [completions_append, h.incomplete]
    rfl
  obtain ⟨hinterrupted, hone⟩ := h.append (fun _ h => by cases h) (fun _ h => by cases h)
    fun hne => absurd hcompletions hne
  exact { hinterrupted with
    one := hone
    incomplete := hcompletions }

lemma Observed.production (h : Observed deployment session account decision records)
    (prepared : PreparedCycle) (createdAt : DateTime) :
    Interrupted deployment session account decision
        (records.append (productionEvent prepared session decision.decisionId createdAt)) ∧
      ((records.append (productionEvent prepared session decision.decisionId
          createdAt)).observations session).length = 1 ∧
        ((records.append (productionEvent prepared session decision.decisionId
          createdAt)).completions session).length = 1 := by
  have hcompleted : ((records.append (productionEvent prepared session decision.decisionId
      createdAt)).completions session).length = 1 := by
    rw [completions_append, h.incomplete]
    exact congrArg List.length (if_pos (decide_eq_true rfl))
  have haudited : (records.append (productionEvent prepared session decision.decisionId
      createdAt)).audited (.productionExecution decision.decisionId session) = true := by
    rw [audited_append]
    exact Bool.or_eq_true _ _ |>.mpr (.inr (decide_eq_true rfl))
  obtain ⟨hinterrupted, hone⟩ := h.append (fun _ h => by cases h) (fun _ h => by cases h)
    fun _ => ⟨hcompleted, haudited⟩
  exact ⟨hinterrupted, hone, hcompleted⟩

end Cycles

/-! ## Interrupted cycles -/

section Runs

variable {deployment : ShadowDeployment} {session : Date} {account : String}
  {decision : DecisionSnapshot} {records : SessionRecords} {prepared : PreparedCycle}
  {reads : CycleReads} {C P : SessionRecords → Prop}

open SessionRecords

variable {E : CycleError → Trail SessionRecords → Prop}

variable {Q : SessionRecords → Prop}

/-- An event that is not there yet is appended; else nothing is done. -/
lemma exits_audit {event : EvidenceEvent} (hC : ∀ r, P r → C r)
    (hold : ∀ r, P r → r.audited event.id = true → Q r)
    (hnew : ∀ r, P r → r.audited event.id = false → Q (r.append event)) :
    Exits (Through C P) (audit event) (fun _ => Through C Q) E := by
  refine exits_look fun r hr => ?_
  cases haudited : r.audited event.id with
  | true =>
    rw [if_pos rfl]
    refine exits_pure fun t ht => ht.imp fun u hu => ?_
    rw [hu]
    exact hold r hr haudited
  | false =>
    rw [if_neg Bool.false_ne_true]
    refine exits_step (fun u hu => ?_) fun u hu => ?_
    · rw [hu]
      exact hC r hr
    · rw [hu]
      exact hnew r hr haudited

/-- The observation is stored, or found with the same content, or in conflict. -/
lemma exits_storeObservation {observation : SessionObservation}
    (hC : ∀ r, P r → C r) (hstored : ∀ r, P r → ∀ event ∈ r.events, StoresUnderIdentity event)
    (hold : ∀ r, P r → ∀ found ∈ r.events, ∀ stored, found.payload = .observation stored →
      identityOf stored = identityOf observation → contentOf stored = contentOf observation → Q r)
    (hnew : ∀ r, P r → r.find (.observation (identityOf observation)) = none →
      Q (r.append ⟨.observation (identityOf observation), .observation observation,
        observation.val.createdAt⟩))
    (hconflict : ∀ r, P r → ∀ found ∈ r.events, ∀ stored, found.payload = .observation stored →
      identityOf stored = identityOf observation → contentOf stored ≠ contentOf observation →
        ∀ e t, Through C (fun u => u = r) t → E e t) :
    Exits (Through C P) (storeObservation observation) (fun _ => Through C Q) E := by
  refine exits_look fun r hr => ?_
  cases hfind : r.find (.observation (identityOf observation)) with
  | none =>
    refine exits_step (fun u hu => ?_) fun u hu => ?_
    · rw [hu]
      exact hC r hr
    · rw [hu]
      exact hnew r hr hfind
  | some event =>
    have hmem := List.mem_of_find?_eq_some hfind
    have hid : event.id = .observation (identityOf observation) := by
      simpa using List.find?_some hfind
    obtain ⟨stored, hpayload, hidentity⟩ := (hstored r hr event hmem _).mp hid
    simp only [hpayload]
    by_cases hsame : contentOf stored = contentOf observation
    · unfold refuse
      rw [if_neg (not_not.mpr hsame)]
      refine exits_pure fun t ht => ht.imp fun u hu => ?_
      rw [hu]
      exact hold r hr event hmem stored hpayload hidentity hsame
    · unfold refuse
      rw [if_pos hsame]
      exact exits_throw fun t ht => hconflict r hr event hmem stored hpayload hidentity hsame _ t ht

/-- The durable steps of a cycle leave an interrupted session wherever they are cut, and a completed
one where they return.  They raise only beside an observation of another content. -/
lemma exits_recordCycle
    (hidentity : identityOf prepared.observation = sessionIdentity deployment session account)
    (h : Interrupted deployment session account decision records)
    (hincomplete : records.completions session = [])
    (hconflict : (∃ stored ∈ records.observations session,
      contentOf stored ≠ contentOf prepared.observation) →
        ∀ e t, Through (Interrupted deployment session account decision) (fun u => u = records) t →
          E e t) :
    Exits (Through (Interrupted deployment session account decision) fun u => u = records)
      (recordCycle prepared session decision.decisionId reads.clock)
      (fun _ => Through (Interrupted deployment session account decision) fun r =>
        Interrupted deployment session account decision r ∧
          (r.observations session).length = 1 ∧ (r.completions session).length = 1) E := by
  have hmem : ∀ found ∈ records.events, ∀ stored, found.payload = .observation stored →
      identityOf stored = identityOf prepared.observation →
        stored ∈ records.observations session := by
    intro found hfound stored hpayload hsame
    refine mem_observations.mpr ⟨found, hfound, hpayload, ?_⟩
    rw [hsame, hidentity]
    exact ⟨rfl, rfl⟩
  unfold recordCycle
  refine exits_bind (exits_storeObservation (Q := Observed deployment session account decision)
    (fun r hr => hr ▸ h) (fun r hr => hr ▸ h.stored) ?_ ?_ ?_) fun _ => ?_
  · rintro r rfl found hfound stored hpayload hsame -
    have hpos : 0 < (r.observations session).length :=
      List.length_pos_of_mem (hmem found hfound stored hpayload hsame)
    exact ⟨h, le_antisymm h.atMostOne hpos, hincomplete⟩
  · rintro r rfl hfind
    rw [hidentity] at hfind
    exact h.observe hfind hincomplete hidentity rfl rfl
  · rintro r rfl found hfound stored hpayload hsame hne e t ht
    exact hconflict ⟨stored, hmem found hfound stored hpayload hsame, hne⟩ e t ht
  refine exits_bind (exits_audit (fun r hr => hr.toInterrupted) (fun r hr _ => hr)
    fun r hr _ => hr.shadow prepared _) fun _ => ?_
  refine exits_bind (exits_audit (fun r hr => hr.toInterrupted) (fun r hr haudited => ?_)
    fun r hr _ => hr.production prepared _) fun _ => exits_pure fun t ht => ht
  exact absurd hr.incomplete (completions_ne_nil haudited)

/-- The session has this observation and one with the content of the other. -/
def HasBoth (session : Date) (stored observed : SessionObservation) (records : SessionRecords) :
    Prop :=
  stored ∈ records.observations session ∧ ∃ observation ∈ records.observations session,
    contentOf observation = contentOf observed

/-- Two observations of different content are both in a session whose cycle returns. -/
lemma exits_recordCycle_keeps {stored : SessionObservation}
    (hidentity : identityOf prepared.observation = sessionIdentity deployment session account) :
    Exits (Through (fun _ => True) fun r => (∀ event ∈ r.events, StoresUnderIdentity event) ∧
        stored ∈ r.observations session)
      (recordCycle prepared session decision.decisionId reads.clock)
      (fun _ => Through (fun _ => True) (HasBoth session stored prepared.observation))
      fun _ _ => True := by
  have hkeeps : ∀ (r : SessionRecords) (event : EvidenceEvent) (observation : SessionObservation),
      observation ∈ r.observations session →
        observation ∈ (r.append event).observations session := by
    intro r event observation hmem
    rw [observations_append]
    exact List.mem_append_left _ hmem
  have haudit : ∀ event,
      Exits (Through (fun _ => True) (HasBoth session stored prepared.observation)) (audit event)
        (fun _ => Through (fun _ => True) (HasBoth session stored prepared.observation))
        fun _ _ => True := by
    intro event
    refine exits_audit (fun _ _ => trivial) (fun _ hr _ => hr) fun r hr _ => ?_
    obtain ⟨hmem, observation, hobservation, hcontent⟩ := hr
    exact ⟨hkeeps r event stored hmem, observation, hkeeps r event observation hobservation,
      hcontent⟩
  unfold recordCycle
  refine exits_bind (exits_storeObservation (Q := HasBoth session stored prepared.observation)
    (fun _ _ => trivial) (fun r hr => hr.1) ?_ ?_ ?_) fun _ =>
      exits_bind (haudit _) fun _ => exits_bind (haudit _) fun _ => exits_pure fun _ ht => ht
  · intro r hr found hfound observation hpayload hsame hcontent
    refine ⟨hr.2, observation, mem_observations.mpr ⟨found, hfound, hpayload, ?_⟩, hcontent⟩
    rw [hsame, hidentity]
    exact ⟨rfl, rfl⟩
  · intro r hr _
    refine ⟨hkeeps r _ stored hr.2, prepared.observation, ?_, rfl⟩
    refine mem_observations.mpr ⟨_, List.mem_append_right _ List.mem_cons_self, rfl, ?_⟩
    rw [hidentity]
    exact ⟨rfl, rfl⟩
  · intros
    trivial

/-- The account that a cycle reads. -/
def ReadsAccount (reads : CycleReads) (account : String) : Prop :=
  ∀ facts, reads.executionFacts = .ok facts → facts.brokerSnapshot.account.accountIdHash = account

/-- A cycle of a completed session returns at once. -/
lemma exits_execute_of_audited
    (hdecided : frozenDecision deployment session records = .ok decision)
    (haudited : records.audited (.productionExecution decision.decisionId session) = true) :
    Exits (Through C fun u => u = records) (execute deployment reads session)
      (fun _ => Through C fun u => u = records) E := by
  refine exits_check_ok (a := decision) (fun u hu => hu ▸ hdecided) ?_
  refine exits_look fun u hu => ?_
  subst hu
  rw [if_pos haudited]
  exact exits_pure fun t ht => ht

variable {Q : ℕ → Trail SessionRecords → Prop}

/-- Another cycle does what its preparation and its durable steps do. -/
lemma exits_execute_of_unaudited
    (hdecided : frozenDecision deployment session records = .ok decision)
    (haudited : records.audited (.productionExecution decision.decisionId session) = false)
    (h : Exits (Through C fun u => u = records) (do
      let prepared ← check fun u => prepareCycle deployment reads session decision u.ledger
      recordCycle prepared session decision.decisionId reads.clock) Q E) :
    Exits (Through C fun u => u = records) (execute deployment reads session) Q E := by
  refine exits_check_ok (a := decision) (fun u hu => hu ▸ hdecided) ?_
  refine exits_look fun u hu => ?_
  subst hu
  rw [if_neg (by rw [haudited]; exact Bool.false_ne_true)]
  exact h

/-- A cycle that has no observation raises before its first durable step. -/
lemma exits_execute_of_error {error : CycleError}
    (hdecided : frozenDecision deployment session records = .ok decision)
    (haudited : records.audited (.productionExecution decision.decisionId session) = false)
    (herror : prepareCycle deployment reads session decision records.ledger = .error error) :
    Exits (Through C fun u => u = records) (execute deployment reads session) Q
      fun _ => Through C fun u => u = records := by
  refine exits_execute_of_unaudited hdecided haudited
    (exits_bind (Q := fun _ _ => False) ?_ fun _ _ hfalse => hfalse.elim)
  refine exits_check (fun t prepared ht hprepared => ?_) fun t e ht _ => ht
  rw [ht.1, herror] at hprepared
  cases hprepared

lemma exits_execute (h : Interrupted deployment session account decision records)
    (hreads : ReadsAccount reads account) :
    Exits (Through (Interrupted deployment session account decision) fun u => u = records)
      (execute deployment reads session)
      (fun _ => Through (Interrupted deployment session account decision)
        (Interrupted deployment session account decision))
      fun _ => Through (Interrupted deployment session account decision)
        (Interrupted deployment session account decision) := by
  have hself : ∀ t, Through (Interrupted deployment session account decision)
      (fun u => u = records) t → Through (Interrupted deployment session account decision)
        (Interrupted deployment session account decision) t :=
    fun t ht => ht.imp fun u hu => hu ▸ h
  cases haudited : records.audited (.productionExecution decision.decisionId session) with
  | true =>
    exact exits_post (exits_execute_of_audited h.decided haudited)
      (fun _ t ht => hself t ht)
  | false =>
    cases hprepare : prepareCycle deployment reads session decision records.ledger with
    | error e =>
      exact exits_error (exits_execute_of_error (Q := fun _ => Through
        (Interrupted deployment session account decision)
        (Interrupted deployment session account decision)) h.decided haudited hprepare)
        fun _ t ht => hself t ht
    | ok prepared =>
      obtain ⟨facts, hfacts, hidentity⟩ := identity_of_prepareCycle hprepare
      rw [hreads facts hfacts] at hidentity
      refine exits_execute_of_unaudited h.decided haudited
        (exits_check_ok (fun v hv => hv ▸ hprepare) ?_)
      exact exits_post (exits_recordCycle hidentity h (h.incomplete_of_not_audited haudited)
        fun _ _ t ht => hself t ht) (fun _ t ht => ht.imp fun _ hu => hu.1)

end Runs

/-! ## The session that is executed again -/

/-- The session before its first cycle: it has a decision, and nothing is recorded of it. -/
structure Unrecorded (deployment : ShadowDeployment) (session : Date) (records : SessionRecords) :
    Prop where
  decided : ∃ decision, frozenDecision deployment session records = .ok decision
  stored : ∀ event ∈ records.events, StoresUnderIdentity event
  noObservation : records.observations session = []
  noCompletion : records.completions session = []

/-- Cycles of one account that were cut, one after the other. -/
inductive Cut (deployment : ShadowDeployment) (session : Date) (account : String)
    (start : SessionRecords) : SessionRecords → Prop
  | start : Cut deployment session account start start
  | cycle {records records' : SessionRecords} {reads : CycleReads} :
    Cut deployment session account start records → ReadsAccount reads account →
      records' ∈ crashStates (execute deployment reads session) records →
        Cut deployment session account start records'

/-- A cycle returns, with one observation of the session and one completion. -/
def Reexecuted (deployment : ShadowDeployment) (reads : CycleReads) (session : Date)
    (records : SessionRecords) : Prop :=
  ∃ count records', Returns (execute deployment reads session) records count records' ∧
    (records'.observations session).length = 1 ∧ (records'.completions session).length = 1

/-- The session is completed, or the cycle has an observation of its own and what is stored of the
session, if anything, has the same content. -/
def Repeatable (deployment : ShadowDeployment) (reads : CycleReads) (session : Date)
    (records : SessionRecords) : Prop :=
  records.completions session ≠ [] ∨ ∃ decision prepared,
    frozenDecision deployment session records = .ok decision ∧
      prepareCycle deployment reads session decision records.ledger = .ok prepared ∧
        ∀ stored ∈ records.observations session,
          contentOf stored = contentOf prepared.observation

lemma Cut.interrupted {deployment : ShadowDeployment} {session : Date} {account : String}
    {start records : SessionRecords} (h : Cut deployment session account start records)
    (hstart : Unrecorded deployment session start) :
    ∃ decision, Interrupted deployment session account decision records := by
  induction h with
  | start =>
    obtain ⟨decision, hdecision⟩ := hstart.decided
    exact ⟨decision, {
      decided := hdecision
      stored := hstart.stored
      atMostOne := by rw [hstart.noObservation]; exact Nat.zero_le 1
      identity := by
        rw [hstart.noObservation]
        exact fun _ hmem => absurd hmem List.not_mem_nil
      completed := fun hne => absurd hstart.noCompletion hne }⟩
  | cycle _ hreads hcut ih =>
    obtain ⟨decision, h⟩ := ih
    exact ⟨decision, mem_crashStates (exits_execute h hreads) rfl (fun _ _ hq => hq)
      (fun _ _ he => he) hcut⟩

section Again

variable {deployment : ShadowDeployment} {session : Date} {account : String}
  {decision : DecisionSnapshot} {records : SessionRecords} {reads : CycleReads}

/-- A cycle that returns with one observation has observed what was stored. -/
lemma Interrupted.repeatable (h : Interrupted deployment session account decision records)
    (hreexecuted : Reexecuted deployment reads session records) :
    Repeatable deployment reads session records := by
  obtain ⟨count, records', hreturns, hobservations, -⟩ := hreexecuted
  by_cases hincomplete : records.completions session = []
  · have haudited := @not_audited _ _ hincomplete decision.decisionId
    refine .inr ?_
    cases hprepare : prepareCycle deployment reads session decision records.ledger with
    | error e =>
      exact absurd hreturns (not_returns (exits_execute_of_error (C := fun _ => True)
        (Q := fun _ _ => False) h.decided haudited hprepare) rfl)
    | ok prepared =>
      refine ⟨decision, prepared, h.decided, hprepare, fun stored hstored => ?_⟩
      obtain ⟨facts, -, hidentity⟩ := identity_of_prepareCycle hprepare
      have hkeeps : Exits (Through (fun _ => True) fun u => u = records)
          (execute deployment reads session) (fun _ => Through (fun _ => True)
            (HasBoth session stored prepared.observation)) fun _ _ => True := by
        refine exits_execute_of_unaudited h.decided haudited
          (exits_check_ok (fun v hv => hv ▸ hprepare) ?_)
        refine exits_pre (exits_recordCycle_keeps hidentity) (fun t ht => ht.imp fun u hu => ?_)
        rw [hu]
        exact ⟨h.stored, hstored⟩
      obtain ⟨hkept, observation, hobservation, hcontent⟩ := hreturns.of_exits hkeeps rfl
      obtain ⟨only, honly⟩ := List.length_eq_one_iff.mp hobservations
      rw [honly, List.mem_singleton] at hkept hobservation
      rw [hkept, ← hobservation, hcontent]
  · exact .inl hincomplete

/-- A cycle that observes what was stored returns, and so does one of a completed session. -/
lemma Interrupted.reexecuted (h : Interrupted deployment session account decision records)
    (hrepeatable : Repeatable deployment reads session records) :
    Reexecuted deployment reads session records := by
  by_cases hincomplete : records.completions session = []
  · obtain ⟨decision', prepared, hdecided, hprepare, hcontent⟩ :=
      hrepeatable.resolve_left (not_not.mpr hincomplete)
    obtain rfl : decision = decision' := Except.ok.inj (h.decided.symm.trans hdecided)
    have haudited := @not_audited _ _ hincomplete decision.decisionId
    obtain ⟨facts, -, hidentity⟩ := identity_of_prepareCycle hprepare
    -- What is stored has the account of this cycle, since it has the content.
    have hsame : Interrupted deployment session facts.brokerSnapshot.account.accountIdHash decision
        records := by
      refine { h with identity := fun stored hstored => ?_ }
      have hfields := congrArg (fun content => content.identity.val.toStableIdentity)
        (hcontent stored hstored)
      exact hfields.trans hidentity
    have hrecord : Exits _ (recordCycle prepared session decision.decisionId reads.clock) _
        fun _ _ => False := exits_recordCycle hidentity hsame hincomplete
      fun ⟨stored, hstored, hne⟩ => absurd (hcontent stored hstored) hne
    have hruns := exits_execute_of_unaudited hdecided haudited
      (exits_check_ok (fun v hv => hv ▸ hprepare) hrecord)
    obtain ⟨count, records', hreturns, -, hcounts⟩ := exists_returns hruns rfl
    exact ⟨count, records', hreturns, hcounts⟩
  · obtain ⟨hone, hcompleted, haudited⟩ := h.completed hincomplete
    have hruns : Exits (Through (fun _ => True) fun u => u = records)
        (execute deployment reads session) (fun _ => Through (fun _ => True) fun u => u = records)
          fun _ _ => False := exits_execute_of_audited h.decided haudited
    obtain ⟨count, records', hreturns, rfl⟩ := exists_returns hruns rfl
    exact ⟨count, records', hreturns, hone, hcompleted⟩

end Again

/-- A later cycle of a session that was cut completes it, exactly if the session is completed
already or what is stored of it is what the cycle observes again. -/
theorem reexecuted_iff {deployment : ShadowDeployment} {session : Date} {account : String}
    {start records : SessionRecords} (hstart : Unrecorded deployment session start)
    (hcut : Cut deployment session account start records) (reads : CycleReads) :
    Reexecuted deployment reads session records ↔
      Repeatable deployment reads session records := by
  obtain ⟨decision, h⟩ := hcut.interrupted hstart
  exact ⟨h.repeatable, h.reexecuted⟩

/-! ## A session of an account of cash -/

namespace ShadowSample

/-- A deployment in which the id of a plan depends on the time of the snapshot. -/
noncomputable def deployment : ShadowDeployment where
  env := {
    floatDecimal _ := none
    textDecimal _ := none
    executionDigest _ _ := "execution"
    paperDigests := PaperBroker.Sample.digests
    planDigests := {
      brokerSnapshot facts := if facts.brokerSnapshot.capturedAt = 0 then "early" else "late"
      plan _ snapshot _ _ := snapshot }
    policy := PaperBroker.Sample.policy }
  identity := ⟨hexText 40, hexText 40, hexText 64, hexText 64⟩
  previousTradingSession day := some (day - 1)

/-- A decision to hold nothing. -/
def payload : Json := .obj [("pending_orders", .arr []),
  ("sentinel", .obj [("freeze_new_risk", .bool false)]),
  ("uquant_payload", .obj [("targets", .arr [])])]

def decision : DecisionSnapshot where
  strategySession := 1
  decisionId := "decision"
  requestFingerprint := "request"
  inputFingerprint := "input"
  firmquantCommit := "firmquant"
  uquantCommit := "uquant"
  uquantCodeFingerprint := "code"
  uquantConfigFingerprint := "config"
  dataManifestSha256 := hexText 64
  universeManifestSha256 := "universe"
  brokerSnapshotSha256 := "broker"
  accountBeforeSha256 := "before"
  accountAfterSha256 := "after"
  payloadJson := Json.dumps payload
  payloadSha256 := "payload"
  createdAt := 0
  supersedesDecisionId := none

/-- An account with this cash, read at this time. -/
def facts (cash : Money) (capturedAt : DateTime) : ExecutionBrokerSnapshot where
  brokerSnapshot := {
    account := {
      accountIdHash := hexText 64
      accountType := .cash
      availableCash := cash
      totalAssets := cash
      cash_le_assets := le_rfl }
    positions := []
    orders := []
    fills := []
    sessionDate := 2
    capturedAt := capturedAt
    brokerEventWatermark := 0 }
  instruments := []
  quotes := []
  marketStatus := .open
  instruments_nodup := by simp
  quotes_nodup := by simp
  instrument_sessions := by simp
  quote_sessions := by simp
  quote_statuses := by simp

/-- A cycle that reads the account at one time and the clock from another one on. -/
def reads (capturedAt clock : DateTime) : CycleReads where
  reconcile := .ok "reconciliation"
  executionFacts := .ok (facts ⟨1000, thousand_nonneg⟩ capturedAt)
  market := {
    queryInstrument _ := .error (.broker "BrokerProtocolError")
    queryQuote _ := .error (.broker "BrokerProtocolError")
    queryOrders := .ok [] }
  clock n := clock + n

def start : SessionRecords where
  closed _ := true
  decisions _ := [decision]
  ledger := Ledger.empty
  events := []

lemma exact_payload : payload.Exact := by
  simp [payload, Json.Exact, Json.ExactMembers, Json.ExactItems]

lemma snapshotHooks_lossless : snapshotHooks.Lossless := fun _ hkeys => if_pos hkeys

/-- The plan of the decision. -/
noncomputable def planAt (capturedAt : DateTime) : PlanningResult :=
  ExecutionPlanner.planOf deployment.env.planDigests decision
    (facts ⟨1000, thousand_nonneg⟩ capturedAt) false []

lemma plan_decision (capturedAt : DateTime) : ExecutionPlanner.plan deployment.env.planDigests
    decision (facts ⟨1000, by norm_num⟩ capturedAt) = .ok (planAt capturedAt) := by
  have hpending := Json.get?_sorted exact_payload "pending_orders"
  have hsentinel := Json.get?_sorted exact_payload "sentinel"
  have hloads : ExecutionPlanner.loadPayload decision.payloadJson = .ok (Json.sorted payload) := by
    unfold ExecutionPlanner.loadPayload decision
    simp only
    rw [Json.loads_dumps ExecutionPlanner.payloadHooks_lossless exact_payload]
  have hitems : ExecutionPlanner.decisionItems decision = .ok ([], false) := by
    refine bind_ok_iff.mpr ⟨_, hloads, ?_⟩
    unfold payload Json.sorted at hpending hsentinel ⊢
    unfold ExecutionPlanner.readPayload
    simp only [hpending, hsentinel]
    rfl
  exact ExecutionPlanner.plan_eq_ok.mpr ⟨(by decide : (1 : Date) < 2), [], false, hitems,
    fun _ hmem => absurd hmem List.not_mem_nil, List.nodup_nil, rfl⟩

lemma uquantPayload_decision :
    uquantPayload decision = .ok (Json.sorted (.obj [("targets", .arr [])])) := by
  have hget := Json.get?_sorted exact_payload "uquant_payload"
  have hloads : Json.loads snapshotHooks decision.payloadJson = .ok (Json.sorted payload) := by
    unfold decision
    simp only
    rw [Json.loads_dumps snapshotHooks_lossless exact_payload]
  refine bind_ok_iff.mpr ⟨_, hloads, ?_⟩
  unfold payload Json.sorted at hget ⊢
  simp only [hget]
  rfl

/-- The identity of the observation. -/
def identity : EvidenceIdentity Date := by
  refine ⟨{
    stage := .shadow
    executionSession := 2
    firmquantCommit := hexText 40
    uquantCommit := hexText 40
    promotionConfigSha256 := hexText 64
    accountSha256 := hexText 64
    dataSha256 := hexText 64
    calendarSha256 := hexText 64 }, ?_⟩
  simp [IdentityFields.violation, firstViolation, digestViolation_hexText]

/-- The content of the observation. -/
def content (planId : String) : ObservationContent ℚ Date where
  identity := identity
  decisionId := "decision"
  planId := planId
  portfolioEquity := 1000
  plannedOrders := []
  planningBlockers := []
  targets := []
  fills := []
  actualEndingPositions := []
  hypotheticalEndingPositions := []
  submitCount := 0
  cancelCount := 0
  rejectionCount := 0
  unknownCount := 0
  externalActivity := 0
  duplicateEconomicOrders := 0
  duplicateFills := 0
  dataQualityFailures := 0

lemma violation_content {planId : String} (h : textViolation "plan id" planId = none) :
    (content planId).violation = none := by
  have hdecision : textViolation "decision id" "decision" = none := by decide
  have hequity : positiveViolation "portfolio equity" (1000 : ℚ) = none := by decide
  have hstage : (content planId).stageViolation = none := by rfl
  have hcovered : (content planId).Covered := by
    intro position hmem
    cases hmem
  refine firstViolation_eq_none.mpr ?_
  simp only [ObservationContent.recordChecks, List.cons_append, List.nil_append,
    List.forall_mem_cons]
  refine ⟨hdecision, h, hequity, ?_, ?_, ?_, ?_, ?_, ?_, hstage, fun _ hmem => by cases hmem⟩
  iterate 5 exact if_neg (not_not.mpr List.nodup_nil)
  · exact if_neg (not_not.mpr hcovered)

lemma textViolation_planAt (capturedAt : DateTime) :
    textViolation "plan id" (planAt capturedAt).planId = none := by
  unfold planAt ExecutionPlanner.planOf deployment
  simp only
  split <;> decide

/-- The observation of the session. -/
noncomputable def observation (capturedAt createdAt : DateTime) : SessionObservation :=
  ⟨⟨content (planAt capturedAt).planId, createdAt⟩,
    violation_content (textViolation_planAt capturedAt)⟩

/-- What a cycle prepares. -/
noncomputable def preparedAt (capturedAt clock : DateTime) : PreparedCycle where
  reconciliationId := "reconciliation"
  plan := planAt capturedAt
  observation := observation capturedAt ((reads capturedAt clock).clock 0)

lemma prepare_decision (capturedAt clock : DateTime) :
    prepareCycle deployment (reads capturedAt clock) 2 decision Ledger.empty =
      .ok (preparedAt capturedAt clock) := by
  have hmarket : marketFacts (reads capturedAt clock).market (facts ⟨1000, by norm_num⟩ capturedAt)
      decision = .ok ⟨[], []⟩ := by
    refine bind_ok_iff.mpr ⟨_, uquantPayload_decision, ?_⟩
    rfl
  have htargets : targetObservations deployment.env decision (planAt capturedAt) ⟨[], []⟩ [] 1000 =
      .ok [] := by
    refine bind_ok_iff.mpr ⟨⟨⟩, refuse_eq_ok.mpr (by norm_num), ?_⟩
    refine bind_ok_iff.mpr ⟨_, uquantPayload_decision, ?_⟩
    rfl
  have hobservation : buildShadowObservation deployment.env Ledger.empty
      (reads capturedAt clock).market (facts ⟨1000, by norm_num⟩ capturedAt) (planAt capturedAt)
        decision deployment.identity ((reads capturedAt clock).clock 0) =
          .ok (preparedAt capturedAt clock).observation := by
    refine bind_ok_iff.mpr ⟨⟨⟩, refuse_eq_ok.mpr (not_not.mpr rfl), ?_⟩
    refine bind_ok_iff.mpr ⟨_, hmarket, ?_⟩
    iterate 2 refine bind_ok_iff.mpr ⟨_, rfl, ?_⟩
    iterate 2 refine bind_ok_iff.mpr ⟨[], rfl, ?_⟩
    refine bind_ok_iff.mpr ⟨[], htargets, ?_⟩
    refine bind_ok_iff.mpr ⟨[], rfl, ?_⟩
    refine bind_ok_iff.mpr ⟨identity, observed_eq_ok.mpr (Checked.create_eq_ok.mpr rfl), ?_⟩
    refine bind_ok_iff.mpr ⟨[], rfl, ?_⟩
    exact observed_eq_ok.mpr (Checked.create_eq_ok.mpr rfl)
  refine bind_ok_iff.mpr ⟨"reconciliation", rfl, ?_⟩
  refine bind_ok_iff.mpr ⟨_, rfl, ?_⟩
  refine bind_ok_iff.mpr ⟨⟨⟩, refuse_eq_ok.mpr (by simp [facts]), ?_⟩
  refine bind_ok_iff.mpr ⟨_, mapError_eq_ok.mpr (plan_decision capturedAt), ?_⟩
  refine bind_ok_iff.mpr ⟨_, mapError_eq_ok.mpr hobservation, ?_⟩
  rfl

lemma decided_start : frozenDecision deployment 2 start = .ok decision := rfl

lemma unrecorded_start : Unrecorded deployment 2 start where
  decided := ⟨decision, decided_start⟩
  stored := fun _ hmem => absurd hmem List.not_mem_nil
  noObservation := rfl
  noCompletion := rfl

/-- What a crash after the first durable step leaves. -/
noncomputable def stored : SessionRecords :=
  start.append ⟨.observation (identityOf (observation 0 0)), .observation (observation 0 0), 0⟩

lemma readsAccount (capturedAt clock : DateTime) :
    ReadsAccount (reads capturedAt clock) (hexText 64) := by
  rintro _ ⟨⟩
  rfl

lemma cut_stored : Cut deployment 2 (hexText 64) start stored := by
  have hcrash : (crashStates (execute deployment (reads 0 0) 2) start)[2]? = some stored := by
    unfold crashStates
    rw [execute_eq_recordCycle decided_start rfl (prepare_decision 0 0)]
    rfl
  exact .cycle .start (readsAccount 0 0) (List.mem_of_getElem? hcrash)

lemma observations_stored : stored.observations 2 = [observation 0 0] := rfl

end ShadowSample

section

open ShadowSample

/-- The next cycle finds the same facts, later. -/
theorem reexecuted_later : Unrecorded deployment 2 start ∧
    Cut deployment 2 (hexText 64) start stored ∧ Reexecuted deployment (reads 0 5) 2 stored := by
  refine ⟨unrecorded_start, cut_stored, ?_⟩
  refine (reexecuted_iff unrecorded_start cut_stored (reads 0 5)).mpr (.inr ?_)
  refine ⟨decision, _, rfl, prepare_decision 0 5, fun found hfound => ?_⟩
  rw [observations_stored, List.mem_singleton] at hfound
  rw [hfound]
  rfl

/-- The next cycle captures its snapshot later, so that its plan has another id. -/
theorem captured_later_conflicts : ¬ ∀ (deployment : ShadowDeployment) (session : Date)
    (account : String) (start records : SessionRecords), Unrecorded deployment session start →
      Cut deployment session account start records → ∀ reads, ReadsAccount reads account →
        (∃ decision prepared, frozenDecision deployment session records = .ok decision ∧
          prepareCycle deployment reads session decision records.ledger = .ok prepared) →
            Reexecuted deployment reads session records := by
  intro h
  have hprepared := prepare_decision 5 5
  have hreexecuted := h deployment 2 (hexText 64) start stored unrecorded_start cut_stored
    (reads 5 5) (readsAccount 5 5) ⟨decision, _, rfl, hprepared⟩
  obtain ⟨decision', hinterrupted⟩ := cut_stored.interrupted unrecorded_start
  have hrepeatable := hinterrupted.repeatable hreexecuted
  obtain ⟨found, prepared, hdecided, hagain, hcontent⟩ := hrepeatable.resolve_left (not_not.mpr rfl)
  obtain rfl : decision = found := Except.ok.inj (decided_start.symm.trans hdecided)
  have hsame := hcontent (observation 0 0) (by rw [observations_stored]; exact List.mem_cons_self)
  rw [← Except.ok.inj (hprepared.symm.trans hagain)] at hsame
  have hplan : (planAt 0).planId = (planAt 5).planId := congrArg (·.planId) hsame
  revert hplan
  decide

end

end Evidence

end FirmQuant
