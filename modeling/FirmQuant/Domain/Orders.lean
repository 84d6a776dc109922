import FirmQuant.Domain.Failure

/-!
# The order aggregate

The event-sourced state machine of `domain/orders.py` with the events of
`domain/events.py`.  `OrderAggregate.apply` is the only way an aggregate changes; it either
refuses an event or returns the aggregate with one more event applied.

Identities that the source derives by hashing are kept as the hashed content: an execution
id is the economic payload of its intent, an event id the parts it is built from.

The aggregate carries the checks of its constructor as a field.  `apply_cases` says once
what an accepted event can do; every fact about runs is derived from it.
-/

namespace FirmQuant

/-! ## Identities -/

/-- The economic payload that `_intent_hashes` hashes. -/
structure IntentPayload where
  decisionId : String
  uquantOrderId : String
  symbol : Symbol
  side : Side
  requestedShares : ℕ
  strategySession : Date
  uquantSourceSha : String
  deriving DecidableEq, Repr

/-- An execution id, `exec_` and the digest of the economic payload. -/
structure ExecutionId where
  payload : IntentPayload
  deriving DecidableEq, Repr

/-- An idempotency key, the digest of the economic payload. -/
structure IdempotencyKey where
  payload : IntentPayload
  deriving DecidableEq, Repr

/-- The maximum economic authorization derived from one uquant order intent. -/
structure ExecutionIntent extends IntentPayload where
  requested_pos : 0 < requestedShares
  deriving DecidableEq

namespace ExecutionIntent

/-- The execution id of an intent. -/
def executionId (intent : ExecutionIntent) : ExecutionId := ⟨intent.toIntentPayload⟩

/-- The idempotency key of an intent. -/
def idempotencyKey (intent : ExecutionIntent) : IdempotencyKey := ⟨intent.toIntentPayload⟩

/-- `ExecutionIntent.create`, which refuses an intent for no shares. -/
def create (payload : IntentPayload) : Except Failure ExecutionIntent :=
  if h : 0 < payload.requestedShares then .ok ⟨payload, h⟩
  else .error (.domainValidationError "execution intent requested shares must be positive")

lemma create_eq_ok {payload : IntentPayload} {intent : ExecutionIntent}
    (h : create payload = .ok intent) : intent.toIntentPayload = payload := by
  unfold create at h
  split_ifs at h
  cases h
  rfl

end ExecutionIntent

/-- The two broker write commands. -/
inductive CommandKind
  | submit | cancel
  deriving DecidableEq, Repr

/-- A broker attempt id, the digest of execution, attempt number and command kind. -/
structure AttemptId where
  executionId : ExecutionId
  attemptNumber : ℕ
  commandKind : CommandKind
  deriving DecidableEq, Repr

/-- What `_failure_evidence` hashes: the error's class and its reason codes. -/
structure FailureEvidence where
  errorType : String
  reasonCodes : List ReasonCode
  deriving DecidableEq, Repr

/-- The ids of order events, by the prefix and the parts that `_stable_event_id` and
`_write_event_id` hash.  `text` stands for an id from elsewhere. -/
inductive EventId
  | validate (executionId : ExecutionId)
  | arm (executionId : ExecutionId)
  | submitStarted (executionId : ExecutionId) (attempt : ℕ)
  | cancelRequested (executionId : ExecutionId) (request : ℕ)
  | unknown (attempt : AttemptId) (diagnosticCode : String)
  | ack (brokerOrderId : String) (sequence : ℕ)
  | fill (brokerFillId : String)
  | recoveryRejected (brokerOrderId : String) (sequence : ℕ)
  | recoveryExpired (brokerOrderId : String) (sequence : ℕ)
  | recoveryCancelled (brokerOrderId : String) (sequence : ℕ)
  | recoveryUnknown (brokerOrderId : String) (sequence : ℕ)
  | submitNotAccepted (attempt : AttemptId) (evidence : FailureEvidence)
  | cancelNotAccepted (attempt : AttemptId) (evidence : FailureEvidence)
  | text (value : String)
  deriving DecidableEq, Repr

/-! ## States and events -/

/-- The states of an order. -/
inductive OrderState
  | planned | validated | armed | submitting | acknowledged | partiallyFilled | filled
  | cancelRequested | cancelled | rejected | expired | unknown
  deriving DecidableEq, Repr

namespace OrderState

/-- `TERMINAL_ORDER_STATES`. -/
def terminal : List OrderState := [filled, cancelled, rejected, expired]

/-- `_OPEN_STATES` of the live controller. -/
def openStates : List OrderState := [acknowledged, partiallyFilled]

/-- `ORDER_TRANSITIONS`. -/
def transitions : OrderState → List OrderState
  | planned => [validated, expired]
  | validated => [armed, expired]
  | armed => [submitting, expired]
  | submitting => [armed, acknowledged, partiallyFilled, filled, cancelled, rejected, unknown]
  | acknowledged =>
    [partiallyFilled, filled, cancelRequested, cancelled, rejected, expired, unknown]
  | partiallyFilled => [filled, cancelRequested, cancelled, rejected, expired, unknown]
  | cancelRequested =>
    [acknowledged, partiallyFilled, filled, cancelled, rejected, expired, unknown]
  | unknown => [armed, acknowledged, partiallyFilled, filled, cancelled, rejected, expired]
  | filled => []
  | cancelled => []
  | rejected => []
  | expired => []

lemma transitions_terminal {s : OrderState} (h : s ∈ terminal) : transitions s = [] := by
  revert h
  cases s <;> decide

end OrderState

/-- What an order event says, apart from its id. -/
inductive OrderEventKind
  | orderValidated
  | orderArmed
  | submitStarted
  | submitNotAccepted (evidence : FailureEvidence)
  | brokerAcknowledged (brokerOrderId : String)
  | submitOutcomeUnknown (diagnosticCode : String)
  | unknownResolvedNotAccepted (evidence : FailureEvidence)
  | fillReported (brokerFillId brokerOrderId : String) (shares : ℕ) (price : Price)
      (shares_pos : 0 < shares)
  | cancelRequested
  | cancelNotAccepted (evidence : FailureEvidence)
  | cancelOutcomeUnknown (diagnosticCode : String)
  | cancelConfirmed (brokerOrderId : Option String)
  | brokerRejected (reasonCode : String)
  | orderExpired (reasonCode : String)
  deriving DecidableEq

/-- An order event.  Its fingerprint hashes all of it, so the event is its own fingerprint. -/
structure OrderEvent where
  eventId : EventId
  kind : OrderEventKind
  deriving DecidableEq

/-- A retained fill. -/
@[ext] structure AppliedFill where
  brokerFillId : String
  brokerOrderId : String
  shares : ℕ
  price : Price
  shares_pos : 0 < shares

instance : DecidableEq AppliedFill := fun _ _ => decidable_of_iff _ AppliedFill.ext_iff.symm

/-- The anomalies an aggregate records. -/
inductive Anomaly
  | lateFillAfter (state : OrderState)
  | ackAfter (state : OrderState)
  | cancelAfterFilled
  | rejectAfter (state : OrderState)
  deriving DecidableEq, Repr

/-! ## The aggregate -/

/-- The fields of an order aggregate. -/
structure AggregateData where
  intent : ExecutionIntent
  state : OrderState
  brokerOrderId : Option String
  filledShares : ℕ
  fills : List AppliedFill
  appliedEvents : List OrderEvent
  submitAttempts : ℕ
  cancelRequests : ℕ
  lateFillInvestigationRequired : Bool
  anomalies : List Anomaly
  version : ℕ
  deriving DecidableEq

/-- The first check of `OrderAggregate.__post_init__` that the fields fail, as its message. -/
def AggregateData.violation (d : AggregateData) : Option String :=
  if (d.fills.map (·.shares)).sum ≠ d.filledShares then
    some "aggregate filled shares do not match retained fills"
  else if ¬ (d.fills.map (·.brokerFillId)).Nodup then
    some "aggregate contains duplicate broker fill ids"
  else if ¬ (d.appliedEvents.map (·.eventId)).Nodup then
    some "aggregate contains duplicate event ids"
  else if ¬ d.anomalies.Nodup then
    some "aggregate anomalies must be unique"
  else if d.intent.requestedShares < d.filledShares then
    some "aggregate filled shares exceed requested shares"
  else if d.state = .filled ∧ d.filledShares ≠ d.intent.requestedShares then
    some "FILLED order must equal requested shares"
  else if d.state = .partiallyFilled ∧
      ¬ (0 < d.filledShares ∧ d.filledShares < d.intent.requestedShares) then
    some "PARTIALLY_FILLED order has invalid cumulative shares"
  else none

/-- What the constructor's checks amount to. -/
structure AggregateData.WellFormed (d : AggregateData) : Prop where
  filled_eq : (d.fills.map (·.shares)).sum = d.filledShares
  fills_nodup : (d.fills.map (·.brokerFillId)).Nodup
  events_nodup : (d.appliedEvents.map (·.eventId)).Nodup
  anomalies_nodup : d.anomalies.Nodup
  filled_le : d.filledShares ≤ d.intent.requestedShares
  filled_full : d.state = .filled → d.filledShares = d.intent.requestedShares
  partial_proper : d.state = .partiallyFilled →
    0 < d.filledShares ∧ d.filledShares < d.intent.requestedShares

lemma AggregateData.violation_eq_none {d : AggregateData} :
    d.violation = none ↔ d.WellFormed := by
  unfold AggregateData.violation
  constructor
  · intro h
    split_ifs at h with h1 h2 h3 h4 h5 h6 h7
    exact ⟨not_not.mp h1, h2, h3, h4, not_lt.mp h5,
      fun hs => not_not.mp fun hne => h6 ⟨hs, hne⟩, fun hs => not_not.mp fun hne => h7 ⟨hs, hne⟩⟩
  · intro h
    rw [if_neg (not_not.mpr h.filled_eq), if_neg (not_not.mpr h.fills_nodup),
      if_neg (not_not.mpr h.events_nodup), if_neg (not_not.mpr h.anomalies_nodup),
      if_neg (not_lt.mpr h.filled_le), if_neg fun hc => hc.2 (h.filled_full hc.1),
      if_neg fun hc => hc.2 (h.partial_proper hc.1)]

/-- An order aggregate: fields that pass every check of the constructor. -/
structure OrderAggregate extends AggregateData where
  valid : toAggregateData.violation = none
  deriving DecidableEq

namespace OrderAggregate

lemma wellFormed (a : OrderAggregate) : a.toAggregateData.WellFormed :=
  AggregateData.violation_eq_none.mp a.valid

/-- The constructor: it runs the checks and raises at the first that fails. -/
def build (d : AggregateData) : Except Failure OrderAggregate :=
  match h : d.violation with
  | none => .ok ⟨d, h⟩
  | some message => .error (.domainValidationError message)

lemma build_eq_ok {d : AggregateData} {a : OrderAggregate} (h : build d = .ok a) :
    a.toAggregateData = d := by
  unfold build at h
  split at h
  · cases h
    rfl
  · cases h

/-- `OrderAggregate.from_intent`. -/
def fromIntent (intent : ExecutionIntent) : OrderAggregate where
  intent := intent
  state := .planned
  brokerOrderId := none
  filledShares := 0
  fills := []
  appliedEvents := []
  submitAttempts := 0
  cancelRequests := 0
  lateFillInvestigationRequired := false
  anomalies := []
  version := 0
  valid := by simp [AggregateData.violation]

/-- `_event_seen`: a known id must come with the same fingerprint. -/
def eventSeen (a : OrderAggregate) (event : OrderEvent) : Except Failure Bool :=
  match a.appliedEvents.find? (·.eventId = event.eventId) with
  | none => .ok false
  | some existing =>
    if existing = event then .ok true
    else .error (.domainTransitionError "order event identity collision")

/-- The fields after an update: the new state, the broker order id if it is learned, one more
event and one more version; `change` is what else the event changes. -/
def updatedData (a : OrderAggregate) (event : OrderEvent) (target : OrderState)
    (brokerOrderId : Option String) (change : AggregateData → AggregateData) : AggregateData :=
  { change a.toAggregateData with
    intent := a.intent
    state := target
    brokerOrderId := brokerOrderId.or a.brokerOrderId
    appliedEvents := a.appliedEvents ++ [event]
    version := a.version + 1 }

/-- `_updated`: refuse an illegal transition or another broker order id, else write the
updated fields. -/
def updated (a : OrderAggregate) (event : OrderEvent) (target : OrderState)
    (brokerOrderId : Option String) (change : AggregateData → AggregateData) :
    Except Failure OrderAggregate :=
  if target ≠ a.state ∧ target ∉ OrderState.transitions a.state then
    .error (.domainTransitionError "illegal order transition")
  else if a.brokerOrderId.isSome ∧ brokerOrderId.isSome ∧ a.brokerOrderId ≠ brokerOrderId then
    .error (.domainTransitionError "broker order id changed for one execution intent")
  else
    build (a.updatedData event target brokerOrderId change)

/-- `_with_anomaly`. -/
def withAnomaly (anomaly : Anomaly) (d : AggregateData) : AggregateData :=
  if anomaly ∈ d.anomalies then d else { d with anomalies := d.anomalies ++ [anomaly] }

/-- Retain one more fill and add its shares. -/
def withFill (fill : AppliedFill) (d : AggregateData) : AggregateData :=
  { d with filledShares := d.filledShares + fill.shares, fills := d.fills ++ [fill] }

/-- Count one more submit attempt. -/
def countSubmitAttempt (d : AggregateData) : AggregateData :=
  { d with submitAttempts := d.submitAttempts + 1 }

/-- Count one more cancel request. -/
def countCancelRequest (d : AggregateData) : AggregateData :=
  { d with cancelRequests := d.cancelRequests + 1 }

/-- The state a fill moves an open order to. -/
def fillTarget (a : OrderAggregate) (fill : AppliedFill) : OrderState :=
  if a.filledShares + fill.shares = a.intent.requestedShares then .filled
  else if a.state = .cancelRequested then .cancelRequested
  else .partiallyFilled

/-- `_apply_fill`. -/
def applyFill (a : OrderAggregate) (event : OrderEvent) (candidate : AppliedFill) :
    Except Failure OrderAggregate :=
  match a.fills.find? (·.brokerFillId = candidate.brokerFillId) with
  | some existing =>
    if existing = candidate then .ok a
    else .error (.domainTransitionError "broker fill identity collision")
  | none =>
    if a.state ∈ [OrderState.planned, .validated, .armed] then
      .error (.domainTransitionError "illegal order transition via FillReported")
    else if a.intent.requestedShares < a.filledShares + candidate.shares then
      .error (.domainTransitionError "cumulative fill shares exceed requested shares")
    else if a.state ∈ [OrderState.cancelled, .rejected, .expired] then
      a.updated event a.state (some candidate.brokerOrderId) fun d =>
        withAnomaly (.lateFillAfter a.state)
          { withFill candidate d with lateFillInvestigationRequired := true }
    else
      a.updated event (a.fillTarget candidate) (some candidate.brokerOrderId) (withFill candidate)

/-- `OrderAggregate.apply`, for an event that was not applied before. -/
def applyNew (a : OrderAggregate) (event : OrderEvent) : Except Failure OrderAggregate :=
  match event.kind with
  | .orderValidated => a.updated event .validated none id
  | .orderArmed => a.updated event .armed none id
  | .submitStarted => a.updated event .submitting none countSubmitAttempt
  | .submitNotAccepted _ =>
    if a.state ≠ .submitting then
      .error (.domainTransitionError "illegal order transition via SubmitNotAccepted")
    else a.updated event .armed none id
  | .submitOutcomeUnknown _ =>
    if a.state ∈ OrderState.unknown :: OrderState.terminal then a.updated event a.state none id
    else a.updated event .unknown none id
  | .unknownResolvedNotAccepted _ => a.updated event .armed none id
  | .brokerAcknowledged brokerOrderId =>
    if a.state ∈ [OrderState.submitting, .unknown] then
      a.updated event .acknowledged (some brokerOrderId) id
    else if a.state ∈ [OrderState.acknowledged, .partiallyFilled, .filled, .cancelRequested,
        .cancelled] then
      a.updated event a.state (some brokerOrderId) id
    else if a.state ∈ [OrderState.rejected, .expired] then
      a.updated event a.state (some brokerOrderId) (withAnomaly (.ackAfter a.state))
    else a.updated event .acknowledged none id
  | .fillReported brokerFillId brokerOrderId shares price shares_pos =>
    a.applyFill event ⟨brokerFillId, brokerOrderId, shares, price, shares_pos⟩
  | .cancelRequested =>
    if a.brokerOrderId.isNone then
      .error (.domainTransitionError "cannot request cancel without broker order id")
    else a.updated event .cancelRequested none countCancelRequest
  | .cancelNotAccepted _ =>
    if a.state ≠ .cancelRequested then
      .error (.domainTransitionError "illegal order transition via CancelNotAccepted")
    else if 0 < a.filledShares then a.updated event .partiallyFilled none id
    else a.updated event .acknowledged none id
  | .cancelOutcomeUnknown _ =>
    if a.state ∈ [OrderState.cancelRequested, .acknowledged, .partiallyFilled] then
      a.updated event .unknown none id
    else if a.state = .unknown then a.updated event a.state none id
    else .error (.domainTransitionError "illegal order transition via CancelOutcomeUnknown")
  | .cancelConfirmed brokerOrderId =>
    if (brokerOrderId.or a.brokerOrderId).isNone then
      .error (.domainTransitionError "cancel confirmation lacks broker order id")
    else if a.state = .filled then
      a.updated event a.state (brokerOrderId.or a.brokerOrderId) (withAnomaly .cancelAfterFilled)
    else a.updated event .cancelled (brokerOrderId.or a.brokerOrderId) id
  | .brokerRejected _ =>
    if a.state ∈ OrderState.terminal then
      a.updated event a.state none (withAnomaly (.rejectAfter a.state))
    else a.updated event .rejected none id
  | .orderExpired _ => a.updated event .expired none id

/-- `OrderAggregate.apply`: an event that was applied before changes nothing. -/
def apply (a : OrderAggregate) (event : OrderEvent) : Except Failure OrderAggregate :=
  match a.eventSeen event with
  | .error failure => .error failure
  | .ok true => .ok a
  | .ok false => a.applyNew event

/-! ## What an accepted event does -/

section Accepted

variable {a a' : OrderAggregate} {event : OrderEvent}

/-- No counter of attempts is lowered. -/
def CountsUp (d d' : AggregateData) : Prop :=
  d.submitAttempts ≤ d'.submitAttempts ∧ d.cancelRequests ≤ d'.cancelRequests

/-- An update of the fields that touches neither the fills nor their total and lowers no
counter. -/
def KeepsEconomics (change : AggregateData → AggregateData) : Prop :=
  ∀ d, (change d).fills = d.fills ∧ (change d).filledShares = d.filledShares ∧
    CountsUp d (change d)

lemma keepsEconomics_id : KeepsEconomics id := fun _ => ⟨rfl, rfl, le_refl _, le_refl _⟩

lemma keepsEconomics_countSubmitAttempt : KeepsEconomics countSubmitAttempt :=
  fun _ => ⟨rfl, rfl, Nat.le_succ _, le_refl _⟩

lemma keepsEconomics_countCancelRequest : KeepsEconomics countCancelRequest :=
  fun _ => ⟨rfl, rfl, le_refl _, Nat.le_succ _⟩

lemma keepsEconomics_withAnomaly (anomaly : Anomaly) :
    KeepsEconomics (withAnomaly anomaly) := by
  intro d
  unfold withAnomaly
  split <;> exact ⟨rfl, rfl, le_refl _, le_refl _⟩

/-- The updates that an event other than a fill makes beside the state. -/
inductive PlainChange : (AggregateData → AggregateData) → Prop
  | nothing : PlainChange id
  | submitAttempt : PlainChange countSubmitAttempt
  | cancelRequest : PlainChange countCancelRequest
  | anomaly (anomaly : Anomaly) : PlainChange (withAnomaly anomaly)

variable {change : AggregateData → AggregateData} {target : OrderState}
  {brokerOrderId : Option String} {fill : AppliedFill}

lemma PlainChange.keepsEconomics (h : PlainChange change) : KeepsEconomics change := by
  cases h with
  | nothing => exact keepsEconomics_id
  | submitAttempt => exact keepsEconomics_countSubmitAttempt
  | cancelRequest => exact keepsEconomics_countCancelRequest
  | anomaly anomaly => exact keepsEconomics_withAnomaly anomaly

/-- `_updated` moves along a legal transition, never changes a known broker order id, and
writes the fields it was asked to write. -/
lemma updated_eq_ok (h : a.updated event target brokerOrderId change = .ok a') :
    (target = a.state ∨ target ∈ OrderState.transitions a.state) ∧
      (a.brokerOrderId.isSome → brokerOrderId.isSome → a.brokerOrderId = brokerOrderId) ∧
      a'.toAggregateData = a.updatedData event target brokerOrderId change := by
  unfold updated at h
  split_ifs at h with h1 h2
  refine ⟨?_, ?_, build_eq_ok h⟩
  · by_cases hs : target = a.state
    · exact .inl hs
    · exact .inr (not_not.mp fun hn => h1 ⟨hs, hn⟩)
  · intro ha hb
    by_contra hne
    exact h2 ⟨ha, hb, hne⟩

lemma updated_state (h : a.updated event target brokerOrderId change = .ok a') :
    a'.state = target := by
  rw [(updated_eq_ok h).2.2]
  rfl

/-- What an accepted fill does: it was retained before, it arrives after the order was
closed and leaves the state alone, or it moves an open order along. -/
lemma applyFill_cases (h : a.applyFill event fill = .ok a') :
    (a' = a ∧ fill ∈ a.fills) ∨
      (a.state ∈ [OrderState.cancelled, .rejected, .expired] ∧
        a.updated event a.state (some fill.brokerOrderId) (fun d =>
          withAnomaly (.lateFillAfter a.state)
            { withFill fill d with lateFillInvestigationRequired := true }) = .ok a') ∨
      (a.state ∉ [OrderState.cancelled, .rejected, .expired] ∧
        a.updated event (a.fillTarget fill) (some fill.brokerOrderId) (withFill fill) =
          .ok a') := by
  unfold applyFill at h
  split at h
  next existing hfind =>
    split_ifs at h with heq
    cases h
    exact .inl ⟨rfl, heq ▸ List.mem_of_find?_eq_some hfind⟩
  next =>
    split_ifs at h with _ _ hlate
    · exact .inr (.inl ⟨hlate, h⟩)
    · exact .inr (.inr ⟨hlate, h⟩)

/-- What an event says that reports a fill. -/
def fillKind (fill : AppliedFill) : OrderEventKind :=
  .fillReported fill.brokerFillId fill.brokerOrderId fill.shares fill.price fill.shares_pos

lemma applyNew_cases (h : a.applyNew event = .ok a') :
    (∃ target brokerOrderId change, PlainChange change ∧
      a.updated event target brokerOrderId change = .ok a') ∨
    ∃ fill, event.kind = fillKind fill ∧ a.applyFill event fill = .ok a' := by
  unfold applyNew at h
  cases hk : event.kind with
  | orderValidated | orderArmed | unknownResolvedNotAccepted evidence | orderExpired code =>
    simp only [hk] at h
    exact .inl ⟨_, _, _, PlainChange.nothing, h⟩
  | submitStarted =>
    simp only [hk] at h
    exact .inl ⟨_, _, _, PlainChange.submitAttempt, h⟩
  | submitNotAccepted evidence =>
    simp only [hk] at h
    split_ifs at h
    exact .inl ⟨_, _, _, PlainChange.nothing, h⟩
  | submitOutcomeUnknown code | cancelNotAccepted evidence | cancelOutcomeUnknown code =>
    simp only [hk] at h
    split_ifs at h
    all_goals exact .inl ⟨_, _, _, PlainChange.nothing, h⟩
  | brokerAcknowledged brokerOrderId =>
    simp only [hk] at h
    split_ifs at h
    iterate 2 exact .inl ⟨_, _, _, PlainChange.nothing, h⟩
    · exact .inl ⟨_, _, _, PlainChange.anomaly _, h⟩
    · exact .inl ⟨_, _, _, PlainChange.nothing, h⟩
  | fillReported fillId orderId shares price hpos =>
    simp only [hk] at h
    exact .inr ⟨_, rfl, h⟩
  | cancelRequested =>
    simp only [hk] at h
    split_ifs at h
    exact .inl ⟨_, _, _, PlainChange.cancelRequest, h⟩
  | cancelConfirmed brokerOrderId | brokerRejected code =>
    simp only [hk] at h
    split_ifs at h
    · exact .inl ⟨_, _, _, PlainChange.anomaly _, h⟩
    · exact .inl ⟨_, _, _, PlainChange.nothing, h⟩

/-- An accepted event changes nothing, or it advances the aggregate by one version. -/
structure Advanced (a : OrderAggregate) (event : OrderEvent) (a' : OrderAggregate) : Prop where
  intent : a'.intent = a.intent
  version : a'.version = a.version + 1
  appliedEvents : a'.appliedEvents = a.appliedEvents ++ [event]
  state : a'.state = a.state ∨ a'.state ∈ OrderState.transitions a.state
  brokerOrderId : a.brokerOrderId.isSome → a'.brokerOrderId = a.brokerOrderId
  counts : CountsUp a.toAggregateData a'.toAggregateData
  /-- The economics are kept, or one fill is added.  The fill completes the order exactly
  when its shares complete the request, unless the order was closed before. -/
  economics : (a'.fills = a.fills ∧ a'.filledShares = a.filledShares) ∨
    ∃ fill : AppliedFill, event.kind = fillKind fill ∧ a'.fills = a.fills ++ [fill] ∧
      a'.filledShares = a.filledShares + fill.shares ∧
      (a'.state ∈ OrderState.terminal ∨ a'.filledShares ≠ a.intent.requestedShares)

lemma advanced_of_updated (h : a.updated event target brokerOrderId change = .ok a')
    (hcounts : CountsUp a.toAggregateData (change a.toAggregateData))
    (hecon : ((change a.toAggregateData).fills = a.fills ∧
        (change a.toAggregateData).filledShares = a.filledShares) ∨
      ∃ fill : AppliedFill, event.kind = fillKind fill ∧
        (change a.toAggregateData).fills = a.fills ++ [fill] ∧
        (change a.toAggregateData).filledShares = a.filledShares + fill.shares ∧
        (target ∈ OrderState.terminal ∨
          (change a.toAggregateData).filledShares ≠ a.intent.requestedShares)) :
    Advanced a event a' := by
  obtain ⟨hlegal, hid, hdata⟩ := updated_eq_ok h
  refine ⟨by rw [hdata]; rfl, by rw [hdata]; rfl, by rw [hdata]; rfl, by rw [hdata]; exact hlegal,
    ?_, by rw [hdata]; exact hcounts, ?_⟩
  · intro hsome
    rw [hdata]
    cases hb : brokerOrderId with
    | none => simp [updatedData]
    | some id =>
      rw [hid hsome (by simp [hb]), hb]
      rfl
  · rw [hdata]
    exact hecon

/-- What an accepted event does. -/
theorem apply_cases (h : a.apply event = .ok a') : a' = a ∨ Advanced a event a' := by
  unfold apply at h
  split at h
  · cases h
  · cases h
    exact .inl rfl
  rcases applyNew_cases h with ⟨target, id, change, hplain, hupd⟩ | ⟨fill, hkind, hfill⟩
  · obtain ⟨hfills, hfilled, hcounts⟩ := hplain.keepsEconomics a.toAggregateData
    exact .inr (advanced_of_updated hupd hcounts (.inl ⟨hfills, hfilled⟩))
  rcases applyFill_cases hfill with ⟨rfl, -⟩ | ⟨hlate, hupd⟩ | ⟨hopen, hupd⟩
  · exact .inl rfl
  · obtain ⟨hfills, hfilled, hcounts⟩ := keepsEconomics_withAnomaly (.lateFillAfter a.state)
      { withFill fill a.toAggregateData with lateFillInvestigationRequired := true }
    refine .inr (advanced_of_updated hupd hcounts (.inr ⟨fill, hkind, hfills, hfilled, .inl ?_⟩))
    revert hlate
    cases a.state <;> decide
  · refine .inr (advanced_of_updated hupd ⟨le_refl _, le_refl _⟩ (.inr ⟨fill, hkind, rfl, rfl, ?_⟩))
    unfold fillTarget
    split_ifs with hfull hcancel
    · exact .inl (by decide)
    · exact .inr hfull
    · exact .inr hfull

lemma apply_notFill (hplain : ∀ fill, event.kind ≠ fillKind fill) (h : a.apply event = .ok a') :
    a' = a ∨ (Advanced a event a' ∧ a'.fills = a.fills) := by
  rcases apply_cases h with rfl | hadv
  · exact .inl rfl
  · rcases hadv.economics with ⟨hfills, -⟩ | ⟨fill, hkind, -⟩
    · exact .inr ⟨hadv, hfills⟩
    · exact absurd hkind (hplain fill)

/-- A report of a fill that moves the aggregate on brings a fill with a new id. -/
lemma applyFill_new (h : a.applyFill event fill = .ok a') (hmoved : a'.version ≠ a.version) :
    ∀ known ∈ a.fills, known.brokerFillId ≠ fill.brokerFillId := by
  unfold applyFill at h
  cases hfind : a.fills.find? (·.brokerFillId = fill.brokerFillId) with
  | some existing =>
    simp only [hfind] at h
    split_ifs at h
    cases h
    exact absurd rfl hmoved
  | none =>
    intro known hmem
    simpa using List.find?_eq_none.mp hfind known hmem

/-- The report of a fill changes nothing when it or its fill is known already, and otherwise
retains the fill. -/
lemma apply_fill (hkind : event.kind = fillKind fill) (h : a.apply event = .ok a') :
    (a' = a ∧ (event ∈ a.appliedEvents ∨ fill ∈ a.fills)) ∨
      (Advanced a event a' ∧ a'.fills = a.fills ++ [fill] ∧
        ∀ known ∈ a.fills, known.brokerFillId ≠ fill.brokerFillId) := by
  have hadvanced := apply_cases h
  unfold apply at h
  split at h
  · cases h
  · rename_i hseen
    cases h
    refine .inl ⟨rfl, .inl ?_⟩
    unfold eventSeen at hseen
    split at hseen
    · cases hseen
    · rename_i existing hfind
      split_ifs at hseen with heq
      rw [← heq]
      exact List.mem_of_find?_eq_some hfind
  have hfill : a.applyFill event fill = .ok a' := by
    unfold applyNew at h
    rw [hkind] at h
    exact h
  have hmoves : a'.fills = a.fills ++ [fill] → Advanced a event a' ∧ a'.fills = a.fills ++ [fill] ∧
      ∀ known ∈ a.fills, known.brokerFillId ≠ fill.brokerFillId := by
    intro hfills
    rcases hadvanced with rfl | hadv
    · simp at hfills
    · have hmoved : a'.version ≠ a.version := by
        rw [hadv.version]
        exact Nat.succ_ne_self _
      exact ⟨hadv, hfills, applyFill_new hfill hmoved⟩
  rcases applyFill_cases hfill with ⟨rfl, hmem⟩ | ⟨-, hupd⟩ | ⟨-, hupd⟩
  · exact .inl ⟨rfl, .inr hmem⟩
  · refine .inr (hmoves ?_)
    rw [(updated_eq_ok hupd).2.2]
    exact (keepsEconomics_withAnomaly _ _).1
  · refine .inr (hmoves ?_)
    rw [(updated_eq_ok hupd).2.2]
    rfl

lemma apply_terminal (h : a.apply event = .ok a') (ha : a.state ∈ OrderState.terminal) :
    a'.state = a.state := by
  rcases apply_cases h with rfl | hadv
  · rfl
  rcases hadv.state with hsame | hmoved
  · exact hsame
  · rw [OrderState.transitions_terminal ha] at hmoved
    cases hmoved

/-- An order that is not closed still misses shares. -/
def MissesShares (a : OrderAggregate) : Prop :=
  a.state ∉ OrderState.terminal → a.filledShares < a.intent.requestedShares

lemma missesShares_fromIntent (intent : ExecutionIntent) : MissesShares (fromIntent intent) :=
  fun _ => intent.requested_pos

/-- Every accepted event keeps `MissesShares`. -/
theorem apply_missesShares (h : a.apply event = .ok a') (ha : MissesShares a) :
    MissesShares a' := by
  rcases apply_cases h with rfl | hadv
  · exact ha
  intro hopen
  rw [hadv.intent]
  rcases hadv.economics with ⟨-, hfilled⟩ | ⟨fill, -, -, hfilled, hterm | hne⟩
  · -- The state before was not terminal either: nothing leaves a terminal state.
    rw [hfilled]
    refine ha fun hterm => hopen ?_
    rwa [apply_terminal h hterm]
  · exact absurd hterm hopen
  · have hle := a'.wellFormed.filled_le
    rw [hadv.intent] at hle
    exact lt_of_le_of_ne hle hne

/-- The write-ahead ids an aggregate has seen carry numbers that it has counted. -/
structure Numbered (a : OrderAggregate) : Prop where
  submits : ∀ e ∈ a.appliedEvents, ∀ id n, e.eventId = .submitStarted id n → n ≤ a.submitAttempts
  cancels : ∀ e ∈ a.appliedEvents, ∀ id n, e.eventId = .cancelRequested id n → n ≤ a.cancelRequests

lemma apply_of_not_seen (h : ∀ e ∈ a.appliedEvents, e.eventId ≠ event.eventId) :
    a.apply event = a.applyNew event := by
  have hfind : a.appliedEvents.find? (·.eventId = event.eventId) = none :=
    List.find?_eq_none.mpr fun e he => by simpa using h e he
  simp only [apply, eventSeen, hfind]

/-- An accepted event was applied before, and then it changes nothing, or it is new. -/
lemma apply_seen_or_new (h : a.apply event = .ok a') :
    (a' = a ∧ event ∈ a.appliedEvents) ∨
      ((∀ e ∈ a.appliedEvents, e.eventId ≠ event.eventId) ∧ a.applyNew event = .ok a') := by
  unfold apply eventSeen at h
  cases hfind : a.appliedEvents.find? (·.eventId = event.eventId) with
  | none =>
    simp only [hfind] at h
    exact .inr ⟨fun e he => by simpa using List.find?_eq_none.mp hfind e he, h⟩
  | some existing =>
    simp only [hfind] at h
    by_cases heq : existing = event
    · simp only [if_pos heq] at h
      cases h
      exact .inl ⟨rfl, heq ▸ List.mem_of_find?_eq_some hfind⟩
    · simp [if_neg heq] at h

/-- The next submission of a numbered aggregate is a new event: it is refused or it moves the
order to SUBMITTING. -/
lemma apply_submitStarted (hnum : Numbered a) (id : ExecutionId)
    (h : a.apply ⟨.submitStarted id (a.submitAttempts + 1), .submitStarted⟩ = .ok a') :
    a'.toAggregateData = a.updatedData ⟨.submitStarted id (a.submitAttempts + 1), .submitStarted⟩
      .submitting none countSubmitAttempt := by
  rw [apply_of_not_seen] at h
  · exact (updated_eq_ok h).2.2
  · intro e he heq
    have := hnum.submits e he _ _ heq
    omega

/-- The next cancel of a numbered aggregate is a new event: it is refused or it moves the order
to CANCEL_REQUESTED. -/
lemma apply_cancelRequested (hnum : Numbered a) (id : ExecutionId)
    (h : a.apply ⟨.cancelRequested id (a.cancelRequests + 1), .cancelRequested⟩ = .ok a') :
    a'.toAggregateData = a.updatedData
      ⟨.cancelRequested id (a.cancelRequests + 1), .cancelRequested⟩ .cancelRequested none
      countCancelRequest := by
  rw [apply_of_not_seen] at h
  · simp only [applyNew] at h
    split_ifs at h
    exact (updated_eq_ok h).2.2
  · intro e he heq
    have := hnum.cancels e he _ _ heq
    omega

lemma apply_submitNotAccepted {id : EventId} {evidence : FailureEvidence}
    (h : a.apply ⟨id, .submitNotAccepted evidence⟩ = .ok a') :
    a' = a ∨ a'.state = .armed := by
  unfold apply at h
  split at h
  · cases h
  · cases h
    exact .inl rfl
  · simp only [applyNew] at h
    split_ifs at h
    rw [(updated_eq_ok h).2.2]
    exact .inr rfl

end Accepted

/-! ## The aggregates that the ledger builds -/

/-- An aggregate that was built by the events the repository issues: the write-ahead events
carry the next number, and no other event uses their ids. -/
inductive Issued : OrderAggregate → Prop
  | fromIntent (intent : ExecutionIntent) : Issued (fromIntent intent)
  | submitStarted {a a' : OrderAggregate} : Issued a →
      a.apply ⟨.submitStarted a.intent.executionId (a.submitAttempts + 1), .submitStarted⟩ =
        .ok a' → Issued a'
  | cancelRequested {a a' : OrderAggregate} : Issued a →
      a.apply ⟨.cancelRequested a.intent.executionId (a.cancelRequests + 1), .cancelRequested⟩ =
        .ok a' → Issued a'
  | other {a a' : OrderAggregate} {event : OrderEvent} : Issued a →
      (∀ id n, event.eventId ≠ .submitStarted id n) →
      (∀ id n, event.eventId ≠ .cancelRequested id n) → a.apply event = .ok a' → Issued a'

lemma Advanced.numbered {a a' : OrderAggregate} {event : OrderEvent} (hadv : Advanced a event a')
    (hnum : Numbered a)
    (hsubmit : ∀ id n, event.eventId = .submitStarted id n → n ≤ a'.submitAttempts)
    (hcancel : ∀ id n, event.eventId = .cancelRequested id n → n ≤ a'.cancelRequests) :
    Numbered a' := by
  have hmem : ∀ e ∈ a'.appliedEvents, e ∈ a.appliedEvents ∨ e = event := by
    intro e he
    rwa [hadv.appliedEvents, List.mem_append, List.mem_singleton] at he
  constructor
  · intro e he id n hid
    rcases hmem e he with he | rfl
    · exact (hnum.submits e he id n hid).trans hadv.counts.1
    · exact hsubmit id n hid
  · intro e he id n hid
    rcases hmem e he with he | rfl
    · exact (hnum.cancels e he id n hid).trans hadv.counts.2
    · exact hcancel id n hid

/-- The repository numbers its write-ahead events. -/
theorem Issued.numbered {a : OrderAggregate} (h : Issued a) : Numbered a := by
  induction h with
  | fromIntent intent =>
    exact ⟨by simp [OrderAggregate.fromIntent], by simp [OrderAggregate.fromIntent]⟩
  | @submitStarted a a' _ happly ih =>
    rcases apply_cases happly with rfl | hadv
    · exact ih
    have hattempts : a'.submitAttempts = a.submitAttempts + 1 := by
      rw [apply_submitStarted ih _ happly]
      rfl
    refine hadv.numbered ih (fun id n hid => ?_) fun id n hid => by cases hid
    cases hid
    omega
  | @cancelRequested a a' _ happly ih =>
    rcases apply_cases happly with rfl | hadv
    · exact ih
    have hrequests : a'.cancelRequests = a.cancelRequests + 1 := by
      rw [apply_cancelRequested ih _ happly]
      rfl
    refine hadv.numbered ih (fun id n hid => by cases hid) fun id n hid => ?_
    cases hid
    omega
  | @other a a' event _ hsubmit hcancel happly ih =>
    rcases apply_cases happly with rfl | hadv
    · exact ih
    · exact hadv.numbered ih (fun id n hid => absurd hid (hsubmit id n))
        fun id n hid => absurd hid (hcancel id n)

end OrderAggregate

end FirmQuant
