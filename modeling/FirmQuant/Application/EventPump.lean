import FirmQuant.Broker.Normalization
import FirmQuant.Foundation.IsoDateTime
import FirmQuant.Persistence.BrokerEvents

/-!
# The callback pump and its journal

`DomainEventPump` of `application/event_pump.py`, which normalizes callbacks and queues them for one
writer, and `ProductionEventJournal` of `application/production_events.py`, which records what the
writer is given.

The broker delivers a callback at least once.  The journal knows a callback by its id and compares
what it stored for it with what it is given; the time of receipt is part of both.
-/

namespace FirmQuant

open Effect Normalization

/-! ## The journal -/

/-- The tables and the reason that the journal keeps for its owner. -/
structure EventJournal where
  tables : CallbackTables
  pendingHaltReason : Option String
  deriving DecidableEq

namespace ProductionEventJournal

variable (env : AuditEnvironment)

/-- `_risk_code`. -/
def riskCode : BrokerEventType → Option String
  | .orderError => some "BROKER_ORDER_ERROR"
  | .cancelError => some "BROKER_CANCEL_ERROR"
  | .disconnected => some "BROKER_DISCONNECTED"
  | _ => none

/-- The payload of the risk event of a callback. -/
def riskPayload (event : BrokerEventEnvelope) (fact : OperationalData) : LedgerValue :=
  .mapping
    ((.text "schema", .text "firmquant.broker-operational-risk.v1") ::
      (.text "broker_event_id", .text event.brokerEventId) ::
      (.text "event_type", .text event.eventType.value) ::
      [(.text "broker_order_id", optionalText fact.brokerOrderId),
        (.text "client_order_id", optionalText fact.clientOrderId),
        (.text "error_code",
          match fact.errorCode with
          | some code => .int code
          | none => .none),
        (.text "message_sha256", optionalText fact.messageSha256)])

/-- `INSERT INTO risk_events`, with the checks of the table. -/
def insertRisk (row : CallbackRiskEventRow) : EStateM LedgerError CallbackTables PUnit := do
  let tables ← get
  refuse (tables.riskEvents.any fun r => r.riskEventId = row.riskEventId)
    (.integrityError "risk_events.risk_event_id")
  refuse (env.jsonValid row.payloadJson = false) (.integrityError "json_valid(payload_json)")
  refuse (row.payloadSha256.length ≠ 64) (.integrityError "length(payload_sha256) = 64")
  modify fun tables => { tables with riskEvents := tables.riskEvents ++ [row] }

/-- A call of the audit ledger. -/
def onAudit {α : Type} (x : EStateM LedgerError AuditTable α) :
    EStateM LedgerError CallbackTables α := fun tables =>
  match x tables.auditEvents with
  | .ok a rows => .ok a { tables with auditEvents := rows }
  | .error e rows => .error e { tables with auditEvents := rows }

/-- `_append_risk`. -/
def appendRisk (event : BrokerEventEnvelope) (fact : OperationalData) :
    EStateM LedgerError CallbackTables String :=
  match riskCode event.eventType with
  | none => throw (.valueError "economic broker event cannot create operational risk")
  | some code => do
    let payloadJson ← ofExcept (canonicalJson (riskPayload event fact))
    let payloadSha256 := env.sha256 payloadJson
    let riskEventId := "broker-risk-" ++ env.sha256 event.brokerEventId
    insertRisk env
      ⟨riskEventId, "CRITICAL", code, payloadJson, payloadSha256, event.receivedAt.isoformat⟩
    let _ ← onAudit <| AuditLedger.append env {
      auditEventId := riskEventId ++ ":audit"
      category := "RISK"
      actor := "production-event-journal"
      payload := .mapping [
        (.text "schema", .text "firmquant.broker-operational-risk.v1"),
        (.text "risk_event_id", .text riskEventId),
        (.text "broker_event_id", .text event.brokerEventId),
        (.text "code", .text code),
        (.text "payload_sha256", .text payloadSha256)]
      createdAt := .datetime event.receivedAt }
    return code

/-- The arguments with which the journal calls the repository. -/
def repositoryCall (event : BrokerEventEnvelope) : BrokerEventAppend where
  brokerEventId := event.brokerEventId
  eventType := event.eventType.value
  brokerSequence := some event.brokerSequence
  sessionDate := event.sessionDate
  eventTime := event.eventTime
  receivedAt := event.receivedAt
  safePayload := event.safePayload
  rawPayloadSha256 := event.rawPayloadSha256

/-- The transaction of `append`, with the reason of a new operational callback. -/
def record (event : BrokerEventEnvelope) (recordedAt : String) :
    EStateM LedgerError CallbackTables (Bool × Option String) := do
  let inserted ← BrokerEventRepository.append env (repositoryCall event) recordedAt
  if inserted then
    match event.fact with
    | .operational fact => do
      let reason ← appendRisk env event fact.1
      return (true, some reason)
    | _ => return (true, none)
  else return (false, none)

/-- `append`.  An exception rolls the transaction back. -/
def append (event : BrokerEventEnvelope) (recordedAt : String) :
    EStateM LedgerError EventJournal Bool := fun journal =>
  match record env event recordedAt journal.tables with
  | .ok (inserted, reason) tables =>
    .ok inserted ⟨tables, journal.pendingHaltReason.or reason⟩
  | .error e _ => .error e journal

/-! ## What is recorded stays -/

variable {env} {event : BrokerEventEnvelope} {recordedAt : String} {journal journal' : EventJournal}

variable {rows : List BrokerEventRow} {stable : StableValues}

lemma brokerEvents_insertRisk {row : CallbackRiskEventRow} :
    Keeps (fun tables => tables.brokerEvents = rows) (insertRisk env row) := by
  refine keeps_get_bind fun tables _ => ?_
  refine keeps_bind keeps_refuse fun _ => keeps_bind keeps_refuse fun _ =>
    keeps_bind keeps_refuse fun _ => ?_
  exact keeps_modify fun _ ht => ht

lemma brokerEvents_onAudit {α : Type} {x : EStateM LedgerError AuditTable α} :
    Keeps (fun tables => tables.brokerEvents = rows) (onAudit x) := by
  intro tables ht
  unfold onAudit
  cases x tables.auditEvents <;> exact ht

lemma brokerEvents_appendRisk {fact : OperationalData} :
    Keeps (fun tables => tables.brokerEvents = rows) (appendRisk env event fact) := by
  unfold appendRisk
  split
  · exact keeps_throw
  · refine keeps_bind ?_ fun payloadJson => keeps_bind brokerEvents_insertRisk fun _ =>
      keeps_bind brokerEvents_onAudit fun _ => keeps_pure
    intro tables ht
    cases canonicalJson (riskPayload event fact) <;> exact ht

/-- The transaction writes to `broker_events` what the repository writes. -/
lemma triple_record {tables : CallbackTables} :
    Triple (fun t => t = tables) (record env event recordedAt)
      (fun result tables' => ∃ appended, appended.brokerEvents = tables'.brokerEvents ∧
        BrokerEventRepository.Appended env (repositoryCall event) recordedAt tables result.1
          appended)
      (fun _ => True) := by
  have hrepository : Triple (fun t => t = tables)
      (BrokerEventRepository.append env (repositoryCall event) recordedAt)
      (BrokerEventRepository.Appended env (repositoryCall event) recordedAt tables)
      (fun _ => True) :=
    triple_error BrokerEventRepository.triple_append
      (fun _ _ => trivial)
  unfold record
  refine triple_bind hrepository fun inserted => ?_
  cases inserted with
  | false => exact triple_pure fun appended h => ⟨appended, rfl, h⟩
  | true =>
    rw [if_pos rfl]
    cases event.fact with
    | operational fact =>
      intro appended happended
      have hkeeps : Keeps (fun tables => tables.brokerEvents = appended.brokerEvents)
          (appendRisk env event fact.1) := brokerEvents_appendRisk
      have hrisk := hkeeps appended rfl
      dsimp only
      rw [bind_apply]
      cases h : appendRisk env event fact.1 appended with
      | ok reason tables' =>
        rw [h] at hrisk
        exact ⟨appended, hrisk.symm, happended⟩
      | error e tables' => trivial
    | order _ | fill _ | quote _ => exact triple_pure fun appended h => ⟨appended, rfl, h⟩

/-- After an `append` that returns, the callback is stored with the values of this envelope. -/
lemma append_stores {inserted : Bool}
    (h : append env event recordedAt journal = .ok inserted journal') :
    journal.tables.brokerEvents <+: journal'.tables.brokerEvents ∧
      ∃ row, BrokerEventRepository.find event.brokerEventId journal'.tables = some row ∧
        BrokerEventRepository.prepare env (repositoryCall event) = .ok row.stable := by
  unfold append at h
  cases hrecord : record env event recordedAt journal.tables with
  | error e tables => rw [hrecord] at h; cases h
  | ok result tables =>
    obtain ⟨b, reason⟩ := result
    rw [hrecord] at h
    cases h
    obtain ⟨appended, heq, happended⟩ := triple_record.ok hrecord rfl
    obtain ⟨hgrows, row, hfind, hprepare⟩ := happended.exists_find
    refine ⟨heq ▸ hgrows, row, ?_, hprepare⟩
    unfold BrokerEventRepository.find at hfind ⊢
    rw [← heq]
    exact hfind

/-- A callback whose id is stored: `append` compares the values and writes nothing. -/
lemma append_of_find {row : BrokerEventRow}
    (hprepare : BrokerEventRepository.prepare env (repositoryCall event) = .ok stable)
    (hfind : BrokerEventRepository.find event.brokerEventId journal.tables = some row) :
    append env event recordedAt journal =
      if row.stable = stable then .ok false journal
      else .error (BrokerEventRepository.collision event.brokerEventId) journal := by
  have hrepository : BrokerEventRepository.append env (repositoryCall event) recordedAt
      journal.tables = _ := BrokerEventRepository.append_of_find hprepare hfind
  unfold append record
  rw [bind_apply, hrepository]
  by_cases hsame : row.stable = stable
  · simp only [hsame, if_true]
    change EStateM.Result.ok false
      (⟨journal.tables, journal.pendingHaltReason.or none⟩ : EventJournal) = _
    rw [Option.or_none]
  · simp only [hsame, if_false]
    rfl

/-! ## The journal between two deliveries -/

/-- What may happen to the journal and its database. -/
inductive Step (env : AuditEnvironment) : EventJournal → EventJournal → Prop
  | append {event : BrokerEventEnvelope} {recordedAt : String} {inserted : Bool}
      {journal journal' : EventJournal}
      (h : ProductionEventJournal.append env event recordedAt journal = .ok inserted journal') :
      Step env journal journal'
  /-- The process is started again and opens the same database. -/
  | restart {journal : EventJournal} : Step env journal { journal with pendingHaltReason := none }
  /-- Another writer of the database, whose table takes no updates and no deletions. -/
  | other {journal : EventJournal} {tables : CallbackTables}
      (h : journal.tables.brokerEvents <+: tables.brokerEvents) :
      Step env journal { journal with tables := tables }

lemma Step.grows (h : Step env journal journal') :
    journal.tables.brokerEvents <+: journal'.tables.brokerEvents := by
  cases h with
  | append h => exact (append_stores h).1
  | restart => exact List.prefix_rfl
  | other h => exact h

/-- Whatever happens, what was recorded stays recorded. -/
lemma grows_of_steps (h : Relation.ReflTransGen (Step env) journal journal') :
    journal.tables.brokerEvents <+: journal'.tables.brokerEvents := by
  induction h with
  | refl => exact List.prefix_rfl
  | tail _ hstep ih => exact ih.trans hstep.grows

/-! ## Redelivery -/

lemma jsonMembers_append (xs ys : List (MappingKey × LedgerValue)) :
    LedgerValue.jsonMembers (xs ++ ys) =
      LedgerValue.jsonMembers xs >>= fun ms =>
        LedgerValue.jsonMembers ys >>= fun ns => pure (ms ++ ns) := by
  induction xs with
  | nil =>
    have hnil : LedgerValue.jsonMembers [] = pure [] := rfl
    rw [hnil, pure_bind, List.nil_append]
    exact (bind_pure _).symm
  | cons x xs ih =>
    obtain ⟨key, value⟩ := x
    have hcons : ∀ zs, LedgerValue.jsonMembers ((key, value) :: zs) =
        (LedgerValue.jsonKey key >>= fun k => LedgerValue.jsonValue value >>= fun v =>
          LedgerValue.jsonMembers zs >>= fun ms => pure ((k, v) :: ms)) := fun _ => rfl
    rw [List.cons_append, hcons, hcons, ih]
    simp only [bind_assoc, pure_bind, List.cons_append]

/-- The safe payload is encoded at every time of receipt, or at none. -/
lemma exists_canonicalJson_restamp {fact : EventFact} {text : String}
    (h : canonicalJson (safePayload fact) = .ok text) (t : AwareDateTime) :
    ∃ text', canonicalJson (safePayload (fact.restamp t)) = .ok text' := by
  have htimes : ∀ fact : EventFact, ∃ ns, LedgerValue.jsonMembers (timeMembers fact) = .ok ns :=
    fun _ => ⟨_, rfl⟩
  have hpayload : ∀ fact : EventFact, (safePayload fact).jsonValue =
      (LedgerValue.jsonMembers (factMembers fact ++ timeMembers fact) >>= fun members =>
        pure (.obj (members.foldl (fun ms m => LedgerValue.insertMember m.1 m.2 ms) []))) :=
    fun _ => rfl
  obtain ⟨v, hv, -⟩ := canonicalJson_eq_ok.mp h
  rw [hpayload, jsonMembers_append] at hv
  obtain ⟨members, hmembers, -⟩ := bind_ok_iff.mp hv
  obtain ⟨ms, hms, -⟩ := bind_ok_iff.mp hmembers
  obtain ⟨ns, hns⟩ := htimes (fact.restamp t)
  have hvalue : (safePayload (fact.restamp t)).jsonValue =
      pure (.obj ((ms ++ ns).foldl (fun ms m => LedgerValue.insertMember m.1 m.2 ms) [])) := by
    rw [hpayload, jsonMembers_append, EventFact.restamp_factMembers, hms, hns]
    rfl
  exact ⟨_, canonicalJson_eq_ok.mpr ⟨_, hvalue, rfl⟩⟩

/-- Received at another time, a callback has the same values but for that time and the text of the
payload. -/
lemma prepare_restamp {stable : StableValues}
    (hpayload : event.safePayload = safePayload event.fact)
    (h : BrokerEventRepository.prepare env (repositoryCall event) = .ok stable)
    (t : AwareDateTime) :
    ∃ stable', BrokerEventRepository.prepare env (repositoryCall (event.restamp t)) = .ok stable' ∧
      stable'.receivedAt = t.isoformat := by
  unfold BrokerEventRepository.prepare at h
  obtain ⟨_, hid, h⟩ := bind_ok_iff.mp h
  obtain ⟨_, htype, h⟩ := bind_ok_iff.mp h
  obtain ⟨_, hsequence, h⟩ := bind_ok_iff.mp h
  obtain ⟨_, hraw, h⟩ := bind_ok_iff.mp h
  obtain ⟨text, htext, h⟩ := bind_ok_iff.mp h
  have hencoded : canonicalJson (safePayload event.fact) = .ok text := hpayload ▸ htext
  obtain ⟨text', htext'⟩ := exists_canonicalJson_restamp hencoded t
  refine ⟨BrokerEventRepository.stableValues env (repositoryCall (event.restamp t)) text', ?_, rfl⟩
  unfold BrokerEventRepository.prepare
  exact bind_ok_iff.mpr ⟨_, hid, bind_ok_iff.mpr ⟨_, htype,
    bind_ok_iff.mpr ⟨_, hsequence, bind_ok_iff.mpr ⟨_, hraw,
      bind_ok_iff.mpr ⟨_, htext', rfl⟩⟩⟩⟩⟩

lemma receivedAt_of_prepare
    (h : BrokerEventRepository.prepare env (repositoryCall event) = .ok stable) :
    stable.receivedAt = event.receivedAt.isoformat := by
  unfold BrokerEventRepository.prepare at h
  iterate 4 obtain ⟨_, _, h⟩ := bind_ok_iff.mp h
  obtain ⟨text, _, h⟩ := bind_ok_iff.mp h
  cases h
  rfl

/-- **A second delivery.**  The journal knows the callback if it was received at the same time; else
it takes it for another callback with the same id. -/
lemma append_again {s t : AwareDateTime} {first : BrokerEventEnvelope} {inserted : Bool}
    {firstAt secondAt : String} {later : EventJournal} (hstamp : first.restamp s = first)
    (hfirst : append env first firstAt journal = .ok inserted journal')
    (hlater : Relation.ReflTransGen (Step env) journal' later) :
    append env (first.restamp t) secondAt later =
      if t = s then .ok false later
      else .error (BrokerEventRepository.collision first.brokerEventId) later := by
  obtain ⟨-, row, hfind, hprepare⟩ := append_stores hfirst
  have hfound := BrokerEventRepository.find_of_prefix (grows_of_steps hlater) hfind
  have hpayload : first.safePayload = safePayload first.fact := by
    rw [← hstamp]
    rfl
  have hreceived : row.stable.receivedAt = s.isoformat := by
    rw [receivedAt_of_prepare hprepare, ← hstamp]
    rfl
  obtain ⟨stable, hprepare', hreceived'⟩ := prepare_restamp hpayload hprepare t
  have happend : append env (first.restamp t) secondAt later = _ := append_of_find hprepare' hfound
  rw [happend]
  by_cases ht : t = s
  · have hsame : row.stable = stable := by
      rw [ht, hstamp] at hprepare'
      exact Except.ok.inj (hprepare.symm.trans hprepare')
    rw [if_pos hsame, if_pos ht]
  · have hdiffers : row.stable ≠ stable := by
      intro hsame
      rw [hsame, hreceived'] at hreceived
      exact ht (AwareDateTime.isoformat_injective hreceived)
    rw [if_neg hdiffers, if_neg ht]
    rfl

end ProductionEventJournal

/-! ## The pump -/

/-- The exceptions of the pump; a writer raises exceptions of its own. -/
inductive PumpError (ω : Type)
  /-- `BrokerEventPumpHalted`. -/
  | halted
  | normalization (error : NormalizationError)
  /-- `BrokerEventQueueOverflow`. -/
  | queueOverflow
  /-- `BrokerEventWriterViolation`. -/
  | writerViolation
  | writer (error : ω)

/-- A `DomainEventPump`, its threads by their number. -/
structure DomainEventPump where
  capacity : ℕ
  queue : List BrokerEventEnvelope
  halt : Bool
  haltReason : Option String
  overflowEnvelope : Option BrokerEventEnvelope
  failedEnvelope : Option BrokerEventEnvelope
  writerThreadId : Option ℕ
  capacity_pos : 0 < capacity
  queue_le : queue.length ≤ capacity

namespace DomainEventPump

/-- A new pump. -/
def create (capacity : ℕ) (h : 0 < capacity) : DomainEventPump :=
  ⟨capacity, [], false, none, none, none, none, h, capacity.zero_le⟩

/-- `_mark_halt`: the first reason stays. -/
def markHalt (reason : String) (pump : DomainEventPump) : DomainEventPump :=
  { pump with haltReason := pump.haltReason.or (some reason), halt := true }

/-- `_accept`, at a reading of the clock. -/
def accept (env : NormalizationEnvironment) {ω : Type} (reading raw : LedgerValue) :
    EStateM (PumpError ω) DomainEventPump PUnit := fun pump =>
  if pump.halt then .error .halted pump
  else
    match normalizeBrokerEvent env raw reading with
    | .error error =>
      .error (.normalization error)
        (if error.isDomainError then pump.markHalt "BROKER_EVENT_NORMALIZATION_FAILED" else pump)
    | .ok envelope =>
      if h : pump.queue.length < pump.capacity then
        .ok ⟨⟩ { pump with
          queue := pump.queue ++ [envelope]
          queue_le := by rw [List.length_append]; exact h }
      else
        .error .queueOverflow
          ({ pump with overflowEnvelope := envelope }.markHalt "BROKER_EVENT_QUEUE_OVERFLOW")

variable {norm : NormalizationEnvironment} {ω : Type} {reading raw : LedgerValue}
  {pump pump' : DomainEventPump}

lemma accept_ok (h : accept norm (ω := ω) reading raw pump = .ok ⟨⟩ pump') :
    ∃ envelope, normalizeBrokerEvent norm raw reading = .ok envelope ∧
      pump'.queue = pump.queue ++ [envelope] := by
  unfold accept at h
  split at h
  · cases h
  · split at h
    · cases h
    · next envelope hnormalize =>
      split at h
      · cases h
        exact ⟨envelope, hnormalize, rfl⟩
      · cases h

/-- A new pump takes whatever is normalized. -/
lemma accept_create {capacity : ℕ} {envelope : BrokerEventEnvelope}
    (h : normalizeBrokerEvent norm raw reading = .ok envelope) (hpos : 0 < capacity) :
    ∃ pump', accept norm (ω := ω) reading raw (create capacity hpos) = .ok ⟨⟩ pump' ∧
      pump'.queue = [envelope] := by
  refine ⟨{ create capacity hpos with
    queue := [envelope]
    queue_le := hpos }, ?_, rfl⟩
  unfold accept
  rw [h]
  exact dif_pos hpos

end DomainEventPump

/-! ## Redelivery -/

section Redelivery

open ProductionEventJournal DomainEventPump

variable {norm : NormalizationEnvironment} {env : AuditEnvironment} {ω : Type} {raw : LedgerValue}
  {s t : AwareDateTime} {pump₁ pump₁' pump₂ pump₂' : DomainEventPump} {first : BrokerEventEnvelope}
  {firstAt secondAt : String} {inserted : Bool} {journal journal' later : EventJournal}

/-- What the pump makes of the two deliveries of a callback that was recorded. -/
lemma redelivered (haccept₁ : accept norm (ω := ω) (.datetime s) raw pump₁ = .ok ⟨⟩ pump₁')
    (hqueue₁ : pump₁'.queue = pump₁.queue ++ [first])
    (hfirst : append env first firstAt journal = .ok inserted journal')
    (hlater : Relation.ReflTransGen (Step env) journal' later)
    (haccept₂ : accept norm (ω := ω) (.datetime t) raw pump₂ = .ok ⟨⟩ pump₂') :
    ∃ second, pump₂'.queue = pump₂.queue ++ [second] ∧
      append env second secondAt later =
        if t = s then .ok false later
        else .error (BrokerEventRepository.collision first.brokerEventId) later := by
  obtain ⟨envelope, hnormalize, henvelope⟩ := accept_ok haccept₁
  have heq : envelope = first := by
    have hlists := henvelope.symm.trans hqueue₁
    exact (List.cons.inj (List.append_cancel_left hlists)).1
  rw [heq] at hnormalize
  obtain ⟨hstamp, hagain⟩ := normalizeBrokerEvent_again hnormalize
  obtain ⟨second, hsecond, hqueue₂⟩ := accept_ok haccept₂
  have hrestamped : second = first.restamp t := Except.ok.inj (hsecond.symm.trans (hagain t))
  exact ⟨second, hqueue₂, hrestamped ▸ append_again hstamp hfirst hlater⟩

/-- **Redelivery.**  A callback was taken by the pump at `s` and recorded.  Whatever happened to the
journal since, when the pump takes the same callback at `t`, to append it again returns `False` and
changes nothing exactly when both were received at the same time; else it raises. -/
theorem redelivery_idempotent_iff
    (haccept₁ : accept norm (ω := ω) (.datetime s) raw pump₁ = .ok ⟨⟩ pump₁')
    (hqueue₁ : pump₁'.queue = pump₁.queue ++ [first])
    (hfirst : append env first firstAt journal = .ok inserted journal')
    (hlater : Relation.ReflTransGen (Step env) journal' later)
    (haccept₂ : accept norm (ω := ω) (.datetime t) raw pump₂ = .ok ⟨⟩ pump₂') :
    ∃ second, pump₂'.queue = pump₂.queue ++ [second] ∧
      (append env second secondAt later = .ok false later ↔ t = s) ∧
      (t ≠ s → append env second secondAt later =
        .error (BrokerEventRepository.collision first.brokerEventId) later) := by
  obtain ⟨second, hqueue₂, happend⟩ := redelivered haccept₁ hqueue₁ hfirst hlater haccept₂
  refine ⟨second, hqueue₂, ?_, fun ht => happend.trans (if_neg ht)⟩
  rw [happend]
  constructor
  · intro h
    by_contra ht
    rw [if_neg ht] at h
    cases h
  · exact fun ht => if_pos ht

end Redelivery

namespace RedeliverySample

/-- The payload of a fill, as the pump hashes it. -/
def rawText : String :=
  "\x7b\"broker_fill_id\":\"f1\",\"broker_order_id\":\"b1\",\"commission\":\"5\"," ++
  "\"event_sequence\":7,\"event_time\":\"2024-01-02T09:31:00+08:00\",\"price\":\"10.01\"," ++
  "\"session_date\":\"2024-01-02\",\"shares\":100,\"side\":\"BUY\",\"stamp_duty\":\"0\"," ++
  "\"status\":\"CONFIRMED\",\"symbol\":\"600001\",\"transfer_fee\":\"0.01\"\x7d"

/-- Its safe payload, received at this time. -/
def safeText (receivedAt : String) : String :=
  "\x7b\"broker_fill_id\":\"f1\",\"broker_order_id\":\"b1\",\"commission\":\"5\"," ++
  "\"event_time\":\"2024-01-02T09:31:00+08:00\",\"price\":\"10.01\",\"received_at\":\"" ++
  receivedAt ++ "\",\"session_date\":\"2024-01-02\",\"shares\":100,\"side\":\"BUY\"," ++
  "\"stamp_duty\":\"0\",\"status\":\"CONFIRMED\",\"symbol\":\"sh600001\"," ++
  "\"transfer_fee\":\"0.01\"\x7d"

/-- SHA-256 at the three texts; other texts are not hashed here. -/
def sha256 (text : String) : String :=
  if text = rawText then "030594e3edbc2057610bc19f4bbf28cde9473aa2f24b46fb816082cab477c1cc"
  else if text = safeText "2024-01-02T09:31:01+08:00" then
    "4195e45917f5cc9fb08603401149e967328efcfa63b61b34311d015d8d2adc82"
  else if text = safeText "2024-01-02T09:31:02+08:00" then
    "2985dc95ce34da05629cda894a6ae1f4eb32f05ef86553c9a66023648ef002c2"
  else AuditLedger.zeroHash

/-- A time of the morning in Shanghai. -/
def time (second : Fin 60) : AwareDateTime :=
  ⟨⟨2024, 1, 2, secondJanuary_valid⟩, 9, 31, second, 0, 28800000000, by decide, by decide, second.2,
    zero_lt_microseconds, eightHours_lt⟩

def normalization : NormalizationEnvironment where
  sha256 := sha256
  upper text := String.ofList (text.toList.map Char.toUpper)
  decimalOther _ := none
  dateOther _ := none
  datetimeOf text := if text = "2024-01-02T09:31:00+08:00" then some (some (time 0)) else none

def system : AuditEnvironment where
  sha256 := sha256
  lower text := text
  jsonValid _ := true

/-- The fill, as the broker delivers it. -/
def raw : LedgerValue :=
  .mapping
    [(.text "event_id", .text "evt-1"), (.text "event_type", .text "FILL"),
      (.text "payload", .mapping
        [(.text "broker_fill_id", .text "f1"), (.text "broker_order_id", .text "b1"),
          (.text "symbol", .text "600001"), (.text "side", .text "BUY"),
          (.text "status", .text "CONFIRMED"), (.text "shares", .int 100),
          (.text "price", .text "10.01"), (.text "commission", .text "5"),
          (.text "stamp_duty", .text "0"), (.text "transfer_fee", .text "0.01"),
          (.text "session_date", .text "2024-01-02"),
          (.text "event_time", .text "2024-01-02T09:31:00+08:00"),
          (.text "event_sequence", .int 7)])]

/-- An empty journal. -/
def journal : EventJournal := ⟨⟨[], [], []⟩, none⟩

/-- The journal records what was normalized. -/
def recorded (delivery : Except NormalizationError BrokerEventEnvelope) : Bool :=
  match delivery with
  | .ok first =>
    returnsWith (fun inserted _ => inserted) (ProductionEventJournal.append system first "" journal)
  | .error _ => false

lemma exists_of_recorded {delivery : Except NormalizationError BrokerEventEnvelope}
    (h : recorded delivery = true) : ∃ first journal', delivery = .ok first ∧
      ProductionEventJournal.append system first "" journal = .ok true journal' := by
  cases delivery with
  | error error => cases h
  | ok first =>
    obtain ⟨inserted, journal', happend, hinserted⟩ := exists_ok_of_returnsWith h
    exact ⟨first, journal', rfl, hinserted ▸ happend⟩

/-- A new pump. -/
def pump : DomainEventPump := DomainEventPump.create 1 Nat.one_pos

/-- The pump takes the fill at every time, and the journal records what it took first. -/
lemma exists_recorded : ∃ first journal' pump',
    DomainEventPump.accept normalization (ω := LedgerError) (.datetime (time 1)) raw pump =
        .ok ⟨⟩ pump' ∧
      pump'.queue = pump.queue ++ [first] ∧
      ProductionEventJournal.append system first "" journal = .ok true journal' ∧
      ∃ again,
        DomainEventPump.accept normalization (ω := LedgerError) (.datetime (time 2)) raw pump =
          .ok ⟨⟩ again := by
  have hrecorded :
      recorded (normalizeBrokerEvent normalization raw (.datetime (time 1))) = true := by
    decide +kernel
  obtain ⟨first, journal', hfirst, happend⟩ := exists_of_recorded hrecorded
  have hagain := (normalizeBrokerEvent_again hfirst).2 (time 2)
  obtain ⟨pump', haccept, hqueue⟩ := DomainEventPump.accept_create hfirst Nat.one_pos
  obtain ⟨again, haccept', -⟩ := DomainEventPump.accept_create hagain Nat.one_pos
  exact ⟨first, journal', pump', haccept, hqueue, happend, again, haccept'⟩

end RedeliverySample

section Redelivery

open ProductionEventJournal DomainEventPump

/-- The fill is delivered again a second later. -/
theorem redelivery_of_fill :
    ∃ first later, ∃ second : BrokerEventEnvelope,
      append RedeliverySample.system first "" RedeliverySample.journal = .ok true later ∧
        (append RedeliverySample.system second "" later = .ok false later ↔
          RedeliverySample.time 2 = RedeliverySample.time 1) := by
  obtain ⟨first, later, pump', haccept, hqueue, happend, again, hagain⟩ :=
    RedeliverySample.exists_recorded
  obtain ⟨second, -, hiff, -⟩ := redelivery_idempotent_iff (t := RedeliverySample.time 2)
    haccept hqueue happend Relation.ReflTransGen.refl hagain
  exact ⟨first, later, second, happend, hiff⟩

/-- A fill that is delivered again a second later is refused as another event of the same id. -/
theorem redelivered_fill_raises :
    ¬ ∀ (norm : NormalizationEnvironment) (env : AuditEnvironment) (raw : LedgerValue)
      (s t : AwareDateTime) (pump₁ pump₁' pump₂ pump₂' : DomainEventPump)
      (first : BrokerEventEnvelope) (firstAt secondAt : String) (inserted : Bool)
      (journal journal' later : EventJournal),
      accept norm (ω := LedgerError) (.datetime s) raw pump₁ = .ok ⟨⟩ pump₁' →
      pump₁'.queue = pump₁.queue ++ [first] →
      append env first firstAt journal = .ok inserted journal' →
      Relation.ReflTransGen (Step env) journal' later →
      accept norm (ω := LedgerError) (.datetime t) raw pump₂ = .ok ⟨⟩ pump₂' →
      ∃ second, pump₂'.queue = pump₂.queue ++ [second] ∧
        append env second secondAt later = .ok false later := by
  intro hclaim
  obtain ⟨first, later, pump', haccept, hqueue, happend, again, hagain⟩ :=
    RedeliverySample.exists_recorded
  obtain ⟨second, hsecond, hreturns⟩ := hclaim RedeliverySample.normalization
    RedeliverySample.system RedeliverySample.raw (RedeliverySample.time 1) (RedeliverySample.time 2)
    RedeliverySample.pump pump' RedeliverySample.pump again first "" "" true
    RedeliverySample.journal later later haccept hqueue happend Relation.ReflTransGen.refl hagain
  obtain ⟨second', hsecond', hraises⟩ := redelivered haccept hqueue happend
    Relation.ReflTransGen.refl hagain
  have hlists := hsecond'.symm.trans hsecond
  have hsame : second' = second := (List.cons.inj (List.append_cancel_left hlists)).1
  have hlater : RedeliverySample.time 2 ≠ RedeliverySample.time 1 := by decide
  rw [hsame, hreturns, if_neg hlater] at hraises
  cases hraises

end Redelivery

end FirmQuant
