import FirmQuant.Domain.Text
import FirmQuant.Persistence.AuditChain

/-!
# Broker events in the database

`BrokerEventRepository` of `persistence/repositories.py` over the table `broker_events`, and the
table `risk_events`, each with the checks of `persistence/schema.py`.

Both tables and the audit table are append-only: the schema rejects every update and every deletion.
-/

namespace FirmQuant

open Effect

/-- The columns of a broker event that a second append is compared by. -/
structure StableValues where
  eventType : String
  brokerSequence : Option ℤ
  sessionDate : String
  eventTime : String
  receivedAt : String
  safePayloadJson : String
  safePayloadSha256 : String
  rawPayloadSha256 : String
  deriving DecidableEq

/-- A row of `broker_events`. -/
structure BrokerEventRow where
  brokerEventId : String
  stable : StableValues
  recordedAt : String
  deriving DecidableEq

/-- A row of `risk_events` without an order and a symbol. -/
structure CallbackRiskEventRow where
  riskEventId : String
  severity : String
  code : String
  payloadJson : String
  payloadSha256 : String
  createdAt : String
  deriving DecidableEq

/-- The tables that a callback is written to. -/
structure CallbackTables where
  brokerEvents : List BrokerEventRow
  riskEvents : List CallbackRiskEventRow
  auditEvents : AuditTable
  deriving DecidableEq

/-- The arguments of `BrokerEventRepository.append`. -/
structure BrokerEventAppend where
  brokerEventId : String
  eventType : String
  brokerSequence : Option ℤ
  sessionDate : CalendarDate
  eventTime : AwareDateTime
  receivedAt : AwareDateTime
  safePayload : LedgerValue
  rawPayloadSha256 : String

namespace BrokerEventRepository

/-- `_require_text`. -/
def requireText (label value : String) : Except LedgerError PUnit :=
  refuse (value = "" ∨ strip value.toList ≠ value.toList)
    (.valueError (label ++ " must be canonical non-empty text"))

/-- `_require_sha256`. -/
def requireSha256 (label value : String) : Except LedgerError PUnit :=
  refuse (isSha256 value = false) (.valueError (label ++ " must be lowercase SHA-256"))

/-- The values of the columns that a payload's text gives. -/
def stableValues (env : AuditEnvironment) (call : BrokerEventAppend) (payloadJson : String) :
    StableValues where
  eventType := call.eventType
  brokerSequence := call.brokerSequence
  sessionDate := call.sessionDate.isoformat
  eventTime := call.eventTime.isoformat
  receivedAt := call.receivedAt.isoformat
  safePayloadJson := payloadJson
  safePayloadSha256 := env.sha256 payloadJson
  rawPayloadSha256 := call.rawPayloadSha256

/-- What `append` does before it reads the table. -/
def prepare (env : AuditEnvironment) (call : BrokerEventAppend) :
    Except LedgerError StableValues := do
  requireText "broker event id" call.brokerEventId
  requireText "broker event type" call.eventType
  refuse (call.brokerSequence.any (· < 0))
    (.valueError "broker event sequence must be a nonnegative integer or null")
  requireSha256 "raw payload hash" call.rawPayloadSha256
  let payloadJson ← canonicalJson call.safePayload
  return stableValues env call payloadJson

/-- `INSERT INTO broker_events`, with the checks of the table. -/
def insert (env : AuditEnvironment) (row : BrokerEventRow) :
    EStateM LedgerError CallbackTables PUnit := do
  let tables ← get
  refuse (row.stable.brokerSequence.any (2 ^ 63 ≤ ·)) .overflowError
  refuse (tables.brokerEvents.any fun r => r.brokerEventId = row.brokerEventId)
    (.integrityError "broker_events.broker_event_id")
  refuse (env.jsonValid row.stable.safePayloadJson = false)
    (.integrityError "json_valid(safe_payload_json)")
  refuse (row.stable.safePayloadSha256.length ≠ 64)
    (.integrityError "length(safe_payload_sha256) = 64")
  refuse (row.stable.rawPayloadSha256.length ≠ 64)
    (.integrityError "length(raw_payload_sha256) = 64")
  modify fun tables => { tables with brokerEvents := tables.brokerEvents ++ [row] }

/-- The exception for an id that is stored with other values. -/
def collision (brokerEventId : String) : LedgerError :=
  .persistenceConflict ("broker event identity collision: " ++ brokerEventId)

/-- The stored row of an id. -/
def find (brokerEventId : String) (tables : CallbackTables) : Option BrokerEventRow :=
  tables.brokerEvents.find? fun row => row.brokerEventId = brokerEventId

/-- `append`, at a reading of the wall clock. -/
def append (env : AuditEnvironment) (call : BrokerEventAppend) (recordedAt : String) :
    EStateM LedgerError CallbackTables Bool := do
  let stable ← ofExcept (prepare env call)
  let tables ← get
  match find call.brokerEventId tables with
  | some row => if row.stable = stable then return false else throw (collision call.brokerEventId)
  | none =>
    insert env ⟨call.brokerEventId, stable, recordedAt⟩
    return true

/-! ## What an append does -/

/-- How `append` returns: with a row of the same values that is stored, or with a new one. -/
inductive Appended (env : AuditEnvironment) (call : BrokerEventAppend) (recordedAt : String)
    (tables : CallbackTables) : Bool → CallbackTables → Prop
  | known {stable : StableValues} {row : BrokerEventRow} (hprepare : prepare env call = .ok stable)
      (hfind : find call.brokerEventId tables = some row) (hsame : row.stable = stable) :
      Appended env call recordedAt tables false tables
  | new {stable : StableValues} (hprepare : prepare env call = .ok stable)
      (hfind : find call.brokerEventId tables = none) :
      Appended env call recordedAt tables true
        { tables with
          brokerEvents := tables.brokerEvents ++ [⟨call.brokerEventId, stable, recordedAt⟩] }

variable {env : AuditEnvironment} {call : BrokerEventAppend} {recordedAt : String}
  {tables tables' : CallbackTables}

variable {row : BrokerEventRow}

lemma triple_insert :
    Triple (fun t => t = tables) (insert env row)
      (fun _ t => t = { tables with brokerEvents := tables.brokerEvents ++ [row] })
      (fun t => t = tables) := by
  refine triple_get_bind fun t ht => ?_
  refine triple_bind keeps_refuse fun _ => triple_bind keeps_refuse fun _ =>
    triple_bind keeps_refuse fun _ => triple_bind keeps_refuse fun _ =>
    triple_bind keeps_refuse fun _ => ?_
  exact triple_modify fun t ht => by rw [ht]

/-- An `append` that raises changes nothing. -/
theorem triple_append :
    Triple (fun t => t = tables) (append env call recordedAt) (Appended env call recordedAt tables)
      (fun t => t = tables) := by
  unfold append
  cases hprepare : prepare env call with
  | error failure => exact fun t ht => ht
  | ok stable =>
    refine triple_bind (Q := fun v t => v = stable ∧ t = tables) (fun t ht => ⟨rfl, ht⟩) fun v => ?_
    refine triple_assume fun heq => triple_get_bind fun t ht => ?_
    rw [heq, ht]
    cases hfind : find call.brokerEventId tables with
    | none =>
      refine triple_bind triple_insert fun _ => triple_pure fun t ht => ?_
      rw [ht]
      exact .new hprepare hfind
    | some row =>
      by_cases hsame : row.stable = stable
      · simp only [hsame, if_true]
        refine triple_pure fun t ht => ?_
        rw [ht]
        exact .known hprepare hfind hsame
      · simp only [hsame]
        exact triple_throw fun t ht => ht

/-- After an `append` that returns, the id is stored with the values of the call. -/
lemma Appended.exists_find {inserted : Bool}
    (h : Appended env call recordedAt tables inserted tables') :
    tables.brokerEvents <+: tables'.brokerEvents ∧
      ∃ row, find call.brokerEventId tables' = some row ∧ prepare env call = .ok row.stable := by
  cases h with
  | known hprepare hfind hsame =>
    exact ⟨List.prefix_rfl, _, hfind, hsame ▸ hprepare⟩
  | new hprepare hfind =>
    refine ⟨List.prefix_append _ _, ⟨call.brokerEventId, _, recordedAt⟩, ?_, hprepare⟩
    unfold find at hfind ⊢
    rw [List.find?_append, hfind, Option.none_or]
    simp

lemma find_of_prefix {brokerEventId : String}
    (hgrows : tables.brokerEvents <+: tables'.brokerEvents)
    (h : find brokerEventId tables = some row) : find brokerEventId tables' = some row := by
  obtain ⟨rows, hrows⟩ := hgrows
  unfold find at h ⊢
  rw [← hrows, List.find?_append, h, Option.some_or]

/-- An id that is stored: `append` compares the values and writes nothing. -/
lemma append_of_find {stable : StableValues} (hprepare : prepare env call = .ok stable)
    (hfind : find call.brokerEventId tables = some row) :
    append env call recordedAt tables =
      if row.stable = stable then .ok false tables
      else .error (collision call.brokerEventId) tables := by
  have hread :
      (ofExcept (prepare env call) : EStateM LedgerError CallbackTables StableValues) tables =
        .ok stable tables := by
    rw [hprepare]
    rfl
  unfold append
  rw [bind_apply, hread]
  dsimp only
  rw [get_bind_apply, hfind]
  by_cases hsame : row.stable = stable
  · simp only [hsame, if_true]
    rfl
  · simp only [hsame, if_false]
    rfl

end BrokerEventRepository

end FirmQuant
