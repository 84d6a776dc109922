import FirmQuant.Foundation.HashChain
import FirmQuant.Persistence.CanonicalJson

/-!
# The audit chain

`AuditLedger` of `persistence/audit.py`: events in an append-only table, each sealed by a hash over
its columns and over the hash of the event before it.

SHA-256, the lower case of a text and the JSON check of the table are asked of the system.
-/

namespace FirmQuant

open Effect

/-! ## The table -/

/-- What the ledger asks of the standard library and of SQLite. -/
structure AuditEnvironment where
  /-- `sha256(text.encode("utf-8")).hexdigest()`. -/
  sha256 : String → String
  /-- `str.lower`. -/
  lower : String → String
  /-- The check `json_valid` of the table. -/
  jsonValid : String → Bool

/-- A row of `audit_events`. -/
structure AuditEvent where
  sequence : ℤ
  auditEventId : String
  category : String
  actor : String
  payloadJson : String
  payloadSha256 : String
  previousHash : String
  chainHash : String
  createdAt : String
  deriving DecidableEq

/-- The rows of `audit_events`, in the order of their sequence. -/
abbrev AuditTable := List AuditEvent

/-- An `AuditReceipt`. -/
structure AuditReceipt where
  sequence : ℤ
  auditEventId : String
  payloadSha256 : String
  previousHash : String
  chainHash : String
  createdAt : String
  deriving DecidableEq

/-- An `AuditVerification`. -/
structure AuditVerification where
  count : ℕ
  headHash : String
  deriving DecidableEq

/-- The arguments of `append`. -/
structure AuditAppend where
  auditEventId : String
  category : String
  actor : String
  payload : LedgerValue
  createdAt : LedgerValue

/-- What `append` records of its arguments. -/
structure RecordedEvent where
  auditEventId : String
  category : String
  actor : String
  payloadJson : String
  payloadSha256 : String
  createdAt : String
  deriving DecidableEq

/-- What the chain hash of an event is taken over. -/
structure AuditEnvelope where
  sequence : ℤ
  auditEventId : String
  category : String
  actor : String
  payloadSha256 : String
  previousHash : String
  createdAt : String
  deriving DecidableEq

namespace AuditLedger

/-- `_ZERO_HASH`. -/
def zeroHash : String := String.ofList (List.replicate 64 '0')

/-! ## Checks of the arguments -/

def isSafeNameChar (c : Char) : Bool :=
  c.isAlphanum || c = '_' || c = '.' || c = ':' || c = '-'

/-- `_SAFE_NAME`. -/
def isSafeName (name : String) : Bool :=
  match name.toList with
  | [] => false
  | c :: cs => c.isAlpha && cs.length ≤ 127 && cs.all isSafeNameChar

/-- `_canonical_name`. -/
def canonicalName (name label : String) : Except LedgerError PUnit :=
  refuse (isSafeName name = false)
    (.auditPayloadRejected (label ++ " must be canonical non-sensitive text"))

/-- `_SENSITIVE_KEY_PARTS`. -/
def sensitiveKeyParts : List String :=
  ["password", "secret", "token", "private_key", "account_number", "account_id", "userdata_path",
    "communication_key"]

/-- A key names something sensitive and not a digest of it. -/
def isSensitive (normalized : String) : Bool :=
  !(["_hash", "_sha", "_sha256"].any fun ending => decide (ending.toList <:+ normalized.toList)) &&
    sensitiveKeyParts.any fun part => decide (part.toList <:+: normalized.toList)

mutual

/-- `_assert_safe_payload`. -/
def assertSafePayload (env : AuditEnvironment) : String → LedgerValue → Except LedgerError PUnit
  | path, .mapping items => assertSafeMembers env path items
  | path, .list items => assertSafeItems env path 0 items
  | path, .tuple items => assertSafeItems env path 0 items
  | _, _ => .ok ⟨⟩
termination_by structural _ value => value

def assertSafeItems (env : AuditEnvironment) :
    String → ℕ → List LedgerValue → Except LedgerError PUnit
  | _, _, [] => .ok ⟨⟩
  | path, index, item :: items => do
    assertSafePayload env (path ++ "[" ++ toString index ++ "]") item
    assertSafeItems env path (index + 1) items
termination_by structural _ _ items => items

def assertSafeMembers (env : AuditEnvironment) :
    String → List (MappingKey × LedgerValue) → Except LedgerError PUnit
  | _, [] => .ok ⟨⟩
  | path, (.text key, item) :: items => do
    refuse (isSensitive (env.lower key) = true)
      (.auditPayloadRejected ("audit payload contains sensitive field: " ++ path ++ "." ++ key))
    assertSafePayload env (path ++ "." ++ key) item
    assertSafeMembers env path items
  -- Such a key is refused later, by the encoder, if not here.
  | path, (.surrogates, item) :: items => do
    assertSafePayload env path item
    assertSafeMembers env path items
  | _, (.other, _) :: _ => .error (.auditPayloadRejected "audit payload keys must be text")
termination_by structural _ items => items

end

/-- The text of `created_at`. -/
def createdAtText : LedgerValue → Except LedgerError String
  | .datetime t => .ok t.isoformat
  | .naiveDatetime => .error (.auditPayloadRejected "audit created_at must be timezone-aware")
  | _ => .error (.auditPayloadRejected "audit created_at must be datetime")

/-- What `append` does before it reads the table. -/
def record (env : AuditEnvironment) (call : AuditAppend) : Except LedgerError RecordedEvent := do
  canonicalName call.auditEventId "audit event id"
  canonicalName call.category "audit category"
  canonicalName call.actor "audit actor"
  let createdAt ← createdAtText call.createdAt
  assertSafePayload env "payload" call.payload
  let payloadJson ← canonicalJson call.payload
  return {
    auditEventId := call.auditEventId
    category := call.category
    actor := call.actor
    payloadJson := payloadJson
    payloadSha256 := env.sha256 payloadJson
    createdAt := createdAt }

/-! ## Hashes -/

/-- The dictionary of `_chain_hash`. -/
def envelopeValue (e : AuditEnvelope) : LedgerValue :=
  .mapping [
    (.text "schema", .text "firmquant.audit-event.v1"),
    (.text "sequence", .int e.sequence),
    (.text "audit_event_id", .text e.auditEventId),
    (.text "category", .text e.category),
    (.text "actor", .text e.actor),
    (.text "payload_sha256", .text e.payloadSha256),
    (.text "previous_hash", .text e.previousHash),
    (.text "created_at", .text e.createdAt)]

/-- `_chain_hash`. -/
def chainHash (env : AuditEnvironment) (e : AuditEnvelope) : Except LedgerError String := do
  let text ← canonicalJson (envelopeValue e)
  return env.sha256 text

/-! ## Appending -/

/-- `INSERT INTO audit_events`, with the checks of the table. -/
def insert (env : AuditEnvironment) (row : AuditEvent) : EStateM LedgerError AuditTable PUnit := do
  let rows ← get
  refuse (2 ^ 63 ≤ row.sequence) .overflowError
  refuse (rows.any fun r => r.sequence = row.sequence) (.integrityError "audit_events.sequence")
  refuse (rows.any fun r => r.auditEventId = row.auditEventId)
    (.integrityError "audit_events.audit_event_id")
  refuse (rows.any fun r => r.chainHash = row.chainHash) (.integrityError "audit_events.chain_hash")
  refuse (env.jsonValid row.payloadJson = false) (.integrityError "json_valid(payload_json)")
  refuse (row.payloadSha256.length ≠ 64) (.integrityError "length(payload_sha256) = 64")
  refuse (row.previousHash.length ≠ 64) (.integrityError "length(previous_hash) = 64")
  refuse (row.chainHash.length ≠ 64) (.integrityError "length(chain_hash) = 64")
  modify (· ++ [row])

/-- The receipt of a row. -/
def receiptOf (row : AuditEvent) : AuditReceipt where
  sequence := row.sequence
  auditEventId := row.auditEventId
  payloadSha256 := row.payloadSha256
  previousHash := row.previousHash
  chainHash := row.chainHash
  createdAt := row.createdAt

/-- A stored row records this event. -/
def matchesRow (event : RecordedEvent) (row : AuditEvent) : Bool :=
  row.category = event.category && row.actor = event.actor &&
    row.payloadJson = event.payloadJson && row.payloadSha256 = event.payloadSha256 &&
    row.createdAt = event.createdAt

/-- The sequence and the previous hash of the next row. -/
def nextLink (rows : AuditTable) : ℤ × String :=
  match rows.getLast? with
  | none => (1, zeroHash)
  | some previous => (previous.sequence + 1, previous.chainHash)

/-- What the chain hash of the next row is taken over. -/
def nextEnvelope (rows : AuditTable) (event : RecordedEvent) : AuditEnvelope where
  sequence := (nextLink rows).1
  auditEventId := event.auditEventId
  category := event.category
  actor := event.actor
  payloadSha256 := event.payloadSha256
  previousHash := (nextLink rows).2
  createdAt := event.createdAt

/-- The next row. -/
def nextRow (rows : AuditTable) (event : RecordedEvent) (chainHash : String) : AuditEvent where
  sequence := (nextLink rows).1
  auditEventId := event.auditEventId
  category := event.category
  actor := event.actor
  payloadJson := event.payloadJson
  payloadSha256 := event.payloadSha256
  previousHash := (nextLink rows).2
  chainHash := chainHash
  createdAt := event.createdAt

/-- `append` of an event whose id is not stored. -/
def appendNew (env : AuditEnvironment) (event : RecordedEvent) :
    EStateM LedgerError AuditTable AuditReceipt := do
  let rows ← get
  let hash ← ofExcept (chainHash env (nextEnvelope rows event))
  insert env (nextRow rows event hash)
  return receiptOf (nextRow rows event hash)

/-- `append`. -/
def append (env : AuditEnvironment) (call : AuditAppend) :
    EStateM LedgerError AuditTable AuditReceipt := do
  let event ← ofExcept (record env call)
  let rows ← get
  match rows.find? fun row => row.auditEventId = event.auditEventId with
  | some row =>
    if matchesRow event row then return receiptOf row
    else throw (.persistenceConflict ("audit event identity collision: " ++ event.auditEventId))
  | none => appendNew env event

lemma append_of_record {env : AuditEnvironment} {call : AuditAppend} {event : RecordedEvent}
    {rows : AuditTable} (hrecord : record env call = .ok event) : append env call rows =
      (match rows.find? fun row => row.auditEventId = event.auditEventId with
        | some row =>
          if matchesRow event row then return receiptOf row
          else throw (.persistenceConflict
            ("audit event identity collision: " ++ event.auditEventId))
        | none => appendNew env event : EStateM LedgerError AuditTable AuditReceipt) rows := by
  unfold append
  rw [hrecord]
  rfl

/-! ## Verification -/

/-- The first key that was seen before. -/
def duplicateKey : List String → List (String × Json) → Option String
  | _, [] => none
  | seen, m :: ms => if m.1 ∈ seen then some m.1 else duplicateKey (m.1 :: seen) ms

/-- The hooks of `_parse_payload`: `_pairs` and `_reject_constant`. -/
def payloadHooks : Json.ParseHooks LedgerError where
  pairs ms :=
    match duplicateKey [] ms with
    | none => .ok ms
    | some key => .error (.auditChainBroken ("audit payload contains duplicate key: " ++ key))
  constant value :=
    .error (.auditChainBroken ("audit payload contains non-standard JSON constant: " ++ value))
  malformed := .auditChainBroken "audit payload is not valid JSON"
  overlong := .valueError "Exceeds the limit (4300 digits) for integer string conversion"

/-- `_parse_payload`. -/
def parsePayload (payloadJson : String) : Except LedgerError LedgerValue := do
  let v ← Json.loads payloadHooks payloadJson
  return .ofJson v

/-- What the chain hash of a row is taken over, for the hashes that `verify` has computed. -/
def rowEnvelope (row : AuditEvent) (payloadSha256 previousHash : String) : AuditEnvelope where
  sequence := row.sequence
  auditEventId := row.auditEventId
  category := row.category
  actor := row.actor
  payloadSha256 := payloadSha256
  previousHash := previousHash
  createdAt := row.createdAt

/-- A failed check of a row. -/
def brokenAt (what : String) (row : AuditEvent) : LedgerError :=
  .auditChainBroken (what ++ " at sequence " ++ toString row.sequence)

/-- One round of the loop of `verify`. -/
def verifyRow (env : AuditEnvironment) (expectedSequence : ℕ) (previousHash : String)
    (row : AuditEvent) : Except LedgerError String := do
  refuse (row.sequence ≠ expectedSequence) (.auditChainBroken "audit sequence is not contiguous")
  let payload ← parsePayload row.payloadJson
  let canonical ← canonicalJson payload
  refuse (canonical ≠ row.payloadJson) (brokenAt "audit payload is not canonical" row)
  let payloadSha256 := env.sha256 row.payloadJson
  refuse (payloadSha256 ≠ row.payloadSha256) (brokenAt "audit payload hash mismatch" row)
  refuse (row.previousHash ≠ previousHash) (brokenAt "audit previous hash mismatch" row)
  let observedChain ← chainHash env (rowEnvelope row payloadSha256 previousHash)
  refuse (observedChain ≠ row.chainHash) (brokenAt "audit chain hash mismatch" row)
  return observedChain

/-- The loop of `verify`: it returns the hash of the last row. -/
def verifyRows (env : AuditEnvironment) : ℕ → String → AuditTable → Except LedgerError String
  | _, previousHash, [] => .ok previousHash
  | expectedSequence, previousHash, row :: rows => do
    let observedChain ← verifyRow env expectedSequence previousHash row
    verifyRows env (expectedSequence + 1) observedChain rows

/-- `verify`. -/
def verify (env : AuditEnvironment) (expectedCount : Option ℕ) (expectedHeadHash : Option String)
    (rows : AuditTable) : Except LedgerError AuditVerification := do
  let head ← verifyRows env 1 zeroHash rows
  match expectedCount with
  | none => pure ⟨⟩
  | some expected =>
    refuse (rows.length ≠ expected) (.auditChainBroken ("audit count mismatch: expected " ++
      toString expected ++ ", observed " ++ toString rows.length))
  match expectedHeadHash with
  | none => pure ⟨⟩
  | some expected =>
    refuse (head ≠ expected) (.auditChainBroken ("audit head mismatch: expected " ++ expected ++
      ", observed " ++ head))
  return ⟨rows.length, head⟩

end AuditLedger

end FirmQuant
