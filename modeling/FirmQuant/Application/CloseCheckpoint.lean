import Mathlib.Data.List.MinMax
import FirmQuant.Foundation.IsoDateTime
import FirmQuant.Foundation.Matched
import FirmQuant.Persistence.AuditIntegrity

/-!
# Checkpoints of the close of a session

`CloseCheckpointStore` of `application/close_checkpoint.py`: a receipt for each step of the close of
a session, kept as an event of the audit ledger under an id made of the session and of the step.
-/

namespace FirmQuant

open Effect

/-- A `CloseStep`. -/
inductive CloseStep
  | eodReconciled
  | dataValidated
  | decisionCommitted
  | reportPublished
  | backupVerified
  | completed
  deriving DecidableEq, Repr

namespace CloseStep

/-- `CloseStep.value`. -/
def value : CloseStep → String
  | eodReconciled => "EOD_RECONCILED"
  | dataValidated => "DATA_VALIDATED"
  | decisionCommitted => "DECISION_COMMITTED"
  | reportPublished => "REPORT_PUBLISHED"
  | backupVerified => "BACKUP_VERIFIED"
  | completed => "COMPLETED"

/-- `_STEP_ORDER`. -/
def order : List CloseStep :=
  [eodReconciled, dataValidated, decisionCommitted, reportPublished, backupVerified, completed]

/-- `_STEP_ORDER[:index]` for the index of a step. -/
def predecessors (step : CloseStep) : List CloseStep := order.take (order.idxOf step)

/-- `CloseStep`, of a value. -/
def ofValue (value : String) : Option CloseStep := order.find? fun step => step.value = value

end CloseStep

/-- The exceptions of the store. -/
inductive CheckpointError
  /-- `CloseCheckpointError`. -/
  | checkpoint (message : String)
  /-- What the ledger and its JSON raise. -/
  | ledger (error : LedgerError)
  | jsonDecodeError
  deriving DecidableEq, Repr

/-- What the store asks of the standard library beside the ledger. -/
structure CheckpointEnvironment extends AuditEnvironment where
  /-- `str` of a JSON value that is no text. -/
  str : Json → String
  /-- `date.fromisoformat` of a text in another form than `isoformat` writes. -/
  dateOther : String → Option CalendarDate
  /-- `datetime.fromisoformat` of a text in another form; `some none` has no time zone. -/
  datetimeOther : String → Option (Option AwareDateTime)

/-- A `CloseCheckpoint`.  Its time may be without a time zone. -/
structure CloseCheckpoint where
  session : CalendarDate
  step : CloseStep
  evidence : List (String × Json)
  evidenceSha256 : String
  createdAt : Option AwareDateTime

namespace CloseCheckpointStore

/-- `_event_id`. -/
def eventId (session : CalendarDate) (step : CloseStep) : String :=
  "close-session:" ++ session.isoformat ++ ":" ++ step.value

/-- How `json.loads` reads a text. -/
def hooks (malformed : CheckpointError) : Json.ParseHooks CheckpointError where
  pairs members := .ok (members.foldl (fun ms m => LedgerValue.insertMember m.1 m.2 ms) [])
  constant value := .ok (.float value)
  malformed := malformed
  overlong :=
    .ledger (.valueError "Exceeds the limit (4300 digits) for integer string conversion")

/-- `_decode`. -/
def decode (text : String) : Except CheckpointError Json := do
  let parsed ← Json.loads
    (hooks (.checkpoint "close-session checkpoint payload is invalid JSON")) text
  match parsed with
  | .obj members => .ok (.obj members)
  | _ => .error (.checkpoint "close-session checkpoint payload is not an object")

/-- The text under a key. -/
def textOf (payload : Json) (key : String) : Option String :=
  match payload.get? key with
  | some (.str s) => some s
  | _ => none

section Loading

variable (env : CheckpointEnvironment)

/-- `sha256(canonical_json(evidence).encode()).hexdigest()`. -/
def digestOf (evidence : Json) : Except CheckpointError String :=
  match canonicalJson (.ofJson evidence) with
  | .ok text => .ok (env.sha256 text)
  | .error error => .error (.ledger error)

/-- `datetime.fromisoformat`. -/
def datetime (text : String) : Option (Option AwareDateTime) :=
  match AwareDateTime.fromIsoformat text with
  | some t => some (some t)
  | none => env.datetimeOther text

/-- `date.fromisoformat`. -/
def date (text : String) : Option CalendarDate :=
  (CalendarDate.fromIsoformat text).or (env.dateOther text)

/-- `str` of a JSON value. -/
def strOf : Json → String
  | .str s => s
  | v => env.str v

/-- What `load` makes of a row. -/
def checkpointOf (session : CalendarDate) (step : CloseStep) (row : AuditEvent) :
    Except CheckpointError CloseCheckpoint := do
  let payload ← decode row.payloadJson
  refuse (textOf payload "schema" ≠ some "firmquant.close-session-checkpoint.v1" ∨
      textOf payload "session" ≠ some session.isoformat ∨ textOf payload "step" ≠ some step.value)
    (.checkpoint "close-session checkpoint identity changed")
  match payload.get? "evidence", payload.get? "evidence_sha256" with
  | some (.obj evidence), some (.str evidenceSha256) => do
    let observed ← digestOf env (.obj evidence)
    refuse (observed ≠ evidenceSha256)
      (.checkpoint "close-session checkpoint evidence digest changed")
    match datetime env row.createdAt with
    | some createdAt => .ok ⟨session, step, evidence, evidenceSha256, createdAt⟩
    | none => .error (.checkpoint "close-session checkpoint timestamp is invalid")
  | _, _ => .error (.checkpoint "close-session checkpoint evidence is malformed")

/-- `load`. -/
def load (rows : AuditTable) (session : CalendarDate) (step : CloseStep) :
    Except CheckpointError (Option CloseCheckpoint) :=
  match AuditLedger.find rows (eventId session step) with
  | none => .ok none
  | some row => (checkpointOf env session step row).map some

/-- The loop of `_require_predecessors`. -/
def requirePredecessors (rows : AuditTable) (session : CalendarDate) :
    List CloseStep → Except CheckpointError PUnit
  | [] => .ok ⟨⟩
  | predecessor :: rest => do
    match ← load env rows session predecessor with
    | none => .error (.checkpoint
        ("close-session checkpoint predecessor is missing: " ++ predecessor.value))
    | some _ => requirePredecessors rows session rest

/-! ## Appending -/

/-- The normalized evidence and its digest. -/
def normalize (evidence : List (MappingKey × LedgerValue)) :
    Except CheckpointError (List (String × Json) × String) :=
  match canonicalJson (.mapping evidence) with
  | .error error => .error (.ledger error)
  | .ok text => do
    match ← Json.loads (hooks .jsonDecodeError) text with
    | .obj normalized => do
      let evidenceSha256 ← digestOf env (.obj normalized)
      return (normalized, evidenceSha256)
    | _ => .error (.checkpoint "close-session checkpoint evidence is not canonical")

/-- The payload of a checkpoint. -/
def payload (c : CloseCheckpoint) : Json :=
  .obj [
    ("schema", .str "firmquant.close-session-checkpoint.v1"),
    ("session", .str c.session.isoformat),
    ("step", .str c.step.value),
    ("evidence", .obj c.evidence),
    ("evidence_sha256", .str c.evidenceSha256)]

/-- The event of a checkpoint. -/
def eventOf (c : CloseCheckpoint) (createdAt : AwareDateTime) : AuditAppend where
  auditEventId := eventId c.session c.step
  category := "CLOSE_SESSION"
  actor := "production-services"
  payload := .ofJson (payload c)
  createdAt := .datetime createdAt

/-- `AuditLedger.append` in a transaction, which is rolled back when it raises. -/
def record (call : AuditAppend) : EStateM CheckpointError AuditTable AuditReceipt := fun rows =>
  match AuditLedger.append env.toAuditEnvironment call rows with
  | .ok receipt rows' => .ok receipt rows'
  | .error error _ => .error (.ledger error) rows

/-- `append` of a checkpoint that is not stored. -/
def appendNew (c : CloseCheckpoint) (createdAt : AwareDateTime) :
    EStateM CheckpointError AuditTable CloseCheckpoint := do
  let _ ← record env (eventOf c createdAt)
  let rows ← get
  match ← ofExcept (load env rows c.session c.step) with
  | none => throw (.checkpoint "close-session checkpoint was not durable")
  | some stored => return stored

/-- `append`.  A time is `none` when it has no time zone. -/
def append (session : CalendarDate) (step : CloseStep)
    (evidence : List (MappingKey × LedgerValue)) (createdAt : Option AwareDateTime) :
    EStateM CheckpointError AuditTable CloseCheckpoint :=
  match createdAt with
  | none =>
    throw (.ledger (.valueError "close-session checkpoint time must be timezone-aware"))
  | some createdAt => do
    refuse (∃ m ∈ evidence, m.1 = MappingKey.other)
      (.ledger (.typeError "close-session checkpoint evidence must be a text-keyed mapping"))
    let rows ← get
    ofExcept (requirePredecessors env rows session step.predecessors)
    let (normalized, evidenceSha256) ← ofExcept (normalize env evidence)
    match ← ofExcept (load env rows session step) with
    | some existing => do
      refuse (existing.evidenceSha256 ≠ evidenceSha256)
        (.checkpoint "close-session checkpoint conflicts with durable evidence")
      return existing
    | none => appendNew env ⟨session, step, normalized, evidenceSha256, some createdAt⟩ createdAt

/-! ## The session to resume -/

/-- The session and the step that a stored payload names. -/
def identity (row : AuditEvent) : Except CheckpointError (CalendarDate × CloseStep) := do
  let payload ← decode row.payloadJson
  match (payload.get? "session").bind fun v => date env (strOf env v),
      (payload.get? "step").bind fun v => CloseStep.ofValue (strOf env v) with
  | some session, some step => .ok (session, step)
  | _, _ => .error (.checkpoint "stored close-session identity is invalid")

/-- `latest_incomplete_session`. -/
def latestIncompleteSession (rows : AuditTable) :
    Except CheckpointError (Option CalendarDate) := do
  let observed ← (rows.filter fun row => row.category = "CLOSE_SESSION").mapM (identity env)
  return ((observed.map Prod.fst).filter fun session =>
    (session, CloseStep.completed) ∉ observed).max?

end Loading

/-! ## What a stored checkpoint is -/

/-- A row that stores this checkpoint. -/
structure Stores (env : CheckpointEnvironment) (row : AuditEvent) (c : CloseCheckpoint) : Prop where
  auditEventId : row.auditEventId = eventId c.session c.step
  category : row.category = "CLOSE_SESSION"
  exact : (Json.obj c.evidence).Exact
  sorted : (Json.obj c.evidence).sorted = .obj c.evidence
  digest : c.evidenceSha256 = env.sha256 (Json.obj c.evidence).dumps
  payloadJson : row.payloadJson = (payload c).dumps
  createdAt : ∃ t, c.createdAt = some t ∧ row.createdAt = t.isoformat

variable {env : CheckpointEnvironment} {rows : AuditTable} {row : AuditEvent}
  {session : CalendarDate} {step : CloseStep} {c : CloseCheckpoint}

lemma hooks_lossless (malformed : CheckpointError) : (hooks malformed).Lossless :=
  LedgerValue.lossless fun _ => rfl

variable {step' : CloseStep} {call : AuditAppend} {createdAt : AwareDateTime}
  {evidence : List (MappingKey × LedgerValue)}

lemma value_injective (h : step.value = step'.value) : step = step' := by
  cases step <;> cases step' <;> first | rfl | exact absurd h (by decide)

lemma mem_order (step : CloseStep) : step ∈ CloseStep.order := by cases step <;> decide

lemma ofValue_value (step : CloseStep) : CloseStep.ofValue step.value = some step := by
  cases step <;> decide

lemma eventId_injective {session' : CalendarDate}
    (h : eventId session step = eventId session' step') : session = session' ∧ step = step' := by
  have hchars := congrArg String.toList h
  simp only [eventId, String.toList_append, List.append_assoc, List.append_cancel_left_eq,
    CalendarDate.isoformat, String.toList_ofList] at hchars
  obtain ⟨hsession, hrest⟩ := CalendarDate.isoChars_append_inj hchars
  exact ⟨hsession, value_injective (String.toList_inj.mp (List.append_cancel_left hrest))⟩

lemma exact_payload (h : (Json.obj c.evidence).Exact) : (payload c).Exact := by
  simpa [payload, Json.Exact, Json.ExactMembers] using h

/-- The text of a payload is read as that payload. -/
lemma Stores.decode (h : Stores env row c) : decode row.payloadJson = .ok (payload c).sorted := by
  rw [h.payloadJson]
  refine bind_ok_iff.mpr ⟨_, Json.loads_dumps (hooks_lossless _) (exact_payload h.exact), ?_⟩
  unfold payload Json.sorted
  rfl

lemma Stores.get? (h : Stores env row c) (key : String) :
    (payload c).sorted.get? key = ((payload c).get? key).map Json.sorted :=
  Json.get?_sorted (exact_payload h.exact) key

lemma digestOf_eq {evidence : Json} (h : evidence.Exact) :
    digestOf env evidence = .ok (env.sha256 evidence.dumps) := by
  unfold digestOf
  rw [canonicalJson_ofJson h]

lemma Stores.checkpointOf (h : Stores env row c) :
    checkpointOf env c.session c.step row = .ok c := by
  obtain ⟨t, hcreated, hrow⟩ := h.createdAt
  have hschema : (payload c).sorted.get? "schema" =
      some (.str "firmquant.close-session-checkpoint.v1") := h.get? _
  have hsession : (payload c).sorted.get? "session" = some (.str c.session.isoformat) := h.get? _
  have hstep : (payload c).sorted.get? "step" = some (.str c.step.value) := h.get? _
  have hevidence : (payload c).sorted.get? "evidence" = some (Json.obj c.evidence).sorted :=
    h.get? _
  have hdigest : (payload c).sorted.get? "evidence_sha256" = some (.str c.evidenceSha256) :=
    h.get? _
  rw [h.sorted] at hevidence
  refine bind_ok_iff.mpr ⟨_, h.decode, bind_ok_iff.mpr ⟨⟨⟩, refuse_eq_ok.mpr ?_, ?_⟩⟩
  · simp [textOf, hschema, hsession, hstep]
  · simp only [hevidence, hdigest, datetime, hrow, AwareDateTime.fromIsoformat_isoformat]
    refine bind_ok_iff.mpr ⟨_, digestOf_eq h.exact, ?_⟩
    refine bind_ok_iff.mpr ⟨⟨⟩, refuse_eq_ok.mpr (by simp [h.digest]), ?_⟩
    rw [← hcreated]

lemma Stores.identity (h : Stores env row c) : identity env row = .ok (c.session, c.step) := by
  have hsession : (payload c).sorted.get? "session" = some (.str c.session.isoformat) := h.get? _
  have hstep : (payload c).sorted.get? "step" = some (.str c.step.value) := h.get? _
  refine bind_ok_iff.mpr ⟨_, h.decode, ?_⟩
  simp only [hsession, hstep, Option.bind_some, strOf, date, ofValue_value,
    CalendarDate.fromIsoformat_isoformat, Option.some_or]

/-! ## The invariant -/

/-- A row with the id of this step is stored. -/
def Found (rows : AuditTable) (session : CalendarDate) (step : CloseStep) : Prop :=
  (AuditLedger.find rows (eventId session step)).isSome = true

/-- The rows of the store are those of checkpoints, and no step is stored before its predecessors.
-/
structure Kept (env : CheckpointEnvironment) (rows : AuditTable) : Prop where
  stored : ∀ row ∈ rows, (row.category = "CLOSE_SESSION" ∨
    ∃ session step, row.auditEventId = eventId session step) → ∃ c, Stores env row c
  initial : ∀ session step, Found rows session step →
    ∀ p ∈ step.predecessors, Found rows session p

lemma found_append : Found (rows ++ [row]) session step ↔
    Found rows session step ∨ row.auditEventId = eventId session step := by
  simp [Found, AuditLedger.find, List.find?_append, Option.isSome_or, List.find?_isSome]

lemma load_of_not_found (h : ¬ Found rows session step) :
    load env rows session step = .ok none := by
  unfold load
  rw [Option.not_isSome_iff_eq_none.mp h]

lemma Kept.stored_of_found (h : Kept env rows) (hfound : Found rows session step) :
    ∃ c, (∃ row ∈ rows, Stores env row c ∧ c.session = session ∧ c.step = step) ∧
      load env rows session step = .ok (some c) := by
  obtain ⟨row, hfind⟩ := Option.isSome_iff_exists.mp hfound
  have hmem := List.mem_of_find?_eq_some hfind
  have hid : row.auditEventId = eventId session step := by
    have hdecide := List.find?_some hfind
    exact of_decide_eq_true hdecide
  obtain ⟨c, hc⟩ := h.stored row hmem (.inr ⟨session, step, hid⟩)
  obtain ⟨rfl, rfl⟩ := eventId_injective (hc.auditEventId.symm.trans hid)
  refine ⟨c, ⟨row, hmem, hc, rfl, rfl⟩, ?_⟩
  unfold load
  rw [hfind]
  simp only [hc.checkpointOf]
  rfl

lemma found_of_load (h : load env rows session step = .ok (some c)) : Found rows session step := by
  by_contra hnot
  rw [load_of_not_found hnot] at h
  cases h

lemma Kept.load_iff (h : Kept env rows) :
    (∃ c, load env rows session step = .ok (some c)) ↔ Found rows session step :=
  ⟨fun ⟨_, hload⟩ => found_of_load hload, fun hfound =>
    (h.stored_of_found hfound).imp fun _ => And.right⟩

lemma Kept.stored_of_load (h : Kept env rows) (hload : load env rows session step = .ok (some c)) :
    ∃ row ∈ rows, Stores env row c ∧ c.session = session ∧ c.step = step := by
  obtain ⟨c', hstored, hload'⟩ := h.stored_of_found (found_of_load hload)
  rwa [Option.some.inj (Except.ok.inj (hload.symm.trans hload'))]

/-- Rows at the end do not change what was loaded. -/
lemma load_append (h : load env rows session step = .ok (some c)) (more : AuditTable) :
    load env (rows ++ more) session step = .ok (some c) := by
  obtain ⟨row, hfind⟩ := Option.isSome_iff_exists.mp (found_of_load h)
  have hfind' : AuditLedger.find (rows ++ more) (eventId session step) = some row := by
    unfold AuditLedger.find at hfind ⊢
    rw [List.find?_append, hfind, Option.some_or]
  unfold load at h ⊢
  rw [hfind] at h
  rw [hfind']
  exact h

lemma load_append_new (hrow : Stores env row c) (hnew : ¬ Found rows c.session c.step) :
    load env (rows ++ [row]) c.session c.step = .ok (some c) := by
  have hnone := Option.not_isSome_iff_eq_none.mp hnew
  have hfind : AuditLedger.find (rows ++ [row]) (eventId c.session c.step) = some row := by
    unfold AuditLedger.find at hnone ⊢
    rw [List.find?_append, hnone, Option.none_or]
    exact List.find?_cons_of_pos (decide_eq_true hrow.auditEventId)
  unfold load
  rw [hfind]
  simp only [hrow.checkpointOf]
  rfl

/-- A row that is not the store's. -/
def Foreign (auditEventId category : String) : Prop :=
  category ≠ "CLOSE_SESSION" ∧ ∀ session step, auditEventId ≠ eventId session step

lemma Kept.append_foreign (h : Kept env rows) (hrow : Foreign row.auditEventId row.category) :
    Kept env (rows ++ [row]) := by
  refine ⟨fun r hr hours => ?_, fun session step hfound p hp => ?_⟩
  · rcases List.mem_snoc.mp hr with hr | hr
    · exact h.stored r hr hours
    · rw [hr] at hours
      obtain hcategory | ⟨session, step, hid⟩ := hours
      · exact absurd hcategory hrow.1
      · exact absurd hid (hrow.2 session step)
  · rcases found_append.mp hfound with hfound | hid
    · exact found_append.mpr (.inl (h.initial session step hfound p hp))
    · exact absurd hid (hrow.2 session step)

/-- A checkpoint is stored after its predecessors. -/
lemma Kept.append_stored (h : Kept env rows) (hrow : Stores env row c)
    (hpredecessors : ∀ p ∈ c.step.predecessors, Found rows c.session p) :
    Kept env (rows ++ [row]) := by
  refine ⟨fun r hr hours => ?_, fun session step hfound p hp => ?_⟩
  · rcases List.mem_snoc.mp hr with hr | hr
    · exact h.stored r hr hours
    · rw [hr]
      exact ⟨c, hrow⟩
  · rcases found_append.mp hfound with hfound | hid
    · exact found_append.mpr (.inl (h.initial session step hfound p hp))
    · obtain ⟨rfl, rfl⟩ := eventId_injective (hrow.auditEventId.symm.trans hid)
      exact found_append.mpr (.inl (hpredecessors p hp))

/-! ## What `append` does -/

lemma Kept.requirePredecessors_eq_ok (h : Kept env rows) {steps : List CloseStep} {u : PUnit} :
    requirePredecessors env rows session steps = .ok u ↔ ∀ p ∈ steps, Found rows session p := by
  induction steps with
  | nil => exact ⟨fun _ _ hp => (List.not_mem_nil hp).elim, fun _ => rfl⟩
  | cons step steps ih =>
    rw [List.forall_mem_cons, ← ih]
    by_cases hfound : Found rows session step
    · obtain ⟨c, hload⟩ := h.load_iff.mpr hfound
      simp only [requirePredecessors, hload, hfound, true_and]
      rfl
    · simp only [requirePredecessors, load_of_not_found hfound, hfound, false_and, iff_false]
      exact fun h => nomatch h

/-- Evidence with a canonical text is normalized to the value of that text. -/
lemma normalize_of_canonical {evidence : List (MappingKey × LedgerValue)} {text : String}
    (h : canonicalJson (.mapping evidence) = .ok text) :
    ∃ members, normalize env evidence = .ok (members, env.sha256 text) ∧
      (Json.obj members).Exact ∧ (Json.obj members).sorted = .obj members ∧
        (Json.obj members).dumps = text := by
  obtain ⟨v, hv, htext⟩ := canonicalJson_eq_ok.mp h
  have hexact := LedgerValue.exact_jsonValue _ hv
  obtain ⟨pairs, -, rfl⟩ := LedgerValue.except_map_eq_ok hv
  generalize pairs.foldl (fun ms m => LedgerValue.insertMember m.1 m.2 ms) [] = members at *
  have hsorted : (Json.obj members).sorted =
      .obj ((Json.sortedMembers members).insertionSort Json.keyLE) := rfl
  have hsame := Json.exact_sorted _ hexact
  have htwice := Json.sorted_sorted (.obj members)
  have hdumps := Json.dumps_sorted (.obj members)
  have hloads := Json.loads_dumps (hooks_lossless .jsonDecodeError) hexact
  rw [hsorted] at hsame htwice hdumps hloads
  refine ⟨_, ?_, hsame, htwice, hdumps.trans htext.symm⟩
  unfold normalize
  rw [h, htext]
  refine bind_ok_iff.mpr ⟨_, hloads, bind_ok_iff.mpr ⟨_, digestOf_eq hsame, ?_⟩⟩
  rw [hdumps]
  rfl

/-- How `append` returns: the checkpoint is stored, and its digest is that of the evidence. -/
structure Appends (env : CheckpointEnvironment) (rows : AuditTable) (session : CalendarDate)
    (step : CloseStep) (evidence : List (MappingKey × LedgerValue)) (c : CloseCheckpoint)
    (rows' : AuditTable) : Prop where
  kept : Kept env rows'
  grows : rows <+: rows'
  loaded : load env rows' session step = .ok (some c)
  digest : ∃ text, canonicalJson (.mapping evidence) = .ok text ∧
    env.sha256 text = c.evidenceSha256

lemma triple_record :
    Triple (fun t => t = rows) (record env call)
      (AuditLedger.Appended env.toAuditEnvironment call rows) (fun t => t = rows) := by
  intro t ht
  have happend := @AuditLedger.triple_append env.toAuditEnvironment call rows t ht
  unfold record
  cases hrun : AuditLedger.append env.toAuditEnvironment call t with
  | ok receipt rows' =>
    rw [hrun] at happend
    exact happend
  | error failure rows' => exact ht

/-- What is recorded of the arguments. -/
lemma record_fields {audit : AuditEnvironment} {event : RecordedEvent}
    (h : AuditLedger.record audit call = .ok event) :
    event.auditEventId = call.auditEventId ∧ event.category = call.category ∧
      canonicalJson call.payload = .ok event.payloadJson ∧
        AuditLedger.createdAtText call.createdAt = .ok event.createdAt := by
  unfold AuditLedger.record at h
  simp only [bind_ok_iff] at h
  obtain ⟨-, -, -, -, -, -, createdAt, hcreated, -, -, payloadJson, hjson, hevent⟩ := h
  cases hevent
  exact ⟨rfl, rfl, hjson, hcreated⟩

/-- The row of a new checkpoint stores it. -/
lemma triple_appendNew (h : Kept env rows) (hexact : (Json.obj c.evidence).Exact)
    (hsorted : (Json.obj c.evidence).sorted = .obj c.evidence)
    (hdigest : c.evidenceSha256 = env.sha256 (Json.obj c.evidence).dumps)
    (hcreated : c.createdAt = some createdAt) (hnew : ¬ Found rows c.session c.step)
    (hpredecessors : ∀ p ∈ c.step.predecessors, Found rows c.session p) :
    Triple (fun t => t = rows) (appendNew env c createdAt)
      (fun c' rows' => c' = c ∧ Kept env rows' ∧ rows <+: rows' ∧
        load env rows' c.session c.step = .ok (some c)) (fun t => t = rows) := by
  refine triple_bind triple_record fun receipt => triple_get_same fun rows' happended => ?_
  have hstored : Kept env rows' ∧ rows <+: rows' ∧
      load env rows' c.session c.step = .ok (some c) := by
    cases happended with
    | @known event row hrecord hfind hmatches =>
      rw [(record_fields hrecord).1] at hfind
      exact absurd (Option.isSome_iff_exists.mpr ⟨row, hfind⟩) hnew
    | @new event hash hrecord hfind hhash =>
      obtain ⟨hid, hcategory, hpayload, hcreatedAt⟩ := record_fields hrecord
      have hjson := (canonicalJson_ofJson (exact_payload hexact)).symm.trans hpayload
      have hstores : Stores env (AuditLedger.nextRow rows event hash) c :=
        ⟨hid, hcategory, hexact, hsorted, hdigest, (Except.ok.inj hjson).symm, createdAt, hcreated,
          (Except.ok.inj hcreatedAt).symm⟩
      exact ⟨h.append_stored hstores hpredecessors, List.prefix_append _ _,
        load_append_new hstores hnew⟩
  rw [hstored.2.2]
  exact triple_pure fun t ht => ⟨rfl, ht ▸ hstored⟩

/-- An `append` that raises changes nothing. -/
theorem triple_append (h : Kept env rows) {evidence : List (MappingKey × LedgerValue)}
    {createdAt : Option AwareDateTime} :
    Triple (fun t => t = rows) (append env session step evidence createdAt)
      (Appends env rows session step evidence) (fun t => t = rows) := by
  cases createdAt with
  | none => exact triple_throw fun t ht => ht
  | some createdAt =>
    refine triple_bind keeps_refuse fun _ => triple_get_same fun t ht => ?_
    rw [ht]
    cases hrequire : requirePredecessors env rows session step.predecessors with
    | error failure => exact fun t ht => ht
    | ok u =>
      have hpredecessors := h.requirePredecessors_eq_ok.mp hrequire
      cases htext : canonicalJson (.mapping evidence) with
      | error failure =>
        have hnormalize : normalize env evidence = .error (.ledger failure) := by
          unfold normalize
          rw [htext]
        rw [hnormalize]
        exact fun t ht => ht
      | ok text =>
        obtain ⟨members, hnormalize, hexact, hsorted, hdumps⟩ :=
          @normalize_of_canonical env _ _ htext
        rw [hnormalize]
        by_cases hfound : Found rows session step
        · obtain ⟨c, hload⟩ := h.load_iff.mpr hfound
          rw [hload]
          change Triple _ (refuse _ _ >>= fun _ => pure c) _ _
          refine triple_bind triple_refuse fun _ => triple_assume fun hsame => ?_
          refine triple_pure ?_
          rintro t rfl
          exact ⟨h, List.prefix_rfl, hload, text, htext, (not_not.mp hsame).symm⟩
        · rw [load_of_not_found hfound]
          refine triple_post (triple_appendNew h hexact hsorted (by rw [hdumps]) rfl hfound
            hpredecessors) ?_
          rintro c rows' ⟨rfl, hkept, hgrows, hload⟩
          exact ⟨hkept, hgrows, hload, text, htext, rfl⟩

/-! ## Sequences of calls -/

/-- A call that reaches the ledger: of the store, or of another component. -/
inductive StoreCall
  | append (session : CalendarDate) (step : CloseStep)
      (evidence : List (MappingKey × LedgerValue)) (createdAt : Option AwareDateTime)
  | event (call : AuditAppend) (h : Foreign call.auditEventId call.category)

variable (env) in
/-- The table after a call, whether it returns or raises. -/
def runCall (rows : AuditTable) : StoreCall → AuditTable
  | .append session step evidence createdAt =>
    finalState (append env session step evidence createdAt rows)
  | .event call _ => finalState (AuditLedger.append env.toAuditEnvironment call rows)

variable (env) in
/-- The table after a sequence of calls. -/
def run (calls : List StoreCall) (rows : AuditTable) : AuditTable := calls.foldl (runCall env) rows

lemma kept_runCall (h : Kept env rows) (call : StoreCall) :
    Kept env (runCall env rows call) ∧ rows <+: runCall env rows call := by
  have hsame : ∀ t, t = rows → Kept env t ∧ rows <+: t := by
    rintro t rfl
    exact ⟨h, List.prefix_rfl⟩
  cases call with
  | append session step evidence createdAt =>
    exact (triple_imp (triple_append h) (fun t ht => ht)
      (fun c t happends => ⟨happends.kept, happends.grows⟩) hsame).finalState (s := rows) rfl
  | event call hforeign =>
    refine (triple_imp AuditLedger.triple_append (fun t ht => ht)
      (fun receipt t happended => ?_) hsame).finalState (s := rows) rfl
    cases happended with
    | known hrecord hfind hmatches => exact hsame rows rfl
    | @new event hash hrecord hfind hhash =>
      obtain ⟨hid, hcategory, -, -⟩ := record_fields hrecord
      rw [← hid, ← hcategory] at hforeign
      exact ⟨h.append_foreign hforeign, List.prefix_append _ _⟩

lemma kept_run (calls : List StoreCall) : ∀ {rows : AuditTable}, Kept env rows →
    Kept env (run env calls rows) ∧ rows <+: run env calls rows := by
  induction calls with
  | nil => exact fun h => ⟨h, List.prefix_rfl⟩
  | cons call calls ih =>
    intro rows h
    obtain ⟨hkept, hgrows⟩ := kept_runCall h call
    obtain ⟨hkept', hgrows'⟩ := ih hkept
    exact ⟨hkept', hgrows.trans hgrows'⟩

/-! ## The chain -/

/-- The session has some step, but not the last one. -/
def Incomplete (env : CheckpointEnvironment) (rows : AuditTable) (session : CalendarDate) : Prop :=
  (∃ step c, load env rows session step = .ok (some c)) ∧
    load env rows session .completed = .ok none

/-- The checkpoints of a table form a chain that no call changes. -/
structure CheckpointChain (env : CheckpointEnvironment) (rows : AuditTable) : Prop where
  /-- The stored steps of a session are the first ones. -/
  initial : ∀ session, ∃ n, ∀ step,
    if step ∈ CloseStep.order.take n then ∃ c, load env rows session step = .ok (some c)
    else load env rows session step = .ok none
  /-- What is stored stays as it is. -/
  immutable : ∀ session step c, load env rows session step = .ok (some c) →
    ∀ calls, load env (run env calls rows) session step = .ok (some c)
  /-- What `append` returns is stored, with the digest of the evidence. -/
  returned : ∀ session step evidence createdAt c rows',
    append env session step evidence createdAt rows = .ok c rows' →
      load env rows' session step = .ok (some c) ∧ ∃ text,
        canonicalJson (.mapping evidence) = .ok text ∧ env.sha256 text = c.evidenceSha256
  /-- The same evidence again changes nothing. -/
  repeated : ∀ session step c, load env rows session step = .ok (some c) →
    ∀ evidence createdAt,
      canonicalJson (.mapping evidence) = canonicalJson (.ofJson (.obj c.evidence)) →
        append env session step evidence (some createdAt) rows = .ok c rows
  /-- Other evidence is refused, unless its text has the digest of another text. -/
  conflicting : ∀ session step c, load env rows session step = .ok (some c) →
    ∀ evidence createdAt,
      canonicalJson (.mapping evidence) ≠ canonicalJson (.ofJson (.obj c.evidence)) →
      (∀ text text', canonicalJson (.mapping evidence) = .ok text →
        canonicalJson (.ofJson (.obj c.evidence)) = .ok text' →
          env.sha256 text = env.sha256 text' → text = text') →
        ∃ failure, append env session step evidence createdAt rows = .error failure rows
  /-- A call that raises changes nothing. -/
  raised : ∀ session step evidence createdAt failure rows',
    append env session step evidence createdAt rows = .error failure rows' → rows' = rows
  /-- The session to resume is the latest one that is incomplete. -/
  latest : ∃ latest, latestIncompleteSession env rows = .ok latest ∧
    (∀ session, latest = some session → Incomplete env rows session) ∧
      ∀ session, Incomplete env rows session → ∃ s, latest = some s ∧ session ≤ s

/-- Of what holds of an element only after all that come before it, an initial part holds. -/
lemma exists_initial {α : Type} [DecidableEq α] {p : α → Prop} {xs : List α} (hxs : xs.Nodup)
    (h : ∀ x ∈ xs, p x → ∀ y ∈ xs.take (xs.idxOf x), p y) :
    ∃ n, ∀ x ∈ xs, x ∈ xs.take n ↔ p x := by
  induction xs with
  | nil => exact ⟨0, fun x hx => (List.not_mem_nil hx).elim⟩
  | cons a xs ih =>
    obtain ⟨ha, hxs⟩ := List.nodup_cons.mp hxs
    have htail : ∀ x ∈ xs, p x → p a ∧ ∀ y ∈ xs.take (xs.idxOf x), p y := fun x hx hpx => by
      have hbefore := h x (List.mem_cons_of_mem a hx) hpx
      rw [List.idxOf_cons_ne _ (fun heq : a = x => ha (heq ▸ hx)), List.take_succ_cons]
        at hbefore
      exact List.forall_mem_cons.mp hbefore
    by_cases hpa : p a
    · obtain ⟨n, hn⟩ := ih hxs fun x hx hpx => (htail x hx hpx).2
      refine ⟨n + 1, List.forall_mem_cons.mpr ⟨iff_of_true List.mem_cons_self hpa, fun x hx => ?_⟩⟩
      rw [List.take_succ_cons, List.mem_cons, hn x hx]
      exact or_iff_right fun heq => ha (heq ▸ hx)
    · refine ⟨0, List.forall_mem_cons.mpr ⟨iff_of_false List.not_mem_nil hpa, fun x hx => ?_⟩⟩
      exact iff_of_false List.not_mem_nil fun hpx => hpa (htail x hx hpx).1

/-- A text-keyed mapping is what has a canonical text. -/
lemma text_keys :
    ∀ {members : List (String × Json)}, LedgerValue.jsonMembers evidence = .ok members →
      ∀ m ∈ evidence, m.1 ≠ MappingKey.other := by
  induction evidence with
  | nil => exact fun _ m hm => (List.not_mem_nil hm).elim
  | cons item evidence ih =>
    intro members h
    obtain ⟨key, hkey, h⟩ := bind_ok_iff.mp h
    obtain ⟨value, -, h⟩ := bind_ok_iff.mp h
    obtain ⟨rest, hrest, -⟩ := bind_ok_iff.mp h
    refine List.forall_mem_cons.mpr ⟨fun hother => ?_, ih hrest⟩
    rw [hother] at hkey
    cases hkey

variable (h : Kept env rows)

include h

/-- The same evidence again. -/
lemma Kept.append_again (hload : load env rows session step = .ok (some c))
    (hsame : canonicalJson (.mapping evidence) = canonicalJson (.ofJson (.obj c.evidence))) :
    append env session step evidence (some createdAt) rows = .ok c rows := by
  have hfound := found_of_load hload
  obtain ⟨row, -, hstores, -, -⟩ := h.stored_of_load hload
  have htext := hsame.trans (canonicalJson_ofJson hstores.exact)
  obtain ⟨members, hnormalize, -⟩ := @normalize_of_canonical env _ _ htext
  obtain ⟨v, hv, -⟩ := canonicalJson_eq_ok.mp htext
  obtain ⟨pairs, hpairs, -⟩ := LedgerValue.except_map_eq_ok hv
  have hkeys : ¬ ∃ m ∈ evidence, m.1 = MappingKey.other := fun ⟨m, hm, hother⟩ =>
    text_keys hpairs m hm hother
  have hrequire : requirePredecessors env rows session step.predecessors = .ok ⟨⟩ :=
    h.requirePredecessors_eq_ok.mpr (h.initial session step hfound)
  refine bind_eq_ok.mpr ⟨⟨⟩, rows, by simp only [refuse, if_neg hkeys, pure_apply], ?_⟩
  refine bind_eq_ok.mpr ⟨rows, rows, rfl, ?_⟩
  refine bind_eq_ok.mpr ⟨⟨⟩, rows, by rw [hrequire]; rfl, ?_⟩
  refine bind_eq_ok.mpr ⟨(members, _), rows, by rw [hnormalize]; rfl, ?_⟩
  refine bind_eq_ok.mpr ⟨some c, rows, by rw [hload]; rfl, ?_⟩
  refine bind_eq_ok.mpr ⟨⟨⟩, rows, ?_, rfl⟩
  rw [hstores.digest]
  simp only [refuse, ne_eq, not_true_eq_false, if_false, pure_apply]

lemma Kept.exists_steps (session : CalendarDate) : ∃ n, ∀ step,
    if step ∈ CloseStep.order.take n then ∃ c, load env rows session step = .ok (some c)
    else load env rows session step = .ok none := by
  obtain ⟨n, hn⟩ := @exists_initial _ _ (Found rows session) CloseStep.order (by decide)
    fun step _ hfound => h.initial session step hfound
  refine ⟨n, fun step => ?_⟩
  split
  next hmem =>
    exact h.load_iff.mpr ((hn step (mem_order step)).mp hmem)
  next hnot => exact load_of_not_found fun hfound => hnot ((hn step (mem_order step)).mpr hfound)

/-- The rows of the store name the steps that are found. -/
lemma Kept.exists_observed :
    ∃ observed, (rows.filter fun row => row.category = "CLOSE_SESSION").mapM (identity env) =
      .ok observed ∧ ∀ session step, (session, step) ∈ observed ↔ Found rows session step := by
  have hstored : ∀ row ∈ rows.filter fun row => row.category = "CLOSE_SESSION",
      ∃ c, Stores env row c := fun row hrow =>
    h.stored row (List.mem_filter.mp hrow).1 (.inl (of_decide_eq_true (List.mem_filter.mp hrow).2))
  obtain ⟨observed, hobserved⟩ := Matched.exists_forall₂
    (R := fun row y => identity env row = .ok y)
    fun row hrow => (hstored row hrow).imp' _ fun _ hc => hc.identity
  refine ⟨observed, mapM_eq_ok.mpr hobserved, fun session step =>
    ⟨fun hmem => ?_, fun hfound => ?_⟩⟩
  · obtain ⟨row, hrow, hidentity⟩ := Matched.exists_of_forall₂ hobserved _ hmem
    obtain ⟨c, hc⟩ := hstored row hrow
    obtain ⟨rfl, rfl⟩ := Prod.mk.inj (Except.ok.inj (hc.identity.symm.trans hidentity))
    exact List.find?_isSome.mpr ⟨row, (List.mem_filter.mp hrow).1, decide_eq_true hc.auditEventId⟩
  · obtain ⟨c, ⟨row, hrow, hc, rfl, rfl⟩, -⟩ := h.stored_of_found hfound
    obtain ⟨y, hy, hidentity⟩ := Matched.exists_right_of_forall₂ hobserved row
      (List.mem_filter.mpr ⟨hrow, decide_eq_true hc.category⟩)
    rw [hc.identity] at hidentity
    exact Except.ok.inj hidentity ▸ hy

lemma Kept.incomplete_iff : Incomplete env rows session ↔
    (∃ step, Found rows session step) ∧ ¬ Found rows session .completed := by
  refine and_congr (exists_congr fun _ => h.load_iff) ⟨fun hload hfound => ?_, load_of_not_found⟩
  obtain ⟨c, hload'⟩ := h.load_iff.mpr hfound
  rw [hload] at hload'
  cases hload'

/-- The query returns the latest session that is incomplete. -/
lemma Kept.exists_latest : ∃ latest,
    latestIncompleteSession env rows = .ok latest ∧
      (∀ session, latest = some session → Incomplete env rows session) ∧
        ∀ session, Incomplete env rows session → ∃ s, latest = some s ∧ session ≤ s := by
  obtain ⟨observed, hobserved, hfound⟩ := h.exists_observed
  refine ⟨_, bind_ok_iff.mpr ⟨_, hobserved, rfl⟩, ?_⟩
  have hmem : ∀ session, session ∈ (observed.map Prod.fst).filter
      (fun session => (session, CloseStep.completed) ∉ observed) ↔ Incomplete env rows session := by
    intro session
    simp [List.mem_filter, h.incomplete_iff, hfound]
  refine ⟨fun session hlatest => (hmem session).mp (List.max?_mem hlatest),
    fun session hsession => ?_⟩
  cases hlatest : ((observed.map Prod.fst).filter
      fun session => (session, CloseStep.completed) ∉ observed).max? with
  | none =>
    rw [List.max?_eq_none_iff] at hlatest
    have hin := (hmem session).mpr hsession
    rw [hlatest] at hin
    exact (List.not_mem_nil hin).elim
  | some s =>
    have hgreatest := (List.max?_eq_some_iff.mp hlatest).2
    exact ⟨s, rfl, hgreatest session ((hmem session).mpr hsession)⟩

omit h

/-- Whatever calls of the store and of other components reach the ledger, in whatever order and
whether they return or raise, the checkpoints form a chain. -/
theorem checkpoint_chain (env : CheckpointEnvironment) (calls : List StoreCall) :
    CheckpointChain env (run env calls []) := by
  have hnil : Kept env [] :=
    ⟨fun _ hmem => (List.not_mem_nil hmem).elim, fun _ _ hfound => nomatch hfound⟩
  have h := (kept_run calls hnil).1
  refine ⟨h.exists_steps, ?_, ?_, ?_, ?_, ?_, h.exists_latest⟩
  · intro session step c hload later
    obtain ⟨more, hmore⟩ := (kept_run later h).2
    rw [← hmore]
    exact load_append hload more
  · intro session step evidence createdAt c rows' hrun
    have happends := (triple_append h).ok hrun rfl
    exact ⟨happends.loaded, happends.digest⟩
  · exact fun session step c hload evidence createdAt hsame => h.append_again hload hsame
  · intro session step c hload evidence createdAt hother hsha
    have happend := @triple_append env _ session step h evidence createdAt _ rfl
    cases hrun : append env session step evidence createdAt (run env calls []) with
    | error failure rows' =>
      rw [hrun] at happend
      exact ⟨failure, congrArg _ happend⟩
    | ok c' rows' =>
      rw [hrun] at happend
      obtain ⟨more, rfl⟩ := happend.grows
      have hsame := (load_append hload more).symm.trans happend.loaded
      obtain rfl : c = c' := Option.some.inj (Except.ok.inj hsame)
      obtain ⟨text, htext, hdigest⟩ := happend.digest
      obtain ⟨_, -, hstores, -, -⟩ := h.stored_of_load hload
      have hjson := canonicalJson_ofJson hstores.exact
      rw [hstores.digest] at hdigest
      exact absurd (htext.trans ((hsha _ _ htext hjson hdigest) ▸ hjson.symm)) hother
  · intro session step evidence createdAt failure rows' hrun
    have happend := @triple_append env _ session step h evidence createdAt _ rfl
    rw [hrun] at happend
    exact happend

end CloseCheckpointStore

end FirmQuant
