import Mathlib.Data.Finset.Card
import Mathlib.Data.Set.Function
import FirmQuant.Persistence.AuditChain

/-!
# Integrity of the audit chain

What `verify` accepts is a hash chain.  Every table that `append` writes is accepted, and two
accepted tables with the same count and the same head are the same table.
-/

namespace FirmQuant

open Effect HashChain

namespace AuditLedger

variable {env : AuditEnvironment}

/-! ## Envelopes -/

/-- The dictionary of `_chain_hash`, as JSON. -/
def envelopeJson (e : AuditEnvelope) : Json :=
  .obj [
    ("schema", .str "firmquant.audit-event.v1"),
    ("sequence", .int e.sequence),
    ("audit_event_id", .str e.auditEventId),
    ("category", .str e.category),
    ("actor", .str e.actor),
    ("payload_sha256", .str e.payloadSha256),
    ("previous_hash", .str e.previousHash),
    ("created_at", .str e.createdAt)]

variable {e : AuditEnvelope} {h : String} {rows rows' : AuditTable} {event : RecordedEvent}
  {receipt : AuditReceipt}

lemma exact_envelopeJson (h : (Json.int e.sequence).Exact) :
    (envelopeJson e).Exact := by
  have hkeys : ["schema", "sequence", "audit_event_id", "category", "actor", "payload_sha256",
      "previous_hash", "created_at"].Nodup := by decide
  exact ⟨hkeys, trivial, h, trivial, trivial, trivial, trivial, trivial, trivial, trivial⟩

lemma envelopeValue_eq (e : AuditEnvelope) : envelopeValue e = .ofJson (envelopeJson e) := rfl

/-- The encoding of an envelope exists unless its sequence has too many digits. -/
lemma canonicalJson_envelopeValue {text : String} :
    canonicalJson (envelopeValue e) = .ok text ↔
      (Json.int e.sequence).Exact ∧ text = (envelopeJson e).dumps := by
  constructor
  · intro h
    have hexact : (Json.int e.sequence).Exact := by
      by_contra hlong
      have hint : LedgerValue.jsonInt e.sequence =
          .error (.valueError "Exceeds the limit (4300 digits) for integer string conversion") :=
        if_pos (Nat.lt_of_not_le hlong)
      have hvalue : (envelopeValue e).jsonValue =
          .error (.valueError "Exceeds the limit (4300 digits) for integer string conversion") := by
        change (LedgerValue.jsonMembers _ >>= _) = _
        simp only [LedgerValue.jsonMembers, LedgerValue.jsonKey, LedgerValue.jsonValue, hint]
        rfl
      unfold canonicalJson at h
      rw [hvalue] at h
      cases h
    rw [envelopeValue_eq, canonicalJson_ofJson (exact_envelopeJson hexact)] at h
    exact ⟨hexact, (Except.ok.inj h).symm⟩
  · rintro ⟨hexact, rfl⟩
    rw [envelopeValue_eq, canonicalJson_ofJson (exact_envelopeJson hexact)]

lemma chainHash_eq_ok :
    chainHash env e = .ok h ↔
      (Json.int e.sequence).Exact ∧ h = env.sha256 (envelopeJson e).dumps := by
  unfold chainHash
  rw [bind_ok_iff]
  constructor
  · rintro ⟨text, htext, hhash⟩
    obtain ⟨hexact, rfl⟩ := canonicalJson_envelopeValue.mp htext
    exact ⟨hexact, (Except.ok.inj hhash).symm⟩
  · rintro ⟨hexact, rfl⟩
    exact ⟨_, canonicalJson_envelopeValue.mpr ⟨hexact, rfl⟩, rfl⟩

lemma envelopeJson_injective {e' : AuditEnvelope} (he : (Json.int e.sequence).Exact)
    (he' : (Json.int e'.sequence).Exact) (h : (envelopeJson e).dumps = (envelopeJson e').dumps) :
    e = e' := by
  have hexact := exact_envelopeJson he
  have hexact' := exact_envelopeJson he'
  have hsorted := Json.dumps_injective hexact hexact' h
  have hget : ∀ key, ((envelopeJson e).get? key).map Json.sorted =
      ((envelopeJson e').get? key).map Json.sorted := by
    intro key
    rw [← Json.get?_sorted hexact, ← Json.get?_sorted hexact', hsorted]
  have hsequence : some (Json.int e.sequence) = some (Json.int e'.sequence) := hget "sequence"
  have hid : some (Json.str e.auditEventId) = some (Json.str e'.auditEventId) :=
    hget "audit_event_id"
  have hcategory : some (Json.str e.category) = some (Json.str e'.category) := hget "category"
  have hactor : some (Json.str e.actor) = some (Json.str e'.actor) := hget "actor"
  have hpayload : some (Json.str e.payloadSha256) = some (Json.str e'.payloadSha256) :=
    hget "payload_sha256"
  have hprevious : some (Json.str e.previousHash) = some (Json.str e'.previousHash) :=
    hget "previous_hash"
  have hcreated : some (Json.str e.createdAt) = some (Json.str e'.createdAt) := hget "created_at"
  obtain ⟨sequence, id, category, actor, payload, previous, created⟩ := e
  obtain ⟨sequence', id', category', actor', payload', previous', created'⟩ := e'
  simp only [Option.some.injEq, Json.int.injEq, Json.str.injEq] at *
  subst hsequence hid hcategory hactor hpayload hprevious hcreated
  rfl

/-! ## What `verify` accepts -/

/-- What one round of `verify` demands of a row at a position and after a hash. -/
structure Links (env : AuditEnvironment) (position : ℕ) (previousHash : String)
    (row : AuditEvent) : Prop where
  sequence : row.sequence = position
  canonical : ∃ payload, parsePayload row.payloadJson = .ok payload ∧
    canonicalJson payload = .ok row.payloadJson
  payloadSha256 : env.sha256 row.payloadJson = row.payloadSha256
  previousHash : row.previousHash = previousHash
  chainHash : AuditLedger.chainHash env (rowEnvelope row row.payloadSha256 row.previousHash) =
    .ok row.chainHash

variable {position : ℕ} {previousHash : String}

section Rows

variable {row : AuditEvent} {call : AuditAppend}

lemma verifyRow_eq_ok :
    verifyRow env position previousHash row = .ok h ↔
      Links env position previousHash row ∧ h = row.chainHash := by
  unfold verifyRow
  simp only [bind_ok_iff, refuse_eq_ok, not_not, exists_const]
  constructor
  · rintro ⟨hsequence, payload, hparse, canonical, hcanonical, rfl, hpayload, hprevious, observed,
      hchain, hobserved, hreturn⟩
    cases hreturn
    rw [hpayload, ← hprevious] at hchain
    exact ⟨⟨hsequence, ⟨payload, hparse, hcanonical⟩, hpayload, hprevious, hobserved ▸ hchain⟩,
      hobserved⟩
  · rintro ⟨⟨hsequence, ⟨payload, hparse, hcanonical⟩, hpayload, rfl, hchain⟩, rfl⟩
    rw [← hpayload] at hchain
    exact ⟨hsequence, payload, hparse, _, hcanonical, rfl, hpayload, rfl, _, hchain, rfl, rfl⟩

/-- The loop of `verify` checks a hash chain. -/
lemma verifyRows_eq_ok :
    verifyRows env position previousHash rows = .ok h ↔
      Chained (Links env) AuditEvent.chainHash position previousHash rows ∧
        h = headHash AuditEvent.chainHash previousHash rows := by
  induction rows generalizing position previousHash with
  | nil =>
    simp only [verifyRows, Chained, headHash, true_and]
    exact ⟨fun h => (Except.ok.inj h).symm, fun h => congrArg Except.ok h.symm⟩
  | cons row rows ih =>
    simp only [verifyRows, bind_ok_iff, verifyRow_eq_ok, Chained, headHash]
    constructor
    · rintro ⟨observed, ⟨hlinks, rfl⟩, hrows⟩
      obtain ⟨hchained, hhead⟩ := ih.mp hrows
      exact ⟨⟨hlinks, hchained⟩, hhead⟩
    · rintro ⟨⟨hlinks, hchained⟩, hhead⟩
      exact ⟨_, ⟨hlinks, rfl⟩, ih.mpr ⟨hchained, hhead⟩⟩

/-- A table that `verify` accepts. -/
def Verified (env : AuditEnvironment) (rows : AuditTable) : Prop :=
  Chained (Links env) AuditEvent.chainHash 1 zeroHash rows

lemma Verified.verify (h : Verified env rows) :
    verify env none none rows =
      .ok ⟨rows.length, headHash AuditEvent.chainHash zeroHash rows⟩ := by
  have hrows := verifyRows_eq_ok.mpr ⟨h, rfl⟩
  unfold AuditLedger.verify
  rw [hrows]
  rfl

/-- An expected count and an expected head are checked. -/
lemma verify_expected {count : ℕ} {head : String} {v : AuditVerification}
    (h : verify env (some count) (some head) rows = .ok v) :
    Verified env rows ∧ rows.length = count ∧
      headHash AuditEvent.chainHash zeroHash rows = head := by
  unfold AuditLedger.verify at h
  simp only [bind_ok_iff, refuse_eq_ok, not_not, exists_const] at h
  obtain ⟨observed, hrows, hcount, hhead, -⟩ := h
  obtain ⟨hchained, rfl⟩ := verifyRows_eq_ok.mp hrows
  exact ⟨hchained, hcount, hhead⟩

/-! ## Tampering -/

/-- A text that is hashed for a row: its payload or its envelope. -/
def Encodes (rows : AuditTable) (text : String) : Prop :=
  ∃ row ∈ rows, text = row.payloadJson ∨
    canonicalJson (envelopeValue (rowEnvelope row row.payloadSha256 row.previousHash)) = .ok text

/-- A chain hash determines its row, as far as SHA-256 is injective. -/
lemma Links.eq {row' : AuditEvent} {n : ℕ} {p p' : String}
    (hinj : Set.InjOn env.sha256 {text | Encodes rows text ∨ Encodes rows' text})
    (hmem : row ∈ rows) (hmem' : row' ∈ rows') (h : Links env n p row) (h' : Links env n p' row')
    (hhash : row.chainHash = row'.chainHash) : p = p' ∧ row = row' := by
  obtain ⟨hexact, hchain⟩ := chainHash_eq_ok.mp h.chainHash
  obtain ⟨hexact', hchain'⟩ := chainHash_eq_ok.mp h'.chainHash
  have hencodes : Encodes rows (envelopeJson (rowEnvelope row row.payloadSha256
      row.previousHash)).dumps :=
    ⟨row, hmem, Or.inr (canonicalJson_envelopeValue.mpr ⟨hexact, rfl⟩)⟩
  have hencodes' : Encodes rows' (envelopeJson (rowEnvelope row' row'.payloadSha256
      row'.previousHash)).dumps :=
    ⟨row', hmem', Or.inr (canonicalJson_envelopeValue.mpr ⟨hexact', rfl⟩)⟩
  have htexts := hinj (Or.inl hencodes) (Or.inr hencodes')
    (hchain.symm.trans (hhash.trans hchain'))
  have henvelope := envelopeJson_injective hexact hexact' htexts
  have hpayloadSha : row.payloadSha256 = row'.payloadSha256 :=
    congrArg AuditEnvelope.payloadSha256 henvelope
  have hpayload : row.payloadJson = row'.payloadJson :=
    hinj (Or.inl ⟨row, hmem, Or.inl rfl⟩) (Or.inr ⟨row', hmem', Or.inl rfl⟩)
      (h.payloadSha256.trans (hpayloadSha.trans h'.payloadSha256.symm))
  have hprevious : row.previousHash = row'.previousHash :=
    congrArg AuditEnvelope.previousHash henvelope
  refine ⟨h.previousHash.symm.trans (hprevious.trans h'.previousHash), ?_⟩
  obtain ⟨sequence, id, category, actor, payload, payloadSha, previous, chain, created⟩ := row
  obtain ⟨sequence', id', category', actor', payload', payloadSha', previous', chain', created'⟩ :=
    row'
  simp only [rowEnvelope, AuditEnvelope.mk.injEq] at henvelope
  obtain ⟨rfl, rfl, rfl, rfl, -, -, rfl⟩ := henvelope
  simp only at hpayloadSha hpayload hprevious hhash
  subst hpayloadSha hpayload hprevious hhash
  rfl

/-- **Tamper evidence.**  Two tables that are verified against the same count and the same head are
equal row by row, if SHA-256 is injective on the texts that are hashed for them. -/
theorem tamper_evident {rows rows' : AuditTable} {count : ℕ} {head : String}
    {v v' : AuditVerification}
    (hinj : Set.InjOn env.sha256 {text | Encodes rows text ∨ Encodes rows' text})
    (h : verify env (some count) (some head) rows = .ok v)
    (h' : verify env (some count) (some head) rows' = .ok v') : rows = rows' := by
  obtain ⟨hverified, hcount, hhead⟩ := verify_expected h
  obtain ⟨hverified', hcount', hhead'⟩ := verify_expected h'
  refine eq_of_headHash ?_ hverified hverified' (hcount.trans hcount'.symm)
    (hhead.trans hhead'.symm)
  exact fun n p p' row row' hmem hmem' hlinks hlinks' hhash =>
    hlinks.eq hinj hmem hmem' hlinks' hhash

/-! ## What `append` does -/

/-- A row with this id. -/
def find (rows : AuditTable) (auditEventId : String) : Option AuditEvent :=
  rows.find? fun row => row.auditEventId = auditEventId

/-- How `append` returns: with a known row, or with a new one at the end. -/
inductive Appended (env : AuditEnvironment) (call : AuditAppend) (rows : AuditTable) :
    AuditReceipt → AuditTable → Prop
  | known {event : RecordedEvent} {row : AuditEvent} (hrecord : record env call = .ok event)
      (hfind : find rows event.auditEventId = some row) (hmatches : matchesRow event row = true) :
      Appended env call rows (receiptOf row) rows
  | new {event : RecordedEvent} {hash : String} (hrecord : record env call = .ok event)
      (hfind : find rows event.auditEventId = none)
      (hhash : chainHash env (nextEnvelope rows event) = .ok hash) :
      Appended env call rows (receiptOf (nextRow rows event hash))
        (rows ++ [nextRow rows event hash])

lemma triple_insert :
    Triple (fun t => t = rows) (insert env row) (fun _ t => t = rows ++ [row])
      (fun t => t = rows) := by
  refine triple_get_bind fun t ht => ?_
  refine triple_bind keeps_refuse fun _ => triple_bind keeps_refuse fun _ =>
    triple_bind keeps_refuse fun _ => triple_bind keeps_refuse fun _ =>
    triple_bind keeps_refuse fun _ => triple_bind keeps_refuse fun _ =>
    triple_bind keeps_refuse fun _ => triple_bind keeps_refuse fun _ => ?_
  exact triple_modify fun t ht => by rw [ht]

/-- A new event: its row is the last one. -/
lemma triple_appendNew (hrecord : record env call = .ok event)
    (hfind : find rows event.auditEventId = none) :
    Triple (fun t => t = rows) (appendNew env event) (Appended env call rows)
      (fun t => t = rows) := by
  refine triple_get_bind fun t ht => ?_
  rw [ht]
  cases hhash : chainHash env (nextEnvelope rows event) with
  | error failure => exact fun t ht => ht
  | ok hash =>
    refine triple_bind (Q := fun h t => h = hash ∧ t = rows) (fun t ht => ⟨rfl, ht⟩) fun h => ?_
    refine triple_assume fun heq => ?_
    rw [heq]
    refine triple_bind triple_insert fun _ => triple_pure fun t ht => ?_
    rw [ht]
    exact .new hrecord hfind hhash

/-- An `append` that raises changes nothing. -/
theorem triple_append {rows : AuditTable} :
    Triple (fun t => t = rows) (append env call) (Appended env call rows) (fun t => t = rows) := by
  unfold append
  cases hrecord : record env call with
  | error failure => exact fun t ht => ht
  | ok event =>
    refine triple_bind (Q := fun e t => e = event ∧ t = rows) (fun t ht => ⟨rfl, ht⟩) fun e => ?_
    refine triple_assume fun heq => triple_get_bind fun t ht => ?_
    rw [heq, ht]
    cases hfind : find rows event.auditEventId with
    | none =>
      unfold find at hfind
      rw [hfind]
      exact triple_appendNew hrecord hfind
    | some row =>
      have hfound := hfind
      unfold find at hfound
      rw [hfound]
      by_cases hmatches : matchesRow event row = true
      · simp only [hmatches, if_true]
        refine triple_pure fun t ht => ?_
        rw [ht]
        exact .known hrecord hfind hmatches
      · simp only [hmatches]
        exact triple_throw fun t ht => ht

/-! ## Tables that are written by `append` -/

/-- The chain is in order and no id occurs twice. -/
structure Written (env : AuditEnvironment) (rows : AuditTable) : Prop where
  verified : Verified env rows
  nodup : (rows.map AuditEvent.auditEventId).Nodup

lemma written_nil : Written env [] := ⟨trivial, List.nodup_nil⟩

lemma payloadHooks_lossless : payloadHooks.Lossless := by
  have hnone : ∀ (ms : List (String × Json)) (seen : List String), (ms.map Prod.fst).Nodup →
      (∀ key ∈ ms.map Prod.fst, key ∉ seen) → duplicateKey seen ms = none := by
    intro ms
    induction ms with
    | nil => exact fun _ _ _ => rfl
    | cons m ms ih =>
      intro seen hkeys hseen
      rw [List.map_cons, List.nodup_cons] at hkeys
      have hm : m.1 ∉ seen := hseen m.1 List.mem_cons_self
      rw [duplicateKey, if_neg hm]
      refine ih (m.1 :: seen) hkeys.2 fun key hkey hmem => ?_
      rcases List.mem_cons.mp hmem with rfl | hmem
      · exact hkeys.1 hkey
      · exact hseen key (List.mem_cons_of_mem _ hkey) hmem
  intro ms hkeys
  simp only [payloadHooks, hnone ms [] hkeys fun _ _ => List.not_mem_nil]

/-- What `record` writes is canonical. -/
lemma record_canonical (h : record env call = .ok event) :
    event.auditEventId = call.auditEventId ∧ event.payloadSha256 = env.sha256 event.payloadJson ∧
      ∃ payload, parsePayload event.payloadJson = .ok payload ∧
        canonicalJson payload = .ok event.payloadJson := by
  unfold record at h
  simp only [bind_ok_iff] at h
  obtain ⟨-, -, -, -, -, -, createdAt, -, -, -, payloadJson, hjson, hevent⟩ := h
  cases hevent
  obtain ⟨v, hloads, hfixed⟩ := canonicalJson_loads payloadHooks_lossless hjson
  refine ⟨rfl, rfl, .ofJson v, ?_, hfixed⟩
  unfold parsePayload
  rw [hloads]
  rfl

lemma Verified.nextLink (h : Verified env rows) :
    nextLink rows = (((1 + rows.length : ℕ) : ℤ), headHash AuditEvent.chainHash zeroHash rows) := by
  unfold AuditLedger.nextLink
  rcases List.eq_nil_or_concat' rows with rfl | ⟨rows, row, rfl⟩
  · rfl
  · have hsequence := (chained_append.mp h).2.sequence
    rw [List.getLast?_concat, headHash_append]
    simp only [hsequence, List.length_append, List.length_singleton]
    push_cast
    ring_nf

/-- A new row is linked to the head of the chain. -/
lemma Verified.append {hash : String} (h : Verified env rows)
    (hrecord : record env call = .ok event)
    (hhash : chainHash env (nextEnvelope rows event) = .ok hash) :
    Verified env (rows ++ [nextRow rows event hash]) := by
  obtain ⟨-, hpayload, hcanonical⟩ := record_canonical hrecord
  refine chained_append.mpr ⟨h, ?_⟩
  refine ⟨?_, hcanonical, hpayload.symm, ?_, hhash⟩
  · exact congrArg Prod.fst h.nextLink
  · exact congrArg Prod.snd h.nextLink

lemma Written.appended (h : Written env rows) (happended : Appended env call rows receipt rows') :
    Written env rows' := by
  cases happended with
  | known _ _ _ => exact h
  | @new event hash hrecord hfind hhash =>
    refine ⟨h.verified.append hrecord hhash, List.nodup_map_snoc.mpr ⟨h.nodup, ?_⟩⟩
    exact fun row hrow heq => List.find?_eq_none.mp hfind row hrow (decide_eq_true heq)

/-! ## Sequences of calls -/

/-- Calls of `append` one after the other, with the receipts that they return. -/
def appendAll (env : AuditEnvironment) : List AuditAppend → AuditTable →
    List AuditReceipt × AuditTable
  | [], rows => ([], rows)
  | call :: calls, rows =>
    match append env call rows with
    | .ok receipt rows => (receipt :: (appendAll env calls rows).1, (appendAll env calls rows).2)
    | .error _ rows => appendAll env calls rows

lemma appendAll_keeps {I : List AuditReceipt → AuditTable → Prop}
    (hstep : ∀ receipts rows call receipt rows', I receipts rows →
      Appended env call rows receipt rows' → I (receipts ++ [receipt]) rows')
    {receipts : List AuditReceipt} {rows : AuditTable} (h : I receipts rows)
    (calls : List AuditAppend) :
    I (receipts ++ (appendAll env calls rows).1) (appendAll env calls rows).2 := by
  induction calls generalizing receipts rows with
  | nil => simpa [appendAll] using h
  | cons call calls ih =>
    have happend := @triple_append env call rows rows rfl
    unfold appendAll
    cases hrun : append env call rows with
    | ok receipt rows' =>
      rw [hrun] at happend
      have hnext := ih (hstep receipts rows call receipt rows' h happend)
      simpa using hnext
    | error failure rows' =>
      rw [hrun] at happend
      have hsame : rows' = rows := happend
      rw [hsame]
      exact ih h

/-- The ids of a table are those of the receipts. -/
def Receipted (receipts : List AuditReceipt) (rows : AuditTable) : Prop :=
  ∀ id, id ∈ rows.map AuditEvent.auditEventId ↔ id ∈ receipts.map AuditReceipt.auditEventId

lemma Receipted.appended {receipts : List AuditReceipt}
    (h : Receipted receipts rows) (happended : Appended env call rows receipt rows') :
    Receipted (receipts ++ [receipt]) rows' := by
  intro id
  rw [List.map_append, List.mem_append, ← h id]
  cases happended with
  | @known event row hrecord hfind hmatches =>
    have hmem : row.auditEventId ∈ rows.map AuditEvent.auditEventId :=
      List.mem_map_of_mem (List.mem_of_find?_eq_some hfind)
    simp only [List.map_singleton, List.mem_singleton, receiptOf]
    exact ⟨Or.inl, fun hid => hid.elim (fun hid => hid) fun hid => hid ▸ hmem⟩
  | @new event hash hrecord hfind hhash =>
    rw [List.map_append, List.mem_append]
    rfl

/-- The rows of an earlier table are the first rows of a later one. -/
lemma appendAll_extends (calls : List AuditAppend) (rows : AuditTable) :
    rows <+: (appendAll env calls rows).2 := by
  refine @appendAll_keeps env (fun _ rows' => rows <+: rows') ?_ [] rows
    (List.prefix_refl rows) calls
  rintro receipts rows' call receipt rows'' h happended
  cases happended with
  | known _ _ _ => exact h
  | new _ _ _ => exact h.trans (List.prefix_append _ _)

/-- Every table that `append` writes is written in order. -/
lemma written_appendAll (calls : List AuditAppend) : Written env (appendAll env calls []).2 :=
  @appendAll_keeps env (fun _ rows => Written env rows)
    (fun _ _ _ _ _ h happended => h.appended happended) [] [] written_nil calls

lemma length_appendAll (calls : List AuditAppend) :
    (appendAll env calls []).2.length =
      ((appendAll env calls []).1.map AuditReceipt.auditEventId).toFinset.card := by
  have hreceipted : Receipted ([] ++ (appendAll env calls []).1) (appendAll env calls []).2 :=
    appendAll_keeps (fun _ _ _ _ _ h happended => h.appended happended) (fun _ => Iff.rfl) calls
  have hset : ((appendAll env calls []).2.map AuditEvent.auditEventId).toFinset =
      ((appendAll env calls []).1.map AuditReceipt.auditEventId).toFinset := by
    ext id
    rw [List.mem_toFinset, List.mem_toFinset]
    exact hreceipted id
  have hcard := List.toFinset_card_of_nodup (@written_appendAll env calls).nodup
  rw [← hset, hcard, List.length_map]

/-! ## Repeated ids -/

lemma Written.find (h : Written env rows) (hmem : row ∈ rows) :
    AuditLedger.find rows row.auditEventId = some row := by
  have hnodup := h.nodup
  clear h
  induction rows with
  | nil => cases hmem
  | cons r rows ih =>
    rw [List.map_cons, List.nodup_cons] at hnodup
    rcases List.mem_cons.mp hmem with rfl | hmem
    · exact List.find?_cons_of_pos (by simp)
    · have hne : r.auditEventId ≠ row.auditEventId := by
        intro heq
        exact hnodup.1 (heq ▸ List.mem_map_of_mem hmem)
      unfold AuditLedger.find
      rw [List.find?_cons_of_neg (by simpa using hne)]
      exact ih hmem hnodup.2

/-- A row that records an event. -/
def Records (event : RecordedEvent) (row : AuditEvent) : Prop :=
  row.auditEventId = event.auditEventId ∧ matchesRow event row = true

/-- Whatever was appended is recorded by its row, of which it is the receipt. -/
lemma Appended.exists_row (h : Appended env call rows receipt rows') :
    ∃ event row, record env call = .ok event ∧ row ∈ rows' ∧ Records event row ∧
      receipt = receiptOf row := by
  cases h with
  | @known event row hrecord hfind hmatches =>
    have hid : row.auditEventId = event.auditEventId := by
      simpa using List.find?_some hfind
    exact ⟨event, row, hrecord, List.mem_of_find?_eq_some hfind, ⟨hid, hmatches⟩, rfl⟩
  | @new event hash hrecord hfind hhash =>
    exact ⟨event, _, hrecord, List.mem_append_right _ List.mem_cons_self,
      ⟨rfl, by simp [matchesRow, nextRow]⟩, rfl⟩

lemma Records.unique {call' : AuditAppend} {event' : RecordedEvent}
    (hrecord : record env call = .ok event) (hrecord' : record env call' = .ok event')
    (h : Records event row) (h' : Records event' row) : event = event' := by
  have hid := h.1.symm.trans h'.1
  have hmatches := h.2
  have hmatches' := h'.2
  simp only [matchesRow, Bool.and_eq_true, decide_eq_true_eq] at hmatches hmatches'
  obtain ⟨id, category, actor, payload, payloadSha, created⟩ := event
  obtain ⟨id', category', actor', payload', payloadSha', created'⟩ := event'
  simp only at hid hmatches hmatches'
  obtain ⟨⟨⟨⟨rfl, rfl⟩, rfl⟩, rfl⟩, rfl⟩ := hmatches
  obtain ⟨⟨⟨⟨rfl, rfl⟩, rfl⟩, rfl⟩, rfl⟩ := hmatches'
  rw [hid]

/-- An event that a row records is not appended again. -/
lemma append_of_records (h : Written env rows)
    (hrecord : record env call = .ok event) (hmem : row ∈ rows) (hrecords : Records event row) :
    append env call rows = .ok (receiptOf row) rows := by
  have hfind := h.find hmem
  rw [hrecords.1] at hfind
  unfold AuditLedger.find at hfind
  rw [append_of_record hrecord, hfind]
  simp only [hrecords.2, if_true]
  rfl

/-- A stored id is refused for anything that its row does not record. -/
lemma append_of_not_records (h : Written env rows)
    (hmem : row ∈ rows) (hid : row.auditEventId = call.auditEventId)
    (hnot : ∀ event, record env call = .ok event → ¬ Records event row) :
    ∃ failure, append env call rows = .error failure rows := by
  have happend := @triple_append env call rows rows rfl
  cases hrun : append env call rows with
  | error failure rows' =>
    rw [hrun] at happend
    exact ⟨failure, by rw [show rows' = rows from happend]⟩
  | ok receipt rows' =>
    rw [hrun] at happend
    have happended : Appended env call rows receipt rows' := happend
    exfalso
    have hfind := h.find hmem
    cases happended with
    | @known event row' hrecord hfind' hmatches =>
      rw [(record_canonical hrecord).1, ← hid, hfind] at hfind'
      cases hfind'
      exact hnot event hrecord ⟨hid.trans (record_canonical hrecord).1.symm, hmatches⟩
    | @new event hash hrecord hfind' hhash =>
      rw [(record_canonical hrecord).1, ← hid, hfind] at hfind'
      cases hfind'

/-- **Integrity.**  After any calls, `verify` succeeds, with as many rows as distinct ids were
accepted.  An id that was accepted is answered, at any later time, with the original receipt where
the arguments are recorded as they were, and refused otherwise; the table stays as it is. -/
theorem chain_integrity (env : AuditEnvironment) (calls : List AuditAppend) :
    (∃ head, verify env none none (appendAll env calls []).2 =
      .ok ⟨((appendAll env calls []).1.map AuditReceipt.auditEventId).toFinset.card, head⟩) ∧
    ∀ call receipt rows, append env call (appendAll env calls []).2 = .ok receipt rows →
      ∀ later again, again.auditEventId = call.auditEventId →
        (record env again = record env call →
          append env again (appendAll env later rows).2 =
            .ok receipt (appendAll env later rows).2) ∧
        (record env again ≠ record env call → ∃ failure,
          append env again (appendAll env later rows).2 =
            .error failure (appendAll env later rows).2) := by
  have hwritten := @written_appendAll env calls
  refine ⟨⟨_, by rw [← length_appendAll]; exact hwritten.verified.verify⟩, ?_⟩
  intro call receipt rows hcall later again hid
  have happended : Appended env call _ receipt rows := triple_append.ok hcall rfl
  obtain ⟨event, row, hrecord, hmem, hrecords, rfl⟩ := happended.exists_row
  have hlater : Written env (appendAll env later rows).2 :=
    @appendAll_keeps env (fun _ rows => Written env rows)
      (fun _ _ _ _ _ h happended => h.appended happended) [] rows
        (hwritten.appended happended) later
  have hmemLater : row ∈ (appendAll env later rows).2 := (appendAll_extends later rows).subset hmem
  constructor
  · intro hsame
    exact append_of_records hlater (hsame.trans hrecord) hmemLater hrecords
  · intro hdiffers
    refine append_of_not_records hlater hmemLater ?_ fun event' hrecord' hrecords' => ?_
    · rw [hrecords.1, (record_canonical hrecord).1, hid]
    · have heq := hrecords'.unique hrecord' hrecord hrecords
      exact hdiffers (by rw [hrecord', hrecord, heq])

end Rows

namespace Sample

/-- The payload of the event, encoded. -/
def payload : String := "\x7b\"amount\":\"1\"\x7d"

/-- The envelope of the event at the head of the chain, encoded. -/
def envelope : String :=
  "\x7b\"actor\":\"tester\",\"audit_event_id\":\"evt-1\",\"category\":\"TEST\"," ++
  "\"created_at\":\"2024-01-02T03:04:05+00:00\"," ++
  "\"payload_sha256\":\"cdb8de78f10f4776de95629e660ff8a5aba9ab22166d96ce73e50d0e3acfc6dc\"," ++
  "\"previous_hash\":\"0000000000000000000000000000000000000000000000000000000000000000\"," ++
  "\"schema\":\"firmquant.audit-event.v1\",\"sequence\":1\x7d"

/-- SHA-256 at the two texts; other texts are not hashed here. -/
def system : AuditEnvironment where
  sha256 text :=
    if text = payload then "cdb8de78f10f4776de95629e660ff8a5aba9ab22166d96ce73e50d0e3acfc6dc"
    else if text = envelope then "af113b8009943a670188aea8985de8e3208607381898a4abc78473ba53b146df"
    else zeroHash
  lower text := text
  jsonValid _ := true

def createdAt : AwareDateTime :=
  ⟨⟨2024, 1, 2, by decide⟩, 3, 4, 5, 0, 0, by decide, by decide, by decide, by decide, by decide⟩

/-- An event with an amount. -/
def call (amount : LedgerValue) : AuditAppend where
  auditEventId := "evt-1"
  category := "TEST"
  actor := "tester"
  payload := .mapping [(.text "amount", amount)]
  createdAt := .datetime createdAt

/-- The row of the event. -/
def row : AuditEvent where
  sequence := 1
  auditEventId := "evt-1"
  category := "TEST"
  actor := "tester"
  payloadJson := payload
  payloadSha256 := "cdb8de78f10f4776de95629e660ff8a5aba9ab22166d96ce73e50d0e3acfc6dc"
  previousHash := zeroHash
  chainHash := "af113b8009943a670188aea8985de8e3208607381898a4abc78473ba53b146df"
  createdAt := "2024-01-02T03:04:05+00:00"

/-- The result of `append`, compared with a row. -/
def appends (call : AuditAppend) (rows : AuditTable) : Bool :=
  returnsWith (fun receipt rows' => receipt = receiptOf row && rows' = [row])
    (append system call rows)

lemma append_of_appends {call : AuditAppend} (h : appends call rows = true) :
    append system call rows = .ok (receiptOf row) [row] := by
  obtain ⟨receipt, rows', hrun, hcheck⟩ := exists_ok_of_returnsWith h
  rw [Bool.and_eq_true, decide_eq_true_eq, decide_eq_true_eq] at hcheck
  rw [hrun, hcheck.1, hcheck.2]

/-- The two texts that are hashed for the row. -/
lemma encodes {text : String} (h : Encodes [row] text) : text = payload ∨ text = envelope := by
  obtain ⟨r, hr, htext⟩ := h
  rw [List.mem_singleton] at hr
  subst hr
  have henvelope : canonicalJson (envelopeValue (rowEnvelope row row.payloadSha256
      row.previousHash)) = .ok envelope := by decide +kernel
  rcases htext with htext | htext
  · exact Or.inl htext
  · rw [henvelope] at htext
    exact Or.inr (Except.ok.inj htext).symm

end Sample

/-- A table of one row and its head. -/
theorem tamper_evident_row :
    verify Sample.system (some 1) (some Sample.row.chainHash) [Sample.row] =
        .ok ⟨1, Sample.row.chainHash⟩ ∧
      [Sample.row] = [Sample.row] := by
  have hverify : verify Sample.system (some 1) (some Sample.row.chainHash) [Sample.row] =
      .ok ⟨1, Sample.row.chainHash⟩ := by decide +kernel
  have hne : Sample.system.sha256 Sample.payload ≠ Sample.system.sha256 Sample.envelope := by
    decide +kernel
  refine ⟨hverify, tamper_evident ?_ hverify hverify⟩
  intro text htext text' htext' heq
  rcases Sample.encodes (htext.elim id id) with rfl | rfl
  · rcases Sample.encodes (htext'.elim id id) with rfl | rfl
    · rfl
    · exact absurd heq hne
  · rcases Sample.encodes (htext'.elim id id) with rfl | rfl
    · exact absurd heq.symm hne
    · rfl

/-- An amount as a `Decimal` and the same amount as a text are different arguments with one
encoding: the second is not refused. -/
theorem other_argument_accepted :
    Sample.call (.text "1") ≠ Sample.call (.decimal ⟨false, 1, 0⟩) ∧
      append Sample.system (Sample.call (.decimal ⟨false, 1, 0⟩)) [] =
        .ok (receiptOf Sample.row) [Sample.row] ∧
      append Sample.system (Sample.call (.text "1")) [Sample.row] =
        .ok (receiptOf Sample.row) [Sample.row] := by
  refine ⟨fun h => ?_, Sample.append_of_appends (by decide +kernel),
    Sample.append_of_appends (by decide +kernel)⟩
  have hpayload := congrArg AuditAppend.payload h
  simp [Sample.call] at hpayload

end AuditLedger

end FirmQuant
