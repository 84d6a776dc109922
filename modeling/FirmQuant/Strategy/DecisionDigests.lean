import FirmQuant.Foundation.Effect
import FirmQuant.Foundation.JsonDumps

/-!
# The two digests of a decision

`_canonical_sha256` of `strategy/adapter.py` and `_json_copy` and `_uquant_decision_sha256` of
`strategy/snapshots.py`, with the checks of `decide_once`, `recover_existing_decision` and
`DecisionSnapshot.create` that compare them with the digest of the decision.

The adapter encodes with `ensure_ascii=False`, the snapshot with the default.
-/

namespace FirmQuant

open Effect
open CodeText (ofChars)

/-- A SHA-256 digest, by the bytes that were hashed. -/
structure Sha256 where
  content : List UInt8
  deriving DecidableEq

/-- The exceptions of the strategy adapter and of the snapshot. -/
inductive StrategyError
  | strategyAdapter (message : String)
  | decisionRecovery (message : String)
  | decisionSnapshot (message : CodeText)
  /-- A `ValueError` of `json.dumps`, as it is. -/
  | valueError (error : DumpsError)

namespace StrategyError

/-- The text of a message. -/
def message (s : String) : CodeText := ofChars s.toList

end StrategyError

open StrategyError (message)

/-! ## Digests -/

/-- `_canonical_sha256`. -/
def canonicalSha256 (payload : JsonTree .members) : Except StrategyError Sha256 :=
  match (JsonTree.obj payload).dumpsBytes false false with
  | .ok encoded => .ok ⟨encoded⟩
  | .error _ => .error (.strategyAdapter "decision input is not canonical JSON")

/-- `_json_copy`, with the index of the first item for the items of an array. -/
def jsonCopy : {part : JsonPart} → CodeText → ℕ → JsonTree part →
    Except StrategyError (JsonTree part)
  | _, path, _, .scalar s =>
    match s with
    | .nonFinite _ => .error (.decisionSnapshot (path ++ message " contains non-finite float"))
    | _ => .ok (.scalar s)
  | _, path, _, .arr items => do
    let copied ← jsonCopy path 0 items
    return .arr copied
  | _, path, _, .obj members => do
    let copied ← jsonCopy path 0 members
    return .obj copied
  | _, _, _, .noItem => .ok .noItem
  | _, path, index, .item x items => do
    let x' ← jsonCopy (path ++ message "[" ++ digitCodes index ++ message "]") 0 x
    let items' ← jsonCopy path (index + 1) items
    return .item x' items'
  | _, _, _, .noMember => .ok .noMember
  | _, path, _, .member key x members => do
    let x' ← jsonCopy (path ++ message "." ++ key) 0 x
    let members' ← jsonCopy path 0 members
    return .member key x' members'

/-- `_uquant_decision_sha256`. -/
def uquantDecisionSha256 (payload : JsonTree .members) : Except StrategyError Sha256 := do
  let copied ← jsonCopy (message "uquant_payload") 0 payload
  match (JsonTree.obj copied).dumpsBytes true true with
  | .ok encoded => return ⟨encoded⟩
  | .error e => throw (.valueError e)

/-! ## Checks -/

/-- The check of `decide_once` on the digest of the decision. -/
def decideOnceDigest (uquantPayload : JsonTree .members) (decisionDigest : Sha256) :
    Except StrategyError Unit := do
  let observed ← canonicalSha256 uquantPayload
  if decisionDigest = observed then return ()
  else throw (.strategyAdapter "uquant decision digest differs from canonical payload")

/-- The check of `recover_existing_decision` on the digest of the recomputed decision. -/
def recoverExistingDigest (uquantPayload : JsonTree .members) (decisionDigest : Sha256) :
    Except StrategyError Unit := do
  let observed ← canonicalSha256 uquantPayload
  if decisionDigest = observed then return ()
  else throw (.decisionRecovery "recomputed uquant decision digest is not canonical")

/-- The check of `DecisionSnapshot.create` on the digest of the decision. -/
def createDigest (uquantPayload : JsonTree .members) (uquantDecisionDigest : Sha256) :
    Except StrategyError Unit := do
  let upstream ← jsonCopy (message "uquant_payload") 0 uquantPayload
  let observed ← uquantDecisionSha256 upstream
  if observed = uquantDecisionDigest then return ()
  else throw (.decisionSnapshot (message "uquant decision digest does not match canonical payload"))

/-! ## What is copied -/

open JsonTree (finite_item finite_member finite_scalar encodable_false_iff)

/-- A value is copied just if all its floats are finite, and then as it is. -/
theorem jsonCopy_eq_ok {part : JsonPart} (v : JsonTree part) :
    ∀ {path : CodeText} {index : ℕ} {w : JsonTree part},
      jsonCopy path index v = .ok w ↔ v.Finite ∧ w = v := by
  induction v with
  | scalar s =>
    intro path index w
    rw [finite_scalar]
    cases s with
    | nonFinite value =>
      constructor
      · intro h
        cases h
      · rintro ⟨h, -⟩
        exact absurd rfl (h value)
    | _ => simp [jsonCopy, eq_comm]
  | arr items ih =>
    intro path index w
    rw [jsonCopy, bind_ok_iff]
    constructor
    · rintro ⟨copied, hcopied, hw⟩
      obtain ⟨hfinite, rfl⟩ := ih.mp hcopied
      cases hw
      exact ⟨hfinite, rfl⟩
    · rintro ⟨hfinite, rfl⟩
      exact ⟨items, ih.mpr ⟨hfinite, rfl⟩, rfl⟩
  | obj members ih =>
    intro path index w
    rw [jsonCopy, bind_ok_iff]
    constructor
    · rintro ⟨copied, hcopied, hw⟩
      obtain ⟨hfinite, rfl⟩ := ih.mp hcopied
      cases hw
      exact ⟨hfinite, rfl⟩
    · rintro ⟨hfinite, rfl⟩
      exact ⟨members, ih.mpr ⟨hfinite, rfl⟩, rfl⟩
  | noItem | noMember =>
    intro path index w
    simp [jsonCopy, JsonTree.Finite, JsonTree.scalars, eq_comm]
  | item x items ihx ih =>
    intro path index w
    rw [jsonCopy, bind_ok_iff, finite_item]
    constructor
    · rintro ⟨x', hx', hrest⟩
      obtain ⟨items', hitems', hw⟩ := bind_ok_iff.mp hrest
      obtain ⟨hx, rfl⟩ := ihx.mp hx'
      obtain ⟨hitems, rfl⟩ := ih.mp hitems'
      cases hw
      exact ⟨⟨hx, hitems⟩, rfl⟩
    · rintro ⟨⟨hx, hitems⟩, rfl⟩
      exact ⟨x, ihx.mpr ⟨hx, rfl⟩, bind_ok_iff.mpr ⟨items, ih.mpr ⟨hitems, rfl⟩, rfl⟩⟩
  | member key x members ihx ih =>
    intro path index w
    rw [jsonCopy, bind_ok_iff, finite_member]
    constructor
    · rintro ⟨x', hx', hrest⟩
      obtain ⟨members', hmembers', hw⟩ := bind_ok_iff.mp hrest
      obtain ⟨hx, rfl⟩ := ihx.mp hx'
      obtain ⟨hmembers, rfl⟩ := ih.mp hmembers'
      cases hw
      exact ⟨⟨hx, hmembers⟩, rfl⟩
    · rintro ⟨⟨hx, hmembers⟩, rfl⟩
      exact ⟨x, ihx.mpr ⟨hx, rfl⟩, bind_ok_iff.mpr ⟨members, ih.mpr ⟨hmembers, rfl⟩, rfl⟩⟩

/-! ## When the digests agree -/

/-- The bytes that a serializer call gives, of the payload as it is sorted. -/
abbrev sortedBytes (ensureAscii : Bool) (payload : JsonTree .members) : Option (List UInt8) :=
  ((JsonTree.obj payload).sorted.print ensureAscii).encode

variable {payload : JsonTree .members} {digest : Sha256}

lemma canonicalSha256_eq_ok :
    canonicalSha256 payload = .ok digest ↔
      payload.Encodable false ∧ sortedBytes false payload = some digest.content := by
  change _ ↔ (JsonTree.obj payload).Encodable false ∧ _
  rw [← JsonTree.dumpsBytes_eq_ok]
  unfold canonicalSha256
  cases (JsonTree.obj payload).dumpsBytes false false with
  | ok encoded =>
    obtain ⟨content⟩ := digest
    simp
  | error e => simp

lemma uquantDecisionSha256_eq_ok :
    uquantDecisionSha256 payload = .ok digest ↔
      payload.Encodable false ∧ sortedBytes true payload = some digest.content := by
  rw [encodable_false_iff, and_assoc]
  change _ ↔ payload.Finite ∧ (JsonTree.obj payload).Encodable true ∧ _
  rw [← JsonTree.dumpsBytes_eq_ok]
  unfold uquantDecisionSha256
  rw [bind_ok_iff]
  constructor
  · rintro ⟨copied, hcopied, h⟩
    obtain ⟨hfinite, rfl⟩ := (jsonCopy_eq_ok payload).mp hcopied
    refine ⟨hfinite, ?_⟩
    cases hbytes : (JsonTree.obj copied).dumpsBytes true true with
    | ok encoded =>
      rw [hbytes] at h
      cases h
      rfl
    | error e =>
      rw [hbytes] at h
      cases h
  · rintro ⟨hfinite, h⟩
    refine ⟨payload, (jsonCopy_eq_ok payload).mpr ⟨hfinite, rfl⟩, ?_⟩
    rw [h]
    rfl

/-- A check passes just if the digest that it computes is the one it is given. -/
lemma decideOnceDigest_eq_ok :
    decideOnceDigest payload digest = .ok () ↔ canonicalSha256 payload = .ok digest := by
  unfold decideOnceDigest
  cases canonicalSha256 payload with
  | ok observed =>
    change (if digest = observed then Except.ok () else .error _) = _ ↔ _
    by_cases h : digest = observed <;> simp [h, eq_comm]
  | error e => simp [bind, Except.bind]

lemma recoverExistingDigest_eq_ok :
    recoverExistingDigest payload digest = .ok () ↔ canonicalSha256 payload = .ok digest := by
  unfold recoverExistingDigest
  cases canonicalSha256 payload with
  | ok observed =>
    change (if digest = observed then Except.ok () else .error _) = _ ↔ _
    by_cases h : digest = observed <;> simp [h, eq_comm]
  | error e => simp [bind, Except.bind]

lemma createDigest_eq_ok :
    createDigest payload digest = .ok () ↔ uquantDecisionSha256 payload = .ok digest := by
  unfold createDigest
  rw [bind_ok_iff]
  constructor
  · rintro ⟨upstream, hupstream, h⟩
    obtain ⟨-, rfl⟩ := (jsonCopy_eq_ok payload).mp hupstream
    obtain ⟨observed, hobserved, h⟩ := bind_ok_iff.mp h
    rw [hobserved]
    split at h
    · next heq => rw [heq]
    · cases h
  · intro h
    have hfinite := (encodable_false_iff.mp (uquantDecisionSha256_eq_ok.mp h).1).1
    refine ⟨payload, (jsonCopy_eq_ok payload).mpr ⟨hfinite, rfl⟩, ?_⟩
    rw [h]
    exact if_pos rfl

/-- The two digests of a payload are equal where one of them exists, and a digest of the decision
that the adapter accepts is one that the snapshot accepts, and the reverse. -/
structure DigestChecksAgree (payload : JsonTree .members) : Prop where
  digests : ∀ digest, canonicalSha256 payload = .ok digest ↔
    uquantDecisionSha256 payload = .ok digest
  decideOnce : ∀ digest, decideOnceDigest payload digest = .ok () ↔
    createDigest payload digest = .ok ()
  recoverExisting : ∀ digest, recoverExistingDigest payload digest = .ok () ↔
    createDigest payload digest = .ok ()

/-- The digest checks agree on a payload just if no key and no text has a character after `~`, or
neither digest exists because an integer is too long to print or a float is not finite. -/
theorem digestChecksAgree_iff (payload : JsonTree .members) :
    DigestChecksAgree payload ↔ payload.Plain ∨ ¬ payload.Encodable false := by
  have hdigests : (∀ digest, canonicalSha256 payload = .ok digest ↔
      uquantDecisionSha256 payload = .ok digest) ↔
        (payload.Encodable false → sortedBytes false payload = sortedBytes true payload) := by
    simp only [canonicalSha256_eq_ok, uquantDecisionSha256_eq_ok]
    constructor
    · intro h hencodable
      refine Option.ext fun bytes => ?_
      have hdigest := h ⟨bytes⟩
      simpa [hencodable] using hdigest
    · intro h digest
      refine and_congr_right fun hencodable => ?_
      rw [h hencodable]
  have hplain : sortedBytes false payload = sortedBytes true payload ↔ payload.Plain :=
    JsonTree.encode_print_eq_iff.trans JsonTree.plain_sorted
  rw [← imp_iff_or_not, ← hplain, ← hdigests]
  constructor
  · exact DigestChecksAgree.digests
  · intro h
    refine ⟨h, fun digest => ?_, fun digest => ?_⟩
    · rw [decideOnceDigest_eq_ok, createDigest_eq_ok, h]
    · rw [recoverExistingDigest_eq_ok, createDigest_eq_ok, h]

/-- A payload with one text, which is a Chinese character. -/
def chinesePayload : JsonTree .members :=
  .member (ofChars ['n', 'a', 'm', 'e']) (.scalar (.text [0x4e00])) .noMember

/-- The checks disagree on a Chinese text: the adapter accepts the digest of the payload that it
encodes, and the snapshot rejects it. -/
theorem digests_of_chinese_text_differ :
    ¬ (∀ payload : JsonTree .members, DigestChecksAgree payload) ∧
      ∃ digest, decideOnceDigest chinesePayload digest = .ok () ∧
        createDigest chinesePayload digest ≠ .ok () := by
  have hsorted : (JsonTree.obj chinesePayload).sorted = .obj chinesePayload := by
    simp [chinesePayload, JsonTree.sorted, JsonTree.insertMember]
  have hencode : ∃ bytes, sortedBytes false chinesePayload = some bytes := by
    rw [sortedBytes, hsorted]
    exact Option.isSome_iff_exists.mp (by decide)
  have hencodable : chinesePayload.Encodable false := by decide
  have hplain : ¬ chinesePayload.Plain := by decide
  have hdiffer : sortedBytes false chinesePayload ≠ sortedBytes true chinesePayload :=
    fun h => hplain (JsonTree.plain_sorted.mp (JsonTree.encode_print_eq_iff.mp h))
  obtain ⟨bytes, hbytes⟩ := hencode
  have hdecide : decideOnceDigest chinesePayload ⟨bytes⟩ = .ok () :=
    decideOnceDigest_eq_ok.mpr (canonicalSha256_eq_ok.mpr ⟨hencodable, hbytes⟩)
  have hcreate : createDigest chinesePayload ⟨bytes⟩ ≠ .ok () := fun h =>
    hdiffer (hbytes.trans (uquantDecisionSha256_eq_ok.mp (createDigest_eq_ok.mp h)).2.symm)
  exact ⟨fun h => hcreate (((h chinesePayload).decideOnce _).mp hdecide), _, hdecide, hcreate⟩

end FirmQuant
