import FirmQuant.Broker.XtQuantProduction
import FirmQuant.Execution.LiveController
import Mathlib.Data.List.Dedup

/-!
# Client identities

`EconomicIdentityBroker` of `broker/economic_identity.py`, with the tags of `client_identity.py`. 
It stands before a gateway and writes the uquant order id of a stored intent in the place of the tag
that was sent with the order.  A stored id is kept as it is, and so is what has not the shape of a
tag; another tag is translated if exactly one stored id has it.
-/

namespace FirmQuant

open Effect

/-! ## Tags -/

/-- The error of `_canonical`, if there is one. -/
def canonicalViolation (label value : String) : Option String :=
  if value = "" ∨ strip value.toList ≠ value.toList then
    some (label ++ " must be canonical non-empty text")
  else if ∃ c ∈ value.toList, c.toNat < 32 ∨ c.toNat = 127 then
    some (label ++ " contains control characters")
  else none

/-- `client_order_tag` of a canonical id. -/
def clientOrderTag (sha256 : String → Digest) (id : String) : String :=
  String.ofList ('f' :: 'q' :: (sha256 id).toList.take 22)

/-- `resolve_uquant_order_id`; the message is that of the `ValueError`. -/
def resolveUquantOrderId (sha256 : String → Digest) (observed : String) (known : List String) :
    Except String String :=
  match canonicalViolation "client order id" observed with
  | some message => .error message
  | none =>
    match known.findSome? (canonicalViolation "known uquant order id") with
    | some message => .error message
    | none =>
      if observed ∈ known then .ok observed
      else
        match known.dedup.filter fun id => clientOrderTag sha256 id = observed with
        | [id] => .ok id
        | _ :: _ :: _ => .error "client order id maps to multiple uquant orders"
        | [] => .error "client order id does not map to a known uquant order"

/-- The calls of a gateway that answer with orders. -/
structure OrderGateway (β : Type) where
  queryOrders : β → Except Failure (List BrokerOrderFact) × β
  submitOrder : BrokerOrderCommand → β → Except Failure BrokerOrderFact × β
  cancelOrder : String → β → Except Failure BrokerOrderFact × β

namespace EconomicIdentityBroker

/-- `BrokerFactUnavailable`. -/
def unavailable : Failure := .brokerError "BrokerFactUnavailable"

section Wrapper

variable (sha256 : String → Digest) (known : List String)

/-- `_economic_id`, where the ids of the stored intents are known. -/
def economicId : Option String → Except Failure (Option String)
  | none => .ok none
  | some value =>
    if value = "" then .error unavailable
    else if value ∈ known then .ok (some value)
    else if isClientOrderTag value = false then .ok (some value)
    else
      match resolveUquantOrderId sha256 value known with
      | .ok id => .ok (some id)
      | .error _ => .error unavailable

/-- `_order`. -/
def order (fact : BrokerOrderFact) : Except Failure BrokerOrderFact := do
  let id ← economicId sha256 known fact.clientOrderId
  return { fact with clientOrderId := id }

/-- The broker before a gateway. -/
def wrap {β : Type} (gateway : OrderGateway β) : OrderGateway β where
  queryOrders b :=
    let (answer, b') := gateway.queryOrders b
    (answer >>= (·.mapM (order sha256 known)), b')
  submitOrder command b :=
    let (answer, b') := gateway.submitOrder command b
    (answer >>= order sha256 known, b')
  cancelOrder id b :=
    let (answer, b') := gateway.cancelOrder id b
    (answer >>= order sha256 known, b')

end Wrapper

/-! ## What is translated -/

variable {sha256 : String → Digest} {known : List String} {fact raw : BrokerOrderFact}
  {id value : String}

/-- A stored id is the only one of its tag, and the tag is no stored id. -/
def Owns (sha256 : String → Digest) (known : List String) (id : String) : Prop :=
  clientOrderTag sha256 id ∉ known ∧
    ∀ other ∈ known, clientOrderTag sha256 other = clientOrderTag sha256 id → other = id

lemma isClientOrderTag_clientOrderTag (h : isSha256 (sha256 id) = true) :
    isClientOrderTag (clientOrderTag sha256 id) = true := by
  obtain ⟨hlength, hhex⟩ := Bool.and_eq_true_iff.mp h
  unfold isClientOrderTag clientOrderTag
  rw [String.toList_ofList]
  have htake : ((sha256 id).toList.take 22).length = 22 := by
    rw [List.length_take, of_decide_eq_true hlength]
    rfl
  refine Bool.and_eq_true_iff.mpr ⟨decide_eq_true htake, List.all_eq_true.mpr fun c hc => ?_⟩
  exact List.all_eq_true.mp hhex c (List.mem_of_mem_take hc)

lemma toNat_of_isHexDigit {c : Char} (h : isHexDigit c = true) :
    48 ≤ c.toNat ∧ c.toNat ≤ 102 := by
  simp only [isHexDigit, Bool.or_eq_true, Bool.and_eq_true, decide_eq_true_eq,
    Char.le_def, UInt32.le_iff_toNat_le] at h
  change (48 ≤ c.toNat ∧ c.toNat ≤ 57) ∨ (97 ≤ c.toNat ∧ c.toNat ≤ 102) at h
  omega

lemma canonicalViolation_of_isClientOrderTag {label : String} (h : isClientOrderTag value = true) :
    canonicalViolation label value = none := by
  have hchars : value.toList ≠ [] ∧ ∀ c ∈ value.toList, 48 ≤ c.toNat ∧ c.toNat ≤ 113 := by
    unfold isClientOrderTag at h
    split at h
    · next rest hvalue =>
      have hrest := List.all_eq_true.mp (Bool.and_eq_true_iff.mp h).2
      rw [hvalue]
      refine ⟨List.cons_ne_nil _ _, fun c hc => ?_⟩
      rcases List.mem_cons.mp hc with rfl | hc
      · decide
      rcases List.mem_cons.mp hc with rfl | hc
      · decide
      · have hdigit := toNat_of_isHexDigit (hrest c hc)
        omega
    · cases h
  have hspace : ∀ c ∈ value.toList, isSpaceCharacter c = false := by
    intro c hc
    have hrange := hchars.2 c hc
    simp only [isSpaceCharacter, Bool.or_eq_false_iff, Bool.and_eq_false_iff,
      decide_eq_false_iff_not]
    omega
  unfold canonicalViolation
  rw [if_neg, if_neg]
  · rintro ⟨c, hc, hcontrol⟩
    have hrange := hchars.2 c hc
    omega
  · rintro (rfl | hstrip)
    · exact hchars.1 rfl
    · exact hstrip (strip_eq_self hspace)

/-- A list without repetitions has one element that passes. -/
lemma filter_dedup_eq_singleton {α : Type} [DecidableEq α] {p : α → Bool} {l : List α} {a : α} :
    l.dedup.filter p = [a] ↔ a ∈ l ∧ p a = true ∧ ∀ b ∈ l, p b = true → b = a := by
  constructor
  · intro h
    have hmem : ∀ b, b ∈ l ∧ p b = true ↔ b = a := by
      intro b
      have hiff : b ∈ l.dedup.filter p ↔ b ∈ [a] := by rw [h]
      rwa [List.mem_filter, List.mem_dedup, List.mem_singleton] at hiff
    exact ⟨((hmem a).mpr rfl).1, ((hmem a).mpr rfl).2, fun b hb hp => (hmem b).mp ⟨hb, hp⟩⟩
  · rintro ⟨ha, hp, hothers⟩
    refine List.perm_singleton.mp ((List.perm_ext_iff_of_nodup
      ((List.nodup_dedup l).filter _) (List.nodup_singleton a)).mpr fun b => ?_)
    rw [List.mem_filter, List.mem_dedup, List.mem_singleton]
    exact ⟨fun hb => hothers b hb.1 hb.2, fun hb => hb ▸ ⟨ha, hp⟩⟩

/-- The ids of the stored intents are canonical. -/
def Canonical (known : List String) : Prop :=
  ∀ id ∈ known, canonicalViolation "known uquant order id" id = none

/-- A tag that is no stored id is resolved to the one stored id of it. -/
lemma resolveUquantOrderId_eq_ok (hknown : Canonical known)
    (hshape : isClientOrderTag value = true) (hvalue : value ∉ known) :
    resolveUquantOrderId sha256 value known = .ok id ↔
      id ∈ known ∧ clientOrderTag sha256 id = value ∧
        ∀ other ∈ known, clientOrderTag sha256 other = value → other = id := by
  have hfind : known.findSome? (canonicalViolation "known uquant order id") = none :=
    List.findSome?_eq_none_iff.mpr hknown
  have hunique := filter_dedup_eq_singleton (p := fun id => clientOrderTag sha256 id = value)
    (l := known) (a := id)
  simp only [decide_eq_true_eq] at hunique
  unfold resolveUquantOrderId
  rw [canonicalViolation_of_isClientOrderTag hshape]
  simp only [hfind, if_neg hvalue]
  rw [← hunique]
  split
  · next id' h =>
    rw [h]
    simp
  · next h =>
    rw [h]
    simp
  · next h =>
    rw [h]
    simp

lemma ne_empty_of_canonical (h : Canonical known) (hid : id ∈ known) : id ≠ "" := by
  rintro rfl
  have hnone := h "" hid
  simp [canonicalViolation] at hnone

lemma economicId_of_not_tag (hempty : value ≠ "") (hshape : isClientOrderTag value = false) :
    economicId sha256 known (some value) = .ok (some value) := by
  by_cases hmem : value ∈ known
  · simp [economicId, hempty, hmem]
  · simp [economicId, hempty, hmem, hshape]

/-- A tag that is no stored id is translated if exactly one stored id has it. -/
lemma economicId_of_tag (hshape : isClientOrderTag value = true) (hvalue : value ∉ known) :
    economicId sha256 known (some value) =
      match resolveUquantOrderId sha256 value known with
      | .ok id => .ok (some id)
      | .error _ => .error unavailable := by
  have hempty : value ≠ "" := by
    rintro rfl
    cases hshape
  simp [economicId, hempty, hvalue, hshape]

/-- The stored id that `_economic_id` answers with. -/
lemma economicId_eq_ok (hsha : ∀ text, isSha256 (sha256 text) = true) (hknown : Canonical known)
    (hid : id ∈ known) :
    economicId sha256 known (some value) = .ok (some id) ↔
      value = id ∨ value = clientOrderTag sha256 id ∧ Owns sha256 known id := by
  by_cases hshape : isClientOrderTag value = true
  · by_cases hmem : value ∈ known
    · have hempty := ne_empty_of_canonical hknown hmem
      have hkeep : economicId sha256 known (some value) = .ok (some value) := by
        simp [economicId, hempty, hmem]
      rw [hkeep]
      constructor
      · intro h
        exact .inl (Option.some.inj (Except.ok.inj h))
      · rintro (rfl | ⟨rfl, howns⟩)
        · rfl
        · exact absurd hmem howns.1
    · have hresolve := @resolveUquantOrderId_eq_ok sha256 known id value hknown hshape hmem
      rw [economicId_of_tag hshape hmem]
      constructor
      · intro h
        split at h
        · next other hother =>
          obtain rfl : other = id := Option.some.inj (Except.ok.inj h)
          obtain ⟨-, rfl, hothers⟩ := hresolve.mp hother
          exact .inr ⟨rfl, hmem, hothers⟩
        · cases h
      · rintro (rfl | ⟨rfl, howns⟩)
        · exact absurd hid hmem
        · rw [hresolve.mpr ⟨hid, rfl, howns.2⟩]
  · have hshape' : isClientOrderTag value = false := Bool.eq_false_iff.mpr hshape
    by_cases hempty : value = ""
    · subst hempty
      constructor
      · intro h
        simp [economicId] at h
      · rintro (rfl | ⟨htag, -⟩)
        · exact absurd rfl (ne_empty_of_canonical hknown hid)
        · rw [htag] at hshape
          exact absurd (isClientOrderTag_clientOrderTag (hsha id)) hshape
    · rw [economicId_of_not_tag hempty hshape']
      constructor
      · intro h
        exact .inl (Option.some.inj (Except.ok.inj h))
      · rintro (rfl | ⟨rfl, -⟩)
        · rfl
        · exact absurd (isClientOrderTag_clientOrderTag (hsha id)) hshape

/-- An order is translated in its client identity only. -/
lemma order_eq_ok : order sha256 known raw = .ok fact ↔
    ∃ id, economicId sha256 known raw.clientOrderId = .ok id ∧
      fact = { raw with clientOrderId := id } := by
  unfold order
  rw [bind_ok_iff]
  refine exists_congr fun id => and_congr_right fun _ => ?_
  exact ⟨fun h => (Except.ok.inj h).symm, fun h => h ▸ rfl⟩

lemma order_eq_error {e : Failure} (h : order sha256 known raw = .error e) : e = unavailable := by
  unfold order at h
  cases hid : economicId sha256 known raw.clientOrderId with
  | ok id =>
    rw [hid] at h
    cases h
  | error e' =>
    rw [hid] at h
    obtain rfl : e' = e := Except.error.inj h
    unfold economicId at hid
    repeat' split at hid
    all_goals first
      | exact (Except.error.inj hid).symm
      | cases hid

namespace Sample

/-- A digest that tells two texts from each other. -/
def digest (text : String) : Digest :=
  if text = "O-1" then "1111111111111111111111111111111111111111111111111111111111111111"
  else "0000000000000000000000000000000000000000000000000000000000000000"

/-- The ids of two stored intents. -/
def stored : List String := ["O-1", "O-2"]

lemma isSha256_digest (text : String) : isSha256 (Sample.digest text) = true := by
  unfold Sample.digest
  split <;> rfl

lemma canonical_stored : Canonical Sample.stored := by
  unfold Canonical Sample.stored
  simp only [List.forall_mem_cons]
  exact ⟨by decide, by decide, List.forall_mem_nil _⟩

/-- An order with a client identity. -/
def reported (id : String) : BrokerOrderFact where
  brokerOrderId := "7"
  clientOrderId := some id
  symbol := ⟨.sh, "600000"⟩
  side := .buy
  priceType := .limit
  status := .acknowledged
  requestedShares := 100
  filledShares := 0
  limitPrice := ⟨10, ten_pos⟩
  sessionDate := 0
  eventTime := 0
  receivedAt := 0
  eventSequence := 0
  rawPayloadSha256 := ""
  requested_pos := hundred_pos
  filled_le_requested := hundred_nonneg

end Sample

end EconomicIdentityBroker

end FirmQuant
