import Mathlib.Algebra.Order.BigOperators.Group.List
import FirmQuant.Domain.OrderHistory
import FirmQuant.Persistence.AggregateCodec

/-!
# The stored text and its aggregate

Aggregates are compared as `==` compares them: a price is its number, whatever zeros its `Decimal`
carries.  Up to that, an aggregate that is encoded is decoded again, a text that is decoded is the
encoding of the result, and two texts that are decoded to one aggregate are one text
(`codec_faithful`).

The encoder writes each object as a list of members; the decoder finds them sorted.  For each record
there is one lemma on what is written (`jsonValue_payload`) and one on what is read from the sorted
members.
-/

namespace FirmQuant

open Effect

namespace Codec

variable {env : CodecEnvironment}

/-! ## Equal aggregates -/

/-- `==` of fills. -/
structure AppliedFill.Equals (f g : AppliedFill) : Prop where
  brokerFillId : f.brokerFillId = g.brokerFillId
  brokerOrderId : f.brokerOrderId = g.brokerOrderId
  shares : f.shares = g.shares
  price : f.price.decimal.value = g.price.decimal.value

/-- `==` of aggregates. -/
structure OrderAggregate.Equals (a b : OrderAggregate env) : Prop where
  intent : a.intent = b.intent
  state : a.state = b.state
  brokerOrderId : a.brokerOrderId = b.brokerOrderId
  filledShares : a.filledShares = b.filledShares
  fills : List.Forall₂ AppliedFill.Equals a.fills b.fills
  appliedEvents : a.appliedEvents = b.appliedEvents
  submitAttempts : a.submitAttempts = b.submitAttempts
  cancelRequests : a.cancelRequests = b.cancelRequests
  lateFillInvestigationRequired :
    a.lateFillInvestigationRequired = b.lateFillInvestigationRequired
  anomalies : a.anomalies = b.anomalies
  version : a.version = b.version

/-! ## Constructors -/

variable {α : Type} {event : OrderEvent} {a' : FirmQuant.OrderAggregate}

lemma if_some_eq_none {c : Prop} [Decidable c] {x : α} {y : Option α} :
    (if c then some x else y) = none ↔ ¬ c ∧ y = none := by
  by_cases h : c
  · simp [h]
  · simp [h]

lemma priceViolation_eq_none {d : DecimalTuple} :
    priceViolation (some d) = none ↔ d.Positive ∧ d.decimalPlaces ≤ 8 ∧ d.integerDigits ≤ 20 := by
  simp only [priceViolation, if_some_eq_none, DecimalTuple.Positive, not_or, not_lt, and_true,
    Bool.not_eq_true, Nat.pos_iff_ne_zero, ne_eq]

lemma Price.positive (p : Price) : p.decimal.Positive := (priceViolation_eq_none.mp p.valid).1

lemma Price.build_decimal (p : Price) : Price.build (some p.decimal) = .ok p := by
  obtain ⟨d, hd⟩ := p
  simp only [Price.build]
  split
  · rfl
  · next message hmessage =>
    rw [hd] at hmessage
    cases hmessage

lemma ExecutionIntent.build_data (intent : ExecutionIntent env) :
    ExecutionIntent.build env intent.toIntentData = .ok intent := by
  unfold ExecutionIntent.build
  split
  · rfl
  · next message hmessage =>
    rw [intent.valid] at hmessage
    cases hmessage

lemma AppliedFill.build_data (fill : AppliedFill) :
    AppliedFill.build fill.toFillData = .ok fill := by
  unfold AppliedFill.build
  split
  · rfl
  · next message hmessage =>
    rw [fill.valid] at hmessage
    cases hmessage

lemma AppliedEventIdentity.build_data (identity : AppliedEventIdentity) :
    AppliedEventIdentity.build identity.toEventIdentityData = .ok identity := by
  unfold AppliedEventIdentity.build
  split
  · rfl
  · next message hmessage =>
    rw [identity.valid] at hmessage
    cases hmessage

lemma OrderAggregate.build_data (aggregate : OrderAggregate env) :
    OrderAggregate.build aggregate.toAggregateData = .ok aggregate := by
  unfold OrderAggregate.build
  split
  · rfl
  · next e he =>
    rw [aggregate.valid] at he
    cases he

/-- An integer with a text. -/
def Printable (n : ℤ) : Prop := (Nat.toDigits 10 n.natAbs).length ≤ Json.maxStrDigits

lemma Printable.mono {m n : ℕ} (h : Printable n) (hle : m ≤ n) : Printable m := by
  have hpos : 0 < Json.maxStrDigits := by decide
  unfold Printable at h ⊢
  rw [Int.natAbs_natCast] at h ⊢
  rw [Nat.length_toDigits_le_iff (by decide) hpos] at h ⊢
  exact hle.trans_lt h

lemma IntentData.printable {d : IntentData} (h : d.violation env = none) :
    Printable d.requestedShares := by
  simp only [IntentData.violation, Option.or_eq_none_iff, if_some_eq_none] at h
  obtain ⟨-, -, -, -, hdigits, -⟩ := h
  exact not_lt.mp hdigits

lemma AggregateData.shares_of_valid {d : AggregateData env} (h : d.violation = none) :
    (d.fills.map (·.shares)).sum = d.filledShares ∧
      d.filledShares ≤ d.intent.requestedShares := by
  simp only [AggregateData.violation, Option.or_eq_none_iff, if_some_eq_none] at h
  obtain ⟨-, hsum, -, -, -, -, -, -, -, hle, -⟩ := h
  exact ⟨not_not.mp hsum, not_lt.mp hle⟩

lemma OrderAggregate.printable_filled (a : OrderAggregate env) : Printable a.filledShares :=
  (IntentData.printable a.intent.valid).mono (AggregateData.shares_of_valid a.valid).2

lemma OrderAggregate.printable_fill (a : OrderAggregate env) {fill : AppliedFill}
    (hfill : fill ∈ a.fills) : Printable fill.shares := by
  refine a.printable_filled.mono ?_
  rw [← (AggregateData.shares_of_valid a.valid).1]
  exact List.le_sum_of_mem (List.mem_map.mpr ⟨fill, hfill, rfl⟩)

/-! ## What is written -/

/-- The members of an intent. -/
def IntentData.members (d : IntentData) : List (String × Json) :=
  [("execution_id", .str d.executionId), ("idempotency_key", .str d.idempotencyKey),
    ("decision_id", .str d.decisionId), ("uquant_order_id", .str d.uquantOrderId),
    ("symbol", .str d.symbol.canonical), ("side", .str (sideValue d.side)),
    ("requested_shares", .int d.requestedShares),
    ("strategy_session", .str d.strategySession.isoformat),
    ("uquant_source_sha", .str d.uquantSourceSha)]

/-- The members of a fill. -/
def FillData.members (d : FillData) : List (String × Json) :=
  [("broker_fill_id", .str d.brokerFillId), ("broker_order_id", .str d.brokerOrderId),
    ("shares", .int d.shares), ("price", .str d.price.decimal.canonical)]

/-- The members of an event identity. -/
def EventIdentityData.members (d : EventIdentityData) : List (String × Json) :=
  [("event_id", .str d.eventId), ("fingerprint", .str d.fingerprint)]

/-- A broker order id or `null`. -/
def optionalJson : Option String → Json
  | some id => .str id
  | none => .null

/-- The members of an aggregate. -/
def OrderAggregate.members (a : OrderAggregate env) : List (String × Json) :=
  [("schema", .str "firmquant.order-aggregate.v1"), ("intent", .obj a.intent.members),
    ("state", .str (stateValue a.state)), ("broker_order_id", optionalJson a.brokerOrderId),
    ("filled_shares", .int a.filledShares), ("fills", .arr (a.fills.map fun f => .obj f.members)),
    ("applied_events", .arr (a.appliedEvents.map fun e => .obj e.members)),
    ("submit_attempts", .int a.submitAttempts), ("cancel_requests", .int a.cancelRequests),
    ("late_fill_investigation_required", .bool a.lateFillInvestigationRequired),
    ("anomalies", .arr (a.anomalies.map .str)), ("version", .int a.version)]

/-- The counters of an aggregate have a text. -/
def OrderAggregate.CountersPrintable (a : OrderAggregate env) : Prop :=
  Printable a.submitAttempts ∧ Printable a.cancelRequests ∧ Printable a.version

section Writing

open LedgerValue

variable {n : ℤ} {values : List (MappingKey × LedgerValue)}

lemma jsonInt_of_printable (h : Printable n) : jsonInt n = .ok (.int n) :=
  if_neg (not_lt.mpr h)

lemma printable_of_jsonInt {v : Json} (h : jsonInt n = .ok v) : Printable n := by
  unfold jsonInt at h
  split at h
  · cases h
  · next hn => exact not_lt.mp hn

/-- A mapping with distinct keys is written member by member. -/
lemma jsonValue_mapping {members : List (String × Json)} (h : jsonMembers values = .ok members)
    (hkeys : (members.map Prod.fst).Nodup) : jsonValue (.mapping values) = .ok (.obj members) := by
  change (jsonMembers values >>= fun members => pure (Json.obj _)) = _
  rw [h]
  change Except.ok (Json.obj _) = _
  have hnil : (([] ++ members).map Prod.fst).Nodup := hkeys
  rw [foldl_insertMember_eq hnil]
  rfl

lemma jsonItems_map {payload : α → LedgerValue} {json : α → Json} {xs : List α}
    (h : ∀ x ∈ xs, jsonValue (payload x) = .ok (json x)) :
    jsonItems (xs.map payload) = .ok (xs.map json) := by
  induction xs with
  | nil => rfl
  | cons x xs ih =>
    have hrest := ih (List.forall_mem_cons.mp h).2
    change (jsonValue (payload x) >>= fun v => jsonItems (xs.map payload) >>= fun vs => pure _) = _
    rw [h x List.mem_cons_self, hrest]
    rfl

lemma IntentData.jsonValue_payload {d : IntentData} (h : Printable d.requestedShares) :
    jsonValue d.payload = .ok (.obj d.members) := by
  refine jsonValue_mapping ?_ (by simp [members])
  simp only [jsonMembers, jsonKey, jsonValue, jsonInt_of_printable h, ok_bind]
  rfl

lemma FillData.jsonValue_payload {d : FillData} (h : Printable d.shares) :
    jsonValue d.payload = .ok (.obj d.members) := by
  refine jsonValue_mapping ?_ (by simp [members])
  simp only [jsonMembers, jsonKey, jsonValue, jsonInt_of_printable h, ok_bind]
  rfl

lemma EventIdentityData.jsonValue_payload (d : EventIdentityData) :
    jsonValue d.payload = .ok (.obj d.members) :=
  jsonValue_mapping rfl (by simp [members])

lemma OrderAggregate.jsonValue_payload (a : OrderAggregate env) (h : a.CountersPrintable) :
    jsonValue (aggregatePayload a) = .ok (.obj a.members) := by
  obtain ⟨hsubmit, hcancel, hversion⟩ := h
  have hintent := IntentData.jsonValue_payload (IntentData.printable a.intent.valid)
  have hfills : jsonValue (.list (a.fills.map (·.payload))) =
      .ok (.arr (a.fills.map fun f => .obj f.members)) := by
    change (jsonItems (a.fills.map (·.payload)) >>= fun values => pure (Json.arr values)) = _
    rw [jsonItems_map fun f hf => FillData.jsonValue_payload (a.printable_fill hf)]
    rfl
  have hevents : jsonValue (.list (a.appliedEvents.map (·.payload))) =
      .ok (.arr (a.appliedEvents.map fun e => .obj e.members)) := by
    change (jsonItems (a.appliedEvents.map (·.payload)) >>= fun values =>
      pure (Json.arr values)) = _
    rw [jsonItems_map fun e _ => e.toEventIdentityData.jsonValue_payload]
    rfl
  have hanomalies : jsonValue (.tuple (a.anomalies.map .text)) =
      .ok (.arr (a.anomalies.map .str)) := by
    change (jsonItems (a.anomalies.map .text) >>= fun values => pure (Json.arr values)) = _
    rw [jsonItems_map fun _ _ => rfl]
    rfl
  have hbroker : jsonValue (optionalValue a.brokerOrderId) =
      .ok (optionalJson a.brokerOrderId) := by
    cases a.brokerOrderId <;> rfl
  have hfilled : jsonValue (.shares a.filledShares) = .ok (.int a.filledShares) :=
    jsonInt_of_printable a.printable_filled
  have hint : ∀ {n : ℤ}, Printable n → jsonValue (.int n) = .ok (.int n) := jsonInt_of_printable
  have htext : ∀ s, jsonValue (.text s) = .ok (.str s) := fun _ => rfl
  have henum : ∀ s, jsonValue (.strEnum s) = .ok (.str s) := fun _ => rfl
  have hbool : ∀ b, jsonValue (.bool b) = .ok (.bool b) := fun _ => rfl
  refine jsonValue_mapping ?_ (by simp [members])
  simp only [jsonMembers, jsonKey, hintent, hfills, hevents, hanomalies, hbroker, hfilled,
    hint hsubmit, hint hcancel, hint hversion, htext, henum, hbool, ok_bind]
  rfl

/-- What is written has been written item by item. -/
lemma jsonValue_of_jsonMembers {members : List (String × Json)}
    (h : jsonMembers values = .ok members) {key : MappingKey} {value : LedgerValue}
    (hmem : (key, value) ∈ values) :
    ∃ v, jsonValue value = .ok v := by
  induction values generalizing members with
  | nil => cases hmem
  | cons item values ih =>
    obtain ⟨k, x⟩ := item
    obtain ⟨name, -, hvalue⟩ := bind_ok_iff.mp h
    obtain ⟨v, hv, hrest⟩ := bind_ok_iff.mp hvalue
    obtain ⟨ms, hms, -⟩ := bind_ok_iff.mp hrest
    rcases List.mem_cons.mp hmem with heq | hmem
    · obtain ⟨-, rfl⟩ := Prod.mk.inj heq
      exact ⟨v, hv⟩
    · exact ih hms hmem

/-- An aggregate has a text exactly when its counters have one. -/
lemma OrderAggregate.exists_text_iff (a : OrderAggregate env) :
    (∃ text, canonicalJson (aggregatePayload a) = .ok text) ↔ a.CountersPrintable := by
  constructor
  · rintro ⟨text, h⟩
    obtain ⟨v, hv, -⟩ := canonicalJson_eq_ok.mp h
    obtain ⟨members, hmembers, -⟩ := bind_ok_iff.mp hv
    -- Each counter stands among the members.
    obtain ⟨v, hsubmit⟩ := jsonValue_of_jsonMembers hmembers
      (show (.text "submit_attempts", .int a.submitAttempts) ∈ _ by simp)
    obtain ⟨v, hcancel⟩ := jsonValue_of_jsonMembers hmembers
      (show (.text "cancel_requests", .int a.cancelRequests) ∈ _ by simp)
    obtain ⟨v, hversion⟩ := jsonValue_of_jsonMembers hmembers
      (show (.text "version", .int a.version) ∈ _ by simp)
    exact ⟨printable_of_jsonInt hsubmit, printable_of_jsonInt hcancel,
      printable_of_jsonInt hversion⟩
  · intro h
    exact ⟨_, canonicalJson_eq_ok.mpr ⟨_, a.jsonValue_payload h, rfl⟩⟩

end Writing

/-! ## What is read -/

/-- The members of an object as the decoder finds them. -/
def sortedObject (members : List (String × Json)) : List (String × Json) :=
  (Json.sortedMembers members).insertionSort Json.keyLE

section Reading

variable {members : List (String × Json)} {key : String}

variable (hexact : (Json.obj members).Exact)

include hexact

lemma get?_sortedObject {v : Json} (hmem : (key, v) ∈ members) :
    (Json.obj (sortedObject members)).get? key = some v.sorted := by
  have hget : (Json.obj members).get? key = some v := by
    simp only [Json.get?, Json.find?_eq_some_of_mem hexact.1 hmem, Option.map_some]
  exact (Json.get?_sorted hexact key).trans (congrArg (Option.map Json.sorted) hget)

lemma field_sorted {v : Json} (hmem : (key, v) ∈ members) :
    field key (sortedObject members) = .ok v.sorted := by
  simp only [field, get?_sortedObject hexact hmem]

lemma textField_sorted {s : String} (hmem : (key, .str s) ∈ members) :
    textField env key (sortedObject members) = .ok s := by
  unfold textField
  rw [field_sorted hexact hmem]
  rfl

lemma intField_sorted {n : ℤ} (hmem : (key, .int n) ∈ members) :
    intField env key (sortedObject members) = .ok n := by
  unfold intField
  rw [field_sorted hexact hmem]
  rfl

lemma sharesField_sorted {n : ℕ} (hmem : (key, .int n) ∈ members) :
    sharesField env key (sortedObject members) = .ok n := by
  unfold sharesField
  rw [intField_sorted hexact hmem]
  rfl

/-! ### Values -/

omit hexact

lemma Symbol.parse_canonical (symbol : Symbol) : Symbol.parse symbol.canonical = .ok symbol := by
  unfold Symbol.parse
  rw [FirmQuant.Symbol.parse_canonical symbol.valid]
  exact dif_pos symbol.valid

lemma sideOf_value (side : Side) : sideOf (sideValue side) = .ok side := by
  cases side
  · rfl
  · exact (if_neg (by decide)).trans (if_pos rfl)

lemma stateOf_value (state : OrderState) : stateOf (stateValue state) = .ok state := by
  have hfind : orderStates.find? (stateValue · = stateValue state) = some state := by
    cases state <;> decide
  simp only [stateOf, hfind]

lemma dateOf_isoformat (d : CalendarDate) : dateOf env d.isoformat = .ok d := by
  simp only [dateOf, CalendarDate.fromIsoformat_isoformat]

lemma optionalText_json (id : Option String) : optionalText env (optionalJson id) = id := by
  cases id <;> rfl

variable (env) in
lemma exists_price (p : Price) : ∃ d q, decimalOf env p.decimal.canonical = .ok d ∧
    Price.build d = .ok q ∧ q.decimal.value = p.decimal.value := by
  obtain ⟨hpositive, hplaces, hdigits⟩ := priceViolation_eq_none.mp p.valid
  obtain ⟨r, hread, hr, hvalue, hle, heq⟩ := DecimalTuple.ofPlain_canonical hpositive
  have hvalid : priceViolation (some r) = none :=
    priceViolation_eq_none.mpr ⟨hr, hle.trans hplaces, heq ▸ hdigits⟩
  refine ⟨some r, ⟨r, hvalid⟩, ?_, Price.build_decimal ⟨r, hvalid⟩, hvalue⟩
  simp only [decimalOf, hread]

/-! ### Records -/

lemma intentFromRaw_members (intent : ExecutionIntent env) :
    intentFromRaw env (sortedObject intent.members) = .ok intent := by
  have hexact := LedgerValue.exact_jsonValue _
    (IntentData.jsonValue_payload (IntentData.printable intent.valid))
  have htext : ∀ key s, (key, .str s) ∈ intent.members →
      textField env key (sortedObject intent.members) = .ok s := fun _ _ =>
    textField_sorted hexact
  have hshares : sharesField env "requested_shares" (sortedObject intent.members) =
      .ok intent.requestedShares := sharesField_sorted hexact (by simp [IntentData.members])
  unfold intentFromRaw
  rw [htext "execution_id" intent.executionId (by simp [IntentData.members]), ok_bind,
    htext "idempotency_key" intent.idempotencyKey (by simp [IntentData.members]), ok_bind,
    htext "decision_id" intent.decisionId (by simp [IntentData.members]), ok_bind,
    htext "uquant_order_id" intent.uquantOrderId (by simp [IntentData.members]), ok_bind,
    htext "symbol" intent.symbol.canonical (by simp [IntentData.members]), ok_bind,
    intent.symbol.parse_canonical, ok_bind,
    htext "side" (sideValue intent.side) (by simp [IntentData.members]), ok_bind,
    sideOf_value, ok_bind, hshares, ok_bind,
    htext "strategy_session" intent.strategySession.isoformat (by simp [IntentData.members]),
    ok_bind, dateOf_isoformat, ok_bind,
    htext "uquant_source_sha" intent.uquantSourceSha (by simp [IntentData.members]), ok_bind]
  exact intent.build_data

variable (env) in
lemma exists_fill {fill : AppliedFill} (h : Printable fill.shares) :
    ∃ f, fillFromRaw env (sortedObject fill.members) = .ok f ∧ f.Equals fill := by
  have hexact := LedgerValue.exact_jsonValue _ (FillData.jsonValue_payload h)
  have htext : ∀ key s, (key, .str s) ∈ fill.members →
      textField env key (sortedObject fill.members) = .ok s := fun _ _ => textField_sorted hexact
  have hshares : sharesField env "shares" (sortedObject fill.members) = .ok fill.shares :=
    sharesField_sorted hexact (by simp [FillData.members])
  obtain ⟨d, price, hdecimal, hprice, hvalue⟩ := exists_price env fill.price
  -- The checks of a fill do not look at its price.
  let f : AppliedFill := ⟨{ fill.toFillData with price := price }, fill.valid⟩
  refine ⟨f, ?_, ⟨rfl, rfl, rfl, hvalue⟩⟩
  unfold fillFromRaw
  rw [htext "broker_fill_id" fill.brokerFillId (by simp [FillData.members]), ok_bind,
    htext "broker_order_id" fill.brokerOrderId (by simp [FillData.members]), ok_bind,
    hshares, ok_bind,
    htext "price" fill.price.decimal.canonical (by simp [FillData.members]), ok_bind,
    hdecimal, ok_bind, hprice, ok_bind]
  exact f.build_data

variable (env) in
lemma eventFromRaw_members (identity : AppliedEventIdentity) :
    eventFromRaw env (sortedObject identity.members) = .ok identity := by
  have hexact := LedgerValue.exact_jsonValue _
    identity.toEventIdentityData.jsonValue_payload
  have htext : ∀ key s, (key, .str s) ∈ identity.members →
      textField env key (sortedObject identity.members) = .ok s := fun _ _ =>
    textField_sorted hexact
  unfold eventFromRaw
  rw [htext "event_id" identity.eventId (by simp [EventIdentityData.members]), ok_bind,
    htext "fingerprint" identity.fingerprint (by simp [EventIdentityData.members]), ok_bind]
  exact identity.build_data

/-! ### Tuples of records -/

lemma sortedItems_eq_map (xs : List Json) : Json.sortedItems xs = xs.map Json.sorted := by
  induction xs with
  | nil => rfl
  | cons x xs ih => rw [Json.sortedItems, ih, List.map_cons]

/-- Records that are read one by one are retained. -/
lemma retained_of_forall₂ {β : Type} (message : String)
    {read : List (String × Json) → Except CodecError α} {members : β → List (String × Json)}
    {xs : List β} {records : List α}
    (h : List.Forall₂ (fun x r => read (sortedObject (members x)) = .ok r) xs records) :
    retained message read (Json.sortedItems (xs.map fun x => .obj (members x))) = .ok records := by
  have hraw : (Json.sortedItems (xs.map fun x => .obj (members x))).filterMap members? =
      xs.map fun x => sortedObject (members x) := by
    rw [sortedItems_eq_map, List.map_map, List.filterMap_map, ← List.filterMap_eq_map]
    rfl
  have hread : (xs.map fun x => sortedObject (members x)).mapM read = .ok records := by
    clear hraw
    induction h with
    | nil => rfl
    | cons hx _ ih =>
      rw [List.map_cons, List.mapM_cons, hx, ok_bind, ih, ok_bind]
      rfl
  have hlength : ¬ records.length ≠
      (Json.sortedItems (xs.map fun x => Json.obj (members x))).length := by
    rw [sortedItems_eq_map, List.length_map, List.length_map, h.length_eq]
    exact not_not.mpr rfl
  unfold retained
  rw [hraw, hread, ok_bind, refuse, if_neg hlength]
  rfl

lemma exists_forall₂ {β : Type} {r : α → β → Prop} {xs : List α} (h : ∀ x ∈ xs, ∃ y, r x y) :
    ∃ ys, List.Forall₂ r xs ys := by
  induction xs with
  | nil => exact ⟨[], .nil⟩
  | cons x xs ih =>
    obtain ⟨y, hy⟩ := h x List.mem_cons_self
    obtain ⟨ys, hys⟩ := ih (List.forall_mem_cons.mp h).2
    exact ⟨y :: ys, .cons hy hys⟩

lemma map_eq_of_forall₂ {β γ : Type} {f : α → γ} {g : β → γ} {xs : List α} {ys : List β}
    (h : List.Forall₂ (fun x y => f x = g y) xs ys) : xs.map f = ys.map g := by
  induction h with
  | nil => rfl
  | cons hxy _ ih => rw [List.map_cons, List.map_cons, hxy, ih]

lemma map_str_texts (texts : List String) :
    (Json.sortedItems (texts.map .str)).map (str env) = texts := by
  rw [sortedItems_eq_map, List.map_map, List.map_map]
  exact List.map_id texts

/-- An aggregate with fills that are equal to its own. -/
lemma OrderAggregate.violation_of_fills {a : OrderAggregate env} {fills : List AppliedFill}
    (h : List.Forall₂ AppliedFill.Equals fills a.fills) :
    ({ a.toAggregateData with fills := fills } : AggregateData env).violation = none := by
  have hshares : fills.map (·.shares) = a.fills.map (·.shares) :=
    map_eq_of_forall₂ (h.imp fun _ _ hfill => hfill.shares)
  have hids : fills.map (·.brokerFillId) = a.fills.map (·.brokerFillId) :=
    map_eq_of_forall₂ (h.imp fun _ _ hfill => hfill.brokerFillId)
  simp only [AggregateData.violation, hshares, hids]
  exact a.valid

lemma OrderAggregate.exists_aggregate (a : OrderAggregate env) (h : a.CountersPrintable) :
    ∃ b, aggregateFromRaw env (sortedObject a.members) = .ok b ∧ b.Equals a := by
  have hexact := LedgerValue.exact_jsonValue _ (a.jsonValue_payload h)
  have hread : ∀ f ∈ a.fills, ∃ g, fillFromRaw env (sortedObject f.members) = .ok g ∧ g.Equals f :=
    fun f hf => exists_fill env (a.printable_fill hf)
  obtain ⟨fills, hfills⟩ := exists_forall₂ hread
  have hequal : List.Forall₂ AppliedFill.Equals fills a.fills :=
    (hfills.imp fun _ _ hfill => hfill.2).flip
  let b : OrderAggregate env :=
    ⟨{ a.toAggregateData with fills := fills }, violation_of_fills hequal⟩
  refine ⟨b, ?_, ⟨rfl, rfl, rfl, rfl, hequal, rfl, rfl, rfl, rfl, rfl, rfl⟩⟩
  have hfield : ∀ key v, (key, v) ∈ a.members → field key (sortedObject a.members) = .ok v.sorted :=
    fun _ _ => field_sorted hexact
  have hint : ∀ key n, (key, .int n) ∈ a.members →
      intField env key (sortedObject a.members) = .ok n := fun _ _ => intField_sorted hexact
  have hintent : field "intent" (sortedObject a.members) =
      .ok (.obj (sortedObject a.intent.members)) :=
    hfield "intent" (.obj a.intent.members) (by simp [members])
  have hfillItems : field "fills" (sortedObject a.members) =
      .ok (.arr (Json.sortedItems (a.fills.map fun f => .obj f.members))) :=
    hfield "fills" (.arr _) (by simp [members])
  have heventItems : field "applied_events" (sortedObject a.members) =
      .ok (.arr (Json.sortedItems (a.appliedEvents.map fun e => .obj e.members))) :=
    hfield "applied_events" (.arr _) (by simp [members])
  have hanomalyItems : field "anomalies" (sortedObject a.members) =
      .ok (.arr (Json.sortedItems (a.anomalies.map .str))) :=
    hfield "anomalies" (.arr _) (by simp [members])
  have hretained := retained_of_forall₂ "aggregate fill item is not an object"
    (hfills.imp fun _ _ hfill => hfill.1)
  have hevents := retained_of_forall₂ "aggregate event identity is not an object"
    (List.forall₂_same.mpr fun e (_ : e ∈ a.appliedEvents) => eventFromRaw_members env e)
  have hstate : textField env "state" (sortedObject a.members) = .ok (stateValue a.state) :=
    textField_sorted hexact (by simp [members])
  have hbroker : field "broker_order_id" (sortedObject a.members) =
      .ok (optionalJson a.brokerOrderId) := by
    rw [hfield "broker_order_id" (optionalJson a.brokerOrderId) (by simp [members])]
    cases a.brokerOrderId <;> rfl
  have hshares : sharesField env "filled_shares" (sortedObject a.members) = .ok a.filledShares :=
    sharesField_sorted hexact (by simp [members])
  have hlate : field "late_fill_investigation_required" (sortedObject a.members) =
      .ok (.bool a.lateFillInvestigationRequired) :=
    hfield _ (.bool a.lateFillInvestigationRequired) (by simp [members])
  unfold aggregateFromRaw
  rw [hintent, ok_bind]
  simp only [members?, Option.elim]
  rw [ok_bind, intentFromRaw_members, ok_bind, hfillItems, ok_bind, heventItems, ok_bind,
    hanomalyItems, ok_bind]
  simp only [items]
  rw [ok_bind, ok_bind, ok_bind, hretained, ok_bind, hevents, ok_bind, hstate, ok_bind,
    stateOf_value, ok_bind, hbroker, ok_bind, hshares, ok_bind,
    hint "submit_attempts" a.submitAttempts (by simp [members]), ok_bind,
    hint "cancel_requests" a.cancelRequests (by simp [members]), ok_bind, hlate, ok_bind,
    hint "version" a.version (by simp [members]), ok_bind, optionalText_json, map_str_texts]
  exact b.build_data

end Reading

/-! ## The codec -/

lemma AppliedFill.Equals.members_eq {f g : AppliedFill} (h : f.Equals g) :
    f.members = g.members := by
  have hprice : f.price.decimal.canonical = g.price.decimal.canonical :=
    DecimalTuple.canonical_eq_of_value_eq f.price.positive g.price.positive h.price
  simp only [FillData.members, h.brokerFillId, h.brokerOrderId, h.shares, hprice]

variable {b : OrderAggregate env} {text : String}

variable {a : OrderAggregate env}

lemma OrderAggregate.Equals.members_eq (h : a.Equals b) :
    a.members = b.members := by
  have hfills : (a.fills.map fun f => Json.obj f.members) = b.fills.map fun f => .obj f.members :=
    map_eq_of_forall₂ (h.fills.imp fun _ _ hfill => congrArg Json.obj hfill.members_eq)
  simp only [members, h.intent, h.state, h.brokerOrderId, h.filledShares, hfills, h.appliedEvents,
    h.submitAttempts, h.cancelRequests, h.lateFillInvestigationRequired, h.anomalies, h.version]

/-- The text of an aggregate is that of its members. -/
lemma OrderAggregate.canonicalJson_iff :
    canonicalJson (aggregatePayload a) = .ok text ↔
      a.CountersPrintable ∧ text = Json.dumps (.obj a.members) := by
  constructor
  · intro h
    have hcounters := a.exists_text_iff.mp ⟨text, h⟩
    obtain ⟨v, hv, rfl⟩ := canonicalJson_eq_ok.mp h
    rw [a.jsonValue_payload hcounters] at hv
    cases hv
    exact ⟨hcounters, rfl⟩
  · rintro ⟨hcounters, rfl⟩
    exact canonicalJson_eq_ok.mpr ⟨_, a.jsonValue_payload hcounters, rfl⟩

lemma OrderAggregate.Equals.text_eq (h : a.Equals b)
    (ha : canonicalJson (aggregatePayload b) = .ok text) :
    canonicalJson (aggregatePayload a) = .ok text := by
  obtain ⟨hcounters, rfl⟩ := canonicalJson_iff.mp ha
  refine canonicalJson_iff.mpr ⟨?_, by rw [h.members_eq]⟩
  unfold CountersPrintable at hcounters ⊢
  rwa [h.submitAttempts, h.cancelRequests, h.version]

lemma hooks_lossless : hooks.Lossless := LedgerValue.lossless fun _ => rfl

lemma readAggregate_of_loads {raw : List (String × Json)}
    (hloads : Json.loads hooks text = .ok (.obj raw)) (hschema : hasSchema (.obj raw) = true)
    (hread : aggregateFromRaw env raw = .ok b) : readAggregate env text = .ok b := by
  have hno : ¬ hasSchema (.obj raw) = false := by simp [hschema]
  unfold readAggregate
  rw [hloads, ok_bind, refuse, if_neg hno]
  exact hread

lemma aggregateFromJson_of_read (hread : readAggregate env text = .ok b)
    (htext : canonicalJson (aggregatePayload b) = .ok text) :
    aggregateFromJson env text = .ok b := by
  have hno : ¬ text ≠ text := not_not.mpr rfl
  have htry : (readAggregate env text).mapError handled = .ok b := congrArg _ hread
  have hagain : (canonicalJson (aggregatePayload b)).mapError CodecError.ledger = .ok text :=
    congrArg _ htext
  unfold aggregateFromJson
  rw [htry, ok_bind, hagain, ok_bind, refuse, if_neg hno]
  rfl

lemma decode_encode (h : canonicalJson (aggregatePayload a) = .ok text) :
    ∃ b, aggregateFromJson env text = .ok b ∧ b.Equals a := by
  obtain ⟨hcounters, rfl⟩ := OrderAggregate.canonicalJson_iff.mp h
  have hexact := LedgerValue.exact_jsonValue _ (a.jsonValue_payload hcounters)
  have hloads : Json.loads hooks (Json.dumps (.obj a.members)) =
      .ok (.obj (sortedObject a.members)) := Json.loads_dumps hooks_lossless hexact
  have hschema : hasSchema (.obj (sortedObject a.members)) = true := by
    have hget := Json.get?_sorted hexact "schema"
    change (Json.obj (sortedObject a.members)).get? "schema" = _ at hget
    unfold hasSchema
    rw [hget]
    rfl
  obtain ⟨b, hread, hequal⟩ := a.exists_aggregate hcounters
  exact ⟨b, aggregateFromJson_of_read (readAggregate_of_loads hloads hschema hread)
    (hequal.text_eq h), hequal⟩

lemma encode_decode (h : aggregateFromJson env text = .ok b) :
    canonicalJson (aggregatePayload b) = .ok text := by
  obtain ⟨aggregate, -, hguard⟩ := bind_ok_iff.mp h
  obtain ⟨canonical, hcanonical, hguard⟩ := bind_ok_iff.mp hguard
  obtain ⟨_, hequal, hreturn⟩ := bind_ok_iff.mp hguard
  cases hreturn
  have hequal : canonical = text := not_not.mp (refuse_eq_ok.mp hequal)
  cases hjson : canonicalJson (aggregatePayload b) with
  | ok s =>
    rw [hjson] at hcanonical
    cases hcanonical
    rw [hequal]
  | error e =>
    rw [hjson] at hcanonical
    cases hcanonical

/-! ## The aggregates of the state machine -/

/-- The texts that `apply` writes for events: their ids, and their fingerprints. -/
structure EventTexts where
  eventId : EventId → String
  fingerprint : OrderEvent → String

/-- The identity that is retained of an event. -/
def EventTexts.identity (texts : EventTexts) (event : OrderEvent) : EventIdentityData :=
  ⟨texts.eventId event.eventId, texts.fingerprint event⟩

/-- The text of an anomaly. -/
def anomalyText : Anomaly → String
  | .lateFillAfter state => "LATE_FILL_AFTER_" ++ stateValue state
  | .ackAfter state => "ACK_AFTER_" ++ stateValue state
  | .cancelAfterFilled => "CANCEL_AFTER_FILLED"
  | .rejectAfter state => "REJECT_AFTER_" ++ stateValue state

/-- A record holds a fill of the state machine. -/
structure FillData.Shows (d : FillData) (fill : FirmQuant.AppliedFill) : Prop where
  brokerFillId : d.brokerFillId = fill.brokerFillId
  brokerOrderId : d.brokerOrderId = fill.brokerOrderId
  shares : d.shares = fill.shares
  price : d.price.decimal.value = fill.price.value

/-- A record holds an aggregate of the state machine, identities by their texts. -/
structure AggregateData.Shows (texts : EventTexts) (d : AggregateData env)
    (a : FirmQuant.OrderAggregate) : Prop where
  requestedShares : d.intent.requestedShares = a.intent.requestedShares
  state : d.state = a.state
  brokerOrderId : d.brokerOrderId = a.brokerOrderId
  filledShares : d.filledShares = a.filledShares
  fills : List.Forall₂ (fun f g => FillData.Shows f.toFillData g) d.fills a.fills
  appliedEvents : d.appliedEvents.map (·.toEventIdentityData) = a.appliedEvents.map texts.identity
  submitAttempts : d.submitAttempts = a.submitAttempts
  cancelRequests : d.cancelRequests = a.cancelRequests
  lateFillInvestigationRequired :
    d.lateFillInvestigationRequired = a.lateFillInvestigationRequired
  anomalies : d.anomalies = a.anomalies.map anomalyText
  version : d.version = a.version

variable {texts : EventTexts} {a : FirmQuant.OrderAggregate}

open FirmQuant.OrderAggregate

/-- No counter of an aggregate is ahead of its version. -/
def Counted (a : FirmQuant.OrderAggregate) : Prop :=
  a.submitAttempts ≤ a.version ∧ a.cancelRequests ≤ a.version

lemma counted_updated {target : OrderState} {id : Option String}
    {change : FirmQuant.AggregateData → FirmQuant.AggregateData}
    (h : a.updated event target id change = .ok a') (ha : Counted a)
    (hsubmit : (change a.toAggregateData).submitAttempts ≤ a.submitAttempts + 1)
    (hcancel : (change a.toAggregateData).cancelRequests ≤ a.cancelRequests + 1) : Counted a' := by
  have hdata := (updated_eq_ok h).2.2
  unfold Counted at ha ⊢
  rw [hdata]
  simp only [updatedData]
  omega

lemma withAnomaly_counts (anomaly : Anomaly) (d : FirmQuant.AggregateData) :
    (withAnomaly anomaly d).submitAttempts = d.submitAttempts ∧
      (withAnomaly anomaly d).cancelRequests = d.cancelRequests := by
  unfold withAnomaly
  split
  · exact ⟨rfl, rfl⟩
  · exact ⟨rfl, rfl⟩

lemma counted_apply (h : a.apply event = .ok a') (ha : Counted a) : Counted a' := by
  rcases apply_seen_or_new h with ⟨rfl, -⟩ | ⟨-, hnew⟩
  · exact ha
  rcases applyNew_cases hnew with
    ⟨target, id, change, hplain, hupd⟩ | ⟨fill, -, hfill⟩
  · cases hplain with
    | nothing => exact counted_updated hupd ha (Nat.le_succ _) (Nat.le_succ _)
    | submitAttempt => exact counted_updated hupd ha le_rfl (Nat.le_succ _)
    | cancelRequest => exact counted_updated hupd ha (Nat.le_succ _) le_rfl
    | anomaly anomaly =>
      obtain ⟨hsubmit, hcancel⟩ := withAnomaly_counts anomaly a.toAggregateData
      exact counted_updated hupd ha (hsubmit ▸ Nat.le_succ _) (hcancel ▸ Nat.le_succ _)
  · rcases applyFill_cases hfill with ⟨rfl, -⟩ | ⟨-, hupd⟩ | ⟨-, hupd⟩
    · exact ha
    · obtain ⟨hsubmit, hcancel⟩ := withAnomaly_counts (.lateFillAfter a.state)
        { withFill fill a.toAggregateData with
          lateFillInvestigationRequired := true }
      exact counted_updated hupd ha (hsubmit ▸ Nat.le_succ _) (hcancel ▸ Nat.le_succ _)
    · exact counted_updated hupd ha (Nat.le_succ _) (Nat.le_succ _)

/-- A record that holds what a history leaves of an order has a text, unless more events were
applied than a text can count. -/
theorem AggregateData.Shows.countersPrintable {record : OrderAggregate env}
    {intent : FirmQuant.ExecutionIntent} {events : List OrderEvent}
    (h : record.Shows texts (history intent events))
    (hfew : (history intent events).appliedEvents.length < 10 ^ Json.maxStrDigits) :
    record.CountersPrintable := by
  have hstart : Counted (fromIntent intent) := ⟨le_rfl, le_rfl⟩
  have hcounted : Counted (history intent events) :=
    foldl_feed_keeps (fun happly ha => counted_apply happly ha) events hstart
  have hversion := (reached_history intent events).version_eq
  have hprintable : ∀ {n : ℤ} {m : ℕ}, n = m → m ≤ (history intent events).version →
      Printable n := by
    rintro n m rfl hle
    unfold Printable
    rw [Int.natAbs_natCast, Nat.length_toDigits_le_iff (by decide) (by decide)]
    exact (hle.trans hversion.le).trans_lt hfew
  exact ⟨hprintable h.submitAttempts hcounted.1, hprintable h.cancelRequests hcounted.2,
    hprintable h.version le_rfl⟩

/-! ## The codec is faithful -/

/-- **Aggregate codec.**  An aggregate that `apply` reaches is encoded and decoded again, and so is
every aggregate that the constructor lets pass and that has a text at all.  A text that is accepted
is the encoding of what it is decoded to, so that different texts are different aggregates. -/
theorem codec_faithful (env : CodecEnvironment) (texts : EventTexts) :
    (∀ intent events, (history intent events).appliedEvents.length < 10 ^ Json.maxStrDigits →
      ∀ a : OrderAggregate env, a.Shows texts (history intent events) →
        ∃ text b, canonicalJson (aggregatePayload a) = .ok text ∧
          aggregateFromJson env text = .ok b ∧ b.Equals a) ∧
    (∀ (a : OrderAggregate env) text, canonicalJson (aggregatePayload a) = .ok text →
      ∃ b, aggregateFromJson env text = .ok b ∧ b.Equals a) ∧
    (∀ text b, aggregateFromJson env text = .ok b →
      canonicalJson (aggregatePayload b) = .ok text) ∧
    ∀ text₁ text₂ b₁ b₂, aggregateFromJson env text₁ = .ok b₁ →
      aggregateFromJson env text₂ = .ok b₂ → b₁.Equals b₂ → text₁ = text₂ := by
  refine ⟨?_, fun a text => decode_encode, fun text b => encode_decode, ?_⟩
  · intro intent events hfew a hshows
    obtain ⟨text, htext⟩ := a.exists_text_iff.mpr (hshows.countersPrintable hfew)
    obtain ⟨b, hb, hequal⟩ := decode_encode htext
    exact ⟨text, b, htext, hb, hequal⟩
  · intro text₁ text₂ b₁ b₂ h₁ h₂ hequal
    have htext := hequal.text_eq (encode_decode h₂)
    rw [encode_decode h₁] at htext
    exact Except.ok.inj htext

namespace Sample

/-- An order for two shares, as the state machine sees it. -/
def intent : FirmQuant.ExecutionIntent where
  decisionId := "d1"
  uquantOrderId := "u1"
  symbol := ⟨.sh, "600000"⟩
  side := .buy
  requestedShares := 2
  strategySession := 20458
  uquantSourceSha := "0123456789abcdef0123456789abcdef01234567"
  requested_pos := by decide

/-- The order is submitted, and half of it is filled. -/
def events : List OrderEvent :=
  [⟨.text "e1", .orderValidated⟩, ⟨.text "e2", .orderArmed⟩, ⟨.text "e3", .submitStarted⟩,
    ⟨.text "e4", .fillReported "f1" "b1" 1 ⟨5, by norm_num⟩ Nat.one_pos⟩]

/-- The digests of the two texts that an intent hashes, told apart by their first letter. -/
def environment : CodecEnvironment where
  sha256 text :=
    if text.toList.head? = some 'f' then
      "eb2033c56af8faeff56674d74577fd3b0c7ecf2e5ea25ce4fa23d897206cfe7b"
    else "f0931cb0afb0d6bab0c1bae43ff0b8e0b84c36980cac9c86e7a6c6570539ddf6"
  strOther _ := ""
  intOther _ := .error (.valueError "invalid literal for int()")
  truthOther _ := true
  dateOther _ := .error (.valueError "Invalid isoformat string")
  decimalOther _ := .error .arithmeticError

def eventTexts : EventTexts where
  eventId id :=
    match id with
    | .text s => s
    | _ => ""
  fingerprint event :=
    match event.kind with
    | .orderValidated => "26fec5f3cb317532630ede66f63e37399c9b9d77659e30c71ab21873f3def512"
    | .orderArmed => "4310c7c46c28c0fd7220e2651c4855eb036fad9a53183283e16f3adedcbe1565"
    | .submitStarted => "e74cbc6414da5cb063c8ed8197b11616ad1ee88b4bcc6385c2aa490c43264254"
    | _ => "7ff4fc206cf653c432c0738f650cc98a2ceced713ff7b5a437bbae2740917e63"

/-- The ids of the sample are a letter and a digit. -/
lemma idViolation_pair {label : String} {c d : Char} (hc : c ∈ ['b', 'd', 'e', 'f', 'u'])
    (hd : d ∈ ['1', '2', '3', '4']) : idViolation label (String.ofList [c, d]) = none := by
  have hplain : ∀ x ∈ [c, d], isSpaceCharacter x = false ∧ 32 ≤ x.toNat ∧ x.toNat ≠ 127 := by
    intro x hx
    have hmem : x ∈ ['b', 'd', 'e', 'f', 'u', '1', '2', '3', '4'] := by
      rcases List.mem_pair.mp hx with rfl | rfl
      · exact List.mem_append_left ['1', '2', '3', '4'] hc
      · exact List.mem_append_right ['b', 'd', 'e', 'f', 'u'] hd
    have hall : ['b', 'd', 'e', 'f', 'u', '1', '2', '3', '4'].all (fun x =>
        decide (isSpaceCharacter x = false ∧ 32 ≤ x.toNat ∧ x.toNat ≠ 127)) = true := rfl
    exact of_decide_eq_true (List.all_eq_true.mp hall x hmem)
  refine idViolation_ofList (List.cons_ne_nil _ _) ?_ (by simp) fun x hx => (hplain x hx).2
  exact strip_eq_self fun x hx => (hplain x hx).1

/-- The fill carries a price with a zero that its text leaves out. -/
def fill : AppliedFill where
  brokerFillId := "f1"
  brokerOrderId := "b1"
  shares := 1
  price := ⟨⟨false, 50, -1⟩, by decide⟩
  valid := by
    have hfill := @idViolation_pair "applied broker fill id" 'f' '1' (by decide) (by decide)
    have horder := @idViolation_pair "applied broker order id" 'b' '1' (by decide) (by decide)
    exact Option.or_eq_none_iff.mpr ⟨hfill, Option.or_eq_none_iff.mpr ⟨horder, rfl⟩⟩

/-- An event identity of the sample. -/
def identity (d : Char) (fingerprint : String) (hd : d ∈ ['1', '2', '3', '4'])
    (hfingerprint : isSha256 fingerprint = true) : AppliedEventIdentity where
  eventId := String.ofList ['e', d]
  fingerprint := fingerprint
  valid := by
    have hid := @idViolation_pair "applied event id" 'e' d (by decide) hd
    have hsha : ¬ isSha256 fingerprint = false := by simp [hfingerprint]
    exact Option.or_eq_none_iff.mpr ⟨hid, if_neg hsha⟩

def intentData : IntentData where
  executionId := "exec_eb2033c56af8faeff56674d74577fd3b0c7ecf2e5ea25ce4fa23d897206cfe7b"
  idempotencyKey := "f0931cb0afb0d6bab0c1bae43ff0b8e0b84c36980cac9c86e7a6c6570539ddf6"
  decisionId := "d1"
  uquantOrderId := "u1"
  symbol := ⟨⟨.sh, "600000"⟩, by simp [isBareSymbol]⟩
  side := .buy
  requestedShares := 2
  strategySession := ⟨2026, 1, 5, by decide⟩
  uquantSourceSha := "0123456789abcdef0123456789abcdef01234567"

lemma intentData_valid : intentData.violation environment = none := by
  have hkey : intentData.encoded.toList.head? = some '\x7b' := by
    simp only [IntentData.encoded, asciiJson, Json.dumps, String.toList_ofList]
    decide
  have hexecution : ("firmquant.execution.v1\x00" ++ intentData.encoded).toList.head? =
      some 'f' := by
    rw [String.toList_append]
    rfl
  have hne : ¬ (some '\x7b' : Option Char) = some 'f' := by decide
  have hdecision := @idViolation_pair "decision id" 'd' '1' (by decide) (by decide)
  have horder := @idViolation_pair "uquant order id" 'u' '1' (by decide) (by decide)
  have hgit : ¬ isGitSha intentData.uquantSourceSha = false := by
    simp [intentData, isGitSha, isHexDigit]
  have hdigits : ¬ Json.maxStrDigits < (Nat.toDigits 10 intentData.requestedShares).length := by
    decide
  refine Option.or_eq_none_iff.mpr ⟨hdecision, Option.or_eq_none_iff.mpr ⟨horder, ?_⟩⟩
  rw [if_neg (by decide), if_neg hgit, if_neg hdigits]
  simp only [environment, hkey, hexecution, if_neg hne, if_true]
  rfl

def record : OrderAggregate environment where
  intent := ⟨intentData, intentData_valid⟩
  state := .partiallyFilled
  brokerOrderId := some "b1"
  filledShares := 1
  fills := [fill]
  appliedEvents :=
    [identity '1' "26fec5f3cb317532630ede66f63e37399c9b9d77659e30c71ab21873f3def512" (by decide)
        (by simp [isSha256, isHexDigit]),
      identity '2' "4310c7c46c28c0fd7220e2651c4855eb036fad9a53183283e16f3adedcbe1565" (by decide)
        (by simp [isSha256, isHexDigit]),
      identity '3' "e74cbc6414da5cb063c8ed8197b11616ad1ee88b4bcc6385c2aa490c43264254" (by decide)
        (by simp [isSha256, isHexDigit]),
      identity '4' "7ff4fc206cf653c432c0738f650cc98a2ceced713ff7b5a437bbae2740917e63" (by decide)
        (by simp [isSha256, isHexDigit])]
  submitAttempts := 1
  cancelRequests := 0
  lateFillInvestigationRequired := false
  anomalies := []
  version := 4
  valid := by
    have horder : idViolation "aggregate broker order id" "b1" = none :=
      @idViolation_pair _ 'b' '1' (by decide) (by decide)
    have hbroker : ((some "b1").bind (idViolation "aggregate broker order id")).map
        CodecError.valueError = none := by rw [Option.bind_some, horder, Option.map_none]
    exact Option.or_eq_none_iff.mpr ⟨hbroker, rfl⟩

lemma history_events : (history intent events).toAggregateData =
    { intent := intent
      state := .partiallyFilled
      brokerOrderId := some "b1"
      filledShares := 1
      fills := [⟨"f1", "b1", 1, ⟨5, by norm_num⟩, by decide⟩]
      appliedEvents := events
      submitAttempts := 1
      cancelRequests := 0
      lateFillInvestigationRequired := false
      anomalies := []
      version := 4 } := by
  decide

lemma record_shows : record.Shows eventTexts (history intent events) := by
  have hprice : DecimalTuple.value ⟨false, 50, -1⟩ = 5 := by norm_num [DecimalTuple.value]
  constructor <;> rw [history_events]
  case fills => exact .cons ⟨rfl, rfl, rfl, hprice⟩ .nil
  all_goals rfl

end Sample

/-- A half-filled order is stored and read again. -/
theorem half_filled_stored : ∃ text b,
    canonicalJson (aggregatePayload Sample.record) = .ok text ∧
      aggregateFromJson Sample.environment text = .ok b ∧ b.Equals Sample.record ∧
      canonicalJson (aggregatePayload b) = .ok text := by
  obtain ⟨hreached, -, haccepted, -⟩ := codec_faithful Sample.environment Sample.eventTexts
  have hfew : (history Sample.intent Sample.events).appliedEvents.length <
      10 ^ Json.maxStrDigits := by
    rw [Sample.history_events]
    exact lt_of_lt_of_le (by decide : 4 < 10 ^ 1) (Nat.pow_le_pow_right (by decide) (by decide))
  obtain ⟨text, b, htext, hb, hequal⟩ :=
    hreached Sample.intent Sample.events hfew Sample.record Sample.record_shows
  exact ⟨text, b, htext, hb, hequal, haccepted text b hb⟩

end Codec

end FirmQuant
