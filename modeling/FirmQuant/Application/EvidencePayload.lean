import FirmQuant.Application.ExecutionEvidence
import FirmQuant.Foundation.IsoDateTime
import FirmQuant.Persistence.AggregateRoundTrip

/-!
# Payloads of observations

The payloads of `application/execution_evidence.py` and the digest of a content.  A payload is what
`json.dumps` writes of it; an integer that is too long for a text makes it raise.
-/

namespace FirmQuant

open Effect

instance : Valued DecimalTuple := ⟨DecimalTuple.value⟩

namespace Evidence

/-- `EvidenceStage.value`. -/
def EvidenceStage.text : EvidenceStage → String
  | .shadow => "SHADOW"
  | .canary => "CANARY"

/-- `BlockerCode.value`. -/
def BlockerCode.text : BlockerCode → String
  | .targetAlreadySatisfied => "TARGET_ALREADY_SATISFIED"
  | .nonTradable => "NON_TRADABLE"
  | .priceLimit => "PRICE_LIMIT"
  | .volumeLimit => "VOLUME_LIMIT"
  | .staleQuote => "STALE_QUOTE"
  | .insufficientCash => "INSUFFICIENT_CASH"
  | .incompleteSell => "INCOMPLETE_SELL"
  | .unknown => "UNKNOWN"
  | .externalActivity => "EXTERNAL_ACTIVITY"

/-- `_decimal_text`. -/
def decimalText (d : DecimalTuple) : Json := .str d.format

/-- A text or `None`. -/
def optionalText : Option String → Json
  | some s => .str s
  | none => .null

/-! ## Payloads -/

/-- `stable_payload`. -/
def StableIdentity.stablePayload (identity : StableIdentity CalendarDate) : List (String × Json) :=
  [("schema", .str "firmquant.execution-observation-identity.v1"),
    ("stage", .str identity.stage.text),
    ("execution_session", .str identity.executionSession.isoformat),
    ("firmquant_commit", .str identity.firmquantCommit),
    ("uquant_commit", .str identity.uquantCommit),
    ("promotion_config_sha256", .str identity.promotionConfigSha256),
    ("account_sha256", .str identity.accountSha256)]

/-- `EvidenceIdentity.payload`. -/
def IdentityFields.payload (identity : IdentityFields CalendarDate) : List (String × Json) :=
  identity.stablePayload ++ [("data_sha256", .str identity.dataSha256),
    ("calendar_sha256", .str identity.calendarSha256)]

/-- `PlanningBlockerObservation.payload`. -/
def PlanningBlockerFields.payload (blocker : PlanningBlockerFields) : List (String × Json) :=
  [("uquant_order_id", .str blocker.uquantOrderId), ("symbol", .str blocker.symbol),
    ("reason_code", .str blocker.reasonCode)]

/-- `OrderObservation.payload`. -/
def OrderFields.payload (order : OrderFields DecimalTuple) : List (String × Json) :=
  [("execution_id", .str order.executionId), ("uquant_order_id", .str order.uquantOrderId),
    ("symbol", .str order.symbol), ("side", .str order.side),
    ("planned_shares", .int order.plannedShares), ("filled_shares", .int order.filledShares),
    ("unfilled_shares", .int order.unfilledShares),
    ("reference_price", decimalText order.referencePrice),
    ("blocker", optionalText (order.blocker.map (·.text)))]

/-- `TargetObservation.payload`. -/
def TargetFields.payload (target : TargetFields DecimalTuple) : List (String × Json) :=
  [("symbol", .str target.symbol), ("target_shares", .int target.targetShares),
    ("target_weight", decimalText target.targetWeight),
    ("reference_price", decimalText target.referencePrice)]

/-- `FillObservation.payload`. -/
def FillFields.payload (fill : FillFields DecimalTuple) : List (String × Json) :=
  [("fill_id", optionalText fill.fillId), ("execution_id", .str fill.executionId),
    ("symbol", .str fill.symbol), ("side", .str fill.side), ("shares", .int fill.shares),
    ("price", decimalText fill.price), ("commission", decimalText fill.commission),
    ("stamp_duty", decimalText fill.stampDuty), ("transfer_fee", decimalText fill.transferFee),
    ("slippage", decimalText fill.slippage)]

/-- `PositionObservation.payload`. -/
def PositionFields.payload (position : PositionFields) : List (String × Json) :=
  [("symbol", .str position.symbol), ("shares", .int position.shares)]

/-- `content_payload`. -/
def ObservationContent.payload (content : ObservationContent DecimalTuple CalendarDate) :
    List (String × Json) :=
  [("schema", .str "firmquant.execution-observation.v1"),
    ("identity", .obj content.identity.val.payload), ("decision_id", .str content.decisionId),
    ("plan_id", .str content.planId), ("portfolio_equity", decimalText content.portfolioEquity),
    ("planned_orders", .arr (content.plannedOrders.map fun item => .obj item.val.payload)),
    ("planning_blockers", .arr (content.planningBlockers.map fun item => .obj item.val.payload)),
    ("targets", .arr (content.targets.map fun item => .obj item.val.payload)),
    ("fills", .arr (content.fills.map fun item => .obj item.val.payload)),
    ("actual_ending_positions",
      .arr (content.actualEndingPositions.map fun item => .obj item.val.payload)),
    ("hypothetical_ending_positions",
      .arr (content.hypotheticalEndingPositions.map fun item => .obj item.val.payload)),
    ("submit_count", .int content.submitCount), ("cancel_count", .int content.cancelCount),
    ("rejection_count", .int content.rejectionCount),
    ("unknown_count", .int content.unknownCount),
    ("external_activity", .int content.externalActivity),
    ("duplicate_economic_orders", .int content.duplicateEconomicOrders),
    ("duplicate_fills", .int content.duplicateFills),
    ("data_quality_failures", .int content.dataQualityFailures)]

/-- An observation whose decimals and times have texts. -/
abbrev WrittenObservation := ExecutionObservation DecimalTuple CalendarDate AwareDateTime

/-- `_canonical_json`, which on texts, integers, lists and dictionaries is that of the ledger. -/
def canonicalText (members : List (String × Json)) : Except LedgerError String :=
  canonicalJson (LedgerValue.ofJson (.obj members))

section

variable (sha256 : String → String)

/-- `content_sha256`. -/
def ObservationContent.contentSha256 (content : ObservationContent DecimalTuple CalendarDate) :
    Except LedgerError String := do
  let text ← canonicalText content.payload
  return sha256 text

/-- `ExecutionObservation.payload`. -/
def ObservationFields.payload
    (fields : ObservationFields DecimalTuple CalendarDate AwareDateTime) :
    Except LedgerError (List (String × Json)) := do
  let digest ← fields.toObservationContent.contentSha256 sha256
  return fields.toObservationContent.payload ++
    [("created_at", .str fields.createdAt.isoformat), ("content_sha256", .str digest)]

/-- The JSON of `payload()`. -/
def payloadText (observation : WrittenObservation) : Except LedgerError String := do
  let members ← observation.val.payload sha256
  canonicalText members

end

/-! ## Payloads that have a text -/

/-- All counts of an observation have texts. -/
structure ObservationContent.Printable (content : ObservationContent DecimalTuple CalendarDate) :
    Prop where
  orders : ∀ item ∈ content.plannedOrders, Codec.Printable item.val.plannedShares
  targets : ∀ item ∈ content.targets, Codec.Printable item.val.targetShares
  fills : ∀ item ∈ content.fills, Codec.Printable item.val.shares
  actual : ∀ item ∈ content.actualEndingPositions, Codec.Printable item.val.shares
  hypothetical : ∀ item ∈ content.hypotheticalEndingPositions, Codec.Printable item.val.shares
  submitCount : Codec.Printable content.submitCount
  cancelCount : Codec.Printable content.cancelCount
  rejectionCount : Codec.Printable content.rejectionCount
  unknownCount : Codec.Printable content.unknownCount
  externalActivity : Codec.Printable content.externalActivity
  duplicateEconomicOrders : Codec.Printable content.duplicateEconomicOrders
  duplicateFills : Codec.Printable content.duplicateFills
  dataQualityFailures : Codec.Printable content.dataQualityFailures

section Exact

open Json (Exact ExactItems ExactMembers)

lemma exact_optionalText (s : Option String) : (optionalText s).Exact := by
  cases s <;> exact trivial

lemma exactItems_map {α : Type} {payload : α → List (String × Json)} {xs : List α}
    (h : ∀ x ∈ xs, (Json.obj (payload x)).Exact) :
    ExactItems (xs.map fun x => .obj (payload x)) := by
  induction xs with
  | nil => exact trivial
  | cons x xs ih =>
    exact ⟨h x List.mem_cons_self, ih (List.forall_mem_cons.mp h).2⟩

lemma IdentityFields.exact_payload (identity : IdentityFields CalendarDate) :
    (Json.obj identity.payload).Exact := by
  refine ⟨by simp [payload, StableIdentity.stablePayload], ?_⟩
  simp [payload, StableIdentity.stablePayload, ExactMembers, Exact]

lemma PlanningBlockerFields.exact_payload (blocker : PlanningBlockerFields) :
    (Json.obj blocker.payload).Exact := by
  refine ⟨by simp [payload], ?_⟩
  simp [payload, ExactMembers, Exact]

lemma OrderFields.exact_payload {order : OrderFields DecimalTuple}
    (hle : order.filledShares ≤ order.plannedShares) (h : Codec.Printable order.plannedShares) :
    (Json.obj order.payload).Exact := by
  have hfilled : Exact (.int order.filledShares) := h.mono hle
  have hunfilled : Exact (.int order.unfilledShares) := h.mono (Nat.sub_le _ _)
  have hplanned : Exact (.int order.plannedShares) := h
  have hblocker := exact_optionalText (order.blocker.map (·.text))
  exact ⟨by simp [payload], trivial, trivial, trivial, trivial, hplanned, hfilled, hunfilled,
    trivial, hblocker, trivial⟩

lemma TargetFields.exact_payload {target : TargetFields DecimalTuple}
    (h : Codec.Printable target.targetShares) : (Json.obj target.payload).Exact := by
  exact ⟨by simp [payload], trivial, h, trivial, trivial, trivial⟩

lemma FillFields.exact_payload {fill : FillFields DecimalTuple} (h : Codec.Printable fill.shares) :
    (Json.obj fill.payload).Exact := by
  exact ⟨by simp [payload], exact_optionalText fill.fillId, trivial, trivial, trivial, h, trivial,
    trivial, trivial, trivial, trivial, trivial⟩

lemma PositionFields.exact_payload {position : PositionFields}
    (h : Codec.Printable position.shares) : (Json.obj position.payload).Exact := by
  exact ⟨by simp [payload], trivial, h, trivial⟩

lemma filled_le_planned {δ : Type} [Valued δ] (order : OrderObservation δ) :
    order.val.filledShares ≤ order.val.plannedShares := by
  have hchecks := firstViolation_eq_none.mp order.property
  have hfilled := hchecks (refusal (order.val.plannedShares < order.val.filledShares)
    "filled shares exceed planned shares") (by simp [OrderFields.violation])
  by_contra hlt
  unfold refusal at hfilled
  rw [if_pos (not_le.mp hlt)] at hfilled
  cases hfilled

lemma ObservationContent.exact_payload {content : ObservationContent DecimalTuple CalendarDate}
    (h : content.Printable) : (Json.obj content.payload).Exact := by
  have hidentity := content.identity.val.exact_payload
  have horders : Exact (.arr _) := exactItems_map fun item hitem =>
    OrderFields.exact_payload (filled_le_planned item) (h.orders item hitem)
  have hblockers : Exact (.arr _) := exactItems_map
    fun (item : PlanningBlockerObservation) (_ : item ∈ content.planningBlockers) =>
      item.val.exact_payload
  have htargets : Exact (.arr _) := exactItems_map fun item hitem =>
    TargetFields.exact_payload (h.targets item hitem)
  have hfills : Exact (.arr _) := exactItems_map fun item hitem =>
    FillFields.exact_payload (h.fills item hitem)
  have hactual : Exact (.arr _) := exactItems_map fun item hitem =>
    PositionFields.exact_payload (h.actual item hitem)
  have hhypothetical : Exact (.arr _) := exactItems_map fun item hitem =>
    PositionFields.exact_payload (h.hypothetical item hitem)
  have htext : ∀ s, Exact (.str s) := fun _ => trivial
  refine ⟨by simp [payload], ?_⟩
  refine ⟨htext _, hidentity, htext _, htext _, htext _, horders, hblockers, htargets, hfills,
    hactual, hhypothetical, ?_⟩
  exact ⟨h.submitCount, h.cancelCount, h.rejectionCount, h.unknownCount, h.externalActivity,
    h.duplicateEconomicOrders, h.duplicateFills, h.dataQualityFailures, trivial⟩

end Exact

end Evidence

end FirmQuant
