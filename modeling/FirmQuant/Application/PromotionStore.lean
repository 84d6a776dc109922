import FirmQuant.Application.EvidencePayload

/-!
# Decoding stored observations

`_decode_observation` of `application/promotion_store.py`, which reads the JSON of a payload, checks
it as the constructors do and compares the digest of what it read with the stored one.

A decimal that was written with an exponent is read without one: the same number, and the same text
(`DecimalTuple.reread`).  Observations are compared as `==` compares them, by these numbers.
-/

namespace FirmQuant

open Effect

namespace Evidence

/-! ## Observations with other decimals -/

lemma refusal_congr {c c' : Prop} [Decidable c] [Decidable c'] {message : String} (h : c ↔ c') :
    refusal c message = refusal c' message := by
  unfold refusal
  simp only [h]

section Mapped

variable {δ δ' τ ω : Type} [Valued δ] [Valued δ']

/-- An order with other decimals. -/
def OrderFields.map (f : δ → δ') (order : OrderFields δ) : OrderFields δ' where
  executionId := order.executionId
  uquantOrderId := order.uquantOrderId
  symbol := order.symbol
  side := order.side
  plannedShares := order.plannedShares
  filledShares := order.filledShares
  referencePrice := f order.referencePrice
  blocker := order.blocker

/-- A target with other decimals. -/
def TargetFields.map (f : δ → δ') (target : TargetFields δ) : TargetFields δ' where
  symbol := target.symbol
  targetShares := target.targetShares
  targetWeight := f target.targetWeight
  referencePrice := f target.referencePrice

/-- A fill with other decimals. -/
def FillFields.map (f : δ → δ') (fill : FillFields δ) : FillFields δ' where
  fillId := fill.fillId
  executionId := fill.executionId
  symbol := fill.symbol
  side := fill.side
  shares := fill.shares
  price := f fill.price
  commission := f fill.commission
  stampDuty := f fill.stampDuty
  transferFee := f fill.transferFee
  slippage := f fill.slippage

variable {f : δ → δ'} (hf : ∀ d, Valued.value (f d) = Valued.value d)

include hf

lemma OrderFields.violation_map (order : OrderFields δ) :
    (order.map f).violation = order.violation := by
  unfold OrderFields.violation positiveViolation OrderFields.map
  simp only [hf]

lemma TargetFields.violation_map (target : TargetFields δ) :
    (target.map f).violation = target.violation := by
  unfold TargetFields.violation positiveViolation weightViolation TargetFields.map
  simp only [hf]

lemma FillFields.violation_map (fill : FillFields δ) :
    (fill.map f).violation = fill.violation := by
  unfold FillFields.violation positiveViolation decimalViolation FillFields.map
  simp only [hf]

/-- An `OrderObservation` with other decimals of the same values. -/
def OrderObservation.map (order : OrderObservation δ) : OrderObservation δ' :=
  ⟨order.val.map f, (order.val.violation_map hf).trans order.property⟩

/-- A `TargetObservation` with other decimals of the same values. -/
def TargetObservation.map (target : TargetObservation δ) : TargetObservation δ' :=
  ⟨target.val.map f, (target.val.violation_map hf).trans target.property⟩

/-- A `FillObservation` with other decimals of the same values. -/
def FillObservation.map (fill : FillObservation δ) : FillObservation δ' :=
  ⟨fill.val.map f, (fill.val.violation_map hf).trans fill.property⟩

/-- A content with other decimals of the same values. -/
def ObservationContent.map (content : ObservationContent δ τ) : ObservationContent δ' τ where
  identity := content.identity
  decisionId := content.decisionId
  planId := content.planId
  portfolioEquity := f content.portfolioEquity
  plannedOrders := content.plannedOrders.map (OrderObservation.map hf)
  planningBlockers := content.planningBlockers
  targets := content.targets.map (TargetObservation.map hf)
  fills := content.fills.map (FillObservation.map hf)
  actualEndingPositions := content.actualEndingPositions
  hypotheticalEndingPositions := content.hypotheticalEndingPositions
  submitCount := content.submitCount
  cancelCount := content.cancelCount
  rejectionCount := content.rejectionCount
  unknownCount := content.unknownCount
  externalActivity := content.externalActivity
  duplicateEconomicOrders := content.duplicateEconomicOrders
  duplicateFills := content.duplicateFills
  dataQualityFailures := content.dataQualityFailures

lemma ObservationContent.violation_map (content : ObservationContent δ τ) :
    (content.map hf).violation = content.violation := by
  have hequity : positiveViolation "portfolio equity" (f content.portfolioEquity) =
      positiveViolation "portfolio equity" content.portfolioEquity := by
    unfold positiveViolation
    rw [hf]
  have htargets : (content.targets.map (TargetObservation.map hf)).map (·.val.symbol) =
      content.targets.map (·.val.symbol) := by
    rw [List.map_map]
    rfl
  have horders : (content.plannedOrders.map (OrderObservation.map hf)).map (·.val.executionId) =
      content.plannedOrders.map (·.val.executionId) := by
    rw [List.map_map]
    rfl
  have hfillIds : (content.map hf).fillIds = content.fillIds := by
    unfold ObservationContent.fillIds ObservationContent.map
    rw [List.filterMap_map]
    rfl
  have hcovered : (content.map hf).Covered ↔ content.Covered := by
    unfold ObservationContent.Covered ObservationContent.endingPositions ObservationContent.map
    simp only [htargets]
  have hstage : (content.map hf).stageViolation = content.stageViolation := by
    unfold ObservationContent.stageViolation ObservationContent.map
    simp only [List.mem_map, exists_exists_and_eq_and, List.map_eq_nil_iff, ne_eq]
    rfl
  have hcover : refusal (¬ (content.map hf).Covered)
      "ending positions must be covered by explicit targets" =
        refusal (¬ content.Covered) "ending positions must be covered by explicit targets" :=
    refusal_congr (not_congr hcovered)
  have hrecords : (content.map hf).recordChecks = content.recordChecks := by
    unfold ObservationContent.recordChecks
    rw [hfillIds]
    refine congrArg₂ List.cons rfl (congrArg₂ List.cons rfl (congrArg₂ List.cons hequity ?_))
    refine congrArg₂ List.cons (refusal_congr ?_) (congrArg₂ List.cons rfl
      (congrArg₂ List.cons rfl (congrArg₂ List.cons (refusal_congr ?_) rfl)))
    · exact Iff.of_eq (congrArg (fun symbols : List String => ¬ symbols.Nodup) htargets)
    · exact Iff.of_eq (congrArg (fun ids : List String => ¬ ids.Nodup) horders)
  unfold ObservationContent.violation
  rw [hrecords, hcover, hstage]

/-- An observation with other decimals of the same values. -/
def ExecutionObservation.map (observation : ExecutionObservation δ τ ω) :
    ExecutionObservation δ' τ ω :=
  ⟨⟨observation.val.toObservationContent.map hf, observation.val.createdAt⟩,
    (observation.val.toObservationContent.violation_map hf).trans observation.property⟩

omit hf in
/-- The observation with the numbers of its decimals. -/
def ExecutionObservation.numbers (observation : ExecutionObservation δ τ ω) :
    ExecutionObservation ℚ τ ω :=
  ExecutionObservation.map (f := (Valued.value : δ → ℚ)) (fun _ => rfl) observation

/-- The numbers are all that `==` looks at. -/
lemma ExecutionObservation.numbers_map (observation : ExecutionObservation δ τ ω) :
    ExecutionObservation.numbers (ExecutionObservation.map hf observation) =
      ExecutionObservation.numbers observation := by
  have horder : ∀ order : OrderObservation δ, OrderObservation.map
      (f := (Valued.value : δ' → ℚ)) (fun _ => rfl)
      (OrderObservation.map hf order) =
        OrderObservation.map (f := (Valued.value : δ → ℚ)) (fun _ => rfl) order := by
    intro order
    refine Subtype.ext ?_
    simp only [OrderObservation.map, OrderFields.map, hf]
  have htarget : ∀ target : TargetObservation δ, TargetObservation.map
      (f := (Valued.value : δ' → ℚ)) (fun _ => rfl)
      (TargetObservation.map hf target) =
        TargetObservation.map (f := (Valued.value : δ → ℚ)) (fun _ => rfl) target := by
    intro target
    refine Subtype.ext ?_
    simp only [TargetObservation.map, TargetFields.map, hf]
  have hfill : ∀ fill : FillObservation δ, FillObservation.map
      (f := (Valued.value : δ' → ℚ)) (fun _ => rfl)
      (FillObservation.map hf fill) =
        FillObservation.map (f := (Valued.value : δ → ℚ)) (fun _ => rfl) fill := by
    intro fill
    refine Subtype.ext ?_
    simp only [FillObservation.map, FillFields.map, hf]
  refine Subtype.ext ?_
  unfold ExecutionObservation.numbers ExecutionObservation.map ObservationContent.map
  simp only [List.map_map, Function.comp_def, horder, htarget, hfill, hf]

end Mapped

/-! ## The decoder -/

/-- The exceptions of the decoder. -/
inductive PromotionError
  /-- `PromotionStoreError`. -/
  | promotionStore (message : String)
  /-- `ValueError` of a constructor. -/
  | valueError (message : String)
  | ledger (error : LedgerError)
  deriving DecidableEq, Repr

/-- The digest, and the conversions of texts that `payload` never writes. -/
structure PromotionEnvironment where
  /-- `sha256(text.encode("utf-8")).hexdigest()`. -/
  sha256 : String → String
  /-- `Decimal` of a text that is not digits with a point or without; `some none` is an infinity or
  no number. -/
  decimalOther : String → Option (Option DecimalTuple)
  /-- `date.fromisoformat` of a text in another form than `isoformat` writes. -/
  dateOther : String → Option CalendarDate
  /-- `datetime.fromisoformat` of a text in another form; `some none` has no time zone. -/
  datetimeOther : String → Option (Option AwareDateTime)

/-- How `json.loads` reads a stored payload. -/
def observationHooks : Json.ParseHooks PromotionError where
  pairs members := .ok (members.foldl (fun ms m => LedgerValue.insertMember m.1 m.2 ms) [])
  constant value := .ok (.float value)
  malformed := .promotionStore "stored execution observation is invalid JSON"
  overlong := .promotionStore "stored execution observation is invalid JSON"

namespace PromotionStore

/-- `value.get(key)`. -/
def get (members : List (String × Json)) (key : String) : Json :=
  ((Json.obj members).get? key).getD .null

/-- The value is this text. -/
def isText (s : String) : Json → Bool
  | .str t => t = s
  | _ => false

/-- `_mapping`. -/
def mapping (label : String) : Json → Except PromotionError (List (String × Json))
  | .obj members => .ok members
  | _ => .error (.promotionStore (label ++ " must be a JSON object"))

/-- `_array`. -/
def array (label : String) : Json → Except PromotionError (List Json)
  | .arr items => .ok items
  | _ => .error (.promotionStore (label ++ " must be a JSON array"))

/-- `_text`. -/
def text (label : String) : Json → Except PromotionError String
  | .str s =>
    if s = "" ∨ strip s.toList ≠ s.toList then
      .error (.promotionStore (label ++ " must be canonical text"))
    else .ok s
  | _ => .error (.promotionStore (label ++ " must be canonical text"))

/-- `_text` of a value that may be missing. -/
def optionalTextOf (label : String) : Json → Except PromotionError (Option String)
  | .null => .ok none
  | value => (text label value).map some

/-- `_integer`. -/
def integer (label : String) : Json → Except PromotionError ℕ
  | .int n =>
    if n < 0 then .error (.promotionStore (label ++ " must be a nonnegative integer"))
    else .ok n.toNat
  | _ => .error (.promotionStore (label ++ " must be a nonnegative integer"))

variable (env : PromotionEnvironment)

/-- `_decimal`. -/
def decimal (label : String) : Json → Except PromotionError DecimalTuple
  | .str s =>
    match DecimalTuple.ofSigned s.toList with
    | some d => .ok d
    | none =>
      match env.decimalOther s with
      | none => .error (.promotionStore (label ++ " is not Decimal text"))
      | some none => .error (.promotionStore (label ++ " must be finite"))
      | some (some d) => .ok d
  | _ => .error (.promotionStore (label ++ " must be canonical Decimal text"))

/-- `_stage`.  The text of a value that is no text is no stage. -/
def stage : Json → Except PromotionError EvidenceStage
  | .str s =>
    match [EvidenceStage.shadow, .canary].find? (·.text = s) with
    | some stage => .ok stage
    | none => .error (.promotionStore "stored evidence stage is invalid")
  | _ => .error (.promotionStore "stored evidence stage is invalid")

/-- The members of `BlockerCode`. -/
def blockerCodes : List BlockerCode :=
  [.targetAlreadySatisfied, .nonTradable, .priceLimit, .volumeLimit, .staleQuote,
    .insufficientCash, .incompleteSell, .unknown, .externalActivity]

/-- `_blocker`.  The text of a value that is no text is no blocker. -/
def blocker : Json → Except PromotionError (Option BlockerCode)
  | .null => .ok none
  | .str s =>
    match blockerCodes.find? (·.text = s) with
    | some code => .ok (some code)
    | none => .error (.promotionStore "stored evidence blocker is invalid")
  | _ => .error (.promotionStore "stored evidence blocker is invalid")

/-- `date.fromisoformat` of the session. -/
def session (s : String) : Except PromotionError CalendarDate :=
  match (CalendarDate.fromIsoformat s).or (env.dateOther s) with
  | some day => .ok day
  | none => .error (.promotionStore "execution observation session is invalid")

/-- `datetime.fromisoformat` of the time; none has no time zone. -/
def createdAt (s : String) : Except PromotionError (Option AwareDateTime) :=
  match ((AwareDateTime.fromIsoformat s).map some).or (env.datetimeOther s) with
  | some time => .ok time
  | none => .error (.promotionStore "execution observation timestamp is invalid")

/-- A constructor. -/
def construct {α : Type} (violation : α → Option String) (a : α) :
    Except PromotionError (Checked violation) :=
  (Checked.create violation a).mapError .valueError

/-- `_decode_identity`. -/
def decodeIdentity (payload : Json) : Except PromotionError (EvidenceIdentity CalendarDate) := do
  let value ← mapping "execution observation identity" payload
  refuse (isText "firmquant.execution-observation-identity.v1" (get value "schema") = false)
    (.promotionStore "execution observation identity schema is invalid")
  let sessionText ← text "session" (get value "execution_session")
  let executionSession ← session env sessionText
  let stage ← stage (get value "stage")
  let firmquantCommit ← text "firmquant commit" (get value "firmquant_commit")
  let uquantCommit ← text "uquant commit" (get value "uquant_commit")
  let promotionConfigSha256 ← text "promotion configuration" (get value "promotion_config_sha256")
  let accountSha256 ← text "account hash" (get value "account_sha256")
  let dataSha256 ← text "data hash" (get value "data_sha256")
  let calendarSha256 ← text "calendar hash" (get value "calendar_sha256")
  construct _ {
    stage := stage
    executionSession := executionSession
    firmquantCommit := firmquantCommit
    uquantCommit := uquantCommit
    promotionConfigSha256 := promotionConfigSha256
    accountSha256 := accountSha256
    dataSha256 := dataSha256
    calendarSha256 := calendarSha256 }

/-- `_decode_order`. -/
def decodeOrder (payload : Json) : Except PromotionError (OrderObservation DecimalTuple) := do
  let value ← mapping "execution order observation" payload
  let executionId ← text "execution id" (get value "execution_id")
  let uquantOrderId ← text "uquant order id" (get value "uquant_order_id")
  let symbol ← text "order symbol" (get value "symbol")
  let side ← text "order side" (get value "side")
  let plannedShares ← integer "planned shares" (get value "planned_shares")
  let filledShares ← integer "filled shares" (get value "filled_shares")
  let referencePrice ← decimal env "order reference price" (get value "reference_price")
  let blocker ← blocker (get value "blocker")
  construct _ ⟨executionId, uquantOrderId, symbol, side, plannedShares, filledShares,
    referencePrice, blocker⟩

/-- `_decode_planning_blocker`. -/
def decodePlanningBlocker (payload : Json) : Except PromotionError PlanningBlockerObservation := do
  let value ← mapping "planning blocker observation" payload
  let uquantOrderId ← text "blocker order id" (get value "uquant_order_id")
  let symbol ← text "blocker symbol" (get value "symbol")
  let reasonCode ← text "blocker reason code" (get value "reason_code")
  construct _ ⟨uquantOrderId, symbol, reasonCode⟩

/-- `_decode_target`. -/
def decodeTarget (payload : Json) : Except PromotionError (TargetObservation DecimalTuple) := do
  let value ← mapping "target observation" payload
  let symbol ← text "target symbol" (get value "symbol")
  let targetShares ← integer "target shares" (get value "target_shares")
  let targetWeight ← decimal env "target weight" (get value "target_weight")
  let referencePrice ← decimal env "target reference price" (get value "reference_price")
  construct _ ⟨symbol, targetShares, targetWeight, referencePrice⟩

/-- `_decode_fill`. -/
def decodeFill (payload : Json) : Except PromotionError (FillObservation DecimalTuple) := do
  let value ← mapping "fill observation" payload
  let fillId ← optionalTextOf "fill id" (get value "fill_id")
  let executionId ← text "fill execution id" (get value "execution_id")
  let symbol ← text "fill symbol" (get value "symbol")
  let side ← text "fill side" (get value "side")
  let shares ← integer "fill shares" (get value "shares")
  let price ← decimal env "fill price" (get value "price")
  let commission ← decimal env "commission" (get value "commission")
  let stampDuty ← decimal env "stamp duty" (get value "stamp_duty")
  let transferFee ← decimal env "transfer fee" (get value "transfer_fee")
  let slippage ← decimal env "slippage" (get value "slippage")
  construct _ ⟨fillId, executionId, symbol, side, shares, price, commission, stampDuty, transferFee,
    slippage⟩

/-- `_decode_position`. -/
def decodePosition (payload : Json) : Except PromotionError PositionObservation := do
  let value ← mapping "position observation" payload
  let symbol ← text "position symbol" (get value "symbol")
  let shares ← integer "position shares" (get value "shares")
  construct _ ⟨symbol, shares⟩

/-- `ExecutionObservation` of what was decoded; a time without a time zone fails after the checks
of the records. -/
def constructObservation (content : ObservationContent DecimalTuple CalendarDate) :
    Option AwareDateTime → Except PromotionError WrittenObservation
  | some createdAt => construct _ ⟨content, createdAt⟩
  | none => .error (.valueError
      ((firstViolation content.recordChecks).getD "observation time must be timezone-aware"))

/-- `_decode_observation`. -/
def decodeObservation (payload : Json) : Except PromotionError WrittenObservation := do
  let value ← mapping "execution observation" payload
  refuse (isText "firmquant.execution-observation.v1" (get value "schema") = false)
    (.promotionStore "execution observation schema is invalid")
  let createdText ← text "created at" (get value "created_at")
  let createdAt ← createdAt env createdText
  let identity ← decodeIdentity env (get value "identity")
  let decisionId ← text "decision id" (get value "decision_id")
  let planId ← text "plan id" (get value "plan_id")
  let portfolioEquity ← decimal env "portfolio equity" (get value "portfolio_equity")
  let orders ← array "planned orders" (get value "planned_orders")
  let plannedOrders ← orders.mapM (decodeOrder env)
  let blockers ← array "planning blockers" (get value "planning_blockers")
  let planningBlockers ← blockers.mapM decodePlanningBlocker
  let targetItems ← array "targets" (get value "targets")
  let targets ← targetItems.mapM (decodeTarget env)
  let fillItems ← array "fills" (get value "fills")
  let fills ← fillItems.mapM (decodeFill env)
  let actual ← array "actual ending positions" (get value "actual_ending_positions")
  let actualEndingPositions ← actual.mapM decodePosition
  let hypothetical ← array "hypothetical ending positions"
    (get value "hypothetical_ending_positions")
  let hypotheticalEndingPositions ← hypothetical.mapM decodePosition
  let submitCount ← integer "submit count" (get value "submit_count")
  let cancelCount ← integer "cancel count" (get value "cancel_count")
  let rejectionCount ← integer "rejection count" (get value "rejection_count")
  let unknownCount ← integer "unknown count" (get value "unknown_count")
  let externalActivity ← integer "external activity" (get value "external_activity")
  let duplicateEconomicOrders ← integer "duplicate economic orders"
    (get value "duplicate_economic_orders")
  let duplicateFills ← integer "duplicate fills" (get value "duplicate_fills")
  let dataQualityFailures ← integer "data quality failures" (get value "data_quality_failures")
  let observation ← constructObservation {
    identity := identity
    decisionId := decisionId
    planId := planId
    portfolioEquity := portfolioEquity
    plannedOrders := plannedOrders
    planningBlockers := planningBlockers
    targets := targets
    fills := fills
    actualEndingPositions := actualEndingPositions
    hypotheticalEndingPositions := hypotheticalEndingPositions
    submitCount := submitCount
    cancelCount := cancelCount
    rejectionCount := rejectionCount
    unknownCount := unknownCount
    externalActivity := externalActivity
    duplicateEconomicOrders := duplicateEconomicOrders
    duplicateFills := duplicateFills
    dataQualityFailures := dataQualityFailures } createdAt
  let digest ← (observation.val.contentSha256 env.sha256).mapError .ledger
  refuse (isText digest (get value "content_sha256") = false)
    (.promotionStore "execution observation digest mismatch")
  return observation

/-! ## What a payload is decoded to -/

section Reading

open Codec (sortedObject)

variable {env} {members : List (String × Json)} {key label label' : String}

/-- The members of an object stand behind their keys in any order. -/
lemma get_sorted {v : Json} (hexact : (Json.obj members).Exact) (hmem : (key, v) ∈ members) :
    get (sortedObject members) key = v.sorted :=
  congrArg (Option.getD · Json.null) (Codec.get?_sortedObject hexact hmem)

lemma mapping_obj : mapping label (.obj members) = .ok members := rfl

variable {s : String} {n : ℕ} {α : Type}

lemma text_of_strip (hne : s ≠ "") (hstrip : strip s.toList = s.toList) :
    text label (.str s) = .ok s := by
  refine if_neg ?_
  rintro (h | h)
  · exact hne h
  · exact h hstrip

lemma text_of_violation {s : String} (h : textViolation label' s = none) :
    text label (.str s) = .ok s := by
  unfold textViolation at h
  split at h
  · cases h
  next hcanonical =>
    rw [not_or, not_not] at hcanonical
    exact text_of_strip hcanonical.1 hcanonical.2

lemma text_of_digestViolation (hn : 0 < n) (h : digestViolation n label' s = none) :
    text label (.str s) = .ok s := by
  unfold digestViolation at h
  split at h
  next hdigest =>
    obtain ⟨hlength, hall⟩ := hdigest
    have hspace : ∀ c ∈ s.toList, isSpaceCharacter c = false := by
      intro c hc
      rcases Bool.or_eq_true _ _ |>.mp (List.all_eq_true.mp hall c hc) with hdigit | hletter
      · exact isSpaceCharacter_of_isDigit hdigit
      · obtain ⟨hfirst, hlast⟩ := Bool.and_eq_true _ _ |>.mp hletter
        have hlow : 97 ≤ c.toNat := of_decide_eq_true hfirst
        have hhigh : c.toNat ≤ 102 := of_decide_eq_true hlast
        simp only [isSpaceCharacter, Bool.or_eq_false_iff, Bool.and_eq_false_iff,
          decide_eq_false_iff_not]
        omega
    refine text_of_strip ?_ (strip_eq_self hspace)
    rintro rfl
    rw [← hlength] at hn
    exact absurd hn (by decide)
  next => cases h

/-- The text of a date or of a time is canonical. -/
lemma text_of_isoCharacter {cs : List Char} (hne : cs ≠ [])
    (h : ∀ c ∈ cs, AwareDateTime.IsoCharacter c) :
    text label (.str (String.ofList cs)) = .ok (String.ofList cs) := by
  have hspace : ∀ c ∈ cs, isSpaceCharacter c = false := by
    intro c hc
    rcases h c hc with hdigit | hmem
    · exact isSpaceCharacter_of_isDigit hdigit
    · have hall : ∀ c ∈ ['-', ':', 'T', '+', '.'], isSpaceCharacter c = false := by decide
      exact hall c hmem
  refine text_of_strip (fun hempty => hne ?_) ?_
  · have hchars := congrArg String.toList hempty
    rwa [String.toList_ofList] at hchars
  · rw [String.toList_ofList]
    exact strip_eq_self hspace

lemma text_isoformat_date (d : CalendarDate) :
    text label (.str d.isoformat) = .ok d.isoformat :=
  text_of_isoCharacter (by simp [CalendarDate.isoChars, IsoDate.fourDigits, IsoDate.twoDigits])
    (AwareDateTime.isoCharacter_isoChars d)

lemma text_isoformat_time (t : AwareDateTime) :
    text label (.str t.isoformat) = .ok t.isoformat := by
  have h := AwareDateTime.isoCharacter_isoformat t
  unfold AwareDateTime.isoformat at h ⊢
  rw [String.toList_ofList] at h
  exact text_of_isoCharacter (by simp) h

lemma integer_natCast (n : ℕ) : integer label (.int n) = .ok n := by
  have hnonneg : ¬ (n : ℤ) < 0 := by omega
  simp only [integer, hnonneg, if_false, Int.toNat_natCast]

lemma decimal_decimalText (d : DecimalTuple) :
    decimal env label (decimalText d) = .ok d.reread := by
  unfold decimal decimalText
  simp only [DecimalTuple.ofSigned_format]

lemma stage_text (s : EvidenceStage) : stage (.str s.text) = .ok s := by
  have hfind : [EvidenceStage.shadow, .canary].find? (·.text = s.text) = some s := by
    cases s <;> decide
  unfold stage
  simp only [hfind]

lemma blocker_text (code : Option BlockerCode) :
    blocker (optionalText (code.map (·.text))) = .ok code := by
  cases code with
  | none => rfl
  | some code =>
    have hfind : blockerCodes.find? (·.text = code.text) = some code := by
      cases code <;> decide
    unfold blocker optionalText
    simp only [Option.map_some, hfind]

lemma optionalTextOf_optionalText {s : Option String}
    (h : optionalTextViolation label' s = none) :
    optionalTextOf label (optionalText s) = .ok s := by
  cases s with
  | none => rfl
  | some s =>
    change (text label (.str s)).map some = _
    rw [@text_of_violation label label' s h]
    rfl

lemma session_isoformat (d : CalendarDate) : session env d.isoformat = .ok d := by
  unfold session
  rw [CalendarDate.fromIsoformat_isoformat]
  rfl

lemma createdAt_isoformat (t : AwareDateTime) : createdAt env t.isoformat = .ok (some t) := by
  unfold createdAt
  rw [AwareDateTime.fromIsoformat_isoformat]
  rfl

lemma construct_val {violation : α → Option String} (c : Checked violation) :
    construct violation c.val = .ok c := by
  unfold construct
  rw [Checked.create_val]
  rfl

section Fields

variable {β : Type} (hexact : (Json.obj members).Exact)

include hexact

/-- A text that passes its check stands in a record. -/
lemma text_get {s : String} {k : String → Except PromotionError β}
    (h : text label (.str s) = .ok s) (hmem : (key, .str s) ∈ members := by
      simp [IdentityFields.payload, StableIdentity.stablePayload, PlanningBlockerFields.payload,
        OrderFields.payload, TargetFields.payload, FillFields.payload, PositionFields.payload]) :
    (text label (get (sortedObject members) key) >>= k) = k s := by
  rw [get_sorted hexact hmem]
  exact congrArg (· >>= k) h

lemma integer_get {k : ℕ → Except PromotionError β} (hmem : (key, .int n) ∈ members := by
      simp [IdentityFields.payload, StableIdentity.stablePayload, PlanningBlockerFields.payload,
        OrderFields.payload, TargetFields.payload, FillFields.payload, PositionFields.payload]) :
    (integer label (get (sortedObject members) key) >>= k) = k n := by
  rw [get_sorted hexact hmem]
  exact congrArg (· >>= k) (integer_natCast n)

lemma decimal_get {d : DecimalTuple} {k : DecimalTuple → Except PromotionError β}
    (hmem : (key, decimalText d) ∈ members := by
      simp [IdentityFields.payload, StableIdentity.stablePayload, PlanningBlockerFields.payload,
        OrderFields.payload, TargetFields.payload, FillFields.payload, PositionFields.payload]) :
    (decimal env label (get (sortedObject members) key) >>= k) = k d.reread := by
  rw [get_sorted hexact hmem]
  exact congrArg (· >>= k) (decimal_decimalText d)

lemma refuse_get {e : PromotionError} (hmem : (key, .str s) ∈ members) :
    (refuse (isText s (get (sortedObject members) key) = false) e : Except PromotionError PUnit) =
      .ok ⟨⟩ := by
  rw [get_sorted hexact hmem]
  exact refuse_eq_ok.mpr (by simp [isText, Json.sorted])

end Fields

/-! ### Records -/

lemma decodeIdentity_payload (identity : EvidenceIdentity CalendarDate) :
    decodeIdentity env (.obj (sortedObject identity.val.payload)) = .ok identity := by
  have hexact := identity.val.exact_payload
  have hchecks := firstViolation_eq_none.mp identity.property
  simp only [List.forall_mem_cons] at hchecks
  obtain ⟨hfirmquant, huquant, hconfig, haccount, hdata, hcalendar, -⟩ := hchecks
  have hstage : stage (get (sortedObject identity.val.payload) "stage") =
      .ok identity.val.stage := by
    rw [@get_sorted _ "stage" (.str identity.val.stage.text) hexact
      (by simp [IdentityFields.payload, StableIdentity.stablePayload])]
    exact stage_text _
  unfold decodeIdentity
  rw [mapping_obj, ok_bind,
    refuse_get hexact (by simp [IdentityFields.payload, StableIdentity.stablePayload]), ok_bind,
    text_get (s := identity.val.executionSession.isoformat) hexact (text_isoformat_date _),
    session_isoformat, ok_bind, hstage, ok_bind,
    text_get (s := identity.val.firmquantCommit) hexact
      (text_of_digestViolation (by decide) hfirmquant),
    text_get (s := identity.val.uquantCommit) hexact (text_of_digestViolation (by decide) huquant),
    text_get (s := identity.val.promotionConfigSha256) hexact
      (text_of_digestViolation (by decide) hconfig),
    text_get (s := identity.val.accountSha256) hexact
      (text_of_digestViolation (by decide) haccount),
    text_get (s := identity.val.dataSha256) hexact (text_of_digestViolation (by decide) hdata),
    text_get (s := identity.val.calendarSha256) hexact
      (text_of_digestViolation (by decide) hcalendar)]
  exact construct_val identity

lemma decodePlanningBlocker_payload (item : PlanningBlockerObservation) :
    decodePlanningBlocker (.obj (sortedObject item.val.payload)) = .ok item := by
  have hexact := item.val.exact_payload
  have hchecks := firstViolation_eq_none.mp item.property
  simp only [List.forall_mem_cons] at hchecks
  obtain ⟨horder, hsymbol, hreason, -⟩ := hchecks
  unfold decodePlanningBlocker
  rw [mapping_obj, ok_bind,
    text_get (s := item.val.uquantOrderId) hexact (text_of_violation horder),
    text_get (s := item.val.symbol) hexact (text_of_violation hsymbol),
    text_get (s := item.val.reasonCode) hexact (text_of_violation hreason)]
  exact construct_val item

lemma text_of_sideViolation {message : String} (h : sideViolation message s = none) :
    text label (.str s) = .ok s := by
  unfold sideViolation at h
  split at h
  next hside =>
    rcases hside with rfl | rfl
    all_goals exact text_of_strip (by decide) (by decide)
  next => cases h

lemma decodeOrder_payload {item : OrderObservation DecimalTuple}
    (h : Codec.Printable item.val.plannedShares) :
    decodeOrder env (.obj (sortedObject item.val.payload)) =
      .ok (OrderObservation.map DecimalTuple.value_reread item) := by
  have hexact := OrderFields.exact_payload (filled_le_planned item) h
  have hchecks := firstViolation_eq_none.mp item.property
  simp only [List.forall_mem_cons] at hchecks
  obtain ⟨hexecution, horder, hsymbol, hside, -⟩ := hchecks
  have hblocker : blocker (get (sortedObject item.val.payload) "blocker") =
      .ok item.val.blocker := by
    rw [@get_sorted _ "blocker" (optionalText (item.val.blocker.map (·.text))) hexact
      (by simp [OrderFields.payload])]
    rw [show (optionalText (item.val.blocker.map (·.text))).sorted =
      optionalText (item.val.blocker.map (·.text)) by cases item.val.blocker <;> rfl]
    exact blocker_text _
  unfold decodeOrder
  rw [mapping_obj, ok_bind,
    text_get (s := item.val.executionId) hexact (text_of_violation hexecution),
    text_get (s := item.val.uquantOrderId) hexact (text_of_violation horder),
    text_get (s := item.val.symbol) hexact (text_of_violation hsymbol),
    text_get (s := item.val.side) hexact (text_of_sideViolation hside),
    integer_get (n := item.val.plannedShares) hexact,
    integer_get (n := item.val.filledShares) hexact,
    decimal_get (d := item.val.referencePrice) hexact,
    hblocker, ok_bind]
  exact construct_val (OrderObservation.map DecimalTuple.value_reread item)

lemma decodeTarget_payload {item : TargetObservation DecimalTuple}
    (h : Codec.Printable item.val.targetShares) :
    decodeTarget env (.obj (sortedObject item.val.payload)) =
      .ok (TargetObservation.map DecimalTuple.value_reread item) := by
  have hexact := TargetFields.exact_payload h
  have hchecks := firstViolation_eq_none.mp item.property
  simp only [List.forall_mem_cons] at hchecks
  obtain ⟨hsymbol, -⟩ := hchecks
  unfold decodeTarget
  rw [mapping_obj, ok_bind,
    text_get (s := item.val.symbol) hexact (text_of_violation hsymbol),
    integer_get (n := item.val.targetShares) hexact,
    decimal_get (d := item.val.targetWeight) hexact,
    decimal_get (d := item.val.referencePrice) hexact]
  exact construct_val (TargetObservation.map DecimalTuple.value_reread item)

lemma decodeFill_payload {item : FillObservation DecimalTuple}
    (h : Codec.Printable item.val.shares) :
    decodeFill env (.obj (sortedObject item.val.payload)) =
      .ok (FillObservation.map DecimalTuple.value_reread item) := by
  have hexact := FillFields.exact_payload h
  have hchecks := firstViolation_eq_none.mp item.property
  simp only [List.forall_mem_cons] at hchecks
  obtain ⟨hid, hexecution, hsymbol, hside, -⟩ := hchecks
  have hfillId : optionalTextOf "fill id" (get (sortedObject item.val.payload) "fill_id") =
      .ok item.val.fillId := by
    rw [@get_sorted _ "fill_id" (optionalText item.val.fillId) hexact
      (by simp [FillFields.payload])]
    rw [show (optionalText item.val.fillId).sorted = optionalText item.val.fillId by
      cases item.val.fillId <;> rfl]
    exact optionalTextOf_optionalText hid
  unfold decodeFill
  rw [mapping_obj, ok_bind, hfillId, ok_bind,
    text_get (s := item.val.executionId) hexact (text_of_violation hexecution),
    text_get (s := item.val.symbol) hexact (text_of_violation hsymbol),
    text_get (s := item.val.side) hexact (text_of_sideViolation hside),
    integer_get (n := item.val.shares) hexact,
    decimal_get (d := item.val.price) hexact,
    decimal_get (d := item.val.commission) hexact,
    decimal_get (d := item.val.stampDuty) hexact,
    decimal_get (d := item.val.transferFee) hexact,
    decimal_get (d := item.val.slippage) hexact]
  exact construct_val (FillObservation.map DecimalTuple.value_reread item)

lemma decodePosition_payload {item : PositionObservation} (h : Codec.Printable item.val.shares) :
    decodePosition (.obj (sortedObject item.val.payload)) = .ok item := by
  have hexact := PositionFields.exact_payload h
  have hsymbol : textViolation "position symbol" item.val.symbol = none := item.property
  unfold decodePosition
  rw [mapping_obj, ok_bind,
    text_get (s := item.val.symbol) hexact (text_of_violation hsymbol),
    integer_get (n := item.val.shares) hexact]
  exact construct_val item

/-! ### Observations -/

variable {payload : α → List (String × Json)}

lemma sortedItems_map (xs : List α) :
    Json.sortedItems (xs.map fun x => .obj (payload x)) =
      xs.map fun x => .obj (sortedObject (payload x)) := by
  induction xs with
  | nil => rfl
  | cons x xs ih => exact congrArg₂ List.cons rfl ih

variable {xs : List α}

/-- The items of a record, each with its members in order. -/
lemma array_get (hexact : (Json.obj members).Exact)
    (hmem : (key, .arr (xs.map fun x => .obj (payload x))) ∈ members) :
    array label (get (sortedObject members) key) =
      .ok (xs.map fun x => .obj (sortedObject (payload x))) := by
  rw [get_sorted hexact hmem, ← sortedItems_map]
  rfl

/-- The items of a list are decoded. -/
lemma array_decode {β γ : Type} {decode : Json → Except PromotionError β} {g : α → β}
    {k : List β → Except PromotionError γ} (hexact : (Json.obj members).Exact)
    (hmem : (key, .arr (xs.map fun x => .obj (payload x))) ∈ members)
    (h : ∀ x ∈ xs, decode (.obj (sortedObject (payload x))) = .ok (g x)) :
    (array label (get (sortedObject members) key) >>= fun items => items.mapM decode >>= k) =
      k (xs.map g) := by
  have hmap : (xs.map fun x => .obj (sortedObject (payload x))).mapM decode = .ok (xs.map g) := by
    rw [mapM_eq_ok, List.forall₂_map_left_iff, List.forall₂_map_right_iff, List.forall₂_same]
    exact h
  rw [array_get hexact hmem, ok_bind, hmap, ok_bind]

lemma payload_reread (content : ObservationContent DecimalTuple CalendarDate) :
    (content.map DecimalTuple.value_reread).payload = content.payload := by
  have hdecimal : ∀ d : DecimalTuple, decimalText d.reread = decimalText d := fun d =>
    congrArg Json.str d.format_reread
  have horders : ((content.map DecimalTuple.value_reread).plannedOrders.map
      fun item => Json.obj item.val.payload) =
        content.plannedOrders.map fun item => Json.obj item.val.payload := by
    refine List.map_map.trans (List.map_congr_left fun item _ => ?_)
    simp only [Function.comp_apply, OrderObservation.map, OrderFields.map, OrderFields.payload,
      OrderFields.unfilledShares, hdecimal]
  have htargets : ((content.map DecimalTuple.value_reread).targets.map
      fun item => Json.obj item.val.payload) =
        content.targets.map fun item => Json.obj item.val.payload := by
    refine List.map_map.trans (List.map_congr_left fun item _ => ?_)
    simp only [Function.comp_apply, TargetObservation.map, TargetFields.map, TargetFields.payload,
      hdecimal]
  have hfills : ((content.map DecimalTuple.value_reread).fills.map
      fun item => Json.obj item.val.payload) =
        content.fills.map fun item => Json.obj item.val.payload := by
    refine List.map_map.trans (List.map_congr_left fun item _ => ?_)
    simp only [Function.comp_apply, FillObservation.map, FillFields.map, FillFields.payload,
      hdecimal]
  unfold ObservationContent.payload
  rw [horders, htargets, hfills]
  simp only [ObservationContent.map, hdecimal]

/-- The digest of what is read is that of what was written. -/
lemma contentSha256_reread (sha256 : String → String)
    (content : ObservationContent DecimalTuple CalendarDate) :
    (content.map DecimalTuple.value_reread).contentSha256 sha256 =
      content.contentSha256 sha256 := by
  unfold ObservationContent.contentSha256
  rw [payload_reread]

/-- The payload of an observation whose counts have texts. -/
lemma exists_payload {observation : WrittenObservation}
    (h : observation.val.toObservationContent.Printable) : ∃ digest,
      observation.val.toObservationContent.contentSha256 env.sha256 = .ok digest ∧
        observation.val.payload env.sha256 = .ok (observation.val.toObservationContent.payload ++
          [("created_at", .str observation.val.createdAt.isoformat),
            ("content_sha256", .str digest)]) := by
  have hexact := ObservationContent.exact_payload h
  have hdigest : observation.val.toObservationContent.contentSha256 env.sha256 =
      .ok (env.sha256 (Json.obj observation.val.toObservationContent.payload).dumps) := by
    unfold ObservationContent.contentSha256 canonicalText
    rw [canonicalJson_ofJson hexact]
    rfl
  refine ⟨_, hdigest, ?_⟩
  unfold ObservationFields.payload
  rw [hdigest]
  rfl

/-- The payload of an observation says it exactly. -/
lemma exact_append {content : ObservationContent DecimalTuple CalendarDate}
    (h : content.Printable) (time digest : String) :
    (Json.obj (content.payload ++
      [("created_at", .str time), ("content_sha256", .str digest)])).Exact := by
  obtain ⟨-, hmembers⟩ := ObservationContent.exact_payload h
  refine ⟨by simp [ObservationContent.payload], Json.exactMembers_iff.mpr fun m hm => ?_⟩
  rcases List.mem_append.mp hm with hm | hm
  · exact Json.exactMembers_iff.mp hmembers m hm
  · simp only [List.mem_cons, List.not_mem_nil, or_false] at hm
    rcases hm with rfl | rfl <;> exact trivial

/-- The payload of an observation is decoded to it. -/
lemma decodeObservation_payload {observation : WrittenObservation} {digest : String}
    (h : observation.val.toObservationContent.Printable)
    (hdigest : observation.val.toObservationContent.contentSha256 env.sha256 = .ok digest) :
    decodeObservation env (.obj (sortedObject (observation.val.toObservationContent.payload ++
      [("created_at", .str observation.val.createdAt.isoformat),
        ("content_sha256", .str digest)]))) =
      .ok (ExecutionObservation.map DecimalTuple.value_reread observation) := by
  have hexact := exact_append h observation.val.createdAt.isoformat digest
  obtain ⟨content, hcontent⟩ : ∃ content, content = observation.val.toObservationContent := ⟨_, rfl⟩
  rw [← hcontent] at h hdigest hexact ⊢
  obtain ⟨members, hmembers⟩ : ∃ members, members = content.payload ++
      [("created_at", Json.str observation.val.createdAt.isoformat),
        ("content_sha256", Json.str digest)] := ⟨_, rfl⟩
  rw [← hmembers] at hexact ⊢
  have hmem : ∀ m ∈ content.payload, m ∈ members := by
    intro m hm
    rw [hmembers]
    exact List.mem_append_left _ hm
  simp only [ObservationContent.payload, List.forall_mem_cons] at hmem
  obtain ⟨hschema, hidentities, hdecisions, hplans, hequity, horders, hblockers, htargets, hfills,
    hactual, hhypothetical, hsubmits, hcancels, hrejections, hunknowns, hexternal, horderTwice,
    hfillTwice, hquality, -⟩ := hmem
  have hchecks := firstViolation_eq_none.mp observation.property
  simp only [ObservationContent.recordChecks, List.cons_append, List.forall_mem_cons] at hchecks
  obtain ⟨hdecision, hplan, -⟩ := hchecks
  have hidentity : decodeIdentity env (get (sortedObject members) "identity") =
      .ok content.identity := by
    rw [get_sorted hexact hidentities]
    exact decodeIdentity_payload content.identity
  have hobservation : constructObservation (content.map DecimalTuple.value_reread)
      (some observation.val.createdAt) =
        .ok (ExecutionObservation.map DecimalTuple.value_reread observation) := by
    rw [hcontent]
    exact construct_val (ExecutionObservation.map DecimalTuple.value_reread observation)
  unfold decodeObservation
  rw [mapping_obj, ok_bind,
    refuse_get hexact hschema, ok_bind, text_get (s := observation.val.createdAt.isoformat) hexact
      (text_isoformat_time _) (by rw [hmembers]; simp), createdAt_isoformat, ok_bind,
        hidentity, ok_bind,
    text_get hexact (text_of_violation (hcontent ▸ hdecision)) hdecisions,
    text_get hexact (text_of_violation (hcontent ▸ hplan)) hplans,
    decimal_get hexact hequity,
    array_decode hexact horders fun item hitem => decodeOrder_payload (h.orders item hitem),
    array_decode hexact hblockers fun item _ => decodePlanningBlocker_payload item,
    array_decode hexact htargets fun item hitem => decodeTarget_payload (h.targets item hitem),
    array_decode hexact hfills fun item hitem => decodeFill_payload (h.fills item hitem),
    array_decode hexact hactual fun item hitem => decodePosition_payload (h.actual item hitem),
    array_decode hexact hhypothetical fun item hitem =>
      decodePosition_payload (h.hypothetical item hitem),
    integer_get hexact hsubmits, integer_get hexact hcancels,
    integer_get hexact hrejections, integer_get hexact hunknowns,
    integer_get hexact hexternal, integer_get hexact horderTwice,
    integer_get hexact hfillTwice, integer_get hexact hquality, List.map_id',
    List.map_id', List.map_id']
  refine bind_ok_iff.mpr ⟨_, hobservation, bind_ok_iff.mpr ⟨digest, ?_, ?_⟩⟩
  · have hsame := (contentSha256_reread env.sha256 content).trans hdigest
    rw [hcontent] at hsame
    exact congrArg (Except.mapError PromotionError.ledger) hsame
  · refine bind_ok_iff.mpr ⟨⟨⟩, refuse_get hexact ?_, rfl⟩
    rw [hmembers]
    simp

end Reading

end PromotionStore

end Evidence

end FirmQuant
