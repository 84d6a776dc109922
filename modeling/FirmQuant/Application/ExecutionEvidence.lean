import Mathlib.Algebra.Order.Field.Rat
import Mathlib.Data.Rat.Defs
import FirmQuant.Domain.Text
import FirmQuant.Foundation.Checked
import FirmQuant.Foundation.Effect

/-!
# Execution evidence

The observations of `application/execution_evidence.py`: what one SHADOW or CANARY session planned,
filled and held.  A part of an observation is a record that passed the checks of its constructor.

The types of decimals, dates and times are parameters.  Where an observation is built only the
values of its decimals matter; where it is written and read back their texts do.  A count is a
natural number, which is all that `_count` lets pass.
-/

namespace FirmQuant

/-- A type of decimals, which have values. -/
class Valued (δ : Type) where
  value : δ → ℚ

instance : Valued ℚ := ⟨id⟩

namespace Evidence

/-! ## Checks -/

/-- The stages. -/
inductive EvidenceStage
  | shadow | canary
  deriving DecidableEq, Repr

/-- The codes of blockers. -/
inductive BlockerCode
  | targetAlreadySatisfied | nonTradable | priceLimit | volumeLimit | staleQuote
  | insufficientCash | incompleteSell | unknown | externalActivity
  deriving DecidableEq, Repr

/-- `_digest`, for a digest of `n` characters. -/
def digestViolation (n : ℕ) (label value : String) : Option String :=
  if value.length = n ∧ value.toList.all fun c => c.isDigit || ('a' ≤ c && c ≤ 'f') then none
  else some (label ++ " must be a canonical lowercase digest")

/-- A digest of one letter. -/
def hexText (n : ℕ) : String := String.ofList (List.replicate n 'a')

lemma digestViolation_hexText (n : ℕ) (label : String) :
    digestViolation n label (hexText n) = none := by
  unfold digestViolation hexText
  refine if_pos ⟨?_, ?_⟩
  · rw [String.length_ofList, List.length_replicate]
  · rw [String.toList_ofList, List.all_replicate]
    split <;> decide

/-- `_text`. -/
def textViolation (label value : String) : Option String :=
  if value = "" ∨ strip value.toList ≠ value.toList then
    some (label ++ " must be non-empty canonical text")
  else if ∃ c ∈ value.toList, c.toNat < 32 ∨ c.toNat = 127 then
    some (label ++ " contains control characters")
  else none

/-- `_text` of a text that may be missing. -/
def optionalTextViolation (label : String) (value : Option String) : Option String :=
  value.bind (textViolation label)

/-- `_decimal` with its minimum. -/
def decimalViolation {δ : Type} [Valued δ] (label : String) (value : δ) : Option String :=
  if Valued.value value < 0 then some (label ++ " is below its permitted bound") else none

/-- `_decimal` of a positive number. -/
def positiveViolation {δ : Type} [Valued δ] (label : String) (value : δ) : Option String :=
  if Valued.value value ≤ 0 then some (label ++ " is below its permitted bound") else none

/-- `_decimal` of a weight. -/
def weightViolation {δ : Type} [Valued δ] (label : String) (value : δ) : Option String :=
  if Valued.value value < 0 then some (label ++ " is below its permitted bound")
  else if 1 < Valued.value value then some (label ++ " exceeds its permitted bound")
  else none

/-- The check of a side. -/
def sideViolation (message value : String) : Option String :=
  if value = "BUY" ∨ value = "SELL" then none else some message

/-- A check that raises a text. -/
def refusal (c : Prop) [Decidable c] (message : String) : Option String :=
  if c then some message else none

/-! ## Identity -/

/-- The identity that one immutable observation of a session has. -/
structure StableIdentity (τ : Type) where
  stage : EvidenceStage
  executionSession : τ
  firmquantCommit : String
  uquantCommit : String
  promotionConfigSha256 : String
  accountSha256 : String
  deriving DecidableEq

/-- The fields of an `EvidenceIdentity`. -/
structure IdentityFields (τ : Type) extends StableIdentity τ where
  dataSha256 : String
  calendarSha256 : String
  deriving DecidableEq

/-- The checks of `EvidenceIdentity`. -/
def IdentityFields.violation {τ : Type} (identity : IdentityFields τ) : Option String :=
  firstViolation [
    digestViolation 40 "firmquant commit" identity.firmquantCommit,
    digestViolation 40 "uquant commit" identity.uquantCommit,
    digestViolation 64 "promotion configuration SHA-256" identity.promotionConfigSha256,
    digestViolation 64 "account SHA-256" identity.accountSha256,
    digestViolation 64 "data SHA-256" identity.dataSha256,
    digestViolation 64 "calendar SHA-256" identity.calendarSha256]

/-- An `EvidenceIdentity`. -/
abbrev EvidenceIdentity (τ : Type) := Checked (IdentityFields.violation (τ := τ))

/-! ## The parts of an observation -/

/-- The fields of a `PlanningBlockerObservation`. -/
structure PlanningBlockerFields where
  uquantOrderId : String
  symbol : String
  reasonCode : String
  deriving DecidableEq

/-- The checks of `PlanningBlockerObservation`. -/
def PlanningBlockerFields.violation (blocker : PlanningBlockerFields) : Option String :=
  firstViolation [
    textViolation "planning blocker order id" blocker.uquantOrderId,
    textViolation "planning blocker symbol" blocker.symbol,
    textViolation "planning blocker reason code" blocker.reasonCode]

/-- A `PlanningBlockerObservation`. -/
abbrev PlanningBlockerObservation := Checked PlanningBlockerFields.violation

/-- The fields of an `OrderObservation`. -/
structure OrderFields (δ : Type) where
  executionId : String
  uquantOrderId : String
  symbol : String
  side : String
  plannedShares : ℕ
  filledShares : ℕ
  referencePrice : δ
  blocker : Option BlockerCode
  deriving DecidableEq

/-- The checks of `OrderObservation`. -/
def OrderFields.violation {δ : Type} [Valued δ] (order : OrderFields δ) : Option String :=
  firstViolation [
    textViolation "execution id" order.executionId,
    textViolation "uquant order id" order.uquantOrderId,
    textViolation "order symbol" order.symbol,
    sideViolation "order side must be BUY or SELL" order.side,
    refusal (order.plannedShares = 0) "planned shares must be positive",
    refusal (order.plannedShares < order.filledShares) "filled shares exceed planned shares",
    positiveViolation "order reference price" order.referencePrice]

/-- An `OrderObservation`. -/
abbrev OrderObservation (δ : Type) [Valued δ] := Checked (OrderFields.violation (δ := δ))

/-- `unfilled_shares`. -/
def OrderFields.unfilledShares {δ : Type} (order : OrderFields δ) : ℕ :=
  order.plannedShares - order.filledShares

/-- The fields of a `TargetObservation`. -/
structure TargetFields (δ : Type) where
  symbol : String
  targetShares : ℕ
  targetWeight : δ
  referencePrice : δ
  deriving DecidableEq

/-- The checks of `TargetObservation`. -/
def TargetFields.violation {δ : Type} [Valued δ] (target : TargetFields δ) : Option String :=
  firstViolation [
    textViolation "target symbol" target.symbol,
    weightViolation "target weight" target.targetWeight,
    positiveViolation "target reference price" target.referencePrice]

/-- A `TargetObservation`. -/
abbrev TargetObservation (δ : Type) [Valued δ] := Checked (TargetFields.violation (δ := δ))

/-- The fields of a `FillObservation`. -/
structure FillFields (δ : Type) where
  fillId : Option String
  executionId : String
  symbol : String
  side : String
  shares : ℕ
  price : δ
  commission : δ
  stampDuty : δ
  transferFee : δ
  slippage : δ
  deriving DecidableEq

/-- The checks of `FillObservation`. -/
def FillFields.violation {δ : Type} [Valued δ] (fill : FillFields δ) : Option String :=
  firstViolation [
    optionalTextViolation "fill id" fill.fillId,
    textViolation "fill execution id" fill.executionId,
    textViolation "fill symbol" fill.symbol,
    sideViolation "fill side must be BUY or SELL" fill.side,
    refusal (fill.shares = 0) "fill shares must be positive",
    positiveViolation "fill price" fill.price,
    decimalViolation "commission" fill.commission,
    decimalViolation "stamp duty" fill.stampDuty,
    decimalViolation "transfer fee" fill.transferFee,
    decimalViolation "slippage" fill.slippage]

/-- A `FillObservation`. -/
abbrev FillObservation (δ : Type) [Valued δ] := Checked (FillFields.violation (δ := δ))

/-- The fields of a `PositionObservation`. -/
structure PositionFields where
  symbol : String
  shares : ℕ
  deriving DecidableEq

/-- The checks of `PositionObservation`. -/
def PositionFields.violation (position : PositionFields) : Option String :=
  textViolation "position symbol" position.symbol

/-- A `PositionObservation`. -/
abbrev PositionObservation := Checked PositionFields.violation

/-! ## Observations -/

/-- What `content_payload` renders. -/
structure ObservationContent (δ τ : Type) [Valued δ] where
  identity : EvidenceIdentity τ
  decisionId : String
  planId : String
  portfolioEquity : δ
  plannedOrders : List (OrderObservation δ)
  planningBlockers : List PlanningBlockerObservation
  targets : List (TargetObservation δ)
  fills : List (FillObservation δ)
  actualEndingPositions : List PositionObservation
  hypotheticalEndingPositions : List PositionObservation
  submitCount : ℕ
  cancelCount : ℕ
  rejectionCount : ℕ
  unknownCount : ℕ
  externalActivity : ℕ
  duplicateEconomicOrders : ℕ
  duplicateFills : ℕ
  dataQualityFailures : ℕ
  deriving DecidableEq

/-- The fields of an `ExecutionObservation`. -/
structure ObservationFields (δ τ ω : Type) [Valued δ] extends ObservationContent δ τ where
  createdAt : ω
  deriving DecidableEq

namespace ObservationContent

variable {δ τ : Type} [Valued δ] (content : ObservationContent δ τ)

/-- The positions in which the session ended, by its stage. -/
def endingPositions : List PositionObservation :=
  match content.identity.val.stage with
  | .shadow => content.hypotheticalEndingPositions
  | .canary => content.actualEndingPositions

/-- The ids of the fills. -/
def fillIds : List String := content.fills.filterMap (·.val.fillId)

/-- The ending positions are covered by targets. -/
def Covered : Prop :=
  ∀ position ∈ content.endingPositions,
    position.val.symbol ∈ content.targets.map (·.val.symbol)

instance : Decidable content.Covered := by
  unfold Covered
  infer_instance

/-- The checks of the stage. -/
def stageViolation : Option String :=
  match content.identity.val.stage with
  | .shadow => firstViolation [
      refusal (content.submitCount ≠ 0 ∨ content.cancelCount ≠ 0)
        "SHADOW observation cannot contain broker write calls",
      refusal (∃ fill ∈ content.fills, fill.val.fillId ≠ none)
        "SHADOW fills must remain hypothetical"]
  | .canary => firstViolation [
      refusal (∃ fill ∈ content.fills, fill.val.fillId = none)
        "CANARY fills require real broker fill identifiers",
      refusal (content.fills ≠ [] ∧ content.submitCount = 0)
        "CANARY fills require a real submit count"]

/-- The checks of `ExecutionObservation` before that of its time. -/
def recordChecks : List (Option String) := [
  textViolation "decision id" content.decisionId,
  textViolation "plan id" content.planId,
  positiveViolation "portfolio equity" content.portfolioEquity,
  refusal (¬ (content.targets.map (·.val.symbol)).Nodup) "targets contain duplicate symbols",
  refusal (¬ (content.actualEndingPositions.map (·.val.symbol)).Nodup)
    "actual ending positions contain duplicate symbols",
  refusal (¬ (content.hypotheticalEndingPositions.map (·.val.symbol)).Nodup)
    "hypothetical ending positions contain duplicate symbols",
  refusal (¬ (content.plannedOrders.map (·.val.executionId)).Nodup)
    "planned orders contain duplicate execution ids",
  refusal (¬ content.fillIds.Nodup) "observation contains duplicate fill ids"]

/-- The checks of `ExecutionObservation`. -/
def violation : Option String :=
  firstViolation (content.recordChecks ++ [
    refusal (¬ content.Covered) "ending positions must be covered by explicit targets",
    content.stageViolation])

end ObservationContent

/-- The checks of `ExecutionObservation`. -/
def ObservationFields.violation {δ τ ω : Type} [Valued δ] (fields : ObservationFields δ τ ω) :
    Option String :=
  fields.toObservationContent.violation

/-- An `ExecutionObservation`. -/
abbrev ExecutionObservation (δ τ ω : Type) [Valued δ] :=
  Checked (ObservationFields.violation (δ := δ) (τ := τ) (ω := ω))

end Evidence

end FirmQuant
