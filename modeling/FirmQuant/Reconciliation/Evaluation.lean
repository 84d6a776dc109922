import FirmQuant.Persistence.AuditLedger
import FirmQuant.Reconciliation.AccountPreflight
import Mathlib.Data.Finset.Sort
import Mathlib.Data.String.Basic

/-!
# The reconciliation of the three views

`ReconciliationService.evaluate` of `reconciliation/service.py`, with the views of
`reconciliation/models.py`.

The loops add to a set of blockers and to a list of evidence hashes, of which only the set is used;
a comparison returns what it adds.  An evidence hash is taken by what it hashes until it is sorted.
-/

namespace FirmQuant

namespace Reconciliation

/-! ## The views -/

/-- `ExpectedPosition`. -/
structure ExpectedPosition where
  symbol : Symbol
  totalShares : ℕ
  sellableShares : ℕ
  total_pos : 0 < totalShares
  sellable_le_total : sellableShares ≤ totalShares

/-- `StrategyAccountView`. -/
structure StrategyAccountView where
  availableCash : Money
  totalAssets : Money
  positions : List ExpectedPosition
  knownUquantOrderIds : List String
  economicStateSha256 : Digest
  cash_le_assets : availableCash.value ≤ totalAssets.value
  symbols_nodup : (positions.map (·.symbol)).Nodup

/-- An `OperationalOrderView`, with the columns that the preflight does not read. -/
structure OperationalOrder extends OperationalOrderView where
  filledShares : ℕ
  localState : OrderState
  requested_pos : 0 < requestedShares
  filled_le_requested : filledShares ≤ requestedShares

/-- An `OperationalLedgerView`, with the columns that the preflight does not read. -/
structure OperationalLedger where
  expectedAccountIdHash : String
  expectedAccountType : AccountType
  orders : List OperationalOrder
  knownBrokerFillIds : List String
  unresolvedExecutionIds : List ExecutionId
  submittingUnresolvedExecutionIds : List ExecutionId
  orders_nodup : (orders.map (·.brokerOrderId)).Nodup

/-- `ReconciliationFacts`, with what `BrokerSnapshot` checks of its tuples. -/
structure ReconciliationFacts where
  brokerSnapshot : CapturedSnapshot
  strategyAccount : StrategyAccountView
  operationalLedger : OperationalLedger
  companyActionSuspectedSymbols : List Symbol
  uquantCodeIdentityMatches : Bool
  dataIdentityMatches : Bool
  configIdentityMatches : Bool
  positions_nodup : (brokerSnapshot.positions.map (·.symbol)).Nodup
  orders_nodup : (brokerSnapshot.orders.map (·.brokerOrderId)).Nodup
  fills_nodup : (brokerSnapshot.fills.map (·.brokerFillId)).Nodup

/-! ## The comparisons -/

/-- What `_evidence_hash` hashes. -/
inductive Evidence
  | availableCash (difference : ℚ)
  | totalAssets (difference : ℚ)
  | positionTotal (symbol : Symbol) (broker expected : ℕ)
  | positionSellable (symbol : Symbol) (broker expected : ℕ)
  | externalOrder (brokerOrderId : String)
  | missingSystemOrder (brokerOrderId : String)
  | orderIdentity (brokerOrderId : String) (rawPayloadSha256 : Digest)
  | unmappedFill (brokerFillId : String)

/-- A blocker that is added, or evidence that is appended. -/
inductive Finding
  | blocker (code : String)
  | evidence (value : Evidence)

/-- The findings of a branch that is taken on a condition. -/
def found (c : Prop) [Decidable c] (findings : List Finding) : List Finding :=
  if c then findings else []

/-- `_BROKER_ACTIVE`. -/
def brokerActive : List BrokerOrderStatus :=
  [.pendingNew, .acknowledged, .partiallyFilled, .pendingCancel, .unknown]

/-- `_BROKER_FOR_LOCAL_TERMINAL`, whose keys are `_LOCAL_TERMINAL`. -/
def brokerForLocalTerminal : OrderState → Option BrokerOrderStatus
  | .filled => some .filled
  | .cancelled => some .cancelled
  | .rejected => some .rejected
  | .expired => some .expired
  | _ => none

namespace ReconciliationFacts

variable (facts : ReconciliationFacts)

/-- `_compare_identity`. -/
def compareIdentity : List Finding :=
  let account := facts.brokerSnapshot.account
  let ledger := facts.operationalLedger
  found (account.accountIdHash ≠ ledger.expectedAccountIdHash)
    [.blocker "ACCOUNT_IDENTITY_CHANGED"] ++
  found (account.accountType ≠ ledger.expectedAccountType) [.blocker "ACCOUNT_TYPE_CHANGED"] ++
  found (¬ facts.uquantCodeIdentityMatches) [.blocker "UQUANT_CODE_IDENTITY_DRIFT"] ++
  found (¬ facts.dataIdentityMatches) [.blocker "DATA_HISTORY_REWRITE"] ++
  found (¬ facts.configIdentityMatches) [.blocker "CONFIG_IDENTITY_DRIFT"] ++
  found (facts.companyActionSuspectedSymbols ≠ []) [.blocker "CORPORATE_ACTION_SUSPECTED"]

/-- `cash_difference` of `_compare_cash`. -/
def cashDifference : ℚ :=
  |facts.brokerSnapshot.account.availableCash.value - facts.strategyAccount.availableCash.value|

/-- `asset_difference` of `_compare_cash`. -/
def assetDifference : ℚ :=
  |facts.brokerSnapshot.account.totalAssets.value - facts.strategyAccount.totalAssets.value|

/-- `_compare_cash`. -/
def compareCash (tolerance : Money) : List Finding :=
  found (tolerance.value < facts.cashDifference)
    [.blocker "AVAILABLE_CASH_MISMATCH", .evidence (.availableCash facts.cashDifference)] ++
  found (tolerance.value < facts.assetDifference)
    [.blocker "TOTAL_ASSETS_MISMATCH", .evidence (.totalAssets facts.assetDifference)]

/-- The total and the sellable shares of a symbol at the broker. -/
def brokerShares (symbol : Symbol) : ℕ × ℕ :=
  match facts.brokerSnapshot.positions.find? (·.symbol = symbol) with
  | none => (0, 0)
  | some position => (position.totalShares, position.sellableShares)

/-- The total and the sellable shares of a symbol that the strategy expects. -/
def expectedShares (symbol : Symbol) : ℕ × ℕ :=
  match facts.strategyAccount.positions.find? (·.symbol = symbol) with
  | none => (0, 0)
  | some position => (position.totalShares, position.sellableShares)

/-- The symbols of both views, sorted. -/
def symbols : List Symbol :=
  (facts.brokerSnapshot.positions.map (·.symbol) ++
    facts.strategyAccount.positions.map (·.symbol)).dedup.insertionSort
      fun a b => a.canonical ≤ b.canonical

/-- One turn of the loop of `_compare_positions`. -/
def comparePosition (symbol : Symbol) : List Finding :=
  let broker := facts.brokerShares symbol
  let expected := facts.expectedShares symbol
  found (broker.1 ≠ expected.1) [.blocker "POSITION_SHARE_MISMATCH",
    .blocker "UNEXPLAINED_POSITION_CHANGE",
    .evidence (.positionTotal symbol broker.1 expected.1)] ++
  found (broker.2 ≠ expected.2) [.blocker "SELLABLE_SHARE_MISMATCH",
    .blocker "UNEXPLAINED_POSITION_CHANGE",
    .evidence (.positionSellable symbol broker.2 expected.2)]

/-- `local_orders.get`. -/
def localOrder (brokerOrderId : String) : Option OperationalOrder :=
  facts.operationalLedger.orders.find? (·.brokerOrderId = brokerOrderId)

/-- The identity that `_compare_mapped_order` asks for. -/
def SameIdentity (known : OperationalOrder) (order : BrokerOrderFact) : Prop :=
  order.clientOrderId = some known.uquantOrderId ∧ order.symbol = known.symbol ∧
    order.side = known.side ∧ order.requestedShares = known.requestedShares

instance (known : OperationalOrder) (order : BrokerOrderFact) :
    Decidable (SameIdentity known order) := by
  delta SameIdentity
  infer_instance

/-- The last branch of `_compare_mapped_order`. -/
def compareState (known : OperationalOrder) (order : BrokerOrderFact) : List Finding :=
  match brokerForLocalTerminal known.localState with
  | some expected =>
    if order.status = expected then []
    else if order.status ∈ brokerActive then [.blocker "LOCAL_TERMINAL_BROKER_ACTIVE"]
    else [.blocker "ORDER_TERMINAL_STATE_MISMATCH"]
  | none => found (order.status ∉ brokerActive) [.blocker "ORDER_STATE_MISMATCH"]

/-- `_compare_mapped_order`. -/
def compareMappedOrder (known : OperationalOrder) (order : BrokerOrderFact) : List Finding :=
  found (¬ SameIdentity known order) [.blocker "BROKER_ORDER_IDENTITY_MISMATCH",
    .evidence (.orderIdentity known.brokerOrderId order.rawPayloadSha256)] ++
  found (known.uquantOrderId ∉ facts.strategyAccount.knownUquantOrderIds)
    [.blocker "BROKER_ORDER_WITHOUT_UQUANT_INTENT"] ++
  found (order.status = .unknown) [.blocker "BROKER_ORDER_UNKNOWN"] ++
  found (order.filledShares ≠ known.filledShares) [.blocker "ORDER_FILLED_SHARES_MISMATCH"] ++
  found (known.localState = .unknown) [.blocker "UNRESOLVED_LOCAL_ORDER"] ++
  compareState known order

/-- One turn of the first loop of `_compare_orders`. -/
def compareBrokerOrder (order : BrokerOrderFact) : List Finding :=
  match facts.localOrder order.brokerOrderId with
  | some known => facts.compareMappedOrder known order
  | none => [.blocker "EXTERNAL_BROKER_ORDER"] ++
      found (order.status ∈ brokerActive) [.blocker "EXTERNAL_ACTIVE_ORDER"] ++
      [.evidence (.externalOrder order.brokerOrderId)]

/-- One turn of the second loop of `_compare_orders`. -/
def compareLocalOrder (known : OperationalOrder) : List Finding :=
  found ((∀ order ∈ facts.brokerSnapshot.orders, order.brokerOrderId ≠ known.brokerOrderId) ∧
      known.localState ∉ [OrderState.planned, .validated, .armed])
    [.blocker "SYSTEM_ORDER_MISSING_AT_BROKER", .evidence (.missingSystemOrder known.brokerOrderId)]

/-- The order of a fill is one of the ledger, with an id that the strategy knows. -/
def Mapped (fill : BrokerFillFact) : Prop :=
  ∃ known ∈ facts.localOrder fill.brokerOrderId,
    known.uquantOrderId ∈ facts.strategyAccount.knownUquantOrderIds

instance (fill : BrokerFillFact) : Decidable (facts.Mapped fill) := by
  delta Mapped
  infer_instance

/-- One turn of the loop of `_compare_fills`. -/
def compareFill (fill : BrokerFillFact) : List Finding :=
  found (¬ facts.Mapped fill)
    [.blocker "UNMAPPED_BROKER_FILL", .evidence (.unmappedFill fill.brokerFillId)] ++
  found (fill.status ≠ .confirmed) [.blocker "BROKER_FILL_NOT_CONFIRMED"] ++
  found (fill.brokerFillId ∉ facts.operationalLedger.knownBrokerFillIds)
    [.blocker "BROKER_FILL_NOT_INGESTED"]

/-- `_compare_fills`. -/
def compareFills : List Finding :=
  facts.brokerSnapshot.fills.flatMap facts.compareFill ++
  found (¬ facts.operationalLedger.knownBrokerFillIds ⊆
      facts.brokerSnapshot.fills.map (·.brokerFillId)) [.blocker "LOCAL_FILL_MISSING_AT_BROKER"]

/-- `_compare_operational_health`. -/
def compareOperationalHealth : List Finding :=
  found (facts.operationalLedger.unresolvedExecutionIds ≠ []) [.blocker "UNRESOLVED_LOCAL_ORDER"] ++
  found (facts.operationalLedger.submittingUnresolvedExecutionIds ≠ [])
    [.blocker "SUBMITTING_UNRESOLVED"]

/-- The comparisons of `evaluate`, one after the other. -/
def findings (tolerance : Money) : List Finding :=
  facts.compareIdentity ++ facts.compareCash tolerance ++
  facts.symbols.flatMap facts.comparePosition ++
  facts.brokerSnapshot.orders.flatMap facts.compareBrokerOrder ++
  facts.operationalLedger.orders.flatMap facts.compareLocalOrder ++
  facts.compareFills ++ facts.compareOperationalHealth

end ReconciliationFacts

/-! ## The receipt -/

/-- `sorted(set(values))`. -/
def sortedTexts (values : List String) : List String := values.toFinset.sort (· ≤ ·)

/-- An action that one of some blockers asks for. -/
def action (blockers : List String) (name : String) (triggers : List String) : List String :=
  if ∃ blocker ∈ triggers, blocker ∈ blockers then [name] else []

/-- `_operator_actions`. -/
def operatorActions (blockers : List String) : List String :=
  action blockers "REVIEW_EXTERNAL_BROKER_ACTIVITY"
    ["EXTERNAL_BROKER_ORDER", "EXTERNAL_ACTIVE_ORDER"] ++
  action blockers "INVESTIGATE_UNKNOWN_BROKER_ACTIVITY"
    ["UNMAPPED_BROKER_FILL", "BROKER_FILL_NOT_INGESTED", "BROKER_ORDER_UNKNOWN",
      "SYSTEM_ORDER_MISSING_AT_BROKER"] ++
  action blockers "VERIFY_COMPANY_ACTION_WITH_BROKER" ["CORPORATE_ACTION_SUSPECTED"] ++
  action blockers "RECONCILE_ACCOUNT_STATE_EXPLICITLY"
    ["AVAILABLE_CASH_MISMATCH", "TOTAL_ASSETS_MISMATCH", "POSITION_SHARE_MISMATCH",
      "SELLABLE_SHARE_MISMATCH", "UNEXPLAINED_POSITION_CHANGE"] ++
  action blockers "RESTORE_AND_VERIFY_LOCKED_IDENTITY"
    ["UQUANT_CODE_IDENTITY_DRIFT", "DATA_HISTORY_REWRITE", "CONFIG_IDENTITY_DRIFT"]

/-- `details` of `evaluate`.  The id of a snapshot is a function of its digest. -/
structure Details where
  kind : ReconciliationKind
  brokerSnapshotSha256 : SnapshotPayload
  strategyEconomicStateSha256 : Digest
  expectedAccountIdentityHash : String
  brokerEventWatermark : ℕ
  brokerOrderCount : ℕ
  brokerFillCount : ℕ
  brokerPositionCount : ℕ
  blockers : List String
  operatorActions : List String
  evidenceSha256 : List String

variable (evidenceHash : Evidence → String) (canonicalJson : Details → String)

/-- The blockers among findings. -/
def blockersOf (findings : List Finding) : List String :=
  sortedTexts (findings.filterMap fun
    | .blocker code => some code
    | .evidence _ => none)

/-- `details` of `evaluate`. -/
def details (kind : ReconciliationKind) (facts : ReconciliationFacts) (findings : List Finding) :
    Details where
  kind := kind
  brokerSnapshotSha256 := facts.brokerSnapshot.rawPayloadSha256
  strategyEconomicStateSha256 := facts.strategyAccount.economicStateSha256
  expectedAccountIdentityHash := facts.operationalLedger.expectedAccountIdHash
  brokerEventWatermark := facts.brokerSnapshot.brokerEventWatermark
  brokerOrderCount := facts.brokerSnapshot.orders.length
  brokerFillCount := facts.brokerSnapshot.fills.length
  brokerPositionCount := facts.brokerSnapshot.positions.length
  blockers := blockersOf findings
  operatorActions := sortedTexts (operatorActions (blockersOf findings))
  evidenceSha256 := sortedTexts (findings.filterMap fun
    | .blocker _ => none
    | .evidence value => some (evidenceHash value))

/-- `evaluate`, with the two readings of the clock. -/
def evaluate (tolerance : Money) (kind : ReconciliationKind) (facts : ReconciliationFacts)
    (startedAt completedAt : DateTime) : Except Failure ReconciliationReceipt :=
  let details := details evidenceHash kind facts (facts.findings tolerance)
  if completedAt < startedAt then
    .error (.domainValidationError "reconciliation completed before it started")
  else .ok ⟨⟨kind, canonicalJson details, startedAt, completedAt⟩, details.blockers⟩

end Reconciliation

end FirmQuant
