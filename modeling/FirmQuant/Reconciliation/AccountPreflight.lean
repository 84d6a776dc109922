import FirmQuant.Application.WriteContext
import FirmQuant.Domain.Text
import FirmQuant.Persistence.AccountBinding

/-!
# The account preflight

`evaluate_account_preflight` of `reconciliation/account_preflight.py` with the review repository of
`persistence/account_authority.py` and the snapshot payload of `broker/production_snapshot.py`.

A digest is taken by what it hashes.  The digest of a snapshot therefore is its payload, and that of
an account difference is the record of its fields.
-/

namespace FirmQuant

open Effect

/-! ## Captured snapshots -/

/-- What `_snapshot_payload` holds, and its digest hashes. -/
structure SnapshotPayload where
  capturedAt : DateTime
  accountIdHash : String
  accountType : AccountType
  availableCash : Money
  totalAssets : Money
  positions : List (Symbol × ℕ × ℕ × Option Price × Money)
  orderPayloadSha256 : List Digest
  fillPayloadSha256 : List Digest
  quantitySignature : QuantitySignature
  deriving DecidableEq

/-- `_snapshot_payload`. -/
def SnapshotRead.payload (read : SnapshotRead) (capturedAt : DateTime) : SnapshotPayload where
  capturedAt := capturedAt
  accountIdHash := read.account.accountIdHash
  accountType := read.account.accountType
  availableCash := read.account.availableCash
  totalAssets := read.account.totalAssets
  positions := read.sortedPositions.map fun item =>
    (item.symbol, item.totalShares, item.sellableShares, item.averageCost, item.marketValue)
  orderPayloadSha256 := read.sortedOrders.map (·.rawPayloadSha256)
  fillPayloadSha256 := read.sortedFills.map (·.rawPayloadSha256)
  quantitySignature := read.quantitySignature

/-- A snapshot with its digest, `raw_payload_sha256`. -/
structure CapturedSnapshot extends BrokerSnapshot where
  rawPayloadSha256 : SnapshotPayload

/-- The snapshot that `ProductionSnapshotCollector.capture` makes of a stable read. -/
def SnapshotRead.capture (read : SnapshotRead) (capturedAt : DateTime) : CapturedSnapshot where
  account := read.account
  positions := read.sortedPositions
  orders := read.sortedOrders
  fills := read.sortedFills
  sessionDate := shanghaiDate capturedAt
  capturedAt := capturedAt
  brokerEventWatermark :=
    (read.orders.map (·.eventSequence) ++ read.fills.map (·.eventSequence)).foldl max 0
  rawPayloadSha256 := read.payload capturedAt

/-! ## The strategy account and the operational ledger -/

/-- A position of the strategy account, with the shares that may be sold on a day. -/
structure AccountPosition where
  symbol : String
  shares : ℤ
  sellableShares : Date → ℤ

/-- An order of the strategy account. -/
structure AccountOrder where
  orderId : String
  symbol : String
  side : String

/-- The parts of the uquant `AccountState` that the preflight reads.  A fill without an id that is a
text is `none`. -/
structure AccountState where
  cash : ℚ
  positions : List AccountPosition
  orderLedger : List AccountOrder
  fills : List (Option String)

/-- An `OperationalOrderView`, as far as the preflight reads it. -/
structure OperationalOrderView where
  brokerOrderId : String
  uquantOrderId : String
  symbol : Symbol
  side : Side
  requestedShares : ℕ

/-- An `OperationalLedgerView`, as far as the preflight reads it. -/
structure OperationalLedgerView where
  expectedAccountIdHash : String
  expectedAccountType : AccountType
  orders : List OperationalOrderView
  knownBrokerFillIds : List String

/-- `Side.value`. -/
def sideText : Side → String
  | .buy => "BUY"
  | .sell => "SELL"

/-! ## Reviewed differences -/

/-- `AdjustmentCoverage`. -/
inductive AdjustmentCoverage
  | availableCash | totalAssets | positionTotalShares | positionSellableShares
  deriving DecidableEq, Repr

/-- A side of a difference, a `Decimal` or an integer. -/
inductive DifferenceValue
  | decimal (q : ℚ)
  | int (n : ℕ)
  deriving DecidableEq

/-- What `account_difference_sha256` hashes. -/
structure AccountDifference where
  accountIdHash : String
  symbol : Option Symbol
  session : Date
  coverage : AdjustmentCoverage
  brokerSnapshotSha256 : SnapshotPayload
  expected : DifferenceValue
  observed : DifferenceValue
  deriving DecidableEq

/-- A `ReviewedAccountAdjustment`.  Its id is a function of these fields. -/
structure ReviewedAccountAdjustment where
  accountIdHash : String
  symbol : Symbol
  session : Date
  adjustmentType : String
  coverage : AdjustmentCoverage
  brokerSnapshotSha256 : SnapshotPayload
  differenceSha256 : AccountDifference
  auditSummarySha256 : Digest
  createdAt : DateTime
  deriving DecidableEq

/-- The stored adjustments, `reviewed_account_adjustments`. -/
abbrev ReviewedAdjustments := List ReviewedAccountAdjustment

/-- The rows that `matching_ids` selects for a difference.  Without a symbol it asks for none. -/
def ReviewedAdjustments.matching (rows : ReviewedAdjustments) (d : AccountDifference) :
    ReviewedAdjustments :=
  rows.filter fun row => row.accountIdHash = d.accountIdHash ∧ row.session = d.session ∧
    row.coverage = d.coverage ∧ row.brokerSnapshotSha256 = d.brokerSnapshotSha256 ∧
    row.differenceSha256 = d ∧ ∀ symbol ∈ d.symbol, row.symbol = symbol

/-- `_matching_review_ids`.  The digest of the difference refuses an account that is not named by a
digest. -/
def matchingReviewIds (repository : Option ReviewedAdjustments) (d : AccountDifference) :
    Except Failure ReviewedAdjustments :=
  match repository with
  | none => .ok []
  | some rows =>
    if isSha256 d.accountIdHash then .ok (rows.matching d)
    else .error (.domainValidationError
      "account difference account identity must be lowercase SHA-256")

/-! ## Blockers -/

/-- What blocks a preflight. -/
inductive PreflightBlocker
  | accountIdentityChanged
  | accountTypeChanged
  | brokerFillIdentityMismatch
  | brokerFillWithoutUquantIntent
  | brokerOrderIdentityMismatch
  | corporateActionSuspected
  | externalBrokerOrder
  | reviewedAccountStateRequired
  | systemFillContradictsAccountState
  | unexplainedCashChange
  | unexplainedPositionChange
  | unmappedBrokerFill
  deriving DecidableEq, Repr

/-- The blockers in the order of their texts. -/
def PreflightBlocker.all : List PreflightBlocker :=
  [accountIdentityChanged, accountTypeChanged, brokerFillIdentityMismatch,
    brokerFillWithoutUquantIntent, brokerOrderIdentityMismatch, corporateActionSuspected,
    externalBrokerOrder, reviewedAccountStateRequired, systemFillContradictsAccountState,
    unexplainedCashChange, unexplainedPositionChange, unmappedBrokerFill]

/-- `tuple(sorted(blockers))` of a set of blockers. -/
def sortedBlockers (blockers : List PreflightBlocker) : List PreflightBlocker :=
  PreflightBlocker.all.filter (· ∈ blockers)

/-- An `AccountPreflightResult`, with the reviewed adjustments for their ids. -/
structure AccountPreflightResult where
  passed : Bool
  blockers : List PreflightBlocker
  explainedFillIds : List String
  reviewedAdjustmentIds : ReviewedAdjustments

/-! ## Reading the account -/

/-- `_account_cash`. -/
def accountCash (account : AccountState) : Except Failure ℚ :=
  if account.cash < 0 then
    .error (.domainValidationError "uquant account cash must be finite and nonnegative")
  else .ok account.cash

/-- The quantities of positions by symbol. -/
abbrev Quantities := List (String × ℕ × ℕ)

/-- The quantities of a symbol, of which a position that is not there has none. -/
def Quantities.get (quantities : Quantities) (symbol : String) : ℕ × ℕ :=
  (quantities.lookup symbol).getD (0, 0)

/-- `quantities[symbol] = value`. -/
def Quantities.set (quantities : Quantities) (symbol : String) (value : ℕ × ℕ) : Quantities :=
  if quantities.any (·.1 = symbol) then
    quantities.map fun item => if item.1 = symbol then (symbol, value) else item
  else quantities ++ [(symbol, value)]

/-- `quantities.pop(symbol, None)`. -/
def Quantities.pop (quantities : Quantities) (symbol : String) : Quantities :=
  quantities.filter (·.1 ≠ symbol)

/-- `_current_positions`. -/
def currentPositions (session : Date) (positions : List AccountPosition) :
    Except Failure Quantities :=
  positions.foldlM (fun result position => do
    refuse (position.symbol = "")
      (.domainValidationError "uquant account position symbol is invalid")
    refuse (position.shares ≤ 0 ∨ position.sellableShares session < 0 ∨
        position.shares < position.sellableShares session)
      (.domainValidationError "uquant account position quantities are invalid")
    return Quantities.set result position.symbol
      (position.shares.toNat, (position.sellableShares session).toNat)) []

/-- `_known_account_orders`. -/
def knownAccountOrders (orders : List AccountOrder) : Except Failure (List AccountOrder) :=
  if (∃ order ∈ orders, order.orderId = "") ∨ ¬ (orders.map (·.orderId)).Nodup then
    .error (.domainValidationError "uquant account order identity is invalid")
  else .ok orders

/-- `_known_account_fill_ids`. -/
def knownAccountFillIds (fills : List (Option String)) : Except Failure (List String) :=
  let ids := (fills.filterMap id).filter (· ≠ "")
  if ids.Nodup then .ok ids
  else .error (.domainValidationError "uquant account contains duplicate fill identity")

/-! ## Orders and fills -/

/-- `_compare_account_identity`. -/
def identityBlockers (account : BrokerAccountFact) (ledger : OperationalLedgerView)
    (binding : AccountBinding) : List PreflightBlocker :=
  (if account.accountIdHash ≠ binding.accountIdHash ∨
      account.accountIdHash ≠ ledger.expectedAccountIdHash then
    [.accountIdentityChanged] else []) ++
  (if account.accountType ≠ binding.accountType ∨
      account.accountType ≠ ledger.expectedAccountType then
    [.accountTypeChanged] else [])

/-- `local_by_broker.get`. -/
def localOrder (ledger : OperationalLedgerView) (brokerOrderId : String) :
    Option OperationalOrderView :=
  ledger.orders.reverse.find? (·.brokerOrderId = brokerOrderId)

/-- The client id of the order that `broker_by_id.get` returns. -/
def brokerClientId (orders : List BrokerOrderFact) (brokerOrderId : String) :
    Option (Option String) :=
  (orders.reverse.find? (·.brokerOrderId = brokerOrderId)).map (·.clientOrderId)

/-- What `_mapped_orders` adds for one order. -/
def orderBlockers (ledger : OperationalLedgerView) (order : BrokerOrderFact) :
    List PreflightBlocker :=
  match localOrder ledger order.brokerOrderId with
  | none => [.externalBrokerOrder]
  | some known =>
    if order.clientOrderId ≠ some known.uquantOrderId ∨ order.symbol ≠ known.symbol ∨
        order.side ≠ known.side ∨ order.requestedShares ≠ known.requestedShares then
      [.brokerOrderIdentityMismatch]
    else []

/-- What the loop over the fills keeps. -/
structure FillProgress where
  blockers : List PreflightBlocker
  explainedFillIds : List String
  positions : Quantities
  cash : ℚ

/-- A blocker is added. -/
def FillProgress.block (s : FillProgress) (blocker : PreflightBlocker) : FillProgress :=
  { s with blockers := s.blockers ++ [blocker] }

/-- The fill changes what is expected of the account. -/
def FillProgress.apply (s : FillProgress) (fill : BrokerFillFact) : FillProgress :=
  let gross := fill.price.value * fill.shares
  let fees := fill.commission.value + fill.stampDuty.value + fill.transferFee.value
  let symbol := fill.symbol.canonical
  let position := s.positions.get symbol
  match fill.side with
  | .buy =>
    { s with
      cash := s.cash - (gross + fees)
      positions := s.positions.set symbol (position.1 + fill.shares, position.2) }
  | .sell =>
    let s := { s with
      cash := s.cash + (gross - fees)
      positions := s.positions.set symbol position }
    if position.1 < fill.shares ∨ position.2 < fill.shares then
      s.block .systemFillContradictsAccountState
    else if position.1 = fill.shares then { s with positions := s.positions.pop symbol }
    else
      { s with
        positions := s.positions.set symbol (position.1 - fill.shares, position.2 - fill.shares) }

/-- One turn of the loop over the fills. -/
def fillStep (orders : List BrokerOrderFact) (ledger : OperationalLedgerView)
    (accountOrders : List AccountOrder) (accountFillIds : List String) (s : FillProgress)
    (fill : BrokerFillFact) : FillProgress :=
  match localOrder ledger fill.brokerOrderId, brokerClientId orders fill.brokerOrderId with
  | some known, some clientOrderId =>
    if fill.brokerFillId ∉ ledger.knownBrokerFillIds ∨ fill.status ≠ .confirmed then
      s.block .unmappedBrokerFill
    else if clientOrderId ≠ some known.uquantOrderId ∨ fill.symbol ≠ known.symbol ∨
        fill.side ≠ known.side then
      s.block .brokerFillIdentityMismatch
    else
      match accountOrders.find? (·.orderId = known.uquantOrderId) with
      | none => s.block .brokerFillWithoutUquantIntent
      | some order =>
        if order.symbol ≠ fill.symbol.canonical ∨ order.side ≠ sideText fill.side then
          s.block .brokerFillWithoutUquantIntent
        else
          let s := { s with explainedFillIds := s.explainedFillIds ++ [fill.brokerFillId] }
          if fill.brokerFillId ∈ accountFillIds then s else s.apply fill
  | _, _ => s.block .unmappedBrokerFill

/-- The fills in the order of the loop. -/
def orderedFills (fills : List BrokerFillFact) : List BrokerFillFact :=
  fills.insertionSort fun a b => a.sessionDate < b.sessionDate ∨ (a.sessionDate = b.sessionDate ∧
    (a.eventSequence < b.eventSequence ∨ (a.eventSequence = b.eventSequence ∧
      ¬ b.brokerFillId < a.brokerFillId)))

/-- The preflight up to the end of the loop over the fills. -/
def explainFills (snapshot : CapturedSnapshot) (account : AccountState)
    (ledger : OperationalLedgerView) (binding : AccountBinding) : Except Failure FillProgress := do
  let blockers := identityBlockers snapshot.account ledger binding ++
    snapshot.orders.flatMap (orderBlockers ledger)
  let accountOrders ← knownAccountOrders account.orderLedger
  let accountFillIds ← knownAccountFillIds account.fills
  let positions ← currentPositions snapshot.sessionDate account.positions
  let cash ← accountCash account
  return (orderedFills snapshot.fills).foldl
    (fillStep snapshot.orders ledger accountOrders accountFillIds) ⟨blockers, [], positions, cash⟩

/-! ## Cash and positions -/

/-- The difference between the cash of a snapshot and the cash that is expected. -/
def cashDifference (snapshot : CapturedSnapshot) (expectedCash : ℚ) : AccountDifference where
  accountIdHash := snapshot.account.accountIdHash
  symbol := none
  session := snapshot.sessionDate
  coverage := .availableCash
  brokerSnapshotSha256 := snapshot.rawPayloadSha256
  expected := .decimal expectedCash
  observed := .decimal snapshot.account.availableCash.value

/-- The check of the cash: its blockers, and the adjustments that authorize the difference. -/
def checkCash (snapshot : CapturedSnapshot) (expectedCash : ℚ) (cashTolerance : Money)
    (reviews : Option ReviewedAdjustments) :
    Except Failure (List PreflightBlocker × ReviewedAdjustments) :=
  if expectedCash < 0 then .ok ([.systemFillContradictsAccountState], [])
  else if cashTolerance.value < |snapshot.account.availableCash.value - expectedCash| then do
    let cashReviews ← matchingReviewIds reviews (cashDifference snapshot expectedCash)
    return if cashReviews ≠ [] then ([], cashReviews) else ([.unexplainedCashChange], [])
  else .ok ([], [])

/-- A difference of a position. -/
def positionDifference (snapshot : CapturedSnapshot) (symbol : Symbol)
    (coverage : AdjustmentCoverage) (expected observed : ℕ) : AccountDifference where
  accountIdHash := snapshot.account.accountIdHash
  symbol := some symbol
  session := snapshot.sessionDate
  coverage := coverage
  brokerSnapshotSha256 := snapshot.rawPayloadSha256
  expected := .int expected
  observed := .int observed

/-- What a position that differs adds. -/
def positionMismatch (reviews : Option ReviewedAdjustments) (d : AccountDifference) :
    Except Failure (List PreflightBlocker × ReviewedAdjustments) := do
  let found ← matchingReviewIds reviews d
  return ((if found ≠ [] then [.reviewedAccountStateRequired] else []) ++
    [.corporateActionSuspected, .unexplainedPositionChange], found)

/-- The check of one symbol. -/
def checkPosition (snapshot : CapturedSnapshot) (expected : Quantities)
    (reviews : Option ReviewedAdjustments) (rawSymbol : String) :
    Except Failure (List PreflightBlocker × ReviewedAdjustments) :=
  let broker : Quantities := snapshot.positions.map fun p =>
    (p.symbol.canonical, p.totalShares, p.sellableShares)
  let e := expected.get rawSymbol
  let o := Quantities.get broker.reverse rawSymbol
  match Symbol.parse rawSymbol with
  | none => .error (.domainValidationError "invalid symbol")
  | some symbol =>
    if e.1 ≠ o.1 then
      positionMismatch reviews (positionDifference snapshot symbol .positionTotalShares e.1 o.1)
    else if e.2 ≠ o.2 then
      positionMismatch reviews (positionDifference snapshot symbol .positionSellableShares e.2 o.2)
    else .ok ([], [])

/-- The positions that are expected. -/
def expectedValues (positions : Quantities) : Quantities :=
  positions.filter fun item => 0 < item.2.1

/-- The symbols that are expected or observed, sorted. -/
def comparedSymbols (snapshot : CapturedSnapshot) (expected : Quantities) : List String :=
  (expected.map Prod.fst ++ snapshot.positions.map (·.symbol.canonical)).dedup.insertionSort
    fun a b => ¬ b < a

/-- `evaluate_account_preflight`. -/
def evaluateAccountPreflight (snapshot : CapturedSnapshot) (account : AccountState)
    (ledger : OperationalLedgerView) (binding : AccountBinding) (cashTolerance : Money)
    (reviews : Option ReviewedAdjustments) : Except Failure AccountPreflightResult := do
  let progress ← explainFills snapshot account ledger binding
  let cash ← checkCash snapshot progress.cash cashTolerance reviews
  let expected := expectedValues progress.positions
  let positions ← (comparedSymbols snapshot expected).mapM
    (checkPosition snapshot expected reviews)
  let blockers := sortedBlockers
    (progress.blockers ++ cash.1 ++ positions.flatMap Prod.fst)
  return {
    passed := blockers = []
    blockers := blockers
    explainedFillIds := progress.explainedFillIds.dedup.insertionSort fun a b => ¬ b < a
    reviewedAdjustmentIds := (cash.2 ++ positions.flatMap Prod.snd).dedup }

end FirmQuant
