import FirmQuant.Foundation.Matched
import FirmQuant.Persistence.EventOwners
import FirmQuant.Persistence.Reconciliation
import FirmQuant.Reconciliation.Passing

/-!
# The operational ledger of a reconciliation

`build_operational_ledger_view` of `reconciliation/live_view.py`, with the rules of
`reconciliation/authority_window.py` and the constructors of `reconciliation/models.py`.

A ledger that the repository wrote has a view unless an id in it is not canonical, and what a passed
reconciliation says of the view it says of the tables.  The ids of executions are digests, taken by
what they hash; they are left in the order of their rows.
-/

namespace FirmQuant

open Effect

namespace Reconciliation

/-! ## The authority window -/

/-- `_CROSS_SESSION_STATES`. -/
def crossSessionStates : List OrderState :=
  [.submitting, .unknown, .acknowledged, .partiallyFilled, .cancelRequested]

/-- `order_is_in_broker_authority_window`. -/
def orderIsInBrokerAuthorityWindow (orderSession brokerSession : Date) (localState : OrderState) :
    Bool :=
  orderSession = brokerSession || localState ∈ crossSessionStates

/-- `fill_is_in_broker_authority_window`. -/
def fillIsInBrokerAuthorityWindow (fillSession brokerSession : Date) : Bool :=
  fillSession = brokerSession

/-! ## The constructors -/

/-- `_canonical_text` of some texts, one after the other. -/
def canonicalTexts (label : String) (values : List String) : Except Failure PUnit :=
  match values.findSome? (idViolation label) with
  | none => .ok ⟨⟩
  | some message => .error (.domainValidationError message)

/-- The constructor of `OperationalOrderView`. -/
def OperationalOrder.create (view : OperationalOrderView) (filledShares : ℕ)
    (localState : OrderState) : Except Failure OperationalOrder := do
  canonicalTexts "operational broker order id" [view.brokerOrderId]
  canonicalTexts "operational uquant order id" [view.uquantOrderId]
  if hrequested : 0 < view.requestedShares then
    if hfilled : filledShares ≤ view.requestedShares then
      .ok ⟨view, filledShares, localState, hrequested, hfilled⟩
    else .error (.domainValidationError "operational filled shares exceed request")
  else .error (.domainValidationError "operational requested shares must be positive")

/-- The constructor of `OperationalLedgerView`.  The id of an execution is always canonical. -/
def OperationalLedger.create (accountIdHash : String) (accountType : AccountType)
    (orders : List OperationalOrder) (fillIds : List String)
    (unresolved submitting : List ExecutionId) : Except Failure OperationalLedger := do
  refuse (¬ isSha256 accountIdHash)
    (.domainValidationError "expected account identity hash must be lowercase SHA-256")
  if horders : (orders.map (·.brokerOrderId)).Nodup then
    canonicalTexts "known broker fill id" fillIds
    refuse (¬ unresolved.Nodup)
      (.domainValidationError "unresolved execution id collection contains duplicates")
    refuse (¬ submitting.Nodup)
      (.domainValidationError "submitting unresolved execution id collection contains duplicates")
    .ok ⟨accountIdHash, accountType, orders, fillIds, unresolved, submitting, horders⟩
  else .error (.domainValidationError "operational orders contain duplicate broker ids")

/-! ## The view -/

/-- The rows of the join of `broker_orders` and `execution_intents`, whose key is the id of the
execution. -/
def systemOrders (ledger : Ledger) : List (BrokerOrderRow × IntentRow) :=
  (ledger.brokerOrders.insertionSort fun a b => a.brokerOrderId ≤ b.brokerOrderId).filterMap
    fun order =>
      if order.ownership = .system then
        (ledger.executionIntents.find? fun row => some row.executionId = order.executionId).map
          (order, ·)
      else none

/-- The rows of the join that the broker can prove in a session. -/
def ordersInWindow (ledger : Ledger) (session : Date) : List (BrokerOrderRow × IntentRow) :=
  (systemOrders ledger).filter fun found =>
    orderIsInBrokerAuthorityWindow found.1.sessionDate session found.2.state

/-- The ids of the fills that the broker can prove in a session. -/
def fillIdsInWindow (ledger : Ledger) (session : Date) : List String :=
  (ledger.fills.filter fun fill => fillIsInBrokerAuthorityWindow fill.sessionDate session).map
    (·.brokerFillId)

/-- The executions in some states. -/
def executionsIn (ledger : Ledger) (states : List OrderState) : List ExecutionId :=
  (ledger.executionIntents.filter (·.state ∈ states)).map (·.executionId)

/-- The order of a row of the join. -/
def orderView (found : BrokerOrderRow × IntentRow) : Except Failure OperationalOrder :=
  let intent := found.2.aggregate.intent
  OperationalOrder.create ⟨found.1.brokerOrderId, found.2.uquantOrderId, intent.symbol, intent.side,
    intent.requestedShares⟩ found.2.filledShares found.2.state

/-- `build_operational_ledger_view`. -/
def buildOperationalLedgerView (ledger : Ledger) (session : Date) (accountIdHash : String)
    (accountType : AccountType) : Except Failure OperationalLedger := do
  let orders ← (ordersInWindow ledger session).mapM orderView
  OperationalLedger.create accountIdHash accountType orders (fillIdsInWindow ledger session)
    (executionsIn ledger [.unknown, .cancelRequested]) (executionsIn ledger [.submitting])

/-! ## What the constructors return -/

lemma canonicalTexts_eq_ok {label : String} {values : List String} {u : PUnit} :
    canonicalTexts label values = .ok u ↔ ∀ value ∈ values, idViolation label value = none := by
  rw [← List.findSome?_eq_none_iff, canonicalTexts]
  cases values.findSome? (idViolation label) <;> simp

lemma OperationalLedger.create_eq_ok {accountIdHash : String} {accountType : AccountType}
    {orders : List OperationalOrder} {fillIds : List String}
    {unresolved submitting : List ExecutionId} {view : OperationalLedger} :
    create accountIdHash accountType orders fillIds unresolved submitting = .ok view ↔
      isSha256 accountIdHash = true ∧
      (∀ id ∈ fillIds, idViolation "known broker fill id" id = none) ∧
      (unresolved.Nodup ∧ submitting.Nodup) ∧ ∃ horders,
        view = ⟨accountIdHash, accountType, orders, fillIds, unresolved, submitting, horders⟩ := by
  by_cases horders : (orders.map (·.brokerOrderId)).Nodup
  · simp only [create, dif_pos horders, bind_ok_iff, refuse_eq_ok, canonicalTexts_eq_ok, not_not,
      exists_and_left, exists_const, Except.ok.injEq, exists_prop_of_true horders, and_assoc,
      eq_comm (a := view)]
  · simp [create, bind_ok_iff, horders]

/-- The ids of a row of the join are canonical. -/
def Presentable (found : BrokerOrderRow × IntentRow) : Prop :=
  idViolation "operational broker order id" found.1.brokerOrderId = none ∧
    idViolation "operational uquant order id" found.2.uquantOrderId = none

variable {ledger : Ledger} {session : Date} {accountIdHash : String} {accountType : AccountType}
  {evidenceHash : Evidence → String} {canonicalJson : Details → String}

section Rows

variable {found : BrokerOrderRow × IntentRow} {known : OperationalOrder}

lemma orderView_eq_ok (h : orderView found = .ok known) : Presentable found ∧
    known.toOperationalOrderView = ⟨found.1.brokerOrderId, found.2.uquantOrderId,
      found.2.aggregate.intent.symbol, found.2.aggregate.intent.side,
      found.2.aggregate.intent.requestedShares⟩ ∧
    known.filledShares = found.2.filledShares ∧ known.localState = found.2.state := by
  unfold orderView OperationalOrder.create at h
  obtain ⟨_, hbroker, h⟩ := bind_ok_iff.mp h
  obtain ⟨_, huquant, h⟩ := bind_ok_iff.mp h
  split_ifs at h
  cases h
  exact ⟨⟨canonicalTexts_eq_ok.mp hbroker _ List.mem_cons_self,
    canonicalTexts_eq_ok.mp huquant _ List.mem_cons_self⟩, rfl, rfl, rfl⟩

variable (h : Ledger.Recorded ledger)

include h

lemma mem_systemOrders : found ∈ systemOrders ledger ↔
    found.1 ∈ ledger.brokerOrders ∧ found.1.ownership = .system ∧
      found.2 ∈ ledger.executionIntents ∧ found.1.executionId = some found.2.executionId := by
  have hkeys : (ledger.executionIntents.map fun row => some row.executionId).Nodup := by
    simpa [Function.comp_def] using h.agrees.ids.map (Option.some_injective _)
  obtain ⟨order, row⟩ := found
  simp only [systemOrders, List.mem_filterMap, List.mem_insertionSort]
  constructor
  · rintro ⟨order', horder, hjoin⟩
    split_ifs at hjoin with hsystem
    obtain ⟨row', hrow, heq⟩ := Option.map_eq_some_iff.mp hjoin
    cases heq
    obtain ⟨hmem, hid⟩ := (find_key_iff hkeys).mp hrow
    exact ⟨horder, hsystem, hmem, hid.symm⟩
  · rintro ⟨horder, hsystem, hrow, hid⟩
    exact ⟨order, horder, by rw [if_pos hsystem, (find_key_iff hkeys).mpr ⟨hrow, hid.symm⟩]; rfl⟩

/-- An order that the repository wrote is in the view if its ids are canonical. -/
lemma orderView_returns (hfound : found ∈ systemOrders ledger) (hids : Presentable found) :
    ∃ known, orderView found = .ok known := by
  have hrow := ((mem_systemOrders h).mp hfound).2.2.1
  have hfilled := found.2.aggregate.wellFormed.filled_le
  rw [← (h.agrees.rows _ hrow).filledShares] at hfilled
  unfold orderView OperationalOrder.create
  dsimp only
  rw [(canonicalTexts_eq_ok (u := ⟨⟩)).mpr (by simpa using hids.1),
    (canonicalTexts_eq_ok (u := ⟨⟩)).mpr (by simpa using hids.2), ok_bind, ok_bind,
    dif_pos found.2.aggregate.intent.requested_pos, dif_pos hfilled]
  exact ⟨_, rfl⟩

/-- The broker gives an id to one order. -/
lemma pairwise_ordersInWindow : (ordersInWindow ledger session).Pairwise
    fun found other => found.1.brokerOrderId ≠ other.1.brokerOrderId := by
  have horders := h.owned.brokerOrders
  rw [← ((List.perm_insertionSort (fun a b => a.brokerOrderId ≤ b.brokerOrderId)
    ledger.brokerOrders).map _).nodup_iff, List.Nodup, List.pairwise_map] at horders
  refine (List.pairwise_filterMap.mpr (horders.imp ?_)).filter _
  intro order order' hne found hfound other hother
  split_ifs at hfound hother
  obtain ⟨_, -, rfl⟩ := Option.map_eq_some_iff.mp hfound
  obtain ⟨_, -, rfl⟩ := Option.map_eq_some_iff.mp hother
  exact hne

end Rows

lemma nodup_executionsIn (h : Ledger.Recorded ledger) (states : List OrderState) :
    (executionsIn ledger states).Nodup := h.agrees.ids.sublist (List.filter_sublist.map _)

/-- A ledger that the repository wrote has a view in a session exactly when the expected account is
named by a digest and the ids that the view shows are canonical. -/
theorem view_returns_iff (h : Ledger.Written ledger) :
    (∃ view, buildOperationalLedgerView ledger session accountIdHash accountType = .ok view) ↔
      isSha256 accountIdHash = true ∧ (∀ found ∈ ordersInWindow ledger session, Presentable found) ∧
      ∀ fillId ∈ fillIdsInWindow ledger session,
        idViolation "known broker fill id" fillId = none := by
  have hrecorded := h.recorded
  simp only [buildOperationalLedgerView, bind_ok_iff, mapM_eq_ok, OperationalLedger.create_eq_ok]
  constructor
  · rintro ⟨view, orders, horders, hhash, hfills, -⟩
    refine ⟨hhash, fun found hfound => ?_, hfills⟩
    obtain ⟨known, -, hknown⟩ := Matched.exists_right_of_forall₂ horders found hfound
    exact (orderView_eq_ok hknown).1
  · rintro ⟨hhash, hids, hfills⟩
    obtain ⟨orders, horders⟩ := Matched.exists_forall₂ fun found hfound =>
      orderView_returns hrecorded (List.mem_of_mem_filter hfound) (hids found hfound)
    have hnodup : (orders.map (·.brokerOrderId)).Nodup := by
      refine List.pairwise_map.mpr (Matched.pairwise_of_forall₂ horders
        (pairwise_ordersInWindow hrecorded) fun found other known known' hknown hknown' hne => ?_)
      rwa [(orderView_eq_ok hknown).2.1, (orderView_eq_ok hknown').2.1]
    exact ⟨_, orders, horders, hhash, hfills, ⟨nodup_executionsIn hrecorded _,
      nodup_executionsIn hrecorded _⟩, hnodup, rfl⟩

section

open Ledger.ObservationSample

/-- The ledger of an order of which one share is filled has a view. -/
theorem filled_has_view : ∃ view, buildOperationalLedgerView filledLedger 0
    (String.ofList (List.replicate 64 '0')) .cash = .ok view := by
  refine (view_returns_iff written_filled).mpr ⟨by decide +kernel, ?_, by decide +kernel⟩
  unfold Presentable
  decide +kernel

end

/-! ## What a passed reconciliation says of the tables -/

/-- The broker and the tables of a ledger agree on a session. -/
structure Confirms (ledger : Ledger) (session : Date) (snapshot : CapturedSnapshot) : Prop where
  resolved : ∀ row ∈ ledger.executionIntents,
    row.state ∉ [OrderState.unknown, .cancelRequested, .submitting]
  orders : ∀ order ∈ snapshot.orders, ∃ found ∈ systemOrders ledger,
    found.1.brokerOrderId = order.brokerOrderId ∧
    order.clientOrderId = some found.2.uquantOrderId ∧
    order.symbol = found.2.aggregate.intent.symbol ∧
    order.side = found.2.aggregate.intent.side ∧
    order.requestedShares = found.2.aggregate.intent.requestedShares ∧
    order.filledShares = ((ledger.fillsOf found.2.executionId).map (·.shares)).sum ∧
    Compatible found.2.aggregate.state order.status
  listed : ∀ found ∈ systemOrders ledger,
    found.1.sessionDate = session ∨ found.2.state ∈ crossSessionStates →
    found.2.state ∉ [OrderState.planned, .validated, .armed] →
    ∃ order ∈ snapshot.orders, order.brokerOrderId = found.1.brokerOrderId
  fills : ∀ fillId, (∃ fill ∈ ledger.fills, fill.sessionDate = session ∧
    fill.brokerFillId = fillId) ↔ ∃ fill ∈ snapshot.fills, fill.brokerFillId = fillId

/-- The fills of an execution sum to the filled shares of its row. -/
lemma sum_fillsOf {row : IntentRow} (h : ledger.RowAgrees row) :
    ((ledger.fillsOf row.executionId).map (·.shares)).sum = row.filledShares := by
  have heconomics := congrArg (List.map fun e : String × String × ℕ × Price => e.2.2.1) h.fills
  rw [List.map_map, List.map_map] at heconomics
  rw [h.filledShares, ← row.aggregate.wellFormed.filled_eq]
  exact congrArg List.sum heconomics

/-- A reconciliation of the broker with the view of a ledger that the repository wrote passes only
if no execution is in doubt and the broker and the tables tell the same of the session. -/
theorem passed_confirms {facts : ReconciliationFacts} {tolerance : Money}
    {kind : ReconciliationKind} {startedAt completedAt : DateTime}
    {receipt : ReconciliationReceipt} (hwritten : Ledger.Written ledger)
    (hview : buildOperationalLedgerView ledger session accountIdHash accountType =
      .ok facts.operationalLedger)
    (hevaluate : evaluate evidenceHash canonicalJson tolerance kind facts startedAt completedAt =
      .ok receipt) (hpassed : receipt.blockers = []) :
    Confirms ledger session facts.brokerSnapshot := by
  have h := hwritten.recorded
  have hagree := reconciled_of_evaluate hevaluate hpassed
  obtain ⟨orders, horders, hview⟩ := bind_ok_iff.mp hview
  have hrows := mapM_eq_ok.mp horders
  obtain ⟨-, -, -, hnodup, hview⟩ := OperationalLedger.create_eq_ok.mp hview
  have hviewOrders : facts.operationalLedger.orders = orders := by rw [hview]
  have hviewFills : ∀ fillId, fillId ∈ facts.operationalLedger.knownBrokerFillIds ↔
      ∃ fill ∈ ledger.fills, fill.sessionDate = session ∧ fill.brokerFillId = fillId := by
    intro fillId
    simp [hview, fillIdsInWindow, fillIsInBrokerAuthorityWindow, and_assoc]
  constructor
  · intro row hrow hstate
    have hresolved := hagree.resolved
    simp only [hview, executionsIn, List.map_eq_nil_iff, List.filter_eq_nil_iff] at hresolved
    have hunresolved := hresolved.1 row hrow
    have hsubmitting := hresolved.2 row hrow
    simp only [List.mem_cons, List.not_mem_nil, or_false, decide_eq_true_eq, not_or] at *
    grind
  · intro order horder
    obtain ⟨known, hknown, htracks⟩ := hagree.brokerOrders order horder
    obtain ⟨found, hfound, hcreate⟩ :=
      Matched.exists_of_forall₂ hrows known (hviewOrders ▸ hknown)
    have hsystem := List.mem_of_mem_filter hfound
    have hrow := h.agrees.rows _ ((mem_systemOrders h).mp hsystem).2.2.1
    obtain ⟨-, hcolumns, hfilled, hstate⟩ := orderView_eq_ok hcreate
    have hcompatible := htracks.compatible
    rw [hstate, hrow.state] at hcompatible
    have hid := htracks.id
    have hidentity := htracks.identity
    rw [ReconciliationFacts.SameIdentity, hcolumns] at hidentity
    rw [hcolumns] at hid
    exact ⟨found, hsystem, hid, hidentity.1, hidentity.2.1, hidentity.2.2.1, hidentity.2.2.2,
      htracks.filled.trans (hfilled.trans (sum_fillsOf hrow).symm), hcompatible⟩
  · intro found hfound hwindow hstate
    obtain ⟨known, hknown, hcreate⟩ := Matched.exists_right_of_forall₂ hrows found
      (List.mem_filter.mpr ⟨hfound, by simpa [orderIsInBrokerAuthorityWindow] using hwindow⟩)
    obtain ⟨-, hcolumns, -, hlocal⟩ := orderView_eq_ok hcreate
    rcases hagree.ledgerOrders known (hviewOrders ▸ hknown) with hearly | hlisted
    · exact absurd (hlocal ▸ hearly) hstate
    · rwa [hcolumns] at hlisted
  · intro fillId
    rw [← hviewFills]
    constructor
    · exact hagree.ledgerFills fillId
    · rintro ⟨fill, hfill, rfl⟩
      exact (hagree.brokerFills fill hfill).2.1

namespace LiveViewSample

open Ledger.ObservationSample

lemma cash_le : Money.zero.value ≤ Money.zero.value := le_rfl

lemma filled_le : 1 ≤ 2 := Nat.le_succ 1

def account : BrokerAccountFact :=
  ⟨String.ofList (List.replicate 64 '0'), .cash, Money.zero, Money.zero, cash_le⟩

/-- The broker tells the order and its fill. -/
def snapshot : CapturedSnapshot :=
  SnapshotRead.capture ⟨account, [], [fact .partiallyFilled 1 1 filled_le], [fill "one" 1]⟩ 0

/-- The view of the ledger. -/
def view : OperationalLedger where
  expectedAccountIdHash := account.accountIdHash
  expectedAccountType := .cash
  orders := [⟨⟨"broker", "order", intent.symbol, .buy, 2⟩, 1, .partiallyFilled, Nat.two_pos,
    filled_le⟩]
  knownBrokerFillIds := ["one"]
  unresolvedExecutionIds := []
  submittingUnresolvedExecutionIds := []
  orders_nodup := List.nodup_singleton _

def facts : ReconciliationFacts where
  brokerSnapshot := snapshot
  strategyAccount := ⟨Money.zero, Money.zero, [], ["order"], account.accountIdHash, cash_le,
    List.nodup_nil⟩
  operationalLedger := view
  companyActionSuspectedSymbols := []
  uquantCodeIdentityMatches := true
  dataIdentityMatches := true
  configIdentityMatches := true
  positions_nodup := List.nodup_nil
  orders_nodup := List.nodup_singleton _
  fills_nodup := List.nodup_singleton _

lemma view_built : buildOperationalLedgerView filledLedger 0 account.accountIdHash .cash =
    .ok facts.operationalLedger := rfl

lemma blockers_nil : blockersOf (facts.findings Money.zero) = [] := by
  have hfindings : facts.findings Money.zero = [] := List.isEmpty_iff.mp (by decide +kernel)
  rw [hfindings]
  exact blockersOf_eq_nil.mpr clear_nil

/-- The reconciliation of the order of which one share is filled passes. -/
theorem filled_confirmed : Confirms filledLedger 0 facts.brokerSnapshot := by
  have hevaluate : evaluate (fun _ => "") (fun _ => "") Money.zero .startup facts 0 0 =
      .ok ⟨⟨.startup, "", 0, 0⟩, blockersOf (facts.findings Money.zero)⟩ := rfl
  exact passed_confirms written_filled view_built hevaluate blockers_nil

end LiveViewSample

end Reconciliation

end FirmQuant
