import FirmQuant.Reconciliation.Evaluation

/-!
# What a passed reconciliation says

A reconciliation passes exactly when the broker, the strategy account and the ledger agree: no
blocker is missing for a difference, and none is raised without one.
-/

namespace FirmQuant

namespace Reconciliation

/-! ## Lookups by a key -/

section Keys

variable {α β : Type} [DecidableEq β] {key : α → β} {k : β} {l : List α}

lemma find_key_iff (h : (l.map key).Nodup) {a : α} :
    l.find? (key · = k) = some a ↔ a ∈ l ∧ key a = k := by
  constructor
  · intro hfind
    exact ⟨List.mem_of_find?_eq_some hfind, by simpa using List.find?_some hfind⟩
  · rintro ⟨ha, rfl⟩
    cases hfind : l.find? (key · = key a) with
    | none =>
      have hkey := List.find?_eq_none.mp hfind a ha
      simp at hkey
    | some b =>
      have hb : key b = key a := by simpa using List.find?_some hfind
      rw [List.inj_on_of_nodup_map h (List.mem_of_find?_eq_some hfind) ha hb]

end Keys

/-! ## Findings without a blocker -/

/-- No blocker is among the findings. -/
def Clear (findings : List Finding) : Prop := ∀ code, .blocker code ∉ findings

variable {findings more : List Finding} {code : String}

@[simp]
lemma clear_nil : Clear [] := fun _ => List.not_mem_nil

@[simp]
lemma clear_append : Clear (findings ++ more) ↔ Clear findings ∧ Clear more := by
  simp only [Clear, List.mem_append, not_or, forall_and]

@[simp]
lemma clear_flatMap {α : Type} {l : List α} {f : α → List Finding} :
    Clear (l.flatMap f) ↔ ∀ a ∈ l, Clear (f a) := by
  simp only [Clear, List.mem_flatMap, not_exists, not_and]
  exact ⟨fun h a ha code => h code a ha, fun h code a ha => h a ha code⟩

lemma not_clear_blocker : ¬ Clear (.blocker code :: more) := fun h => h code List.mem_cons_self

@[simp]
lemma clear_found {c : Prop} [Decidable c] : Clear (found c (.blocker code :: more)) ↔ ¬ c := by
  unfold found
  split_ifs with hc
  · exact iff_of_false not_clear_blocker (not_not.mpr hc)
  · exact iff_of_true clear_nil hc

lemma mem_blockersOf : code ∈ blockersOf findings ↔ .blocker code ∈ findings := by
  unfold blockersOf sortedTexts
  rw [Finset.mem_sort, List.mem_toFinset, List.mem_filterMap]
  constructor
  · rintro ⟨finding, hfinding, hcode⟩
    cases finding with
    | blocker _ => exact Option.some.inj hcode ▸ hfinding
    | evidence _ => cases hcode
  · exact fun h => ⟨_, h, rfl⟩

lemma blockersOf_eq_nil : blockersOf findings = [] ↔ Clear findings := by
  simp only [List.eq_nil_iff_forall_not_mem, mem_blockersOf, Clear]

/-! ## Agreement -/

/-- The state of an order at the broker is the one that its state in the ledger asks for. -/
def Compatible (state : OrderState) (status : BrokerOrderStatus) : Prop :=
  match brokerForLocalTerminal state with
  | some expected => status = expected
  | none => status ∈ brokerActive

/-- An order of the broker is this order of the ledger, and the strategy asked for it. -/
structure Tracks (facts : ReconciliationFacts) (known : OperationalOrder)
    (order : BrokerOrderFact) : Prop where
  id : known.brokerOrderId = order.brokerOrderId
  identity : ReconciliationFacts.SameIdentity known order
  intended : known.uquantOrderId ∈ facts.strategyAccount.knownUquantOrderIds
  resolved : order.status ≠ .unknown ∧ known.localState ≠ .unknown
  filled : order.filledShares = known.filledShares
  compatible : Compatible known.localState order.status

/-- The broker, the strategy account and the ledger agree. -/
structure Reconciled (facts : ReconciliationFacts) (tolerance : Money) : Prop where
  account : facts.brokerSnapshot.account.accountIdHash =
      facts.operationalLedger.expectedAccountIdHash ∧
    facts.brokerSnapshot.account.accountType = facts.operationalLedger.expectedAccountType
  identity : facts.uquantCodeIdentityMatches = true ∧ facts.dataIdentityMatches = true ∧
    facts.configIdentityMatches = true ∧ facts.companyActionSuspectedSymbols = []
  cash : facts.cashDifference ≤ tolerance.value ∧ facts.assetDifference ≤ tolerance.value
  positions : ∀ symbol, facts.brokerShares symbol = facts.expectedShares symbol
  brokerOrders : ∀ order ∈ facts.brokerSnapshot.orders,
    ∃ known ∈ facts.operationalLedger.orders, Tracks facts known order
  ledgerOrders : ∀ known ∈ facts.operationalLedger.orders,
    known.localState ∈ [OrderState.planned, .validated, .armed] ∨
      ∃ order ∈ facts.brokerSnapshot.orders, order.brokerOrderId = known.brokerOrderId
  brokerFills : ∀ fill ∈ facts.brokerSnapshot.fills, fill.status = .confirmed ∧
    fill.brokerFillId ∈ facts.operationalLedger.knownBrokerFillIds ∧
    ∃ known ∈ facts.operationalLedger.orders, known.brokerOrderId = fill.brokerOrderId ∧
      known.uquantOrderId ∈ facts.strategyAccount.knownUquantOrderIds
  ledgerFills : ∀ brokerFillId ∈ facts.operationalLedger.knownBrokerFillIds,
    ∃ fill ∈ facts.brokerSnapshot.fills, fill.brokerFillId = brokerFillId
  resolved : facts.operationalLedger.unresolvedExecutionIds = [] ∧
    facts.operationalLedger.submittingUnresolvedExecutionIds = []

namespace ReconciliationFacts

variable {facts : ReconciliationFacts} {known : OperationalOrder} {order : BrokerOrderFact}

lemma localOrder_iff {brokerOrderId : String} : facts.localOrder brokerOrderId = some known ↔
    known ∈ facts.operationalLedger.orders ∧ known.brokerOrderId = brokerOrderId :=
  find_key_iff facts.operationalLedger.orders_nodup

lemma clear_compareState : Clear (compareState known order) ↔
    Compatible known.localState order.status := by
  unfold compareState Compatible
  cases brokerForLocalTerminal known.localState with
  | none => simp
  | some expected =>
    by_cases hstatus : order.status = expected
    · simp [hstatus]
    · refine iff_of_false ?_ hstatus
      dsimp only
      rw [if_neg hstatus]
      split_ifs <;> exact not_clear_blocker

lemma clear_compareBrokerOrder : Clear (facts.compareBrokerOrder order) ↔
    ∃ known ∈ facts.operationalLedger.orders, Tracks facts known order := by
  unfold compareBrokerOrder
  cases hlocal : facts.localOrder order.brokerOrderId with
  | none =>
    refine iff_of_false not_clear_blocker ?_
    rintro ⟨known, hknown, htracks⟩
    rw [localOrder_iff.mpr ⟨hknown, htracks.id⟩] at hlocal
    cases hlocal
  | some known =>
    obtain ⟨hknown, hid⟩ := localOrder_iff.mp hlocal
    simp only [compareMappedOrder, clear_append, clear_found, clear_compareState, not_not]
    constructor
    · rintro ⟨⟨⟨⟨⟨hidentity, hintended⟩, hstatus⟩, hfilled⟩, hstate⟩, hcompatible⟩
      exact ⟨known, hknown, hid, hidentity, hintended, ⟨hstatus, hstate⟩, hfilled, hcompatible⟩
    · rintro ⟨other, hother, htracks⟩
      have hsame := localOrder_iff.mpr ⟨hother, htracks.id⟩
      rw [hlocal] at hsame
      cases hsame
      exact ⟨⟨⟨⟨⟨htracks.identity, htracks.intended⟩, htracks.resolved.1⟩, htracks.filled⟩,
        htracks.resolved.2⟩, htracks.compatible⟩

lemma clear_compareLocalOrder : Clear (facts.compareLocalOrder known) ↔
    known.localState ∈ [OrderState.planned, .validated, .armed] ∨
      ∃ order ∈ facts.brokerSnapshot.orders, order.brokerOrderId = known.brokerOrderId := by
  unfold compareLocalOrder
  rw [clear_found, not_and_or, not_not, or_comm]
  push Not
  rfl

lemma mapped_iff {fill : BrokerFillFact} : facts.Mapped fill ↔
    ∃ known ∈ facts.operationalLedger.orders, known.brokerOrderId = fill.brokerOrderId ∧
      known.uquantOrderId ∈ facts.strategyAccount.knownUquantOrderIds := by
  simp only [Mapped, Option.mem_def, localOrder_iff, and_assoc]

lemma clear_comparePosition {symbol : Symbol} : Clear (facts.comparePosition symbol) ↔
    facts.brokerShares symbol = facts.expectedShares symbol := by
  simp only [comparePosition, clear_append, clear_found, not_not, Prod.ext_iff]

/-- The symbols of neither view have no shares in either. -/
lemma shares_eq_of_symbols
    (h : ∀ symbol ∈ facts.symbols, facts.brokerShares symbol = facts.expectedShares symbol)
    (symbol : Symbol) : facts.brokerShares symbol = facts.expectedShares symbol := by
  by_cases hsymbol : symbol ∈ facts.symbols
  · exact h symbol hsymbol
  simp only [symbols, List.mem_insertionSort, List.mem_dedup, List.mem_append, not_or, List.mem_map,
    not_exists, not_and] at hsymbol
  have hbroker : facts.brokerSnapshot.positions.find? (·.symbol = symbol) = none :=
    List.find?_eq_none.mpr fun position hposition => by simpa using hsymbol.1 position hposition
  have hexpected : facts.strategyAccount.positions.find? (·.symbol = symbol) = none :=
    List.find?_eq_none.mpr fun position hposition => by simpa using hsymbol.2 position hposition
  rw [brokerShares, expectedShares, hbroker, hexpected]

lemma clear_findings {tolerance : Money} :
    Clear (facts.findings tolerance) ↔ Reconciled facts tolerance := by
  simp only [findings, compareIdentity, compareCash, compareFills, compareFill,
    compareOperationalHealth, clear_append, clear_flatMap, clear_found, clear_comparePosition,
    clear_compareBrokerOrder, clear_compareLocalOrder, mapped_iff, not_not, not_lt]
  constructor
  · rintro ⟨⟨⟨⟨⟨⟨⟨⟨⟨⟨⟨hid, htype⟩, hcode⟩, hdata⟩, hconfig⟩, haction⟩, hcash, hassets⟩, hpositions⟩,
      hbroker⟩, hlocal⟩, hfills, hknown⟩, hunresolved, hsubmitting⟩
    exact ⟨⟨hid, htype⟩, ⟨hcode, hdata, hconfig, haction⟩, ⟨hcash, hassets⟩,
      shares_eq_of_symbols hpositions, hbroker, hlocal,
      fun fill hfill => ⟨(hfills fill hfill).1.2, (hfills fill hfill).2, (hfills fill hfill).1.1⟩,
      fun id hid => List.mem_map.mp (hknown hid), hunresolved, hsubmitting⟩
  · intro h
    exact ⟨⟨⟨⟨⟨⟨⟨⟨⟨⟨⟨h.account.1, h.account.2⟩, h.identity.1⟩, h.identity.2.1⟩, h.identity.2.2.1⟩,
      h.identity.2.2.2⟩, h.cash⟩, fun symbol _ => h.positions symbol⟩, h.brokerOrders⟩,
      h.ledgerOrders⟩, fun fill hfill => ⟨⟨(h.brokerFills fill hfill).2.2,
        (h.brokerFills fill hfill).1⟩, (h.brokerFills fill hfill).2.1⟩,
      fun id hid => List.mem_map.mpr (h.ledgerFills id hid)⟩, h.resolved⟩

end ReconciliationFacts

variable {evidenceHash : Evidence → String} {canonicalJson : Details → String}

lemma reconciled_of_evaluate {tolerance : Money} {kind : ReconciliationKind}
    {facts : ReconciliationFacts} {startedAt completedAt : DateTime}
    {receipt : ReconciliationReceipt}
    (h : evaluate evidenceHash canonicalJson tolerance kind facts startedAt completedAt =
      .ok receipt) (hpassed : receipt.blockers = []) : Reconciled facts tolerance := by
  unfold evaluate at h
  split_ifs at h
  cases h
  exact ReconciliationFacts.clear_findings.mp (blockersOf_eq_nil.mp hpassed)

/-- A reconciliation gives a receipt without blockers exactly when its clock does not go back and
the broker, the strategy account and the ledger agree. -/
theorem evaluate_passes_iff (tolerance : Money) (kind : ReconciliationKind)
    (facts : ReconciliationFacts) (startedAt completedAt : DateTime) :
    (∃ receipt, evaluate evidenceHash canonicalJson tolerance kind facts startedAt completedAt =
        .ok receipt ∧ receipt.blockers = []) ↔
      startedAt ≤ completedAt ∧ Reconciled facts tolerance := by
  unfold evaluate
  dsimp only
  split_ifs with hclock
  · exact iff_of_false (by simp) fun h => hclock.not_ge h.1
  · simp only [Except.ok.injEq, exists_eq_left', details, blockersOf_eq_nil, not_lt.mp hclock,
      true_and]
    exact ReconciliationFacts.clear_findings

end Reconciliation

end FirmQuant
