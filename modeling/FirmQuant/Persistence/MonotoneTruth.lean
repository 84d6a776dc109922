import Mathlib.Tactic.IntervalCases
import FirmQuant.Persistence.MonotonicLedger

/-!
# Monotone broker truth

What the ledger stores of one broker order, along any sequence of facts in any order.  A fact that
`_record_broker_order` refuses leaves the stored row as it was.
-/

namespace FirmQuant

open Effect

namespace Ledger

/-- The stored row of a broker order. -/
def brokerOrder (ledger : Ledger) (brokerOrderId : String) : Option BrokerOrderRow :=
  ledger.brokerOrders.find? (·.brokerOrderId = brokerOrderId)

/-- Record a fact, or leave the ledger as it was when the fact is refused. -/
def observeFact (ledger : Ledger) (fact : BrokerOrderFact × ExecutionId) : Ledger :=
  match recordBrokerOrder fact.1 fact.2 ledger with
  | .ok (_, ledger') => ledger'
  | .error _ => ledger

/-- The ledger after a sequence of facts. -/
def observeFacts (ledger : Ledger) (facts : List (BrokerOrderFact × ExecutionId)) : Ledger :=
  facts.foldl observeFact ledger

/-- The columns of a broker order that never change. -/
structure SameIdentity (row row' : BrokerOrderRow) : Prop where
  brokerOrderId : row'.brokerOrderId = row.brokerOrderId
  executionId : row'.executionId = row.executionId
  ownership : row'.ownership = row.ownership
  clientOrderId : row'.clientOrderId = row.clientOrderId
  symbol : row'.symbol = row.symbol
  side : row'.side = row.side
  requestedShares : row'.requestedShares = row.requestedShares
  limitPrice : row'.limitPrice = row.limitPrice
  sessionDate : row'.sessionDate = row.sessionDate

/-- Row `row'` is later truth about the order of `row`. -/
structure Later (row row' : BrokerOrderRow) : Prop where
  identity : SameIdentity row row'
  filledShares : row.filledShares ≤ row'.filledShares
  /-- A stored sequence number is kept or raised. -/
  sequence : ∀ n, row.lastEventSequence = some n → ∃ m, row'.lastEventSequence = some m ∧ n ≤ m
  terminal : row.status ∈ BrokerOrderStatus.terminal → row'.status = row.status

lemma Later.refl (row : BrokerOrderRow) : Later row row :=
  ⟨⟨rfl, rfl, rfl, rfl, rfl, rfl, rfl, rfl, rfl⟩, le_refl _, fun n hn => ⟨n, hn, le_refl n⟩,
    fun _ => rfl⟩

lemma SameIdentity.trans {a b c : BrokerOrderRow} (h₁ : SameIdentity a b)
    (h₂ : SameIdentity b c) : SameIdentity a c where
  brokerOrderId := h₂.brokerOrderId.trans h₁.brokerOrderId
  executionId := h₂.executionId.trans h₁.executionId
  ownership := h₂.ownership.trans h₁.ownership
  clientOrderId := h₂.clientOrderId.trans h₁.clientOrderId
  symbol := h₂.symbol.trans h₁.symbol
  side := h₂.side.trans h₁.side
  requestedShares := h₂.requestedShares.trans h₁.requestedShares
  limitPrice := h₂.limitPrice.trans h₁.limitPrice
  sessionDate := h₂.sessionDate.trans h₁.sessionDate

lemma Later.trans {a b c : BrokerOrderRow} (h₁ : Later a b) (h₂ : Later b c) : Later a c := by
  refine ⟨h₁.identity.trans h₂.identity, h₁.filledShares.trans h₂.filledShares, ?_, ?_⟩
  · intro n hn
    obtain ⟨m, hm, hnm⟩ := h₁.sequence n hn
    obtain ⟨k, hk, hmk⟩ := h₂.sequence m hm
    exact ⟨k, hk, hnm.trans hmk⟩
  · intro hterminal
    have hb := h₁.terminal hterminal
    rw [← hb] at hterminal ⊢
    exact h₂.terminal hterminal

section Facts

variable {row : BrokerOrderRow} {fact : BrokerOrderFact} {executionId : ExecutionId}

/-- A fact that passes the checks is later truth, and between known statuses it does not lower the
rank. -/
lemma later_observe (h : orderRegression row fact executionId = none) :
    Later row (BrokerOrderRow.observe row fact) ∧
      (row.status ≠ .unknown → fact.status ≠ .unknown → row.status.rank ≤ fact.status.rank) := by
  unfold orderRegression at h
  split_ifs at h with hidentity hfilled hterminal hrank
  refine ⟨⟨⟨rfl, rfl, rfl, rfl, rfl, rfl, rfl, rfl, rfl⟩, not_lt.mp hfilled, ?_, ?_⟩, ?_⟩
  · intro n hn
    rw [hn] at h
    simp only at h
    split_ifs at h with hregressed
    exact ⟨fact.eventSequence, rfl, not_lt.mp hregressed⟩
  · intro hclosed
    exact not_not.mp fun hne => hterminal ⟨hclosed, hne⟩
  · intro hrow hfact
    by_cases hsame : fact.status = row.status
    · rw [hsame]
    · exact not_lt.mp fun hlt => hrank ⟨hrow, hfact, hsame, hlt⟩

/-- Finding the row of one order after every row of another order changed. -/
lemma find?_map_observe (rows : List BrokerOrderRow) (fact : BrokerOrderFact)
    (brokerOrderId : String) :
    (rows.map fun stored =>
      if stored.brokerOrderId = fact.brokerOrderId then BrokerOrderRow.observe stored fact
      else stored).find? (·.brokerOrderId = brokerOrderId) =
    (rows.find? (·.brokerOrderId = brokerOrderId)).map fun stored =>
      if stored.brokerOrderId = fact.brokerOrderId then BrokerOrderRow.observe stored fact
      else stored := by
  rw [List.find?_map]
  congr 2
  funext stored
  -- An observation keeps the id by which the row is found.
  dsimp only [Function.comp_apply]
  split_ifs
  · rfl
  · rfl

/-- A recorded fact changes the row of its own order only, and only to later truth. -/
lemma brokerOrder_observeFact {ledger : Ledger} {brokerOrderId : String}
    {fact : BrokerOrderFact × ExecutionId} (h : ledger.brokerOrder brokerOrderId = some row) :
    ∃ row', (ledger.observeFact fact).brokerOrder brokerOrderId = some row' ∧ Later row row' ∧
      (row.status ≠ .unknown → row'.status ≠ .unknown → row.status.rank ≤ row'.status.rank) := by
  have hkept : ∃ row', ledger.brokerOrder brokerOrderId = some row' ∧ Later row row' ∧
      (row.status ≠ .unknown → row'.status ≠ .unknown → row.status.rank ≤ row'.status.rank) :=
    ⟨row, h, Later.refl row, fun _ _ => le_refl _⟩
  unfold observeFact recordBrokerOrder
  cases hfind : ledger.brokerOrders.find? (·.brokerOrderId = fact.1.brokerOrderId) with
  | none =>
    dsimp only
    split_ifs
    · exact hkept
    · -- The new row belongs to another order and stands behind the stored one.
      refine ⟨row, ?_, Later.refl row, fun _ _ => le_refl _⟩
      unfold brokerOrder at h ⊢
      rw [List.find?_append, h]
      rfl
  | some stored =>
    dsimp only
    cases hregression : orderRegression stored fact.1 fact.2 with
    | some message => exact hkept
    | none =>
      have hfound := find?_map_observe ledger.brokerOrders fact.1 brokerOrderId
      unfold brokerOrder at h ⊢
      rw [h, Option.map_some] at hfound
      refine ⟨_, hfound, ?_⟩
      have hid : row.brokerOrderId = brokerOrderId := by simpa using List.find?_some h
      by_cases hsame : row.brokerOrderId = fact.1.brokerOrderId
      · -- The row of the fact's own order is the one that the checks were made against.
        rw [if_pos hsame]
        have hrow : row = stored := by
          rw [← hid, hsame, hfind] at h
          exact (Option.some.inj h).symm
        rw [← hrow] at hregression
        exact later_observe hregression
      · rw [if_neg hsame]
        exact ⟨Later.refl row, fun _ _ => le_refl _⟩

end Facts

/-! ## Any two points of a history -/

section History

variable (ledger : Ledger) (facts : List (BrokerOrderFact × ExecutionId)) (brokerOrderId : String)

/-- The stored row of a broker order after the first `n` facts of a history. -/
def rowAt (n : ℕ) : Option BrokerOrderRow :=
  (ledger.observeFacts (facts.take n)).brokerOrder brokerOrderId

variable {ledger facts brokerOrderId}

lemma rowAt_succ {n : ℕ} {row : BrokerOrderRow}
    (h : rowAt ledger facts brokerOrderId n = some row) :
    ∃ row', rowAt ledger facts brokerOrderId (n + 1) = some row' ∧ Later row row' ∧
      (row.status ≠ .unknown → row'.status ≠ .unknown → row.status.rank ≤ row'.status.rank) := by
  unfold rowAt at h ⊢
  rw [List.take_add_one]
  cases hget : facts[n]? with
  | none =>
    rw [Option.toList_none, List.append_nil]
    exact ⟨row, h, Later.refl row, fun _ _ => le_refl _⟩
  | some fact =>
    rw [Option.toList_some, observeFacts, List.foldl_append, List.foldl_cons, List.foldl_nil]
    exact brokerOrder_observeFact h

/-- Broker truth is monotone between any two points of any history of facts: the identity of a
stored order stays, its filled shares and its sequence number do not fall, a terminal status
stays, and as long as no stored status is UNKNOWN the rank does not fall. -/
theorem stored_truth_monotone {i j : ℕ} (hij : i ≤ j) {row : BrokerOrderRow}
    (h : rowAt ledger facts brokerOrderId i = some row) :
    ∃ row', rowAt ledger facts brokerOrderId j = some row' ∧ Later row row' ∧
      ((∀ k, i ≤ k → k ≤ j → ∀ stored, rowAt ledger facts brokerOrderId k = some stored →
        stored.status ≠ .unknown) → row.status.rank ≤ row'.status.rank) := by
  induction j, hij using Nat.le_induction with
  | base => exact ⟨row, h, Later.refl row, fun _ => le_refl _⟩
  | succ j hij ih =>
    obtain ⟨middle, hmiddle, hlater, hrank⟩ := ih
    obtain ⟨row', hrow', hlater', hrank'⟩ := rowAt_succ hmiddle
    refine ⟨row', hrow', hlater.trans hlater', ?_⟩
    intro hknown
    have hbefore : row.status.rank ≤ middle.status.rank :=
      hrank fun k hik hkj => hknown k hik (by omega)
    have hstep : middle.status.rank ≤ row'.status.rank :=
      hrank' (hknown j hij (by omega) middle hmiddle)
        (hknown (j + 1) (by omega) (le_refl _) row' hrow')
    exact hbefore.trans hstep

end History

/-- A fact about one order for two shares. -/
def orderFact (status : BrokerOrderStatus) (filledShares eventSequence : ℕ) (h : filledShares ≤ 2) :
    BrokerOrderFact × ExecutionId :=
  (⟨"broker", some "order", ⟨.sh, "600001"⟩, .buy, .limit, status, 2, filledShares,
    ⟨10, ten_pos⟩, 0, 0, 0, eventSequence, "raw", Nat.two_pos, h⟩,
    ⟨⟨"decision", "order", ⟨.sh, "600001"⟩, .buy, 2, 0, "uquant"⟩⟩)

/-- An order that is cancelled after one fill; its acknowledgement arrives once more in between. -/
def cancelledAfterFill : List (BrokerOrderFact × ExecutionId) :=
  [orderFact .acknowledged 0 1 zero_le_two, orderFact .partiallyFilled 1 3 one_le_two,
    orderFact .acknowledged 0 2 zero_le_two, orderFact .cancelled 1 4 one_le_two]

/-- From its acknowledgement to its cancel the order's stored truth moves forward. -/
theorem cancelled_order_truth_monotone :
    ∃ row, rowAt Ledger.empty cancelledAfterFill "broker" 1 = some row ∧
      row.status = .acknowledged ∧
      ∃ row', rowAt Ledger.empty cancelledAfterFill "broker" 4 = some row' ∧ Later row row' ∧
        row.status.rank ≤ row'.status.rank := by
  have hrow : rowAt Ledger.empty cancelledAfterFill "broker" 1 =
      some (brokerOrderRow (orderFact .acknowledged 0 1 (by decide)).1
        (orderFact .acknowledged 0 1 (by decide)).2) := by
    decide
  obtain ⟨row', hrow', hlater, hrank⟩ := stored_truth_monotone (show 1 ≤ 4 by decide) hrow
  refine ⟨_, hrow, rfl, row', hrow', hlater, hrank ?_⟩
  intro k hfrom hto stored hstored
  have hstatus : (rowAt Ledger.empty cancelledAfterFill "broker" k).map (·.status) ≠
      some .unknown := by
    interval_cases k <;> decide
  rw [hstored] at hstatus
  simpa using hstatus

end Ledger

end FirmQuant
