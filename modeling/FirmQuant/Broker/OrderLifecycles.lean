import FirmQuant.Broker.XtQuantProduction
import FirmQuant.Persistence.MonotonicLedger

/-!
# Order lifecycles and the ledger

The observations of one broker order, the facts that the transport makes of them and what the
monotonic ledger does with these facts, one after the other.

The status of an order only advances, except that a rejected cancel takes it back from
`PENDING_CANCEL`, and an observation reports the status or `UNKNOWN`.
-/

namespace FirmQuant

open Effect

/-! ## Lifecycles -/

namespace BrokerOrderStatus

/-- The status of an order may change so at the broker. -/
def Advances (a b : BrokerOrderStatus) : Prop :=
  b = a ∨ (a ∉ terminal ∧
    (a.rank ≤ b.rank ∨ (a = pendingCancel ∧ (b = acknowledged ∨ b = partiallyFilled))))

instance (a b : BrokerOrderStatus) : Decidable (a.Advances b) :=
  inferInstanceAs (Decidable (_ ∨ _))

end BrokerOrderStatus

/-- An observation of an order, with the status that the order has at the broker. -/
structure OrderObservation where
  raw : XtOrder
  observedAt : DateTime
  actual : BrokerOrderStatus

/-- The fields of two SDK objects that name the same order. -/
structure SameOrder (a b : XtOrder) : Prop where
  orderId : a.orderId = b.orderId
  orderRemark : a.orderRemark = b.orderRemark
  stockCode : a.stockCode = b.stockCode
  orderType : a.orderType = b.orderType
  orderVolume : a.orderVolume = b.orderVolume
  price : a.price = b.price

/-- Two observations of an order, one after the other. -/
structure LifecycleStep (a b : OrderObservation) : Prop where
  same : SameOrder a.raw b.raw
  filled : ∀ m n, XtQuantTransport.filledVolume a.raw = .ok m →
    XtQuantTransport.filledVolume b.raw = .ok n → m ≤ n
  advances : a.actual.Advances b.actual

/-- The status of an order is known to the broker, and the SDK reports it or `UNKNOWN`. -/
def XtQuantTransport.Reports (transport : XtQuantTransport) (o : OrderObservation) : Prop :=
  o.actual ≠ .unknown ∧ ∀ status, transport.orderStatus o.raw = .ok status →
    status = o.actual ∨ status = .unknown

/-- The observations of one order, in their order. -/
structure Lifecycle (transport : XtQuantTransport) (observations : List OrderObservation) :
    Prop where
  reports : ∀ o ∈ observations, transport.Reports o
  steps : List.IsChain LifecycleStep observations

/-- The facts that the transport makes of observations. -/
def XtQuantTransport.orders (transport : XtQuantTransport) (observations : List OrderObservation) :
    Except TransportError (List BrokerOrderFact) :=
  observations.mapM fun o => transport.order o.raw o.observedAt

namespace Ledger

/-- `_record_broker_order` of one fact after the other. -/
def recordBrokerOrders (facts : List BrokerOrderFact) (executionId : ExecutionId) :
    LedgerTxn PUnit :=
  match facts with
  | [] => pure ⟨⟩
  | fact :: facts => do
    recordBrokerOrder fact executionId
    recordBrokerOrders facts executionId

end Ledger

/-! ## When an observation fits after another -/

/-- The filled volume that an observation reports. -/
def OrderObservation.filled (o : OrderObservation) : ℕ :=
  ((XtQuantTransport.filledVolume o.raw).toOption).getD 0

namespace XtQuantTransport

variable (transport : XtQuantTransport)

/-- The status that an observation reports. -/
def reported (o : OrderObservation) : Option BrokerOrderStatus :=
  (transport.orderStatus o.raw).toOption

/-- The day of the order time that an observation reports. -/
def session (o : OrderObservation) : Option Date :=
  ((transport.orderTime o.raw o.observedAt).toOption).map shanghaiDate

/-- The second observation of an order fits after the first one: their order times fall on one day,
`UNKNOWN` is reported after a known status only with a new fill and before the end, and the order
does not return from `PENDING_CANCEL`. -/
structure FollowsOn (a b : OrderObservation) : Prop where
  session : transport.session a = transport.session b
  unknown : transport.reported b = some .unknown → transport.reported a = some .unknown ∨
    ((∀ status ∈ BrokerOrderStatus.terminal, transport.reported a ≠ some status) ∧
      a.filled < b.filled)
  cancel : transport.reported a = some .pendingCancel →
    transport.reported b ≠ some .acknowledged ∧ transport.reported b ≠ some .partiallyFilled

end XtQuantTransport

/-- The same of the facts. -/
structure FactFollows (a b : BrokerOrderFact) : Prop where
  sessionDate : a.sessionDate = b.sessionDate
  unknown : b.status = .unknown → a.status = .unknown ∨
    (a.status ∉ BrokerOrderStatus.terminal ∧ a.filledShares < b.filledShares)
  cancel : a.status = .pendingCancel → b.status ≠ .acknowledged ∧ b.status ≠ .partiallyFilled

section Facts

variable {o a b : OrderObservation} {fact fact' : BrokerOrderFact} {transport : XtQuantTransport}

/-- What a fact takes from its observation. -/
lemma XtQuantTransport.fact_of_order (h : transport.order o.raw o.observedAt = .ok fact) :
    transport.reported o = some fact.status ∧ o.filled = fact.filledShares ∧
      transport.session o = some fact.sessionDate := by
  obtain ⟨payload, hreads, hholds⟩ := order_eq_ok h
  refine ⟨?_, ?_, ?_⟩
  · rw [reported, hreads.status, hholds.status]
    rfl
  · rw [OrderObservation.filled, hreads.filledShares, hholds.filledShares]
    rfl
  · rw [session, hreads.eventTime, hholds.sessionDate, hreads.sessionDate]
    rfl

/-- An observation fits after another just if its fact does. -/
lemma XtQuantTransport.followsOn_iff (ha : transport.order a.raw a.observedAt = .ok fact)
    (hb : transport.order b.raw b.observedAt = .ok fact') :
    transport.FollowsOn a b ↔ FactFollows fact fact' := by
  obtain ⟨hastatus, hafilled, hasession⟩ := fact_of_order ha
  obtain ⟨hbstatus, hbfilled, hbsession⟩ := fact_of_order hb
  have hterminal : (∀ status ∈ BrokerOrderStatus.terminal, transport.reported a ≠ some status) ↔
      fact.status ∉ BrokerOrderStatus.terminal := by
    rw [hastatus]
    constructor
    · intro h hmem
      exact h _ hmem rfl
    · intro h status hmem heq
      exact h (Option.some.inj heq ▸ hmem)
  constructor
  · rintro ⟨hsession, hunknown, hcancel⟩
    rw [hterminal, hafilled, hbfilled] at hunknown
    simp only [hastatus, hbstatus, hasession, hbsession, Option.some.injEq, ne_eq]
      at hsession hunknown hcancel
    exact ⟨hsession, hunknown, hcancel⟩
  · rintro ⟨hsession, hunknown, hcancel⟩
    refine ⟨by rw [hasession, hbsession, hsession], ?_, ?_⟩
    · rw [hterminal, hafilled, hbfilled]
      simpa only [hastatus, hbstatus, Option.some.injEq] using hunknown
    · simpa only [hastatus, hbstatus, Option.some.injEq, ne_eq] using hcancel

/-- What the transport makes of two observations, one after the other. -/
structure SuccessiveFacts (a b : BrokerOrderFact) : Prop where
  brokerOrderId : a.brokerOrderId = b.brokerOrderId
  clientOrderId : a.clientOrderId = b.clientOrderId
  symbol : a.symbol = b.symbol
  side : a.side = b.side
  requestedShares : a.requestedShares = b.requestedShares
  limitPrice : a.limitPrice = b.limitPrice
  filled : a.filledShares ≤ b.filledShares
  status : a.status = .unknown ∨ b.status = .unknown ∨ a.status.Advances b.status
  sequenceBefore : a.eventSequence = orderSequence a.status a.filledShares
  sequenceAfter : b.eventSequence = orderSequence b.status b.filledShares

/-- The facts of successive observations are successive. -/
lemma successiveFacts
    (hstep : LifecycleStep a b) (ha : transport.Reports a) (hb : transport.Reports b)
    (hfact : transport.order a.raw a.observedAt = .ok fact)
    (hfact' : transport.order b.raw b.observedAt = .ok fact') : SuccessiveFacts fact fact' := by
  obtain ⟨p, hp, hf⟩ := XtQuantTransport.order_eq_ok hfact
  obtain ⟨q, hq, hg⟩ := XtQuantTransport.order_eq_ok hfact'
  obtain ⟨m, hm, hpid⟩ := hp.brokerOrderId
  obtain ⟨n, hn, hqid⟩ := hq.brokerOrderId
  have hid : m = n := by
    have hsame : XtQuantTransport.orderId a.raw = XtQuantTransport.orderId b.raw := by
      unfold XtQuantTransport.orderId
      rw [hstep.same.orderId]
    rw [hsame, hn] at hm
    exact (Except.ok.inj hm).symm
  have hclient : p.clientOrderId = q.clientOrderId := by
    rw [hp.clientOrderId, hq.clientOrderId]
    unfold clientTag
    rw [hstep.same.orderRemark]
  have hsymbol : p.symbol = q.symbol := by
    have hread := hp.symbol
    unfold XtQuantTransport.stockCode at hread
    rw [hstep.same.stockCode] at hread
    exact Except.ok.inj (hread.symm.trans hq.symbol)
  have hside : p.side = q.side := by
    have hread := hp.side
    unfold XtQuantTransport.side at hread
    rw [hstep.same.orderType] at hread
    exact Except.ok.inj (hread.symm.trans hq.side)
  have hrequested : p.requestedShares = q.requestedShares := by
    have hread := hp.requestedShares
    unfold XtQuantTransport.requestedVolume at hread
    rw [hstep.same.orderVolume] at hread
    exact Except.ok.inj (hread.symm.trans hq.requestedShares)
  have hprice : p.limitPrice = q.limitPrice := by
    have hread := hp.limitPrice
    unfold XtQuantTransport.limitPrice at hread
    rw [hstep.same.price] at hread
    exact Except.ok.inj (hread.symm.trans hq.limitPrice)
  have hlimit : fact.limitPrice = fact'.limitPrice := by
    have hvalue : fact.limitPrice.value = fact'.limitPrice.value := by
      rw [hf.limitPrice, hg.limitPrice, hprice]
    cases hx : fact.limitPrice
    cases hy : fact'.limitPrice
    rw [hx, hy] at hvalue
    cases hvalue
    rfl
  exact {
    brokerOrderId := by rw [hf.brokerOrderId, hg.brokerOrderId, hpid, hqid, hid]
    clientOrderId := by rw [hf.clientOrderId, hg.clientOrderId, hclient]
    symbol := Option.some.inj (hf.symbol.symm.trans (hsymbol ▸ hg.symbol))
    side := by rw [hf.side, hg.side, hside]
    requestedShares := by rw [hf.requestedShares, hg.requestedShares, hrequested]
    limitPrice := hlimit
    filled := by
      rw [hf.filledShares, hg.filledShares]
      exact hstep.filled _ _ hp.filledShares hq.filledShares
    status := by
      rw [hf.status, hg.status]
      rcases ha.2 _ hp.status with hactual | hunknown
      · rcases hb.2 _ hq.status with hactual' | hunknown
        · rw [hactual, hactual']
          exact .inr (.inr hstep.advances)
        · exact .inr (.inl hunknown)
      · exact .inl hunknown
    sequenceBefore := by rw [hf.eventSequence, hf.status, hf.filledShares, hp.eventSequence]
    sequenceAfter := by rw [hg.eventSequence, hg.status, hg.filledShares, hq.eventSequence] }

namespace BrokerOrderStatus

variable {status a b : BrokerOrderStatus}

/-- The two rank tables differ on `UNKNOWN` alone. -/
lemma transportRank_eq (h : status ≠ unknown) :
    status.transportRank = status.rank := by
  cases status <;> first | rfl | exact absurd rfl h

lemma rank_le (status : BrokerOrderStatus) : status.rank ≤ 60 := by
  cases status <;> decide

lemma rank_pos (h : status ≠ unknown) : 10 ≤ status.rank := by
  cases status <;> first | decide | exact absurd rfl h

lemma transportRank_unknown : unknown.transportRank = 1 := rfl

lemma eq_of_rank_eq (ha : a ∉ terminal) (h : a.rank = b.rank) :
    a = b := by
  cases a <;> cases b <;> first | rfl | exact absurd h (by decide) | exact absurd (by decide) ha

/-- A status advances to a lower rank only from `PENDING_CANCEL`. -/
lemma Advances.returns (h : a.Advances b) (hrank : b.rank < a.rank) :
    a = pendingCancel ∧ (b = acknowledged ∨ b = partiallyFilled) := by
  rcases h with rfl | ⟨-, hle | hreturn⟩
  · exact absurd hrank (lt_irrefl _)
  · exact absurd hle (not_le.mpr hrank)
  · exact hreturn

end BrokerOrderStatus

/-! ## What the ledger stores -/

namespace Ledger

/-- The row of an order after a fact. -/
structure RowOf (row : BrokerOrderRow) (fact : BrokerOrderFact) (executionId : ExecutionId) :
    Prop where
  brokerOrderId : row.brokerOrderId = fact.brokerOrderId
  identity : sameOrderIdentity row fact executionId
  status : row.status = fact.status
  filledShares : row.filledShares = fact.filledShares
  lastEventSequence : row.lastEventSequence = some fact.eventSequence

/-- The ledger stores a fact as the last one of its order. -/
def Stores (ledger : Ledger) (fact : BrokerOrderFact) (executionId : ExecutionId) : Prop :=
  ∃ row, ledger.brokerOrders.find? (·.brokerOrderId = fact.brokerOrderId) = some row ∧
    RowOf row fact executionId

variable {ledger ledger' : Ledger} {fact : BrokerOrderFact} {executionId : ExecutionId}

lemma rowOf_brokerOrderRow : RowOf (brokerOrderRow fact executionId) fact executionId :=
  ⟨rfl, ⟨rfl, rfl, rfl, rfl, rfl, rfl, rfl, rfl⟩, rfl, rfl, rfl⟩

variable {row : BrokerOrderRow}

lemma stores_of_recordBrokerOrder {u : PUnit}
    (h : recordBrokerOrder fact executionId ledger = .ok (u, ledger')) :
    ledger'.Stores fact executionId := by
  cases recordBrokerOrder_ok h with
  | new hfind =>
    refine ⟨brokerOrderRow fact executionId, ?_, rowOf_brokerOrderRow⟩
    rw [List.find?_append, hfind]
    simp [brokerOrderRow]
  | again row hfind hid hidentity =>
    exact ⟨BrokerOrderRow.observe row fact, find?_observed hfind, hid, hidentity, rfl, rfl, rfl⟩

lemma some_else_eq_none {α : Type} {c : Prop} [Decidable c] {x : α} {y : Option α} :
    (if c then some x else y) = none ↔ ¬ c ∧ y = none := by
  by_cases h : c
  · simp [h]
  · simp [h]

/-- The ledger takes a fact just if none of its checks fails. -/
lemma orderRegression_eq_none {stored : ℕ} (hstored : row.lastEventSequence = some stored) :
    orderRegression row fact executionId = none ↔
      sameOrderIdentity row fact executionId ∧ ¬ fact.filledShares < row.filledShares ∧
        ¬ (row.status ∈ BrokerOrderStatus.terminal ∧ fact.status ≠ row.status) ∧
        ¬ (row.status ≠ .unknown ∧ fact.status ≠ .unknown ∧ fact.status ≠ row.status ∧
          fact.status.rank < row.status.rank) ∧
        ¬ fact.eventSequence < stored ∧
        ¬ (fact.eventSequence = stored ∧
          (fact.status ≠ row.status ∨ fact.filledShares ≠ row.filledShares)) := by
  unfold orderRegression
  rw [hstored]
  simp only [some_else_eq_none, not_not, and_true]

/-- A successive fact is taken after the stored one just if it follows it. -/
lemma orderRegression_eq_none_iff {a b : BrokerOrderFact} (hrow : RowOf row a executionId)
    (h : SuccessiveFacts a b) :
    orderRegression row b executionId = none ↔ FactFollows a b := by
  obtain ⟨hexecution, hownership, hclient, hsymbol, hside, hrequested, hlimit, hsession⟩ :=
    hrow.identity
  have hidentity : sameOrderIdentity row b executionId ↔ a.sessionDate = b.sessionDate := by
    unfold sameOrderIdentity
    rw [hexecution, hownership, hclient, hsymbol, hside, hrequested, hlimit, hsession,
      h.clientOrderId, h.symbol, h.side, h.requestedShares, h.limitPrice]
    simp
  have hfilled := h.filled
  have hbefore := h.sequenceBefore
  have hafter := h.sequenceAfter
  unfold orderSequence at hbefore hafter
  have hrankA := a.status.rank_le
  rw [orderRegression_eq_none hrow.lastEventSequence, hidentity, hrow.filledShares, hrow.status]
  by_cases hknownA : a.status = .unknown
  · -- after `UNKNOWN` every status has a sequence number of its own
    rw [hknownA, BrokerOrderStatus.transportRank_unknown] at hbefore
    have hrank : b.status = .unknown ∧ b.status.transportRank = 1 ∨
        10 ≤ b.status.transportRank := by
      by_cases hb : b.status = .unknown
      · exact .inl ⟨hb, by rw [hb]; rfl⟩
      · exact .inr (BrokerOrderStatus.transportRank_eq hb ▸ BrokerOrderStatus.rank_pos hb)
    constructor
    · rintro ⟨hdate, -⟩
      exact ⟨hdate, fun _ => .inl hknownA, fun hcancel => by rw [hknownA] at hcancel; cases hcancel⟩
    · rintro ⟨hdate, -, -⟩
      refine ⟨hdate, by omega, ?_, fun hknown => hknown.1 hknownA, by omega, ?_⟩
      · rintro ⟨hterminal, -⟩
        rw [hknownA] at hterminal
        exact absurd hterminal (by decide)
      · rintro ⟨hsame, hdiffer⟩
        rcases hrank with ⟨hunknown, hone⟩ | hten
        · rcases hdiffer with hstatus | hshares
          · exact hstatus (hunknown.trans hknownA.symm)
          · omega
        · omega
  · rw [BrokerOrderStatus.transportRank_eq hknownA] at hbefore
    have hposA := BrokerOrderStatus.rank_pos hknownA
    by_cases hknownB : b.status = .unknown
    · -- `UNKNOWN` has the smallest rank, so that only a new fill gives a later number
      rw [hknownB, BrokerOrderStatus.transportRank_unknown] at hafter
      constructor
      · rintro ⟨hdate, -, hterminal, -, hlater, -⟩
        refine ⟨hdate, fun _ => .inr ⟨fun hmem => hterminal ⟨hmem, ?_⟩, by omega⟩, fun _ => ?_⟩
        · rw [hknownB]
          exact Ne.symm hknownA
        · rw [hknownB]
          exact ⟨BrokerOrderStatus.noConfusion, BrokerOrderStatus.noConfusion⟩
      · rintro ⟨hdate, hunknown, -⟩
        obtain ⟨hterminal, hmore⟩ := (hunknown hknownB).resolve_left hknownA
        exact ⟨hdate, by omega, fun hmem => hterminal hmem.1, fun hknown => hknown.2.1 hknownB,
          by omega, by omega⟩
    · -- two known statuses: the rank falls only on the way back from `PENDING_CANCEL`
      rw [BrokerOrderStatus.transportRank_eq hknownB] at hafter
      have hadvances := (h.status.resolve_left hknownA).resolve_left hknownB
      constructor
      · rintro ⟨hdate, -, -, hrank, -⟩
        refine ⟨hdate, fun hunknown => absurd hunknown hknownB, fun hcancel => ?_⟩
        constructor
        all_goals
          intro hstatus
          exact hrank ⟨hknownA, hknownB, by rw [hcancel, hstatus]; decide,
            by rw [hcancel, hstatus]; decide⟩
      · rintro ⟨hdate, -, hcancel⟩
        have hrank : a.status.rank ≤ b.status.rank := by
          by_contra hfalls
          obtain ⟨hpending, hback⟩ := hadvances.returns (not_le.mp hfalls)
          obtain ⟨hnotAcknowledged, hnotPartial⟩ := hcancel hpending
          exact hback.elim hnotAcknowledged hnotPartial
        have hterminal : a.status ∈ BrokerOrderStatus.terminal → b.status = a.status := by
          intro hmem
          rcases hadvances with hsame | ⟨hnot, -⟩
          · exact hsame
          · exact absurd hmem hnot
        refine ⟨hdate, by omega, fun hmem => hmem.2 (hterminal hmem.1), by omega, by omega, ?_⟩
        rintro ⟨hsame, hdiffer⟩
        have hstatus : b.status = a.status := by
          by_cases hmem : a.status ∈ BrokerOrderStatus.terminal
          · exact hterminal hmem
          · exact (BrokerOrderStatus.eq_of_rank_eq hmem (by omega)).symm
        rcases hdiffer with hne | hne
        · exact hne hstatus
        · omega

/-- A stored fact is followed by the next one just if its observation fits. -/
lemma recordBrokerOrder_iff {transport : XtQuantTransport} {factA factB : BrokerOrderFact}
    (hstored : ledger.Stores factA executionId) (hstep : LifecycleStep a b)
    (ha : transport.Reports a) (hb : transport.Reports b)
    (hfactA : transport.order a.raw a.observedAt = .ok factA)
    (hfactB : transport.order b.raw b.observedAt = .ok factB) :
    (∃ ledger', recordBrokerOrder factB executionId ledger = .ok (⟨⟩, ledger')) ↔
      transport.FollowsOn a b := by
  obtain ⟨row, hfind, hrow⟩ := hstored
  have hsuccessive := successiveFacts hstep ha hb hfactA hfactB
  rw [hsuccessive.brokerOrderId] at hfind
  rw [XtQuantTransport.followsOn_iff hfactA hfactB, ← orderRegression_eq_none_iff hrow hsuccessive]
  unfold recordBrokerOrder
  simp only [hfind]
  cases orderRegression row factB executionId with
  | none => exact iff_of_true ⟨_, rfl⟩ rfl
  | some message =>
    refine iff_of_false ?_ (Option.some_ne_none message)
    rintro ⟨ledger', h⟩
    cases h

end Ledger

/-! ## Whole lifecycles -/

lemma XtQuantTransport.orders_cons
    {observations : List OrderObservation} {facts : List BrokerOrderFact}
    (h : transport.orders (o :: observations) = .ok facts) :
    ∃ fact rest, facts = fact :: rest ∧ transport.order o.raw o.observedAt = .ok fact ∧
      transport.orders observations = .ok rest := by
  unfold orders at h
  rw [List.mapM_cons] at h
  obtain ⟨fact, hfact, h⟩ := bind_ok_iff.mp h
  obtain ⟨rest, hrest, h⟩ := bind_ok_iff.mp h
  cases h
  exact ⟨fact, rest, rfl, hfact, hrest⟩

namespace Ledger

variable {facts : List BrokerOrderFact} {observations : List OrderObservation}

variable {executionId : ExecutionId} {ledger : Ledger} {transport : XtQuantTransport}

lemma recordBrokerOrders_cons {fact : BrokerOrderFact} {ledger' : Ledger} :
    recordBrokerOrders (fact :: facts) executionId ledger = .ok (⟨⟩, ledger') ↔
      ∃ ledger₁, recordBrokerOrder fact executionId ledger = .ok (⟨⟩, ledger₁) ∧
        recordBrokerOrders facts executionId ledger₁ = .ok (⟨⟩, ledger') := by
  change (recordBrokerOrder fact executionId >>= fun _ => recordBrokerOrders facts executionId)
    ledger = _ ↔ _
  rw [Txn.bind_eq_ok]
  constructor
  · rintro ⟨_, ledger₁, hrecord, hrest⟩
    exact ⟨ledger₁, hrecord, hrest⟩
  · rintro ⟨ledger₁, hrecord, hrest⟩
    exact ⟨⟨⟩, ledger₁, hrecord, hrest⟩

/-- After a stored fact the rest of a lifecycle is taken just if each observation fits after the one
before it. -/
theorem recordBrokerOrders_iff :
    ∀ {ledger : Ledger} {o : OrderObservation} {fact : BrokerOrderFact}
      {facts : List BrokerOrderFact},
      ledger.Stores fact executionId → Lifecycle transport (o :: observations) →
      transport.order o.raw o.observedAt = .ok fact → transport.orders observations = .ok facts →
      ((∃ ledger', recordBrokerOrders facts executionId ledger = .ok (⟨⟩, ledger')) ↔
        List.IsChain transport.FollowsOn (o :: observations)) := by
  induction observations with
  | nil =>
    intro ledger o fact facts hstored hlife hfact hfacts
    cases hfacts
    exact iff_of_true ⟨ledger, rfl⟩ (List.isChain_singleton o)
  | cons next observations ih =>
    intro ledger o fact facts hstored hlife hfact hfacts
    obtain ⟨factNext, rest, rfl, hnext, hrest⟩ := XtQuantTransport.orders_cons hfacts
    obtain ⟨hstep, hsteps⟩ := List.isChain_cons_cons.mp hlife.steps
    have hreports := hlife.reports
    have hlifeNext : Lifecycle transport (next :: observations) :=
      ⟨fun x hx => hreports x (List.mem_cons_of_mem _ hx), hsteps⟩
    have hone := recordBrokerOrder_iff hstored hstep (hreports o List.mem_cons_self)
      (hreports next (List.mem_cons_of_mem _ List.mem_cons_self)) hfact hnext
    rw [List.isChain_cons_cons, ← hone]
    constructor
    · rintro ⟨ledger', h⟩
      obtain ⟨ledger₁, hrecord, hothers⟩ := recordBrokerOrders_cons.mp h
      have hstored₁ := stores_of_recordBrokerOrder hrecord
      exact ⟨⟨ledger₁, hrecord⟩, (ih hstored₁ hlifeNext hnext hrest).mp ⟨ledger', hothers⟩⟩
    · rintro ⟨⟨ledger₁, hrecord⟩, hchain⟩
      have hstored₁ := stores_of_recordBrokerOrder hrecord
      obtain ⟨ledger', hothers⟩ := (ih hstored₁ hlifeNext hnext hrest).mpr hchain
      exact ⟨ledger', recordBrokerOrders_cons.mpr ⟨ledger₁, hrecord, hothers⟩⟩

/-- The ledger has no order with the id or the client tag of a fact. -/
def NewFor (ledger : Ledger) (fact : BrokerOrderFact) : Prop :=
  ∀ row ∈ ledger.brokerOrders, row.brokerOrderId ≠ fact.brokerOrderId ∧
    (fact.clientOrderId.isSome → row.clientOrderId ≠ fact.clientOrderId)

/-- The first fact of a new order is taken. -/
lemma recordBrokerOrder_new {fact : BrokerOrderFact} (h : ledger.NewFor fact) :
    ∃ ledger', recordBrokerOrder fact executionId ledger = .ok (⟨⟩, ledger') := by
  have hfind : ledger.brokerOrders.find? (·.brokerOrderId = fact.brokerOrderId) = none := by
    rw [List.find?_eq_none]
    intro row hrow
    simpa using (h row hrow).1
  have hclient : ¬ (fact.clientOrderId.isSome ∧
      ledger.brokerOrders.any (·.clientOrderId = fact.clientOrderId)) := by
    rintro ⟨hsome, hany⟩
    obtain ⟨row, hrow, hsame⟩ := List.any_eq_true.mp hany
    exact (h row hrow).2 hsome (of_decide_eq_true hsame)
  unfold recordBrokerOrder
  simp only [hfind, if_neg hclient]
  exact ⟨_, rfl⟩

/-- The facts of a lifecycle are taken just if each observation fits after the one before it. -/
lemma recordBrokerOrders_new (hlife : Lifecycle transport observations)
    (hfacts : transport.orders observations = .ok facts)
    (hnew : ∀ fact ∈ facts, ledger.NewFor fact) :
    (∃ ledger', recordBrokerOrders facts executionId ledger = .ok (⟨⟩, ledger')) ↔
      List.IsChain transport.FollowsOn observations := by
  cases observations with
  | nil =>
    cases hfacts
    exact iff_of_true ⟨ledger, rfl⟩ List.isChain_nil
  | cons o observations =>
    obtain ⟨fact, rest, rfl, hfact, hrest⟩ := XtQuantTransport.orders_cons hfacts
    obtain ⟨ledger₁, hrecord⟩ := @recordBrokerOrder_new executionId ledger fact
      (hnew fact List.mem_cons_self)
    have hothers := recordBrokerOrders_iff (stores_of_recordBrokerOrder hrecord) hlife hfact hrest
    rw [← hothers]
    constructor
    · rintro ⟨ledger', h⟩
      obtain ⟨ledger₂, hrecord₂, hrest₂⟩ := recordBrokerOrders_cons.mp h
      rw [hrecord] at hrecord₂
      cases hrecord₂
      exact ⟨ledger', hrest₂⟩
    · rintro ⟨ledger', h⟩
      exact ⟨ledger', recordBrokerOrders_cons.mpr ⟨ledger₁, hrecord, h⟩⟩

end Ledger

end Facts

/-- The facts that the transport builds of a new order over its lifecycle are recorded one after the
other just if no order time falls on another day, `UNKNOWN` is never reported after a known status
without a new fill, and the order never returns from `PENDING_CANCEL`. -/
theorem lifecycle_recorded_iff {transport : XtQuantTransport}
    {observations : List OrderObservation} {facts : List BrokerOrderFact} {ledger : Ledger}
    {executionId : ExecutionId} (hlife : Lifecycle transport observations)
    (hfacts : transport.orders observations = .ok facts)
    (hnew : ∀ fact ∈ facts, ledger.NewFor fact) :
    (∃ ledger', Ledger.recordBrokerOrders facts executionId ledger = .ok (⟨⟩, ledger')) ↔
      List.IsChain transport.FollowsOn observations :=
  Ledger.recordBrokerOrders_new hlife hfacts hnew

/-! ## An order that becomes unknown -/

namespace LifecycleSample

def transport : XtQuantTransport where
  accountId := "1000001"
  constants := ⟨2, 23, 24, 11, 48, 49, 50, 51, 52, 53, 54, 55, 56, 57, 255⟩
  library := ⟨fun _ => none, fun _ => none, fun _ => none⟩
  payloadDigest payload := payload.brokerOrderId

/-- An order of two hundred shares, with the code of its status. -/
def raw (code : ℤ) (filled : ℤ) : XtOrder where
  accountId := some (.text "1000001")
  accountType := some (.int 2)
  priceType := some (.int 11)
  orderStatus := some (.int code)
  orderVolume := some (.int 200)
  tradedVolume := some (.int filled)
  orderTime := some (.int 1704159060)
  orderId := some (.int 7)
  orderRemark := some (.text "fq0123456789abcdef012345")
  stockCode := some (.text "600001.SH")
  orderType := some (.int 23)
  price := some (.number (1001 / 100))

/-- The order's execution. -/
def executionId : ExecutionId := ⟨⟨"d1", "o1", ⟨.sh, "600001"⟩, .buy, 200, 19723, "source"⟩⟩

/-- An acknowledged order, which is unknown at the next look. -/
def unknown : List OrderObservation :=
  [⟨raw 50 0, 0, .acknowledged⟩, ⟨raw 255 0, 1, .acknowledged⟩]

/-- An acknowledged order that is filled. -/
def filled : List OrderObservation :=
  [⟨raw 50 0, 0, .acknowledged⟩, ⟨raw 56 200, 1, .filled⟩]

lemma exists_facts {observations : List OrderObservation}
    (h : (transport.orders observations).toOption.isSome) :
    ∃ facts, transport.orders observations = .ok facts := by
  cases hfacts : transport.orders observations with
  | ok facts => exact ⟨facts, rfl⟩
  | error e =>
    rw [hfacts] at h
    cases h

lemma orderStatus_raw {code filled : ℤ} {status status' : BrokerOrderStatus}
    (h : transport.orderStatus (raw code filled) = .ok status)
    (hcode : transport.orderStatus (raw code filled) = .ok status') : status = status' :=
  Except.ok.inj (h.symm.trans hcode)

lemma lifecycle_unknown : Lifecycle transport unknown := by
  refine ⟨?_, List.isChain_cons_cons.mpr ⟨⟨⟨rfl, rfl, rfl, rfl, rfl, rfl⟩, ?_, by decide⟩,
    List.isChain_singleton _⟩⟩
  · intro o ho
    simp only [unknown, List.mem_cons, List.not_mem_nil, or_false] at ho
    rcases ho with rfl | rfl
    · exact ⟨by decide, fun status h => .inl (orderStatus_raw h rfl)⟩
    · exact ⟨by decide, fun status h => .inr (orderStatus_raw h rfl)⟩
  · rintro m n hm hn
    cases hm
    exact Nat.zero_le n

lemma lifecycle_filled : Lifecycle transport filled := by
  refine ⟨?_, List.isChain_cons_cons.mpr ⟨⟨⟨rfl, rfl, rfl, rfl, rfl, rfl⟩, ?_, by decide⟩,
    List.isChain_singleton _⟩⟩
  · intro o ho
    simp only [filled, List.mem_cons, List.not_mem_nil, or_false] at ho
    rcases ho with rfl | rfl
    all_goals exact ⟨by decide, fun status h => .inl (orderStatus_raw h rfl)⟩
  · rintro m n hm hn
    cases hm
    exact Nat.zero_le n

lemma newFor_empty (facts : List BrokerOrderFact) : ∀ fact ∈ facts, Ledger.empty.NewFor fact :=
  fun _ _ _ hrow => absurd hrow List.not_mem_nil

end LifecycleSample

section Samples

open LifecycleSample

/-- An order that is acknowledged and then filled is recorded. -/
theorem filled_order_recorded : ∃ facts, transport.orders filled = .ok facts ∧
    ∃ ledger', Ledger.recordBrokerOrders facts executionId Ledger.empty = .ok (⟨⟩, ledger') := by
  obtain ⟨facts, hfacts⟩ := @exists_facts filled (by decide +kernel)
  refine ⟨facts, hfacts,
    (lifecycle_recorded_iff lifecycle_filled hfacts (newFor_empty facts)).mpr ?_⟩
  refine List.isChain_cons_cons.mpr ⟨⟨rfl, ?_, ?_⟩, List.isChain_singleton _⟩
  · intro h
    cases h
  · intro h
    cases h

/-- An acknowledged order whose status becomes unknown is refused at the second fact. -/
theorem unknown_order_refused :
    ¬ ∀ (transport : XtQuantTransport) (observations : List OrderObservation)
      (facts : List BrokerOrderFact) (ledger : Ledger) (executionId : ExecutionId),
      Lifecycle transport observations → transport.orders observations = .ok facts →
      (∀ fact ∈ facts, ledger.NewFor fact) →
      ∃ ledger', Ledger.recordBrokerOrders facts executionId ledger = .ok (⟨⟩, ledger') := by
  intro hclaim
  obtain ⟨facts, hfacts⟩ := @exists_facts unknown (by decide +kernel)
  have hrecorded := hclaim transport unknown facts Ledger.empty executionId lifecycle_unknown hfacts
    (newFor_empty facts)
  have hchain := (Ledger.recordBrokerOrders_new lifecycle_unknown hfacts
    (newFor_empty facts)).mp hrecorded
  obtain ⟨hfollows, -⟩ := List.isChain_cons_cons.mp hchain
  rcases hfollows.unknown rfl with hknown | ⟨-, hmore⟩
  · cases hknown
  · exact absurd hmore (lt_irrefl 0)

end Samples

end FirmQuant
