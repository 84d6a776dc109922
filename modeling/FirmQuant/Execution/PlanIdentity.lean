import FirmQuant.Execution.PlanAuthority
import FirmQuant.Foundation.StableSort

/-!
# The identity of a plan

What the digests of a broker snapshot and of a plan are taken of, and how a plan depends on the
order in which the decision and the broker list things: only through the order of the pending orders
that trade one symbol on one side.
-/

namespace FirmQuant

open Decimal Effect

/-! ## What the digests are taken of -/

/-- An instrument in the digest of the broker snapshot. -/
structure InstrumentIdentity where
  symbol : Symbol
  securityType : SecurityType
  status : SecurityStatus
  tradingUnit : ℕ
  priceTick : Price
  pricePrecision : ℕ
  lowerLimit : Option Price
  upperLimit : Option Price
  observedAt : DateTime

/-- A quote in the digest of the broker snapshot. -/
structure QuoteIdentity where
  symbol : Symbol
  lastPrice : Option Price
  previousClose : Option Price
  bidPrice : Option Price
  askPrice : Option Price
  volume : ℕ
  turnover : Money
  lowerLimit : Option Price
  upperLimit : Option Price
  sequence : ℕ
  eventTime : DateTime
  receivedAt : DateTime

/-- What `ExecutionBrokerSnapshot.sha256` is taken of. -/
structure BrokerIdentity where
  brokerSnapshotSha256 : Digest
  sessionDate : Date
  capturedAt : DateTime
  marketStatus : MarketSessionStatus
  instruments : List InstrumentIdentity
  quotes : List QuoteIdentity

/-- An order in the digest of a plan. -/
structure OrderIdentity where
  uquantOrderId : String
  symbol : Symbol
  side : Side
  targetWeight : ℚ
  authorizedShares : ℕ
  limitPrice : Price

/-- What the digest of a plan is taken of. -/
structure PlanIdentity where
  decisionId : String
  strategySession : Date
  executionSession : Date
  brokerSnapshotSha256 : Digest
  orders : List OrderIdentity
  blockers : List PlanningBlocker

namespace ExecutionBrokerSnapshot

/-- `sorted(..., key=lambda fact: fact.symbol.canonical)`. -/
def SymbolLE {α : Type} (symbol : α → Symbol) (a b : α) : Prop :=
  (symbol a).canonical ≤ (symbol b).canonical

instance {α : Type} (symbol : α → Symbol) : DecidableRel (SymbolLE symbol) :=
  fun _ _ => inferInstanceAs (Decidable (_ ≤ _))

/-- What the digest of a broker snapshot is taken of, with the digest of the broker's raw
payload. -/
def identity (broker : ExecutionBrokerSnapshot) (rawPayloadSha256 : Digest) : BrokerIdentity where
  brokerSnapshotSha256 := rawPayloadSha256
  sessionDate := broker.brokerSnapshot.sessionDate
  capturedAt := broker.brokerSnapshot.capturedAt
  marketStatus := broker.marketStatus
  instruments := (broker.instruments.insertionSort (SymbolLE (·.symbol))).map fun item => {
    symbol := item.symbol
    securityType := item.securityType
    status := item.status
    tradingUnit := item.tradingUnit
    priceTick := item.priceTick
    pricePrecision := item.pricePrecision
    lowerLimit := item.lowerLimit
    upperLimit := item.upperLimit
    observedAt := item.observedAt }
  quotes := (broker.quotes.insertionSort (SymbolLE (·.symbol))).map fun item => {
    symbol := item.symbol
    lastPrice := item.lastPrice
    previousClose := item.previousClose
    bidPrice := item.bidPrice
    askPrice := item.askPrice
    volume := item.volume
    turnover := item.turnover
    lowerLimit := item.lowerLimit
    upperLimit := item.upperLimit
    sequence := item.sequence
    eventTime := item.eventTime
    receivedAt := item.receivedAt }

end ExecutionBrokerSnapshot

/-- The digests of these records. -/
structure IdentityDigests where
  broker : BrokerIdentity → Digest
  plan : PlanIdentity → Digest

/-- The digests of the planner, for a raw payload of the broker and an execution session. -/
def IdentityDigests.planDigests (hash : IdentityDigests) (rawPayloadSha256 : Digest)
    (executionSession : Date) : PlanDigests where
  brokerSnapshot broker := hash.broker (broker.identity rawPayloadSha256)
  plan snapshot brokerSnapshotSha256 orders blockers := hash.plan {
    decisionId := snapshot.decisionId
    strategySession := snapshot.strategySession
    executionSession := executionSession
    brokerSnapshotSha256 := brokerSnapshotSha256
    orders := orders.map fun item => {
      uquantOrderId := item.uquantOrderId
      symbol := item.symbol
      side := item.side
      targetWeight := item.targetWeight
      authorizedShares := item.uquantAuthorizedShares
      limitPrice := item.limitPrice }
    blockers := blockers }

lemma Symbol.canonical_injective : Function.Injective Symbol.canonical := by
  intro a b h
  obtain ⟨market, code⟩ := a
  obtain ⟨market', code'⟩ := b
  unfold Symbol.canonical at h
  have hlist := congrArg String.toList h
  cases market <;> cases market' <;>
    simp only [String.toList_append] at hlist <;>
    simp_all [String.toList_inj]

namespace ExecutionPlanner

variable {hash : IdentityDigests} {raw : Digest} {decision decision' : DecisionSnapshot}
  {broker broker' : ExecutionBrokerSnapshot} {freeze : Bool}

/-! ## Facts in another order -/

/-- Broker snapshots that differ in the order of their facts. -/
structure Reordered (broker broker' : ExecutionBrokerSnapshot) : Prop where
  positions : broker.brokerSnapshot.positions.Perm broker'.brokerSnapshot.positions
  orders : broker.brokerSnapshot.orders.Perm broker'.brokerSnapshot.orders
  instruments : broker.instruments.Perm broker'.instruments
  quotes : broker.quotes.Perm broker'.quotes
  rest : broker'.brokerSnapshot = { broker.brokerSnapshot with
    positions := broker'.brokerSnapshot.positions
    orders := broker'.brokerSnapshot.orders }
  marketStatus : broker'.marketStatus = broker.marketStatus

/-- Decisions that differ in the order of their pending orders. -/
structure Permuted (decision decision' : DecisionSnapshot) : Prop where
  rest : decision' = { decision with
    payloadJson := decision'.payloadJson
    payloadSha256 := decision'.payloadSha256 }
  items : ∃ pending pending' freeze, decisionItems decision = .ok (pending, freeze) ∧
    decisionItems decision' = .ok (pending', freeze) ∧ pending.Perm pending'

instance {α : Type} (symbol : α → Symbol) :
    Std.Total (ExecutionBrokerSnapshot.SymbolLE symbol) := ⟨fun _ _ => le_total _ _⟩

instance {α : Type} (symbol : α → Symbol) :
    IsTrans α (ExecutionBrokerSnapshot.SymbolLE symbol) := ⟨fun _ _ _ => le_trans⟩

/-- Facts with one for each symbol are sorted to one list. -/
lemma insertionSort_symbol_perm {α : Type} {symbol : α → Symbol} {l l' : List α}
    (hnodup : (l.map symbol).Nodup) (h : l.Perm l') :
    l.insertionSort (ExecutionBrokerSnapshot.SymbolLE symbol) =
      l'.insertionSort (ExecutionBrokerSnapshot.SymbolLE symbol) := by
  rw [List.insertionSort_eq_iff]
  intro a
  refine List.filter_eq_of_perm hnodup h fun b c hb hc => ?_
  have hab : List.Tied (ExecutionBrokerSnapshot.SymbolLE symbol) a b := by simpa using hb
  have hac : List.Tied (ExecutionBrokerSnapshot.SymbolLE symbol) a c := by simpa using hc
  have hb' : (symbol b).canonical = (symbol a).canonical := le_antisymm hab.2 hab.1
  have hc' : (symbol a).canonical = (symbol c).canonical := le_antisymm hac.1 hac.2
  exact Symbol.canonical_injective (hb'.trans hc')

/-- The digest of the broker snapshot does not depend on the order. -/
lemma identity_reordered (h : Reordered broker broker') :
    broker'.identity raw = broker.identity raw := by
  unfold ExecutionBrokerSnapshot.identity
  rw [insertionSort_symbol_perm broker.instruments_nodup h.instruments,
    insertionSort_symbol_perm broker.quotes_nodup h.quotes, h.rest, h.marketStatus]

/-- What becomes of a pending order does not depend on the order of anything. -/
lemma project_reordered (hdecisions : Permuted decision decision') (h : Reordered broker broker')
    (hpositions : (broker.brokerSnapshot.positions.map (·.symbol)).Nodup) :
    project decision' broker' freeze = project decision broker freeze := by
  funext order
  have hids : order.orderId ∈ broker'.clientIds ↔ order.orderId ∈ broker.clientIds :=
    (h.orders.filterMap _).mem_iff.symm
  have hinstrument : broker'.instrument order.symbol = broker.instrument order.symbol :=
    (List.find?_key_perm broker.instruments_nodup h.instruments).symm
  have hquote : broker'.quote order.symbol = broker.quote order.symbol :=
    (List.find?_key_perm broker.quotes_nodup h.quotes).symm
  have hcurrent : broker'.currentShares order.symbol = broker.currentShares order.symbol := by
    unfold ExecutionBrokerSnapshot.currentShares
    rw [List.find?_key_perm hpositions h.positions]
  have hequity : broker'.equity = broker.equity := by
    unfold ExecutionBrokerSnapshot.equity
    rw [h.rest]
  have hcreate : ∀ instrument reference authorized current desired,
      createOrder decision' broker' order instrument reference authorized current desired =
        createOrder decision broker order instrument reference authorized current desired := by
    intro instrument reference authorized current desired
    unfold createOrder
    rw [hdecisions.rest, h.rest]
  unfold project sizeOrder
  simp only [hids, hinstrument, hquote, hcurrent, hequity, hcreate, h.marketStatus]

/-! ## The sorted outcomes -/

instance : Std.Total BlockerLE where
  total _ _ := SortKey.total (le_total _ _)

instance : IsTrans PlanningBlocker BlockerLE where
  trans _ _ _ := SortKey.trans le_trans

/-- Blockers that compare as equal have one order id. -/
lemma id_of_tied {a b : PlanningBlocker} (h : List.Tied BlockerLE a b) :
    a.uquantOrderId = b.uquantOrderId :=
  (SortKey.tied h.1 h.2).1

/-- Planned orders that compare as equal trade one symbol on one side. -/
lemma tied_iff {a b : ReasonedOrder} : List.Tied OrderLE a b ↔ SameTrade a b := by
  unfold List.Tied OrderLE SameTrade
  constructor
  · rintro ⟨hab, hba⟩
    by_cases hside : a.side = b.side
    · rw [if_pos hside] at hab
      rw [if_pos hside.symm] at hba
      exact ⟨Symbol.canonical_injective (le_antisymm hab hba), hside⟩
    · rw [if_neg hside] at hab
      rw [if_neg (Ne.symm hside)] at hba
      exact absurd (hab.trans hba.symm) hside
  · rintro ⟨hsymbol, hside⟩
    rw [if_pos hside, if_pos hside.symm, hsymbol]
    exact ⟨le_refl _, le_refl _⟩

variable {orders orders' : List PendingOrder}

/-- Outcomes that carry the id of their order have different ids. -/
lemma nodup_outcomes {α : Type} {f : PendingOrder → Option α} {id : α → String}
    (hid : ∀ order a, f order = some a → id a = order.orderId)
    (hnodup : (orders.map (·.orderId)).Nodup) : ((orders.filterMap f).map id).Nodup := by
  rw [List.Nodup, List.pairwise_map] at hnodup ⊢
  rw [List.pairwise_filterMap]
  refine hnodup.imp fun {order other} hne a ha b hb => ?_
  rw [hid order a ha, hid other b hb]
  exact hne

lemma id_of_planned {order : PendingOrder} {planned : ReasonedOrder}
    (h : plannedOf decision broker freeze order = some planned) :
    planned.uquantOrderId = order.orderId := by
  obtain ⟨_, _, -, -, hauthorizes⟩ := plannedOf_eq_some h
  exact hauthorizes.id

lemma id_of_blocker {order : PendingOrder} {blocker : PlanningBlocker}
    (h : blockerOf decision broker freeze order = some blocker) :
    blocker.uquantOrderId = order.orderId := by
  unfold blockerOf at h
  split at h
  · cases h
    rfl
  · cases h

lemma blockers_perm (hnodup : (orders.map (·.orderId)).Nodup) (h : orders.Perm orders') :
    (orders.filterMap (blockerOf decision broker freeze)).insertionSort BlockerLE =
      (orders'.filterMap (blockerOf decision broker freeze)).insertionSort BlockerLE := by
  have hids : ((orders.filterMap (blockerOf decision broker freeze)).map
      (·.uquantOrderId)).Nodup := nodup_outcomes (fun _ _ => id_of_blocker) hnodup
  rw [List.insertionSort_eq_iff]
  intro a
  refine List.filter_eq_of_perm hids (h.filterMap _) fun b c hb hc => ?_
  have hab : List.Tied BlockerLE a b := by simpa using hb
  have hac : List.Tied BlockerLE a c := by simpa using hc
  exact (id_of_tied hab).symm.trans (id_of_tied hac)

/-- The pending orders that nothing blocks come in the same order, where they trade one symbol on
one side. -/
def SameTurns (broker : ExecutionBrokerSnapshot) (freeze : Bool)
    (orders orders' : List PendingOrder) : Prop :=
  ∀ a b, Executable broker freeze a → Executable broker freeze b → a.symbol = b.symbol →
    a.side = b.side → [a, b].Sublist orders → [a, b].Sublist orders'

/-- The planned orders are sorted to one list exactly if the orders of one symbol and side come in
the same order. -/
lemma planned_perm_iff (hnodup : (orders.map (·.orderId)).Nodup) (h : orders.Perm orders') :
    (orders.filterMap (plannedOf decision broker freeze)).insertionSort OrderLE =
        (orders'.filterMap (plannedOf decision broker freeze)).insertionSort OrderLE ↔
      SameTurns broker freeze orders orders' := by
  have hids : ((orders.filterMap (plannedOf decision broker freeze)).map
      (·.uquantOrderId)).Nodup := nodup_outcomes (fun _ _ => id_of_planned) hnodup
  rw [List.insertionSort_eq_iff_of_perm (List.Nodup.of_map _ hids) (h.filterMap _)]
  constructor
  · intro hplanned a b ha hb hsymbol hside hab
    obtain ⟨p, hp⟩ := (@executable_iff decision broker freeze a).mp ha
    obtain ⟨q, hq⟩ := (@executable_iff decision broker freeze b).mp hb
    obtain ⟨_, _, -, -, hfirst⟩ := plannedOf_eq_some hp
    obtain ⟨_, _, -, -, hsecond⟩ := plannedOf_eq_some hq
    have hsame : SameTrade p q :=
      ⟨by rw [hfirst.symbol, hsecond.symbol, hsymbol], by rw [hfirst.side, hsecond.side, hside]⟩
    have hpair : [a, b].filterMap (plannedOf decision broker freeze) = [p, q] := by
      simp [hp, hq]
    have hkept := hab.filterMap (plannedOf decision broker freeze)
    rw [hpair] at hkept
    obtain ⟨a', b', hab', hp', hq'⟩ :=
      List.exists_pair_of_filterMap (hplanned p q (tied_iff.mpr hsame) hkept)
    -- the ids tell which pending orders these are
    have hinj : ∀ x ∈ orders', ∀ y ∈ orders', x.orderId = y.orderId → x = y :=
      List.inj_on_of_nodup_map ((h.map _).nodup_iff.mp hnodup)
    have hmem : ∀ x ∈ [a, b], x ∈ orders' := fun x hx => h.subset (hab.subset hx)
    have hmem' : ∀ x ∈ [a', b'], x ∈ orders' := fun x hx => hab'.subset hx
    obtain rfl : a' = a := hinj _ (hmem' _ (by simp)) _ (hmem _ (by simp))
      ((id_of_planned hp').symm.trans (id_of_planned hp))
    obtain rfl : b' = b := hinj _ (hmem' _ (by simp)) _ (hmem _ (by simp))
      ((id_of_planned hq').symm.trans (id_of_planned hq))
    exact hab'
  · intro hturns p q htied hpq
    obtain ⟨a, b, hab, hp, hq⟩ := List.exists_pair_of_filterMap hpq
    obtain ⟨_, _, -, -, hfirst⟩ := plannedOf_eq_some hp
    obtain ⟨_, _, -, -, hsecond⟩ := plannedOf_eq_some hq
    obtain ⟨hsymbol, hside⟩ := tied_iff.mp htied
    rw [hfirst.symbol, hsecond.symbol] at hsymbol
    rw [hfirst.side, hsecond.side] at hside
    have hkept := (hturns a b (executable_iff.mpr ⟨p, hp⟩) (executable_iff.mpr ⟨q, hq⟩) hsymbol
      hside hab).filterMap (plannedOf decision broker freeze)
    have hpair : [a, b].filterMap (plannedOf decision broker freeze) = [p, q] := by
      simp [hp, hq]
    rwa [hpair] at hkept

/-! ## The plan -/

/-- The same orders in the same sequence, the same blockers and the same plan id. -/
structure SamePlan (result result' : PlanningResult) : Prop where
  orders : result'.orders = result.orders
  blockers : result'.blockers = result.blockers
  planId : result'.planId = result.planId

/-- The digests of the planner for a broker snapshot. -/
def digestsFor (hash : IdentityDigests) (raw : Digest) (broker : ExecutionBrokerSnapshot) :
    PlanDigests := hash.planDigests raw broker.brokerSnapshot.sessionDate

/-- For inputs in another order the planner returns too, and the plan is the same exactly if the
pending orders that nothing blocks come in the same order, where they trade one symbol on one
side. -/
theorem identity_iff {result : PlanningResult} (hdecisions : Permuted decision decision')
    (hbrokers : Reordered broker broker')
    (hpositions : (broker.brokerSnapshot.positions.map (·.symbol)).Nodup)
    (h : plan (digestsFor hash raw broker) decision broker = .ok result) :
    ∃ pending pending' freeze result', decisionItems decision = .ok (pending, freeze) ∧
      decisionItems decision' = .ok (pending', freeze) ∧
        plan (digestsFor hash raw broker') decision' broker' = .ok result' ∧
          (SamePlan result result' ↔ SameTurns broker freeze (pending.filterMap readItem)
            (pending'.filterMap readItem)) := by
  obtain ⟨hsession, pending, freeze, hitems, hall, hnodup, rfl⟩ := plan_eq_ok.mp h
  obtain ⟨pending₁, pending', freeze₁, hitems₁, hitems', hperm⟩ := hdecisions.items
  rw [hitems] at hitems₁
  cases hitems₁
  have horders : (pending.filterMap readItem).Perm (pending'.filterMap readItem) :=
    hperm.filterMap _
  have hproject := @project_reordered decision decision' broker broker' freeze hdecisions hbrokers
    hpositions
  have hplanned : plannedOf decision' broker' freeze = plannedOf decision broker freeze := by
    unfold plannedOf
    rw [hproject]
  have hblocked : blockerOf decision' broker' freeze = blockerOf decision broker freeze := by
    unfold blockerOf
    rw [hproject]
  have hdate : broker'.brokerSnapshot.sessionDate = broker.brokerSnapshot.sessionDate := by
    rw [hbrokers.rest]
  have hstrategy : decision'.strategySession = decision.strategySession := by
    rw [hdecisions.rest]
  have hdecision : decision'.decisionId = decision.decisionId := by rw [hdecisions.rest]
  have hblockers := @blockers_perm decision broker freeze _ _ hnodup horders
  have hsorted := @planned_perm_iff decision broker freeze _ _ hnodup horders
  refine ⟨pending, pending', freeze, _, hitems, hitems', plan_eq_ok.mpr ⟨?_, pending', freeze,
    hitems', fun item hmem => hall item (hperm.mem_iff.mpr hmem), ?_, rfl⟩, ?_⟩
  · rw [hdate, hstrategy]
    exact hsession
  · exact (horders.map _).nodup_iff.mp hnodup
  · rw [← hsorted]
    constructor
    · intro hsame
      have heq := hsame.orders
      unfold planOf at heq
      simp only [hplanned] at heq
      exact heq.symm
    · intro heq
      have hlist : (planOf (digestsFor hash raw broker') decision' broker' freeze
          (pending'.filterMap readItem)).orders = (planOf (digestsFor hash raw broker) decision
            broker freeze (pending.filterMap readItem)).orders := by
        unfold planOf
        simp only [hplanned]
        exact heq.symm
      have hsame : (planOf (digestsFor hash raw broker') decision' broker' freeze
          (pending'.filterMap readItem)).blockers = (planOf (digestsFor hash raw broker) decision
            broker freeze (pending.filterMap readItem)).blockers := by
        unfold planOf
        simp only [hblocked]
        exact hblockers.symm
      refine ⟨hlist, hsame, ?_⟩
      unfold planOf digestsFor IdentityDigests.planDigests at hlist hsame ⊢
      simp only at hlist hsame ⊢
      rw [hlist, hsame, identity_reordered hbrokers, hdate, hstrategy, hdecision]

/-! ## Two orders in either sequence -/

/-- Two orders of one symbol in both sequences. -/
lemma permuted_orders : Permuted (decisionOf [wholeOrder "a", wholeOrder "b"])
    (decisionOf [wholeOrder "b", wholeOrder "a"]) := by
  refine ⟨rfl, _, _, false, decisionItems_decisionOf ?_, decisionItems_decisionOf ?_, ?_⟩
  iterate 2 exact ⟨exact_wholeOrder _, exact_wholeOrder _, trivial⟩
  · exact List.Perm.swap _ _ _

lemma reordered_self : Reordered broker broker :=
  ⟨.refl _, .refl _, .refl _, .refl _, rfl, rfl⟩

def sampleHash : IdentityDigests where
  broker _ := "snapshot"
  plan _ := "plan"

theorem swapped_identity_iff : ∃ result, plan (digestsFor sampleHash "raw" wealthyBroker)
      (decisionOf [wholeOrder "a", wholeOrder "b"]) wealthyBroker = .ok result ∧
    ∃ pending pending' freeze result',
      decisionItems (decisionOf [wholeOrder "a", wholeOrder "b"]) = .ok (pending, freeze) ∧
        decisionItems (decisionOf [wholeOrder "b", wholeOrder "a"]) = .ok (pending', freeze) ∧
          plan (digestsFor sampleHash "raw" wealthyBroker)
            (decisionOf [wholeOrder "b", wholeOrder "a"]) wealthyBroker = .ok result' ∧
            (SamePlan result result' ↔ SameTurns wealthyBroker freeze
              (pending.filterMap readItem) (pending'.filterMap readItem)) := by
  have hplan := @plan_pair (digestsFor sampleHash "raw" wealthyBroker) "a" "b" (by decide +kernel)
  exact ⟨_, hplan, identity_iff permuted_orders reordered_self List.nodup_nil hplan⟩

/-- The sequence of two orders of one symbol shows in the plan. -/
theorem swapped_plans_differ : ¬ ∀ hash raw decision decision' broker broker' result result',
    Permuted decision decision' → Reordered broker broker' →
      (broker.brokerSnapshot.positions.map (·.symbol)).Nodup →
        plan (digestsFor hash raw broker) decision broker = .ok result →
          plan (digestsFor hash raw broker') decision' broker' = .ok result' →
            SamePlan result result' := by
  intro h
  have hsame := h sampleHash "raw" _ _ wealthyBroker wealthyBroker _ _ permuted_orders
    reordered_self List.nodup_nil (plan_pair "a" "b" (by decide +kernel))
      (plan_pair "b" "a" (by decide +kernel))
  have hids := congrArg (List.map fun planned => planned.uquantOrderId) hsame.orders
  revert hids
  decide +kernel

end ExecutionPlanner

end FirmQuant
