import FirmQuant.Execution.PlanBounds

/-!
# What a plan authorizes of one symbol

The plan as a function of the pending orders that the decision lists: each is read and projected on
its own, and the outcomes are sorted.  From this follows when the orders of one symbol and side
together stay within the target.
-/

namespace FirmQuant

open Decimal Effect

namespace ExecutionPlanner

variable {digests : PlanDigests} {snapshot : DecisionSnapshot} {broker : ExecutionBrokerSnapshot}
  {freeze : Bool} {order : PendingOrder} {planned : ReasonedOrder} {raw : Json}

/-! ## The plan as a function of the pending orders -/

/-- What an item of the array says, whatever was read before it. -/
def readItem (raw : Json) : Option PendingOrder := (readPending [] raw).toOption

variable {seen : List String} {tally tally' : Tally} {pending : List Json}
  {instrument : InstrumentFact} {reference : Price} {side : Side} {weight : ℚ}
  {current desired unit : ℕ} {orders : List ReasonedOrder}

/-- The ids seen before only refuse an item. -/
lemma readPending_of_fresh {other : List String} (hfresh : order.orderId ∉ other)
    (h : readPending seen raw = .ok order) : readPending other raw = .ok order := by
  unfold readPending at h ⊢
  split at h
  · obtain ⟨orderId, hid, h⟩ := bind_ok_iff.mp h
    obtain ⟨symbolText, hsymbol, h⟩ := bind_ok_iff.mp h
    obtain ⟨⟨⟩, -, h⟩ := bind_ok_iff.mp h
    have horder : order.orderId = orderId := by
      split at h
      · cases h
      · obtain ⟨sideText, -, h⟩ := bind_ok_iff.mp h
        split at h
        · cases h
        · obtain ⟨weight, -, h⟩ := bind_ok_iff.mp h
          obtain ⟨reasonCode, -, h⟩ := bind_ok_iff.mp h
          cases h
          rfl
    rw [horder] at hfresh
    exact bind_ok_iff.mpr ⟨orderId, hid, bind_ok_iff.mpr ⟨symbolText, hsymbol,
      bind_ok_iff.mpr ⟨⟨⟩, refuse_eq_ok.mpr hfresh, h⟩⟩⟩
  · cases h

lemma readPending_eq_ok :
    readPending seen raw = .ok order ↔ readItem raw = some order ∧ order.orderId ∉ seen := by
  unfold readItem
  constructor
  · intro h
    rw [readPending_of_fresh List.not_mem_nil h]
    exact ⟨rfl, not_seen h⟩
  · rintro ⟨h, hfresh⟩
    cases hread : readPending [] raw with
    | error e =>
      rw [hread] at h
      cases h
    | ok read =>
      rw [hread] at h
      cases h
      exact readPending_of_fresh hfresh hread

/-- The order that is planned for a pending order. -/
def plannedOf (snapshot : DecisionSnapshot) (broker : ExecutionBrokerSnapshot) (freeze : Bool)
    (order : PendingOrder) : Option ReasonedOrder :=
  match project snapshot broker freeze order with
  | .ok (.inr planned) => some planned
  | _ => none

/-- The blocker of a pending order. -/
def blockerOf (snapshot : DecisionSnapshot) (broker : ExecutionBrokerSnapshot) (freeze : Bool)
    (order : PendingOrder) : Option PlanningBlocker :=
  match project snapshot broker freeze order with
  | .ok (.inl reason) => some ⟨order.orderId, order.symbol.canonical, reason⟩
  | _ => none

/-- What the loop has after these orders. -/
def Tally.add (tally : Tally) (snapshot : DecisionSnapshot) (broker : ExecutionBrokerSnapshot)
    (freeze : Bool) (orders : List PendingOrder) : Tally where
  seen := tally.seen ++ orders.map (·.orderId)
  planned := tally.planned ++ orders.filterMap (plannedOf snapshot broker freeze)
  blockers := tally.blockers ++ orders.filterMap (blockerOf snapshot broker freeze)

/-- **Step.**  One round adds one order that was not read before. -/
lemma planItem_eq_ok :
    planItem snapshot broker freeze tally raw = .ok tally' ↔
      ∃ order, readItem raw = some order ∧ order.orderId ∉ tally.seen ∧
        tally' = tally.add snapshot broker freeze [order] := by
  -- a pending order is always planned or blocked
  have houtcome : ∀ order, ∃ outcome, project snapshot broker freeze order = .ok outcome ∧
      outcome.elim (fun reason => (⟨tally.seen ++ [order.orderId], tally.planned,
            tally.blockers ++ [⟨order.orderId, order.symbol.canonical, reason⟩]⟩ : Tally))
        (fun planned => ⟨tally.seen ++ [order.orderId], tally.planned ++ [planned],
            tally.blockers⟩) = tally.add snapshot broker freeze [order] := by
    intro order
    obtain ⟨reason, hblocked, -⟩ | ⟨planned, hplanned, -⟩ :=
      @project_spec snapshot broker freeze order
    · refine ⟨.inl reason, hblocked, ?_⟩
      simp [Tally.add, plannedOf, blockerOf, hblocked]
    · refine ⟨.inr planned, hplanned, ?_⟩
      simp [Tally.add, plannedOf, blockerOf, hplanned]
  unfold planItem
  constructor
  · intro h
    obtain ⟨order, hread, h⟩ := bind_ok_iff.mp h
    obtain ⟨outcome, hproject, h⟩ := bind_ok_iff.mp h
    obtain ⟨outcome', hproject', hadd⟩ := houtcome order
    rw [hproject] at hproject'
    cases hproject'
    obtain ⟨hitem, hfresh⟩ := readPending_eq_ok.mp hread
    refine ⟨order, hitem, hfresh, ?_⟩
    rw [← hadd]
    cases outcome <;>
      · cases h
        rfl
  · rintro ⟨order, hitem, hfresh, rfl⟩
    obtain ⟨outcome, hproject, hadd⟩ := houtcome order
    refine bind_ok_iff.mpr ⟨order, readPending_eq_ok.mpr ⟨hitem, hfresh⟩,
      bind_ok_iff.mpr ⟨outcome, hproject, ?_⟩⟩
    rw [← hadd]
    cases outcome <;> rfl

/-- **Run.**  The loop reads every item, no id twice. -/
lemma planItems_eq_ok :
    pending.foldlM (planItem snapshot broker freeze) tally = .ok tally' ↔
      (∀ raw ∈ pending, (readItem raw).isSome = true) ∧
        ((pending.filterMap readItem).map (·.orderId)).Nodup ∧
          (∀ order ∈ pending.filterMap readItem, order.orderId ∉ tally.seen) ∧
            tally' = tally.add snapshot broker freeze (pending.filterMap readItem) := by
  induction pending generalizing tally with
  | nil =>
    have hadd : tally.add snapshot broker freeze [] = tally := by simp [Tally.add]
    simp only [List.foldlM_nil, List.filterMap_nil, hadd]
    constructor
    · intro h
      cases h
      exact ⟨fun _ h => absurd h List.not_mem_nil, List.nodup_nil,
        fun _ h => absurd h List.not_mem_nil, rfl⟩
    · rintro ⟨-, -, -, rfl⟩
      rfl
  | cons raw pending ih =>
    rw [List.foldlM_cons]
    have hadd : ∀ order orders, (tally.add snapshot broker freeze [order]).add snapshot broker
        freeze orders = tally.add snapshot broker freeze (order :: orders) := by
      intro order orders
      unfold Tally.add
      have hplanned : (order :: orders).filterMap (plannedOf snapshot broker freeze) =
          [order].filterMap (plannedOf snapshot broker freeze) ++
            orders.filterMap (plannedOf snapshot broker freeze) := by
        rw [← List.filterMap_append, List.singleton_append]
      have hblockers : (order :: orders).filterMap (blockerOf snapshot broker freeze) =
          [order].filterMap (blockerOf snapshot broker freeze) ++
            orders.filterMap (blockerOf snapshot broker freeze) := by
        rw [← List.filterMap_append, List.singleton_append]
      simp only [hplanned, hblockers, List.append_assoc, List.map_cons, List.map_nil,
        List.singleton_append]
    constructor
    · intro h
      obtain ⟨tally₁, hitem, h⟩ := bind_ok_iff.mp h
      obtain ⟨order, hread, hfresh, rfl⟩ := planItem_eq_ok.mp hitem
      obtain ⟨hall, hnodup, hseen, rfl⟩ := ih.mp h
      rw [List.filterMap_cons_some hread]
      have hnew : ∀ o ∈ pending.filterMap readItem, o.orderId ≠ order.orderId ∧
          o.orderId ∉ tally.seen := by
        intro o ho
        have hnot := hseen o ho
        unfold Tally.add at hnot
        simp only [List.map_cons, List.map_nil, List.mem_append, List.mem_singleton,
          not_or] at hnot
        exact ⟨hnot.2, hnot.1⟩
      refine ⟨?_, ?_, ?_, hadd _ _⟩
      · intro item hmem
        rcases List.mem_cons.mp hmem with rfl | hmem
        · rw [hread]
          rfl
        · exact hall item hmem
      · rw [List.map_cons, List.nodup_cons]
        refine ⟨fun hmem => ?_, hnodup⟩
        obtain ⟨o, ho, heq⟩ := List.mem_map.mp hmem
        exact (hnew o ho).1 heq
      · intro o hmem
        rcases List.mem_cons.mp hmem with rfl | hmem
        · exact hfresh
        · exact (hnew o hmem).2
    · rintro ⟨hall, hnodup, hseen, htally⟩
      obtain ⟨order, hread⟩ := Option.isSome_iff_exists.mp (hall raw List.mem_cons_self)
      rw [List.filterMap_cons_some hread] at hnodup hseen htally
      rw [List.map_cons, List.nodup_cons] at hnodup
      refine bind_ok_iff.mpr ⟨_, planItem_eq_ok.mpr ⟨order, hread,
        hseen order List.mem_cons_self, rfl⟩, ih.mpr ⟨fun item hmem =>
          hall item (List.mem_cons_of_mem _ hmem), hnodup.2, fun o hmem => ?_,
            htally.trans (hadd _ _).symm⟩⟩
      unfold Tally.add
      simp only [List.map_cons, List.map_nil, List.mem_append, List.mem_singleton, not_or]
      refine ⟨hseen o (List.mem_cons_of_mem _ hmem), fun heq => ?_⟩
      exact hnodup.1 (List.mem_map.mpr ⟨o, hmem, heq⟩)

/-- The items of a decision and whether new risk is frozen. -/
def decisionItems (snapshot : DecisionSnapshot) : Except PlanningError (List Json × Bool) := do
  let payload ← loadPayload snapshot.payloadJson
  readPayload payload

/-- The plan of these pending orders. -/
def planOf (digests : PlanDigests) (snapshot : DecisionSnapshot) (broker : ExecutionBrokerSnapshot)
    (freeze : Bool) (orders : List PendingOrder) : PlanningResult :=
  let planned := (orders.filterMap (plannedOf snapshot broker freeze)).insertionSort OrderLE
  let blockers := (orders.filterMap (blockerOf snapshot broker freeze)).insertionSort BlockerLE
  let brokerSnapshotSha256 := digests.brokerSnapshot broker
  { planId := "plan_" ++ digests.plan snapshot brokerSnapshotSha256 planned blockers
    decisionId := snapshot.decisionId
    strategySession := snapshot.strategySession
    executionSession := broker.brokerSnapshot.sessionDate
    brokerSnapshotSha256 := brokerSnapshotSha256
    orders := planned
    blockers := blockers
    createdAt := broker.brokerSnapshot.capturedAt }

/-- The planner returns exactly for readable items without an id twice, and the plan is that of the
orders that they say. -/
theorem plan_eq_ok {result : PlanningResult} : plan digests snapshot broker = .ok result ↔
    snapshot.strategySession < broker.brokerSnapshot.sessionDate ∧
      ∃ pending freeze, decisionItems snapshot = .ok (pending, freeze) ∧
        (∀ raw ∈ pending, (readItem raw).isSome = true) ∧
          ((pending.filterMap readItem).map (·.orderId)).Nodup ∧
            result = planOf digests snapshot broker freeze (pending.filterMap readItem) := by
  unfold plan decisionItems
  constructor
  · intro h
    obtain ⟨⟨⟩, hsession, h⟩ := bind_ok_iff.mp h
    obtain ⟨payload, hpayload, h⟩ := bind_ok_iff.mp h
    obtain ⟨⟨pending, freeze⟩, hread, h⟩ := bind_ok_iff.mp h
    obtain ⟨tally, htally, h⟩ := bind_ok_iff.mp h
    obtain ⟨hall, hnodup, -, rfl⟩ := planItems_eq_ok.mp htally
    cases h
    refine ⟨not_le.mp (refuse_eq_ok.mp hsession), pending, freeze,
      bind_ok_iff.mpr ⟨payload, hpayload, hread⟩, hall, hnodup, ?_⟩
    simp [planOf, Tally.add]
  · rintro ⟨hsession, pending, freeze, hitems, hall, hnodup, rfl⟩
    obtain ⟨payload, hpayload, hread⟩ := bind_ok_iff.mp hitems
    refine bind_ok_iff.mpr ⟨⟨⟩, refuse_eq_ok.mpr (not_le.mpr hsession),
      bind_ok_iff.mpr ⟨payload, hpayload, bind_ok_iff.mpr ⟨(pending, freeze), hread,
        bind_ok_iff.mpr ⟨_, planItems_eq_ok.mpr ⟨hall, hnodup,
          fun _ _ => List.not_mem_nil, rfl⟩, ?_⟩⟩⟩⟩
    simp only [planOf, Tally.add, List.nil_append]
    rfl

/-! ## Orders that nothing blocks -/

/-- Nothing blocks a pending order before its size is known, and these are the facts that size
it. -/
structure Unblocked (broker : ExecutionBrokerSnapshot) (freeze : Bool) (order : PendingOrder)
    (instrument : InstrumentFact) (reference : Price) : Prop where
  unsent : order.orderId ∉ broker.clientIds
  unfrozen : ¬ (freeze = true ∧ order.side = .buy)
  listed : broker.instrument order.symbol = some instrument
  trading : instrument.securityType = .equity ∧ instrument.status = .trading
  market : broker.marketStatus = .open ∨ broker.marketStatus = .auction
  quote : ∃ quote, broker.quote order.symbol = some quote ∧
    referencePrice quote order.side = some reference ∧ quote.lowerLimit ≠ none ∧
      quote.upperLimit ≠ none

/-- The shares that an unblocked order may trade. -/
def authorization (broker : ExecutionBrokerSnapshot) (order : PendingOrder)
    (instrument : InstrumentFact) (reference : Price) : ℕ :=
  authorizedShares order.side order.weight (broker.currentShares order.symbol)
    (desiredShares order.weight broker.equity reference instrument.tradingUnit)
    instrument.tradingUnit

/-- Nothing blocks the order, and something is left to trade. -/
def Executable (broker : ExecutionBrokerSnapshot) (freeze : Bool) (order : PendingOrder) : Prop :=
  ∃ instrument reference, Unblocked broker freeze order instrument reference ∧
    authorization broker order instrument reference ≠ 0

lemma project_of_unblocked (h : Unblocked broker freeze order instrument reference) :
    project snapshot broker freeze order =
      sizeOrder snapshot broker order instrument reference := by
  obtain ⟨quote, hquote, hreference, hlower, hupper⟩ := h.quote
  have htrading : ¬ (instrument.securityType ≠ .equity ∨ instrument.status ≠ .trading) := by
    rintro (hne | hne)
    · exact hne h.trading.1
    · exact hne h.trading.2
  have hmarket : ¬ (broker.marketStatus ≠ .open ∧ broker.marketStatus ≠ .auction) := by
    rintro ⟨hopen, hauction⟩
    exact h.market.elim hopen hauction
  have hlimits : ¬ (quote.lowerLimit = none ∨ quote.upperLimit = none) := by
    rintro (hnone | hnone)
    · exact hlower hnone
    · exact hupper hnone
  unfold project
  rw [if_neg h.unsent, if_neg h.unfrozen]
  simp only [h.listed, hquote, if_neg htrading, if_neg hmarket, hreference, if_neg hlimits]

lemma unblocked_of_planned (h : project snapshot broker freeze order = .ok (.inr planned)) :
    ∃ instrument reference, Unblocked broker freeze order instrument reference := by
  unfold project at h
  split at h
  · cases h
  next hunsent =>
    split at h
    · cases h
    next hunfrozen =>
      cases hinstrument : broker.instrument order.symbol with
      | none =>
        simp only [hinstrument] at h
        cases h
      | some instrument =>
        cases hquote : broker.quote order.symbol with
        | none =>
          simp only [hinstrument, hquote] at h
          cases h
        | some quote =>
          simp only [hinstrument, hquote] at h
          split at h
          · cases h
          next htrading =>
            split at h
            · cases h
            next hmarket =>
              cases hreference : referencePrice quote order.side with
              | none =>
                simp only [hreference] at h
                cases h
              | some reference =>
                simp only [hreference] at h
                split at h
                · cases h
                next hlimits =>
                  refine ⟨instrument, reference, hunsent, hunfrozen, hinstrument, ?_, ?_, quote,
                    hquote, hreference, fun hnone => hlimits (.inl hnone),
                    fun hnone => hlimits (.inr hnone)⟩
                  · rw [not_or, not_not, not_not] at htrading
                    exact htrading
                  · rw [not_and_or, not_not, not_not] at hmarket
                    exact hmarket

/-- What a planned order authorizes, of which current and target shares. -/
structure Authorizes (broker : ExecutionBrokerSnapshot) (order : PendingOrder)
    (instrument : InstrumentFact) (reference : Price) (planned : ReasonedOrder) : Prop where
  id : planned.uquantOrderId = order.orderId
  symbol : planned.symbol = order.symbol
  side : planned.side = order.side
  current : planned.currentShares = broker.currentShares order.symbol
  target : planned.targetShares =
    desiredShares order.weight broker.equity reference instrument.tradingUnit
  authorized : planned.uquantAuthorizedShares = authorization broker order instrument reference

lemma sizeOrder_of_executable {instrument : InstrumentFact} {reference : Price}
    (h : authorization broker order instrument reference ≠ 0) :
    ∃ planned, sizeOrder snapshot broker order instrument reference = .ok (.inr planned) ∧
      Authorizes broker order instrument reference planned := by
  have hside := expectedSide_eq h
  have hgap := authorizedShares_gap order.side order.weight (broker.currentShares order.symbol)
    (desiredShares order.weight broker.equity reference instrument.tradingUnit)
    instrument.tradingUnit
  have hzero : (order.weight : ℚ) = 0 →
      desiredShares order.weight broker.equity reference instrument.tradingUnit = 0 := by
    intro hweight
    rw [hweight]
    exact desiredShares_zero
  obtain ⟨planned, hcreate, hid, hsymbol, hplanned, -, -, hauthorized, hcurrent, htarget, -⟩ :=
    @createOrder_ok snapshot broker order instrument reference
      (authorization broker order instrument reference) _ _ h
      (hgap.imp_right fun hsell => ⟨hsell.1, hsell.2.imp_right hzero⟩)
  refine ⟨planned, ?_, hid, hsymbol, hplanned, hcurrent, htarget, hauthorized⟩
  unfold authorization at h hcreate
  unfold sizeOrder
  simp only
  rw [if_neg h, hside, if_neg (by simp), hcreate]
  rfl

/-- Exactly the executable orders are planned. -/
lemma plannedOf_eq_some (h : plannedOf snapshot broker freeze order = some planned) :
    ∃ instrument reference, Unblocked broker freeze order instrument reference ∧
      authorization broker order instrument reference ≠ 0 ∧
        Authorizes broker order instrument reference planned := by
  unfold plannedOf at h
  split at h
  next hproject =>
    cases h
    obtain ⟨instrument, reference, hunblocked⟩ := unblocked_of_planned hproject
    refine ⟨instrument, reference, hunblocked, ?_⟩
    rw [project_of_unblocked hunblocked] at hproject
    by_cases hzero : authorization broker order instrument reference = 0
    · unfold authorization at hzero
      unfold sizeOrder at hproject
      simp only [hzero, if_true] at hproject
      cases hproject
    · obtain ⟨planned', hsize, hauthorizes⟩ := @sizeOrder_of_executable snapshot broker order
        instrument reference hzero
      rw [hproject] at hsize
      cases hsize
      exact ⟨hzero, hauthorizes⟩
  · cases h

lemma executable_iff : Executable broker freeze order ↔
    ∃ planned, plannedOf snapshot broker freeze order = some planned := by
  constructor
  · rintro ⟨instrument, reference, hunblocked, hsome⟩
    obtain ⟨planned, hsize, -⟩ := @sizeOrder_of_executable snapshot broker order instrument
      reference hsome
    refine ⟨planned, ?_⟩
    unfold plannedOf
    rw [project_of_unblocked hunblocked, hsize]
  · rintro ⟨planned, h⟩
    obtain ⟨instrument, reference, hunblocked, hsome, -⟩ := plannedOf_eq_some h
    exact ⟨instrument, reference, hunblocked, hsome⟩

/-! ## The orders of one symbol and side -/

/-- The most that the target of an order allows: the gap between the current and the target
position, and the whole position where it is to be liquidated. -/
def allowance (planned : ReasonedOrder) : ℕ :=
  if planned.side = .sell ∧ planned.targetShares = 0 then planned.currentShares
  else ((planned.targetShares : ℤ) - planned.currentShares).natAbs

/-- The shares that the orders of one symbol and side authorize together. -/
def totalAuthorized (orders : List ReasonedOrder) (symbol : Symbol) (side : Side) : ℕ :=
  ((orders.filter fun planned => planned.symbol = symbol ∧ planned.side = side).map
    (·.uquantAuthorizedShares)).sum

/-- No symbol is authorized beyond a target of its orders, on either side. -/
def WithinTargets (result : PlanningResult) : Prop :=
  ∀ planned ∈ result.orders,
    totalAuthorized result.orders planned.symbol planned.side ≤ allowance planned

instance (result : PlanningResult) : Decidable (WithinTargets result) :=
  inferInstanceAs (Decidable (∀ planned ∈ result.orders, _ ≤ _))

lemma authorizedShares_le_gap (hzero : weight = 0 → desired = 0)
    (hsome : authorizedShares side weight current desired unit ≠ 0) :
    authorizedShares side weight current desired unit ≤
      if side = .sell ∧ desired = 0 then current else ((desired : ℤ) - current).natAbs := by
  cases side with
  | buy =>
    rw [if_neg fun h => nomatch h.1]
    unfold authorizedShares at hsome ⊢
    simp only at hsome ⊢
    omega
  | sell =>
    obtain ⟨hcurrent, hgap⟩ := authorizedShares_sell weight current desired unit
    by_cases hdesired : desired = 0
    · rw [if_pos ⟨rfl, hdesired⟩]
      exact hcurrent
    · rw [if_neg fun h => hdesired h.2]
      have hle := hgap fun hweight => hdesired (hzero hweight)
      omega

/-- Two authorizations of one position on one side exceed the target of each. -/
lemma gap_lt_authorizedShares {other : ℚ} {wanted : ℕ} (hunit : 0 < unit)
    (hzero : weight = 0 → desired = 0)
    (hsome : authorizedShares side weight current desired unit ≠ 0)
    (hother : authorizedShares side other current wanted unit ≠ 0) :
    (if side = .sell ∧ desired = 0 then current else ((desired : ℤ) - current).natAbs) <
      authorizedShares side weight current desired unit +
        authorizedShares side other current wanted unit := by
  cases side with
  | buy =>
    rw [if_neg fun h => nomatch h.1]
    unfold authorizedShares at hsome hother ⊢
    simp only at hsome hother ⊢
    omega
  | sell =>
    -- a sell is authorized the whole position or whole units
    have hwhole : ∀ (w : ℚ) (d : ℕ), authorizedShares .sell w current d unit = current ∨
        unit ∣ authorizedShares .sell w current d unit := by
      intro w d
      unfold authorizedShares
      simp only
      split
      · split
        · exact .inr (Nat.dvd_sub_mod _)
        · exact .inl rfl
      · split
        · exact .inr (Nat.dvd_sub_mod _)
        next heq => exact .inl (not_not.mp heq)
    by_cases hdesired : desired = 0
    · rw [if_pos ⟨rfl, hdesired⟩]
      have hall : authorizedShares .sell weight current desired unit = current := by
        subst hdesired
        unfold authorizedShares
        simp
      omega
    · rw [if_neg fun h => hdesired h.2]
      have hweight : weight ≠ 0 := fun h => hdesired (hzero h)
      have hrounded : authorizedShares .sell weight current desired unit =
          current - desired - (current - desired) % unit := by
        unfold authorizedShares at hsome ⊢
        simp only [hweight, if_false] at hsome ⊢
        split
        · rfl
        next heq => omega
      have hmod : (current - desired) % unit < unit := Nat.mod_lt _ hunit
      rcases hwhole other wanted with hposition | hunits
      · omega
      · have hleast := Nat.le_of_dvd (Nat.pos_of_ne_zero hother) hunits
        omega

/-- Two orders trade one symbol on one side. -/
def SameTrade (a b : ReasonedOrder) : Prop := a.symbol = b.symbol ∧ a.side = b.side

lemma totalAuthorized_perm {orders' : List ReasonedOrder} (h : orders.Perm orders')
    (symbol : Symbol) (side : Side) :
    totalAuthorized orders symbol side = totalAuthorized orders' symbol side :=
  ((h.filter _).map _).sum_eq

/-- Where one authorization stays within its target and two exceed it, the totals stay within the
targets exactly if no two orders trade one symbol on one side. -/
lemma totals_within_iff (hone : ∀ a ∈ orders, a.uquantAuthorizedShares ≤ allowance a)
    (htwo : ∀ a ∈ orders, ∀ b ∈ orders, SameTrade a b →
      allowance a < a.uquantAuthorizedShares + b.uquantAuthorizedShares) :
    (∀ a ∈ orders, totalAuthorized orders a.symbol a.side ≤ allowance a) ↔
      orders.Pairwise fun a b => ¬ SameTrade a b := by
  constructor
  · intro hwithin
    refine List.pairwise_of_forall_sublist fun {a b} hsub hsame => ?_
    have ha : a ∈ orders := hsub.subset List.mem_cons_self
    have hb : b ∈ orders := hsub.subset (List.mem_cons_of_mem _ List.mem_cons_self)
    have hpair : totalAuthorized [a, b] a.symbol a.side =
        a.uquantAuthorizedShares + b.uquantAuthorizedShares := by
      simp [totalAuthorized, hsame.1, hsame.2]
    have hle : totalAuthorized [a, b] a.symbol a.side ≤
        totalAuthorized orders a.symbol a.side :=
      ((hsub.filter _).map _).sum_le_sum fun _ _ => Nat.zero_le _
    have hlt := htwo a ha b hb hsame
    have hbound := hwithin a ha
    omega
  · intro hpairwise a ha
    -- the order is the only one of its symbol and side
    have halone : totalAuthorized orders a.symbol a.side = a.uquantAuthorizedShares := by
      unfold totalAuthorized
      have hkept := hpairwise.filter fun p => decide (p.symbol = a.symbol ∧ p.side = a.side)
      have hmem : a ∈ orders.filter fun p => decide (p.symbol = a.symbol ∧ p.side = a.side) :=
        List.mem_filter.mpr ⟨ha, by simp⟩
      have hall : ∀ p ∈ orders.filter fun p => decide (p.symbol = a.symbol ∧ p.side = a.side),
          p.symbol = a.symbol ∧ p.side = a.side := fun p hp => by
        simpa using (List.mem_filter.mp hp).2
      generalize orders.filter (fun p => decide (p.symbol = a.symbol ∧ p.side = a.side)) = kept
        at hkept hmem hall
      cases kept with
      | nil => exact absurd hmem List.not_mem_nil
      | cons b rest =>
        have hrest : rest = [] := by
          refine List.eq_nil_iff_forall_not_mem.mpr fun c hc => ?_
          have hb := hall b List.mem_cons_self
          have hc' := hall c (List.mem_cons_of_mem _ hc)
          exact (List.pairwise_cons.mp hkept).1 c hc ⟨hb.1.trans hc'.1.symm, hb.2.trans hc'.2.symm⟩
        subst hrest
        obtain rfl : a = b := List.mem_singleton.mp hmem
        exact List.sum_singleton
    rw [halone]
    exact hone a ha

lemma target_of_weight (h : (order.weight : ℚ) = 0) :
    desiredShares order.weight broker.equity reference instrument.tradingUnit = 0 := by
  rw [h]
  exact desiredShares_zero

lemma authorized_le_allowance (h : plannedOf snapshot broker freeze order = some planned) :
    planned.uquantAuthorizedShares ≤ allowance planned := by
  obtain ⟨instrument, reference, -, hsome, hauthorizes⟩ := plannedOf_eq_some h
  unfold allowance
  rw [hauthorizes.authorized, hauthorizes.side, hauthorizes.target, hauthorizes.current]
  exact authorizedShares_le_gap target_of_weight hsome

lemma allowance_lt_pair {other : PendingOrder} {planned' : ReasonedOrder}
    (h : plannedOf snapshot broker freeze order = some planned)
    (h' : plannedOf snapshot broker freeze other = some planned')
    (hsame : SameTrade planned planned') :
    allowance planned < planned.uquantAuthorizedShares + planned'.uquantAuthorizedShares := by
  obtain ⟨instrument, reference, hunblocked, hsome, hauthorizes⟩ := plannedOf_eq_some h
  obtain ⟨instrument', reference', hunblocked', hsome', hauthorizes'⟩ := plannedOf_eq_some h'
  have hsymbol : other.symbol = order.symbol := by
    rw [← hauthorizes'.symbol, ← hauthorizes.symbol, hsame.1]
  have hside : other.side = order.side := by
    rw [← hauthorizes'.side, ← hauthorizes.side, hsame.2]
  -- one symbol has one position and one instrument
  have hinstrument : instrument' = instrument := by
    have hlisted := hunblocked'.listed
    rw [hsymbol, hunblocked.listed] at hlisted
    exact (Option.some.inj hlisted).symm
  subst hinstrument
  unfold authorization at hsome hsome'
  rw [hsymbol, hside] at hsome'
  unfold allowance
  rw [hauthorizes.authorized, hauthorizes'.authorized, hauthorizes.side, hauthorizes.target,
    hauthorizes.current]
  unfold authorization
  rw [hsymbol, hside]
  exact gap_lt_authorizedShares instrument'.unit_pos target_of_weight hsome hsome'

/-- A plan stays within the targets of its symbols exactly if no two pending orders that nothing
blocks trade one symbol on one side. -/
theorem within_targets_iff {result : PlanningResult}
    (h : plan digests snapshot broker = .ok result) :
    ∃ pending freeze, decisionItems snapshot = .ok (pending, freeze) ∧
      (WithinTargets result ↔ (pending.filterMap readItem).Pairwise fun a b =>
        Executable broker freeze a → Executable broker freeze b →
          ¬ (a.symbol = b.symbol ∧ a.side = b.side)) := by
  obtain ⟨-, pending, freeze, hitems, -, -, rfl⟩ := plan_eq_ok.mp h
  refine ⟨pending, freeze, hitems, ?_⟩
  generalize pending.filterMap readItem = orders
  have hperm := List.perm_insertionSort OrderLE
    (orders.filterMap (plannedOf snapshot broker freeze))
  have hone : ∀ a ∈ orders.filterMap (plannedOf snapshot broker freeze),
      a.uquantAuthorizedShares ≤ allowance a := fun a ha => by
    obtain ⟨order, -, horder⟩ := List.mem_filterMap.mp ha
    exact authorized_le_allowance horder
  have htwo : ∀ a ∈ orders.filterMap (plannedOf snapshot broker freeze),
      ∀ b ∈ orders.filterMap (plannedOf snapshot broker freeze), SameTrade a b →
        allowance a < a.uquantAuthorizedShares + b.uquantAuthorizedShares := fun a ha b hb => by
    obtain ⟨order, -, horder⟩ := List.mem_filterMap.mp ha
    obtain ⟨other, -, hother⟩ := List.mem_filterMap.mp hb
    exact allowance_lt_pair horder hother
  have hsorted : WithinTargets (planOf digests snapshot broker freeze orders) ↔
      ∀ a ∈ orders.filterMap (plannedOf snapshot broker freeze),
        totalAuthorized (orders.filterMap (plannedOf snapshot broker freeze)) a.symbol a.side ≤
          allowance a := by
    unfold WithinTargets planOf
    simp only [hperm.mem_iff, totalAuthorized_perm hperm]
  rw [hsorted, totals_within_iff hone htwo, List.pairwise_filterMap]
  -- the planned orders are those of the executable pending orders
  refine List.Pairwise.iff fun a b => ?_
  constructor
  · intro hdistinct ha hb hsame
    obtain ⟨planned, hplanned⟩ := (@executable_iff snapshot broker freeze a).mp ha
    obtain ⟨planned', hplanned'⟩ := (@executable_iff snapshot broker freeze b).mp hb
    obtain ⟨_, _, -, -, hfirst⟩ := plannedOf_eq_some hplanned
    obtain ⟨_, _, -, -, hsecond⟩ := plannedOf_eq_some hplanned'
    refine hdistinct planned hplanned planned' hplanned' ⟨?_, ?_⟩
    · rw [hfirst.symbol, hsecond.symbol, hsame.1]
    · rw [hfirst.side, hsecond.side, hsame.2]
  · intro hdistinct planned hplanned planned' hplanned' hsame
    obtain ⟨_, _, -, -, hfirst⟩ := plannedOf_eq_some hplanned
    obtain ⟨_, _, -, -, hsecond⟩ := plannedOf_eq_some hplanned'
    refine hdistinct (executable_iff.mpr ⟨planned, hplanned⟩)
      (executable_iff.mpr ⟨planned', hplanned'⟩) ⟨?_, ?_⟩
    · rw [← hfirst.symbol, ← hsecond.symbol, hsame.1]
    · rw [← hfirst.side, ← hsecond.side, hsame.2]

/-- The plan of one order. -/
theorem buyDecision_within_iff : ∃ result,
    plan sampleDigests buyDecision wealthyBroker = .ok result ∧
      ∃ pending freeze, decisionItems buyDecision = .ok (pending, freeze) ∧
        (WithinTargets result ↔ (pending.filterMap readItem).Pairwise fun a b =>
          Executable wealthyBroker freeze a → Executable wealthyBroker freeze b →
            ¬ (a.symbol = b.symbol ∧ a.side = b.side)) := by
  obtain ⟨result, hresult, -⟩ := plan_buyDecision
  exact ⟨result, hresult, within_targets_iff hresult⟩

/-- An order of the payload to buy the sample symbol with all assets. -/
def wholeOrder (orderId : String) : Json :=
  .obj [("order_id", .str orderId), ("symbol", .str "sh600001"), ("side", .str "BUY"),
    ("target_weight", .int 1), ("reason_code", .str "ENTRY")]

/-- A decision with these orders. -/
def decisionOf (pending : List Json) : DecisionSnapshot :=
  { buyDecision with
    payloadJson := Json.dumps (.obj [("pending_orders", .arr pending),
      ("sentinel", .obj [("freeze_new_risk", .bool false)])]) }

lemma payloadHooks_lossless : payloadHooks.Lossless := LedgerValue.lossless fun _ => rfl

lemma decisionItems_decisionOf (h : Json.ExactItems pending) :
    decisionItems (decisionOf pending) = .ok (Json.sortedItems pending, false) := by
  have hexact : (Json.obj [("pending_orders", .arr pending),
      ("sentinel", .obj [("freeze_new_risk", .bool false)])]).Exact := by
    simp [Json.Exact, Json.ExactMembers, h]
  have hloads : loadPayload (decisionOf pending).payloadJson =
      .ok (Json.sorted (.obj [("pending_orders", .arr pending),
        ("sentinel", .obj [("freeze_new_risk", .bool false)])])) := by
    unfold loadPayload decisionOf
    simp only
    rw [Json.loads_dumps payloadHooks_lossless hexact]
  have hpending := Json.get?_sorted hexact "pending_orders"
  have hsentinel := Json.get?_sorted hexact "sentinel"
  refine bind_ok_iff.mpr ⟨_, hloads, ?_⟩
  unfold Json.sorted at hpending hsentinel ⊢
  unfold readPayload
  simp only [hpending, hsentinel]
  rfl

/-- An order to buy the sample symbol with all assets has no decimals to read. -/
lemma exact_wholeOrder (orderId : String) : (wholeOrder orderId).Exact := by
  have hone : (Nat.toDigits 10 1).length ≤ Json.maxStrDigits := by decide
  simp [wholeOrder, Json.Exact, Json.ExactMembers, hone]

/-- The pending orders of two such items. -/
def pairOrders (first second : String) : List PendingOrder :=
  (Json.sortedItems [wholeOrder first, wholeOrder second]).filterMap readItem

lemma plan_pair (first second : String)
    (hids : (pairOrders first second).map (·.orderId) = [first, second] ∧ first ≠ second) :
    plan digests (decisionOf [wholeOrder first, wholeOrder second]) wealthyBroker =
      .ok (planOf digests (decisionOf [wholeOrder first, wholeOrder second]) wealthyBroker false
        (pairOrders first second)) := by
  obtain ⟨hids, hne⟩ := hids
  have hlength : (pairOrders first second).length = 2 := by
    rw [← List.length_map (·.orderId), hids]
    rfl
  have hexact : Json.ExactItems [wholeOrder first, wholeOrder second] :=
    ⟨exact_wholeOrder _, exact_wholeOrder _, trivial⟩
  refine plan_eq_ok.mpr ⟨(by decide : (1 : Date) < 2), _, false,
    decisionItems_decisionOf hexact, ?_, ?_, rfl⟩
  · -- two orders are read of two items, so that every item is read
    exact List.filterMap_length_eq_length.mp hlength
  · change ((pairOrders first second).map (·.orderId)).Nodup
    rw [hids]
    simpa using hne

/-- Two orders with different ids each buy the whole target. -/
theorem twice_exceeds_target : ¬ ∀ digests snapshot broker result,
    plan digests snapshot broker = .ok result → WithinTargets result := by
  intro h
  have hwithin := h sampleDigests _ _ _ (plan_pair "a" "b" (by decide +kernel))
  revert hwithin
  decide +kernel

end ExecutionPlanner

end FirmQuant
