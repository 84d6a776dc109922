import FirmQuant.Execution.Planner

/-!
# What a plan conserves

Every pending order is planned or blocked once, sells come first, and the planned shares stay within
the target.
-/

namespace FirmQuant

open Decimal Effect

namespace ExecutionPlanner

variable {digests : PlanDigests} {snapshot : DecisionSnapshot} {broker : ExecutionBrokerSnapshot}
  {freeze : Bool} {order : PendingOrder} {planned : ReasonedOrder}

/-! ## Sizes -/

/-- What a planned order keeps of its pending order and of the broker's facts. -/
structure Sized (broker : ExecutionBrokerSnapshot) (freeze : Bool) (order : PendingOrder)
    (planned : ReasonedOrder) : Prop where
  id : planned.uquantOrderId = order.orderId
  symbol : planned.symbol = order.symbol
  side : planned.side = order.side
  weight : planned.targetWeight = order.weight
  reason : planned.reasonCode = order.reasonCode
  current : planned.currentShares = broker.currentShares order.symbol
  /-- The limit is the quoted price of the other side. -/
  reference : (broker.quote order.symbol).bind (referencePrice · order.side) =
    some planned.limitPrice
  unfrozen : freeze = true → planned.side = .sell
  buy : planned.side = .buy → planned.currentShares < planned.targetShares ∧
    planned.uquantAuthorizedShares = planned.targetShares - planned.currentShares ∧
      planned.targetShares * planned.limitPrice.value ≤
        planned.targetWeight * broker.equity * (1 + 1 / 10 ^ 27) ^ 3
  sell : planned.side = .sell → planned.uquantAuthorizedShares ≤ planned.currentShares ∧
    (planned.targetWeight ≠ 0 →
      planned.targetShares ≤ planned.currentShares - planned.uquantAuthorizedShares)

/-- The cost of the desired shares exceeds what the weight pays for by the errors of three
operations at most. -/
lemma desiredShares_mul_le {weight equity : ℚ} {reference : Price} {unit : ℕ}
    (hweight : 0 ≤ weight) (hequity : 0 ≤ equity) :
    desiredShares weight equity reference unit * reference.value ≤
      weight * equity * (1 + 1 / 10 ^ 27) ^ 3 := by
  have hprice := reference.positive
  have hvalue : 0 ≤ weight * equity := mul_nonneg hweight hequity
  have hshares : 0 ≤ fit (weight * equity) / reference.value :=
    div_nonneg (fit_nonneg hvalue) hprice.le
  have hunits : 0 ≤ fit (fit (weight * equity) / reference.value) / unit :=
    div_nonneg (fit_nonneg hshares) (Nat.cast_nonneg unit)
  have hfloor := Nat.floor_le (fit_nonneg hunits)
  have hdesired : (desiredShares weight equity reference unit : ℚ) ≤
      fit (fit (weight * equity) / reference.value) * (1 + 1 / 10 ^ 27) := by
    unfold desiredShares
    push_cast
    rcases Nat.eq_zero_or_pos unit with rfl | hunit
    · rw [Nat.cast_zero, mul_zero]
      exact mul_nonneg (fit_nonneg hshares) (by norm_num)
    · have hunit' : (0 : ℚ) < unit := Nat.cast_pos.mpr hunit
      calc (⌊fit (fit (fit (weight * equity) / reference.value) / unit)⌋₊ : ℚ) * unit
          ≤ fit (fit (weight * equity) / reference.value) / unit * (1 + 1 / 10 ^ 27) * unit :=
            mul_le_mul_of_nonneg_right (hfloor.trans (fit_le hunits)) hunit'.le
        _ = fit (fit (weight * equity) / reference.value) * (1 + 1 / 10 ^ 27) := by
            field_simp
  calc (desiredShares weight equity reference unit : ℚ) * reference.value
      ≤ fit (fit (weight * equity) / reference.value) * (1 + 1 / 10 ^ 27) * reference.value :=
        mul_le_mul_of_nonneg_right hdesired hprice.le
    _ ≤ fit (weight * equity) / reference.value * (1 + 1 / 10 ^ 27) * (1 + 1 / 10 ^ 27) *
          reference.value := by
        gcongr
        exact fit_le hshares
    _ = fit (weight * equity) * (1 + 1 / 10 ^ 27) ^ 2 := by
        field_simp
    _ ≤ weight * equity * (1 + 1 / 10 ^ 27) * (1 + 1 / 10 ^ 27) ^ 2 := by
        gcongr
        exact fit_le hvalue
    _ = weight * equity * (1 + 1 / 10 ^ 27) ^ 3 := by ring

lemma desiredShares_zero {equity : ℚ} {reference : Price} {unit : ℕ} :
    desiredShares 0 equity reference unit = 0 := by
  unfold desiredShares fit
  simp

lemma authorizedShares_sell (weight : ℚ) (current desired unit : ℕ) :
    authorizedShares .sell weight current desired unit ≤ current ∧
      (weight ≠ 0 → authorizedShares .sell weight current desired unit ≤ current - desired) := by
  unfold authorizedShares
  simp only
  by_cases hweight : weight = 0
  · simp only [hweight, if_true]
    simp
  · simp only [hweight, if_false]
    split <;> omega

/-- The authorized shares stay within the target gap, or the weight is zero. -/
lemma authorizedShares_gap (side : Side) (weight : ℚ) (current desired unit : ℕ) :
    side = .buy ∧ authorizedShares side weight current desired unit = desired - current ∨
      side = .sell ∧ (authorizedShares side weight current desired unit ≤ current - desired ∨
        weight = 0) := by
  cases side with
  | buy => exact .inl ⟨rfl, rfl⟩
  | sell =>
    refine .inr ⟨rfl, ?_⟩
    by_cases hweight : weight = 0
    · exact .inr hweight
    · exact .inl ((authorizedShares_sell weight current desired unit).2 hweight)

/-- The direction of the target never contradicts an order with something to authorize. -/
lemma expectedSide_eq {side : Side} {weight equity : ℚ} {reference : Price} {current unit : ℕ}
    (h : authorizedShares side weight current
      (desiredShares weight equity reference unit) unit ≠ 0) :
    expectedSide weight current (desiredShares weight equity reference unit) = side := by
  unfold expectedSide
  cases side with
  | buy =>
    unfold authorizedShares at h
    simp only at h
    have hlt : current < desiredShares weight equity reference unit := by omega
    have hweight : weight ≠ 0 := by
      rintro rfl
      rw [desiredShares_zero] at hlt
      omega
    rw [if_neg (fun h => hweight h.1), if_pos hlt]
  | sell =>
    split
    · rfl
    next hzero =>
      split
      next hlt =>
        have hsell := authorizedShares_sell weight current
          (desiredShares weight equity reference unit) unit
        by_cases hweight : weight = 0
        · subst hweight
          rw [desiredShares_zero] at hlt
          omega
        · have := hsell.2 hweight
          omega
      · rfl

/-- The constructor accepts every size that the planner computes. -/
lemma createOrder_ok {instrument : InstrumentFact} {reference : Price}
    {authorized current desired : ℕ}
    (hpos : authorized ≠ 0)
    (hgap : order.side = .buy ∧ authorized = desired - current ∨
      order.side = .sell ∧ (authorized ≤ current - desired ∨ desired = 0)) :
    ∃ planned, createOrder snapshot broker order instrument reference authorized current desired =
        .ok planned ∧
      planned.uquantOrderId = order.orderId ∧ planned.symbol = order.symbol ∧
      planned.side = order.side ∧ planned.targetWeight = order.weight ∧
      planned.reasonCode = order.reasonCode ∧ planned.uquantAuthorizedShares = authorized ∧
      planned.currentShares = current ∧ planned.targetShares = desired ∧
      planned.limitPrice = reference := by
  unfold createOrder
  rw [dif_pos (Nat.pos_of_ne_zero hpos)]
  simp only
  split
  next hwithin => exact ⟨_, rfl, rfl, rfl, rfl, rfl, rfl, rfl, rfl, rfl, rfl⟩
  next hwithin =>
    refine absurd ?_ hwithin
    unfold PlannedOrder.WithinGap
    simp only
    obtain ⟨hside, heq⟩ | ⟨hside, hle | hzero⟩ := hgap
    · left
      rw [abs_of_nonneg] <;> omega
    · left
      rw [abs_of_nonpos] <;> omega
    · exact .inr ⟨hside, hzero⟩

/-- An order that nothing blocks is planned within the target, unless nothing is left to do. -/
lemma sizeOrder_spec {instrument : InstrumentFact} {reference : Price}
    (hreference : (broker.quote order.symbol).bind (referencePrice · order.side) = some reference)
    (hfreeze : freeze = true → order.side = .sell) :
    sizeOrder snapshot broker order instrument reference = .ok (.inl .targetAlreadySatisfied) ∨
      ∃ planned, sizeOrder snapshot broker order instrument reference = .ok (.inr planned) ∧
        Sized broker freeze order planned := by
  have hequity : 0 ≤ broker.equity := broker.brokerSnapshot.account.totalAssets.nonneg
  have hcost := @desiredShares_mul_le order.weight broker.equity reference instrument.tradingUnit
    order.weight.2.1 hequity
  unfold sizeOrder
  simp only
  split
  · exact .inl rfl
  next hpos =>
    rw [expectedSide_eq hpos, if_neg (by simp)]
    right
    -- a sell to weight zero has the target zero
    have hzero : (order.weight : ℚ) = 0 →
        desiredShares order.weight broker.equity reference instrument.tradingUnit = 0 := by
      intro h
      rw [h]
      exact desiredShares_zero
    generalize desiredShares order.weight broker.equity reference instrument.tradingUnit = desired
      at hpos hcost hzero ⊢
    have hsell := authorizedShares_sell order.weight (broker.currentShares order.symbol) desired
      instrument.tradingUnit
    have hgap := authorizedShares_gap order.side order.weight (broker.currentShares order.symbol)
      desired instrument.tradingUnit
    obtain ⟨planned, hcreate, hid, hsymbol, hside, hweight, hreason, hauthorized, hcurrent, htarget,
      hprice⟩ := @createOrder_ok snapshot broker order instrument reference _ _ desired hpos
        (hgap.imp_right fun h => ⟨h.1, h.2.imp_right hzero⟩)
    rw [hcreate]
    refine ⟨planned, rfl, ?_⟩
    exact {
      id := hid
      symbol := hsymbol
      side := hside
      weight := hweight
      reason := hreason
      current := hcurrent
      reference := hreference.trans (congrArg some hprice.symm)
      unfrozen := fun h => hside.trans (hfreeze h)
      buy := fun h => by
        rw [← hside, h] at hpos hauthorized
        unfold authorizedShares at hpos hauthorized
        simp only at hpos hauthorized
        rw [hauthorized, hcurrent, htarget, hprice, hweight]
        exact ⟨by omega, rfl, hcost⟩
      sell := fun h => by
        rw [← hside, h] at hpos hauthorized
        rw [hauthorized, hcurrent, htarget, hweight]
        refine ⟨hsell.1, fun hne => ?_⟩
        have hle := hsell.2 hne
        omega }

lemma project_spec :
    (∃ reason, project snapshot broker freeze order = .ok (.inl reason) ∧
        reason ≠ .uquantDirectionContradiction) ∨
      ∃ planned, project snapshot broker freeze order = .ok (.inr planned) ∧
        Sized broker freeze order planned := by
  unfold project
  split
  · exact .inl ⟨_, rfl, by decide⟩
  split
  · exact .inl ⟨_, rfl, by decide⟩
  next hfrozen =>
    have hfreeze : freeze = true → order.side = .sell := by
      intro h
      cases hside : order.side with
      | buy => exact absurd ⟨h, hside⟩ hfrozen
      | sell => rfl
    split
    · exact .inl ⟨_, rfl, by decide⟩
    · exact .inl ⟨_, rfl, by decide⟩
    next instrument quote _ hquote =>
      split
      · exact .inl ⟨_, rfl, by decide⟩
      split
      · exact .inl ⟨_, rfl, by decide⟩
      split
      · exact .inl ⟨_, rfl, by decide⟩
      next reference hreference =>
        split
        · exact .inl ⟨_, rfl, by decide⟩
        have hbind : (broker.quote order.symbol).bind (referencePrice · order.side) =
            some reference := by
          rw [hquote]
          exact hreference
        obtain hdone | hplanned := @sizeOrder_spec snapshot broker freeze order instrument reference
          hbind hfreeze
        · exact .inl ⟨_, hdone, by decide⟩
        · exact .inr hplanned

/-! ## The loop -/

/-- What an item of the array says. -/
def Reads (raw : Json) (order : PendingOrder) : Prop := ∃ seen, readPending seen raw = .ok order

/-- What the loop has made of the orders that it has read. -/
structure Tallied (broker : ExecutionBrokerSnapshot) (freeze : Bool) (orders : List PendingOrder)
    (tally : Tally) : Prop where
  seen : tally.seen = orders.map (·.orderId)
  nodup : tally.seen.Nodup
  once : (tally.planned.map (·.uquantOrderId) ++ tally.blockers.map (·.uquantOrderId)).Perm
    tally.seen
  planned : ∀ planned ∈ tally.planned, ∃ order ∈ orders, Sized broker freeze order planned
  blockers : ∀ blocker ∈ tally.blockers, blocker.reason ≠ .uquantDirectionContradiction ∧
    ∃ order ∈ orders, blocker.uquantOrderId = order.orderId ∧
      blocker.symbol = order.symbol.canonical

lemma not_seen {seen : List String} {raw : Json} (h : readPending seen raw = .ok order) :
    order.orderId ∉ seen := by
  unfold readPending at h
  split at h
  · obtain ⟨orderId, -, h⟩ := bind_ok_iff.mp h
    obtain ⟨symbolText, -, h⟩ := bind_ok_iff.mp h
    obtain ⟨⟨⟩, hseen, h⟩ := bind_ok_iff.mp h
    split at h
    · cases h
    · obtain ⟨sideText, -, h⟩ := bind_ok_iff.mp h
      split at h
      · cases h
      · obtain ⟨weight, -, h⟩ := bind_ok_iff.mp h
        obtain ⟨reasonCode, -, h⟩ := bind_ok_iff.mp h
        cases h
        exact refuse_eq_ok.mp hseen
  · cases h

/-- **Step.**  One round reads one more order and plans or blocks it. -/
lemma planItem_spec {orders : List PendingOrder} {tally tally' : Tally} {raw : Json}
    (htally : Tallied broker freeze orders tally)
    (h : planItem snapshot broker freeze tally raw = .ok tally') :
    ∃ order, Reads raw order ∧ Tallied broker freeze (orders ++ [order]) tally' := by
  unfold planItem at h
  obtain ⟨order, hread, h⟩ := bind_ok_iff.mp h
  obtain ⟨outcome, hproject, h⟩ := bind_ok_iff.mp h
  have hfresh : order.orderId ∉ tally.seen := not_seen hread
  have hnodup : (tally.seen ++ [order.orderId]).Nodup :=
    List.nodup_append.mpr ⟨htally.nodup, List.nodup_singleton _, fun a ha b hb => by
      rw [List.mem_singleton.mp hb]
      exact fun hab => hfresh (hab ▸ ha)⟩
  have hseen : tally.seen ++ [order.orderId] = (orders ++ [order]).map (·.orderId) := by
    rw [List.map_append, htally.seen]
    rfl
  have hplanned : ∀ planned ∈ tally.planned, ∃ o ∈ orders ++ [order],
      Sized broker freeze o planned := fun planned hmem => by
    obtain ⟨o, ho, hsized⟩ := htally.planned planned hmem
    exact ⟨o, List.mem_append_left _ ho, hsized⟩
  have hblockers : ∀ blocker ∈ tally.blockers, blocker.reason ≠ .uquantDirectionContradiction ∧
      ∃ o ∈ orders ++ [order], blocker.uquantOrderId = o.orderId ∧
        blocker.symbol = o.symbol.canonical := fun blocker hmem => by
    obtain ⟨hreason, o, ho, hid⟩ := htally.blockers blocker hmem
    exact ⟨hreason, o, List.mem_append_left _ ho, hid⟩
  have hlast : order ∈ orders ++ [order] := List.mem_concat_self
  refine ⟨order, ⟨_, hread⟩, ?_⟩
  obtain ⟨reason, hblocked, hreason⟩ | ⟨planned, hplan, hsized⟩ :=
    @project_spec snapshot broker freeze order
  · rw [hblocked] at hproject
    cases hproject
    cases h
    exact {
      seen := hseen
      nodup := hnodup
      once := by
        rw [List.map_append, ← List.append_assoc]
        exact htally.once.append_right _
      planned := hplanned
      blockers := fun blocker hmem => by
        obtain hmem | hmem := List.mem_append.mp hmem
        · exact hblockers blocker hmem
        · rw [List.mem_singleton.mp hmem]
          exact ⟨hreason, order, hlast, rfl, rfl⟩ }
  · rw [hplan] at hproject
    cases hproject
    cases h
    exact {
      seen := hseen
      nodup := hnodup
      once := by
        rw [List.map_append, List.append_assoc]
        refine ((List.perm_append_comm).append_left _).trans ?_
        rw [← List.append_assoc, List.map_singleton, hsized.id]
        exact htally.once.append_right _
      planned := fun planned hmem => by
        obtain hmem | hmem := List.mem_append.mp hmem
        · exact hplanned planned hmem
        · rw [List.mem_singleton.mp hmem]
          exact ⟨order, hlast, hsized⟩
      blockers := hblockers }

/-- **Run.**  The whole loop reads every item in turn. -/
lemma planItems_spec {pending : List Json} {orders : List PendingOrder} {tally tally' : Tally}
    (htally : Tallied broker freeze orders tally) :
    pending.foldlM (planItem snapshot broker freeze) tally = .ok tally' →
      ∃ read, List.Forall₂ Reads pending read ∧ Tallied broker freeze (orders ++ read) tally' := by
  induction pending generalizing tally orders with
  | nil =>
    intro h
    cases h
    exact ⟨[], .nil, by simpa using htally⟩
  | cons raw pending ih =>
    intro h
    rw [List.foldlM_cons] at h
    obtain ⟨tally₁, hitem, h⟩ := bind_ok_iff.mp h
    obtain ⟨order, hreads, htally₁⟩ := planItem_spec htally hitem
    obtain ⟨read, hread, htally'⟩ := ih htally₁ h
    refine ⟨order :: read, .cons hreads hread, ?_⟩
    rwa [List.append_assoc] at htally'

/-! ## The constructor check -/

/-- A computation that the checks of the domain never refuse. -/
def Unrefused {α : Type} (x : Except PlanningError α) : Prop :=
  ∀ message, x ≠ .error (.domainValidation message)

section Unrefused

variable {α β : Type}

lemma unrefused_ok (a : α) : Unrefused (.ok a : Except PlanningError α) := fun _ h => nomatch h

lemma unrefused_planning (message : String) :
    Unrefused (.error (.planning message) : Except PlanningError α) := fun _ h => nomatch h

lemma Unrefused.bind {x : Except PlanningError α} {f : α → Except PlanningError β}
    (hx : Unrefused x) (hf : ∀ a, x = .ok a → Unrefused (f a)) : Unrefused (x >>= f) := by
  cases x with
  | ok a => exact hf a rfl
  | error e =>
    intro message h
    exact hx message (congrArg Except.error (Except.error.inj h))

lemma unrefused_refuse (c : Prop) [Decidable c] (message : String) :
    Unrefused (refuse c (.planning message)) := by
  unfold refuse
  split
  · exact unrefused_planning message
  · exact unrefused_ok _

end Unrefused

lemma unrefused_text (label : String) (value : Option Json) : Unrefused (text label value) := by
  unfold text
  split
  · split
    · exact unrefused_planning _
    · exact unrefused_ok _
  · exact unrefused_planning _

lemma unrefused_weight (value : Option Json) : Unrefused (weight value) := by
  have hbounded : ∀ x : ℚ, Unrefused (boundedWeight x) := fun x => by
    unfold boundedWeight
    split
    · exact unrefused_ok _
    · exact unrefused_planning _
  unfold weight
  split
  · exact unrefused_planning _
  · exact hbounded _
  · exact hbounded _
  · exact unrefused_planning _

lemma unrefused_readPending (seen : List String) (raw : Json) :
    Unrefused (readPending seen raw) := by
  unfold readPending
  split
  · refine (unrefused_text _ _).bind fun orderId _ => (unrefused_text _ _).bind fun symbolText _ =>
      (unrefused_refuse _ _).bind fun _ _ => ?_
    split
    · exact unrefused_planning _
    · refine (unrefused_text _ _).bind fun sideText _ => ?_
      split
      · exact unrefused_planning _
      · exact (unrefused_weight _).bind fun _ _ => (unrefused_text _ _).bind fun _ _ =>
          unrefused_ok _
  · exact unrefused_planning _

lemma unrefused_planItem (tally : Tally) (raw : Json) :
    Unrefused (planItem snapshot broker freeze tally raw) := by
  unfold planItem
  refine (unrefused_readPending _ _).bind fun order _ => Unrefused.bind ?_ fun outcome _ => ?_
  · obtain ⟨reason, hblocked, -⟩ | ⟨planned, hplanned, -⟩ :=
      @project_spec snapshot broker freeze order
    · rw [hblocked]
      exact unrefused_ok _
    · rw [hplanned]
      exact unrefused_ok _
  · cases outcome <;> exact unrefused_ok _

lemma unrefused_planItems (pending : List Json) (tally : Tally) :
    Unrefused (pending.foldlM (planItem snapshot broker freeze) tally) := by
  induction pending generalizing tally with
  | nil => exact unrefused_ok _
  | cons raw pending ih =>
    rw [List.foldlM_cons]
    exact (unrefused_planItem _ _).bind fun tally _ => ih tally

lemma unrefused_loadPayload (payloadJson : String) : Unrefused (loadPayload payloadJson) := by
  unfold loadPayload
  split
  · exact unrefused_ok _
  next e he =>
    cases e with
    | decodeError | constant value => exact unrefused_planning _
    | tooManyDigits => exact fun _ h => nomatch h

lemma unrefused_readPayload (payload : Json) : Unrefused (readPayload payload) := by
  unfold readPayload
  split
  · split
    · split
      · split
        · exact unrefused_ok _
        · exact unrefused_planning _
      · exact unrefused_planning _
    · exact unrefused_planning _
  · exact unrefused_planning _

/-- No plan fails at the check of a planned order. -/
lemma unrefused_plan : Unrefused (plan digests snapshot broker) := by
  unfold plan
  refine (unrefused_refuse _ _).bind fun _ _ => (unrefused_loadPayload _).bind fun payload _ =>
    (unrefused_readPayload _).bind fun read _ => ?_
  exact (unrefused_planItems _ _).bind fun _ _ => unrefused_ok _

/-! ## The plan -/

instance : Std.Total OrderLE where
  total a b := by
    unfold OrderLE
    by_cases h : a.side = b.side
    · rw [if_pos h, if_pos h.symm]
      exact le_total _ _
    · rw [if_neg h, if_neg (Ne.symm h)]
      cases ha : a.side with
      | sell => exact .inl rfl
      | buy =>
        cases hb : b.side with
        | sell => exact .inr rfl
        | buy => exact absurd (ha.trans hb.symm) h

instance : IsTrans ReasonedOrder OrderLE where
  trans a b c hab hbc := by
    unfold OrderLE at hab hbc ⊢
    by_cases h : a.side = c.side
    · rw [if_pos h]
      by_cases hb : a.side = b.side
      · rw [if_pos hb] at hab
        rw [if_pos (hb.symm.trans h)] at hbc
        exact hab.trans hbc
      · -- then `a` is a sell and `c` is not one
        rw [if_neg hb] at hab
        rw [if_neg (fun hbc' => hb (h.trans hbc'.symm))] at hbc
        exact absurd (hab.trans hbc.symm) hb
    · rw [if_neg h]
      by_cases hb : a.side = b.side
      · rw [if_neg (fun hbc' => h (hb.trans hbc'))] at hbc
        exact hb.trans hbc
      · rw [if_neg hb] at hab
        exact hab

/-- What a plan conserves of the payload that it was made from. -/
structure Conserves (snapshot : DecisionSnapshot) (broker : ExecutionBrokerSnapshot)
    (result : PlanningResult) (pending : List Json) (freeze : Bool) (orders : List PendingOrder) :
    Prop where
  /-- The items of the array and what they say. -/
  payload : ∃ payload, loadPayload snapshot.payloadJson = .ok payload ∧
    readPayload payload = .ok (pending, freeze)
  reads : List.Forall₂ Reads pending orders
  distinct : (orders.map (·.orderId)).Nodup
  /-- Every pending order is planned or blocked exactly once. -/
  once : (result.orders.map (·.uquantOrderId) ++ result.blockers.map (·.uquantOrderId)).Perm
    (orders.map (·.orderId))
  sellsFirst : result.orders.Pairwise fun a b => a.side = .buy → b.side = .buy
  planned : ∀ planned ∈ result.orders, ∃ order ∈ orders, Sized broker freeze order planned
  blockers : ∀ blocker ∈ result.blockers, blocker.reason ≠ .uquantDirectionContradiction ∧
    ∃ order ∈ orders, blocker.uquantOrderId = order.orderId ∧
      blocker.symbol = order.symbol.canonical

lemma conserves_of_plan {result : PlanningResult} (h : plan digests snapshot broker = .ok result) :
    ∃ pending freeze orders, Conserves snapshot broker result pending freeze orders := by
  unfold plan at h
  obtain ⟨-, -, h⟩ := bind_ok_iff.mp h
  obtain ⟨payload, hpayload, h⟩ := bind_ok_iff.mp h
  obtain ⟨⟨pending, freeze⟩, hread, h⟩ := bind_ok_iff.mp h
  obtain ⟨tally, htally, h⟩ := bind_ok_iff.mp h
  cases h
  obtain ⟨orders, hreads, hspec⟩ := @planItems_spec snapshot broker freeze pending [] ⟨[], [], []⟩
    tally ⟨rfl, List.nodup_nil, List.Perm.nil, fun _ h => (nomatch h), fun _ h =>
      (nomatch h)⟩ htally
  rw [List.nil_append] at hspec
  have hplanned := List.perm_insertionSort OrderLE tally.planned
  have hblockers := List.perm_insertionSort BlockerLE tally.blockers
  refine ⟨pending, freeze, orders, ?_⟩
  exact {
    payload := ⟨payload, hpayload, hread⟩
    reads := hreads
    distinct := by
      rw [← hspec.seen]
      exact hspec.nodup
    once := by
      rw [← hspec.seen]
      exact ((hplanned.map _).append (hblockers.map _)).trans hspec.once
    sellsFirst := by
      refine (List.pairwise_insertionSort OrderLE tally.planned).imp fun {a b} hab ha => ?_
      unfold OrderLE at hab
      split at hab
      next hside => exact hside.symm.trans ha
      next hside =>
        rw [ha] at hab
        cases hab
    planned := fun planned hmem => hspec.planned planned (hplanned.mem_iff.mp hmem)
    blockers := fun blocker hmem => hspec.blockers blocker (hblockers.mem_iff.mp hmem) }

/-- **Conservation and bounds of the planner.** -/
theorem plan_conserves (digests : PlanDigests) (snapshot : DecisionSnapshot)
    (broker : ExecutionBrokerSnapshot) :
    (∀ result, plan digests snapshot broker = .ok result →
      ∃ pending freeze orders, Conserves snapshot broker result pending freeze orders) ∧
    ∀ message, plan digests snapshot broker ≠ .error (.domainValidation message) :=
  ⟨fun _ => conserves_of_plan, unrefused_plan⟩

/-! ## A plan that rounds up -/

/-- Total assets of 38115465688.7139. -/
def wealth : Money := ⟨381154656887139 / 10 ^ 4, by norm_num⟩

def sampleSymbol : Symbol := ⟨.sh, "600001"⟩

def onePrice : Price := ⟨1, by norm_num⟩

/-- An account without positions, and one symbol that trades at 1. -/
def wealthyBroker : ExecutionBrokerSnapshot where
  brokerSnapshot := {
    account := {
      accountIdHash := "account"
      accountType := .cash
      availableCash := wealth
      totalAssets := wealth
      cash_le_assets := le_rfl }
    positions := []
    orders := []
    fills := []
    sessionDate := 2
    capturedAt := 0
    brokerEventWatermark := 0 }
  instruments := [{
    symbol := sampleSymbol
    securityType := .equity
    status := .trading
    tradingUnit := 100
    priceTick := ⟨1 / 100, cent_pos⟩
    pricePrecision := 2
    lowerLimit := none
    upperLimit := none
    sessionDate := 2
    observedAt := 0
    unit_pos := hundred_pos }]
  quotes := [{
    symbol := sampleSymbol
    lastPrice := some onePrice
    previousClose := some onePrice
    bidPrice := some onePrice
    askPrice := some onePrice
    volume := 0
    turnover := .zero
    lowerLimit := some ⟨9 / 10, by norm_num⟩
    upperLimit := some ⟨11 / 10, by norm_num⟩
    marketStatus := .open
    sequence := 1
    sessionDate := 2
    eventTime := 0
    receivedAt := 0 }]
  marketStatus := .open
  instruments_nodup := by decide
  quotes_nodup := by decide
  instrument_sessions := by simp
  quote_sessions := by simp
  quote_statuses := by simp

/-- A decision to buy one symbol. -/
def buyDecision : DecisionSnapshot where
  strategySession := 1
  decisionId := "decision"
  requestFingerprint := "request"
  inputFingerprint := "input"
  firmquantCommit := "firmquant"
  uquantCommit := "uquant"
  uquantCodeFingerprint := "code"
  uquantConfigFingerprint := "config"
  dataManifestSha256 := "data"
  universeManifestSha256 := "universe"
  brokerSnapshotSha256 := "broker"
  accountBeforeSha256 := "before"
  accountAfterSha256 := "after"
  payloadJson := Json.dumps (.obj [
    ("pending_orders", .arr [.obj [("order_id", .str "order"), ("symbol", .str "sh600001"),
      ("side", .str "BUY"), ("target_weight", .float "0.423621147170741"),
      ("reason_code", .str "ENTRY")]]),
    ("sentinel", .obj [("freeze_new_risk", .bool false)])])
  payloadSha256 := "payload"
  createdAt := 0
  supersedesDecisionId := none

def sampleDigests : PlanDigests where
  brokerSnapshot _ := "snapshot"
  plan _ _ _ _ := "plan"

/-- The plan of this decision: 161465173 lots at 1, which cost a little more than the weight pays
for. -/
lemma plan_buyDecision : ∃ result, plan sampleDigests buyDecision wealthyBroker = .ok result ∧
    ∃ planned ∈ result.orders, planned.side = .buy ∧ planned.targetShares = 16146517300 ∧
      planned.limitPrice.value = 1 ∧ planned.targetWeight = 423621147170741 / 10 ^ 15 := by
  have hplan : (plan sampleDigests buyDecision wealthyBroker).toOption.map (fun result =>
      result.orders.map fun p => (p.side, p.targetShares, p.limitPrice.value, p.targetWeight)) =
        some [(.buy, 16146517300, 1, 423621147170741 / 10 ^ 15)] := by
    decide +kernel
  obtain ⟨result, hresult, horders⟩ := exists_of_map hplan
  obtain ⟨planned, rest, hcons, hhead, -⟩ := List.map_eq_cons_iff.mp horders
  simp only [Prod.mk.injEq] at hhead
  exact ⟨result, hresult, planned, hcons ▸ List.mem_cons_self, hhead⟩

theorem buyDecision_conserves : ∃ result,
    plan sampleDigests buyDecision wealthyBroker = .ok result ∧
      ∃ pending freeze orders, Conserves buyDecision wealthyBroker result pending freeze
        orders := by
  obtain ⟨result, hresult, -⟩ := plan_buyDecision
  exact ⟨result, hresult, (plan_conserves _ _ _).1 result hresult⟩

/-- The product of the weight and the assets rounds up to whole lots. -/
theorem buy_exceeds_weight : ¬ ∀ digests snapshot broker result,
    plan digests snapshot broker = .ok result → ∀ planned ∈ result.orders, planned.side = .buy →
      planned.targetShares * planned.limitPrice.value ≤ planned.targetWeight * broker.equity := by
  intro h
  obtain ⟨result, hresult, planned, hmem, hside, htarget, hprice, hweight⟩ := plan_buyDecision
  have hle := h _ _ _ _ hresult planned hmem hside
  rw [htarget, hprice, hweight] at hle
  revert hle
  decide +kernel

end ExecutionPlanner

end FirmQuant
