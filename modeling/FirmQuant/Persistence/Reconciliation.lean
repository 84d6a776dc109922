import FirmQuant.Persistence.BrokerObservations

/-!
# Reconciling a broker order

`reconcile_broker_fact` of the monotonic repository, taken as one step of an order: what it leaves
of the state, and which observations it takes.

An observation without a new fill leaves an order of UNKNOWN outcome in ACKNOWLEDGED, whatever it
has filled; and an observation that expires an order and completes it is refused with its fills,
where one that cancels or rejects it would be taken.
-/

namespace FirmQuant

open Effect

namespace Ledger

open OrderAggregate

/-! ## The steps of a reconciliation -/

section Steps

variable {ledger ledger' : Ledger} {aggregate final : OrderAggregate} {fact : BrokerOrderFact}
  {fills : List BrokerFillFact} {time : DateTime}

/-- The steps of a reconciliation that returns. -/
structure Reconciles (aggregate : OrderAggregate) (fact : BrokerOrderFact)
    (fills ordered : List BrokerFillFact) (time : DateTime) (ledger recorded : Ledger)
    (filled : OrderAggregate) (stored : Ledger) (final : OrderAggregate) (ledger' : Ledger) :
    Prop where
  identity : factViolation aggregate fact = none
  sorted : orderedFills aggregate.intent.executionId fact fills = .ok ordered
  proven : provenCumulativeShares aggregate ordered = fact.filledShares
  record : recordBrokerOrder fact aggregate.intent.executionId ledger = .ok (⟨⟩, recorded)
  economics : applyBrokerEconomics aggregate fact ordered time recorded = .ok (filled, stored)
  status : applyQueriedStatus filled fact time stored = .ok (final, ledger')
  cumulative : final.filledShares = fact.filledShares

/-- A reconciliation returns when each of its steps does. -/
theorem reconcileBrokerFact_eq_ok :
    reconcileBrokerFact aggregate fact fills time ledger = .ok (final, ledger') ↔
      ∃ ordered recorded filled stored, Reconciles aggregate fact fills ordered time ledger recorded
        filled stored final ledger' := by
  constructor
  · intro h
    obtain ⟨hidentity, h₁⟩ := conflict_bind_eq_ok.mp h
    obtain ⟨ordered, hordered, h₂⟩ := Txn.lift_bind_eq_ok.mp h₁
    obtain ⟨hproven, h₃⟩ := conflict_bind_eq_ok.mp h₂
    obtain ⟨u, recorded, hrecord, h₄⟩ := Txn.bind_eq_ok.mp h₃
    obtain ⟨filled, stored, heconomics, h₅⟩ := Txn.bind_eq_ok.mp h₄
    obtain ⟨last, ledger₄, hstatus, h₆⟩ := Txn.bind_eq_ok.mp h₅
    obtain ⟨hcumulative, h₇⟩ := conflict_bind_eq_ok.mp h₆
    cases h₇
    refine ⟨ordered, recorded, filled, stored, hidentity, hordered, ?_, hrecord, heconomics,
      hstatus, ?_⟩
    · by_contra hne
      rw [if_pos hne] at hproven
      cases hproven
    · by_contra hne
      rw [if_pos hne] at hcumulative
      cases hcumulative
  · rintro ⟨ordered, recorded, filled, stored, h⟩
    refine conflict_bind_eq_ok.mpr ⟨h.identity, Txn.lift_bind_eq_ok.mpr ⟨ordered, h.sorted, ?_⟩⟩
    refine conflict_bind_eq_ok.mpr ⟨if_neg (not_not.mpr h.proven), ?_⟩
    refine Txn.bind_eq_ok.mpr ⟨⟨⟩, recorded, h.record, ?_⟩
    refine Txn.bind_eq_ok.mpr ⟨filled, stored, h.economics, ?_⟩
    refine Txn.bind_eq_ok.mpr ⟨final, ledger', h.status, ?_⟩
    exact conflict_bind_eq_ok.mpr ⟨if_neg (not_not.mpr h.cumulative), rfl⟩

end Steps

/-! ## The state after the economics -/

section Economics

variable {ledger recorded stored ledger' : Ledger} {aggregate acknowledged filled final :
  OrderAggregate} {fact : BrokerOrderFact} {fills ordered : List BrokerFillFact} {time : DateTime}

/-- The economics of a fact are its acknowledgement and its fills. -/
structure Economics (aggregate : OrderAggregate) (fact : BrokerOrderFact)
    (filled : OrderAggregate) : Prop where
  course : ∃ acknowledged, Acknowledged aggregate fact acknowledged ∧ FillCourse acknowledged filled
  cumulative : filled.filledShares = fact.filledShares

lemma applyBrokerEconomics_course
    (h : applyBrokerEconomics aggregate fact fills time ledger = .ok (filled, ledger')) :
    ∃ acknowledged, Acknowledged aggregate fact acknowledged ∧ FillCourse acknowledged filled ∧
      aggregate.fills ⊆ filled.fills := by
  obtain ⟨acknowledged, ledger₁, hack, hfills⟩ := Txn.bind_eq_ok.mp h
  have hacknowledged := acknowledge_acknowledged hack
  obtain ⟨hcourse, hkept⟩ := applyFills_course (.refl acknowledged) hfills
  exact ⟨acknowledged, hacknowledged, hcourse, hacknowledged.fills ▸ hkept⟩

lemma applyQueriedStatus_fills
    (h : applyQueriedStatus filled fact time ledger = .ok (final, ledger')) :
    final.fills = filled.fills ∧ final.filledShares = filled.filledShares := by
  have hfills : final.fills = filled.fills := by
    rw [applyQueriedStatus_eq] at h
    split_ifs at h
    · cases h
      rfl
    · cases hevent : statusEvent fact with
      | none =>
        rw [hevent] at h
        cases h
        rfl
      | some event =>
        rw [hevent] at h
        rcases apply_notFill (notFill_status (statusEvent_status hevent)).kind
          (transition_apply h) with rfl | ⟨-, hfills⟩
        · rfl
        · exact hfills
  refine ⟨hfills, ?_⟩
  rw [← final.wellFormed.filled_eq, ← filled.wellFormed.filled_eq, hfills]

lemma Reconciles.toEconomics
    (h : Reconciles aggregate fact fills ordered time ledger recorded filled stored final ledger') :
    Economics aggregate fact filled := by
  obtain ⟨acknowledged, hack, hcourse, -⟩ := applyBrokerEconomics_course h.economics
  exact ⟨⟨acknowledged, hack, hcourse⟩, (applyQueriedStatus_fills h.status).2.symm.trans
    h.cumulative⟩

lemma Economics.state_of_known (h : Economics aggregate fact filled)
    (hknown : fact.filledShares = aggregate.filledShares) :
    filled.state = ackState aggregate fact := by
  obtain ⟨⟨acknowledged, hack, hcourse⟩, hcumulative⟩ := h
  rw [hcourse.state, ← hack.state]
  exact if_pos (.inl (by rw [hcumulative, hknown, hack.filledShares]))

lemma Economics.state_of_new (h : Economics aggregate fact filled)
    (hnew : fact.filledShares ≠ aggregate.filledShares) :
    filled.state =
      if aggregate.state ∈ [OrderState.cancelled, .rejected, .expired] then aggregate.state
      else if fact.filledShares = aggregate.intent.requestedShares then .filled
      else if aggregate.state = .cancelRequested then .cancelRequested
      else .partiallyFilled := by
  obtain ⟨⟨acknowledged, hack, hcourse⟩, hcumulative⟩ := h
  have hclosed : acknowledged.state ∈ [OrderState.cancelled, .rejected, .expired] ↔
      aggregate.state ∈ [OrderState.cancelled, .rejected, .expired] := by
    rw [hack.state]
    unfold ackState
    split_ifs with hopen
    · have hstates := hopen.1
      revert hstates
      cases aggregate.state <;> decide
    · rfl
  have hcancel : acknowledged.state = .cancelRequested ↔ aggregate.state = .cancelRequested := by
    rw [hack.state]
    unfold ackState
    split_ifs with hopen
    · have hstates := hopen.1
      revert hstates
      cases aggregate.state <;> decide
    · rfl
  have hsame : aggregate.state ∈ [OrderState.cancelled, .rejected, .expired] →
      acknowledged.state = aggregate.state := by
    intro hstate
    rw [hack.state]
    refine if_neg fun hopen => ?_
    have hstates := hopen.1
    revert hstate hstates
    cases aggregate.state <;> decide
  rw [hcourse.state, hcumulative]
  unfold stateAfter
  rw [hack.filledShares, hack.intent]
  by_cases hstate : aggregate.state ∈ [OrderState.cancelled, .rejected, .expired]
  · rw [if_pos (.inr (hclosed.mpr hstate)), if_pos hstate, hsame hstate]
  · rw [if_neg (not_or.mpr ⟨hnew, mt hclosed.mp hstate⟩), if_neg hstate]
    simp only [hcancel]

lemma Economics.filled_le (h : Economics aggregate fact filled) :
    aggregate.filledShares ≤ fact.filledShares := by
  obtain ⟨⟨acknowledged, hack, hcourse⟩, hcumulative⟩ := h
  rw [← hcumulative, ← hack.filledShares]
  exact hcourse.filled_le

end Economics

/-! ## Whether the state describes the fact -/

section Describes

variable {ledger ledger' : Ledger} {aggregate final : OrderAggregate} {fact : BrokerOrderFact}
  {fills : List BrokerFillFact} {time : DateTime}

/-- The state after a reconciliation describes the fact: ACKNOWLEDGED says that nothing has been
filled, and an order that is filled in part is PARTIALLY_FILLED, CANCEL_REQUESTED or in the terminal
state that it had. -/
def Describes (before final : OrderAggregate) (fact : BrokerOrderFact) : Prop :=
  (final.state = .acknowledged → fact.filledShares = 0) ∧
    (0 < fact.filledShares → fact.filledShares < fact.requestedShares →
      final.state ∈ [OrderState.partiallyFilled, .cancelRequested] ∨
        (final.state ∈ OrderState.terminal ∧ before.state = final.state))

instance (before final : OrderAggregate) (fact : BrokerOrderFact) :
    Decidable (Describes before final fact) := by
  delta Describes
  infer_instance

/-- A fact brings a fill that the order has not retained, or reports none, or the order has a state
already that a known fill leaves as it is. -/
def Informs (aggregate : OrderAggregate) (fact : BrokerOrderFact) : Prop :=
  aggregate.filledShares < fact.filledShares ∨ fact.filledShares = 0 ∨
    aggregate.state ∈ [OrderState.partiallyFilled, .cancelRequested] ∨
    aggregate.state ∈ OrderState.terminal

instance (aggregate : OrderAggregate) (fact : BrokerOrderFact) :
    Decidable (Informs aggregate fact) := by
  delta Informs
  infer_instance

lemma applyQueriedStatus_working (hstatus : fact.status ∉ .unknown :: BrokerOrderStatus.terminal)
    (h : applyQueriedStatus aggregate fact time ledger = .ok (final, ledger')) :
    final = aggregate := by
  unfold applyQueriedStatus applyTerminalFact at h
  revert h hstatus
  cases fact.status <;> simp only [BrokerOrderStatus.terminal, BrokerOrderStatus.terminalState] <;>
    intro hstatus h
  all_goals first
    | exact absurd (by decide) hstatus
    | (cases h; rfl)

/-- Without a new fill the state describes the fact if it did so before. -/
lemma describes_of_known {intent : ExecutionIntent}
    (hreached : OrderAggregate.Reached intent aggregate)
    (hrequested : fact.requestedShares = aggregate.intent.requestedShares)
    (hknown : fact.filledShares = aggregate.filledShares) (hpositive : 0 < fact.filledShares)
    (hstate : final.state = ackState aggregate fact) :
    Describes aggregate final fact ↔
      aggregate.state ∈ [OrderState.partiallyFilled, .cancelRequested] ∨
        aggregate.state ∈ OrderState.terminal := by
  have hmisses : aggregate.state ∉ OrderState.terminal →
      fact.filledShares < fact.requestedShares := by
    intro hopen
    rw [hknown, hrequested]
    exact hreached.misses hopen
  constructor
  · rintro ⟨hack, hpartial⟩
    by_contra hneither
    obtain ⟨hworking, hopen⟩ := not_or.mp hneither
    have hsome := hpartial hpositive (hmisses hopen)
    have hnotack : final.state ≠ .acknowledged := fun heq => hpositive.ne' (hack heq)
    -- An order that the fact does not acknowledge keeps a state that says nothing of the fill.
    have hsame : final.state = aggregate.state := by
      rw [hstate] at hnotack ⊢
      unfold ackState at hnotack ⊢
      split_ifs at hnotack ⊢ with hopened
      · exact absurd rfl hnotack
      · rfl
    rw [hsame] at hsome
    rcases hsome with hsome | ⟨hsome, -⟩
    · exact hworking hsome
    · exact hopen hsome
  · intro hdescribed
    have hsame : final.state = aggregate.state := by
      rw [hstate]
      refine if_neg fun hopened => ?_
      have hstates := hopened.1
      revert hdescribed hstates
      cases aggregate.state <;> decide
    refine ⟨fun hack => ?_, fun _ _ => ?_⟩
    · rw [← hsame, hack] at hdescribed
      exact absurd hdescribed (by decide)
    · rw [hsame]
      exact hdescribed.imp_right fun hterminal => ⟨hterminal, rfl⟩

/-- With a new fill the state describes the fact. -/
lemma describes_of_new (heconomics : Economics aggregate fact final)
    (hrequested : fact.requestedShares = aggregate.intent.requestedShares)
    (hnew : fact.filledShares ≠ aggregate.filledShares) : Describes aggregate final fact := by
  have hstate := heconomics.state_of_new hnew
  split_ifs at hstate with hclosed hfull hcancel
  · refine ⟨fun hack => ?_, fun _ _ => .inr ⟨?_, hstate.symm⟩⟩
    · rw [← hstate, hack] at hclosed
      exact absurd hclosed (by decide)
    · rw [hstate]
      revert hclosed
      cases aggregate.state <;> decide
  · refine ⟨fun hack => ?_, fun _ hpartial => ?_⟩
    · rw [hstate] at hack
      cases hack
    · omega
  all_goals
    rw [Describes, hstate]
    exact ⟨fun hack => absurd hack (by decide), fun _ _ => .inl (by decide)⟩

/-- For every order that events lead to and every fact of a working status whose reconciliation
returns: the state describes the fact if and only if the fact brings a new fill or reports none, or
the order is PARTIALLY_FILLED, CANCEL_REQUESTED or closed. -/
theorem describes_iff (intent : ExecutionIntent) (events : List OrderEvent)
    (fact : BrokerOrderFact) (fills : List BrokerFillFact) (time : DateTime)
    (ledger ledger' : Ledger) (final : OrderAggregate)
    (hstatus : fact.status ∉ .unknown :: BrokerOrderStatus.terminal)
    (hrun : reconcileBrokerFact (history intent events) fact fills time ledger =
      .ok (final, ledger')) :
    Describes (history intent events) final fact ↔ Informs (history intent events) fact := by
  obtain ⟨ordered, recorded, filled, stored, hsteps⟩ := reconcileBrokerFact_eq_ok.mp hrun
  have heconomics := hsteps.toEconomics
  obtain rfl := applyQueriedStatus_working hstatus hsteps.status
  obtain ⟨-, hrequested⟩ := fact_of_factViolation hsteps.identity
  have hle := heconomics.filled_le
  by_cases hnew : fact.filledShares = (history intent events).filledShares
  · have hstate := heconomics.state_of_known hnew
    unfold Informs
    by_cases hzero : fact.filledShares = 0
    · refine ⟨fun _ => .inr (.inl hzero), fun _ => ⟨fun _ => hzero, fun hpositive => ?_⟩⟩
      omega
    · rw [describes_of_known (reached_history intent events) hrequested hnew
        (Nat.pos_of_ne_zero hzero) hstate]
      constructor
      · exact fun h => .inr (.inr h)
      · rintro (hlt | hnone | h)
        · omega
        · exact absurd hnone hzero
        · exact h
  · refine ⟨fun _ => .inl (lt_of_le_of_ne hle fun heq => hnew heq.symm), fun _ => ?_⟩
    exact describes_of_new heconomics hrequested hnew

end Describes

/-! ## Which observations are absorbed -/

section Absorbs

variable {ledger ledger₁ ledger' : Ledger} {aggregate filled final : OrderAggregate}
  {executionId : ExecutionId} {fact : BrokerOrderFact} {fill : BrokerFillFact}
  {fills kept distinct ordered : List BrokerFillFact} {time : DateTime}

/-- The checks of `_record_fill`, of one fill after another. -/
def recordFills (executionId : ExecutionId) : List BrokerFillFact → LedgerTxn PUnit
  | [] => pure ⟨⟩
  | fill :: rest => do
    recordFill fill executionId
    recordFills executionId rest

/-- An observation that passes every check before the order is moved: of the fact against the
intent, of the fills against the fact and its cumulative shares, and of both against what is
recorded. -/
structure Observed (ledger : Ledger) (aggregate : OrderAggregate) (fact : BrokerOrderFact)
    (fills : List BrokerFillFact) : Prop where
  identity : factViolation aggregate fact = none
  fills : ∃ ordered, orderedFills aggregate.intent.executionId fact fills = .ok ordered ∧
    provenCumulativeShares aggregate ordered = fact.filledShares ∧
    ∃ recorded stored,
      recordBrokerOrder fact aggregate.intent.executionId ledger = .ok (⟨⟩, recorded) ∧
      recordFills aggregate.intent.executionId ordered recorded = .ok (⟨⟩, stored)

/-- The observation is taken: the order has the shares of the fact, retains all fills, and is closed
when the broker order is. -/
def Absorbs (ledger : Ledger) (aggregate : OrderAggregate) (fact : BrokerOrderFact)
    (fills : List BrokerFillFact) (time : DateTime) : Prop :=
  ∃ final ledger', reconcileBrokerFact aggregate fact fills time ledger = .ok (final, ledger') ∧
    final.filledShares = fact.filledShares ∧ (∀ fill ∈ fills, fill.appliedFill ∈ final.fills) ∧
    (fact.status ∈ BrokerOrderStatus.terminal → final.state ∈ OrderState.terminal)

/-- The status of a fact is no status that the order can take after the fills: it expires an order
that is CANCELLED or REJECTED, that the fills complete, or that is SUBMITTING and stays so; or it
cancels one that is REJECTED or EXPIRED. -/
def Refused (aggregate : OrderAggregate) (fact : BrokerOrderFact) : Prop :=
  (fact.status = .expired ∧ aggregate.state ≠ .expired ∧
      (aggregate.state ∈ [OrderState.cancelled, .rejected] ∨
        fact.filledShares = fact.requestedShares ∨
        (aggregate.state = .submitting ∧ fact.filledShares = aggregate.filledShares ∧
          ackEvent fact ∈ aggregate.appliedEvents))) ∨
    (fact.status = .cancelled ∧ aggregate.state ∈ [OrderState.rejected, .expired])

instance (aggregate : OrderAggregate) (fact : BrokerOrderFact) :
    Decidable (Refused aggregate fact) := by
  delta Refused
  infer_instance

/-- What the loop of `_ordered_fills` keeps: fills of the order, and one for each supplied one. -/
lemma deduplicate_distinct (h : deduplicate executionId fact kept fills = .ok distinct) :
    kept ⊆ distinct ∧ ∀ fill ∈ fills,
      ∃ f ∈ distinct, f.identity executionId = fill.identity executionId := by
  induction fills generalizing kept with
  | nil =>
    cases h
    exact ⟨List.Subset.refl _, by simp⟩
  | cons fill rest ih =>
    unfold deduplicate at h
    split_ifs at h with hfill
    cases hfind : kept.find? (·.brokerFillId = fill.brokerFillId) with
    | some existing =>
      simp only [hfind] at h
      split_ifs at h with hsame
      obtain ⟨hkept, hrest⟩ := ih h
      refine ⟨hkept, fun f hf => ?_⟩
      rcases List.mem_cons.mp hf with rfl | hf
      · exact ⟨existing, hkept (List.mem_of_find?_eq_some hfind), hsame⟩
      · exact hrest f hf
    | none =>
      simp only [hfind] at h
      obtain ⟨hkept, hrest⟩ := ih h
      refine ⟨List.Subset.trans (List.subset_append_left _ _) hkept, fun f hf => ?_⟩
      rcases List.mem_cons.mp hf with rfl | hf
      · exact ⟨f, hkept List.mem_concat_self, rfl⟩
      · exact hrest f hf

lemma orderedFills_distinct (h : orderedFills executionId fact fills = .ok ordered) :
    ∀ fill ∈ fills, ∃ f ∈ ordered, f.identity executionId = fill.identity executionId := by
  unfold orderedFills at h
  obtain ⟨distinct, hfirst, ⟨⟩⟩ := bind_ok_iff.mp h
  intro fill hfill
  obtain ⟨f, hf, hsame⟩ := (deduplicate_distinct hfirst).2 fill hfill
  exact ⟨f, (List.perm_insertionSort fillLe distinct).mem_iff.mpr hf, hsame⟩

/-- Fills of one identity are retained as one. -/
lemma appliedFill_of_identity {f : BrokerFillFact}
    (h : f.identity executionId = fill.identity executionId) :
    f.appliedFill = fill.appliedFill := by
  simp only [BrokerFillFact.identity, FillIdentity.mk.injEq] at h
  obtain ⟨hid, horder, -, -, -, -, hshares, hprice, -⟩ := h
  simp only [BrokerFillFact.appliedFill, AppliedFill.mk.injEq]
  exact ⟨hid, horder, hshares, hprice⟩

/-- Fills that are recorded one after another fit. -/
lemma fillsFit_of_recordFills (hrows : (ledger.fills.map (·.brokerFillId)).Nodup)
    (hids : (ordered.map (·.brokerFillId)).Nodup) (hmatch : ∀ f ∈ ordered, fillMatches fact f)
    {u : PUnit} (h : recordFills executionId ordered ledger = .ok (u, ledger')) :
    FillsFit ledger executionId ordered := by
  induction ordered generalizing ledger with
  | nil => exact ⟨by simp, by simp, List.Pairwise.nil⟩
  | cons fill rest ih =>
    obtain ⟨_, ledger₁, hrecord, hrest⟩ := Txn.bind_eq_ok.mp h
    obtain ⟨-, -, htakes⟩ := recordFill_eq_ok.mp hrecord
    obtain ⟨hnotin, hrestIds⟩ := List.nodup_cons.mp hids
    have hother : ∀ f ∈ rest, f.brokerFillId ≠ fill.brokerFillId := fun f hf heq =>
      hnotin (List.mem_map.mpr ⟨f, hf, heq⟩)
    -- What the first fill leaves: the rows and the evidence of the others are as they were.
    have htables : (ledger₁.fills.map (·.brokerFillId)).Nodup ∧ ledger.fills ⊆ ledger₁.fills ∧
        (∀ row ∈ ledger₁.fills, row ∈ ledger.fills ∨ row.brokerFillId = fill.brokerFillId) ∧
        ledger₁.fillEvidence = (recordFillEvidence fill executionId ledger).fillEvidence := by
      cases htakes with
      | again row hfind hagain =>
        rw [recordFillEvidence_tables.1]
        exact ⟨hrows, List.Subset.refl _, fun row hrow => .inl hrow, rfl⟩
      | new hunrecorded hlater =>
        refine ⟨?_, List.subset_append_left _ _, fun row hrow => ?_, rfl⟩
        · exact List.nodup_map_snoc.mpr ⟨hrows, fun row hrow => hunrecorded row hrow⟩
        · rcases List.mem_snoc.mp hrow with hold | hnew
          · exact .inl hold
          · rw [hnew]
            exact .inr rfl
    obtain ⟨hrows₁, hold, hnewRow, hevidence⟩ := htables
    have hkept : ledger.fillEvidence ⊆ ledger₁.fillEvidence := by
      rw [hevidence]
      exact subset_recordFillEvidence
    have hadded : ∀ stored ∈ ledger₁.fillEvidence, stored ∈ ledger.fillEvidence ∨
        stored = fillEvidenceRow fill executionId := by
      intro stored hstored
      rw [hevidence] at hstored
      exact mem_recordFillEvidence hstored
    have hself : fillEvidenceRow fill executionId ∈ ledger₁.fillEvidence := by
      rw [hevidence]
      unfold recordFillEvidence
      split_ifs with hmem
      · exact hmem
      · exact List.mem_concat_self
    have hunrecorded : ∀ f ∈ rest, ledger.Unrecorded f → ledger₁.Unrecorded f := by
      intro f hf hnew row hrow hid
      rcases hnewRow row hrow with hrow | hsame
      · exact hnew row hrow hid
      · exact hother f hf (hid.symm.trans hsame)
    obtain ⟨hrecorded, hlater, hincreasing⟩ :=
      ih hrows₁ hrestIds (List.forall_mem_cons.mp hmatch).2 hrest
    have hlater₁ : ∀ f ∈ rest, ledger.Unrecorded f → ∀ stored ∈ ledger₁.fillEvidence,
        stored.identity.sessionDate = f.sessionDate →
        stored.identity.brokerOrderId = f.brokerOrderId →
        stored.identity.executionSequence < f.eventSequence := by
      intro f hf hnew stored hstored hdate horder
      exact hlater f hf (hunrecorded f hf hnew) stored
        (List.mem_filter.mpr ⟨hstored, by simp [hdate, horder]⟩)
    refine ⟨fun f hf row hrow hid => ?_, fun f hf hnew stored hstored => ?_, ?_⟩
    · rcases List.mem_cons.mp hf with rfl | hf
      · cases htakes with
        | again found hfind hagain =>
          have hfound : found.brokerFillId = f.brokerFillId := by simpa using List.find?_some hfind
          rwa [List.inj_on_of_nodup_map hrows hrow (List.mem_of_find?_eq_some hfind)
            (hid.trans hfound.symm)]
        | new hnew hafter => exact absurd hid (hnew row hrow)
      · obtain ⟨heconomics, ⟨stored, hstored, hstoredId⟩, hidentity⟩ :=
          hrecorded f hf row (hold hrow) hid
        refine ⟨heconomics, ⟨stored, ?_, hstoredId⟩, fun other hmem => hidentity other (hkept hmem)⟩
        rcases hadded stored hstored with hmem | rfl
        · exact hmem
        · exact absurd hstoredId.symm (hother f hf)
    · rcases List.mem_cons.mp hf with rfl | hf
      · cases htakes with
        | again found hfind hagain =>
          have hfound : found.brokerFillId = f.brokerFillId := by simpa using List.find?_some hfind
          exact absurd hfound (hnew found (List.mem_of_find?_eq_some hfind))
        | new _ hafter => exact hafter stored hstored
      · obtain ⟨hmem, hsession⟩ := List.mem_filter.mp hstored
        obtain ⟨hdate, horder⟩ : stored.identity.sessionDate = f.sessionDate ∧
          stored.identity.brokerOrderId = f.brokerOrderId := of_decide_eq_true hsession
        exact hlater₁ f hf hnew stored (hkept hmem) hdate horder
    · refine List.pairwise_cons.mpr ⟨fun f hf _ hnew hdate => ?_, ?_⟩
      · have horder : fill.brokerOrderId = f.brokerOrderId :=
          (hmatch fill List.mem_cons_self).1.trans
            (hmatch f (List.mem_cons_of_mem _ hf)).1.symm
        exact hlater₁ f hf hnew _ hself hdate horder
      · refine hincreasing.imp_of_mem fun hx hy hxy hxnew hynew => ?_
        exact hxy (hunrecorded _ hx hxnew) (hunrecorded _ hy hynew)

lemma filled_of_factViolation (h : factViolation aggregate fact = none)
    (hstatus : fact.status = .filled) : fact.filledShares = fact.requestedShares := by
  unfold factViolation at h
  split_ifs at h with hbroker hintent hfilled hpartial
  by_contra hne
  exact hfilled ⟨hstatus, hne⟩

/-! ### The status after the fills -/

lemma Economics.takes_iff (h : Economics aggregate fact filled) (hmisses : MissesShares aggregate)
    (hrequested : fact.requestedShares = aggregate.intent.requestedShares) :
    Takes filled.state fact.status ↔ ¬ Refused aggregate fact := by
  have hclosing : filled.state ∈ [OrderState.submitting, .filled, .cancelled, .rejected] ↔
      aggregate.state ≠ .expired ∧ (aggregate.state ∈ [OrderState.cancelled, .rejected] ∨
        fact.filledShares = fact.requestedShares ∨
        (aggregate.state = .submitting ∧ fact.filledShares = aggregate.filledShares ∧
          ackEvent fact ∈ aggregate.appliedEvents)) := by
    by_cases hknown : fact.filledShares = aggregate.filledShares
    · rw [h.state_of_known hknown]
      unfold MissesShares at hmisses
      have hfull := aggregate.wellFormed.filled_full
      rw [hknown, hrequested]
      unfold ackState
      by_cases hseen : ackEvent fact ∈ aggregate.appliedEvents <;>
        cases hstate : aggregate.state <;> simp_all [OrderState.terminal] <;> omega
    · rw [h.state_of_new hknown, ← hrequested]
      by_cases hfull : fact.filledShares = fact.requestedShares <;>
        cases hstate : aggregate.state <;> simp_all
  have hcancelled : filled.state ∈ [OrderState.rejected, .expired] ↔
      aggregate.state ∈ [OrderState.rejected, .expired] := by
    by_cases hknown : fact.filledShares = aggregate.filledShares
    · rw [h.state_of_known hknown]
      unfold ackState
      by_cases hseen : ackEvent fact ∈ aggregate.appliedEvents <;>
        cases hstate : aggregate.state <;> simp_all
    · rw [h.state_of_new hknown]
      by_cases hfull : fact.filledShares = aggregate.intent.requestedShares <;>
        cases hstate : aggregate.state <;> simp_all
  rw [Takes, Refused, hclosing, hcancelled]
  constructor
  · rintro ⟨hexpired, hclosed⟩ (⟨hstatus, hrest⟩ | ⟨hstatus, hrest⟩)
    · exact hexpired hstatus hrest
    · exact hclosed hstatus hrest
  · intro h
    exact ⟨fun hstatus hrest => h (.inl ⟨hstatus, hrest⟩),
      fun hstatus hrest => h (.inr ⟨hstatus, hrest⟩)⟩

/-- What the status of a fact did: nothing, as the order has its state or it has no event, or its
event was accepted. -/
lemma applyQueriedStatus_cases
    (h : applyQueriedStatus filled fact time ledger = .ok (final, ledger')) :
    (final = filled ∧
        (fact.status.terminalState = some filled.state ∨ statusEvent fact = none)) ∨
      ∃ event, statusEvent fact = some event ∧ filled.apply event = .ok final := by
  rw [applyQueriedStatus_eq] at h
  split_ifs at h with hsame
  · cases h
    exact .inl ⟨rfl, .inl hsame⟩
  cases hevent : statusEvent fact with
  | none =>
    rw [hevent] at h
    cases h
    exact .inl ⟨rfl, .inr rfl⟩
  | some event =>
    rw [hevent] at h
    exact .inr ⟨event, rfl, transition_apply h⟩

/-- The status of a fact closes the order, if it closes the broker order. -/
lemma closed_of_status (hclosings : Closings filled)
    (hfull : fact.status = .filled → filled.state ∈ OrderState.terminal)
    (h : applyQueriedStatus filled fact time ledger = .ok (final, ledger'))
    (hstatus : fact.status ∈ BrokerOrderStatus.terminal) : final.state ∈ OrderState.terminal := by
  rcases applyQueriedStatus_cases h with ⟨rfl, hsame | hnone⟩ | ⟨event, hevent, happly⟩
  · have hclosing : ∀ {status : BrokerOrderStatus} {state : OrderState},
        status.terminalState = some state → state ∈ OrderState.terminal := by
      intro status state hstate
      cases status <;> cases hstate <;> decide
    exact hclosing hsame
  · refine hfull ?_
    unfold statusEvent at hnone
    revert hnone hstatus
    cases fact.status <;> simp [BrokerOrderStatus.terminal]
  · have hmem := applied_of_apply (notFill_status (statusEvent_status hevent)).kind happly
    obtain ⟨hrejected, hexpired, hcancelled⟩ := apply_closings happly hclosings
    unfold statusEvent at hevent
    cases hcase : fact.status with
    | rejected =>
      rw [hcase] at hevent
      obtain rfl := Option.some.inj hevent
      exact hrejected _ hmem _ rfl
    | expired =>
      rw [hcase] at hevent
      obtain rfl := Option.some.inj hevent
      rw [hexpired _ hmem _ rfl]
      decide
    | cancelled =>
      rw [hcase] at hevent
      obtain rfl := Option.some.inj hevent
      have hstate := hcancelled _ hmem _ rfl
      revert hstate
      cases final.state <;> decide
    | unknown | pendingNew | acknowledged | partiallyFilled | filled | pendingCancel =>
      rw [hcase] at hstatus hevent
      first
        | exact absurd hstatus (by decide)
        | cases hevent

lemma takes_of_status (hclosings : Closings filled)
    (h : applyQueriedStatus filled fact time ledger = .ok (final, ledger')) :
    Takes filled.state fact.status := by
  rcases applyQueriedStatus_cases h with ⟨-, hsame | hnone⟩ | ⟨event, hevent, happly⟩
  · refine ⟨fun hstatus => ?_, fun hstatus => ?_⟩
    all_goals
      rw [hstatus] at hsame
      rw [← Option.some.inj hsame]
      decide
  · unfold statusEvent at hnone
    refine ⟨fun hstatus => ?_, fun hstatus => ?_⟩
    · rw [hstatus] at hnone
      cases hnone
    · rw [hstatus] at hnone
      cases hnone
  have hmem := applied_of_apply (notFill_status (statusEvent_status hevent)).kind happly
  obtain ⟨-, hexpired, hcancelled⟩ := apply_closings happly hclosings
  have hstays : filled.state ∈ OrderState.terminal → final.state = filled.state :=
    apply_terminal happly
  refine ⟨fun hstatus hstate => ?_, fun hstatus hstate => ?_⟩
  · unfold statusEvent at hevent
    rw [hstatus] at hevent
    obtain rfl := Option.some.inj hevent
    have hfinal := hexpired _ hmem _ rfl
    by_cases hsubmitting : filled.state = .submitting
    · -- An order that is being submitted cannot expire.
      rcases apply_cases happly with rfl | hadvanced
      · rw [hsubmitting] at hfinal
        cases hfinal
      · have hlegal := hadvanced.state
        rw [hfinal, hsubmitting] at hlegal
        exact absurd hlegal (by decide)
    · have hterminal : filled.state ∈ OrderState.terminal := by
        revert hstate hsubmitting
        cases filled.state <;> decide
      rw [hstays hterminal] at hfinal
      rw [hfinal] at hstate
      exact absurd hstate (by decide)
  · unfold statusEvent at hevent
    rw [hstatus] at hevent
    obtain rfl := Option.some.inj hevent
    have hfinal := hcancelled _ hmem _ rfl
    have hterminal : filled.state ∈ OrderState.terminal := by
      revert hstate
      cases filled.state <;> decide
    rw [hstays hterminal] at hfinal
    revert hstate hfinal
    cases filled.state <;> decide

/-! ### The observation as a whole -/

/-- An observation that passes the checks moves the shares of the order to those of the fact, and
the order retains the fills. -/
lemma Observed.economics (h : Observed ledger aggregate fact fills) (hrecorded : Recorded ledger)
    (hstored : Stored ledger aggregate)
    (hsubmitted : aggregate.state ∉ [OrderState.planned, .validated, .armed]) (time : DateTime) :
    ∃ ordered recorded filled stored,
      orderedFills aggregate.intent.executionId fact fills = .ok ordered ∧
      provenCumulativeShares aggregate ordered = fact.filledShares ∧
      recordBrokerOrder fact aggregate.intent.executionId ledger = .ok (⟨⟩, recorded) ∧
      applyBrokerEconomics aggregate fact ordered time recorded = .ok (filled, stored) ∧
      Sent stored filled fact.brokerOrderId ∧ filled.filledShares = fact.filledShares ∧
      ∀ fill ∈ fills, fill.appliedFill ∈ filled.fills := by
  obtain ⟨hidentity, ordered, hordered, hproven, recorded, stored, hrecord, hfills⟩ := h
  obtain ⟨hbroker, hrequested⟩ := fact_of_factViolation hidentity
  obtain ⟨howned, -, horder⟩ := owned_recordBrokerOrder hrecorded.owned hrecord
  have haside := recordBrokerOrder_aside hrecord
  have hsent : Sent recorded aggregate fact.brokerOrderId :=
    ⟨hrecorded.agrees.aside haside, howned, hstored.aside haside, hsubmitted, hbroker, horder⟩
  have hdistinct := orderedFills_ids hordered
  have hready : FillsReady recorded aggregate.intent.executionId fact ordered :=
    orderedFills_ready hordered
      (fillsFit_of_recordFills howned.fills hdistinct.1 hdistinct.2 hfills)
  obtain ⟨acknowledged, ledger₁, hack, hsent₁, hacknowledged, hfills₁, hevidence₁⟩ :=
    hsent.acknowledge_succeeds time
  have hready₁ : FillsReady ledger₁ acknowledged.intent.executionId fact ordered := by
    rw [hacknowledged.intent]
    exact hready.of_tables hfills₁ hevidence₁
  have hbound := fact.filled_le_requested
  obtain ⟨filled, ledger₂, happlied, hsent₂, hshares, hretained⟩ :=
    hsent₁.applyFills_succeeds hready₁ (by rw [hacknowledged.proven, hacknowledged.intent]; omega)
  refine ⟨ordered, recorded, filled, ledger₂, hordered, hproven, hrecord, ?_, hsent₂, ?_, ?_⟩
  · exact Txn.bind_eq_ok.mpr ⟨_, _, hack, happlied⟩
  · rw [hshares, hacknowledged.proven, hproven]
  · intro fill hfill
    obtain ⟨f, hf, hsame⟩ := orderedFills_distinct hordered fill hfill
    rw [← appliedFill_of_identity hsame]
    exact hretained f hf

/-- For every ledger that repository calls have written, every order of it that was submitted, and
every observation that passes the checks: the observation is absorbed if and only if the order is
not refused its status. -/
theorem absorbs_iff (ledger : Ledger) (executionId : ExecutionId) (aggregate : OrderAggregate)
    (fact : BrokerOrderFact) (fills : List BrokerFillFact) (time : DateTime)
    (hwritten : Written ledger) (hload : ledger.load executionId = some aggregate)
    (hsubmitted : aggregate.state ∉ [OrderState.planned, .validated, .armed])
    (hobserved : Observed ledger aggregate fact fills) :
    Absorbs ledger aggregate fact fills time ↔ ¬ Refused aggregate fact := by
  have hrecorded := hwritten.recorded
  have hissued := hrecorded.issued_of_load hload
  obtain ⟨ordered, recorded, filled, stored, hordered, hproven, hrecord, heconomics, hsent, hshares,
    hretained⟩ := hobserved.economics hrecorded (stored_of_load hload) hsubmitted time
  obtain ⟨-, hrequested⟩ := fact_of_factViolation hobserved.identity
  obtain ⟨acknowledged, hacknowledged, hcourse, -⟩ := applyBrokerEconomics_course heconomics
  have hecon : Economics aggregate fact filled := ⟨⟨acknowledged, hacknowledged, hcourse⟩, hshares⟩
  have hclosings : Closings filled := (applyBrokerEconomics_evolves heconomics).keeps_aggregate
    (fun _ happly hc => apply_closings happly hc) hissued.closings
  have hmisses : MissesShares filled := (applyBrokerEconomics_evolves heconomics).keeps_aggregate
    (fun _ happly hm => apply_missesShares happly hm) hissued.missesShares
  rw [← hecon.takes_iff hissued.missesShares hrequested]
  constructor
  · rintro ⟨final, ledger', hrun, -⟩
    obtain ⟨ordered', recorded', filled', stored', hsteps⟩ := reconcileBrokerFact_eq_ok.mp hrun
    obtain rfl : ordered' = ordered := Except.ok.inj (hsteps.sorted.symm.trans hordered)
    cases hsteps.record.symm.trans hrecord
    cases hsteps.economics.symm.trans heconomics
    exact takes_of_status hclosings hsteps.status
  · intro htakes
    obtain ⟨final, ledger', hstatus, hfills⟩ := hsent.applyQueriedStatus_succeeds htakes time
    have hcumulative := (applyQueriedStatus_fills hstatus).2.trans hshares
    refine ⟨final, ledger', reconcileBrokerFact_eq_ok.mpr ⟨ordered, recorded, filled, stored,
      hobserved.identity, hordered, hproven, hrecord, heconomics, hstatus, hcumulative⟩,
      hcumulative, fun fill hfill => hfills ▸ hretained fill hfill, closed_of_status hclosings ?_
      hstatus⟩
    -- The fact of a FILLED broker order reports all shares.
    intro hfilled
    by_contra hopen
    have hmissing := hmisses hopen
    rw [hcourse.intent, hacknowledged.intent, hshares, ← hrequested] at hmissing
    exact hmissing.ne (filled_of_factViolation hobserved.identity hfilled)

end Absorbs

/-! ## An order of two shares -/

namespace ObservationSample

def intent : ExecutionIntent :=
  ⟨⟨"decision", "order", ⟨.sh, "600001"⟩, .buy, 2, 0, "uquant"⟩, Nat.two_pos⟩

def price : Price := ⟨10, ten_pos⟩

def command : BrokerOrderCommand :=
  ⟨intent.executionId, intent.idempotencyKey, "order", intent.symbol, .buy, .limit, 2, price, 0,
    Nat.two_pos⟩

/-- What the broker reports of the order. -/
def fact (status : BrokerOrderStatus) (filledShares eventSequence : ℕ) (h : filledShares ≤ 2) :
    BrokerOrderFact where
  brokerOrderId := "broker"
  clientOrderId := some "order"
  symbol := intent.symbol
  side := .buy
  priceType := .limit
  status := status
  requestedShares := 2
  filledShares := filledShares
  limitPrice := price
  sessionDate := 0
  eventTime := 0
  receivedAt := 0
  eventSequence := eventSequence
  rawPayloadSha256 := "order"
  requested_pos := Nat.two_pos
  filled_le_requested := h

/-- A confirmed fill of one share. -/
def fill (id : String) (eventSequence : ℕ) : BrokerFillFact where
  brokerFillId := id
  brokerOrderId := "broker"
  symbol := intent.symbol
  side := .buy
  status := .confirmed
  shares := 1
  price := price
  commission := Money.zero
  stampDuty := Money.zero
  transferFee := Money.zero
  sessionDate := 0
  eventTime := 0
  receivedAt := 0
  eventSequence := eventSequence
  rawPayloadSha256 := "fill"
  shares_pos := Nat.one_pos

def attempt (attemptNumber : ℕ) (commandKind : CommandKind) : BrokerAttempt :=
  ⟨⟨intent.executionId, attemptNumber, commandKind⟩, intent.executionId, attemptNumber, commandKind⟩

/-- The order is submitted, and one of its shares is filled. -/
def calls : List RepositoryCall := [
  .appendIntent intent 0,
  .onOrder intent.executionId (.validateAndArm 0),
  .onOrder intent.executionId (.beginSubmit command 0),
  .onOrder intent.executionId (.recordSubmitResult (attempt 1 .submit)
    (fact .partiallyFilled 1 1 (Nat.le_succ 1)) [fill "one" 1] 0)]

/-- Its cancel is written ahead, and the outcome of the cancel is unknown. -/
def cancelCalls : List RepositoryCall := [
  .onOrder intent.executionId (.beginCancel 0),
  .onOrder intent.executionId (.markAttemptUnknown (attempt 2 .cancel) "BROKER_TIMEOUT" 0)]

def filledLedger : Ledger := calls.foldl perform Ledger.empty

def unknownLedger : Ledger := cancelCalls.foldl perform filledLedger

lemma written_filled : Written filledLedger := by
  unfold filledLedger calls
  simp only [List.foldl_cons, List.foldl_nil]
  refine .call (.call (.call (.call .empty ?_) ?_) ?_) ?_
  · trivial
  · intro other hother
    exact hother.elim
  · intro other hother
    exact hother.elim
  · rintro _ rfl
    have hrow : ∃ row ∈ ((calls.take 3).foldl perform Ledger.empty).attempts,
        row.attemptId = (attempt 1 .submit).attemptId ∧ row.executionId = intent.executionId := by
      decide
    exact hrow

lemma written_unknown : Written unknownLedger := by
  unfold unknownLedger cancelCalls
  simp only [List.foldl_cons, List.foldl_nil]
  refine .call (.call written_filled ?_) ?_
  · intro other hother
    exact hother.elim
  · rintro _ rfl
    have hrow : ∃ row ∈ ((cancelCalls.take 1).foldl perform filledLedger).attempts,
        row.attemptId = (attempt 2 .cancel).attemptId ∧ row.executionId = intent.executionId := by
      decide
    exact hrow

/-- The events of the order. -/
def events : List OrderEvent := [
  ⟨.validate intent.executionId, .orderValidated⟩,
  ⟨.arm intent.executionId, .orderArmed⟩,
  ⟨.submitStarted intent.executionId 1, .submitStarted⟩,
  ⟨.ack "broker" 1, .brokerAcknowledged "broker"⟩,
  fillEvent (fill "one" 1)]

/-- The events of its cancel. -/
def cancelEvents : List OrderEvent := [
  ⟨.cancelRequested intent.executionId 1, .cancelRequested⟩,
  ⟨.unknown (attempt 2 .cancel).attemptId "BROKER_TIMEOUT", .cancelOutcomeUnknown "BROKER_TIMEOUT"⟩]

lemma load_filled : filledLedger.load intent.executionId = some (history intent events) := by
  decide

lemma load_unknown :
    unknownLedger.load intent.executionId = some (history intent (events ++ cancelEvents)) := by
  decide

/-- A call that returns, with a check of what it returns. -/
lemma exists_of_check {α : Type} (call : LedgerTxn α) (ledger : Ledger)
    (check : α × Ledger → Prop) [DecidablePred check]
    (h : ((call ledger).toOption.any fun r => check r) = true) :
    ∃ result ledger', call ledger = .ok (result, ledger') ∧ check (result, ledger') := by
  obtain ⟨r, hcall, hr⟩ := exists_of_any h
  exact ⟨r.1, r.2, hcall, of_decide_eq_true hr⟩

lemma observed_of_check {ledger : Ledger} {aggregate : OrderAggregate} {fact : BrokerOrderFact}
    {fills : List BrokerFillFact} (ordered : List BrokerFillFact)
    (hidentity : factViolation aggregate fact = none)
    (hordered : orderedFills aggregate.intent.executionId fact fills = .ok ordered)
    (hproven : provenCumulativeShares aggregate ordered = fact.filledShares)
    (hrecorded : ((recordBrokerOrder fact aggregate.intent.executionId ledger).toOption.any fun r =>
      decide ((recordFills aggregate.intent.executionId ordered r.2).toOption.isSome = true)) =
        true) : Observed ledger aggregate fact fills := by
  obtain ⟨_, recorded, hrecord, hfills⟩ := exists_of_check _ _ _ hrecorded
  refine ⟨hidentity, ordered, hordered, hproven, recorded, ?_⟩
  cases hrun : recordFills aggregate.intent.executionId ordered recorded with
  | error failure =>
    rw [hrun] at hfills
    cases hfills
  | ok r => exact ⟨r.2, hrecord, rfl⟩

/-- The second share of the order is filled, and the broker order is FILLED or EXPIRED. -/
lemma observed_two {status : BrokerOrderStatus} (hstatus : status = .filled ∨ status = .expired) :
    Observed filledLedger (history intent events) (fact status 2 2 (by decide))
      [fill "one" 1, fill "two" 2] := by
  rcases hstatus with rfl | rfl
  all_goals
    exact observed_of_check [fill "one" 1, fill "two" 2] (by decide)
      (by decide) (by decide +kernel) (by decide +kernel)

end ObservationSample

section

open ObservationSample

/-- A known fill of a PARTIALLY_FILLED order leaves a state that describes it. -/
theorem known_fill_described : ∃ final ledger',
    reconcileBrokerFact (history intent events) (fact .partiallyFilled 1 2 (by decide))
      [fill "one" 1] 0 filledLedger = .ok (final, ledger') ∧
    Describes (history intent events) final (fact .partiallyFilled 1 2 (by decide)) := by
  obtain ⟨final, ledger', hrun, -⟩ := exists_of_check
    (reconcileBrokerFact (history intent events) (fact .partiallyFilled 1 2 (by decide))
      [fill "one" 1] 0) filledLedger (fun r => r.1.filledShares = 1) (by decide)
  exact ⟨final, ledger', hrun, (describes_iff intent events _ _ _ _ _ _ (by decide) hrun).mpr
    (by decide)⟩

/-- After a cancel of unknown outcome a known fill leaves the order ACKNOWLEDGED. -/
theorem known_fill_hidden : Written unknownLedger ∧
    unknownLedger.load intent.executionId = some (history intent (events ++ cancelEvents)) ∧
    ∃ final ledger', reconcileBrokerFact (history intent (events ++ cancelEvents))
      (fact .partiallyFilled 1 2 (by decide)) [fill "one" 1] 0 unknownLedger =
        .ok (final, ledger') ∧
    final.state = .acknowledged ∧ ¬ Describes (history intent (events ++ cancelEvents)) final
      (fact .partiallyFilled 1 2 (by decide)) :=
  ⟨written_unknown, load_unknown, exists_of_check _ _ (fun r => r.1.state = .acknowledged ∧
    ¬ Describes _ r.1 _) (by decide)⟩

/-- The fill that completes an order is absorbed with the status FILLED. -/
theorem completing_fill_absorbed : Absorbs filledLedger (history intent events)
    (fact .filled 2 2 (by decide)) [fill "one" 1, fill "two" 2] 0 :=
  (absorbs_iff filledLedger intent.executionId (history intent events)
    (fact .filled 2 2 (by decide)) [fill "one" 1, fill "two" 2] 0 written_filled load_filled
    (by decide) (observed_two (.inl rfl))).mpr (by decide +kernel)

/-- With the status EXPIRED the same fill is refused. -/
theorem expired_fill_refused : Written filledLedger ∧
    filledLedger.load intent.executionId = some (history intent events) ∧
    Observed filledLedger (history intent events) (fact .expired 2 2 (by decide))
      [fill "one" 1, fill "two" 2] ∧
    reconcileBrokerFact (history intent events) (fact .expired 2 2 (by decide))
      [fill "one" 1, fill "two" 2] 0 filledLedger =
        .error (.domainTransitionError "illegal order transition") ∧
    ¬ Absorbs filledLedger (history intent events) (fact .expired 2 2 (by decide))
      [fill "one" 1, fill "two" 2] 0 := by
  have hrefused : reconcileBrokerFact (history intent events) (fact .expired 2 2 (by decide))
      [fill "one" 1, fill "two" 2] 0 filledLedger =
        .error (.domainTransitionError "illegal order transition") := by
    decide
  refine ⟨written_filled, load_filled, observed_two (.inr rfl), hrefused, ?_⟩
  rintro ⟨final, ledger', hrun, -⟩
  rw [hrefused] at hrun
  cases hrun

end

end Ledger

end FirmQuant
