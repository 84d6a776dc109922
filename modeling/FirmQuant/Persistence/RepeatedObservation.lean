import FirmQuant.Persistence.AlikeLedgers

/-!
# Repeated observations

An observation of a broker order may reach the ledger again, with its fills in another order or with
some of them twice.  A first reconciliation leaves every fill behind as retained by the order, as
reported to it, and as held in the tables with evidence that is this fill; so a second one finds
nothing to change.  This rests on evidence standing beside the row of its fill, which every call of
the repository keeps.
-/

namespace FirmQuant

open Effect

namespace Ledger

open OrderAggregate

/-! ## What a reconciliation leaves of the order -/

/-- The report of a fill changes an order no more: it was applied, or the order retains the fill. -/
def Reported (aggregate : OrderAggregate) (fill : BrokerFillFact) : Prop :=
  fillEvent fill ∈ aggregate.appliedEvents ∨
    (fill.appliedFill ∈ aggregate.fills ∧ aggregate.Unseen (fillEvent fill))

section Reports

variable {ledger ledger' : Ledger} {aggregate next filled final : OrderAggregate}
  {event : OrderEvent} {executionId : ExecutionId} {fact : BrokerOrderFact}
  {fill fill' : BrokerFillFact} {fills ordered : List BrokerFillFact} {time : DateTime}

lemma transition_same (h : aggregate.apply event = .ok aggregate) :
    transition aggregate event time ledger = .ok (aggregate, ledger) := by
  unfold transition
  simp only [h, if_true]

lemma Reported.again (h : Reported aggregate fill) :
    aggregate.apply (fillEvent fill) = .ok aggregate := by
  rcases h with hseen | ⟨hretained, hunseen⟩
  · exact apply_of_seen hseen
  · have hagain : aggregate.apply
        (FillReport.event ⟨.fill fill.brokerFillId, fill.appliedFill⟩) = .ok aggregate :=
      apply_retained hretained hunseen
    exact hagain

lemma reported_of_identity (h : fill.identity executionId = fill'.identity executionId)
    (hreported : Reported aggregate fill) : Reported aggregate fill' := by
  unfold Reported at hreported ⊢
  rwa [← fillEvent_of_identity h, ← appliedFill_of_identity h]

lemma reported_of_apply (h : aggregate.apply (fillEvent fill) = .ok next) : Reported next fill := by
  rcases apply_seen_or_new h with ⟨rfl, hseen⟩ | ⟨hunseen, -⟩
  · exact .inl hseen
  have hkind : (fillEvent fill).kind = fillKind fill.appliedFill := rfl
  rcases apply_fill hkind h with ⟨rfl, hseen | hretained⟩ | ⟨hadvanced, -⟩
  · exact .inl hseen
  · exact .inr ⟨hretained, hunseen⟩
  · left
    rw [hadvanced.appliedEvents]
    exact List.mem_concat_self

lemma Reported.apply (h : Reported aggregate fill) (happly : aggregate.apply event = .ok next)
    (hother : event.eventId ≠ .fill fill.brokerFillId) : Reported next fill := by
  have hgrows := grows_apply happly
  rcases h with hseen | ⟨hretained, hunseen⟩
  · exact .inl (hgrows.appliedEvents hseen)
  refine .inr ⟨hgrows.fills hretained, fun e he => ?_⟩
  rcases apply_cases happly with rfl | hadvanced
  · exact hunseen e he
  · rw [hadvanced.appliedEvents] at he
    rcases List.mem_snoc.mp he with hold | hnew
    · exact hunseen e hold
    · rw [hnew]
      exact hother

/-- Fills move the order to the shares that they prove at most, and when they move it there the
order retains them all. -/
lemma applyFills_counts (hids : (fills.map (·.brokerFillId)).Nodup)
    (h : applyFills aggregate fills ledger = .ok (next, ledger')) :
    next.filledShares ≤ provenCumulativeShares aggregate fills ∧
      (next.filledShares = provenCumulativeShares aggregate fills →
        ∀ f ∈ fills, f.brokerFillId ∈ next.fills.map (·.brokerFillId)) := by
  induction fills generalizing ledger aggregate with
  | nil =>
    cases h
    exact ⟨by simp [provenCumulativeShares], by simp⟩
  | cons fill rest ih =>
    obtain ⟨moved, ledger₂, happly, h⟩ := applyFills_cons h
    obtain ⟨hle, hall⟩ := ih (List.nodup_cons.mp hids).2 h
    have hkept : moved.fills ⊆ next.fills := (applyFills_course (.refl moved) h).2
    rcases apply_filled happly with rfl | hfilled
    · by_cases hknown : fill.brokerFillId ∈ moved.fills.map (·.brokerFillId)
      · have hproven : provenCumulativeShares moved (fill :: rest) =
            provenCumulativeShares moved rest := by
          unfold provenCumulativeShares
          rw [List.filter_cons_of_neg (by simpa using hknown)]
        rw [hproven]
        refine ⟨hle, fun heq f hf => ?_⟩
        rcases List.mem_cons.mp hf with rfl | hf
        · exact List.map_subset _ hkept hknown
        · exact hall heq f hf
      · -- A report that was forgotten leaves its shares unproven.
        have hproven : provenCumulativeShares moved (fill :: rest) =
            fill.shares + provenCumulativeShares moved rest := by
          unfold provenCumulativeShares
          rw [List.filter_cons_of_pos (by simpa using hknown), List.map_cons, List.sum_cons]
          omega
        have hpositive := fill.shares_pos
        rw [hproven]
        exact ⟨by omega, fun heq => by omega⟩
    · have hproven : provenCumulativeShares moved rest =
          provenCumulativeShares aggregate (fill :: rest) := by
        refine provenCumulativeShares_cons hids (fun _ => hfilled.fills) fun hknown => ?_
        obtain ⟨known, hmem, hid⟩ := List.mem_map.mp hknown
        have hnodup := moved.wellFormed.fills_nodup
        rw [hfilled.fills, List.map_append] at hnodup
        exact absurd (List.mem_map.mpr ⟨known, hmem, hid⟩)
          (fun hmem => (List.disjoint_of_nodup_append hnodup) hmem (List.mem_singleton.mpr rfl))
      rw [← hproven]
      refine ⟨hle, fun heq f hf => ?_⟩
      rcases List.mem_cons.mp hf with rfl | hf
      · refine List.map_subset _ hkept ?_
        rw [hfilled.fills, List.map_append]
        exact List.mem_concat_self
      · exact hall heq f hf

/-- The fills of an order teach it no other broker order. -/
lemma applyFills_broker (hmatch : ∀ f ∈ fills, fillMatches fact f)
    (h : applyFills aggregate fills ledger = .ok (next, ledger')) :
    next.brokerOrderId = aggregate.brokerOrderId ∨
      next.brokerOrderId = some fact.brokerOrderId := by
  induction fills generalizing ledger aggregate with
  | nil =>
    cases h
    exact .inl rfl
  | cons fill rest ih =>
    obtain ⟨moved, ledger₂, happly, h⟩ := applyFills_cons h
    rcases ih (List.forall_mem_cons.mp hmatch).2 h with hsame | hlearned
    · rcases apply_filled happly with rfl | hfilled
      · exact .inl hsame
      · right
        rw [hsame, hfilled.brokerOrderId]
        exact congrArg some (hmatch fill List.mem_cons_self).1
    · exact .inr hlearned

/-- The status of a fact teaches the order no other broker order. -/
lemma applyQueriedStatus_broker
    (h : applyQueriedStatus filled fact time ledger = .ok (final, ledger')) :
    final.brokerOrderId = filled.brokerOrderId ∨
      final.brokerOrderId = some fact.brokerOrderId := by
  rcases applyQueriedStatus_cases h with ⟨rfl, -⟩ | ⟨event, hevent, happly⟩
  · exact .inl rfl
  rcases apply_seen_or_new happly with ⟨rfl, -⟩ | ⟨-, hnew⟩
  · exact .inl rfl
  have hupdated : ∀ {target id change}, filled.updated event target id change = .ok final →
      final.brokerOrderId = id.or filled.brokerOrderId := by
    intro target id change hrun
    rw [(updated_eq_ok hrun).2.2]
    rfl
  unfold statusEvent at hevent
  split at hevent
  · obtain rfl := Option.some.inj hevent
    simp only [applyNew] at hnew
    split_ifs at hnew
    · exact .inl (hupdated hnew)
    · exact .inl (hupdated hnew)
  · obtain rfl := Option.some.inj hevent
    simp only [applyNew] at hnew
    exact .inl (hupdated hnew)
  · obtain rfl := Option.some.inj hevent
    simp only [applyNew, Option.some_or, Option.isNone_some, Bool.false_eq_true, if_false] at hnew
    split_ifs at hnew
    · exact .inr (hupdated hnew)
    · exact .inr (hupdated hnew)
  · obtain rfl := Option.some.inj hevent
    simp only [applyNew] at hnew
    split_ifs at hnew
    · exact .inl (hupdated hnew)
    · exact .inl (hupdated hnew)
  · cases hevent

/-- An order that a fact does not contradict is not contradicted by it later. -/
lemma factViolation_again (h : factViolation aggregate fact = none)
    (hintent : final.intent = aggregate.intent)
    (hbroker : final.brokerOrderId = aggregate.brokerOrderId ∨
      final.brokerOrderId = some fact.brokerOrderId) : factViolation final fact = none := by
  have hknown : final.brokerOrderId ∈ [none, some fact.brokerOrderId] := by
    rcases hbroker with hsame | hlearned
    · rw [hsame]
      by_contra hnot
      unfold factViolation at h
      rw [if_pos hnot] at h
      cases h
    · rw [hlearned]
      exact List.mem_cons_of_mem _ (List.mem_singleton.mpr rfl)
  unfold factViolation at h ⊢
  rw [if_neg (not_not.mpr hknown), hintent]
  split_ifs at h with hother
  rw [if_neg (by assumption), if_neg (by assumption), if_neg (by assumption)]

end Reports

/-! ## What a reconciliation leaves in the tables -/

/-- Evidence of a fill stands beside the row of the fill. -/
def Backed (ledger : Ledger) : Prop :=
  ∀ stored ∈ ledger.fillEvidence,
    ∃ row ∈ ledger.fills, row.brokerFillId = stored.identity.brokerFillId

/-- The fill is recorded, and its row and all evidence of it are this fill. -/
def Held (ledger : Ledger) (executionId : ExecutionId) (fill : BrokerFillFact) : Prop :=
  ∃ row, ledger.fills.find? (·.brokerFillId = fill.brokerFillId) = some row ∧
    FillAgain ledger executionId fill row

section Tables

variable {ledger ledger₁ ledger' : Ledger} {aggregate next filled final : OrderAggregate}
  {event : OrderEvent} {executionId : ExecutionId} {fact : BrokerOrderFact}
  {fill fill' : BrokerFillFact} {fills ordered : List BrokerFillFact} {time : DateTime}

lemma Backed.of_tables (h : Backed ledger) (hfills : ledger'.fills = ledger.fills)
    (hevidence : ledger'.fillEvidence = ledger.fillEvidence) : Backed ledger' := by
  unfold Backed
  rw [hfills, hevidence]
  exact h

lemma Held.of_tables (h : Held ledger executionId fill) (hfills : ledger'.fills = ledger.fills)
    (hevidence : ledger'.fillEvidence = ledger.fillEvidence) : Held ledger' executionId fill := by
  obtain ⟨row, hfind, heconomics, hsome, hidentity⟩ := h
  refine ⟨row, by rw [hfills]; exact hfind, heconomics, ?_, ?_⟩
  · rw [hevidence]
    exact hsome
  · rw [hevidence]
    exact hidentity

lemma held_of_identity (h : fill.identity executionId = fill'.identity executionId)
    (hheld : Held ledger executionId fill) : Held ledger executionId fill' := by
  obtain ⟨row, hfind, hagain⟩ := hheld
  refine ⟨row, ?_, (Alike.refl ledger).fillAgain rfl h.symm hagain⟩
  rw [← brokerFillId_of_identity h]
  exact hfind

lemma TakesFill.held (h : TakesFill ledger executionId fill ledger') (hbacked : Backed ledger) :
    Held ledger' executionId fill ∧ Backed ledger' := by
  cases h with
  | again row hfind hagain =>
    have hrow := List.mem_of_find?_eq_some hfind
    have hid : row.brokerFillId = fill.brokerFillId := by simpa using List.find?_some hfind
    obtain ⟨heconomics, ⟨stored, hstored, hstoredId⟩, hidentity⟩ := hagain
    refine ⟨⟨row, ?_, heconomics, ⟨stored, subset_recordFillEvidence hstored, hstoredId⟩,
      fun other hother hotherId => ?_⟩, fun other hother => ?_⟩
    · rw [recordFillEvidence_tables.1]
      exact hfind
    · rcases mem_recordFillEvidence hother with hold | rfl
      · exact hidentity other hold hotherId
      · rfl
    · rw [recordFillEvidence_tables.1]
      rcases mem_recordFillEvidence hother with hold | rfl
      · exact hbacked other hold
      · exact ⟨row, hrow, hid⟩
  | new hunrecorded hlater =>
    have hnone : ledger.fills.find? (·.brokerFillId = fill.brokerFillId) = none :=
      List.find?_eq_none.mpr fun row hrow => by simpa using hunrecorded row hrow
    have hself : ∃ stored ∈ (recordFillEvidence fill executionId ledger).fillEvidence,
        stored.identity = fill.identity executionId :=
      (evidence_recordFillEvidence _).mpr (.inr rfl)
    obtain ⟨stored, hstored, hstoredIdentity⟩ := hself
    refine ⟨⟨fillRow fill executionId, ?_, ?_, ⟨stored, hstored, ?_⟩,
      fun other hother hotherId => ?_⟩, fun other hother => ?_⟩
    · change (ledger.fills ++ [fillRow fill executionId]).find? _ = _
      rw [List.find?_append, hnone]
      simp [fillRow]
    · exact ⟨rfl, rfl, rfl, rfl, rfl, rfl, rfl, rfl, rfl, rfl⟩
    · rw [hstoredIdentity]
      rfl
    · rcases mem_recordFillEvidence hother with hold | rfl
      · obtain ⟨row, hrow, hrowId⟩ := hbacked other hold
        exact absurd (hrowId.trans hotherId) (hunrecorded row hrow)
      · rfl
    · rcases mem_recordFillEvidence hother with hold | rfl
      · obtain ⟨row, hrow, hrowId⟩ := hbacked other hold
        exact ⟨row, List.mem_append_left _ hrow, hrowId⟩
      · exact ⟨_, List.mem_concat_self, rfl⟩

lemma Held.takes (h : Held ledger executionId fill)
    (htakes : TakesFill ledger executionId fill' ledger')
    (hother : fill'.brokerFillId ≠ fill.brokerFillId) : Held ledger' executionId fill := by
  obtain ⟨row, hfind, heconomics, ⟨stored, hstored, hstoredId⟩, hidentity⟩ := h
  have hevidence :
      ledger'.fillEvidence = (recordFillEvidence fill' executionId ledger).fillEvidence ∧
        ledger'.fills.find? (·.brokerFillId = fill.brokerFillId) = some row := by
    cases htakes with
    | again found hfound hagain =>
      rw [recordFillEvidence_tables.1]
      exact ⟨rfl, hfind⟩
    | new hunrecorded hlater =>
      refine ⟨rfl, ?_⟩
      change (ledger.fills ++ [fillRow fill' executionId]).find? _ = _
      rw [List.find?_append, hfind]
      rfl
  refine ⟨row, hevidence.2, heconomics, ⟨stored, ?_, hstoredId⟩, fun other hmem hotherId => ?_⟩
  · rw [hevidence.1]
    exact subset_recordFillEvidence hstored
  · rw [hevidence.1] at hmem
    rcases mem_recordFillEvidence hmem with hold | rfl
    · exact hidentity other hold hotherId
    · exact absurd hotherId hother

lemma applyFills_keeps (hheld : Held ledger executionId fill) (hreported : Reported aggregate fill)
    (hnot : fill.brokerFillId ∉ fills.map (·.brokerFillId))
    (howner : aggregate.intent.executionId = executionId)
    (h : applyFills aggregate fills ledger = .ok (next, ledger')) :
    Held ledger' executionId fill ∧ Reported next fill := by
  induction fills generalizing ledger aggregate with
  | nil =>
    cases h
    exact ⟨hheld, hreported⟩
  | cons head rest ih =>
    obtain ⟨u, ledger₁, hrecord, h⟩ := Txn.bind_eq_ok.mp h
    obtain ⟨moved, ledger₂, htransition, h⟩ := Txn.bind_eq_ok.mp h
    rw [howner] at hrecord
    have hother : head.brokerFillId ≠ fill.brokerFillId := by
      intro heq
      exact hnot (List.mem_map.mpr ⟨head, List.mem_cons_self, heq⟩)
    obtain ⟨-, hfills, hevidence⟩ := transition_result htransition
    refine ih ?_ (hreported.apply (transition_apply htransition) ?_) ?_ ?_ h
    · exact (hheld.takes (recordFill_eq_ok.mp hrecord).2.2 hother).of_tables hfills hevidence
    · intro heq
      exact hother (EventId.fill.inj heq)
    · intro hmem
      obtain ⟨f, hf, hid⟩ := List.mem_map.mp hmem
      exact hnot (List.mem_map.mpr ⟨f, List.mem_cons_of_mem _ hf, hid⟩)
    · rw [transition_intent htransition, howner]

/-- Every applied fill is held and reported. -/
lemma applyFills_held (hbacked : Backed ledger) (hids : (fills.map (·.brokerFillId)).Nodup)
    (howner : aggregate.intent.executionId = executionId)
    (h : applyFills aggregate fills ledger = .ok (next, ledger')) :
    Backed ledger' ∧ ∀ f ∈ fills, Held ledger' executionId f ∧ Reported next f := by
  induction fills generalizing ledger aggregate with
  | nil =>
    cases h
    exact ⟨hbacked, by simp⟩
  | cons head rest ih =>
    obtain ⟨u, ledger₁, hrecord, hbind⟩ := Txn.bind_eq_ok.mp h
    obtain ⟨moved, ledger₂, htransition, hrun⟩ := Txn.bind_eq_ok.mp hbind
    rw [howner] at hrecord
    obtain ⟨hnotin, hrestIds⟩ := List.nodup_cons.mp hids
    obtain ⟨hheld, hbacked₁⟩ := (recordFill_eq_ok.mp hrecord).2.2.held hbacked
    obtain ⟨-, hfills, hevidence⟩ := transition_result htransition
    have hmoved : moved.intent.executionId = executionId := by
      rw [transition_intent htransition, howner]
    obtain ⟨hbacked', hrest⟩ := ih (hbacked₁.of_tables hfills hevidence) hrestIds hmoved hrun
    refine ⟨hbacked', fun f hf => ?_⟩
    rcases List.mem_cons.mp hf with rfl | hf
    · exact applyFills_keeps (hheld.of_tables hfills hevidence)
        (reported_of_apply (transition_apply htransition)) hnotin hmoved hrun
    · exact hrest f hf

/-- Fills that are held and reported are applied without a change of the order or of the fills. -/
lemma applyFills_again (hids : (fills.map (·.brokerFillId)).Nodup)
    (hmatch : ∀ f ∈ fills, fillMatches fact f)
    (howner : aggregate.intent.executionId = executionId)
    (h : ∀ f ∈ fills, Held ledger executionId f ∧ Reported aggregate f) :
    ∃ ledger', applyFills aggregate fills ledger = .ok (aggregate, ledger') ∧
      ledger'.fills = ledger.fills ∧ ledger'.executionIntents = ledger.executionIntents := by
  induction fills generalizing ledger with
  | nil => exact ⟨ledger, rfl, rfl, rfl⟩
  | cons head rest ih =>
    obtain ⟨hnotin, hrestIds⟩ := List.nodup_cons.mp hids
    obtain ⟨⟨row, hfind, hagain⟩, hreported⟩ := h head List.mem_cons_self
    obtain ⟨-, -, -, hstatus, -, hsequence⟩ := hmatch head List.mem_cons_self
    have htakes : TakesFill ledger executionId head (recordFillEvidence head executionId ledger) :=
      .again row hfind hagain
    have hrecord : recordFill head aggregate.intent.executionId ledger =
        .ok (⟨⟩, recordFillEvidence head executionId ledger) := by
      rw [howner]
      exact recordFill_eq_ok.mpr ⟨hstatus, hsequence.ne', htakes⟩
    obtain ⟨hfills, hintents, -⟩ := @recordFillEvidence_tables ledger executionId head
    obtain ⟨ledger', hrun, hfills', hintents'⟩ :=
      ih hrestIds (List.forall_mem_cons.mp hmatch).2 fun f hf => by
        obtain ⟨hheld, hreportedRest⟩ := h f (List.mem_cons_of_mem _ hf)
        refine ⟨hheld.takes htakes fun heq => ?_, hreportedRest⟩
        exact hnotin (List.mem_map.mpr ⟨f, hf, heq.symm⟩)
    refine ⟨ledger', ?_, hfills'.trans hfills, hintents'.trans hintents⟩
    exact Txn.bind_eq_ok.mpr ⟨⟨⟩, _, hrecord,
      Txn.bind_eq_ok.mpr ⟨aggregate, _, transition_same hreported.again, hrun⟩⟩

lemma transition_tables (h : transition aggregate event time ledger = .ok (next, ledger')) :
    ledger'.brokerOrders = ledger.brokerOrders ∧ ledger'.fills = ledger.fills ∧
      ledger'.fillEvidence = ledger.fillEvidence := by
  rcases transition_eq_ok h with ⟨-, rfl, -⟩ | ⟨-, -, -, -, rfl⟩
  · exact ⟨rfl, rfl, rfl⟩
  · exact ⟨rfl, rfl, rfl⟩

lemma acknowledge_tables (h : acknowledge aggregate fact time ledger = .ok (next, ledger')) :
    ledger'.brokerOrders = ledger.brokerOrders ∧ ledger'.fills = ledger.fills ∧
      ledger'.fillEvidence = ledger.fillEvidence := by
  unfold acknowledge at h
  split_ifs at h
  · exact transition_tables h
  · cases h
    exact ⟨rfl, rfl, rfl⟩

lemma applyQueriedStatus_tables
    (h : applyQueriedStatus aggregate fact time ledger = .ok (next, ledger')) :
    ledger'.brokerOrders = ledger.brokerOrders ∧ ledger'.fills = ledger.fills ∧
      ledger'.fillEvidence = ledger.fillEvidence := by
  rw [applyQueriedStatus_eq] at h
  split_ifs at h
  · cases h
    exact ⟨rfl, rfl, rfl⟩
  cases hevent : statusEvent fact with
  | none =>
    rw [hevent] at h
    cases h
    exact ⟨rfl, rfl, rfl⟩
  | some event =>
    rw [hevent] at h
    exact transition_tables h

lemma applyFills_brokerOrders (h : applyFills aggregate fills ledger = .ok (next, ledger')) :
    ledger'.brokerOrders = ledger.brokerOrders := by
  induction fills generalizing ledger aggregate with
  | nil =>
    cases h
    rfl
  | cons fill rest ih =>
    obtain ⟨u, ledger₁, hrecord, hbind⟩ := Txn.bind_eq_ok.mp h
    obtain ⟨moved, ledger₂, htransition, hrun⟩ := Txn.bind_eq_ok.mp hbind
    obtain ⟨evidence, ⟨-, rfl⟩ | ⟨-, rfl⟩⟩ := recordFill_writes hrecord <;>
      exact (ih hrun).trans (transition_tables htransition).1

lemma recordBrokerOrder_fills {u : PUnit}
    (h : recordBrokerOrder fact executionId ledger = .ok (u, ledger')) :
    ledger'.fills = ledger.fills ∧ ledger'.fillEvidence = ledger.fillEvidence := by
  cases recordBrokerOrder_ok h <;> exact ⟨rfl, rfl⟩

/-- The row of an observed broker order takes the same fact again, and stays as it is. -/
lemma recordBrokerOrder_again {u : PUnit}
    (h : recordBrokerOrder fact executionId ledger = .ok (u, ledger₁))
    (hrows : ledger'.brokerOrders = ledger₁.brokerOrders) :
    recordBrokerOrder fact executionId ledger' = .ok (⟨⟩, ledger') := by
  have hsettled : ∃ row, ledger₁.brokerOrders.find? (·.brokerOrderId = fact.brokerOrderId) =
      some row ∧ sameOrderIdentity row fact executionId ∧ row.status = fact.status ∧
      row.filledShares = fact.filledShares ∧ row.lastEventSequence = some fact.eventSequence ∧
      ∀ row ∈ ledger₁.brokerOrders, row.brokerOrderId = fact.brokerOrderId →
        BrokerOrderRow.observe row fact = row := by
    cases recordBrokerOrder_ok h with
    | new hfind =>
      refine ⟨brokerOrderRow fact executionId, ?_, ⟨rfl, rfl, rfl, rfl, rfl, rfl, rfl, rfl⟩, rfl,
        rfl, rfl, fun row hrow hid => ?_⟩
      · rw [List.find?_append, hfind]
        simp [brokerOrderRow]
      · rcases List.mem_snoc.mp hrow with hold | hnew
        · exact absurd hid (by simpa using List.find?_eq_none.mp hfind row hold)
        · rw [hnew]
          rfl
    | again row hfind hid hidentity =>
      refine ⟨BrokerOrderRow.observe row fact, find?_observed hfind, hidentity, rfl, rfl, rfl,
        fun stored hstored hstoredId => ?_⟩
      obtain ⟨old, -, rfl⟩ := List.mem_map.mp hstored
      split_ifs at hstoredId ⊢ with hcase
      · rfl
      · exact absurd hstoredId hcase
  obtain ⟨row, hfind, hidentity, hstatus, hfilled, hsequence, hsame⟩ := hsettled
  have hregression : orderRegression row fact executionId = none := by
    unfold orderRegression
    rw [if_neg (not_not.mpr hidentity), if_neg (by omega), if_neg fun hc => hc.2 hstatus.symm,
      if_neg fun hc => hc.2.2.1 hstatus.symm, hsequence]
    simp only
    rw [if_neg (lt_irrefl _), if_neg]
    rintro ⟨-, hne | hne⟩
    · exact hne hstatus.symm
    · exact hne hfilled.symm
  have hmap : (ledger'.brokerOrders.map fun stored =>
      if stored.brokerOrderId = fact.brokerOrderId then BrokerOrderRow.observe stored fact
      else stored) = ledger'.brokerOrders := by
    conv_rhs => rw [← List.map_id ledger'.brokerOrders]
    refine List.map_congr_left fun stored hstored => ?_
    rw [hrows] at hstored
    split_ifs with hid
    · exact hsame stored hstored hid
    · rfl
  unfold recordBrokerOrder
  rw [hrows, hfind]
  simp only [hregression]
  rw [← hrows, hmap]

end Tables

/-! ## The second reconciliation -/

section Again

variable {ledger ledger' : Ledger} {aggregate acknowledged filled final : OrderAggregate}
  {fact : BrokerOrderFact} {fills fills' : List BrokerFillFact} {time : DateTime}

/-- An order that events have moved on from another one. -/
structure Follows (before after : OrderAggregate) : Prop where
  intent : after.intent = before.intent
  grows : OrderAggregate.Grows before after
  closed : before.state ∈ OrderState.terminal → after.state = before.state

lemma Follows.refl (aggregate : OrderAggregate) : Follows aggregate aggregate :=
  ⟨rfl, OrderAggregate.Grows.refl aggregate, fun _ => rfl⟩

lemma Follows.apply {before after next : OrderAggregate} {event : OrderEvent}
    (h : Follows before after) (happly : after.apply event = .ok next) : Follows before next := by
  refine ⟨?_, h.grows.trans (grows_apply happly), fun hclosed => ?_⟩
  · rcases apply_cases happly with rfl | hadvanced
    · exact h.intent
    · exact hadvanced.intent.trans h.intent
  · have hstate := h.closed hclosed
    rw [apply_terminal happly (by rw [hstate]; exact hclosed), hstate]

lemma applyFills_follows (h : applyFills aggregate fills ledger = .ok (final, ledger')) :
    Follows aggregate final :=
  (applyFills_evolves h).keeps_aggregate (P := Follows aggregate)
    (fun _ happly hfollows => hfollows.apply happly) (.refl aggregate)

lemma applyQueriedStatus_follows
    (h : applyQueriedStatus aggregate fact time ledger = .ok (final, ledger')) :
    Follows aggregate final := by
  rcases applyQueriedStatus_cases h with ⟨rfl, -⟩ | ⟨event, -, happly⟩
  · exact .refl final
  · exact (Follows.refl aggregate).apply happly

/-- The acknowledgement is known from then on, or the order is closed and needs none. -/
lemma acknowledge_again (h : acknowledge aggregate fact time ledger = .ok (acknowledged, ledger'))
    (hgrows : OrderAggregate.Grows acknowledged final)
    (hclosed : acknowledged.state ∈ OrderState.terminal → final.state = acknowledged.state)
    (other : Ledger) (time' : DateTime) :
    acknowledge final fact time' other = .ok (final, other) := by
  unfold acknowledge at h ⊢
  split_ifs at h with hneeded
  · have hseen : ackEvent fact ∈ final.appliedEvents :=
      hgrows.appliedEvents (applied_of_apply (notFill_ackEvent fact).kind (transition_apply h))
    split_ifs
    · exact transition_same (apply_of_seen hseen)
    · rfl
  · cases h
    obtain ⟨hsome, hterminal⟩ := not_or.mp hneeded
    have hknown : final.brokerOrderId = aggregate.brokerOrderId :=
      hgrows.brokerOrderId (by simpa [Option.isNone_iff_eq_none, Option.isSome_iff_ne_none]
        using hsome)
    rw [if_neg]
    · rfl
    · rw [hknown, hclosed (not_not.mp hterminal)]
      exact hneeded

/-- The status is known from then on. -/
lemma applyQueriedStatus_again
    (h : applyQueriedStatus filled fact time ledger = .ok (final, ledger')) (other : Ledger)
    (time' : DateTime) : applyQueriedStatus final fact time' other = .ok (final, other) := by
  rw [applyQueriedStatus_eq]
  split_ifs with hsame
  · rfl
  rcases applyQueriedStatus_cases h with ⟨rfl, hstate | hnone⟩ | ⟨event, hevent, happly⟩
  · exact absurd hstate hsame
  · rw [hnone]
    rfl
  · rw [hevent]
    exact transition_same (apply_of_seen
      (applied_of_apply (notFill_status (statusEvent_status hevent)).kind happly))

/-- After a reconciliation, a reconciliation with the same fact and the same fills in any order and
number leaves the order, its row and the fills as they are. -/
theorem reconcileBrokerFact_again (hbacked : Backed ledger)
    (hrun : reconcileBrokerFact aggregate fact fills time ledger = .ok (final, ledger'))
    (hsame : ∀ f, f ∈ fills' ↔ f ∈ fills) (time' : DateTime) :
    ∃ ledger'', reconcileBrokerFact final fact fills' time' ledger' = .ok (final, ledger'') ∧
      ledger''.fills = ledger'.fills ∧ ledger''.executionIntents = ledger'.executionIntents := by
  obtain ⟨ordered, recorded, filled, stored, hsteps⟩ := reconcileBrokerFact_eq_ok.mp hrun
  obtain ⟨acknowledged, ledger₁, hack, hfills⟩ := Txn.bind_eq_ok.mp hsteps.economics
  have hordered := orderedFills_ordered hsteps.sorted
  have hacknowledged := acknowledge_acknowledged hack
  have hfollows := applyFills_follows hfills
  have hstatus := applyQueriedStatus_follows hsteps.status
  have hintent : final.intent = aggregate.intent :=
    hstatus.intent.trans (hfollows.intent.trans hacknowledged.intent)
  have howner : acknowledged.intent.executionId = aggregate.intent.executionId :=
    congrArg ExecutionIntent.executionId hacknowledged.intent
  have hgrows := hfollows.grows.trans hstatus.grows
  have hclosed : acknowledged.state ∈ OrderState.terminal → final.state = acknowledged.state := by
    intro hterminal
    have hfilled := hfollows.closed hterminal
    rw [hstatus.closed (by rw [hfilled]; exact hterminal), hfilled]
  obtain ⟨hrecordedFills, hrecordedEvidence⟩ := recordBrokerOrder_fills hsteps.record
  obtain ⟨hackOrders, hackFills, hackEvidence⟩ := acknowledge_tables hack
  obtain ⟨hstatusOrders, hstatusFills, hstatusEvidence⟩ := applyQueriedStatus_tables hsteps.status
  -- The fills are held in the tables, and their reports are known to the order.
  have hbacked₁ : Backed ledger₁ :=
    (hbacked.of_tables hrecordedFills hrecordedEvidence).of_tables hackFills hackEvidence
  obtain ⟨-, hheld⟩ := applyFills_held hbacked₁ hordered.ids howner hfills
  have hfinal : ∀ f ∈ ordered, Held ledger' aggregate.intent.executionId f ∧ Reported final f := by
    intro f hf
    obtain ⟨hheldStored, hreported⟩ := hheld f hf
    refine ⟨hheldStored.of_tables hstatusFills hstatusEvidence, ?_⟩
    rcases applyQueriedStatus_cases hsteps.status with ⟨rfl, -⟩ | ⟨event, hevent, happly⟩
    · exact hreported
    · exact hreported.apply happly ((notFill_status (statusEvent_status hevent)).id _)
  -- They are all retained, as their shares are those of the fact.
  have hretained : ∀ f ∈ ordered, f.brokerFillId ∈ final.fills.map (·.brokerFillId) := by
    obtain ⟨hsameFills, hsameShares⟩ := applyQueriedStatus_fills hsteps.status
    rw [hsameFills]
    refine (applyFills_counts hordered.ids hfills).2 ?_
    rw [hacknowledged.proven, hsteps.proven, ← hsameShares, hsteps.cumulative]
  obtain ⟨ordered', hsorted', hidentities⟩ := orderedFills_same hsteps.sorted hsame
  have hordered' := orderedFills_ordered hsorted'
  have hone : ∀ f' ∈ ordered', ∃ f ∈ ordered,
      f.identity aggregate.intent.executionId = f'.identity aggregate.intent.executionId := by
    intro f' hf'
    have hmem := List.mem_map_of_mem (f := (·.identity aggregate.intent.executionId)) hf'
    rw [hidentities] at hmem
    exact List.mem_map.mp hmem
  have hnone : provenCumulativeShares final ordered' = fact.filledShares := by
    have hempty : ordered'.filter (fun f => f.brokerFillId ∉ final.fills.map (·.brokerFillId)) =
        [] := by
      refine List.filter_eq_nil_iff.mpr fun f' hf' => ?_
      obtain ⟨f, hf, hidentity⟩ := hone f' hf'
      have hmem := hretained f hf
      rw [brokerFillId_of_identity hidentity] at hmem
      simpa using hmem
    unfold provenCumulativeShares
    rw [hempty, hsteps.cumulative]
    rfl
  have hexecution : final.intent.executionId = aggregate.intent.executionId :=
    congrArg ExecutionIntent.executionId hintent
  have hfinal' : ∀ f' ∈ ordered',
      Held ledger' aggregate.intent.executionId f' ∧ Reported final f' := by
    intro f' hf'
    obtain ⟨f, hf, hidentity⟩ := hone f' hf'
    exact ⟨held_of_identity hidentity (hfinal f hf).1,
      reported_of_identity hidentity (hfinal f hf).2⟩
  obtain ⟨ledger'', hagain, hfills'', hintents''⟩ :=
    applyFills_again hordered'.ids hordered'.matching hexecution hfinal'
  have hrows : ledger'.brokerOrders = recorded.brokerOrders :=
    hstatusOrders.trans ((applyFills_brokerOrders hfills).trans hackOrders)
  have hbroker : final.brokerOrderId = aggregate.brokerOrderId ∨
      final.brokerOrderId = some fact.brokerOrderId := by
    rcases applyQueriedStatus_broker hsteps.status with hfinalSame | hlearned
    · rw [hfinalSame]
      rcases applyFills_broker hordered.matching hfills with hfilledSame | hlearned
      · rw [hfilledSame]
        exact hacknowledged.broker
      · exact .inr hlearned
    · exact .inr hlearned
  refine ⟨ledger'', reconcileBrokerFact_eq_ok.mpr ⟨ordered', ledger', final, ledger'',
    factViolation_again hsteps.identity hintent hbroker, by rw [hexecution]; exact hsorted', hnone,
    by rw [hexecution]; exact recordBrokerOrder_again hsteps.record hrows,
    Txn.bind_eq_ok.mpr
      ⟨final, ledger', acknowledge_again hack hgrows hclosed ledger' time', hagain⟩,
    applyQueriedStatus_again hsteps.status ledger'' time', hsteps.cumulative⟩, hfills'', hintents''⟩

end Again

/-! ## Written ledgers -/

section Written

variable {ledger ledger' : Ledger} {aggregate next : OrderAggregate} {event : OrderEvent}
  {attempt : BrokerAttempt} {fact : BrokerOrderFact} {fills : List BrokerFillFact}
  {time : DateTime}

lemma backed_transition : Txn.Preserves Backed (transition aggregate event time) := by
  intro ledger next ledger' hbacked h
  obtain ⟨-, hfills, hevidence⟩ := transition_tables h
  exact hbacked.of_tables hfills hevidence

lemma backed_updateAttempt {attemptId : AttemptId} {change : AttemptRow → AttemptRow} :
    Txn.Preserves Backed (updateAttempt attemptId change) :=
  Txn.preserves_modify fun _ hbacked => hbacked

lemma backed_recordBrokerOrder {executionId : ExecutionId} :
    Txn.Preserves Backed (recordBrokerOrder fact executionId) := by
  intro ledger u ledger' hbacked h
  obtain ⟨hfills, hevidence⟩ := recordBrokerOrder_fills h
  exact hbacked.of_tables hfills hevidence

lemma keptByWrites_backed : KeptByWrites Backed :=
  ⟨backed_transition, fun _ => backed_updateAttempt, fun hbacked => hbacked,
    backed_recordBrokerOrder, fun _ _ _ hbacked hrecord =>
      ((recordFill_eq_ok.mp hrecord).2.2.held hbacked).2⟩

lemma backed_reconcileBrokerFact :
    Txn.Preserves Backed (reconcileBrokerFact aggregate fact fills time) := by
  unfold reconcileBrokerFact
  refine Txn.preserves_bind KeptByWrites.conflict fun _ => ?_
  refine Txn.preserves_bind KeptByWrites.lift fun ordered => ?_
  refine Txn.preserves_bind KeptByWrites.conflict fun _ => ?_
  refine Txn.preserves_bind backed_recordBrokerOrder fun _ => ?_
  refine Txn.preserves_bind keptByWrites_backed.applyBrokerEconomics fun current => ?_
  refine Txn.preserves_bind (fun ledger next ledger' hbacked h => ?_) fun final =>
    Txn.preserves_bind KeptByWrites.conflict fun _ => Txn.preserves_pure
  obtain ⟨-, hsame, hevidence⟩ := applyQueriedStatus_tables h
  exact hbacked.of_tables hsame hevidence

lemma backed_orderCall (call : OrderCall) : Txn.Preserves Backed (call.run aggregate) := by
  cases call with
  | validateAndArm occurredAt =>
    refine Txn.preserves_bind ?_ fun validated => ?_
    · unfold validate
      split_ifs
      · exact backed_transition
      · exact Txn.preserves_pure
    · unfold arm
      split_ifs
      · exact backed_transition
      · exact Txn.preserves_pure
  | beginSubmit command startedAt =>
    refine Txn.preserves_bind ?_ fun _ => Txn.preserves_pure
    unfold Ledger.beginSubmit
    split_ifs
    · exact Txn.preserves_throw
    · exact Txn.preserves_throw
    · exact Txn.preserves_bind backed_transition fun _ => Txn.preserves_bind
        (fun _ _ _ hbacked h => by cases h; exact hbacked) fun _ => Txn.preserves_pure
  | beginCancel startedAt =>
    refine Txn.preserves_bind ?_ fun _ => Txn.preserves_pure
    unfold Ledger.beginCancel
    split
    · exact Txn.preserves_throw
    · exact Txn.preserves_bind backed_transition fun _ => Txn.preserves_bind
        (fun _ _ _ hbacked h => by cases h; exact hbacked) fun _ => Txn.preserves_pure
  | markAttemptUnknown attempt code occurredAt => exact keptByWrites_backed.markAttemptUnknown
  | reconcileBrokerFact fact fills receivedAt => exact backed_reconcileBrokerFact
  | recordSubmitResult attempt fact fills receivedAt
  | recordCancelResult attempt fact fills receivedAt =>
    exact keptByWrites_backed.recordReturnedResult
  | resolveSubmitNotAccepted attempt evidence occurredAt
  | resolveCancelNotAccepted attempt evidence occurredAt =>
    exact Txn.preserves_bind backed_transition fun _ =>
      Txn.preserves_bind backed_updateAttempt fun _ => Txn.preserves_pure

/-- In every ledger that repository calls have written, evidence stands beside the fills. -/
theorem Written.backed (h : Written ledger) : Backed ledger := by
  induction h with
  | empty => exact fun stored hstored => by cases hstored
  | call _ _ ih =>
    refine perform_keeps ih (fun happend => ?_) fun _ _ hcall => backed_orderCall _ _ _ _ ih hcall
    unfold appendIntent at happend
    split at happend
    all_goals
      split_ifs at happend
      cases happend
      exact ih

end Written

/-! ## The same observation again -/

section Observation

/-- For every ledger whose evidence stands beside its fills, and every fact with fills whose
reconciliation returns: with any fills that have the same members, in whatever order and number, the
reconciliation returns the same order; and a second one on what the first has left returns it again
and changes neither its row nor the fills. -/
theorem observation_repeats (ledger ledger' : Ledger) (aggregate final : OrderAggregate)
    (fact : BrokerOrderFact) (fills fills' : List BrokerFillFact) (time time' : DateTime)
    (hbacked : Backed ledger)
    (hrun : reconcileBrokerFact aggregate fact fills time ledger = .ok (final, ledger'))
    (hsame : ∀ fill, fill ∈ fills' ↔ fill ∈ fills) :
    (∃ other, reconcileBrokerFact aggregate fact fills' time' ledger = .ok (final, other)) ∧
      ∃ ledger'', reconcileBrokerFact final fact fills' time' ledger' = .ok (final, ledger'') ∧
        ledger''.fills = ledger'.fills ∧
        ledger''.executionIntents = ledger'.executionIntents := by
  obtain ⟨other, hother, -⟩ := (Alike.refl ledger).reconcileBrokerFact hsame hrun time'
  exact ⟨⟨other, hother⟩, reconcileBrokerFact_again hbacked hrun hsame time'⟩

open ObservationSample

/-- The second share of an order, once with both fills in turn and once with the new one first and
twice. -/
theorem swapped_fills_repeat : ∃ final ledger',
    reconcileBrokerFact (history intent events) (fact .filled 2 2 (by decide))
      [fill "one" 1, fill "two" 2] 0 filledLedger = .ok (final, ledger') ∧
    (∃ other, reconcileBrokerFact (history intent events) (fact .filled 2 2 (by decide))
      [fill "two" 2, fill "one" 1, fill "two" 2] 1 filledLedger = .ok (final, other)) ∧
    ∃ ledger'', reconcileBrokerFact final (fact .filled 2 2 (by decide))
      [fill "two" 2, fill "one" 1, fill "two" 2] 1 ledger' = .ok (final, ledger'') ∧
      ledger''.fills = ledger'.fills ∧ ledger''.executionIntents = ledger'.executionIntents := by
  obtain ⟨final, ledger', hrun, -⟩ := exists_of_check
    (reconcileBrokerFact (history intent events) (fact .filled 2 2 (by decide))
      [fill "one" 1, fill "two" 2] 0) filledLedger (fun r => r.1.filledShares = 2)
    (by decide)
  exact ⟨final, ledger', hrun, observation_repeats filledLedger ledger' _ final _ _ _ 0 1
    written_filled.backed hrun fun f => by
      simp only [List.mem_cons, List.not_mem_nil, or_false]
      tauto⟩

end Observation

end Ledger

end FirmQuant
