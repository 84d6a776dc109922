import FirmQuant.Domain.FillConfluence
import FirmQuant.Persistence.EventOwners

/-!
# Observations of a broker order

What the ledger takes of the observation of a broker order of a submitted order: the acknowledgement
is always accepted, and so are fills that contradict nothing recorded and whose shares fit.  What
the fills make of the state is their `FillCourse`.
-/

namespace FirmQuant

open Effect

namespace Ledger

open OrderAggregate

section Transitions

variable {ledger ledger₁ ledger' : Ledger} {aggregate next : OrderAggregate} {event : OrderEvent}
  {time : DateTime}

lemma Agrees.holdsVersion (h : Agrees ledger) (hstored : Stored ledger aggregate) :
    ledger.holdsVersion aggregate := by
  obtain ⟨row, hrow, rfl⟩ := hstored
  exact ⟨row, hrow, (h.rows row hrow).executionId, (h.rows row hrow).version⟩

/-- An owned event whose id is among the domain events was applied by the order itself. -/
lemma applied_of_owned (h : Agrees ledger) (hstored : Stored ledger aggregate)
    (howned : Owned ledger₁) (hevents : ledger₁.domainEvents = ledger.domainEvents)
    (howns : ledger₁.Owns aggregate.intent.executionId event) {row : DomainEventRow}
    (hrow : row ∈ ledger₁.domainEvents) (hid : row.event.eventId = event.eventId) :
    row.event ∈ aggregate.appliedEvents := by
  have hexecution : row.aggregateId = aggregate.intent.executionId :=
    howned.owner_unique (howned.events row hrow) howns hid
  obtain ⟨own, hown, rfl⟩ := hstored
  rw [← (h.rows own hown).events]
  rw [hevents] at hrow
  refine List.mem_map.mpr ⟨row, List.mem_filter.mpr ⟨hrow, ?_⟩, rfl⟩
  rw [(h.rows own hown).executionId]
  simpa using hexecution

/-- An accepted event of a stored order is committed. -/
lemma transition_succeeds (hholds : ledger.holdsVersion aggregate)
    (hknown : ∀ row ∈ ledger.domainEvents, row.event.eventId = event.eventId →
      ∃ e ∈ aggregate.appliedEvents, e.eventId = event.eventId)
    (happly : aggregate.apply event = .ok next) :
    ∃ ledger', transition aggregate event time ledger = .ok (next, ledger') := by
  unfold transition
  simp only [happly]
  by_cases hversion : next.version = aggregate.version
  · rcases apply_cases happly with rfl | hadvanced
    · exact ⟨_, if_pos rfl⟩
    · exact absurd (hadvanced.version.symm.trans hversion) (Nat.succ_ne_self _)
  rw [if_neg hversion, if_neg (not_not.mpr hholds)]
  have hnew : ¬ ledger.domainEvents.any (·.event.eventId = event.eventId) = true := by
    intro hany
    obtain ⟨row, hrow, hid⟩ := List.any_eq_true.mp hany
    obtain ⟨e, he, heid⟩ := hknown row hrow (by simpa using hid)
    rcases apply_seen_or_new happly with ⟨rfl, -⟩ | ⟨hunseen, -⟩
    · exact hversion rfl
    · exact hunseen e he heid
  exact ⟨_, if_neg hnew⟩

/-- The same, on a ledger whose tables agree. -/
lemma Recorded.transition_succeeds (h : Recorded ledger) (hstored : Stored ledger aggregate)
    (howns : ledger.Owns aggregate.intent.executionId event)
    (happly : aggregate.apply event = .ok next) (time : DateTime) :
    ∃ ledger', transition aggregate event time ledger = .ok (next, ledger') :=
  Ledger.transition_succeeds (h.agrees.holdsVersion hstored)
    (fun _ hrow hid => ⟨_, applied_of_owned h.agrees hstored h.owned rfl howns hrow hid, hid⟩)
    happly

/-- An applied event of a stored order is a domain event of its execution. -/
lemma Agrees.mem_domainEvents (h : Agrees ledger) (hstored : Stored ledger aggregate)
    (he : event ∈ aggregate.appliedEvents) :
    ∃ row ∈ ledger.domainEvents, row.event = event ∧
      row.aggregateId = aggregate.intent.executionId := by
  obtain ⟨own, hown, rfl⟩ := hstored
  rw [← (h.rows own hown).events, (h.rows own hown).executionId] at he
  obtain ⟨row, hrow, hevent⟩ := List.mem_map.mp he
  obtain ⟨hmem, hexecution⟩ := List.mem_filter.mp hrow
  exact ⟨row, hmem, hevent, by simpa using hexecution⟩

lemma transition_apply (h : transition aggregate event time ledger = .ok (next, ledger')) :
    aggregate.apply event = .ok next := by
  rcases transition_eq_ok h with ⟨rfl, -, same, hsame, hversion⟩ | ⟨happly, -⟩
  · rcases apply_cases hsame with rfl | hadvanced
    · exact hsame
    · exact absurd (hadvanced.version.symm.trans hversion) (Nat.succ_ne_self _)
  · exact happly

lemma transition_result (h : transition aggregate event time ledger = .ok (next, ledger')) :
    (next = aggregate ∨ aggregate.apply event = .ok next) ∧ ledger'.fills = ledger.fills ∧
      ledger'.fillEvidence = ledger.fillEvidence := by
  rcases transition_eq_ok h with ⟨rfl, rfl, -⟩ | ⟨happly, -, -, -, rfl⟩
  · exact ⟨.inl rfl, rfl, rfl⟩
  · exact ⟨.inr happly, rfl, rfl⟩

end Transitions

/-! ## The fills of an answer -/

/-- No fill of this id is recorded. -/
def Unrecorded (ledger : Ledger) (fill : BrokerFillFact) : Prop :=
  ∀ row ∈ ledger.fills, row.brokerFillId ≠ fill.brokerFillId

/-- A recorded fill and the evidence for it are this fill again. -/
structure FillAgain (ledger : Ledger) (executionId : ExecutionId) (fill : BrokerFillFact)
    (row : FillRow) : Prop where
  economics : sameFillEconomics row fill executionId
  evidence : ∃ stored ∈ ledger.fillEvidence, stored.identity.brokerFillId = fill.brokerFillId
  identity : ∀ stored ∈ ledger.fillEvidence,
    stored.identity.brokerFillId = fill.brokerFillId → stored.identity = fill.identity executionId

/-- A fill is taken: it is recorded and the same again, or it is new and comes after all evidence of
its order in its session. -/
inductive TakesFill (ledger : Ledger) (executionId : ExecutionId) (fill : BrokerFillFact) :
    Ledger → Prop
  | again (row : FillRow)
      (hfind : ledger.fills.find? (·.brokerFillId = fill.brokerFillId) = some row)
      (hagain : FillAgain ledger executionId fill row) :
      TakesFill ledger executionId fill (recordFillEvidence fill executionId ledger)
  | new (hunrecorded : ledger.Unrecorded fill)
      (hlater : ∀ stored ∈ ledger.orderEvidence fill.sessionDate fill.brokerOrderId,
        stored.identity.executionSequence < fill.eventSequence) :
      TakesFill ledger executionId fill { recordFillEvidence fill executionId ledger with
        fills := ledger.fills ++ [fillRow fill executionId] }

/-- Fills, in the order in which they are applied, that contradict nothing recorded: recorded ones
are the same again, and each other one carries a later execution sequence than all evidence of its
order in its session, and than the other ones before it. -/
structure FillsFit (ledger : Ledger) (executionId : ExecutionId) (fills : List BrokerFillFact) :
    Prop where
  recorded : ∀ fill ∈ fills, ∀ row ∈ ledger.fills, row.brokerFillId = fill.brokerFillId →
    FillAgain ledger executionId fill row
  later : ∀ fill ∈ fills, ledger.Unrecorded fill →
    ∀ stored ∈ ledger.orderEvidence fill.sessionDate fill.brokerOrderId,
      stored.identity.executionSequence < fill.eventSequence
  increasing : fills.Pairwise fun x y => ledger.Unrecorded x → ledger.Unrecorded y →
    x.sessionDate = y.sessionDate → x.eventSequence < y.eventSequence

/-- Fills that `_ordered_fills` returned and that fit. -/
structure FillsReady (ledger : Ledger) (executionId : ExecutionId) (fact : BrokerOrderFact)
    (fills : List BrokerFillFact) : Prop where
  fit : FillsFit ledger executionId fills
  ids : (fills.map (·.brokerFillId)).Nodup
  matching : ∀ fill ∈ fills, fillMatches fact fill

section Fills

variable {ledger ledger' : Ledger} {executionId : ExecutionId} {fact : BrokerOrderFact}
  {fill : BrokerFillFact} {fills ordered kept : List BrokerFillFact}

lemma recordFill_eq_ok {u : PUnit} : recordFill fill executionId ledger = .ok (u, ledger') ↔
    fill.status = .confirmed ∧ fill.eventSequence ≠ 0 ∧
      TakesFill ledger executionId fill ledger' := by
  unfold recordFill
  constructor
  · intro h
    by_cases hstatus : fill.status ≠ .confirmed
    · rw [if_pos hstatus] at h
      cases h
    by_cases hsequence : fill.eventSequence = 0
    · rw [if_neg hstatus, if_pos hsequence] at h
      cases h
    rw [if_neg hstatus, if_neg hsequence] at h
    refine ⟨not_not.mp hstatus, hsequence, ?_⟩
    cases hfind : ledger.fills.find? (·.brokerFillId = fill.brokerFillId) with
    | some row =>
      simp only [hfind] at h
      split_ifs at h with heconomics hsome hsame
      cases h
      obtain ⟨stored, hstored⟩ := List.exists_mem_of_ne_nil _ hsome
      obtain ⟨hstored, hid⟩ := List.mem_filter.mp hstored
      refine .again row hfind ⟨heconomics, ⟨stored, hstored, by simpa using hid⟩, ?_⟩
      intro other hother hotherId
      by_contra hne
      exact hsame ⟨other, List.mem_filter.mpr ⟨hother, by simpa using hotherId⟩, hne⟩
    | none =>
      simp only [hfind] at h
      split_ifs at h with hlater
      cases h
      refine .new (fun row hrow => by simpa using List.find?_eq_none.mp hfind row hrow) ?_
      intro stored hstored
      by_contra hle
      exact hlater ⟨stored, hstored, not_lt.mp hle⟩
  · rintro ⟨hstatus, hsequence, htakes⟩
    rw [if_neg (not_not.mpr hstatus), if_neg hsequence]
    cases htakes with
    | again row hfind hagain =>
      obtain ⟨heconomics, ⟨stored, hstored, hstoredId⟩, hidentity⟩ := hagain
      have hsome : ledger.fillEvidence.filter (·.identity.brokerFillId = fill.brokerFillId) ≠ [] :=
        List.ne_nil_of_mem (List.mem_filter.mpr ⟨hstored, by simpa using hstoredId⟩)
      have hsame : ¬ ∃ other ∈ ledger.fillEvidence.filter
          (·.identity.brokerFillId = fill.brokerFillId),
          other.identity ≠ fill.identity executionId := by
        rintro ⟨other, hmem, hne⟩
        obtain ⟨hmem, hotherId⟩ := List.mem_filter.mp hmem
        exact hne (hidentity other hmem (by simpa using hotherId))
      simp only [hfind]
      rw [if_neg (not_not.mpr heconomics), if_neg hsome, if_neg hsame]
    | new hunrecorded hlater =>
      have hfind : ledger.fills.find? (·.brokerFillId = fill.brokerFillId) = none :=
        List.find?_eq_none.mpr fun row hrow => by simpa using hunrecorded row hrow
      have hnone : ¬ ∃ stored ∈ ledger.orderEvidence fill.sessionDate fill.brokerOrderId,
          fill.eventSequence ≤ stored.identity.executionSequence := by
        rintro ⟨stored, hstored, hle⟩
        exact absurd (hlater stored hstored) (not_lt.mpr hle)
      simp only [hfind]
      rw [if_neg hnone]

lemma deduplicate_ready (hkept : (kept.map (·.brokerFillId)).Nodup)
    (hmatch : ∀ f ∈ kept, fillMatches fact f) :
    deduplicate executionId fact kept fills = .ok ordered →
      (ordered.map (·.brokerFillId)).Nodup ∧ ∀ f ∈ ordered, fillMatches fact f := by
  induction fills generalizing kept with
  | nil =>
    intro h
    cases h
    exact ⟨hkept, hmatch⟩
  | cons fill rest ih =>
    intro h
    unfold deduplicate at h
    split_ifs at h with hfill
    cases hfind : kept.find? (·.brokerFillId = fill.brokerFillId) with
    | some existing =>
      simp only [hfind] at h
      split_ifs at h
      exact ih hkept hmatch h
    | none =>
      simp only [hfind] at h
      refine ih ?_ (fun f hf => ?_) h
      · refine List.nodup_map_snoc.mpr ⟨hkept, fun f hf hid => ?_⟩
        simpa [hid] using List.find?_eq_none.mp hfind f hf
      · rcases List.mem_snoc.mp hf with hold | hnew
        · exact hmatch f hold
        · rw [hnew]
          exact hfill

lemma orderedFills_ids (h : orderedFills executionId fact fills = .ok ordered) :
    (ordered.map (·.brokerFillId)).Nodup ∧ ∀ f ∈ ordered, fillMatches fact f := by
  unfold orderedFills at h
  obtain ⟨distinct, hfirst, ⟨⟩⟩ := bind_ok_iff.mp h
  obtain ⟨hids, hmatch⟩ := deduplicate_ready (by simp) (by simp) hfirst
  have hperm := List.perm_insertionSort fillLe distinct
  exact ⟨(hperm.map _).nodup_iff.mpr hids, fun f hf => hmatch f (hperm.mem_iff.mp hf)⟩

lemma orderedFills_ready (h : orderedFills executionId fact fills = .ok ordered)
    (hfit : FillsFit ledger executionId ordered) : FillsReady ledger executionId fact ordered :=
  ⟨hfit, (orderedFills_ids h).1, (orderedFills_ids h).2⟩

/-- The tables that fills are recorded in determine what fits. -/
lemma FillsReady.of_tables (h : FillsReady ledger executionId fact fills)
    (hfills : ledger'.fills = ledger.fills)
    (hevidence : ledger'.fillEvidence = ledger.fillEvidence) :
    FillsReady ledger' executionId fact fills := by
  obtain ⟨⟨hrecorded, hlater, hincreasing⟩, hids, hmatch⟩ := h
  have hunrecorded : ∀ f, ledger'.Unrecorded f ↔ ledger.Unrecorded f := by
    intro f
    unfold Unrecorded
    rw [hfills]
  refine ⟨⟨fun f hf row hrow hid => ?_, fun f hf hnew stored hstored => ?_, ?_⟩, hids, hmatch⟩
  · rw [hfills] at hrow
    obtain ⟨heconomics, hsome, hidentity⟩ := hrecorded f hf row hrow hid
    exact ⟨heconomics, by rw [hevidence]; exact hsome, by rw [hevidence]; exact hidentity⟩
  · unfold orderEvidence at hstored
    rw [hevidence] at hstored
    exact hlater f hf ((hunrecorded f).mp hnew) stored hstored
  · exact hincreasing.imp fun hxy hx hy =>
      hxy ((hunrecorded _).mp hx) ((hunrecorded _).mp hy)

lemma mem_recordFillEvidence {stored : FillEvidenceRow}
    (h : stored ∈ (recordFillEvidence fill executionId ledger).fillEvidence) :
    stored ∈ ledger.fillEvidence ∨ stored = fillEvidenceRow fill executionId := by
  unfold recordFillEvidence at h
  split_ifs at h
  · exact .inl h
  · rcases List.mem_snoc.mp h with hold | hnew
    · exact .inl hold
    · exact .inr hnew

lemma subset_recordFillEvidence :
    ledger.fillEvidence ⊆ (recordFillEvidence fill executionId ledger).fillEvidence := by
  unfold recordFillEvidence
  split_ifs
  · exact List.Subset.refl _
  · exact List.subset_append_left _ _

lemma recordFillEvidence_tables :
    (recordFillEvidence fill executionId ledger).fills = ledger.fills ∧
      (recordFillEvidence fill executionId ledger).executionIntents = ledger.executionIntents ∧
      (recordFillEvidence fill executionId ledger).domainEvents = ledger.domainEvents := by
  unfold recordFillEvidence
  split_ifs
  · exact ⟨rfl, rfl, rfl⟩
  · exact ⟨rfl, rfl, rfl⟩

/-- The rest of fills that fit, after the first was recorded. -/
lemma FillsReady.rest {ledger₁ : Ledger} (h : FillsReady ledger executionId fact (fill :: fills))
    (hold : ledger.fills ⊆ ledger₁.fills)
    (hfills : ∀ row ∈ ledger₁.fills, row ∈ ledger.fills ∨ row.brokerFillId = fill.brokerFillId)
    (hkept : ledger.fillEvidence ⊆ ledger₁.fillEvidence)
    (hevidence : ∀ stored ∈ ledger₁.fillEvidence, stored ∈ ledger.fillEvidence ∨
      stored = fillEvidenceRow fill executionId)
    (hlast : ∀ f ∈ fills, ledger.Unrecorded f → f.sessionDate = fill.sessionDate →
      f.brokerOrderId = fill.brokerOrderId → fill.eventSequence < f.eventSequence) :
    FillsReady ledger₁ executionId fact fills := by
  obtain ⟨⟨hrecorded, hlater, hincreasing⟩, hids, hmatch⟩ := h
  obtain ⟨hnotin, hrestIds⟩ := List.nodup_cons.mp hids
  have hother : ∀ f ∈ fills, f.brokerFillId ≠ fill.brokerFillId := fun f hf heq =>
    hnotin (List.mem_map.mpr ⟨f, hf, heq⟩)
  have hunrecorded : ∀ f, ledger₁.Unrecorded f → ledger.Unrecorded f :=
    fun f hf row hrow => hf row (hold hrow)
  refine ⟨⟨fun f hf row hrow hid => ?_, fun f hf hnew stored hstored => ?_, ?_⟩, hrestIds,
    (List.forall_mem_cons.mp hmatch).2⟩
  · rcases hfills row hrow with hrow | hsame
    · obtain ⟨heconomics, ⟨stored, hstored, hstoredId⟩, hidentity⟩ :=
        hrecorded f (List.mem_cons_of_mem _ hf) row hrow hid
      refine ⟨heconomics, ⟨stored, hkept hstored, hstoredId⟩, fun other hmem hotherId => ?_⟩
      rcases hevidence other hmem with hmem | rfl
      · exact hidentity other hmem hotherId
      · exact absurd hotherId.symm (hother f hf)
    · exact absurd (hid.symm.trans hsame) (hother f hf)
  · obtain ⟨hmem, hsession⟩ := List.mem_filter.mp hstored
    rcases hevidence stored hmem with hmem | rfl
    · exact hlater f (List.mem_cons_of_mem _ hf) (hunrecorded f hnew) stored
        (List.mem_filter.mpr ⟨hmem, hsession⟩)
    · obtain ⟨hdate, horder⟩ : fill.sessionDate = f.sessionDate ∧
          fill.brokerOrderId = f.brokerOrderId := of_decide_eq_true hsession
      exact hlast f hf (hunrecorded f hnew) hdate.symm horder.symm
  · exact (List.pairwise_cons.mp hincreasing).2.imp fun hxy hx hy =>
      hxy (hunrecorded _ hx) (hunrecorded _ hy)

/-- The first of fills that fit is recorded, and the others fit what is recorded then. -/
lemma FillsReady.recordFill_succeeds (h : FillsReady ledger executionId fact (fill :: fills)) :
    ∃ ledger₁, recordFill fill executionId ledger = .ok (⟨⟩, ledger₁) ∧
      FillsReady ledger₁ executionId fact fills ∧
      ledger₁.executionIntents = ledger.executionIntents ∧
      ledger₁.domainEvents = ledger.domainEvents ∧
      (ledger₁.fills = ledger.fills ∧ ¬ ledger.Unrecorded fill ∨
        ledger₁.fills = ledger.fills ++ [fillRow fill executionId] ∧ ledger.Unrecorded fill) := by
  obtain ⟨-, -, -, hstatus, -, hsequence⟩ := h.matching fill List.mem_cons_self
  obtain ⟨htables, hintents, hevents⟩ :=
    @recordFillEvidence_tables ledger executionId fill
  cases hfind : ledger.fills.find? (·.brokerFillId = fill.brokerFillId) with
  | some row =>
    have hrow := List.mem_of_find?_eq_some hfind
    have hid : row.brokerFillId = fill.brokerFillId := by simpa using List.find?_some hfind
    have hagain := h.fit.recorded fill List.mem_cons_self row hrow hid
    have hidentity := hagain.identity
    obtain ⟨stored, hstored, hstoredId⟩ := hagain.evidence
    refine ⟨_, recordFill_eq_ok.mpr ⟨hstatus, hsequence.ne', .again row hfind hagain⟩,
      h.rest (by rw [htables]; exact List.Subset.refl _)
      (fun other hother => .inl (by rwa [htables] at hother)) subset_recordFillEvidence
      (fun other hother => mem_recordFillEvidence hother) ?_, hintents, hevents,
      .inl ⟨htables, fun hnew => hnew row hrow hid⟩⟩
    -- The evidence of the fill is there already, and later fills come after it.
    intro f hf hnew hdate horder
    have hbound := h.fit.later f (List.mem_cons_of_mem _ hf) hnew stored ?_
    · rw [hidentity stored hstored hstoredId] at hbound
      exact hbound
    · refine List.mem_filter.mpr ⟨hstored, ?_⟩
      rw [hidentity stored hstored hstoredId]
      simp [BrokerFillFact.identity, hdate, horder]
  | none =>
    have hnew : ledger.Unrecorded fill := fun row hrow => by
      simpa using List.find?_eq_none.mp hfind row hrow
    refine ⟨_, recordFill_eq_ok.mpr ⟨hstatus, hsequence.ne',
      .new hnew (h.fit.later fill List.mem_cons_self hnew)⟩,
      h.rest (List.subset_append_left _ _) (fun row hrow => ?_)
      subset_recordFillEvidence (fun other hother => mem_recordFillEvidence hother) ?_, hintents,
      hevents, .inr ⟨rfl, hnew⟩⟩
    · rcases List.mem_snoc.mp hrow with hold | hadded
      · exact .inl hold
      · rw [hadded]
        exact .inr rfl
    · intro f hf hfnew hdate _
      exact (List.pairwise_cons.mp h.fit.increasing).1 f hf hnew hfnew hdate.symm

end Fills

/-! ## A submitted order -/

/-- A stored order that was submitted, and a broker order of its execution. -/
structure Sent (ledger : Ledger) (aggregate : OrderAggregate) (brokerOrderId : String) : Prop where
  agrees : Agrees ledger
  owned : Owned ledger
  stored : Stored ledger aggregate
  submitted : aggregate.state ∉ [OrderState.planned, .validated, .armed]
  broker : aggregate.brokerOrderId = none ∨ aggregate.brokerOrderId = some brokerOrderId
  order : ledger.HasBrokerOrder brokerOrderId aggregate.intent.executionId

section Sent

variable {ledger ledger₁ ledger' : Ledger} {aggregate next : OrderAggregate} {time : DateTime}
  {brokerOrderId : String} {fact : BrokerOrderFact} {event : OrderEvent} {fill : BrokerFillFact}
  {fills : List BrokerFillFact}

variable (h : Sent ledger aggregate brokerOrderId)

include h

/-- An event that says what all events of its id say is accepted if it is when it is new. -/
lemma Sent.apply_succeeds (hkind : ∀ other : OrderEvent, other.eventId = event.eventId →
      ∀ executionId, ledger.Owns executionId other → other.kind = event.kind)
    (hnew : aggregate.Unseen event → ∃ next, aggregate.applyNew event = .ok next) :
    ∃ next, aggregate.apply event = .ok next := by
  by_cases hunseen : aggregate.Unseen event
  · rw [apply_of_not_seen hunseen]
    exact hnew hunseen
  · unfold Unseen at hunseen
    push Not at hunseen
    obtain ⟨e, he, hid⟩ := hunseen
    obtain ⟨row, hrow, rfl, -⟩ := h.agrees.mem_domainEvents h.stored he
    have hsame : row.event.kind = event.kind :=
      hkind row.event hid row.aggregateId (h.owned.events row hrow)
    rw [show row.event = ⟨row.event.eventId, row.event.kind⟩ from rfl, hid, hsame] at he
    exact ⟨aggregate, apply_of_seen he⟩

/-- The order after a write that moved it along. -/
lemma Sent.moved (hagrees : Agrees ledger' ∧ Stored ledger' next)
    (howned : Owned ledger' ∧ Grows ledger ledger') (hintent : next.intent = aggregate.intent)
    (hsubmitted : next.state ∉ [OrderState.planned, .validated, .armed])
    (hbroker : next.brokerOrderId = aggregate.brokerOrderId ∨
      next.brokerOrderId = some brokerOrderId) : Sent ledger' next brokerOrderId := by
  refine ⟨hagrees.1, howned.1, hagrees.2, hsubmitted, ?_, ?_⟩
  · rcases hbroker with hsame | hlearned
    · rw [hsame]
      exact h.broker
    · exact .inr hlearned
  · rw [show next.intent.executionId = aggregate.intent.executionId from
      congrArg ExecutionIntent.executionId hintent]
    exact howned.2.hasBrokerOrder h.order

/-- An accepted event that reports no fill is committed. -/
lemma Sent.transition_succeeds (hplain : NotFill event)
    (howns : ledger.Owns aggregate.intent.executionId event)
    (happly : aggregate.apply event = .ok next)
    (hsubmitted : next.state ∉ [OrderState.planned, .validated, .armed])
    (hbroker : next.brokerOrderId = aggregate.brokerOrderId ∨
      next.brokerOrderId = some brokerOrderId) (time : DateTime) :
    ∃ ledger', transition aggregate event time ledger = .ok (next, ledger') ∧
      Sent ledger' next brokerOrderId ∧ ledger'.fills = ledger.fills ∧
      ledger'.fillEvidence = ledger.fillEvidence := by
  obtain ⟨ledger', htransition⟩ :
      ∃ ledger', transition aggregate event time ledger = .ok (next, ledger') :=
    Ledger.transition_succeeds (h.agrees.holdsVersion h.stored)
      (fun _ hrow hid => ⟨_, applied_of_owned h.agrees h.stored h.owned rfl howns hrow hid, hid⟩)
      happly
  obtain ⟨-, hfills, hevidence⟩ := transition_result htransition
  exact ⟨ledger', htransition, h.moved (agrees_transition h.agrees h.stored hplain htransition)
    (owned_transition h.owned howns htransition) (transition_intent htransition) hsubmitted hbroker,
    hfills, hevidence⟩

/-! ## The acknowledgement -/

omit h

/-- The event of the acknowledgement that a fact brings. -/
def ackEvent (fact : BrokerOrderFact) : OrderEvent :=
  ⟨.ack fact.brokerOrderId fact.eventSequence, .brokerAcknowledged fact.brokerOrderId⟩

lemma notFill_ackEvent (fact : BrokerOrderFact) : NotFill (ackEvent fact) :=
  ⟨by simp [ackEvent], by simp [ackEvent, fillKind]⟩

/-- The state after the acknowledgement of a fact. -/
def ackState (aggregate : OrderAggregate) (fact : BrokerOrderFact) : OrderState :=
  if aggregate.state ∈ [OrderState.submitting, .unknown] ∧ ackEvent fact ∉ aggregate.appliedEvents
  then .acknowledged else aggregate.state

/-- What the acknowledgement of a fact makes of an order. -/
structure Acknowledged (aggregate : OrderAggregate) (fact : BrokerOrderFact)
    (next : OrderAggregate) : Prop where
  intent : next.intent = aggregate.intent
  fills : next.fills = aggregate.fills
  state : next.state = ackState aggregate fact
  broker : next.brokerOrderId = aggregate.brokerOrderId ∨
    next.brokerOrderId = some fact.brokerOrderId

lemma Acknowledged.filledShares (h : Acknowledged aggregate fact next) :
    next.filledShares = aggregate.filledShares := by
  rw [← next.wellFormed.filled_eq, ← aggregate.wellFormed.filled_eq, h.fills]

lemma Acknowledged.proven (h : Acknowledged aggregate fact next) :
    provenCumulativeShares next fills = provenCumulativeShares aggregate fills := by
  unfold provenCumulativeShares
  rw [h.filledShares, h.fills]

lemma Acknowledged.same (h : aggregate.state ∉ [OrderState.submitting, .unknown] ∨
    ackEvent fact ∈ aggregate.appliedEvents) : Acknowledged aggregate fact aggregate := by
  refine ⟨rfl, rfl, ?_, .inl rfl⟩
  unfold ackState
  rw [if_neg]
  rintro ⟨hstate, hunseen⟩
  rcases h with h | h
  · exact h hstate
  · exact hunseen h

lemma apply_ackEvent (h : aggregate.apply (ackEvent fact) = .ok next) :
    Acknowledged aggregate fact next := by
  rcases apply_seen_or_new h with ⟨rfl, hseen⟩ | ⟨hunseen, hnew⟩
  · exact .same (.inr hseen)
  have hnot : ackEvent fact ∉ aggregate.appliedEvents := fun hmem => hunseen _ hmem rfl
  have hkept : next.intent = aggregate.intent ∧ next.fills = aggregate.fills := by
    rcases apply_notFill (notFill_ackEvent fact).kind h with rfl | ⟨hadvanced, hfills⟩
    · exact ⟨rfl, rfl⟩
    · exact ⟨hadvanced.intent, hfills⟩
  have hmoved : ∀ {target change}, aggregate.updated (ackEvent fact) target
      (some fact.brokerOrderId) change = .ok next → target = ackState aggregate fact →
      Acknowledged aggregate fact next := by
    intro target change hupdated htarget
    refine ⟨hkept.1, hkept.2, (updated_state hupdated).trans htarget, .inr ?_⟩
    rw [(updated_eq_ok hupdated).2.2]
    rfl
  unfold applyNew at hnew
  simp only [ackEvent] at hnew
  unfold ackState at hmoved
  split_ifs at hnew with hopen hknown hclosed
  · exact hmoved hnew (if_pos ⟨hopen, hnot⟩).symm
  iterate 2 exact hmoved hnew (if_neg fun hc => hopen hc.1).symm
  · -- An order that was not submitted cannot be acknowledged.
    have hlegal := (updated_eq_ok hnew).1
    exfalso
    revert hopen hknown hclosed hlegal
    cases aggregate.state <;> decide

lemma acknowledge_acknowledged (h : acknowledge aggregate fact time ledger = .ok (next, ledger')) :
    Acknowledged aggregate fact next := by
  unfold acknowledge at h
  split_ifs at h with hneeded
  · exact apply_ackEvent (transition_apply h)
  · cases h
    have hterminal : aggregate.state ∈ OrderState.terminal := by
      by_contra hopen
      exact hneeded (.inr hopen)
    refine .same (.inl ?_)
    revert hterminal
    cases aggregate.state <;> decide

lemma Sent.apply_ack (h : Sent ledger aggregate fact.brokerOrderId) :
    ∃ next, aggregate.apply (ackEvent fact) = .ok next := by
  refine h.apply_succeeds ?_ fun hunseen => ?_
  · rintro ⟨_, kind⟩ rfl executionId howns
    exact howns.2
  have hsubmitted := h.submitted
  simp only [applyNew, ackEvent]
  split_ifs with hopen hknown hclosed
  · refine updated_plain hunseen .nothing (.inr ?_) (.inr (by decide)) (.inr h.broker)
    revert hopen
    cases aggregate.state <;> decide
  · exact updated_plain hunseen .nothing (.inl rfl) (.inl rfl) (.inr h.broker)
  · exact updated_plain hunseen (.anomaly _) (.inl rfl) (.inl rfl) (.inr h.broker)
  · exfalso
    revert hsubmitted hopen hknown hclosed
    cases aggregate.state <;> decide

lemma Acknowledged.submitted (h : Acknowledged aggregate fact next)
    (hsubmitted : aggregate.state ∉ [OrderState.planned, .validated, .armed]) :
    next.state ∉ [OrderState.planned, .validated, .armed] := by
  rw [h.state]
  unfold ackState
  split_ifs
  · decide
  · exact hsubmitted

/-- The acknowledgement of a submitted order is committed, and no share moves. -/
lemma Sent.acknowledge_succeeds (h : Sent ledger aggregate fact.brokerOrderId) (time : DateTime) :
    ∃ next ledger', acknowledge aggregate fact time ledger = .ok (next, ledger') ∧
      Sent ledger' next fact.brokerOrderId ∧ Acknowledged aggregate fact next ∧
      ledger'.fills = ledger.fills ∧ ledger'.fillEvidence = ledger.fillEvidence := by
  by_cases hneeded : aggregate.brokerOrderId.isNone ∨ aggregate.state ∉ OrderState.terminal
  · obtain ⟨next, happly⟩ := h.apply_ack
    have hacknowledged := apply_ackEvent happly
    obtain ⟨ledger', htransition, hsent, hfills, hevidence⟩ :=
      h.transition_succeeds (notFill_ackEvent fact) ⟨h.order, rfl⟩ happly
        (hacknowledged.submitted h.submitted) hacknowledged.broker time
    refine ⟨next, ledger', ?_, hsent, hacknowledged, hfills, hevidence⟩
    unfold acknowledge
    rw [if_pos hneeded]
    exact htransition
  · have hrun : acknowledge aggregate fact time ledger = .ok (aggregate, ledger) := by
      unfold acknowledge
      rw [if_neg hneeded]
      rfl
    exact ⟨aggregate, ledger, hrun, h, acknowledge_acknowledged hrun, rfl, rfl⟩

/-! ## The fills -/

/-- A retained fill says what the row of the fill says. -/
lemma Agrees.applied_fill (h : Agrees ledger) (hstored : Stored ledger aggregate) {row : FillRow}
    (hrow : row ∈ ledger.fills) (howner : row.executionId = some aggregate.intent.executionId) :
    ∃ applied ∈ aggregate.fills, AppliedFill.economics applied = FillRow.economics row := by
  obtain ⟨own, hown, rfl⟩ := hstored
  have hfills := (h.rows own hown).fills
  rw [(h.rows own hown).executionId] at hfills
  have hmem : FillRow.economics row ∈ (ledger.fillsOf own.aggregate.intent.executionId).map
      FillRow.economics :=
    List.mem_map_of_mem (List.mem_filter.mpr ⟨hrow, by simpa using howner⟩)
  rw [hfills] at hmem
  exact List.mem_map.mp hmem

/-- Among fills that fit, the unrecorded ones are those that the order has not retained. -/
lemma unrecorded_iff (h : Sent ledger aggregate brokerOrderId)
    (hready : FillsReady ledger aggregate.intent.executionId fact (fill :: fills)) :
    ledger.Unrecorded fill ↔ fill.brokerFillId ∉ aggregate.fills.map (·.brokerFillId) := by
  have hrow := h.agrees.fill_row h.stored fill.brokerFillId
  constructor
  · intro hnew hmem
    obtain ⟨f, hf, hid⟩ := List.mem_map.mp hmem
    obtain ⟨row, hmem, hrowId, -⟩ := hrow.mpr ⟨f, hf, hid⟩
    exact hnew row hmem hrowId
  · intro hnot row hmem hid
    have howner := (hready.fit.recorded fill List.mem_cons_self row hmem hid).economics.2.1
    obtain ⟨f, hf, hfid⟩ := hrow.mp ⟨row, hmem, hid, howner⟩
    exact hnot (List.mem_map.mpr ⟨f, hf, hfid⟩)

/-- A recorded fill that fits is retained as it is. -/
lemma Sent.retained (h : Sent ledger aggregate brokerOrderId)
    (hready : FillsReady ledger aggregate.intent.executionId fact (fill :: fills)) {row : FillRow}
    (hrow : row ∈ ledger.fills) (hid : row.brokerFillId = fill.brokerFillId) :
    fill.appliedFill ∈ aggregate.fills := by
  obtain ⟨hrowOrder, hrowOwner, -, -, hshares, hprice, -⟩ :=
    (hready.fit.recorded fill List.mem_cons_self row hrow hid).economics
  obtain ⟨known, hmem, heconomics⟩ := h.agrees.applied_fill h.stored hrow hrowOwner
  have hknown : known = fill.appliedFill := by
    obtain ⟨knownId, knownOrder, knownShares, knownPrice, _⟩ := known
    simp only [AppliedFill.economics, FillRow.economics, Prod.mk.injEq] at heconomics
    obtain ⟨rfl, rfl, rfl, rfl⟩ := heconomics
    simp only [BrokerFillFact.appliedFill, AppliedFill.mk.injEq]
    exact ⟨hid, hrowOrder, hshares, hprice⟩
  exact hknown ▸ hmem

lemma apply_retained {report : FillReport} (hmem : report.fill ∈ aggregate.fills)
    (hunseen : aggregate.Unseen report.event) : aggregate.apply report.event = .ok aggregate := by
  rw [apply_of_not_seen hunseen]
  change aggregate.applyFill report.event report.fill = .ok aggregate
  unfold applyFill
  cases hfind : aggregate.fills.find? (·.brokerFillId = report.fill.brokerFillId) with
  | none => simpa using List.find?_eq_none.mp hfind report.fill hmem
  | some existing =>
    have hid : existing.brokerFillId = report.fill.brokerFillId := by
      simpa using List.find?_some hfind
    have hsame : existing = report.fill := List.inj_on_of_nodup_map
      aggregate.wellFormed.fills_nodup (List.mem_of_find?_eq_some hfind) hmem hid
    exact if_pos hsame

/-- A fill that fits is accepted and retained; it adds its shares if it was not recorded. -/
lemma Sent.apply_fill (h : Sent ledger aggregate fact.brokerOrderId)
    (hready : FillsReady ledger aggregate.intent.executionId fact (fill :: fills))
    (hremaining : ledger.Unrecorded fill →
      aggregate.filledShares + fill.shares ≤ aggregate.intent.requestedShares) :
    ∃ next, aggregate.apply (fillEvent fill) = .ok next ∧ fill.appliedFill ∈ next.fills ∧
      (ledger.Unrecorded fill → next.fills = aggregate.fills ++ [fill.appliedFill]) ∧
      (¬ ledger.Unrecorded fill → next = aggregate) := by
  obtain ⟨horder, -⟩ := hready.matching fill List.mem_cons_self
  by_cases hnew : ledger.Unrecorded fill
  · have hnewFill : ∀ f ∈ aggregate.fills, f.brokerFillId ≠ fill.appliedFill.brokerFillId := by
      intro f hf heq
      obtain ⟨row, hrow, hid, -⟩ := (h.agrees.fill_row h.stored fill.brokerFillId).mpr ⟨f, hf, heq⟩
      exact hnew row hrow hid
    have hunseen : aggregate.Unseen (fillReport (.fill fill.brokerFillId) fill.appliedFill) := by
      intro e he heq
      obtain ⟨row, hrow, hrowAggregate⟩ := h.stored
      have hretains := (h.agrees.rows row hrow).retains
      rw [hrowAggregate] at hretains
      obtain ⟨f, hf, hid⟩ := hretains e he fill.brokerFillId heq
      exact hnewFill f hf hid
    have hbroker : aggregate.brokerOrderId = none ∨
        aggregate.brokerOrderId = some fill.brokerOrderId := by
      rw [horder]
      exact h.broker
    have hfits : FillFits aggregate (.fill fill.brokerFillId) fill.appliedFill :=
      ⟨h.submitted, hunseen, hnewFill, hbroker, hremaining hnew⟩
    obtain ⟨next, happly, hfills, -⟩ := apply_fillReport hfits
    exact ⟨next, happly, by simp [hfills], fun _ => hfills, fun hknown => absurd hnew hknown⟩
  · obtain ⟨row, hrow, hid⟩ : ∃ row ∈ ledger.fills, row.brokerFillId = fill.brokerFillId := by
      unfold Unrecorded at hnew
      push Not at hnew
      exact hnew
    have hmem := h.retained hready hrow hid
    refine ⟨aggregate, ?_, hmem, fun hunrecorded => absurd hunrecorded hnew, fun _ => rfl⟩
    by_cases hunseen : aggregate.Unseen (fillEvent fill)
    · let report : FillReport := ⟨.fill fill.brokerFillId, fill.appliedFill⟩
      have hretained : report.fill ∈ aggregate.fills := hmem
      exact apply_retained hretained hunseen
    · -- The event of the fill was applied, and it says what the row of the fill says.
      unfold Unseen at hunseen
      push Not at hunseen
      obtain ⟨e, he, heid⟩ := hunseen
      obtain ⟨eventRow, heventRow, rfl, -⟩ := h.agrees.mem_domainEvents h.stored he
      have howns := h.owned.events eventRow heventRow
      obtain ⟨hrowOrder, -, -, -, hshares, hprice, -⟩ :=
        (hready.fit.recorded fill List.mem_cons_self row hrow hid).economics
      have hsame : eventRow.event = fillEvent fill := by
        obtain ⟨⟨id, kind⟩, aggregateId, occurredAt⟩ := eventRow
        obtain rfl : id = .fill fill.brokerFillId := heid
        obtain ⟨other, hother, hotherId, -, hpos, hkind⟩ :
          ledger.HasFill fill.brokerFillId aggregateId kind := howns
        obtain rfl := h.owned.fill_eq hrow hother (hid.trans hotherId.symm)
        simp only [fillEvent, OrderEvent.mk.injEq, true_and]
        rw [hkind]
        simp only [hrowOrder, hshares, hprice]
      rw [hsame] at he
      exact apply_of_seen he

/-- To apply the first fill moves its shares into the order. -/
lemma provenCumulativeShares_cons (hids : ((fill :: fills).map (·.brokerFillId)).Nodup)
    (hnew : fill.brokerFillId ∉ aggregate.fills.map (·.brokerFillId) →
      next.fills = aggregate.fills ++ [fill.appliedFill])
    (hold : fill.brokerFillId ∈ aggregate.fills.map (·.brokerFillId) → next = aggregate) :
    provenCumulativeShares next fills = provenCumulativeShares aggregate (fill :: fills) := by
  unfold provenCumulativeShares
  by_cases hmem : fill.brokerFillId ∈ aggregate.fills.map (·.brokerFillId)
  · rw [hold hmem, List.filter_cons_of_neg (by simpa using hmem)]
  · have hfills := hnew hmem
    have hshares : next.filledShares = aggregate.filledShares + fill.shares := by
      rw [← next.wellFormed.filled_eq, ← aggregate.wellFormed.filled_eq, hfills]
      simp [BrokerFillFact.appliedFill]
    have hsame : fills.filter (fun f => f.brokerFillId ∉ next.fills.map (·.brokerFillId)) =
        fills.filter (fun f => f.brokerFillId ∉ aggregate.fills.map (·.brokerFillId)) := by
      refine List.filter_congr fun f hf => ?_
      have hne : f.brokerFillId ≠ fill.brokerFillId := fun heq =>
        (List.nodup_cons.mp hids).1 (List.mem_map.mpr ⟨f, hf, heq⟩)
      rw [hfills]
      simp [BrokerFillFact.appliedFill, hne]
    rw [hsame, List.filter_cons_of_pos (by simpa using hmem), List.map_cons, List.sum_cons, hshares]
    omega

lemma applyFills_cons
    (h : applyFills aggregate (fill :: fills) ledger = .ok (next, ledger')) :
    ∃ moved ledger₁, aggregate.apply
      (FillReport.event ⟨.fill fill.brokerFillId, fill.appliedFill⟩) = .ok moved ∧
      applyFills moved fills ledger₁ = .ok (next, ledger') := by
  obtain ⟨u, recorded, -, h⟩ := Txn.bind_eq_ok.mp h
  obtain ⟨moved, ledger₁, htransition, h⟩ := Txn.bind_eq_ok.mp h
  exact ⟨moved, ledger₁, transition_apply htransition, h⟩

/-- What committed fills make of the state, on any ledger. -/
lemma applyFills_course {start : OrderAggregate} (hstart : FillCourse start aggregate)
    (h : applyFills aggregate fills ledger = .ok (next, ledger')) :
    FillCourse start next ∧ aggregate.fills ⊆ next.fills := by
  induction fills generalizing ledger aggregate with
  | nil =>
    cases h
    exact ⟨hstart, List.Subset.refl _⟩
  | cons fill rest ih =>
    obtain ⟨moved, ledger₂, happly, h⟩ := applyFills_cons h
    obtain ⟨hcourse, hkept⟩ := ih (hstart.apply happly) h
    exact ⟨hcourse, List.Subset.trans (grows_apply happly).fills hkept⟩

lemma submitted_fill (h : aggregate.apply (fillEvent fill) = .ok next)
    (hsubmitted : aggregate.state ∉ [OrderState.planned, .validated, .armed]) :
    next.state ∉ [OrderState.planned, .validated, .armed] ∧
      (next.brokerOrderId = aggregate.brokerOrderId ∨
        next.brokerOrderId = some fill.brokerOrderId) := by
  have happly : aggregate.apply
      (FillReport.event ⟨.fill fill.brokerFillId, fill.appliedFill⟩) = .ok next := h
  rcases apply_filled happly with rfl | hfilled
  · exact ⟨hsubmitted, .inl rfl⟩
  refine ⟨?_, .inr hfilled.brokerOrderId⟩
  rw [hfilled.state]
  unfold fillTarget
  split_ifs <;> first | exact hsubmitted | decide

/-- Fills that fit are recorded and applied, one after another. -/
theorem Sent.applyFills_succeeds (h : Sent ledger aggregate fact.brokerOrderId)
    (hready : FillsReady ledger aggregate.intent.executionId fact fills)
    (hproven : provenCumulativeShares aggregate fills ≤ aggregate.intent.requestedShares) :
    ∃ next ledger', applyFills aggregate fills ledger = .ok (next, ledger') ∧
      Sent ledger' next fact.brokerOrderId ∧
      next.filledShares = provenCumulativeShares aggregate fills ∧
      ∀ fill ∈ fills, fill.appliedFill ∈ next.fills := by
  induction fills generalizing ledger aggregate with
  | nil => exact ⟨aggregate, ledger, rfl, h, by simp [provenCumulativeShares], by simp⟩
  | cons fill rest ih =>
    have hnew := unrecorded_iff h hready
    have hremaining : ledger.Unrecorded fill →
        aggregate.filledShares + fill.shares ≤ aggregate.intent.requestedShares := by
      intro hunrecorded
      unfold provenCumulativeShares at hproven
      rw [List.filter_cons_of_pos (by simpa using hnew.mp hunrecorded), List.map_cons,
        List.sum_cons] at hproven
      omega
    obtain ⟨moved, happly, hretained, hadded, hkept⟩ := h.apply_fill hready hremaining
    obtain ⟨ledger₁, hrecord, hrest, hintents, hevents, -⟩ := hready.recordFill_succeeds
    obtain ⟨howned₁, hgrows₁, hfill⟩ := owned_recordFill h.owned hrecord
    have howns : ledger₁.Owns aggregate.intent.executionId (fillEvent fill) := hfill
    have hholds : ledger₁.holdsVersion aggregate := by
      have hheld := h.agrees.holdsVersion h.stored
      unfold holdsVersion at hheld ⊢
      rw [hintents]
      exact hheld
    obtain ⟨ledger₂, htransition⟩ : ∃ ledger₂,
        transition aggregate (fillEvent fill) fill.eventTime ledger₁ = .ok (moved, ledger₂) :=
      Ledger.transition_succeeds hholds (fun row hrow hid => ⟨_, applied_of_owned h.agrees h.stored
        howned₁ hevents howns hrow hid, hid⟩) happly
    obtain ⟨howned₂, hgrows₂⟩ := owned_transition howned₁ howns htransition
    obtain ⟨-, hfills₂, hevidence₂⟩ := transition_result htransition
    have hintent := transition_intent htransition
    obtain ⟨hsubmitted, hbroker⟩ := submitted_fill happly h.submitted
    have hsent : Sent ledger₂ moved fact.brokerOrderId :=
      h.moved (agrees_fill h.agrees h.stored hrecord htransition)
        ⟨howned₂, hgrows₁.trans hgrows₂⟩ hintent hsubmitted
        ((hready.matching fill List.mem_cons_self).1 ▸ hbroker)
    have hcumulative : provenCumulativeShares moved rest =
        provenCumulativeShares aggregate (fill :: rest) :=
      provenCumulativeShares_cons hready.ids (fun hnot => hadded (hnew.mpr hnot))
        fun hmem => hkept fun hunrecorded => hnew.mp hunrecorded hmem
    have hready₂ : FillsReady ledger₂ moved.intent.executionId fact rest := by
      rw [hintent]
      exact hrest.of_tables hfills₂ hevidence₂
    obtain ⟨final, ledger', hrun, hfinal, hshares, hall⟩ :=
      ih hsent hready₂ (by rw [hcumulative, hintent]; exact hproven)
    refine ⟨final, ledger', ?_, hfinal, hshares.trans hcumulative, fun f hf => ?_⟩
    · exact Txn.bind_eq_ok.mpr ⟨_, _, hrecord, Txn.bind_eq_ok.mpr ⟨_, _, htransition, hrun⟩⟩
    · rcases List.mem_cons.mp hf with rfl | hf
      · exact (applyFills_course (.refl _) hrun).2 hretained
      · exact hall f hf

/-! ## The status -/

/-- The event by which the status of a queried fact is applied, if it has one. -/
def statusEvent (fact : BrokerOrderFact) : Option OrderEvent :=
  match fact.status with
  | .rejected => some
      ⟨.recoveryRejected fact.brokerOrderId fact.eventSequence, .brokerRejected "BROKER_REJECTED"⟩
  | .expired => some
      ⟨.recoveryExpired fact.brokerOrderId fact.eventSequence, .orderExpired "BROKER_EXPIRED"⟩
  | .cancelled => some
      ⟨.recoveryCancelled fact.brokerOrderId fact.eventSequence,
        .cancelConfirmed (some fact.brokerOrderId)⟩
  | .unknown => some
      ⟨.recoveryUnknown fact.brokerOrderId fact.eventSequence,
        .submitOutcomeUnknown "BROKER_STATUS_UNKNOWN"⟩
  | _ => none

/-- Whether a submitted order in a state takes the event of a status. -/
def Takes (state : OrderState) (status : BrokerOrderStatus) : Prop :=
  (status = .expired → state ∉ [OrderState.submitting, .filled, .cancelled, .rejected]) ∧
    (status = .cancelled → state ∉ [OrderState.rejected, .expired])

lemma statusEvent_status (h : statusEvent fact = some event) : BrokerStatus event := by
  unfold statusEvent at h
  cases hstatus : fact.status with
  | rejected | expired | cancelled | unknown =>
    rw [hstatus] at h
    obtain rfl := Option.some.inj h
    constructor
  | pendingNew | acknowledged | partiallyFilled | filled | pendingCancel =>
    rw [hstatus] at h
    cases h

/-- The status of a queried fact is applied by its event, unless the order has its state. -/
lemma applyQueriedStatus_eq (aggregate : OrderAggregate) (fact : BrokerOrderFact)
    (time : DateTime) : applyQueriedStatus aggregate fact time =
      if fact.status.terminalState = some aggregate.state then pure aggregate
      else match statusEvent fact with
        | some event => transition aggregate event time
        | none => pure aggregate := by
  unfold applyQueriedStatus applyTerminalFact statusEvent
  cases fact.status <;> simp [BrokerOrderStatus.terminalState]

lemma Sent.apply_status (h : Sent ledger aggregate fact.brokerOrderId)
    (hevent : statusEvent fact = some event) (htakes : Takes aggregate.state fact.status) :
    ∃ next, aggregate.apply event = .ok next := by
  have hsubmitted := h.submitted
  unfold statusEvent at hevent
  cases hstatus : fact.status with
  | rejected =>
    rw [hstatus] at hevent
    obtain rfl := Option.some.inj hevent
    refine h.apply_succeeds (by rintro ⟨_, _⟩ rfl _ howns; exact howns.2)
      fun hunseen => ?_
    simp only [applyNew]
    split_ifs with hterminal
    · exact updated_plain hunseen (.anomaly _) (.inl rfl) (.inl rfl) (.inl rfl)
    · refine updated_plain hunseen .nothing (.inr ?_) (.inr (by decide)) (.inl rfl)
      revert hsubmitted hterminal
      cases aggregate.state <;> decide
  | expired =>
    rw [hstatus] at hevent
    obtain rfl := Option.some.inj hevent
    refine h.apply_succeeds (by rintro ⟨_, _⟩ rfl _ howns; exact howns.2)
      fun hunseen => ?_
    have hopen := htakes.1 hstatus
    simp only [applyNew]
    refine updated_plain hunseen .nothing ?_ (.inr (by decide)) (.inl rfl)
    revert hsubmitted hopen
    cases aggregate.state <;> decide
  | cancelled =>
    rw [hstatus] at hevent
    obtain rfl := Option.some.inj hevent
    refine h.apply_succeeds (by rintro ⟨_, _⟩ rfl _ howns; exact howns.2)
      fun hunseen => ?_
    have hopen := htakes.2 hstatus
    simp only [applyNew, Option.some_or, Option.isNone_some, Bool.false_eq_true, if_false]
    split_ifs with hfilled
    · exact updated_plain hunseen (.anomaly _) (.inl rfl) (.inl rfl) (.inr h.broker)
    · refine updated_plain hunseen .nothing ?_ (.inr (by decide)) (.inr h.broker)
      revert hsubmitted hopen hfilled
      cases aggregate.state <;> decide
  | unknown =>
    rw [hstatus] at hevent
    obtain rfl := Option.some.inj hevent
    refine h.apply_succeeds (by rintro ⟨_, _⟩ rfl _ howns; exact howns.2)
      fun hunseen => ?_
    simp only [applyNew]
    split_ifs with hkept
    · exact updated_plain hunseen .nothing (.inl rfl) (.inl rfl) (.inl rfl)
    · refine updated_plain hunseen .nothing (.inr ?_) (.inr (by decide)) (.inl rfl)
      revert hsubmitted hkept
      cases aggregate.state <;> decide
  | pendingNew | acknowledged | partiallyFilled | filled | pendingCancel =>
    rw [hstatus] at hevent
    cases hevent

/-- The status of a fact is applied to an order that takes it, and the fills stay. -/
lemma Sent.applyQueriedStatus_succeeds (h : Sent ledger aggregate fact.brokerOrderId)
    (htakes : Takes aggregate.state fact.status) (time : DateTime) :
    ∃ next ledger', applyQueriedStatus aggregate fact time ledger = .ok (next, ledger') ∧
      next.fills = aggregate.fills := by
  rw [applyQueriedStatus_eq]
  split_ifs with hsame
  · exact ⟨aggregate, ledger, rfl, rfl⟩
  cases hevent : statusEvent fact with
  | none => exact ⟨aggregate, ledger, rfl, rfl⟩
  | some event =>
    obtain ⟨next, happly⟩ := h.apply_status hevent htakes
    have hplain := notFill_status (statusEvent_status hevent)
    have howns : ledger.Owns aggregate.intent.executionId event := by
      unfold statusEvent at hevent
      split at hevent
      iterate 4
        · obtain rfl := Option.some.inj hevent
          exact ⟨h.order, rfl⟩
      · cases hevent
    obtain ⟨ledger', htransition⟩ :
        ∃ ledger', transition aggregate event time ledger = .ok (next, ledger') :=
      Ledger.transition_succeeds (h.agrees.holdsVersion h.stored)
        (fun _ hrow hid => ⟨_, applied_of_owned h.agrees h.stored h.owned rfl howns hrow hid, hid⟩)
        happly
    refine ⟨next, ledger', htransition, ?_⟩
    rcases apply_notFill hplain.kind happly with rfl | ⟨-, hfills⟩
    · rfl
    · exact hfills

end Sent

/-! ## The fact -/

section Fact

variable {ledger : Ledger} {aggregate : OrderAggregate} {fact : BrokerOrderFact}

/-- A fact without a violation is about the order: its broker order is not another one, and it
requests the same shares. -/
lemma fact_of_factViolation (h : factViolation aggregate fact = none) :
    (aggregate.brokerOrderId = none ∨ aggregate.brokerOrderId = some fact.brokerOrderId) ∧
      fact.requestedShares = aggregate.intent.requestedShares := by
  unfold factViolation at h
  split_ifs at h with hbroker hintent hfilled hpartial
  constructor
  · simpa using hbroker
  · by_contra hne
    exact hintent (.inr (.inr (.inr hne)))

/-- The broker order of the answer is recorded; this touches no other table. -/
lemma recordBrokerOrder_succeeds {executionId : ExecutionId}
    (hrow : ∃ row ∈ ledger.brokerOrders, row.brokerOrderId = fact.brokerOrderId)
    (horder : ∀ row ∈ ledger.brokerOrders, row.brokerOrderId = fact.brokerOrderId →
      orderRegression row fact executionId = none) :
    ∃ ledger₁, recordBrokerOrder fact executionId ledger = .ok (⟨⟩, ledger₁) ∧
      ledger₁.fills = ledger.fills ∧ ledger₁.fillEvidence = ledger.fillEvidence ∧
      ledger₁.responses = ledger.responses := by
  unfold recordBrokerOrder
  cases hfind : ledger.brokerOrders.find? (·.brokerOrderId = fact.brokerOrderId) with
  | none =>
    obtain ⟨row, hmem, hid⟩ := hrow
    exact absurd hid (by simpa using List.find?_eq_none.mp hfind row hmem)
  | some row =>
    have hid : row.brokerOrderId = fact.brokerOrderId := by simpa using List.find?_some hfind
    simp only [horder row (List.mem_of_find?_eq_some hfind) hid]
    exact ⟨_, rfl, rfl, rfl, rfl⟩

end Fact

end Ledger

end FirmQuant
