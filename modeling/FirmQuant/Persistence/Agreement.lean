import FirmQuant.Persistence.Evolution

/-!
# Agreement of the tables

An order is written to three tables and a document: its row repeats columns of the aggregate,
its fills are rows of `fills`, and every event that moved it is a row of `domain_events`.  The
repository writes them separately; this module shows that they agree after every sequence of
its calls.

A call starts from the stored aggregate.  In the middle of a call the tables agree already,
except between the record of a fill and the event that applies it; `Evolve` has these two as one
step.
-/

namespace FirmQuant

open Effect

namespace Ledger

/-! ## What agrees -/

/-- What a row of `fills` and a retained fill both say. -/
def FillRow.economics (row : FillRow) : String × String × ℕ × Price :=
  (row.brokerFillId, row.brokerOrderId, row.shares, row.price)

/-- What a retained fill says. -/
def AppliedFill.economics (fill : AppliedFill) : String × String × ℕ × Price :=
  (fill.brokerFillId, fill.brokerOrderId, fill.shares, fill.price)

/-- The rows of `fills` of an execution. -/
def fillsOf (ledger : Ledger) (executionId : ExecutionId) : List FillRow :=
  ledger.fills.filter (·.executionId = some executionId)

/-- The ORDER rows of `domain_events` of an execution. -/
def eventsOf (ledger : Ledger) (executionId : ExecutionId) : List DomainEventRow :=
  ledger.domainEvents.filter (·.aggregateId = executionId)

/-- Every applied report of a fill retained that fill. -/
def Retains (aggregate : OrderAggregate) : Prop :=
  ∀ event ∈ aggregate.appliedEvents, ∀ brokerFillId, event.eventId = .fill brokerFillId →
    ∃ fill ∈ aggregate.fills, fill.brokerFillId = brokerFillId

/-- The row of an execution agrees with its aggregate, its fills and its events. -/
structure RowAgrees (ledger : Ledger) (row : IntentRow) : Prop where
  executionId : row.executionId = row.aggregate.intent.executionId
  state : row.state = row.aggregate.state
  version : row.version = row.aggregate.version
  filledShares : row.filledShares = row.aggregate.filledShares
  fills : (ledger.fillsOf row.executionId).map FillRow.economics =
    row.aggregate.fills.map AppliedFill.economics
  events : (ledger.eventsOf row.executionId).map (·.event) = row.aggregate.appliedEvents
  counted : row.aggregate.appliedEvents.length = row.aggregate.version
  retains : Retains row.aggregate

/-- The tables agree. -/
structure Agrees (ledger : Ledger) : Prop where
  ids : (ledger.executionIntents.map (·.executionId)).Nodup
  rows : ∀ row ∈ ledger.executionIntents, RowAgrees ledger row
  fillOwners : ∀ fill ∈ ledger.fills,
    ∃ row ∈ ledger.executionIntents, fill.executionId = some row.executionId
  eventOwners : ∀ event ∈ ledger.domainEvents,
    ∃ row ∈ ledger.executionIntents, event.aggregateId = row.executionId

/-- The aggregate is the stored one of its execution. -/
def Stored (ledger : Ledger) (aggregate : OrderAggregate) : Prop :=
  ∃ row ∈ ledger.executionIntents, row.aggregate = aggregate

lemma agrees_empty : Agrees Ledger.empty := by
  constructor <;> simp [Ledger.empty]

/-! ## One step of a call -/

section Step

variable {ledger ledger' : Ledger} {aggregate next : OrderAggregate} {event : OrderEvent}
  {occurredAt : DateTime}

/-- Writes to other tables do not disturb the agreement. -/
lemma Agrees.aside (h : Agrees ledger) (haside : Aside ledger ledger') : Agrees ledger' := by
  obtain ⟨hrows, hfills, hevents⟩ := haside
  refine ⟨by rw [hrows]; exact h.ids, ?_, ?_, ?_⟩
  · intro row hrow
    rw [hrows] at hrow
    obtain ⟨hid, hstate, hversion, hfilled, hrowFills, hrowEvents, hcounted, hretains⟩ :=
      h.rows row hrow
    refine ⟨hid, hstate, hversion, hfilled, ?_, ?_, hcounted, hretains⟩
    · unfold fillsOf
      rw [hfills]
      exact hrowFills
    · unfold eventsOf
      rw [hevents]
      exact hrowEvents
  · rw [hrows, hfills]
    exact h.fillOwners
  · rw [hrows, hevents]
    exact h.eventOwners

lemma Stored.aside (h : Stored ledger aggregate) (haside : Aside ledger ledger') :
    Stored ledger' aggregate := by
  unfold Stored
  rw [haside.executionIntents]
  exact h

variable {row' : IntentRow} {fill : BrokerFillFact} {u : PUnit}

lemma Agrees.row_eq (h : Agrees ledger) {row : IntentRow} (hrow : row ∈ ledger.executionIntents)
    (hrow' : row' ∈ ledger.executionIntents) (hid : row.executionId = row'.executionId) :
    row = row' :=
  List.inj_on_of_nodup_map h.ids hrow hrow' hid

/-- The optimistic update moves the row of the stored aggregate and no other. -/
lemma Agrees.advanced_rows (h : Agrees ledger) (hstored : Stored ledger aggregate)
    (hrow' : row' ∈ (ledger.advanceIntent aggregate next occurredAt).executionIntents) :
    (∃ row ∈ ledger.executionIntents, row.aggregate = aggregate ∧
      row' = IntentRow.advance row next occurredAt) ∨
    (row' ∈ ledger.executionIntents ∧ row'.executionId ≠ aggregate.intent.executionId) := by
  obtain ⟨own, hown, rfl⟩ := hstored
  obtain ⟨row, hrow, rfl⟩ := List.mem_map.mp hrow'
  by_cases hid : row.executionId = own.aggregate.intent.executionId
  · have hsame : row = own := h.row_eq hrow hown (hid.trans (h.rows own hown).executionId.symm)
    subst hsame
    refine .inl ⟨row, hrow, rfl, ?_⟩
    rw [if_pos ⟨hid, (h.rows row hrow).version⟩]
  · rw [if_neg fun hc => hid hc.1]
    exact .inr ⟨hrow, hid⟩

/-- The new fills of one execution are found with it. -/
lemma filter_new_fills {new : List FillRow} {owner executionId : ExecutionId}
    (howner : ∀ fill ∈ new, fill.executionId = some owner) :
    new.filter (·.executionId = some executionId) = if executionId = owner then new else [] := by
  split_ifs with hid
  · refine List.filter_eq_self.mpr fun fill hfill => ?_
    rw [howner fill hfill, hid]
    simp
  · refine List.filter_eq_nil_iff.mpr fun fill hfill => ?_
    rw [howner fill hfill]
    simpa using fun hc => hid hc.symm

/-- An event that the aggregate took, with the fills it brought: when its row is advanced, its
fills are in the table and the event is appended, the tables agree again. -/
lemma Agrees.advance (h : Agrees ledger) (hstored : Stored ledger aggregate)
    (hadv : OrderAggregate.Advanced aggregate event next) (occurredAt : DateTime)
    (added : List AppliedFill) (new : List FillRow) (hnext : next.fills = aggregate.fills ++ added)
    (hnew : new.map FillRow.economics = added.map AppliedFill.economics)
    (howner : ∀ fill ∈ new, fill.executionId = some aggregate.intent.executionId)
    (hretains : Retains next)
    (hrows : ledger'.executionIntents =
      (ledger.advanceIntent aggregate next occurredAt).executionIntents)
    (hfills : ledger'.fills = ledger.fills ++ new)
    (hevents : ledger'.domainEvents =
      ledger.domainEvents ++ [⟨event, aggregate.intent.executionId, occurredAt⟩]) :
    Agrees ledger' ∧ Stored ledger' next := by
  obtain ⟨own, hown, hownAggregate⟩ := hstored
  have hownAgrees := h.rows own hown
  have hownId : own.executionId = aggregate.intent.executionId := by
    rw [hownAgrees.executionId, hownAggregate]
  have hids : ledger'.executionIntents.map (·.executionId) =
      ledger.executionIntents.map (·.executionId) := by
    rw [hrows, map_advanceIntent fun _ => rfl]
  have hfillsOf : ∀ executionId, ledger'.fillsOf executionId = ledger.fillsOf executionId ++
      if executionId = aggregate.intent.executionId then new else [] := by
    intro executionId
    unfold fillsOf
    rw [hfills, List.filter_append, filter_new_fills howner]
  have heventsOf : ∀ executionId, (ledger'.eventsOf executionId).map (·.event) =
      (ledger.eventsOf executionId).map (·.event) ++
        if executionId = aggregate.intent.executionId then [event] else [] := by
    intro executionId
    unfold eventsOf
    rw [hevents, List.filter_append, List.map_append]
    by_cases hid : executionId = aggregate.intent.executionId
    · simp [hid]
    · simp [hid, Ne.symm hid]
  have hkept : ∀ executionId, (∃ row ∈ ledger.executionIntents, row.executionId = executionId) →
      ∃ row ∈ ledger'.executionIntents, row.executionId = executionId := by
    intro executionId ⟨row, hrow, hid⟩
    have hmem : executionId ∈ ledger'.executionIntents.map (·.executionId) := by
      rw [hids, ← hid]
      exact List.mem_map_of_mem hrow
    exact List.mem_map.mp hmem
  refine ⟨⟨by rw [hids]; exact h.ids, ?_, ?_, ?_⟩, ?_⟩
  · intro row' hrow'
    rw [hrows] at hrow'
    rcases h.advanced_rows ⟨own, hown, hownAggregate⟩ hrow' with
      ⟨row, hrow, haggregate, rfl⟩ | ⟨hrow, hother⟩
    · have hagrees := h.rows row hrow
      have hid : row.executionId = aggregate.intent.executionId := by
        rw [hagrees.executionId, haggregate]
      refine ⟨?_, rfl, rfl, rfl, ?_, ?_, ?_, hretains⟩
      · change row.executionId = next.intent.executionId
        rw [hadv.intent, hid]
      · change (ledger'.fillsOf row.executionId).map _ = next.fills.map _
        rw [hfillsOf, if_pos hid, List.map_append, hagrees.fills, hnew, hnext, List.map_append,
          haggregate]
      · change (ledger'.eventsOf row.executionId).map _ = next.appliedEvents
        rw [heventsOf, if_pos hid, hagrees.events, hadv.appliedEvents, haggregate]
      · change next.appliedEvents.length = next.version
        rw [hadv.appliedEvents, hadv.version, List.length_append, ← haggregate, hagrees.counted]
        rfl
    · obtain ⟨hid, hstate, hversion, hfilled, hrowFills, hrowEvents, hcounted, hrowRetains⟩ :=
        h.rows row' hrow
      refine ⟨hid, hstate, hversion, hfilled, ?_, ?_, hcounted, hrowRetains⟩
      · rw [hfillsOf, if_neg hother, List.append_nil]
        exact hrowFills
      · rw [heventsOf, if_neg hother, List.append_nil]
        exact hrowEvents
  · intro fill hfill
    rw [hfills] at hfill
    rcases List.mem_append.mp hfill with hfill | hfill
    · obtain ⟨row, hrow, hid⟩ := h.fillOwners fill hfill
      obtain ⟨row', hrow', hid'⟩ := hkept row.executionId ⟨row, hrow, rfl⟩
      exact ⟨row', hrow', by rw [hid, hid']⟩
    · obtain ⟨row', hrow', hid'⟩ := hkept own.executionId ⟨own, hown, rfl⟩
      exact ⟨row', hrow', by rw [howner fill hfill, hid', hownId]⟩
  · intro record hrecord
    rw [hevents] at hrecord
    rcases List.mem_snoc.mp hrecord with hrecord | hrecord
    · obtain ⟨row, hrow, hid⟩ := h.eventOwners record hrecord
      obtain ⟨row', hrow', hid'⟩ := hkept row.executionId ⟨row, hrow, rfl⟩
      exact ⟨row', hrow', by rw [hid, hid']⟩
    · obtain ⟨row', hrow', hid'⟩ := hkept own.executionId ⟨own, hown, rfl⟩
      rw [hrecord]
      exact ⟨row', hrow', by rw [hid', hownId]⟩
  · refine ⟨IntentRow.advance own next occurredAt, ?_, rfl⟩
    rw [hrows]
    refine List.mem_map.mpr ⟨own, hown, ?_⟩
    rw [if_pos ⟨hownId, by rw [hownAgrees.version, hownAggregate]⟩]

/-- A transition by an event that is no fill. -/
lemma agrees_transition (h : Agrees ledger) (hstored : Stored ledger aggregate)
    (hplain : NotFill event)
    (htransition : transition aggregate event occurredAt ledger = .ok (next, ledger')) :
    Agrees ledger' ∧ Stored ledger' next := by
  rcases transition_eq_ok htransition with ⟨rfl, rfl, -⟩ | ⟨happly, hversion, -, -, rfl⟩
  · exact ⟨h, hstored⟩
  rcases OrderAggregate.apply_notFill hplain.kind happly with rfl | ⟨hadv, hfills⟩
  · exact absurd rfl hversion
  have hretains : Retains next := by
    obtain ⟨own, hown, rfl⟩ := hstored
    intro applied happlied brokerFillId hid
    rw [hadv.appliedEvents] at happlied
    rcases List.mem_snoc.mp happlied with happlied | happlied
    · rw [hfills]
      exact (h.rows own hown).retains applied happlied brokerFillId hid
    · rw [happlied] at hid
      exact absurd hid (hplain.id brokerFillId)
  exact h.advance hstored hadv occurredAt [] [] (by simp [hfills]) rfl (by simp) hretains rfl
    (by simp [advanceIntent]) rfl

/-- What `_record_fill` did: the fill is in the table already with its economics, or its row is
appended; no other table that the orders are read from changes. -/
lemma recordFill_cases {executionId : ExecutionId}
    (h : recordFill fill executionId ledger = .ok (u, ledger')) :
    ledger'.executionIntents = ledger.executionIntents ∧
      ledger'.domainEvents = ledger.domainEvents ∧
      ((ledger'.fills = ledger.fills ∧ ∃ row ∈ ledger.fills,
          row.brokerFillId = fill.brokerFillId ∧ row.executionId = some executionId) ∨
        (ledger'.fills = ledger.fills ++ [fillRow fill executionId] ∧
          ∀ row ∈ ledger.fills, row.brokerFillId ≠ fill.brokerFillId)) := by
  obtain ⟨evidence, ⟨⟨row, hrow, hid, heconomics⟩, rfl⟩ | ⟨hnew, rfl⟩⟩ := recordFill_writes h
  · exact ⟨rfl, rfl, .inl ⟨rfl, row, hrow, hid, heconomics.2.1⟩⟩
  · exact ⟨rfl, rfl, .inr ⟨rfl, hnew⟩⟩

/-- A fill has a row exactly when its aggregate retains it. -/
lemma Agrees.fill_row (h : Agrees ledger) (hstored : Stored ledger aggregate)
    (brokerFillId : String) :
    (∃ row ∈ ledger.fills, row.brokerFillId = brokerFillId ∧
        row.executionId = some aggregate.intent.executionId) ↔
      ∃ fill ∈ aggregate.fills, fill.brokerFillId = brokerFillId := by
  obtain ⟨own, hown, rfl⟩ := hstored
  have hagrees := h.rows own hown
  have hids : (ledger.fillsOf own.aggregate.intent.executionId).map (·.brokerFillId) =
      own.aggregate.fills.map (·.brokerFillId) := by
    have := congrArg (List.map Prod.fst) hagrees.fills
    rw [hagrees.executionId, List.map_map, List.map_map] at this
    exact this
  have hmem : brokerFillId ∈ (ledger.fillsOf own.aggregate.intent.executionId).map
    (·.brokerFillId) ↔
      brokerFillId ∈ own.aggregate.fills.map (·.brokerFillId) := by
    rw [hids]
  simpa [fillsOf, and_assoc, and_comm, and_left_comm] using hmem

/-- A fill that is recorded and then applied. -/
lemma agrees_fill (h : Agrees ledger) (hstored : Stored ledger aggregate) {ledger₁ : Ledger}
    (hrecord : recordFill fill aggregate.intent.executionId ledger = .ok (u, ledger₁))
    (htransition : transition aggregate (fillEvent fill) occurredAt ledger₁ = .ok (next, ledger')) :
    Agrees ledger' ∧ Stored ledger' next := by
  set applied : AppliedFill :=
    ⟨fill.brokerFillId, fill.brokerOrderId, fill.shares, fill.price, fill.shares_pos⟩
  obtain ⟨hrows, hevents, hfills⟩ := recordFill_cases hrecord
  have hkind : (fillEvent fill).kind = OrderAggregate.fillKind applied := rfl
  have hretained := h.fill_row hstored fill.brokerFillId
  have hretains : Retains aggregate := by
    obtain ⟨own, hown, rfl⟩ := hstored
    exact (h.rows own hown).retains
  rcases transition_eq_ok htransition with
    ⟨rfl, rfl, same, hsame, hversion⟩ | ⟨happly, hversion, -, -, rfl⟩
  · -- The aggregate knew the fill, so the table held it and nothing was inserted.
    rcases OrderAggregate.apply_fill hkind hsame with ⟨-, hknown⟩ | ⟨hadv, -⟩
    · have hfill : ∃ known ∈ next.fills, known.brokerFillId = fill.brokerFillId := by
        rcases hknown with hevent | hmem
        · exact hretains _ hevent fill.brokerFillId rfl
        · exact ⟨applied, hmem, rfl⟩
      obtain ⟨row, hrow, hid, -⟩ := hretained.mpr hfill
      rcases hfills with ⟨hfills, -⟩ | ⟨-, hnone⟩
      · exact ⟨h.aside ⟨hrows, hfills, hevents⟩, hstored.aside ⟨hrows, hfills, hevents⟩⟩
      · exact absurd hid (hnone row hrow)
    · rw [hadv.version] at hversion
      exact absurd hversion (Nat.succ_ne_self _)
  · -- The aggregate retained a new fill, so the table had no row for it and has one now.
    rcases OrderAggregate.apply_fill hkind happly with ⟨rfl, -⟩ | ⟨hadv, hnext, hnew⟩
    · exact absurd rfl hversion
    have hretainsNext : Retains next := by
      intro event hevent brokerFillId hid
      rw [hadv.appliedEvents] at hevent
      rw [hnext]
      rcases List.mem_snoc.mp hevent with hevent | hevent
      · obtain ⟨known, hmem, heq⟩ := hretains event hevent brokerFillId hid
        exact ⟨known, List.mem_append_left _ hmem, heq⟩
      · rw [hevent] at hid
        exact ⟨applied, by simp, EventId.fill.inj hid⟩
    rcases hfills with ⟨-, hrow⟩ | ⟨hfills, -⟩
    · obtain ⟨known, hmem, hid⟩ := hretained.mp hrow
      exact absurd hid (hnew known hmem)
    · refine h.advance hstored hadv occurredAt [applied]
        [fillRow fill aggregate.intent.executionId] hnext rfl ?_ hretainsNext ?_ hfills ?_
      · intro row hrow
        rw [List.mem_singleton.mp hrow]
        rfl
      · unfold advanceIntent
        rw [hrows]
      · change ledger₁.domainEvents ++ _ = _
        rw [hevents]

/-- The tables agree after a call when they did before it. -/
theorem agrees_evolves {allowed : OrderEvent → Prop} {s t : OrderAggregate × Ledger}
    (h : Evolves allowed s t) (hagrees : Agrees s.2) (hstored : Stored s.2 s.1) :
    Agrees t.2 ∧ Stored t.2 t.1 := by
  induction h with
  | refl => exact ⟨hagrees, hstored⟩
  | tail _ hstep ih =>
    cases hstep with
    | event _ hplain htransition => exact agrees_transition ih.1 ih.2 hplain htransition
    | fill _ hrecord htransition => exact agrees_fill ih.1 ih.2 hrecord htransition
    | aside haside => exact ⟨ih.1.aside haside, ih.2.aside haside⟩

/-- A new intent agrees with its row: it has neither fills nor events. -/
lemma agrees_appendIntent {intent : ExecutionIntent} (h : Agrees ledger)
    (happend : appendIntent intent occurredAt ledger = .ok (next, ledger')) :
    Agrees ledger' ∧ Stored ledger' next := by
  cases hfind : ledger.findEconomicOrder intent.decisionId intent.uquantOrderId with
  | some existing =>
    unfold appendIntent at happend
    simp only [hfind] at happend
    split_ifs at happend
    cases happend
    obtain ⟨row, hrow, rfl⟩ := Option.map_eq_some_iff.mp hfind
    exact ⟨h, row, List.mem_of_find?_eq_some hrow, rfl⟩
  | none =>
    obtain ⟨rfl, hids, rfl⟩ := appendIntent_new hfind happend
    have hfills : ledger.fillsOf intent.executionId = [] := by
      refine List.filter_eq_nil_iff.mpr fun fill hfill => ?_
      obtain ⟨row, hrow, hid⟩ := h.fillOwners fill hfill
      rw [hid]
      simpa using hids row hrow
    have hevents : ledger.eventsOf intent.executionId = [] := by
      refine List.filter_eq_nil_iff.mpr fun event hevent => ?_
      obtain ⟨row, hrow, hid⟩ := h.eventOwners event hevent
      rw [hid]
      simpa using hids row hrow
    refine ⟨⟨?_, ?_, ?_, ?_⟩, intentRow intent occurredAt, by simp, rfl⟩
    · exact List.nodup_map_snoc.mpr ⟨h.ids, hids⟩
    · intro row hrow
      rcases List.mem_snoc.mp hrow with hrow | hrow
      · obtain ⟨hid, hstate, hversion, hfilled, hrowFills, hrowEvents, hcounted, hretains⟩ :=
          h.rows row hrow
        exact ⟨hid, hstate, hversion, hfilled, hrowFills, hrowEvents, hcounted, hretains⟩
      · rw [hrow]
        refine ⟨rfl, rfl, rfl, rfl, ?_, ?_,
          rfl, by simp [Retains, intentRow, OrderAggregate.fromIntent]⟩
        · exact congrArg (List.map FillRow.economics) hfills
        · exact congrArg (List.map (·.event)) hevents
    · intro fill hfill
      obtain ⟨row, hrow, hid⟩ := h.fillOwners fill hfill
      exact ⟨row, List.mem_append_left _ hrow, hid⟩
    · intro event hevent
      obtain ⟨row, hrow, hid⟩ := h.eventOwners event hevent
      exact ⟨row, List.mem_append_left _ hrow, hid⟩

end Step

/-! ## The loaded order -/

section Load

variable {ledger ledger' : Ledger} {aggregate next : OrderAggregate}

variable {executionId : ExecutionId}

lemma stored_of_load (h : ledger.load executionId = some aggregate) :
    Stored ledger aggregate := by
  obtain ⟨row, hrow, rfl⟩ := Option.map_eq_some_iff.mp h
  exact ⟨row, List.mem_of_find?_eq_some hrow, rfl⟩

lemma Agrees.executionId_of_load (h : Agrees ledger)
    (hload : ledger.load executionId = some aggregate) :
    aggregate.intent.executionId = executionId := by
  obtain ⟨row, hrow, rfl⟩ := Option.map_eq_some_iff.mp hload
  have hid : row.executionId = executionId := by simpa using List.find?_some hrow
  rw [← (h.rows row (List.mem_of_find?_eq_some hrow)).executionId, hid]

lemma Agrees.load_of_stored (h : Agrees ledger) (hstored : Stored ledger aggregate) :
    ledger.load aggregate.intent.executionId = some aggregate := by
  obtain ⟨row, hrow, rfl⟩ := hstored
  have hid := (h.rows row hrow).executionId
  unfold load
  cases hfind : ledger.executionIntents.find?
    (·.executionId = row.aggregate.intent.executionId) with
  | none => exact absurd hid (by simpa using List.find?_eq_none.mp hfind row hrow)
  | some found =>
    have hfound : found.executionId = row.aggregate.intent.executionId := by
      simpa using List.find?_some hfind
    have hsame : found = row := List.inj_on_of_nodup_map h.ids
      (List.mem_of_find?_eq_some hfind) hrow (hfound.trans hid.symm)
    rw [hsame]
    rfl

/-- The orders of other executions are loaded as before. -/
lemma MovesRow.load_other {s t : OrderAggregate × Ledger} (h : MovesRow s t)
    (hne : executionId ≠ s.1.intent.executionId) :
    t.2.load executionId = s.2.load executionId := by
  have hload : ∀ ledger : Ledger, ledger.load executionId =
      ((ledger.otherRows s.1.intent.executionId).find? (·.executionId = executionId)).map
        (·.aggregate) := by
    intro ledger
    unfold load Ledger.otherRows
    rw [List.find?_filter]
    congr 2
    funext row
    by_cases hrow : row.executionId = executionId
    · simp [hrow, hne]
    · simp [hrow]
  rw [hload t.2, hload s.2, h.otherRows]

lemma load_of_evolves {allowed : OrderEvent → Prop}
    (h : Evolves allowed (aggregate, ledger) (next, ledger')) (hagrees : Agrees ledger)
    (hload : ledger.load executionId = some aggregate) :
    Agrees ledger' ∧ ledger'.load executionId = some next ∧
      ∀ other, other ≠ executionId → ledger'.load other = ledger.load other := by
  have hid := hagrees.executionId_of_load hload
  obtain ⟨hagrees', hstored⟩ := agrees_evolves h hagrees (stored_of_load hload)
  refine ⟨hagrees', ?_, fun other hother => h.movesRow.load_other (by rw [hid]; exact hother)⟩
  have hintent : next.intent = aggregate.intent := h.movesRow.intent
  rw [← hid, ← hintent]
  exact hagrees'.load_of_stored hstored

end Load

/-! ## Sequences of calls -/

/-- The calls of the repository on one order. -/
inductive OrderCall
  | validateAndArm (occurredAt : DateTime)
  | beginSubmit (command : BrokerOrderCommand) (startedAt : DateTime)
  | beginCancel (startedAt : DateTime)
  | markAttemptUnknown (attempt : BrokerAttempt) (diagnosticCode : String) (occurredAt : DateTime)
  | reconcileBrokerFact (fact : BrokerOrderFact) (fills : List BrokerFillFact)
      (receivedAt : DateTime)
  | recordSubmitResult (attempt : BrokerAttempt) (fact : BrokerOrderFact)
      (fills : List BrokerFillFact) (receivedAt : DateTime)
  | recordCancelResult (attempt : BrokerAttempt) (fact : BrokerOrderFact)
      (fills : List BrokerFillFact) (receivedAt : DateTime)
  | resolveSubmitNotAccepted (attempt : BrokerAttempt) (evidence : FailureEvidence)
      (occurredAt : DateTime)
  | resolveCancelNotAccepted (attempt : BrokerAttempt) (evidence : FailureEvidence)
      (occurredAt : DateTime)

/-- A call on the aggregate of its order. -/
def OrderCall.run (aggregate : OrderAggregate) : OrderCall → LedgerTxn OrderAggregate
  | validateAndArm occurredAt => Ledger.validateAndArm aggregate occurredAt
  | beginSubmit command startedAt => do
    let (next, _) ← Ledger.beginSubmit aggregate command startedAt
    pure next
  | beginCancel startedAt => do
    let (next, _) ← Ledger.beginCancel aggregate startedAt
    pure next
  | markAttemptUnknown attempt diagnosticCode occurredAt =>
    Ledger.markAttemptUnknown aggregate attempt diagnosticCode occurredAt
  | reconcileBrokerFact fact fills receivedAt =>
    Ledger.reconcileBrokerFact aggregate fact fills receivedAt
  | recordSubmitResult attempt fact fills receivedAt =>
    Ledger.recordSubmitResult aggregate attempt fact fills receivedAt
  | recordCancelResult attempt fact fills receivedAt =>
    Ledger.recordCancelResult aggregate attempt fact fills receivedAt
  | resolveSubmitNotAccepted attempt evidence occurredAt =>
    Ledger.resolveSubmitNotAccepted aggregate attempt evidence occurredAt
  | resolveCancelNotAccepted attempt evidence occurredAt =>
    Ledger.resolveCancelNotAccepted aggregate attempt evidence occurredAt

/-- The calls of the repository: a new intent, or a call on a stored order. -/
inductive RepositoryCall
  | appendIntent (intent : ExecutionIntent) (createdAt : DateTime)
  | onOrder (executionId : ExecutionId) (call : OrderCall)

/-- A call in its own transaction, on the aggregate that is loaded for it. -/
def RepositoryCall.run : RepositoryCall → LedgerTxn (Option OrderAggregate)
  | appendIntent intent createdAt => do
    let aggregate ← Ledger.appendIntent intent createdAt
    pure (some aggregate)
  | onOrder executionId call => do
    match (← get).load executionId with
    | none => pure none
    | some aggregate =>
      let next ← call.run aggregate
      pure (some next)

/-- The ledger after a call; a call that raises is rolled back. -/
def perform (ledger : Ledger) (call : RepositoryCall) : Ledger :=
  match call.run ledger with
  | .ok (_, ledger') => ledger'
  | .error _ => ledger

/-- The ledger after a sequence of calls. -/
def performAll (ledger : Ledger) (calls : List RepositoryCall) : Ledger :=
  calls.foldl perform ledger

section Calls

variable {ledger ledger' : Ledger} {aggregate next : OrderAggregate}

/-- The attempt that a call settles, if any. -/
def OrderCall.Settles : OrderCall → BrokerAttempt → Prop
  | markAttemptUnknown attempt _ _, other => other = attempt
  | recordSubmitResult attempt _ _ _, other => other = attempt
  | recordCancelResult attempt _ _ _, other => other = attempt
  | resolveSubmitNotAccepted attempt _ _, other => other = attempt
  | resolveCancelNotAccepted attempt _ _, other => other = attempt
  | _, _ => False

/-- Every call on an order moves it by the events of the repository. -/
theorem OrderCall.evolves {call : OrderCall}
    (h : call.run aggregate ledger = .ok (next, ledger')) :
    Evolves (CallEvent call.Settles) (aggregate, ledger) (next, ledger') := by
  cases call with
  | validateAndArm occurredAt => exact validateAndArm_evolves h
  | beginSubmit command startedAt =>
    obtain ⟨⟨moved, attempt⟩, ledger₁, hbegin, h⟩ := Txn.bind_eq_ok.mp h
    cases h
    exact beginSubmit_evolves hbegin
  | beginCancel startedAt =>
    obtain ⟨⟨moved, attempt⟩, ledger₁, hbegin, h⟩ := Txn.bind_eq_ok.mp h
    cases h
    exact beginCancel_evolves hbegin
  | markAttemptUnknown attempt code occurredAt => exact markAttemptUnknown_evolves rfl h
  | reconcileBrokerFact fact fills receivedAt =>
    exact (reconcileBrokerFact_evolves h).mono fun _ => .truth
  | recordSubmitResult attempt fact fills receivedAt
  | recordCancelResult attempt fact fills receivedAt => exact recordReturnedResult_evolves rfl h
  | resolveSubmitNotAccepted attempt evidence occurredAt =>
    exact resolveSubmitNotAccepted_evolves rfl h
  | resolveCancelNotAccepted attempt evidence occurredAt =>
    exact resolveCancelNotAccepted_evolves rfl h

/-- A call keeps what an appended intent and a call on a loaded order keep. -/
lemma perform_keeps {I : Ledger → Prop} {call : RepositoryCall} (h : I ledger)
    (happend : ∀ {intent time aggregate ledger'},
      appendIntent intent time ledger = .ok (aggregate, ledger') → I ledger')
    (honOrder : ∀ {executionId order aggregate next ledger'}, call = .onOrder executionId order →
      ledger.load executionId = some aggregate →
        order.run aggregate ledger = .ok (next, ledger') → I ledger') :
    I (ledger.perform call) := by
  unfold perform
  cases hrun : call.run ledger with
  | error failure => exact h
  | ok r =>
    obtain ⟨result, ledger'⟩ := r
    dsimp only
    cases call with
    | appendIntent intent createdAt =>
      obtain ⟨aggregate, ledger₁, hcall, hrun⟩ := Txn.bind_eq_ok.mp hrun
      cases hrun
      exact happend hcall
    | onOrder executionId call =>
      obtain ⟨held, ledger₁, hget, hrun⟩ := Txn.bind_eq_ok.mp hrun
      cases hget
      cases hload : ledger.load executionId with
      | none =>
        simp only [hload] at hrun
        cases hrun
        exact h
      | some aggregate =>
        simp only [hload] at hrun
        obtain ⟨next, ledger₁, hcall, hrun⟩ := Txn.bind_eq_ok.mp hrun
        cases hrun
        exact honOrder rfl hload hcall

/-- Every call keeps the tables in agreement. -/
theorem agrees_perform (call : RepositoryCall) (h : Agrees ledger) : Agrees (ledger.perform call) :=
  perform_keeps h (fun happend => (agrees_appendIntent h happend).1) fun _ hload hcall =>
    (agrees_evolves (OrderCall.evolves hcall) h (stored_of_load hload)).1

/-- By induction over the calls. -/
lemma agrees_performAll (calls : List RepositoryCall) (h : Agrees ledger) :
    Agrees (ledger.performAll calls) := by
  induction calls generalizing ledger with
  | nil => exact h
  | cons call rest ih => exact ih (agrees_perform call h)

/-- After every sequence of repository calls, for every execution: its fill rows are the fills
that its aggregate retains and sum to the filled shares of its row, the row is in the state and at
the version of its aggregate, and its events count its version.  An execution without a row has
neither fills nor events. -/
theorem tables_agree (calls : List RepositoryCall) (executionId : ExecutionId) :
    (∀ row ∈ (Ledger.empty.performAll calls).executionIntents, row.executionId = executionId →
      ((Ledger.empty.performAll calls).fillsOf executionId).map FillRow.economics =
          row.aggregate.fills.map AppliedFill.economics ∧
        (((Ledger.empty.performAll calls).fillsOf executionId).map (·.shares)).sum =
          row.filledShares ∧
        row.state = row.aggregate.state ∧ row.version = row.aggregate.version ∧
        ((Ledger.empty.performAll calls).eventsOf executionId).length = row.version) ∧
    ((∀ row ∈ (Ledger.empty.performAll calls).executionIntents, row.executionId ≠ executionId) →
      (Ledger.empty.performAll calls).fillsOf executionId = [] ∧
        (Ledger.empty.performAll calls).eventsOf executionId = []) := by
  have hagrees := agrees_performAll calls agrees_empty
  constructor
  · rintro row hrow rfl
    have hrowAgrees := hagrees.rows row hrow
    refine ⟨hrowAgrees.fills, ?_, hrowAgrees.state, hrowAgrees.version, ?_⟩
    · have hshares : ((Ledger.empty.performAll calls).fillsOf row.executionId).map (·.shares) =
          row.aggregate.fills.map (·.shares) := by
        have heconomics := congrArg (List.map fun e : String × String × ℕ × Price => e.2.2.1)
          hrowAgrees.fills
        rw [List.map_map, List.map_map] at heconomics
        exact heconomics
      rw [hshares, row.aggregate.wellFormed.filled_eq, hrowAgrees.filledShares]
    · have hlength := congrArg List.length hrowAgrees.events
      rw [List.length_map] at hlength
      rw [hlength, hrowAgrees.counted, hrowAgrees.version]
  · intro hnone
    constructor
    · refine List.filter_eq_nil_iff.mpr fun fill hfill => ?_
      obtain ⟨row, hrow, hid⟩ := hagrees.fillOwners fill hfill
      rw [hid]
      simpa using hnone row hrow
    · refine List.filter_eq_nil_iff.mpr fun event hevent => ?_
      obtain ⟨row, hrow, hid⟩ := hagrees.eventOwners event hevent
      rw [hid]
      simpa using hnone row hrow

end Calls

end Ledger

end FirmQuant
