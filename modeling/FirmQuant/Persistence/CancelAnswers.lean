import FirmQuant.Persistence.BrokerObservations

/-!
# When the ledger takes the answer to a cancel

On a ledger that calls have written, `begin_cancel` of an active order and `mark_attempt_unknown` of
the attempt that it wrote always commit.  `record_cancel_result` commits where the answer and its
fills contradict neither the order nor what the ledger recorded before, and where fills that
complete the order come with a status that a completed order can take.
-/

namespace FirmQuant

open Effect

namespace OrderAggregate

variable {a : OrderAggregate} {event : OrderEvent}

/-- The next cancel of an active order is accepted. -/
lemma apply_cancelRequested_active (hnumbered : Numbered a)
    (hactive : a.state ∈ OrderState.openStates) (hid : a.brokerOrderId.isSome) :
    ∃ a', a.apply ⟨.cancelRequested a.intent.executionId (a.cancelRequests + 1),
      .cancelRequested⟩ = .ok a' := by
  have hunseen : a.Unseen ⟨.cancelRequested a.intent.executionId (a.cancelRequests + 1),
      .cancelRequested⟩ := by
    intro e he heq
    have hle := hnumbered.cancels e he _ _ heq
    omega
  rw [apply_of_not_seen hunseen]
  have hsome : a.brokerOrderId.isNone = false := by
    rw [← Option.not_isSome, hid]
    rfl
  simp only [applyNew, hsome, Bool.false_eq_true, if_false]
  refine updated_plain hunseen .cancelRequest (.inr ?_) (.inr (by decide)) (.inl rfl)
  revert hactive
  cases a.state <;> decide

lemma apply_cancelOutcomeUnknown {id : EventId} {code : String}
    (hunseen : a.Unseen ⟨id, .cancelOutcomeUnknown code⟩) (hstate : a.state = .cancelRequested) :
    ∃ a', a.apply ⟨id, .cancelOutcomeUnknown code⟩ = .ok a' := by
  rw [apply_of_not_seen hunseen]
  simp only [applyNew, hstate]
  rw [if_pos (by decide)]
  exact updated_plain hunseen .nothing (.inr (by rw [hstate]; decide)) (.inr (by decide)) (.inl rfl)

end OrderAggregate

namespace Ledger

open OrderAggregate

section Transitions

variable {ledger ledger₁ ledger' : Ledger} {executionId : ExecutionId}
  {aggregate next : OrderAggregate} {event : OrderEvent} {time : DateTime} {attempt : BrokerAttempt}

/-- A cancel of an active order is always written ahead. -/
theorem Recorded.beginCancel_succeeds (h : Recorded ledger)
    (hload : ledger.load executionId = some aggregate)
    (hactive : aggregate.state ∈ OrderState.openStates) (hid : aggregate.brokerOrderId.isSome) :
    ∃ next attempt ledger', beginCancel aggregate time ledger = .ok ((next, attempt), ledger') := by
  obtain ⟨moved, happly⟩ := apply_cancelRequested_active
    (h.issued_of_load hload).numbered hactive hid
  have howns : ledger.Owns aggregate.intent.executionId
    ⟨.cancelRequested aggregate.intent.executionId (aggregate.cancelRequests + 1),
      .cancelRequested⟩ := rfl
  obtain ⟨ledger₁, htransition⟩ :=
    h.transition_succeeds (stored_of_load hload) howns happly time
  obtain ⟨brokerOrderId, hsome⟩ := Option.isSome_iff_exists.mp hid
  unfold beginCancel
  simp only [hsome]
  exact ⟨moved, _, _, Txn.bind_eq_ok.mpr ⟨_, _, htransition, Txn.bind_eq_ok.mpr ⟨_, _, rfl, rfl⟩⟩⟩

/-- The unknown outcome of a requested cancel is committed, where none was marked before. -/
lemma markAttemptUnknown_succeeds (hagrees : Agrees ledger) (howned : Owned ledger)
    (hstored : Stored ledger aggregate) (hstate : aggregate.state = .cancelRequested)
    (hheld : ledger.HasAttempt attempt.attemptId aggregate.intent.executionId)
    (hkind : attempt.commandKind = .cancel)
    (hunseen : ∀ e ∈ aggregate.appliedEvents, ∀ code, e.eventId ≠ .unknown attempt.attemptId code)
    (code : String) :
    ∃ next ledger', markAttemptUnknown aggregate attempt code time ledger =
      .ok (next, ledger') := by
  obtain ⟨moved, happly⟩ : ∃ moved, aggregate.apply
      ⟨.unknown attempt.attemptId code, .cancelOutcomeUnknown code⟩ = .ok moved :=
    apply_cancelOutcomeUnknown (fun e he => hunseen e he code) hstate
  have howns : ledger.Owns aggregate.intent.executionId
    ⟨.unknown attempt.attemptId code, .cancelOutcomeUnknown code⟩ := hheld
  obtain ⟨ledger₁, htransition⟩ : ∃ ledger₁, transition aggregate _ time ledger = .ok (moved, _) :=
    transition_succeeds (hagrees.holdsVersion hstored)
      (fun _ hrow hid => ⟨_, applied_of_owned hagrees hstored howned rfl howns hrow hid,
        hid⟩) happly
  unfold markAttemptUnknown
  simp only [hkind]
  exact ⟨moved, _, Txn.bind_eq_ok.mpr ⟨_, _, htransition, Txn.bind_eq_ok.mpr ⟨_, _, rfl, rfl⟩⟩⟩

end Transitions

/-! ## After the write-ahead record -/

/-- A cancel was written ahead, and its attempt has no outcome yet. -/
structure Begun (ledger : Ledger) (aggregate : OrderAggregate) (attempt : BrokerAttempt)
    (brokerOrderId : String) : Prop where
  recorded : Recorded ledger
  stored : Stored ledger aggregate
  state : aggregate.state = .cancelRequested
  broker : aggregate.brokerOrderId = some brokerOrderId
  held : ledger.HasAttempt attempt.attemptId aggregate.intent.executionId
  owner : attempt.executionId = aggregate.intent.executionId
  commandKind : attempt.commandKind = .cancel
  attemptKind : attempt.attemptId.commandKind = .cancel
  unseen : ∀ e ∈ aggregate.appliedEvents, ∀ code, e.eventId ≠ .unknown attempt.attemptId code
  command : ∃ row, ledger.commands.find? (·.attemptId = attempt.attemptId) = some row ∧
    row.commandKind = .cancel ∧ row.payload = .cancel brokerOrderId
  responses : ∀ row ∈ ledger.responses, row.attemptId ≠ attempt.attemptId

section Begun

variable {ledger ledger' : Ledger} {executionId : ExecutionId} {aggregate next : OrderAggregate}
  {time : DateTime} {attempt : BrokerAttempt} {brokerOrderId : String}

lemma transition_attempts {event : OrderEvent}
    (h : transition aggregate event time ledger = .ok (next, ledger')) :
    ledger'.attempts = ledger.attempts ∧ ledger'.commands = ledger.commands ∧
      ledger'.responses = ledger.responses ∧ ledger'.brokerOrders = ledger.brokerOrders := by
  rcases transition_eq_ok h with ⟨-, rfl, -⟩ | ⟨-, -, -, -, rfl⟩
  · exact ⟨rfl, rfl, rfl, rfl⟩
  · exact ⟨rfl, rfl, rfl, rfl⟩

/-- What `begin_cancel` leaves. -/
theorem Recorded.begun (h : Recorded ledger) (hload : ledger.load executionId = some aggregate)
    (hid : aggregate.brokerOrderId = some brokerOrderId)
    (hrun : beginCancel aggregate time ledger = .ok ((next, attempt), ledger')) :
    Begun ledger' next attempt brokerOrderId ∧ ledger'.load executionId = some next ∧
      (∀ other, other ≠ executionId → ledger'.load other = ledger.load other) ∧
      Grows ledger ledger' := by
  have hcall : (OrderCall.beginCancel time).run aggregate ledger = .ok (next, ledger') :=
    Txn.bind_eq_ok.mpr ⟨_, _, hrun, rfl⟩
  have hrecord : (OrderCall.beginCancel time).OnRecord ledger executionId := by
    intro other hsettles
    exact hsettles.elim
  obtain ⟨hrecorded, hnext, hothers, hgrows⟩ := h.onOrder hload hrecord hcall
  obtain ⟨broker, ledger₁, hbroker, htransition, howned₁, -, hinserted⟩ :=
    beginCancel_inserted h.owned hrun
  obtain rfl : broker = brokerOrderId := Option.some_inj.mp (hbroker.symm.trans hid)
  obtain ⟨hattempts, hcommands, hresponses, hbrokerOrders⟩ := transition_attempts htransition
  have hintent := transition_intent htransition
  have hexecution : next.intent.executionId = aggregate.intent.executionId :=
    congrArg ExecutionIntent.executionId hintent
  refine ⟨⟨hrecorded, stored_of_load hnext, (beginCancel_counted (h.issued_of_load hload) hrun).1,
    ?_, ?_, ?_, hinserted.commandKind, hinserted.attemptKind, ?_, ?_, ?_⟩, hnext, hothers,
    hgrows⟩
  · rcases transition_eq_ok htransition with ⟨rfl, -⟩ | ⟨happly, -⟩
    · exact hid
    · rcases apply_cases happly with rfl | hadv
      · exact hid
      · exact (hadv.brokerOrderId (by rw [hid]; rfl)).trans hid
  · rw [hexecution]
    exact hinserted.held
  · rw [hexecution]
    exact hinserted.owner
  · -- An older event about the attempt would make the attempt older than its insertion.
    intro e he code heq
    have hold : e ∈ aggregate.appliedEvents := by
      rcases transition_eq_ok htransition with ⟨rfl, -⟩ | ⟨happly, -⟩
      · exact he
      rcases apply_cases happly with rfl | hadv
      · exact he
      rw [hadv.appliedEvents, List.mem_append, List.mem_singleton] at he
      rcases he with hold | rfl
      · exact hold
      · cases heq
    obtain ⟨row, hrow, rfl, -⟩ := h.agrees.mem_domainEvents (stored_of_load hload) hold
    have howns := h.owned.events row hrow
    unfold Owns at howns
    rw [heq] at howns
    obtain ⟨old, hmem, hold', -⟩ := howns
    exact hinserted.fresh old (by rw [hattempts]; exact hmem) hold'
  · obtain ⟨row, hcommand, hrowId, hrowKind, hpayload⟩ := hinserted.command
    refine ⟨row, ?_, hrowKind, hpayload⟩
    rw [hcommand, List.find?_append]
    have hnone : ledger₁.commands.find? (·.attemptId = attempt.attemptId) = none := by
      refine List.find?_eq_none.mpr fun old hold => ?_
      obtain ⟨own, hown, hsame⟩ := howned₁.commands old hold
      simpa [hsame] using hinserted.fresh own hown
    rw [hnone]
    simp [hrowId]
  · intro row hrow heq
    rw [hinserted.responses] at hrow
    obtain ⟨own, hown, hsame⟩ := howned₁.responses row hrow
    exact hinserted.fresh own hown (hsame.trans heq)

end Begun

/-! ## The economics of an answer -/

/-- A requested cancel whose answer is being applied. -/
structure Settling (ledger : Ledger) (aggregate : OrderAggregate) (attempt : BrokerAttempt)
    (brokerOrderId : String) : Prop where
  agrees : Agrees ledger
  owned : Owned ledger
  stored : Stored ledger aggregate
  state : aggregate.state = .cancelRequested ∨ aggregate.state = .filled
  broker : aggregate.brokerOrderId = some brokerOrderId
  held : ledger.HasAttempt attempt.attemptId aggregate.intent.executionId
  order : ledger.HasBrokerOrder brokerOrderId aggregate.intent.executionId
  commandKind : attempt.commandKind = .cancel
  unseen : ∀ e ∈ aggregate.appliedEvents, ∀ code, e.eventId ≠ .unknown attempt.attemptId code

section Settling

variable {ledger ledger₁ ledger' : Ledger} {aggregate next : OrderAggregate} {time : DateTime}
  {attempt : BrokerAttempt} {brokerOrderId : String} {fact : BrokerOrderFact} {event : OrderEvent}
  {fill : BrokerFillFact} {fills : List BrokerFillFact}

lemma Settling.of_apply (h : Settling ledger aggregate attempt brokerOrderId)
    (hagrees : Agrees ledger') (howned : Owned ledger') (hgrows : Grows ledger ledger')
    (hstored : Stored ledger' next) (hecon : BrokerEconomics event)
    (happly : next = aggregate ∨ aggregate.apply event = .ok next) :
    Settling ledger' next attempt brokerOrderId := by
  rcases happly with rfl | happly
  · exact ⟨hagrees, howned, hstored, h.state, h.broker, hgrows.attempts h.held,
      hgrows.hasBrokerOrder h.order, h.commandKind, h.unseen⟩
  rcases apply_cases happly with rfl | hadv
  · exact ⟨hagrees, howned, hstored, h.state, h.broker, hgrows.attempts h.held,
      hgrows.hasBrokerOrder h.order, h.commandKind, h.unseen⟩
  have hexecution : next.intent.executionId = aggregate.intent.executionId :=
    congrArg ExecutionIntent.executionId hadv.intent
  refine ⟨hagrees, howned, hstored, hecon.cancelling happly h.state,
    (hadv.brokerOrderId (by rw [h.broker]; rfl)).trans h.broker, ?_, ?_, h.commandKind, ?_⟩
  · rw [hexecution]
    exact hgrows.attempts h.held
  · rw [hexecution]
    exact hgrows.hasBrokerOrder h.order
  · intro e he code
    rw [hadv.appliedEvents, List.mem_append, List.mem_singleton] at he
    rcases he with hold | rfl
    · exact h.unseen e hold code
    · cases hecon with
      | ack => simp
      | fill => simp [fillEvent]

lemma Settling.sent (h : Settling ledger aggregate attempt brokerOrderId) :
    Sent ledger aggregate brokerOrderId := by
  refine ⟨h.agrees, h.owned, h.stored, ?_, .inr h.broker, h.order⟩
  rcases h.state with hstate | hstate <;> rw [hstate] <;> decide

lemma Settling.acknowledge_keeps (h : Settling ledger aggregate attempt fact.brokerOrderId)
    (hrun : acknowledge aggregate fact time ledger = .ok (next, ledger')) :
    Settling ledger' next attempt fact.brokerOrderId := by
  unfold acknowledge at hrun
  split_ifs at hrun
  · have howns : ledger.Owns aggregate.intent.executionId (ackEvent fact) := ⟨h.order, rfl⟩
    obtain ⟨hagrees, hstored⟩ := agrees_transition h.agrees h.stored (notFill_ackEvent fact) hrun
    obtain ⟨howned, hgrows⟩ := owned_transition h.owned howns hrun
    exact h.of_apply hagrees howned hgrows hstored (.ack _ _) (.inr (transition_apply hrun))
  · cases hrun
    exact h

lemma Settling.applyFills_keeps (h : Settling ledger aggregate attempt brokerOrderId)
    (hrun : applyFills aggregate fills ledger = .ok (next, ledger')) :
    Settling ledger' next attempt brokerOrderId := by
  induction fills generalizing ledger aggregate with
  | nil =>
    cases hrun
    exact h
  | cons fill rest ih =>
    obtain ⟨u, ledger₁, hrecord, hrun⟩ := Txn.bind_eq_ok.mp hrun
    obtain ⟨moved, ledger₂, htransition, hrun⟩ := Txn.bind_eq_ok.mp hrun
    obtain ⟨howned₁, hgrows₁, hfill⟩ := owned_recordFill h.owned hrecord
    have howns : ledger₁.Owns aggregate.intent.executionId (fillEvent fill) := hfill
    obtain ⟨hagrees₂, hstored₂⟩ := agrees_fill h.agrees h.stored hrecord htransition
    obtain ⟨howned₂, hgrows₂⟩ := owned_transition howned₁ howns htransition
    exact ih (h.of_apply hagrees₂ howned₂ (hgrows₁.trans hgrows₂) hstored₂ (.fill fill)
      (.inr (transition_apply htransition))) hrun

end Settling

/-! ## The answer as a whole -/

/-- The answer to a cancel, with its fills, contradicts neither the order nor what the ledger has
recorded; its fills prove no more than it reports; and if they complete the order, its status is one
that a completed order can take. -/
structure ConsistentAnswer (ledger : Ledger) (aggregate : OrderAggregate) (fact : BrokerOrderFact)
    (fills : List BrokerFillFact) : Prop where
  identity : factViolation aggregate fact = none
  order : ∀ row ∈ ledger.brokerOrders, row.brokerOrderId = fact.brokerOrderId →
    orderRegression row fact aggregate.intent.executionId = none
  fills : ∃ ordered, orderedFills aggregate.intent.executionId fact fills = .ok ordered ∧
    FillsFit ledger aggregate.intent.executionId ordered ∧
    provenCumulativeShares aggregate ordered ≤ fact.filledShares ∧
    (provenCumulativeShares aggregate ordered = aggregate.intent.requestedShares →
      fact.status ∈ [BrokerOrderStatus.filled, .cancelled, .rejected])

section Answer

variable {ledger ledger₁ ledger' : Ledger} {aggregate next : OrderAggregate} {time : DateTime}
  {attempt : BrokerAttempt} {brokerOrderId : String} {fact : BrokerOrderFact}
  {fills : List BrokerFillFact}

/-- The answer is about the durable command. -/
lemma Begun.attemptViolation_none (h : Begun ledger aggregate attempt brokerOrderId)
    (hfact : fact.brokerOrderId = brokerOrderId) :
    attemptViolation ledger aggregate attempt fact .cancel = none := by
  obtain ⟨row, hfind, hkind, hpayload⟩ := h.command
  unfold attemptViolation
  have hbelongs : ¬ (attempt.executionId ≠ aggregate.intent.executionId ∨
      attempt.commandKind ≠ .cancel) := by
    rintro (hne | hne)
    · exact hne h.owner
    · exact hne h.commandKind
  rw [if_neg hbelongs, hfind]
  have hrowKind : ¬ row.commandKind ≠ attempt.commandKind := by
    rw [hkind, h.commandKind]
    exact fun hne => hne rfl
  simp only [if_neg hrowKind, hpayload, hfact, if_true]

/-- The first response of an attempt is recorded. -/
lemma completeAttempt_succeeds {kind : CommandKind}
    (hresponses : ∀ row ∈ ledger.responses, row.attemptId ≠ attempt.attemptId) :
    ∃ ledger₁, completeAttemptIdempotently attempt fact kind time ledger = .ok (⟨⟩, ledger₁) ∧
      ledger₁.fills = ledger.fills ∧ ledger₁.fillEvidence = ledger.fillEvidence := by
  unfold completeAttemptIdempotently
  have hnone : ledger.responses.filter (·.attemptId = attempt.attemptId) = [] :=
    List.filter_eq_nil_iff.mpr fun row hrow => by simpa using hresponses row hrow
  rw [hnone]
  exact ⟨_, rfl, rfl, rfl⟩

/-- The attempt is marked while the order is not complete. -/
lemma Settling.markAttemptUnknown_succeeds
    (h : Settling ledger aggregate attempt brokerOrderId) (hstate : aggregate.state ≠ .filled)
    (code : String) :
    ∃ next ledger', markAttemptUnknown aggregate attempt code time ledger = .ok (next, ledger') :=
  Ledger.markAttemptUnknown_succeeds h.agrees h.owned h.stored (h.state.resolve_right hstate) h.held
    h.commandKind h.unseen code

/-- The status of the answer is applied, once its economics are. -/
lemma Settling.applyReturnedStatus_succeeds {proven : ℕ}
    (h : Settling ledger aggregate attempt fact.brokerOrderId)
    (hshares : aggregate.filledShares = proven) (hproven : proven ≤ fact.filledShares)
    (hrequested : fact.requestedShares = aggregate.intent.requestedShares)
    (hclosed : proven = aggregate.intent.requestedShares →
      fact.status ∈ [BrokerOrderStatus.filled, .cancelled, .rejected]) :
    ∃ next ledger', applyReturnedStatus aggregate attempt fact .cancel proven time ledger =
      .ok (next, ledger') := by
  -- A complete order comes with a status that completes it or leaves it complete.
  have hcomplete : aggregate.state = .filled → proven = aggregate.intent.requestedShares :=
    fun hstate => hshares.symm.trans (aggregate.wellFormed.filled_full hstate)
  have hbound := fact.filled_le_requested
  unfold applyReturnedStatus
  split_ifs with hmissing hunknown hopen
  · exact h.markAttemptUnknown_succeeds (fun hstate => by have := hcomplete hstate; omega) _
  · refine h.markAttemptUnknown_succeeds (fun hstate => ?_) _
    have hstatus := hclosed (hcomplete hstate)
    rw [hunknown] at hstatus
    exact absurd hstatus (by decide)
  · refine h.markAttemptUnknown_succeeds (fun hstate => hopen.2 ?_) _
    have hstatus := hclosed (hcomplete hstate)
    revert hstatus
    cases fact.status <;> decide
  · have htakes : Takes aggregate.state fact.status := by
      constructor
      · intro hexpired
        rcases h.state with hstate | hstate
        · rw [hstate]
          decide
        · have hstatus := hclosed (hcomplete hstate)
          rw [hexpired] at hstatus
          exact absurd hstatus (by decide)
      · intro _
        rcases h.state with hstate | hstate <;> rw [hstate] <;> decide
    obtain ⟨next, ledger', hstatus, hfills⟩ :=
      h.sent.applyQueriedStatus_succeeds htakes time
    unfold applyQueriedStatus at hstatus
    rw [if_neg hunknown] at hstatus
    have hequal : next.filledShares = fact.filledShares := by
      rw [← next.wellFormed.filled_eq, hfills, aggregate.wellFormed.filled_eq]
      omega
    refine ⟨next, ledger', Txn.bind_eq_ok.mpr ⟨_, _, hstatus,
      Txn.bind_eq_ok.mpr ⟨⟨⟩, ledger', ?_, rfl⟩⟩⟩
    rw [if_neg (not_not.mpr hequal)]
    rfl

/-- The attempt of a cancel that was written ahead can be marked. -/
theorem Begun.markAttemptUnknown_succeeds (h : Begun ledger aggregate attempt brokerOrderId)
    (code : String) :
    ∃ next ledger', markAttemptUnknown aggregate attempt code time ledger = .ok (next, ledger') :=
  Ledger.markAttemptUnknown_succeeds h.recorded.agrees h.recorded.owned h.stored h.state h.held
    h.commandKind h.unseen code

/-- A consistent answer to a cancel that was written ahead is taken. -/
theorem Begun.recordCancelResult_succeeds (h : Begun ledger aggregate attempt brokerOrderId)
    (hrow : ∃ row ∈ ledger.brokerOrders, row.brokerOrderId = brokerOrderId)
    (hanswer : ConsistentAnswer ledger aggregate fact fills) :
    ∃ next ledger', recordCancelResult aggregate attempt fact fills time ledger =
      .ok (next, ledger') := by
  obtain ⟨hidentity, horder, ordered, hordered, hfit, hproven, hclosed⟩ := hanswer
  obtain ⟨hbroker, hrequested⟩ := fact_of_factViolation hidentity
  obtain rfl : fact.brokerOrderId = brokerOrderId := by
    rw [h.broker] at hbroker
    simpa [eq_comm] using hbroker
  obtain ⟨ledger₁, hrecord, hfills₁, hevidence₁, hresponses₁⟩ :=
    recordBrokerOrder_succeeds hrow horder
  obtain ⟨howned₁, hgrows₁, hbroker₁⟩ := owned_recordBrokerOrder h.recorded.owned hrecord
  obtain ⟨ledger₂, hcomplete, hfills₂, hevidence₂⟩ : ∃ ledger₂,
      completeAttemptIdempotently attempt fact .cancel time ledger₁ = .ok (⟨⟩, ledger₂) ∧ _ :=
    completeAttempt_succeeds (by rw [hresponses₁]; exact h.responses)
  obtain ⟨⟨howned₂, hgrows₂⟩, -⟩ := yields_completeAttempt (hgrows₁.attempts h.held) _ _ _
    ⟨howned₁, Grows.refl _⟩ hcomplete
  have haside := (recordBrokerOrder_aside hrecord).trans
    (completeAttemptIdempotently_aside hcomplete)
  have hstart : Settling ledger₂ aggregate attempt fact.brokerOrderId :=
    ⟨h.recorded.agrees.aside haside, howned₂, h.stored.aside haside, .inl h.state, h.broker,
      hgrows₂.attempts (hgrows₁.attempts h.held), hgrows₂.hasBrokerOrder hbroker₁, h.commandKind,
      h.unseen⟩
  have hready : FillsReady ledger₂ aggregate.intent.executionId fact ordered :=
    (orderedFills_ready hordered hfit).of_tables (hfills₂.trans hfills₁)
      (hevidence₂.trans hevidence₁)
  obtain ⟨acknowledged, ledger₃, hack, hsent₃, hacknowledged, hfills₃, hevidence₃⟩ :=
    hstart.sent.acknowledge_succeeds time
  have hready₃ : FillsReady ledger₃ acknowledged.intent.executionId fact ordered := by
    rw [hacknowledged.intent]
    exact hready.of_tables hfills₃ hevidence₃
  have hbound := fact.filled_le_requested
  obtain ⟨current, ledger₄, happlied, -, hshares, -⟩ := hsent₃.applyFills_succeeds hready₃
    (by rw [hacknowledged.proven, hacknowledged.intent]; omega)
  have hcurrent := (hstart.acknowledge_keeps hack).applyFills_keeps happlied
  have hintent : current.intent = aggregate.intent :=
    (applyFills_course (.refl _) happlied).1.intent.trans hacknowledged.intent
  obtain ⟨next, ledger', hstatus⟩ : ∃ next ledger', applyReturnedStatus current attempt fact .cancel
      (provenCumulativeShares aggregate ordered) time ledger₄ = .ok (next, ledger') := by
    refine hcurrent.applyReturnedStatus_succeeds (hshares.trans hacknowledged.proven) hproven ?_ ?_
    · rw [hintent]
      exact hrequested
    · rw [hintent]
      exact hclosed
  have hattempt := h.attemptViolation_none rfl
  refine ⟨next, ledger', Txn.bind_eq_ok.mpr ⟨⟨⟩, ledger, by rw [hidentity]; rfl, ?_⟩⟩
  refine Txn.bind_eq_ok.mpr ⟨ledger, ledger, rfl, ?_⟩
  refine Txn.bind_eq_ok.mpr ⟨⟨⟩, ledger, by rw [hattempt]; rfl, ?_⟩
  refine Txn.bind_eq_ok.mpr ⟨ordered, ledger, Txn.lift_eq_ok.mpr ⟨hordered, rfl⟩, ?_⟩
  refine Txn.bind_eq_ok.mpr ⟨⟨⟩, ledger, by rw [if_neg (not_lt.mpr hproven)]; rfl, ?_⟩
  refine Txn.bind_eq_ok.mpr ⟨⟨⟩, ledger₁, hrecord, ?_⟩
  refine Txn.bind_eq_ok.mpr ⟨⟨⟩, ledger₂, hcomplete, ?_⟩
  exact Txn.bind_eq_ok.mpr ⟨current, ledger₄, Txn.bind_eq_ok.mpr ⟨_, _, hack, happlied⟩, hstatus⟩

end Answer

/-! ## No outcome of a cancel reopens the order -/

section Closed

variable {ledger ledger' : Ledger} {aggregate next : OrderAggregate} {time : DateTime}
  {attempt : BrokerAttempt} {fact : BrokerOrderFact} {fills : List BrokerFillFact}

lemma markAttemptUnknown_notOpen {code : String} (hkind : attempt.commandKind = .cancel)
    (hstate : aggregate.state = .cancelRequested ∨ aggregate.state = .filled)
    (h : markAttemptUnknown aggregate attempt code time ledger = .ok (next, ledger')) :
    next.state ∉ OrderState.openStates := by
  have hbefore : aggregate.state ∉ OrderState.openStates := by
    rcases hstate with hs | hs <;> rw [hs] <;> decide
  obtain ⟨event, ledger₁, hunknown, htransition, -⟩ := markAttemptUnknown_eq_ok h
  rcases transition_eq_ok htransition with ⟨rfl, -⟩ | ⟨happly, -⟩
  · exact hbefore
  rcases apply_seen_or_new happly with ⟨rfl, -⟩ | ⟨-, hnew⟩
  · exact hbefore
  cases hunknown with
  | submit code hsubmit =>
    rw [hkind] at hsubmit
    cases hsubmit
  | cancel code _ =>
    simp only [applyNew] at hnew
    split_ifs at hnew with hopen hunknown
    · rw [updated_state hnew]
      decide
    · rw [updated_state hnew]
      exact hbefore

lemma BrokerStatus.notOpen {event : OrderEvent} (hstatus : BrokerStatus event)
    (h : aggregate.apply event = .ok next) (hbefore : aggregate.state ∉ OrderState.openStates) :
    next.state ∉ OrderState.openStates := by
  rcases apply_seen_or_new h with ⟨rfl, -⟩ | ⟨-, hnew⟩
  · exact hbefore
  rcases applyNew_status hstatus hnew with hterminal | ⟨-, hunknown⟩
  · revert hterminal
    cases next.state <;> decide
  · rw [hunknown]
    decide

/-- A recorded answer leaves the order closed, unknown, or with its cancel requested. -/
theorem recordCancelResult_notOpen
    (h : recordCancelResult aggregate attempt fact fills time ledger = .ok (next, ledger'))
    (hstate : aggregate.state = .cancelRequested) : next.state ∉ OrderState.openStates := by
  obtain ⟨-, hkind, ordered, ledger₀, current, ledger₁, -, heconomics, hrest⟩ :=
    recordReturnedResult_cases h
  have hcurrent : current.state = .cancelRequested ∨ current.state = .filled :=
    (applyBrokerEconomics_evolves heconomics).keeps_aggregate
      (P := fun a => a.state = .cancelRequested ∨ a.state = .filled)
      (fun hecon happly hs => hecon.cancelling happly hs) (.inl hstate)
  rcases hrest with ⟨code, hmark⟩ | ⟨hterminal, -, -⟩
  · exact markAttemptUnknown_notOpen hkind hcurrent hmark
  · refine (applyTerminalFact_evolves hterminal).keeps_aggregate
      (P := fun a => a.state ∉ OrderState.openStates)
      (fun hstatus happly hs => hstatus.notOpen happly hs) ?_
    rcases hcurrent with hs | hs <;> rw [hs] <;> decide

lemma Evolves.brokerOrderId {allowed : OrderEvent → Prop} {s t : OrderAggregate × Ledger}
    {brokerOrderId : String} (h : Evolves allowed s t)
    (hs : s.1.brokerOrderId = some brokerOrderId) : t.1.brokerOrderId = some brokerOrderId := by
  refine h.keeps_aggregate (P := fun a => a.brokerOrderId = some brokerOrderId)
    (fun _ happly ha => ?_) hs
  rcases apply_cases happly with rfl | hadv
  · exact ha
  · exact (hadv.brokerOrderId (by rw [ha]; rfl)).trans ha

end Closed

end Ledger

end FirmQuant
